import Wiring.Digraph.Basic

/-!
# Finding a cycle

The search starts from every vertex that no earlier start has seen. From a start it lists arcs in
depth-first order, each arc once, where all visits to a vertex draw on the same supply of arcs
(`walk`). It follows this list with a trail, the path from the start to where the walk stands: when
the next arc does not begin where the last one ended, the trail is shortened until it ends there
(`Trail.rewind`). An arc whose head is on the trail closes a cycle, which is the trail from that
head on.

This is `find_cycle` of the graph library, with `edge_dfs` for the order of the arcs.
-/

namespace Wiring.Digraph

/-- The arcs that a depth-first walk follows, in the order in which it follows them. The stack holds
the vertices that the walk has entered and not left, the latest first; the arcs are those not yet
followed. This is the order of `edge_dfs`. -/
def walk (stack : List Nat) (arcs : List (Nat × Nat)) : List (Nat × Nat) :=
  match stack with
  | [] => []
  | v :: below =>
    match _h : arcs.find? (·.1 == v) with
    | none => walk below arcs
    | some a => a :: walk (a.2 :: v :: below) (arcs.erase a)
termination_by 2 * arcs.length + stack.length
decreasing_by
  · simp
  · have hmem := List.mem_of_find?_eq_some _h
    have hlen := List.length_erase_of_mem hmem
    have hpos := List.length_pos_of_mem hmem
    simp only [List.length_cons]
    omega

/-- Where a search stands while it follows the arcs of one walk. -/
structure Trail where
  /-- The arcs from the start to the current vertex, the latest first. -/
  path : List (Nat × Nat) := []
  /-- The vertices on the path. -/
  active : List Nat
  /-- The vertices met since the start. -/
  seen : List Nat
  /-- The head of the last arc that was followed. -/
  last : Option Nat := none
deriving Repr

namespace Trail

/-- The trail at the start of a walk. -/
def start (v : Nat) : Trail := { active := [v], seen := [v] }

/-- Drops the latest arc of a path, and further arcs until the path ends at `u`. A path on which `u`
is no head is dropped whole, and then `u` alone is active. -/
def rewind (u : Nat) : List (Nat × Nat) → List Nat → List (Nat × Nat) × List Nat
  | [], _ => ([], [u])
  | a :: path, active =>
    if path.head?.any (·.2 == u) then (path, active.erase a.2)
    else rewind u path (active.erase a.2)

/-- The trail at which an arc with tail `u` can be added. -/
def comeBackTo (t : Trail) (u : Nat) : Trail :=
  match t.last with
  | none => t
  | some h =>
    if h = u then t
    else
      let (path, active) := rewind u t.path t.active
      { t with path, active }

/-- The vertices of the cycle that an arc into `v` closes: the tails of the path's arcs from the
first that leaves `v`. -/
def cycleAt (path : List (Nat × Nat)) (v : Nat) : List Nat :=
  (path.reverse.dropWhile (·.1 != v)).map (·.1)

/-- Follows a walk. The answer is the first cycle that an arc closes, or else the trail at the end.
Arcs into a vertex that an earlier start has explored are passed over. -/
def follow (explored : List Nat) : Trail → List (Nat × Nat) → List Nat ⊕ Trail
  | t, [] => .inr t
  | t, a :: arcs =>
    if a.2 ∈ explored then follow explored t arcs
    else
      let t := t.comeBackTo a.1
      let path := a :: t.path
      if a.2 ∈ t.active then .inl (cycleAt path a.2)
      else
        follow explored
          { path, active := a.2 :: t.active, seen := a.2 :: t.seen, last := some a.2 } arcs

end Trail

/-- The first cycle that a search from the given starts closes, if any. -/
def searchFrom (g : Digraph) : (starts explored : List Nat) → List Nat
  | [], _ => []
  | v :: starts, explored =>
    if v ∈ explored then searchFrom g starts explored
    else
      match Trail.follow explored (.start v) (walk [v] g.arcs) with
      | .inl cycle => cycle
      | .inr t => searchFrom g starts (t.seen ++ explored)

/-- The vertices of one cycle, each followed by the next and the last by the first, or the empty
list if the graph has no cycle. This is `find_cycle`. -/
def findCycle (g : Digraph) : List Nat := searchFrom g g.vertices []

end Wiring.Digraph
