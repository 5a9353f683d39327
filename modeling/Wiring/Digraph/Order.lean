import Wiring.Digraph.Basic

/-!
# Topological order with the smallest vertex first

The sort keeps the vertices that can come next in a queue, from which the smallest is taken, and
counts for every other vertex the arcs into it from vertices that are not listed yet. When a vertex
is listed, the counts of the heads of its arcs go down, and a vertex whose count comes to zero joins
the queue. This is `lexicographical_topological_sort`, with the numbers of the nodes as their keys.
-/

namespace Wiring.Digraph

/-- How many arcs lead into a vertex. -/
def inDegree (arcs : List (Nat × Nat)) (v : Nat) : Nat := (arcs.filter (·.2 == v)).length

/-- The heads of the arcs that leave a vertex. -/
def heads (arcs : List (Nat × Nat)) (v : Nat) : List Nat :=
  (arcs.filter (·.1 == v)).map (·.2)

/-- Where a sort stands. -/
structure Frontier where
  /-- The vertices that can come next, the smallest first. -/
  ready : List Nat
  /-- The others, each with the number of arcs into it from vertices not listed yet. -/
  waiting : List (Nat × Nat)
deriving DecidableEq, Repr

namespace Frontier

/-- Puts a vertex into the queue. -/
def enqueue (v : Nat) : List Nat → List Nat
  | [] => [v]
  | u :: queue => if v ≤ u then v :: u :: queue else u :: enqueue v queue

/-- Vertices as a queue. -/
def queue (vertices : List Nat) : List Nat := vertices.foldr enqueue []

/-- Where the sort of an ascending list of vertices stands if the numbers of arcs are given. -/
def start (vertices : List Nat) (degree : Nat → Nat) : Frontier where
  ready := vertices.filter fun v => degree v == 0
  waiting := (vertices.filter fun v => degree v != 0).map fun v => (v, degree v)

/-- One arc less leads into `v`. It is an error if `v` does not wait. -/
def relax? (f : Frontier) (v : Nat) : Option Frontier :=
  match f.waiting.lookup v with
  | none => none
  | some degree =>
    if degree == 1 then
      some { ready := enqueue v f.ready, waiting := f.waiting.filter (·.1 != v) }
    else
      some { f with
        waiting := f.waiting.map fun e => if e.1 == v then (v, degree - 1) else e }

/-- How many vertices are not listed yet. -/
def size (f : Frontier) : Nat := f.ready.length + f.waiting.length

/-- The queue gets longer by one. -/
theorem length_enqueue (v : Nat) (queue : List Nat) :
    (enqueue v queue).length = queue.length + 1 := by
  induction queue with
  | nil => rfl
  | cons u queue ih =>
    unfold enqueue
    split
    · rfl
    · rw [List.length_cons, ih, List.length_cons]

/-- A vertex that has been found waits no longer when it is taken out. -/
theorem length_filter_lt {v degree : Nat} {waiting : List (Nat × Nat)}
    (h : waiting.lookup v = some degree) :
    (waiting.filter (·.1 != v)).length < waiting.length := by
  refine List.length_filter_lt_length_iff_exists.2 ?_
  induction waiting with
  | nil => cases h
  | cons e waiting ih =>
    obtain ⟨u, d⟩ := e
    rw [List.lookup_cons] at h
    cases huv : v == u with
    | true => exact ⟨_, List.mem_cons_self, by simp [eq_of_beq huv]⟩
    | false =>
      rw [huv] at h
      obtain ⟨e, he, hne⟩ := ih h
      exact ⟨e, List.mem_cons_of_mem _ he, hne⟩

/-- No vertex is added when a number goes down. -/
theorem size_relax? {f f' : Frontier} {v : Nat} (h : f.relax? v = some f') : f'.size ≤ f.size := by
  unfold relax? at h
  split at h
  · cases h
  · rename_i degree hfound
    have hlt := length_filter_lt hfound
    split at h
    · obtain rfl := Option.some.inj h
      simp only [size, length_enqueue]
      omega
    · obtain rfl := Option.some.inj h
      simp [size]

/-- So too when several do. -/
theorem size_foldlM_relax? {vs : List Nat} {f f' : Frontier}
    (h : vs.foldlM relax? f = some f') : f'.size ≤ f.size := by
  induction vs generalizing f with
  | nil =>
    obtain rfl := Option.some.inj h
    exact Nat.le_refl _
  | cons v vs ih =>
    rw [List.foldlM_cons] at h
    obtain ⟨g, hg, hrest⟩ := Option.bind_eq_some_iff.1 h
    exact Nat.le_trans (ih hrest) (size_relax? hg)

/-- Lists vertices as long as there are some in the queue. It is an error if others are left. -/
def drain (arcs : List (Nat × Nat)) (f : Frontier) : Option (List Nat) :=
  match _hready : f.ready with
  | [] => if f.waiting.isEmpty then some [] else none
  | v :: ready =>
    match _hrelaxed : (heads arcs v).foldlM relax? { f with ready } with
    | none => none
    | some f' => (v :: ·) <$> drain arcs f'
termination_by f.size
decreasing_by
  have hle := size_foldlM_relax? _hrelaxed
  simp only [size, _hready, List.length_cons] at hle ⊢
  omega

end Frontier

/-- The vertices of a graph, each after every vertex from which an arc leads to it, and the smallest
possible vertex at each position; none if the graph has a cycle. This is
`lexicographical_topological_sort`. -/
def order? (g : Digraph) : Option (List Nat) :=
  Frontier.drain g.arcs (.start (Frontier.queue g.vertices) (inDegree g.arcs))

end Wiring.Digraph
