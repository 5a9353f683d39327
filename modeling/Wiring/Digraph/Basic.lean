/-!
# Directed graphs on numbered vertices

A graph lists its vertices and its arcs. Arcs stand in the order in which a search is to try them;
nothing else about the order of the two lists matters.
-/

namespace Wiring

/-- A directed graph. -/
structure Digraph where
  /-- The vertices, in the order in which a search starts from them. -/
  vertices : List Nat
  /-- The arcs, from tail to head; those of one tail in the order in which a search tries them. -/
  arcs : List (Nat × Nat)
deriving DecidableEq, Repr

namespace Digraph

/-- There is an arc from `u` to `v`. -/
def HasArc (g : Digraph) (u v : Nat) : Prop := (u, v) ∈ g.arcs

instance (g : Digraph) (u v : Nat) : Decidable (g.HasArc u v) :=
  inferInstanceAs (Decidable ((u, v) ∈ g.arcs))

/-- A path of at least one arc leads from `u` to `v`. -/
inductive Reaches (g : Digraph) : Nat → Nat → Prop where
  /-- An arc is a path. -/
  | arc {u v : Nat} : g.HasArc u v → Reaches g u v
  /-- An arc followed by a path is a path. -/
  | step {u v w : Nat} : g.HasArc u v → Reaches g v w → Reaches g u w

/-- No vertex reaches itself. -/
def Acyclic (g : Digraph) : Prop := ∀ v, ¬ g.Reaches v v

/-- The part of a graph on the vertices of a list. -/
def restrict (g : Digraph) (vs : List Nat) : Digraph where
  vertices := g.vertices.filter (· ∈ vs)
  arcs := g.arcs.filter fun a => a.1 ∈ vs && a.2 ∈ vs

/-- The arc leads into a vertex of `found`. -/
def leadsInto (found : List Nat) (a : Nat × Nat) : Bool := a.2 ∈ found

/-- The arc leads elsewhere. -/
def leadsAway (found : List Nat) (a : Nat × Nat) : Bool := !leadsInto found a

/-- Adds to `found` the tails of arcs that lead into it, and repeats this with the arcs that did
not, until none does. -/
def collectTails (arcs : List (Nat × Nat)) (found : List Nat) : List Nat :=
  if arcs.any (leadsInto found) then
    collectTails (arcs.filter (leadsAway found))
      (found ++ (arcs.filter (leadsInto found)).map (·.1))
  else found
termination_by arcs.length
decreasing_by
  rename_i h
  obtain ⟨a, ha, hf⟩ := List.any_eq_true.1 h
  have hlt : (arcs.filter (leadsAway found)).length < arcs.length :=
    List.length_filter_lt_length_iff_exists.2 ⟨a, ha, by simp [leadsAway, hf]⟩
  simpa using hlt

/-- The vertex `v` together with every vertex from which a path leads to it: `ancestors`. -/
def leadingTo (g : Digraph) (v : Nat) : Digraph := g.restrict (collectTails g.arcs [v])

end Digraph

end Wiring
