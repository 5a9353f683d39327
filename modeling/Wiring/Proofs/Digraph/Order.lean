import Mathlib.Data.List.Nodup
import Mathlib.Data.List.Perm.Basic
import Wiring.Proofs.Digraph.Frontier
import Wiring.Proofs.Digraph.Reach

/-!
# The topological order exists exactly on acyclic graphs

`exists_order?` says that an acyclic graph has an order and `isOrder_of_order?` that an order that
is answered lists each vertex once, after the tails of all arcs into it. Both are read off
`sortVertices`, which says without queue or counts what is listed (`order?_eq_sortVertices`): at
every position the smallest vertex, among those not listed yet, into which no arc leads from a vertex
not listed yet. It takes out one vertex at a time together with the arcs that leave it, so the tails
of the remaining arcs are always remaining vertices. When no vertex can be taken every remaining
vertex is the head of such an arc, and then some vertex reaches itself (`exists_reaches_self`).
-/

namespace Wiring.Digraph

variable {g : Digraph} {u v : Nat}

/-- The list holds each vertex once, and each after the tails of all arcs into it. -/
structure IsOrder (g : Digraph) (order : List Nat) : Prop where
  /-- The vertices are listed, each as often as it is a vertex. -/
  perm : order.Perm g.vertices
  /-- What stands before a vertex includes the tails of the arcs into it. -/
  before : ∀ pre v post, order = pre ++ v :: post → ∀ u, g.HasArc u v → u ∈ pre

/-- The graph that is left when a vertex is taken out with the arcs that leave it. -/
def without (g : Digraph) (v : Nat) : Digraph where
  vertices := g.vertices.erase v
  arcs := g.arcs.filter (·.1 != v)

/-- The arcs that are left are those that do not leave the vertex taken out. -/
theorem without_hasArc_iff {w : Nat} : (g.without w).HasArc u v ↔ g.HasArc u v ∧ u ≠ w := by
  unfold without HasArc
  rw [List.mem_filter, bne_iff_ne]

/-- Where the tails of all arcs are vertices they still are when a vertex is taken out. -/
theorem mem_without_of_hasArc {w : Nat} (htails : ∀ u v, g.HasArc u v → u ∈ g.vertices)
    (h : (g.without w).HasArc u v) : u ∈ (g.without w).vertices := by
  obtain ⟨harc, hne⟩ := without_hasArc_iff.mp h
  exact (List.mem_erase_of_ne hne).mpr (htails u v harc)

/-- An order of what is left comes after the vertex that was taken out, when no arc led into that
vertex. -/
theorem IsOrder.cons {order : List Nat} (hv : v ∈ g.vertices) (hfree : ∀ u, ¬ g.HasArc u v)
    (h : (g.without v).IsOrder order) : g.IsOrder (v :: order) where
  perm := (h.perm.cons v).trans (List.perm_cons_erase hv).symm
  before pre w post hsplit u harc := by
    cases pre with
    | nil =>
      obtain ⟨rfl, -⟩ := List.cons.inj hsplit
      exact absurd harc (hfree u)
    | cons a pre =>
      obtain ⟨rfl, hrest⟩ := List.cons.inj hsplit
      by_cases hu : u = v
      · rw [hu]
        exact List.mem_cons_self ..
      · exact List.mem_cons_of_mem _
          (h.before pre w post hrest u (without_hasArc_iff.mpr ⟨harc, hu⟩))

/-- A vertex into which no arc leads. -/
def IsFree (g : Digraph) (v : Nat) : Bool := g.arcs.all (·.2 != v)

/-- No arc leads into a free vertex. -/
theorem not_hasArc_of_isFree (h : g.IsFree v = true) (u : Nat) : ¬ g.HasArc u v := by
  intro harc
  have hne := List.all_eq_true.mp h (u, v) harc
  simp at hne

/-- A vertex that is not free is the head of an arc. -/
theorem exists_hasArc_of_not_isFree (h : ¬ g.IsFree v = true) : ∃ u, g.HasArc u v := by
  unfold IsFree at h
  rw [List.all_eq_true] at h
  push Not at h
  obtain ⟨a, ha, hhead⟩ := h
  obtain rfl : a.2 = v := by simpa using hhead
  exact ⟨a.1, ha⟩

/-- Sorting takes out the first free vertex. -/
theorem sortVertices_eq (hv : g.vertices.find? g.IsFree = some v) :
    sortVertices g.vertices g.arcs =
      (v :: ·) <$> sortVertices (g.without v).vertices (g.without v).arcs :=
  sortVertices_of_find?_some hv

/-- In an acyclic graph some vertex is free. -/
theorem exists_isFree (htails : ∀ u v, g.HasArc u v → u ∈ g.vertices) (hacyclic : g.Acyclic)
    (hne : g.vertices ≠ []) : ∃ v, g.vertices.find? g.IsFree = some v := by
  by_contra hnone
  push Not at hnone
  rw [← Option.eq_none_iff_forall_ne_some, List.find?_eq_none] at hnone
  -- If none were, every vertex would have an arc from a vertex.
  obtain ⟨v, hself⟩ : ∃ v, g.Reaches v v := by
    apply exists_reaches_self hne
    intro v hv
    obtain ⟨u, harc⟩ := exists_hasArc_of_not_isFree (hnone v hv)
    exact ⟨u, htails u v harc, harc⟩
  exact hacyclic v hself

/-- Sorting the vertices of an acyclic graph succeeds. -/
theorem exists_sortVertices (htails : ∀ u v, g.HasArc u v → u ∈ g.vertices)
    (hacyclic : g.Acyclic) : ∃ order, sortVertices g.vertices g.arcs = some order := by
  -- The graph without its first free vertex is smaller, acyclic, and closed under tails.
  induction hlen : g.vertices.length generalizing g with
  | zero =>
    rw [List.length_eq_zero_iff] at hlen
    exact ⟨[], by rw [sortVertices, if_pos hlen]⟩
  | succ n ih =>
    have hne : g.vertices ≠ [] := List.ne_nil_of_length_eq_add_one hlen
    obtain ⟨v, hv⟩ := exists_isFree htails hacyclic hne
    have hshort : (g.without v).vertices.length = n := by
      have herase := List.length_erase_of_mem (List.mem_of_find?_eq_some hv)
      rw [without, herase, hlen, Nat.add_sub_cancel]
    obtain ⟨order, horder⟩ := ih (fun _ _ harc => mem_without_of_hasArc htails harc)
      (fun w hself => hacyclic w (hself.of_hasArc fun _ _ harc => (without_hasArc_iff.mp harc).1))
      hshort
    exact ⟨v :: order, by rw [sortVertices_eq hv, horder]; rfl⟩

/-- What sorting answers is an order. -/
theorem isOrder_of_sortVertices {order : List Nat}
    (h : sortVertices g.vertices g.arcs = some order) : g.IsOrder order := by
  induction hlen : g.vertices.length generalizing g order with
  | zero =>
    rw [List.length_eq_zero_iff] at hlen
    rw [sortVertices, if_pos hlen, Option.some.injEq] at h
    subst h
    exact ⟨by rw [hlen], fun pre v post hsplit => by simp at hsplit⟩
  | succ n ih =>
    have hne : g.vertices ≠ [] := List.ne_nil_of_length_eq_add_one hlen
    cases hfind : g.vertices.find? g.IsFree with
    | none =>
      -- Vertices are left and none is free, so the sort would have failed.
      rw [sortVertices_of_find? hne hfind] at h
      cases h
    | some v =>
      have hv : v ∈ g.vertices := List.mem_of_find?_eq_some hfind
      have hshort : (g.without v).vertices.length = n := by
        rw [without, List.length_erase_of_mem hv, hlen, Nat.add_sub_cancel]
      rw [sortVertices_eq hfind] at h
      obtain ⟨rest, hrest, rfl⟩ := Option.map_eq_some_iff.mp h
      exact (ih hrest hshort).cons hv (not_hasArc_of_isFree (List.find?_some hfind))

/-! ## The order of a graph -/

/-- A queue is sorted by insertion. -/
theorem Frontier.queue_eq_insertionSort (vs : List Nat) :
    Frontier.queue vs = vs.insertionSort (· ≤ ·) := by
  have henqueue : Frontier.enqueue = List.orderedInsert (· ≤ ·) := by
    funext v queue
    induction queue with
    | nil => rfl
    | cons u queue ih => rw [Frontier.enqueue, List.orderedInsert, ih]
  rw [Frontier.queue, henqueue, List.insertionSort]

/-- The graph with its vertices in ascending order. -/
def sorted (g : Digraph) : Digraph where
  vertices := Frontier.queue g.vertices
  arcs := g.arcs

/-- Its vertices are the same. -/
theorem sorted_perm (g : Digraph) : g.sorted.vertices.Perm g.vertices := by
  rw [sorted, Frontier.queue_eq_insertionSort]
  exact List.perm_insertionSort _ _

/-- Vertices that are listed once ascend strictly when they are sorted. -/
theorem pairwise_sorted (hnodup : g.vertices.Nodup) : g.sorted.vertices.Pairwise (· < ·) := by
  have hle : g.sorted.vertices.Pairwise (· ≤ ·) := by
    rw [sorted, Frontier.queue_eq_insertionSort]
    exact List.pairwise_insertionSort (· ≤ ·) g.vertices
  exact hle.imp₂ (fun _ _ hle hne => Nat.lt_of_le_of_ne hle hne) (g.sorted_perm.nodup_iff.mpr hnodup)

/-- Sorting finds the order of a well-formed graph. -/
theorem order?_eq_sortVertices (hg : g.WellFormed) :
    g.order? = sortVertices g.sorted.vertices g.arcs :=
  Frontier.drain_eq_sortVertices (pairwise_sorted hg.nodup)
    (fun a ha => g.sorted_perm.mem_iff.mpr (hg.head a.1 a.2 ha)) fun _ _ => rfl

/-- An acyclic graph has an order. -/
theorem exists_order? (hg : g.WellFormed) (hacyclic : g.Acyclic) :
    ∃ order, g.order? = some order := by
  have htails : ∀ u v, g.sorted.HasArc u v → u ∈ g.sorted.vertices := by
    intro u v harc
    exact g.sorted_perm.mem_iff.mpr (hg.tail u v harc)
  have hacyclic' : g.sorted.Acyclic := fun v hself =>
    hacyclic v (Reaches.of_hasArc (g := g.sorted) (fun _ _ harc => harc) hself)
  rw [order?_eq_sortVertices hg]
  exact exists_sortVertices htails hacyclic'

/-- What is answered as the order of a graph is one. -/
theorem isOrder_of_order? {order : List Nat} (hg : g.WellFormed) (h : g.order? = some order) :
    g.IsOrder order := by
  rw [order?_eq_sortVertices hg] at h
  have horder := isOrder_of_sortVertices (g := g.sorted) h
  exact ⟨horder.perm.trans g.sorted_perm, horder.before⟩

end Wiring.Digraph
