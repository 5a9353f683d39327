import Mathlib.Data.Fintype.Card
import Mathlib.Data.Set.Finite.Basic
import Mathlib.Logic.Relation
import Mathlib.Order.WellFounded
import Wiring.Digraph.Basic

/-!
# Paths and closures of a directed graph

`Digraph.Reaches` is the transitive closure of the arcs (`reaches_iff_transGen`), and
`Digraph.leadingTo` keeps the vertices from which a path, possibly empty, leads to the given one
(`leadingTo_hasArc_iff`). Collecting these vertices goes along the arcs backwards: each round adds
the tails of the arcs that lead into what was found and drops these arcs, so a path from a vertex
stays among the remaining arcs up to the first vertex that was found (`mem_collectTails_iff`).

`exists_reaches_self` is the one fact about finite graphs that orders and cycles share: where every
vertex of a finite nonempty set has an arc from a vertex of the set, some vertex reaches itself.
-/

namespace Wiring.Digraph

open Relation

variable {g : Digraph} {u v w : Nat}

/-- A path is a nonempty chain of arcs. -/
theorem reaches_iff_transGen : g.Reaches u v ↔ TransGen g.HasArc u v := by
  constructor
  · intro h
    induction h with
    | arc h => exact TransGen.single h
    | step h _ ih => exact TransGen.head h ih
  · intro h
    induction h using TransGen.head_induction_on with
    | single h => exact Reaches.arc h
    | head h _ ih => exact Reaches.step h ih

/-- Paths join. -/
theorem Reaches.trans (h : g.Reaches u v) (h' : g.Reaches v w) : g.Reaches u w := by
  rw [reaches_iff_transGen] at h h' ⊢
  exact h.trans h'

/-- A path of one graph is a path of any graph that has all its arcs. -/
theorem Reaches.of_hasArc {g' : Digraph} (harcs : ∀ u v, g.HasArc u v → g'.HasArc u v)
    (h : g.Reaches u v) : g'.Reaches u v := by
  induction h with
  | arc h => exact Reaches.arc (harcs _ _ h)
  | step h _ ih => exact Reaches.step (harcs _ _ h) ih

/-- A set that arcs do not leave is left by no path. -/
theorem Reaches.mem_of_closed {s : Set Nat} (hs : ∀ u ∈ s, ∀ v, g.HasArc u v → v ∈ s)
    (h : g.Reaches u v) (hu : u ∈ s) : v ∈ s := by
  induction h with
  | arc h => exact hs _ hu _ h
  | step h _ ih => exact ih (hs _ hu _ h)

/-! ## The closure of a vertex -/

/-- What is collected for `found` are the vertices from which a path of the given arcs, possibly
empty, leads into `found`. -/
theorem mem_collectTails_iff (arcs : List (Nat × Nat)) (found : List Nat) (v : Nat) :
    v ∈ collectTails arcs found ↔
      ∃ w ∈ found, ReflTransGen (fun a b => (a, b) ∈ arcs) v w := by
  induction arcs, found using collectTails.induct with
  | case1 arcs found hany hrest =>
    simp only [List.unattach_filter, List.unattach_attach, List.map_subtype] at hrest
    rw [collectTails, if_pos hany, hrest]
    clear hrest
    constructor
    · rintro ⟨w, hw, hpath⟩
      have hpath' : ReflTransGen (fun a b => (a, b) ∈ arcs) v w :=
        ReflTransGen.mono (fun a b h => (List.mem_filter.mp h).1) _ _ hpath
      rcases List.mem_append.mp hw with hw | hw
      · exact ⟨w, hw, hpath'⟩
      · obtain ⟨a, ha, rfl⟩ := List.mem_map.mp hw
        obtain ⟨ha, hinto⟩ := List.mem_filter.mp ha
        exact ⟨a.2, of_decide_eq_true hinto, hpath'.tail ha⟩
    · rintro ⟨w, hw, hpath⟩
      -- The path ends at the first vertex on it that is found or the tail of an arc into `found`.
      induction hpath using ReflTransGen.head_induction_on with
      | refl => exact ⟨w, List.mem_append_left _ hw, ReflTransGen.refl⟩
      | @head a b hab _ ih =>
        by_cases hb : b ∈ found
        · have hinto : (a, b) ∈ arcs.filter (leadsInto found) :=
            List.mem_filter.mpr ⟨hab, decide_eq_true hb⟩
          exact ⟨a, List.mem_append_right _ (List.mem_map.mpr ⟨(a, b), hinto, rfl⟩),
            ReflTransGen.refl⟩
        · obtain ⟨x, hx, hbx⟩ := ih
          have haway : (a, b) ∈ arcs.filter (leadsAway found) :=
            List.mem_filter.mpr ⟨hab, by simp [leadsAway, leadsInto, hb]⟩
          exact ⟨x, hx, ReflTransGen.head haway hbx⟩
  | case2 arcs found hany =>
    rw [collectTails, if_neg hany]
    constructor
    · intro hv
      exact ⟨v, hv, ReflTransGen.refl⟩
    · rintro ⟨w, hw, hpath⟩
      induction hpath using ReflTransGen.head_induction_on with
      | refl => exact hw
      | @head a b hab _ ih =>
        exact absurd (List.any_eq_true.mpr ⟨(a, b), hab, decide_eq_true ih⟩) hany

/-- The vertices of the closure of `r` are those from which a path, possibly empty, leads to
`r`. -/
theorem mem_leadingTo_vertices_iff {r : Nat} :
    v ∈ (g.leadingTo r).vertices ↔ v ∈ g.vertices ∧ ReflTransGen g.HasArc v r := by
  have hcollect := mem_collectTails_iff g.arcs [r] v
  simp only [List.mem_singleton, exists_eq_left] at hcollect
  rw [leadingTo, restrict, List.mem_filter, decide_eq_true_iff, hcollect]
  rfl

/-- The arcs of the closure of `r` are the arcs whose heads lie in it; their tails then do too. -/
theorem leadingTo_hasArc_iff {r : Nat} :
    (g.leadingTo r).HasArc u v ↔ g.HasArc u v ∧ ReflTransGen g.HasArc v r := by
  have hcollect : ∀ x, x ∈ collectTails g.arcs [r] ↔ ReflTransGen g.HasArc x r := by
    intro x
    rw [mem_collectTails_iff]
    simp only [List.mem_singleton, exists_eq_left]
    rfl
  unfold leadingTo restrict HasArc
  rw [List.mem_filter, Bool.and_eq_true, decide_eq_true_iff, decide_eq_true_iff, hcollect, hcollect]
  constructor
  · rintro ⟨harc, -, hv⟩
    exact ⟨harc, hv⟩
  · rintro ⟨harc, hv⟩
    exact ⟨harc, ReflTransGen.head harc hv, hv⟩

/-! ## Finite sets of vertices -/

/-- Where every vertex of a nonempty list has an arc from a vertex of the list, some vertex reaches
itself: going from head to tail cannot go on without repetition. -/
theorem exists_reaches_self {vs : List Nat} (hne : vs ≠ [])
    (hback : ∀ v ∈ vs, ∃ u ∈ vs, g.HasArc u v) : ∃ v, g.Reaches v v := by
  by_contra hacyclic
  push Not at hacyclic
  let above (a b : {v // v ∈ vs}) : Prop := g.Reaches a.1 b.1
  have htrans : IsTrans _ above := ⟨fun _ _ _ h h' => Reaches.trans h h'⟩
  have hirrefl : Std.Irrefl above := ⟨fun a => hacyclic a.1⟩
  have hfinite : Finite {v // v ∈ vs} := List.finite_toSet vs
  have hwf : WellFounded above := Finite.wellFounded_of_trans_of_irrefl above
  obtain ⟨v, hv⟩ := List.exists_mem_of_ne_nil vs hne
  obtain ⟨m, -, hmin⟩ := hwf.has_min Set.univ ⟨⟨v, hv⟩, trivial⟩
  obtain ⟨u, hu, harc⟩ := hback m.1 m.2
  exact hmin ⟨u, hu⟩ trivial (Reaches.arc harc)

end Wiring.Digraph
