import Mathlib.Data.List.Forall2
import Wiring.Proofs.Digraph.Order

/-!
# The smallest vertex first

`LeastFirst` says of a list that every member comes after those with an arc to it, and that at each
position stands the smallest of the members that may stand there. The order of a graph is such a
list (`leastFirst_of_order?`).

The smallest member that may come next is determined by what came before. So two such lists run in
step when their members correspond, arcs to arcs and smaller keys to smaller keys
(`LeastFirst.forall₂`). Members that no arc leads out of can be left out of such a list, since the
others do not wait for them (`LeastFirst.filter`). And no list of the same members in which each
comes after those with an arc to it has smaller keys (`LeastFirst.eq_or_lt`).
-/

namespace Wiring

variable {α α' β β' : Type} [LinearOrder β] [LinearOrder β']

/-- Each member comes after those with an arc to it, and of all members that could stand in its
place because what they wait for came before, it has the smallest key. -/
structure LeastFirst (arc : α → α → Prop) (key : α → β) (order : List α) : Prop where
  /-- No member is listed twice. -/
  nodup : order.Nodup
  /-- What has an arc to a member stands before it. -/
  before : ∀ pre v post, order = pre ++ v :: post → ∀ u, arc u v → u ∈ pre
  /-- A later member that could stand in the place of a member has a larger key. -/
  least : ∀ pre v post, order = pre ++ v :: post → ∀ w ∈ post, (∀ u, arc u w → u ∈ pre) →
    key v < key w

/-- The members of two lists correspond, arcs to arcs and smaller keys to smaller keys. -/
structure Matching (arc : α → α → Prop) (key : α → β) (order : List α) (arc' : α' → α' → Prop)
    (key' : α' → β') (order' : List α') (C : α → α' → Prop) : Prop where
  /-- Each member of the one corresponds to one of the other. -/
  left : ∀ a ∈ order, ∃ a' ∈ order', C a a'
  /-- Each member of the other corresponds to one of the one. -/
  right : ∀ a' ∈ order', ∃ a ∈ order, C a a'
  /-- To one only on either side. -/
  biUnique : Relator.BiUnique C
  /-- Arcs correspond to arcs. -/
  arc_iff : ∀ a b a' b', C a a' → C b b' → (arc a b ↔ arc' a' b')
  /-- Keys compare alike. -/
  key_iff : ∀ a ∈ order, ∀ b ∈ order, ∀ a' b', C a a' → C b b' → (key a < key b ↔ key' a' < key' b')

variable {arc : α → α → Prop} {key : α → β} {order pre rest : List α} {arc' : α' → α' → Prop}
  {key' : α' → β'} {order' pre' rest' : List α'} {C : α → α' → Prop} {a b : α} {a' b' : α'}

/-- Corresponding prefixes hold corresponding members. -/
theorem mem_iff_of_forall₂ (hunique : Relator.BiUnique C) (hpre : List.Forall₂ C pre pre')
    (hC : C a a') : a ∈ pre ↔ a' ∈ pre' := by
  induction hpre with
  | nil => exact iff_of_false List.not_mem_nil List.not_mem_nil
  | @cons b b' pre pre' hb _ ih =>
    have heq : a = b ↔ a' = b' := by
      constructor
      · rintro rfl
        exact hunique.2 hC hb
      · rintro rfl
        exact hunique.1 hC hb
    rw [List.mem_cons, List.mem_cons, ih, heq]

namespace Matching

/-- A correspondence can be read from the other side. -/
theorem symm (h : Matching arc key order arc' key' order' C) :
    Matching arc' key' order' arc key order (flip C) where
  left := h.right
  right := h.left
  biUnique := ⟨fun _ _ _ ha hb => h.biUnique.2 ha hb, fun _ _ _ ha hb => h.biUnique.1 ha hb⟩
  arc_iff a' b' a b ha hb := (h.arc_iff a b a' b' ha hb).symm
  key_iff a' ha' b' hb' a b ha hb := by
    obtain ⟨x, hx, hxa⟩ := h.right a' ha'
    obtain ⟨y, hy, hyb⟩ := h.right b' hb'
    obtain rfl := h.biUnique.1 ha hxa
    obtain rfl := h.biUnique.1 hb hyb
    exact (h.key_iff _ hx _ hy a' b' ha hb).symm

/-- What waits only for the one prefix corresponds to what waits only for the other. -/
theorem free (h : Matching arc key order arc' key' order' C) (hlist' : LeastFirst arc' key' order')
    (hpre : List.Forall₂ C pre pre') (hC : C a a') (ha' : a' ∈ order')
    (hfree : ∀ u, arc u a → u ∈ pre) : ∀ u', arc' u' a' → u' ∈ pre' := by
  intro u' harc
  -- What has an arc to a listed member is listed and so has a counterpart.
  obtain ⟨front, back, rfl⟩ := List.append_of_mem ha'
  have hu' : u' ∈ front ++ a' :: back :=
    List.mem_append_left _ (hlist'.before front a' back rfl u' harc)
  obtain ⟨u, -, hu⟩ := h.right u' hu'
  exact (mem_iff_of_forall₂ h.biUnique hpre hu).mp (hfree u ((h.arc_iff u a u' a' hu hC).mpr harc))

/-- A member behind a prefix has its counterpart behind the corresponding prefix. -/
theorem exists_mem_rest (h : Matching arc key (pre ++ rest) arc' key' (pre' ++ rest') C)
    (hnodup : (pre ++ rest).Nodup) (hpre : List.Forall₂ C pre pre') (ha : a ∈ rest) :
    ∃ a' ∈ rest', C a a' := by
  obtain ⟨a', ha', hC⟩ := h.left a (List.mem_append_right _ ha)
  refine ⟨a', (List.mem_append.mp ha').resolve_left fun hfront => ?_, hC⟩
  have hmem := (mem_iff_of_forall₂ h.biUnique hpre hC).mpr hfront
  exact (List.disjoint_of_nodup_append hnodup) hmem ha

end Matching

namespace LeastFirst

/-- Behind corresponding prefixes no other counterpart can come first than that of what comes first:
it would have the smaller key there and the larger key here. -/
theorem eq_of_prefix (h : LeastFirst arc key (pre ++ a :: rest))
    (h' : LeastFirst arc' key' (pre' ++ b' :: rest'))
    (hmatch : Matching arc key (pre ++ a :: rest) arc' key' (pre' ++ b' :: rest') C)
    (hpre : List.Forall₂ C pre pre') : C a b' := by
  obtain ⟨a', ha', hCa⟩ := hmatch.exists_mem_rest h.nodup hpre (List.mem_cons_self (a := a))
  obtain ⟨b, hb, hCb⟩ := hmatch.symm.exists_mem_rest h'.nodup hpre.flip
    (List.mem_cons_self (a := b'))
  by_cases hab : a' = b'
  · rwa [← hab]
  have hba : b ≠ a := by
    rintro rfl
    exact hab (hmatch.biUnique.2 hCa hCb)
  have ha'rest : a' ∈ rest' := (List.mem_cons.mp ha').resolve_left hab
  have hbrest : b ∈ rest := (List.mem_cons.mp hb).resolve_left hba
  have hlt' : key' b' < key' a' := h'.least pre' b' rest' rfl a' ha'rest
    (hmatch.free h' hpre hCa (List.mem_append_right _ ha') (h.before pre a rest rfl))
  have hlt : key a < key b := h.least pre a rest rfl b hbrest
    (hmatch.symm.free h hpre.flip hCb (List.mem_append_right _ hb) (h'.before pre' b' rest' rfl))
  have hlt'' := (hmatch.key_iff a (List.mem_append_right _ List.mem_cons_self) b
    (List.mem_append_right _ hb) a' b' hCa hCb).mp hlt
  exact absurd hlt' (lt_asymm hlt'')

/-- Two lists whose members correspond run in step. -/
theorem forall₂ (h : LeastFirst arc key order) (h' : LeastFirst arc' key' order')
    (hmatch : Matching arc key order arc' key' order' C) : List.Forall₂ C order order' := by
  -- The induction is on what is left behind corresponding prefixes.
  have hrest : ∀ rest pre pre' rest', order = pre ++ rest → order' = pre' ++ rest' →
      List.Forall₂ C pre pre' → List.Forall₂ C rest rest' := by
    intro rest
    induction rest with
    | nil =>
      rintro pre pre' rest' rfl rfl hpre
      cases rest' with
      | nil => exact List.Forall₂.nil
      | cons b' rest' =>
        obtain ⟨b, hb, -⟩ := hmatch.symm.exists_mem_rest h'.nodup hpre.flip
          (List.mem_cons_self (a := b'))
        cases hb
    | cons a rest ih =>
      rintro pre pre' rest' rfl rfl hpre
      cases rest' with
      | nil =>
        obtain ⟨a', ha', -⟩ := hmatch.exists_mem_rest h.nodup hpre (List.mem_cons_self (a := a))
        cases ha'
      | cons b' rest' =>
        have hC : C a b' := h.eq_of_prefix h' hmatch hpre
        refine List.Forall₂.cons hC (ih (pre ++ [a]) (pre' ++ [b']) rest' ?_ ?_ ?_)
        · rw [List.append_assoc, List.singleton_append]
        · rw [List.append_assoc, List.singleton_append]
        · exact List.rel_append hpre (List.Forall₂.cons hC List.Forall₂.nil)
  exact hrest order [] [] order' rfl rfl List.Forall₂.nil

/-- Members that a kept member does not wait for can be left out. -/
theorem filter (h : LeastFirst arc key order) (p : α → Bool)
    (hclosed : ∀ u v, arc u v → p v = true → p u = true) :
    LeastFirst arc key (order.filter p) := by
  -- Every split of what is kept comes from a split of the whole list.
  have hsplit : ∀ pre v post, order.filter p = pre ++ v :: post → ∃ front back,
      order = front ++ v :: back ∧ front.filter p = pre ∧ p v = true ∧ back.filter p = post := by
    intro pre v post hfilter
    obtain ⟨front, rest, rfl, hfront, hrest⟩ := List.filter_eq_append_iff.mp hfilter
    obtain ⟨skipped, back, rfl, hskipped, hv, hback⟩ := List.filter_eq_cons_iff.mp hrest
    refine ⟨front ++ skipped, back, by simp, ?_, hv, hback⟩
    rw [List.filter_append, hfront, List.filter_eq_nil_iff.mpr hskipped, List.append_nil]
  refine ⟨h.nodup.filter _, ?_, ?_⟩
  · intro pre v post hfilter u harc
    obtain ⟨front, back, horder, rfl, hv, -⟩ := hsplit pre v post hfilter
    exact List.mem_filter.mpr ⟨h.before front v back horder u harc, hclosed u v harc hv⟩
  · intro pre v post hfilter w hw hfree
    obtain ⟨front, back, horder, rfl, -, rfl⟩ := hsplit pre v post hfilter
    exact h.least front v back horder w (List.mem_filter.mp hw).1
      fun u harc => (List.mem_filter.mp (hfree u harc)).1

/-- What such a list begins with is such a list. -/
theorem of_append {front back : List α} (h : LeastFirst arc key (front ++ back)) :
    LeastFirst arc key front where
  nodup := h.nodup.of_append_left
  before pre v post hsplit := h.before pre v (post ++ back) (by simp [hsplit])
  least pre v post hsplit w hw :=
    h.least pre v (post ++ back) (by simp [hsplit]) w (List.mem_append_left _ hw)

/-- Another list of the same members that puts each after those with an arc to it has larger keys,
compared from the front. -/
theorem eq_or_lt {other : List α} (h : LeastFirst arc key order) (hperm : order.Perm other)
    (hbefore : ∀ pre v post, other = pre ++ v :: post → ∀ u, arc u v → u ∈ pre) :
    order = other ∨ order.map key < other.map key := by
  -- The induction is on what is left behind a common prefix.
  have hrest : ∀ rest pre rest', order = pre ++ rest → other = pre ++ rest' →
      rest = rest' ∨ rest.map key < rest'.map key := by
    intro rest
    induction rest with
    | nil =>
      rintro pre rest' rfl rfl
      have htail : [].Perm rest' := (List.perm_append_left_iff pre).mp hperm
      exact Or.inl htail.nil_eq
    | cons a rest ih =>
      rintro pre rest' horder hother
      have htail : (a :: rest).Perm rest' :=
        (List.perm_append_left_iff pre).mp (by rwa [← horder, ← hother])
      cases rest' with
      | nil => exact absurd htail.symm.nil_eq (by simp)
      | cons b rest' =>
        by_cases hab : a = b
        · subst hab
          have hnext := ih (pre ++ [a]) rest' (by simp [horder]) (by simp [hother])
          rcases hnext with rfl | hlt
          · exact Or.inl rfl
          · exact Or.inr (List.cons_lt_cons_iff.mpr (Or.inr ⟨rfl, hlt⟩))
        · -- What comes here in the other list could come here in this one, and comes later.
          have hb : b ∈ rest :=
            (List.mem_cons.mp (htail.mem_iff.mpr List.mem_cons_self)).resolve_left (Ne.symm hab)
          have hlt : key a < key b := h.least pre a rest horder b hb (hbefore pre b rest' hother)
          exact Or.inr (List.cons_lt_cons_iff.mpr (Or.inl hlt))
  exact hrest order [] other rfl rfl

end LeastFirst

namespace Digraph

variable {g : Digraph} {v : Nat}

/-- The vertex that is taken out of an ascending list is the smallest free one. -/
theorem lt_of_find?_isFree {w : Nat} (hsorted : g.vertices.Pairwise (· < ·))
    (hv : g.vertices.find? g.IsFree = some v) (hw : w ∈ g.vertices) (hne : w ≠ v)
    (hfree : g.IsFree w = true) : v < w := by
  obtain ⟨-, front, back, hsplit, hfront⟩ := List.find?_eq_some_iff_append.mp hv
  rw [hsplit] at hsorted hw
  rcases List.mem_append.mp hw with hw | hw
  · -- Nothing in front of it is free.
    have hnot := hfront w hw
    rw [hfree] at hnot
    exact absurd hnot (by decide)
  · have hback := (List.mem_cons.mp hw).resolve_left hne
    exact (List.pairwise_cons.mp (List.pairwise_append.mp hsorted).2.1).1 w hback

/-- Sorting an ascending list puts the smallest vertex first that can stand there. -/
theorem least_of_sortVertices {order : List Nat} (hsorted : g.vertices.Pairwise (· < ·))
    (h : sortVertices g.vertices g.arcs = some order) :
    ∀ pre v post, order = pre ++ v :: post → ∀ w ∈ post, (∀ u, g.HasArc u w → u ∈ pre) →
      v < w := by
  induction order generalizing g with
  | nil => exact fun pre v post hsplit => by simp at hsplit
  | cons a order ih =>
    intro pre v post hsplit w hw hfree
    have hperm := (isOrder_of_sortVertices h).perm
    have hne : g.vertices ≠ [] := List.ne_nil_of_mem (hperm.subset List.mem_cons_self)
    cases hfind : g.vertices.find? g.IsFree with
    | none =>
      rw [sortVertices_of_find? hne hfind] at h
      cases h
    | some b =>
      rw [sortVertices_eq hfind] at h
      obtain ⟨rest, hrest, hcons⟩ := Option.map_eq_some_iff.mp h
      obtain ⟨rfl, rfl⟩ := List.cons.inj hcons
      cases pre with
      | nil =>
        -- What can stand in the first place is free.
        obtain ⟨rfl, rfl⟩ := List.cons.inj hsplit
        have hwfree : g.IsFree w = true := by
          by_contra hnot
          obtain ⟨u, harc⟩ := exists_hasArc_of_not_isFree hnot
          exact List.not_mem_nil (hfree u harc)
        have hnodup : (b :: rest).Nodup := hperm.nodup_iff.mpr (hsorted.imp Nat.ne_of_lt)
        have hwb : w ≠ b := by
          rintro rfl
          exact (List.nodup_cons.mp hnodup).1 hw
        exact lt_of_find?_isFree hsorted hfind (hperm.subset (List.mem_cons_of_mem b hw)) hwb hwfree
      | cons c pre =>
        -- The first vertex is out, and no arc of what is left comes from it.
        obtain ⟨rfl, hrestsplit⟩ := List.cons.inj hsplit
        refine ih (hsorted.sublist List.erase_sublist) hrest pre v post hrestsplit w hw ?_
        intro u harc
        obtain ⟨harc, hub⟩ := without_hasArc_iff.mp harc
        exact (List.mem_cons.mp (hfree u harc)).resolve_left hub

/-- The order of a graph has the smallest vertex first. -/
theorem leastFirst_of_order? {order : List Nat} (hg : g.WellFormed) (h : g.order? = some order) :
    LeastFirst g.HasArc id order := by
  have horder := isOrder_of_order? hg h
  rw [order?_eq_sortVertices hg] at h
  exact ⟨horder.perm.nodup_iff.mpr hg.nodup, horder.before,
    least_of_sortVertices (g := g.sorted) (pairwise_sorted hg.nodup) h⟩

end Digraph

end Wiring
