import Wiring.Proofs.Container.Consistent

/-!
# Edges

Whether an edge leads from one node to another can be asked from either end, for the pair and for
the edge itself, and each answer is computed from the two indices in its own way. All of them come
to the relation `Link`: some type that the one node supplies is required by the other, where the
missing node supplies what some node requires and none provides.

Each query has one lemma that brings it to `Link` in a consistent container:
`mem_successors_iff`, `mem_predecessors_iff` and `connectingTypes_ne_nil_iff`. Making the missing
node changes none of these answers about the nodes that were there before (`link_withMissing_iff`).
-/

namespace Wiring

/-- Only one role is missing. -/
theorem Role.eq_missing {role : Role} (h : role.isMissing = true) : role = .missing := by
  cases role with
  | provider p => cases h
  | root type => cases h
  | missing => rfl

/-- The role of a provider node is that of a provider. -/
theorem Role.exists_eq_provider {role : Role} (h : role.isProvider = true) :
    ∃ p, role = .provider p := by
  cases role with
  | provider p => exact ⟨p, rfl⟩
  | root type => cases h
  | missing => cases h

/-- A missing role provides nothing of itself. -/
theorem Role.provides_of_isMissing {role : Role} (h : role.isMissing = true) :
    role.provides = [] := by
  rw [eq_missing h]
  rfl

namespace Container

variable {c : Container} {u v n : Node} {t : TypeKey}

/-! ## What nodes supply -/

/-- Some node requires a type equal to `t`. -/
def Required (c : Container) (t : TypeKey) : Prop := ∃ r ∈ c.roles, r.requires.contains t = true

/-- Some node provides a type equal to `t` of itself. -/
def Provided (c : Container) (t : TypeKey) : Prop := ∃ r ∈ c.roles, r.provides.contains t = true

/-- A node supplies the types that it provides of itself; the missing node supplies those that are
required and not provided. -/
def Supplies (c : Container) (u : Node) (t : TypeKey) : Prop :=
  match u.role with
  | .missing => c.Required t ∧ ¬ c.Provided t
  | role => role.provides.contains t = true

/-- An edge leads from `u` to `v`: both are nodes of the container, and `v` requires a type that `u`
supplies. -/
def Link (c : Container) (u v : Node) : Prop :=
  u ∈ c.members ∧ v ∈ c.members ∧ ∃ t ∈ v.requires, c.Supplies u t

/-- What some role of the container has is what some node has of its role. -/
theorem exists_mem_members_iff {p : Role → Prop} :
    (∃ n ∈ c.members, p n.role) ↔ ∃ r ∈ c.roles, p r := by
  constructor
  · rintro ⟨n, hn, hp⟩
    obtain ⟨i, hn⟩ := mem_members_iff.mp hn
    obtain ⟨role, hrole, rfl⟩ := node?_eq_some_iff.mp hn
    exact ⟨role, List.mem_of_getElem? hrole, hp⟩
  · rintro ⟨role, hrole, hp⟩
    obtain ⟨i, hi⟩ := List.getElem?_of_mem hrole
    exact ⟨c.nodeOf i role, mem_members_iff.mpr ⟨i, node?_eq_some_iff.mpr ⟨role, hi, rfl⟩⟩, hp⟩

/-- Whether a type is provided does not depend on its form. -/
theorem provided_congr {s : TypeKey} (h : (s == t) = true) : c.Provided s ↔ c.Provided t := by
  unfold Provided
  simp only [List.contains_congr h]

/-- A type that a node requires is required. -/
theorem required_of_mem (hv : v ∈ c.members) (ht : t ∈ v.requires) : c.Required t :=
  exists_mem_members_iff.mp ⟨v, hv, List.contains_iff_exists_mem_beq.mpr ⟨t, ht, BEq.refl t⟩⟩

/-- A node other than the missing one supplies what it provides of itself. -/
theorem supplies_iff_of_not_isMissing (h : u.role.isMissing = false) :
    c.Supplies u t ↔ u.role.provides.contains t = true := by
  unfold Supplies
  cases hrole : u.role with
  | provider p => exact Iff.rfl
  | root type => exact Iff.rfl
  | missing =>
    rw [hrole] at h
    exact absurd h (by decide)

/-- The missing node supplies what is required and not provided. -/
theorem supplies_iff_of_isMissing (h : u.role.isMissing = true) :
    c.Supplies u t ↔ c.Required t ∧ ¬ c.Provided t := by
  unfold Supplies
  cases hrole : u.role with
  | provider p =>
    rw [hrole] at h
    exact absurd h (by simp [Role.isMissing])
  | root type =>
    rw [hrole] at h
    exact absurd h (by simp [Role.isMissing])
  | missing => exact Iff.rfl

/-- Nobody lists a node for a type exactly if the type is not provided. -/
theorem isUnmet_iff (hc : c.Consistent) : c.isUnmet t = true ↔ ¬ c.Provided t := by
  rw [isUnmet, List.isEmpty_iff, hc.providedBy.nodes, List.findIdxs_eq_nil_iff]
  unfold Provided
  push Not
  simp only [Bool.not_eq_true]

/-- What is unsatisfied is required and not provided. -/
theorem contains_unsatisfied_iff (hc : c.Consistent) :
    c.unsatisfied.contains t = true ↔ c.Required t ∧ ¬ c.Provided t := by
  have hrequired : c.Required t ↔ c.requiredBy.types.contains t = true := by
    rw [hc.requiredBy.types, TypeKey.contains_distinct, List.contains_flatMap, List.any_eq_true]
    rfl
  rw [hrequired, unsatisfied, List.contains_iff_exists_mem_beq, List.contains_iff_exists_mem_beq]
  constructor
  · -- The listed form need not be `t` itself, but being provided does not depend on the form.
    rintro ⟨s, hs, hts⟩
    obtain ⟨hs, hunmet⟩ := List.mem_filter.mp hs
    exact ⟨⟨s, hs, hts⟩, fun ht => (isUnmet_iff hc).mp hunmet ((provided_congr hts).mp ht)⟩
  · rintro ⟨⟨s, hs, hts⟩, ht⟩
    have hunmet : c.isUnmet s = true :=
      (isUnmet_iff hc).mpr fun h => ht ((provided_congr hts).mpr h)
    exact ⟨s, List.mem_filter.mpr ⟨hs, hunmet⟩, hts⟩

/-- What a node provides is what it supplies. -/
theorem contains_provides_iff (hc : c.Consistent) :
    (c.provides u).contains t = true ↔ c.Supplies u t := by
  unfold provides Supplies
  cases u.role with
  | provider p => exact Iff.rfl
  | root type => exact Iff.rfl
  | missing => exact contains_unsatisfied_iff hc

/-- A type of one list stands in the other exactly if a type of the other stands in the one. -/
theorem exists_contains_comm (ss ts : List TypeKey) :
    (∃ s ∈ ss, ts.contains s = true) ↔ ∃ t ∈ ts, ss.contains t = true := by
  simp only [List.contains_iff_exists_mem_beq]
  constructor
  · rintro ⟨s, hs, t, ht, hst⟩
    exact ⟨t, ht, s, hs, BEq.symm hst⟩
  · rintro ⟨t, ht, s, hs, hts⟩
    exact ⟨s, hs, t, ht, BEq.symm hts⟩

/-- A provided type is required exactly if a required type is supplied. -/
theorem exists_provides_iff (hc : c.Consistent) :
    (∃ t ∈ c.provides u, v.requires.contains t = true) ↔ ∃ t ∈ v.requires, c.Supplies u t := by
  rw [exists_contains_comm]
  simp only [contains_provides_iff hc]

/-! ## Successors and predecessors -/

/-- A node of the container belongs to it. -/
theorem has_of_mem_members (h : n ∈ c.members) : c.has n = true := by
  obtain ⟨i, hn⟩ := mem_members_iff.mp h
  exact has_of_node? hn

/-- The successors of a node are those to which an edge leads. -/
theorem mem_successors_iff (hc : c.Consistent) (hu : u ∈ c.members) :
    v ∈ c.successors u ↔ c.Link u v := by
  rw [successors, if_pos (has_of_mem_members hu), Link, ← exists_provides_iff hc, mem_nodesOf_iff]
  simp only [mem_ascending_iff, List.mem_flatMap]
  constructor
  · rintro ⟨j, ⟨t, ht, hj⟩, hv⟩
    exact ⟨hu, mem_members_iff.mpr ⟨j, hv⟩, t, ht, (mem_requiredBy_iff hc hv t).mp hj⟩
  · rintro ⟨-, hv, t, ht, hrequires⟩
    obtain ⟨j, hv⟩ := mem_members_iff.mp hv
    exact ⟨j, ⟨t, ht, (mem_requiredBy_iff hc hv t).mpr hrequires⟩, hv⟩

/-- The place of a missing role is that of the missing node. -/
theorem findIdx?_isMissing_eq_some_iff (hc : c.Consistent) {i : Nat} (hu : c.node? i = some u) :
    c.roles.findIdx? Role.isMissing = some i ↔ u.role.isMissing = true := by
  obtain ⟨role, hrole, rfl⟩ := node?_eq_some_iff.mp hu
  constructor
  · intro hfind
    obtain ⟨hi, hmissing, -⟩ := List.findIdx?_eq_some_iff_getElem.mp hfind
    rw [List.getElem?_eq_getElem hi, Option.some.injEq] at hrole
    rwa [hrole] at hmissing
  · intro hmissing
    -- The first missing role is the only one.
    cases hfind : c.roles.findIdx? Role.isMissing with
    | none =>
      have hnot := List.findIdx?_eq_none_iff.mp hfind role (List.mem_of_getElem? hrole)
      have hmissing : role.isMissing = true := hmissing
      rw [hnot] at hmissing
      exact absurd hmissing (by decide)
    | some j =>
      obtain ⟨hj, hmissing', -⟩ := List.findIdx?_eq_some_iff_getElem.mp hfind
      have hji := hc.missing_single j i _ _ (List.getElem?_eq_getElem hj) hrole hmissing' hmissing
      rw [hji]

/-- Of a required type, a node is listed as a source exactly if it supplies the type. -/
theorem mem_source_iff (hc : c.Consistent) {i : Nat} (hu : c.node? i = some u)
    (ht : c.Required t) :
    (i ∈ if c.isUnmet t then (c.roles.findIdx? Role.isMissing).toList else c.providedBy.nodes t) ↔
      c.Supplies u t := by
  have hmem : u ∈ c.members := mem_members_iff.mpr ⟨i, hu⟩
  cases hmissing : u.role.isMissing with
  | true =>
    -- The missing node is the source of what is unmet and of nothing else.
    rw [supplies_iff_of_isMissing hmissing, ← isUnmet_iff hc]
    split
    · rename_i hunmet
      rw [Option.mem_toList, findIdx?_isMissing_eq_some_iff hc hu]
      exact ⟨fun _ => ⟨ht, hunmet⟩, fun _ => hmissing⟩
    · rename_i hmet
      rw [mem_providedBy_iff hc hu, Role.provides_of_isMissing hmissing]
      exact ⟨fun h => absurd h (by simp), fun h => absurd h.2 hmet⟩
  | false =>
    -- Any other node is a source by the index; if the type is unmet, it does not provide it.
    rw [supplies_iff_of_not_isMissing hmissing]
    split
    · rename_i hunmet
      rw [Option.mem_toList, findIdx?_isMissing_eq_some_iff hc hu, hmissing]
      constructor
      · intro h
        exact absurd h (by decide)
      · intro hprovides
        exact absurd (exists_mem_members_iff.mp ⟨u, hmem, hprovides⟩) ((isUnmet_iff hc).mp hunmet)
    · exact mem_providedBy_iff hc hu t

/-- The sources of a node are those from which an edge leads to it. -/
theorem mem_nodesOf_sources_iff (hc : c.Consistent) (hv : v ∈ c.members) :
    u ∈ c.nodesOf (ascending (c.sources v)) ↔ c.Link u v := by
  rw [mem_nodesOf_iff, sources, Link]
  simp only [mem_ascending_iff, List.mem_flatMap]
  constructor
  · rintro ⟨i, ⟨t, ht, hi⟩, hu⟩
    have hsupplies := (mem_source_iff hc hu (required_of_mem hv ht)).mp hi
    exact ⟨mem_members_iff.mpr ⟨i, hu⟩, hv, t, ht, hsupplies⟩
  · rintro ⟨hu, -, t, ht, hsupplies⟩
    obtain ⟨i, hu⟩ := mem_members_iff.mp hu
    exact ⟨i, ⟨t, ht, (mem_source_iff hc hu (required_of_mem hv ht)).mpr hsupplies⟩, hu⟩

/-! ## With and without the missing node -/

/-- The missing node is made once. -/
theorem withMissing_withMissing (c : Container) : c.withMissing.withMissing = c.withMissing := by
  cases hmissing : c.roles.any Role.isMissing with
  | true => rw [withMissing_eq_self hmissing, withMissing_eq_self hmissing]
  | false =>
    rw [withMissing_eq_push hmissing]
    exact withMissing_eq_self (by simp [push, Role.isMissing])

/-- What is required and provided does not change when the missing node is made. -/
theorem supplies_withMissing : c.withMissing.Supplies u t ↔ c.Supplies u t := by
  cases hmissing : c.roles.any Role.isMissing with
  | true => rw [withMissing_eq_self hmissing]
  | false =>
    -- The new node neither requires nor provides anything of itself.
    have hrequired : (c.push .missing).Required t ↔ c.Required t := by
      simp [Required, push, Role.requires]
    have hprovided : (c.push .missing).Provided t ↔ c.Provided t := by
      simp [Provided, push, Role.provides]
    rw [withMissing_eq_push hmissing]
    unfold Supplies
    rw [hrequired, hprovided]

/-- The nodes stay when the missing node is made. -/
theorem mem_members_withMissing (h : n ∈ c.members) : n ∈ c.withMissing.members := by
  cases hmissing : c.roles.any Role.isMissing with
  | true => rwa [withMissing_eq_self hmissing]
  | false =>
    rw [withMissing_eq_push hmissing]
    obtain ⟨i, hn⟩ := mem_members_iff.mp h
    obtain ⟨role, hrole, rfl⟩ := node?_eq_some_iff.mp hn
    refine mem_members_iff.mpr ⟨i, node?_eq_some_iff.mpr ⟨role, ?_, rfl⟩⟩
    have hlt : i < c.roles.length := (List.getElem?_eq_some_iff.mp hrole).1
    rw [← hrole]
    exact List.getElem?_append_left hlt

/-- The same edges lead between the nodes when the missing node is made. -/
theorem link_withMissing_iff (hu : u ∈ c.members) (hv : v ∈ c.members) :
    c.withMissing.Link u v ↔ c.Link u v := by
  unfold Link
  simp only [supplies_withMissing, mem_members_withMissing, hu, hv, true_and]

/-- The predecessors of a node, also when asking for them makes the missing node, are the nodes
from which an edge leads to it. -/
theorem mem_predecessors_iff (hc : c.Consistent) (hu : u ∈ c.members) (hv : v ∈ c.members) :
    u ∈ ((predecessors v).run c).1 ↔ c.Link u v := by
  rw [predecessors_run c v (has_of_mem_members hv)]
  split
  · -- The missing node was made: the answer is about the container with it.
    rw [← link_withMissing_iff hu hv]
    exact mem_nodesOf_sources_iff (hc.grows (grows_withMissing c)) (mem_members_withMissing hv)
  · exact mem_nodesOf_sources_iff hc hv

/-- Predecessors ascend. -/
theorem pairwise_predecessors (hv : v ∈ c.members) :
    ((predecessors v).run c).1.Pairwise fun m n => m.id < n.id := by
  rw [predecessors_run c v (has_of_mem_members hv)]
  split
  · exact pairwise_nodesOf (pairwise_ascending _)
  · exact pairwise_nodesOf (pairwise_ascending _)

/-- Successors ascend. -/
theorem pairwise_successors (c : Container) (u : Node) :
    (c.successors u).Pairwise fun m n => m.id < n.id := by
  unfold successors
  split
  · exact pairwise_nodesOf (pairwise_ascending _)
  · exact List.Pairwise.nil

/-! ## Edges between two nodes -/

/-- A node is listed as a consumer of what it requires. -/
theorem isConsumer_eq (hc : c.Consistent) (hv : v ∈ c.members) :
    c.isConsumer v t = v.requires.contains t := by
  obtain ⟨j, hv⟩ := mem_members_iff.mp hv
  rw [Bool.eq_iff_iff, ← mem_requiredBy_iff hc hv, isConsumer, id_eq_of_node? hv]
  obtain ⟨role, -, rfl⟩ := node?_eq_some_iff.mp hv
  have hlisted : (c.nodeOf j role).listed = true := rfl
  simp only [hlisted, Bool.true_and, List.any_eq_true, beq_iff_eq, Int.natCast_inj,
    exists_eq_right]

/-- The types of an edge are the distinct types that the one node provides and the other
requires. -/
theorem connectingTypes_eq (hc : c.Consistent) (hu : u ∈ c.members) (hv : v ∈ c.members) :
    c.connectingTypes u v =
      (TypeKey.distinct (c.provides u)).filter fun t => v.requires.contains t := by
  rw [connectingTypes, if_pos (by rw [has_of_mem_members hu, has_of_mem_members hv]; rfl)]
  exact List.filter_congr fun t _ => isConsumer_eq hc hv

/-- A type is among those of an edge exactly if the one node supplies it and the other requires
it. -/
theorem contains_connectingTypes_iff (hc : c.Consistent) (hu : u ∈ c.members)
    (hv : v ∈ c.members) :
    (c.connectingTypes u v).contains t = true ↔
      c.Supplies u t ∧ v.requires.contains t = true := by
  rw [connectingTypes_eq hc hu hv, ← contains_provides_iff hc,
    ← TypeKey.contains_distinct (c.provides u) t, List.contains_iff_exists_mem_beq,
    List.contains_iff_exists_mem_beq]
  constructor
  · rintro ⟨s, hs, hts⟩
    obtain ⟨hs, hrequires⟩ := List.mem_filter.mp hs
    exact ⟨⟨s, hs, hts⟩, by rwa [List.contains_congr hts]⟩
  · rintro ⟨⟨s, hs, hts⟩, hrequires⟩
    exact ⟨s, List.mem_filter.mpr ⟨hs, by rwa [← List.contains_congr hts]⟩, hts⟩

/-- There are connecting types exactly if an edge leads from the one node to the other. -/
theorem connectingTypes_ne_nil_iff (hc : c.Consistent) (hu : u ∈ c.members)
    (hv : v ∈ c.members) : c.connectingTypes u v ≠ [] ↔ c.Link u v := by
  rw [connectingTypes_eq hc hu hv, Ne, List.filter_eq_nil_iff]
  push Not
  rw [exists_contains_comm]
  simp only [TypeKey.contains_distinct, contains_provides_iff hc]
  unfold Link
  simp only [hu, hv, true_and]

/-- The edge from one node to another has all its parts if there is one. -/
theorem edge?_eq_some_iff {e : Edge} :
    c.edge? u v = some e ↔
      c.connectingTypes u v ≠ [] ∧ e = ⟨u, v, c.connectingTypes u v⟩ := by
  unfold edge?
  cases c.connectingTypes u v with
  | nil => simp
  | cons t ts => simp [eq_comm]

/-- There is an edge exactly if there are connecting types. -/
theorem edge?_ne_none_iff : c.edge? u v ≠ none ↔ c.connectingTypes u v ≠ [] := by
  rw [Option.ne_none_iff_exists']
  simp only [edge?_eq_some_iff, exists_and_left, exists_eq, and_true]

/-- The types that an edge carries; none if there is no edge. -/
def carried (e : Option Edge) : List TypeKey := (e.map (·.types)).getD []

/-- An edge carries the types that connect its ends. -/
theorem carried_edge? (c : Container) (u v : Node) :
    carried (c.edge? u v) = c.connectingTypes u v := by
  unfold carried edge?
  cases c.connectingTypes u v with
  | nil => rfl
  | cons t ts => rfl

end Container

end Wiring
