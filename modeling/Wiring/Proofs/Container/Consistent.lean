import Mathlib.Data.List.Sort
import Wiring.Proofs.Container.History
import Wiring.Proofs.TypeKey.Refinement

/-!
# The invariant of containers

In every reachable container the two indices hold exactly what the nodes provide and require, and
there is at most one root node and at most one missing node (`Reachable.consistent`). The rest of
the module reads off what this says about the nodes of the container: a node is known by its number
(`node?_eq_some_iff`), and the indices answer with the numbers of nodes (`mem_requiredBy_iff`,
`mem_providedBy_iff`).
-/

namespace Wiring.Container

/-! ## The invariant -/

/-- At most one role of the list has the property. -/
def Single (q : Role → Bool) (roles : List Role) : Prop :=
  ∀ (i j : Nat) (r s : Role), roles[i]? = some r → roles[j]? = some s →
    q r = true → q s = true → i = j

/-- A role can be put at the end when no other has its property. -/
theorem Single.concat {q : Role → Bool} {roles : List Role} {role : Role} (h : Single q roles)
    (hnew : q role = true → ∀ r ∈ roles, q r = false) : Single q (roles ++ [role]) := by
  -- An old role and the new one cannot both have the property.
  have hclash : ∀ (i : Nat) (r : Role), roles[i]? = some r → q r = true → ¬ q role = true := by
    intro i r hr hqr hq
    have hfalse := hnew hq r (List.mem_of_getElem? hr)
    rw [hqr] at hfalse
    exact absurd hfalse (by simp)
  intro i j r s hr hs hqr hqs
  rw [List.getElem?_append] at hr hs
  -- Each of the two places is an old one or the new one.
  split at hr
  · split at hs
    · exact h i j r s hr hs hqr hqs
    · have hs' : s = role := by simpa using List.mem_of_getElem? hs
      rw [hs'] at hqs
      exact absurd hqs (hclash i r hr hqr)
  · have hr' : r = role := by simpa using List.mem_of_getElem? hr
    rw [hr'] at hqr
    split at hs
    · exact absurd hqr (hclash j s hs hqs)
    · rw [List.getElem?_singleton] at hr hs
      split at hr
      · split at hs
        · omega
        · simp at hs
      · simp at hr

/-- The indices agree with the nodes, and the root and the missing node are unique. -/
structure Consistent (c : Container) : Prop where
  /-- One index holds what the nodes provide of themselves. -/
  providedBy : c.providedBy.Lists Role.provides c.roles
  /-- The other index holds what the nodes require. -/
  requiredBy : c.requiredBy.Lists Role.requires c.roles
  /-- There is at most one root node. -/
  root_single : Single (·.rootType?.isSome) c.roles
  /-- There is at most one missing node. -/
  missing_single : Single Role.isMissing c.roles

/-- An empty container is consistent. -/
theorem Consistent.new (rootMethod : String) (tag : Nat) : Consistent (.new rootMethod tag) where
  providedBy := TypeIndex.Lists.empty _
  requiredBy := TypeIndex.Lists.empty _
  root_single i _ r _ hr := by simp [Container.new] at hr
  missing_single i _ r _ hr := by simp [Container.new] at hr

/-- A change keeps a container consistent. -/
theorem Consistent.change {c c' : Container} (h : c.Consistent) (hchange : c.Change c') :
    c'.Consistent := by
  obtain ⟨role, hallowed, rfl⟩ := hchange
  refine {
    providedBy := h.providedBy.concat role
    requiredBy := h.requiredBy.concat role
    root_single := h.root_single.concat ?root
    missing_single := h.missing_single.concat ?missing }
  case root =>
    -- Only a root node has a root type, and it is allowed only if none is there.
    intro hroot r hr
    cases role with
    | provider p => simp [Role.rootType?] at hroot
    | missing => simp [Role.rootType?] at hroot
    | root type =>
      have hnone : r.rootType? = none := List.findSome?_eq_none_iff.mp hallowed r hr
      rw [hnone]
      rfl
  case missing =>
    intro hmissing r hr
    cases role with
    | provider p => simp [Role.isMissing] at hmissing
    | root type => simp [Role.isMissing] at hmissing
    | missing =>
      have hnone : ∀ r ∈ c.roles, ¬ r.isMissing = true := List.any_eq_false.mp hallowed
      simpa using hnone r hr

/-- A row of changes keeps a container consistent. -/
theorem Consistent.grows {c c' : Container} (h : c.Consistent) (hgrows : c.Grows c') :
    c'.Consistent := by
  induction hgrows with
  | refl => exact h
  | tail _ hchange ih => exact ih.change hchange

/-- Every reachable container is consistent. -/
theorem Reachable.consistent {c : Container} (h : Reachable c) : c.Consistent :=
  h.induction Consistent.new fun _ _ hc hchange => hc.change hchange

/-! ## Nodes and their numbers -/

variable {c : Container} {n : Node} {i : Nat} {ids : List Nat}

/-- The node with a number has the role at that place. -/
theorem node?_eq_some_iff :
    c.node? i = some n ↔ ∃ role, c.roles[i]? = some role ∧ c.nodeOf i role = n := by
  unfold node?
  exact Option.map_eq_some_iff

/-- A node is known by its number. -/
theorem id_eq_of_node? (h : c.node? i = some n) : n.id = i := by
  obtain ⟨role, -, rfl⟩ := node?_eq_some_iff.mp h
  rfl

/-- The number of a node lies in range. -/
theorem lt_of_node? (h : c.node? i = some n) : i < c.nextId := by
  obtain ⟨role, hrole, -⟩ := node?_eq_some_iff.mp h
  exact (List.getElem?_eq_some_iff.mp hrole).1

/-- Every number in range is that of a node. -/
theorem exists_node? (h : i < c.nextId) : ∃ n, c.node? i = some n := by
  have hrole : c.roles[i]? = some c.roles[i] := List.getElem?_eq_getElem h
  exact ⟨_, node?_eq_some_iff.mpr ⟨_, hrole, rfl⟩⟩

/-- The nodes of the container are those that have a number. -/
theorem mem_members_iff : n ∈ c.members ↔ ∃ i, c.node? i = some n := by
  unfold members
  rw [List.mem_mapIdx]
  constructor
  · rintro ⟨i, hi, rfl⟩
    exact ⟨i, node?_eq_some_iff.mpr ⟨_, List.getElem?_eq_getElem hi, rfl⟩⟩
  · rintro ⟨i, hn⟩
    obtain ⟨role, hrole, rfl⟩ := node?_eq_some_iff.mp hn
    obtain ⟨hi, rfl⟩ := List.getElem?_eq_some_iff.mp hrole
    exact ⟨i, hi, rfl⟩

/-- A node of the container belongs to it. -/
theorem has_of_node? (h : c.node? i = some n) : c.has n = true := by
  have hlt := lt_of_node? h
  obtain ⟨role, -, rfl⟩ := node?_eq_some_iff.mp h
  simp [has, nodeOf, Node.idInRange, hlt]

/-- The nodes with the numbers of a list are those with a number in it. -/
theorem mem_nodesOf_iff : n ∈ c.nodesOf ids ↔ ∃ i ∈ ids, c.node? i = some n := by
  unfold nodesOf
  exact List.mem_filterMap

/-- Nodes stand in the order of their numbers. -/
theorem pairwise_nodesOf (h : ids.Pairwise (· < ·)) :
    (c.nodesOf ids).Pairwise fun m n => m.id < n.id := by
  unfold nodesOf
  rw [List.pairwise_filterMap]
  refine h.imp ?_
  intro i j hij m hm n hn
  rw [id_eq_of_node? hm, id_eq_of_node? hn]
  exact Int.ofNat_lt.mpr hij

/-- Sorting numbers keeps the members of a list. -/
theorem mem_ascending_iff : i ∈ ascending ids ↔ i ∈ ids := by
  rw [ascending, List.mem_mergeSort, List.mem_eraseDups]

/-- Sorted numbers ascend strictly. -/
theorem pairwise_ascending (ids : List Nat) : (ascending ids).Pairwise (· < ·) := by
  have hnodup : (ascending ids).Nodup :=
    (List.mergeSort_perm _ _).nodup_iff.mpr (nodup_eraseDups ids)
  have hsorted : (ascending ids).Pairwise (· ≤ ·) :=
    List.pairwise_mergeSort' (· ≤ ·) ids.eraseDups
  exact (hsorted.sortedLE.sortedLT_of_nodup hnodup).pairwise

/-- All nodes stand in the order of their numbers. -/
theorem pairwise_members (c : Container) : c.members.Pairwise fun m n => m.id < n.id := by
  rw [members, List.pairwise_iff_getElem]
  intro i j hi hj hij
  rw [List.getElem_mapIdx, List.getElem_mapIdx]
  exact Int.ofNat_lt.mpr hij

/-! ## What the indices answer -/

/-- A node is listed as requiring a type exactly if it requires an equal one. -/
theorem mem_requiredBy_iff (hc : c.Consistent) (hn : c.node? i = some n) (t : TypeKey) :
    i ∈ c.requiredBy.nodes t ↔ n.requires.contains t = true := by
  obtain ⟨role, hrole, rfl⟩ := node?_eq_some_iff.mp hn
  obtain ⟨hi, rfl⟩ := List.getElem?_eq_some_iff.mp hrole
  rw [hc.requiredBy.nodes, List.mem_findIdxs_iff_pos_getElem hi]
  rfl

/-- A node is listed as providing a type exactly if it provides an equal one of itself. -/
theorem mem_providedBy_iff (hc : c.Consistent) (hn : c.node? i = some n) (t : TypeKey) :
    i ∈ c.providedBy.nodes t ↔ n.role.provides.contains t = true := by
  obtain ⟨role, hrole, rfl⟩ := node?_eq_some_iff.mp hn
  obtain ⟨hi, rfl⟩ := List.getElem?_eq_some_iff.mp hrole
  rw [hc.providedBy.nodes, List.mem_findIdxs_iff_pos_getElem hi]
  rfl

end Wiring.Container
