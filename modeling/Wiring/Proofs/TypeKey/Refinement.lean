import Wiring.Proofs.TypeKey.Index

/-!
# An index stands for a list of pairs

What an index answers is told by the pairs of types and nodes that were added to it, in their order
(`TypeIndex.represents_ofPairs`). Two notions of sameness meet here. Types are compared by `==`,
which does not see methods, so that a node is listed for types that it was never added for, and a
type is listed in the form in which it was first seen. Nodes are compared as they are.

`Refines` relates an index to a list of pairs by what it lists of both. Adding a node keeps this for
the longer list (`Refines.add`), and so a row of additions leads from the empty list to all pairs
(`refines_ofPairs`). Whatever else can be asked of an index follows from the relation
(`Refines.represents`).
-/

namespace Wiring

/-! ## Lists without repetition -/

section EraseDups

variable {α : Type} [DecidableEq α]

/-- The last member of a list is kept if it does not stand before. -/
theorem eraseDups_concat (as : List α) (a : α) :
    (as ++ [a]).eraseDups = if a ∈ as then as.eraseDups else as.eraseDups ++ [a] := by
  rw [List.eraseDups_append]
  by_cases ha : a ∈ as
  · simp [List.removeAll, ha]
  · simp [List.removeAll, ha, List.eraseDups_cons]

/-- Members without repetition stand in the order in which they first occur. -/
theorem pairwise_idxOf_eraseDups (as : List α) :
    as.eraseDups.Pairwise fun a b => as.idxOf a < as.idxOf b := by
  -- What is put at the end changes no place before it; in front it would move all of them.
  induction as using List.reverseRecOn with
  | nil => exact List.Pairwise.nil
  | append_singleton as c ih =>
    have hearlier : as.eraseDups.Pairwise fun a b =>
        (as ++ [c]).idxOf a < (as ++ [c]).idxOf b := by
      refine ih.imp_of_mem fun {a b} ha hb hlt => ?_
      rw [List.idxOf_append_of_mem (List.mem_eraseDups.mp ha),
        List.idxOf_append_of_mem (List.mem_eraseDups.mp hb)]
      exact hlt
    rw [eraseDups_concat]
    split
    · exact hearlier
    · rename_i hc
      rw [List.pairwise_append]
      refine ⟨hearlier, List.pairwise_singleton _ _, fun a ha b hb => ?_⟩
      obtain rfl := List.mem_singleton.mp hb
      have hlt := List.idxOf_lt_length_of_mem (List.mem_eraseDups.mp ha)
      rw [List.idxOf_append_of_mem (List.mem_eraseDups.mp ha), List.idxOf_append_of_notMem hc]
      omega

/-- So there is no repetition. -/
theorem nodup_eraseDups (as : List α) : as.eraseDups.Nodup := by
  refine (pairwise_idxOf_eraseDups as).imp fun hlt heq => ?_
  rw [heq] at hlt
  exact absurd hlt (Nat.lt_irrefl _)

/-- Something is left of every list that is not empty. -/
theorem eraseDups_eq_nil_iff {as : List α} : as.eraseDups = [] ↔ as = [] := by
  cases as with
  | nil => exact iff_of_true rfl rfl
  | cons a as => simp [List.eraseDups_cons]

end EraseDups

/-- An update that changes nothing of the value leaves the map as it is. -/
theorem OrderedMap.alter_eq_self {α β : Type} [BEq α] {m : OrderedMap α β} {k : α} {v : β}
    {f : Option β → β} (hv : m.find? k = some v) (hf : f (some v) = v) : m.alter k f = m := by
  obtain ⟨entries⟩ := m
  unfold alter
  congr 1
  change lookup k entries = some v at hv
  induction entries with
  | nil => cases hv
  | cons e entries ih =>
    rw [lookup] at hv
    rw [alterEntries]
    split at hv
    · rename_i hkey
      rw [if_pos hkey]
      obtain rfl := Option.some.inj hv
      rw [hf]
    · rename_i hkey
      rw [if_neg hkey, ih hv]

namespace TypeIndex

/-! ## Pairs -/

section Pairs

variable {ν : Type} {index : TypeIndex ν} {pairs : List (TypeKey × ν)} {t u : TypeKey} {n : ν}

/-- The nodes that stand beside a type that equals the given one. -/
def nodesBeside (pairs : List (TypeKey × ν)) (t : TypeKey) : List ν :=
  (pairs.filter (·.1 == t)).map (·.2)

/-- A node stands beside a type if it does so beside one that equals it. -/
theorem mem_nodesBeside_iff : n ∈ nodesBeside pairs t ↔ ∃ u, (u, n) ∈ pairs ∧ (u == t) = true := by
  unfold nodesBeside
  rw [List.mem_map]
  constructor
  · rintro ⟨⟨u, m⟩, hmem, rfl⟩
    exact ⟨u, List.mem_filter.mp hmem⟩
  · rintro ⟨u, hmem⟩
    exact ⟨(u, n), List.mem_filter.mpr hmem, rfl⟩

/-- Equal types have the same nodes beside them. -/
theorem nodesBeside_congr (pairs : List (TypeKey × ν)) (h : (t == u) = true) :
    nodesBeside pairs t = nodesBeside pairs u := by
  unfold nodesBeside
  simp only [BEq.congr_right h]

/-- A pair at the end adds its node if the type equals the given one. -/
theorem nodesBeside_concat (pairs : List (TypeKey × ν)) (t : TypeKey) (n : ν) (u : TypeKey) :
    nodesBeside (pairs ++ [(t, n)]) u =
      nodesBeside pairs u ++ if (t == u) = true then [n] else [] := by
  unfold nodesBeside
  rw [List.filter_append, List.map_append, List.filter_singleton]
  cases t == u with
  | true => rfl
  | false => rfl

/-- Some pair has an equal type exactly if there are nodes beside it. -/
theorem contains_iff_nodesBeside :
    (pairs.map (·.1)).contains t = true ↔ nodesBeside pairs t ≠ [] := by
  rw [List.contains_iff_exists_mem_beq]
  constructor
  · rintro ⟨u, hu, htu⟩
    obtain ⟨⟨_, n⟩, hp, rfl⟩ := List.mem_map.mp hu
    exact List.ne_nil_of_mem (mem_nodesBeside_iff.mpr ⟨_, hp, BEq.symm htu⟩)
  · intro hne
    obtain ⟨n, hn⟩ := List.exists_mem_of_ne_nil _ hne
    obtain ⟨u, hp, hu⟩ := mem_nodesBeside_iff.mp hn
    exact ⟨u, List.mem_map_of_mem hp, BEq.symm hu⟩

/-- An index has a type exactly if it lists one that equals it. -/
theorem contains_eq_contains_types (index : TypeIndex ν) (t : TypeKey) :
    index.contains t = index.types.contains t :=
  OrderedMap.contains_eq_contains_keys index.table t

end Pairs

variable {ν : Type} [DecidableEq ν] {index : TypeIndex ν} {pairs : List (TypeKey × ν)}
  {t u : TypeKey} {n : ν}

/-! ## One addition -/

/-- A node that is there already is added without effect. -/
theorem add_eq_self (h : n ∈ index.nodes t) : index.add t n = index := by
  unfold nodes at h
  cases hfound : index.table.find? t with
  | none =>
    rw [hfound] at h
    cases h
  | some ns =>
    rw [hfound] at h
    have honce : addOnce n ns = ns := if_pos h
    exact congrArg TypeIndex.mk (OrderedMap.alter_eq_self hfound honce)

/-- After an addition the node is there, for every equal type. -/
theorem mem_nodes_add (index : TypeIndex ν) (n : ν) (h : (t == u) = true) :
    n ∈ (index.add t n).nodes u := by
  rw [nodes_add, if_pos h, addOnce]
  split
  · assumption
  · exact List.mem_append_right _ (List.mem_singleton_self n)

/-- What is known of a type other than that of an addition stays as it is. -/
theorem contains_add_of_ne (hne : (t == u) = false) :
    (index.add t n).contains u = index.contains u := by
  unfold contains add OrderedMap.contains
  rw [OrderedMap.find?_alter, if_neg (by rw [hne]; exact Bool.false_ne_true)]

/-- The types from before stand in front. -/
theorem types_prefix_add (index : TypeIndex ν) (t : TypeKey) (n : ν) :
    index.types <+: (index.add t n).types := by
  rw [types_add]
  split
  · exact List.prefix_rfl
  · exact List.prefix_append _ _

/-! ## A row of additions -/

/-- The index to which the pairs were added in their order. -/
def ofPairs (pairs : List (TypeKey × ν)) : TypeIndex ν :=
  pairs.foldl (fun index p => index.add p.1 p.2) .empty

/-- The index lists the types of the pairs and the nodes beside them, without repetition. -/
structure Refines (index : TypeIndex ν) (pairs : List (TypeKey × ν)) : Prop where
  /-- The types are listed without those that equal an earlier one. -/
  types : index.types = TypeKey.distinct (pairs.map (·.1))
  /-- The nodes of a type are those beside equal types. -/
  nodes : ∀ t, index.nodes t = (nodesBeside pairs t).eraseDups

/-- The empty index stands for no pairs. -/
theorem refines_empty : Refines (.empty : TypeIndex ν) [] := ⟨rfl, fun _ => rfl⟩

/-- An addition puts its pair at the end. -/
theorem Refines.add (h : index.Refines pairs) (t : TypeKey) (n : ν) :
    (index.add t n).Refines (pairs ++ [(t, n)]) where
  types := by
    rw [types_add, h.types, List.map_append, List.map_singleton, TypeKey.distinct_concat]
  nodes u := by
    rw [nodes_add, nodesBeside_concat]
    by_cases htu : (t == u) = true
    · -- The nodes that the addition finds for its own type are those of the equal one.
      rw [if_pos htu, if_pos htu, h.nodes, nodesBeside_congr pairs htu, eraseDups_concat, addOnce]
      simp only [List.mem_eraseDups]
    · rw [if_neg htu, if_neg htu, List.append_nil, h.nodes]

/-- A row of additions leads to all its pairs. -/
theorem refines_ofPairs (pairs : List (TypeKey × ν)) : (ofPairs pairs).Refines pairs := by
  induction pairs using List.reverseRecOn with
  | nil => exact refines_empty
  | append_singleton pairs p ih =>
    have hlast : ofPairs (pairs ++ [p]) = (ofPairs pairs).add p.1 p.2 := by
      unfold ofPairs
      rw [List.foldl_append, List.foldl_cons, List.foldl_nil]
    rw [hlast]
    exact ih.add p.1 p.2

/-! ## What the pairs tell -/

/-- What the index of some pairs answers is told by the pairs. -/
structure Represents (index : TypeIndex ν) (pairs : List (TypeKey × ν)) : Prop where
  /-- Every type of the pairs equals one that is listed. -/
  complete : ∀ p ∈ pairs, ∃ t ∈ index.types, (p.1 == t) = true
  /-- A type is listed in the form of the first one that equals it. -/
  firstSeen : ∀ t ∈ index.types, (pairs.map (·.1)).find? (· == t) = some t
  /-- No two types that are listed are equal. -/
  distinct : index.types.Pairwise fun s t => (s == t) = false
  /-- They stand in the order in which they were first seen. -/
  typeOrder : index.types.Pairwise fun s t =>
    (pairs.map (·.1)).findIdx (· == s) < (pairs.map (·.1)).findIdx (· == t)
  /-- The nodes of a type are those that were added for one that equals it. -/
  nodes : ∀ t n, n ∈ index.nodes t ↔ ∃ u, (u, n) ∈ pairs ∧ (u == t) = true
  /-- None is repeated. -/
  nodup : ∀ t, (index.nodes t).Nodup
  /-- They stand in the order in which they were first added for such a type. -/
  nodeOrder : ∀ t, (index.nodes t).Pairwise fun m n =>
    (nodesBeside pairs t).idxOf m < (nodesBeside pairs t).idxOf n
  /-- The index has a type exactly if there are nodes for it. -/
  contains_iff_nodes : ∀ t, index.contains t = true ↔ index.nodes t ≠ []
  /-- It has a type exactly if it lists one that equals it. -/
  contains_iff_types : ∀ t, index.contains t = true ↔ ∃ u ∈ index.types, (t == u) = true
  /-- It has as many types as it lists. -/
  size : index.size = index.types.length
  /-- An addition for one type leaves all others as they are. -/
  others : ∀ t n u, (t == u) = false →
    (index.add t n).nodes u = index.nodes u ∧ (index.add t n).contains u = index.contains u
  /-- The types from before keep their places and their forms. -/
  kept : ∀ t n, index.types <+: (index.add t n).types
  /-- A node that was added for an equal type is added again without any effect. -/
  repeated : ∀ t n u, (u, n) ∈ pairs → (u == t) = true → index.add t n = index
  /-- In particular nothing is added by doing so twice in a row. -/
  twice : ∀ t n u, (t == u) = true → (index.add t n).add u n = index.add t n

/-- An index that lists the types and nodes of some pairs is told by them. -/
theorem Refines.represents (h : index.Refines pairs) : index.Represents pairs where
  complete p hp := by
    rw [h.types]
    have hcontains : (TypeKey.distinct (pairs.map (·.1))).contains p.1 = true := by
      rw [TypeKey.contains_distinct]
      exact TypeKey.contains_of_beq (List.mem_map_of_mem hp) (BEq.refl p.1)
    exact List.contains_iff_exists_mem_beq.mp hcontains
  firstSeen t ht := by
    rw [h.types] at ht
    exact TypeKey.find?_of_mem_distinct ht
  distinct := by
    rw [h.types]
    exact TypeKey.pairwise_distinct _
  typeOrder := by
    rw [h.types]
    exact TypeKey.pairwise_findIdx_distinct _
  nodes t n := by rw [h.nodes, List.mem_eraseDups, mem_nodesBeside_iff]
  nodup t := by
    rw [h.nodes]
    exact nodup_eraseDups _
  nodeOrder t := by
    rw [h.nodes]
    exact pairwise_idxOf_eraseDups _
  contains_iff_nodes t := by
    rw [contains_eq_contains_types, h.types, TypeKey.contains_distinct, contains_iff_nodesBeside,
      h.nodes, Ne, Ne, eraseDups_eq_nil_iff]
  contains_iff_types t := by
    rw [contains_eq_contains_types, List.contains_iff_exists_mem_beq]
  size := by
    unfold TypeIndex.size TypeIndex.types OrderedMap.size OrderedMap.keys
    rw [List.length_map]
  others t n u hne := by
    refine ⟨?_, contains_add_of_ne hne⟩
    rw [nodes_add, if_neg (by rw [hne]; exact Bool.false_ne_true)]
  kept t n := types_prefix_add index t n
  repeated t n u hmem hut := by
    -- The index is left as it is once it lists the node, whichever type it was added for.
    refine add_eq_self ?_
    rw [h.nodes, List.mem_eraseDups]
    exact mem_nodesBeside_iff.mpr ⟨u, hmem, hut⟩
  twice t n u htu := add_eq_self (mem_nodes_add index n htu)

/-- The index to which some pairs were added is told by them, whatever types and nodes they have and
in whichever order they stand. -/
theorem represents_ofPairs (pairs : List (TypeKey × ν)) : (ofPairs pairs).Represents pairs :=
  (refines_ofPairs pairs).represents

/-- What is known of the methods of a type does not matter to which nodes it has. -/
example :
    (ofPairs [(.named "Job" "m", 1), (.basic "int", 1), (.named "Job" "m" [⟨"run", 0, 0⟩], 2),
      (.named "Job" "m", 1)]).nodes (.named "Job" "m" [⟨"stop", 0, 0⟩]) = [1, 2] := by
  decide

end TypeIndex

end Wiring
