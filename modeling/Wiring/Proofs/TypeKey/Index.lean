import Mathlib.Data.List.Basic
import Mathlib.Data.List.Induction
import Wiring.TypeKey.Index

/-!
# What an index holds after types were added

An index built up node by node answers for a type with the nodes that were added for an equal one
(`nodes_addAll`), and it lists the distinct types in the order in which they were first added
(`types_addAll`). Types are compared by `==` throughout, so `List.contains` takes the place of
membership.
-/

namespace Wiring

namespace TypeKey

/-! ## Distinct types -/

/-- The last type of a list is kept when no equal one stands before it. -/
theorem distinct_concat (ts : List TypeKey) (t : TypeKey) :
    distinct (ts ++ [t]) =
      if (distinct ts).contains t then distinct ts else distinct ts ++ [t] := by
  rw [distinct, List.foldl_append]
  rfl

/-- A list and its distinct types contain the same. -/
theorem contains_distinct (ts : List TypeKey) (t : TypeKey) :
    (distinct ts).contains t = ts.contains t := by
  induction ts using List.reverseRecOn with
  | nil => rfl
  | append_singleton ts u ih =>
    rw [distinct_concat]
    split
    · rename_i hu
      by_cases htu : (t == u) = true
      · -- The dropped type has an equal one before it.
        have hts : ts.contains t = true := by rw [← ih, List.contains_congr htu, hu]
        rw [List.contains_congr htu, hu]
        simp [hts]
      · simp [ih, htu]
    · simp [ih]

/-- What equals a type of a list is in the list. -/
theorem contains_of_beq {ts : List TypeKey} {s t : TypeKey} (hs : s ∈ ts)
    (h : (s == t) = true) : ts.contains t = true :=
  List.contains_iff_exists_mem_beq.mpr ⟨s, hs, BEq.symm h⟩

/-- No type of a list equals one that is not in the list. -/
theorem beq_eq_false_of_mem {ts : List TypeKey} {s t : TypeKey}
    (h : ¬ ts.contains t = true) (hs : s ∈ ts) : (s == t) = false := by
  rw [Bool.eq_false_iff]
  exact fun hst => h (contains_of_beq hs hst)

/-- No two distinct types are equal. -/
theorem pairwise_distinct (ts : List TypeKey) :
    (distinct ts).Pairwise fun s t => (s == t) = false := by
  induction ts using List.reverseRecOn with
  | nil => exact List.Pairwise.nil
  | append_singleton ts u ih =>
    rw [distinct_concat]
    split
    · exact ih
    · rename_i hu
      rw [List.pairwise_append]
      refine ⟨ih, List.pairwise_singleton _ _, ?_⟩
      intro s hs t ht
      rw [List.mem_singleton.mp ht]
      exact beq_eq_false_of_mem hu hs

/-- Each distinct type is the first one of the list that equals it. -/
theorem find?_of_mem_distinct {ts : List TypeKey} {t : TypeKey} (h : t ∈ distinct ts) :
    ts.find? (· == t) = some t := by
  induction ts using List.reverseRecOn with
  | nil => cases h
  | append_singleton ts u ih =>
    rw [distinct_concat] at h
    rw [List.find?_append]
    split at h
    · rw [ih h, Option.some_or]
    · rename_i hu
      rcases List.mem_append.mp h with h | h
      · rw [ih h, Option.some_or]
      · -- The type is the last one, and no equal one stands before it.
        obtain rfl := List.mem_singleton.mp h
        rw [contains_distinct] at hu
        have hnone : ts.find? (· == t) = none := by
          rw [List.find?_eq_none]
          exact fun s hs hst => hu (contains_of_beq hs hst)
        rw [hnone, Option.none_or, List.find?_singleton, if_pos (BEq.refl t)]

/-- A distinct type has its place within the list. -/
theorem findIdx_lt_length {ts : List TypeKey} {t : TypeKey} (h : t ∈ distinct ts) :
    ts.findIdx (· == t) < ts.length := by
  rw [List.findIdx_lt_length]
  exact ⟨t, List.mem_of_find?_eq_some (find?_of_mem_distinct h), BEq.refl t⟩

/-- More types do not change that place. -/
theorem findIdx_append {ts : List TypeKey} {t : TypeKey} (us : List TypeKey)
    (h : t ∈ distinct ts) : (ts ++ us).findIdx (· == t) = ts.findIdx (· == t) := by
  rw [List.findIdx_append, if_pos (findIdx_lt_length h)]

/-- The distinct types stand in the order of the places at which they first occur. -/
theorem pairwise_findIdx_distinct (ts : List TypeKey) :
    (distinct ts).Pairwise fun s t => ts.findIdx (· == s) < ts.findIdx (· == t) := by
  induction ts using List.reverseRecOn with
  | nil => exact List.Pairwise.nil
  | append_singleton ts u ih =>
    have hearlier : (distinct ts).Pairwise fun s t =>
        (ts ++ [u]).findIdx (· == s) < (ts ++ [u]).findIdx (· == t) := by
      refine ih.imp_of_mem fun {s t} hs ht hst => ?_
      rw [findIdx_append [u] hs, findIdx_append [u] ht]
      exact hst
    rw [distinct_concat]
    split
    · exact hearlier
    · rename_i hu
      rw [List.pairwise_append]
      refine ⟨hearlier, List.pairwise_singleton _ _, fun s hs t ht => ?_⟩
      obtain rfl := List.mem_singleton.mp ht
      rw [contains_distinct] at hu
      have hlast : ts.findIdx (· == t) = ts.length :=
        List.findIdx_eq_length.mpr fun s hs => beq_eq_false_of_mem hu hs
      have hlt := findIdx_lt_length hs
      rw [findIdx_append [t] hs, List.findIdx_append, hlast, if_neg (Nat.lt_irrefl _)]
      omega

end TypeKey

/-- A map has a key when an equal one stands among its keys. -/
theorem OrderedMap.contains_eq_contains_keys {α β : Type} [BEq α] [EquivBEq α]
    (m : OrderedMap α β) (k : α) : m.contains k = m.keys.contains k := by
  obtain ⟨entries⟩ := m
  unfold contains find? keys
  induction entries with
  | nil => rfl
  | cons e entries ih =>
    rw [List.map_cons, List.contains_cons, BEq.comm, lookup]
    by_cases he : (e.1 == k) = true
    · simp [he]
    · simp [he, ih]

/-- Equal keys have the same value. -/
theorem OrderedMap.find?_congr {α β : Type} [BEq α] [EquivBEq α] (m : OrderedMap α β) {k k' : α}
    (h : (k == k') = true) : m.find? k = m.find? k' := by
  obtain ⟨entries⟩ := m
  unfold find?
  induction entries with
  | nil => rfl
  | cons e entries ih =>
    rw [lookup, lookup, BEq.congr_right h, ih]

namespace TypeIndex

variable {ν : Type} [DecidableEq ν]

/-! ## Adding a node -/

/-- A type is listed when it is first added. -/
theorem types_add (index : TypeIndex ν) (t : TypeKey) (n : ν) :
    (index.add t n).types = if index.types.contains t then index.types else index.types ++ [t] := by
  rw [types, add, OrderedMap.keys_alter, OrderedMap.contains_eq_contains_keys]
  rfl

/-- An index that lists the distinct types of a list goes on to list those of the longer list. -/
theorem types_addAll {index : TypeIndex ν} {ts : List TypeKey} (us : List TypeKey) (n : ν)
    (h : index.types = TypeKey.distinct ts) :
    (index.addAll us n).types = TypeKey.distinct (ts ++ us) := by
  induction us generalizing index ts with
  | nil =>
    rw [List.append_nil]
    exact h
  | cons u us ih =>
    have hstep : (index.add u n).types = TypeKey.distinct (ts ++ [u]) := by
      rw [types_add, h, TypeKey.distinct_concat]
    rw [List.append_cons]
    exact ih hstep

/-- A node added twice in a row is there once. -/
theorem addOnce_addOnce (n : ν) (ns : List ν) : addOnce n (addOnce n ns) = addOnce n ns := by
  unfold addOnce
  split
  · rfl
  · rw [if_pos (by simp)]

/-- Adding a node for the types of a list adds it to the nodes of these types and no others. -/
theorem nodes_addAll (index : TypeIndex ν) (us : List TypeKey) (n : ν) (t : TypeKey) :
    (index.addAll us n).nodes t =
      if us.contains t then addOnce n (index.nodes t) else index.nodes t := by
  induction us generalizing index with
  | nil => rfl
  | cons u us ih =>
    have hstep : (index.addAll (u :: us) n).nodes t = ((index.add u n).addAll us n).nodes t := rfl
    rw [hstep, ih, List.contains_cons, BEq.comm, nodes_add]
    by_cases hu : (u == t) = true
    · -- The look-up finds the node added for `u`, so a second `t` in the list adds nothing.
      have hnodes : index.nodes u = index.nodes t := by
        unfold nodes
        rw [OrderedMap.find?_congr index.table hu]
      by_cases hus : us.contains t = true
      · simp [hu, hus, hnodes, addOnce_addOnce]
      · simp [hu, hus, hnodes]
    · simp [hu]

/-! ## The index of a list of rows -/

/-- The index holds for each row of a list, numbered from zero, the types that `f` gives of it. -/
structure Lists {α : Type} (index : TypeIndex Nat) (f : α → List TypeKey) (rows : List α) :
    Prop where
  /-- The nodes of a type are the numbers of the rows that have it, in ascending order. -/
  nodes : ∀ t, index.nodes t = rows.findIdxs fun r => (f r).contains t
  /-- The types are those of the rows, in the order in which they first occur. -/
  types : index.types = TypeKey.distinct (rows.flatMap f)

/-- The empty index holds the types of no rows. -/
theorem Lists.empty {α : Type} (f : α → List TypeKey) : Lists .empty f [] :=
  ⟨fun _ => rfl, rfl⟩

/-- Adding the types of one more row under the next number keeps an index up to date. -/
theorem Lists.concat {α : Type} {index : TypeIndex Nat} {f : α → List TypeKey} {rows : List α}
    (h : index.Lists f rows) (r : α) :
    (index.addAll (f r) rows.length).Lists f (rows ++ [r]) where
  nodes t := by
    -- The number is new, so the node is added and stands last.
    have hnew : rows.length ∉ rows.findIdxs fun r => (f r).contains t := by
      intro hmem
      have hlt := List.lt_add_of_mem_findIdxs _ hmem
      omega
    rw [nodes_addAll, h.nodes, List.findIdxs_append, List.findIdxs_singleton, Nat.zero_add]
    split
    · rw [addOnce, if_neg hnew]
    · rw [List.append_nil]
  types := by
    rw [types_addAll _ _ h.types, List.flatMap_append, List.flatMap_singleton]

end TypeIndex

end Wiring
