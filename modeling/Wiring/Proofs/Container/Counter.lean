import Wiring.Proofs.Container.Ledger

/-!
# No number is left out or given twice

The numbers of what the stores of a ledger hold are all those below the next one, each once
(`Numbered`). A node is entered by moving the counter on and putting the number into one store, so
each change keeps this (`Numbered.enter`), and with it every operation, failing ones included.

The list of all nodes is sorted by the numbers, so it has them from zero on without a gap, and what
is entered later stands behind it: `Reachable.numbering` puts this together with what becomes of the
nodes in all that can be done later.
-/

namespace Wiring.Ledger

open Container (Operation)
open Relation

variable {l l' : Ledger} {role : Role} {n : Node} {ns : List Node}

/-! ## The numbers that were given out -/

/-- The numbers of what the stores hold. -/
def ids (l : Ledger) : List Nat :=
  l.missing?.toList ++ l.providers.map (·.id) ++ (l.root?.map (·.id)).toList

/-- The numbers that were given out are in use, each once. -/
structure Numbered (l : Ledger) : Prop where
  /-- The stores hold all numbers below the next one, each once. -/
  perm : l.ids.Perm (List.range l.nextId)
  /-- Providers have ascending numbers in the order of their insertion. -/
  ascending : l.providers.Pairwise fun s t => s.id < t.id

/-- Nothing is numbered at first. -/
theorem Numbered.new (rootMethod : String) (tag : Nat) : (new rootMethod tag).Numbered :=
  ⟨List.Perm.nil, List.Pairwise.nil⟩

/-- What is entered takes the next number. -/
theorem ids_enter (h : l.Allows role) : (l.enter role).ids.Perm (l.ids ++ [l.nextId]) := by
  cases role with
  | provider p =>
    -- The new number stands in front of that of the root.
    show (l.missing?.toList ++ (l.providers ++ [(⟨l.nextId, p⟩ : Stamped Provider)]).map (·.id) ++
      (l.root?.map (·.id)).toList).Perm _
    rw [List.map_append, ← List.append_assoc, List.append_assoc]
    unfold ids
    rw [List.append_assoc _ (l.root?.map _).toList]
    exact List.perm_append_comm.append_left _
  | root type =>
    have hnone : l.root? = none := h
    unfold ids
    rw [hnone]
    exact List.Perm.of_eq (by simp [enter])
  | missing =>
    -- The new number stands in front of all others.
    have hnone : l.missing? = none := h
    show ([l.nextId] ++ l.providers.map (·.id) ++ (l.root?.map (·.id)).toList).Perm _
    unfold ids
    rw [hnone, Option.toList_none, List.nil_append, List.append_assoc]
    exact List.perm_append_comm

/-- Entering a node keeps the numbers in order. -/
theorem Numbered.enter (h : l.Numbered) (hallowed : l.Allows role) : (l.enter role).Numbered where
  perm := by
    have hnext : (l.enter role).nextId = l.nextId + 1 := by cases role <;> rfl
    rw [hnext, List.range_succ]
    exact (ids_enter hallowed).trans (h.perm.append_right _)
  ascending := by
    cases role with
    | root type => exact h.ascending
    | missing => exact h.ascending
    | provider p =>
      -- All numbers given out before are smaller.
      refine List.pairwise_append.mpr ⟨h.ascending, List.pairwise_singleton _ _, fun s hs t ht => ?_⟩
      have hmem : s.id ∈ l.ids :=
        List.mem_append_left _ (List.mem_append_right _ (List.mem_map_of_mem hs))
      rw [List.mem_singleton.mp ht]
      exact List.mem_range.mp (h.perm.mem_iff.mp hmem)

/-- A row of changes keeps the numbers in order. -/
theorem Numbered.grows (h : l.Numbered) (hgrows : l.Grows l') : l'.Numbered := by
  induction hgrows with
  | refl => exact h
  | tail _ hchange ih =>
    obtain ⟨role, hallowed, rfl⟩ := hchange
    exact ih.enter hallowed

/-- Every reachable ledger has its numbers in order. -/
theorem Reachable.numbered (h : l.Reachable) : l.Numbered := by
  obtain ⟨rootMethod, tag, ops, rfl⟩ := h
  exact (Numbered.new rootMethod tag).grows (grows_after _ ops)

/-- A reachable ledger stays reachable when the missing node is made. -/
theorem Reachable.withMissing (h : l.Reachable) : l.withMissing.Reachable := by
  obtain ⟨rootMethod, tag, ops, rfl⟩ := h
  refine ⟨rootMethod, tag, ops ++ [.query .nodes], ?_⟩
  unfold after
  rw [List.foldl_append]
  exact congrArg Prod.snd (nodes_run _)

/-- The nodes in the stores have the numbers that the stores hold. -/
theorem map_id_known (l : Ledger) : l.known.map (·.id) = l.ids.map Int.ofNat := by
  unfold known ids missingNode? providerNodes rootNode?
  rw [List.map_append, List.map_append, List.map_append, List.map_append, List.map_map,
    List.map_map]
  congr 1
  · congr 1
    cases l.missing? <;> rfl
  · cases l.root? <;> rfl

/-- A node in the stores has a number that was given out. -/
theorem Numbered.has (h : l.Numbered) (hn : n ∈ l.known) : l.has n = true := by
  have howner : n.owner = l.tag := by
    unfold known missingNode? providerNodes rootNode? at hn
    simp only [List.mem_append, Option.mem_toList, Option.map_eq_some_iff, List.mem_map] at hn
    obtain (⟨_, -, rfl⟩ | ⟨_, -, rfl⟩) | ⟨_, -, rfl⟩ := hn <;> rfl
  obtain ⟨i, hi, hid⟩ : ∃ i ∈ l.ids, Int.ofNat i = n.id := by
    rw [← List.mem_map, ← map_id_known]
    exact List.mem_map_of_mem hn
  have hlt : i < l.nextId := List.mem_range.mp (h.perm.mem_iff.mp hi)
  unfold Ledger.has Node.idInRange
  rw [howner, ← hid]
  simp [hlt]

/-! ## The list of all nodes -/

/-- Sorting loses no node and repeats none. -/
theorem inOrder_perm (ns : List Node) : (inOrder ns).Perm ns := List.mergeSort_perm _ _

/-- Sorted nodes have ascending numbers. -/
theorem pairwise_inOrder (ns : List Node) : (inOrder ns).Pairwise fun m n => m.id ≤ n.id := by
  have hsorted : (inOrder ns).Pairwise fun m n => decide (m.id ≤ n.id) = true := by
    refine List.pairwise_mergeSort ?_ ?_ ns
    · simp only [decide_eq_true_eq]
      exact fun _ _ _ => le_trans
    · simp only [Bool.or_eq_true, decide_eq_true_eq]
      exact fun m n => le_total m.id n.id
  exact hsorted.imp fun h => of_decide_eq_true h

/-- The sorted nodes of a ledger are numbered from zero on. -/
theorem Numbered.map_id_inOrder (h : l.Numbered) :
    (inOrder l.known).map (·.id) = (List.range l.nextId).map Int.ofNat := by
  have hperm : ((inOrder l.known).map (·.id)).Perm ((List.range l.nextId).map Int.ofNat) := by
    refine ((inOrder_perm _).map _).trans ?_
    rw [map_id_known]
    exact h.perm.map _
  have hsorted : ((inOrder l.known).map (·.id)).Pairwise (· ≤ ·) :=
    List.pairwise_map.mpr (pairwise_inOrder _)
  have hrange : ((List.range l.nextId).map Int.ofNat).Pairwise (· ≤ ·) :=
    List.pairwise_map.mpr (List.pairwise_lt_range.imp fun hlt => Int.ofNat_le.mpr hlt.le)
  exact hperm.eq_of_pairwise (fun _ _ _ _ => le_antisymm) hsorted hrange

/-- There are as many nodes as numbers were given out. -/
theorem Numbered.length_inOrder (h : l.Numbered) : (inOrder l.known).length = l.nextId := by
  rw [← List.length_map (f := (·.id)), h.map_id_inOrder, List.length_map, List.length_range]

/-- The place of a sorted node is its number. -/
theorem Numbered.id_getElem_inOrder (h : l.Numbered) {i : Nat}
    (hi : i < (inOrder l.known).length) : (inOrder l.known)[i].id = i := by
  have hlt : i < l.nextId := by rwa [h.length_inOrder] at hi
  have hget := congrArg (·[i]?) h.map_id_inOrder
  simpa [List.getElem?_map, List.getElem?_eq_getElem hi, List.getElem?_range hlt] using hget

/-- No node in the stores has a negative number. -/
theorem id_nonneg_of_mem_known (hn : n ∈ l.known) : 0 ≤ n.id := by
  have hid : n.id ∈ l.ids.map Int.ofNat := by
    rw [← map_id_known]
    exact List.mem_map_of_mem hn
  obtain ⟨i, -, hi⟩ := List.mem_map.mp hid
  rw [← hi]
  exact Int.natCast_nonneg i

/-- The numbers of all nodes can be asked for. -/
theorem Numbered.map_number_inOrder (h : l.Numbered) :
    (inOrder l.known).map Node.number = (List.range l.nextId).map .ok := by
  have hnumber : (inOrder l.known).map Node.number =
      ((inOrder l.known).map (·.id)).map fun id => .ok id.toNat := by
    rw [List.map_map]
    refine List.map_congr_left fun n hn => if_neg ?_
    exact not_lt.mpr (id_nonneg_of_mem_known ((inOrder_perm _).mem_iff.mp hn))
  rw [hnumber, h.map_id_inOrder, List.map_map]
  exact List.map_congr_left fun i _ => rfl

/-- A number has one node. -/
theorem Numbered.eq_of_id_eq {m : Node} (h : l.Numbered) (hm : m ∈ l.known) (hn : n ∈ l.known)
    (hid : m.id = n.id) : m = n := by
  have hnodup : (l.known.map (·.id)).Nodup := by
    rw [map_id_known]
    exact (h.perm.nodup_iff.mpr List.nodup_range).map fun _ _ => Int.ofNat.inj
  exact List.inj_on_of_nodup_map hnodup hm hn hid

/-! ## What is made stays -/

/-- All nodes of `l` are still there in `l'` and are what they were. -/
structure Keeps (l l' : Ledger) : Prop where
  /-- It is the same container. -/
  tag : l'.tag = l.tag
  /-- Numbers are not taken back. -/
  nextId : l.nextId ≤ l'.nextId
  /-- Later providers stand behind the earlier ones. -/
  providers : l.providers <+: l'.providers
  /-- The root is never replaced. -/
  root : ∀ r, l.root? = some r → l'.root? = some r
  /-- The missing node is never replaced. -/
  missing : ∀ id, l.missing? = some id → l'.missing? = some id
  /-- What belongs to the container goes on to do so. -/
  has : ∀ n, l.has n = true → l'.has n = true

/-- A ledger keeps its own nodes. -/
theorem Keeps.refl (l : Ledger) : l.Keeps l :=
  ⟨rfl, le_refl _, List.prefix_refl _, fun _ h => h, fun _ h => h, fun _ h => h⟩

/-- What is kept over two stretches is kept over both together. -/
theorem Keeps.trans {l₁ l₂ l₃ : Ledger} (h : l₁.Keeps l₂) (h' : l₂.Keeps l₃) : l₁.Keeps l₃ where
  tag := h'.tag.trans h.tag
  nextId := h.nextId.trans h'.nextId
  providers := h.providers.trans h'.providers
  root r hr := h'.root r (h.root r hr)
  missing id hid := h'.missing id (h.missing id hid)
  has n hn := h'.has n (h.has n hn)

/-- What belongs to a container also does when a number more is given out there. -/
theorem has_of_nextId (htag : l'.tag = l.tag) (hnext : l'.nextId = l.nextId + 1)
    (hn : l.has n = true) : l'.has n = true := by
  unfold Ledger.has Node.idInRange at hn ⊢
  rw [htag, hnext]
  simp only [Bool.and_eq_true, decide_eq_true_eq] at hn ⊢
  obtain ⟨howner, hnonneg, hlt⟩ := hn
  refine ⟨howner, hnonneg, ?_⟩
  push_cast
  omega

/-- Entering an allowed node keeps all others. -/
theorem keeps_enter (hallowed : l.Allows role) : l.Keeps (l.enter role) where
  tag := by cases role <;> rfl
  nextId := by cases role <;> exact Nat.le_succ _
  providers := by
    cases role with
    | provider p => exact List.prefix_append _ _
    | root type => exact List.prefix_refl _
    | missing => exact List.prefix_refl _
  root r hr := by
    cases role with
    | provider p => exact hr
    | missing => exact hr
    | root type =>
      -- The store is empty, or the root could not be entered.
      have hnone : l.root? = none := hallowed
      rw [hnone] at hr
      cases hr
  missing id hid := by
    cases role with
    | provider p => exact hid
    | root type => exact hid
    | missing =>
      have hnone : l.missing? = none := hallowed
      rw [hnone] at hid
      cases hid
  has _ hn := by
    cases role <;> exact has_of_nextId (l := l) rfl rfl hn

/-- A row of changes keeps all nodes. -/
theorem Grows.keeps (h : l.Grows l') : l.Keeps l' := by
  induction h with
  | refl => exact Keeps.refl l
  | tail _ hchange ih =>
    obtain ⟨role, hallowed, rfl⟩ := hchange
    exact ih.trans (keeps_enter hallowed)

/-- What is in the stores stays there. -/
theorem Keeps.known_subset (h : l.Keeps l') : l.known ⊆ l'.known := by
  have hnodeOf : l'.nodeOf = l.nodeOf := by
    funext id role
    unfold nodeOf
    rw [h.tag]
  intro n hn
  unfold known missingNode? providerNodes rootNode? at hn ⊢
  rw [hnodeOf]
  simp only [List.mem_append, Option.mem_toList, Option.map_eq_some_iff, List.mem_map] at hn ⊢
  obtain (⟨id, hid, rfl⟩ | ⟨s, hs, rfl⟩) | ⟨r, hr, rfl⟩ := hn
  · exact Or.inl (Or.inl ⟨id, h.missing id hid, rfl⟩)
  · exact Or.inl (Or.inr ⟨s, h.providers.subset hs, rfl⟩)
  · exact Or.inr ⟨r, h.root r hr, rfl⟩

/-- Later nodes stand behind the earlier ones when all are sorted. -/
theorem Keeps.inOrder_isPrefixOf (h : l.Keeps l') (hl : l.Numbered) (hl' : l'.Numbered) :
    inOrder l.known <+: inOrder l'.known := by
  have hle := h.nextId
  rw [List.prefix_iff_eq_take]
  refine List.ext_getElem ?_ fun i hi hi' => ?_
  · rw [List.length_take, hl.length_inOrder, hl'.length_inOrder]
    omega
  · rw [List.getElem_take]
    -- The nodes at a place have the same number, and the earlier one is still there.
    refine hl'.eq_of_id_eq (h.known_subset ((inOrder_perm _).mem_iff.mp (List.getElem_mem hi)))
      ((inOrder_perm _).mem_iff.mp (List.getElem_mem _)) ?_
    rw [hl.id_getElem_inOrder, hl'.id_getElem_inOrder]

/-! ## The nodes that operations make -/

/-- The search for a root leaves the providers as they are. -/
theorem providers_detectRoot (l : Ledger) (types : List TypeKey) :
    ((detectRoot types).run.run l).2.providers = l.providers := by
  rcases detectRoot_run_snd l types with h | ⟨type, -, h⟩
  · rw [h]
  · rw [h]
    rfl

/-- The nodes that operations answer with are those that the stores take. -/
structure HandsOut (l : Ledger) : Prop where
  /-- A provider without a defect takes the next number, also if the search for a root then fails;
  no other provider takes one. -/
  providers : ∀ p, ((addProvider p).run.run l).2.providers =
    l.providers ++ if p.defect? = none then [⟨l.nextId, p⟩] else []
  /-- Its node is the answer, unless the operation fails. -/
  provider : ∀ p n, ((addProvider p).run.run l).1 = .ok n → n = l.nodeOf l.nextId (.provider p)
  /-- Setting the root answers with the root node. -/
  root : ∀ type n, ((setRoot type).run.run l).1 = .ok n →
    ((setRoot type).run.run l).2.rootNode? = some n
  /-- Asking for the missing node answers with the missing node. -/
  missing : (Ledger.missing.run l).2.missingNode? = some (Ledger.missing.run l).1

/-- Every ledger hands out the nodes that it takes into its stores. -/
theorem handsOut (l : Ledger) : l.HandsOut where
  providers p := by
    rw [addProvider_run_snd]
    cases p.defect? with
    | some defect => rw [if_neg (by simp), List.append_nil]
    | none =>
      dsimp only
      rw [providers_detectRoot, if_pos rfl]
      rfl
  provider p n hn := by
    rw [addProvider_run] at hn
    cases hdefect : p.defect? with
    | some defect =>
      rw [hdefect] at hn
      cases hn
    | none =>
      rw [hdefect] at hn
      dsimp only at hn
      generalize (detectRoot p.provides).run.run (l.enter (.provider p)) = r at hn
      obtain ⟨r, l'⟩ := r
      cases r with
      | ok _ => exact (Except.ok.inj hn).symm
      | error e => cases hn
  root type n hn := by
    rw [setRoot_run] at hn ⊢
    cases hroot : l.root? with
    | some existing =>
      rw [hroot] at hn
      cases hn
    | none =>
      rw [hroot] at hn
      exact congrArg some (Except.ok.inj hn)
  missing := by
    rw [missing_run]
    cases h : l.missing? with
    | some id =>
      rw [withMissing_eq_self h]
      unfold missingNode?
      rw [h]
      rfl
    | none =>
      rw [withMissing_eq_enter h]
      rfl

/-- The missing node is there once it has been asked for. -/
theorem isSome_missing?_withMissing (l : Ledger) : l.withMissing.missing?.isSome = true := by
  cases h : l.missing? with
  | some id => rw [withMissing_eq_self h, h]; rfl
  | none =>
    rw [withMissing_eq_enter h]
    rfl

/-! ## All nodes -/

/-- The nodes of a reachable container are numbered from zero on, without a gap or a repetition,
and whatever is done later, no node is lost or replaced. The list of all nodes has them in the order
of their numbers, which can be asked for without failure, and goes on to have them. -/
theorem Reachable.numbering (h : l.Reachable) (hrun : nodes.run l = (ns, l')) :
    l.Numbered ∧ l.HandsOut ∧ (∀ ops, l.Keeps (l.after ops)) ∧
      ns.map Node.number = (List.range l'.nextId).map .ok ∧ ns.Perm l'.known ∧
      l'.missing?.isSome = true ∧
      ∀ ops, (∀ n ∈ ns, (l'.after ops).has n = true) ∧ ns <+: (nodes.run (l'.after ops)).1 := by
  -- Asking for all nodes makes the missing node and nothing else.
  rw [nodes_run] at hrun
  obtain ⟨rfl, rfl⟩ : inOrder l.withMissing.known = ns ∧ l.withMissing = l' := Prod.mk.inj hrun
  have hmissing := h.withMissing.numbered
  refine ⟨h.numbered, handsOut l, fun ops => Grows.keeps (grows_after l ops),
    hmissing.map_number_inOrder, inOrder_perm _, isSome_missing?_withMissing l, fun ops => ?_⟩
  have hgrows := grows_after l.withMissing ops
  refine ⟨fun n hn => ?_, ?_⟩
  · exact (Grows.keeps hgrows).has n (hmissing.has ((inOrder_perm _).mem_iff.mp hn))
  · have hlater := hgrows.trans (grows_withMissing _)
    rw [nodes_run]
    exact (Grows.keeps hlater).inOrder_isPrefixOf hmissing (hmissing.grows hlater)

/-- A ledger after a query between two additions, a second root that is refused, and a method that
is refused as a provider. -/
def interrupted : Ledger :=
  (new "run" 0).after [.addProvider { name := "f", params := [.basic "B"], results := [.basic "A"] },
    .query .findCycle, .setRoot (.basic "A"), .setRoot (.basic "B"),
    .addProvider { name := "m", receiver := some (.basic "A") },
    .addProvider { name := "g", results := [.basic "B"] }]

/-- The missing node has the number one, and what is refused takes none. -/
theorem numbering_interrupted :
    (nodes.run interrupted).1.map Node.number = [.ok 0, .ok 1, .ok 2, .ok 3] :=
  (Reachable.numbering (l := interrupted) ⟨"run", 0, _, rfl⟩ rfl).2.2.2.1

end Wiring.Ledger
