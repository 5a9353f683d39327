import Wiring.Proofs.Declaration.MethodSet

/-!
# The search for method sets ends, whatever the classes inherit from

`Hierarchy.visit` may enter no more than a given number of classes one within another. `Search`
tells of the same search without such a bound: it is a finite run, step by step, through the bases
of classes. `exists_search` shows that a run that has come to a class while distinct known classes
are being visited is always carried through, since there are not enough classes for it to go on
forever. So the allowance of `methodSets` is never used up (`exists_search_methodSets`).

What is kept grows by one class at a time, and `Stores` says all that such a step can do. The
methods of the class are gathered from what is kept of its bases, and a known base of which nothing
is kept inherits from the class. Whatever a run keeps comes about by such steps
(`Search.searched`, `stores_methodSets`), so that properties of method sets are invariants of the
step, also where classes inherit from themselves. A class that none of its bases inherits from has
a method set that is gathered from those of its bases (`find?_methodSets_eq_gather`).
-/

namespace Wiring

open Relation

/-- Methods and, after them, those that are kept of bases and have new names, base by base. -/
def MethodSets.gather (memo : MethodSets) (methods : List MethodSignature) (bases : List ClassId) :
    List MethodSignature :=
  bases.foldl (fun methods base => addMethods methods ((memo.find? base).getD [])) methods

namespace MethodSets

variable {memo memo' : MethodSets} {methods : List MethodSignature} {bases : List ClassId}

/-- What is kept of the first base is added first. -/
theorem gather_cons (memo : MethodSets) (methods : List MethodSignature) (base : ClassId)
    (bases : List ClassId) :
    memo.gather methods (base :: bases) =
      memo.gather (addMethods methods ((memo.find? base).getD [])) bases := rfl

/-- What is gathered is what is added of all that is kept of the bases. -/
theorem gather_eq_addMethods (memo : MethodSets) (methods : List MethodSignature)
    (bases : List ClassId) :
    memo.gather methods bases =
      addMethods methods (bases.flatMap fun base => (memo.find? base).getD []) := by
  induction bases generalizing methods with
  | nil => rfl
  | cons base bases ih => rw [gather_cons, List.flatMap_cons, addMethods_append, ih]

/-- Only what is kept of the bases matters. -/
theorem gather_congr (h : ∀ base ∈ bases, memo.find? base = memo'.find? base) :
    memo.gather methods bases = memo'.gather methods bases := by
  have hmet : (bases.flatMap fun base => (memo.find? base).getD []) =
      bases.flatMap fun base => (memo'.find? base).getD [] :=
    List.flatMap_congr fun base hbase => by rw [h base hbase]
  rw [gather_eq_addMethods, gather_eq_addMethods, hmet]

/-- A base of which nothing is kept can be left out. -/
theorem gather_filter_ne {id : ClassId} (hnone : memo.find? id = none) :
    memo.gather methods (bases.filter (· != id)) = memo.gather methods bases := by
  induction bases generalizing methods with
  | nil => rfl
  | cons base bases ih =>
    by_cases hbase : base = id
    · subst hbase
      rw [List.filter_cons_of_neg (by simp), ih, gather_cons, hnone]
      rfl
    · rw [List.filter_cons_of_pos (by simpa using hbase), gather_cons, gather_cons, ih]

end MethodSets

namespace Hierarchy

/-! ## Runs of the search -/

/-- A run of the search through the bases of a class, with no bound on how deep it goes. It starts
with the methods found before and with what is kept; the classes of the first list are being
visited. It ends with the methods found and with what is kept then. The search for all classes is
that through the bases of a class which inherits from all of them. -/
inductive Search (h : Hierarchy) : List ClassId → List MethodSignature → List ClassId →
    MethodSets → List MethodSignature → MethodSets → Prop where
  /-- There are no more bases. -/
  | done {visiting methods memo} : Search h visiting methods [] memo methods memo
  /-- What is kept of the base is added. -/
  | kept {visiting methods base bases memo ms found memo'} (hkept : memo.find? base = some ms)
      (hrest : Search h visiting (addMethods methods ms) bases memo found memo') :
      Search h visiting methods (base :: bases) memo found memo'
  /-- The base is not known, or it is being visited. -/
  | passed {visiting methods base bases memo found memo'} (hnone : memo.find? base = none)
      (hpassed : h.find? base = none ∨ base ∈ visiting)
      (hrest : Search h visiting methods bases memo found memo') :
      Search h visiting methods (base :: bases) memo found memo'
  /-- The base is visited, and what is found for it is kept. -/
  | visited {visiting methods base bases memo body ms memo₁ found memo'}
      (hnone : memo.find? base = none) (hbody : h.find? base = some body)
      (hfresh : base ∉ visiting)
      (hbase : Search h (base :: visiting) body.methods body.bases memo ms memo₁)
      (hrest : Search h visiting (addMethods methods ms) bases (memo₁.insert base ms) found memo') :
      Search h visiting methods (base :: bases) memo found memo'

variable {h : Hierarchy} {visiting bases : List ClassId} {methods found : List MethodSignature}
  {memo memo' : MethodSets} {id : ClassId} {body : ClassBody}

/-- Distinct known classes are no more than there are. -/
theorem length_le_of_nodup (hnodup : visiting.Nodup)
    (hknown : ∀ v ∈ visiting, (h.find? v).isSome = true) : visiting.length ≤ h.size := by
  have hsub : visiting ⊆ h.keys := fun v hv => mem_keys_of_isSome (hknown v hv)
  have hlength : visiting.length ≤ h.keys.length := (hnodup.subperm hsub).length_le
  rwa [OrderedMap.keys, List.length_map] at hlength

/-- Whatever a run ends with, it ends with nothing else. -/
theorem Search.unique {found' : List MethodSignature} {memo'' : MethodSets}
    (hrun : h.Search visiting methods bases memo found memo')
    (hrun' : h.Search visiting methods bases memo found' memo'') :
    found = found' ∧ memo' = memo'' := by
  induction hrun generalizing found' memo'' with
  | done =>
    cases hrun' with
    | done => exact ⟨rfl, rfl⟩
  | kept hkept _ ih =>
    cases hrun' with
    | kept hkept' hrest' =>
      obtain rfl := Option.some.inj (hkept.symm.trans hkept')
      exact ih hrest'
    | passed hnone | visited hnone =>
      rw [hkept] at hnone
      cases hnone
  | passed hnone hpassed _ ih =>
    cases hrun' with
    | kept hkept =>
      rw [hnone] at hkept
      cases hkept
    | passed _ _ hrest' => exact ih hrest'
    | visited _ hbody hfresh =>
      rcases hpassed with hunknown | hvisiting
      · rw [hbody] at hunknown
        cases hunknown
      · exact absurd hvisiting hfresh
  | visited hnone hbody hfresh _ _ ihbase ih =>
    cases hrun' with
    | kept hkept =>
      rw [hnone] at hkept
      cases hkept
    | passed _ hpassed =>
      rcases hpassed with hunknown | hvisiting
      · rw [hbody] at hunknown
        cases hunknown
      · exact absurd hvisiting hfresh
    | visited _ hbody' _ hbase' hrest' =>
      obtain rfl := Option.some.inj (hbody.symm.trans hbody')
      obtain ⟨rfl, rfl⟩ := ihbase hbase'
      exact ih hrest'

/-- As long as the classes being visited and those still allowed within them are more than there
are, the bounded search goes through all bases: it is a run of the unbounded one. -/
theorem exists_search {depth : Nat} (hnodup : visiting.Nodup)
    (hknown : ∀ v ∈ visiting, (h.find? v).isSome = true) (hdepth : h.size < depth + visiting.length)
    (methods : List MethodSignature) (bases : List ClassId) (memo : MethodSets) :
    h.Search visiting methods bases memo
      ((h.inherit depth visiting methods bases).run memo).1
      ((h.inherit depth visiting methods bases).run memo).2 := by
  -- The allowance grows less with every class that is entered, the bases with every one passed.
  induction depth generalizing visiting methods bases memo with
  | zero =>
    have hlength : visiting.length ≤ h.size := length_le_of_nodup hnodup hknown
    omega
  | succ depth ihdepth =>
    induction bases generalizing methods memo with
    | nil => exact .done
    | cons base bases ih =>
      rw [inherit_run_cons, visit_run]
      cases hmemo : memo.find? base with
      | some ms => exact .kept hmemo (ih _ memo)
      | none =>
        cases hbody : h.find? base with
        | none => exact .passed hmemo (Or.inl hbody) (ih methods memo)
        | some body =>
          cases hvisiting : visiting.contains base with
          | true =>
            exact .passed hmemo (Or.inr (List.contains_iff_mem.mp hvisiting)) (ih methods memo)
          | false =>
            have hfresh : base ∉ visiting := by
              rw [← List.contains_iff_mem, hvisiting]
              exact Bool.false_ne_true
            have hnodup' : (base :: visiting).Nodup := List.nodup_cons.mpr ⟨hfresh, hnodup⟩
            have hknown' : ∀ v ∈ base :: visiting, (h.find? v).isSome = true := by
              intro v hv
              rcases List.mem_cons.mp hv with rfl | hv
              · rw [hbody]; rfl
              · exact hknown v hv
            have hdepth' : h.size < depth + (base :: visiting).length := by
              rw [List.length_cons]
              omega
            have hentered := ihdepth hnodup' hknown' hdepth' body.methods body.bases memo
            exact .visited hmemo hbody hfresh hentered (ih _ _)

/-- Visiting classes one after the other keeps what going through them as bases keeps. -/
theorem inherit_run_snd (h : Hierarchy) (depth : Nat) (ids : List ClassId)
    (methods : List MethodSignature) (memo : MethodSets) :
    ((h.inherit depth [] methods ids).run memo).2 =
      ((ids.forM fun id => do let _ ← visit h depth [] id).run memo).2 := by
  induction ids generalizing methods memo with
  | nil => rfl
  | cons id ids ih =>
    rw [inherit_run_cons]
    exact ih _ _

/-- The search for all classes is carried through, and it keeps the method sets. -/
theorem exists_search_methodSets (h : Hierarchy) :
    ∃ found, h.Search [] [] h.keys .empty found h.methodSets := by
  have hrun : h.Search [] [] h.keys .empty
      ((h.inherit (h.size + 1) [] [] h.keys).run .empty).1
      ((h.inherit (h.size + 1) [] [] h.keys).run .empty).2 :=
    exists_search List.nodup_nil (by simp) (Nat.lt_succ_self _) [] h.keys .empty
  rw [inherit_run_snd] at hrun
  exact ⟨_, hrun⟩

/-! ## What is kept grows step by step -/

/-- A class of which nothing is kept becomes known with its own methods and those gathered from its
bases. A known base of which nothing is kept either is the class or inherits from it. -/
inductive Stores (h : Hierarchy) (memo : MethodSets) : MethodSets → Prop where
  /-- The class has the given body. -/
  | store {id : ClassId} {body : ClassBody} (hbody : h.find? id = some body)
      (hnew : memo.find? id = none)
      (hbases : ∀ base ∈ body.bases, (h.find? base).isSome = true →
        (memo.find? base).isSome = true ∨ ReflTransGen h.Inherits base id) :
      Stores h memo (memo.insert id (memo.gather body.methods body.bases))

/-- A step leaves what is kept of any other class. -/
theorem find?_insert_of_ne {a : ClassId} (hne : a ≠ id) :
    (memo.insert a methods).find? id = memo.find? id := by
  rw [OrderedMap.find?_insert, if_neg (by simpa using hne)]

/-- Of the class that is stored its methods are kept. -/
theorem find?_insert_self : (memo.insert id methods).find? id = some methods := by
  rw [OrderedMap.find?_insert, if_pos (BEq.refl id)]

/-- What is kept stays as it is. -/
theorem Stores.find?_eq_some {ms : List MethodSignature} (hstep : h.Stores memo memo')
    (hkept : memo.find? id = some ms) : memo'.find? id = some ms := by
  cases hstep with
  | @store a body hbody hnew hbases =>
    have hne : a ≠ id := by
      rintro rfl
      rw [hnew] at hkept
      cases hkept
    rwa [find?_insert_of_ne hne]

/-- Nothing is kept of a class that is not known. -/
theorem Stores.find?_eq_none (hstep : h.Stores memo memo') (hunknown : h.find? id = none)
    (hnone : memo.find? id = none) : memo'.find? id = none := by
  cases hstep with
  | @store a body hbody hnew hbases =>
    have hne : a ≠ id := by
      rintro rfl
      rw [hunknown] at hbody
      cases hbody
    rwa [find?_insert_of_ne hne]

/-- What is kept stays as it is through all steps. -/
theorem find?_eq_some_of_stores {ms : List MethodSignature}
    (hsteps : ReflTransGen h.Stores memo memo') (hkept : memo.find? id = some ms) :
    memo'.find? id = some ms := by
  induction hsteps with
  | refl => exact hkept
  | tail _ hstep ih => exact hstep.find?_eq_some ih

/-- Nothing is ever kept of a class that is not known. -/
theorem find?_eq_none_of_stores (hsteps : ReflTransGen h.Stores memo memo')
    (hunknown : h.find? id = none) (hnone : memo.find? id = none) : memo'.find? id = none := by
  induction hsteps with
  | refl => exact hnone
  | tail _ hstep ih => exact hstep.find?_eq_none hunknown ih

/-- The methods that are kept of each class have a property. -/
def AllKept (P : ClassId → List MethodSignature → Prop) (memo : MethodSets) : Prop :=
  ∀ id methods, memo.find? id = some methods → P id methods

variable {P : ClassId → List MethodSignature → Prop}

/-- They have it as long as nothing is kept. -/
theorem allKept_empty : AllKept P .empty := by
  rintro id methods ⟨⟩

/-- Keeping methods with the property preserves it. -/
theorem AllKept.insert (hmemo : AllKept P memo) (hmethods : P id methods) :
    AllKept P (memo.insert id methods) := by
  intro k ms hk
  rw [OrderedMap.find?_insert] at hk
  split at hk
  · rename_i heq
    rw [← beq_iff_eq.mp heq, ← Option.some.inj hk]
    exact hmethods
  · exact hmemo k ms hk

/-- What a run leaves behind. -/
structure Searched (h : Hierarchy) (visiting : List ClassId) (methods : List MethodSignature)
    (bases : List ClassId) (memo : MethodSets) (found : List MethodSignature)
    (memo' : MethodSets) : Prop where
  /-- What is kept has grown step by step. -/
  steps : ReflTransGen h.Stores memo memo'
  /-- Nothing is kept yet of the classes being visited. -/
  pending : ∀ v ∈ visiting, memo'.find? v = none
  /-- The other bases that are known are kept. -/
  kept : ∀ base ∈ bases, (h.find? base).isSome = true → base ∉ visiting →
    (memo'.find? base).isSome = true
  /-- The methods are gathered from what is kept of the bases. -/
  found_eq : found = memo'.gather methods bases

/-- A base is gone through before the others. What is added for it is what is kept of it then. -/
theorem Searched.cons {memo₁ : MethodSets} {ms : List MethodSignature} {base : ClassId}
    (hrest : h.Searched visiting (addMethods methods ms) bases memo₁ found memo')
    (hsteps : ReflTransGen h.Stores memo memo₁) (hms : (memo'.find? base).getD [] = ms)
    (hbase : (h.find? base).isSome = true → base ∉ visiting → (memo'.find? base).isSome = true) :
    h.Searched visiting methods (base :: bases) memo found memo' where
  steps := hsteps.trans hrest.steps
  pending := hrest.pending
  kept b hb hknown hfresh := by
    rcases List.mem_cons.mp hb with rfl | hb
    · exact hbase hknown hfresh
    · exact hrest.kept b hb hknown hfresh
  found_eq := by rw [hrest.found_eq, MethodSets.gather_cons, hms]

/-- A run that starts while nothing is kept of the classes being visited, nor of unknown ones, does
nothing but store classes. The classes being visited inherit from all the bases. -/
theorem Search.searched (hrun : h.Search visiting methods bases memo found memo')
    (hchain : ∀ v ∈ visiting, ∀ base ∈ bases, TransGen h.Inherits v base)
    (hopen : ∀ v ∈ visiting, memo.find? v = none)
    (hunknown : ∀ id, h.find? id = none → memo.find? id = none) :
    h.Searched visiting methods bases memo found memo' := by
  induction hrun with
  | done => exact ⟨.refl, hopen, by simp, rfl⟩
  | @kept visiting methods base bases memo ms found memo' hkept _ ih =>
    have hrest : h.Searched visiting (addMethods methods ms) bases memo found memo' :=
      ih (fun v hv b hb => hchain v hv b (List.mem_cons_of_mem _ hb)) hopen hunknown
    have hkept' : memo'.find? base = some ms := find?_eq_some_of_stores hrest.steps hkept
    exact hrest.cons .refl (by rw [hkept']; rfl) (fun _ _ => by rw [hkept']; rfl)
  | @passed visiting methods base bases memo found memo' hnone hpassed _ ih =>
    have hrest : h.Searched visiting (addMethods methods []) bases memo found memo' :=
      ih (fun v hv b hb => hchain v hv b (List.mem_cons_of_mem _ hb)) hopen hunknown
    have hnone' : memo'.find? base = none := by
      rcases hpassed with hbase | hbase
      · exact find?_eq_none_of_stores hrest.steps hbase hnone
      · exact hrest.pending base hbase
    refine hrest.cons .refl (by rw [hnone']; rfl) fun hknown hfresh => ?_
    rcases hpassed with hbase | hbase
    · rw [hbase] at hknown
      cases hknown
    · exact absurd hbase hfresh
  | @visited visiting methods base bases memo body ms memo₁ found memo' hnone hbody hfresh _ _
      ihbase ih =>
    have hstepUp : ∀ b ∈ body.bases, h.Inherits base b := fun b hb => ⟨body, hbody, hb⟩
    have hentered : h.Searched (base :: visiting) body.methods body.bases memo ms memo₁ := by
      refine ihbase ?_ ?_ hunknown
      · intro v hv b hb
        rcases List.mem_cons.mp hv with rfl | hv
        · exact TransGen.single (hstepUp b hb)
        · exact (hchain v hv base List.mem_cons_self).tail (hstepUp b hb)
      · intro v hv
        rcases List.mem_cons.mp hv with rfl | hv
        · exact hnone
        · exact hopen v hv
    -- A base of which nothing is kept now is among the classes being visited.
    have hstore : h.Stores memo₁ (memo₁.insert base ms) := by
      rw [hentered.found_eq]
      refine .store hbody (hentered.pending base List.mem_cons_self) fun b hb hknown => ?_
      by_cases hvisiting : b ∈ base :: visiting
      · rcases List.mem_cons.mp hvisiting with rfl | hvisiting
        · exact Or.inr .refl
        · exact Or.inr (hchain b hvisiting base List.mem_cons_self).to_reflTransGen
      · exact Or.inl (hentered.kept b hb hknown hvisiting)
    have hsteps : ReflTransGen h.Stores memo (memo₁.insert base ms) := hentered.steps.tail hstore
    have hrest : h.Searched visiting (addMethods methods ms) bases (memo₁.insert base ms) found
        memo' := by
      refine ih (fun v hv b hb => hchain v hv b (List.mem_cons_of_mem _ hb)) ?_ ?_
      · intro v hv
        have hne : base ≠ v := fun heq => hfresh (heq ▸ hv)
        rw [find?_insert_of_ne hne]
        exact hentered.pending v (List.mem_cons_of_mem _ hv)
      · intro id hid
        exact find?_eq_none_of_stores hsteps hid (hunknown id hid)
    have hkept' : memo'.find? base = some ms :=
      find?_eq_some_of_stores hrest.steps find?_insert_self
    exact hrest.cons hsteps (by rw [hkept']; rfl) (fun _ _ => by rw [hkept']; rfl)

/-- The search for all classes leaves the method sets behind. -/
theorem searched_methodSets (h : Hierarchy) :
    ∃ found, h.Searched [] [] h.keys .empty found h.methodSets := by
  obtain ⟨found, hrun⟩ := exists_search_methodSets h
  exact ⟨found, hrun.searched (by simp) (by simp) fun _ _ => rfl⟩

/-- The method sets come about step by step from nothing. -/
theorem stores_methodSets (h : Hierarchy) : ReflTransGen h.Stores .empty h.methodSets := by
  obtain ⟨found, hsearched⟩ := searched_methodSets h
  exact hsearched.steps

/-- So what holds of nothing and is preserved by each step holds of them. -/
theorem holds_methodSets {I : MethodSets → Prop} (hempty : I .empty)
    (hpreserved : ∀ memo memo', h.Stores memo memo' → I memo → I memo') : I h.methodSets := by
  have hinvariant : ∀ memo, ReflTransGen h.Stores .empty memo → I memo := by
    intro memo hsteps
    induction hsteps with
    | refl => exact hempty
    | tail _ hstep ih => exact hpreserved _ _ hstep ih
  exact hinvariant _ h.stores_methodSets

/-- There is one for each known class and for no other. -/
theorem isSome_find?_methodSets (h : Hierarchy) (id : ClassId) :
    (h.methodSets.find? id).isSome = (h.find? id).isSome := by
  obtain ⟨found, hsearched⟩ := searched_methodSets h
  cases hbody : h.find? id with
  | none => rw [find?_eq_none_of_stores hsearched.steps hbody rfl]; rfl
  | some body =>
    have hknown : (h.find? id).isSome = true := by rw [hbody]; rfl
    exact hsearched.kept id (mem_keys_of_isSome hknown) hknown List.not_mem_nil

/-! ## The moment at which a class is stored -/

/-- If something is kept of a class in the end but not at first, there is a stage in between at
which the class is stored. -/
theorem exists_stage (hsteps : ReflTransGen h.Stores memo memo') (hbody : h.find? id = some body)
    (hbefore : memo.find? id = none) (hafter : (memo'.find? id).isSome = true) :
    ∃ stage, ReflTransGen h.Stores memo stage ∧ stage.find? id = none ∧
      (∀ base ∈ body.bases, (h.find? base).isSome = true →
        (stage.find? base).isSome = true ∨ ReflTransGen h.Inherits base id) ∧
      ReflTransGen h.Stores (stage.insert id (stage.gather body.methods body.bases)) memo' := by
  induction hsteps with
  | refl =>
    rw [hbefore] at hafter
    cases hafter
  | @tail memo₁ memo₂ hsteps hstep ih =>
    cases hkept : memo₁.find? id with
    | some methods =>
      obtain ⟨stage, hearlier, hnone, hbases, hlater⟩ := ih (by rw [hkept]; rfl)
      exact ⟨stage, hearlier, hnone, hbases, hlater.tail hstep⟩
    | none =>
      -- The last step stores the class, since it stores the only one that is kept after it only.
      cases hstep with
      | @store a body' hbody' hnew hbases =>
        by_cases ha : a = id
        · subst ha
          obtain rfl := Option.some.inj (hbody.symm.trans hbody')
          exact ⟨memo₁, hsteps, hkept, hbases, .refl⟩
        · rw [find?_insert_of_ne ha, hkept] at hafter
          cases hafter

/-- Once a class is stored, nothing more becomes known of it. So if none of its bases inherits from
it, the class itself aside, its method set is gathered from those of its bases. -/
theorem find?_methodSets_eq_gather (hbody : h.find? id = some body)
    (hbelow : ∀ base ∈ body.bases, ReflTransGen h.Inherits base id → base = id) :
    h.methodSets.find? id =
      some (h.methodSets.gather body.methods (body.bases.filter (· != id))) := by
  have hkept : (h.methodSets.find? id).isSome = true := by
    rw [isSome_find?_methodSets, hbody]
    rfl
  obtain ⟨stage, hearlier, hnone, hbases, hlater⟩ :=
    exists_stage h.stores_methodSets hbody rfl hkept
  have hagree : ∀ base ∈ body.bases.filter (· != id),
      stage.find? base = h.methodSets.find? base := by
    intro base hbase
    obtain ⟨hbase, hne⟩ := List.mem_filter.mp hbase
    have hne : base ≠ id := by simpa using hne
    cases hknown : h.find? base with
    | none =>
      rw [find?_eq_none_of_stores hearlier hknown rfl,
        find?_eq_none_of_stores h.stores_methodSets hknown rfl]
    | some above =>
      rcases hbases base hbase (by rw [hknown]; rfl) with hstage | hback
      · obtain ⟨methods, hstage⟩ := Option.isSome_iff_exists.mp hstage
        have hinserted : (stage.insert id (stage.gather body.methods body.bases)).find? base =
            some methods := by
          rw [find?_insert_of_ne (Ne.symm hne), hstage]
        rw [hstage, find?_eq_some_of_stores hlater hinserted]
      · exact absurd (hbelow base hbase hback) hne
  calc h.methodSets.find? id
      = some (stage.gather body.methods body.bases) :=
        find?_eq_some_of_stores hlater find?_insert_self
    _ = some (stage.gather body.methods (body.bases.filter (· != id))) := by
        rw [MethodSets.gather_filter_ne hnone]
    _ = some (h.methodSets.gather body.methods (body.bases.filter (· != id))) := by
        rw [MethodSets.gather_congr hagree]

end Hierarchy

end Wiring
