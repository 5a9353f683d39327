import Wiring.Proofs.Declaration.Search

/-!
# Method sets are those of a plain walk

`Hierarchy.Walk` lists the methods that a depth-first walk meets which remembers nothing: it goes
through bases from left to right and enters each of them again wherever it comes upon it. Where no
class inherits from itself, the methods of a class are those of its own body followed by those that
the walk through its bases meets under a new name (`MethodsOf`).

The search for method sets keeps what it has found of a class and gives it out again. This makes no
difference, since the methods that are new among those of a base are the new ones among all that the
walk meets there (`addMethods_addMethods`). So each class that the search comes to keep is kept with
these methods, as long as all that was kept before is (`Stores.sound`).
-/

namespace Wiring

open Relation

namespace Hierarchy

variable {h : Hierarchy} {id : ClassId} {memo memo' : MethodSets}

/-! ## The plain walk -/

/-- The methods that are met on a walk through the classes of a list, from left to right, which
enters the bases of each class after the class itself. A class that is not known has none. -/
inductive Walk (h : Hierarchy) : List ClassId → List MethodSignature → Prop where
  /-- The walk is at its end. -/
  | nil : Walk h [] []
  /-- A class that is not known is passed by. -/
  | unknown {id ids met} : h.find? id = none → Walk h ids met → Walk h (id :: ids) met
  /-- The methods of a class, those of its bases, and those of the classes after it. -/
  | known {id ids body above met} : h.find? id = some body → Walk h body.bases above →
      Walk h ids met → Walk h (id :: ids) (body.methods ++ above ++ met)

/-- A walk meets the same methods whenever it is made. -/
theorem Walk.unique {ids : List ClassId} {met met' : List MethodSignature} (hwalk : h.Walk ids met)
    (hwalk' : h.Walk ids met') : met = met' := by
  induction hwalk generalizing met' with
  | nil =>
    cases hwalk' with
    | nil => rfl
  | unknown hnone _ ih =>
    cases hwalk' with
    | unknown _ hwalk' => exact ih hwalk'
    | known hsome => rw [hnone] at hsome; cases hsome
  | known hsome _ _ ihabove ih =>
    cases hwalk' with
    | unknown hnone => rw [hsome] at hnone; cases hnone
    | known hsome' habove' hwalk' =>
      rw [hsome, Option.some.injEq] at hsome'
      subst hsome'
      rw [ihabove habove', ih hwalk']

/-- The methods of a known class: those of its body, and then the first of each further name that a
walk through its bases meets. -/
def MethodsOf (h : Hierarchy) (id : ClassId) (methods : List MethodSignature) : Prop :=
  ∃ body above, h.find? id = some body ∧ h.Walk body.bases above ∧
    methods = body.methods ++ newNames body.methods above

/-- Adding the methods of a class has the effect of adding all that a walk into it meets. -/
theorem MethodsOf.exists_walk {methods : List MethodSignature} (hmethods : h.MethodsOf id methods) :
    ∃ met, (∀ ids rest, h.Walk ids rest → h.Walk (id :: ids) (met ++ rest)) ∧
      ∀ acc, addMethods acc methods = addMethods acc met := by
  obtain ⟨body, above, hbody, hwalk, rfl⟩ := hmethods
  refine ⟨body.methods ++ above, fun ids rest hrest => Walk.known hbody hwalk hrest, ?_⟩
  intro acc
  rw [← addMethods_eq_append_newNames, addMethods_addMethods]

/-! ## What is kept -/

/-- All that is kept are the methods of known classes. -/
def Sound (h : Hierarchy) (memo : MethodSets) : Prop :=
  ∀ id methods, memo.find? id = some methods → h.MethodsOf id methods

/-- If all that is kept are the methods of classes, and the known ones among the bases are kept,
what is gathered from the bases are the new names that a walk through them meets. -/
theorem Sound.exists_walk (hsound : h.Sound memo) {bases : List ClassId}
    (hbases : ∀ base ∈ bases, (h.find? base).isSome = true → (memo.find? base).isSome = true)
    (methods : List MethodSignature) :
    ∃ above, h.Walk bases above ∧ memo.gather methods bases = addMethods methods above := by
  induction bases generalizing methods with
  | nil => exact ⟨[], .nil, rfl⟩
  | cons base bases ih =>
    have hrest := ih fun b hb => hbases b (List.mem_cons_of_mem _ hb)
    rw [MethodSets.gather_cons]
    cases hbody : h.find? base with
    | none =>
      have hnone : memo.find? base = none := by
        cases hkept : memo.find? base with
        | none => rfl
        | some ms =>
          obtain ⟨body, -, hknown, -⟩ := hsound base ms hkept
          rw [hbody] at hknown
          cases hknown
      obtain ⟨above, hwalk, hgather⟩ := hrest methods
      rw [hnone]
      exact ⟨above, .unknown hbody hwalk, hgather⟩
    | some body =>
      obtain ⟨ms, hkept⟩ := Option.isSome_iff_exists.mp
        (hbases base List.mem_cons_self (by rw [hbody]; rfl))
      obtain ⟨met, hinto, heffect⟩ := (hsound base ms hkept).exists_walk
      obtain ⟨above, hwalk, hgather⟩ := hrest (addMethods methods ms)
      refine ⟨met ++ above, hinto bases above hwalk, ?_⟩
      calc memo.gather (addMethods methods ((memo.find? base).getD [])) bases
          = memo.gather (addMethods methods ms) bases := by rw [hkept, Option.getD_some]
        _ = addMethods (addMethods methods met) above := by rw [hgather, heffect]
        _ = addMethods methods (met ++ above) := (addMethods_append methods met above).symm

/-- In an acyclic hierarchy one more class is kept with its methods. -/
theorem Stores.sound (hacyclic : h.Acyclic) (hstep : h.Stores memo memo') (hsound : h.Sound memo) :
    h.Sound memo' := by
  cases hstep with
  | @store id body hbody hnew hbases =>
    have hkept : ∀ base ∈ body.bases, (h.find? base).isSome = true →
        (memo.find? base).isSome = true := by
      intro base hbase hknown
      refine (hbases base hbase hknown).resolve_right fun hback => ?_
      have hstep : h.Inherits id base := ⟨body, hbody, hbase⟩
      exact hacyclic id (TransGen.head' hstep hback)
    obtain ⟨above, hwalk, hgather⟩ := hsound.exists_walk hkept body.methods
    refine AllKept.insert hsound ⟨body, above, hbody, hwalk, ?_⟩
    rw [hgather, addMethods_eq_append_newNames]

/-- In an acyclic hierarchy exactly the known classes have method sets, and these are the methods of
each. -/
theorem methodSets_spec (hacyclic : h.Acyclic) :
    h.Sound h.methodSets ∧
      ∀ id, (h.find? id).isSome = true → (h.methodSets.find? id).isSome = true := by
  constructor
  · exact holds_methodSets allKept_empty fun _ _ hstep hsound => hstep.sound hacyclic hsound
  · intro id hknown
    rwa [isSome_find?_methodSets]

end Hierarchy

end Wiring
