import Wiring.Declaration.Extraction
import Wiring.Proofs.TypeKey.WellFormed

/-!
# What annotations denote is well-formed

Every type that an annotation denotes is made by the constructors of keys, however deep subscripts,
alternatives and texts of literals are nested (`yields_typeOf`). So is every type of a provider that
is extracted from declarations (`yields_providersOf`).

Annotations can fail to denote anything, so the statements are about what is yielded, if anything
is (`Yields`), and follow the definitions step by step.
-/

namespace Wiring

open Source (Expr LiteralFault Reader)

/-! ## What a computation yields -/

section Yields

variable {ε α β : Type} {P : α → Prop} {Q : β → Prop} {x : Except ε α}

/-- What the computation yields, if it does not fail, has the property. -/
def Yields (P : α → Prop) (x : Except ε α) : Prop := ∀ a, x = .ok a → P a

/-- A given result is what is yielded. -/
theorem Yields.pure {a : α} (ha : P a) : Yields P (Pure.pure a : Except ε α) := by
  rintro _ ⟨⟩
  exact ha

/-- Two steps yield what the second yields of the result of the first. -/
theorem Yields.bind {f : α → Except ε β} (hx : Yields P x) (hf : ∀ a, P a → Yields Q (f a)) :
    Yields Q (x >>= f) := by
  cases x with
  | error e => rintro _ ⟨⟩
  | ok a => exact hf a (hx a rfl)

/-- A step and a change of its result yield the changed result. -/
theorem Yields.map {f : α → β} (hx : Yields P x) (hf : ∀ a, P a → Q (f a)) :
    Yields Q (f <$> x) := by
  cases x with
  | error e => rintro _ ⟨⟩
  | ok a =>
    rintro _ ⟨⟩
    exact hf a (hx a rfl)

/-- Another wording of failures changes nothing of what is yielded. -/
theorem Yields.mapError {ε' : Type} {f : ε → ε'} (hx : Yields P x) : Yields P (x.mapError f) := by
  cases x with
  | error e => rintro _ ⟨⟩
  | ok a =>
    rintro _ ⟨⟩
    exact hx a rfl

/-- Steps for all members of a list yield a list of what each yields. -/
theorem Yields.mapM {f : α → Except ε β} {as : List α} (hf : ∀ a ∈ as, Yields Q (f a)) :
    Yields (fun bs => ∀ b ∈ bs, Q b) (as.mapM f) := by
  induction as with
  | nil => exact Yields.pure (by simp)
  | cons a as ih =>
    rw [List.mapM_cons]
    refine (hf a List.mem_cons_self).bind fun b hb => ?_
    refine (ih fun a' ha' => hf a' (List.mem_cons_of_mem _ ha')).bind fun bs hbs => ?_
    exact Yields.pure (List.forall_mem_cons.mpr ⟨hb, hbs⟩)

end Yields

/-! ## Annotations -/

namespace Environment

variable {env : Environment} {code base : String}

/-- A name denotes a well-formed type. -/
theorem wellFormed_typeOfName (env : Environment) (name : String) :
    (env.typeOfName name).WellFormed := by
  unfold typeOfName named
  split
  · exact TypeKey.wellFormed_named ..
  split
  · exact TypeKey.wellFormed_named ..
  split
  · exact TypeKey.wellFormed_named ..
  split
  · exact TypeKey.wellFormed_basic _
  · exact TypeKey.wellFormed_named ..

/-- A member of a value denotes a well-formed type. -/
theorem wellFormed_typeOfMember (env : Environment) (value : Expr) (attr : String) :
    (env.typeOfMember value attr).WellFormed := by
  unfold typeOfMember named
  split
  · exact TypeKey.wellFormed_named ..
  · exact TypeKey.wellFormed_named ..

/-- Alternatives denote a well-formed type if both sides do. -/
theorem yields_typeOfAlternatives {left right : Reading}
    (hleft : Yields TypeKey.WellFormed left.2) (hright : Yields TypeKey.WellFormed right.2) :
    Yields TypeKey.WellFormed (typeOfAlternatives code left right) := by
  unfold typeOfAlternatives
  split
  · exact hright.map fun _ helem => helem.element _
  · exact hleft.map fun _ helem => helem.element _
  · exact Yields.pure (TypeKey.wellFormed_basic _)

/-- A value with indices denotes a well-formed type if all its indices do. -/
theorem yields_typeOfSubscript {elements : List Reading}
    (helements : ∀ r ∈ elements, Yields TypeKey.WellFormed r.2) :
    Yields TypeKey.WellFormed (typeOfSubscript code base elements) := by
  unfold typeOfSubscript
  -- The cases are those of the definition: wrappers, mappings, alternatives, records, the rest.
  split
  · exact (helements _ (by simp)).map fun _ helem => helem.element _
  split
  · refine (helements _ (by simp)).bind fun key hkey => ?_
    refine (helements _ (by simp)).bind fun value hvalue => ?_
    exact Yields.pure (hkey.map hvalue)
  split
  · split
    · exact yields_typeOfAlternatives (helements _ (by simp)) (helements _ (by simp))
    · exact Yields.pure (TypeKey.wellFormed_basic _)
  split
  · split
    · exact (helements _ (by simp)).map fun _ helem => helem.element _
    · exact (Yields.mapM helements).map fun _ hfields => TypeKey.wellFormed_struct hfields
  · exact Yields.pure (TypeKey.wellFormed_basic _)

mutual

/-- If texts of literals denote well-formed types, so does every expression. -/
theorem yields_typeWith {ofText : List Char → Except LiteralFault TypeKey}
    (hofText : ∀ text, Yields TypeKey.WellFormed (ofText text)) :
    ∀ e : Expr, Yields TypeKey.WellFormed (env.typeWith ofText e)
  | .name _ id => by
    rw [typeWith]
    exact Yields.pure (wellFormed_typeOfName env id)
  | .member _ value attr => by
    rw [typeWith]
    exact Yields.pure (wellFormed_typeOfMember env value attr)
  | .literal _ literal => by
    rw [typeWith]
    exact Yields.bind (fun _ _ => trivial) fun text _ => hofText text
  | .subscript _ _ elements => by
    rw [typeWith]
    exact yields_typeOfSubscript (yields_readingsWith hofText elements)
  | .union _ left right => by
    rw [typeWith]
    split
    · exact Yields.pure (TypeKey.wellFormed_basic _)
    · have hleft : Yields TypeKey.WellFormed (left, env.typeWith ofText left).2 :=
        yields_typeWith hofText left
      have hright : Yields TypeKey.WellFormed (right, env.typeWith ofText right).2 :=
        yields_typeWith hofText right
      exact yields_typeOfAlternatives hleft hright
  | .ellipsis _ | .call _ _ | .starred _ _ | .tuple _ _ | .list _ _ | .other _ => by
    rw [typeWith]
    · exact Yields.pure (TypeKey.wellFormed_basic _)
    all_goals simp

/-- So do all expressions of a list. -/
theorem yields_readingsWith {ofText : List Char → Except LiteralFault TypeKey}
    (hofText : ∀ text, Yields TypeKey.WellFormed (ofText text)) :
    ∀ es : List Expr, ∀ r ∈ env.readingsWith ofText es, Yields TypeKey.WellFormed r.2
  | [], r, hr => by
    rw [readingsWith] at hr
    cases hr
  | e :: es, r, hr => by
    rw [readingsWith] at hr
    rcases List.mem_cons.mp hr with rfl | hr
    · exact yields_typeWith hofText e
    · exact yields_readingsWith hofText es r hr

end

variable [Reader]

/-- A text denotes a well-formed type as an annotation. -/
theorem yields_typeOfText (env : Environment) (text : List Char) :
    Yields TypeKey.WellFormed (env.typeOfText text) := by
  -- The induction is on the length of the text, which bounds that of the texts in it.
  induction hlength : text.length using Nat.strongRecOn generalizing text with
  | ind n ih =>
    rw [typeOfText]
    split
    · exact Yields.pure (TypeKey.wellFormed_basic _)
    · rintro _ ⟨⟩
    · refine yields_typeWith (fun value => ?_) _
      split
      · rename_i hlt
        exact ih value.length (by omega) value rfl
      · exact Yields.pure (TypeKey.wellFormed_basic _)

/-- An expression denotes a well-formed type. -/
theorem yields_typeOf (env : Environment) (e : Expr) : Yields TypeKey.WellFormed (env.typeOf e) :=
  yields_typeWith (yields_typeOfText env) e

/-- An annotation denotes a well-formed type, also if it is not there. -/
theorem yields_typeOf? (env : Environment) (declared : Option Expr) :
    Yields TypeKey.WellFormed (env.typeOf? declared) := by
  cases declared with
  | none => exact Yields.pure (TypeKey.wellFormed_basic _)
  | some e => exact yields_typeOf env e

/-- An annotation declares well-formed results. -/
theorem yields_resultsOf (env : Environment) (declared : Option Expr) :
    Yields (fun ts => ∀ t ∈ ts, t.WellFormed) (env.resultsOf declared) := by
  have hnone : Yields (fun ts => ∀ t ∈ ts, TypeKey.WellFormed t)
      (pure [] : Except LiteralFault (List TypeKey)) := Yields.pure (by simp)
  have hsingle : ∀ e, Yields (fun ts => ∀ t ∈ ts, TypeKey.WellFormed t)
      (do return [← env.typeOf e]) := fun e =>
    (yields_typeOf env e).bind fun t ht => Yields.pure (by simpa using ht)
  cases declared with
  | none => exact hnone
  | some e =>
    unfold resultsOf
    dsimp only
    split
    · exact hnone
    split
    · split
      · exact Yields.mapM fun e _ => yields_typeOf env e
      · exact hsingle _
    · exact hsingle _

end Environment

/-! ## Providers -/

/-- All types of a provider are well-formed. -/
structure Provider.WellFormed (p : Provider) : Prop where
  /-- The types it needs are. -/
  params : ∀ t ∈ p.params, t.WellFormed
  /-- Its declared results are. -/
  results : ∀ t ∈ p.results, t.WellFormed
  /-- The type whose method it is, if it is one, is. -/
  receiver : ∀ t ∈ p.receiver, t.WellFormed

variable [Reader]

/-- The provider that a declaration describes is well-formed. -/
theorem Environment.yields_provider (env : Environment) (decl : ProviderDecl) :
    Yields Provider.WellFormed (env.provider decl) := by
  unfold Environment.provider
  refine (Yields.mapM fun declared _ => yields_typeOf? env declared).bind
    fun params hparams => ?_
  refine (yields_resultsOf env decl.head.returns).bind fun results hresults => ?_
  refine Yields.pure ⟨hparams, hresults, ?_⟩
  intro t ht
  dsimp only at ht
  split at ht
  · cases ht
  · obtain ⟨owner, -, rfl⟩ := Option.map_eq_some_iff.mp ht
    exact TypeKey.wellFormed_named ..

/-- The providers of several modules are well-formed. -/
theorem Declarations.yields_providersOf (modules : List Declarations) :
    Yields (fun ps => ∀ p ∈ ps, p.WellFormed) (Declarations.providersOf modules) := by
  unfold Declarations.providersOf
  refine Yields.bind (fun _ _ => trivial) fun known _ => ?_
  refine (Yields.mapM fun d _ => Yields.mapM fun decl _ => Environment.yields_provider _ decl).bind
    fun providers hproviders => ?_
  refine Yields.pure fun p hp => ?_
  obtain ⟨ps, hps, hp⟩ := List.mem_flatten.mp hp
  exact hproviders ps hps p hp

end Wiring
