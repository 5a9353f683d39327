import Mathlib
import Wiring.Proofs.Declaration.Reading

/-!
# Spellings of an optional type

An annotation is made optional as the only index of a wrapper, or as an alternative to the absent
value, in brackets or with a bar, on either side (`OptionalOf`). All these spellings denote the same
type, or fail with the same fault (`typeOf_eq_of_optionalOf`), but for two cases in which an
annotation is known by its code. Bars join all alternatives that follow one another at once, and if
these are more than two it is not said what they denote (`joinsMore`). And what is no type at all is
known by its code, the parentheses around it included, which some spellings need and others do not
(`Environment.KnownByCode`).
-/

namespace Wiring

open Source (Expr LiteralFault Reader)
open Environment (Reading baseName isUnion typeOfAlternatives typeOfSubscript)

variable {env : Environment} {X e f : Expr}

/-! ## What the code of an annotation counts for -/

/-- The code that is given makes no difference, or it is all that counts. -/
def AllOrNothing (read : String → Except LiteralFault TypeKey) : Prop :=
  (∀ code code', read code = read code') ∨ ∀ code, read code = .ok (.basic code)

/-- Code counts for alternatives only if not just one of them is the absent value. -/
theorem allOrNothing_typeOfAlternatives (left right : Reading) :
    AllOrNothing fun code => typeOfAlternatives code left right := by
  unfold typeOfAlternatives
  cases left.1.isNone <;> cases right.1.isNone
  case true.false => exact Or.inl fun _ _ => rfl
  case false.true => exact Or.inl fun _ _ => rfl
  all_goals exact Or.inr fun _ => rfl

/-- Code counts for a value with indices only if it is not known what they mean. -/
theorem allOrNothing_typeOfSubscript (base : String) (elements : List Reading) :
    AllOrNothing fun code => typeOfSubscript code base elements := by
  unfold typeOfSubscript
  -- The cases are those of the definition: wrappers, mappings, alternatives, records, and others.
  split
  · exact Or.inl fun _ _ => rfl
  split
  · exact Or.inl fun _ _ => rfl
  split
  · split
    · exact allOrNothing_typeOfAlternatives _ _
    · exact Or.inr fun _ => rfl
  split
  · split
    · exact Or.inl fun _ _ => rfl
    · exact Or.inl fun _ _ => rfl
  · exact Or.inr fun _ => rfl

/-- The annotation is known by its code alone. -/
def Environment.KnownByCode [Reader] (env : Environment) (X : Expr) : Prop :=
  ∀ code, env.typeOf (X.withCode code) = .ok (.basic code)

/-- Other code for the same annotation, such as that with parentheses around it, makes no difference
unless the annotation is known by its code alone. -/
theorem typeOf_withCode_or [Reader] (env : Environment) (X : Expr) :
    (∀ code code', env.typeOf (X.withCode code) = env.typeOf (X.withCode code')) ∨
      env.KnownByCode X := by
  unfold Environment.KnownByCode Environment.typeOf
  cases X with
  | name | member | literal => exact Or.inl fun _ _ => rfl
  | subscript _ value elements =>
    exact allOrNothing_typeOfSubscript (baseName value)
      (env.readingsWith env.typeOfText elements)
  | union _ left right =>
    by_cases hnested : (isUnion left || isUnion right) = true
    · refine Or.inr fun code => ?_
      rw [Expr.withCode, Environment.typeWith, if_pos hnested]
      rfl
    · simp only [Expr.withCode, Environment.typeWith, if_neg hnested]
      exact allOrNothing_typeOfAlternatives _ _
  | ellipsis | call | starred | tuple | list | other => exact Or.inr fun _ => rfl

/-! ## Spellings -/

/-- The annotation says that a value of the first one may be absent. -/
inductive OptionalOf (X : Expr) : Expr → Prop
  /-- It is the only index of the wrapper. -/
  | wrapper {value : Expr} (code : String) (hbase : baseName value = "Optional") :
    OptionalOf X (.subscript code value [X])
  /-- It stands in brackets before the absent value. -/
  | before {value absent : Expr} (code : String) (hbase : baseName value = unionName)
    (habsent : absent.isNone = true) : OptionalOf X (.subscript code value [X, absent])
  /-- It stands in brackets after the absent value. -/
  | after {value absent : Expr} (code : String) (hbase : baseName value = unionName)
    (habsent : absent.isNone = true) : OptionalOf X (.subscript code value [absent, X])
  /-- It is joined with the absent value after it. -/
  | joinedBefore {absent : Expr} (code : String) (habsent : absent.isNone = true) :
    OptionalOf X (.union code X absent)
  /-- It is joined with the absent value before it. -/
  | joinedAfter {absent : Expr} (code : String) (habsent : absent.isNone = true) :
    OptionalOf X (.union code absent X)

/-- Of two alternatives that beside the absent value counts. -/
theorem typeOfAlternatives_of_isNone {left right : Reading} (hleft : left.1.isNone = false)
    (hright : right.1.isNone = true) (code : String) :
    typeOfAlternatives code left right = .element "optional" <$> left.2 ∧
      typeOfAlternatives code right left = .element "optional" <$> left.2 := by
  unfold typeOfAlternatives
  rw [hleft, hright]
  exact ⟨rfl, rfl⟩

/-- The name of the absent value joins nothing. -/
theorem isUnion_of_isNone (h : e.isNone = true) : isUnion e = false := by
  cases e with
  | name => rfl
  | _ => cases h

/-- Alternatives in brackets have the type of alternatives. -/
theorem typeOf_brackets [Reader] {value : Expr} (hbase : baseName value = unionName) (code : String)
    (left right : Expr) :
    env.typeOf (.subscript code value [left, right]) =
      typeOfAlternatives code (left, env.typeOf left) (right, env.typeOf right) := by
  rw [Environment.typeOf, Environment.typeWith, hbase]
  rfl

/-- So have joined alternatives that join none themselves. -/
theorem typeOf_joined [Reader] {left right : Expr} (code : String) :
    env.typeOf (.union code left right) =
      if isUnion left || isUnion right then .ok (.basic code)
      else typeOfAlternatives code (left, env.typeOf left) (right, env.typeOf right) := by
  rw [Environment.typeOf, Environment.typeWith]
  rfl

/-- The spelling joins the absent value with an annotation that joins alternatives itself. -/
def joinsMore (X e : Expr) : Bool := isUnion X && isUnion e

/-- Indices join nothing. -/
theorem joinsMore_subscript (code : String) (value : Expr) (elements : List Expr) :
    joinsMore X (.subscript code value elements) = false := Bool.and_false _

/-- A spelling with a bar joins more alternatives if there are some. -/
theorem joinsMore_union (code : String) (left right : Expr) :
    joinsMore X (.union code left right) = isUnion X := Bool.and_true _

/-- Every spelling makes the type optional. But where it joins more than two alternatives, they are
known by their code. -/
theorem OptionalOf.typeOf_eq [Reader] (h : OptionalOf X e) (hX : X.isNone = false)
    (env : Environment) :
    env.typeOf e =
      if joinsMore X e then .ok (.basic e.code) else .element "optional" <$> env.typeOf X := by
  cases h with
  | wrapper code hbase =>
    rw [joinsMore_subscript, if_neg Bool.false_ne_true, Environment.typeOf, Environment.typeWith,
      hbase]
    rfl
  | before code hbase habsent =>
    rw [joinsMore_subscript, if_neg Bool.false_ne_true, typeOf_brackets hbase]
    exact (typeOfAlternatives_of_isNone hX habsent code).1
  | after code hbase habsent =>
    rw [joinsMore_subscript, if_neg Bool.false_ne_true, typeOf_brackets hbase]
    exact (typeOfAlternatives_of_isNone hX habsent code).2
  | joinedBefore code habsent =>
    rw [joinsMore_union, typeOf_joined, isUnion_of_isNone habsent, Bool.or_false,
      (typeOfAlternatives_of_isNone hX habsent code).1]
    rfl
  | joinedAfter code habsent =>
    rw [joinsMore_union, typeOf_joined, isUnion_of_isNone habsent, Bool.false_or,
      (typeOfAlternatives_of_isNone hX habsent code).2]
    rfl

/-- Other code leaves an annotation what it is. -/
theorem isNone_withCode (code : String) (X : Expr) : (X.withCode code).isNone = X.isNone := by
  cases X with
  | _ => rfl

/-- It joins alternatives exactly if it did before. -/
theorem joinsMore_withCode (code : String) (X e : Expr) :
    joinsMore (X.withCode code) e = joinsMore X e := by
  cases X with
  | _ => rfl

/-- Every spelling of an optional type denotes the optional type of the annotation, or fails as the
annotation does; but where it joins more than two alternatives, it is known by its code. So any two
other spellings denote the same, if the annotation has the same code in both or is not known by its
code alone. -/
theorem typeOf_eq_of_optionalOf [Reader] {code₁ code₂ : String} (hX : X.isNone = false)
    (he : OptionalOf (X.withCode code₁) e) (hf : OptionalOf (X.withCode code₂) f)
    (env : Environment) :
    (joinsMore X e = false →
      env.typeOf e = .element "optional" <$> env.typeOf (X.withCode code₁)) ∧
    (joinsMore X e = false → joinsMore X f = false → code₁ = code₂ ∨ ¬ env.KnownByCode X →
      env.typeOf e = env.typeOf f) ∧
    (joinsMore X e = true → env.typeOf e = .ok (.basic e.code)) := by
  have hetype := he.typeOf_eq (by rwa [isNone_withCode]) env
  have hftype := hf.typeOf_eq (by rwa [isNone_withCode]) env
  rw [joinsMore_withCode] at hetype hftype
  refine ⟨?_, ?_, ?_⟩
  · intro hmore
    rw [hetype, hmore, if_neg Bool.false_ne_true]
  · intro hmore hmore' hcode
    rw [hetype, hftype, hmore, hmore', if_neg Bool.false_ne_true, if_neg Bool.false_ne_true]
    rcases hcode with rfl | hknown
    · rfl
    · have hsame := (typeOf_withCode_or env X).resolve_right hknown
      rw [hsame code₁ code₂]
  · intro hmore
    rw [hetype, hmore, if_pos rfl]

/-- A class can be written in brackets and after the absent value. -/
theorem typeOf_eq_of_optionalOf_config :
    Environment.typeOf { declarations := {} }
        (.subscript "Optional[Config]" (.name "Optional" "Optional") [.name "Config" "Config"]) =
      Environment.typeOf { declarations := {} }
        (.union "None | (Config)" (.name "None" "None") (.name "(Config)" "Config")) := by
  have hconfig : ¬ Environment.KnownByCode { declarations := {} } (.name "Config" "Config") := by
    intro hknown
    cases hknown "Config"
  exact (typeOf_eq_of_optionalOf (X := .name "Config" "Config") rfl (.wrapper _ rfl)
    (.joinedAfter _ rfl) { declarations := {} }).2.1 rfl rfl (Or.inr hconfig)

/-- An annotation that joins two alternatives. -/
def alternatives : Expr := .union "A | B" (.name "A" "A") (.name "B" "B")

/-- The annotation in brackets. -/
def bracketed : Expr :=
  .subscript "Optional[A | B]" (.name "Optional" "Optional") [alternatives]

/-- The annotation joined with the absent value. -/
def joined : Expr := .union "A | B | None" alternatives (.name "None" "None")

/-- An annotation that is no type, in brackets. -/
def bracketedFunction : Expr :=
  .subscript "Optional[lambda: 0]" (.name "Optional" "Optional") [.other "lambda: 0"]

/-- The same annotation joined with the absent value, which takes parentheses. -/
def joinedFunction : Expr :=
  .union "(lambda: 0) | None" (.other "(lambda: 0)") (.name "None" "None")

/-- Alternatives in brackets are one type that may be absent, but joined with the absent value they
are three alternatives. And an annotation that is known by its code is another one in parentheses,
though both spellings make it optional. -/
theorem typeOf_ne_of_optionalOf_alternatives :
    Expr.ofText? "Optional[A | B]".toList = some bracketed ∧
    Expr.ofText? "A | B | None".toList = some joined ∧
    OptionalOf alternatives bracketed ∧ OptionalOf alternatives joined ∧
    Environment.typeOf { declarations := {} } bracketed =
      .ok (.element "optional" (.basic "A | B")) ∧
    Environment.typeOf { declarations := {} } joined = .ok (.basic "A | B | None") ∧
    (TypeKey.element "optional" (.basic "A | B") == .basic "A | B | None") = false ∧
    Expr.ofText? "Optional[lambda: 0]".toList = some bracketedFunction ∧
    Expr.ofText? "(lambda: 0) | None".toList = some joinedFunction ∧
    OptionalOf (.other "lambda: 0") bracketedFunction ∧
    OptionalOf (.other "(lambda: 0)") joinedFunction ∧
    Environment.typeOf { declarations := {} } bracketedFunction =
      .ok (.element "optional" (.basic "lambda: 0")) ∧
    Environment.typeOf { declarations := {} } joinedFunction =
      .ok (.element "optional" (.basic "(lambda: 0)")) ∧
    (TypeKey.element "optional" (.basic "lambda: 0") ==
      .element "optional" (.basic "(lambda: 0)")) = false := by
  refine ⟨?_, ?_, .wrapper _ rfl, .joinedBefore _ rfl, rfl, rfl, by decide, ?_, ?_, .wrapper _ rfl,
    .joinedBefore _ rfl, rfl, rfl, by decide⟩
  · exact Expr.ofText?_eq_some_iff_parse?.mpr ⟨by cbv, by decide +kernel⟩
  · exact Expr.ofText?_eq_some_iff_parse?.mpr ⟨by cbv, by decide +kernel⟩
  · exact Expr.ofText?_eq_some_iff_parse?.mpr ⟨by cbv, by decide +kernel⟩
  · exact Expr.ofText?_eq_some_iff_parse?.mpr ⟨by cbv, by decide +kernel⟩

end Wiring
