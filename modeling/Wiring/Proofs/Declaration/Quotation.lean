import Mathlib
import Wiring.Proofs.Declaration.Reading
import Wiring.Proofs.TypeKey.Bare

/-!
# Annotations in quotation marks

A literal that has the text of an annotation (`Expr.QuotedBy`) denotes the same type. But whether a
function declares no result, one or several is told from the annotation as it is written, and a
literal is neither the name of the absent value nor a record. So the literal always declares a
single result. Where the annotation itself declares none, or one for each field of a record, the
quotation marks change what is declared (`resultsOf_quoted`).
-/

namespace Wiring

open Source (Expr FunctionHead Literal.value LiteralFault Reader)
open Environment (baseName)

namespace Source.Expr

/-- The literal has the text of the annotation. -/
def QuotedBy [Reader] (e : Expr) (literal : String) : Prop :=
  ∃ text, Literal.value literal.toList = .ok text ∧ ofText? text = some e

/-- The annotation is a record without dots, which would say that its fields are all of one type. -/
def isRecord : Expr → Bool
  | subscript _ value elements => recordNames.contains (baseName value) && !elements.any isEllipsis
  | _ => false

end Source.Expr

namespace Environment

variable {env : Environment} {e : Expr} {code l : String}

/-- The results are equal key by key, or there is the same fault. -/
def SameResults (x y : Except LiteralFault (List TypeKey)) : Prop :=
  List.map TypeKey.bare <$> x = List.map TypeKey.bare <$> y

/-- An annotation that is neither the absent value nor a record declares its type as the only
result. -/
theorem resultsOf_of_single [Reader] (hnone : e.isNone = false) (hrecord : e.isRecord = false) :
    env.resultsOf (some e) = (fun t => [t]) <$> env.typeOf e := by
  unfold resultsOf
  dsimp only
  rw [hnone, if_neg Bool.false_ne_true]
  cases e with
  | subscript code value elements =>
    have hfields : ¬ (recordNames.contains (baseName value) &&
        !elements.any Expr.isEllipsis) = true := by
      rw [← Expr.isRecord, hrecord]
      exact Bool.false_ne_true
    dsimp only
    rw [if_neg hfields]
    rfl
  | _ => rfl

/-- A record declares its fields as results. -/
theorem typeOf_of_isRecord [Reader] (hrecord : e.isRecord = true) :
    env.typeOf e = .struct <$> env.resultsOf (some e) := by
  cases e with
  | subscript code value elements =>
    rw [Expr.isRecord] at hrecord
    obtain ⟨hbase, hdots⟩ := Bool.and_eq_true_iff.mp hrecord
    have hresults : env.resultsOf (some (.subscript code value elements)) =
        elements.mapM env.typeOf := by
      unfold resultsOf
      dsimp only
      rw [if_neg (by simp [Expr.isNone]), if_pos hrecord]
    rw [typeOf, typeWith, readingsWith_eq_map, typeOfSubscript_record hbase, hresults]
    split
    · -- Dots at the end would make all fields of one type.
      rename_i field dots x heq
      obtain ⟨_, rest, rfl, -, hrest⟩ := List.map_eq_cons_iff.mp heq
      obtain ⟨d, _, rfl, hd, -⟩ := List.map_eq_cons_iff.mp hrest
      obtain ⟨rfl, -⟩ := Prod.mk.inj hd
      simp [Expr.isEllipsis] at hdots
    · rw [List.mapM_map]
      rfl
  | _ => cases hrecord

/-- A literal declares the type of the annotation in it as the only result. -/
theorem resultsOf_literal [Reader] (hquoted : e.QuotedBy l) :
    env.resultsOf (some (.literal code l)) = (fun t => [t]) <$> env.typeOf e := by
  obtain ⟨text, hvalue, htext⟩ := hquoted
  have htype : env.typeOf (.literal code l) = env.typeOf e := by
    rw [typeOf_literal, hvalue]
    dsimp only [Bind.bind, Except.bind]
    rw [Expr.ofText?_eq_some_iff.mp htext]
  rw [resultsOf_of_single rfl rfl, htype]

/-- No row of keys has a record of itself as its only key. -/
theorem singleton_struct_ne (ts : List TypeKey) : [TypeKey.struct ts] ≠ ts := by
  intro h
  have hsize := congrArg sizeOf h
  rw [List.cons.sizeOf_spec, TypeKey.struct, TypeKey.mk.sizeOf_spec] at hsize
  omega

/-- The name of the absent value declares no results, though it has a type. -/
theorem resultsOf_of_isNone [Reader] (hnone : e.isNone = true) (env : Environment) :
    env.resultsOf (some e) = .ok [] ∧ ∃ t, env.typeOf e = .ok t := by
  refine ⟨if_pos hnone, ?_⟩
  cases e with
  | name code id => exact ⟨env.typeOfName id, by rw [typeOf, typeWith]; rfl⟩
  | _ => cases hnone

/-- The annotation declares its type as the only result, or it cannot be read. -/
def KeepsResults [Reader] (env : Environment) (e : Expr) : Prop :=
  (e.isNone = false ∧ e.isRecord = false) ∨ ∃ fault, env.typeOf e = .error fault

/-- Then quotation marks change nothing of the results. -/
theorem KeepsResults.resultsOf_eq [Reader] (h : env.KeepsResults e) :
    (fun t => [t]) <$> env.typeOf e = env.resultsOf (some e) := by
  rcases h with ⟨hnone, hrecord⟩ | ⟨fault, hfault⟩
  · exact (resultsOf_of_single hnone hrecord).symm
  cases hnone : e.isNone with
  | true =>
    obtain ⟨-, t, htype⟩ := resultsOf_of_isNone hnone env
    rw [hfault] at htype
    cases htype
  | false =>
    cases hrecord : e.isRecord with
    | true =>
      have htype : env.typeOf e = .struct <$> env.resultsOf (some e) := typeOf_of_isRecord hrecord
      rw [hfault] at htype ⊢
      cases hresults : env.resultsOf (some e) with
      | error fault' =>
        rw [hresults] at htype
        cases htype
        rfl
      | ok ts =>
        rw [hresults] at htype
        cases htype
    | false => exact (resultsOf_of_single hnone hrecord).symm

/-- Otherwise they change what is declared. -/
theorem keepsResults_of_sameResults [Reader]
    (h : SameResults ((fun t => [t]) <$> env.typeOf e) (env.resultsOf (some e))) :
    env.KeepsResults e := by
  unfold SameResults at h
  cases htype : env.typeOf e with
  | error fault => exact Or.inr ⟨fault, htype⟩
  | ok t =>
    rw [htype] at h
    cases hnone : e.isNone with
    | true =>
      rw [(resultsOf_of_isNone hnone env).1] at h
      cases h
    | false =>
      cases hrecord : e.isRecord with
      | true =>
        rw [typeOf_of_isRecord hrecord] at htype
        cases hresults : env.resultsOf (some e) with
        | error fault =>
          rw [hresults] at htype
          cases htype
        | ok ts =>
          -- A record would have itself as its only field.
          rw [hresults] at htype h
          obtain rfl : TypeKey.struct ts = t := Except.ok.inj htype
          have hfields : [(TypeKey.struct ts).bare] = ts.map TypeKey.bare := Except.ok.inj h
          rw [TypeKey.bare_eq] at hfields
          exact absurd hfields (singleton_struct_ne (ts.map TypeKey.bare))
      | false => exact Or.inl ⟨hnone, hrecord⟩

/-- Quotation marks around an annotation change nothing of the results that it declares exactly if
it is neither the absent value nor a record, or if it cannot be read; the literal always declares
the type of the annotation as the only result. They change nothing of the shape of a method exactly
if the annotation is not the absent value. -/
theorem resultsOf_quoted [Reader] (hquoted : e.QuotedBy l) (env : Environment) (code : String) :
    env.resultsOf (some (.literal code l)) = (fun t => [t]) <$> env.typeOf e ∧
    (env.resultsOf (some (.literal code l)) = env.resultsOf (some e) ↔ env.KeepsResults e) ∧
    (SameResults (env.resultsOf (some (.literal code l))) (env.resultsOf (some e)) ↔
      env.KeepsResults e) ∧
    ∀ head : FunctionHead,
      { head with returns := some (.literal code l) }.signature =
        { head with returns := some e }.signature ↔ e.isNone = false := by
  have hliteral : env.resultsOf (some (.literal code l)) = _ := resultsOf_literal hquoted
  rw [hliteral]
  refine ⟨rfl, ⟨fun h => ?_, KeepsResults.resultsOf_eq⟩, ⟨keepsResults_of_sameResults, ?_⟩, ?_⟩
  · exact keepsResults_of_sameResults (congrArg _ h)
  · intro h
    exact congrArg _ h.resultsOf_eq
  · intro head
    have hshape : ∀ e', { head with returns := some e' }.signature =
        { name := head.name, params := head.ownParameters.length,
          results := if e'.isNone then 0 else 1 } := fun _ => rfl
    rw [hshape, hshape]
    cases hnone : e.isNone with
    | true =>
      refine iff_of_false (fun h => ?_) (by simp)
      have hresults : (1 : Int) = 0 := congrArg MethodSignature.results h
      cases hresults
    | false => exact iff_of_true rfl rfl

/-- A record with a class and the error channel. -/
def pair : Expr :=
  .subscript "tuple[App, Exception]" (.name "tuple" "tuple")
    [.name "App" "App", .name "Exception" "Exception"]

/-- The record in quotation marks. -/
def quotedPair : Expr := .literal "'tuple[App, Exception]'" "'tuple[App, Exception]'"

/-- The absent value. -/
def absent : Expr := .name "None" "None"

/-- The absent value in quotation marks. -/
def quotedAbsent : Expr := .literal "'None'" "'None'"

/-- In quotation marks the record is a single result, though it declares two without them. And a
method that returns the absent value has a result with quotation marks, but none without them. -/
theorem resultsOf_quoted_pair :
    ¬ SameResults (resultsOf { declarations := {} } (some quotedPair))
      (resultsOf { declarations := {} } (some pair)) ∧
    ∀ head : FunctionHead, { head with returns := some quotedAbsent }.signature ≠
      { head with returns := some absent }.signature := by
  have hpair : pair.QuotedBy "'tuple[App, Exception]'" :=
    ⟨"tuple[App, Exception]".toList, by cbv,
      Expr.ofText?_eq_some_iff_parse?.mpr ⟨by cbv, by decide +kernel⟩⟩
  have habsent : absent.QuotedBy "'None'" :=
    ⟨"None".toList, by cbv, Expr.ofText?_eq_some_iff_parse?.mpr ⟨by cbv, by decide +kernel⟩⟩
  have htype : typeOf { declarations := {} } pair =
      .ok (.struct [.named "App" "" [], .error]) := by
    rw [typeOf]
    rfl
  constructor
  · intro hsame
    have hkeeps : KeepsResults { declarations := {} } pair :=
      (resultsOf_quoted hpair _ "'tuple[App, Exception]'").2.2.1.mp hsame
    rcases hkeeps with ⟨-, hrecord⟩ | ⟨fault, hfault⟩
    · cases hrecord
    · rw [htype] at hfault
      cases hfault
  · intro head hshape
    have hone := (resultsOf_quoted habsent { declarations := {} } "'None'").2.2.2 head
    cases hone.mp hshape

end Environment

end Wiring
