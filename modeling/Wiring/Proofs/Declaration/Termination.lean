import Mathlib
import Wiring.Proofs.Declaration.Reading

/-!
# Reading annotations ends

An annotation is read by reading others, and these by reading others again. `typeBy` is one level
of this, in which the types of the annotations that are called for are given; nothing bounds how
often levels are nested. `readingEnds` says that the nesting ends for every annotation in every
module: operands and annotations in texts are all that is called for, there is no endless chain of
calls, and a finite number of levels finds the type, whatever the innermost one is told. The same
holds of the results that a function declares.

Operands are smaller than what they stand in. The annotation in the text of a literal need not be
smaller in this sense, but the text is shorter than the literal, and so is each literal in the text
(`Literal.Encloses.length_lt`). Literals within literals run out after at most as many as the
outermost one has characters (`Literal.length_le_of_isChain_encloses`).
-/

namespace Wiring

open Source (Expr Literal.value Literal.length_value_lt LiteralFault Reader)

namespace Source.Literal

variable [Reader]

/-! ## Literals within literals -/

/-- The text of a literal is an annotation in which the other one occurs. -/
def Encloses (l inner : String) : Prop :=
  ∃ text e, value l.toList = .ok text ∧ Expr.ofText? text = some e ∧ inner ∈ e.literals

/-- The inner literal is shorter. -/
theorem Encloses.length_lt {l inner : String} (h : Encloses l inner) :
    inner.toList.length < l.toList.length := by
  obtain ⟨text, e, hvalue, he, hinner⟩ := h
  calc inner.toList.length
      ≤ text.length := Expr.length_le_of_mem_literals he inner hinner
    _ < l.toList.length := length_value_lt hvalue

/-- Literals each of which stands in the text of the one before are no more than the first has
characters, besides itself. -/
theorem length_le_of_isChain_encloses {l : String} {ls : List String}
    (h : (l :: ls).IsChain Encloses) : ls.length ≤ l.toList.length := by
  induction ls generalizing l with
  | nil => exact Nat.zero_le _
  | cons inner ls ih =>
    -- The next literal has a character less, which is what it is counted by itself.
    obtain ⟨hinner, hrest⟩ := List.isChain_cons_cons.mp h
    have hlt := hinner.length_lt
    have hle := ih hrest
    rw [List.length_cons]
    omega

end Source.Literal

namespace Environment

open Source (Literal.Encloses Literal.length_le_of_isChain_encloses)

variable {env : Environment}

/-! ## One level of reading -/

/-- The results that an annotation declares, where annotations denote what is given. -/
def resultsBy (recur : Expr → Except LiteralFault TypeKey) :
    Option Expr → Except LiteralFault (List TypeKey)
  | none => return []
  | some e =>
    if e.isNone then return []
    else
      match e with
      | .subscript _ value elements =>
        if recordNames.contains (baseName value) && !elements.any Expr.isEllipsis then
          elements.mapM recur
        else return [← recur e]
      | _ => return [← recur e]

/-- Of results, the annotation itself and its operands matter. -/
theorem resultsBy_congr {f g : Expr → Except LiteralFault TypeKey} {e : Expr}
    (h : ∀ part ∈ e :: e.operands, f part = g part) :
    resultsBy f (some e) = resultsBy g (some e) := by
  have hself : f e = g e := h e List.mem_cons_self
  cases e with
  | subscript code value elements =>
    have hfields : elements.mapM f = elements.mapM g :=
      mapM_congr fun part hpart => h part (List.mem_cons_of_mem _ hpart)
    simp only [resultsBy, hself, hfields]
  | _ => simp only [resultsBy, hself]

variable [Reader]

/-- The type that an annotation denotes, where the annotations that it calls for denote what is
given. -/
def typeBy (env : Environment) (recur : Expr → Except LiteralFault TypeKey) :
    Expr → Except LiteralFault TypeKey
  | .name _ id => return env.typeOfName id
  | .member _ value attr => return env.typeOfMember value attr
  | .literal _ l => do
    let text ← Literal.value l.toList
    match Expr.read text with
    | .error .malformed => return .basic (String.ofList text)
    | .error .brokenOff => throw .brokenOff
    | .ok e => recur e
  | .subscript code value elements =>
    typeOfSubscript code (baseName value) (readings recur elements)
  | .union code left right =>
    if isUnion left || isUnion right then return .basic code
    else typeOfAlternatives code (left, recur left) (right, recur right)
  | e => return .basic e.code

/-- Only the annotations that are called for matter. -/
theorem typeBy_congr {f g : Expr → Except LiteralFault TypeKey} {e : Expr}
    (h : ∀ part, e.Calls part → f part = g part) : env.typeBy f e = env.typeBy g e := by
  cases e with
  | literal code l =>
    rw [typeBy, typeBy]
    cases hvalue : Literal.value l.toList with
    | error fault => rfl
    | ok text =>
      dsimp only [Bind.bind, Except.bind]
      cases he : Expr.read text with
      | error fault => cases fault <;> rfl
      | ok e => exact h e (.text hvalue (Expr.ofText?_eq_some_iff.2 he))
  | subscript code value elements =>
    have hreadings : readings f elements = readings g elements := by
      refine List.map_congr_left fun part hpart => ?_
      rw [h part (.operand hpart)]
    rw [typeBy, typeBy, hreadings]
  | union code left right =>
    rw [typeBy, typeBy, h left (.operand List.mem_cons_self),
      h right (.operand (List.mem_cons_of_mem _ List.mem_cons_self))]
  | _ => rfl

/-- What annotations denote is what they denote by one level of reading. -/
theorem typeOf_eq_typeBy (env : Environment) (e : Expr) :
    env.typeOf e = env.typeBy env.typeOf e := by
  cases e with
  | literal code l =>
    -- That the text is shorter than the literal is needed here, and nowhere else.
    exact typeOf_literal env code l
  | subscript code value elements =>
    rw [typeOf, typeWith, readingsWith_eq_map]
    rfl
  | union code left right =>
    rw [typeOf, typeWith]
    rfl
  | name | member | ellipsis | call | starred | tuple | list | other =>
    rw [typeOf, typeWith]
    · rfl
    all_goals simp

/-- Nothing else is. -/
theorem eq_typeOf_of_eq_typeBy {f : Expr → Except LiteralFault TypeKey}
    (hf : ∀ e, f e = env.typeBy f e) (e : Expr) : f e = env.typeOf e := by
  induction e using Expr.wellFounded_calls.induction with
  | h e ih =>
    calc f e
        = env.typeBy f e := hf e
      _ = env.typeBy env.typeOf e := typeBy_congr ih
      _ = env.typeOf e := (typeOf_eq_typeBy env e).symm

/-- The results of a function are found from what annotations denote. -/
theorem resultsOf_eq_resultsBy (env : Environment) (declared : Option Expr) :
    env.resultsOf declared = resultsBy env.typeOf declared := by
  cases declared with
  | none => rfl
  | some e => rfl

/-! ## Levels of reading -/

/-- So many levels of reading find the type that the annotation denotes. -/
def FoundWithin (env : Environment) (depth : Nat) (e : Expr) : Prop :=
  ∀ n, depth ≤ n → ∀ f, (env.typeBy)^[n] f e = env.typeOf e

/-- A greater number of levels serves as well. -/
theorem FoundWithin.mono {depth depth' : Nat} {e : Expr} (h : env.FoundWithin depth e)
    (hle : depth ≤ depth') : env.FoundWithin depth' e :=
  fun n hn => h n (Nat.le_trans hle hn)

/-- For finitely many annotations some number of levels serves. -/
theorem exists_foundWithin_all {es : List Expr} (h : ∀ e ∈ es, ∃ depth, env.FoundWithin depth e) :
    ∃ depth, ∀ e ∈ es, env.FoundWithin depth e := by
  induction es with
  | nil => exact ⟨0, fun e he => nomatch he⟩
  | cons e es ih =>
    obtain ⟨first, hfirst⟩ := h e List.mem_cons_self
    obtain ⟨rest, hrest⟩ := ih fun e' he' => h e' (List.mem_cons_of_mem e he')
    refine ⟨max first rest, fun e' he' => ?_⟩
    rcases List.mem_cons.mp he' with rfl | he'
    · exact hfirst.mono (Nat.le_max_left first rest)
    · exact (hrest e' he').mono (Nat.le_max_right first rest)

/-- An annotation calls for finitely many others. -/
theorem exists_calls_iff_mem (e : Expr) :
    ∃ parts : List Expr, ∀ part, e.Calls part ↔ part ∈ parts := by
  -- A literal calls for one annotation at most, and has no operands. All else has operands only.
  by_cases hliteral : ∃ code l, e = .literal code l
  · obtain ⟨code, l, rfl⟩ := hliteral
    cases hvalue : Literal.value l.toList with
    | error fault =>
      refine ⟨[], fun part => ⟨fun hcalls => ?_, fun hpart => nomatch hpart⟩⟩
      cases hcalls with
      | operand hpart => cases hpart
      | text hvalue' => cases hvalue.symm.trans hvalue'
    | ok text =>
      refine ⟨(Expr.ofText? text).toList, fun part => ⟨fun hcalls => ?_, fun hpart => ?_⟩⟩
      · cases hcalls with
        | operand hpart => cases hpart
        | text hvalue' he =>
          cases hvalue.symm.trans hvalue'
          exact Option.mem_toList.mpr he
      · exact .text hvalue (Option.mem_toList.mp hpart)
  · refine ⟨e.operands, fun part => ⟨fun hcalls => ?_, .operand⟩⟩
    cases hcalls with
    | operand hpart => exact hpart
    | text => exact absurd ⟨_, _, rfl⟩ hliteral

/-- One level more than is enough for what an annotation calls for is enough for it. -/
theorem foundWithin_succ {depth : Nat} {e : Expr}
    (h : ∀ part, e.Calls part → env.FoundWithin depth part) : env.FoundWithin (depth + 1) e := by
  intro n hn f
  obtain ⟨n, rfl⟩ : ∃ k, n = k + 1 := ⟨n - 1, by omega⟩
  calc (env.typeBy)^[n + 1] f e
      = env.typeBy ((env.typeBy)^[n] f) e := by rw [Function.iterate_succ_apply']
    _ = env.typeBy env.typeOf e := typeBy_congr fun part hcalls => h part hcalls n (by omega) f
    _ = env.typeOf e := (typeOf_eq_typeBy env e).symm

/-- For every annotation some number of levels is enough. -/
theorem exists_foundWithin (env : Environment) (e : Expr) : ∃ depth, env.FoundWithin depth e := by
  -- Induction on `e` itself would not do: the annotation in the text of a literal is no part of it.
  induction e using Expr.wellFounded_calls.induction with
  | h e ih =>
    obtain ⟨parts, hparts⟩ := exists_calls_iff_mem e
    obtain ⟨depth, hdepth⟩ : ∃ depth, ∀ part ∈ parts, env.FoundWithin depth part :=
      exists_foundWithin_all fun part hpart => ih part ((hparts part).mpr hpart)
    exact ⟨depth + 1, foundWithin_succ fun part hcalls => hdepth part ((hparts part).mp hcalls)⟩

/-- Finitely many levels find the results that an annotation declares. -/
theorem exists_resultsBy_eq (env : Environment) (declared : Option Expr) :
    ∃ depth, ∀ n, depth ≤ n → ∀ f,
      resultsBy ((env.typeBy)^[n] f) declared = env.resultsOf declared := by
  cases declared with
  | none => exact ⟨0, fun _ _ _ => rfl⟩
  | some e =>
    -- Fields of a record are read without reading the record, so its depth says nothing of them.
    obtain ⟨depth, hdepth⟩ : ∃ depth, ∀ part ∈ e :: e.operands, env.FoundWithin depth part :=
      exists_foundWithin_all fun part _ => exists_foundWithin env part
    refine ⟨depth, fun n hn f => ?_⟩
    rw [resultsOf_eq_resultsBy]
    exact resultsBy_congr fun part hpart => hdepth part hpart n hn f

/-! ## Termination -/

/-- Reading the annotations of a module ends. -/
structure ReadingEnds (env : Environment) : Prop where
  /-- The annotations that are called for are all that matters to an annotation. -/
  calls : ∀ f g e, (∀ part, e.Calls part → f part = g part) → env.typeBy f e = env.typeBy g e
  /-- They are strictly smaller operands, or what the text of a literal is read as. -/
  descends : ∀ e part : Expr, e.Calls part →
    (part ∈ e.operands ∧ sizeOf part < sizeOf e) ∨
      ∃ code l text, e = .literal code l ∧ Literal.value l.toList = .ok text ∧
        Expr.ofText? text = some part
  /-- The text of a literal, of either sort and with any quotes and escapes, is shorter than it. -/
  shortens : ∀ literal text, Literal.value literal = .ok text → text.length < literal.length
  /-- So is each literal in the text: literals within literals run out. -/
  runsOut : ∀ l ls, (l :: ls).IsChain Literal.Encloses → ls.length ≤ l.toList.length
  /-- There is no endless chain of calls. -/
  wellFounded : WellFounded fun part e => Expr.Calls e part
  /-- What annotations denote is what they denote by one level of reading, and nothing else is. -/
  unique : ∀ f, (∀ e, f e = env.typeBy f e) ↔ f = env.typeOf
  /-- Finitely many levels find the type of an annotation, whatever the innermost one is told. -/
  types : ∀ e, ∃ depth, ∀ n, depth ≤ n → ∀ f, (env.typeBy)^[n] f e = env.typeOf e
  /-- They find the results that an annotation declares, too. -/
  results : ∀ declared, ∃ depth, ∀ n, depth ≤ n → ∀ f,
    resultsBy ((env.typeBy)^[n] f) declared = env.resultsOf declared

/-- Reading annotations ends, in every module. -/
theorem readingEnds (env : Environment) : env.ReadingEnds where
  calls f g e h := typeBy_congr h
  descends e part hcalls := by
    cases hcalls with
    | operand hpart => exact Or.inl ⟨hpart, Expr.sizeOf_lt_of_mem_operands hpart⟩
    | text hvalue he => exact Or.inr ⟨_, _, _, rfl, hvalue, he⟩
  shortens literal text hvalue := Literal.length_value_lt hvalue
  runsOut l ls hchain := Literal.length_le_of_isChain_encloses hchain
  wellFounded := Expr.wellFounded_calls
  unique f := by
    constructor
    · intro hf
      exact funext (eq_typeOf_of_eq_typeBy hf)
    · rintro rfl
      exact typeOf_eq_typeBy env
  types := exists_foundWithin env
  results := exists_resultsBy_eq env

end Environment

end Wiring
