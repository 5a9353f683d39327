import Wiring.Proofs.Source.Rule
import Wiring.Proofs.Source.Scan
import Wiring.Source.Reader

/-!
# Literals in expressions

The literals that occur in an expression that is read from a text are tokens of the text
(`Nested.ensures_all`), so none of them is longer than the text (`length_le_of_mem_literals`). The
proof follows the rules of the grammar one by one, each under the assumption that the rules for
nested expressions do the same.
-/

namespace Wiring.Source

namespace Expr

mutual

/-- The literals that occur in an expression. -/
def literals : Expr → List String
  | name .. | ellipsis _ | other _ => []
  | literal _ text => [text]
  | member _ value _ | starred _ value => literals value
  | call _ function => literals function
  | subscript _ value elements => literals value ++ literalsOf elements
  | union _ left right => literals left ++ literals right
  | tuple _ items | list _ items => literalsOf items

/-- The literals that occur in the expressions of a list. -/
def literalsOf : List Expr → List String
  | [] => []
  | e :: es => literals e ++ literalsOf es

end

/-- The literals of a list of expressions are those of its members. -/
theorem literalsOf_eq_flatMap (es : List Expr) : literalsOf es = es.flatMap literals := by
  induction es with
  | nil => rw [literalsOf, List.flatMap_nil]
  | cons e es ih => rw [literalsOf, ih, List.flatMap_cons]

/-- All literals in the expression have a property. -/
def Holds (P : String → Prop) (e : Expr) : Prop := ∀ l ∈ e.literals, P l

variable {P : String → Prop} {e left right : Expr} {es : List Expr}

/-- Without literals there is nothing to show. -/
theorem holds_of_literals_eq_nil (h : e.literals = []) : e.Holds P := by
  intro l hl
  rw [h] at hl
  cases hl

/-- A name has no literals. -/
theorem holds_name (code id : String) : (name code id).Holds P := holds_of_literals_eq_nil rfl

/-- Neither have three dots. -/
theorem holds_ellipsis (code : String) : (ellipsis code).Holds P := holds_of_literals_eq_nil rfl

/-- Neither has some other expression. -/
theorem holds_other (code : String) : (other code).Holds P := holds_of_literals_eq_nil rfl

/-- A literal is its own only one. -/
theorem holds_literal (code : String) {text : String} (h : P text) :
    (literal code text).Holds P := by
  intro l hl
  rw [literals] at hl
  rwa [List.mem_singleton.mp hl]

/-- The literals of a list of expressions are those of its members. -/
theorem holds_list (code : String) (h : ∀ e ∈ es, e.Holds P) : (list code es).Holds P := by
  intro l hl
  rw [literals, literalsOf_eq_flatMap] at hl
  obtain ⟨e, he, hl⟩ := List.mem_flatMap.mp hl
  exact h e he l hl

/-- So are those of a tuple. -/
theorem holds_tuple (code : String) (h : ∀ e ∈ es, e.Holds P) : (tuple code es).Holds P :=
  holds_list code h

/-- The literals of a value with indices are those of the value and of the indices. -/
theorem holds_subscript (code : String) (hvalue : e.Holds P) (helements : ∀ e ∈ es, e.Holds P) :
    (subscript code e es).Holds P := by
  intro l hl
  rw [literals] at hl
  rcases List.mem_append.mp hl with hl | hl
  · exact hvalue l hl
  · exact holds_list code helements l hl

/-- The literals of alternatives are those of both. -/
theorem holds_union (code : String) (hleft : left.Holds P) (hright : right.Holds P) :
    (union code left right).Holds P := by
  intro l hl
  rw [literals] at hl
  rcases List.mem_append.mp hl with hl | hl
  · exact hleft l hl
  · exact hright l hl

/-- Code does not matter. -/
theorem Holds.withCode (h : e.Holds P) (code : String) : (e.withCode code).Holds P := by
  unfold Holds
  cases e with
  | name | member | literal | ellipsis | subscript | union | call | starred | tuple | list
  | other => exact h

end Expr

namespace Nested

open Rule Wiring.Source.Expr

/-- The text is the code of a token with a property. -/
def CodeOf (P : Token → Prop) (code : String) : Prop := ∃ t, P t ∧ t.code = code

variable {P : Token → Prop} {self : Nested}

/-- Where only the code matters the expression has no literals. -/
theorem ensures_codeOnly {α : Type} {p : Rule α} (hp : Passes P p) :
    Ensures P (Holds (CodeOf P)) (codeOnly p) :=
  hp.codeOnly holds_other

/-- One of several symbols is passed over. -/
theorem passes_oneOf (codes : List String) : Passes P (oneOf codes) := (ensures_token _).passes

/-! ## Lists of expressions -/

/-- A star adds no literals. -/
theorem ensures_starred {p : Rule Expr} (hp : Ensures P (Holds (CodeOf P)) p) :
    Ensures P (Holds (CodeOf P)) (starred p) :=
  Ensures.coded <| (passes_symbol "*").then <| hp.bind fun _ he => ensures_pure fun _ => he

section

variable (hself : ∀ level, Ensures P (Holds (CodeOf P)) (self level))

include hself

/-- An expression whose value gets a name has only its code. -/
theorem ensures_assignment : Ensures P (Holds (CodeOf P)) (assignment self) :=
  ensures_codeOnly <| (passes_name.seqRight (passes_symbol ":=")).seqRight (hself _).passes

/-- Whether a value gets a name or not, the literals are tokens that are read. -/
theorem ensures_named : Ensures P (Holds (CodeOf P)) (named self) :=
  (ensures_assignment hself).orElse (hself _)

/-- So are those of an item. -/
theorem ensures_item : Ensures P (Holds (CodeOf P)) (item self) :=
  (ensures_starred (hself _)).orElse (ensures_named hself)

/-- So are those of expressions with commas between them. -/
theorem ensures_expressions : Ensures P (Holds (CodeOf P)) (expressions self) := by
  refine ((ensures_starred (hself _)).orElse (hself _)).commas1.spanned.bind ?_
  rintro ⟨⟨items, isTuple⟩, tokens⟩ hitems
  dsimp only
  split
  · exact ensures_pure (hitems _ (List.mem_singleton_self _))
  · exact ensures_pure (holds_tuple _ hitems)

/-- An expression that hands out values has only its code. -/
theorem ensures_yielding : Ensures P (Holds (CodeOf P)) (yielding self) :=
  ensures_codeOnly <| (passes_word "yield").then <| Ensures.optionally <|
    ((passes_word "from").seqRight (hself _)).orElse (ensures_expressions hself)

/-- The literals of what is assigned are tokens that are read. -/
theorem ensures_assigned : Ensures P (Holds (CodeOf P)) (assigned self) :=
  (ensures_yielding hself).orElse (ensures_expressions hself)

/-- Targets are passed over. -/
theorem passes_targets : Passes P (targets self) :=
  ((ensures_starred (hself _)).orElse (hself _)).commas1.bind fun _ _ =>
    (passes_guard _).then (ensures_pure trivial)

/-- So is what says what items are made of. -/
theorem passes_clauses : Passes P (clauses self) := by
  have hclause : Passes P (do
      optionally (word "async")
      let _ ← word "for" *> targets self
      let _ ← word "in" *> self .disjunction
      many (word "if" *> self .disjunction)) := by
    refine (passes_word "async").optionally.then ?_
    refine ((passes_word "for").seqRight (passes_targets hself)).then ?_
    refine ((passes_word "in").seqRight (hself _).passes).then ?_
    exact ((passes_word "if").seqRight (hself _)).many.passes
  exact hclause.many1.passes.then (ensures_pure trivial)

/-! ## Atoms -/

/-- So are the fields of a formatted text, however deep they are nested. -/
theorem passes_fields (depth : Nat) : Passes P (fields self depth) := by
  induction depth with
  | zero => exact ensures_failure
  | succ depth ih =>
    have hfield : Passes P (do
        let _ ← symbol "\x7b" *> assigned self
        optionally (symbol "=")
        optionally (symbol "!" *> kind .word)
        optionally (symbol ":" *> fields self depth)
        let _ ← symbol "\x7d") := by
      refine ((passes_symbol _).seqRight (ensures_assigned hself)).passes.then ?_
      refine (passes_symbol _).optionally.then ?_
      refine ((passes_symbol _).seqRight (ensures_kind _)).optionally.then ?_
      refine ((passes_symbol _).seqRight ih).optionally.then ?_
      exact (passes_symbol _).then (ensures_pure trivial)
    have hpart : Passes P (do let _ ← kind .textPart) :=
      (ensures_kind _).passes.then (ensures_pure trivial)
    exact (hpart.orElse hfield).many.passes.then (ensures_pure trivial)

/-- So is a formatted text. -/
theorem passes_formatted : Passes P (formatted self) := by
  refine (ensures_kind _).passes.then ?_
  have hfields : Passes P (fun ts => fields self ts.length ts : Rule Unit) :=
    fun ts => passes_fields hself ts.length ts
  exact hfields.then ((ensures_kind _).passes.then (ensures_pure trivial))

/-- A single literal is a token, and several in a row have only their code. -/
theorem ensures_literals : Ensures P (Holds (CodeOf P)) (literals self) := by
  have hpart : Ensures P (fun o => ∀ t ∈ o, P t)
      ((some <$> kind .literal) <|> (do formatted self; return none)) := by
    refine ((ensures_kind _).map fun t ht => ?_).orElse ?_
    · rintro _ ⟨⟩
      exact ht
    · refine (passes_formatted hself).then (ensures_pure ?_)
      rintro _ ⟨⟩
  refine Ensures.coded (hpart.many1.bind fun parts hparts => ?_)
  split
  · rename_i t
    have ht : P t := hparts _ (List.mem_singleton_self _) t rfl
    exact ensures_pure fun code => holds_literal code ⟨t, ht, rfl⟩
  · exact ensures_pure holds_other

omit hself in
/-- A name has no literals. -/
theorem ensures_nameAtom : Ensures P (Holds (CodeOf P)) nameAtom :=
  (ensures_token _).bind fun _ _ => ensures_pure (holds_name _ _)

/-- The literals in parentheses are those of the items. -/
theorem ensures_parenthesized : Ensures P (Holds (CodeOf P)) (parenthesized self) := by
  have hclose : Passes P (symbol ")") := passes_symbol _
  have hitems : Ensures P (fun es => ∀ e ∈ es, e.Holds (CodeOf P))
      (commas (item self) <* symbol ")") :=
    (ensures_item hself).commas.seqLeft hclose
  have htuple : ∀ e : Expr, e.Holds (CodeOf P) →
      Ensures P (fun make => ∀ code, (make code).Holds (CodeOf P)) (do
      let _ ← symbol ","
      let es ← commas (item self) <* symbol ")"
      return (Expr.tuple · (e :: es))) := by
    intro e he
    refine (passes_symbol _).then (hitems.bind fun es hes => ensures_pure fun code => ?_)
    exact holds_tuple code (List.forall_mem_cons.mpr ⟨he, hes⟩)
  refine Ensures.coded ((passes_symbol _).then ?_)
  refine Ensures.orElse ?_ (Ensures.orElse ?_ (Ensures.orElse ?_ ?_))
  · exact hclose.then (ensures_pure fun code => holds_tuple code (by simp))
  · exact ((ensures_yielding hself).seqLeft hclose).passes.then (ensures_pure holds_other)
  · exact (ensures_starred (hself _)).bind htuple
  · refine (ensures_named hself).bind fun e he => ?_
    refine Ensures.orElse ?_ (Ensures.orElse ?_ (htuple e he))
    · exact hclose.then (ensures_pure he.withCode)
    · exact (passes_clauses hself).then (hclose.then (ensures_pure holds_other))

/-- So are those in square brackets. -/
theorem ensures_bracketed : Ensures P (Holds (CodeOf P)) (bracketed self) := by
  have hclose : Passes P (symbol "]") := passes_symbol _
  refine Ensures.coded ((passes_symbol _).then (Ensures.orElse ?_ ?_))
  · exact hclose.then (ensures_pure fun code => holds_list code (by simp))
  · refine (ensures_item hself).bind fun e he => ?_
    refine Ensures.orElse ?_ (Ensures.orElse ?_ ?_)
    · exact hclose.then (ensures_pure fun code => holds_list code (by simpa using he))
    · exact (passes_guard _).then
        ((passes_clauses hself).then (hclose.then (ensures_pure holds_other)))
    · refine (passes_symbol _).then ?_
      refine ((ensures_item hself).commas.seqLeft hclose).bind fun es hes => ?_
      exact ensures_pure fun code => holds_list code (List.forall_mem_cons.mpr ⟨he, hes⟩)

/-- An entry of a map is passed over. -/
theorem passes_entry : Passes P (entry self) := by
  refine Ensures.orElse ?_ ?_
  · exact ((passes_symbol _).seqRight (hself _)).passes.then (ensures_pure trivial)
  · exact (((hself _).passes.seqRight (passes_symbol _)).seqRight (hself _).passes).then
      (ensures_pure trivial)

/-- So is the rest of a set. -/
theorem passes_restOfSet : Passes P (restOfSet self) :=
  ((passes_symbol _).seqRight (ensures_item hself).commas).optionally

/-- So is the rest of a map. -/
theorem passes_restOfMap : Passes P (restOfMap self) :=
  ((passes_symbol _).seqRight (passes_entry hself).commas).optionally

/-- A set or a map has only its code. -/
theorem ensures_braced : Ensures P (Holds (CodeOf P)) (braced self) := by
  refine ensures_codeOnly (Ensures.between ?_ _ _)
  refine Ensures.orElse ?_ (Ensures.orElse ?_ (Ensures.orElse ?_ (Ensures.orElse ?_ ?_)))
  · exact ((passes_symbol _).seqRight (hself _)).passes.then (passes_restOfMap hself)
  · exact (ensures_starred (hself _)).passes.then (passes_restOfSet hself)
  · exact (ensures_assignment hself).passes.then
      ((passes_clauses hself).orElse (passes_restOfSet hself))
  · refine (hself _).passes.then (Ensures.orElse ?_ ?_)
    · exact ((passes_symbol _).seqRight (hself _)).passes.then
        ((passes_clauses hself).orElse (passes_restOfMap hself))
    · exact (passes_clauses hself).orElse (passes_restOfSet hself)
  · exact ensures_pure trivial

/-- The literals of an atom are tokens that are read. -/
theorem ensures_atom : Ensures P (Holds (CodeOf P)) (atom self) := by
  refine Ensures.orElse ensures_nameAtom (Ensures.orElse ?_ (Ensures.orElse ?_
    ((ensures_literals hself).orElse ((ensures_parenthesized hself).orElse
      ((ensures_bracketed hself).orElse (ensures_braced hself))))))
  · exact Ensures.coded ((passes_symbol _).then (ensures_pure holds_ellipsis))
  · exact ensures_codeOnly (ensures_kind _).passes

/-! ## Operators -/

/-- An argument is passed over. -/
theorem passes_argument : Passes P (argument self) := by
  refine Ensures.orElse ?_ (Ensures.orElse ?_ (Ensures.orElse ?_ ?_))
  · exact (passes_symbol _).seqRight ((hself _).map fun _ _ => trivial)
  · exact (passes_symbol _).seqRight ((hself _).map fun _ _ => trivial)
  · exact (passes_name.seqLeft (passes_symbol _)).bind fun _ _ =>
      (hself _).bind fun _ _ => ensures_pure trivial
  · exact (ensures_named hself).map fun _ _ => trivial

/-- So are the arguments in the head of a class. -/
theorem passes_headArguments : Passes P (headArguments self) :=
  (passes_argument hself).commas.bind fun _ _ => (passes_guard _).then (ensures_pure trivial)

/-- So are the arguments of a call. -/
theorem passes_callArguments : Passes P (callArguments self) := by
  refine Ensures.bind (((passes_argument hself).commas1.passes).orElse (ensures_pure trivial))
    fun read _ => (passes_guard _).then ?_
  split
  · exact (passes_clauses hself).orElse (ensures_pure trivial)
  · exact ensures_pure trivial

/-- So is the rest of a slice. -/
theorem passes_restOfSlice : Passes P (restOfSlice self) :=
  (hself _).optionally.then ((passes_symbol _).seqRight (hself _).optionally).optionally

/-- The literals of an index are tokens that are read. -/
theorem ensures_index : Ensures P (fun o => ∀ e ∈ o, e.Holds (CodeOf P)) (index self) := by
  have hslice : Ensures P (fun o : Option Expr => ∀ e ∈ o, e.Holds (CodeOf P))
      (do let _ ← symbol ":"; restOfSlice self; return none) :=
    (passes_symbol _).then ((passes_restOfSlice hself).then (ensures_pure (by simp)))
  have hsome : ∀ e : Expr, e.Holds (CodeOf P) → ∀ e' ∈ some e, e'.Holds (CodeOf P) := by
    rintro e he _ ⟨⟩
    exact he
  refine Ensures.orElse ?_ (hslice.orElse (Ensures.orElse ?_ ?_))
  · exact ((passes_symbol _).seqRight (hself _)).map hsome
  · exact (ensures_assignment hself).map hsome
  · exact (hself _).bind fun e he => hslice.orElse (ensures_pure (hsome e he))

/-- What follows an atom adds at most the literals of indices. -/
theorem ensures_trailer :
    Ensures P (fun make => ∀ e code, e.Holds (CodeOf P) → (make e code).Holds (CodeOf P))
      (trailer self) := by
  refine Ensures.orElse ?_ (Ensures.orElse ?_ ?_)
  · exact ((passes_symbol _).seqRight passes_name).bind fun _ _ =>
      ensures_pure fun _ _ he => he
  · exact ((passes_callArguments hself).between _ _).then (ensures_pure fun _ _ he => he)
  · refine ((ensures_index hself).commas1.between _ _).bind ?_
    rintro ⟨elements, comma⟩ helements
    refine ensures_pure fun e code he => holds_subscript code he ?_
    intro e' he'
    obtain ⟨o, ho, heq⟩ := List.mem_filterMap.mp he'
    exact helements o ho e' heq

/-- The literals of an expression without operators are tokens that are read. -/
theorem ensures_primary : Ensures P (Holds (CodeOf P)) (primary self) :=
  (ensures_atom hself).continuing (ensures_trailer hself).continued

/-- Operators before an expression leave only its code. -/
theorem ensures_operand : Ensures P (Holds (CodeOf P)) (operand self) := by
  refine Ensures.orElse (ensures_codeOnly ?_) (Ensures.orElse (ensures_codeOnly ?_)
    (ensures_primary hself))
  · exact ((passes_oneOf _).many1.passes.seqRight (passes_word _).optionally).seqRight
      (ensures_primary hself).passes
  · exact (passes_word _).seqRight (ensures_primary hself).passes

omit hself in
/-- An operator and its operand make an expression without literals of its own. -/
theorem ensures_operation {α : Type} {operator : Rule α} {operand : Rule Expr}
    (hoperator : Passes P operator) (hoperand : Ensures P (Holds (CodeOf P)) operand) :
    Ensures P (fun f => ∀ e, e.Holds (CodeOf P) → (f e).Holds (CodeOf P))
      (operation operator operand) :=
  Ensures.continued <| (hoperator.seqRight hoperand).passes.then <|
    ensures_pure fun _ code _ => holds_other code

/-- Operators between operands leave only their code. -/
theorem ensures_arithmetic : Ensures P (Holds (CodeOf P)) (arithmetic self) :=
  (ensures_operand hself).continuing (ensures_operation (passes_oneOf _) (ensures_operand hself))

/-- The literals of alternatives are those of each. -/
theorem ensures_union : Ensures P (Holds (CodeOf P)) (Nested.union self) := by
  refine (ensures_arithmetic hself).continuing (Ensures.continued ?_)
  exact ((passes_symbol _).seqRight (ensures_arithmetic hself)).bind fun right hright =>
    ensures_pure fun left code hleft => holds_union code hleft hright

omit hself in
/-- An operator that compares is passed over. -/
theorem passes_comparator : Passes P comparator := by
  refine Ensures.orElse ?_ (Ensures.orElse ?_ (Ensures.orElse ?_ ?_))
  · exact (passes_oneOf _).then (ensures_pure trivial)
  · exact (passes_word _).then (ensures_pure trivial)
  · exact ((passes_word _).seqRight (passes_word _)).then (ensures_pure trivial)
  · exact (passes_word _).then (passes_word _).optionally

/-- A comparison has only its code. -/
theorem ensures_inversion : Ensures P (Holds (CodeOf P)) (inversion self) := by
  have hcomparison : Ensures P (Holds (CodeOf P))
      (continuing (Nested.union self) (operation comparator (Nested.union self))) :=
    (ensures_union hself).continuing (ensures_operation passes_comparator (ensures_union hself))
  exact (ensures_codeOnly ((passes_word _).many1.passes.seqRight hcomparison.passes)).orElse
    hcomparison

/-- So have comparisons that are joined. -/
theorem ensures_disjunction : Ensures P (Holds (CodeOf P)) (disjunction self) :=
  (ensures_inversion hself).continuing
    (ensures_operation ((passes_word _).orElse (passes_word _)) (ensures_inversion hself))

omit hself in
/-- What stands after a colon is passed over. -/
theorem passes_typed (allowed : Bool) {p : Rule Expr} (hp : Passes P p) :
    Passes P (typed allowed p) := by
  unfold typed
  split
  · exact ((passes_symbol _).seqRight hp).optional.passes
  · exact ensures_pure trivial

/-- So is a parameter. -/
theorem passes_parameter (annotated : Bool) : Passes P (parameter self annotated) := by
  refine Ensures.orElse ?_ (Ensures.orElse ?_ (Ensures.orElse ?_ ?_))
  · exact (passes_symbol _).then (ensures_pure trivial)
  · exact ((passes_symbol _).seqRight passes_name).then
      ((passes_typed _ (hself _).passes).bind fun _ _ => ensures_pure trivial)
  · refine (passes_symbol _).then (Ensures.orElse ?_ (ensures_pure trivial))
    exact passes_name.then ((passes_typed _
      ((ensures_starred (hself _)).orElse (hself _)).passes).bind fun _ _ => ensures_pure trivial)
  · refine passes_name.then ((passes_typed _ (hself _).passes).bind fun _ _ => ?_)
    exact ((passes_symbol _).seqRight (hself _)).optional.bind fun _ _ => ensures_pure trivial

/-- So are parameters. -/
theorem passes_parameters (annotated : Bool) : Passes P (parameters self annotated) :=
  (passes_parameter hself annotated).commas.bind fun _ _ =>
    (passes_guard _).then (ensures_pure trivial)

/-- A function without a name has only its code. -/
theorem ensures_function : Ensures P (Holds (CodeOf P)) (function self) :=
  ensures_codeOnly ((((passes_word _).seqRight (passes_parameters hself false)).seqRight
    (passes_symbol _)).seqRight (hself _).passes)

/-- A choice has only its code, and any other expression is one of those above. -/
theorem ensures_expression : Ensures P (Holds (CodeOf P)) (expression self) := by
  refine (ensures_function hself).orElse ((ensures_disjunction hself).bind fun e he => ?_)
  have hcondition : Passes P (word "if" *> disjunction self *> word "else") :=
    ((passes_word _).seqRight (ensures_disjunction hself).passes).seqRight (passes_word _)
  exact ((ensures_operation hcondition (hself _)).bind fun _ hf =>
    ensures_pure (hf e he)).orElse (ensures_pure he)

/-! ## Nesting -/

/-- The literals of an expression of each kind are tokens that are read. -/
theorem ensures_rule (level : Level) : Ensures P (Holds (CodeOf P)) (rule self level) := by
  cases level with
  | expression => exact ensures_expression hself
  | disjunction => exact ensures_disjunction hself
  | union => exact ensures_union hself
  | primary => exact ensures_primary hself

end

/-- However deep expressions are nested, their literals are tokens that are read. -/
theorem ensures_upTo (depth : Nat) (level : Level) :
    Ensures P (Holds (CodeOf P)) (Nested.upTo depth level) := by
  induction depth generalizing level with
  | zero => exact ensures_failure
  | succ depth ih => exact ensures_rule ih level

/-- The literals of every expression are tokens that are read. -/
theorem ensures_all (level : Level) : Ensures P (Holds (CodeOf P)) (all level) :=
  fun ts => ensures_upTo (ts.length + 1) level ts

end Nested

/-- No literal of an expression is longer than the text that it is parsed from. -/
theorem Expr.length_le_of_parse? {text : List Char} {e : Expr} (h : Expr.parse? text = some e) :
    ∀ l ∈ e.literals, l.toList.length ≤ text.length := by
  obtain ⟨-, -, h⟩ := Option.bind_eq_some_iff.mp h
  obtain ⟨tokens, hscan, h⟩ := Option.bind_eq_some_iff.mp h
  obtain ⟨⟨e', rest⟩, hread, h⟩ := Option.bind_eq_some_iff.mp h
  obtain rfl := Option.some.inj h
  have hrule := ((Nested.ensures_expressions
    (P := fun t => t.code.toList.length ≤ text.length) Nested.ensures_all).seqLeft
      (Rule.ensures_kind .newline).passes).seqLeft (Rule.ensures_kind .finish).passes
  intro l hl
  obtain ⟨t, ht, rfl⟩ := (hrule tokens e' rest (length_le_of_mem_scan hscan) hread).1 l hl
  exact ht

/-- No literal of the expression of a text is longer than the text. -/
theorem Expr.length_le_of_mem_literals [Reader] {text : List Char} {e : Expr}
    (h : Expr.ofText? text = some e) : ∀ l ∈ e.literals, l.toList.length ≤ text.length :=
  length_le_of_parse? (ofText?_eq_some_iff_parse?.1 h).1

end Wiring.Source
