import Wiring.Source.Grammar.Statement

/-!
# Reading texts

The reader of source texts is not part of the program (`parse_module` and `parse_expression`, of
which the program expects `ParserSyntaxError` and nothing else). Its grammar is `Stmt.parse?` and
`Expr.parse?`. What it does with a text that does not follow the grammar, and which further texts it
refuses, is its own business: a `Reader` says so. Either it reports the text as malformed, which its
callers know how to handle, or it breaks off with an error that nobody handles.

`Reader.standard` knows the refusals that are common: a row of literals that are partly of octets and
partly of text, and a number with a point before it directly after a word that needs a space. In both
cases the reader breaks off.
-/

namespace Wiring.Source

/-- Why a text is not read. -/
inductive SyntaxFault where
  /-- It is reported as malformed. -/
  | malformed
  /-- Reading it broke off with another error. -/
  | brokenOff
deriving DecidableEq, Repr

/-- What a text is read as. -/
inductive Form where
  /-- The statements of a module. -/
  | statements
  /-- A single expression. -/
  | expression
deriving DecidableEq, Repr

/-- How texts are refused. -/
class Reader where
  /-- What becomes of a text that does not follow the grammar. -/
  rejection : Form → List Char → SyntaxFault
  /-- What else is wrong with a text that does. -/
  objection? : Form → List Char → Option SyntaxFault

namespace Reader

/-! ## The standard reader -/

/-- The token is a literal of octets. -/
def isOctets (t : Token) : Bool :=
  t.kind == .literal && (t.code.toList.takeWhile (!isQuote ·)).any fun c => c.toLower == 'b'

/-- Two literals that follow each other cannot be joined. -/
def clash (t u : Token) : Bool :=
  t.kind ∈ [.literal, .textEnd] && u.kind ∈ [.literal, .textStart] && isOctets t != isOctets u

/-- The words after which a space is needed where a number follows that starts with a point. -/
def spacedWords : List String :=
  ["and", "assert", "await", "else", "from", "in", "is", "not", "or", "raise", "return", "while",
    "with", "yield"]

/-- A space is missing between two tokens. A conditional statement, other than a conditional
expression, needs none. -/
def touch (t u : Token) : Bool :=
  t.kind == .word && (spacedWords.contains t.code || (t.code == "if" && t.lead != "")) &&
    u.kind == .number && u.lead == "" && u.code.toList.head? == some '.'

/-- Reading the tokens breaks off. -/
def breaksOff (ts : List Token) : Bool := (ts.zip ts.tail).any fun (t, u) => clash t u || touch t u

/-- A reader that reports what does not follow the grammar. -/
instance standard : Reader where
  rejection _ _ := .malformed
  objection? _ text := if (scan text).any breaksOff then some .brokenOff else none

/-! ## Whole texts -/

variable [Reader]

/-- What is read of a text, given what it is by the grammar. -/
def judge {α : Type} (form : Form) (text : List Char) : Option α → Except SyntaxFault α
  | none => .error (rejection form text)
  | some a =>
    match objection? form text with
    | some fault => .error fault
    | none => .ok a

/-- A text is read as what it is by the grammar, unless the reader has an objection. -/
theorem judge_eq_ok_iff {α : Type} {form : Form} {text : List Char} {parsed : Option α} {a : α} :
    judge form text parsed = .ok a ↔ parsed = some a ∧ objection? form text = none := by
  unfold judge
  cases parsed with
  | none => exact iff_of_false (by rintro ⟨⟩) (by rintro ⟨⟨⟩, -⟩)
  | some a' =>
    dsimp only
    split <;> rename_i hobjection
    · exact iff_of_false (by rintro ⟨⟩) fun h => nomatch hobjection.symm.trans h.2
    · exact ⟨fun h => ⟨congrArg some (Except.ok.inj h), hobjection⟩,
        fun h => congrArg Except.ok (Option.some.inj h.1)⟩

end Reader

variable [Reader] {text : List Char}

/-- The statements of a text. -/
def Stmt.read (text : List Char) : Except SyntaxFault (List Stmt) :=
  Reader.judge .statements text (Stmt.parse? text)

/-- The statements of a text, if it can be read. -/
def Stmt.ofText? (text : List Char) : Option (List Stmt) := (Stmt.read text).toOption

/-- A text has statements if it is read as such. -/
theorem Stmt.ofText?_eq_some_iff {stmts : List Stmt} :
    Stmt.ofText? text = some stmts ↔ Stmt.read text = .ok stmts := by
  unfold Stmt.ofText?
  cases Stmt.read text with
  | error fault => exact iff_of_false (by rintro ⟨⟩) (by rintro ⟨⟩)
  | ok stmts' =>
    exact ⟨fun h => congrArg Except.ok (Option.some.inj h),
      fun h => congrArg some (Except.ok.inj h)⟩

/-- A text has the statements it has by the grammar, unless the reader has an objection. -/
theorem Stmt.ofText?_eq_some_iff_parse? {stmts : List Stmt} :
    Stmt.ofText? text = some stmts ↔
      Stmt.parse? text = some stmts ∧ Reader.objection? .statements text = none :=
  Stmt.ofText?_eq_some_iff.trans Reader.judge_eq_ok_iff

/-- The expression of a text. -/
def Expr.read (text : List Char) : Except SyntaxFault Expr :=
  Reader.judge .expression text (Expr.parse? text)

/-- The expression of a text, if it can be read. -/
def Expr.ofText? (text : List Char) : Option Expr := (Expr.read text).toOption

/-- A text has an expression if it is read as one. -/
theorem Expr.ofText?_eq_some_iff {e : Expr} :
    Expr.ofText? text = some e ↔ Expr.read text = .ok e := by
  unfold Expr.ofText?
  cases Expr.read text with
  | error fault => exact iff_of_false (by rintro ⟨⟩) (by rintro ⟨⟩)
  | ok e' =>
    exact ⟨fun h => congrArg Except.ok (Option.some.inj h),
      fun h => congrArg some (Except.ok.inj h)⟩

/-- A text has the expression it has by the grammar, unless the reader has an objection. -/
theorem Expr.ofText?_eq_some_iff_parse? {e : Expr} :
    Expr.ofText? text = some e ↔
      Expr.parse? text = some e ∧ Reader.objection? .expression text = none :=
  Expr.ofText?_eq_some_iff.trans Reader.judge_eq_ok_iff

end Wiring.Source
