import Wiring.Source.Expr
import Wiring.Source.Keyword
import Wiring.Source.Token

/-!
# Rules of a grammar

A rule reads a construct at the start of a list of tokens and leaves what follows it, or it fails.
`p <|> q` reads with `q` where `p` fails. The rules of the whole grammar are made of those given
here.
-/

namespace Wiring.Source

/-- A rule that reads a construct at the start of a list of tokens. -/
abbrev Rule (α : Type) : Type := StateT (List Token) Option α

namespace Rule

/-- Reads one token that is acceptable. -/
def token (accept : Token → Bool) : Rule Token
  | [] => none
  | t :: ts => if accept t then some (t, ts) else none

/-- Reads a token of the given kind. -/
def kind (k : TokenKind) : Rule Token := token (·.kind == k)

/-- Reads the given symbol. -/
def symbol (code : String) : Rule Token := token (·.isSymbol code)

/-- Reads the given word. -/
def word (code : String) : Rule Token := token (·.isWord code)

/-- Reads a word that is not reserved. -/
def name : Rule String := do
  let t ← token fun t => t.kind == .word && !isKeyword t.code
  return t.code

/-- The next token is acceptable. Nothing is read. -/
def sees (accept : Token → Bool) : Rule Bool := fun ts => some (ts.head?.any accept, ts)

/-- The next token is one of the given symbols. Nothing is read. -/
def seesSymbol (codes : List String) : Rule Bool :=
  sees fun t => t.kind == .symbol && codes.contains t.code

/-- Reads the construct as often as it is there, at most the given number of times. -/
def upTo (p : Rule α) : Nat → Rule (List α)
  | 0 => pure []
  | n + 1 => fun ts =>
    match p ts with
    | none => some ([], ts)
    | some (a, rest) => (upTo p n rest).map fun (as, rest) => (a :: as, rest)

/-- Reads the construct as often as it is there. Each time takes at least one token. -/
def many (p : Rule α) : Rule (List α) := fun ts => upTo p ts.length ts

/-- Reads the construct at least once. -/
def many1 (p : Rule α) : Rule (List α) := do return (← p) :: (← many p)

/-- The construct can be read or is left out. -/
def optionally (p : Rule α) : Rule Unit := (do let _ ← p) <|> pure ()

/-- Reads the construct at least once, with a separator between each two. -/
def sepBy1 (p : Rule α) (separator : String) : Rule (List α) := do
  return (← p) :: (← many (symbol separator *> p))

/-- Reads constructs with commas between them, of which one may follow the last. Whether there is
any comma is told, too. -/
def commas1 (p : Rule α) : Rule (List α × Bool) := do
  let first ← p
  let more ← many (symbol "," *> p)
  let trailing ← optional (symbol ",")
  return (first :: more, !more.isEmpty || trailing.isSome)

/-- Reads any number of constructs with commas between them, of which one may follow the last. -/
def commas (p : Rule α) : Rule (List α) := ((·.1) <$> commas1 p) <|> pure []

/-- Reads a construct in brackets. -/
def between (opening closing : String) (p : Rule α) : Rule α :=
  symbol opening *> p <* symbol closing

/-- Reads a construct and gives the tokens that it takes. -/
def spanned (p : Rule α) : Rule (α × List Token) := fun ts =>
  (p ts).map fun (a, rest) => ((a, passed ts rest), rest)

/-- Reads a construct and hands it its code. -/
def coded (p : Rule (String → α)) : Rule α := do
  let (make, tokens) ← spanned p
  return make (Token.codeOf tokens)

/-- Reads a construct of which only the code matters. -/
def codeOnly (p : Rule α) : Rule Expr := coded (do let _ ← p; return Expr.other)

/-- Reads what continues an expression, and hands it the expression and the code of both. -/
def continued (p : Rule (Expr → String → Expr)) : Rule (Expr → Expr) := do
  let (make, tokens) ← spanned p
  return fun e => make e (e.code ++ Token.tailOf tokens)

/-- Reads a construct and everything that continues it. -/
def continuing (p : Rule Expr) (more : Rule (Expr → Expr)) : Rule Expr := do
  let first ← p
  return (← many more).foldl (fun e f => f e) first

end Rule

end Wiring.Source
