import Wiring.Source.Grammar.Expression

/-!
# The grammar of patterns

Patterns declare nothing; they are read to find where they end. Nesting is as deep as there are
tokens, since something is read before each nested pattern.
-/

namespace Wiring.Source

open Rule Nested

namespace Pattern

/-- An argument of a pattern for objects. -/
inductive Argument where
  /-- A pattern that a position decides. -/
  | positional
  /-- A pattern that a name decides. -/
  | keyword
deriving DecidableEq, Repr

variable (self : Rule Unit)

/-- Reads a signed number, which may have an imaginary part. -/
def number : Rule Unit := do
  optionally (symbol "-")
  let _ ← kind .number
  optionally (oneOf ["+", "-"] *> kind .number)

/-- Reads a dotted name. -/
def path : Rule Unit := do
  let _ ← sepBy1 name "."

/-- Reads an item of a sequence. -/
def item : Rule Bool :=
  (do let _ ← symbol "*" *> name; return true) <|> (do self; return false)

/-- Reads an entry of a pattern for maps. -/
def entry : Rule Unit :=
  (do let _ ← symbol "**" *> name) <|> do
    number
      <|> (do let _ ← literals all)
      <|> (do let _ ← token fun t => t.kind == .word && Expr.constants.contains t.code)
      <|> path
    let _ ← symbol ":"
    self

/-- Reads an argument of a pattern for objects. -/
def argument : Rule Argument :=
  (do let _ ← name *> symbol "="; self; return .keyword) <|> (do self; return .positional)

/-- Reads a pattern in parentheses, or the items of a sequence. -/
def group : Rule Unit := between "(" ")" <|
  (do
    let (items, comma) ← commas1 (item self)
    guard (comma || items == [false]))
    <|> pure ()

/-- Reads a pattern that no bar divides. -/
def closed : Rule Unit :=
  number
    <|> (do let _ ← literals all)
    <|> (do let _ ← token fun t => t.kind == .word && Expr.constants.contains t.code)
    <|> (do
      path
      optionally <| between "(" ")" do
        let args ← commas (argument self)
        guard (args.dropWhile (· == .positional) |>.all (· == .keyword)))
    <|> group self
    <|> (do let _ ← between "[" "]" (commas (item self)))
    <|> (do let _ ← between "\x7b" "\x7d" (commas (entry self)))

/-- Reads a pattern, which may get a name. -/
def rule : Rule Unit := do
  let _ ← sepBy1 (closed self) "|"
  optionally (word "as" *> name)

/-- Reads a pattern that is nested less deeply than the given number. -/
def upTo : Nat → Rule Unit
  | 0 => failure
  | depth + 1 => rule (upTo depth)

/-- Reads a pattern nested to any depth. -/
def pattern : Rule Unit := fun ts => upTo (ts.length + 1) ts

/-- Reads a pattern, or the items of a sequence without brackets. -/
def patterns : Rule Unit := do
  let (items, comma) ← commas1 (item pattern)
  guard (comma || items == [false])

end Pattern

end Wiring.Source
