import Wiring.Source.Grammar.Argument
import Wiring.Source.Grammar.Basic

/-!
# The grammar of expressions

Each rule is given rules for the expressions nested in it. `Nested.upTo` ties this knot: nesting is
as deep as there are tokens, since something is read before each nested expression. Operators whose
operands play no part are read as one chain, whatever binds them.
-/

namespace Wiring.Source

open Rule

/-- The kinds of expressions that stand in others. -/
inductive Level where
  /-- An expression of any kind. -/
  | expression
  /-- An expression that is no function and no choice. -/
  | disjunction
  /-- An operand of a comparison. -/
  | union
  /-- An expression without operators. -/
  | primary
deriving DecidableEq, Repr

/-- Rules for nested expressions. -/
abbrev Nested : Type := Level → Rule Expr

namespace Nested

variable (self : Nested)

/-! ## Lists of expressions -/

/-- Reads an expression after a star. -/
def starred (p : Rule Expr) : Rule Expr := coded do
  let _ ← symbol "*"
  let e ← p
  return (Expr.starred · e)

/-- Reads an expression whose value gets a name. -/
def assignment : Rule Expr := codeOnly (name *> symbol ":=" *> self .expression)

/-- Reads an expression whose value may get a name. -/
def named : Rule Expr := assignment self <|> self .expression

/-- Reads an item of a collection. -/
def item : Rule Expr := starred (self .union) <|> named self

/-- Reads expressions with commas between them, which are a tuple if there is any comma. -/
def expressions : Rule Expr := do
  let ((items, isTuple), tokens) ← spanned (commas1 (starred (self .union) <|> self .expression))
  match items, isTuple with
  | [e], false => return e
  | _, _ => return .tuple (Token.codeOf tokens) items

/-- Reads an expression that hands out values. -/
def yielding : Rule Expr := codeOnly do
  let _ ← word "yield"
  optionally ((word "from" *> self .expression) <|> expressions self)

/-- Reads what is assigned. -/
def assigned : Rule Expr := yielding self <|> expressions self

/-- Reads targets with commas between them. -/
def targets : Rule (List Expr) := do
  let (es, _) ← commas1 (starred (self .primary) <|> self .primary)
  guard (es.all Expr.isStarTarget)
  return es

/-- Reads the part of an expression that says what its items are made of. -/
def clauses : Rule Unit := do
  let _ ← many1 do
    optionally (word "async")
    let _ ← word "for" *> targets self
    let _ ← word "in" *> self .disjunction
    many (word "if" *> self .disjunction)

/-! ## Atoms -/

/-- Reads the characters and fields of a formatted text, with fields nested up to a depth. -/
def fields : Nat → Rule Unit
  | 0 => failure
  | depth + 1 => do
    let _ ← many <| (do let _ ← kind .textPart) <|> do
      let _ ← symbol "\x7b" *> assigned self
      optionally (symbol "=")
      optionally (symbol "!" *> kind .word)
      optionally (symbol ":" *> fields depth)
      let _ ← symbol "\x7d"

/-- Reads a formatted text. -/
def formatted : Rule Unit := do
  let _ ← kind .textStart
  (fun ts => fields self ts.length ts : Rule Unit)
  let _ ← kind .textEnd

/-- Reads literals in a row. A single one that is not formatted is known as such. -/
def literals : Rule Expr := coded do
  let parts ← many1 ((some <$> kind .literal) <|> (do formatted self; return none))
  match parts with
  | [some t] => return (Expr.literal · t.code)
  | _ => return Expr.other

/-- Reads a name or a constant. -/
def nameAtom : Rule Expr := do
  let t ← token fun t => t.kind == .word && (!isKeyword t.code || Expr.constants.contains t.code)
  return .name t.code t.code

/-- Reads an expression in parentheses, which may be items that make a tuple. -/
def parenthesized : Rule Expr := coded do
  let _ ← symbol "("
  (do let _ ← symbol ")"; return (Expr.tuple · []))
    <|> (do let _ ← yielding self <* symbol ")"; return Expr.other)
    <|> (do
      let e ← starred (self .union)
      let _ ← symbol ","
      let es ← commas (item self) <* symbol ")"
      return (Expr.tuple · (e :: es)))
    <|> do
      let e ← named self
      (do let _ ← symbol ")"; return (e.withCode ·))
        <|> (do clauses self; let _ ← symbol ")"; return Expr.other)
        <|> do
          let _ ← symbol ","
          let es ← commas (item self) <* symbol ")"
          return (Expr.tuple · (e :: es))

/-- Reads items in square brackets. -/
def bracketed : Rule Expr := coded do
  let _ ← symbol "["
  (do let _ ← symbol "]"; return (Expr.list · []))
    <|> do
      let e ← item self
      (do let _ ← symbol "]"; return (Expr.list · [e]))
        <|> (do guard !e.isStarred; clauses self; let _ ← symbol "]"; return Expr.other)
        <|> do
          let _ ← symbol ","
          let es ← commas (item self) <* symbol "]"
          return (Expr.list · (e :: es))

/-- Reads an entry of a map. -/
def entry : Rule Unit :=
  (do let _ ← symbol "**" *> self .union) <|> do
    let _ ← self .expression *> symbol ":" *> self .expression

/-- Reads what follows the first item of a set. -/
def restOfSet : Rule Unit := optionally (symbol "," *> commas (item self))

/-- Reads what follows the first entry of a map. -/
def restOfMap : Rule Unit := optionally (symbol "," *> commas (entry self))

/-- Reads a set or a map. -/
def braced : Rule Expr := codeOnly <| between "\x7b" "\x7d" <|
  (do let _ ← symbol "**" *> self .union; restOfMap self)
    <|> (do let _ ← starred (self .union); restOfSet self)
    <|> (do let _ ← assignment self; clauses self <|> restOfSet self)
    <|> (do
      let _ ← self .expression
      (do let _ ← symbol ":" *> self .expression; clauses self <|> restOfMap self)
        <|> clauses self <|> restOfSet self)
    <|> pure ()

/-- Reads an expression that has no parts outside of brackets. -/
def atom : Rule Expr :=
  nameAtom
    <|> (coded do let _ ← symbol "..."; return Expr.ellipsis)
    <|> codeOnly (kind .number)
    <|> literals self
    <|> parenthesized self
    <|> bracketed self
    <|> braced self

/-! ## Operators -/

/-- Reads an argument. -/
def argument : Rule Argument :=
  (symbol "*" *> (.starred <$> self .expression))
    <|> (symbol "**" *> (.keywords <$> self .expression))
    <|> (do let n ← name <* symbol "="; return .keyword n (← self .expression))
    <|> (.positional <$> named self)

/-- Reads the arguments in the head of a class. -/
def headArguments : Rule (List Argument) := do
  let args ← commas (argument self)
  guard (Argument.namesLast args)
  return args

/-- Reads the arguments of a call. A single one may say what its items are made of. -/
def callArguments : Rule Unit := do
  let (args, comma) ← commas1 (argument self) <|> pure ([], true)
  guard (Argument.inOrder args)
  match args, comma with
  | [.positional _], false => clauses self <|> pure ()
  | _, _ => pure ()

/-- Reads what follows the first colon of a slice. -/
def restOfSlice : Rule Unit := do
  optionally (self .expression)
  optionally (symbol ":" *> optionally (self .expression))

/-- Reads an index, or a slice, which counts as none. -/
def index : Rule (Option Expr) :=
  (some <$> (symbol "*" *> self .expression))
    <|> (do let _ ← symbol ":"; restOfSlice self; return none)
    <|> (some <$> assignment self)
    <|> do
      let e ← self .expression
      (do let _ ← symbol ":"; restOfSlice self; return none) <|> return some e

/-- Reads what follows an atom. -/
def trailer : Rule (Expr → String → Expr) :=
  (do
    let attr ← symbol "." *> name
    return fun e code => .member code e attr)
    <|> (do
      between "(" ")" (callArguments self)
      return fun e code => .call code e)
    <|> do
      let (elements, _) ← between "[" "]" (commas1 (index self))
      return fun e code => .subscript code e (elements.filterMap id)

/-- Reads an expression without operators. -/
def primary : Rule Expr := continuing (atom self) (continued (trailer self))

/-- Reads one of the given symbols. -/
def oneOf (codes : List String) : Rule Token := token fun t =>
  t.kind == .symbol && codes.contains t.code

/-- Reads a primary expression and the operators before it. -/
def operand : Rule Expr :=
  codeOnly (many1 (oneOf ["+", "-", "~"]) *> optionally (word "await") *> primary self)
    <|> codeOnly (word "await" *> primary self)
    <|> primary self

/-- Reads an operator and the operand after it, which make some other expression. -/
def operation (operator : Rule α) (operand : Rule Expr) : Rule (Expr → Expr) :=
  continued do
    let _ ← operator *> operand
    return fun _ code => .other code

/-- Reads operands with operators between them that bind more closely than the bar. -/
def arithmetic : Rule Expr :=
  continuing (operand self) <| operation
    (oneOf ["**", "*", "/", "//", "%", "@", "+", "-", "<<", ">>", "&", "^"]) (operand self)

/-- Reads expressions with bars between them. -/
def union : Rule Expr :=
  continuing (arithmetic self) <| continued do
    let right ← symbol "|" *> arithmetic self
    return fun left code => .union code left right

/-- Reads an operator that compares. -/
def comparator : Rule Unit :=
  (do let _ ← oneOf ["<", ">", "==", ">=", "<=", "!="])
    <|> (do let _ ← word "in")
    <|> (do let _ ← word "not" *> word "in")
    <|> (do let _ ← word "is"; optionally (word "not"))

/-- Reads a comparison, which may be denied. -/
def inversion : Rule Expr :=
  let comparison := continuing (union self) (operation comparator (union self))
  codeOnly (many1 (word "not") *> comparison) <|> comparison

/-- Reads comparisons that are joined. -/
def disjunction : Rule Expr :=
  continuing (inversion self) (operation (word "or" <|> word "and") (inversion self))

/-- Reads what stands after a colon, if that is allowed and there. -/
def typed (allowed : Bool) (p : Rule Expr) : Rule (Option Expr) :=
  if allowed then optional (symbol ":" *> p) else pure none

/-- Reads a parameter, which may have an annotation or not. -/
def parameter (annotated : Bool) : Rule Parameter :=
  (do let _ ← symbol "/"; return .slash)
    <|> (do let _ ← symbol "**" *> name; return .keywords (← typed annotated (self .expression)))
    <|> (do
      let _ ← symbol "*"
      (do
        let _ ← name
        return .packed (← typed annotated (starred (self .union) <|> self .expression)))
        <|> return .star)
    <|> do
      let _ ← name
      let type ← typed annotated (self .expression)
      return .plain type (← optional (symbol "=" *> self .expression)).isSome

/-- Reads parameters. -/
def parameters (annotated : Bool) : Rule (List Parameter) := do
  let items ← commas (parameter self annotated)
  guard (Parameter.inOrder items)
  return items

/-- Reads a function without a name. -/
def function : Rule Expr :=
  codeOnly (word "lambda" *> parameters self false *> symbol ":" *> self .expression)

/-- Reads an expression of any kind. -/
def expression : Rule Expr :=
  function self <|> do
    let e ← disjunction self
    let choice := operation (word "if" *> disjunction self *> word "else") (self .expression)
    (do return (← choice) e) <|> return e

/-! ## Nesting -/

/-- Reads an expression of a kind. -/
def rule : Level → Rule Expr
  | .expression => expression self
  | .disjunction => disjunction self
  | .union => union self
  | .primary => primary self

/-- Rules for expressions that are nested less deeply than the given number. -/
def upTo : Nat → Nested
  | 0, _ => failure
  | depth + 1, level => rule (upTo depth) level

/-- Rules for expressions nested to any depth. -/
def all : Nested := fun level ts => upTo (ts.length + 1) level ts

end Nested

end Wiring.Source
