import Wiring.Source.Grammar.Pattern
import Wiring.Source.Scan
import Wiring.Source.Stmt

/-!
# The grammar of statements

A rule for a line of statements or for a compound statement yields the statements it reads. Blocks
nest as deep as there are tokens. `Expr.parse?` and `Stmt.parse?` are for whole texts.
-/

namespace Wiring.Source

open Rule Nested

namespace Statement

/-! ## Simple statements -/

/-- Reads a dotted name. -/
def path : Rule String := String.intercalate "." <$> sepBy1 name "."

/-- Reads an imported name and the local name that it may get. -/
def importedName (p : Rule String) : Rule ImportedName := do
  let name ← p
  return { name, alias? := ← optional (word "as" *> Rule.name) }

/-- Reads the dots before a path, and counts them. -/
def dots : Rule Nat := do
  return (← many (oneOf [".", "..."])).foldl (fun count t => count + t.code.length) 0

/-- Reads an import. -/
def importing : Rule Stmt :=
  (do
    let _ ← word "import"
    return .importModules (← sepBy1 (importedName path) ","))
    <|> do
      let dots ← word "from" *> dots
      let path ← path <|> (do guard (dots != 0); return "")
      let _ ← word "import"
      (do let _ ← symbol "*"; return .importFrom dots path none)
        <|> (do
          let (names, _) ← between "(" ")" (commas1 (importedName name))
          return .importFrom dots path (some names))
        <|> (do return .importFrom dots path (some (← sepBy1 (importedName name) ",")))

/-- Reads the value that an annotated target may get. -/
def initial : Rule Unit := optionally (symbol "=" *> assigned all)

/-- Reads an assignment, or an expression that is a statement. -/
def expressions : Rule Unit := do
  let target ← assigned all
  (do
    let _ ← oneOf ["+=", "-=", "*=", "@=", "/=", "%=", "&=", "|=", "^=", "<<=", ">>=", "**=", "//="]
    guard target.isSingleTarget
    let _ ← assigned all)
    <|> (do
      guard target.isSingleTarget
      let _ ← symbol ":" *> all .expression
      initial)
    <|> do
      let values ← many (symbol "=" *> assigned all)
      guard ((target :: values).dropLast.all Expr.isStarTarget)

/-- Reads the declaration of a name for a type. -/
def typeAlias (typeParameters : Rule Unit) : Rule Unit := do
  let _ ← word "type" *> name
  optionally typeParameters
  let _ ← symbol "=" *> all .expression

/-- Reads a statement that starts with a reserved word and declares nothing. -/
def worded : Rule Unit :=
  (do let _ ← word "pass" <|> word "break" <|> word "continue")
    <|> (do let _ ← word "return"; optionally (Nested.expressions all))
    <|> (do
      let _ ← word "raise"
      optionally do
        let _ ← all .expression
        optionally (word "from" *> all .expression))
    <|> (do let _ ← (word "global" <|> word "nonlocal") *> sepBy1 name ",")
    <|> (do
      let (es, _) ← word "del" *> commas1 (all .primary)
      guard (es.all Expr.isDeletable))
    <|> do
      let _ ← word "assert" *> all .expression
      optionally (symbol "," *> all .expression)

/-- Reads what bounds a parameter that stands for a type, and its default. -/
def typeParameter : Rule Unit := do
  (do let _ ← oneOf ["*", "**"] *> name) <|> do
    let _ ← name
    optionally (symbol ":" *> all .expression)
  optionally (symbol "=" *> (Nested.starred (all .union) <|> all .expression))

/-- Reads parameters that stand for types. -/
def typeParameters : Rule Unit := do
  let _ ← between "[" "]" (commas1 typeParameter)

/-- Reads a simple statement. -/
def single : Rule Stmt :=
  importing <|> do
    worded <|> typeAlias typeParameters <|> expressions
    return .simple

/-- Reads a line of simple statements. -/
def line : Rule (List Stmt) :=
  sepBy1 single ";" <* optionally (symbol ";") <* kind .newline

/-! ## Compound statements -/

variable (self : Rule (List Stmt))

/-- Reads a block: indented statements, or a line of simple ones. -/
def block : Rule (List Stmt) := do
  let _ ← symbol ":"
  (do return (← kind .newline *> kind .indent *> many1 self <* kind .dedent).flatten) <|> line

/-- Reads a part of a compound statement that starts with a word. -/
def part (keyword : String) (head : Rule α) : Rule (List Stmt) := word keyword *> head *> block self

/-- Reads a part that may be left out. -/
def perhaps (p : Rule (List Stmt)) : Rule (List Stmt) := p <|> pure []

/-- Reads a conditional statement. -/
def conditional : Rule (List Stmt) := do
  let first ← part self "if" (named all)
  let others ← many (part self "elif" (named all))
  let last ← perhaps (part self "else" (pure ()))
  return first ++ others.flatten ++ last

/-- Reads a loop. -/
def loop : Rule (List Stmt) := do
  let body ← part self "while" (named all) <|> do
    optionally (word "async")
    part self "for" (targets all *> word "in" *> Nested.expressions all)
  return body ++ (← perhaps (part self "else" (pure ())))

/-- Reads a resource, and the target that it is bound to. -/
def resource : Rule Unit := do
  let _ ← all .expression
  optionally do
    let e ← word "as" *> (starred (all .primary) <|> all .primary)
    guard e.isStarTarget

/-- Reads a statement that holds resources. -/
def holding : Rule (List Stmt) := do
  optionally (word "async")
  let _ ← word "with"
  (do let _ ← between "(" ")" (commas1 resource); guard (← seesSymbol [":"]))
    <|> (do let _ ← sepBy1 resource ",")
  block self

/-- Reads a part that handles errors of a kind. -/
def handler (starred : Bool) : Rule (List Stmt) :=
  part self "except" do
    let kinds : Rule Unit := do
      let _ ← all .expression
      optionally (word "as" *> name)
    if starred then symbol "*" *> kinds else optionally kinds

/-- Reads a statement that handles errors. -/
def guarded : Rule (List Stmt) := do
  let body ← part self "try" (pure ())
  let last := part self "finally" (pure ())
  (do return body ++ (← last)) <|> do
    let handlers ← many1 (handler self true) <|> many1 (handler self false)
    let otherwise ← perhaps (part self "else" (pure ()))
    return body ++ handlers.flatten ++ otherwise ++ (← perhaps last)

/-- Reads a statement that distinguishes patterns. -/
def matching : Rule (List Stmt) := do
  let _ ← word "match"
  (do let _ ← starred (all .union) *> symbol "," *> commas (item all))
    <|> (do let _ ← named all; optionally (symbol "," *> commas (item all)))
  let _ ← symbol ":" *> kind .newline *> kind .indent
  let cases ← many1 <| part self "case" do
    Pattern.patterns
    optionally (word "if" *> named all)
  let _ ← kind .dedent
  return cases.flatten

/-- Reads a function, after its decorators. -/
def function (decorators : List Expr) : Rule Stmt := do
  let start ← token fun t => t.isWord "async" || t.isWord "def"
  if start.isWord "async" then let _ ← word "def"
  let name ← name
  optionally typeParameters
  let parameters ← between "(" ")" (parameters all true)
  let returns ← optional (symbol "->" *> all .expression)
  let head : FunctionHead :=
    { name, decorators, parameters := parameters.filterMap Parameter.type?, returns,
      place := start.place }
  return .function head (← block self)

/-- Reads a class, after its decorators. -/
def classDef : Rule Stmt := do
  let name ← word "class" *> name
  optionally typeParameters
  let args ← between "(" ")" (headArguments all) <|> pure []
  return .classDef name (args.filterMap Argument.unnamed?) (← block self)

/-- Reads a statement that contains others. -/
def compoundStmt : Rule Stmt := do
  let decorators ← many (symbol "@" *> named all <* kind .newline)
  function self decorators <|> classDef self <|> do
    guard decorators.isEmpty
    return .compound (← conditional self <|> loop self <|> holding self <|> guarded self
      <|> matching self)

/-- Reads a compound statement or a line of simple ones. -/
def rule : Rule (List Stmt) := (do return [← compoundStmt self]) <|> line

/-- Reads statements whose blocks are nested less deeply than the given number. -/
def upTo : Nat → Rule (List Stmt)
  | 0 => failure
  | depth + 1 => rule (upTo depth)

/-- Reads statements whose blocks are nested to any depth. -/
def all : Rule (List Stmt) := fun ts => upTo (ts.length + 1) ts

end Statement

/-! ## Whole texts -/

/-- The statements of a text that follows the grammar. -/
def Stmt.parse? (text : List Char) : Option (List Stmt) := do
  let (stmts, _) ← (many Statement.all <* kind .finish) (← scan text)
  return stmts.flatten

/-- The expression of a text that follows the grammar. It starts the first line that holds anything,
and no byte order mark stands before it. -/
def Expr.parse? (text : List Char) : Option Expr := do
  guard (text.head? != some '\ufeff')
  let (e, _) ← (Nested.expressions Nested.all <* kind .newline <* kind .finish) (← scan text)
  return e

end Wiring.Source
