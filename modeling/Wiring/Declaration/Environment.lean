import Wiring.Declaration.Basic
import Wiring.Declaration.Builtin
import Wiring.Declaration.MethodSet
import Wiring.Source.Literal
import Wiring.Source.Reader
import Wiring.Text.Pieces

/-!
# Annotations

`Environment.typeOf` is the type that an annotation denotes where it stands. A literal denotes what
its text denotes as an annotation; it may hold further literals, but each text is shorter than the
literal it is the value of. `Environment.resultsOf` is the list of results that the annotation of a
function declares.

An `Environment` is a `TypeResolver`: `typeOf` is its method `resolve`, and `resultsOf` is
`resolve_results`.
-/

namespace Wiring

open Source (Expr Literal.value LiteralFault Reader)

/-- What annotations of a module refer to: `TypeResolver`. -/
structure Environment where
  /-- The module's own declarations. -/
  declarations : Declarations
  /-- The methods of the classes of all modules. -/
  known : MethodSets := .empty

namespace Environment

/-- The type of a declared class, with the methods known of it. -/
def named (env : Environment) (name scope : String) : TypeKey :=
  .named name scope ((env.known.find? (scope, name)).getD [])

/-- The module itself declares a class of the given name, outside of other classes. -/
def declaresClass (env : Environment) (name : String) : Bool :=
  env.declarations.classes.any fun c =>
    c.name == name && c.scope == env.declarations.moduleName

/-- The type that a name denotes: the error channel, a class of the module, an imported name, a
built-in name, or else a class that the module is taken to declare. This is `_resolve_name`. -/
def typeOfName (env : Environment) (name : String) : TypeKey :=
  if errorNames.contains name then .error
  else if env.declaresClass name then env.named name env.declarations.moduleName
  else match env.declarations.importedNames.find? name with
    | some (module, imported) => env.named imported module
    | none => if isBuiltin name then .basic name else env.named name env.declarations.moduleName

/-- The name of a member of a member and so on, with dots: `_dotted_name`. -/
def path : Expr → String
  | .name _ id => id
  | .member _ value attr => path value ++ "." ++ attr
  | e => e.code

/-- What the first part of a dotted name stands for: a module, a name of a module, or itself. -/
def expandHead (env : Environment) (head : String) : String :=
  match env.declarations.moduleAliases.find? head with
  | some module => module
  | none =>
    match env.declarations.importedNames.find? head with
    | some (module, name) => if module == "" then name else module ++ "." ++ name
    | none => head

/-- The type that a member of a value denotes: its last part is the name, and what precedes that is
the scope. -/
def typeOfMember (env : Environment) (value : Expr) (attr : String) : TypeKey :=
  match Text.pieces '.' (path value ++ "." ++ attr) with
  | [] => env.named attr ""
  | head :: rest => env.named attr (".".intercalate (env.expandHead head :: rest.dropLast))

/-- The last part of the name of a value with indices: `_base_name`. -/
def baseName : Expr → String
  | .name _ id => id
  | .member _ _ attr => attr
  | _ => ""

/-- An expression with what it denotes. -/
abbrev Reading : Type := Expr × Except LiteralFault TypeKey

/-- The type of two alternatives: optional, if one of them is the absent value. This is
`_resolve_optional`. -/
def typeOfAlternatives (code : String) (left right : Reading) :
    Except LiteralFault TypeKey :=
  match left.1.isNone, right.1.isNone with
  | true, false => .element "optional" <$> right.2
  | false, true => .element "optional" <$> left.2
  | _, _ => return .basic code

/-- The type that a value with indices denotes: `_resolve_subscript`. -/
def typeOfSubscript (code base : String) (elements : List Reading) :
    Except LiteralFault TypeKey :=
  match elementNames.lookup base, elements with
  | some wrapper, [e] => .element wrapper <$> e.2
  | _, _ =>
    match mapNames.contains base, elements with
    | true, [k, v] => do return .map (← k.2) (← v.2)
    | _, _ =>
      if base == unionName then
        match elements with
        | [left, right] => typeOfAlternatives code left right
        | _ => return .basic code
      else if recordNames.contains base then
        match elements with
        | [e, (.ellipsis _, _)] => .element "tuple" <$> e.2
        | _ => .struct <$> elements.mapM (·.2)
      else return .basic code

/-- The expression joins alternatives. `_union_members` takes it apart. -/
def isUnion : Expr → Bool
  | .union .. => true
  | _ => false

mutual

/-- The type that an expression denotes, where texts of literals denote what is given. -/
def typeWith (env : Environment) (ofText : List Char → Except LiteralFault TypeKey) :
    Expr → Except LiteralFault TypeKey
  | .name _ id => return env.typeOfName id
  | .member _ value attr => return env.typeOfMember value attr
  | .literal _ literal => do ofText (← Literal.value literal.toList)
  | .subscript code value elements =>
    typeOfSubscript code (baseName value) (readingsWith env ofText elements)
  | .union code left right =>
    if isUnion left || isUnion right then return .basic code
    else typeOfAlternatives code (left, typeWith env ofText left) (right, typeWith env ofText right)
  | e => return .basic e.code

/-- Expressions with what each denotes. -/
def readingsWith (env : Environment) (ofText : List Char → Except LiteralFault TypeKey) :
    List Expr → List Reading
  | [] => []
  | e :: es => (e, typeWith env ofText e) :: readingsWith env ofText es

end

variable [Reader]

/-- The type that a text denotes as an annotation: itself, if it is reported to be malformed. A
literal in the text is longer than its value, so the value is shorter than the text. -/
def typeOfText (env : Environment) (text : List Char) : Except LiteralFault TypeKey :=
  match Expr.read text with
  | .error .malformed => return .basic (String.ofList text)
  | .error .brokenOff => throw .brokenOff
  | .ok e => env.typeWith (fun value =>
      if value.length < text.length then typeOfText env value
      else return .basic (String.ofList value)) e
termination_by text.length

/-- The type that an expression denotes. This is `resolve`. -/
def typeOf (env : Environment) (e : Expr) : Except LiteralFault TypeKey :=
  env.typeWith env.typeOfText e

/-- The type that an annotation denotes, if there is one. -/
def typeOf? (env : Environment) : Option Expr → Except LiteralFault TypeKey
  | none => return .basic "Any"
  | some e => env.typeOf e

/-- The results that an annotation declares: none for the absent value, one for each field of a
record, and else a single one. This is `resolve_results`. -/
def resultsOf (env : Environment) : Option Expr → Except LiteralFault (List TypeKey)
  | none => return []
  | some e =>
    if e.isNone then return []
    else
      match e with
      | .subscript _ value elements =>
        if recordNames.contains (baseName value) && !elements.any Expr.isEllipsis then
          elements.mapM env.typeOf
        else return [← env.typeOf e]
      | _ => return [← env.typeOf e]

end Environment

end Wiring
