import Wiring.TypeKey.Basic

/-!
# Providers

A provider is a function that produces values of some types from values of others. Its declared
results may contain the error channel, `TypeKey.error`, which is no value to be wired; a container
takes a provider only if it is no method and the error channel stands last.

`Position` and `Provider` are the classes of these names, and `Provider.defect?` says what
`validate_provider` raises.
-/

namespace Wiring

/-- A place in a source file. -/
structure Position where
  /-- The path of the file. -/
  file : String := "<unknown>"
  /-- The line, counted from one; zero if it is not known. -/
  line : Int := 0
  /-- The column, counted from zero. -/
  column : Int := 0
deriving DecidableEq, Repr, Inhabited

/-- The printed form `file:line:column`. This is `__str__`. -/
def Position.text (p : Position) : String :=
  p.file ++ ":" ++ toString p.line ++ ":" ++ toString p.column

/-- A function that produces values of its result types from values of its parameter types. -/
structure Provider where
  /-- The qualified name of the function. -/
  name : String
  /-- Where the function is declared. -/
  position : Position := {}
  /-- The parameter types in order. -/
  params : List TypeKey := []
  /-- The declared result types in order, the error channel included. -/
  results : List TypeKey := []
  /-- The type whose method the function is, if it is one. -/
  receiver : Option TypeKey := none
deriving Repr, Inhabited

namespace Provider

/-- The types a provider needs. -/
def requires (p : Provider) : List TypeKey := p.params

/-- The types a provider produces: its results without the error channel. -/
def provides (p : Provider) : List TypeKey := p.results.filter (· != TypeKey.error)

/-- The last result is the error channel: `returns_error`. -/
def returnsError (p : Provider) : Bool :=
  match p.results.getLast? with
  | some t => t == TypeKey.error
  | none => false

/-- The error channel stands before the last result: `has_early_error`. -/
def hasEarlyError (p : Provider) : Bool := p.results.dropLast.any (· == TypeKey.error)

/-- The function is a method: `is_method`. -/
def isMethod (p : Provider) : Bool := p.receiver.isSome

/-- Why a provider cannot be added to a container. -/
inductive Defect where
  /-- It is a method. -/
  | method
  /-- Its error channel is not its last result. -/
  | earlyError
deriving DecidableEq, Repr

/-- The wording of a defect. -/
def Defect.message : Defect → String
  | .method => "cannot add methods to a Container"
  | .earlyError => "error return type must be last return type"

/-- The first defect of a provider; a method is reported as such whatever its results are. This is
what `validate_provider` raises. -/
def defect? (p : Provider) : Option Defect :=
  if p.isMethod then some .method
  else if p.hasEarlyError then some .earlyError
  else none

end Provider

end Wiring
