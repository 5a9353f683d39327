import Wiring.OrderedMap
import Wiring.Variable.Basename
import Wiring.Source.Keyword

/-!
# Variable names

Every value of the generated code has a name of its own. Types with the same basename are told apart
by letters in the order in which they were first named: `config`, `config_A`, `config_B`, … A
reserved word never stands alone. Further instances of one type are told apart by numbers:
`config`, `config_1`, … Since no basename has an underscore, these endings cannot be mistaken for a
part of one.

`NameTable` is the class of that name and `Namer` is the class `VarNamer`, whose method `name` is
`Namer.name`.
-/

namespace Wiring.Variable

/-! ### Endings -/

/-- The capital letter for a number below 26. -/
def letter (n : Nat) : Char := Char.ofNat ('A'.toNat + n)

/-- The numeral of a number to base 26 with the digits `A` to `Z`. -/
def numeral (n : Nat) : List Char :=
  if n < 26 then [letter n] else numeral (n / 26) ++ [letter (n % 26)]
termination_by n

/-- The name of the type that is number `index` of those with this basename. Number zero keeps the
basename and number `n + 1` gets the numeral of `n`; for a reserved word all are shifted by one.
Below zero the ending is the one letter that the number has modulo 26. This is `build_type_name`. -/
def typeName (basename : String) (index : Int) : String :=
  let index := if Source.isKeyword basename then index + 1 else index
  if index = 0 then basename
  else
    let n := index - 1
    let ending := if n < 0 then [letter (n % 26).toNat] else numeral n.toNat
    basename ++ "_" ++ String.ofList ending

/-- The name of the instance with the given number; number zero keeps the name of the type. This is
`build_full_name`. -/
def instanceName (name : String) (number : Int) : String :=
  if number = 0 then name else name ++ "_" ++ toString number

/-! ### Names of types -/

/-- The names already given to types. -/
structure NameTable where
  /-- The names by type. -/
  names : OrderedMap TypeKey String := .empty
deriving Repr

namespace NameTable

/-- The table without names. -/
def empty : NameTable := {}

/-- Gives a type a name. -/
def set (table : NameTable) (t : TypeKey) (name : String) : NameTable := ⟨table.names.insert t name⟩

/-- The name of a type, if it has one. -/
def get? (table : NameTable) (t : TypeKey) : Option String := table.names.find? t

/-- The type has a name: `__contains__`. -/
def contains (table : NameTable) (t : TypeKey) : Bool := table.names.contains t

/-- The number of types with a name: `__len__`. -/
def size (table : NameTable) : Nat := table.names.size

end NameTable

/-! ### The namer -/

/-- Why a value gets no name. -/
inductive NamingError where
  /-- Instances count from zero. -/
  | negativeInstance (n : Int)
  /-- The type lacks an argument. -/
  | missingArgument (e : TypeKey.MissingArgument)
deriving DecidableEq, Repr

/-- The wording of a naming error. -/
def NamingError.message : NamingError → String
  | .negativeInstance n => "instance must be non-negative, got " ++ toString n
  | .missingArgument e => e.message

/-- The state of a namer: `VarNamer`. -/
structure Namer where
  /-- How many types had no name of their own. -/
  counter : Nat := 0
  /-- The types that claim each basename, in the order of their first request. -/
  claimants : OrderedMap String (List TypeKey) := .empty
  /-- The names of the types that were requested. -/
  table : NameTable := .empty
deriving Repr

namespace Namer

/-- A namer that has named nothing. -/
def empty : Namer := {}

/-- The place of a type among the claimants of a basename, and the claimants with the type added at
the end if it was not there. -/
def claim (t : TypeKey) (claimants : List TypeKey) : Nat × List TypeKey :=
  match claimants.findIdx? (· == t) with
  | some i => (i, claimants)
  | none => (claimants.length, claimants ++ [t])

/-- The name of a type, given once and then kept. -/
def nameType (namer : Namer) (t : TypeKey) : Except TypeKey.MissingArgument (String × Namer) :=
  match namer.table.get? t with
  | some name => .ok (name, namer)
  | none =>
    match (basename t).run.run namer.counter with
    | (.error e, _) => .error e
    | (.ok base, counter) =>
      let (index, claimants) := claim t ((namer.claimants.find? base).getD [])
      let name := typeName base index
      .ok (name, { counter, claimants := namer.claimants.insert base claimants,
                   table := namer.table.set t name })

/-- The name of an instance of a type. A refused request changes nothing. -/
def name (namer : Namer) (t : TypeKey) (number : Int := 0) :
    Except NamingError (String × Namer) :=
  if number < 0 then .error (.negativeInstance number)
  else
    match namer.nameType t with
    | .error e => .error (.missingArgument e)
    | .ok (name, namer) => .ok (instanceName name number, namer)

end Namer

end Wiring.Variable
