import Wiring.Text.Letter
import Wiring.TypeKey.Basic

/-!
# Basenames

A basename is the part of a variable's name that comes from its type: the declared name with its
first letter in lower case, or `keyToValue` for a mapping between declared types. A wrapper is named
after its element and a record after its first field. A type without a usable name gets `var0`,
`var1`, … from a counter. No basename has an underscore.

This is the class `BasenameGenerator` with the functions that it calls.
-/

namespace Wiring.Variable

/-- The name has an underscore: `has_underscore`. -/
def hasUnderscore (s : String) : Bool := s.toList.contains '_'

/-- The name with its first letter in lower case; a name that starts with no letter is unusable.
This is `to_lowercase_leading`. -/
def lowerLeading? (s : String) : Option String :=
  match s.toList with
  | [] => none
  | c :: cs => if Text.isLetter c then some (String.ofList (Text.lower c ++ cs)) else none

/-- The name that the counter yields: `generate_var_name`. -/
def counted (n : Int) : String := "var" ++ toString n

/-- The name of a mapping: both types have to be declared, with names that are usable and have no
underscore. This is `make_map_var_name`. -/
def mapName? (key value : TypeKey) : Option String :=
  if key.kind = .named && value.kind = .named then
    match lowerLeading? key.name with
    | some k =>
      if value.name = "" || hasUnderscore k || hasUnderscore value.name then none
      else some (k ++ "To" ++ value.name)
    | none => none
  else none

/-- The name of a declared type; no other type has one. -/
def declaredName? (t : TypeKey) : Option String :=
  if t.kind = .named && !hasUnderscore t.name then lowerLeading? t.name else none

/-- The basename that a type has of itself. -/
def ownBasename? (t : TypeKey) : Except TypeKey.MissingArgument (Option String) :=
  match t.kind with
  | .map => do
    match ← t.key?, ← t.value? with
    | some key, some value => return mapName? key value
    | _, _ => return none
  | .named => .ok (declaredName? t)
  | .element => do return (← t.elem?).bind declaredName?
  | .struct => .ok (t.fields.head?.bind declaredName?)
  | .other => .ok none

/-- The basename of a type. The state counts the types that had no name of their own. This is
`basename` of `BasenameGenerator`. -/
def basename (t : TypeKey) : ExceptT TypeKey.MissingArgument (StateM Nat) String := do
  match ← liftExcept (ownBasename? t) with
  | some name => return name
  | none => return counted (← modifyGet fun n => (n, n + 1))
where
  /-- A result without state. -/
  liftExcept {α : Type} (x : Except TypeKey.MissingArgument α) :
      ExceptT TypeKey.MissingArgument (StateM Nat) α := ExceptT.mk (pure x)

end Wiring.Variable
