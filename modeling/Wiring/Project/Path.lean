import Wiring.Text.Pieces

/-!
# Paths

A path is a list of parts, of which none is empty or a single dot. `Path.moduleName` is the dotted
name of the module in a file, as seen from the base directory of its project.

`Path.moduleName` is `_path_to_module_name`.
-/

namespace Wiring

/-- A path. -/
structure Path where
  /-- The slashes in front of an absolute path. -/
  root : String := ""
  /-- The parts, the outermost first. -/
  parts : List String := []
deriving DecidableEq, Repr, Inhabited

namespace Path

/-- The parts of a text between slashes that name something. -/
def partsOf (text : String) : List String :=
  (Text.pieces '/' text).filter fun p => p != "" && p != "."

/-- The path that a text spells. Two slashes in front are kept, any other number above one counts as
one. -/
def ofString (text : String) : Path :=
  let slashes := text.toList.takeWhile (· == '/') |>.length
  { root := if slashes == 0 then "" else if slashes == 2 then "//" else "/", parts := partsOf text }

/-- The spelling of a path. -/
def text (p : Path) : String :=
  if p.root == "" && p.parts.isEmpty then "." else p.root ++ "/".intercalate p.parts

/-- One text stands before another in the order of codes. -/
def textPrecedes (s t : String) : Bool := List.lex s.toList t.toList fun c d => c.toNat < d.toNat

/-- Some parts stand before others: the first place where they differ decides. -/
def precedes (parts others : List String) : Bool := List.lex parts others textPrecedes

/-- A path below another one. -/
def join (p : Path) (parts : List String) : Path := { p with parts := p.parts ++ parts }

/-- The last part. -/
def name (p : Path) : String := p.parts.getLastD ""

/-- The last part without what follows its last dot, unless that dot is its first or last
character. -/
def stem (p : Path) : String :=
  let cs := p.name.toList
  let ending := cs.reverse.takeWhile (· != '.') |>.length
  let stem := cs.take (cs.length - ending - 1)
  if ending == 0 || stem.isEmpty then p.name else String.ofList stem

/-- The parts of a path below a base. -/
def relativeTo? (p base : Path) : Option (List String) :=
  if p.root == base.root && base.parts.isPrefixOf p.parts then
    some (p.parts.drop base.parts.length)
  else none

/-- The ending of files that hold sources. -/
def sourceEnding : String := ".py"

/-- The name of a part without the ending of sources. -/
def dropSourceEnding (part : String) : String :=
  if sourceEnding.toList.isSuffixOf part.toList then
    String.ofList (part.toList.take (part.length - sourceEnding.length))
  else part

/-- The dotted name of the module with the given parts. The initial module of a package stands for
the package. -/
def moduleNameOf (parts : List String) : String :=
  let parts := match parts.getLast? with
    | none => []
    | some last =>
      let last := dropSourceEnding last
      parts.dropLast ++ if last == "__init__" then [] else [last]
  ".".intercalate parts

/-- The dotted name of the module in a file. Outside of the base directory only its stem counts.
This is `_path_to_module_name`. -/
def moduleName (file base : Path) : String :=
  match file.relativeTo? base with
  | some parts => moduleNameOf parts
  | none => file.stem

end Path

end Wiring
