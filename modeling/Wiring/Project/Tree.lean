import Wiring.Project.Path
import Wiring.Text.Newline
import Wiring.Text.Quoted
import Wiring.Text.Utf8

/-!
# Trees of files

A tree lists the files and directories below some directory. `Tree.below` lists those below one of
its directories, and `Entry.read` is the text of a file.
-/

namespace Wiring

/-- A file or a directory. -/
structure Entry where
  /-- Where it is, from the top of its tree. -/
  parts : List String
  /-- The octets of a file; a directory has none. -/
  octets? : Option (List Nat)
deriving DecidableEq, Repr

/-- Why an entry has no text. -/
inductive ReadFault where
  /-- It is a directory. -/
  | isDirectory (path : Path)
  /-- Its octets encode no text. -/
  | undecodable (error : Text.Utf8Error)
deriving DecidableEq, Repr

/-- The wording of a fault. -/
def ReadFault.message : ReadFault → String
  | .isDirectory path => "[Errno 21] Is a directory: " ++ Text.quoted path.text
  | .undecodable e => e.message

namespace Entry

/-- The text of an entry that is shown under a path. Every line break is a line feed. This is
`read_text`. -/
def read (e : Entry) (path : Path) : Except ReadFault String :=
  match e.octets? with
  | none => .error (.isDirectory path)
  | some octets =>
    match Text.decode octets with
    | .ok cs => .ok (String.ofList (Text.unifyBreaks cs))
    | .error e => .error (.undecodable e)

/-- The entry can hold a source. -/
def isSource (e : Entry) : Bool :=
  Path.sourceEnding.toList.isSuffixOf (e.parts.getLastD "").toList

end Entry

/-- The files and directories below a directory, each at most once. -/
structure Tree where
  /-- The entries in any order. -/
  entries : List Entry := []
deriving DecidableEq, Repr, Inhabited

namespace Tree

/-- The entry with the given parts. -/
def find? (t : Tree) (parts : List String) : Option Entry := t.entries.find? (·.parts == parts)

/-- Puts an entry in the place of any with the same parts. -/
def put (t : Tree) (e : Entry) : Tree := { entries := t.entries.filter (·.parts != e.parts) ++ [e] }

/-- Adds an entry and the directories above it. -/
def insert (t : Tree) (e : Entry) : Tree :=
  let above := (List.range e.parts.length).drop 1 |>.map fun n => e.parts.take n
  (above.foldl (fun t parts => if (t.find? parts).isSome then t else t.put ⟨parts, none⟩) t).put e

/-- The tree with the given entries and the directories above them. A later entry counts. -/
def ofEntries (entries : List Entry) : Tree := entries.foldl insert {}

/-- The parts lead to a directory: `is_dir`. -/
def isDirectory (t : Tree) (parts : List String) : Bool :=
  parts.isEmpty || (t.find? parts).any (·.octets?.isNone)

/-- The parts lead to something: `exists`. -/
def contains (t : Tree) (parts : List String) : Bool := parts.isEmpty || (t.find? parts).isSome

/-- Follows parts from a place in the tree. Two dots lead back to the directory above. -/
def follow? (t : Tree) (place : List String) : List String → Option (List String)
  | [] => if t.contains place then some place else none
  | part :: parts =>
    if !t.isDirectory place then none
    else if part == ".." then
      if place.isEmpty then none else follow? t place.dropLast parts
    else follow? t (place ++ [part]) parts

/-- The place in the tree that a relative path leads to. -/
def locate? (t : Tree) (path : Path) : Option (List String) :=
  if path.root == "" then t.follow? [] path.parts else none

/-- The entries below a place, with parts from there. -/
def below (t : Tree) (place : List String) : List Entry :=
  t.entries.filterMap fun e =>
    if place.isPrefixOf e.parts && e.parts.length != place.length then
      some { e with parts := e.parts.drop place.length }
    else none

end Tree

end Wiring
