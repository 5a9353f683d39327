import Wiring.Project.Path

/-!
# Patterns for paths

A pattern matches a path if its parts match the last parts of the path, one by one. In a part a star
stands for any characters, a question mark for one, and square brackets for one of a set.

This is the method `match` of a path, by which `build_container_from_directory` leaves files out.
-/

namespace Wiring

/-- A piece of a pattern for a part. -/
inductive Glob where
  /-- Any characters. -/
  | star
  /-- Any one character. -/
  | any
  /-- One character out of some ranges, or out of none of them. -/
  | among (negated : Bool) (ranges : List (Char × Char))
deriving DecidableEq, Repr

namespace Glob

/-- The character can stand for the piece. -/
def accepts (c : Char) : Glob → Bool
  | star => true
  | any => true
  | among negated ranges => negated != ranges.any fun (first, last) => first ≤ c && c ≤ last

/-- The characters and ranges in brackets. -/
def ranges : List Char → List (Char × Char)
  | first :: '-' :: last :: rest => (first, last) :: ranges rest
  | c :: rest => (c, c) :: ranges rest
  | [] => []

/-- The piece for what stands in brackets. Ranges that hold nothing are dropped. An exclamation mark
that is then in front negates the rest, even if it began a range; the dash after it stands for
itself. -/
def ofBrackets (inside : List Char) : Glob :=
  let members := match inside with
    | '!' :: rest => ('!', '!') :: ranges rest
    | inside => ranges inside
  match members.filter fun (first, last) => first ≤ last with
  | ('!', '!') :: rest => .among true rest
  | ('!', last) :: rest => .among true (('-', '-') :: (last, last) :: rest)
  | members => .among false members

/-- The length of what stands in brackets, from just after the opening one. A closing bracket in
front is part of it. -/
def bracketsLength? (text : List Char) : Option Nat :=
  let mark := if text.head? == some '!' then 1 else 0
  let start := if text[mark]? == some ']' then mark + 1 else mark
  (start + ·) <$> (text.drop start).findIdx? (· == ']')

/-- The pieces of a pattern for a part. The characters still to be skipped belong to brackets that
were read already. -/
def parse (skip : Nat) : List Char → List Glob
  | [] => []
  | c :: rest =>
    match skip with
    | skip + 1 => parse skip rest
    | 0 =>
      if c == '*' then .star :: parse 0 rest
      else if c == '?' then .any :: parse 0 rest
      else
        match if c == '[' then bracketsLength? rest else none with
        | some n => ofBrackets (rest.take n) :: parse (n + 1) rest
        | none => .among false [(c, c)] :: parse 0 rest

/-- The pieces match all of a text. -/
def matchesAll : List Glob → List Char → Bool
  | [], text => text.isEmpty
  | .star :: globs, text =>
    (List.range (text.length + 1)).any fun n => matchesAll globs (text.drop n)
  | _ :: _, [] => false
  | glob :: globs, c :: text => glob.accepts c && matchesAll globs text

end Glob

/-- A pattern for paths. -/
structure Pattern where
  /-- The pattern starts at the root. -/
  isAbsolute : Bool
  /-- The patterns for the parts. -/
  parts : List (List Glob)
deriving DecidableEq, Repr

namespace Pattern

/-- The pattern that a text spells. One that asks for nothing is none. -/
def ofString? (text : String) : Option Pattern :=
  let path := Path.ofString text
  if path.root == "" && path.parts.isEmpty then none
  else some
    { isAbsolute := path.root != "", parts := path.parts.map fun part => Glob.parse 0 part.toList }

/-- The pattern matches a relative path with the given parts. -/
def accepts (p : Pattern) (parts : List String) : Bool :=
  !p.isAbsolute && p.parts.length ≤ parts.length &&
    (p.parts.reverse.zip parts.reverse).all fun (globs, part) => Glob.matchesAll globs part.toList

/-- One of the patterns matches the path, or a pattern before that asks for nothing. -/
def anyAccepts? (patterns : List String) (parts : List String) : Option Bool :=
  match patterns with
  | [] => some false
  | text :: patterns =>
    match ofString? text with
    | none => none
    | some p => if p.accepts parts then some true else anyAccepts? patterns parts

end Pattern

end Wiring
