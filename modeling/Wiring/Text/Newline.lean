/-!
# Line breaks

A line ends with a line feed, a carriage return or the two in a row.
-/

namespace Wiring.Text

/-- The character starts a line break. -/
def isBreak (c : Char) : Bool := c == '\n' || c == '\r'

/-- The line break at the start of a text and what follows it. -/
def takeBreak? : List Char → Option (List Char × List Char)
  | '\n' :: rest => some (['\n'], rest)
  | '\r' :: '\n' :: rest => some (['\r', '\n'], rest)
  | '\r' :: rest => some (['\r'], rest)
  | _ => none

/-- The text with every line break written as a line feed. -/
def unifyBreaks : List Char → List Char
  | [] => []
  | '\r' :: '\n' :: rest => '\n' :: unifyBreaks rest
  | '\r' :: rest => '\n' :: unifyBreaks rest
  | c :: rest => c :: unifyBreaks rest

/-- The first line break of a text; a text without any counts as one with line feeds. -/
def firstBreak : List Char → List Char
  | [] => ['\n']
  | '\n' :: _ => ['\n']
  | '\r' :: '\n' :: _ => ['\r', '\n']
  | '\r' :: _ => ['\r']
  | _ :: rest => firstBreak rest

/-- Unifying line breaks never lengthens a text. -/
theorem length_unifyBreaks_le (cs : List Char) : (unifyBreaks cs).length ≤ cs.length := by
  fun_induction unifyBreaks cs <;> grind

/-- A place in a text: the line, counted from one, and the column, counted from zero. -/
structure Place where
  /-- The line. -/
  line : Nat := 1
  /-- The column, in characters. -/
  column : Nat := 0
deriving DecidableEq, Repr, Inhabited

/-- The place that is reached by passing over a text. -/
def Place.after (p : Place) : List Char → Place
  | [] => p
  | '\n' :: rest => Place.after { line := p.line + 1 } rest
  | '\r' :: '\n' :: rest => Place.after { line := p.line + 1 } rest
  | '\r' :: rest => Place.after { line := p.line + 1 } rest
  | _ :: rest => Place.after { p with column := p.column + 1 } rest

end Wiring.Text
