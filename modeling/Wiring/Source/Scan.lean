import Wiring.Source.Lexeme
import Wiring.Source.Token

/-!
# Scanning

`scan` reads a text as tokens. The blanks at the start of a logical line open and close blocks; in
brackets, and in the fields of formatted texts, a line break is a blank like any other. Each step
reads one character of what separates tokens, one token, or the start of a line.

A line break that separates tokens becomes part of the lead of the next one. The first kind of line
break of the text is written as a line feed there, and the blanks of the block do not count.

Places are those of the text as its lines would be written anew: the first token of a line stands
right after the blanks of its block, and a line that is continued before its first token does not
count.
-/

namespace Wiring.Source

open Wiring.Text

/-- What is open at some place of a text. -/
inductive Frame where
  /-- A bracket, with the one that closes it. -/
  | bracket (closing : String)
  /-- A formatted text. -/
  | formatted (quotes : Quotes)
  /-- A field of a formatted text. -/
  | field (quotes : Quotes)
  /-- The part of a field that describes its layout; it is itself a formatted text. -/
  | layout (quotes : Quotes)
deriving DecidableEq, Repr

/-- The blanks before a line. -/
structure Indent where
  /-- Their width if a tab reaches to the next multiple of eight. -/
  width : Nat := 0
  /-- Their width if a tab is as wide as a space. -/
  count : Nat := 0
  /-- The blanks themselves. -/
  blanks : List Char := []
deriving DecidableEq, Repr

/-- The widths of blanks. A form feed starts anew. -/
def Indent.of (blanks : List Char) : Indent :=
  let (width, count) := blanks.foldl (fun (width, count) c =>
    if c == '\t' then ((width / 8 + 1) * 8, count + 1)
    else if c == '\x0c' then (0, 0)
    else (width + 1, count + 1)) (0, 0)
  { width, count, blanks }

/-- How far a text has been read. -/
structure Scan where
  /-- The first kind of line break of the text. -/
  lineBreak : List Char
  /-- What is still to be read. -/
  rest : List Char
  /-- Where that starts. -/
  place : Place := {}
  /-- What has been read since the last token. -/
  lead : List Char := []
  /-- What is open, the innermost first. -/
  frames : List Frame := []
  /-- The indented blocks that are open, the innermost first. -/
  indents : List Indent := []
  /-- The blanks at the start of the logical line have been read. -/
  inLine : Bool := false
  /-- The tokens so far, the last one first. -/
  tokens : List Token := []

namespace Scan

/-- The indentation of the current block. -/
def block (s : Scan) : Indent := s.indents.headD {}

/-- Reads on up to a given end of the text. -/
def moveTo (s : Scan) (rest : List Char) : Scan :=
  { s with rest, place := s.place.after (passed s.rest rest) }

/-- Reads on without a token. What is passed counts as the given lead. -/
def skipTo (s : Scan) (rest lead : List Char) : Scan :=
  { s.moveTo rest with lead := s.lead ++ lead }

/-- Reads a token that extends to a given end of the text. -/
def tokenTo (s : Scan) (kind : TokenKind) (rest : List Char) : Scan :=
  let token : Token :=
    { kind, code := String.ofList (passed s.rest rest), lead := String.ofList s.lead,
      place := s.place }
  { s.moveTo rest with lead := [], tokens := token :: s.tokens }

/-- Adds a token without characters. -/
def mark (s : Scan) (kind : TokenKind) : Scan := s.tokenTo kind s.rest

/-- Passes over a comment. -/
def afterComment (text : List Char) : List Char := text.dropWhile (!isBreak ·)

/-- Passes over a line break, if one is there. -/
def afterBreak (text : List Char) : List Char := ((takeBreak? text).map (·.2)).getD text

/-! ## Starts of lines -/

/-- Closes blocks until a line of the given indentation belongs to the innermost one. -/
def closeBlocks (indent : Indent) : List Indent → Scan → Option Scan
  | [], s =>
    if indent.width == 0 && indent.count == 0 then some { s with indents := [] } else none
  | block :: outer, s =>
    if indent.width < block.width then closeBlocks indent outer (s.mark .dedent)
    else if indent.width == block.width && indent.count == block.count then
      some { s with indents := block :: outer }
    else none

/-- Opens or closes blocks for a line of the given indentation. Tabs may not decide which. -/
def enterBlock (s : Scan) (indent : Indent) : Option Scan :=
  if s.block.width < indent.width then
    if s.block.count < indent.count then
      some { s.mark .indent with indents := indent :: s.indents }
    else none
  else closeBlocks indent s.indents s

/-- Starts a line of the given indentation. -/
def enterLine (s : Scan) (indent : Indent) : Option Scan := do
  let s ← s.enterBlock indent
  return { s with inLine := true, place := { s.place with column := s.block.blanks.length } }

/-- Reads the start of a logical line. A line that holds no token does not count. -/
def startLine (s : Scan) : Option Scan :=
  let blanks := s.rest.takeWhile isBlank
  let rest := s.rest.dropWhile isBlank
  match rest with
  | [] => some (s.moveTo [])
  | c :: _ =>
    if c == '#' then some (s.moveTo (afterBreak (afterComment rest)))
    else if isBreak c then some (s.moveTo (afterBreak rest))
    else enterLine (s.moveTo rest) (Indent.of blanks)

/-! ## Within lines -/

/-- No token of the logical line has been read. -/
def startsLine (s : Scan) : Bool :=
  s.tokens.head?.all fun t => t.kind ∈ [.newline, .indent, .dedent]

/-- Reads blanks. Those before the first token of a line have no place. -/
def blanks (s : Scan) (rest lead : List Char) : Scan :=
  if s.startsLine then { s with rest, lead := s.lead ++ lead } else s.skipTo rest lead

/-- Reads a line break within brackets. -/
def breakInBrackets (s : Scan) (lineBreak rest : List Char) : Scan :=
  let written := if lineBreak == s.lineBreak then ['\n'] else lineBreak
  let s := s.skipTo rest written
  if s.block.blanks.isPrefixOf s.rest then s.moveTo (s.rest.drop s.block.blanks.length) else s

/-- Reads the end of a logical line, which is no token if the line holds none. -/
def endLine (s : Scan) (rest : List Char) : Scan :=
  if s.startsLine then
    { { s with place := s.place.after s.lead }.moveTo rest with lead := [], inLine := false }
  else { s.tokenTo .newline rest with inLine := false }

/-- Reads a word, or the literal or formatted text of which it holds the letters. -/
def word (s : Scan) (letters rest : List Char) : Option Scan :=
  let lower := String.ofList (letters.map Char.toLower)
  match openQuotes? (lower.contains 'r') rest with
  | some (quotes, body) =>
    if lower ∈ literalLetters then s.tokenTo .literal <$> afterLiteral? quotes body
    else if lower ∈ formattedLetters then
      some { s.tokenTo .textStart body with frames := .formatted quotes :: s.frames }
    else if isIdentifier letters then some (s.tokenTo .word rest) else none
  | none => if isIdentifier letters then some (s.tokenTo .word rest) else none

/-- Reads a symbol, which may open or close a bracket. -/
def symbol (s : Scan) (code : String) : Option Scan :=
  let read := s.tokenTo .symbol (s.rest.drop code.length)
  match closing? code with
  | some closing => some { read with frames := .bracket closing :: s.frames }
  | none =>
    if isClosing code then
      match s.frames with
      | .bracket closing :: outer =>
        if closing == code then some { read with frames := outer } else none
      | .field _ :: outer => if code == "\x7d" then some { read with frames := outer } else none
      | _ => none
    else some read

/-- Reads one token, where the innermost open frame is a field of a formatted text or none is. -/
def lexeme (s : Scan) : Option Scan :=
  match s.rest with
  | [] => none
  | c :: rest =>
    if c.isDigit || (c == '.' && rest.head?.any Char.isDigit) then
      s.tokenTo .number <$> afterNumber? s.rest
    else if isQuote c then s.word [] s.rest
    else if isWordChar c then s.word (s.rest.takeWhile isWordChar) (s.rest.dropWhile isWordChar)
    else
      match s.frames with
      | .field quotes :: _ =>
        if c == ':' then some { s.tokenTo .symbol rest with frames := .layout quotes :: s.frames }
        else if c == '!' && rest.head? != some '=' then some (s.tokenTo .symbol rest)
        else symbol? s.rest >>= s.symbol
      | _ => symbol? s.rest >>= s.symbol

/-- Reads one character between tokens, or one token. -/
def within (s : Scan) : Option Scan :=
  match s.rest with
  | [] => none
  | c :: rest =>
    if isBlank c then some (s.blanks rest [c])
    else if c == '\\' then
      match takeBreak? rest with
      | some (lineBreak, after) =>
        if after.isEmpty then none else some (s.blanks after (c :: lineBreak))
      | none => none
    else if c == '#' then
      let after := afterComment s.rest
      some (s.skipTo after (passed s.rest after))
    else
      match takeBreak? s.rest with
      | some (lineBreak, after) =>
        some (if s.frames.isEmpty then s.endLine after else s.breakInBrackets lineBreak after)
      | none => s.lexeme

/-! ## Formatted texts -/

/-- Reads on in a formatted text: its characters, the start of a field, or its end. The frames are
those outside of it, or outside of the field whose layout it describes. -/
def formatted (s : Scan) (quotes : Quotes) (inField : Bool) (outer : List Frame) : Option Scan := do
  let rest ← afterTextPart? quotes inField false s.rest
  if rest.length < s.rest.length then return s.tokenTo .textPart rest
  match s.rest with
  | '{' :: rest => return { s.tokenTo .symbol rest with frames := .field quotes :: s.frames }
  | '}' :: rest => if inField then return { s.tokenTo .symbol rest with frames := outer } else none
  | rest =>
    if inField then none
    else return { s.tokenTo .textEnd (rest.drop quotes.marks.length) with frames := outer }

/-! ## Whole texts -/

/-- Reads on by one step. -/
def step (s : Scan) : Option Scan :=
  match s.frames with
  | [] => if s.inLine then s.within else s.startLine
  | .formatted quotes :: outer => s.formatted quotes false outer
  | .layout quotes :: .field _ :: outer => s.formatted quotes true outer
  | _ => s.within

/-- The tokens of a text that has been read to its end. Nothing may be open there but blocks. -/
def finish (s : Scan) : Option (List Token) :=
  if !s.frames.isEmpty then none
  else
    let s := if s.inLine then s.endLine [] else s
    let s := s.indents.foldl (fun s _ => s.mark .dedent) s
    some (s.mark .finish).tokens.reverse

/-- Reads on to the end of the text, in at most the given number of steps. -/
def run : Nat → Scan → Option (List Token)
  | 0, _ => none
  | steps + 1, s => if s.rest.isEmpty then s.finish else s.step >>= run steps

end Scan

/-- The tokens of a text, if it can be read. A byte order mark at its start is dropped. At most two
steps go over each character: one that starts a line there and one that reads it. -/
def scan (text : List Char) : Option (List Token) :=
  let text := match text with
    | '\ufeff' :: rest => rest
    | text => text
  Scan.run (2 * text.length + 2) { lineBreak := firstBreak text, rest := text }

end Wiring.Source
