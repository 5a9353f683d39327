import Wiring.Text.Hexadecimal
import Wiring.Text.Identifier
import Wiring.Text.Newline

/-!
# Lexemes

The shapes of single tokens. A function named `after…` is given a text at the start of a lexeme and
yields what follows the longest lexeme of its shape there; `passed` gives the lexeme itself back.
-/

namespace Wiring.Source

open Wiring.Text (isBreak isHexDigit)

/-- The part of a list that precedes one of its ends. -/
def passed (whole rest : List α) : List α := whole.take (whole.length - rest.length)

/-- A blank within a line. -/
def isBlank (c : Char) : Bool := c == ' ' || c == '\t' || c == '\x0c'

/-- The character may stand in a word. Beyond ASCII the whole word decides. -/
def isWordChar (c : Char) : Bool := c.isAlphanum || c == '_' || 128 ≤ c.toNat

/-! ## Numbers -/

/-- Passes over digits; a single underscore may stand before each of them. -/
def afterDigits (isDigit : Char → Bool) : List Char → List Char
  | [] => []
  | '_' :: d :: rest => if isDigit d then afterDigits isDigit rest else '_' :: d :: rest
  | c :: rest => if isDigit c then afterDigits isDigit rest else c :: rest

/-- An octal digit. -/
def isOctalDigit (c : Char) : Bool := '0' ≤ c && c ≤ '7'

/-- The digits of the base that a letter after a leading zero announces. -/
def radixDigits? : Char → Option (Char → Bool)
  | 'x' | 'X' => some isHexDigit
  | 'o' | 'O' => some isOctalDigit
  | 'b' | 'B' => some fun c => c == '0' || c == '1'
  | _ => none

/-- Passes over a point and the digits of a fraction. -/
def afterFraction : List Char → List Char
  | '.' :: d :: rest => if d.isDigit then afterDigits Char.isDigit (d :: rest) else d :: rest
  | '.' :: [] => []
  | text => text

/-- Passes over an exponent, if the letter is followed by one. -/
def afterExponent (text : List Char) : List Char :=
  match text with
  | e :: rest =>
    if e == 'e' || e == 'E' then
      let digits := match rest with
        | '+' :: ds | '-' :: ds => ds
        | ds => ds
      if digits.head?.any Char.isDigit then afterDigits Char.isDigit digits else text
    else text
  | [] => []

/-- Passes over the letter of an imaginary number. -/
def afterImaginary : List Char → List Char
  | 'j' :: rest | 'J' :: rest => rest
  | text => text

/-- What follows a decimal number. A whole number other than zero has no leading zero. -/
def afterDecimal? (text : List Char) : Option (List Char) :=
  let whole := afterDigits Char.isDigit text
  let rest := afterImaginary (afterExponent (afterFraction whole))
  let leadingZero := text.head? == some '0' && (passed text whole).any (· ∉ ['0', '_'])
  if leadingZero && rest.length == whole.length then none else some rest

/-- What follows a number. -/
def afterNumber? (text : List Char) : Option (List Char) :=
  match text with
  | '0' :: b :: digits =>
    match radixDigits? b with
    | some isDigit =>
      let rest := afterDigits isDigit digits
      if rest.length < digits.length then some rest else afterDecimal? text
    | none => afterDecimal? text
  | _ => afterDecimal? text

/-! ## Literals -/

/-- The quotes around a text. -/
structure Quotes where
  /-- The single or the double quote. -/
  mark : Char
  /-- Three marks in a row enclose the text, which may then have several lines. -/
  triple : Bool
  /-- A backslash stands for itself. -/
  raw : Bool
deriving DecidableEq, Repr

/-- The marks themselves. -/
def Quotes.marks (q : Quotes) : List Char := List.replicate (if q.triple then 3 else 1) q.mark

/-- The character is a quote. -/
def isQuote (c : Char) : Bool := c == '\'' || c == '"'

/-- The quotes that open at the start of a text, and what follows them. -/
def openQuotes? (raw : Bool) (text : List Char) : Option (Quotes × List Char) :=
  match text with
  | c :: rest =>
    if !isQuote c then none
    else if rest.take 2 == [c, c] then some (⟨c, true, raw⟩, rest.drop 2)
    else some (⟨c, false, raw⟩, rest)
  | [] => none

/-- The letters, in lower case, that may stand before the quotes of a plain literal. -/
def literalLetters : List String := ["", "r", "u", "b", "br", "rb"]

/-- The letters, in lower case, that may stand before the quotes of a formatted text. -/
def formattedLetters : List String := ["f", "fr", "rf"]

/-- What follows a literal, from just after its opening quotes. -/
def afterLiteral? (q : Quotes) : List Char → Option (List Char)
  | [] => none
  | '\\' :: '\r' :: '\n' :: rest => afterLiteral? q rest
  | '\\' :: _ :: rest => afterLiteral? q rest
  | c :: rest =>
    if q.marks.isPrefixOf (c :: rest) then some ((c :: rest).drop q.marks.length)
    else if isBreak c && !q.triple then none
    else afterLiteral? q rest

/-- Passes over the characters of a formatted text up to the next field, the end of the field that
they describe, or the closing quotes. Outside of fields a doubled brace stands for itself. -/
def afterTextPart? (q : Quotes) (inField : Bool) : (inName : Bool) → List Char → Option (List Char)
  | _, [] => none
  | true, c :: rest => afterTextPart? q inField (c != '}') rest
  | false, '{' :: '{' :: rest =>
    if inField then some ('{' :: '{' :: rest) else afterTextPart? q inField false rest
  | false, '}' :: '}' :: rest =>
    if inField then some ('}' :: '}' :: rest) else afterTextPart? q inField false rest
  | false, '\\' :: 'N' :: '{' :: rest =>
    if q.raw then some ('{' :: rest) else afterTextPart? q inField true rest
  | false, '\\' :: '\r' :: '\n' :: rest => afterTextPart? q inField false rest
  | false, '\\' :: c :: rest =>
    if c == '{' || c == '}' then some (c :: rest)
    else afterTextPart? q inField false rest
  | false, c :: rest =>
    if c == '{' || c == '}' || q.marks.isPrefixOf (c :: rest) then some (c :: rest)
    else if isBreak c && !q.triple then none
    else afterTextPart? q inField false rest

/-! ## Symbols -/

/-- The symbols, those that are the start of another one after it. -/
def symbols : List String :=
  ["**=", "//=", ">>=", "<<=", "...",
   "!=", "%=", "&=", "**", "*=", "+=", "-=", "->", "//", "/=", ":=", "<<", "<=", "==", ">=", ">>",
   "@=", "^=", "|=",
   "%", "&", "(", ")", "*", "+", ",", "-", ".", "/", ":", ";", "<", "=", ">", "@", "[", "]", "^",
   "\x7b", "|", "\x7d", "~"]

/-- The longest symbol at the start of a text. -/
def symbol? (text : List Char) : Option String :=
  symbols.find? fun s => s.toList.isPrefixOf text

/-- The bracket that closes one that opens. -/
def closing? : String → Option String
  | "(" => some ")"
  | "[" => some "]"
  | "\x7b" => some "\x7d"
  | _ => none

/-- The symbol is a closing bracket. -/
def isClosing (s : String) : Bool := s ∈ [")", "]", "\x7d"]

end Wiring.Source
