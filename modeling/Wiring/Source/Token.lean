import Wiring.Text.Newline

/-!
# Tokens

A source text is read as a list of tokens. What stands between two tokens of one line is kept with
the second one, so that the code of an expression can be given back: it is the code of its first
token, followed by the lead and the code of each further one.
-/

namespace Wiring.Source

/-- What a token is. -/
inductive TokenKind where
  /-- A name or a keyword. -/
  | word
  /-- A number. -/
  | number
  /-- A text or octet literal, with its letters and quotes. -/
  | literal
  /-- The letters and opening quotes of a formatted text. -/
  | textStart
  /-- Characters of a formatted text outside its fields. -/
  | textPart
  /-- The closing quotes of a formatted text. -/
  | textEnd
  /-- An operator, a bracket or a separator. -/
  | symbol
  /-- The end of a logical line. -/
  | newline
  /-- The start of a more deeply indented block. -/
  | indent
  /-- The end of an indented block. -/
  | dedent
  /-- The end of the text. -/
  | finish
deriving DecidableEq, Repr

/-- A token of a source text. -/
structure Token where
  /-- What it is. -/
  kind : TokenKind
  /-- Its characters. -/
  code : String
  /-- The blanks, comments and line breaks that precede it on its logical line. -/
  lead : String
  /-- Where it starts. -/
  place : Text.Place
deriving DecidableEq, Repr

namespace Token

/-- The token is a given symbol. -/
def isSymbol (t : Token) (code : String) : Bool := t.kind == .symbol && t.code == code

/-- The token is a given word. -/
def isWord (t : Token) (code : String) : Bool := t.kind == .word && t.code == code

/-- The code that tokens add to that of the token before them. -/
def tailOf (ts : List Token) : String := String.join (ts.map fun t => t.lead ++ t.code)

/-- The code that tokens stand for. The lead of the first one is not part of it. -/
def codeOf : List Token → String
  | [] => ""
  | t :: ts => t.code ++ tailOf ts

end Token

end Wiring.Source
