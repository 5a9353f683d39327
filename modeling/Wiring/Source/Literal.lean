import Wiring.Source.Lexeme
import Wiring.Text.CharacterName
import Wiring.Text.Utf8

/-!
# The values of literals

`Literal.value` is the text that a text or octet literal denotes: its characters with escapes
replaced, and for octets the characters that they encode. A value is always shorter than its literal
(`Literal.length_value_lt`), since the quotes are dropped and no escape stands for more characters
than it has.
-/

namespace Wiring.Source

open Wiring.Text

/-- Why a literal denotes nothing. -/
inductive LiteralFault where
  /-- An escape is incomplete, or a character cannot stand in the literal. -/
  | malformed
  /-- Its octets encode no text. -/
  | undecodable (error : Utf8Error)
  /-- It holds halves of surrogate pairs, here from one place to another, which are no text. -/
  | surrogates (first last : Nat) (code : Nat)
  /-- Reading the text that it denotes broke off. -/
  | brokenOff
deriving DecidableEq, Repr

/-- The wording of a fault, if it has one of its own. -/
def LiteralFault.message? : LiteralFault → Option String
  | .malformed | .brokenOff => none
  | .undecodable e => some e.message
  | .surrogates first last code =>
    let place :=
      if first = last then
        "character '\\u" ++ String.ofList (hexDigits 4 code) ++ "' in position " ++ toString first
      else "characters in position " ++ toString first ++ "-" ++ toString last
    some ("'utf-8' codec can't encode " ++ place ++ ": surrogates not allowed")

namespace Literal

/-! ## Escapes -/

/-- The number in the given number of hexadecimal digits at the start of a text. -/
def hexCode? (width : Nat) (text : List Char) : Option Nat := do
  guard (width ≤ text.length)
  hexNumber? (text.take width)

/-- The codes that a single letter stands for after a backslash. -/
def controls : List (Char × Nat) :=
  [('\\', 92), ('\'', 39), ('"', 34), ('a', 7), ('b', 8), ('f', 12), ('n', 10), ('r', 13), ('t', 9),
   ('v', 11)]

/-- What an escape stands for, if for any character, and how many characters it has after its
backslash. -/
abbrev Escape : Type := Option Nat × Nat

/-- A backslash that stands for itself. -/
def plainBackslash : Escape := (some 92, 0)

/-- The escapes that texts and octets share: a line that continues, a control, up to three octal
digits, and two hexadecimal ones. -/
def sharedEscape? : List Char → Option (Option Escape)
  | [] => none
  | '\n' :: _ => some (some (none, 1))
  | 'x' :: rest => (hexCode? 2 rest).map fun n => some (some n, 3)
  | c :: rest =>
    match controls.lookup c with
    | some code => some (some (some code, 1))
    | none =>
      let digits := ((c :: rest).take 3).takeWhile isOctalDigit
      if digits.isEmpty then some none
      else some (some (some (digits.foldl (fun n d => n * 8 + (d.toNat - 48)) 0), digits.length))

/-- The character with the name in braces at the start of a text, and the length of that. -/
def namedCharacter? : List Char → Option Escape
  | '{' :: rest => do
    let name := rest.takeWhile (· != '}')
    guard (rest.drop name.length).head?.isSome
    return (some (← ofCharacterName? name), name.length + 3)
  | _ => none

/-- An escape of a text, which may also give a character by its code or by its name. -/
def textEscape? (text : List Char) : Option Escape := do
  match ← sharedEscape? text with
  | some escape => return escape
  | none =>
    match text with
    | 'u' :: rest => return (some (← hexCode? 4 rest), 5)
    | 'U' :: rest => do
      let n ← hexCode? 8 rest
      guard (n < 0x110000)
      return (some n, 9)
    | 'N' :: rest => namedCharacter? rest
    | _ => return plainBackslash

/-- An escape of an octet literal; only the last eight bits of a code count. -/
def octetEscape? (text : List Char) : Option Escape := do
  match ← sharedEscape? text with
  | some (code, used) => return (code.map (· % 256), used)
  | none => return plainBackslash

/-- The codes of a text with escapes. The characters still to be skipped belong to an escape that
was read already. -/
def unescape (escape? : List Char → Option Escape) (skip : Nat) : List Char → Option (List Nat)
  | [] => some []
  | c :: cs =>
    match skip with
    | skip + 1 => unescape escape? skip cs
    | 0 =>
      if c == '\\' then do
        let (code, used) ← escape? cs
        return code.toList ++ (← unescape escape? used cs)
      else do return c.toNat :: (← unescape escape? 0 cs)

/-! ## Values -/

/-- The code is one half of a surrogate pair. -/
def isSurrogate (code : Nat) : Bool := 0xd800 ≤ code && code < 0xe000

/-- The text with the given codes. -/
def ofCodes (codes : List Nat) : Except LiteralFault (List Char) :=
  match codes.dropWhile (!isSurrogate ·) with
  | [] => .ok (codes.map Char.ofNat)
  | code :: more =>
    let first := codes.length - (code :: more).length
    .error (.surrogates first (first + (more.takeWhile isSurrogate).length) code)

/-- The codes of a body. -/
def codes (escape? : List Char → Option Escape) (raw : Bool) (body : List Char) :
    Except LiteralFault (List Nat) :=
  if raw then .ok (body.map Char.toNat)
  else match unescape escape? 0 body with
    | some codes => .ok codes
    | none => .error .malformed

/-- The text that octets given by a body encode. -/
def octetsValue (raw : Bool) (body : List Char) : Except LiteralFault (List Char) :=
  if body.any (128 ≤ ·.toNat) then .error .malformed
  else match codes octetEscape? raw body with
    | .error e => .error e
    | .ok octets => (decode octets).mapError .undecodable

/-- The text given by a body. -/
def textValue (raw : Bool) (body : List Char) : Except LiteralFault (List Char) :=
  match codes textEscape? raw body with
  | .error e => .error e
  | .ok codes => ofCodes codes

/-- The text given by the body of a literal, in which no null character may stand. -/
def bodyValue (octets raw : Bool) (body : List Char) : Except LiteralFault (List Char) :=
  if body.contains '\x00' then .error .malformed
  else if octets then octetsValue raw body
  else textValue raw body

/-- The text that a literal denotes: `evaluated_value`. -/
def value (literal : List Char) : Except LiteralFault (List Char) :=
  let letters := literal.takeWhile (!isQuote ·) |>.map Char.toLower
  match openQuotes? (letters.contains 'r') (literal.dropWhile (!isQuote ·)) with
  | none => .error .malformed
  | some (quotes, rest) =>
    let body := unifyBreaks (rest.take (rest.length - quotes.marks.length))
    bodyValue (letters.contains 'b') quotes.raw body

/-! ## Lengths -/

/-- Escapes stand for at most one character each, so that a text never gets longer. -/
theorem length_unescape_le {escape? : List Char → Option Escape} {skip : Nat} {body : List Char}
    {codes : List Nat} (h : unescape escape? skip body = some codes) :
    codes.length ≤ body.length := by
  induction body generalizing skip codes with
  | nil => cases h; simp
  | cons c cs ih =>
    cases skip with
    | succ skip => exact Nat.le_succ_of_le (ih h)
    | zero =>
      simp only [unescape] at h
      split at h
      · obtain ⟨⟨code, used⟩, -, h⟩ := Option.bind_eq_some_iff.1 h
        obtain ⟨rest, hrest, h⟩ := Option.bind_eq_some_iff.1 h
        cases h
        have := ih hrest
        cases code <;> simp <;> omega
      · obtain ⟨rest, hrest, h⟩ := Option.bind_eq_some_iff.1 h
        cases h
        simpa using ih hrest

/-- A body has at most as many codes as characters. -/
theorem length_codes_le {escape? : List Char → Option Escape} {raw : Bool} {body : List Char}
    {cs : List Nat} (h : codes escape? raw body = .ok cs) : cs.length ≤ body.length := by
  unfold codes at h
  split at h
  · cases h; simp
  · split at h
    · cases h; exact length_unescape_le ‹_›
    · cases h

/-- The text with given codes has as many characters. -/
theorem length_ofCodes {cs : List Nat} {v : List Char} (h : ofCodes cs = .ok v) :
    v.length = cs.length := by
  unfold ofCodes at h
  split at h
  · cases h; simp
  · cases h

/-- The text of an octet literal is no longer than its body. -/
theorem length_octetsValue_le {raw : Bool} {body v : List Char}
    (h : octetsValue raw body = .ok v) : v.length ≤ body.length := by
  unfold octetsValue at h
  split at h
  · cases h
  · split at h
    · cases h
    · rename_i octets hcodes
      cases hd : decode octets with
      | error e =>
        rw [hd] at h
        cases h
      | ok w =>
        rw [hd] at h
        obtain rfl : w = v := Except.ok.inj h
        exact Nat.le_trans (length_decode_le hd) (length_codes_le hcodes)

/-- The text of a text literal is no longer than its body. -/
theorem length_textValue_le {raw : Bool} {body v : List Char}
    (h : textValue raw body = .ok v) : v.length ≤ body.length := by
  unfold textValue at h
  split at h
  · cases h
  · exact length_ofCodes h ▸ length_codes_le ‹_›

/-- The opening quotes are a part of the text. -/
theorem length_lt_of_openQuotes? {raw : Bool} {text rest : List Char} {q : Quotes}
    (h : openQuotes? raw text = some (q, rest)) : rest.length < text.length := by
  unfold openQuotes? at h
  split at h
  · split at h
    · cases h
    · split at h
      · cases h
        simp only [List.length_drop, List.length_cons]
        omega
      · cases h
        simp
  · cases h

/-- The text of a literal is no longer than its body. -/
theorem length_bodyValue_le {octets raw : Bool} {body v : List Char}
    (h : bodyValue octets raw body = .ok v) : v.length ≤ body.length := by
  unfold bodyValue at h
  split at h
  · cases h
  · split at h
    · exact length_octetsValue_le h
    · exact length_textValue_le h

/-- The value of a literal is shorter than the literal. -/
theorem length_value_lt {literal v : List Char} (h : value literal = .ok v) :
    v.length < literal.length := by
  simp only [value] at h
  split at h
  · cases h
  · rename_i quotes rest hopen
    have hvalue := length_bodyValue_le h
    have hbody := length_unifyBreaks_le (rest.take (rest.length - quotes.marks.length))
    have htake := List.length_take_le' (rest.length - quotes.marks.length) rest
    have hopen := length_lt_of_openQuotes? hopen
    have hdrop := (List.dropWhile_suffix (!isQuote ·) (l := literal)).length_le
    omega

end Literal

end Wiring.Source
