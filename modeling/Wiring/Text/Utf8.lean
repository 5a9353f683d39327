import Wiring.Text.Hexadecimal

/-!
# UTF-8

`decode` reads octets as characters. Where it cannot go on it names the octets that form the longest
beginning of a character there, and why no character follows from them.
-/

namespace Wiring.Text

/-- Why octets form no character. -/
inductive Utf8Fault where
  /-- No character starts with the octet. -/
  | startByte
  /-- An octet that has to continue a character does not. -/
  | continuationByte
  /-- The text ends inside a character. -/
  | endOfData
deriving DecidableEq, Repr

/-- The wording of a fault. -/
def Utf8Fault.message : Utf8Fault → String
  | .startByte => "invalid start byte"
  | .continuationByte => "invalid continuation byte"
  | .endOfData => "unexpected end of data"

/-- Octets that form no character. -/
structure Utf8Error where
  /-- The place of the first octet of the incomplete character. -/
  position : Nat
  /-- How many octets belong to it. -/
  length : Nat
  /-- Its first octet. -/
  octet : Nat
  /-- What is wrong with them. -/
  fault : Utf8Fault
deriving DecidableEq, Repr

/-- The wording of a decoding error; a single octet is shown, several are only located. -/
def Utf8Error.message (e : Utf8Error) : String :=
  let place :=
    if e.length = 1 then
      "byte 0x" ++ String.ofList (hexDigits 2 e.octet) ++
        " in position " ++ toString e.position
    else
      "bytes in position " ++ toString e.position ++ "-" ++ toString (e.position + e.length - 1)
  "'utf-8' codec can't decode " ++ place ++ ": " ++ e.fault.message

/-- What a leading octet announces: the bits it contributes, and the least and greatest value of
each octet that has to follow. -/
def leading? (octet : Nat) : Option (Nat × List (Nat × Nat)) :=
  let tail := (0x80, 0xbf)
  if octet < 0x80 then some (octet, [])
  else if octet < 0xc2 then none
  else if octet < 0xe0 then some (octet - 0xc0, [tail])
  else if octet = 0xe0 then some (0, [(0xa0, 0xbf), tail])
  else if octet = 0xed then some (0xd, [(0x80, 0x9f), tail])
  else if octet < 0xf0 then some (octet - 0xe0, [tail, tail])
  else if octet = 0xf0 then some (0, [(0x90, 0xbf), tail, tail])
  else if octet < 0xf4 then some (octet - 0xf0, [tail, tail, tail])
  else if octet = 0xf4 then some (4, [(0x80, 0x8f), tail, tail])
  else none

/-- Reads the octets that have to follow: the code point that results and the number of octets read,
or how many fit and why the next does not. -/
def following (bits count : Nat) : List (Nat × Nat) → List Nat → Except (Nat × Utf8Fault) Nat
  | [], _ => .ok bits
  | _ :: _, [] => .error (count, .endOfData)
  | (least, greatest) :: bounds, octet :: octets =>
    if least ≤ octet && octet ≤ greatest then
      following (bits * 64 + (octet - 0x80)) (count + 1) bounds octets
    else .error (count, .continuationByte)

/-- Reads characters from the given position on. The octets still to be skipped belong to a
character that was read already. -/
def decodeFrom (position skip : Nat) : List Nat → Except Utf8Error (List Char)
  | [] => .ok []
  | octet :: octets =>
    match skip with
    | skip + 1 => decodeFrom (position + 1) skip octets
    | 0 =>
      match leading? octet with
      | none => .error ⟨position, 1, octet, .startByte⟩
      | some (bits, bounds) =>
        match following bits 1 bounds octets with
        | .error (length, fault) => .error ⟨position, length, octet, fault⟩
        | .ok code => (Char.ofNat code :: ·) <$> decodeFrom (position + 1) bounds.length octets

/-- The characters that octets encode: `decode`. -/
def decode (octets : List Nat) : Except Utf8Error (List Char) := decodeFrom 0 0 octets

/-- No more characters than octets are read. -/
theorem length_decodeFrom_le {position skip : Nat} {octets : List Nat} {cs : List Char}
    (h : decodeFrom position skip octets = .ok cs) : cs.length ≤ octets.length := by
  induction octets generalizing position skip cs with
  | nil => cases h; simp
  | cons octet octets ih =>
    cases skip with
    | succ skip => exact Nat.le_succ_of_le (ih h)
    | zero =>
      match hl : leading? octet with
      | none => simp [decodeFrom, hl] at h
      | some (bits, bounds) =>
        match hf : following bits 1 bounds octets with
        | .error _ => simp [decodeFrom, hl, hf] at h
        | .ok code =>
          match hd : decodeFrom (position + 1) bounds.length octets with
          | .error _ => simp [decodeFrom, hl, hf, hd, Functor.map, Except.map] at h
          | .ok ds =>
            simp only [decodeFrom, hl, hf, hd, Functor.map, Except.map, Except.ok.injEq] at h
            subst h
            simpa using ih hd

/-- No more characters than octets are read. -/
theorem length_decode_le {octets : List Nat} {cs : List Char} (h : decode octets = .ok cs) :
    cs.length ≤ octets.length := length_decodeFrom_le h

end Wiring.Text
