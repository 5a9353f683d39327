import Mathlib
import Wiring.Proofs.Variable.Namer
import Wiring.Proofs.Variable.Numeral
import Wiring.Proofs.Variable.Usable
import Wiring.Text.Identifier

/-!
# Names are identifiers

A name starts with a declared name in lower case or with `var`, and letters, digits and underscores
follow. So it is an identifier of ASCII characters if the declared names are that it is made of
(`Namer.isIdentifier_of_answers`), and whatever they are, it is no reserved word.
-/

namespace Wiring

/-! ## Identifiers of ASCII characters -/

namespace Text

/-- The characters form an identifier, and all are ASCII characters. -/
def IsAsciiIdentifier (cs : List Char) : Prop := isIdentifier cs = true ∧ ∀ c ∈ cs, c.toNat < 128

/-- The character is an ASCII character that may stand in an identifier after its start. -/
def IsAsciiWord (c : Char) : Prop := isIdentifierContinue c = true ∧ c.toNat < 128

variable {c : Char} {cs ds : List Char}

/-- The test for ASCII characters is one of their codes. -/
theorem val_lt_iff : c.val < 128 ↔ c.toNat < 128 := UInt32.lt_iff_toNat_lt

/-- Letters and digits, as far as they are ASCII characters, may stand in an identifier. -/
theorem isAsciiWord_of_isAlphanum (h : c.isAlphanum = true) : IsAsciiWord c := by
  have hascii : c.toNat < 128 := by
    simp [Char.isAlphanum, Char.isAlpha, Char.isUpper, Char.isLower, Char.isDigit,
      UInt32.le_iff_toNat_le] at h
    omega
  unfold IsAsciiWord isIdentifierContinue
  rw [if_pos (val_lt_iff.mpr hascii), h]
  exact ⟨rfl, hascii⟩

/-- An underscore may stand in an identifier. -/
theorem isAsciiWord_underscore : IsAsciiWord '_' := ⟨by decide, by decide⟩

/-- All characters of an identifier may stand after its start. -/
theorem IsAsciiIdentifier.isAsciiWord (h : IsAsciiIdentifier cs) : ∀ c ∈ cs, IsAsciiWord c := by
  obtain ⟨hidentifier, hascii⟩ := h
  intro c hc
  refine ⟨?_, hascii c hc⟩
  cases cs with
  | nil => cases hc
  | cons start cs =>
    rw [isIdentifier, Bool.and_eq_true, List.all_eq_true] at hidentifier
    rcases List.mem_cons.mp hc with rfl | hc
    · -- What may start an identifier may also stand in it.
      have hstart := hidentifier.1
      unfold isIdentifierStart at hstart
      unfold isIdentifierContinue
      rw [if_pos (val_lt_iff.mpr (hascii c List.mem_cons_self))] at hstart ⊢
      rw [Bool.or_eq_true] at hstart ⊢
      exact hstart.imp_left fun halpha => by rw [Char.isAlphanum, halpha, Bool.true_or]
    · exact hidentifier.2 c hc

/-- A letter with characters behind it that may stand there is an identifier. -/
theorem isAsciiIdentifier_cons (hc : c.isAlpha = true) (hcs : ∀ d ∈ cs, IsAsciiWord d) :
    IsAsciiIdentifier (c :: cs) := by
  have halphanum : c.isAlphanum = true := by rw [Char.isAlphanum, hc, Bool.true_or]
  have hascii := (isAsciiWord_of_isAlphanum halphanum).2
  constructor
  · rw [isIdentifier, isIdentifierStart, if_pos (val_lt_iff.mpr hascii), hc, Bool.true_or,
      Bool.true_and, List.all_eq_true]
    exact fun d hd => (hcs d hd).1
  · intro d hd
    rcases List.mem_cons.mp hd with rfl | hd
    · exact hascii
    · exact (hcs d hd).2

/-- An identifier stays one if characters follow that may stand there. -/
theorem IsAsciiIdentifier.append (h : IsAsciiIdentifier cs) (hds : ∀ d ∈ ds, IsAsciiWord d) :
    IsAsciiIdentifier (cs ++ ds) := by
  obtain ⟨hidentifier, hascii⟩ := h
  constructor
  · cases cs with
    | nil => cases hidentifier
    | cons c cs =>
      rw [isIdentifier, Bool.and_eq_true] at hidentifier
      rw [List.cons_append, isIdentifier, List.all_append, hidentifier.1, hidentifier.2,
        Bool.true_and, Bool.true_and, List.all_eq_true]
      exact fun d hd => (hds d hd).1
  · intro d hd
    rcases List.mem_append.mp hd with hd | hd
    · exact hascii d hd
    · exact (hds d hd).2

end Text

namespace Variable

open Text

/-! ## Basenames -/

/-- The digits of a number may stand in an identifier. -/
theorem isAsciiWord_of_mem_toDigits {n : Nat} {c : Char} (h : c ∈ Nat.toDigits 10 n) :
    IsAsciiWord c := by
  have hdigit := Nat.isDigit_of_mem_toDigits (by decide) (by decide) h
  exact isAsciiWord_of_isAlphanum (by rw [Char.isAlphanum, hdigit, Bool.or_true])

/-- An identifier that starts with a letter stays one in lower case. -/
theorem isAsciiIdentifier_lowerLeading {s k : String} (hs : IsAsciiIdentifier s.toList)
    (h : lowerLeading? s = some k) : IsAsciiIdentifier k.toList := by
  obtain ⟨c, cs, hchars, hletter, hlower⟩ := exists_lowerLeading? h
  rw [hchars] at hs
  have hascii := val_lt_iff.mpr (hs.2 c List.mem_cons_self)
  have halpha : c.isAlpha = true := by
    unfold isLetter at hletter
    rwa [if_pos hascii] at hletter
  have hsingle : lower c = [c.toLower] := by
    unfold lower
    rw [if_pos hascii]
  rw [hlower, hsingle]
  refine isAsciiIdentifier_cons ((Char.isAlpha_toLower_eq_isAlpha c).trans halpha) ?_
  exact fun d hd => hs.isAsciiWord d (List.mem_cons_of_mem c hd)

/-- The name of a declared type is an identifier if the declared name is. -/
theorem isAsciiIdentifier_declaredName {t : TypeKey} {b : String}
    (ht : t.kind = .named → IsAsciiIdentifier t.name.toList) (h : declaredName? t = some b) :
    IsAsciiIdentifier b.toList := by
  unfold declaredName? at h
  split at h
  · rename_i hnamed
    rw [Bool.and_eq_true, decide_eq_true_eq] at hnamed
    exact isAsciiIdentifier_lowerLeading (ht hnamed.1) h
  · cases h

/-- The name of a mapping is an identifier if both declared names are. -/
theorem isAsciiIdentifier_mapName {key value : TypeKey} {b : String}
    (hkey : key.kind = .named → IsAsciiIdentifier key.name.toList)
    (hvalue : value.kind = .named → IsAsciiIdentifier value.name.toList)
    (h : mapName? key value = some b) : IsAsciiIdentifier b.toList := by
  obtain ⟨k, hlower, hkinds, -, rfl⟩ := mapName?_eq_some h
  have hk := isAsciiIdentifier_lowerLeading (hkey hkinds.1) hlower
  rw [String.toList_append, String.toList_append, List.append_assoc]
  refine hk.append fun c hc => ?_
  rcases List.mem_append.mp hc with hc | hc
  · have hto : ∀ c ∈ "To".toList, c.isAlphanum = true := by simp
    exact isAsciiWord_of_isAlphanum (hto c hc)
  · exact (hvalue hkinds.2).isAsciiWord c hc

/-- A name from the counter is an identifier. -/
theorem isAsciiIdentifier_counted (n : Nat) : IsAsciiIdentifier (counted n).toList := by
  have hdigits : (toString (n : Int)).toList = Nat.toDigits 10 n := Nat.toList_repr
  have hvar : IsAsciiIdentifier "var".toList := ⟨by decide, by simp⟩
  unfold counted
  rw [String.toList_append, hdigits]
  exact hvar.append fun _ => isAsciiWord_of_mem_toDigits

/-- A basename is an identifier if the declared names are that the type is made of. -/
theorem isAsciiIdentifier_basename {t : TypeKey} {n m : Nat} {b : String}
    (ht : ∀ u ∈ t :: t.args, u.kind = .named → IsAsciiIdentifier u.name.toList)
    (h : (basename t).run.run n = (.ok b, m)) : IsAsciiIdentifier b.toList := by
  rw [basename_run] at h
  split at h
  · exact absurd (Prod.mk.inj h).1 (by simp)
  · rename_i name hown
    obtain ⟨hname, -⟩ := Prod.mk.inj h
    rw [← Except.ok.inj hname]
    rcases ownBasename?_cases hown with ⟨u, hu, hdeclared⟩ | ⟨key, value, hkey, hvalue, hmap⟩
    · exact isAsciiIdentifier_declaredName (ht u hu) hdeclared
    · exact isAsciiIdentifier_mapName (ht key (List.mem_cons_of_mem t hkey))
        (ht value (List.mem_cons_of_mem t hvalue)) hmap
  · obtain ⟨hname, -⟩ := Prod.mk.inj h
    rw [← Except.ok.inj hname]
    exact isAsciiIdentifier_counted n

/-! ## Names -/

/-- The letters that tell apart types may stand in an identifier. -/
theorem isAsciiWord_of_mem_letterEnding {i : Nat} {c : Char} (h : c ∈ letterEnding i) :
    IsAsciiWord c := by
  cases i with
  | zero => cases h
  | succ i =>
    rcases List.mem_cons.mp h with rfl | h
    · exact isAsciiWord_underscore
    · have hupper := (isNumeral_numeral i).upper c h
      refine isAsciiWord_of_isAlphanum ?_
      simp only [Char.isAlphanum, Char.isAlpha, hupper, Bool.true_or]

/-- So may the digits that tell apart instances. -/
theorem isAsciiWord_of_mem_digitEnding {n : Nat} {c : Char} (h : c ∈ digitEnding n) :
    IsAsciiWord c := by
  cases n with
  | zero => cases h
  | succ n =>
    rcases List.mem_cons.mp h with rfl | h
    · exact isAsciiWord_underscore
    · exact isAsciiWord_of_mem_toDigits h

/-- The name of an instance is an identifier if the basename is. -/
theorem isAsciiIdentifier_instanceName {base : String} (h : IsAsciiIdentifier base.toList)
    (index : Nat) {n : Int} (hn : 0 ≤ n) :
    IsAsciiIdentifier (instanceName (typeName base index) n).toList := by
  obtain ⟨n, rfl⟩ := Int.eq_ofNat_of_zero_le hn
  rw [toList_instanceName, toList_typeName]
  exact (h.append fun _ => isAsciiWord_of_mem_letterEnding).append
    fun _ => isAsciiWord_of_mem_digitEnding

/-! ## Runs -/

namespace Namer

variable {namer namer' : Namer} {t u : TypeKey} {name : String}

/-- Every name is made of a basename of its type. -/
def Derives (namer : Namer) : Prop :=
  ∀ t name, namer.table.get? t = some name →
    ∃ (n m : Nat) (base : String) (index : Nat),
      (basename t).run.run n = (.ok base, m) ∧ name = typeName base index

/-- Equal types have the same basename. -/
theorem basename_congr (h : (t == u) = true) : basename t = basename u := by
  rw [← basename_bare t, TypeKey.beq_iff_bare_eq.mp h, basename_bare]

/-- A type is given a name of its basename. -/
theorem Derives.nameType (hderives : namer.Derives) (h : namer.nameType t = .ok (name, namer')) :
    namer'.Derives := by
  rcases nameType_cases h with ⟨-, rfl⟩ | ⟨-, base, counter, hbase, hname, rfl⟩
  · exact hderives
  · intro u given hgiven
    rw [get?_set] at hgiven
    split at hgiven
    · rename_i htu
      obtain rfl : name = given := Option.some.inj hgiven
      rw [basename_congr htu] at hbase
      exact ⟨_, _, base, _, hbase, hname⟩
    · exact hderives u given hgiven

/-- A request keeps this. -/
theorem Derives.next (h : namer.Derives) (request : TypeKey × Int) :
    (namer.next request).Derives := by
  unfold Namer.next
  split
  · rename_i s namer' hok
    obtain ⟨-, name, hname, -⟩ := name_eq_ok_iff.mp hok
    exact h.nameType hname
  · exact h

/-- So does a run of requests. -/
theorem Derives.after (h : namer.Derives) (requests : List (TypeKey × Int)) :
    (namer.after requests).Derives := by
  induction requests generalizing namer with
  | nil => exact h
  | cons request requests ih => exact ih (h.next request)

/-- A new namer has given no names. -/
theorem derives_empty : empty.Derives := by
  intro t name hname
  cases hname

/-- Whatever is asked of a new namer, no answer is a reserved word. If the declared names of the
type and of those that it is built from are identifiers of ASCII characters, so is the answer. -/
theorem isIdentifier_of_answers (requests : List (TypeKey × Int)) (i : Nat) (t : TypeKey) (n : Int)
    (s : String) (hi : requests[i]? = some (t, n))
    (hs : (empty.answers requests)[i]? = some (.ok s)) :
    Source.isKeyword s = false ∧
      ((∀ u ∈ t :: t.args, u.kind = .named → IsAsciiIdentifier u.name.toList) →
        IsAsciiIdentifier s.toList) := by
  obtain ⟨hn, name, hname, rfl⟩ := exists_name_of_answers hi hs
  obtain ⟨_, _, base, index, hbase, rfl⟩ := derives_empty.after requests t name hname
  refine ⟨isKeyword_instanceName base index hn, fun ht => ?_⟩
  exact isAsciiIdentifier_instanceName (isAsciiIdentifier_basename ht hbase) index hn

/-- Requests for a class whose name in lower case is a reserved word, for another one of that name,
and for a mapping from the one to the other. -/
def classRequests : List (TypeKey × Int) :=
  [(.named "Class" "a", 0), (.named "Class" "b", 0),
    (.map (.named "Class" "a") (.named "Class" "b"), 2)]

/-- None of their names is the reserved word, and that of the mapping is an identifier. -/
theorem isIdentifier_of_answers_classes :
    empty.answers classRequests = [.ok "class_A", .ok "class_B", .ok "classToClass_2"] ∧
    Source.isKeyword "class_A" = false ∧ IsAsciiIdentifier "classToClass_2".toList := by
  have hanswers : empty.answers classRequests =
      [.ok "class_A", .ok "class_B", .ok "classToClass_2"] := by decide +kernel
  have hfirst := isIdentifier_of_answers classRequests 0 _ _ "class_A" rfl (by rw [hanswers]; rfl)
  have hlast := isIdentifier_of_answers classRequests 2 _ _ "classToClass_2" rfl
    (by rw [hanswers]; rfl)
  refine ⟨hanswers, hfirst.1, hlast.2 fun u hu hnamed => ?_⟩
  have hname : IsAsciiIdentifier "Class".toList := ⟨by decide, by simp⟩
  -- The mapping itself is no declared type.
  rcases List.mem_cons.mp hu with rfl | hu
  · cases hnamed
  · rcases List.mem_cons.mp hu with rfl | hu
    · exact hname
    · rw [List.mem_singleton.mp hu]
      exact hname

end Namer

end Variable

end Wiring
