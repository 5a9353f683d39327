import Mathlib.Data.List.Induction
import Wiring.Proofs.Variable.Ending

/-!
# Which endings types have

The letters behind a basename are a numeral to base 26 with the digits `A` to `Z`. Like a decimal
number it has no zero in front, so a numeral is told by three things that can be seen of it
(`IsNumeral`), and there is exactly one for each number: a number is written as the letters exactly
if these are a numeral that stands for it (`numeral_eq_iff`). The two halves are the two directions
of reading: what is written is a numeral that can be read (`isNumeral_numeral`, `value_numeral`),
and what is read is written in the same letters again (`numeral_value`). `typeName_spec` says what
follows for the names of the types with one basename.
-/

namespace Wiring.Variable

/-! ## Numerals -/

/-- The letters are a numeral. -/
@[mk_iff]
structure IsNumeral (letters : List Char) : Prop where
  /-- There are some. -/
  ne_nil : letters ≠ []
  /-- They are capital. -/
  upper : ∀ c ∈ letters, c.isUpper = true
  /-- The digit zero stands in front only if it stands alone. -/
  leading : letters.head? = some 'A' → letters = ['A']

-- The letters are tested one by one; `∀ c` alone could be decided over all characters instead.
instance : DecidablePred IsNumeral := fun letters =>
  decidable_of_iff (letters ≠ [] ∧ letters.all Char.isUpper = true ∧
    (letters.head? = some 'A' → letters = ['A'])) (by rw [isNumeral_iff, List.all_eq_true])

/-- The capital letters are those with the codes from 65 to 90. -/
theorem isUpper_iff_toNat {c : Char} : c.isUpper = true ↔ 65 ≤ c.toNat ∧ c.toNat < 91 := by
  have hcode : c.val.toNat = c.toNat := rfl
  show decide (c.val ≥ 'A'.val ∧ c.val ≤ 'Z'.val) = true ↔ _
  rw [decide_eq_true_iff, ge_iff_le, UInt32.le_iff_toNat_le, UInt32.le_iff_toNat_le, hcode]
  exact and_congr_right fun _ => Nat.lt_succ_iff.symm

/-- A capital letter is the letter for its digit, which is below 26. -/
theorem letter_digit {c : Char} (h : c.isUpper = true) :
    letter (c.toNat - 65) = c ∧ c.toNat - 65 < 26 := by
  obtain ⟨hlow, hhigh⟩ := isUpper_iff_toNat.mp h
  have hcode : 65 + (c.toNat - 65) = c.toNat := by omega
  refine ⟨?_, by omega⟩
  show Char.ofNat (65 + (c.toNat - 65)) = c
  rw [hcode, Char.ofNat_toNat]

/-- Zero is written with its digit. -/
theorem numeral_zero : numeral 0 = ['A'] := by
  rw [numeral, if_pos (by decide)]
  rfl

/-- What is written for a number is a numeral. -/
theorem isNumeral_numeral (n : Nat) : IsNumeral (numeral n) where
  ne_nil := numeral_ne_nil n
  upper c hc := isUpper_iff_toNat.mpr (toNat_of_mem_numeral hc)
  leading := by
    induction n using numeral.induct with
    | case1 n hn =>
      rw [numeral, if_pos hn]
      exact fun hhead => congrArg (fun c => [c]) (Option.some.inj hhead)
    | case2 n hn ih =>
      -- A numeral of several letters has the first one of the quotient, which is not zero.
      intro hhead
      rw [numeral, if_neg hn, List.head?_append_of_ne_nil _ (numeral_ne_nil _)] at hhead
      have hzero : n / 26 = 0 := by
        rw [← value_numeral (n / 26), ih hhead]
        rfl
      omega

/-- Without its last letter, a numeral of several letters is a numeral that does not start with the
digit zero. -/
theorem IsNumeral.of_concat {letters : List Char} {c : Char} (h : IsNumeral (letters ++ [c]))
    (hne : letters ≠ []) : IsNumeral letters ∧ letters.head? ≠ some 'A' := by
  have hhead : letters.head? ≠ some 'A' := by
    intro hA
    have halone := h.leading (by rw [List.head?_append_of_ne_nil _ hne, hA])
    rw [List.append_eq_singleton_iff] at halone
    rcases halone with ⟨hnil, -⟩ | ⟨-, hc⟩
    · exact hne hnil
    · exact List.cons_ne_nil _ _ hc
  exact ⟨⟨hne, fun d hd => h.upper d (List.mem_append_left _ hd), fun hA => absurd hA hhead⟩, hhead⟩

/-- A numeral is written for the number that it stands for. -/
theorem numeral_value {letters : List Char} (h : IsNumeral letters) :
    numeral (value letters) = letters := by
  -- A number is written from its last letter on, so the induction is from the end.
  induction letters using List.reverseRecOn with
  | nil => exact absurd rfl h.ne_nil
  | append_singleton letters c ih =>
    obtain ⟨hletter, hdigit⟩ := letter_digit (h.upper c (by simp))
    by_cases hnil : letters = []
    · subst hnil
      have hvalue : value ([] ++ [c]) = c.toNat - 65 := by
        rw [value_concat]
        exact Nat.zero_add _
      rw [hvalue, numeral, if_pos hdigit, hletter]
      rfl
    · obtain ⟨hnumeral, hhead⟩ := h.of_concat hnil
      have hpos : value letters ≠ 0 := by
        intro hzero
        have hA := ih hnumeral
        rw [hzero, numeral_zero] at hA
        exact hhead (by rw [← hA]; rfl)
      have hlarge : ¬ 26 * value letters + (c.toNat - 65) < 26 := by omega
      have hquotient : (26 * value letters + (c.toNat - 65)) / 26 = value letters := by omega
      have hremainder : (26 * value letters + (c.toNat - 65)) % 26 = c.toNat - 65 := by omega
      rw [value_concat, numeral, if_neg hlarge, hquotient, hremainder, ih hnumeral, hletter]

/-- A number is written as the letters exactly if these are a numeral that stands for it. -/
theorem numeral_eq_iff {n : Nat} {letters : List Char} :
    numeral n = letters ↔ IsNumeral letters ∧ value letters = n := by
  constructor
  · rintro rfl
    exact ⟨isNumeral_numeral n, value_numeral n⟩
  · rintro ⟨h, rfl⟩
    exact numeral_value h

/-- The letters carry over where a power of 26 is reached. -/
example : [675, 676, 701, 702].map numeral =
    [['Z', 'Z'], ['B', 'A', 'A'], ['B', 'A', 'Z'], ['B', 'B', 'A']] := by decide +kernel

/-! ## Names -/

/-- A type has no ending exactly if it has number zero. -/
theorem letterEnding_eq_nil_iff {k : Nat} : letterEnding k = [] ↔ k = 0 := by
  cases k with
  | zero => simp [letterEnding]
  | succ n => simp [letterEnding]

/-- The letters after the underscore are a numeral for one less than the number. -/
theorem letterEnding_eq_cons_iff {k : Nat} {letters : List Char} :
    letterEnding k = '_' :: letters ↔ IsNumeral letters ∧ k = value letters + 1 := by
  cases k with
  | zero => simp [letterEnding]
  | succ n =>
    rw [letterEnding, List.cons_inj_right, numeral_eq_iff, Nat.succ_inj, eq_comm (a := n)]

/-- Types with different numbers have different endings. -/
theorem letterEnding_injective : Function.Injective letterEnding := by
  intro k k' h
  exact (ending_inj (congrArg (· ++ digitEnding 0) h)).1

/-- A type is named as its basename exactly if it is the first with this one, which is not
reserved. -/
theorem typeName_eq_basename_iff {basename : String} {i : Nat} :
    typeName basename i = basename ↔ i = 0 ∧ Source.isKeyword basename = false := by
  rw [← String.toList_inj, toList_typeName, List.append_right_eq_self, letterEnding_eq_nil_iff,
    shifted_eq_zero_iff]

/-- A type is named by letters exactly if these are a numeral that stands for the number of the
type, or for one less where the first type has none. -/
theorem typeName_eq_append_iff {basename : String} {i : Nat} {letters : List Char} :
    typeName basename i = basename ++ "_" ++ String.ofList letters ↔
      IsNumeral letters ∧ i = value letters + if Source.isKeyword basename then 0 else 1 := by
  have hchars : (basename ++ "_" ++ String.ofList letters).toList =
      basename.toList ++ '_' :: letters := by simp
  rw [← String.toList_inj, toList_typeName, hchars, List.append_right_inj,
    letterEnding_eq_cons_iff]
  unfold shifted
  cases Source.isKeyword basename with
  | false => rfl
  | true => simp

/-- Types with different numbers have different names, whatever their basename is like. -/
theorem typeName_injective (basename : String) :
    Function.Injective fun i : Nat => typeName basename i := by
  intro i j h
  have hchars := congrArg String.toList h
  dsimp only at hchars
  rw [toList_typeName, toList_typeName, List.append_right_inj] at hchars
  exact shifted_inj (letterEnding_injective hchars)

/-- A type that is not named as its basename is named by letters. -/
theorem exists_typeName_eq_append {basename : String} {i : Nat}
    (h : typeName basename i ≠ basename) :
    ∃ letters, typeName basename i = basename ++ "_" ++ String.ofList letters := by
  -- The number is not zero once it is shifted, so there is an ending.
  have hshifted : shifted basename i ≠ 0 := fun hzero =>
    h (typeName_eq_basename_iff.mpr (shifted_eq_zero_iff.mp hzero))
  obtain ⟨n, hn⟩ := Nat.exists_eq_succ_of_ne_zero hshifted
  refine ⟨numeral n, String.ext ?_⟩
  rw [toList_typeName, hn]
  simp [letterEnding]

/-- The types with one basename have different names. The first is named as the basename unless this
is a reserved word, and every other has an underscore and a numeral behind it, from which its number
can be read: the numerals are counted up from that of zero. None is left out, and none comes
twice. -/
theorem typeName_spec (basename : String) :
    (∀ i j : Nat, typeName basename i = typeName basename j → i = j) ∧
    (∀ i : Nat, typeName basename i = basename ↔ i = 0 ∧ Source.isKeyword basename = false) ∧
    (∀ i : Nat, typeName basename i ≠ basename → ∃ letters, IsNumeral letters ∧
      typeName basename i = basename ++ "_" ++ String.ofList letters ∧
      i = value letters + if Source.isKeyword basename then 0 else 1) ∧
    ∀ letters, IsNumeral letters →
      ∃! i : Nat, typeName basename i = basename ++ "_" ++ String.ofList letters := by
  refine ⟨fun i j h => typeName_injective basename h, fun i => typeName_eq_basename_iff,
    fun i h => ?_, fun letters h => ?_⟩
  · obtain ⟨letters, hname⟩ := exists_typeName_eq_append h
    obtain ⟨hnumeral, hi⟩ := typeName_eq_append_iff.mp hname
    exact ⟨letters, hnumeral, hname, hi⟩
  · refine ⟨_, typeName_eq_append_iff.mpr ⟨h, rfl⟩, fun j hj => ?_⟩
    exact (typeName_eq_append_iff.mp hj).2

/-- For a reserved word, type 26 is the first with two letters: it is told from type 25, and no other
type has these. -/
theorem typeName_spec_class :
    typeName "class" 25 ≠ typeName "class" 26 ∧ typeName "class" 0 ≠ "class" ∧
    typeName "class" 26 = "class_BA" ∧
    (∃ letters, IsNumeral letters ∧ typeName "class" 26 = "class_" ++ String.ofList letters ∧
      26 = value letters) ∧
    IsNumeral ['B', 'A'] ∧ ∃! i : Nat, typeName "class" i = "class_BA" := by
  obtain ⟨hinjective, hbare, hletters, hunique⟩ := typeName_spec "class"
  have hlast : typeName "class" 26 = "class_BA" := by decide +kernel
  have hne : typeName "class" (26 : Nat) ≠ "class" := by decide +kernel
  have hnumeral : IsNumeral ['B', 'A'] := by decide
  refine ⟨fun h => ?_, fun h => ?_, hlast, hletters 26 hne, hnumeral, hunique _ hnumeral⟩
  · exact absurd (hinjective 25 26 h) (by decide)
  · exact absurd ((hbare 0).mp h).2 (by decide)

end Wiring.Variable
