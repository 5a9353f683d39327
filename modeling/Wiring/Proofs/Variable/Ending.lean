import Mathlib.Data.List.Basic
import Wiring.Variable.Namer

/-!
# Reading the parts of a name back

The name of an instance is a basename, a numeral of capital letters and a decimal number, the last
two after an underscore each and both optional. `instanceName_typeName_inj` says that such a name
determines its three parts, provided that basenames have no underscore: the name is cut at its first
underscore (`append_inj_of_isEnding`), what follows starts with a capital letter or with a digit,
and both kinds of number can be read back (`value_numeral`, `toDigits_injective`). Nor is such a
name ever a reserved word (`isKeyword_instanceName`).
-/

namespace Wiring.Variable

/-! ## Numerals -/

/-- The code of a letter. -/
theorem toNat_letter {n : Nat} (h : n < 26) : (letter n).toNat = 65 + n := by
  have hvalid : (65 + n).isValidChar := by
    left
    omega
  show (Char.ofNat (65 + n)).toNat = 65 + n
  rw [Char.ofNat, dif_pos hvalid]
  rfl

/-- A numeral has a letter. -/
theorem numeral_ne_nil (n : Nat) : numeral n ≠ [] := by
  unfold numeral
  split
  · simp
  · simp

/-- The letters of a numeral are capital. -/
theorem toNat_of_mem_numeral {n : Nat} {c : Char} (h : c ∈ numeral n) :
    65 ≤ c.toNat ∧ c.toNat < 91 := by
  induction n using numeral.induct with
  | case1 n hn =>
    rw [numeral, if_pos hn, List.mem_singleton] at h
    rw [h, toNat_letter hn]
    omega
  | case2 n hn ih =>
    rw [numeral, if_neg hn, List.mem_append, List.mem_singleton] at h
    rcases h with h | rfl
    · exact ih h
    · have hlt : n % 26 < 26 := Nat.mod_lt n (by decide)
      rw [toNat_letter hlt]
      omega

/-- The number that a numeral stands for. -/
def value (cs : List Char) : Nat := cs.foldl (fun v c => 26 * v + (c.toNat - 65)) 0

/-- The last letter of a numeral counts once, all before it 26 times. -/
theorem value_concat (cs : List Char) (c : Char) :
    value (cs ++ [c]) = 26 * value cs + (c.toNat - 65) := by
  unfold value
  rw [List.foldl_append]
  rfl

/-- A numeral stands for its number. -/
theorem value_numeral (n : Nat) : value (numeral n) = n := by
  induction n using numeral.induct with
  | case1 n hn =>
    rw [numeral, if_pos hn]
    show 26 * 0 + ((letter n).toNat - 65) = n
    rw [toNat_letter hn]
    omega
  | case2 n hn ih =>
    have hlt : n % 26 < 26 := Nat.mod_lt n (by decide)
    rw [numeral, if_neg hn, value_concat, ih, toNat_letter hlt]
    omega

/-- Different numbers have different numerals. -/
theorem numeral_injective : Function.Injective numeral :=
  Function.LeftInverse.injective value_numeral

/-- Different numbers have different digits. -/
theorem toDigits_injective : Function.Injective (Nat.toDigits 10) :=
  Function.LeftInverse.injective (g := fun cs => Nat.ofDigitChars 10 cs 0) fun _ =>
    Nat.ofDigitChars_ten_toDigits

/-! ## Cutting a name at underscores -/

/-- The characters are none or start with an underscore. -/
def IsEnding (cs : List Char) : Prop := ∀ c ∈ cs.head?, c = '_'

/-- Where neither beginning has an underscore and both ends start with one, if with anything, two
names are equal only part by part. -/
theorem append_inj_of_isEnding {cs cs' ds ds' : List Char} (hcs : '_' ∉ cs) (hcs' : '_' ∉ cs')
    (hds : IsEnding ds) (hds' : IsEnding ds') (h : cs ++ ds = cs' ++ ds') :
    cs = cs' ∧ ds = ds' := by
  induction cs generalizing cs' with
  | nil =>
    cases cs' with
    | nil => exact ⟨rfl, h⟩
    | cons c cs' =>
      -- The one name ends where the other goes on without an underscore.
      rw [List.nil_append] at h
      have hc : c = '_' := hds c (by simp [h])
      exact absurd (by simp [hc]) hcs'
  | cons c cs ih =>
    cases cs' with
    | nil =>
      rw [List.nil_append] at h
      have hc : c = '_' := hds' c (by simp [← h])
      exact absurd (by simp [hc]) hcs
    | cons c' cs' =>
      rw [List.cons_append, List.cons_append, List.cons.injEq] at h
      obtain ⟨rfl, h⟩ := h
      rw [List.mem_cons, not_or] at hcs hcs'
      obtain ⟨rfl, hrest⟩ := ih hcs.2 hcs'.2 h
      exact ⟨rfl, hrest⟩

/-- What tells apart the types with one basename: nothing for number zero, and the numeral of `n`
for number `n + 1`. -/
def letterEnding : Nat → List Char
  | 0 => []
  | n + 1 => '_' :: numeral n

/-- What tells apart the instances of one type: nothing for number zero, and the digits of any
other. -/
def digitEnding : Nat → List Char
  | 0 => []
  | n + 1 => '_' :: Nat.toDigits 10 (n + 1)

/-- The digits of an instance start with an underscore. -/
theorem isEnding_digitEnding (n : Nat) : IsEnding (digitEnding n) := by
  cases n with
  | zero => simp [IsEnding, digitEnding]
  | succ n => simp [IsEnding, digitEnding]

/-- Both endings together start with an underscore. -/
theorem isEnding_append (i n : Nat) : IsEnding (letterEnding i ++ digitEnding n) := by
  cases i with
  | zero => exact isEnding_digitEnding n
  | succ i => simp [IsEnding, letterEnding]

/-- A numeral has no underscore. -/
theorem underscore_not_mem_numeral (n : Nat) : '_' ∉ numeral n := by
  intro h
  have hcode := (toNat_of_mem_numeral h).2
  exact absurd hcode (by decide)

/-- Digits are no beginning of a numeral. -/
theorem digitEnding_ne {i n m : Nat} : digitEnding n ≠ letterEnding (i + 1) ++ digitEnding m := by
  intro h
  -- The first character after the underscore is a letter on one side and a digit on the other.
  obtain ⟨c, cs, hnumeral⟩ := List.exists_cons_of_ne_nil (numeral_ne_nil i)
  have hc := toNat_of_mem_numeral (n := i) (c := c) (by simp [hnumeral])
  cases n with
  | zero => simp [digitEnding, letterEnding] at h
  | succ n =>
    simp only [digitEnding, letterEnding, hnumeral, List.cons_append, List.cons.injEq,
      true_and] at h
    have hmem : c ∈ Nat.toDigits 10 (n + 1) := by simp [h]
    have hdigit := Nat.isDigit_of_mem_toDigits (by decide) (by decide) hmem
    rw [Char.isDigit_iff_toNat] at hdigit
    have hnine : '9'.toNat = 57 := rfl
    omega

/-- Instances are told apart by their digits. -/
theorem digitEnding_injective : Function.Injective digitEnding := by
  intro n m h
  cases n with
  | zero =>
    cases m with
    | zero => rfl
    | succ m => simp [digitEnding] at h
  | succ n =>
    cases m with
    | zero => simp [digitEnding] at h
    | succ m =>
      rw [digitEnding, digitEnding, List.cons.injEq] at h
      exact toDigits_injective h.2

/-- Both endings can be read back. -/
theorem ending_inj {i j n m : Nat}
    (h : letterEnding i ++ digitEnding n = letterEnding j ++ digitEnding m) : i = j ∧ n = m := by
  cases i with
  | zero =>
    cases j with
    | zero => exact ⟨rfl, digitEnding_injective h⟩
    | succ j => exact absurd h digitEnding_ne
  | succ i =>
    cases j with
    | zero => exact absurd h.symm digitEnding_ne
    | succ j =>
      -- The numeral reaches up to the next underscore.
      rw [letterEnding, letterEnding, List.cons_append, List.cons_append, List.cons.injEq] at h
      obtain ⟨hnumeral, hdigits⟩ := append_inj_of_isEnding (underscore_not_mem_numeral i)
        (underscore_not_mem_numeral j) (isEnding_digitEnding n) (isEnding_digitEnding m) h.2
      rw [numeral_injective hnumeral, digitEnding_injective hdigits]
      exact ⟨rfl, rfl⟩

/-! ## Names -/

/-- The number by which a type is told apart from the others with its basename; reserved words do
not stand alone. -/
def shifted (basename : String) (index : Nat) : Nat :=
  if Source.isKeyword basename then index + 1 else index

/-- The shift depends on the basename alone, so it keeps numbers apart. -/
theorem shifted_inj {basename : String} {i j : Nat}
    (h : shifted basename i = shifted basename j) : i = j := by
  unfold shifted at h
  split at h
  · exact Nat.succ.inj h
  · exact h

/-- Only the first type with a basename has number zero, and only if this is not reserved. -/
theorem shifted_eq_zero_iff {basename : String} {i : Nat} :
    shifted basename i = 0 ↔ i = 0 ∧ Source.isKeyword basename = false := by
  unfold shifted
  cases Source.isKeyword basename with
  | false => simp
  | true => simp

/-- The name of a type is its basename with the ending for its number. -/
theorem toList_typeName (basename : String) (index : Nat) :
    (typeName basename index).toList =
      basename.toList ++ letterEnding (shifted basename index) := by
  have hshift : (if Source.isKeyword basename then (index : Int) + 1 else index) =
      (shifted basename index : Nat) := by
    unfold shifted
    split
    · rfl
    · rfl
  unfold typeName
  dsimp only
  rw [hshift]
  cases shifted basename index with
  | zero => simp [letterEnding]
  | succ n =>
    -- The ending is the numeral of one less, which is not negative.
    have hne : ¬ ((n + 1 : Nat) : Int) = 0 := by omega
    have hnot : ¬ ((n + 1 : Nat) : Int) - 1 < 0 := by omega
    have hn : (((n + 1 : Nat) : Int) - 1).toNat = n := by omega
    rw [if_neg hne, if_neg hnot, hn]
    simp [letterEnding]

/-- The name of an instance is the name of its type with the ending for its number. -/
theorem toList_instanceName (name : String) (number : Nat) :
    (instanceName name number).toList = name.toList ++ digitEnding number := by
  unfold instanceName
  cases number with
  | zero => simp [digitEnding]
  | succ n =>
    have hne : ¬ ((n + 1 : Nat) : Int) = 0 := by omega
    have hdigits : (toString ((n + 1 : Nat) : Int)).toList = Nat.toDigits 10 (n + 1) :=
      Nat.toList_repr
    rw [if_neg hne, String.toList_append, String.toList_append, hdigits]
    simp [digitEnding]

/-- The name of an instance determines the basename, the number of the type and that of the
instance, where basenames have no underscore. -/
theorem instanceName_typeName_inj {base base' : String} {i j : Nat} {n m : Int}
    (hbase : '_' ∉ base.toList) (hbase' : '_' ∉ base'.toList) (hn : 0 ≤ n) (hm : 0 ≤ m)
    (h : instanceName (typeName base i) n = instanceName (typeName base' j) m) :
    base = base' ∧ i = j ∧ n = m := by
  obtain ⟨n, rfl⟩ := Int.eq_ofNat_of_zero_le hn
  obtain ⟨m, rfl⟩ := Int.eq_ofNat_of_zero_le hm
  have hlist := congrArg String.toList h
  rw [toList_instanceName, toList_instanceName, toList_typeName, toList_typeName,
    List.append_assoc, List.append_assoc] at hlist
  obtain ⟨hchars, hends⟩ := append_inj_of_isEnding hbase hbase' (isEnding_append _ _)
    (isEnding_append _ _) hlist
  obtain rfl : base = base' := String.ext hchars
  obtain ⟨hshifted, hnumber⟩ := ending_inj hends
  exact ⟨rfl, shifted_inj hshifted, by rw [hnumber]⟩

/-- No reserved word has an underscore. -/
theorem underscore_not_mem_of_isKeyword {s : String} (h : Source.isKeyword s = true) :
    '_' ∉ s.toList := by
  have hall : ∀ word ∈ Source.keywords, '_' ∉ word.toList := by decide
  exact hall s (List.contains_iff_mem.mp h)

/-- The name of an instance is no reserved word: with an ending it has an underscore, and a reserved
word gets one. -/
theorem isKeyword_instanceName (base : String) (i : Nat) {n : Int} (hn : 0 ≤ n) :
    Source.isKeyword (instanceName (typeName base i) n) = false := by
  obtain ⟨n, rfl⟩ := Int.eq_ofNat_of_zero_le hn
  rw [Bool.eq_false_iff]
  intro hkeyword
  have hunderscore := underscore_not_mem_of_isKeyword hkeyword
  rw [toList_instanceName, toList_typeName, List.mem_append, List.mem_append, not_or, not_or]
    at hunderscore
  obtain ⟨⟨-, hletters⟩, hdigits⟩ := hunderscore
  -- Neither ending is there, so the name is the basename and this has not been shifted.
  have hindex : shifted base i = 0 := by
    cases hshifted : shifted base i with
    | zero => rfl
    | succ k =>
      rw [hshifted] at hletters
      exact absurd List.mem_cons_self hletters
  have hnumber : n = 0 := by
    cases n with
    | zero => rfl
    | succ k => exact absurd List.mem_cons_self hdigits
  subst hnumber
  have hname : instanceName (typeName base i) (0 : Nat) = base := by
    apply String.ext
    rw [toList_instanceName, toList_typeName, hindex]
    simp [letterEnding, digitEnding]
  rw [hname, (shifted_eq_zero_iff.mp hindex).2] at hkeyword
  exact Bool.false_ne_true hkeyword

end Wiring.Variable
