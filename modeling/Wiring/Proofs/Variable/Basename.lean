import Mathlib.Data.List.Basic
import Wiring.Proofs.Failure
import Wiring.Variable.Basename

/-!
# What basenames are like

No basename has an underscore, wherever it comes from (`underscore_not_mem_basename`): a declared
name is used only if it has none, its first letter stays a letter in lower case, and the names from
the counter end in digits. Every well-formed type has a basename (`exists_basename`).
-/

namespace Wiring

/-! ## Lower case -/

namespace Text

/-- The lower case of a letter beyond ASCII that has one stands at `a` or after it. -/
theorem le_of_lowerBy? {n m : Nat} {run : CaseRun} (hrun : run ∈ caseRuns)
    (h : lowerBy? n run = some m) : 97 ≤ m := by
  have hall : ∀ run ∈ caseRuns, 97 ≤ run.2.2.2 := by decide +kernel
  -- The lower case is counted up from that of the first letter of the run.
  obtain ⟨first, last, step, lower⟩ := run
  have hlower : 97 ≤ lower := hall _ hrun
  unfold lowerBy? at h
  dsimp only at h
  split at h
  · have hm : lower + (n - first) = m := Option.some.inj h
    omega
  · simp at h

/-- A character from `a` on is no underscore. -/
theorem ofNat_ne_underscore {n : Nat} (h : 97 ≤ n) : Char.ofNat n ≠ '_' := by
  intro heq
  have hcode : (Char.ofNat n).toNat = 95 := by
    rw [heq]
    rfl
  by_cases hvalid : n.isValidChar
  · rw [Char.ofNat, dif_pos hvalid] at hcode
    have hn : n = 95 := hcode
    omega
  · -- A number that is no code gives the null character.
    rw [Char.ofNat, dif_neg hvalid] at hcode
    exact absurd hcode (by decide)

/-- Only the underscore is an underscore in ASCII lower case. -/
theorem toLower_ne_underscore {c : Char} (hc : c ≠ '_') : c.toLower ≠ '_' := by
  intro heq
  unfold Char.toLower at heq
  split at heq
  · -- Letters from `A` to `Z` become letters from `a` to `z`.
    rename_i hupper
    have hcode := congrArg (fun c => c.val.toNat) heq
    rw [ge_iff_le, UInt32.le_iff_toNat_le, UInt32.le_iff_toNat_le] at hupper
    simp at hcode hupper
    omega
  · exact hc heq

/-- Lower case brings in no underscore. -/
theorem underscore_not_mem_lower {c : Char} (hc : c ≠ '_') : '_' ∉ lower c := by
  unfold lower
  split
  · intro hmem
    exact toLower_ne_underscore hc (List.mem_singleton.mp hmem).symm
  · split
    · decide
    · split
      · rename_i n hfind
        obtain ⟨run, hrun, hlower⟩ := List.exists_of_findSome?_eq_some hfind
        intro hmem
        exact ofNat_ne_underscore (le_of_lowerBy? hrun hlower) (List.mem_singleton.mp hmem).symm
      · intro hmem
        exact hc (List.mem_singleton.mp hmem).symm

end Text

namespace Variable

/-! ## Names of one type -/

/-- A name has an underscore exactly if one is among its characters. -/
theorem hasUnderscore_eq_false_iff {s : String} : hasUnderscore s = false ↔ '_' ∉ s.toList := by
  unfold hasUnderscore
  rw [← Bool.not_eq_true, List.contains_iff_mem]

/-- What stands after the first letter of a name stays when that is put in lower case. -/
theorem exists_lowerLeading? {s k : String} (h : lowerLeading? s = some k) :
    ∃ c cs, s.toList = c :: cs ∧ Text.isLetter c = true ∧ k.toList = Text.lower c ++ cs := by
  unfold lowerLeading? at h
  cases hchars : s.toList with
  | nil =>
    rw [hchars] at h
    cases h
  | cons c cs =>
    rw [hchars] at h
    dsimp only at h
    by_cases hc : Text.isLetter c = true
    · rw [if_pos hc] at h
      refine ⟨c, cs, rfl, hc, ?_⟩
      rw [← Option.some.inj h, String.toList_ofList]
    · rw [if_neg hc] at h
      cases h

/-- The lower case of a name without underscores has none. -/
theorem underscore_not_mem_lowerLeading {s b : String} (hs : '_' ∉ s.toList)
    (h : lowerLeading? s = some b) : '_' ∉ b.toList := by
  obtain ⟨c, cs, hchars, -, hlower⟩ := exists_lowerLeading? h
  rw [hchars, List.mem_cons, not_or] at hs
  rw [hlower, List.mem_append, not_or]
  exact ⟨Text.underscore_not_mem_lower (Ne.symm hs.1), hs.2⟩

/-- The name of a declared type has no underscore. -/
theorem underscore_not_mem_declaredName {t : TypeKey} {b : String}
    (h : declaredName? t = some b) : '_' ∉ b.toList := by
  unfold declaredName? at h
  split at h
  · rename_i hnamed
    rw [Bool.and_eq_true, Bool.not_eq_true', hasUnderscore_eq_false_iff] at hnamed
    exact underscore_not_mem_lowerLeading hnamed.2 h
  · simp at h

/-- The name of a mapping is the name of its key in lower case, with that of its value behind it. -/
theorem mapName?_eq_some {key value : TypeKey} {b : String} (h : mapName? key value = some b) :
    ∃ k, lowerLeading? key.name = some k ∧ (key.kind = .named ∧ value.kind = .named) ∧
      ('_' ∉ k.toList ∧ '_' ∉ value.name.toList) ∧ b = k ++ "To" ++ value.name := by
  unfold mapName? at h
  split at h
  · rename_i hkinds
    cases hkey : lowerLeading? key.name with
    | none =>
      rw [hkey] at h
      simp at h
    | some k =>
      rw [hkey] at h
      dsimp only at h
      split at h
      · simp at h
      · -- The lower case of the key's name is checked, not the name itself.
        rename_i hnot
        simp only [Bool.or_eq_true, decide_eq_true_eq, not_or, Bool.not_eq_true,
          hasUnderscore_eq_false_iff] at hnot
        obtain ⟨⟨-, hk⟩, hvalue⟩ := hnot
        rw [Bool.and_eq_true, decide_eq_true_eq, decide_eq_true_eq] at hkinds
        exact ⟨k, rfl, hkinds, ⟨hk, hvalue⟩, (Option.some.inj h).symm⟩
  · simp at h

/-- The name of a mapping has no underscore. -/
theorem underscore_not_mem_mapName {key value : TypeKey} {b : String}
    (h : mapName? key value = some b) : '_' ∉ b.toList := by
  obtain ⟨k, -, -, ⟨hk, hvalue⟩, rfl⟩ := mapName?_eq_some h
  simp [hk, hvalue]

/-- A name from the counter has no underscore. -/
theorem underscore_not_mem_counted (n : Nat) : '_' ∉ (counted n).toList := by
  have hdigits : (toString (n : Int)).toList = Nat.toDigits 10 n := Nat.toList_repr
  unfold counted
  rw [String.toList_append, hdigits, List.mem_append, not_or]
  exact ⟨by decide, Nat.underscore_not_in_toDigits⟩

/-- Only a declared type has the name of one. -/
theorem kind_of_declaredName {t : TypeKey} {b : String} (h : declaredName? t = some b) :
    t.kind = .named := by
  unfold declaredName? at h
  split at h
  · rename_i hnamed
    rw [Bool.and_eq_true, decide_eq_true_eq] at hnamed
    exact hnamed.1
  · cases h

/-- An argument that a type has for its kind is one of those that it is built from. -/
theorem argOf_eq_some {t u : TypeKey} {kind : Kind} {i : Nat}
    (h : (if t.kind = kind then some <$> t.arg i else .ok none) = Except.ok (some u)) :
    t.kind = kind ∧ u ∈ t.args := by
  split at h
  · rename_i hkind
    unfold TypeKey.arg at h
    cases harg : t.args[i]? with
    | none =>
      rw [harg] at h
      cases h
    | some a =>
      rw [harg] at h
      obtain rfl := Option.some.inj (Except.ok.inj h)
      exact ⟨hkind, List.mem_of_getElem? harg⟩
  · simp at h

/-- So is the first field of a record. -/
theorem head?_fields_eq_some {t u : TypeKey} (h : t.fields.head? = some u) :
    t.kind = .struct ∧ u ∈ t.args := by
  unfold TypeKey.fields at h
  split at h
  · rename_i hkind
    exact ⟨hkind, List.mem_of_head? h⟩
  · cases h

/-- The basename that a type has of itself is its name as a declared type, that of its element or of
its first field, or that of the mapping that it is. -/
theorem ownBasename?_eq_some_iff {t : TypeKey} {b : String} :
    ownBasename? t = .ok (some b) ↔
      declaredName? t = some b ∨
        (∃ elem, t.elem? = .ok (some elem) ∧ declaredName? elem = some b) ∨
        (∃ field, t.fields.head? = some field ∧ declaredName? field = some b) ∨
        ∃ key value, t.key? = .ok (some key) ∧ t.value? = .ok (some value) ∧
          mapName? key value = some b := by
  unfold ownBasename?
  constructor
  · intro h
    cases hkind : t.kind with
    | named =>
      rw [hkind] at h
      exact Or.inl (Except.ok.inj h)
    | element =>
      rw [hkind] at h
      obtain ⟨elem?, helem, h⟩ := bind_eq_ok_iff.mp h
      obtain ⟨elem, rfl, hname⟩ := Option.bind_eq_some_iff.mp (Except.ok.inj h)
      exact Or.inr (Or.inl ⟨elem, helem, hname⟩)
    | struct =>
      rw [hkind] at h
      exact Or.inr (Or.inr (Or.inl (Option.bind_eq_some_iff.mp (Except.ok.inj h))))
    | map =>
      rw [hkind] at h
      obtain ⟨key?, hkey, h⟩ := bind_eq_ok_iff.mp h
      obtain ⟨value?, hvalue, h⟩ := bind_eq_ok_iff.mp h
      split at h
      · exact Or.inr (Or.inr (Or.inr ⟨_, _, hkey, hvalue, Except.ok.inj h⟩))
      · cases h
    | other =>
      rw [hkind] at h
      cases h
  · -- Each kind is asked for what it has, and no other kind has it.
    rintro (h | ⟨elem, helem, h⟩ | ⟨field, hfield, h⟩ | ⟨key, value, hkey, hvalue, h⟩)
    · rw [kind_of_declaredName h]
      exact congrArg Except.ok h
    · rw [(argOf_eq_some helem).1, helem]
      exact congrArg Except.ok h
    · rw [(head?_fields_eq_some hfield).1, hfield]
      exact congrArg Except.ok h
    · rw [(argOf_eq_some hkey).1, hkey, hvalue]
      exact congrArg Except.ok h

/-- The basename that a type has of itself is the name of a declared type, either the type or one
that it is built from, or that of a mapping between two. -/
theorem ownBasename?_cases {t : TypeKey} {b : String} (h : ownBasename? t = .ok (some b)) :
    (∃ u ∈ t :: t.args, declaredName? u = some b) ∨
      ∃ key value, key ∈ t.args ∧ value ∈ t.args ∧ mapName? key value = some b := by
  rcases ownBasename?_eq_some_iff.mp h with hname | ⟨elem, helem, hname⟩ |
    ⟨field, hfield, hname⟩ | ⟨key, value, hkey, hvalue, hname⟩
  · exact Or.inl ⟨t, List.mem_cons_self, hname⟩
  · exact Or.inl ⟨elem, List.mem_cons_of_mem t (argOf_eq_some helem).2, hname⟩
  · exact Or.inl ⟨field, List.mem_cons_of_mem t (head?_fields_eq_some hfield).2, hname⟩
  · exact Or.inr ⟨key, value, (argOf_eq_some hkey).2, (argOf_eq_some hvalue).2, hname⟩

/-- The basename that a type has of itself has no underscore. -/
theorem underscore_not_mem_ownBasename {t : TypeKey} {b : String}
    (h : ownBasename? t = .ok (some b)) : '_' ∉ b.toList := by
  rcases ownBasename?_cases h with ⟨u, -, hdeclared⟩ | ⟨key, value, -, -, hmap⟩
  · exact underscore_not_mem_declaredName hdeclared
  · exact underscore_not_mem_mapName hmap

/-- A well-formed type has the arguments that are asked for its name. -/
theorem exists_ownBasename {t : TypeKey} (h : t.WellFormed) : ∃ b, ownBasename? t = .ok b := by
  obtain ⟨kind, name, scope, args, wrapper, methods⟩ := t
  cases kind with
  | named => exact ⟨_, rfl⟩
  | struct => exact ⟨_, rfl⟩
  | other => exact ⟨_, rfl⟩
  | map =>
    obtain ⟨hargs, -, -⟩ := h
    match args, hargs with
    | [key, value], _ => exact ⟨_, rfl⟩
  | element =>
    obtain ⟨hargs, -, -⟩ := h
    match args, hargs with
    | [elem], _ => exact ⟨_, rfl⟩

/-! ## Basenames -/

/-- Asking for a basename counts the types that have none of themselves. -/
theorem basename_run (t : TypeKey) (n : Nat) :
    (basename t).run.run n =
      match ownBasename? t with
      | .error e => (.error e, n)
      | .ok (some name) => (.ok name, n)
      | .ok none => (.ok (counted n), n + 1) := by
  unfold basename
  cases h : ownBasename? t with
  | error e => rfl
  | ok b =>
    cases b with
    | some name => rfl
    | none => rfl

/-- No basename has an underscore. -/
theorem underscore_not_mem_basename {t : TypeKey} {n m : Nat} {b : String}
    (h : (basename t).run.run n = (.ok b, m)) : '_' ∉ b.toList := by
  rw [basename_run] at h
  split at h
  · exact absurd (Prod.mk.inj h).1 (by simp)
  · rename_i name hown
    obtain ⟨hname, -⟩ := Prod.mk.inj h
    rw [← Except.ok.inj hname]
    exact underscore_not_mem_ownBasename hown
  · obtain ⟨hname, -⟩ := Prod.mk.inj h
    rw [← Except.ok.inj hname]
    exact underscore_not_mem_counted n

/-- Every well-formed type has a basename. -/
theorem exists_basename {t : TypeKey} (h : t.WellFormed) (n : Nat) :
    ∃ b m, (basename t).run.run n = (.ok b, m) := by
  obtain ⟨own, hown⟩ := exists_ownBasename h
  rw [basename_run, hown]
  cases own with
  | some name => exact ⟨name, n, rfl⟩
  | none => exact ⟨counted n, n + 1, rfl⟩

end Variable

end Wiring
