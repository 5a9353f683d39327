import Wiring.Proofs.Variable.Bare
import Wiring.Proofs.Variable.Basename

/-!
# Types with a usable name

A declared type is named after itself if its name starts with a letter and has no underscore. A
wrapper borrows the name of its element, a record that of its first field, and a mapping the names
of its key and its value (`UsablyNamed`). These are the types with a basename of their own
(`isSome_ownName?_iff`); all others have to be numbered.
-/

namespace Wiring.Variable

/-! ## Declared types -/

/-- A declared type has a usable name: it starts with a letter and has no underscore. -/
def UsablyDeclared (t : TypeKey) : Prop :=
  t.kind = .named ∧ '_' ∉ t.name.toList ∧ ∃ c ∈ t.name.toList.head?, Text.isLetter c = true

/-- A name can be put in lower case exactly if it starts with a letter. -/
theorem isSome_lowerLeading?_iff {s : String} :
    (lowerLeading? s).isSome = true ↔ ∃ c ∈ s.toList.head?, Text.isLetter c = true := by
  unfold lowerLeading?
  cases s.toList with
  | nil => simp
  | cons c cs =>
    by_cases hc : Text.isLetter c = true
    · simp [hc]
    · simp [hc]

/-- A name that starts with a letter has an underscore exactly if it has one in lower case. -/
theorem underscore_mem_lowerLeading_iff {s k : String} (h : lowerLeading? s = some k) :
    '_' ∈ k.toList ↔ '_' ∈ s.toList := by
  constructor
  · intro hk
    by_contra hs
    exact underscore_not_mem_lowerLeading hs h hk
  · intro hs
    -- The underscore is no letter, so it does not stand in front.
    obtain ⟨c, cs, hchars, hletter, hlower⟩ := exists_lowerLeading? h
    rw [hchars, List.mem_cons] at hs
    rw [hlower]
    rcases hs with rfl | hs
    · exact absurd hletter (by decide)
    · exact List.mem_append_right _ hs

/-- A type has the name of a declared type exactly if it is one with a usable name. -/
theorem isSome_declaredName?_iff {t : TypeKey} :
    (declaredName? t).isSome = true ↔ UsablyDeclared t := by
  unfold declaredName? UsablyDeclared
  rw [← isSome_lowerLeading?_iff, ← hasUnderscore_eq_false_iff]
  by_cases hkind : t.kind = .named
  · cases hunderscore : hasUnderscore t.name with
    | false => simp [hkind]
    | true => simp
  · simp [hkind]

/-- Two types name a mapping exactly if the first is a declared type with a usable name and the
second is a declared type whose name is not empty and has no underscore. -/
theorem isSome_mapName?_iff {key value : TypeKey} :
    (mapName? key value).isSome = true ↔
      UsablyDeclared key ∧ value.kind = .named ∧ value.name ≠ "" ∧ '_' ∉ value.name.toList := by
  unfold mapName? UsablyDeclared
  rw [← isSome_lowerLeading?_iff, ← hasUnderscore_eq_false_iff (s := value.name)]
  by_cases hkinds : key.kind = .named ∧ value.kind = .named
  · cases hkey : lowerLeading? key.name with
    | none => simp [hkinds]
    | some k =>
      -- The lower case of the key's name is tested for underscores in place of the name.
      have hunderscore : hasUnderscore k = false ↔ '_' ∉ key.name.toList := by
        rw [hasUnderscore_eq_false_iff, underscore_mem_lowerLeading_iff hkey]
      simp only [hkinds, decide_true, Bool.and_self, if_true, Option.isSome_some, and_true,
        true_and, ← hunderscore]
      cases hasUnderscore k <;> cases hasUnderscore value.name <;>
        by_cases hname : value.name = "" <;> simp [hname]
  · have hnot : (decide (key.kind = .named) && decide (value.kind = .named)) = false := by
      simpa using hkinds
    rw [hnot]
    refine iff_of_false (by simp) ?_
    rintro ⟨⟨hkey, -⟩, hvalue, -⟩
    exact hkinds ⟨hkey, hvalue⟩

/-! ## All types -/

/-- The type has a usable name, of itself or from what it is built from. -/
inductive UsablyNamed : TypeKey → Prop where
  /-- It is declared under one. -/
  | declared {t : TypeKey} (h : UsablyDeclared t) : UsablyNamed t
  /-- It is a wrapper, and its element is declared under one. -/
  | element {t elem : TypeKey} (helem : t.elem? = .ok (some elem)) (h : UsablyDeclared elem) :
    UsablyNamed t
  /-- It is a record, and its first field is declared under one. -/
  | struct {t field : TypeKey} (hfield : t.fields.head? = some field) (h : UsablyDeclared field) :
    UsablyNamed t
  /-- It is a mapping, its key is declared under one, and its value is declared under a name that
  can stand behind another. -/
  | map {t key value : TypeKey} (hkey : t.key? = .ok (some key))
    (hvalue : t.value? = .ok (some value)) (h : UsablyDeclared key) (hkind : value.kind = .named)
    (hname : value.name ≠ "") (hunderscore : '_' ∉ value.name.toList) : UsablyNamed t

/-- The basename that a type has of itself. A type that lacks an argument has none. -/
def ownName? (t : TypeKey) : Option String := (ownBasename? t).toOption.join

/-- It is the one that the type gives if it is asked. -/
theorem ownName?_eq_some_iff {t : TypeKey} {b : String} :
    ownName? t = some b ↔ ownBasename? t = .ok (some b) := by
  unfold ownName?
  cases ownBasename? t with
  | error e => exact iff_of_false (by rintro ⟨⟩) (by rintro ⟨⟩)
  | ok own => exact ⟨congrArg Except.ok, Except.ok.inj⟩

/-- A type has a basename of its own exactly if it has a usable name. -/
theorem isSome_ownName?_iff {t : TypeKey} : (ownName? t).isSome = true ↔ UsablyNamed t := by
  simp only [Option.isSome_iff_exists, ownName?_eq_some_iff, ownBasename?_eq_some_iff]
  constructor
  · rintro ⟨b, hname | ⟨elem, helem, hname⟩ | ⟨field, hfield, hname⟩ |
      ⟨key, value, hkey, hvalue, hname⟩⟩
    · exact .declared (isSome_declaredName?_iff.mp (Option.isSome_of_mem hname))
    · exact .element helem (isSome_declaredName?_iff.mp (Option.isSome_of_mem hname))
    · exact .struct hfield (isSome_declaredName?_iff.mp (Option.isSome_of_mem hname))
    · obtain ⟨hdeclared, hkind, hnonempty, hunderscore⟩ :=
        isSome_mapName?_iff.mp (Option.isSome_of_mem hname)
      exact .map hkey hvalue hdeclared hkind hnonempty hunderscore
  · intro h
    cases h with
    | declared h =>
      obtain ⟨b, hb⟩ := Option.isSome_iff_exists.mp (isSome_declaredName?_iff.mpr h)
      exact ⟨b, Or.inl hb⟩
    | element helem h =>
      obtain ⟨b, hb⟩ := Option.isSome_iff_exists.mp (isSome_declaredName?_iff.mpr h)
      exact ⟨b, Or.inr (Or.inl ⟨_, helem, hb⟩)⟩
    | struct hfield h =>
      obtain ⟨b, hb⟩ := Option.isSome_iff_exists.mp (isSome_declaredName?_iff.mpr h)
      exact ⟨b, Or.inr (Or.inr (Or.inl ⟨_, hfield, hb⟩))⟩
    | map hkey hvalue h hkind hname hunderscore =>
      obtain ⟨b, hb⟩ := Option.isSome_iff_exists.mp
        (isSome_mapName?_iff.mpr ⟨h, hkind, hname, hunderscore⟩)
      exact ⟨b, Or.inr (Or.inr (Or.inr ⟨_, _, hkey, hvalue, hb⟩))⟩

instance : DecidablePred UsablyNamed := fun _ => decidable_of_iff _ isSome_ownName?_iff

/-- The basename that a type has of itself does not show methods, so equal types have the same. -/
theorem ownName?_congr {t u : TypeKey} (h : (t == u) = true) : ownName? t = ownName? u := by
  unfold ownName?
  rw [← ownBasename?_bare t, ← ownBasename?_bare u, TypeKey.beq_iff_bare_eq.mp h]

/-- A well-formed type is asked for its own basename without failure. -/
theorem ownBasename?_eq {t : TypeKey} (h : t.WellFormed) : ownBasename? t = .ok (ownName? t) := by
  obtain ⟨b, hb⟩ := exists_ownBasename h
  unfold ownName?
  rw [hb]
  rfl

end Wiring.Variable
