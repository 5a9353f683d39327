import Mathlib.Data.List.Basic
import Wiring.TypeKey.Basic

/-!
# Well-formed keys

The keys that the constructors make of well-formed ones are well-formed. Each one that a well-formed
key is built from, at any depth, is well-formed (`WellFormed.of_within`) and has as many arguments
as its kind asks for (`WellFormed.shaped`), so that its accessors and its printed form never miss
one (`WellFormed.accessible`, `exists_text`).
-/

namespace Wiring.TypeKey

/-- All keys of a list are well-formed exactly if each of them is. -/
theorem allWellFormed_iff {ts : List TypeKey} : AllWellFormed ts ↔ ∀ t ∈ ts, t.WellFormed := by
  induction ts with
  | nil => simp [AllWellFormed]
  | cons t ts ih => simp [AllWellFormed, ih]

/-! ## Constructors -/

/-- The key of a declared type is well-formed. -/
theorem wellFormed_named (name scope : String) (methods : List MethodSignature) :
    (named name scope methods).WellFormed :=
  ⟨rfl, fun h => absurd rfl h, trivial⟩

/-- The key of a spelling is well-formed. -/
theorem wellFormed_basic (name : String) : (basic name).WellFormed := ⟨rfl, fun _ => rfl, trivial⟩

/-- The key of a mapping is well-formed if its parts are. -/
theorem WellFormed.map {key value : TypeKey} (hkey : key.WellFormed) (hvalue : value.WellFormed) :
    (TypeKey.map key value).WellFormed :=
  ⟨rfl, fun _ => rfl, hkey, hvalue, trivial⟩

/-- The key of a wrapper is well-formed if that of its element is. -/
theorem WellFormed.element {elem : TypeKey} (wrapper : String) (helem : elem.WellFormed) :
    (TypeKey.element wrapper elem).WellFormed :=
  ⟨rfl, fun _ => rfl, helem, trivial⟩

/-- The key of a record is well-formed if those of its fields are. -/
theorem wellFormed_struct {fields : List TypeKey} (hfields : ∀ t ∈ fields, t.WellFormed) :
    (struct fields).WellFormed :=
  ⟨trivial, fun _ => rfl, allWellFormed_iff.mpr hfields⟩

/-! ## What keys are built from -/

/-- The key is the other one or one that it is built from, at any depth. -/
inductive Within : TypeKey → TypeKey → Prop
  /-- A key is within itself. -/
  | self (t : TypeKey) : Within t t
  /-- What is within an argument is within the key. -/
  | arg {t a u : TypeKey} (ha : a ∈ u.args) (h : Within t a) : Within t u

/-- The key has as many arguments as its kind asks for, and methods only if it is named. -/
structure Shaped (t : TypeKey) : Prop where
  /-- A mapping has a key and a value. -/
  map : t.kind = .map → t.args.length = 2
  /-- A wrapper has one element. -/
  element : t.kind = .element → t.args.length = 1
  /-- A declared type is built from nothing. -/
  named : t.kind = .named → t.args.length = 0
  /-- Neither is a spelling. -/
  other : t.kind = .other → t.args.length = 0
  /-- No other than a declared type has methods. -/
  methods : t.kind ≠ .named → t.methods = []

variable {t u : TypeKey}

/-- The arguments of a well-formed key are well-formed. -/
theorem WellFormed.of_mem_args (hu : u.WellFormed) (ht : t ∈ u.args) : t.WellFormed := by
  obtain ⟨kind, name, scope, args, wrapper, methods⟩ := u
  exact allWellFormed_iff.mp hu.2.2 t ht

/-- Everything within a well-formed key is well-formed. -/
theorem WellFormed.of_within (hu : u.WellFormed) (ht : t.Within u) : t.WellFormed := by
  induction ht with
  | self => exact hu
  | arg ha _ ih => exact ih (hu.of_mem_args ha)

/-- A well-formed key has the arguments that its kind asks for. -/
theorem WellFormed.shaped (ht : t.WellFormed) : t.Shaped := by
  obtain ⟨kind, name, scope, args, wrapper, methods⟩ := t
  obtain ⟨hargs, hmethods, -⟩ := ht
  cases kind with
  | map => exact ⟨fun _ => hargs, nofun, nofun, nofun, hmethods⟩
  | element => exact ⟨nofun, fun _ => hargs, nofun, nofun, hmethods⟩
  | named => exact ⟨nofun, nofun, fun _ => hargs, nofun, hmethods⟩
  | other => exact ⟨nofun, nofun, nofun, fun _ => hargs, hmethods⟩
  | struct => exact ⟨nofun, nofun, nofun, nofun, hmethods⟩

/-- Every accessor of the key that asks for an argument answers, with one exactly if the key is of
its kind. The fields are never missing: other keys than records have none. -/
structure Accessible (t : TypeKey) : Prop where
  /-- The key of a mapping. -/
  key : ∃ a, t.key? = .ok a ∧ (a.isSome = true ↔ t.kind = .map)
  /-- The value of a mapping. -/
  value : ∃ a, t.value? = .ok a ∧ (a.isSome = true ↔ t.kind = .map)
  /-- The element of a wrapper. -/
  elem : ∃ a, t.elem? = .ok a ∧ (a.isSome = true ↔ t.kind = .element)

/-- An argument that is there is given. -/
theorem exists_arg {i : Nat} (hi : i < t.args.length) : ∃ a, t.arg i = .ok a := by
  unfold arg
  rw [List.getElem?_eq_getElem hi]
  exact ⟨_, rfl⟩

/-- The accessors of a well-formed key answer. -/
theorem WellFormed.accessible (ht : t.WellFormed) : t.Accessible := by
  -- An accessor asks for an argument only if the kind has it.
  have haccess : ∀ kind i, (t.kind = kind → i < t.args.length) →
      ∃ a, (if t.kind = kind then some <$> t.arg i else .ok none) = .ok a ∧
        (a.isSome = true ↔ t.kind = kind) := by
    intro kind i hlength
    by_cases hkind : t.kind = kind
    · obtain ⟨a, ha⟩ := exists_arg (hlength hkind)
      refine ⟨some a, ?_, iff_of_true rfl hkind⟩
      rw [if_pos hkind, ha]
      rfl
    · exact ⟨none, if_neg hkind, iff_of_false Bool.false_ne_true hkind⟩
  have hmap := ht.shaped.map
  have helement := ht.shaped.element
  exact {
    key := haccess .map 0 fun hkind => by have := hmap hkind; omega
    value := haccess .map 1 fun hkind => by have := hmap hkind; omega
    elem := haccess .element 0 fun hkind => by have := helement hkind; omega }

/-! ## Printed forms -/

mutual

/-- A well-formed key has a printed form. -/
theorem exists_text : ∀ t : TypeKey, t.WellFormed → ∃ s, t.text = .ok s
  | ⟨.named, name, scope, _, _, _⟩, _ => ⟨_, by rw [text]⟩
  | ⟨.other, name, _, _, _, _⟩, _ => ⟨_, by rw [text]⟩
  | ⟨.map, _, _, args, _, _⟩, h => by
    have hlength : args.length = 2 := h.1
    obtain ⟨texts, htexts, hcount⟩ := exists_textsUpTo 2 args h.2.2
    rw [hlength, Nat.min_self] at hcount
    obtain ⟨key, value, rfl⟩ := List.length_eq_two.mp hcount
    exact ⟨_, by rw [text, htexts]; rfl⟩
  | ⟨.element, _, _, args, _, _⟩, h => by
    have hlength : args.length = 1 := h.1
    obtain ⟨texts, htexts, hcount⟩ := exists_textsUpTo 1 args h.2.2
    rw [hlength, Nat.min_self] at hcount
    obtain ⟨elem, rfl⟩ := List.length_eq_one_iff.mp hcount
    exact ⟨_, by rw [text, htexts]; rfl⟩
  | ⟨.struct, _, _, args, _, _⟩, h => by
    obtain ⟨texts, htexts, -⟩ := exists_textsUpTo args.length args h.2.2
    exact ⟨_, by rw [text, htexts]; rfl⟩

/-- The first of several well-formed keys have printed forms. -/
theorem exists_textsUpTo : ∀ (n : Nat) (ts : List TypeKey), AllWellFormed ts →
    ∃ texts, textsUpTo n ts = .ok texts ∧ texts.length = min n ts.length
  | 0, _, _ => ⟨[], by rw [textsUpTo], by simp⟩
  | _ + 1, [], _ => ⟨[], by rw [textsUpTo]; simp, by simp⟩
  | n + 1, t :: ts, h => by
    obtain ⟨s, hs⟩ := exists_text t h.1
    obtain ⟨texts, htexts, hlength⟩ := exists_textsUpTo n ts h.2
    refine ⟨s :: texts, by rw [textsUpTo, hs, htexts]; rfl, ?_⟩
    rw [List.length_cons, List.length_cons, hlength]
    omega

end

end Wiring.TypeKey
