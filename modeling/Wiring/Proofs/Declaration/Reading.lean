import Wiring.Proofs.Declaration.Annotation

/-!
# How annotations are read

A name or a dotted name is looked up in the module, and the text of a literal is read as an
annotation again (`Environment.typeOf_literal`). For every other annotation the types of some of its
parts are put together in a way that can be undone, or none of its parts counts and its spelling is
its type (`Environment.exists_typeOf_eq`). The way in which they are put together does not depend on
the module.

Which annotations are read for another one is a relation of its own (`Expr.Calls`). Operands are
smaller than the annotation that has them, and the literals in a text are shorter than the literal
that has the text. So there is no endless chain of calls (`Expr.wellFounded_calls`), and what holds
of annotations can be shown by induction on how they are read (`Expr.reading_induction`).
-/

namespace Wiring

open Source (Expr Literal.value Literal.length_value_lt LiteralFault Reader)
open Environment (baseName isUnion typeOfSubscript typeOfAlternatives)

/-! ## Keys made of keys -/

/-- The keys that `build` makes of as many keys each are equal exactly if these are, one by one. -/
def Constructs (count : Nat) (build : List TypeKey → TypeKey) : Prop :=
  ∀ as bs, as.length = count → bs.length = count →
    ((build as == build bs) = true ↔ List.Forall₂ (fun a b => (a == b) = true) as bs)

/-- Keys are equal entry by entry. -/
theorem TypeKey.sameAll_iff_forall₂ {as bs : List TypeKey} :
    sameAll as bs = true ↔ List.Forall₂ (fun a b => (a == b) = true) as bs := by
  induction as generalizing bs with
  | nil =>
    cases bs with
    | nil => simp [sameAll]
    | cons b bs => exact iff_of_false (by simp [sameAll]) (by rintro ⟨⟩)
  | cons a as ih =>
    cases bs with
    | nil => exact iff_of_false (by simp [sameAll]) (by rintro ⟨⟩)
    | cons b bs =>
      rw [sameAll, Bool.and_eq_true, ih, List.forall₂_cons]
      rfl

/-- A key that is made of none is always the same. -/
theorem constructs_const (t : TypeKey) : Constructs 0 fun _ => t := by
  intro as bs has hbs
  rw [List.length_eq_zero_iff.mp has, List.length_eq_zero_iff.mp hbs]
  exact iff_of_true (BEq.refl t) List.Forall₂.nil

/-- Records are equal field by field. -/
theorem constructs_struct (count : Nat) : Constructs count TypeKey.struct := by
  intro as bs _ _
  rw [← TypeKey.sameAll_iff_forall₂]
  show TypeKey.same _ _ = true ↔ _
  simp [TypeKey.same, TypeKey.struct]

/-- Wrappers of one name are equal if their elements are. -/
theorem constructs_element (wrapper : String) :
    Constructs 1 fun as => .element wrapper (as.headD default) := by
  intro as bs has hbs
  obtain ⟨a, rfl⟩ := List.length_eq_one_iff.mp has
  obtain ⟨b, rfl⟩ := List.length_eq_one_iff.mp hbs
  rw [← TypeKey.sameAll_iff_forall₂]
  show TypeKey.same _ _ = true ↔ _
  simp [TypeKey.same, TypeKey.element]

/-- Mappings are equal if their keys and their values are. -/
theorem constructs_map :
    Constructs 2 fun as => .map (as.headD default) (as.getLastD default) := by
  intro as bs has hbs
  obtain ⟨k, v, rfl⟩ := List.length_eq_two.mp has
  obtain ⟨k', v', rfl⟩ := List.length_eq_two.mp hbs
  rw [← TypeKey.sameAll_iff_forall₂]
  show TypeKey.same _ _ = true ↔ _
  simp [TypeKey.same, TypeKey.map]

/-! ## The parts of an annotation -/

namespace Source.Expr

/-- The parts of an annotation of whose types its own is made: those whose types count, without the
dots that say that a record has fields of one type. -/
def components : Expr → List Expr
  | .subscript code value [field, .ellipsis dots] =>
    if recordNames.contains (baseName value) then [field]
    else typeParts (.subscript code value [field, .ellipsis dots])
  | e => e.typeParts

variable {base : String} {e left right part : Expr} {elements : List Expr} {P : String → Prop}

/-- Alternatives that count are among the alternatives. -/
theorem mem_of_mem_alternativeParts (h : part ∈ alternativeParts left right) :
    part = left ∨ part = right := by
  unfold alternativeParts at h
  split at h
  · exact Or.inr (List.mem_singleton.mp h)
  · exact Or.inl (List.mem_singleton.mp h)
  · cases h

/-- Indices that count are among the indices. -/
theorem mem_of_mem_subscriptParts (h : part ∈ subscriptParts base elements) : part ∈ elements := by
  unfold subscriptParts at h
  split at h
  · exact h
  split at h
  · exact h
  split at h
  · unfold unionParts at h
    split at h
    · rcases mem_of_mem_alternativeParts h with rfl | rfl
      · exact List.mem_cons_self
      · exact List.mem_cons_of_mem _ List.mem_cons_self
    · cases h
  split at h
  · exact h
  · cases h

/-- The expressions that an annotation puts together: indices or alternatives. -/
def operands : Expr → List Expr
  | .subscript _ _ elements => elements
  | .union _ left right => [left, right]
  | _ => []

/-- Parts that count are operands. -/
theorem mem_operands_of_mem_typeParts (h : part ∈ e.typeParts) : part ∈ e.operands := by
  cases e with
  | subscript code value elements => exact mem_of_mem_subscriptParts h
  | union code left right =>
    rw [typeParts] at h
    split at h
    · cases h
    · rcases mem_of_mem_alternativeParts h with rfl | rfl
      · exact List.mem_cons_self
      · exact List.mem_cons_of_mem _ List.mem_cons_self
  | _ => cases h

/-- An operand is smaller than the annotation. -/
theorem sizeOf_lt_of_mem_operands (h : part ∈ e.operands) : sizeOf part < sizeOf e := by
  cases e with
  | subscript code value elements =>
    have hsize : sizeOf part < sizeOf elements := List.sizeOf_lt_of_mem h
    rw [subscript.sizeOf_spec]
    omega
  | union code left right =>
    rw [union.sizeOf_spec]
    rcases List.mem_pair.mp h with rfl | rfl
    · omega
    · omega
  | _ => cases h

/-- What holds of the literals of an annotation holds of those of its operands. -/
theorem Holds.of_mem_operands (he : e.Holds P) (h : part ∈ e.operands) : part.Holds P := by
  intro l hl
  cases e with
  | subscript code value elements =>
    refine he l (List.mem_append_right _ ?_)
    rw [literalsOf_eq_flatMap]
    exact List.mem_flatMap_of_mem h hl
  | union code left right =>
    rcases List.mem_pair.mp h with rfl | rfl
    · exact he l (List.mem_append_left _ hl)
    · exact he l (List.mem_append_right _ hl)
  | _ => cases h

/-- To read an annotation is to read others: its operands, or the annotation in its text. -/
inductive Calls [Reader] : Expr → Expr → Prop
  /-- An operand is read. -/
  | operand {e part : Expr} (h : part ∈ e.operands) : Calls e part
  /-- The text of a literal is read as an annotation. -/
  | text {code l : String} {text : List Char} {e : Expr}
      (hvalue : Literal.value l.toList = .ok text) (he : ofText? text = some e) :
      Calls (.literal code l) e

/-- No annotation is read by reading others without end. -/
theorem wellFounded_calls [Reader] : WellFounded fun part e => Calls e part := by
  -- The outer induction is on a bound for the lengths of the literals in the annotation. Operands
  -- keep it, so that the inner induction on the size serves for them.
  suffices hbound : ∀ n, ∀ e : Expr, e.Holds (fun l => l.toList.length ≤ n) →
      Acc (fun part e => Calls e part) e by
    refine ⟨fun e => hbound (e.literals.map String.toList).flatten.length e fun l hl => ?_⟩
    exact (List.sublist_flatten_of_mem (List.mem_map_of_mem hl)).length_le
  intro n
  induction n using Nat.strongRecOn with
  | ind n ihn =>
    intro e he
    induction hsize : sizeOf e using Nat.strongRecOn generalizing e with
    | ind size ihsize =>
      refine Acc.intro e fun part hcalls => ?_
      cases hcalls with
      | operand hpart =>
        have hlt := sizeOf_lt_of_mem_operands hpart
        exact ihsize (sizeOf part) (by omega) part (he.of_mem_operands hpart) rfl
      | @text code l text _ hvalue hpart =>
        have hvalueLength := Literal.length_value_lt hvalue
        have hl := he l (List.mem_singleton_self l)
        exact ihn text.length (by omega) part (length_le_of_mem_literals hpart)

/-- Every part is a component or three dots. -/
theorem mem_typeParts_iff :
    (part ∈ e.typeParts → part ∈ e.components ∨ ∃ dots, part = .ellipsis dots) ∧
      (part ∈ e.components → part ∈ e.typeParts) := by
  unfold components
  split
  · rename_i code value field dots
    split
    · rename_i hrecord
      rw [typeParts, subscriptParts_record _ hrecord]
      refine ⟨fun h => ?_, fun h => List.mem_cons.mpr (Or.inl (List.mem_singleton.mp h))⟩
      rcases List.mem_cons.mp h with rfl | h
      · exact Or.inl List.mem_cons_self
      · exact Or.inr ⟨dots, List.mem_singleton.mp h⟩
    · exact ⟨Or.inl, id⟩
  · exact ⟨Or.inl, id⟩

/-- What holds of all names and dotted names, of a literal if it holds of the annotation in its
text, and of any other annotation if it holds of its components, holds of all annotations. -/
theorem reading_induction [Reader] {motive : Expr → Prop}
    (name : ∀ code id, motive (.name code id))
    (member : ∀ code value attr, motive (.member code value attr))
    (literal : ∀ code l, (∀ text e, Literal.value l.toList = .ok text → ofText? text = some e →
      motive e) → motive (.literal code l))
    (parts : ∀ e, (∀ code id, e ≠ .name code id) →
      (∀ code value attr, e ≠ .member code value attr) → (∀ code l, e ≠ .literal code l) →
      (∀ part ∈ e.components, motive part) → motive e)
    (e : Expr) : motive e := by
  induction e using wellFounded_calls.induction with
  | h e ih =>
    by_cases hname : ∃ code id, e = .name code id
    · obtain ⟨code, id, rfl⟩ := hname
      exact name code id
    by_cases hmember : ∃ code value attr, e = .member code value attr
    · obtain ⟨code, value, attr, rfl⟩ := hmember
      exact member code value attr
    by_cases hliteral : ∃ code l, e = .literal code l
    · obtain ⟨code, l, rfl⟩ := hliteral
      exact literal code l fun text e' hvalue he' => ih e' (.text hvalue he')
    refine parts e (fun code id heq => hname ⟨code, id, heq⟩)
      (fun code value attr heq => hmember ⟨code, value, attr, heq⟩)
      (fun code l heq => hliteral ⟨code, l, heq⟩) fun part hpart => ?_
    have hpart := mem_typeParts_iff.2 hpart
    exact ih part (.operand (mem_operands_of_mem_typeParts hpart))

end Source.Expr

namespace Environment

variable {env : Environment} {code base : String}

/-! ## Putting types together -/

/-- Readings pair each expression with what it denotes. -/
theorem readingsWith_eq_map (ofText : List Char → Except LiteralFault TypeKey) (es : List Expr) :
    env.readingsWith ofText es = es.map fun e => (e, env.typeWith ofText e) := by
  induction es with
  | nil => rw [readingsWith, List.map_nil]
  | cons e es ih => rw [readingsWith, List.map_cons, ih]

/-- Equal steps have equal results. -/
theorem mapM_congr {f g : Expr → Except LiteralFault TypeKey} {es : List Expr}
    (h : ∀ e ∈ es, f e = g e) : es.mapM f = es.mapM g := by
  induction es with
  | nil => rfl
  | cons e es ih =>
    rw [List.mapM_cons, List.mapM_cons, h e List.mem_cons_self,
      ih fun e' he' => h e' (List.mem_cons_of_mem e he')]

/-- A single step is a row of one. -/
theorem map_mapM_singleton (f : Expr → Except LiteralFault TypeKey) (e : Expr)
    (build : List TypeKey → TypeKey) : build <$> [e].mapM f = (fun a => build [a]) <$> f e := by
  rw [List.mapM_cons, List.mapM_nil]
  cases f e with
  | error fault => rfl
  | ok a => rfl

/-- The type of alternatives is made of that of the one that counts, or of none. -/
theorem exists_typeOfAlternatives_eq (code : String) (left right : Expr) :
    ∃ build, Constructs (Expr.alternativeParts left right).length build ∧
      ∀ f : Expr → Except LiteralFault TypeKey,
        typeOfAlternatives code (left, f left) (right, f right) =
          build <$> (Expr.alternativeParts left right).mapM f := by
  cases hleft : left.isNone <;> cases hright : right.isNone
  case true.false =>
    have hparts : Expr.alternativeParts left right = [right] := by
      simp only [Expr.alternativeParts, hleft, hright]
    rw [hparts]
    refine ⟨_, constructs_element "optional", fun f => ?_⟩
    simp only [typeOfAlternatives, hleft, hright, map_mapM_singleton]
    rfl
  case false.true =>
    have hparts : Expr.alternativeParts left right = [left] := by
      simp only [Expr.alternativeParts, hleft, hright]
    rw [hparts]
    refine ⟨_, constructs_element "optional", fun f => ?_⟩
    simp only [typeOfAlternatives, hleft, hright, map_mapM_singleton]
    rfl
  all_goals
    have hparts : Expr.alternativeParts left right = [] := by
      simp only [Expr.alternativeParts, hleft, hright]
    rw [hparts]
    refine ⟨_, constructs_const (.basic code), fun f => ?_⟩
    simp only [typeOfAlternatives, hleft, hright]
    rfl

/-- The readings of expressions by a function. -/
def readings (f : Expr → Except LiteralFault TypeKey) (es : List Expr) : List Reading :=
  es.map fun e => (e, f e)

/-- The components of a record are its fields. -/
theorem components_record {code : String} {value : Expr} {elements : List Expr}
    (h : recordNames.contains (baseName value) = true) :
    Expr.components (.subscript code value elements) =
      match elements with
      | [field, .ellipsis _] => [field]
      | _ => elements := by
  unfold Expr.components
  split
  · rename_i heq
    obtain ⟨-, rfl, rfl⟩ := Expr.subscript.inj heq
    rw [if_pos h]
  · rename_i hne
    rw [Expr.typeParts, Expr.subscriptParts_record _ h]
    split
    · exact absurd rfl (hne _ _ _ _)
    · rfl

/-- The components of any other value with indices are the indices that count. -/
theorem components_of_not_record {code : String} {value : Expr} {elements : List Expr}
    (h : ¬ recordNames.contains (baseName value) = true) :
    Expr.components (.subscript code value elements) =
      Expr.subscriptParts (baseName value) elements := by
  unfold Expr.components
  split
  · rename_i heq
    obtain ⟨-, rfl, rfl⟩ := Expr.subscript.inj heq
    rw [if_neg h, Expr.typeParts]
  · rw [Expr.typeParts]

/-- A record is made of its fields, or of the one type of all its fields. -/
theorem typeOfSubscript_record {elements : List Reading} (h : recordNames.contains base = true) :
    typeOfSubscript code base elements =
      match elements with
      | [e, (.ellipsis _, _)] => .element "tuple" <$> e.2
      | _ => .struct <$> elements.mapM (·.2) := by
  have hnames : ∀ name ∈ recordNames, elementNames.lookup name = none ∧
      mapNames.contains name = false ∧ (name == unionName) = false := by decide
  obtain ⟨hlookup, hmap, hunion⟩ := hnames base (List.contains_iff_mem.mp h)
  unfold typeOfSubscript
  rw [hlookup, hmap, hunion, h]
  rfl

/-- The type of a record is made of those of its components. -/
theorem exists_typeOfSubscript_record (code : String) {value : Expr} (elements : List Expr)
    (h : recordNames.contains (baseName value) = true) :
    ∃ build, Constructs (Expr.components (.subscript code value elements)).length build ∧
      ∀ f : Expr → Except LiteralFault TypeKey,
        typeOfSubscript code (baseName value) (readings f elements) =
          build <$> (Expr.components (.subscript code value elements)).mapM f := by
  rw [components_record h]
  split
  · refine ⟨_, constructs_element "tuple", fun f => ?_⟩
    rw [typeOfSubscript_record h, map_mapM_singleton]
    rfl
  · rename_i hne
    refine ⟨_, constructs_struct elements.length, fun f => ?_⟩
    rw [typeOfSubscript_record h]
    split
    · -- The dots of a reading are those of the expression that is read.
      rename_i field dots x heq
      obtain ⟨e, rest, rfl, -, hrest⟩ := List.map_eq_cons_iff.mp heq
      obtain ⟨d, none, rfl, hd, hnone⟩ := List.map_eq_cons_iff.mp hrest
      obtain rfl := List.map_eq_nil_iff.mp hnone
      obtain ⟨rfl, -⟩ := Prod.mk.inj hd
      exact absurd rfl (hne e dots)
    · rw [readings, List.mapM_map]
      rfl

/-- The type of alternatives in brackets. -/
def typeOfUnion (code : String) : List Reading → Except LiteralFault TypeKey
  | [left, right] => typeOfAlternatives code left right
  | _ => return .basic code

/-- A value that is neither a wrapper, a mapping nor a record joins alternatives or is its
spelling. -/
theorem typeOfSubscript_other {elements : List Reading}
    (hwrapper : ∀ wrapper, elementNames.lookup base = some wrapper → elements.length ≠ 1)
    (hmap : mapNames.contains base = true → elements.length ≠ 2)
    (hrecord : ¬ recordNames.contains base = true) :
    typeOfSubscript code base elements =
      if base == unionName then typeOfUnion code elements else return .basic code := by
  unfold typeOfSubscript typeOfUnion
  split
  · rename_i wrapper e hlookup
    exact absurd rfl (hwrapper wrapper hlookup)
  split
  · rename_i k v hcontains _
    exact absurd rfl (hmap hcontains)
  exact congrArg (ite ((base == unionName) = true) _) (if_neg hrecord)

/-- The type of alternatives in brackets is made of that of the one that counts, or of none. -/
theorem exists_typeOfUnion_eq (code : String) (elements : List Expr) :
    ∃ build, Constructs (Expr.unionParts elements).length build ∧
      ∀ f : Expr → Except LiteralFault TypeKey,
        typeOfUnion code (readings f elements) = build <$> (Expr.unionParts elements).mapM f := by
  match elements with
  | [left, right] => exact exists_typeOfAlternatives_eq code left right
  | [] | [_] | _ :: _ :: _ :: _ => exact ⟨_, constructs_const (.basic code), fun _ => rfl⟩

/-- The type of a value with indices is made of those of the indices that count, or of none. -/
theorem exists_typeOfSubscript_eq (code : String) (value : Expr) (elements : List Expr) :
    ∃ build, Constructs (Expr.components (.subscript code value elements)).length build ∧
      ∀ f : Expr → Except LiteralFault TypeKey,
        typeOfSubscript code (baseName value) (readings f elements) =
          build <$> (Expr.components (.subscript code value elements)).mapM f := by
  by_cases hrecord : recordNames.contains (baseName value) = true
  · exact exists_typeOfSubscript_record code elements hrecord
  rw [components_of_not_record hrecord]
  generalize baseName value = base at hrecord
  by_cases hwrapper : ∃ wrapper, elementNames.lookup base = some wrapper ∧ elements.length = 1
  · obtain ⟨wrapper, hlookup, hlength⟩ := hwrapper
    obtain ⟨e, rfl⟩ := List.length_eq_one_iff.mp hlength
    rw [Expr.subscriptParts_wrapper hlookup]
    refine ⟨_, constructs_element wrapper, fun f => ?_⟩
    rw [map_mapM_singleton]
    unfold typeOfSubscript
    rw [hlookup]
    rfl
  by_cases hmap : mapNames.contains base = true ∧ elements.length = 2
  · obtain ⟨hcontains, hlength⟩ := hmap
    obtain ⟨k, v, rfl⟩ := List.length_eq_two.mp hlength
    rw [Expr.subscriptParts_map hcontains]
    refine ⟨_, constructs_map, fun f => ?_⟩
    have htype : typeOfSubscript code base (readings f [k, v]) =
        (do return .map (← f k) (← f v)) := by
      unfold typeOfSubscript
      rw [hcontains]
      cases elementNames.lookup base with
      | none => rfl
      | some wrapper => rfl
    rw [htype, List.mapM_cons, List.mapM_cons, List.mapM_nil]
    cases f k with
    | error fault => rfl
    | ok a =>
      cases f v with
      | error fault => rfl
      | ok b => rfl
  have hwrapper' : ∀ wrapper, elementNames.lookup base = some wrapper → elements.length ≠ 1 :=
    fun wrapper hlookup hlength => hwrapper ⟨wrapper, hlookup, hlength⟩
  have hmap' : mapNames.contains base = true → elements.length ≠ 2 :=
    fun hcontains hlength => hmap ⟨hcontains, hlength⟩
  have htype : ∀ f, typeOfSubscript code base (readings f elements) = _ := fun f =>
    typeOfSubscript_other (by rwa [readings, List.length_map])
      (by rwa [readings, List.length_map]) hrecord
  simp only [htype, Expr.subscriptParts_other hwrapper' hmap', if_neg hrecord]
  split
  · exact exists_typeOfUnion_eq code elements
  · exact ⟨_, constructs_const (.basic code), fun _ => rfl⟩

/-! ## What annotations denote -/

/-- An annotation that is neither a name, a dotted name nor a literal denotes what is made of the
types of its components, whatever the module. -/
theorem exists_typeWith_eq {e : Expr} (hname : ∀ code id, e ≠ .name code id)
    (hmember : ∀ code value attr, e ≠ .member code value attr)
    (hliteral : ∀ code l, e ≠ .literal code l) :
    ∃ build, Constructs e.components.length build ∧
      ∀ (env : Environment) (ofText : List Char → Except LiteralFault TypeKey),
        env.typeWith ofText e = build <$> e.components.mapM (env.typeWith ofText) := by
  have hopaque : e.components = [] → (∀ (env : Environment) ofText,
      env.typeWith ofText e = .ok (.basic e.code)) →
      ∃ build, Constructs e.components.length build ∧
        ∀ (env : Environment) (ofText : List Char → Except LiteralFault TypeKey),
          env.typeWith ofText e = build <$> e.components.mapM (env.typeWith ofText) := by
    intro hnone htype
    refine ⟨_, by rw [hnone]; exact constructs_const (.basic e.code), fun env ofText => ?_⟩
    rw [htype, hnone]
    rfl
  cases e with
  | name code id => exact absurd rfl (hname code id)
  | member code value attr => exact absurd rfl (hmember code value attr)
  | literal code l => exact absurd rfl (hliteral code l)
  | subscript code value elements =>
    obtain ⟨build, hbuild, htype⟩ := exists_typeOfSubscript_eq code value elements
    refine ⟨build, hbuild, fun env ofText => ?_⟩
    rw [typeWith, readingsWith_eq_map]
    exact htype (env.typeWith ofText)
  | union code left right =>
    have hparts : Expr.components (.union code left right) =
        if isUnion left || isUnion right then [] else Expr.alternativeParts left right := rfl
    by_cases hnested : (isUnion left || isUnion right) = true
    · refine hopaque (by rw [hparts, if_pos hnested]) fun env ofText => ?_
      rw [typeWith, if_pos hnested]
      rfl
    · rw [hparts, if_neg hnested]
      obtain ⟨build, hbuild, htype⟩ := exists_typeOfAlternatives_eq code left right
      refine ⟨build, hbuild, fun env ofText => ?_⟩
      rw [typeWith, if_neg hnested]
      exact htype (env.typeWith ofText)
  | ellipsis | call | starred | tuple | list | other =>
    refine hopaque rfl fun env ofText => ?_
    rw [typeWith]
    · rfl
    all_goals simp

/-- What a literal denotes matters only for the literals in the annotation. -/
theorem typeWith_congr [Reader] {env : Environment} {f g : List Char → Except LiteralFault TypeKey}
    (e : Expr) (h : e.Holds fun l => ∀ text, Literal.value l.toList = .ok text → f text = g text) :
    env.typeWith f e = env.typeWith g e := by
  induction e using Expr.reading_induction with
  | name code id => rw [typeWith, typeWith]
  | member code value attr => rw [typeWith, typeWith]
  | literal code l _ =>
    have hl := h l (List.mem_singleton_self l)
    rw [typeWith, typeWith]
    cases hvalue : Literal.value l.toList with
    | error fault => rfl
    | ok text => exact hl text hvalue
  | parts e hname hmember hliteral ih =>
    obtain ⟨build, -, htype⟩ := exists_typeWith_eq hname hmember hliteral
    have hcomponents : e.components.mapM (env.typeWith f) = e.components.mapM (env.typeWith g) :=
      mapM_congr fun part hpart =>
        ih part hpart (h.of_mem_operands (Expr.mem_operands_of_mem_typeParts
          (Expr.mem_typeParts_iff.2 hpart)))
    rw [htype, htype, hcomponents]

/-- A text that is no annotation denotes itself, any other what it denotes as an annotation. -/
theorem typeOfText_eq [Reader] (env : Environment) (text : List Char) :
    env.typeOfText text =
      match Expr.read text with
      | .error .malformed => .ok (.basic (String.ofList text))
      | .error .brokenOff => .error .brokenOff
      | .ok e => env.typeOf e := by
  rw [typeOfText]
  cases he : Expr.read text with
  | error fault => cases fault <;> rfl
  | ok e =>
    -- The texts of the literals in it are shorter.
    refine typeWith_congr e fun l hl value hvalue => ?_
    have hvalueLength := Literal.length_value_lt hvalue
    have hliteral := Expr.length_le_of_mem_literals (Expr.ofText?_eq_some_iff.2 he) l hl
    rw [if_pos (by omega)]

/-- A literal denotes what its text denotes. -/
theorem typeOf_literal [Reader] (env : Environment) (code l : String) :
    env.typeOf (.literal code l) = (do
      let text ← Literal.value l.toList
      match Expr.read text with
      | .error .malformed => .ok (.basic (String.ofList text))
      | .error .brokenOff => .error .brokenOff
      | .ok e => env.typeOf e) := by
  rw [typeOf, typeWith]
  refine bind_congr fun text => ?_
  exact typeOfText_eq env text

/-- The type of an annotation that is neither a name, a dotted name nor a literal is made of the
types of its components, whatever the module. -/
theorem exists_typeOf_eq [Reader] {e : Expr} (hname : ∀ code id, e ≠ .name code id)
    (hmember : ∀ code value attr, e ≠ .member code value attr)
    (hliteral : ∀ code l, e ≠ .literal code l) :
    ∃ build, Constructs e.components.length build ∧
      ∀ env : Environment, env.typeOf e = build <$> e.components.mapM env.typeOf := by
  obtain ⟨build, hbuild, htype⟩ := exists_typeWith_eq hname hmember hliteral
  exact ⟨build, hbuild, fun env => htype env env.typeOfText⟩

/-- Where all names and dotted names denote the same, so do all annotations. -/
theorem typeOf_congr [Reader] {env₁ env₂ : Environment}
    (hname : ∀ id, env₁.typeOfName id = env₂.typeOfName id)
    (hmember : ∀ value attr, env₁.typeOfMember value attr = env₂.typeOfMember value attr)
    (e : Expr) : env₁.typeOf e = env₂.typeOf e := by
  induction e using Expr.reading_induction with
  | name code id => rw [typeOf, typeOf, typeWith, typeWith, hname]
  | member code value attr => rw [typeOf, typeOf, typeWith, typeWith, hmember]
  | literal code l ih =>
    rw [typeOf_literal, typeOf_literal]
    cases hvalue : Literal.value l.toList with
    | error fault => rfl
    | ok text =>
      dsimp only [Bind.bind, Except.bind]
      cases he : Expr.read text with
      | error fault => cases fault <;> rfl
      | ok e => exact ih text e hvalue (Expr.ofText?_eq_some_iff.2 he)
  | parts e hnamed hdotted hliteral ih =>
    obtain ⟨build, -, htype⟩ := exists_typeOf_eq hnamed hdotted hliteral
    rw [htype, htype, mapM_congr ih]

end Environment

end Wiring
