import Wiring.Declaration.Extraction
import Wiring.Proofs.Failure
import Wiring.Proofs.Source.Expression

/-!
# What is wrong with annotations

An annotation denotes a type unless one of the literals that are read for it denotes no text, or a
text on which reading breaks off (`Expr.HasFault`). Which literals these are is told without the
types: subscripts and alternatives read some of their parts (`Expr.typeParts`), and the text of a
literal is read as an annotation again, as deep as that goes (`Expr.Reads`).
`Environment.failsBy_typeOf` compares both, and `Declarations.failsBy_providersOf` does so for all
annotations of several modules: providers are extracted from them exactly if none has a fault.

A text in a literal is shorter than the literal and so than the text around it
(`Source.Expr.length_le_of_mem_literals`), which is what makes reading end.
-/

namespace Wiring

open Source (Expr Literal.value Literal.length_value_lt LiteralFault Reader)
open Environment (baseName isUnion)

namespace Source.Expr

/-! ## What is read -/

/-- The alternatives whose types count: that beside the absent value. -/
def alternativeParts (left right : Expr) : List Expr :=
  match left.isNone, right.isNone with
  | true, false => [right]
  | false, true => [left]
  | _, _ => []

/-- Those of a list that may hold two. -/
def unionParts : List Expr → List Expr
  | [left, right] => alternativeParts left right
  | _ => []

/-- The indices whose types count, by the name of the value that has them. Dots at the end of a
record are an index too, but have no type of their own. -/
def subscriptParts (base : String) (elements : List Expr) : List Expr :=
  if (elementNames.lookup base).isSome && elements.length == 1 then elements
  else if mapNames.contains base && elements.length == 2 then elements
  else if base == unionName then unionParts elements
  else if recordNames.contains base then elements
  else []

variable {base : String} {elements : List Expr}

/-- The only index of a wrapper counts. -/
theorem subscriptParts_wrapper {wrapper : String} {e : Expr}
    (h : elementNames.lookup base = some wrapper) : subscriptParts base [e] = [e] :=
  if_pos (by rw [h]; rfl)

/-- So do the two of a mapping. -/
theorem subscriptParts_map {k v : Expr} (h : mapNames.contains base = true) :
    subscriptParts base [k, v] = [k, v] := by
  unfold subscriptParts
  rw [if_neg (by simp), if_pos (by rw [h]; rfl)]

/-- For any other number of indices the name says something else, or nothing. -/
theorem subscriptParts_other
    (hwrapper : ∀ wrapper, elementNames.lookup base = some wrapper → elements.length ≠ 1)
    (hmap : mapNames.contains base = true → elements.length ≠ 2) :
    subscriptParts base elements =
      if base == unionName then unionParts elements
      else if recordNames.contains base then elements
      else [] := by
  unfold subscriptParts
  rw [if_neg ?single, if_neg ?pair]
  case single =>
    simp only [Bool.and_eq_true, beq_iff_eq]
    rintro ⟨hsome, hlength⟩
    obtain ⟨wrapper, hlookup⟩ := Option.isSome_iff_exists.mp hsome
    exact hwrapper wrapper hlookup hlength
  case pair =>
    simp only [Bool.and_eq_true, beq_iff_eq]
    rintro ⟨hcontains, hlength⟩
    exact hmap hcontains hlength

/-- All indices of a record count. -/
theorem subscriptParts_record (elements : List Expr) (h : recordNames.contains base = true) :
    subscriptParts base elements = elements := by
  have hunion : ∀ name ∈ recordNames, (name == unionName) = false := by decide
  unfold subscriptParts
  rw [hunion base (List.contains_iff_mem.mp h), h]
  simp

/-- The parts of an annotation whose types count. -/
def typeParts : Expr → List Expr
  | .subscript _ value elements => subscriptParts (baseName value) elements
  | .union _ left right => if isUnion left || isUnion right then [] else alternativeParts left right
  | _ => []

variable [Reader]

/-- The literal is read to find the type that the annotation denotes. -/
inductive Reads : Expr → String → Prop
  /-- The annotation is the literal. -/
  | self (code literal : String) : Reads (.literal code literal) literal
  /-- The annotation is a literal, and the other one is read for its text. -/
  | text {code literal l : String} {text : List Char} {e : Expr}
      (hvalue : Literal.value literal.toList = .ok text) (he : ofText? text = some e)
      (h : Reads e l) : Reads (.literal code literal) l
  /-- It is read for a part of the annotation. -/
  | part {e part : Expr} {l : String} (hpart : part ∈ e.typeParts) (h : Reads part l) : Reads e l

/-- The fault is that reading the text as an annotation breaks off. -/
def BreaksOff (text : List Char) (f : LiteralFault) : Prop :=
  read text = .error .brokenOff ∧ f = .brokenOff

/-- One of the literals that are read has the fault: it denotes no text, or one on which reading
breaks off. -/
def HasFault (e : Expr) (f : LiteralFault) : Prop :=
  ∃ l, e.Reads l ∧ (Literal.value l.toList = .error f ∨
    ∃ text, Literal.value l.toList = .ok text ∧ BreaksOff text f)

/-- A text has a fault if reading it breaks off, or if it is an annotation that has one. -/
def TextFault (text : List Char) (f : LiteralFault) : Prop :=
  BreaksOff text f ∨ ∃ e, ofText? text = some e ∧ e.HasFault f

/-- A literal has a fault if it denotes no text, or if the text has. -/
theorem hasFault_literal_iff {code literal : String} {f : LiteralFault} :
    (Expr.literal code literal).HasFault f ↔ Literal.value literal.toList = .error f ∨
      ∃ text, Literal.value literal.toList = .ok text ∧ TextFault text f := by
  constructor
  · rintro ⟨l, hreads, hl⟩
    cases hreads with
    | self => exact hl.imp_right fun ⟨text, hvalue, h⟩ => ⟨text, hvalue, Or.inl h⟩
    | text hvalue he h => exact Or.inr ⟨_, hvalue, Or.inr ⟨_, he, l, h, hl⟩⟩
    | part hpart => cases hpart
  · rintro (hl | ⟨text, hvalue, hbreaks | ⟨e, he, l, h, hl⟩⟩)
    · exact ⟨literal, .self code literal, Or.inl hl⟩
    · exact ⟨literal, .self code literal, Or.inr ⟨text, hvalue, hbreaks⟩⟩
    · exact ⟨l, .text hvalue he h, hl⟩

/-- Any other annotation has the faults of its parts. -/
theorem hasFault_iff {e : Expr} {f : LiteralFault}
    (he : ∀ code literal, e ≠ .literal code literal) :
    e.HasFault f ↔ ∃ part ∈ e.typeParts, part.HasFault f := by
  constructor
  · rintro ⟨l, hreads, hl⟩
    cases hreads with
    | self code => exact absurd rfl (he code l)
    | text => exact absurd rfl (he _ _)
    | part hpart h => exact ⟨_, hpart, l, h, hl⟩
  · rintro ⟨part, hpart, l, h, hl⟩
    exact ⟨l, .part hpart h, hl⟩

/-- Three dots have no faults. -/
theorem not_hasFault_ellipsis {code : String} {f : LiteralFault} :
    ¬ (Expr.ellipsis code).HasFault f := by
  rw [hasFault_iff (by rintro _ _ ⟨⟩)]
  rintro ⟨part, hpart, -⟩
  cases hpart

end Source.Expr

namespace Environment

variable {env : Environment} {code base : String}

/-- Readings are of the expressions that are read. -/
theorem map_fst_readingsWith (ofText : List Char → Except LiteralFault TypeKey) (es : List Expr) :
    (env.readingsWith ofText es).map (·.1) = es := by
  induction es with
  | nil => rw [readingsWith, List.map_nil]
  | cons e es ih => rw [readingsWith, List.map_cons, ih]

/-! ## How annotations fail -/

variable [Reader]

/-- What denotes a type without reading a literal has no faults. -/
theorem failsBy_pure {e : Expr} (he : ∀ code literal, e ≠ .literal code literal)
    (hparts : e.typeParts = []) (t : TypeKey) :
    FailsBy e.HasFault (pure t : Except LiteralFault TypeKey) :=
  (FailsBy.pure t).congr fun f => by simp [Expr.hasFault_iff he, hparts]

/-- Alternatives fail by the one that counts. -/
theorem failsBy_typeOfAlternatives {left right : Expr} {x y : Except LiteralFault TypeKey}
    (hx : FailsBy left.HasFault x) (hy : FailsBy right.HasFault y) :
    FailsBy (fun f => ∃ e ∈ Expr.alternativeParts left right, e.HasFault f)
      (typeOfAlternatives code (left, x) (right, y)) := by
  unfold typeOfAlternatives Expr.alternativeParts
  cases left.isNone <;> cases right.isNone
  · exact (FailsBy.pure _).congr fun f => by simp
  · exact (hx.map _).congr fun f => by simp
  · exact (hy.map _).congr fun f => by simp
  · exact (FailsBy.pure _).congr fun f => by simp

/-- Alternatives in brackets fail by the one that counts, if there are two. -/
theorem failsBy_union {elements : List Reading} (h : ∀ r ∈ elements, FailsBy r.1.HasFault r.2) :
    FailsBy (fun f => ∃ e ∈ Expr.unionParts (elements.map (·.1)), e.HasFault f)
      (match elements with
        | [left, right] => typeOfAlternatives code left right
        | _ => return .basic code) := by
  match elements, h with
  | [left, right], h => exact failsBy_typeOfAlternatives (h left (by simp)) (h right (by simp))
  | [], _ | [_], _ | _ :: _ :: _ :: _, _ =>
    exact (FailsBy.pure _).congr fun f => by simp [Expr.unionParts]

/-- A record fails by each of its fields. -/
theorem failsBy_record {elements : List Reading} (h : ∀ r ∈ elements, FailsBy r.1.HasFault r.2) :
    FailsBy (fun f => ∃ e ∈ elements.map (·.1), e.HasFault f)
      (match elements with
        | [e, (.ellipsis _, _)] => TypeKey.element "tuple" <$> e.2
        | _ => TypeKey.struct <$> elements.mapM (·.2)) := by
  split
  · rename_i r code x
    exact ((h r (by simp)).map _).congr fun f => by simp [Expr.not_hasFault_ellipsis]
  · exact ((FailsBy.mapM h).map _).congr fun f => by simp

/-- A value with indices fails by those that count. -/
theorem failsBy_typeOfSubscript {elements : List Reading}
    (h : ∀ r ∈ elements, FailsBy r.1.HasFault r.2) :
    FailsBy (fun f => ∃ e ∈ Expr.subscriptParts base (elements.map (·.1)), e.HasFault f)
      (typeOfSubscript code base elements) := by
  unfold typeOfSubscript
  -- The cases are those of the definition: wrappers, mappings, alternatives, records, the rest.
  split
  · rename_i wrapper r hlookup
    rw [List.map_singleton, Expr.subscriptParts_wrapper hlookup]
    exact ((h r (by simp)).map _).congr fun f => by simp
  split
  · rename_i k v hmap _
    rw [List.map_cons, List.map_singleton, Expr.subscriptParts_map hmap]
    exact ((h k (by simp)).or fun _ => ((h v (by simp)).map _)).congr fun f => by simp
  rename_i hmap hwrapper
  rw [Expr.subscriptParts_other ?single ?pair]
  case single =>
    intro wrapper hlookup hlength
    rw [List.length_map, List.length_eq_one_iff] at hlength
    obtain ⟨r, hr⟩ := hlength
    exact hwrapper wrapper r hlookup hr
  case pair =>
    intro hcontains hlength
    rw [List.length_map, List.length_eq_two] at hlength
    obtain ⟨k, v, hkv⟩ := hlength
    exact hmap k v hcontains hkv
  split
  · exact failsBy_union h
  split
  · exact failsBy_record h
  · exact (FailsBy.pure _).congr fun f => by simp

/-- The text of the literal, if it denotes one, fails by its faults. -/
def FailsAt (ofText : List Char → Except LiteralFault TypeKey) (literal : String) : Prop :=
  ∀ text, Literal.value literal.toList = .ok text → FailsBy (Expr.TextFault text) (ofText text)

mutual

/-- An expression fails by its faults, if the texts of its literals do. -/
theorem failsBy_typeWith {ofText : List Char → Except LiteralFault TypeKey} :
    ∀ e : Expr, e.Holds (FailsAt ofText) → FailsBy e.HasFault (env.typeWith ofText e)
  | .name _ id, _ => by
    rw [typeWith]
    exact failsBy_pure (by simp) rfl _
  | .member _ value attr, _ => by
    rw [typeWith]
    exact failsBy_pure (by simp) rfl _
  | .literal _ literal, h => by
    rw [typeWith]
    have htext := h literal (List.mem_singleton_self literal)
    exact ((FailsBy.refl _).bind htext).congr fun f => Expr.hasFault_literal_iff.symm
  | .subscript _ value elements, h => by
    rw [typeWith]
    have helements : ∀ e ∈ elements, e.Holds (FailsAt ofText) := by
      intro e he l hl
      refine h l (List.mem_append_right _ ?_)
      rw [Expr.literalsOf_eq_flatMap]
      exact List.mem_flatMap_of_mem he hl
    refine (failsBy_typeOfSubscript (failsBy_readingsWith elements helements)).congr fun f => ?_
    rw [map_fst_readingsWith, Expr.hasFault_iff (by simp), Expr.typeParts]
  | .union _ left right, h => by
    rw [typeWith]
    have hleft := failsBy_typeWith left fun l hl => h l (List.mem_append_left _ hl)
    have hright := failsBy_typeWith right fun l hl => h l (List.mem_append_right _ hl)
    split
    · rename_i hnested
      exact failsBy_pure (by simp) (by rw [Expr.typeParts, if_pos hnested]) _
    · rename_i hflat
      refine (failsBy_typeOfAlternatives hleft hright).congr fun f => ?_
      rw [Expr.hasFault_iff (by simp), Expr.typeParts, if_neg hflat]
  | .ellipsis _, _ | .call _ _, _ | .starred _ _, _ | .tuple _ _, _ | .list _ _, _
  | .other _, _ => by
    rw [typeWith]
    · exact failsBy_pure (by simp) rfl _
    all_goals simp

/-- So do all expressions of a list. -/
theorem failsBy_readingsWith {ofText : List Char → Except LiteralFault TypeKey} :
    ∀ es : List Expr, (∀ e ∈ es, e.Holds (FailsAt ofText)) →
      ∀ r ∈ env.readingsWith ofText es, FailsBy r.1.HasFault r.2
  | [], _, r, hr => by
    rw [readingsWith] at hr
    cases hr
  | e :: es, h, r, hr => by
    rw [readingsWith] at hr
    rcases List.mem_cons.mp hr with rfl | hr
    · exact failsBy_typeWith e (h e List.mem_cons_self)
    · exact failsBy_readingsWith es (fun e' he' => h e' (List.mem_cons_of_mem e he')) r hr

end

/-- A text fails by its faults. -/
theorem failsBy_typeOfText (env : Environment) (text : List Char) :
    FailsBy (Expr.TextFault text) (env.typeOfText text) := by
  -- The induction is on the length of the text, which bounds that of the texts in it.
  induction hlength : text.length using Nat.strongRecOn generalizing text with
  | ind n ih =>
    rw [typeOfText]
    split
    · rename_i hread
      exact (FailsBy.pure _).congr fun f => by
        simp [Expr.TextFault, Expr.BreaksOff, Expr.ofText?_eq_some_iff, hread]
    · rename_i hread
      exact (FailsBy.refl (.error LiteralFault.brokenOff)).congr fun f => by
        simp [Expr.TextFault, Expr.BreaksOff, Expr.ofText?_eq_some_iff, hread, eq_comm (b := f)]
    · rename_i e hread
      refine (failsBy_typeWith e fun l hl value hvalue => ?_).congr fun f => ?_
      · have hvalueLength := Literal.length_value_lt hvalue
        have hliteral := Expr.length_le_of_mem_literals (Expr.ofText?_eq_some_iff.mpr hread) l hl
        rw [if_pos (by omega)]
        exact ih value.length (by omega) value rfl
      · simp [Expr.TextFault, Expr.BreaksOff, Expr.ofText?_eq_some_iff, hread]

/-- An expression fails by its faults. -/
theorem failsBy_typeOf (env : Environment) (e : Expr) : FailsBy e.HasFault (env.typeOf e) :=
  failsBy_typeWith e fun _ _ text _ => failsBy_typeOfText env text

/-- An annotation fails by its faults, if there is one. -/
theorem failsBy_typeOf? (env : Environment) (declared : Option Expr) :
    FailsBy (fun f => ∃ e ∈ declared, e.HasFault f) (env.typeOf? declared) := by
  cases declared with
  | none => exact (FailsBy.pure _).congr fun f => by simp
  | some e => exact (failsBy_typeOf env e).congr fun f => by simp

/-- Declared results fail by the faults of their annotation, if there is one. -/
theorem failsBy_resultsOf (env : Environment) (declared : Option Expr) :
    FailsBy (fun f => ∃ e ∈ declared, e.HasFault f) (env.resultsOf declared) := by
  have hsingle : ∀ e, FailsBy (fun f => ∃ e' ∈ some e, e'.HasFault f)
      (do return [← env.typeOf e]) := fun e =>
    ((failsBy_typeOf env e).map _).congr fun f => by simp
  cases declared with
  | none => exact (FailsBy.pure []).congr fun f => by simp
  | some e =>
    unfold resultsOf
    dsimp only
    split
    · rename_i habsent
      cases e with
      | name code id =>
        have hnone : ∀ f, ¬ (Expr.name code id).HasFault f :=
          fun f => by simp [Expr.hasFault_iff, Expr.typeParts]
        exact (FailsBy.pure []).congr fun f => by simp [hnone]
      | _ => cases habsent
    split
    · rename_i value elements _
      split
      · rename_i hrecord
        have hparts := Expr.subscriptParts_record elements (Bool.and_eq_true_iff.mp hrecord).1
        refine (FailsBy.mapM fun e _ => failsBy_typeOf env e).congr fun f => ?_
        simp [Expr.hasFault_iff, Expr.typeParts, hparts]
      · exact hsingle _
    · exact hsingle _

end Environment

/-! ## How extraction fails -/

/-- The annotations of a declaration that are read. A method has its instance as first parameter,
whose annotation does not count. -/
def ProviderDecl.annotations (decl : ProviderDecl) : List Expr :=
  (decl.head.parameters.drop (if !decl.isStatic && decl.owner.isSome then 1 else 0)).filterMap id ++
    decl.head.returns.toList

/-- The annotations and bases of a module that are read. -/
def Declarations.annotations (d : Declarations) : List Expr :=
  d.classes.flatMap (·.bases) ++ d.providers.flatMap (·.annotations)

variable [Reader]

/-- A declaration fails by the faults of its annotations. -/
theorem Environment.failsBy_provider (env : Environment) (decl : ProviderDecl) :
    FailsBy (fun f => ∃ e ∈ decl.annotations, e.HasFault f) (env.provider decl) := by
  unfold Environment.provider
  have hreceiver (type : String × String → TypeKey) :
      (if decl.isStatic then none else decl.owner.map type).isSome =
        (!decl.isStatic && decl.owner.isSome) := by
    cases decl.isStatic <;> simp
  dsimp only
  rw [hreceiver]
  refine ((FailsBy.mapM fun declared _ => failsBy_typeOf? env declared).or fun params =>
    (failsBy_resultsOf env decl.head.returns).map _).congr fun f => ?_
  simp only [ProviderDecl.annotations, List.mem_append, List.mem_filterMap, Option.mem_toList,
    Option.mem_def, or_and_right, exists_or, id]
  -- The annotations of parameters are those that are there.
  exact or_congr (by grind) Iff.rfl

/-- The classes of several modules fail by the faults of their bases. -/
theorem Declarations.failsBy_hierarchy (modules : List Declarations) :
    FailsBy (fun f => ∃ d ∈ modules, ∃ decl ∈ d.classes, ∃ e ∈ decl.bases, e.HasFault f)
      (Declarations.hierarchy modules) := by
  refine FailsBy.foldlM (fun d _ h => FailsBy.foldlM (fun decl _ h => ?_) h) _
  exact ((FailsBy.mapM fun e _ => Environment.failsBy_typeOf _ e).map _).map _

/-- The providers of several modules fail by the faults of all their annotations. -/
theorem Declarations.failsBy_providersOf (modules : List Declarations) :
    FailsBy (fun f => ∃ d ∈ modules, ∃ e ∈ d.annotations, e.HasFault f)
      (Declarations.providersOf modules) := by
  unfold Declarations.providersOf
  refine (((failsBy_hierarchy modules).map _).or fun known =>
    (FailsBy.mapM fun d _ => FailsBy.mapM fun decl _ =>
      Environment.failsBy_provider _ decl).map _).congr fun f => ?_
  simp only [annotations, List.mem_append, List.mem_flatMap, or_and_right, exists_or, and_or_left]
  exact or_congr (by grind) (by grind)

end Wiring
