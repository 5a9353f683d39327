import Wiring.Proofs.Declaration.Collection
import Wiring.Proofs.Declaration.Reading

/-!
# Classes of one name in different modules

An annotation can stand in two modules. Resolving it fails in both with the same fault or in
neither, and then the two types are equal exactly if all names that are looked up for it denote
equal types (`compares_typeOf`). So if each module declares a class of a name that is looked up, the
annotation denotes different types (`typeOf_ne_of_mentions`), however deep the name stands in it.

A name that stands in an annotation need not be looked up. More than two alternatives, a value with
indices that is no known wrapper, a list or a call are known by their spelling, whatever their names
mean; and the names of the error channel mean the same everywhere (`typeOf_eq_of_spelling`).
-/

namespace Wiring

open Source (Expr FunctionHead Stmt Literal.value LiteralFault Reader)

namespace Source.Expr

variable [Reader]

/-- The name or dotted name is looked up to find the type that the annotation denotes. -/
inductive Mentions : Expr → Expr → Prop
  /-- The annotation is the name. -/
  | name (code id : String) : Mentions (.name code id) (.name code id)
  /-- The annotation is the dotted name. -/
  | member (code : String) (value : Expr) (attr : String) :
    Mentions (.member code value attr) (.member code value attr)
  /-- The annotation is a literal, and the name is looked up for its text. -/
  | text {code l : String} {text : List Char} {e leaf : Expr}
      (hvalue : Literal.value l.toList = .ok text) (he : ofText? text = some e)
      (h : Mentions e leaf) : Mentions (.literal code l) leaf
  /-- It is looked up for a part of the annotation. -/
  | part {e part leaf : Expr} (hpart : part ∈ e.typeParts) (h : Mentions part leaf) :
    Mentions e leaf

/-- A name is looked up for itself alone. -/
theorem mentions_name_iff {code id : String} {leaf : Expr} :
    (name code id).Mentions leaf ↔ leaf = name code id := by
  constructor
  · intro h
    cases h with
    | name => rfl
    | part hpart => cases hpart
  · rintro rfl
    exact .name code id

/-- So is a dotted name. -/
theorem mentions_member_iff {code attr : String} {value leaf : Expr} :
    (member code value attr).Mentions leaf ↔ leaf = member code value attr := by
  constructor
  · intro h
    cases h with
    | member => rfl
    | part hpart => cases hpart
  · rintro rfl
    exact .member code value attr

/-- For a literal the names in its text are looked up. -/
theorem mentions_literal_iff {code l : String} {leaf : Expr} :
    (literal code l).Mentions leaf ↔
      ∃ text e, Literal.value l.toList = .ok text ∧ ofText? text = some e ∧ e.Mentions leaf := by
  constructor
  · intro h
    cases h with
    | text hvalue he h => exact ⟨_, _, hvalue, he, h⟩
    | part hpart => cases hpart
  · rintro ⟨text, e, hvalue, he, h⟩
    exact .text hvalue he h

/-- For any other annotation the names in its components are looked up. -/
theorem mentions_iff {e leaf : Expr} (hname : ∀ code id, e ≠ .name code id)
    (hmember : ∀ code value attr, e ≠ .member code value attr)
    (hliteral : ∀ code l, e ≠ .literal code l) :
    e.Mentions leaf ↔ ∃ part ∈ e.components, part.Mentions leaf := by
  constructor
  · intro h
    cases h with
    | name code id => exact absurd rfl (hname code id)
    | member code value attr => exact absurd rfl (hmember code value attr)
    | text => exact absurd rfl (hliteral _ _)
    | @part _ part _ hpart h =>
      rcases mem_typeParts_iff.1 hpart with hcomponent | ⟨dots, rfl⟩
      · exact ⟨part, hcomponent, h⟩
      · -- Dots mention nothing.
        cases h with
        | part hpart => cases hpart
  · rintro ⟨part, hpart, h⟩
    exact .part (mem_typeParts_iff.2 hpart) h

end Source.Expr

/-! ## Comparing two modules -/

/-- Both fail with the same fault, or both have types, which are equal exactly if the condition
holds. -/
inductive Compares (P : Prop) : Except LiteralFault TypeKey → Except LiteralFault TypeKey → Prop
  /-- Both fail. -/
  | error (fault : LiteralFault) : Compares P (.error fault) (.error fault)
  /-- Both have types. -/
  | ok {a b : TypeKey} (h : (a == b) = true ↔ P) : Compares P (.ok a) (.ok b)

namespace Compares

variable {P Q : Prop} {x y : Except LiteralFault TypeKey}

/-- The condition can be told in another way. -/
theorem congr (h : Compares P x y) (hiff : P ↔ Q) : Compares Q x y := by
  cases h with
  | error fault => exact .error fault
  | ok h => exact .ok (h.trans hiff)

variable {parts : List Expr} {f g : Expr → Except LiteralFault TypeKey} {C : Expr → Prop}

/-- Rows of steps fail with the same fault, or have types that are equal one by one exactly if the
conditions of all steps hold. -/
theorem mapM (h : ∀ part ∈ parts, Compares (C part) (f part) (g part)) :
    (∃ fault, parts.mapM f = .error fault ∧ parts.mapM g = .error fault) ∨
      ∃ as bs, parts.mapM f = .ok as ∧ parts.mapM g = .ok bs ∧
        as.length = parts.length ∧ bs.length = parts.length ∧
        (List.Forall₂ (fun a b => (a == b) = true) as bs ↔ ∀ part ∈ parts, C part) := by
  induction parts with
  | nil =>
    exact Or.inr ⟨[], [], rfl, rfl, rfl, rfl, iff_of_true List.Forall₂.nil (by simp)⟩
  | cons part parts ih =>
    have hpart := h part List.mem_cons_self
    rw [List.mapM_cons, List.mapM_cons]
    generalize f part = x at hpart
    generalize g part = y at hpart
    cases hpart with
    | error fault => exact Or.inl ⟨fault, rfl, rfl⟩
    | @ok a b hab =>
      rcases ih fun part' hpart' => h part' (List.mem_cons_of_mem part hpart') with
        ⟨fault, hf, hg⟩ | ⟨as, bs, hf, hg, has, hbs, hall⟩
      · exact Or.inl ⟨fault, by rw [hf]; rfl, by rw [hg]; rfl⟩
      · refine Or.inr ⟨a :: as, b :: bs, by rw [hf]; rfl, by rw [hg]; rfl, ?_, ?_, ?_⟩
        · rw [List.length_cons, has, List.length_cons]
        · rw [List.length_cons, hbs, List.length_cons]
        · rw [List.forall₂_cons, List.forall_mem_cons, hab, hall]

/-- What is made of types in a way that can be undone is equal exactly if these are. -/
theorem build {build : List TypeKey → TypeKey} (hbuild : Constructs parts.length build)
    (h : ∀ part ∈ parts, Compares (C part) (f part) (g part)) :
    Compares (∀ part ∈ parts, C part) (build <$> parts.mapM f) (build <$> parts.mapM g) := by
  rcases mapM h with ⟨fault, hf, hg⟩ | ⟨as, bs, hf, hg, has, hbs, hall⟩
  · rw [hf, hg]
    exact .error fault
  · rw [hf, hg]
    exact .ok ((hbuild as bs has hbs).trans hall)

end Compares

namespace Environment

variable {env₁ env₂ : Environment} {leaf : Expr}

/-- The type that a name or dotted name denotes. -/
def typeOfLeaf (env : Environment) : Expr → TypeKey
  | .name _ id => env.typeOfName id
  | .member _ value attr => env.typeOfMember value attr
  | e => .basic e.code

/-- The name denotes equal types in both modules. -/
def AgreeOn (env₁ env₂ : Environment) (leaf : Expr) : Prop :=
  (env₁.typeOfLeaf leaf == env₂.typeOfLeaf leaf) = true

/-- In two modules an annotation fails with the same fault, or denotes types that are equal exactly
if all names that are looked up for it denote equal types. -/
theorem compares_typeOf [Reader] (env₁ env₂ : Environment) (e : Expr) :
    Compares (∀ leaf, e.Mentions leaf → env₁.AgreeOn env₂ leaf) (env₁.typeOf e)
      (env₂.typeOf e) := by
  induction e using Expr.reading_induction with
  | name code id =>
    rw [typeOf, typeOf, typeWith, typeWith]
    exact .ok (by simp [Expr.mentions_name_iff, AgreeOn, typeOfLeaf])
  | member code value attr =>
    rw [typeOf, typeOf, typeWith, typeWith]
    exact .ok (by simp [Expr.mentions_member_iff, AgreeOn, typeOfLeaf])
  | literal code l ih =>
    rw [typeOf_literal, typeOf_literal]
    cases hvalue : Literal.value l.toList with
    | error fault => exact .error fault
    | ok text =>
      dsimp only [Bind.bind, Except.bind]
      cases he : Expr.read text with
      | error fault =>
        cases fault with
        | brokenOff => exact .error .brokenOff
        | malformed =>
          -- The text denotes itself, and nothing is looked up.
          refine .ok (iff_of_true (BEq.refl _) fun leaf hleaf => ?_)
          obtain ⟨text', e, hvalue', he', -⟩ := Expr.mentions_literal_iff.mp hleaf
          rw [hvalue] at hvalue'
          obtain rfl := Except.ok.inj hvalue'
          rw [Expr.ofText?_eq_some_iff, he] at he'
          cases he'
      | ok e =>
        have hread := Expr.ofText?_eq_some_iff.2 he
        refine (ih text e hvalue hread).congr (forall_congr' fun leaf => imp_congr ?_ Iff.rfl)
        rw [Expr.mentions_literal_iff]
        constructor
        · intro h
          exact ⟨text, e, hvalue, hread, h⟩
        · rintro ⟨text', e', hvalue', he', h⟩
          rw [hvalue] at hvalue'
          obtain rfl := Except.ok.inj hvalue'
          rw [hread] at he'
          rwa [Option.some.inj he']
  | parts e hname hmember hliteral ih =>
    obtain ⟨build, hbuild, htype⟩ := exists_typeOf_eq hname hmember hliteral
    rw [htype, htype]
    refine (Compares.build hbuild ih).congr ?_
    constructor
    · intro h leaf hleaf
      obtain ⟨part, hpart, hmentions⟩ := (Expr.mentions_iff hname hmember hliteral).mp hleaf
      exact h part hpart leaf hmentions
    · intro h part hpart leaf hmentions
      exact h leaf ((Expr.mentions_iff hname hmember hliteral).mpr ⟨part, hpart, hmentions⟩)

/-- The name of a class of the module that is not one of the error channel denotes the class. -/
theorem typeOfName_of_declaresClass {env : Environment} {C : String} (herror : C ∉ errorNames)
    (h : env.declaresClass C = true) :
    env.typeOfName C = env.named C env.declarations.moduleName := by
  unfold typeOfName
  rw [if_neg (by rwa [List.contains_iff_mem]), if_pos h]

/-- Classes of different scopes are different, whatever is known of their methods. -/
theorem named_ne {C scope₁ scope₂ : String} (hne : scope₁ ≠ scope₂) :
    (env₁.named C scope₁ == env₂.named C scope₂) = false := by
  rw [Bool.eq_false_iff]
  intro heq
  have hbare := TypeKey.beq_iff_bare_eq.mp heq
  exact hne (congrArg TypeKey.scope hbare)

end Environment

/-! ## Classes of one name -/

/-- If two modules of different names each define a class of one name, outside of classes and
functions, an annotation for which this name is looked up denotes different types in them, or fails
in both with the same fault. -/
theorem typeOf_ne_of_mentions [Reader] {m₁ m₂ C code : String} {e : Expr} (hne : m₁ ≠ m₂)
    (herror : C ∉ errorNames) {bases₁ bases₂ : List Expr} {body₁ body₂ stmts₁ stmts₂ : List Stmt}
    (h₁ : AtModuleLevel (.classDef C bases₁ body₁) stmts₁)
    (h₂ : AtModuleLevel (.classDef C bases₂ body₂) stmts₂) (he : e.Mentions (.name code C))
    (path₁ path₂ marker : String) (known : MethodSets) :
    (∃ fault,
      Environment.typeOf ⟨.collect m₁ path₁ marker stmts₁, known⟩ e = .error fault ∧
      Environment.typeOf ⟨.collect m₂ path₂ marker stmts₂, known⟩ e = .error fault) ∨
    ∃ a b,
      Environment.typeOf ⟨.collect m₁ path₁ marker stmts₁, known⟩ e = .ok a ∧
      Environment.typeOf ⟨.collect m₂ path₂ marker stmts₂, known⟩ e = .ok b ∧ (a == b) = false := by
  have hclass₁ := Environment.declaresClass_of_atModuleLevel h₁ m₁ path₁ marker known
  have hclass₂ := Environment.declaresClass_of_atModuleLevel h₂ m₂ path₂ marker known
  have hcompares := Environment.compares_typeOf ⟨.collect m₁ path₁ marker stmts₁, known⟩
    ⟨.collect m₂ path₂ marker stmts₂, known⟩ e
  generalize Environment.typeOf ⟨.collect m₁ path₁ marker stmts₁, known⟩ e = x at hcompares
  generalize Environment.typeOf ⟨.collect m₂ path₂ marker stmts₂, known⟩ e = y at hcompares
  cases hcompares with
  | error fault => exact Or.inl ⟨fault, rfl, rfl⟩
  | @ok a b hiff =>
    refine Or.inr ⟨a, b, rfl, rfl, Bool.eq_false_iff.mpr fun hab => ?_⟩
    -- Equal types would need the name to denote one type in both modules.
    have hagree : (Environment.typeOfName _ C == Environment.typeOfName _ C) = true :=
      hiff.mp hab _ he
    rw [Environment.typeOfName_of_declaresClass herror hclass₁,
      Environment.typeOfName_of_declaresClass herror hclass₂, Declarations.moduleName_collect,
      Declarations.moduleName_collect, Environment.named_ne hne] at hagree
    cases hagree

/-- A module that defines a class `Config`. -/
def configModule : List Stmt := [.classDef "Config" [] []]

/-- A mapping whose values are written as a literal with the name of the class. -/
def configsByName : Expr :=
  .subscript "dict[str, 'Config']" (.name "dict" "dict")
    [.name "str" "str", .literal "'Config'" "'Config'"]

/-- For the mapping the name in the literal is looked up. -/
theorem mentions_configsByName : ∃ code, configsByName.Mentions (.name code "Config") := by
  have hvalue : (Literal.value "'Config'".toList).toOption = some "Config".toList := by
    decide +kernel
  have hname : (Expr.ofText? "Config".toList).any
      (fun e => e.isBareName && FunctionHead.decoratorName? e == some "Config") = true := by
    decide +kernel
  obtain ⟨e, he, hid⟩ := (Option.any_eq_true _ _).mp hname
  cases e with
  | name code id =>
    obtain rfl : id = "Config" := Option.some.inj (eq_of_beq (Bool.and_eq_true_iff.mp hid).2)
    cases hresult : Literal.value "'Config'".toList with
    | error fault =>
      rw [hresult] at hvalue
      cases hvalue
    | ok text =>
      rw [hresult] at hvalue
      obtain rfl := Option.some.inj hvalue
      have hpart : Expr.literal "'Config'" "'Config'" ∈ configsByName.typeParts :=
        List.mem_cons_of_mem _ List.mem_cons_self
      exact ⟨code, .part hpart (.text hresult he (.name code "Config"))⟩
  | _ => cases hid

/-- It denotes different types in the modules `a` and `b`. -/
theorem typeOf_ne_of_mentions_config :
    (∃ fault,
      Environment.typeOf ⟨.collect "a" "a.py" "provider" configModule, .empty⟩ configsByName =
        .error fault ∧
      Environment.typeOf ⟨.collect "b" "b.py" "provider" configModule, .empty⟩ configsByName =
        .error fault) ∨
    ∃ a b,
      Environment.typeOf ⟨.collect "a" "a.py" "provider" configModule, .empty⟩ configsByName =
        .ok a ∧
      Environment.typeOf ⟨.collect "b" "b.py" "provider" configModule, .empty⟩ configsByName =
        .ok b ∧ (a == b) = false := by
  have hlevel : AtModuleLevel (.classDef "Config" [] []) configModule :=
    .here (List.mem_singleton_self _)
  obtain ⟨code, hmentions⟩ := mentions_configsByName
  exact typeOf_ne_of_mentions (by decide) (by decide) hlevel hlevel hmentions "a.py" "b.py"
    "provider" .empty

/-- Three alternatives, one of them the class. -/
def configOrValue : Expr :=
  .union "Config | int | str"
    (.union "Config | int" (.name "Config" "Config") (.name "int" "int")) (.name "str" "str")

/-- A module that defines a class with the name of the error channel. -/
def exceptionModule : List Stmt := [.classDef "Exception" [] []]

/-- Three alternatives are known by their spelling, so they denote one type in both modules, though
one alternative is the class of either. The same holds of the name of the error channel. -/
theorem typeOf_eq_of_spelling :
    AtModuleLevel (.classDef "Config" [] []) configModule ∧
    Environment.typeOf ⟨.collect "a" "a.py" "provider" configModule, .empty⟩ configOrValue =
      .ok (.basic "Config | int | str") ∧
    Environment.typeOf ⟨.collect "b" "b.py" "provider" configModule, .empty⟩ configOrValue =
      .ok (.basic "Config | int | str") ∧
    AtModuleLevel (.classDef "Exception" [] []) exceptionModule ∧
    Environment.typeOf ⟨.collect "a" "a.py" "provider" exceptionModule, .empty⟩
      (.name "Exception" "Exception") = .ok .error ∧
    Environment.typeOf ⟨.collect "b" "b.py" "provider" exceptionModule, .empty⟩
      (.name "Exception" "Exception") = .ok .error := by
  refine ⟨.here (List.mem_singleton_self _), ?_, ?_, .here (List.mem_singleton_self _), ?_, ?_⟩
  all_goals
    rw [Environment.typeOf]
    rfl

end Wiring
