import Mathlib
import Wiring.Proofs.Declaration.Inheritance
import Wiring.Proofs.Declaration.Scope
import Wiring.Proofs.Project.Keys
import Wiring.Proofs.Project.Reference

/-!
# Dotted names of classes within classes

A class that stands within others is recorded in the scope that its module and the classes around it
make (`recordedType`). Another module that imports the outermost of these classes, or the module,
and goes on from there with dots, denotes the type that is recorded (`Locates.typeOf_extends`).

The module itself has no import to start from. The first part of the dotted name is looked up among
the imports alone, not among the classes of the module, and then stands for itself. So the scope
lacks the name of the module, and the dotted name denotes what is recorded only if the module has no
name or the class stands within no other (`typeOf_classPath`).
-/

namespace Wiring

open Source (Expr ImportedName Reader Stmt)
open Wiring.Path

variable {parts names outer rest front front' back : List String}
  {text moduleName importer filePath marker head name X : String} {i : Import}
  {stmts body : List Stmt} {bases : List Expr} {known : MethodSets} {env : Environment}
  {e e₀ : Expr} {modules : List Declarations}

/-! ## Scopes -/

/-- Parts that read the same can be exchanged before others. -/
theorem intercalate_append_congr (hfront : front ≠ []) (hfront' : front' ≠ [])
    (h : ".".intercalate front = ".".intercalate front') :
    ".".intercalate (front ++ back) = ".".intercalate (front' ++ back) := by
  by_cases hback : back = []
  · rw [hback, List.append_nil, List.append_nil, h]
  · rw [String.intercalate_append_of_ne_nil hfront hback,
      String.intercalate_append_of_ne_nil hfront' hback, h]

/-- The name of a module makes a difference before the names of classes, unless it is empty. -/
theorem dotted_cons_eq_iff (hne : outer ≠ []) (houter : ∀ n ∈ outer, IsName n) :
    dotted (moduleName :: outer) = ".".intercalate outer ↔ moduleName = "" := by
  constructor
  · intro h
    by_contra hmodule
    have hscope : dotted (moduleName :: outer) = moduleName ++ "." ++ ".".intercalate outer := by
      have hparts : ∀ p ∈ moduleName :: outer, p ≠ "" :=
        List.forall_mem_cons.mpr ⟨hmodule, fun n hn => (houter n hn).1⟩
      calc dotted (moduleName :: outer) = ".".intercalate ([moduleName] ++ outer) :=
            dotted_eq_intercalate hparts
        _ = moduleName ++ "." ++ ".".intercalate outer := by
            rw [String.intercalate_append_of_ne_nil (List.cons_ne_nil _ _) hne,
              String.intercalate_singleton]
    -- The scope with the name of the module is longer.
    have hlength := congrArg String.length (hscope.symm.trans h)
    rw [String.length_append, String.length_append] at hlength
    have hdot : ".".length = 1 := rfl
    omega
  · rintro rfl
    have hempty : ∀ n ∈ ([] : List String), IsName n := by simp
    exact dotted_cons_intercalate hempty houter

/-- The type of the class that a module declares within others, as it is recorded. -/
def recordedType (known : MethodSets) (moduleName : String) (outer : List String)
    (name : String) : TypeKey :=
  .named name (dotted (moduleName :: outer))
    ((known.find? (dotted (moduleName :: outer), name)).getD [])

/-- A class of the same name has the recorded type exactly if it has the recorded scope. -/
theorem named_eq_recordedType_iff {d : Declarations} {scope : String} :
    Environment.named ⟨d, known⟩ name scope = recordedType known moduleName outer name ↔
      scope = dotted (moduleName :: outer) := by
  constructor
  · intro h
    exact congrArg TypeKey.scope h
  · rintro rfl
    rfl

/-- No other type compares equal to it. -/
theorem named_beq_recordedType_iff {d : Declarations} {scope : String} :
    (Environment.named ⟨d, known⟩ name scope == recordedType known moduleName outer name) = true ↔
      scope = dotted (moduleName :: outer) := by
  constructor
  · intro h
    by_contra hne
    have hdiffers : (Environment.named ⟨d, known⟩ name scope ==
        Environment.named ⟨d, known⟩ name (dotted (moduleName :: outer))) = false :=
      Environment.named_ne hne
    exact Bool.false_ne_true (hdiffers.symm.trans h)
  · rintro rfl
    exact BEq.refl _

/-! ## Dotted names in other modules -/

/-- The expression is a member of a member and so on of the first one, by the given names. -/
inductive Extends (e₀ : Expr) : List String → Expr → Prop where
  /-- It is the first one. -/
  | refl : Extends e₀ [] e₀
  /-- It is a member of one that is. -/
  | member {names : List String} {value : Expr} (code attr : String) (h : Extends e₀ names value) :
    Extends e₀ (names ++ [attr]) (.member code value attr)

/-- Members of a dotted name are dotted names. -/
theorem Extends.spells (h : Extends e₀ names e) (he₀ : Spells e₀ parts) :
    Spells e (parts ++ names) := by
  induction h with
  | refl => rwa [List.append_nil]
  | member code attr _ ih =>
    rw [← List.append_assoc]
    exact .member code attr ih

/-- How an expression leads to the class `X` of the module with the given parts. -/
inductive Locates (env : Environment) (parts : List String) (X : String) (e₀ : Expr) : Prop where
  /-- It is a name that is bound to the class and to nothing else. -/
  | name {x : String} (he₀ : Spells e₀ [x]) (hx : IsName x) (herror : x ∉ errorNames)
    (hclass : env.declaresClass x = false)
    (hnone : env.declarations.moduleAliases.find? x = none)
    (hfind : env.declarations.importedNames.find? x = some (".".intercalate parts, X))
  /-- It is a member of a dotted name that leads to the module when its first part is expanded. -/
  | member (first : String) (others : List String) (he₀ : Spells e₀ (first :: others ++ [X]))
    (hnames : ∀ s ∈ first :: others, IsName s) (hne : parts ≠ [])
    (hscope : ".".intercalate (env.expandHead first :: others) = ".".intercalate parts)

/-- A name that is imported along a way that leads to the module leads to the class. -/
theorem locates_of_name {j : FromImport} (hleads : Leads importer j.dots j.path parts)
    (hbinds : (Import.name j).Binds importer stmts) (hlocal : IsName j.localName)
    (herror : j.localName ∉ errorNames) (he₀ : Spells e₀ [j.localName]) :
    Locates ⟨.collect importer filePath marker stmts, known⟩ parts j.imported.name e₀ :=
  .name he₀ hlocal herror hbinds.declaresClass_eq_false hbinds.find?_moduleAliases_eq_none
    (hleads.find?_importedNames hbinds filePath marker)

/-- So does a member of the module that is imported out of the package around it. -/
theorem locates_of_member {j : FromImport} {above : List String}
    (hleads : Leads importer j.dots j.path above)
    (hbinds : (Import.name j).Binds importer stmts) (hlocal : IsName j.localName)
    (habove : ∀ s ∈ above, IsName s) (he₀ : Spells e₀ [j.localName, X]) :
    Locates ⟨.collect importer filePath marker stmts, known⟩ (above ++ [j.imported.name]) X e₀ := by
  refine .member j.localName [] he₀ (List.forall_mem_singleton.mpr hlocal) (by simp) ?_
  rw [hleads.expandHead_eq habove hbinds]
  exact String.intercalate_singleton

/-- So does a member of a dotted name whose first part is bound to the module. -/
theorem locates_of_module {imported : ImportedName} (others : List String)
    (hbinds : (Import.module imported).Binds importer stmts)
    (hnames : ∀ s ∈ ModuleImport.localName imported :: others, IsName s) (hne : parts ≠ [])
    (hscope : ".".intercalate (ModuleImport.target imported :: others) = ".".intercalate parts)
    (he₀ : Spells e₀ (ModuleImport.localName imported :: others ++ [X])) :
    Locates ⟨.collect importer filePath marker stmts, known⟩ parts X e₀ := by
  refine .member _ others he₀ hnames hne ?_
  rw [expandHead_of_module (hbinds.find?_moduleAliases filePath marker)]
  exact hscope

/-- What refers to a class by means of an import leads to it, if nothing else binds the imported
local name. -/
theorem Refers.locates (hrefers : Refers importer parts X i e₀) (hbinds : i.Binds importer stmts)
    (hparts : ∀ s ∈ parts, IsName s) (hne : parts = [] → ∃ j, i = .name j)
    (herror : X ∉ errorNames) (hlocal : IsName i.localName) (filePath marker : String)
    (known : MethodSets) : Locates ⟨.collect importer filePath marker stmts, known⟩ parts X e₀ := by
  have hnamed : ∀ imported, i = .module imported → parts ≠ [] := by
    rintro imported rfl hnil
    obtain ⟨j, hj⟩ := hne hnil
    cases hj
  cases hrefers with
  | name hleads he => exact locates_of_name hleads hbinds hlocal herror he
  | nameAs hleads hY he => exact locates_of_name hleads hbinds hlocal hY he
  | member hsplit hleads he =>
    subst hsplit
    exact locates_of_member hleads hbinds hlocal
      (fun s hs => hparts s (List.mem_append_left _ hs)) he
  | memberAs hsplit hleads _ he =>
    subst hsplit
    exact locates_of_member hleads hbinds hlocal
      (fun s hs => hparts s (List.mem_append_left _ hs)) he
  | module he =>
    obtain ⟨first, others, rfl⟩ := List.exists_cons_of_ne_nil (hnamed _ rfl)
    -- The import binds the first part of the path, to itself.
    have hfirst : (Text.pieces '.' (".".intercalate (first :: others))).headD "" = first := by
      rw [pieces_intercalate_names (List.cons_ne_nil _ _) hparts]
      rfl
    have hlocalName : ModuleImport.localName ⟨".".intercalate (first :: others), none⟩ = first :=
      hfirst
    have htarget : ModuleImport.target ⟨".".intercalate (first :: others), none⟩ = first := hfirst
    refine locates_of_module others hbinds ?_ (List.cons_ne_nil _ _) ?_ ?_
    · rwa [hlocalName]
    · rw [htarget]
    · rwa [hlocalName]
  | moduleAs _ he =>
    exact locates_of_module [] hbinds (List.forall_mem_singleton.mpr hlocal) (hnamed _ rfl)
      String.intercalate_singleton he

/-- An expression that goes on with dots from one that leads to a class denotes the class within
that class and so on, in the scope of its module and the classes around it. -/
theorem Locates.typeOf_extends [Reader] (h : Locates env parts X e₀) (hparts : ∀ s ∈ parts, IsName s)
    (houter : ∀ n ∈ outer, IsName n) (hname : IsName name)
    (hrest : X :: rest = outer ++ [name]) (he : Extends e₀ rest e) :
    env.typeOf e = .ok (env.named name (".".intercalate (parts ++ outer))) := by
  cases h with
  | @name x he₀ hx herror hclass hnone hfind =>
    have hspells := he.spells he₀
    cases outer with
    | nil =>
      obtain ⟨rfl, rfl⟩ := List.cons.inj hrest
      rw [List.append_nil]
      exact typeOf_of_find?_importedNames hspells herror hclass hfind
    | cons X' outer =>
      -- The local name is a part of a dotted name now and is expanded to the path of the class.
      obtain ⟨rfl, rfl⟩ := List.cons.inj hrest
      have hdots : ∀ s ∈ x :: outer, '.' ∉ s.toList :=
        List.forall_mem_cons.mpr
          ⟨hx.2, fun s hs => (houter s (List.mem_cons_of_mem _ hs)).2⟩
      have hne : parts ++ [X] ≠ [] := by simp
      have hscope : ".".intercalate ([".".intercalate (parts ++ [X])] ++ outer) =
          ".".intercalate (parts ++ [X] ++ outer) :=
        intercalate_append_congr (List.cons_ne_nil _ _) hne String.intercalate_singleton
      rw [List.append_assoc] at hscope
      rw [typeOf_of_spells x outer hspells hdots hname.2, expandHead_of_name hparts hnone hfind]
      exact congrArg (fun scope => Except.ok (env.named name scope)) hscope
  | member first others he₀ hnames hne hscope =>
    -- What stands before the class leads to the module as before, and the classes come after it.
    have hall : first :: others ++ [X] ++ rest = first :: (others ++ outer) ++ [name] := by
      rw [List.append_assoc, List.singleton_append, hrest]
      simp
    have hspells := he.spells he₀
    rw [hall] at hspells
    have hdots : ∀ s ∈ first :: (others ++ outer), '.' ∉ s.toList := by
      intro s hs
      rw [← List.cons_append, List.mem_append] at hs
      rcases hs with hs | hs
      · exact (hnames s hs).2
      · exact (houter s hs).2
    have hwhole : ".".intercalate (env.expandHead first :: others ++ outer) =
        ".".intercalate (parts ++ outer) :=
      intercalate_append_congr (List.cons_ne_nil _ _) hne hscope
    rw [typeOf_of_spells first (others ++ outer) hspells hdots hname.2]
    exact congrArg (fun scope => Except.ok (env.named name scope)) hwhole

/-! ## Dotted names in the module itself -/

/-- A part that no import binds stands for itself. -/
theorem expandHead_of_unbound (hunbound : ∀ i ∈ Import.ofStmts stmts, i.localName ≠ head) :
    Environment.expandHead ⟨.collect moduleName filePath marker stmts, known⟩ head = head := by
  have hmodules := Declarations.find?_moduleAliases_eq_none
    (fun imported himported => hunbound _ (Import.module_mem_ofStmts himported)) moduleName filePath
    marker
  have hnames := Declarations.find?_importedNames_eq_none
    (fun j hj => hunbound _ (Import.name_mem_ofStmts hj)) moduleName filePath marker
  unfold Environment.expandHead
  rw [hmodules, hnames]

/-- In its module, the dotted name of a class from the outermost class around it on denotes a class
in the scope of these classes, and of the module only if there are none. -/
theorem typeOf_of_within [Reader] (hclass : Within (.classDef name bases body) outer stmts)
    (houter : ∀ n ∈ outer, IsName n) (hname : IsName name) (hhead : outer ++ [name] = head :: rest)
    (hunbound : ∀ i ∈ Import.ofStmts stmts, i.localName ≠ head) (herror : head ∉ errorNames)
    (he : Spells e (outer ++ [name])) (moduleName filePath marker : String) (known : MethodSets) :
    Environment.typeOf ⟨.collect moduleName filePath marker stmts, known⟩ e =
      .ok (Environment.named ⟨.collect moduleName filePath marker stmts, known⟩ name
        (if outer = [] then moduleName else ".".intercalate outer)) := by
  cases outer with
  | nil =>
    obtain ⟨rfl, rfl⟩ := List.cons.inj hhead
    have hdeclares := Environment.declaresClass_of_atModuleLevel hclass.atModuleLevel moduleName
      filePath marker known
    rw [if_pos rfl, typeOf_of_declaresClass he herror hdeclares, Declarations.moduleName_collect]
  | cons first outer =>
    obtain ⟨rfl, rfl⟩ := List.cons.inj hhead
    rw [if_neg (List.cons_ne_nil _ _), typeOf_of_spells first outer he (fun s hs => (houter s hs).2)
      hname.2, expandHead_of_unbound hunbound]

/-- What the scope lacks makes a difference unless the module has no name or there are no classes
around. -/
theorem scope_eq_iff (houter : ∀ n ∈ outer, IsName n) (moduleName : String) :
    (if outer = [] then moduleName else ".".intercalate outer) = dotted (moduleName :: outer) ↔
      moduleName = "" ∨ outer = [] := by
  by_cases hne : outer = []
  · rw [if_pos hne, hne, dotted_singleton]
    exact iff_of_true rfl (Or.inr rfl)
  · rw [if_neg hne, eq_comm, dotted_cons_eq_iff hne houter]
    exact (or_iff_left hne).symm

/-- In its module, the dotted name of a class from the outermost class around it on, if nothing else
binds the first part, denotes the recorded type exactly if the module has no name or the class
stands within no other. Another module that imports the outermost class, or the module, and goes on
with dots denotes the recorded type always. That type has the methods of the class, if no later one
is declared in its place. -/
theorem typeOf_classPath [Reader] (hstmts : Stmt.ofText? text.toList = some stmts)
    (hclass : Within (.classDef name bases body) outer stmts)
    (hhead : outer ++ [name] = head :: rest)
    (hunbound : ∀ i ∈ Import.ofStmts stmts, i.localName ≠ head) (herror : head ∉ errorNames)
    (hknown : Declarations.methodSets modules = .ok known)
    (hmodule : .collect moduleName filePath marker stmts ∈ modules)
    (he : Spells e (outer ++ [name])) :
    (∃ found, Environment.typeOf ⟨.collect moduleName filePath marker stmts, known⟩ e = .ok found ∧
      found.kind = .named ∧ found.name = name ∧
      found.scope = (if outer = [] then moduleName else ".".intercalate outer) ∧
      ((found == recordedType known moduleName outer name) = true ↔
        moduleName = "" ∨ outer = []) ∧
      (found = recordedType known moduleName outer name ↔ moduleName = "" ∨ outer = [])) ∧
    (∃ methods, known.find? (dotted (moduleName :: outer), name) = some methods ∧
      (Declarations.lastDeclared modules (dotted (moduleName :: outer), name) =
          some (.collect moduleName filePath marker stmts,
            .ofClass moduleName outer name bases body) →
        body.filterMap Stmt.method? <+: methods)) ∧
    ∀ parts importer path marker stmts' i e₀ e', moduleName = ".".intercalate parts →
      (∀ s ∈ parts, IsName s) → (parts = [] → ∃ j, i = .name j) → i.Binds importer stmts' →
      IsName i.localName → Refers importer parts head i e₀ → Extends e₀ rest e' →
      Environment.typeOf ⟨.collect importer path marker stmts', known⟩ e' =
        .ok (recordedType known moduleName outer name) := by
  have hidentifiers : ∀ n ∈ outer ++ [name], IsName n := by
    intro n hn
    refine isName_of_isIdentifier (Stmt.isIdentifier_of_mem hstmts n ?_)
    rcases List.mem_append.mp hn with hn | hn
    · exact hclass.mem_declaredNamesOf n hn
    · refine hclass.declaredNames_subset ?_
      rw [List.mem_singleton.mp hn, Stmt.declaredNames]
      exact List.mem_cons_self
  have houter : ∀ n ∈ outer, IsName n := fun n hn => hidentifiers n (List.mem_append_left _ hn)
  have hname : IsName name := hidentifiers name (by simp)
  have hscope := scope_eq_iff houter moduleName
  have hkey : ClassDecl.ofClass moduleName outer name bases body ∈
      (Declarations.collect moduleName filePath marker stmts).classes := by
    rw [Declarations.classes_collect]
    exact ClassDecl.mem_ofStmts_iff.mpr ⟨outer, name, bases, body, hclass, rfl⟩
  refine ⟨⟨_, typeOf_of_within hclass houter hname hhead hunbound herror he moduleName filePath
    marker known, rfl, rfl, rfl, ?_, ?_⟩, ?_, ?_⟩
  · rw [named_beq_recordedType_iff, hscope]
  · rw [named_eq_recordedType_iff, hscope]
  · obtain ⟨d, c, hlast⟩ := Declarations.exists_lastDeclared hmodule hkey
    obtain ⟨methods, hfind, hstart⟩ := Declarations.exists_prefix_of_lastDeclared hknown hlast
    refine ⟨methods, hfind, fun hlast' => ?_⟩
    cases hlast.symm.trans hlast'
    exact hstart
  · rintro parts importer path marker stmts' i e₀ e' rfl hparts hne hbinds hlocal hrefers hextends
    have hlocates := hrefers.locates hbinds hparts hne herror hlocal path marker known
    rw [hlocates.typeOf_extends hparts houter hname hhead.symm hextends, recordedType,
      dotted_cons_intercalate hparts houter]
    rfl

/-- A module with a class within a class. -/
def nestedText : String :=
  "class Outer:\n    class Inner:\n        def run(self) -> None: ...\n"

/-- Its statements. -/
def nestedModule : List Stmt :=
  [.classDef "Outer" [] [.classDef "Inner" [] [.function
    { name := "run", decorators := [], parameters := [none],
      returns := some (.name "None" "None"), place := ⟨3, 8⟩ } [.simple]]]]

theorem ofText?_nestedText : Stmt.ofText? nestedText.toList = some nestedModule :=
  Stmt.ofText?_eq_some_iff_parse?.mpr ⟨by cbv, by decide +kernel⟩

/-- A module that imports the outer one of the classes. -/
def outerImporter : List Stmt := [.importFrom 0 "m" (some [⟨"Outer", none⟩])]

/-- The dotted name of the inner class. -/
def innerPath : Expr := .member "Outer.Inner" (.name "Outer" "Outer") "Inner"

/-- In the module `m` the dotted name of the inner class denotes a class in the scope `Outer`, and
in the module that imports the outer class one in the scope `m.Outer`. -/
theorem typeOf_classPath_inner : ∃ known found,
    Declarations.methodSets [.collect "m" "m.py" "provider" nestedModule] = .ok known ∧
    Environment.typeOf ⟨.collect "m" "m.py" "provider" nestedModule, known⟩ innerPath =
      .ok found ∧
    Environment.typeOf ⟨.collect "app" "app.py" "provider" outerImporter, known⟩ innerPath =
      .ok (recordedType known "m" ["Outer"] "Inner") ∧
    found.scope = "Outer" ∧ (recordedType known "m" ["Outer"] "Inner").scope = "m.Outer" ∧
    (found == recordedType known "m" ["Outer"] "Inner") = false := by
  have hclass : Within (.classDef "Inner" [] _) ["Outer"] nestedModule :=
    .inside (List.mem_singleton_self _) (.here (List.mem_singleton_self _))
  have houter : Spells (.name "Outer" "Outer") ["Outer"] := .name _ _
  obtain ⟨known, hknown⟩ :
      ∃ known, Declarations.methodSets [.collect "m" "m.py" "provider" nestedModule] = .ok known :=
    ⟨_, rfl⟩
  obtain ⟨⟨found, htype, -, -, hscope, hiff, -⟩, -, himporting⟩ := typeOf_classPath
    ofText?_nestedText hclass rfl (by rintro i ⟨⟩) (by decide) hknown (List.mem_singleton_self _)
    (houter.member "Outer.Inner" "Inner")
  have hbinds : (Import.name ⟨0, "m", ⟨"Outer", none⟩⟩).Binds "app" outerImporter := by
    have himports : Import.ofStmts outerImporter = [.name ⟨0, "m", ⟨"Outer", none⟩⟩] := rfl
    refine ⟨List.mem_singleton_self _, ?_, by rintro c ⟨⟩⟩
    intro j hj _
    rw [himports] at hj
    exact List.mem_singleton.mp hj
  have hrefers : Refers "app" ["m"] "Outer" (.name ⟨0, "m", ⟨"Outer", none⟩⟩)
      (.name "Outer" "Outer") :=
    .name (.absolute rfl String.intercalate_singleton.symm) houter
  refine ⟨known, found, hknown, htype, ?_, ?_, ?_, ?_⟩
  · exact himporting ["m"] "app" "app.py" "provider" outerImporter _ _ _
      String.intercalate_singleton.symm (by decide) (by simp) hbinds (by decide) hrefers
      (.member _ _ .refl)
  · rw [hscope, if_neg (List.cons_ne_nil _ _)]
    exact String.intercalate_singleton
  · show dotted ["m", "Outer"] = "m.Outer"
    decide +kernel
  · rw [Bool.eq_false_iff, ne_eq, hiff]
    decide

end Wiring
