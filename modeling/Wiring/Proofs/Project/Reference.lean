import Wiring.Proofs.Declaration.Collection
import Wiring.Proofs.Project.Import

/-!
# One class under many names

A class can be imported under its own name or another one, through its module or through the package
around that, absolutely or from a place nearby, and each way has a spelling of the class that goes
with it (`Refers`). Where nothing else binds the imported local name, all of them denote the same
type, and so does the bare name in the module that declares the class (`typeOf_eq_of_refers`).

Two things are put together. What an import records is found under its local name
(`Import.Binds.find?_importedNames`, `Import.Binds.find?_moduleAliases`). And a dotted name is put
together from its parts and taken apart into the same parts again, of which the first is expanded
(`typeOf_of_spells`).
-/

namespace Wiring

open Source (Expr ImportedName Reader Stmt)
open Wiring.Path

variable {parts above dirs : List String} {moduleName filePath marker path stem X : String}
  {stmts : List Stmt} {known : MethodSets} {env : Environment} {dots : Nat} {e : Expr}

/-! ## Imports and what they bind -/

/-- An import of a module, or of a name out of a module. -/
inductive Import where
  /-- A module is imported. -/
  | module (imported : ImportedName)
  /-- A name is imported out of a module. -/
  | name (i : FromImport)

namespace Import

/-- The name that an import binds. -/
def localName : Import → String
  | .module imported => ModuleImport.localName imported
  | .name i => i.localName

/-- The imports among statements, without those in bodies of functions. Modules and names are
recorded apart, so their order among each other does not matter. -/
def ofStmts (stmts : List Stmt) : List Import :=
  (ModuleImport.ofStmts stmts).map .module ++ (FromImport.ofStmts stmts).map .name

/-- An imported module is among the imports. -/
theorem module_mem_ofStmts {imported : ImportedName} (h : imported ∈ ModuleImport.ofStmts stmts) :
    .module imported ∈ ofStmts stmts :=
  List.mem_append_left _ (List.mem_map_of_mem h)

/-- So is an imported name. -/
theorem name_mem_ofStmts {i : FromImport} (h : i ∈ FromImport.ofStmts stmts) :
    .name i ∈ ofStmts stmts :=
  List.mem_append_right _ (List.mem_map_of_mem h)

/-- In a module, the local name of an import is bound by it and by nothing else. -/
structure Binds (i : Import) (moduleName : String) (stmts : List Stmt) : Prop where
  /-- The module has the import. -/
  mem : i ∈ ofStmts stmts
  /-- No other import binds the name. -/
  only : ∀ j ∈ ofStmts stmts, j.localName = i.localName → j = i
  /-- No class of the module has the name. -/
  noClass : ∀ c ∈ ClassDecl.ofStmts moduleName [] stmts, c.name = i.localName →
    c.scope ≠ moduleName

/-- The only member of a list that passes a test is found from the end. -/
theorem find?_reverse_of_only {α : Type} {as : List α} {p : α → Bool} {a : α} (ha : a ∈ as)
    (hp : p a = true) (honly : ∀ b ∈ as, p b = true → b = a) : as.reverse.find? p = some a := by
  cases hfind : as.reverse.find? p with
  | none => exact absurd hp (List.find?_eq_none.mp hfind a (List.mem_reverse.mpr ha))
  | some b =>
    have hb : b ∈ as := List.mem_reverse.mp (List.mem_of_find?_eq_some hfind)
    rw [honly b hb (List.find?_some hfind)]

namespace Binds

/-- Under the local name of an imported module its target is found. -/
theorem find?_moduleAliases {imported : ImportedName}
    (h : (Import.module imported).Binds moduleName stmts) (filePath marker : String) :
    (Declarations.collect moduleName filePath marker stmts).moduleAliases.find?
      (ModuleImport.localName imported) = some (ModuleImport.target imported) := by
  have hmem : imported ∈ ModuleImport.ofStmts stmts := by
    simpa [ofStmts] using h.mem
  have honly : ∀ other ∈ ModuleImport.ofStmts stmts,
      (ModuleImport.localName other == ModuleImport.localName imported) = true →
        other = imported := by
    intro other hother hname
    exact Import.module.inj (h.only _ (module_mem_ofStmts hother) (eq_of_beq hname))
  have hlast := find?_reverse_of_only
    (p := fun m => ModuleImport.localName m == ModuleImport.localName imported) hmem (BEq.refl _)
    honly
  rw [Declarations.find?_moduleAliases_collect, ModuleImport.last?, hlast]
  rfl

/-- Under the local name of an imported name its module and the name there are found. -/
theorem find?_importedNames {i : FromImport} (h : (Import.name i).Binds moduleName stmts)
    (filePath marker : String) :
    (Declarations.collect moduleName filePath marker stmts).importedNames.find? i.localName =
      some (i.source moduleName, i.imported.name) := by
  have hmem : i ∈ FromImport.ofStmts stmts := by
    simpa [ofStmts] using h.mem
  have honly : ∀ j ∈ FromImport.ofStmts stmts, (j.localName == i.localName) = true → j = i := by
    intro j hj hname
    exact Import.name.inj (h.only _ (name_mem_ofStmts hj) (eq_of_beq hname))
  have hlast := find?_reverse_of_only (p := fun j => j.localName == i.localName) hmem (BEq.refl _)
    honly
  rw [Declarations.find?_importedNames_collect, FromImport.last?, hlast]
  rfl

/-- The local name of an imported name is not that of a module. -/
theorem find?_moduleAliases_eq_none {i : FromImport}
    (h : (Import.name i).Binds moduleName stmts) :
    (Declarations.collect moduleName filePath marker stmts).moduleAliases.find? i.localName =
      none := by
  refine Declarations.find?_moduleAliases_eq_none (fun imported himported hname => ?_) _ _ _
  cases h.only _ (module_mem_ofStmts himported) hname

/-- The module declares no class of the local name. -/
theorem declaresClass_eq_false {i : Import} (h : i.Binds moduleName stmts) :
    Environment.declaresClass ⟨.collect moduleName filePath marker stmts, known⟩ i.localName =
      false := by
  unfold Environment.declaresClass
  rw [Declarations.classes_collect, Declarations.moduleName_collect, List.any_eq_false]
  intro c hc htest
  obtain ⟨hname, hscope⟩ := Bool.and_eq_true_iff.mp htest
  exact h.noClass c hc (eq_of_beq hname) (eq_of_beq hscope)

end Binds

end Import

/-! ## Dotted names -/

/-- The expression is a dotted name with the given parts. -/
inductive Spells : Expr → List String → Prop where
  /-- A name. -/
  | name (code id : String) : Spells (.name code id) [id]
  /-- A member of a dotted name. -/
  | member {value : Expr} {parts : List String} (code attr : String) (h : Spells value parts) :
    Spells (.member code value attr) (parts ++ [attr])

namespace Spells

/-- A dotted name has a part. -/
theorem ne_nil (h : Spells e parts) : parts ≠ [] := by
  cases h with
  | name => exact List.cons_ne_nil _ _
  | member => exact List.append_ne_nil_of_right_ne_nil _ (List.cons_ne_nil _ _)

/-- A dotted name reads as its parts with dots between them. -/
theorem path_eq (h : Spells e parts) : Environment.path e = ".".intercalate parts := by
  induction h with
  | name code id => exact (String.intercalate_singleton).symm
  | member code attr h ih =>
    rw [Environment.path, ih, String.intercalate_append_of_ne_nil h.ne_nil (List.cons_ne_nil _ _),
      String.intercalate_singleton]

/-- A dotted name of a single part is a name. -/
theorem exists_name (h : Spells e [X]) : ∃ code, e = .name code X := by
  generalize hparts : [X] = parts at h
  cases h with
  | name code id => exact ⟨code, by rw [List.singleton_inj.mp hparts]⟩
  | @member _ before code attr h =>
    have hlength : [X].length = (before ++ [attr]).length := congrArg List.length hparts
    have hpos : 0 < before.length := List.length_pos_iff.mpr h.ne_nil
    rw [List.length_append, List.length_singleton, List.length_singleton] at hlength
    omega

/-- A dotted name of several parts is a member of the dotted name of all but the last. -/
theorem exists_member (h : Spells e (parts ++ [X])) (hne : parts ≠ []) :
    ∃ code value, e = .member code value X ∧ Spells value parts := by
  generalize hall : parts ++ [X] = all at h
  cases h with
  | name code id =>
    have hlength : (parts ++ [X]).length = [id].length := congrArg List.length hall
    have hpos : 0 < parts.length := List.length_pos_iff.mpr hne
    rw [List.length_append, List.length_singleton, List.length_singleton] at hlength
    omega
  | member code attr h =>
    obtain ⟨rfl, hlast⟩ := List.append_inj' hall rfl
    obtain rfl := List.singleton_inj.mp hlast
    exact ⟨code, _, rfl, h⟩

end Spells

/-- A dotted name denotes the class of the last part in the scope that the others lead to, when the
first of them is expanded. -/
theorem typeOf_of_spells [Reader] (head : String) (rest : List String)
    (he : Spells e (head :: rest ++ [X])) (hparts : ∀ s ∈ head :: rest, '.' ∉ s.toList)
    (hX : '.' ∉ X.toList) :
    env.typeOf e = .ok (env.named X (".".intercalate (env.expandHead head :: rest))) := by
  obtain ⟨code, value, rfl, hvalue⟩ := he.exists_member (List.cons_ne_nil _ _)
  -- Joined with the last part, the parts come apart as they were.
  have hjoined : Environment.path value ++ "." ++ X = ".".intercalate (head :: rest ++ [X]) := by
    rw [hvalue.path_eq, String.intercalate_append_of_ne_nil (List.cons_ne_nil _ _)
      (List.cons_ne_nil _ _), String.intercalate_singleton]
  have hpieces : Text.pieces '.' (Environment.path value ++ "." ++ X) = head :: rest ++ [X] := by
    rw [hjoined]
    refine Text.pieces_intercalate (List.cons_ne_nil _ _) fun s hs => ?_
    rcases List.mem_append.mp hs with hs | hs
    · exact hparts s hs
    · rwa [List.mem_singleton.mp hs]
  have hdrop : (rest ++ [X]).dropLast = rest := List.dropLast_concat
  rw [Environment.typeOf, Environment.typeWith, Environment.typeOfMember, hpieces]
  dsimp only [List.cons_append]
  rw [hdrop]
  rfl

/-- A name that is imported out of a module denotes what it is there. -/
theorem typeOf_of_find?_importedNames [Reader] {name source : String} (he : Spells e [X])
    (herror : X ∉ errorNames) (hclass : env.declaresClass X = false)
    (hfind : env.declarations.importedNames.find? X = some (source, name)) :
    env.typeOf e = .ok (env.named name source) := by
  obtain ⟨code, rfl⟩ := he.exists_name
  have hnot : errorNames.contains X = false := by simpa using herror
  rw [Environment.typeOf, Environment.typeWith, Environment.typeOfName, hnot, hclass, hfind]
  rfl

/-- A class of the module itself is denoted by its name. -/
theorem typeOf_of_declaresClass [Reader] (he : Spells e [X]) (herror : X ∉ errorNames)
    (hclass : env.declaresClass X = true) :
    env.typeOf e = .ok (env.named X env.declarations.moduleName) := by
  obtain ⟨code, rfl⟩ := he.exists_name
  have hnot : errorNames.contains X = false := by simpa using herror
  rw [Environment.typeOf, Environment.typeWith, Environment.typeOfName, hnot, hclass]
  rfl

/-- A part that is a module's local name is expanded to the module. -/
theorem expandHead_of_module {x target : String}
    (hfind : env.declarations.moduleAliases.find? x = some target) :
    env.expandHead x = target := by
  rw [Environment.expandHead, hfind]

/-- A part that is the local name of a module out of a package is expanded to the path of both. -/
theorem expandHead_of_name {x m : String} (habove : ∀ s ∈ above, IsName s)
    (hnone : env.declarations.moduleAliases.find? x = none)
    (hfind : env.declarations.importedNames.find? x = some (".".intercalate above, m)) :
    env.expandHead x = ".".intercalate (above ++ [m]) := by
  rw [Environment.expandHead, hnone, hfind]
  dsimp only
  by_cases hne : above = []
  · -- The package is the top of the tree, whose path is empty.
    rw [hne]
    exact (String.intercalate_singleton).symm
  · have hpath : ".".intercalate above ≠ "" := fun h =>
      hne ((intercalate_names_eq_empty_iff habove).mp h)
    rw [if_neg (by simpa using hpath), String.intercalate_append_of_ne_nil hne
      (List.cons_ne_nil _ _), String.intercalate_singleton]

/-! ## Ways to refer to a class -/

/-- In the module of the given name, an import with the given dots and path leads to the module or
package with the given parts: without dots if that is its path, and with dots, in a module that is
not the initial one of a package, if it is at the place that the import leads to. -/
inductive Leads (moduleName : String) (dots : Nat) (path : String) (parts : List String) :
    Prop where
  /-- The path is written out. -/
  | absolute (hdots : dots = 0) (hpath : path = ".".intercalate parts)
  /-- The path starts at the directory of the module. -/
  | relative (dirs : List String) (stem : String)
    (hmodule : moduleName = moduleNameOf (fileIn dirs stem)) (hdirs : ∀ n ∈ dirs, IsName n)
    (hstem : IsName stem) (hplain : stem ≠ "__init__") (hdots : 0 < dots)
    (hplace : placeFrom dirs dots path = parts)

/-- What is imported along a way that leads to a module is recorded under its name. -/
theorem Leads.source_eq (h : Leads moduleName dots path parts) (imported : ImportedName) :
    FromImport.source moduleName { dots, path, imported } = ".".intercalate parts := by
  unfold FromImport.source
  cases h with
  | absolute hdots hpath => rw [if_pos (by simpa using hdots), hpath]
  | relative dirs stem hmodule hdirs hstem hplain hdots hplace =>
    rw [if_neg (by simpa using Nat.ne_of_gt hdots), hmodule,
      resolveRelative_fileIn hdirs hstem hdots, if_neg hplain, hplace]

/-- So it is found there under its local name, if nothing else binds that. -/
theorem Leads.find?_importedNames {i : FromImport} (hleads : Leads moduleName i.dots i.path parts)
    (hbinds : (Import.name i).Binds moduleName stmts) (filePath marker : String) :
    (Declarations.collect moduleName filePath marker stmts).importedNames.find? i.localName =
      some (".".intercalate parts, i.imported.name) := by
  have hsource : i.source moduleName = ".".intercalate parts := hleads.source_eq i.imported
  have hfind := hbinds.find?_importedNames filePath marker
  rwa [hsource] at hfind

/-- As a part of a dotted name it is expanded to the path of both. -/
theorem Leads.expandHead_eq {i : FromImport} (hleads : Leads moduleName i.dots i.path above)
    (habove : ∀ s ∈ above, IsName s) (hbinds : (Import.name i).Binds moduleName stmts)
    (filePath marker : String) (known : MethodSets) :
    Environment.expandHead ⟨.collect moduleName filePath marker stmts, known⟩ i.localName =
      ".".intercalate (above ++ [i.imported.name]) :=
  expandHead_of_name habove hbinds.find?_moduleAliases_eq_none
    (hleads.find?_importedNames hbinds filePath marker)

/-- In the module of the given name, the expression refers to the class `X` of the module with the
given parts by means of the import. -/
inductive Refers (moduleName : String) (parts : List String) (X : String) : Import → Expr → Prop
    where
  /-- The module is imported, and the expression spells it out. -/
  | module {e : Expr} (he : Spells e (parts ++ [X])) :
    Refers moduleName parts X (.module ⟨".".intercalate parts, none⟩) e
  /-- The module is imported under a name of its own. -/
  | moduleAs {a : String} {e : Expr} (ha : IsName a) (he : Spells e [a, X]) :
    Refers moduleName parts X (.module ⟨".".intercalate parts, some a⟩) e
  /-- The class is imported. -/
  | name {dots : Nat} {path : String} {e : Expr} (hleads : Leads moduleName dots path parts)
    (he : Spells e [X]) : Refers moduleName parts X (.name ⟨dots, path, ⟨X, none⟩⟩) e
  /-- The class is imported under another name, which is not one of the error channel. -/
  | nameAs {dots : Nat} {path Y : String} {e : Expr} (hleads : Leads moduleName dots path parts)
    (hY : Y ∉ errorNames) (he : Spells e [Y]) :
    Refers moduleName parts X (.name ⟨dots, path, ⟨X, some Y⟩⟩) e
  /-- The module is imported out of the package around it. -/
  | member {above : List String} {dots : Nat} {path m : String} {e : Expr}
    (hparts : parts = above ++ [m]) (hleads : Leads moduleName dots path above)
    (he : Spells e [m, X]) : Refers moduleName parts X (.name ⟨dots, path, ⟨m, none⟩⟩) e
  /-- The module is imported out of the package around it, under another name. -/
  | memberAs {above : List String} {dots : Nat} {path m n : String} {e : Expr}
    (hparts : parts = above ++ [m]) (hleads : Leads moduleName dots path above) (hn : IsName n)
    (he : Spells e [n, X]) : Refers moduleName parts X (.name ⟨dots, path, ⟨m, some n⟩⟩) e

/-- A name imported along a way that leads to a module denotes the class of that module. -/
theorem typeOf_of_name [Reader] {i : FromImport} (hleads : Leads moduleName i.dots i.path parts)
    (hbinds : (Import.name i).Binds moduleName stmts) (herror : i.localName ∉ errorNames)
    (he : Spells e [i.localName]) (henv : env = ⟨.collect moduleName filePath marker stmts, known⟩) :
    env.typeOf e = .ok (env.named i.imported.name (".".intercalate parts)) := by
  subst henv
  exact typeOf_of_find?_importedNames he herror hbinds.declaresClass_eq_false
    (hleads.find?_importedNames hbinds filePath marker)

/-- A member of a module that is imported out of a package denotes the class of that module. -/
theorem typeOf_of_member [Reader] {i : FromImport} (hleads : Leads moduleName i.dots i.path above)
    (habove : ∀ s ∈ above, IsName s) (hbinds : (Import.name i).Binds moduleName stmts)
    (hlocal : IsName i.localName) (hX : IsName X) (he : Spells e [i.localName, X])
    (henv : env = ⟨.collect moduleName filePath marker stmts, known⟩) :
    env.typeOf e = .ok (env.named X (".".intercalate (above ++ [i.imported.name]))) := by
  subst henv
  have hdots : ∀ s ∈ [i.localName], '.' ∉ s.toList := by
    intro s hs
    rw [List.mem_singleton.mp hs]
    exact hlocal.2
  rw [typeOf_of_spells i.localName [] he hdots hX.2, hleads.expandHead_eq habove hbinds,
    String.intercalate_singleton]

/-- Whichever way a class is imported, the expression that goes with it denotes the declared type of
that name in the scope of its module, with the methods known of it, if nothing else binds the
imported local name. So does the bare name in the module that defines the class. -/
theorem typeOf_eq_of_refers [Reader] (hne : parts ≠ []) (hparts : ∀ s ∈ parts, IsName s)
    (hX : IsName X) (herror : X ∉ errorNames) (known : MethodSets) :
    (∀ moduleName filePath marker stmts i e, Refers moduleName parts X i e →
      i.Binds moduleName stmts →
      Environment.typeOf ⟨.collect moduleName filePath marker stmts, known⟩ e =
        .ok (.named X (".".intercalate parts)
          ((known.find? (".".intercalate parts, X)).getD []))) ∧
    ∀ filePath marker stmts bases body e, AtModuleLevel (.classDef X bases body) stmts →
      Spells e [X] →
      Environment.typeOf ⟨.collect (".".intercalate parts) filePath marker stmts, known⟩ e =
        .ok (.named X (".".intercalate parts)
          ((known.find? (".".intercalate parts, X)).getD [])) := by
  constructor
  · intro moduleName filePath marker stmts i e hrefers hbinds
    cases hrefers with
    | module he =>
      obtain ⟨head, rest, rfl⟩ := List.exists_cons_of_ne_nil hne
      -- The import binds the first part of the path, to itself.
      have hhead : (Text.pieces '.' (".".intercalate (head :: rest))).headD "" = head := by
        rw [pieces_intercalate_names hne hparts]
        rfl
      have hfind := hbinds.find?_moduleAliases filePath marker
      have hlocal : ModuleImport.localName ⟨".".intercalate (head :: rest), none⟩ = head := hhead
      have htarget : ModuleImport.target ⟨".".intercalate (head :: rest), none⟩ = head := hhead
      rw [hlocal, htarget] at hfind
      rw [typeOf_of_spells head rest he (fun s hs => (hparts s hs).2) hX.2,
        expandHead_of_module hfind]
      rfl
    | @moduleAs a _ ha he =>
      have hfind : (Declarations.collect moduleName filePath marker stmts).moduleAliases.find? a =
          some (".".intercalate parts) := hbinds.find?_moduleAliases filePath marker
      have hdots : ∀ s ∈ [a], '.' ∉ s.toList := by
        intro s hs
        rw [List.mem_singleton.mp hs]
        exact ha.2
      rw [typeOf_of_spells a [] he hdots hX.2, expandHead_of_module hfind,
        String.intercalate_singleton]
      rfl
    | name hleads he => exact typeOf_of_name hleads hbinds herror he rfl
    | nameAs hleads hY he => exact typeOf_of_name hleads hbinds hY he rfl
    | member hsplit hleads he =>
      subst hsplit
      have hm := hparts _ (List.mem_append_right _ (List.mem_singleton_self _))
      exact typeOf_of_member hleads (fun s hs => hparts s (List.mem_append_left _ hs)) hbinds hm hX
        he rfl
    | memberAs hsplit hleads hn he =>
      subst hsplit
      exact typeOf_of_member hleads (fun s hs => hparts s (List.mem_append_left _ hs)) hbinds hn hX
        he rfl
  · intro filePath marker stmts bases body e hlevel he
    have hclass := Environment.declaresClass_of_atModuleLevel hlevel (".".intercalate parts)
      filePath marker known
    rw [typeOf_of_declaresClass he herror hclass, Declarations.moduleName_collect]
    rfl

/-- A module `views.py` two directories deep that imports a module out of the outer package, under
another name, next to other imports. -/
def viewsModule : List Stmt :=
  [.importModules [⟨"os.path", none⟩],
    .compound [.importFrom 2 "" (some [⟨"models", some "m"⟩, ⟨"config", none⟩])],
    .classDef "View" [] []]

/-- A class that it refers to through the imported module has the key of the declaring module. -/
theorem typeOf_eq_of_refers_views :
    Environment.typeOf ⟨.collect "app.web.views" "views.py" "provider" viewsModule,
        .ofList [(("app.models", "Config"), [{ name := "run" }])]⟩
      (.member "m.Config" (.name "m" "m") "Config") =
        .ok (.named "Config" "app.models" [{ name := "run" }]) := by
  have hleads : Leads "app.web.views" 2 "" ["app"] :=
    .relative ["app", "web"] "views" (by decide +kernel) (by decide) (by decide) (by decide)
      (by decide) (by decide +kernel)
  have hspells : Spells (.member "m.Config" (.name "m" "m") "Config") ["m", "Config"] :=
    .member "m.Config" "Config" (.name "m" "m")
  have hbinds : (Import.name ⟨2, "", ⟨"models", some "m"⟩⟩).Binds "app.web.views" viewsModule := by
    have himports : Import.ofStmts viewsModule = [.module ⟨"os.path", none⟩,
        .name ⟨2, "", ⟨"models", some "m"⟩⟩, .name ⟨2, "", ⟨"config", none⟩⟩] := rfl
    have hclasses : ClassDecl.ofStmts "app.web.views" [] viewsModule =
        [⟨"View", "app.web.views", [], []⟩] := rfl
    refine ⟨by simp [himports], ?_, ?_⟩
    · -- The other imports bind `os` and `config`.
      intro j hj hname
      rw [himports, List.mem_cons, List.mem_cons, List.mem_singleton] at hj
      rcases hj with rfl | rfl | rfl
      · exact absurd hname (by decide +kernel)
      · rfl
      · exact absurd hname (by decide +kernel)
    · intro c hc hname
      rw [hclasses, List.mem_singleton] at hc
      subst hc
      exact absurd hname (by decide +kernel)
  have hrefers : Refers "app.web.views" ["app", "models"] "Config"
      (.name ⟨2, "", ⟨"models", some "m"⟩⟩) (.member "m.Config" (.name "m" "m") "Config") :=
    .memberAs rfl hleads (by decide) hspells
  exact (typeOf_eq_of_refers (by decide) (by decide) (by decide) (by decide)
    (.ofList [(("app.models", "Config"), [{ name := "run" }])])).1 "app.web.views" "views.py"
    "provider" viewsModule _ _ hrefers hbinds

end Wiring
