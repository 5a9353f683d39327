import Wiring.Proofs.Declaration.Inheritance
import Wiring.Proofs.Declaration.Scope

/-!
# Classes that take the name of an imported one

A module can import a class and declare one of the same name, with this name as its base (`Reuses`).
Bases are read when all that the module declares is known, and then a class of the module comes
before what is imported. So the base is not the imported class but the class itself
(`classBody_self`), which the search for methods leaves out. Hence the class has the methods of its
own body and no others, and those of the imported class only where it declares them again
(`hasMethod_of_reuses`).
-/

namespace Wiring

open Source (Expr Reader Stmt)

/-- A method of the given name is known of a class. -/
def MethodSets.HasMethod (sets : MethodSets) (id : ClassId) (name : String) : Prop :=
  ∃ methods, sets.find? id = some methods ∧ name ∈ methods.map (·.name)

/-- A module imports a class from another one and declares, outside of classes and functions, a
class of the same name that has this name as its only base. -/
structure Reuses (moduleName source C code : String) (body stmts : List Stmt) : Prop where
  /-- The class is imported under its own name. -/
  imports : ∃ i ∈ FromImport.ofStmts stmts, i.imported = ⟨C, none⟩ ∧ i.source moduleName = source
  /-- The name is declared and is its own base. -/
  declares : AtModuleLevel (.classDef C [.name code C] body) stmts

namespace Declarations

variable {modules : List Declarations} {sets : MethodSets} {d : Declarations} {c : ClassDecl}
  {moduleName source C code filePath marker : String} {body stmts : List Stmt}

/-- A class that has its own name as its base is its own base. -/
theorem classBody_self [Reader] (hlevel : AtModuleLevel (.classDef C [.name code C] body) stmts)
    (herror : C ∉ errorNames) (moduleName filePath marker : String) :
    Environment.classBody { declarations := .collect moduleName filePath marker stmts }
        (.ofClass moduleName [] C [.name code C] body) =
      .ok ⟨body.filterMap Stmt.method?, [(moduleName, C)]⟩ := by
  have hclass := Environment.declaresClass_of_atModuleLevel hlevel moduleName filePath marker .empty
  have hname := Environment.typeOfName_of_declaresClass herror hclass
  rw [moduleName_collect] at hname
  have htype : Environment.typeOf { declarations := .collect moduleName filePath marker stmts }
      (.name code C) = .ok (.named C moduleName []) := by
    rw [Environment.typeOf, Environment.typeWith, hname]
    rfl
  unfold Environment.classBody ClassDecl.ofClass
  rw [List.mapM_cons, List.mapM_nil, htype]
  rfl

/-- The name that an import binds is recorded, with what some import says that binds it. -/
theorem exists_find?_importedNames {i : FromImport} (hi : i ∈ FromImport.ofStmts stmts) :
    ∃ j ∈ FromImport.ofStmts stmts, j.localName = i.localName ∧
      (collect moduleName filePath marker stmts).importedNames.find? i.localName =
        some (j.source moduleName, j.imported.name) := by
  rw [find?_importedNames_collect, FromImport.last?]
  have hsome : ((FromImport.ofStmts stmts).reverse.find? (·.localName == i.localName)).isSome :=
    List.find?_isSome.mpr ⟨i, List.mem_reverse.mpr hi, beq_self_eq_true _⟩
  obtain ⟨j, hlast⟩ := Option.isSome_iff_exists.mp hsome
  have hj : j ∈ FromImport.ofStmts stmts := List.mem_reverse.mp (List.mem_of_find?_eq_some hlast)
  have hname := List.find?_some hlast
  exact ⟨j, hj, eq_of_beq hname, by rw [hlast]; rfl⟩

/-- A class that takes the name of the class that it is meant to inherit from is its own base,
whatever an import says of the name. So it has the methods of its own body and no others. The other
class has at least the methods of its last declaration, and those of its methods that the first
class does not declare again are missing there. -/
theorem hasMethod_of_reuses [Reader] (hreuses : Reuses moduleName source C code body stmts)
    (herror : C ∉ errorNames) (hsets : methodSets modules = .ok sets)
    (hlast : lastDeclared modules (moduleName, C) = some
      (.collect moduleName filePath marker stmts, .ofClass moduleName [] C [.name code C] body))
    (hd : d ∈ modules) (hc : c ∈ d.classes) (hkey : (c.scope, c.name) = (source, C)) :
    (∃ i ∈ FromImport.ofStmts stmts, i.localName = C ∧
      (collect moduleName filePath marker stmts).importedNames.find? C =
        some (i.source moduleName, i.imported.name)) ∧
    Environment.classBody { declarations := .collect moduleName filePath marker stmts }
        (.ofClass moduleName [] C [.name code C] body) =
      .ok ⟨body.filterMap Stmt.method?, [(moduleName, C)]⟩ ∧
    sets.find? (moduleName, C) = some (body.filterMap Stmt.method?) ∧
    (∃ d' c', lastDeclared modules (source, C) = some (d', c') ∧
      ∀ m ∈ c'.methods, sets.HasMethod (source, C) m.name) ∧
    ((∀ name, sets.HasMethod (source, C) name → sets.HasMethod (moduleName, C) name) ↔
      ∀ name, sets.HasMethod (source, C) name →
        name ∈ (body.filterMap Stmt.method?).map (·.name)) := by
  have hself := classBody_self hreuses.declares herror moduleName filePath marker
  obtain ⟨h, hh, rfl⟩ := exists_hierarchy_of_methodSets hsets
  have hown : h.methodSets.find? (moduleName, C) = some (body.filterMap Stmt.method?) := by
    obtain ⟨classBody, hread, hbody⟩ := (find?_hierarchy hh (moduleName, C)).2 _ _ hlast
    obtain rfl := Except.ok.inj (hself.symm.trans hread)
    refine Hierarchy.find?_methodSets_of_forall_eq hbody fun base hbase => ?_
    exact List.mem_singleton.mp hbase
  refine ⟨?_, hself, hown, ?_, ?_⟩
  · obtain ⟨i, hi, himported, -⟩ := hreuses.imports
    have hlocal : i.localName = C := by
      rw [FromImport.localName, himported]
      rfl
    rw [← hlocal]
    exact exists_find?_importedNames hi
  · obtain ⟨d', c', hlast'⟩ := exists_lastDeclared hd hc
    obtain ⟨methods, hfind, hstart⟩ := exists_prefix_of_lastDeclared hsets hlast'
    rw [hkey] at hlast' hfind
    refine ⟨d', c', hlast', fun m hm => ⟨methods, hfind, ?_⟩⟩
    exact List.mem_map_of_mem (hstart.subset hm)
  · have hiff : ∀ name, h.methodSets.HasMethod (moduleName, C) name ↔
        name ∈ (body.filterMap Stmt.method?).map (·.name) := by
      intro name
      unfold MethodSets.HasMethod
      rw [hown]
      simp
    exact forall_congr' fun name => imp_congr Iff.rfl (hiff name)

/-- A module `base` with a class `App`. -/
def baseModule : List Stmt :=
  [.classDef "App" [] [.function
    { name := "run", decorators := [], parameters := [none],
      returns := some (.name "None" "None"), place := ⟨2, 4⟩ } [.simple]]]

/-- A module that imports the class and declares one of the same name, with this name as its
base. -/
def appModule : List Stmt :=
  [.importFrom 1 "base" (some [⟨"App", none⟩]), .classDef "App" [.name "App" "App"] [.simple]]

/-- What the two modules declare. -/
def appModules : List Declarations :=
  [.collect "base" "base.py" "provider" baseModule, .collect "app" "app.py" "provider" appModule]

/-- The class of the second module has no method, though the imported one can be run. -/
theorem hasMethod_of_reuses_app : ∃ sets, methodSets appModules = .ok sets ∧
    sets.find? ("app", "App") = some [] ∧ sets.HasMethod ("base", "App") "run" ∧
    ¬ ∀ name, sets.HasMethod ("base", "App") name → sets.HasMethod ("app", "App") name := by
  have hreuses : Reuses "app" "base" "App" "App" [.simple] appModule :=
    ⟨⟨_, List.mem_singleton_self _, rfl, by decide +kernel⟩, .here (by simp [appModule])⟩
  obtain ⟨sets, hsets⟩ : ∃ sets, methodSets appModules = .ok sets := ⟨_, rfl⟩
  obtain ⟨-, -, hown, ⟨d', c', hlast, hmethods⟩, hiff⟩ :=
    hasMethod_of_reuses hreuses (by decide) hsets rfl List.mem_cons_self List.mem_cons_self rfl
  have hbase : sets.HasMethod ("base", "App") "run" := by
    have hlast' : lastDeclared appModules ("base", "App") =
        some (_, .ofClass "base" [] "App" [] _) := rfl
    cases hlast.symm.trans hlast'
    exact hmethods ⟨"run", 0, 0⟩ (List.mem_singleton_self _)
  refine ⟨sets, hsets, hown, hbase, ?_⟩
  rw [hiff]
  intro hall
  cases hall "run" hbase

end Declarations

end Wiring
