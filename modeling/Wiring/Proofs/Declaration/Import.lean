import Mathlib.Data.List.Induction
import Wiring.Declaration.Collection

/-!
# What is recorded of imports

A module can import modules and names out of modules anywhere but in the body of a function, and
these imports are recorded in the order of the source, names with the module that each is resolved
to (`records_visitAll`). What a local name stands for is therefore said by the last import that
binds it, among the imported names (`find?_importedNames_collect`) as well as among the imported
modules (`find?_moduleAliases_collect`).
-/

namespace Wiring

open Source (ImportedName Stmt)

/-- A key has the value that was inserted for it last, or the one from before. -/
theorem OrderedMap.find?_foldl_insert {α β ι : Type} [BEq α] [EquivBEq α] (key : ι → α)
    (value : ι → β) (is : List ι) (m : OrderedMap α β) (x : α) :
    (is.foldl (fun m i => m.insert (key i) (value i)) m).find? x =
      ((is.reverse.find? (key · == x)).map value).or (m.find? x) := by
  induction is using List.reverseRecOn with
  | nil => rfl
  | append_singleton is i ih =>
    rw [List.foldl_append, List.foldl_cons, List.foldl_nil, find?_insert, ih, List.reverse_concat,
      List.find?_cons]
    cases key i == x with
    | true => rfl
    | false => rfl

/-- A name that is imported out of the module at a path, which may start with dots. -/
structure FromImport where
  /-- The number of dots in front of the path. -/
  dots : Nat
  /-- The path after the dots. -/
  path : String
  /-- The name, and under which name it is known here. -/
  imported : ImportedName

namespace FromImport

/-- The name that the import binds. -/
def localName (i : FromImport) : String := i.imported.alias?.getD i.imported.name

/-- The name of the module that is imported from, as seen from a module. -/
def source (moduleName : String) (i : FromImport) : String :=
  if i.dots == 0 then i.path else resolveRelative moduleName i.dots i.path

/-- Records an import in a module. -/
def record (moduleName : String) (names : OrderedMap String (String × String)) (i : FromImport) :
    OrderedMap String (String × String) :=
  names.insert i.localName (i.source moduleName, i.imported.name)

mutual

/-- The names that a statement imports, without those in bodies of functions. -/
def ofStmt : Stmt → List FromImport
  | .importFrom dots path (some names) => names.map fun imported => { dots, path, imported }
  | .classDef _ _ body => ofStmts body
  | .compound body => ofStmts body
  | .importModules _ | .importFrom _ _ none | .function _ _ | .simple => []

/-- The names that statements import, in the order of the source. -/
def ofStmts : List Stmt → List FromImport
  | [] => []
  | s :: ss => ofStmt s ++ ofStmts ss

end

/-- The last of some imports that binds a name. -/
def last? (imports : List FromImport) (x : String) : Option FromImport :=
  imports.reverse.find? (·.localName == x)

/-- A name stands for what the last import that binds it says, or for what it stood for before. -/
theorem find?_foldl_record (moduleName : String) (imports : List FromImport)
    (names : OrderedMap String (String × String)) (x : String) :
    (imports.foldl (record moduleName) names).find? x =
      ((last? imports x).map fun i => (i.source moduleName, i.imported.name)).or
        (names.find? x) := by
  exact OrderedMap.find?_foldl_insert localName
    (fun i => (i.source moduleName, i.imported.name)) imports names x

end FromImport

namespace ModuleImport

/-- The name that an import of a module binds: its own name for the module or, without one, the
first part of the module's name. -/
def localName (imported : ImportedName) : String :=
  imported.alias?.getD ((Text.pieces '.' imported.name).headD "")

/-- The module that the name stands for: without a name of its own, an import leaves the first part
what it is. -/
def target (imported : ImportedName) : String :=
  if imported.alias?.isSome then imported.name else (Text.pieces '.' imported.name).headD ""

mutual

/-- The modules that a statement imports, without those in bodies of functions. -/
def ofStmt : Stmt → List ImportedName
  | .importModules names => names
  | .classDef _ _ body => ofStmts body
  | .compound body => ofStmts body
  | .importFrom _ _ _ | .function _ _ | .simple => []

/-- The modules that statements import, in the order of the source. -/
def ofStmts : List Stmt → List ImportedName
  | [] => []
  | s :: ss => ofStmt s ++ ofStmts ss

end

/-- Records an import of a module. -/
def record (aliases : OrderedMap String String) (imported : ImportedName) :
    OrderedMap String String :=
  aliases.insert (localName imported) (target imported)

/-- The last of some imports of modules that binds a name. -/
def last? (imports : List ImportedName) (x : String) : Option ImportedName :=
  imports.reverse.find? (localName · == x)

end ModuleImport

namespace Declarations

variable {d d' d'' : Declarations} {is js : List FromImport} {ms ns : List ImportedName}

/-- Some declarations become others by recording imports and by what is recorded elsewhere. -/
structure Records (d d' : Declarations) (is : List FromImport) (ms : List ImportedName) : Prop where
  /-- The name of the module stays. -/
  moduleName : d'.moduleName = d.moduleName
  /-- The imported names are recorded one after the other. -/
  importedNames : d'.importedNames = is.foldl (FromImport.record d.moduleName) d.importedNames
  /-- So are the imported modules. -/
  moduleAliases : d'.moduleAliases = ms.foldl ModuleImport.record d.moduleAliases

/-- What changes neither the name of the module nor what is imported records nothing. -/
theorem Records.none (hmodule : d'.moduleName = d.moduleName)
    (hnames : d'.importedNames = d.importedNames) (haliases : d'.moduleAliases = d.moduleAliases) :
    Records d d' [] [] :=
  ⟨hmodule, hnames, haliases⟩

/-- The imports of two steps are recorded one after the other. -/
theorem Records.trans (h : Records d d' is ms) (h' : Records d' d'' js ns) :
    Records d d'' (is ++ js) (ms ++ ns) where
  moduleName := h'.moduleName.trans h.moduleName
  importedNames := by
    rw [h'.importedNames, h.moduleName, h.importedNames, List.foldl_append]
  moduleAliases := by
    rw [h'.moduleAliases, h.moduleAliases, List.foldl_append]

/-- An import of modules records them among the imported modules and changes nothing else. -/
theorem foldl_importModule_eq (d : Declarations) (names : List ImportedName) :
    names.foldl importModule d =
      { d with moduleAliases := names.foldl ModuleImport.record d.moduleAliases } := by
  induction names generalizing d with
  | nil => rfl
  | cons imported names ih =>
    obtain ⟨name, _ | localName⟩ := imported
    · exact ih _
    · exact ih _

/-- An import of names records them among the imported names and changes nothing else. -/
theorem foldl_importName_eq (source : String) (d : Declarations) (names : List ImportedName) :
    names.foldl (importName source) d =
      { d with
        importedNames := names.foldl (fun m imported =>
          m.insert (imported.alias?.getD imported.name) (source, imported.name))
            d.importedNames } := by
  induction names generalizing d with
  | nil => rfl
  | cons imported names ih => exact ih _

/-- An import of modules binds no names out of modules. -/
theorem records_importModules (d : Declarations) (names : List ImportedName) :
    Records d (names.foldl importModule d) [] names := by
  rw [foldl_importModule_eq]
  exact ⟨rfl, rfl, rfl⟩

/-- The names of an import are recorded with the module that they come from. -/
theorem records_importNames (d : Declarations) (dots : Nat) (path : String)
    (names : List ImportedName) :
    Records d (names.foldl (importName (d.importedModule dots path)) d)
      (names.map fun imported => { dots, path, imported }) [] := by
  rw [foldl_importName_eq]
  refine ⟨rfl, ?_, rfl⟩
  rw [List.foldl_map]
  rfl

mutual

/-- A statement records the names that it imports. -/
theorem records_visit (marker : String) (enclosing : List String) (d : Declarations) :
    ∀ s : Stmt, Records d (visit marker enclosing d s) (FromImport.ofStmt s) (ModuleImport.ofStmt s)
  | .importModules names => by
    rw [visit, FromImport.ofStmt, ModuleImport.ofStmt]
    exact records_importModules d names
  | .importFrom dots path (some names) => by
    rw [visit, FromImport.ofStmt, ModuleImport.ofStmt]
    exact records_importNames d dots path names
  | .importFrom _ _ none => by
    rw [visit, FromImport.ofStmt, ModuleImport.ofStmt]
    exact .none rfl rfl rfl
  | .function head body => by
    rw [visit, FromImport.ofStmt, ModuleImport.ofStmt]
    split
    · exact .none rfl rfl rfl
    · exact .none rfl rfl rfl
  | .classDef name bases body => by
    rw [visit, FromImport.ofStmt, ModuleImport.ofStmt]
    have hclass : Records d (d.addClass enclosing name bases body) [] [] :=
      .none rfl rfl rfl
    exact hclass.trans (records_visitAll marker _ _ body)
  | .compound body => by
    rw [visit, FromImport.ofStmt, ModuleImport.ofStmt]
    exact records_visitAll marker enclosing d body
  | .simple => by
    rw [visit, FromImport.ofStmt, ModuleImport.ofStmt]
    exact .none rfl rfl rfl

/-- Statements record the names that they import. -/
theorem records_visitAll (marker : String) (enclosing : List String) (d : Declarations) :
    ∀ ss : List Stmt,
      Records d (visitAll marker enclosing d ss) (FromImport.ofStmts ss) (ModuleImport.ofStmts ss)
  | [] => by
    rw [visitAll, FromImport.ofStmts, ModuleImport.ofStmts]
    exact .none rfl rfl rfl
  | s :: ss => by
    rw [visitAll, FromImport.ofStmts, ModuleImport.ofStmts]
    exact (records_visit marker enclosing d s).trans (records_visitAll marker enclosing _ ss)

end

/-- A name that a module imports stands for what the last import that binds it says. -/
theorem find?_importedNames_collect (moduleName filePath marker : String) (stmts : List Stmt)
    (x : String) :
    (collect moduleName filePath marker stmts).importedNames.find? x =
      (FromImport.last? (FromImport.ofStmts stmts) x).map fun i =>
        (i.source moduleName, i.imported.name) := by
  have hrecords := (records_visitAll marker [] { moduleName, filePath } stmts).importedNames
  rw [collect, hrecords, FromImport.find?_foldl_record]
  exact Option.or_none

/-- A name that a module binds to a module stands for what the last import that binds it says. -/
theorem find?_moduleAliases_collect (moduleName filePath marker : String) (stmts : List Stmt)
    (x : String) :
    (collect moduleName filePath marker stmts).moduleAliases.find? x =
      (ModuleImport.last? (ModuleImport.ofStmts stmts) x).map ModuleImport.target := by
  have hrecords := (records_visitAll marker [] { moduleName, filePath } stmts).moduleAliases
  rw [collect, hrecords]
  exact (OrderedMap.find?_foldl_insert ModuleImport.localName ModuleImport.target
    (ModuleImport.ofStmts stmts) _ x).trans Option.or_none

/-- A name that no import of a name binds is not among the imported names. -/
theorem find?_importedNames_eq_none {stmts : List Stmt} {x : String}
    (hnone : ∀ i ∈ FromImport.ofStmts stmts, i.localName ≠ x)
    (moduleName filePath marker : String) :
    (collect moduleName filePath marker stmts).importedNames.find? x = none := by
  have hlast : (FromImport.ofStmts stmts).reverse.find? (·.localName == x) = none := by
    rw [List.find?_eq_none]
    intro i hi hlocal
    exact hnone i (List.mem_reverse.mp hi) (eq_of_beq hlocal)
  rw [find?_importedNames_collect, FromImport.last?, hlast]
  rfl

/-- A name that no import of a module binds is not among the imported modules. -/
theorem find?_moduleAliases_eq_none {stmts : List Stmt} {x : String}
    (hnone : ∀ imported ∈ ModuleImport.ofStmts stmts, ModuleImport.localName imported ≠ x)
    (moduleName filePath marker : String) :
    (collect moduleName filePath marker stmts).moduleAliases.find? x = none := by
  have hlast : (ModuleImport.ofStmts stmts).reverse.find? (ModuleImport.localName · == x) =
      none := by
    rw [List.find?_eq_none]
    intro imported himported hlocal
    exact hnone imported (List.mem_reverse.mp himported) (eq_of_beq hlocal)
  rw [find?_moduleAliases_collect, ModuleImport.last?, hlast]
  rfl

end Declarations

end Wiring
