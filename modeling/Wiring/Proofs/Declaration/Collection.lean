import Wiring.Declaration.Environment
import Wiring.Proofs.Declaration.Import
import Wiring.Proofs.Source.Statement

/-!
# What is collected of classes

Collecting passes through a module once and keeps what it meets. `ClassDecl.ofStmts` says which
classes these are without regard to the pass: the class definitions outside of bodies of functions,
in the order of the source, each in the scope of the classes around it. `classes_collect` equates
the two. They are the classes among the statements that are reached (`Stmt.reachedAll`), which are
those that stand within classes but in no body of a function (`Within`); so `mem_ofStmts_iff` says
of each class which classes it stands within. A class that the module defines outside of other
classes is one of them (`declaresClass_of_atModuleLevel`).
-/

namespace Wiring

open Source (Stmt)

namespace ClassDecl

mutual

/-- The classes that a statement defines within the given module and classes. -/
def ofStmt (moduleName : String) (enclosing : List String) : Stmt → List ClassDecl
  | .classDef name bases body =>
    { name, scope := dotted (moduleName :: enclosing), methods := body.filterMap Stmt.method?,
      bases } :: ofStmts moduleName (enclosing ++ [name]) body
  | .compound body => ofStmts moduleName enclosing body
  | .importModules _ | .importFrom _ _ _ | .function _ _ | .simple => []

/-- The classes that statements define within the given module and classes. -/
def ofStmts (moduleName : String) (enclosing : List String) : List Stmt → List ClassDecl
  | [] => []
  | s :: ss => ofStmt moduleName enclosing s ++ ofStmts moduleName enclosing ss

end

end ClassDecl

namespace Declarations

mutual

/-- A statement adds the classes that it defines. -/
theorem classes_visit (marker : String) (enclosing : List String) (d : Declarations) :
    ∀ s : Stmt, (visit marker enclosing d s).classes =
      d.classes ++ ClassDecl.ofStmt d.moduleName enclosing s
  | .importModules names => by
    rw [visit, ClassDecl.ofStmt, foldl_importModule_eq, List.append_nil]
  | .importFrom dots path (some names) => by
    rw [visit, ClassDecl.ofStmt, foldl_importName_eq, List.append_nil]
  | .importFrom _ _ none => by
    rw [visit, ClassDecl.ofStmt, List.append_nil]
  | .function head body => by
    rw [visit, ClassDecl.ofStmt, List.append_nil]
    split
    · rfl
    · rfl
  | .classDef name bases body => by
    rw [visit, ClassDecl.ofStmt, classes_visitAll marker (enclosing ++ [name])]
    exact List.append_assoc _ _ _
  | .compound body => by
    rw [visit, ClassDecl.ofStmt]
    exact classes_visitAll marker enclosing d body
  | .simple => by
    rw [visit, ClassDecl.ofStmt, List.append_nil]

/-- Statements add the classes that they define. -/
theorem classes_visitAll (marker : String) (enclosing : List String) (d : Declarations) :
    ∀ ss : List Stmt, (visitAll marker enclosing d ss).classes =
      d.classes ++ ClassDecl.ofStmts d.moduleName enclosing ss
  | [] => by
    rw [visitAll, ClassDecl.ofStmts, List.append_nil]
  | s :: ss => by
    rw [visitAll, ClassDecl.ofStmts, classes_visitAll marker enclosing, classes_visit marker,
      (records_visit marker enclosing d s).moduleName, List.append_assoc]

end

/-- The classes of a module are those that its statements define. -/
theorem classes_collect (moduleName filePath marker : String) (stmts : List Stmt) :
    (collect moduleName filePath marker stmts).classes = ClassDecl.ofStmts moduleName [] stmts := by
  rw [collect, classes_visitAll]
  exact List.nil_append _

/-- Collecting keeps the name of the module. -/
theorem moduleName_collect (moduleName filePath marker : String) (stmts : List Stmt) :
    (collect moduleName filePath marker stmts).moduleName = moduleName :=
  (records_visitAll marker [] { moduleName, filePath } stmts).moduleName

end Declarations

/-- The statement stands in a module outside of classes and functions, but possibly within other
statements. -/
inductive AtModuleLevel (s : Stmt) : List Stmt → Prop where
  /-- It is one of the statements. -/
  | here {ss : List Stmt} (h : s ∈ ss) : AtModuleLevel s ss
  /-- It stands within one of them. -/
  | within {ss body : List Stmt} (hbody : .compound body ∈ ss) (h : AtModuleLevel s body) :
    AtModuleLevel s ss

/-- The statement stands in a module within classes of the given names, the outermost first. -/
inductive Within (s : Stmt) : List String → List Stmt → Prop where
  /-- It is one of the statements. -/
  | here {ss : List Stmt} (h : s ∈ ss) : Within s [] ss
  /-- It stands within one of them that is no class. -/
  | compound {outer : List String} {ss body : List Stmt} (hbody : .compound body ∈ ss)
    (h : Within s outer body) : Within s outer ss
  /-- It stands within a class. -/
  | inside {outer : List String} {ss body : List Stmt} {name : String} {bases : List Source.Expr}
    (hclass : .classDef name bases body ∈ ss) (h : Within s outer body) :
    Within s (name :: outer) ss

/-- What stands within some statements stands within more of them. -/
theorem Within.mono {s : Stmt} {outer : List String} {ss ss' : List Stmt} (h : Within s outer ss)
    (hsub : ss ⊆ ss') : Within s outer ss' := by
  cases h with
  | here h => exact .here (hsub h)
  | compound hbody h => exact .compound (hsub hbody) h
  | inside hclass h => exact .inside (hsub hclass) h

/-- At the level of the module there are no classes around. -/
theorem AtModuleLevel.within_nil {s : Stmt} {ss : List Stmt} (h : AtModuleLevel s ss) :
    Within s [] ss := by
  induction h with
  | here h => exact .here h
  | within hbody _ ih => exact .compound hbody ih

/-- Where there are no classes around, a statement stands at the level of the module. -/
theorem Within.atModuleLevel {s : Stmt} {ss : List Stmt} (h : Within s [] ss) :
    AtModuleLevel s ss := by
  generalize hnone : ([] : List String) = outer at h
  induction h with
  | here h => exact .here h
  | compound hbody _ ih => exact .within hbody (ih hnone)
  | inside => cases hnone

/-- The names of the classes around a statement are declared. -/
theorem Within.mem_declaredNamesOf {s : Stmt} {outer : List String} {ss : List Stmt}
    (h : Within s outer ss) : ∀ n ∈ outer, n ∈ Stmt.declaredNamesOf ss := by
  induction h with
  | here => rintro n ⟨⟩
  | compound hbody _ ih =>
    intro n hn
    rw [Stmt.declaredNamesOf_eq_flatMap]
    refine List.mem_flatMap.mpr ⟨_, hbody, ?_⟩
    rw [Stmt.declaredNames]
    exact ih n hn
  | inside hclass _ ih =>
    intro n hn
    rw [Stmt.declaredNamesOf_eq_flatMap]
    refine List.mem_flatMap.mpr ⟨_, hclass, ?_⟩
    rw [Stmt.declaredNames]
    exact List.mem_cons.mpr ((List.mem_cons.mp hn).imp_right (ih n))

/-- So are the names in the statement. -/
theorem Within.declaredNames_subset {s : Stmt} {outer : List String} {ss : List Stmt}
    (h : Within s outer ss) : s.declaredNames ⊆ Stmt.declaredNamesOf ss := by
  induction h with
  | here h =>
    intro n hn
    rw [Stmt.declaredNamesOf_eq_flatMap]
    exact List.mem_flatMap.mpr ⟨s, h, hn⟩
  | compound hbody _ ih =>
    intro n hn
    rw [Stmt.declaredNamesOf_eq_flatMap]
    refine List.mem_flatMap.mpr ⟨_, hbody, ?_⟩
    rw [Stmt.declaredNames]
    exact ih hn
  | inside hclass _ ih =>
    intro n hn
    rw [Stmt.declaredNamesOf_eq_flatMap]
    refine List.mem_flatMap.mpr ⟨_, hclass, ?_⟩
    rw [Stmt.declaredNames]
    exact List.mem_cons_of_mem _ (ih hn)

namespace Source.Stmt

mutual

/-- The statement and those in it that stand in no body of a function, in the order of the source.
Each comes with the names of the classes around it, the outermost first. -/
def reached (enclosing : List String) : Stmt → List (List String × Stmt)
  | .classDef name bases body =>
    (enclosing, .classDef name bases body) :: reachedAll (enclosing ++ [name]) body
  | .compound body => (enclosing, .compound body) :: reachedAll enclosing body
  | .function head body => [(enclosing, .function head body)]
  | .importModules names => [(enclosing, .importModules names)]
  | .importFrom dots path names => [(enclosing, .importFrom dots path names)]
  | .simple => [(enclosing, .simple)]

/-- The statements, with those in them that stand in no body of a function. -/
def reachedAll (enclosing : List String) : List Stmt → List (List String × Stmt)
  | [] => []
  | s :: ss => reached enclosing s ++ reachedAll enclosing ss

end

/-- What is reached in statements is reached in one of them. -/
theorem reachedAll_eq_flatMap (enclosing : List String) (ss : List Stmt) :
    reachedAll enclosing ss = ss.flatMap (reached enclosing) := by
  induction ss with
  | nil => rw [reachedAll, List.flatMap_nil]
  | cons s ss ih => rw [reachedAll, List.flatMap_cons, ih]

/-- A statement is reached itself, before what is in it. -/
theorem exists_reached_eq_cons (enclosing : List String) (s : Stmt) :
    ∃ inside, reached enclosing s = (enclosing, s) :: inside := by
  cases s with
  | classDef name bases body => exact ⟨_, by rw [reached]⟩
  | compound body => exact ⟨_, by rw [reached]⟩
  | function | importModules | importFrom | simple => exact ⟨[], by rw [reached]⟩

variable {around : List String} {s : Stmt}

mutual

/-- What is reached in a statement stands within classes in it. -/
theorem exists_within_of_mem_reached (enclosing : List String) :
    ∀ t : Stmt, (around, s) ∈ reached enclosing t →
      ∃ outer, around = enclosing ++ outer ∧ Within s outer [t]
  | .classDef name bases body, h => by
    rw [reached] at h
    rcases List.mem_cons.mp h with h | h
    · obtain ⟨rfl, rfl⟩ := Prod.mk.inj h
      exact ⟨[], (List.append_nil _).symm, .here List.mem_cons_self⟩
    · obtain ⟨outer, rfl, hwithin⟩ := exists_within_of_mem_reachedAll (enclosing ++ [name]) body h
      refine ⟨name :: outer, ?_, .inside List.mem_cons_self hwithin⟩
      rw [List.append_assoc, List.singleton_append]
  | .compound body, h => by
    rw [reached] at h
    rcases List.mem_cons.mp h with h | h
    · obtain ⟨rfl, rfl⟩ := Prod.mk.inj h
      exact ⟨[], (List.append_nil _).symm, .here List.mem_cons_self⟩
    · obtain ⟨outer, rfl, hwithin⟩ := exists_within_of_mem_reachedAll enclosing body h
      exact ⟨outer, rfl, .compound List.mem_cons_self hwithin⟩
  | .function .., h | .importModules _, h | .importFrom .., h | .simple, h => by
    rw [reached] at h
    obtain ⟨rfl, rfl⟩ := Prod.mk.inj (List.mem_singleton.mp h)
    exact ⟨[], (List.append_nil _).symm, .here List.mem_cons_self⟩

/-- So does what is reached in some statements. -/
theorem exists_within_of_mem_reachedAll (enclosing : List String) :
    ∀ ss : List Stmt, (around, s) ∈ reachedAll enclosing ss →
      ∃ outer, around = enclosing ++ outer ∧ Within s outer ss
  | [], h => by rw [reachedAll] at h; cases h
  | t :: ss, h => by
    rw [reachedAll] at h
    rcases List.mem_append.mp h with h | h
    · obtain ⟨outer, rfl, hwithin⟩ := exists_within_of_mem_reached enclosing t h
      exact ⟨outer, rfl, hwithin.mono (by simp)⟩
    · obtain ⟨outer, rfl, hwithin⟩ := exists_within_of_mem_reachedAll enclosing ss h
      exact ⟨outer, rfl, hwithin.mono (List.subset_cons_self _ _)⟩

end

/-- What stands within some classes is reached with their names. -/
theorem mem_reachedAll_of_within {outer : List String} {ss : List Stmt} (h : Within s outer ss)
    (enclosing : List String) : (enclosing ++ outer, s) ∈ reachedAll enclosing ss := by
  induction h generalizing enclosing with
  | here hmem =>
    obtain ⟨inside, hfirst⟩ := exists_reached_eq_cons enclosing s
    rw [reachedAll_eq_flatMap, List.append_nil]
    exact List.mem_flatMap.mpr ⟨s, hmem, by rw [hfirst]; exact List.mem_cons_self⟩
  | compound hbody _ ih =>
    rw [reachedAll_eq_flatMap]
    refine List.mem_flatMap.mpr ⟨_, hbody, ?_⟩
    rw [reached]
    exact List.mem_cons_of_mem _ (ih enclosing)
  | @inside outer _ _ name _ hclass _ ih =>
    have hmem := ih (enclosing ++ [name])
    rw [List.append_assoc, List.singleton_append] at hmem
    rw [reachedAll_eq_flatMap]
    refine List.mem_flatMap.mpr ⟨_, hclass, ?_⟩
    rw [reached]
    exact List.mem_cons_of_mem _ hmem

/-- The statements that are reached are those that stand within classes but in no body of a
function. -/
theorem mem_reachedAll_iff {outer : List String} {ss : List Stmt} :
    (outer, s) ∈ reachedAll [] ss ↔ Within s outer ss := by
  constructor
  · intro h
    obtain ⟨outer', houter, hwithin⟩ := exists_within_of_mem_reachedAll [] ss h
    rw [List.nil_append] at houter
    rwa [houter]
  · intro h
    exact mem_reachedAll_of_within h []

end Source.Stmt

namespace ClassDecl

variable {moduleName : String} {c : ClassDecl}

/-- The declaration of a class that is defined within the given module and classes. -/
def ofClass (moduleName : String) (enclosing : List String) (name : String)
    (bases : List Source.Expr) (body : List Stmt) : ClassDecl :=
  { name, scope := dotted (moduleName :: enclosing), methods := body.filterMap Stmt.method?, bases }

/-- The class that a statement defines by itself within the given module and classes. -/
def ofReached? (moduleName : String) : List String × Stmt → Option ClassDecl
  | (enclosing, .classDef name bases body) => some (ofClass moduleName enclosing name bases body)
  | _ => none

mutual

/-- The classes of a statement are those of the statements that are reached in it. -/
theorem ofStmt_eq_filterMap (enclosing : List String) :
    ∀ s : Stmt, ofStmt moduleName enclosing s =
      (Stmt.reached enclosing s).filterMap (ofReached? moduleName)
  | .classDef name bases body => by
    rw [ofStmt, Stmt.reached, List.filterMap_cons, ofStmts_eq_filterMap (enclosing ++ [name]) body]
    rfl
  | .compound body => by
    rw [ofStmt, Stmt.reached, List.filterMap_cons, ofStmts_eq_filterMap enclosing body]
    rfl
  | .function .. | .importModules _ | .importFrom .. | .simple => by
    rw [ofStmt, Stmt.reached]
    rfl

/-- So are the classes of some statements. -/
theorem ofStmts_eq_filterMap (enclosing : List String) :
    ∀ ss : List Stmt, ofStmts moduleName enclosing ss =
      (Stmt.reachedAll enclosing ss).filterMap (ofReached? moduleName)
  | [] => by rw [ofStmts, Stmt.reachedAll, List.filterMap_nil]
  | s :: ss => by
    rw [ofStmts, Stmt.reachedAll, List.filterMap_append, ofStmt_eq_filterMap enclosing s,
      ofStmts_eq_filterMap enclosing ss]

end

/-- Only the definition of a class defines one. -/
theorem ofReached?_eq_some_iff {e : List String × Stmt} :
    ofReached? moduleName e = some c ↔ ∃ outer name bases body,
      e = (outer, .classDef name bases body) ∧ c = ofClass moduleName outer name bases body := by
  constructor
  · intro h
    unfold ofReached? at h
    split at h
    · exact ⟨_, _, _, _, rfl, (Option.some.inj h).symm⟩
    · cases h
  · rintro ⟨outer, name, bases, body, rfl, rfl⟩
    rfl

/-- The classes of some statements are those that stand within classes in them. -/
theorem mem_ofStmts_iff {ss : List Stmt} :
    c ∈ ofStmts moduleName [] ss ↔
      ∃ outer name bases body, Within (.classDef name bases body) outer ss ∧
        c = ofClass moduleName outer name bases body := by
  rw [ofStmts_eq_filterMap, List.mem_filterMap]
  constructor
  · rintro ⟨e, he, hc⟩
    obtain ⟨outer, name, bases, body, rfl, rfl⟩ := ofReached?_eq_some_iff.mp hc
    exact ⟨outer, name, bases, body, Stmt.mem_reachedAll_iff.mp he, rfl⟩
  · rintro ⟨outer, name, bases, body, hwithin, rfl⟩
    exact ⟨_, Stmt.mem_reachedAll_iff.mpr hwithin, rfl⟩

end ClassDecl

/-- A class that is defined at the level of the module is declared there with its bare name. -/
theorem mem_ofStmts_of_atModuleLevel {name : String} {bases : List Source.Expr}
    {body stmts : List Stmt} (h : AtModuleLevel (.classDef name bases body) stmts)
    (moduleName : String) :
    ∃ c ∈ ClassDecl.ofStmts moduleName [] stmts, c.name = name ∧ c.scope = dotted [moduleName] :=
  ⟨_, ClassDecl.mem_ofStmts_iff.mpr ⟨[], name, bases, body, h.within_nil, rfl⟩, rfl, rfl⟩

/-- Of parts that are not empty none is left out. -/
theorem dotted_eq_intercalate {parts : List String} (h : ∀ p ∈ parts, p ≠ "") :
    dotted parts = ".".intercalate parts := by
  unfold dotted
  rw [List.filter_eq_self.mpr fun p hp => by simpa using h p hp]

/-- The scope at the level of a module is its name. -/
theorem dotted_singleton (s : String) : dotted [s] = s := by
  unfold dotted
  by_cases h : s = ""
  · rw [h]
    rfl
  · simp [h]

/-- A module declares the classes that it defines outside of other classes. -/
theorem Environment.declaresClass_of_atModuleLevel {name : String} {bases : List Source.Expr}
    {body stmts : List Stmt} (h : AtModuleLevel (.classDef name bases body) stmts)
    (moduleName filePath marker : String) (known : MethodSets) :
    declaresClass ⟨.collect moduleName filePath marker stmts, known⟩ name = true := by
  obtain ⟨c, hc, hname, hscope⟩ := mem_ofStmts_of_atModuleLevel h moduleName
  unfold declaresClass
  rw [Declarations.classes_collect, Declarations.moduleName_collect, List.any_eq_true]
  refine ⟨c, hc, ?_⟩
  rw [hname, hscope, dotted_singleton]
  simp

end Wiring
