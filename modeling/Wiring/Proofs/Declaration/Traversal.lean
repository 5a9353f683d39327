import Wiring.Proofs.Declaration.Collection

/-!
# Collecting on the way through a module

Declarations can be collected by a traversal that comes to each statement, goes through what is in
it and leaves it again, and meanwhile keeps the classes that it is in on a stack (`Collector`).
Bodies of functions are passed over. `traverseAll_eq` shows that this gathers what
`Declarations.visitAll` gathers, and that the stack is at the end what it was at the beginning.

What a module declares is therefore a matter of the statements that are reached (`Stmt.reachedAll`):
they declare what they do by themselves, one after the other (`visitAll_eq_foldl`). A class and a
marked function each add one declaration, whose scope and owner are told by the classes around it.
Bodies of functions do not come into this, and a module can be cut down to its outline without any
loss but that of places (`collect_outlineAll`).
-/

namespace Wiring

open Source (FunctionHead Stmt)

namespace Declarations

/-! ## What a statement declares by itself -/

/-- Adds what a statement within the given classes declares by itself, whatever is in it. -/
def declare (marker : String) (enclosing : List String) (d : Declarations) : Stmt → Declarations
  | .importModules names => names.foldl importModule d
  | .importFrom dots path (some names) => names.foldl (importName (d.importedModule dots path)) d
  | .function head _ => if head.hasDecorator marker then d.addProvider enclosing head else d
  | .classDef name bases body => d.addClass enclosing name bases body
  | .importFrom _ _ none | .compound _ | .simple => d

/-- Adds what statements declare by themselves, each within the classes that it comes with. -/
def declareAll (marker : String) (d : Declarations) (es : List (List String × Stmt)) :
    Declarations :=
  es.foldl (fun d e => d.declare marker e.1 e.2) d

mutual

/-- A statement adds what those that are reached in it declare by themselves. -/
theorem visit_eq_declareAll (marker : String) (enclosing : List String) (d : Declarations) :
    ∀ s : Stmt, visit marker enclosing d s = d.declareAll marker (Stmt.reached enclosing s)
  | .classDef name bases body => by
    rw [visit, Stmt.reached, visitAll_eq_declareAll marker (enclosing ++ [name])]
    rfl
  | .compound body => by
    rw [visit, Stmt.reached, visitAll_eq_declareAll marker enclosing]
    rfl
  | .importFrom _ _ none | .importFrom _ _ (some _) | .importModules _ | .function _ _
  | .simple => by
    rw [visit, Stmt.reached]
    rfl

/-- Statements add what those that are reached in them declare by themselves. -/
theorem visitAll_eq_declareAll (marker : String) (enclosing : List String) (d : Declarations) :
    ∀ ss : List Stmt,
      visitAll marker enclosing d ss = d.declareAll marker (Stmt.reachedAll enclosing ss)
  | [] => by
    rw [visitAll, Stmt.reachedAll]
    rfl
  | s :: ss => by
    rw [visitAll, Stmt.reachedAll, visit_eq_declareAll marker enclosing d s,
      visitAll_eq_declareAll marker enclosing _ ss]
    exact List.foldl_append.symm

end

end Declarations

/-! ## The traversal -/

/-- What a traversal keeps while it is under way. -/
structure Collector where
  /-- What is declared by the statements that it has come to. -/
  declarations : Declarations
  /-- The names of the classes that it is in, the outermost first. -/
  stack : List String

namespace Collector

/-- The traversal comes to a statement. -/
def enter (marker : String) (c : Collector) (s : Stmt) : Collector where
  declarations := c.declarations.declare marker c.stack s
  stack :=
    match s with
    | .classDef name _ _ => c.stack ++ [name]
    | _ => c.stack

/-- The traversal leaves a statement. -/
def leave (c : Collector) : Stmt → Collector
  | .classDef .. => { c with stack := c.stack.dropLast }
  | _ => c

mutual

/-- Goes through a statement. The body of a function is passed over. -/
def traverse (marker : String) (c : Collector) : Stmt → Collector
  | .classDef name bases body =>
    (traverseAll marker (c.enter marker (.classDef name bases body)) body).leave
      (.classDef name bases body)
  | .compound body =>
    (traverseAll marker (c.enter marker (.compound body)) body).leave (.compound body)
  | .function head body => (c.enter marker (.function head body)).leave (.function head body)
  | .importModules names => (c.enter marker (.importModules names)).leave (.importModules names)
  | .importFrom dots path names =>
    (c.enter marker (.importFrom dots path names)).leave (.importFrom dots path names)
  | .simple => (c.enter marker .simple).leave .simple

/-- Goes through statements, one after the other. -/
def traverseAll (marker : String) (c : Collector) : List Stmt → Collector
  | [] => c
  | s :: ss => traverseAll marker (traverse marker c s) ss

end

mutual

/-- Going through a statement gathers what it declares and leaves the stack as it was. -/
theorem traverse_eq (marker : String) (c : Collector) :
    ∀ s : Stmt, c.traverse marker s =
      ⟨Declarations.visit marker c.stack c.declarations s, c.stack⟩
  | .classDef name bases body => by
    rw [traverse, traverseAll_eq, Declarations.visit]
    -- The name that was put on the stack for the class is the last one there.
    show Collector.mk _ (c.stack ++ [name]).dropLast = _
    rw [List.dropLast_concat]
    rfl
  | .compound body => by
    rw [traverse, traverseAll_eq, Declarations.visit]
    rfl
  | .importFrom _ _ none | .importFrom _ _ (some _) | .importModules _ | .function _ _
  | .simple => by
    rw [traverse, Declarations.visit]
    rfl

/-- So does going through statements. -/
theorem traverseAll_eq (marker : String) (c : Collector) :
    ∀ ss : List Stmt, c.traverseAll marker ss =
      ⟨Declarations.visitAll marker c.stack c.declarations ss, c.stack⟩
  | [] => by rw [traverseAll, Declarations.visitAll]
  | s :: ss => by
    rw [traverseAll, traverse_eq marker c s, traverseAll_eq, Declarations.visitAll]

end

end Collector

/-! ## The classes and providers that are declared -/

/-- The provider that a statement declares by itself within the given module and classes. -/
def ProviderDecl.ofReached? (moduleName marker : String) :
    List String × Stmt → Option ProviderDecl
  | (enclosing, .function head _) =>
    if head.hasDecorator marker then
      some {
        qualifiedName := dotted (moduleName :: enclosing ++ [head.name])
        head
        owner := enclosing.getLast?.map fun name =>
          (name, dotted (moduleName :: enclosing.dropLast))
        isStatic := head.isStatic }
    else none
  | _ => none

namespace Declarations

/-- A statement declares at most one provider by itself. -/
theorem providers_declare (marker : String) (enclosing : List String) (d : Declarations)
    (s : Stmt) : (d.declare marker enclosing s).providers =
      d.providers ++ (ProviderDecl.ofReached? d.moduleName marker (enclosing, s)).toList := by
  cases s with
  | importModules names =>
    rw [declare, foldl_importModule_eq]
    exact (List.append_nil _).symm
  | importFrom dots path names =>
    cases names with
    | none => exact (List.append_nil _).symm
    | some names =>
      rw [declare, foldl_importName_eq]
      exact (List.append_nil _).symm
  | function head body =>
    rw [declare, ProviderDecl.ofReached?]
    split
    · rfl
    · exact (List.append_nil _).symm
  | classDef | compound | simple => exact (List.append_nil _).symm

/-- No statement changes the name of the module. -/
theorem moduleName_declare (marker : String) (enclosing : List String) (d : Declarations)
    (s : Stmt) : (d.declare marker enclosing s).moduleName = d.moduleName := by
  cases s with
  | importModules names => exact (records_importModules d names).moduleName
  | importFrom dots path names =>
    cases names with
    | none => rfl
    | some names => exact (records_importNames d dots path names).moduleName
  | function head body =>
    rw [declare]
    split
    · rfl
    · rfl
  | classDef | compound | simple => rfl

/-- Statements declare the providers that each of them declares by itself. -/
theorem providers_declareAll (marker : String) (d : Declarations) (es : List (List String × Stmt)) :
    (d.declareAll marker es).providers =
      d.providers ++ es.filterMap (ProviderDecl.ofReached? d.moduleName marker) := by
  induction es generalizing d with
  | nil => exact (List.append_nil _).symm
  | cons e es ih =>
    have hstep : d.declareAll marker (e :: es) =
        (d.declare marker e.1 e.2).declareAll marker es := rfl
    have hfirst := providers_declare marker e.1 d e.2
    rw [hstep, ih, hfirst, moduleName_declare, List.append_assoc]
    cases hprovider : ProviderDecl.ofReached? d.moduleName marker e with
    | none => rw [List.filterMap_cons_none hprovider]; rfl
    | some p => rw [List.filterMap_cons_some hprovider]; rfl

/-- The classes of a module are those of the statements that are reached. -/
theorem classes_collect_eq_filterMap (moduleName filePath marker : String) (stmts : List Stmt) :
    (collect moduleName filePath marker stmts).classes =
      (Stmt.reachedAll [] stmts).filterMap (ClassDecl.ofReached? moduleName) := by
  rw [classes_collect, ClassDecl.ofStmts_eq_filterMap]

/-- So are its providers. -/
theorem providers_collect_eq_filterMap (moduleName filePath marker : String) (stmts : List Stmt) :
    (collect moduleName filePath marker stmts).providers =
      (Stmt.reachedAll [] stmts).filterMap (ProviderDecl.ofReached? moduleName marker) := by
  rw [collect, visitAll_eq_declareAll, providers_declareAll]
  exact List.nil_append _

end Declarations

/-! ## Owners -/

/-- The innermost of the classes around a statement stands within the others. -/
theorem Within.exists_classDef {s : Stmt} {around : List String} {ss : List Stmt}
    (h : Within s around ss) : ∀ outer name, around = outer ++ [name] →
      ∃ bases body, Within (.classDef name bases body) outer ss := by
  induction h with
  | here =>
    intro outer name haround
    exact absurd haround.symm (List.append_ne_nil_of_right_ne_nil outer (List.cons_ne_nil name []))
  | compound hbody _ ih =>
    intro outer name haround
    obtain ⟨bases, body, hwithin⟩ := ih outer name haround
    exact ⟨bases, body, .compound hbody hwithin⟩
  | @inside around' ss body' first bases' hclass _ ih =>
    intro outer name haround
    cases outer with
    | nil =>
      -- The class is the only one around.
      obtain ⟨rfl, -⟩ := List.cons.inj haround
      exact ⟨bases', body', .here hclass⟩
    | cons first' outer =>
      obtain ⟨rfl, hrest⟩ := List.cons.inj haround
      obtain ⟨bases, body, hwithin⟩ := ih outer name hrest
      exact ⟨bases, body, .inside hclass hwithin⟩

/-- Only a marked function declares a provider, and the innermost class around it owns it. -/
theorem ProviderDecl.owner_of_ofReached? {moduleName marker : String} {e : List String × Stmt}
    {p : ProviderDecl} (hp : ofReached? moduleName marker e = some p) :
    p.owner = e.1.getLast?.map fun name => (name, dotted (moduleName :: e.1.dropLast)) := by
  unfold ofReached? at hp
  split at hp
  · split at hp
    · rw [← Option.some.inj hp]
    · cases hp
  · cases hp

/-- The class that owns a provider is declared. -/
theorem Declarations.exists_owner {moduleName filePath marker : String} {stmts : List Stmt}
    {p : ProviderDecl} {name scope : String}
    (hp : p ∈ (collect moduleName filePath marker stmts).providers)
    (howner : p.owner = some (name, scope)) :
    ∃ c ∈ (collect moduleName filePath marker stmts).classes, c.name = name ∧ c.scope = scope := by
  rw [providers_collect_eq_filterMap] at hp
  obtain ⟨⟨around, s⟩, hreached, hp⟩ := List.mem_filterMap.mp hp
  rw [ProviderDecl.owner_of_ofReached? hp] at howner
  obtain ⟨last, hlast, hkey⟩ := Option.map_eq_some_iff.mp howner
  obtain ⟨rfl, rfl⟩ := Prod.mk.inj hkey
  have haround : around = around.dropLast ++ [last] :=
    (List.dropLast_append_getLast? last hlast).symm
  have hwithin := Stmt.mem_reachedAll_iff.mp hreached
  obtain ⟨bases, body, hclass⟩ := hwithin.exists_classDef around.dropLast last haround
  rw [classes_collect]
  exact ⟨_, ClassDecl.mem_ofStmts_iff.mpr ⟨_, last, bases, body, hclass, rfl⟩, rfl, rfl⟩

/-! ## Outlines -/

namespace Source

/-- The head of a function without its place. -/
def FunctionHead.unplaced (head : FunctionHead) : FunctionHead := { head with place := {} }

mutual

/-- The statement without the bodies of its functions and without the places of these. -/
def Stmt.outline : Stmt → Stmt
  | .function head _ => .function head.unplaced []
  | .classDef name bases body => .classDef name bases (outlineAll body)
  | .compound body => .compound (outlineAll body)
  | .importModules names => .importModules names
  | .importFrom dots path names => .importFrom dots path names
  | .simple => .simple

/-- The statements without the bodies of their functions and without the places of these. -/
def Stmt.outlineAll : List Stmt → List Stmt
  | [] => []
  | s :: ss => s.outline :: outlineAll ss

end

/-- An outline declares the same method. -/
theorem Stmt.method?_outline (s : Stmt) : s.outline.method? = s.method? := by
  cases s with
  | function head body => rw [outline]; rfl
  | classDef | compound => rw [outline]; rfl
  | importModules | importFrom | simple => rw [outline]

/-- Outlines declare the same methods. -/
theorem Stmt.filterMap_method?_outlineAll (ss : List Stmt) :
    (outlineAll ss).filterMap method? = ss.filterMap method? := by
  induction ss with
  | nil => rw [outlineAll]
  | cons s ss ih => rw [outlineAll, List.filterMap_cons, List.filterMap_cons, method?_outline, ih]

mutual

/-- The outlines of what is reached in a statement are reached in its outline. -/
theorem Stmt.reached_outline (enclosing : List String) :
    ∀ s : Stmt, reached enclosing s.outline = (reached enclosing s).map (Prod.map id outline)
  | .classDef name bases body => by
    rw [outline, reached, reached, reachedAll_outlineAll (enclosing ++ [name]) body, List.map_cons,
      Prod.map_apply, outline]
    rfl
  | .compound body => by
    rw [outline, reached, reached, reachedAll_outlineAll enclosing body, List.map_cons,
      Prod.map_apply, outline]
    rfl
  | .function head body => by
    rw [outline, reached, reached, List.map_singleton, Prod.map_apply, outline]
    rfl
  | .importModules _ | .importFrom .. | .simple => by
    rw [outline, reached, List.map_singleton, Prod.map_apply, outline]
    rfl

/-- So it is with some statements. -/
theorem Stmt.reachedAll_outlineAll (enclosing : List String) :
    ∀ ss : List Stmt,
      reachedAll enclosing (outlineAll ss) = (reachedAll enclosing ss).map (Prod.map id outline)
  | [] => by rw [outlineAll, reachedAll, List.map_nil]
  | s :: ss => by
    rw [outlineAll, reachedAll, reachedAll, List.map_append, reached_outline enclosing s,
      reachedAll_outlineAll enclosing ss]

end

end Source

/-- The declaration of a provider without the place of the function. -/
def ProviderDecl.unplaced (p : ProviderDecl) : ProviderDecl := { p with head := p.head.unplaced }

namespace Declarations

/-- What is declared, without the places of functions. -/
def unplaced (d : Declarations) : Declarations :=
  { d with providers := d.providers.map ProviderDecl.unplaced }

/-- The outline of a statement declares the same, but for places. -/
theorem unplaced_declare (marker : String) (enclosing : List String) (d : Declarations) (s : Stmt) :
    (d.declare marker enclosing s).unplaced = d.unplaced.declare marker enclosing s.outline := by
  cases s with
  | importModules names =>
    rw [Stmt.outline, declare, declare, foldl_importModule_eq, foldl_importModule_eq]
    rfl
  | importFrom dots path names =>
    rw [Stmt.outline]
    cases names with
    | none => rfl
    | some names =>
      rw [declare, declare, foldl_importName_eq, foldl_importName_eq]
      rfl
  | function head body =>
    have hmarked : head.unplaced.hasDecorator marker = head.hasDecorator marker := rfl
    rw [Stmt.outline, declare, declare, hmarked]
    split
    · exact congrArg (fun providers => { d with providers }) List.map_append
    · rfl
  | classDef name bases body =>
    rw [Stmt.outline, declare, declare, addClass, addClass, Stmt.filterMap_method?_outlineAll]
    rfl
  | compound body => rw [Stmt.outline]; rfl
  | simple => rw [Stmt.outline]; rfl

/-- Outlines declare the same, but for places. -/
theorem unplaced_declareAll (marker : String) (d : Declarations) (es : List (List String × Stmt)) :
    (d.declareAll marker es).unplaced =
      d.unplaced.declareAll marker (es.map (Prod.map id Stmt.outline)) := by
  induction es generalizing d with
  | nil => rfl
  | cons e es ih =>
    have hstep : d.declareAll marker (e :: es) =
        (d.declare marker e.1 e.2).declareAll marker es := rfl
    rw [hstep, ih, unplaced_declare]
    rfl

/-- What is collected of a module is, but for places, what is collected of its outline. -/
theorem collect_outlineAll (moduleName filePath marker : String) (stmts : List Stmt) :
    (collect moduleName filePath marker stmts).unplaced =
      collect moduleName filePath marker (Stmt.outlineAll stmts) := by
  rw [collect, collect, visitAll_eq_declareAll, visitAll_eq_declareAll, unplaced_declareAll,
    Stmt.reachedAll_outlineAll]
  rfl

/-! ## What is collected -/

/-- Collecting agrees with the traversal, which leaves nothing on its stack. The classes are the
definitions of classes and the providers the marked functions among the statements that are reached,
in the order of the source; and what is reached are the statements that stand within classes but in
no body of a function. The owner of a provider is one of the classes. Modules of one outline, that
is, which differ only in the bodies of functions and in places, declare the same but for places. -/
theorem collect_spec (moduleName filePath marker : String) (stmts : List Stmt) :
    Collector.traverseAll marker ⟨{ moduleName, filePath }, []⟩ stmts =
      ⟨collect moduleName filePath marker stmts, []⟩ ∧
    (collect moduleName filePath marker stmts).classes =
      (Stmt.reachedAll [] stmts).filterMap (ClassDecl.ofReached? moduleName) ∧
    (collect moduleName filePath marker stmts).providers =
      (Stmt.reachedAll [] stmts).filterMap (ProviderDecl.ofReached? moduleName marker) ∧
    (∀ outer s, (outer, s) ∈ Stmt.reachedAll [] stmts ↔ Within s outer stmts) ∧
    (∀ p ∈ (collect moduleName filePath marker stmts).providers, ∀ name scope,
      p.owner = some (name, scope) →
        ∃ c ∈ (collect moduleName filePath marker stmts).classes,
          c.name = name ∧ c.scope = scope) ∧
    ∀ others, Stmt.outlineAll others = Stmt.outlineAll stmts →
      (collect moduleName filePath marker others).unplaced =
        (collect moduleName filePath marker stmts).unplaced := by
  refine ⟨?_, classes_collect_eq_filterMap moduleName filePath marker stmts,
    providers_collect_eq_filterMap moduleName filePath marker stmts,
    fun outer s => Stmt.mem_reachedAll_iff, fun p hp name scope => exists_owner hp, ?_⟩
  · exact Collector.traverseAll_eq marker _ stmts
  · intro others houtline
    rw [collect_outlineAll, collect_outlineAll, houtline]

/-- A module with a class in a conditional part of another one. The inner class has a marked
function, which starts at the given line and has the given body. -/
def layeredModule (line : Nat) (inside : List Stmt) : List Stmt :=
  [.classDef "Outer" [] [
    .compound [
      .classDef "Inner" [] [
        .function
          { name := "make", decorators := [.name "provider" "provider"], parameters := [],
            returns := some (.name "Outer" "Outer"), place := { line, column := 12 } } inside]]]]

/-- Both classes are collected with the function as provider of the inner one. A class in the body
of the function is not, and it makes no difference to the rest. -/
theorem collect_spec_layered :
    (collect "m" "m.py" "provider"
        (layeredModule 4 [.classDef "Hidden" [] []])).classes.map (fun c => (c.scope, c.name)) =
      [("m", "Outer"), ("m.Outer", "Inner")] ∧
    (collect "m" "m.py" "provider"
        (layeredModule 4 [.classDef "Hidden" [] []])).providers.map
          (fun p => (p.qualifiedName, p.owner)) =
      [("m.Outer.Inner.make", some ("Inner", "m.Outer"))] ∧
    (collect "m" "m.py" "provider" (layeredModule 7 [])).unplaced =
      (collect "m" "m.py" "provider" (layeredModule 4 [.classDef "Hidden" [] []])).unplaced := by
  obtain ⟨-, hclasses, hproviders, -, -, houtline⟩ :=
    collect_spec "m" "m.py" "provider" (layeredModule 4 [.classDef "Hidden" [] []])
  refine ⟨?_, ?_, houtline (layeredModule 7 []) rfl⟩
  · rw [hclasses]
    decide +kernel
  · rw [hproviders]
    decide +kernel

end Declarations

end Wiring
