import Wiring.Declaration.Basic
import Wiring.Text.Pieces

/-!
# Collecting declarations

`Declarations.collect` gathers what the statements of a module declare, in the order of the source.
The bodies of functions are not entered: what they declare is known nowhere else.

This is the class `DeclarationCollector`, a visitor whose stack of classes is here an argument;
`collect` is `collect_declarations` after parsing.
-/

namespace Wiring

open Source (FunctionHead ImportedName Stmt)

/-- The module that a path with dots before it means, as seen from a module: a dot stands for the
package of that module, and each further one for the package around it. This is
`_resolve_relative`. -/
def resolveRelative (moduleName : String) (dots : Nat) (path : String) : String :=
  let parts := if moduleName == "" then [] else Text.pieces '.' moduleName
  let package := if dots == 0 then [] else parts.take (parts.length - dots)
  ".".intercalate (package ++ if path == "" then [] else [path])

namespace Declarations

/-- Binds the local name of an imported module. Without a name of its own, only the first part of
the module's name is bound. This is `visit_Import`. -/
def importModule (d : Declarations) (imported : ImportedName) : Declarations :=
  let (name, target) := match imported.alias? with
    | some name => (name, imported.name)
    | none =>
      let head := (Text.pieces '.' imported.name).headD ""
      (head, head)
  { d with moduleAliases := d.moduleAliases.insert name target }

/-- Binds the local name of a name imported from a module: `visit_ImportFrom`. -/
def importName (module : String) (d : Declarations) (imported : ImportedName) : Declarations :=
  { d with
    importedNames :=
      d.importedNames.insert (imported.alias?.getD imported.name) (module, imported.name) }

/-- The module that an import names. -/
def importedModule (d : Declarations) (dots : Nat) (path : String) : String :=
  if dots == 0 then path else resolveRelative d.moduleName dots path

/-- The dotted path of the module and the given classes in it: `_scope`. -/
def scopeOf (d : Declarations) (enclosing : List String) : String :=
  dotted (d.moduleName :: enclosing)

/-- Adds a class that is declared within others, the outermost first. This is `visit_ClassDef`. -/
def addClass (d : Declarations) (enclosing : List String) (name : String)
    (bases : List Source.Expr) (body : List Stmt) : Declarations :=
  let decl : ClassDecl :=
    { name, scope := d.scopeOf enclosing, methods := body.filterMap Stmt.method?, bases }
  { d with classes := d.classes ++ [decl] }

/-- Adds a provider that is declared within classes, the outermost first. This is
`visit_FunctionDef`. -/
def addProvider (d : Declarations) (enclosing : List String) (head : FunctionHead) : Declarations :=
  let decl : ProviderDecl :=
    { qualifiedName := d.scopeOf (enclosing ++ [head.name]), head,
      owner := enclosing.getLast?.map fun name => (name, d.scopeOf enclosing.dropLast),
      isStatic := head.isStatic }
  { d with providers := d.providers ++ [decl] }

mutual

/-- Adds what a statement within the given classes declares. -/
def visit (marker : String) (enclosing : List String) (d : Declarations) : Stmt → Declarations
  | .importModules names => names.foldl importModule d
  | .importFrom dots path (some names) => names.foldl (importName (d.importedModule dots path)) d
  | .importFrom _ _ none => d
  | .function head _ => if head.hasDecorator marker then d.addProvider enclosing head else d
  | .classDef name bases body =>
    visitAll marker (enclosing ++ [name]) (d.addClass enclosing name bases body) body
  | .compound body => visitAll marker enclosing d body
  | .simple => d

/-- Adds what statements within the given classes declare. -/
def visitAll (marker : String) (enclosing : List String) (d : Declarations) :
    List Stmt → Declarations
  | [] => d
  | s :: ss => visitAll marker enclosing (visit marker enclosing d s) ss

end

/-- What the statements of a module declare. Functions with the marker as a decorator are providers.
This is `collect_declarations`. -/
def collect (moduleName filePath marker : String) (stmts : List Stmt) : Declarations :=
  visitAll marker [] { moduleName, filePath } stmts

end Declarations

end Wiring
