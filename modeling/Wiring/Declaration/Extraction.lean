import Wiring.Declaration.Environment
import Wiring.Declaration.Collection
import Wiring.Provider

/-!
# Extracting providers

`Declarations.providersOf` turns the declarations of several modules into providers. All classes are
known before any annotation is read, so it does not matter which module declares a class, or where.

The functions are `resolve_providers`, `_method_sets` and `extract_providers_from_source`, and
`Environment.provider` is the method `provider` of a `TypeResolver`.
-/

namespace Wiring

open Source (LiteralFault Reader Stmt SyntaxFault)

/-- Why a text yields no providers. -/
inductive ExtractionError where
  /-- It is malformed. -/
  | unreadable
  /-- Reading it broke off. -/
  | brokenOff
  /-- A literal among its annotations or bases denotes nothing. -/
  | literal (fault : LiteralFault)
deriving DecidableEq, Repr

/-- The error for a text that is not read. -/
def ExtractionError.ofSyntax : SyntaxFault → ExtractionError
  | .malformed => .unreadable
  | .brokenOff => .brokenOff

variable [Reader]

namespace Environment

/-- The provider that a declaration describes. In a class, a function that is not static is a
method, whose first parameter is the instance. -/
def provider (env : Environment) (decl : ProviderDecl) : Except LiteralFault Provider := do
  let receiver := if decl.isStatic then none else decl.owner.map fun (name, scope) =>
    env.named name scope
  let parameters := decl.head.parameters.drop (if receiver.isSome then 1 else 0)
  return {
    name := decl.qualifiedName
    position :=
      { file := env.declarations.filePath, line := decl.head.place.line,
        column := decl.head.place.column }
    params := ← parameters.mapM env.typeOf?
    results := ← env.resultsOf decl.head.returns
    receiver }

/-- What a class declares, with those of its bases that are declared types. -/
def classBody (env : Environment) (decl : ClassDecl) : Except LiteralFault ClassBody := do
  let types ← decl.bases.mapM env.typeOf
  let bases := types.filter fun t => t.kind == .named
  return { methods := decl.methods, bases := bases.map fun t => (t.scope, t.name) }

end Environment

namespace Declarations

/-- The classes of several modules. Of classes with the same scope and name the last one counts.
`by_key` in `_method_sets` holds them. -/
def hierarchy (modules : List Declarations) : Except LiteralFault Hierarchy :=
  modules.foldlM (fun h d => d.classes.foldlM (fun h decl => do
    return h.insert (decl.scope, decl.name) (← Environment.classBody { declarations := d } decl)) h)
    .empty

/-- The methods of the classes of several modules: `_method_sets`. -/
def methodSets (modules : List Declarations) : Except LiteralFault MethodSets :=
  Hierarchy.methodSets <$> hierarchy modules

/-- The providers of several modules, module by module: `resolve_providers`. -/
def providersOf (modules : List Declarations) : Except LiteralFault (List Provider) := do
  let known ← methodSets modules
  let providers ← modules.mapM fun d =>
    d.providers.mapM (Environment.provider { declarations := d, known })
  return providers.flatten

/-- The declarations of a text: `collect_declarations`. -/
def ofText (text : String) (moduleName : String := "") (filePath : String := "<source>")
    (marker : String := "provider") : Except SyntaxFault Declarations :=
  collect moduleName filePath marker <$> Stmt.read text.toList

end Declarations

/-- The providers that a text declares: `extract_providers_from_source`. -/
def extractProviders (text : String) (moduleName : String := "") (filePath : String := "<source>")
    (marker : String := "provider") : Except ExtractionError (List Provider) := do
  let d ← (Declarations.ofText text moduleName filePath marker).mapError .ofSyntax
  (Declarations.providersOf [d]).mapError .literal

end Wiring
