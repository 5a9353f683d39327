import Wiring.OrderedMap
import Wiring.Source.Stmt
import Wiring.TypeKey.Basic

/-!
# Declarations

What a module declares: its classes, the functions that are marked as providers, and the names that
its imports bind.

The structures are the classes `ClassInfo`, `ProviderInfo` and `ModuleDeclarations`.
-/

namespace Wiring

open Source (Expr FunctionHead Stmt)

/-- The parts of a dotted name that are not empty, with dots between them. -/
def dotted (parts : List String) : String := ".".intercalate (parts.filter (· != ""))

/-- A class that a module declares: `ClassInfo`. -/
structure ClassDecl where
  /-- Its name. -/
  name : String
  /-- The module and the classes around it. -/
  scope : String
  /-- The methods of its own body. -/
  methods : List MethodSignature
  /-- The expressions of its bases. -/
  bases : List Expr
deriving Repr

/-- A function that is marked as a provider: `ProviderInfo`. -/
structure ProviderDecl where
  /-- The module, the classes around it and its name. -/
  qualifiedName : String
  /-- The head of the function. -/
  head : FunctionHead
  /-- The class that it is declared in, with the scope of that class. -/
  owner : Option (String × String)
  /-- It takes no instance of that class. -/
  isStatic : Bool
deriving Repr

/-- What is declared in a module: `ModuleDeclarations`. -/
structure Declarations where
  /-- The dotted name of the module. -/
  moduleName : String := ""
  /-- The path that positions in the module show. -/
  filePath : String := "<source>"
  /-- The classes in the order of the source. -/
  classes : List ClassDecl := []
  /-- The providers in the order of the source. -/
  providers : List ProviderDecl := []
  /-- The local names that are bound to a name of a module. -/
  importedNames : OrderedMap String (String × String) := .empty
  /-- The local names that are bound to a module. -/
  moduleAliases : OrderedMap String String := .empty
deriving Repr

end Wiring

namespace Wiring.Source

namespace FunctionHead

/-- The name of a decorator, the arguments that it is called with left aside: `_decorator_name`. -/
def decoratorName? : Expr → Option String
  | .call _ (.name _ id) | .name _ id => some id
  | .call _ (.member _ _ attr) | .member _ _ attr => some attr
  | _ => none

/-- The function has a decorator of the given name: `_has_decorator`. -/
def hasDecorator (f : FunctionHead) (name : String) : Bool :=
  f.decorators.any fun e => decoratorName? e == some name

/-- The function takes no instance of its class. -/
def isStatic (f : FunctionHead) : Bool := f.hasDecorator "staticmethod"

/-- The annotations of the parameters that callers of a method supply. -/
def ownParameters (f : FunctionHead) : List (Option Expr) :=
  if f.isStatic then f.parameters else f.parameters.drop 1

/-- The shape of the function as a method: `_method_signature`. -/
def signature (f : FunctionHead) : MethodSignature where
  name := f.name
  params := f.ownParameters.length
  results := if f.returns.all Expr.isNone then 0 else 1

end FunctionHead

/-- The shape of the method that a statement of a class body declares. Properties are none. -/
def Stmt.method? : Stmt → Option MethodSignature
  | .function head _ => if head.hasDecorator "property" then none else some head.signature
  | _ => none

end Wiring.Source
