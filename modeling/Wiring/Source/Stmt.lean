import Wiring.Source.Expr
import Wiring.Text.Newline

/-!
# Statements

What a statement declares: imports, functions and classes. All other statements count only for the
statements that they contain.
-/

namespace Wiring.Source

/-- A name that is imported, and the local name it gets, if another one is given. -/
structure ImportedName where
  /-- The name, with dots between its parts. -/
  name : String
  /-- The local name. -/
  alias? : Option String
deriving DecidableEq, Repr

/-- The head of a function. -/
structure FunctionHead where
  /-- Its name. -/
  name : String
  /-- Its decorators, the first one first. -/
  decorators : List Expr
  /-- The annotations of its parameters in the order of `_all_params`; a parameter may have none. -/
  parameters : List (Option Expr)
  /-- The annotation of its result. -/
  returns : Option Expr
  /-- Where the function starts, its decorators left aside. -/
  place : Text.Place
deriving Repr

/-- A statement. -/
inductive Stmt where
  /-- An import of modules. -/
  | importModules (names : List ImportedName)
  /-- An import of names out of the module at a path, which may start with dots. Without names,
  all of them are imported. -/
  | importFrom (dots : Nat) (path : String) (names : Option (List ImportedName))
  /-- A function. -/
  | function (head : FunctionHead) (body : List Stmt)
  /-- A class with its positional base expressions. -/
  | classDef (name : String) (bases : List Expr) (body : List Stmt)
  /-- A statement that contains others. -/
  | compound (body : List Stmt)
  /-- Any other statement. -/
  | simple
deriving Repr, Inhabited

end Wiring.Source
