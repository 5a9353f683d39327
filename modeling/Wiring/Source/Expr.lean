import Wiring.Source.Lexeme

/-!
# Expressions

What an expression is, as far as its use as a type, a base class, a decorator or a target shows.
Each expression has its code: the characters of the source, the parentheses around it included.
-/

namespace Wiring.Source

/-- An expression. The first field of each kind is its code. -/
inductive Expr where
  /-- A name, which may be one of the constants. -/
  | name (code id : String)
  /-- A member of a value. -/
  | member (code : String) (value : Expr) (attr : String)
  /-- A single text or octet literal. -/
  | literal (code literal : String)
  /-- Three dots. -/
  | ellipsis (code : String)
  /-- A value with indices. The slices among them are left out, and stars are dropped. -/
  | subscript (code : String) (value : Expr) (elements : List Expr)
  /-- Two expressions joined by a bar. -/
  | union (code : String) (left right : Expr)
  /-- A call. -/
  | call (code : String) (function : Expr)
  /-- An expression after a star. -/
  | starred (code : String) (value : Expr)
  /-- Items with commas between them. -/
  | tuple (code : String) (items : List Expr)
  /-- Items in square brackets. -/
  | list (code : String) (items : List Expr)
  /-- Any other expression. -/
  | other (code : String)
deriving Repr, Inhabited

namespace Expr

/-- The code of an expression: `_code`. -/
def code : Expr → String
  | name code _ | member code _ _ | literal code _ | ellipsis code | subscript code _ _
  | union code _ _ | call code _ | starred code _ | tuple code _ | list code _ | other code => code

/-- The expression with other code, such as that with parentheses around it. -/
def withCode (code : String) : Expr → Expr
  | name _ id => name code id
  | member _ value attr => member code value attr
  | literal _ text => literal code text
  | ellipsis _ => ellipsis code
  | subscript _ value elements => subscript code value elements
  | union _ left right => union code left right
  | call _ function => call code function
  | starred _ value => starred code value
  | tuple _ items => tuple code items
  | list _ items => list code items
  | other _ => other code

/-- The names that stand for constants. -/
def constants : List String := ["None", "True", "False"]

/-- The expression is the name of the absent value. -/
def isNone : Expr → Bool
  | name _ id => id == "None"
  | _ => false

/-- The expression is three dots. -/
def isEllipsis : Expr → Bool
  | ellipsis _ => true
  | _ => false

/-- The expression has a star before it. -/
def isStarred : Expr → Bool
  | starred .. => true
  | _ => false

/-- The expression is a name without parentheses that can be bound. -/
def isBareName : Expr → Bool
  | name code id => code == id && id ∉ constants
  | _ => false

/-- One value can be bound to the expression. -/
def isSingleTarget : Expr → Bool
  | name _ id => id ∉ constants
  | member .. | subscript .. => true
  | _ => false

mutual

/-- Values can be bound to the expression. -/
def isTarget : Expr → Bool
  | name _ id => id ∉ constants
  | member .. | subscript .. => true
  | tuple _ items | list _ items => areTargets items
  | _ => false

/-- Values can be bound to each of the expressions; a star may stand before each. -/
def areTargets : List Expr → Bool
  | [] => true
  | starred _ e :: es => isTarget e && areTargets es
  | e :: es => isTarget e && areTargets es

end

/-- Values can be bound to the expression, which may have a star. -/
def isStarTarget : Expr → Bool
  | starred _ e => isTarget e
  | e => isTarget e

mutual

/-- What the expression is bound to can be released. -/
def isDeletable : Expr → Bool
  | name _ id => id ∉ constants
  | member .. | subscript .. => true
  | tuple _ items | list _ items => areDeletable items
  | _ => false

/-- What each of the expressions is bound to can be released. -/
def areDeletable : List Expr → Bool
  | [] => true
  | e :: es => isDeletable e && areDeletable es

end

end Expr

end Wiring.Source
