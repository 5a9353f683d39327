import Wiring.Source.Expr

/-!
# The order of parameters and arguments

Parameters and arguments are read as lists of items. Not every order of items is allowed: one that a
position decides stands before those that only a name decides, and a parameter that may be left out
stands after those that may not.
-/

namespace Wiring.Source

/-- An item of a list of parameters. -/
inductive Parameter where
  /-- A single parameter. -/
  | plain (type : Option Expr) (hasDefault : Bool)
  /-- The slash after which names count. -/
  | slash
  /-- The star after which only names count. -/
  | star
  /-- The parameter of all further positional arguments. -/
  | packed (type : Option Expr)
  /-- The parameter of all further named arguments. -/
  | keywords (type : Option Expr)
deriving Repr

namespace Parameter

/-- The annotation of an item, if it is a parameter. -/
def type? : Parameter → Option (Option Expr)
  | plain type _ | packed type | keywords type => some type
  | slash | star => none

/-- The items may follow a star. A star without a name is followed by a parameter. -/
def mayFollowStar (bare : Bool) : List Parameter → Bool
  | [] => !bare
  | plain .. :: rest => mayFollowStar false rest
  | [keywords _] => !bare
  | _ => false

/-- The items may follow others, which have a place for a slash or not, and hold a default or
not. -/
def mayFollow (slashFits hasDefault : Bool) (slashSeen : Bool) : List Parameter → Bool
  | [] => true
  | plain _ default :: rest =>
    (default || !hasDefault) && mayFollow (!slashSeen) default slashSeen rest
  | slash :: rest => slashFits && mayFollow false hasDefault true rest
  | star :: rest => mayFollowStar true rest
  | packed _ :: rest => mayFollowStar false rest
  | [keywords _] => true
  | keywords _ :: _ => false

/-- The items form a list of parameters. -/
def inOrder (items : List Parameter) : Bool := mayFollow false false false items

end Parameter

/-- An argument of a call, or of the head of a class. -/
inductive Argument where
  /-- A value. -/
  | positional (value : Expr)
  /-- The values of a collection. -/
  | starred (value : Expr)
  /-- A value with a name. -/
  | keyword (name : String) (value : Expr)
  /-- The named values of a map. -/
  | keywords (value : Expr)
deriving Repr

namespace Argument

/-- The arguments may follow others, among which there is a name, or a map of names, or none. -/
def mayFollow (hasKeyword hasKeywords : Bool) : List Argument → Bool
  | [] => true
  | positional _ :: rest => !hasKeyword && !hasKeywords && mayFollow hasKeyword hasKeywords rest
  | starred _ :: rest => !hasKeywords && mayFollow hasKeyword hasKeywords rest
  | keyword .. :: rest => mayFollow true hasKeywords rest
  | keywords _ :: rest => mayFollow hasKeyword true rest

/-- The arguments stand in an order that is allowed in a call. -/
def inOrder (args : List Argument) : Bool := mayFollow false false args

/-- The value of an argument without a name, its star left aside. -/
def unnamed? : Argument → Option Expr
  | positional value | starred value => some value
  | keyword .. | keywords _ => none

/-- The arguments stand in an order that is allowed in the head of a class: none without a name
follows one with a name. -/
def namesLast (args : List Argument) : Bool :=
  (args.dropWhile (·.unnamed?.isSome)).all (·.unnamed?.isNone)

end Argument

end Wiring.Source
