import Wiring.OrderedMap
import Wiring.TypeKey.Basic

/-!
# Which nodes refer to a type

An index lists, for every type that some node refers to, the nodes that do, each once and in the
order in which they were added. Types stand in the order in which they were first referred to and
keep the form in which they were first seen.

This is the class `TypeIndex`; `add` is its method `add_node`.
-/

namespace Wiring

/-- The nodes that refer to each type. -/
structure TypeIndex (ν : Type) where
  /-- The referring nodes by type. -/
  table : OrderedMap TypeKey (List ν) := .empty
deriving Repr

namespace TypeIndex

variable {ν : Type} [DecidableEq ν]

/-- The index in which no node refers to anything. -/
def empty : TypeIndex ν := {}

/-- Adds a node at the end of a list unless it is there already. -/
def addOnce (n : ν) (ns : List ν) : List ν := if n ∈ ns then ns else ns ++ [n]

/-- Records that node `n` refers to type `t`: `add_node`. -/
def add (index : TypeIndex ν) (t : TypeKey) (n : ν) : TypeIndex ν :=
  ⟨index.table.alter t fun ns => addOnce n (ns.getD [])⟩

/-- Records that node `n` refers to every type of a list. -/
def addAll (index : TypeIndex ν) (ts : List TypeKey) (n : ν) : TypeIndex ν :=
  ts.foldl (fun index t => index.add t n) index

/-- The nodes that refer to `t`. -/
def nodes (index : TypeIndex ν) (t : TypeKey) : List ν := (index.table.find? t).getD []

/-- The types that some node refers to. -/
def types (index : TypeIndex ν) : List TypeKey := index.table.keys

/-- Whether some node refers to `t`: `__contains__`. -/
def contains (index : TypeIndex ν) (t : TypeKey) : Bool := index.table.contains t

/-- The number of types that some node refers to: `__len__`. -/
def size (index : TypeIndex ν) : Nat := index.table.size

/-- Adding a node for one type leaves the nodes of every other type as they are. -/
theorem nodes_add (index : TypeIndex ν) (t u : TypeKey) (n : ν) :
    (index.add t n).nodes u = if t == u then addOnce n (index.nodes t) else index.nodes u := by
  simp only [nodes, add, OrderedMap.find?_alter]
  split <;> rfl

end TypeIndex

end Wiring
