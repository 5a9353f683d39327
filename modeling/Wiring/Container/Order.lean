import Wiring.Container.Construction
import Wiring.Digraph.Cycle
import Wiring.Digraph.Order

/-!
# Cycles and the build order

The graph of a container has the numbers of its nodes as vertices. The build order lists the root
and all it transitively requires, each node after those that provide for it.

These are `find_cycle` and `build_order` of the class `Container`.
-/

namespace Wiring.Container

/-- The graph on the numbers of the nodes made so far. `to_networkx` builds it. -/
def digraph (c : Container) : Digraph where
  vertices := List.range c.nextId
  arcs := (List.range c.nextId).flatMap fun u =>
    match c.node? u with
    | some n => (c.successors n).map fun v => (u, v.id.toNat)
    | none => []

/-- The nodes of one dependency cycle, or the empty list: `find_cycle`. -/
def findCycle : StateM Container (List Node) := do
  modify withMissing
  let c ← get
  return c.nodesOf c.digraph.findCycle

/-- The nodes that the root transitively requires and the root itself, each after all nodes that
provide for it, and the smallest possible number at each position: `build_order`. -/
def buildOrder : Building (List Node) := do
  let r ← (← get).root
  modify withMissing
  let c ← get
  let needed := c.digraph.leadingTo r.id.toNat
  match needed.findCycle with
  | [] =>
    match needed.order? with
    | some ids => return c.nodesOf ids
    | none => throw .unsorted
  | cycle => throw (.cyclicDependency (c.nodesOf cycle))

end Wiring.Container
