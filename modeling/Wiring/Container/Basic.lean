import Wiring.Container.Error
import Wiring.TypeKey.Index

/-!
# The state of a container and what can be asked of it

A container lists its nodes in the order in which they were made; a node's number is its place in
that list. Two indices say which nodes provide and which require a type. Edges are not stored: a
node has an edge to every node that requires a type it provides.

The missing node is made when a query first needs it. Queries that may make it run in
`StateM Container`; all others are plain functions of the container.

The queries are those of the class `Container`, under the names that its methods have. That class
keeps a counter and a store for each kind of node, as `Ledger` does; what a ledger answers is what
its container answers (`Container.Reachable.answers_ledger`).
-/

namespace Wiring

/-- A container of providers. -/
structure Container where
  /-- Tells this container's nodes from those of other containers. -/
  tag : Nat := 0
  /-- The name of the method that makes a type runnable. -/
  rootMethod : String := "run"
  /-- The roles of the nodes; a node's number is its place. -/
  roles : List Role := []
  /-- The provider nodes that provide each type. -/
  providedBy : TypeIndex Nat := .empty
  /-- The nodes that require each type. -/
  requiredBy : TypeIndex Nat := .empty
deriving Repr

namespace Container

/-- An empty container whose runnable types have a nullary method `rootMethod`. -/
def new (rootMethod : String := "run") (tag : Nat := 0) : Container := { tag, rootMethod }

instance : Inhabited Container := ⟨new⟩

/-! ### Nodes -/

/-- The number that the next node will get. -/
def nextId (c : Container) : Nat := c.roles.length

/-- The node with the given number and role. -/
def nodeOf (c : Container) (id : Nat) (role : Role) : Node := { owner := c.tag, id, role }

/-- The node with the given number. -/
def node? (c : Container) (id : Nat) : Option Node := c.nodeOf id <$> c.roles[id]?

/-- The nodes that have been made so far, in order of their numbers. -/
def members (c : Container) : List Node := c.roles.mapIdx fun id role => c.nodeOf id role

/-- The nodes with the given numbers. -/
def nodesOf (c : Container) (ids : List Nat) : List Node := ids.filterMap c.node?

/-- The provider nodes, in order of insertion. -/
def providers (c : Container) : List Node := c.members.filter (·.role.isProvider)

/-- The root node, if a root is set. -/
def root? (c : Container) : Option Node := c.members.find? (·.role.rootType?.isSome)

/-- The type of the root, if a root is set. -/
def rootType? (c : Container) : Option TypeKey := c.roles.findSome? Role.rootType?

/-- A root is set: `has_root`. -/
def hasRoot (c : Container) : Bool := c.rootType?.isSome

/-- The root node; it is an error to ask for it before a root is set. -/
def root (c : Container) : Except GraphError Node :=
  match c.root? with
  | some r => .ok r
  | none => .error .noRoot

/-- The missing node, if it has been made. -/
def missing? (c : Container) : Option Node := c.members.find? (·.role.isMissing)

/-- The container in which the missing node has been made. -/
def withMissing (c : Container) : Container :=
  if c.roles.any Role.isMissing then c else { c with roles := c.roles ++ [.missing] }

/-- The missing node, made if it is not there yet: `missing_node`. -/
def missing : StateM Container Node := do
  modify withMissing
  let c ← get
  return c.missing?.getD (c.nodeOf c.nextId .missing)

/-- A node belongs to a container if it was made for it and has a number given out there. -/
def has (c : Container) (n : Node) : Bool := n.owner == c.tag && n.idInRange c.nextId

/-- All nodes in order of their numbers, the missing node included. -/
def nodes : StateM Container (List Node) := do
  modify withMissing
  return (← get).members

/-- The number of nodes, the missing node included: `node_count`. -/
def nodeCount : StateM Container Nat := do return (← nodes).length

/-! ### Types -/

/-- No node provides `t`. -/
def isUnmet (c : Container) (t : TypeKey) : Bool := (c.providedBy.nodes t).isEmpty

/-- The types that some node requires and no node provides, in the order in which they were first
required: `unsatisfied_types`. -/
def unsatisfied (c : Container) : List TypeKey := c.requiredBy.types.filter c.isUnmet

/-- The types that a node of the given role provides; the missing node provides what is
unsatisfied at the time. -/
def providesOf (c : Container) : Role → List TypeKey
  | .provider p => p.provides
  | .root _ => []
  | .missing => c.unsatisfied

/-- The types that a node provides. -/
def provides (c : Container) (n : Node) : List TypeKey := c.providesOf n.role

/-! ### Edges -/

/-- The members of a list in ascending order and without repetition: `_by_id`. -/
def ascending (ids : List Nat) : List Nat := ids.eraseDups.mergeSort (· ≤ ·)

/-- The nodes to which an edge leads from `u`: those that require a type that `u` provides. -/
def successors (c : Container) (u : Node) : List Node :=
  if c.has u then c.nodesOf (ascending ((c.provides u).flatMap c.requiredBy.nodes)) else []

/-- The nodes from which an edge leads to `v`: for each type that `v` requires those that provide
it, or the missing node. The missing node is made if it is among them. -/
def predecessors (v : Node) : StateM Container (List Node) := do
  if !(← get).has v then return []
  if v.requires.any (← get).isUnmet then modify withMissing
  let c ← get
  let ids := v.requires.flatMap fun t =>
    if c.isUnmet t then (c.roles.findIdx? Role.isMissing).toList else c.providedBy.nodes t
  return c.nodesOf (ascending ids)

/-- The node `v` is listed as requiring `t`. -/
def isConsumer (c : Container) (v : Node) (t : TypeKey) : Bool :=
  v.listed && (c.requiredBy.nodes t).any fun id => (id : Int) == v.id

/-- The types that `u` provides and `v` requires, each once: `_connecting_types`. -/
def connectingTypes (c : Container) (u v : Node) : List TypeKey :=
  if c.has u && c.has v then (TypeKey.distinct (c.provides u)).filter (c.isConsumer v) else []

/-- An edge leads from `u` to `v`: `has_edge_from_to`. -/
def hasEdgeFromTo (c : Container) (u v : Node) : Bool := !(c.connectingTypes u v).isEmpty

/-- An edge leads from one of the nodes to the other: `has_edge_between`. -/
def hasEdgeBetween (c : Container) (u v : Node) : Bool :=
  c.hasEdgeFromTo u v || c.hasEdgeFromTo v u

/-- The edge from `u` to `v`, if there is one. -/
def edge? (c : Container) (u v : Node) : Option Edge :=
  match c.connectingTypes u v with
  | [] => none
  | types => some { source := u, target := v, types }

/-- The edges from the nodes of a list to their successors, in that order. -/
def edgesFrom (c : Container) (ns : List Node) : List (Node × Node × Option Edge) :=
  ns.flatMap fun u => (c.successors u).map fun v => (u, v, c.edge? u v)

/-- All nodes, and after them the edges of the whole graph: for each node in turn an entry for each
of its successors. This is `to_networkx`. -/
def graph : StateM Container (List Node × List (Node × Node × Option Edge)) := do
  let ns ← nodes
  return (ns, (← get).edgesFrom ns)

/-- The number of edges: `edge_count`. -/
def edgeCount : StateM Container Nat := do
  let ns ← nodes
  let c ← get
  return ns.foldl (fun count n => count + (c.successors n).length) 0

end Container

end Wiring
