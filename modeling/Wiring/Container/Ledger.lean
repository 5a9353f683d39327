import Wiring.Container.Order

/-!
# The stores of a container

How a container is kept while it is built: a counter gives out numbers, and each node that is made
takes the next one. There are stores of their own for the nodes of providers, for the root and for
the missing node, and the nodes of a ledger are whatever the stores hold. Where nodes are listed,
they are sorted by the numbers that they were given.

A ledger is the class `Container` with its fields `_next_id`, `_providers`, `_root` and `_missing`.
The functions here are its methods, statement by statement; the other form, `Wiring.Container`, has
one list of roles in place of the counter and the stores.
-/

namespace Wiring

/-- Something with the number that was given out for it. -/
structure Stamped (α : Type) where
  /-- The number. -/
  id : Nat
  /-- What it was given out for. -/
  item : α
deriving Repr

/-- A container with its counter and its stores: the object state that `Container.__init__` sets
up. -/
structure Ledger where
  /-- Tells the nodes of this container from those of others. -/
  tag : Nat := 0
  /-- The name of the method that makes a type runnable. -/
  rootMethod : String := "run"
  /-- The number that is given out next. -/
  nextId : Nat := 0
  /-- The providers that were added, in that order. -/
  providers : List (Stamped Provider) := []
  /-- The type that was set as the root. -/
  root? : Option (Stamped TypeKey) := none
  /-- The number of the missing node, once it has been made. -/
  missing? : Option Nat := none
  /-- The numbers of the nodes that provide each type. -/
  providedBy : TypeIndex Nat := .empty
  /-- The numbers of the nodes that require each type. -/
  requiredBy : TypeIndex Nat := .empty
deriving Repr

namespace Ledger

/-- An empty ledger. -/
def new (rootMethod : String := "run") (tag : Nat := 0) : Ledger := { tag, rootMethod }

instance : Inhabited Ledger := ⟨new⟩

/-! ### Nodes -/

/-- The node with the given number and role. -/
def nodeOf (l : Ledger) (id : Nat) (role : Role) : Node := { owner := l.tag, id, role }

/-- The provider nodes, in order of insertion: `providers`. -/
def providerNodes (l : Ledger) : List Node :=
  l.providers.map fun s => l.nodeOf s.id (.provider s.item)

/-- The root node, if a root is set. -/
def rootNode? (l : Ledger) : Option Node := l.root?.map fun s => l.nodeOf s.id (.root s.item)

/-- The missing node, if it has been made. -/
def missingNode? (l : Ledger) : Option Node := l.missing?.map fun id => l.nodeOf id .missing

/-- What the stores hold: the missing node, the provider nodes and the root node. -/
def known (l : Ledger) : List Node :=
  l.missingNode?.toList ++ l.providerNodes ++ l.rootNode?.toList

/-- A root is set: `has_root`. -/
def hasRoot (l : Ledger) : Bool := l.root?.isSome

/-- The root node; it is an error to ask for it before a root is set. -/
def root (l : Ledger) : Except GraphError Node :=
  match l.rootNode? with
  | some r => .ok r
  | none => .error .noRoot

/-- Gives out a number: `_allocate_id`. -/
def allocateId : StateM Ledger Nat :=
  modifyGet fun l => (l.nextId, { l with nextId := l.nextId + 1 })

/-- The number of the missing node, which is made at the first access: `missing_node`. -/
def missingId : StateM Ledger Nat := do
  match (← get).missing? with
  | some id => return id
  | none =>
    let id ← allocateId
    modify fun l => { l with missing? := some id }
    return id

/-- The missing node. -/
def missing : StateM Ledger Node := do
  let id ← missingId
  return (← get).nodeOf id .missing

/-- A node belongs to a container if it was made for it and has a number given out there. -/
def has (l : Ledger) (n : Node) : Bool := n.owner == l.tag && n.idInRange l.nextId

/-- The nodes of a list in the order of their numbers: `_by_id`. -/
def inOrder (ns : List Node) : List Node := ns.mergeSort fun m n => decide (m.id ≤ n.id)

/-- All nodes in the order of their numbers, the missing node included. -/
def nodes : StateM Ledger (List Node) := do
  discard missing
  return inOrder (← get).known

/-- The number of nodes, the missing node included: `node_count`. -/
def nodeCount : StateM Ledger Nat := do return (← nodes).length

/-- The node that a number was given out for. -/
def node? (l : Ledger) (id : Nat) : Option Node := l.known.find? (·.id == id)

/-- The nodes with the given numbers. -/
def nodesOf (l : Ledger) (ids : List Nat) : List Node := ids.filterMap l.node?

/-- The nodes with the given numbers, each once and in the order of the numbers: `_by_id`. -/
def byId (l : Ledger) (ids : List Nat) : List Node := inOrder (l.nodesOf ids.eraseDups)

/-! ### Types and edges -/

/-- No node provides `t`. -/
def isUnmet (l : Ledger) (t : TypeKey) : Bool := (l.providedBy.nodes t).isEmpty

/-- The types that some node requires and no node provides: `unsatisfied_types`. -/
def unsatisfied (l : Ledger) : List TypeKey := l.requiredBy.types.filter l.isUnmet

/-- The types that a node provides; the missing node provides what is unsatisfied at the time. These
are the methods `provides` of the classes of nodes. -/
def provides (l : Ledger) (n : Node) : List TypeKey :=
  match n.role with
  | .provider p => p.provides
  | .root _ => []
  | .missing => l.unsatisfied

/-- The nodes to which an edge leads from `u`. -/
def successors (l : Ledger) (u : Node) : List Node :=
  if l.has u then l.byId ((l.provides u).flatMap l.requiredBy.nodes) else []

/-- The numbers of the nodes that provide a type, or that of the missing node. -/
def producers (t : TypeKey) : StateM Ledger (List Nat) := do
  match (← get).providedBy.nodes t with
  | [] => return [← missingId]
  | ids => return ids

/-- The nodes from which an edge leads to `v`. -/
def predecessors (v : Node) : StateM Ledger (List Node) := do
  if !(← get).has v then return []
  let ids ← v.requires.mapM producers
  return (← get).byId ids.flatten

/-- The node `v` is listed as requiring `t`. -/
def isConsumer (l : Ledger) (v : Node) (t : TypeKey) : Bool :=
  v.listed && (l.requiredBy.nodes t).any fun id => (id : Int) == v.id

/-- The types that `u` provides and `v` requires, each once: `_connecting_types`. -/
def connectingTypes (l : Ledger) (u v : Node) : List TypeKey :=
  if l.has u && l.has v then (TypeKey.distinct (l.provides u)).filter (l.isConsumer v) else []

/-- An edge leads from `u` to `v`: `has_edge_from_to`. -/
def hasEdgeFromTo (l : Ledger) (u v : Node) : Bool := !(l.connectingTypes u v).isEmpty

/-- An edge leads from one of the nodes to the other: `has_edge_between`. -/
def hasEdgeBetween (l : Ledger) (u v : Node) : Bool := l.hasEdgeFromTo u v || l.hasEdgeFromTo v u

/-- The edge from `u` to `v`, if there is one. -/
def edge? (l : Ledger) (u v : Node) : Option Edge :=
  match l.connectingTypes u v with
  | [] => none
  | types => some { source := u, target := v, types }

/-- The edges from the nodes of a list to their successors, in that order. -/
def edgesFrom (l : Ledger) (ns : List Node) : List (Node × Node × Option Edge) :=
  ns.flatMap fun u => (l.successors u).map fun v => (u, v, l.edge? u v)

/-- All nodes and all edges: `to_networkx`. -/
def graph : StateM Ledger (List Node × List (Node × Node × Option Edge)) := do
  let ns ← nodes
  return (ns, (← get).edgesFrom ns)

/-- The number of edges: `edge_count`. -/
def edgeCount : StateM Ledger Nat := do
  let ns ← nodes
  let l ← get
  return ns.foldl (fun count n => count + (l.successors n).length) 0

/-! ### Construction -/

/-- An operation that builds a container: what it changed stays changed when it fails. -/
abbrev Building (α : Type) : Type := ExceptT GraphError (StateM Ledger) α

/-- Sets the root; a container has at most one. This is `set_root`. -/
def setRoot (type : TypeKey) : Building Node := do
  match (← get).root? with
  | some existing => throw (.rootAlreadySet existing.item type)
  | none =>
    let id ← allocateId
    modify fun l => { l with root? := some ⟨id, type⟩ }
    modify fun l => { l with requiredBy := l.requiredBy.add type id }
    return (← get).nodeOf id (.root type)

/-- Makes the one runnable type of a list the root; there is nothing to do if there is none. These
are the cases of `detect_root_type`. -/
def detectRoot (types : List TypeKey) : Building Unit := do
  match TypeKey.runnables (← get).rootMethod types with
  | [] => return
  | [type] => discard (setRoot type)
  | candidates => throw (.ambiguousRoot candidates)

/-- Adds a provider: `add_provider`. -/
def addProvider (p : Provider) : Building Node := do
  match p.defect? with
  | some defect => throw (.invalidProvider p defect)
  | none =>
    let id ← allocateId
    modify fun l => { l with providers := l.providers ++ [⟨id, p⟩] }
    modify fun l => { l with providedBy := l.providedBy.addAll p.provides id }
    modify fun l => { l with requiredBy := l.requiredBy.addAll p.requires id }
    detectRoot p.provides
    return (← get).nodeOf id (.provider p)

/-- Adds providers in order and stops at the first failure: `add_providers`. -/
def addProviders (ps : List Provider) : Building (List Node) := ps.mapM addProvider

/-! ### Cycles and the build order -/

/-- The graph on the numbers of the nodes of a list. -/
def digraph (l : Ledger) (ns : List Node) : Digraph where
  vertices := ns.map (·.id.toNat)
  arcs := ns.flatMap fun u => (l.successors u).map fun v => (u.id.toNat, v.id.toNat)

/-- The nodes of one dependency cycle, or the empty list: `find_cycle`. -/
def findCycle : StateM Ledger (List Node) := do
  let ns ← nodes
  let l ← get
  return l.nodesOf (l.digraph ns).findCycle

/-- The root and all that it transitively requires, each node after those that provide for it, and
the smallest possible number at each position: `build_order`. -/
def buildOrder : Building (List Node) := do
  let r ← (← get).root
  let ns ← nodes
  let l ← get
  let needed := (l.digraph ns).leadingTo r.id.toNat
  match needed.findCycle with
  | [] =>
    match needed.order? with
    | some ids => return l.nodesOf ids
    | none => throw .unsorted
  | cycle => throw (.cyclicDependency (l.nodesOf cycle))

end Ledger

end Wiring
