import Wiring.Provider

/-!
# Nodes of a container

A container holds three roles of node. A provider node stands for a call of a provider, the root
node for the one value that is wanted in the end, and the missing node for everything that some
node requires and no node provides. A node carries the tag of the container it was made for and a
number that identifies it there.
-/

namespace Wiring

/-- What a node stands for. The constructors are `ProviderNode`, `RootNode` and `MissingNode`. -/
inductive Role where
  /-- A call of a provider. -/
  | provider (p : Provider)
  /-- The value of the given type that is wanted in the end. -/
  | root (type : TypeKey)
  /-- Whatever is required and provided by no node. -/
  | missing
deriving Repr

namespace Role

/-- The types that must be there before a node of this role. -/
def requires : Role → List TypeKey
  | .provider p => p.requires
  | .root type => [type]
  | .missing => []

/-- The node stands for a provider. -/
def isProvider : Role → Bool
  | .provider _ => true
  | _ => false

/-- The type that is wanted in the end, if the node is the root. -/
def rootType? : Role → Option TypeKey
  | .root type => some type
  | _ => none

/-- The node stands for what nobody provides. -/
def isMissing : Role → Bool
  | .missing => true
  | _ => false

/-- The name of the role's class of nodes. -/
def className : Role → String
  | .provider _ => "ProviderNode"
  | .root _ => "RootNode"
  | .missing => "MissingNode"

/-- The printed form: the provider's name, `root(type)` or `missing`. -/
def text : Role → Except TypeKey.MissingArgument String
  | .provider p => .ok p.name
  | .root type => do return "root(" ++ (← type.text) ++ ")"
  | .missing => .ok "missing"

end Role

/-- A node, made for one container. -/
structure Node where
  /-- The tag of the container that the node was made for. -/
  owner : Nat
  /-- The number that identifies the node in its container. -/
  id : Int
  /-- What the node stands for. -/
  role : Role
  /-- The container itself made the node and lists it. A node that was made aside is answered from
  its own role and listed nowhere. -/
  listed : Bool := true
deriving Repr

/-- A node was asked for its number and has none: numbers count from zero. -/
structure NegativeId where
  /-- The class of the node. -/
  className : String
  /-- What the node has in place of a number. -/
  id : Int
deriving DecidableEq, Repr

/-- The wording of a negative number. -/
def NegativeId.message (e : NegativeId) : String :=
  e.className ++ " cannot have a negative id (" ++ toString e.id ++ ")"

/-- Why a node emits no code. -/
inductive NoEmission where
  /-- Code is emitted elsewhere. -/
  | elsewhere
deriving DecidableEq, Repr

/-- The wording of the refusal. -/
def NoEmission.message : NoEmission → String
  | .elsewhere => "code emission is handled by the generator"

namespace Node

/-- The number of a node: `id`. -/
def number (n : Node) : Except NegativeId Nat :=
  if n.id < 0 then .error ⟨n.role.className, n.id⟩ else .ok n.id.toNat

/-- The number of a node lies below `limit`: `id_in_range`. -/
def idInRange (n : Node) (limit : Nat) : Bool := 0 ≤ n.id && n.id < limit

/-- The types that must be there before the node. -/
def requires (n : Node) : List TypeKey := n.role.requires

/-- The printed form of a node. -/
def text (n : Node) : Except TypeKey.MissingArgument String := n.role.text

/-- The form of a node that shows its class and number: `__repr__`. -/
def debugText (n : Node) : String := "<" ++ n.role.className ++ " " ++ toString n.id ++ ">"

/-- The code of a node is never emitted by the graph: `generate`. -/
def emit (_ : Node) : Except NoEmission Unit := .error .elsewhere

end Node

/-- A dependency: `source` provides types that `target` requires. -/
structure Edge where
  /-- The node that provides. -/
  source : Node
  /-- The node that requires. -/
  target : Node
  /-- The types provided by the one and required by the other. -/
  types : List TypeKey
deriving Repr

/-- All edges weigh the same. -/
def Edge.weight (_ : Edge) : Nat := 1

end Wiring
