import Wiring.Container.Node

/-!
# What can go wrong with a container
-/

namespace Wiring

/-- Why an operation on a container failed: the subclasses of `WiregraphError`, and a sort that
fails. -/
inductive GraphError where
  /-- The provider has a defect and was not added. -/
  | invalidProvider (provider : Provider) (defect : Provider.Defect)
  /-- A root is needed and none is set. -/
  | noRoot
  /-- A second root was to be set. -/
  | rootAlreadySet (existing attempted : TypeKey)
  /-- One provider yields several runnable types. -/
  | ambiguousRoot (candidates : List TypeKey)
  /-- The nodes needed by the root form a cycle. -/
  | cyclicDependency (cycle : List Node)
  /-- The nodes needed by the root could not be sorted although they form no cycle. -/
  | unsorted
deriving Repr

namespace GraphError

/-- The wording of an error. It names types, and a type that lacks an argument has no printed
form. -/
def message : GraphError → Except TypeKey.MissingArgument String
  | .invalidProvider p defect => .ok ("invalid provider " ++ p.name ++ ": " ++ defect.message)
  | .noRoot => .ok "no root set for container"
  | .rootAlreadySet existing attempted => do
    return "root already set to " ++ (← existing.text) ++ ", cannot set it to " ++
      (← attempted.text)
  | .ambiguousRoot candidates => do
    return "ambiguous root detected among " ++ (← TypeKey.textList candidates)
  | .cyclicDependency cycle => do
    return "Circular dependency detected: " ++
      " -> ".intercalate (← (cycle ++ cycle.take 1).mapM Node.text)
  | .unsorted => .ok "Graph contains a cycle or graph changed during iteration"

/-- The wording of a defect with the place where the provider is declared in front:
`error_with_position`. -/
def positionedDefect (p : Provider) (defect : Provider.Defect) : String :=
  p.position.text ++ ": invalid provider " ++ p.name ++ ": " ++ defect.message

end GraphError

end Wiring
