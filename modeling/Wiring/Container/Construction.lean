import Wiring.Container.Basic

/-!
# Adding providers and setting the root

A provider with a defect changes nothing. Any other is added, and if it yields a runnable type that
type becomes the root. When this fails, because there are several such types or because a root is
already set, the provider stays.

These are `set_root`, `add_provider` and `add_providers` of the class `Container`.
-/

namespace Wiring.Container

/-- An operation that builds a container: what it changed stays changed when it fails. -/
abbrev Building (α : Type) : Type := ExceptT GraphError (StateM Container) α

/-- Sets the root; a container has at most one. This is `set_root`. -/
def setRoot (type : TypeKey) : Building Node := do
  let c ← get
  match c.rootType? with
  | some existing => throw (.rootAlreadySet existing type)
  | none =>
    set { c with
      roles := c.roles ++ [Role.root type]
      requiredBy := c.requiredBy.add type c.nextId }
    return c.nodeOf c.nextId (.root type)

/-- The container with a node for `p` and both indices brought up to date. -/
def insertProvider (c : Container) (p : Provider) : Container :=
  { c with
    roles := c.roles ++ [Role.provider p]
    providedBy := c.providedBy.addAll p.provides c.nextId
    requiredBy := c.requiredBy.addAll p.requires c.nextId }

/-- Makes the one runnable type of a list the root; there is nothing to do if there is none. These
are the cases of `detect_root_type`. -/
def detectRoot (types : List TypeKey) : Building Unit := do
  match TypeKey.runnables (← get).rootMethod types with
  | [] => return
  | [type] => discard (setRoot type)
  | candidates => throw (.ambiguousRoot candidates)

/-- Adds a provider: `add_provider`. -/
def addProvider (p : Provider) : Building Node := do
  match p.defect? with
  | some defect => throw (.invalidProvider p defect)
  | none =>
    let c ← get
    set (c.insertProvider p)
    detectRoot p.provides
    return c.nodeOf c.nextId (.provider p)

/-- Adds providers in order and stops at the first failure: `add_providers`. -/
def addProviders (ps : List Provider) : Building (List Node) := ps.mapM addProvider

end Wiring.Container
