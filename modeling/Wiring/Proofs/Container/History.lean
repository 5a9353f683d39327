import Mathlib.Logic.Relation
import Wiring.Container.Order
import Wiring.Proofs.Failure

/-!
# What a container can become

A container starts out empty and is then only used through its operations: providers are added, a
root is set, and queries are asked. `Container.after` runs a list of operations, failing ones
included, and a container is `Reachable` when some list of operations leads to it from an empty one.

All that an operation can do to the state is a row of elementary changes (`Change`): a node is put
at the end and both indices are brought up to date, where the node is one of a valid provider, or
the root node or the missing node while there is none. `grows_apply` shows this for each operation
from one equation that says how it runs, so that what holds of reachable containers can be shown
change by change (`Reachable.induction`).
-/

namespace Wiring

/-- The types that a node of the given role provides of itself; the missing node provides none of
itself. -/
def Role.provides : Role → List TypeKey
  | .provider p => p.provides
  | .root _ => []
  | .missing => []

namespace Container

open Relation

/-! ## Operations -/

/-- A question to a container. -/
inductive Query where
  /-- The nodes. -/
  | nodes
  /-- The number of nodes. -/
  | nodeCount
  /-- The number of edges. -/
  | edgeCount
  /-- The missing node. -/
  | missing
  /-- The nodes from which an edge leads to a node. -/
  | predecessors (v : Node)
  /-- The whole graph. -/
  | graph
  /-- One cycle. -/
  | findCycle
  /-- The build order. -/
  | buildOrder
  /-- Whether a node belongs to the container. -/
  | has (n : Node)
  /-- The provider nodes. -/
  | providers
  /-- The root node. -/
  | root
  /-- The types that no node provides. -/
  | unsatisfied
  /-- The nodes to which an edge leads from a node. -/
  | successors (u : Node)
  /-- Whether an edge leads from one node to another. -/
  | hasEdgeFromTo (u v : Node)
  /-- Whether an edge leads between two nodes. -/
  | hasEdgeBetween (u v : Node)
  /-- The edge from one node to another. -/
  | edge (u v : Node)

/-- The container after a query. Those answered by a function of the container leave it as it
is. -/
def Query.apply (c : Container) : Query → Container
  | .nodes => (Container.nodes.run c).2
  | .nodeCount => (Container.nodeCount.run c).2
  | .edgeCount => (Container.edgeCount.run c).2
  | .missing => (Container.missing.run c).2
  | .predecessors v => ((Container.predecessors v).run c).2
  | .graph => (Container.graph.run c).2
  | .findCycle => (Container.findCycle.run c).2
  | .buildOrder => (Container.buildOrder.run.run c).2
  | .has _ | .providers | .root | .unsatisfied | .successors _ | .hasEdgeFromTo _ _
  | .hasEdgeBetween _ _ | .edge _ _ => c

/-- Something that is done with a container. -/
inductive Operation where
  /-- A provider is added. -/
  | addProvider (p : Provider)
  /-- Providers are added up to the first failure. -/
  | addProviders (ps : List Provider)
  /-- The root is set. -/
  | setRoot (type : TypeKey)
  /-- A question is asked. -/
  | query (q : Query)

/-- The container after an operation, which may have failed. -/
def Operation.apply (c : Container) : Operation → Container
  | .addProvider p => ((Container.addProvider p).run.run c).2
  | .addProviders ps => ((Container.addProviders ps).run.run c).2
  | .setRoot type => ((Container.setRoot type).run.run c).2
  | .query q => q.apply c

/-- The container after a list of operations. -/
def after (c : Container) (ops : List Operation) : Container := ops.foldl Operation.apply c

/-- The container is what some operations make of an empty one. -/
def Reachable (c : Container) : Prop :=
  ∃ (rootMethod : String) (tag : Nat) (ops : List Operation), (new rootMethod tag).after ops = c

/-! ## Elementary changes -/

/-- The container with a node of the given role put at the end. -/
def push (c : Container) (role : Role) : Container :=
  { c with
    roles := c.roles ++ [role]
    providedBy := c.providedBy.addAll role.provides c.nextId
    requiredBy := c.requiredBy.addAll role.requires c.nextId }

/-- When a node of the given role may be put at the end: a provider if it has no defect, the root
and the missing node if there is none yet. -/
def Allows (c : Container) : Role → Prop
  | .provider p => p.defect? = none
  | .root _ => c.rootType? = none
  | .missing => c.roles.any Role.isMissing = false

/-- One node is put at the end. -/
def Change (c c' : Container) : Prop := ∃ role, c.Allows role ∧ c' = c.push role

/-- One container arises from another by a row of elementary changes. -/
abbrev Grows : Container → Container → Prop := ReflTransGen Change

/-- Putting an allowed node at the end is a change. -/
theorem grows_push {c : Container} {role : Role} (h : c.Allows role) : c.Grows (c.push role) :=
  ReflTransGen.single ⟨role, h, rfl⟩

/-- The missing node is not made again. -/
theorem withMissing_eq_self {c : Container} (h : c.roles.any Role.isMissing = true) :
    c.withMissing = c := by
  rw [withMissing, if_pos h]

/-- The missing node is put at the end if it is not there. -/
theorem withMissing_eq_push {c : Container} (h : c.roles.any Role.isMissing = false) :
    c.withMissing = c.push .missing := by
  rw [withMissing, if_neg (by simp [h])]
  rfl

/-- Making the missing node is a change or nothing. -/
theorem grows_withMissing (c : Container) : c.Grows c.withMissing := by
  cases h : c.roles.any Role.isMissing with
  | true => rw [withMissing_eq_self h]
  | false =>
    rw [withMissing_eq_push h]
    exact grows_push h

/-! ## How the operations run -/

/-- Setting the root fails if there is one and otherwise makes the root node. -/
theorem setRoot_run (c : Container) (type : TypeKey) :
    (setRoot type).run.run c =
      match c.rootType? with
      | some existing => (.error (.rootAlreadySet existing type), c)
      | none => (.ok (c.nodeOf c.nextId (.root type)), c.push (.root type)) := by
  rw [setRoot, Building.run_bind, Building.run_get]
  dsimp only
  cases c.rootType? with
  | some existing => rfl
  | none => rfl

/-- Detecting a root does nothing without a runnable type, sets the only one, and fails if there
are several. -/
theorem detectRoot_run (c : Container) (types : List TypeKey) :
    (detectRoot types).run.run c =
      match TypeKey.runnables c.rootMethod types with
      | [] => (.ok (), c)
      | [type] =>
        match c.rootType? with
        | some existing => (.error (.rootAlreadySet existing type), c)
        | none => (.ok (), c.push (.root type))
      | candidates => (.error (.ambiguousRoot candidates), c) := by
  rw [detectRoot, Building.run_bind, Building.run_get]
  dsimp only
  match TypeKey.runnables c.rootMethod types with
  | [] => rfl
  | [type] =>
    -- `discard` is a step that forgets the result, which `run_bind` can take apart.
    have hdiscard : (discard (setRoot type) : Building PUnit) = setRoot type >>= fun _ => pure () :=
      rfl
    dsimp only
    rw [hdiscard, Building.run_bind, setRoot_run]
    cases c.rootType? with
    | some existing => rfl
    | none => rfl
  | _ :: _ :: _ => rfl

/-- Adding a provider refuses one with a defect; any other is put at the end, and then its types are
searched for a root. -/
theorem addProvider_run (c : Container) (p : Provider) :
    (addProvider p).run.run c =
      match p.defect? with
      | some defect => (.error (.invalidProvider p defect), c)
      | none =>
        match (detectRoot p.provides).run.run (c.push (.provider p)) with
        | (.ok _, c') => (.ok (c.nodeOf c.nextId (.provider p)), c')
        | (.error e, c') => (.error e, c') := by
  rw [addProvider]
  cases p.defect? with
  | some defect => rfl
  | none =>
    dsimp only
    rw [Building.run_bind, Building.run_get]
    dsimp only
    rw [Building.run_bind, Building.run_set]
    dsimp only
    have hpush : c.insertProvider p = c.push (.provider p) := rfl
    rw [Building.run_bind, hpush]
    cases (detectRoot p.provides).run.run (c.push (.provider p)) with
    | mk r c' =>
      cases r with
      | ok _ => rfl
      | error e => rfl

/-- What is left then is what the search for a root leaves, also if it fails. -/
theorem addProvider_run_snd (c : Container) (p : Provider) :
    ((addProvider p).run.run c).2 =
      match p.defect? with
      | some _ => c
      | none => ((detectRoot p.provides).run.run (c.push (.provider p))).2 := by
  rw [addProvider_run]
  cases p.defect? with
  | some defect => rfl
  | none =>
    dsimp only
    cases (detectRoot p.provides).run.run (c.push (.provider p)) with
    | mk r c' =>
      cases r with
      | ok _ => rfl
      | error e => rfl

/-- Adding several providers adds the first and, unless that fails, the others. -/
theorem addProviders_run_cons (c : Container) (p : Provider) (ps : List Provider) :
    (addProviders (p :: ps)).run.run c =
      match (addProvider p).run.run c with
      | (.error e, c') => (.error e, c')
      | (.ok n, c') =>
        match (addProviders ps).run.run c' with
        | (.error e, c'') => (.error e, c'')
        | (.ok ns, c'') => (.ok (n :: ns), c'') := by
  rw [addProviders, List.mapM_cons, Building.run_bind]
  cases (addProvider p).run.run c with
  | mk r c' =>
    cases r with
    | error e => rfl
    | ok n =>
      dsimp only
      rw [Building.run_bind, addProviders]
      cases (List.mapM addProvider ps : Building (List Node)).run.run c' with
      | mk r c'' =>
        cases r with
        | error e => rfl
        | ok ns => rfl

/-- What is left then is what the first leaves or, unless it fails, the others after it. -/
theorem addProviders_run_cons_snd (c : Container) (p : Provider) (ps : List Provider) :
    ((addProviders (p :: ps)).run.run c).2 =
      match (addProvider p).run.run c with
      | (.error _, c') => c'
      | (.ok _, c') => ((addProviders ps).run.run c').2 := by
  rw [addProviders_run_cons]
  cases (addProvider p).run.run c with
  | mk r c' =>
    cases r with
    | error e => rfl
    | ok n =>
      dsimp only
      cases (addProviders ps).run.run c' with
      | mk r c'' =>
        cases r with
        | error e => rfl
        | ok ns => rfl

/-- Asking for the build order fails without a root. With one, the missing node is made and the
graph of what leads to the root is searched for a cycle and then sorted. -/
theorem buildOrder_run (c : Container) :
    buildOrder.run.run c =
      match c.root? with
      | none => (.error .noRoot, c)
      | some r =>
        (match (c.withMissing.digraph.leadingTo r.id.toNat).findCycle with
          | [] =>
            match (c.withMissing.digraph.leadingTo r.id.toNat).order? with
            | some ids => .ok (c.withMissing.nodesOf ids)
            | none => .error .unsorted
          | cycle => .error (.cyclicDependency (c.withMissing.nodesOf cycle)), c.withMissing) := by
  rw [buildOrder, Building.run_bind, Building.run_get]
  dsimp only
  unfold root
  cases c.root? with
  | none => rfl
  | some r =>
    -- The root is asked outside the state and lifted into it.
    have hlift : (liftM (.ok r : Except GraphError Node) : Building Node) = pure r := rfl
    dsimp only
    rw [hlift, Building.run_bind, Building.run_pure]
    dsimp only
    rw [Building.run_bind, Building.run_modify]
    dsimp only
    rw [Building.run_bind, Building.run_get]
    dsimp only
    cases (c.withMissing.digraph.leadingTo r.id.toNat).findCycle with
    | cons v vs => rfl
    | nil =>
      cases (c.withMissing.digraph.leadingTo r.id.toNat).order? with
      | none => rfl
      | some ids => rfl

/-- The numbers of the nodes that `predecessors` lists. -/
def sources (c : Container) (v : Node) : List Nat :=
  v.requires.flatMap fun t =>
    if c.isUnmet t then (c.roles.findIdx? Role.isMissing).toList else c.providedBy.nodes t

/-- Asking for the predecessors of a node of the container makes the missing node if a requirement
is unmet. -/
theorem predecessors_run (c : Container) (v : Node) (hv : c.has v = true) :
    (predecessors v).run c =
      if v.requires.any c.isUnmet then
        (c.withMissing.nodesOf (ascending (c.withMissing.sources v)), c.withMissing)
      else (c.nodesOf (ascending (c.sources v)), c) := by
  simp only [predecessors, StateT.run_bind, StateT.run_get, pure_bind, hv, Bool.not_true,
    Bool.false_eq_true, if_false]
  cases v.requires.any c.isUnmet with
  | true => rfl
  | false => rfl

/-- Asking for the predecessors of another node answers nothing. -/
theorem predecessors_run_of_not_has (c : Container) (v : Node) (hv : c.has v = false) :
    (predecessors v).run c = ([], c) := by
  simp only [predecessors, StateT.run_bind, StateT.run_get, pure_bind, hv]
  rfl

/-! ## Every operation is a row of changes -/

/-- Setting the root is a change or nothing. -/
theorem grows_setRoot (c : Container) (type : TypeKey) :
    c.Grows ((setRoot type).run.run c).2 := by
  rw [setRoot_run]
  cases h : c.rootType? with
  | some existing => exact ReflTransGen.refl
  | none => exact grows_push h

/-- Detecting a root is a change or nothing. -/
theorem grows_detectRoot (c : Container) (types : List TypeKey) :
    c.Grows ((detectRoot types).run.run c).2 := by
  rw [detectRoot_run]
  match TypeKey.runnables c.rootMethod types with
  | [] => exact ReflTransGen.refl
  | [type] =>
    dsimp only
    cases h : c.rootType? with
    | some existing => exact ReflTransGen.refl
    | none => exact grows_push h
  | _ :: _ :: _ => exact ReflTransGen.refl

/-- Adding a provider puts it at the end and may set the root, or does nothing. -/
theorem grows_addProvider (c : Container) (p : Provider) :
    c.Grows ((addProvider p).run.run c).2 := by
  rw [addProvider_run_snd]
  cases h : p.defect? with
  | some defect => exact ReflTransGen.refl
  | none =>
    have hallowed : c.Allows (.provider p) := h
    exact (grows_push hallowed).trans (grows_detectRoot _ p.provides)

/-- Adding several providers is a row of changes, also when it stops early. -/
theorem grows_addProviders (c : Container) (ps : List Provider) :
    c.Grows ((addProviders ps).run.run c).2 := by
  -- The state that the first provider leaves is where the others start.
  induction ps generalizing c with
  | nil => exact ReflTransGen.refl
  | cons p ps ih =>
    rw [addProviders_run_cons_snd]
    have hfirst := grows_addProvider c p
    generalize (addProvider p).run.run c = r at hfirst
    obtain ⟨r, c'⟩ := r
    cases r with
    | error e => exact hfirst
    | ok n => exact hfirst.trans (ih c')

/-- A query leaves the container as it is or makes the missing node. -/
theorem query_apply (c : Container) (q : Query) : q.apply c = c ∨ q.apply c = c.withMissing := by
  cases q with
  -- These queries make the missing node whatever else they do.
  | nodes | nodeCount | edgeCount | missing | graph | findCycle => exact Or.inr rfl
  | predecessors v =>
    show ((predecessors v).run c).2 = c ∨ ((predecessors v).run c).2 = c.withMissing
    cases hv : c.has v with
    | false => exact Or.inl (by rw [predecessors_run_of_not_has c v hv])
    | true =>
      rw [predecessors_run c v hv]
      split
      · exact Or.inr rfl
      · exact Or.inl rfl
  | buildOrder =>
    show (buildOrder.run.run c).2 = c ∨ (buildOrder.run.run c).2 = c.withMissing
    rw [buildOrder_run]
    cases c.root? with
    | none => exact Or.inl rfl
    | some r => exact Or.inr rfl
  | has n | providers | root | unsatisfied | successors u | hasEdgeFromTo u v | hasEdgeBetween u v
  | edge u v => exact Or.inl rfl

/-- An operation is a row of changes. -/
theorem grows_apply (c : Container) (op : Operation) : c.Grows (op.apply c) := by
  cases op with
  | addProvider p => exact grows_addProvider c p
  | addProviders ps => exact grows_addProviders c ps
  | setRoot type => exact grows_setRoot c type
  | query q =>
    show c.Grows (q.apply c)
    rcases query_apply c q with h | h
    · rw [h]
    · rw [h]
      exact grows_withMissing c

/-- A list of operations is a row of changes. -/
theorem grows_after (c : Container) (ops : List Operation) : c.Grows (c.after ops) := by
  induction ops generalizing c with
  | nil => exact ReflTransGen.refl
  | cons op ops ih => exact (grows_apply c op).trans (ih (op.apply c))

/-- What holds of empty containers and is kept by the elementary changes holds of all reachable
containers. -/
theorem Reachable.induction {motive : Container → Prop} {c : Container} (h : Reachable c)
    (hnew : ∀ rootMethod tag, motive (new rootMethod tag))
    (hchange : ∀ c c', motive c → Change c c' → motive c') : motive c := by
  obtain ⟨rootMethod, tag, ops, rfl⟩ := h
  have hgrows := grows_after (new rootMethod tag) ops
  generalize (new rootMethod tag).after ops = c at hgrows ⊢
  induction hgrows with
  | refl => exact hnew rootMethod tag
  | tail _ hstep ih => exact hchange _ _ ih hstep

/-- What is done to a reachable container makes a reachable one. -/
theorem Reachable.after {c : Container} (h : Reachable c) (ops : List Operation) :
    Reachable (c.after ops) := by
  obtain ⟨rootMethod, tag, ops', rfl⟩ := h
  refine ⟨rootMethod, tag, ops' ++ ops, ?_⟩
  unfold Container.after
  rw [List.foldl_append]

/-- A reachable container stays reachable when the missing node is made. -/
theorem Reachable.withMissing {c : Container} (h : Reachable c) : Reachable c.withMissing :=
  h.after [.query .nodes]

end Container

end Wiring
