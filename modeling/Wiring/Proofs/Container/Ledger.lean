import Mathlib.Data.List.Perm.Basic
import Mathlib.Data.List.Sort
import Wiring.Container.Ledger
import Wiring.Proofs.Container.History

/-!
# The counter and the stores

One counter gives the numbers out for providers, for the root and for the missing node, and the
missing node is made in the midst of queries. No number is lost or given twice all the same: what
the stores hold has all numbers below the next one, each once (`Numbered`).

An operation can only enter nodes, one after the other (`Change`), and each time the counter and one
store move on together (`Numbered.enter`). An operation that fails has entered a node or has not, but
never the one without the other. So all that a ledger goes through has its numbers in order
(`Reachable.numbered`), and `Reachable.numbering` says what this means for the list of all nodes,
now and after whatever is done later.
-/

namespace Wiring.Ledger

open Container (Operation Query)
open Relation

variable {l l' : Ledger} {role : Role} {n : Node} {ns : List Node}

/-! ## Operations -/

/-- The ledger after a query. -/
def ask (l : Ledger) : Query → Ledger
  | .nodes => (Ledger.nodes.run l).2
  | .nodeCount => (Ledger.nodeCount.run l).2
  | .edgeCount => (Ledger.edgeCount.run l).2
  | .missing => (Ledger.missing.run l).2
  | .predecessors v => ((Ledger.predecessors v).run l).2
  | .graph => (Ledger.graph.run l).2
  | .findCycle => (Ledger.findCycle.run l).2
  | .buildOrder => (Ledger.buildOrder.run.run l).2
  | .has _ | .providers | .root | .unsatisfied | .successors _ | .hasEdgeFromTo _ _
  | .hasEdgeBetween _ _ | .edge _ _ => l

/-- The ledger after an operation, which may have failed. -/
def step (l : Ledger) : Operation → Ledger
  | .addProvider p => ((Ledger.addProvider p).run.run l).2
  | .addProviders ps => ((Ledger.addProviders ps).run.run l).2
  | .setRoot type => ((Ledger.setRoot type).run.run l).2
  | .query q => l.ask q

/-- The ledger after a list of operations. -/
def after (l : Ledger) (ops : List Operation) : Ledger := ops.foldl step l

/-- The ledger is what some operations make of an empty one. -/
def Reachable (l : Ledger) : Prop :=
  ∃ (rootMethod : String) (tag : Nat) (ops : List Operation), (new rootMethod tag).after ops = l

/-! ## Entering a node -/

/-- The ledger with a node of the given role: the counter moves on, the store of the role takes the
number, and both indices are brought up to date. -/
def enter (l : Ledger) (role : Role) : Ledger :=
  let indexed := { l with
    nextId := l.nextId + 1
    providedBy := l.providedBy.addAll role.provides l.nextId
    requiredBy := l.requiredBy.addAll role.requires l.nextId }
  match role with
  | .provider p => { indexed with providers := l.providers ++ [⟨l.nextId, p⟩] }
  | .root type => { indexed with root? := some ⟨l.nextId, type⟩ }
  | .missing => { indexed with missing? := some l.nextId }

/-- When a node of the given role may be entered: a provider if it has no defect, the root and the
missing node if their stores are empty. -/
def Allows (l : Ledger) : Role → Prop
  | .provider p => p.defect? = none
  | .root _ => l.root? = none
  | .missing => l.missing? = none

/-- One node is entered. -/
def Change (l l' : Ledger) : Prop := ∃ role, l.Allows role ∧ l' = l.enter role

/-- One ledger arises from another by entering nodes. -/
abbrev Grows : Ledger → Ledger → Prop := ReflTransGen Change

/-- Entering an allowed node is a change. -/
theorem grows_enter (h : l.Allows role) : l.Grows (l.enter role) :=
  ReflTransGen.single ⟨role, h, rfl⟩

/-- The ledger in which the missing node has been made. -/
def withMissing (l : Ledger) : Ledger := if l.missing?.isSome then l else l.enter .missing

/-- The missing node is not made again. -/
theorem withMissing_eq_self {id : Nat} (h : l.missing? = some id) : l.withMissing = l := by
  rw [withMissing, h]
  rfl

/-- The missing node is entered if it is not there. -/
theorem withMissing_eq_enter (h : l.missing? = none) : l.withMissing = l.enter .missing := by
  rw [withMissing, h]
  rfl

/-- Making the missing node is a change or nothing. -/
theorem grows_withMissing (l : Ledger) : l.Grows l.withMissing := by
  cases h : l.missing? with
  | some id => rw [withMissing_eq_self h]
  | none =>
    have hallowed : l.Allows .missing := h
    rw [withMissing_eq_enter h]
    exact grows_enter hallowed

/-- Once it is made, the missing node stays the same. -/
theorem withMissing_withMissing (l : Ledger) : l.withMissing.withMissing = l.withMissing := by
  cases h : l.missing? with
  | some id => rw [withMissing_eq_self h, withMissing_eq_self h]
  | none =>
    have hmade : (l.enter .missing).missing? = some l.nextId := rfl
    rw [withMissing_eq_enter h, withMissing_eq_self hmade]

/-! ## How the operations run -/

/-- Asking for the number of the missing node makes the missing node. -/
theorem missingId_run (l : Ledger) :
    missingId.run l = (l.missing?.getD l.nextId, l.withMissing) := by
  have hget : (get : StateM Ledger Ledger).run l = (l, l) := rfl
  rw [missingId, Building.run_seq, hget]
  cases h : l.missing? with
  | some id =>
    rw [withMissing_eq_self h]
    rfl
  | none =>
    rw [withMissing_eq_enter h]
    rfl

/-- Making the missing node leaves all else as it is. -/
theorem tag_withMissing (l : Ledger) : l.withMissing.tag = l.tag := by
  unfold withMissing
  split <;> rfl

/-- Asking for the missing node does so too. -/
theorem missing_run (l : Ledger) :
    missing.run l = (l.nodeOf (l.missing?.getD l.nextId) .missing, l.withMissing) := by
  rw [missing, Building.run_seq, missingId_run]
  show (l.withMissing.nodeOf _ .missing, l.withMissing) = _
  unfold nodeOf
  rw [tag_withMissing]

/-- Asking for all nodes makes the missing node, and lists what is in the stores then. -/
theorem nodes_run (l : Ledger) : nodes.run l = (inOrder l.withMissing.known, l.withMissing) := by
  have hdiscard : (discard missing : StateM Ledger PUnit).run l = ((), (missing.run l).2) := rfl
  rw [nodes, Building.run_seq, hdiscard, missing_run]
  rfl

/-- Setting the root fails if there is one and otherwise enters the root node. -/
theorem setRoot_run (l : Ledger) (type : TypeKey) :
    (setRoot type).run.run l =
      match l.root? with
      | some existing => (.error (.rootAlreadySet existing.item type), l)
      | none => (.ok (l.nodeOf l.nextId (.root type)), l.enter (.root type)) := by
  rw [setRoot, Building.run_bind, Building.run_get]
  dsimp only
  cases l.root? with
  | some existing => rfl
  | none => rfl

/-- Detecting a root does nothing without a runnable type, sets the only one, and fails if there
are several. -/
theorem detectRoot_run (l : Ledger) (types : List TypeKey) :
    (detectRoot types).run.run l =
      match TypeKey.runnables l.rootMethod types with
      | [] => (.ok (), l)
      | [type] =>
        match l.root? with
        | some existing => (.error (.rootAlreadySet existing.item type), l)
        | none => (.ok (), l.enter (.root type))
      | candidates => (.error (.ambiguousRoot candidates), l) := by
  rw [detectRoot, Building.run_bind, Building.run_get]
  dsimp only
  match TypeKey.runnables l.rootMethod types with
  | [] => rfl
  | [type] =>
    -- The answer of `setRoot` is dropped, and what it leaves is kept.
    have hdiscard : (discard (setRoot type) : Building PUnit) = setRoot type >>= fun _ => pure () :=
      rfl
    dsimp only
    rw [hdiscard, Building.run_bind, setRoot_run]
    cases l.root? with
    | some existing => rfl
    | none => rfl
  | _ :: _ :: _ => rfl

/-- The search for a root leaves the ledger as it is or enters the root node. -/
theorem detectRoot_run_snd (l : Ledger) (types : List TypeKey) :
    ((detectRoot types).run.run l).2 = l ∨
      ∃ type, l.root? = none ∧ ((detectRoot types).run.run l).2 = l.enter (.root type) := by
  rw [detectRoot_run]
  match TypeKey.runnables l.rootMethod types with
  | [] => exact Or.inl rfl
  | [type] =>
    cases hroot : l.root? with
    | some existing => exact Or.inl rfl
    | none => exact Or.inr ⟨type, rfl, rfl⟩
  | _ :: _ :: _ => exact Or.inl rfl

/-- The search for a root gives no other container's number to a node. -/
theorem tag_detectRoot (l : Ledger) (types : List TypeKey) :
    ((detectRoot types).run.run l).2.tag = l.tag := by
  rcases detectRoot_run_snd l types with h | ⟨type, -, h⟩
  · rw [h]
  · rw [h]
    rfl

/-- Adding a provider refuses one with a defect; any other is entered, and then its types are
searched for a root. -/
theorem addProvider_run (l : Ledger) (p : Provider) :
    (addProvider p).run.run l =
      match p.defect? with
      | some defect => (.error (.invalidProvider p defect), l)
      | none =>
        match (detectRoot p.provides).run.run (l.enter (.provider p)) with
        | (.ok _, l') => (.ok (l.nodeOf l.nextId (.provider p)), l')
        | (.error e, l') => (.error e, l') := by
  rw [addProvider]
  cases p.defect? with
  | some defect => rfl
  | none =>
    dsimp only
    -- The number is given out, and the store and both indices take it.
    have henter : ∀ (x : Nat → Building Node), ((do
        let id ← allocateId
        modify fun l : Ledger => { l with providers := l.providers ++ [⟨id, p⟩] }
        modify fun l : Ledger => { l with providedBy := l.providedBy.addAll p.provides id }
        modify fun l : Ledger => { l with requiredBy := l.requiredBy.addAll p.requires id }
        x id) : Building Node).run.run l = (x l.nextId).run.run (l.enter (.provider p)) :=
      fun _ => rfl
    rw [henter, Building.run_bind]
    have htag := tag_detectRoot (l.enter (.provider p)) p.provides
    revert htag
    cases (detectRoot p.provides).run.run (l.enter (.provider p)) with
    | mk r l' =>
      intro htag
      cases r with
      | error e => rfl
      | ok _ =>
        dsimp only
        rw [Building.run_bind, Building.run_get]
        show (Except.ok (l'.nodeOf l.nextId (.provider p)), l') = _
        have htag : l'.tag = l.tag := htag
        unfold nodeOf
        rw [htag]

/-- What is left then is what the search for a root leaves, also if it fails. -/
theorem addProvider_run_snd (l : Ledger) (p : Provider) :
    ((addProvider p).run.run l).2 =
      match p.defect? with
      | some _ => l
      | none => ((detectRoot p.provides).run.run (l.enter (.provider p))).2 := by
  rw [addProvider_run]
  cases p.defect? with
  | some defect => rfl
  | none =>
    dsimp only
    cases (detectRoot p.provides).run.run (l.enter (.provider p)) with
    | mk r l' =>
      cases r with
      | ok _ => rfl
      | error e => rfl

/-- Adding several providers adds the first and, unless that fails, the others. -/
theorem addProviders_run_cons (l : Ledger) (p : Provider) (ps : List Provider) :
    (addProviders (p :: ps)).run.run l =
      match (addProvider p).run.run l with
      | (.error e, l') => (.error e, l')
      | (.ok n, l') =>
        match (addProviders ps).run.run l' with
        | (.error e, l'') => (.error e, l'')
        | (.ok ns, l'') => (.ok (n :: ns), l'') := by
  rw [addProviders, List.mapM_cons, Building.run_bind]
  cases (addProvider p).run.run l with
  | mk r l' =>
    cases r with
    | error e => rfl
    | ok n =>
      dsimp only
      rw [Building.run_bind, addProviders]
      cases (List.mapM addProvider ps : Building (List Node)).run.run l' with
      | mk r l'' =>
        cases r with
        | error e => rfl
        | ok ns => rfl

/-- Asking for the build order fails without a root. With one, the missing node is made and the
graph of what leads to the root is searched for a cycle and then sorted. -/
theorem buildOrder_run (l : Ledger) :
    buildOrder.run.run l =
      match l.rootNode? with
      | none => (.error .noRoot, l)
      | some r =>
        (match ((l.withMissing.digraph (inOrder l.withMissing.known)).leadingTo
            r.id.toNat).findCycle with
          | [] =>
            match ((l.withMissing.digraph (inOrder l.withMissing.known)).leadingTo
              r.id.toNat).order? with
            | some ids => .ok (l.withMissing.nodesOf ids)
            | none => .error .unsorted
          | cycle => .error (.cyclicDependency (l.withMissing.nodesOf cycle)), l.withMissing) := by
  rw [buildOrder, Building.run_bind, Building.run_get]
  dsimp only
  unfold root
  cases l.rootNode? with
  | none => rfl
  | some r =>
    -- The root is asked outside the state and lifted into it.
    have hlift : (liftM (.ok r : Except GraphError Node) : Building Node) = pure r := rfl
    dsimp only
    rw [hlift, Building.run_bind, Building.run_pure]
    dsimp only
    rw [Building.run_bind]
    have hnodes : (liftM nodes : Building (List Node)).run.run l =
        (.ok (nodes.run l).1, (nodes.run l).2) := rfl
    rw [hnodes, nodes_run]
    dsimp only
    rw [Building.run_bind, Building.run_get]
    dsimp only
    cases ((l.withMissing.digraph (inOrder l.withMissing.known)).leadingTo r.id.toNat).findCycle with
    | cons v vs => rfl
    | nil =>
      cases ((l.withMissing.digraph (inOrder l.withMissing.known)).leadingTo r.id.toNat).order? with
      | none => rfl
      | some ids => rfl

/-- The numbers of the nodes that provide a type, or that of the missing node if there are none. -/
def producersOf (l : Ledger) (t : TypeKey) : List Nat :=
  if l.isUnmet t then [l.missing?.getD l.nextId] else l.providedBy.nodes t

/-- Asking who provides a type makes the missing node if nobody does. -/
theorem producers_run (l : Ledger) (t : TypeKey) :
    (producers t).run l = (l.producersOf t, if l.isUnmet t then l.withMissing else l) := by
  rw [producers, Building.run_seq]
  show StateT.run (match l.providedBy.nodes t with | [] => _ | ids => _) l = _
  unfold producersOf isUnmet
  cases l.providedBy.nodes t with
  | nil =>
    -- Nobody provides the type, so the missing node has to.
    dsimp only
    rw [Building.run_seq, missingId_run]
    rfl
  | cons id ids => rfl

/-- The missing node provides nothing of itself. -/
theorem isUnmet_withMissing (l : Ledger) (t : TypeKey) :
    l.withMissing.isUnmet t = l.isUnmet t := by
  unfold withMissing
  split <;> rfl

/-- The missing node does not change who provides a type: the number that it is going to have is
the number that it has. -/
theorem producersOf_withMissing (l : Ledger) (t : TypeKey) :
    l.withMissing.producersOf t = l.producersOf t := by
  unfold producersOf
  rw [isUnmet_withMissing]
  cases h : l.missing? with
  | some id => rw [withMissing_eq_self h, h]
  | none =>
    rw [withMissing_eq_enter h]
    rfl

/-- Asking this of several types makes the missing node once. -/
theorem mapM_producers_run (l : Ledger) (ts : List TypeKey) :
    (ts.mapM producers : StateM Ledger _).run l =
      (ts.map l.producersOf, if ts.any l.isUnmet then l.withMissing else l) := by
  induction ts generalizing l with
  | nil => rfl
  | cons t ts ih =>
    rw [List.mapM_cons, Building.run_seq, Building.run_seq, producers_run, ih, StateT.run_pure,
      List.map_cons, List.any_cons]
    dsimp only
    cases l.isUnmet t with
    | true =>
      have hproducers : l.withMissing.producersOf = l.producersOf :=
        funext (producersOf_withMissing l)
      rw [if_pos rfl, hproducers, withMissing_withMissing, ite_self, Bool.true_or, if_pos rfl]
      rfl
    | false =>
      rw [if_neg Bool.false_ne_true, Bool.false_or]
      rfl

/-- Asking for the predecessors of a node of the container makes the missing node if a requirement
is unmet. -/
theorem predecessors_run (l : Ledger) (v : Node) (hv : l.has v = true) :
    (predecessors v).run l =
      let l' := if v.requires.any l.isUnmet then l.withMissing else l
      (l'.byId (v.requires.flatMap l.producersOf), l') := by
  rw [predecessors, Building.run_seq]
  show StateT.run (if (!l.has v) = true then _ else _) l = _
  rw [hv]
  show StateT.run (v.requires.mapM producers >>= _) l = _
  rw [Building.run_seq, mapM_producers_run]
  rfl

/-- Asking for the predecessors of another node answers nothing. -/
theorem predecessors_run_of_not_has (l : Ledger) (v : Node) (hv : l.has v = false) :
    (predecessors v).run l = ([], l) := by
  rw [predecessors, Building.run_seq]
  show StateT.run (if (!l.has v) = true then _ else _) l = _
  rw [hv]
  rfl

/-! ## Every operation is a row of changes -/

/-- Setting the root is a change or nothing. -/
theorem grows_setRoot (l : Ledger) (type : TypeKey) : l.Grows ((setRoot type).run.run l).2 := by
  rw [setRoot_run]
  cases h : l.root? with
  | some existing => exact ReflTransGen.refl
  | none =>
    have hallowed : l.Allows (.root type) := h
    exact grows_enter hallowed

/-- Detecting a root is a change or nothing. -/
theorem grows_detectRoot (l : Ledger) (types : List TypeKey) :
    l.Grows ((detectRoot types).run.run l).2 := by
  rcases detectRoot_run_snd l types with h | ⟨type, hroot, h⟩
  · rw [h]
  · have hallowed : l.Allows (.root type) := hroot
    rw [h]
    exact grows_enter hallowed

/-- Adding a provider enters it and may set the root, or does nothing. -/
theorem grows_addProvider (l : Ledger) (p : Provider) :
    l.Grows ((addProvider p).run.run l).2 := by
  rw [addProvider_run_snd]
  cases h : p.defect? with
  | some defect => exact ReflTransGen.refl
  | none =>
    have hallowed : l.Allows (.provider p) := h
    exact (grows_enter hallowed).trans (grows_detectRoot _ p.provides)

/-- Adding several providers is a row of changes, also when it stops early. -/
theorem grows_addProviders (l : Ledger) (ps : List Provider) :
    l.Grows ((addProviders ps).run.run l).2 := by
  -- The state that the first provider leaves is where the others start.
  induction ps generalizing l with
  | nil => exact ReflTransGen.refl
  | cons p ps ih =>
    rw [addProviders_run_cons]
    have hfirst := grows_addProvider l p
    revert hfirst
    cases (addProvider p).run.run l with
    | mk r l' =>
      intro hfirst
      cases r with
      | error e => exact hfirst
      | ok n =>
        have hrest := ih l'
        dsimp only at hfirst ⊢
        revert hrest
        cases (addProviders ps).run.run l' with
        | mk r l'' =>
          intro hrest
          cases r with
          | error e => exact hfirst.trans hrest
          | ok ns => exact hfirst.trans hrest

/-- A query leaves the ledger as it is or makes the missing node. -/
theorem ask_eq (l : Ledger) (q : Query) : l.ask q = l ∨ l.ask q = l.withMissing := by
  cases q with
  | nodes => exact Or.inr (by rw [ask, nodes_run])
  | missing => exact Or.inr (by rw [ask, missing_run])
  -- These queries ask for all nodes first.
  | nodeCount | edgeCount | graph | findCycle =>
    have hnodes : (nodes.run l).2 = l.withMissing := by rw [nodes_run]
    exact Or.inr hnodes
  | predecessors v =>
    show ((predecessors v).run l).2 = l ∨ ((predecessors v).run l).2 = l.withMissing
    cases hv : l.has v with
    | false => exact Or.inl (by rw [predecessors_run_of_not_has l v hv])
    | true =>
      rw [predecessors_run l v hv]
      dsimp only
      split
      · exact Or.inr rfl
      · exact Or.inl rfl
  | buildOrder =>
    show (buildOrder.run.run l).2 = l ∨ (buildOrder.run.run l).2 = l.withMissing
    rw [buildOrder_run]
    cases l.rootNode? with
    | none => exact Or.inl rfl
    | some r => exact Or.inr rfl
  | has n | providers | root | unsatisfied | successors u | hasEdgeFromTo u v | hasEdgeBetween u v
  | edge u v => exact Or.inl rfl

/-- An operation is a row of changes. -/
theorem grows_step (l : Ledger) (op : Operation) : l.Grows (l.step op) := by
  cases op with
  | addProvider p => exact grows_addProvider l p
  | addProviders ps => exact grows_addProviders l ps
  | setRoot type => exact grows_setRoot l type
  | query q =>
    show l.Grows (l.ask q)
    rcases ask_eq l q with h | h
    · rw [h]
    · rw [h]
      exact grows_withMissing l

/-- A list of operations is a row of changes. -/
theorem grows_after (l : Ledger) (ops : List Operation) : l.Grows (l.after ops) := by
  induction ops generalizing l with
  | nil => exact ReflTransGen.refl
  | cons op ops ih => exact (grows_step l op).trans (ih (l.step op))

end Wiring.Ledger
