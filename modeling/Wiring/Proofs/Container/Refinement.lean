import Wiring.Proofs.Container.Consistent
import Wiring.Proofs.Container.Counter
import Wiring.Proofs.Container.Numbering
import Wiring.Proofs.Container.Population

/-!
# The stores refine the list of roles

`Container` keeps one list of roles, in which the place of a node is its number. `Ledger` keeps a
counter and a store for each kind of node. `Container.ledger` reads the stores off the list, and
every operation commutes with it: what a ledger answers and what it becomes is what the container
answers and becomes (`Reachable.answers_ledger`, `Reachable.ledger_after`). So whatever is shown of
containers holds of ledgers that start out empty.

Entering a node is the same change on both sides (`ledger_push`), which settles the operations that
build. For queries the stores have to hold the nodes that the list has (`known_ledger_perm`), so
that sorting them gives the list (`inOrder_known_ledger`) and a number leads to the same node
(`node?_ledger`).
-/

namespace Wiring.Container

variable {c : Container} {role : Role} {n : Node} {ids : List Nat}

/-! ## The stores of a container -/

/-- A role with its number as a provider's. -/
def stampedProvider? (s : Stamped Role) : Option (Stamped Provider) :=
  match s.item with
  | .provider p => some ⟨s.id, p⟩
  | _ => none

/-- A role with its number as the root's. -/
def stampedRoot? (s : Stamped Role) : Option (Stamped TypeKey) :=
  match s.item with
  | .root type => some ⟨s.id, type⟩
  | _ => none

/-- A number, if its role is the missing one. -/
def stampedMissing? (s : Stamped Role) : Option Nat :=
  match s.item with
  | .missing => some s.id
  | _ => none

/-- The roles with their numbers. -/
def stamped (c : Container) : List (Stamped Role) := c.roles.mapIdx fun id role => ⟨id, role⟩

/-- The ledger with the nodes of a container in its stores. -/
def ledger (c : Container) : Ledger where
  tag := c.tag
  rootMethod := c.rootMethod
  nextId := c.nextId
  providers := c.stamped.filterMap stampedProvider?
  root? := c.stamped.findSome? stampedRoot?
  missing? := c.stamped.findSome? stampedMissing?
  providedBy := c.providedBy
  requiredBy := c.requiredBy

/-- The ledger of an empty container is empty. -/
theorem ledger_new (rootMethod : String) (tag : Nat) :
    (new rootMethod tag).ledger = Ledger.new rootMethod tag := rfl

/-- A new role gets the next number. -/
theorem stamped_push (c : Container) (role : Role) :
    (c.push role).stamped = c.stamped ++ [⟨c.nextId, role⟩] := by
  unfold stamped push
  rw [List.mapIdx_concat]
  rfl

/-- Without their numbers the roles are those of the container. -/
theorem map_item_stamped (c : Container) : c.stamped.map (·.item) = c.roles := by
  unfold stamped
  exact List.ext_getElem (by simp) fun i _ _ => by simp

/-- The nodes have the stamped roles. -/
theorem members_eq_map_stamped (c : Container) :
    c.members = c.stamped.map fun s => c.nodeOf s.id s.item := by
  unfold members stamped
  exact List.ext_getElem (by simp) fun i _ _ => by simp

/-- The store of the root is empty exactly if no root is set, and holds its type. -/
theorem map_item_root?_ledger (c : Container) : c.ledger.root?.map (·.item) = c.rootType? := by
  show (c.stamped.findSome? stampedRoot?).map (·.item) = c.roles.findSome? Role.rootType?
  rw [← map_item_stamped c, List.findSome?_map, List.map_findSome?]
  refine congrArg (c.stamped.findSome? ·) (funext fun s => ?_)
  obtain ⟨id, role⟩ := s
  cases role <;> rfl

/-- The store of the missing node is empty exactly if no role is the missing one. -/
theorem isSome_missing?_ledger (c : Container) :
    c.ledger.missing?.isSome = c.roles.any Role.isMissing := by
  show (c.stamped.findSome? stampedMissing?).isSome = _
  rw [List.isSome_findSome?, ← map_item_stamped c, List.any_map]
  refine congrArg (c.stamped.any ·) (funext fun s => ?_)
  obtain ⟨id, role⟩ := s
  cases role <;> rfl

/-- The number in the store of the missing node is the place of the missing role. -/
theorem missing?_ledger (c : Container) :
    c.ledger.missing? = c.roles.findIdx? Role.isMissing := by
  show (c.roles.mapIdx fun id role => (⟨id, role⟩ : Stamped Role)).findSome? stampedMissing? = _
  induction c.roles using List.reverseRecOn with
  | nil => rfl
  | append_singleton roles role ih =>
    rw [List.mapIdx_concat, List.findSome?_append, List.findIdx?_append, ih]
    cases role with
    | provider p => rfl
    | root type => rfl
    | missing =>
      show Option.or _ (some roles.length) = Option.or _ (some (0 + roles.length))
      rw [Nat.zero_add]

/-! ## Entering a node -/

/-- What may be put at the end may be entered. -/
theorem allows_ledger_iff : c.ledger.Allows role ↔ c.Allows role := by
  cases role with
  | provider p => exact Iff.rfl
  | root type =>
    show c.ledger.root? = none ↔ c.rootType? = none
    rw [← map_item_root?_ledger, Option.map_eq_none_iff]
  | missing =>
    show c.ledger.missing? = none ↔ c.roles.any Role.isMissing = false
    rw [← isSome_missing?_ledger, Option.isSome_eq_false_iff, Option.isNone_iff_eq_none]

/-- To put a node at the end is to enter it. -/
theorem ledger_push (h : c.Allows role) : (c.push role).ledger = c.ledger.enter role := by
  have hnext : (c.push role).nextId = c.nextId + 1 := nextId_push c role
  have hallowed := allows_ledger_iff.mpr h
  unfold ledger
  rw [stamped_push, List.filterMap_append, List.findSome?_append, List.findSome?_append, hnext]
  -- The new role is one entry more in its own store and none in the others.
  cases role with
  | provider p =>
    have hroot : [(⟨c.nextId, .provider p⟩ : Stamped Role)].findSome? stampedRoot? = none := rfl
    have hmissing : [(⟨c.nextId, .provider p⟩ : Stamped Role)].findSome? stampedMissing? = none :=
      rfl
    rw [hroot, hmissing, Option.or_none, Option.or_none]
    rfl
  | root type =>
    have hnone : c.stamped.findSome? stampedRoot? = none := hallowed
    have hprovider : [(⟨c.nextId, .root type⟩ : Stamped Role)].filterMap stampedProvider? = [] := rfl
    have hmissing : [(⟨c.nextId, .root type⟩ : Stamped Role)].findSome? stampedMissing? = none := rfl
    rw [hnone, hprovider, hmissing, Option.none_or, Option.or_none, List.append_nil]
    rfl
  | missing =>
    have hnone : c.stamped.findSome? stampedMissing? = none := hallowed
    have hprovider : [(⟨c.nextId, .missing⟩ : Stamped Role)].filterMap stampedProvider? = [] := rfl
    have hroot : [(⟨c.nextId, .missing⟩ : Stamped Role)].findSome? stampedRoot? = none := rfl
    rw [hnone, hprovider, hroot, Option.none_or, Option.or_none, List.append_nil]
    rfl

/-- The missing node is made on both sides. -/
theorem ledger_withMissing (c : Container) : c.withMissing.ledger = c.ledger.withMissing := by
  have hsome := isSome_missing?_ledger c
  cases h : c.roles.any Role.isMissing with
  | true =>
    obtain ⟨id, hid⟩ := Option.isSome_iff_exists.mp (hsome.trans h)
    rw [withMissing_eq_self h, Ledger.withMissing_eq_self hid]
  | false =>
    have hallowed : c.Allows .missing := h
    rw [withMissing_eq_push h, ledger_push hallowed,
      Ledger.withMissing_eq_enter (allows_ledger_iff.mpr hallowed)]

/-! ## Operations that build -/

/-- What was answered, and the ledger of the container that is left. -/
def onLedger {α : Type} (r : α × Container) : α × Ledger := (r.1, r.2.ledger)

/-- Setting the root answers the same and leaves the same. -/
theorem setRoot_ledger (c : Container) (type : TypeKey) :
    (Ledger.setRoot type).run.run c.ledger = onLedger ((setRoot type).run.run c) := by
  rw [Ledger.setRoot_run, setRoot_run, ← map_item_root?_ledger]
  cases hroot : c.ledger.root? with
  | some existing => rfl
  | none =>
    have hallowed : c.Allows (.root type) := allows_ledger_iff.mp hroot
    show _ = (_, (c.push (.root type)).ledger)
    rw [ledger_push hallowed]
    rfl

/-- So does the search for a root. -/
theorem detectRoot_ledger (c : Container) (types : List TypeKey) :
    (Ledger.detectRoot types).run.run c.ledger = onLedger ((detectRoot types).run.run c) := by
  have hmethod : c.ledger.rootMethod = c.rootMethod := rfl
  rw [Ledger.detectRoot_run, detectRoot_run, hmethod, ← map_item_root?_ledger]
  match TypeKey.runnables c.rootMethod types with
  | [] => rfl
  | [type] =>
    dsimp only
    cases hroot : c.ledger.root? with
    | some existing => rfl
    | none =>
      have hallowed : c.Allows (.root type) := allows_ledger_iff.mp hroot
      show _ = (_, (c.push (.root type)).ledger)
      rw [ledger_push hallowed]
      rfl
  | _ :: _ :: _ => rfl

/-- So does adding a provider. -/
theorem addProvider_ledger (c : Container) (p : Provider) :
    (Ledger.addProvider p).run.run c.ledger = onLedger ((addProvider p).run.run c) := by
  rw [Ledger.addProvider_run, addProvider_run]
  cases hdefect : p.defect? with
  | some defect => rfl
  | none =>
    have hallowed : c.Allows (.provider p) := hdefect
    dsimp only
    rw [← ledger_push hallowed, detectRoot_ledger]
    cases (detectRoot p.provides).run.run (c.push (.provider p)) with
    | mk r c' =>
      cases r with
      | ok _ => rfl
      | error e => rfl

/-- So does adding several. -/
theorem addProviders_ledger (c : Container) (ps : List Provider) :
    (Ledger.addProviders ps).run.run c.ledger = onLedger ((addProviders ps).run.run c) := by
  induction ps generalizing c with
  | nil => rfl
  | cons p ps ih =>
    rw [Ledger.addProviders_run_cons, addProviders_run_cons, addProvider_ledger]
    cases (addProvider p).run.run c with
    | mk r c' =>
      cases r with
      | error e => rfl
      | ok n =>
        dsimp only [onLedger]
        rw [ih]
        dsimp only [onLedger]
        cases (addProviders ps).run.run c' with
        | mk r c'' =>
          cases r with
          | error e => rfl
          | ok ns => rfl

/-- Adding the first of several providers to a ledger is followed by adding the others, whether it
fails or not. -/
theorem populate_ledger_cons (l : Ledger) (p : Provider) (ps : List Provider) :
    (Ledger.populate (p :: ps)).run.run l =
      match (Ledger.addProvider p).run.run l with
      | (.ok _, l') => (Ledger.populate ps).run.run l'
      | (.error e, l') =>
        match Diagnostic.of p e with
        | .error missing => (.error missing, l')
        | .ok d =>
          match (Ledger.populate ps).run.run l' with
          | (.error missing, l'') => (.error missing, l'')
          | (.ok ds, l'') => (.ok (d :: ds), l'') := by
  have hlift : (liftM (Ledger.addProvider p).run :
      ExceptT TypeKey.MissingArgument (StateM Ledger) (Except GraphError Node)).run.run l =
        (.ok ((Ledger.addProvider p).run.run l).1, ((Ledger.addProvider p).run.run l).2) := rfl
  rw [Ledger.populate, Building.run_bind, hlift]
  cases (Ledger.addProvider p).run.run l with
  | mk r l' =>
    cases r with
    | ok n => rfl
    | error e =>
      dsimp only
      rw [Building.run_bind]
      cases Diagnostic.of p e with
      | error missing => rfl
      | ok d =>
        have hd : (liftM (Except.ok d : Except TypeKey.MissingArgument Diagnostic) :
          ExceptT TypeKey.MissingArgument (StateM Ledger) Diagnostic).run.run l' = (.ok d, l') := rfl
        rw [hd]
        dsimp only
        rw [Building.run_bind]
        cases (Ledger.populate ps).run.run l' with
        | mk r l'' =>
          cases r with
          | error missing => rfl
          | ok ds => rfl

/-- Adding providers and reporting what fails answers the same and leaves the same. -/
theorem populate_ledger (c : Container) (ps : List Provider) :
    (Ledger.populate ps).run.run c.ledger = onLedger ((populate ps).run.run c) := by
  induction ps generalizing c with
  | nil => rfl
  | cons p ps ih =>
    rw [populate_ledger_cons, populate_run_cons, addProvider_ledger]
    cases (addProvider p).run.run c with
    | mk r c' =>
      cases r with
      | ok n => exact ih c'
      | error e =>
        dsimp only [onLedger]
        cases Diagnostic.of p e with
        | error missing => rfl
        | ok d =>
          dsimp only
          rw [ih]
          dsimp only [onLedger]
          cases (populate ps).run.run c' with
          | mk r c'' =>
            cases r with
            | error missing => rfl
            | ok ds => rfl

/-! ## The nodes in the stores -/

/-- The store of providers has the provider nodes. -/
theorem providerNodes_ledger (c : Container) : c.ledger.providerNodes = c.providers := by
  unfold providers
  rw [members_eq_map_stamped, ← List.filterMap_eq_filter, List.filterMap_map]
  show (c.stamped.filterMap stampedProvider?).map (fun s => c.nodeOf s.id (.provider s.item)) = _
  rw [List.map_filterMap]
  refine congrArg (c.stamped.filterMap ·) (funext fun s => ?_)
  obtain ⟨id, role⟩ := s
  cases role <;> rfl

/-- The store of the root has the root node. -/
theorem rootNode?_ledger (c : Container) : c.ledger.rootNode? = c.root? := by
  unfold root?
  rw [members_eq_map_stamped, List.find?_eq_findSome?_guard, List.findSome?_map]
  show (c.stamped.findSome? stampedRoot?).map (fun s => c.nodeOf s.id (.root s.item)) = _
  rw [List.map_findSome?]
  refine congrArg (c.stamped.findSome? ·) (funext fun s => ?_)
  obtain ⟨id, role⟩ := s
  cases role <;> rfl

/-- The store of the missing node has the missing node. -/
theorem missingNode?_ledger (c : Container) : c.ledger.missingNode? = c.missing? := by
  unfold missing?
  rw [members_eq_map_stamped, List.find?_eq_findSome?_guard, List.findSome?_map]
  show (c.stamped.findSome? stampedMissing?).map (fun id => c.nodeOf id .missing) = _
  rw [List.map_findSome?]
  refine congrArg (c.stamped.findSome? ·) (funext fun s => ?_)
  obtain ⟨id, role⟩ := s
  cases role <;> rfl

/-- The stores hold the nodes of the container. -/
theorem known_ledger_perm (h : c.Reachable) : c.ledger.known.Perm c.members := by
  refine List.Perm.trans ?_ h.members_perm.symm
  unfold Ledger.known known
  rw [providerNodes_ledger, rootNode?_ledger, missingNode?_ledger, List.append_assoc]
  exact List.perm_append_comm

/-- Two nodes with one number are one. -/
theorem eq_of_mem_members {m n : Node} (hm : m ∈ c.members) (hn : n ∈ c.members)
    (hid : m.id = n.id) : m = n := by
  obtain ⟨i, hi⟩ := mem_members_iff.mp hm
  obtain ⟨j, hj⟩ := mem_members_iff.mp hn
  rw [id_eq_of_node? hi, id_eq_of_node? hj] at hid
  obtain rfl := Int.ofNat.inj hid
  exact Option.some.inj (hi.symm.trans hj)

/-- Nodes of the container that are sorted stay in place when they are sorted again. -/
theorem inOrder_eq {ns ms : List Node} (hms : ∀ m ∈ ms, m ∈ c.members)
    (hsorted : ms.Pairwise fun m n => m.id < n.id) (hperm : ns.Perm ms) :
    Ledger.inOrder ns = ms := by
  have hordered : ms.Pairwise fun m n => m.id ≤ n.id := hsorted.imp fun h => h.le
  refine ((Ledger.inOrder_perm ns).trans hperm).eq_of_pairwise ?_ (Ledger.pairwise_inOrder ns)
    hordered
  -- A number has one node, so the order by numbers decides on the list.
  intro m n hm hn hle hge
  have hmem := hms m (((Ledger.inOrder_perm ns).trans hperm).mem_iff.mp hm)
  exact eq_of_mem_members hmem (hms n hn) (le_antisymm hle hge)

/-- Sorted by number, the nodes in the stores are the list of all nodes. -/
theorem inOrder_known_ledger (h : c.Reachable) : Ledger.inOrder c.ledger.known = c.members :=
  inOrder_eq (fun _ hm => hm) (pairwise_members c) (known_ledger_perm h)

/-- A number leads to the same node. -/
theorem node?_ledger (h : c.Reachable) (i : Nat) : c.ledger.node? i = c.node? i := by
  have hperm := known_ledger_perm h
  have hfound : ∀ n, c.ledger.node? i = some n → c.node? i = some n := by
    intro n hn
    obtain ⟨j, hj⟩ := mem_members_iff.mp (hperm.mem_iff.mp (List.mem_of_find?_eq_some hn))
    have hid : n.id = i := by simpa using List.find?_some hn
    rw [id_eq_of_node? hj] at hid
    obtain rfl := Int.ofNat.inj hid
    exact hj
  cases hledger : c.ledger.node? i with
  | some n => exact (hfound n hledger).symm
  | none =>
    -- What has the number would be in the stores.
    refine (Option.eq_none_iff_forall_ne_some.mpr fun n hn => ?_).symm
    have hknown : n ∈ c.ledger.known := hperm.mem_iff.mpr (mem_members_iff.mpr ⟨i, hn⟩)
    exact List.find?_eq_none.mp hledger n hknown (by simp [id_eq_of_node? hn])

/-- So do several. -/
theorem nodesOf_ledger (h : c.Reachable) (ids : List Nat) :
    c.ledger.nodesOf ids = c.nodesOf ids := by
  unfold Ledger.nodesOf nodesOf
  rw [funext (node?_ledger h)]

/-- Sorting nodes by their numbers is sorting their numbers. -/
theorem byId_ledger (h : c.Reachable) (ids : List Nat) :
    c.ledger.byId ids = c.nodesOf (ascending ids) := by
  unfold Ledger.byId
  rw [nodesOf_ledger h]
  refine inOrder_eq (fun _ hm => mem_members_of_mem_nodesOf hm)
    (pairwise_nodesOf (pairwise_ascending ids)) ?_
  exact ((List.mergeSort_perm ids.eraseDups (· ≤ ·)).filterMap c.node?).symm

/-! ## Queries -/

/-- The same edges lead from a node. -/
theorem successors_ledger (h : c.Reachable) (u : Node) :
    c.ledger.successors u = c.successors u := by
  unfold Ledger.successors successors
  rw [byId_ledger h]
  rfl

/-- The edges from several nodes are the same. -/
theorem edgesFrom_ledger (h : c.Reachable) (ns : List Node) :
    c.ledger.edgesFrom ns = c.edgesFrom ns := by
  unfold Ledger.edgesFrom edgesFrom
  rw [funext (successors_ledger h)]
  rfl

/-- The numbers below the next one lead to all nodes. -/
theorem map_node?_range (c : Container) :
    (List.range c.nextId).map c.node? = c.members.map some := by
  refine List.ext_getElem ?_ fun i hi hi' => ?_
  · rw [List.length_map, List.length_map, List.length_range, members, List.length_mapIdx]
    rfl
  · have hlt : i < c.roles.length := by simpa [nextId] using hi
    rw [List.getElem_map, List.getElem_map, List.getElem_range, node?,
      List.getElem?_eq_getElem hlt]
    unfold members
    rw [List.getElem_mapIdx]
    rfl

/-- The graph on the numbers is the same. -/
theorem digraph_ledger (h : c.Reachable) : c.ledger.digraph c.members = c.digraph := by
  have hvertices : c.members.map (·.id.toNat) = List.range c.nextId := by
    rw [map_members (f := (·.id.toNat)) (g := id) fun i _ => rfl, List.map_id]
  have harcs : c.digraph.arcs = c.members.flatMap fun n =>
      (c.successors n).map fun v => (n.id.toNat, v.id.toNat) := by
    have htails : c.digraph.arcs = ((List.range c.nextId).map c.node?).flatMap fun o =>
        o.elim [] fun n => (c.successors n).map fun v => (n.id.toNat, v.id.toNat) := by
      rw [List.flatMap_map]
      refine congrArg (List.range c.nextId).flatMap (funext fun u => ?_)
      cases hu : c.node? u with
      | none => rfl
      | some n =>
        have hid : n.id.toNat = u := by rw [id_eq_of_node? hu, Int.toNat_natCast]
        show _ = (c.successors n).map fun v => (n.id.toNat, v.id.toNat)
        rw [hid]
    rw [htails, map_node?_range, List.flatMap_map]
    rfl
  unfold Ledger.digraph
  rw [funext (successors_ledger h), hvertices, ← harcs]
  rfl

/-- Asking for all nodes answers the same and leaves the same. -/
theorem nodes_ledger (h : c.Reachable) :
    Ledger.nodes.run c.ledger = onLedger (nodes.run c) := by
  rw [Ledger.nodes_run, ← ledger_withMissing, inOrder_known_ledger h.withMissing]
  rfl

/-- Asking for the missing node answers the same and leaves the same. -/
theorem missing_ledger (c : Container) :
    Ledger.missing.run c.ledger = onLedger (missing.run c) := by
  have hnode := missingNode?_ledger c.withMissing
  unfold Ledger.missingNode? at hnode
  rw [Ledger.missing_run, ← ledger_withMissing]
  show (_, c.withMissing.ledger) =
    (c.withMissing.missing?.getD (c.withMissing.nodeOf c.withMissing.nextId .missing),
      c.withMissing.ledger)
  rw [← hnode]
  cases h : c.ledger.missing? with
  | some id =>
    have hsame : c.withMissing = c := by
      rw [withMissing_eq_self]
      rw [← isSome_missing?_ledger, h]
      rfl
    rw [hsame, h]
    rfl
  | none =>
    rw [ledger_withMissing, Ledger.withMissing_eq_enter h]
    rfl

/-- The numbers of those who provide what a node requires are the same if the missing node is there
or is not asked for. -/
theorem flatMap_producersOf_ledger {v : Node}
    (h : c.roles.any Role.isMissing = true ∨ v.requires.any c.isUnmet = false) :
    v.requires.flatMap c.ledger.producersOf = c.sources v := by
  unfold sources
  refine List.flatMap_congr fun t ht => ?_
  show (if c.isUnmet t then [c.ledger.missing?.getD c.nextId] else c.providedBy.nodes t) = _
  cases hunmet : c.isUnmet t with
  | false => rfl
  | true =>
    rcases h with hmissing | hnone
    · rw [← isSome_missing?_ledger] at hmissing
      obtain ⟨id, hid⟩ := Option.isSome_iff_exists.mp hmissing
      rw [← missing?_ledger, hid]
      rfl
    · exact absurd hunmet (List.any_eq_false.mp hnone t ht)

/-- Asking for the predecessors of a node answers the same and leaves the same. -/
theorem predecessors_ledger (h : c.Reachable) (v : Node) :
    (Ledger.predecessors v).run c.ledger = onLedger ((predecessors v).run c) := by
  have hhas : c.ledger.has v = c.has v := rfl
  cases hv : c.has v with
  | false =>
    rw [Ledger.predecessors_run_of_not_has _ v (hhas.trans hv), predecessors_run_of_not_has c v hv]
    rfl
  | true =>
    rw [Ledger.predecessors_run _ v (hhas.trans hv), predecessors_run c v hv]
    have hisUnmet : c.ledger.isUnmet = c.isUnmet := rfl
    rw [hisUnmet]
    cases hunmet : v.requires.any c.isUnmet with
    | true =>
      show (c.ledger.withMissing.byId (v.requires.flatMap c.ledger.producersOf),
        c.ledger.withMissing) = (_, c.withMissing.ledger)
      rw [← funext (Ledger.producersOf_withMissing c.ledger), ← ledger_withMissing,
        byId_ledger h.withMissing,
        flatMap_producersOf_ledger (Or.inl (any_isMissing_withMissing c))]
      rfl
    | false =>
      show (c.ledger.byId (v.requires.flatMap c.ledger.producersOf), c.ledger) = (_, c.ledger)
      rw [byId_ledger h, flatMap_producersOf_ledger (Or.inr hunmet)]
      rfl

/-- Asking for a cycle answers the same and leaves the same. -/
theorem findCycle_ledger (h : c.Reachable) :
    Ledger.findCycle.run c.ledger = onLedger (findCycle.run c) := by
  rw [Ledger.findCycle, Building.run_seq, nodes_ledger h]
  show (c.withMissing.ledger.nodesOf (c.withMissing.ledger.digraph c.withMissing.members).findCycle,
    c.withMissing.ledger) = _
  rw [digraph_ledger h.withMissing, nodesOf_ledger h.withMissing]
  rfl

/-- Asking for the build order answers the same and leaves the same. -/
theorem buildOrder_ledger (h : c.Reachable) :
    Ledger.buildOrder.run.run c.ledger = onLedger (buildOrder.run.run c) := by
  have hnodesOf : c.withMissing.ledger.nodesOf = c.withMissing.nodesOf :=
    funext (nodesOf_ledger h.withMissing)
  rw [Ledger.buildOrder_run, buildOrder_run, rootNode?_ledger, ← ledger_withMissing,
    inOrder_known_ledger h.withMissing, digraph_ledger h.withMissing, hnodesOf]
  cases c.root? with
  | none => rfl
  | some r => rfl

/-- The number of edges is counted from the same nodes and edges. -/
theorem edgeCount_ledger (h : c.Reachable) :
    Ledger.edgeCount.run c.ledger = onLedger (edgeCount.run c) := by
  rw [Ledger.edgeCount, Building.run_seq, nodes_ledger h]
  show (c.withMissing.members.foldl
    (fun count n => count + (c.withMissing.ledger.successors n).length) 0, c.withMissing.ledger) = _
  rw [funext (successors_ledger h.withMissing)]
  rfl

/-- The whole graph has the same nodes and edges. -/
theorem graph_ledger (h : c.Reachable) :
    Ledger.graph.run c.ledger = onLedger (graph.run c) := by
  rw [Ledger.graph, Building.run_seq, nodes_ledger h]
  show ((c.withMissing.members, c.withMissing.ledger.edgesFrom c.withMissing.members),
    c.withMissing.ledger) = _
  rw [edgesFrom_ledger h.withMissing]
  rfl

/-! ## All together -/

/-- A ledger answers every question and every operation as a container does, and becomes what the
container becomes. -/
structure Answers (l : Ledger) (c : Container) : Prop where
  /-- The nodes. -/
  nodes : Ledger.nodes.run l = onLedger (nodes.run c)
  /-- Their number. -/
  nodeCount : Ledger.nodeCount.run l = onLedger (nodeCount.run c)
  /-- The number of edges. -/
  edgeCount : Ledger.edgeCount.run l = onLedger (edgeCount.run c)
  /-- The missing node. -/
  missing : Ledger.missing.run l = onLedger (missing.run c)
  /-- The nodes from which an edge leads to a node. -/
  predecessors : ∀ v, (Ledger.predecessors v).run l = onLedger ((predecessors v).run c)
  /-- The whole graph. -/
  graph : Ledger.graph.run l = onLedger (graph.run c)
  /-- One cycle. -/
  findCycle : Ledger.findCycle.run l = onLedger (findCycle.run c)
  /-- The build order. -/
  buildOrder : Ledger.buildOrder.run.run l = onLedger (buildOrder.run.run c)
  /-- Whether a node belongs to the container. -/
  has : l.has = c.has
  /-- The provider nodes. -/
  providers : l.providerNodes = c.providers
  /-- Whether there is a root. -/
  hasRoot : l.hasRoot = c.hasRoot
  /-- The root node. -/
  root : l.root = c.root
  /-- The types that no node provides. -/
  unsatisfied : l.unsatisfied = c.unsatisfied
  /-- The types that a node provides. -/
  provides : l.provides = c.provides
  /-- The nodes to which an edge leads from a node. -/
  successors : l.successors = c.successors
  /-- Whether an edge leads from one node to another. -/
  hasEdgeFromTo : l.hasEdgeFromTo = c.hasEdgeFromTo
  /-- Whether an edge leads between two nodes. -/
  hasEdgeBetween : l.hasEdgeBetween = c.hasEdgeBetween
  /-- The edge from one node to another. -/
  edge : l.edge? = c.edge?
  /-- Adding a provider. -/
  addProvider : ∀ p, (Ledger.addProvider p).run.run l = onLedger ((addProvider p).run.run c)
  /-- Adding several. -/
  addProviders : ∀ ps, (Ledger.addProviders ps).run.run l = onLedger ((addProviders ps).run.run c)
  /-- Adding several and reporting what fails. -/
  populate : ∀ ps, (Ledger.populate ps).run.run l = onLedger ((populate ps).run.run c)
  /-- Setting the root. -/
  setRoot : ∀ type, (Ledger.setRoot type).run.run l = onLedger ((setRoot type).run.run c)

/-- What a node provides is read off its role and the indices. -/
theorem provides_ledger (c : Container) : c.ledger.provides = c.provides := by
  funext n
  unfold Ledger.provides provides providesOf
  cases n.role <;> rfl

/-- The types on an edge are the same. -/
theorem connectingTypes_ledger (c : Container) :
    c.ledger.connectingTypes = c.connectingTypes := by
  funext u v
  unfold Ledger.connectingTypes
  rw [provides_ledger]
  rfl

/-- A reachable container and its ledger answer the same. -/
theorem Reachable.answers_ledger (h : c.Reachable) : Answers c.ledger c where
  nodes := nodes_ledger h
  nodeCount := by
    rw [Ledger.nodeCount, Building.run_seq, nodes_ledger h]
    rfl
  edgeCount := edgeCount_ledger h
  missing := missing_ledger c
  predecessors := predecessors_ledger h
  graph := graph_ledger h
  findCycle := findCycle_ledger h
  buildOrder := buildOrder_ledger h
  has := rfl
  providers := providerNodes_ledger c
  hasRoot := by
    unfold Ledger.hasRoot hasRoot
    rw [← map_item_root?_ledger, Option.isSome_map]
  root := by
    unfold Ledger.root root
    cases hroot : c.root? with
    | none => simp only [rootNode?_ledger, hroot]
    | some r => simp only [rootNode?_ledger, hroot]
  unsatisfied := rfl
  provides := provides_ledger c
  successors := funext (successors_ledger h)
  hasEdgeFromTo := by
    funext u v
    unfold Ledger.hasEdgeFromTo
    rw [connectingTypes_ledger]
    rfl
  hasEdgeBetween := by
    funext u v
    unfold Ledger.hasEdgeBetween Ledger.hasEdgeFromTo
    rw [connectingTypes_ledger]
    rfl
  edge := by
    funext u v
    unfold Ledger.edge? edge?
    cases htypes : c.connectingTypes u v with
    | nil => simp only [connectingTypes_ledger, htypes]
    | cons t ts => simp only [connectingTypes_ledger, htypes]
  addProvider := addProvider_ledger c
  addProviders := addProviders_ledger c
  populate := populate_ledger c
  setRoot := setRoot_ledger c

/-- An operation does the same on both sides. -/
theorem Reachable.step_ledger (h : c.Reachable) (op : Operation) :
    c.ledger.step op = (op.apply c).ledger := by
  have hanswers := h.answers_ledger
  cases op with
  | addProvider p => exact congrArg Prod.snd (hanswers.addProvider p)
  | addProviders ps => exact congrArg Prod.snd (hanswers.addProviders ps)
  | setRoot type => exact congrArg Prod.snd (hanswers.setRoot type)
  | query q =>
    cases q with
    | nodes => exact congrArg Prod.snd hanswers.nodes
    | nodeCount => exact congrArg Prod.snd hanswers.nodeCount
    | edgeCount => exact congrArg Prod.snd hanswers.edgeCount
    | missing => exact congrArg Prod.snd hanswers.missing
    | predecessors v => exact congrArg Prod.snd (hanswers.predecessors v)
    | graph => exact congrArg Prod.snd hanswers.graph
    | findCycle => exact congrArg Prod.snd hanswers.findCycle
    | buildOrder => exact congrArg Prod.snd hanswers.buildOrder
    | has n | providers | root | unsatisfied | successors u | hasEdgeFromTo u v
    | hasEdgeBetween u v | edge u v => rfl

/-- So does a list of operations. -/
theorem Reachable.ledger_after (h : c.Reachable) (ops : List Operation) :
    c.ledger.after ops = (c.after ops).ledger := by
  induction ops generalizing c with
  | nil => rfl
  | cons op ops ih =>
    show (c.ledger.step op).after ops = ((op.apply c).after ops).ledger
    rw [h.step_ledger]
    exact ih (h.after [op])

/-- Whatever is done with an empty ledger and an empty container, the one is the ledger of the other
afterwards, and they answer the same. -/
theorem answers_after (rootMethod : String) (tag : Nat) (ops : List Operation) :
    (Ledger.new rootMethod tag).after ops = ((new rootMethod tag).after ops).ledger ∧
      Answers ((Ledger.new rootMethod tag).after ops) ((new rootMethod tag).after ops) := by
  have hnew : Reachable (new rootMethod tag) := ⟨rootMethod, tag, [], rfl⟩
  have hledger := hnew.ledger_after ops
  rw [ledger_new] at hledger
  rw [hledger]
  exact ⟨rfl, (hnew.after ops).answers_ledger⟩

end Wiring.Container
