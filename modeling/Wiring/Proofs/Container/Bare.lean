import Wiring.Proofs.Container.Outcome
import Wiring.Proofs.TypeKey.Bare

/-!
# Containers without methods

A container compares types and prints them, and takes notice of methods only to detect a root. So
what it answers and becomes commutes with taking the methods away from its types and from those of
its nodes (`Container.bare`), as long as no provided type is runnable (`Container.Plain`).

A query is answered from the roles and the two indices, so it is enough to follow these
(`nodes_bare`, `types_bare`), and the graph that is searched and sorted is literally the same
(`digraph_bare`). Of the operations, only the addition of a provider asks for runnable types
(`addProvider_bare`).
-/

namespace Wiring

/-! ## Types and providers -/

/-- Whether a type is the error channel does not depend on its methods. -/
theorem TypeKey.bare_beq_error (t : TypeKey) : (t.bare == error) = (t == error) :=
  bare_beq_bare t error

/-- Without methods there are no runnable types. -/
theorem TypeKey.runnables_map_bare (method : String) (ts : List TypeKey) :
    runnables method (ts.map bare) = [] := by
  refine runnables_eq_nil fun t ht hrunnable => ?_
  obtain ⟨u, -, rfl⟩ := List.mem_map.mp ht
  rw [← isRunnable_iff, isRunnable_bare] at hrunnable
  cases hrunnable

namespace Provider

/-- The provider whose types have no methods. -/
def bare (p : Provider) : Provider :=
  { p with
    params := p.params.map TypeKey.bare
    results := p.results.map TypeKey.bare
    receiver := p.receiver.map TypeKey.bare }

/-- It provides what the provider provides. -/
theorem provides_bare (p : Provider) : p.bare.provides = p.provides.map TypeKey.bare := by
  unfold provides bare
  rw [List.filter_map]
  congr 2
  funext t
  exact congrArg (!·) (TypeKey.bare_beq_error t)

/-- It has the same defect. -/
theorem defect?_bare (p : Provider) : p.bare.defect? = p.defect? := by
  have hearly : p.bare.hasEarlyError = p.hasEarlyError := by
    unfold hasEarlyError bare
    rw [← List.map_dropLast, List.any_map]
    congr 1
    funext t
    exact TypeKey.bare_beq_error t
  have hmethod : p.bare.isMethod = p.isMethod := Option.isSome_map
  unfold defect?
  rw [hearly, hmethod]

end Provider

/-! ## Nodes, edges and errors -/

namespace Role

/-- The role whose types have no methods. -/
def bare : Role → Role
  | .provider p => .provider p.bare
  | .root type => .root type.bare
  | .missing => .missing

@[simp]
theorem isProvider_bare (role : Role) : role.bare.isProvider = role.isProvider := by
  cases role <;> rfl

@[simp]
theorem isMissing_bare (role : Role) : role.bare.isMissing = role.isMissing := by
  cases role <;> rfl

theorem rootType?_bare (role : Role) : role.bare.rootType? = role.rootType?.map TypeKey.bare := by
  cases role <;> rfl

theorem requires_bare (role : Role) : role.bare.requires = role.requires.map TypeKey.bare := by
  cases role <;> rfl

theorem provides_bare (role : Role) : role.bare.provides = role.provides.map TypeKey.bare := by
  cases role with
  | provider p => exact p.provides_bare
  | root type => rfl
  | missing => rfl

/-- A printed role shows no methods. -/
theorem text_bare (role : Role) : role.bare.text = role.text := by
  cases role with
  | provider p => rfl
  | root type =>
    unfold text bare
    dsimp only
    rw [TypeKey.text_bare]
  | missing => rfl

end Role

/-- The node whose types have no methods. -/
def Node.bare (n : Node) : Node := { n with role := n.role.bare }

/-- A printed node shows no methods. -/
theorem Node.text_bare (n : Node) : n.bare.text = n.text := n.role.text_bare

/-- The edge whose types have no methods. -/
def Edge.bare (e : Edge) : Edge := ⟨e.source.bare, e.target.bare, e.types.map TypeKey.bare⟩

namespace GraphError

/-- The error whose types have no methods. -/
def bare : GraphError → GraphError
  | .invalidProvider p defect => .invalidProvider p.bare defect
  | .noRoot => .noRoot
  | .rootAlreadySet existing attempted => .rootAlreadySet existing.bare attempted.bare
  | .ambiguousRoot candidates => .ambiguousRoot (candidates.map TypeKey.bare)
  | .cyclicDependency cycle => .cyclicDependency (cycle.map Node.bare)
  | .unsorted => .unsorted

/-- The wording of an error shows no methods. -/
theorem message_bare (e : GraphError) : e.bare.message = e.message := by
  cases e with
  | invalidProvider p defect => rfl
  | noRoot => rfl
  | rootAlreadySet existing attempted =>
    unfold message bare
    dsimp only
    rw [TypeKey.text_bare, TypeKey.text_bare]
  | ambiguousRoot candidates =>
    unfold message bare
    dsimp only
    rw [TypeKey.textList_map_bare]
  | cyclicDependency cycle =>
    have htext : Node.text ∘ Node.bare = Node.text := funext Node.text_bare
    unfold message bare
    dsimp only
    rw [← List.map_take, ← List.map_append, List.mapM_map, htext]
  | unsorted => rfl

end GraphError

namespace Container

variable {c : Container}

/-- The container whose types have no methods. -/
def bare (c : Container) : Container :=
  { c with
    roles := c.roles.map Role.bare
    providedBy := c.providedBy.bare
    requiredBy := c.requiredBy.bare }

/-! ## Nodes of a container -/

/-- It has as many nodes. -/
@[simp]
theorem nextId_bare (c : Container) : c.bare.nextId = c.nextId := List.length_map _

theorem node?_bare (c : Container) (i : Nat) : c.bare.node? i = (c.node? i).map Node.bare := by
  unfold node? bare
  dsimp only
  rw [List.getElem?_map]
  cases c.roles[i]? <;> rfl

theorem members_bare (c : Container) : c.bare.members = c.members.map Node.bare := by
  apply List.ext_getElem?
  intro i
  unfold members bare
  dsimp only
  rw [List.getElem?_mapIdx, List.getElem?_map, List.getElem?_map, List.getElem?_mapIdx]
  cases c.roles[i]? <;> rfl

theorem nodesOf_bare (c : Container) (ids : List Nat) :
    c.bare.nodesOf ids = (c.nodesOf ids).map Node.bare := by
  unfold nodesOf
  rw [List.map_filterMap]
  congr 1
  exact funext c.node?_bare

theorem providers_bare (c : Container) : c.bare.providers = c.providers.map Node.bare := by
  unfold providers
  rw [members_bare, List.filter_map]
  congr 2
  exact funext fun n => n.role.isProvider_bare

theorem root?_bare (c : Container) : c.bare.root? = c.root?.map Node.bare := by
  unfold root?
  rw [members_bare, List.find?_map]
  congr 2
  funext n
  show n.role.bare.rootType?.isSome = _
  rw [Role.rootType?_bare, Option.isSome_map]

theorem missing?_bare (c : Container) : c.bare.missing? = c.missing?.map Node.bare := by
  unfold missing?
  rw [members_bare, List.find?_map]
  congr 2
  exact funext fun n => n.role.isMissing_bare

theorem rootType?_bare (c : Container) : c.bare.rootType? = c.rootType?.map TypeKey.bare := by
  unfold rootType? bare
  dsimp only
  rw [List.findSome?_map, List.map_findSome?]
  congr 1
  exact funext Role.rootType?_bare

/-- Whether the missing node is there does not depend on methods. -/
theorem any_isMissing_bare (c : Container) :
    c.bare.roles.any Role.isMissing = c.roles.any Role.isMissing := by
  unfold bare
  dsimp only
  rw [List.any_map]
  congr 1
  exact funext Role.isMissing_bare

theorem findIdx?_isMissing_bare (c : Container) :
    c.bare.roles.findIdx? Role.isMissing = c.roles.findIdx? Role.isMissing := by
  unfold bare
  dsimp only
  rw [List.findIdx?_map]
  congr 1
  exact funext Role.isMissing_bare

@[simp]
theorem has_bare (c : Container) (n : Node) : c.bare.has n.bare = c.has n := by
  unfold has
  rw [nextId_bare]
  rfl

/-! ## Types and edges -/

@[simp]
theorem isUnmet_bare (c : Container) (t : TypeKey) : c.bare.isUnmet t.bare = c.isUnmet t :=
  congrArg List.isEmpty (c.providedBy.nodes_bare t)

theorem unsatisfied_bare (c : Container) :
    c.bare.unsatisfied = c.unsatisfied.map TypeKey.bare := by
  have hunmet : c.bare.isUnmet ∘ TypeKey.bare = c.isUnmet := funext c.isUnmet_bare
  have htypes : c.bare.requiredBy.types = c.requiredBy.types.map TypeKey.bare :=
    c.requiredBy.types_bare
  unfold unsatisfied
  rw [htypes, List.filter_map, hunmet]

theorem provides_bare (c : Container) (n : Node) :
    c.bare.provides n.bare = (c.provides n).map TypeKey.bare := by
  obtain ⟨owner, id, role, listed⟩ := n
  cases role with
  | provider p => exact p.provides_bare
  | root type => rfl
  | missing => exact c.unsatisfied_bare

theorem successors_bare (c : Container) (u : Node) :
    c.bare.successors u.bare = (c.successors u).map Node.bare := by
  have hnodes : (fun t => c.bare.requiredBy.nodes (TypeKey.bare t)) = c.requiredBy.nodes :=
    funext c.requiredBy.nodes_bare
  unfold successors
  rw [has_bare, provides_bare, List.flatMap_map, hnodes, nodesOf_bare]
  split
  · rfl
  · rfl

/-- Nodes are listed as requiring a type whatever its methods. -/
theorem isConsumer_bare (c : Container) (v : Node) (t : TypeKey) :
    c.bare.isConsumer v.bare t.bare = c.isConsumer v t := by
  have hnodes : c.bare.requiredBy.nodes t.bare = c.requiredBy.nodes t := c.requiredBy.nodes_bare t
  unfold isConsumer
  rw [hnodes]
  rfl

theorem connectingTypes_bare (c : Container) (u v : Node) :
    c.bare.connectingTypes u.bare v.bare = (c.connectingTypes u v).map TypeKey.bare := by
  have hconsumer : c.bare.isConsumer v.bare ∘ TypeKey.bare = c.isConsumer v :=
    funext (c.isConsumer_bare v)
  unfold connectingTypes
  rw [has_bare, has_bare, provides_bare, TypeKey.distinct_map_bare, List.filter_map, hconsumer]
  split
  · rfl
  · rfl

@[simp]
theorem hasEdgeFromTo_bare (c : Container) (u v : Node) :
    c.bare.hasEdgeFromTo u.bare v.bare = c.hasEdgeFromTo u v := by
  unfold hasEdgeFromTo
  rw [connectingTypes_bare, List.isEmpty_map]

theorem hasEdgeBetween_bare (c : Container) (u v : Node) :
    c.bare.hasEdgeBetween u.bare v.bare = c.hasEdgeBetween u v := by
  unfold hasEdgeBetween
  rw [hasEdgeFromTo_bare, hasEdgeFromTo_bare]

theorem edge?_bare (c : Container) (u v : Node) :
    c.bare.edge? u.bare v.bare = (c.edge? u v).map Edge.bare := by
  unfold edge?
  rw [connectingTypes_bare]
  cases c.connectingTypes u v <;> rfl

/-- An arc of the whole graph, the types without methods. -/
def bareArc (arc : Node × Node × Option Edge) : Node × Node × Option Edge :=
  (arc.1.bare, arc.2.1.bare, arc.2.2.map Edge.bare)

theorem edgesFrom_bare (c : Container) (ns : List Node) :
    c.bare.edgesFrom (ns.map Node.bare) = (c.edgesFrom ns).map bareArc := by
  unfold edgesFrom
  rw [List.flatMap_map, List.map_flatMap]
  congr 1
  funext u
  rw [successors_bare, List.map_map, List.map_map]
  congr 1
  funext v
  exact Prod.ext rfl (Prod.ext rfl (c.edge?_bare u v))

/-- As many edges are counted. -/
theorem length_successors_bare (c : Container) (u : Node) :
    (c.bare.successors u.bare).length = (c.successors u).length := by
  rw [successors_bare, List.length_map]

theorem sources_bare (c : Container) (v : Node) : c.bare.sources v.bare = c.sources v := by
  have hrequires : v.bare.requires = v.requires.map TypeKey.bare := v.role.requires_bare
  unfold sources
  rw [hrequires, List.flatMap_map, findIdx?_isMissing_bare]
  congr 1
  funext t
  have hnodes : c.bare.providedBy.nodes t.bare = c.providedBy.nodes t := c.providedBy.nodes_bare t
  rw [isUnmet_bare, hnodes]

/-- The graph on the numbers of the nodes is the same. -/
@[simp]
theorem digraph_bare (c : Container) : c.bare.digraph = c.digraph := by
  unfold digraph
  rw [nextId_bare]
  congr 2
  funext u
  rw [node?_bare]
  cases c.node? u with
  | none => rfl
  | some n =>
    show (c.bare.successors n.bare).map (fun v => (u, v.id.toNat)) = _
    rw [successors_bare, List.map_map]
    rfl

/-! ## Operations -/

/-- A node is put at the end whatever the methods of its types. -/
theorem push_bare (c : Container) (role : Role) : c.bare.push role.bare = (c.push role).bare := by
  have hprovided : c.bare.providedBy.addAll role.bare.provides c.bare.nextId =
      (c.providedBy.addAll role.provides c.nextId).bare := by
    rw [role.provides_bare, nextId_bare]
    exact c.providedBy.addAll_bare _ _
  have hrequired : c.bare.requiredBy.addAll role.bare.requires c.bare.nextId =
      (c.requiredBy.addAll role.requires c.nextId).bare := by
    rw [role.requires_bare, nextId_bare]
    exact c.requiredBy.addAll_bare _ _
  have hroles : c.bare.roles ++ [role.bare] = (c.roles ++ [role]).map Role.bare := by
    rw [List.map_append]
    rfl
  unfold push
  rw [hprovided, hrequired, hroles]
  rfl

theorem withMissing_bare (c : Container) : c.bare.withMissing = c.withMissing.bare := by
  cases h : c.roles.any Role.isMissing with
  | true => rw [withMissing_eq_self h, withMissing_eq_self (c.any_isMissing_bare.trans h)]
  | false =>
    rw [withMissing_eq_push h, withMissing_eq_push (c.any_isMissing_bare.trans h)]
    exact c.push_bare .missing

/-- What an attempt answers and leaves, the types without methods. -/
def bareAttempt {α : Type} (f : α → α) (result : Except GraphError α × Container) :
    Except GraphError α × Container :=
  ((result.1.map f).mapError GraphError.bare, result.2.bare)

theorem setRoot_bare (c : Container) (t : TypeKey) :
    (setRoot t.bare).run.run c.bare = bareAttempt Node.bare ((setRoot t).run.run c) := by
  rw [setRoot_run, setRoot_run, rootType?_bare]
  cases c.rootType? with
  | some existing => rfl
  | none =>
    have hpush : c.bare.push (.root t.bare) = (c.push (.root t)).bare := c.push_bare (.root t)
    dsimp only [Option.map_none]
    rw [hpush, nextId_bare]
    rfl

theorem predecessors_bare (c : Container) (v : Node) :
    (predecessors v.bare).run c.bare =
      (((predecessors v).run c).1.map Node.bare, ((predecessors v).run c).2.bare) := by
  cases hv : c.has v with
  | false =>
    rw [predecessors_run_of_not_has c v hv,
      predecessors_run_of_not_has c.bare v.bare (by rw [has_bare, hv])]
    rfl
  | true =>
    have hunmet : v.bare.requires.any c.bare.isUnmet = v.requires.any c.isUnmet := by
      have hrequires : v.bare.requires = v.requires.map TypeKey.bare := v.role.requires_bare
      rw [hrequires, List.any_map]
      exact congrArg _ (funext c.isUnmet_bare)
    rw [predecessors_run c v hv, predecessors_run c.bare v.bare (by rw [has_bare, hv]), hunmet,
      withMissing_bare, sources_bare, sources_bare, nodesOf_bare, nodesOf_bare]
    split
    · rfl
    · rfl

theorem findCycle_bare (c : Container) :
    findCycle.run c.bare = ((findCycle.run c).1.map Node.bare, (findCycle.run c).2.bare) := by
  show (c.bare.withMissing.nodesOf c.bare.withMissing.digraph.findCycle, c.bare.withMissing) =
    ((c.withMissing.nodesOf c.withMissing.digraph.findCycle).map Node.bare, c.withMissing.bare)
  rw [withMissing_bare, digraph_bare, nodesOf_bare]

theorem buildOrder_bare (c : Container) :
    buildOrder.run.run c.bare = bareAttempt (List.map Node.bare) (buildOrder.run.run c) := by
  rw [buildOrder_run, buildOrder_run, root?_bare]
  cases c.root? with
  | none => rfl
  | some r =>
    have hid : r.bare.id = r.id := rfl
    dsimp only [Option.map_some]
    rw [withMissing_bare, digraph_bare, hid]
    -- Both runs search and sort the same graph.
    cases (c.withMissing.digraph.leadingTo r.id.toNat).findCycle with
    | cons i is =>
      dsimp only
      rw [nodesOf_bare]
      rfl
    | nil =>
      cases (c.withMissing.digraph.leadingTo r.id.toNat).order? with
      | none => rfl
      | some ids =>
        dsimp only
        rw [nodesOf_bare]
        rfl

/-! ## Plain containers -/

/-- No type that a node provides of itself is runnable. -/
def Plain (c : Container) : Prop :=
  ∀ role ∈ c.roles, ∀ t ∈ role.provides, ¬ t.Runnable c.rootMethod

/-- Roots are detected by the same method all along. -/
theorem rootMethod_of_grows {c' : Container} (h : c.Grows c') : c'.rootMethod = c.rootMethod := by
  induction h with
  | refl => rfl
  | tail _ hchange ih =>
    obtain ⟨role, -, rfl⟩ := hchange
    exact ih

namespace Plain

/-- What becomes plain was plain. -/
theorem of_grows {c' : Container} (h : c'.Plain) (hgrows : c.Grows c') : c.Plain := by
  induction hgrows with
  | refl => exact h
  | tail _ hchange ih =>
    obtain ⟨role, -, rfl⟩ := hchange
    exact ih fun role' hrole' => h role' (List.mem_append_left _ hrole')

/-- An empty container is plain. -/
theorem new (rootMethod : String) (tag : Nat) : (new rootMethod tag).Plain := by
  rintro role ⟨⟩

/-- A container stays plain with a node that provides nothing runnable. -/
theorem push (h : c.Plain) {role : Role} (hrole : ∀ t ∈ role.provides, ¬ t.Runnable c.rootMethod) :
    (c.push role).Plain := by
  intro role' hrole'
  rcases List.mem_append.mp hrole' with hrole' | hrole'
  · exact h role' hrole'
  · rw [List.mem_singleton.mp hrole']
    exact hrole

/-- It stays plain with a provider of which no type is runnable. -/
theorem addProvider (h : c.Plain) {p : Provider}
    (hp : ∀ t ∈ p.provides, ¬ t.Runnable c.rootMethod) :
    ((addProvider p).run.run c).2.Plain := by
  intro role hrole
  rw [rootMethod_of_grows (grows_addProvider c p)]
  rcases mem_roles_addProvider hrole with hbefore | rfl | ⟨t, -, rfl⟩
  · exact h role hbefore
  · exact hp
  · rintro _ ⟨⟩

/-- So it does with several. -/
theorem addProviders (h : c.Plain) {ps : List Provider}
    (hps : ∀ p ∈ ps, ∀ t ∈ p.provides, ¬ t.Runnable c.rootMethod) :
    ((addProviders ps).run.run c).2.Plain := by
  induction ps generalizing c with
  | nil => exact h
  | cons p ps ih =>
    have hfirst := h.addProvider (hps p List.mem_cons_self)
    have hmethod := rootMethod_of_grows (grows_addProvider c p)
    rw [addProviders_run_cons_snd]
    generalize (Container.addProvider p).run.run c = first at hfirst hmethod
    obtain ⟨_ | n, c'⟩ := first
    · exact hfirst
    · refine ih hfirst fun q hq => ?_
      rw [hmethod]
      exact hps q (List.mem_cons_of_mem _ hq)

/-- So it does whatever is set as the root. -/
theorem setRoot (h : c.Plain) (t : TypeKey) : ((setRoot t).run.run c).2.Plain := by
  rw [setRoot_run]
  cases c.rootType? with
  | some existing => exact h
  | none => exact h.push (by rintro _ ⟨⟩)

/-- And so it does whatever is asked. -/
theorem query (h : c.Plain) (q : Query) : (q.apply c).Plain := by
  rcases query_apply c q with hself | hmade
  · rw [hself]
    exact h
  · rw [hmade]
    cases hmissing : c.roles.any Role.isMissing with
    | true => rwa [withMissing_eq_self hmissing]
    | false =>
      rw [withMissing_eq_push hmissing]
      exact h.push (by rintro _ ⟨⟩)

end Plain

/-! ## Adding providers -/

/-- Where a provider leaves everything plain, it does the same without methods. -/
theorem addProvider_bare (c : Container) (p : Provider)
    (h : ((addProvider p).run.run c).2.Plain) :
    (addProvider p.bare).run.run c.bare = bareAttempt Node.bare ((addProvider p).run.run c) := by
  rw [addProvider_run, addProvider_run, p.defect?_bare]
  cases hdefect : p.defect? with
  | some defect => rfl
  | none =>
    -- The provider stays in any case, so nothing runnable is found among its types.
    rw [addProvider_run_snd, hdefect] at h
    have hplain : (c.push (.provider p)).Plain := h.of_grows (grows_detectRoot _ p.provides)
    have hnone : TypeKey.runnables (c.push (.provider p)).rootMethod p.provides = [] :=
      TypeKey.runnables_eq_nil (hplain (.provider p) (List.mem_append_right _ (by simp)))
    have hpush : c.bare.push (.provider p.bare) = (c.push (.provider p)).bare :=
      c.push_bare (.provider p)
    dsimp only
    rw [hpush, detectRoot_run, detectRoot_run, hnone, p.provides_bare, TypeKey.runnables_map_bare]
    dsimp only
    rw [nextId_bare]
    rfl

/-- So do several providers, up to the first failure. -/
theorem addProviders_bare (c : Container) (ps : List Provider)
    (h : ((addProviders ps).run.run c).2.Plain) :
    (addProviders (ps.map Provider.bare)).run.run c.bare =
      bareAttempt (List.map Node.bare) ((addProviders ps).run.run c) := by
  induction ps generalizing c with
  | nil => rfl
  | cons p ps ih =>
    have hfirst := c.addProvider_bare p
    have hrest := ih ((addProvider p).run.run c).2
    have hgrows := grows_addProviders ((addProvider p).run.run c).2 ps
    rw [addProviders_run_cons_snd] at h
    rw [List.map_cons, addProviders_run_cons, addProviders_run_cons]
    generalize (addProvider p).run.run c = first at h hfirst hrest hgrows ⊢
    obtain ⟨e | n, c'⟩ := first
    · rw [hfirst h]
      rfl
    · -- The state that the first provider leaves is plain, since the others only add to it.
      have hplain : ((addProviders ps).run.run c').2.Plain := h
      rw [hfirst (hplain.of_grows hgrows)]
      dsimp only [bareAttempt, Except.map, Except.mapError]
      rw [hrest hplain]
      dsimp only
      generalize (addProviders ps).run.run c' = rest
      obtain ⟨_ | ns, c''⟩ := rest
      · rfl
      · rfl

end Container

end Wiring
