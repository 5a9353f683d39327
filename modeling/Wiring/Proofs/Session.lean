import Wiring.Proofs.Container.Bare
import Wiring.Proofs.Variable.Bare
import Wiring.Proofs.Variable.Namer

/-!
# Methods make no difference

In a session a container and a namer are used side by side, step by step (`Session.Step`). Each step
has an answer and leaves a session, and both commute with taking the methods away from all types,
at every depth (`Session.step_bare`), as long as no provided type is runnable. The only thing that
notices a method is the detection of a root.

So two sessions whose steps differ only in methods cannot be told apart by their answers
(`Session.same_answers`): the same attempts fail in the same way, nodes have the same numbers,
edges and unsatisfied types are equal, cycles and build orders are the same, and the names of
variables agree character by character.
-/

namespace Wiring

open Variable (Namer NamingError)

/-- A container and a namer that are used side by side. -/
structure Session where
  /-- The container. -/
  container : Container
  /-- The namer. -/
  namer : Namer := .empty

namespace Session

/-! ## Steps and answers -/

/-- A step of a session. -/
inductive Step where
  /-- Something is done with the container. -/
  | operation (op : Container.Operation)
  /-- The container is asked whether a root is set. -/
  | hasRoot
  /-- The container is asked for the types that a node provides. -/
  | provides (n : Node)
  /-- The namer is asked for the name of an instance of a type. -/
  | name (t : TypeKey) (number : Int)

/-- What a step answers. -/
inductive Answer where
  /-- A node, or why there is none. -/
  | node (result : Except GraphError Node)
  /-- A list of nodes, or why there is none. -/
  | nodes (result : Except GraphError (List Node))
  /-- A list of types. -/
  | types (ts : List TypeKey)
  /-- An edge, if there is one. -/
  | edge (e : Option Edge)
  /-- The whole graph. -/
  | graph (ns : List Node) (arcs : List (Node × Node × Option Edge))
  /-- A number. -/
  | count (n : Nat)
  /-- Yes or no. -/
  | truth (b : Bool)
  /-- A name, or why there is none. -/
  | name (result : Except NamingError String)

/-- The answer to a question. -/
def answerQuery (c : Container) : Container.Query → Answer
  | .nodes => .nodes (.ok (Container.nodes.run c).1)
  | .nodeCount => .count (Container.nodeCount.run c).1
  | .edgeCount => .count (Container.edgeCount.run c).1
  | .missing => .node (.ok (Container.missing.run c).1)
  | .predecessors v => .nodes (.ok ((Container.predecessors v).run c).1)
  | .graph => .graph (Container.graph.run c).1.1 (Container.graph.run c).1.2
  | .findCycle => .nodes (.ok (Container.findCycle.run c).1)
  | .buildOrder => .nodes (Container.buildOrder.run.run c).1
  | .has n => .truth (c.has n)
  | .providers => .nodes (.ok c.providers)
  | .root => .node c.root
  | .unsatisfied => .types c.unsatisfied
  | .successors u => .nodes (.ok (c.successors u))
  | .hasEdgeFromTo u v => .truth (c.hasEdgeFromTo u v)
  | .hasEdgeBetween u v => .truth (c.hasEdgeBetween u v)
  | .edge u v => .edge (c.edge? u v)

/-- The answer to an operation. -/
def answerOperation (c : Container) : Container.Operation → Answer
  | .addProvider p => .node ((Container.addProvider p).run.run c).1
  | .addProviders ps => .nodes ((Container.addProviders ps).run.run c).1
  | .setRoot t => .node ((Container.setRoot t).run.run c).1
  | .query q => answerQuery c q

/-- The answer to a step. -/
def Step.answer (s : Session) : Step → Answer
  | .operation op => answerOperation s.container op
  | .hasRoot => .truth s.container.hasRoot
  | .provides n => .types (s.container.provides n)
  | .name t number => .name (s.namer.answer (t, number))

/-- The session after a step. -/
def Step.apply (s : Session) : Step → Session
  | .operation op => { s with container := op.apply s.container }
  | .hasRoot => s
  | .provides _ => s
  | .name t number => { s with namer := s.namer.next (t, number) }

/-- The session after a list of steps. -/
def after (s : Session) (steps : List Step) : Session := steps.foldl Step.apply s

/-- The answers to a list of steps, one after the other. -/
def answers (s : Session) : List Step → List Answer
  | [] => []
  | step :: steps => step.answer s :: (step.apply s).answers steps

/-! ## Without methods -/

/-- The question about nodes whose types have no methods. -/
def bareQuery : Container.Query → Container.Query
  | .predecessors v => .predecessors v.bare
  | .has n => .has n.bare
  | .successors u => .successors u.bare
  | .hasEdgeFromTo u v => .hasEdgeFromTo u.bare v.bare
  | .hasEdgeBetween u v => .hasEdgeBetween u.bare v.bare
  | .edge u v => .edge u.bare v.bare
  | q => q

/-- The operation with types that have no methods. -/
def bareOperation : Container.Operation → Container.Operation
  | .addProvider p => .addProvider p.bare
  | .addProviders ps => .addProviders (ps.map Provider.bare)
  | .setRoot t => .setRoot t.bare
  | .query q => .query (bareQuery q)

/-- The step with types that have no methods. -/
def Step.bare : Step → Step
  | .operation op => .operation (bareOperation op)
  | .hasRoot => .hasRoot
  | .provides n => .provides n.bare
  | .name t number => .name t.bare number

/-- The answer with types that have no methods. -/
def Answer.bare : Answer → Answer
  | .node result => .node ((result.map Node.bare).mapError GraphError.bare)
  | .nodes result => .nodes ((result.map (List.map Node.bare)).mapError GraphError.bare)
  | .types ts => .types (ts.map TypeKey.bare)
  | .edge e => .edge (e.map Edge.bare)
  | .graph ns arcs => .graph (ns.map Node.bare) (arcs.map Container.bareArc)
  | .count n => .count n
  | .truth b => .truth b
  | .name result => .name result

/-- The session whose types have no methods. -/
def bare (s : Session) : Session := ⟨s.container.bare, s.namer.bare⟩

variable {s s₁ s₂ : Session} {a₁ a₂ : Answer} {steps₁ steps₂ : List Step}

/-! ## One step -/

/-- The missing node is the same but for methods. -/
theorem missing_bare (c : Container) :
    (Container.missing.run c.bare).1 = (Container.missing.run c).1.bare := by
  show c.bare.withMissing.missing?.getD _ = (c.withMissing.missing?.getD _).bare
  rw [c.withMissing_bare, Container.missing?_bare, Container.nextId_bare]
  cases c.withMissing.missing? with
  | none => rfl
  | some m => rfl

/-- A question is answered the same but for methods. -/
theorem answerQuery_bare (c : Container) (q : Container.Query) :
    answerQuery c.bare (bareQuery q) = (answerQuery c q).bare := by
  have hmembers : c.bare.withMissing.members = c.withMissing.members.map Node.bare := by
    rw [c.withMissing_bare, Container.members_bare]
  cases q with
  | nodes => exact congrArg (fun ns => Answer.nodes (.ok ns)) hmembers
  | nodeCount =>
    show Answer.count c.bare.withMissing.members.length = .count c.withMissing.members.length
    rw [hmembers, List.length_map]
  | edgeCount =>
    show Answer.count (c.bare.withMissing.members.foldl
        (fun count n => count + (c.bare.withMissing.successors n).length) 0) =
      .count (c.withMissing.members.foldl
        (fun count n => count + (c.withMissing.successors n).length) 0)
    rw [hmembers, List.foldl_map, c.withMissing_bare]
    simp only [Container.length_successors_bare]
  | missing => exact congrArg (fun n => Answer.node (.ok n)) (missing_bare c)
  | predecessors v =>
    exact congrArg (fun r => Answer.nodes (.ok r.1)) (c.predecessors_bare v)
  | graph =>
    show Answer.graph c.bare.withMissing.members
        (c.bare.withMissing.edgesFrom c.bare.withMissing.members) =
      .graph (c.withMissing.members.map Node.bare)
        ((c.withMissing.edgesFrom c.withMissing.members).map Container.bareArc)
    rw [hmembers, c.withMissing_bare, Container.edgesFrom_bare]
  | findCycle => exact congrArg (fun r => Answer.nodes (.ok r.1)) c.findCycle_bare
  | buildOrder => exact congrArg (fun r => Answer.nodes r.1) c.buildOrder_bare
  | has n => exact congrArg Answer.truth (c.has_bare n)
  | providers => exact congrArg (fun ns => Answer.nodes (.ok ns)) c.providers_bare
  | root =>
    show Answer.node c.bare.root = _
    unfold answerQuery Container.root
    rw [c.root?_bare]
    cases c.root? with
    | none => rfl
    | some r => rfl
  | unsatisfied => exact congrArg Answer.types c.unsatisfied_bare
  | successors u => exact congrArg (fun ns => Answer.nodes (.ok ns)) (c.successors_bare u)
  | hasEdgeFromTo u v => exact congrArg Answer.truth (c.hasEdgeFromTo_bare u v)
  | hasEdgeBetween u v => exact congrArg Answer.truth (c.hasEdgeBetween_bare u v)
  | edge u v => exact congrArg Answer.edge (c.edge?_bare u v)

/-- A question leaves the same but for methods. -/
theorem applyQuery_bare (c : Container) (q : Container.Query) :
    (bareQuery q).apply c.bare = (q.apply c).bare := by
  cases q with
  -- These make the missing node whatever else they do.
  | nodes | nodeCount | edgeCount | missing | graph | findCycle => exact c.withMissing_bare
  | predecessors v => exact congrArg Prod.snd (c.predecessors_bare v)
  | buildOrder => exact congrArg Prod.snd c.buildOrder_bare
  | has n | providers | root | unsatisfied | successors u | hasEdgeFromTo u v | hasEdgeBetween u v
  | edge u v => rfl

/-- An operation answers and leaves the same but for methods, if all is plain then. -/
theorem operation_bare (c : Container) (op : Container.Operation) (h : (op.apply c).Plain) :
    answerOperation c.bare (bareOperation op) = (answerOperation c op).bare ∧
      (bareOperation op).apply c.bare = (op.apply c).bare := by
  cases op with
  | addProvider p =>
    have hrun := c.addProvider_bare p h
    exact ⟨congrArg (fun r : Except GraphError Node × Container => Answer.node r.1) hrun,
      congrArg Prod.snd hrun⟩
  | addProviders ps =>
    have hrun := c.addProviders_bare ps h
    exact ⟨congrArg (fun r : Except GraphError (List Node) × Container => Answer.nodes r.1) hrun,
      congrArg Prod.snd hrun⟩
  | setRoot t =>
    have hrun := c.setRoot_bare t
    exact ⟨congrArg (fun r : Except GraphError Node × Container => Answer.node r.1) hrun,
      congrArg Prod.snd hrun⟩
  | query q => exact ⟨answerQuery_bare c q, applyQuery_bare c q⟩

/-- A request for a name is answered the same, and leaves the same but for methods. -/
theorem request_bare (namer : Namer) (t : TypeKey) (number : Int) :
    namer.bare.answer (t.bare, number) = namer.answer (t, number) ∧
      namer.bare.next (t.bare, number) = (namer.next (t, number)).bare := by
  unfold Namer.answer Namer.next
  dsimp only
  rw [namer.name_bare]
  cases namer.name t number with
  | error e => exact ⟨rfl, rfl⟩
  | ok r => exact ⟨rfl, rfl⟩

/-- A step answers and leaves the same but for methods, if all is plain then. -/
theorem step_bare (s : Session) (step : Step) (h : (step.apply s).container.Plain) :
    step.bare.answer s.bare = (step.answer s).bare ∧
      step.bare.apply s.bare = (step.apply s).bare := by
  cases step with
  | operation op =>
    obtain ⟨hanswer, hleft⟩ := operation_bare s.container op h
    exact ⟨hanswer, congrArg (fun c => Session.mk c s.namer.bare) hleft⟩
  | hasRoot =>
    refine ⟨?_, rfl⟩
    show Answer.truth s.container.bare.rootType?.isSome = .truth s.container.rootType?.isSome
    rw [Container.rootType?_bare, Option.isSome_map]
  | provides n => exact ⟨congrArg Answer.types (s.container.provides_bare n), rfl⟩
  | name t number =>
    obtain ⟨hanswer, hleft⟩ := request_bare s.namer t number
    exact ⟨congrArg Answer.name hanswer, congrArg (Session.mk s.container.bare) hleft⟩

/-! ## Whole sessions -/

/-- A container only grows in a session. -/
theorem grows_after (s : Session) (steps : List Step) :
    s.container.Grows (s.after steps).container := by
  induction steps generalizing s with
  | nil => exact Relation.ReflTransGen.refl
  | cons step steps ih =>
    refine Relation.ReflTransGen.trans ?_ (ih (step.apply s))
    cases step with
    | operation op => exact Container.grows_apply s.container op
    | hasRoot | provides n | name t number => exact Relation.ReflTransGen.refl

/-- The providers that a step is to add. -/
def Step.providers : Step → List Provider
  | .operation (.addProvider p) => [p]
  | .operation (.addProviders ps) => ps
  | _ => []

/-- A plain session stays plain if no type of the providers that are to be added is runnable. -/
theorem plain_after (hs : s.container.Plain) {steps : List Step}
    (h : ∀ step ∈ steps, ∀ p ∈ step.providers, ∀ t ∈ p.provides,
      ¬ t.Runnable s.container.rootMethod) : (s.after steps).container.Plain := by
  induction steps generalizing s with
  | nil => exact hs
  | cons step steps ih =>
    have hstep := h step List.mem_cons_self
    have hfirst : (step.apply s).container.Plain := by
      cases step with
      | operation op =>
        cases op with
        | addProvider p => exact hs.addProvider (hstep p (List.mem_singleton_self p))
        | addProviders ps => exact hs.addProviders hstep
        | setRoot t => exact hs.setRoot t
        | query q => exact hs.query q
      | hasRoot | provides n | name t number => exact hs
    have hmethod : (step.apply s).container.rootMethod = s.container.rootMethod :=
      Container.rootMethod_of_grows (grows_after s [step])
    refine ih hfirst fun step' hstep' => ?_
    rw [hmethod]
    exact h step' (List.mem_cons_of_mem _ hstep')

/-- All answers of a session are the same but for methods, if all is plain in the end. -/
theorem answers_bare (s : Session) (steps : List Step) (h : (s.after steps).container.Plain) :
    s.bare.answers (steps.map Step.bare) = (s.answers steps).map Answer.bare := by
  induction steps generalizing s with
  | nil => rfl
  | cons step steps ih =>
    -- What is plain in the end is plain after the first step.
    have hplain := h.of_grows (grows_after (step.apply s) steps)
    obtain ⟨hanswer, hleft⟩ := step_bare s step hplain
    rw [List.map_cons, answers, answers, List.map_cons, hanswer, hleft, ih _ h]

/-! ## Telling answers apart -/

namespace Answer

/-- The nodes in an answer. -/
def nodeList : Answer → List Node
  | .node (.ok n) => [n]
  | .nodes (.ok ns) => ns
  | .node (.error (.cyclicDependency cycle)) => cycle
  | .nodes (.error (.cyclicDependency cycle)) => cycle
  | .edge (some e) => [e.source, e.target]
  | .graph ns arcs => ns ++ arcs.flatMap fun arc => [arc.1, arc.2.1]
  | _ => []

/-- The types in an answer. -/
def typeList : Answer → List TypeKey
  | .types ts => ts
  | .edge (some e) => e.types
  | .graph _ arcs => arcs.flatMap fun arc => (arc.2.2.map Edge.types).getD []
  | _ => []

/-- The wording of the failure that is answered, if one is. -/
def message? : Answer → Option (Except TypeKey.MissingArgument String)
  | .node (.error e) => some e.message
  | .nodes (.error e) => some e.message
  | .name (.error e) => some (.ok e.message)
  | _ => none

/-- The answers are the same but for the methods of types. -/
structure Same (a₁ a₂ : Answer) : Prop where
  /-- Without methods they are one answer. -/
  bare : a₁.bare = a₂.bare
  /-- Their nodes have the same numbers and are printed the same. -/
  nodes : a₁.nodeList.map (fun n => (n.id, n.text)) = a₂.nodeList.map fun n => (n.id, n.text)
  /-- Their types are equal one by one. -/
  types : List.Forall₂ (fun t u => (t == u) = true) a₁.typeList a₂.typeList
  /-- A failure has the same wording. -/
  message : a₁.message? = a₂.message?
  /-- A name is the same, character by character. -/
  name : ∀ result, a₁ = .name result ↔ a₂ = .name result

/-- The nodes of an answer are those of the answer without methods. -/
theorem nodeList_bare (a : Answer) : a.bare.nodeList = a.nodeList.map Node.bare := by
  cases a with
  | node result =>
    cases result with
    | ok n => rfl
    | error e => cases e <;> rfl
  | nodes result =>
    cases result with
    | ok ns => rfl
    | error e => cases e <;> rfl
  | edge e => cases e <;> rfl
  | graph ns arcs =>
    show ns.map Node.bare ++ (arcs.map Container.bareArc).flatMap (fun arc => [arc.1, arc.2.1]) =
      (ns ++ arcs.flatMap fun arc => [arc.1, arc.2.1]).map Node.bare
    rw [List.map_append, List.flatMap_map, List.map_flatMap]
    rfl
  | types ts | count n | truth b | name result => rfl

/-- So are its types. -/
theorem typeList_bare (a : Answer) : a.bare.typeList = a.typeList.map TypeKey.bare := by
  cases a with
  | edge e => cases e <;> rfl
  | graph ns arcs =>
    show (arcs.map Container.bareArc).flatMap (fun arc => (arc.2.2.map Edge.types).getD []) =
      (arcs.flatMap fun arc => (arc.2.2.map Edge.types).getD []).map TypeKey.bare
    rw [List.flatMap_map, List.map_flatMap]
    congr 1
    funext arc
    obtain ⟨u, v, _ | e⟩ := arc
    · rfl
    · rfl
  | types ts | node result | nodes result | count n | truth b | name result => rfl

/-- So is the wording of a failure. -/
theorem message?_bare (a : Answer) : a.bare.message? = a.message? := by
  cases a with
  | node result =>
    cases result with
    | ok n => rfl
    | error e => exact congrArg some e.message_bare
  | nodes result =>
    cases result with
    | ok ns => rfl
    | error e => exact congrArg some e.message_bare
  | types ts | edge e | graph ns arcs | count n | truth b | name result => rfl

/-- An answer is a name if it is one without methods. -/
theorem bare_eq_name_iff {a : Answer} {result : Except NamingError String} :
    a.bare = .name result ↔ a = .name result := by
  cases a with
  | name result' => exact Iff.rfl
  | node result' | nodes result' | types ts | edge e | graph ns arcs | count n | truth b =>
    exact iff_of_false (by rintro ⟨⟩) (by rintro ⟨⟩)

/-- Answers are the same if they are the same without methods. -/
theorem same_of_bare_eq (h : a₁.bare = a₂.bare) : a₁.Same a₂ where
  bare := h
  nodes := by
    have hshown : (fun n : Node => (n.id, n.text)) ∘ Node.bare = fun n => (n.id, n.text) :=
      funext fun n => Prod.ext rfl n.text_bare
    rw [← hshown, ← List.map_map, ← List.map_map, ← nodeList_bare, ← nodeList_bare, h]
  types := by rw [← TypeKey.map_bare_eq_iff, ← typeList_bare, ← typeList_bare, h]
  message := by rw [← message?_bare, h, message?_bare]
  name result := by rw [← bare_eq_name_iff, h, bare_eq_name_iff]

end Answer

/-- Two sessions that are the same but for methods give the same answers to steps that are the same
but for methods, unless a provided type is runnable. -/
theorem forall₂_same (hs : s₁.bare = s₂.bare) (hsteps : steps₁.map Step.bare = steps₂.map Step.bare)
    (h₁ : (s₁.after steps₁).container.Plain) (h₂ : (s₂.after steps₂).container.Plain) :
    List.Forall₂ Answer.Same (s₁.answers steps₁) (s₂.answers steps₂) := by
  have hanswers : (s₁.answers steps₁).map Answer.bare = (s₂.answers steps₂).map Answer.bare := by
    rw [← answers_bare s₁ steps₁ h₁, ← answers_bare s₂ steps₂ h₂, hs, hsteps]
  rw [← List.forall₂_eq_eq_eq, List.forall₂_map_left_iff, List.forall₂_map_right_iff] at hanswers
  exact hanswers.imp fun _ _ => Answer.same_of_bare_eq

/-- A session with an empty container and a namer that has named nothing. -/
def start (rootMethod : String) (tag : Nat) : Session := { container := .new rootMethod tag }

/-- Two sessions that take the same steps but for the methods of types, and in which no provided
type is runnable, have the same answers throughout. -/
theorem same_answers (rootMethod : String) (tag : Nat)
    (hsteps : steps₁.map Step.bare = steps₂.map Step.bare)
    (h₁ : ((start rootMethod tag).after steps₁).container.Plain)
    (h₂ : ((start rootMethod tag).after steps₂).container.Plain) :
    List.Forall₂ Answer.Same ((start rootMethod tag).answers steps₁)
      ((start rootMethod tag).answers steps₂) :=
  forall₂_same rfl hsteps h₁ h₂

/-- An application is built of configurations, of which the given methods are known. One of the
providers is refused, being a method of a configuration, and so is the second root. -/
def configured (methods : List MethodSignature) : List Step :=
  let config := TypeKey.named "Config" "m" methods
  let configs := TypeKey.element "list" config
  [.operation (.addProvider { name := "new_configs", results := [configs] }),
    .operation (.addProvider { name := "copy", results := [config], receiver := some config }),
    .operation (.addProvider { name := "new_app", params := [configs], results := [.basic "App"] }),
    .operation (.setRoot (.basic "App")),
    .operation (.setRoot config),
    .operation (.query .unsatisfied),
    .operation (.query .buildOrder),
    .name config 0,
    .name configs 0]

/-- It makes no difference that a configuration can be closed. -/
theorem same_answers_configured :
    List.Forall₂ Answer.Same ((start "run" 0).answers (configured []))
      ((start "run" 0).answers (configured [⟨"close", 0, 0⟩])) := by
  refine same_answers "run" 0 rfl (plain_after (.new "run" 0) ?_) (plain_after (.new "run" 0) ?_)
  · simp only [← TypeKey.isRunnable_iff]
    decide
  · simp only [← TypeKey.isRunnable_iff]
    decide

end Session

end Wiring
