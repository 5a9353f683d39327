import Wiring.Proofs.Container.Cycle
import Wiring.Proofs.Container.Diagnostics
import Wiring.Proofs.Declaration.WellFormed
import Wiring.Proofs.Session

/-!
# Whatever is made of extracted types can be shown

Accessors, printed forms, basenames and names ask a type for arguments that it may lack, and so does
every error that names types in its wording. The types of extracted providers lack none, and neither
does anything that they are built from (`Declarations.presentable_providersOf`).

For errors this has to be followed through whole sessions. The types that errors name are those of
the failing step and those of the root nodes of the container. So it is enough that root nodes have
well-formed types, which every step with well-formed types keeps (`Session.rootsWellFormed_apply`),
and that then every answer can be worded (`Session.worded_answer`).
-/

namespace Wiring

open Source (Expr Reader)
open Variable (Namer NamingError)

/-! ## The types of providers -/

/-- All types of a provider. -/
def Provider.types (p : Provider) : List TypeKey := p.params ++ p.results ++ p.receiver.toList

/-- A provider is well-formed if all its types are. -/
theorem Provider.wellFormed_iff {p : Provider} : p.WellFormed ↔ ∀ t ∈ p.types, t.WellFormed := by
  unfold types
  simp only [List.mem_append, Option.mem_toList]
  constructor
  · rintro ⟨hparams, hresults, hreceiver⟩ t ((ht | ht) | ht)
    · exact hparams t ht
    · exact hresults t ht
    · exact hreceiver t ht
  · intro h
    exact ⟨fun t ht => h t (Or.inl (Or.inl ht)), fun t ht => h t (Or.inl (Or.inr ht)),
      fun t ht => h t (Or.inr ht)⟩

namespace Container

variable {c : Container} {p : Provider} {ps : List Provider} {t : TypeKey} {n : Node}

/-! ## Root nodes with well-formed types -/

/-- The root nodes of the container have well-formed types. -/
def RootsWellFormed (c : Container) : Prop := ∀ t, Role.root t ∈ c.roles → t.WellFormed

/-- A new container has no root nodes. -/
theorem rootsWellFormed_new (rootMethod : String) (tag : Nat) :
    (new rootMethod tag).RootsWellFormed := by
  intro t ht
  cases ht

/-- The root has a well-formed type. -/
theorem RootsWellFormed.rootType? (hc : c.RootsWellFormed) (ht : c.rootType? = some t) :
    t.WellFormed := by
  obtain ⟨role, hrole, htype⟩ := List.exists_of_findSome?_eq_some ht
  cases role with
  | root u =>
    obtain rfl : u = t := Option.some.inj htype
    exact hc u hrole
  | provider p => cases htype
  | missing => cases htype

/-- One more node keeps this if it is no root node or has a well-formed type. -/
theorem RootsWellFormed.push {role : Role} (hc : c.RootsWellFormed)
    (hrole : ∀ t, role = .root t → t.WellFormed) : (c.push role).RootsWellFormed := by
  intro t ht
  rcases List.mem_append.mp ht with ht | ht
  · exact hc t ht
  · exact hrole t (List.mem_singleton.mp ht).symm

/-- Adding a well-formed provider keeps this. -/
theorem RootsWellFormed.addProvider (hc : c.RootsWellFormed) (hp : p.WellFormed) :
    ((addProvider p).run.run c).2.RootsWellFormed := by
  intro t ht
  rcases mem_roles_addProvider ht with ht | ht | ⟨u, hu, ht⟩
  · exact hc t ht
  · cases ht
  · obtain rfl : t = u := Role.root.inj ht
    exact hp.results t (List.mem_filter.mp hu).1

/-- So does adding several. -/
theorem RootsWellFormed.addProviders (hc : c.RootsWellFormed) (hps : ∀ p ∈ ps, p.WellFormed) :
    ((addProviders ps).run.run c).2.RootsWellFormed := by
  induction ps generalizing c with
  | nil => exact hc
  | cons p ps ih =>
    have hfirst := hc.addProvider (hps p List.mem_cons_self)
    rw [addProviders_run_cons_snd]
    generalize (Container.addProvider p).run.run c = first at hfirst
    obtain ⟨_ | n, c'⟩ := first
    · exact hfirst
    · exact ih hfirst fun q hq => hps q (List.mem_cons_of_mem p hq)

/-- Setting a root of a well-formed type keeps this. -/
theorem RootsWellFormed.setRoot (hc : c.RootsWellFormed) (ht : t.WellFormed) :
    ((setRoot t).run.run c).2.RootsWellFormed := by
  rw [setRoot_run]
  cases c.rootType? with
  | some existing => exact hc
  | none =>
    refine hc.push fun u hu => ?_
    obtain rfl := Role.root.inj hu
    exact ht

/-- Making the missing node keeps this. -/
theorem RootsWellFormed.withMissing (hc : c.RootsWellFormed) : c.withMissing.RootsWellFormed := by
  cases hmissing : c.roles.any Role.isMissing with
  | true => rwa [withMissing_eq_self hmissing]
  | false =>
    rw [withMissing_eq_push hmissing]
    exact hc.push nofun

/-- So does every question. -/
theorem RootsWellFormed.query (hc : c.RootsWellFormed) (q : Query) :
    (q.apply c).RootsWellFormed := by
  rcases query_apply c q with h | h
  · rwa [h]
  · rw [h]
    exact hc.withMissing

/-! ## Printed forms and errors -/

/-- The nodes of the container can be printed. -/
theorem RootsWellFormed.exists_text (hc : c.RootsWellFormed) (hn : n ∈ c.members) :
    ∃ s, n.text = .ok s := by
  obtain ⟨role, hrole, hn⟩ := exists_mem_members_iff.mp ⟨n, hn, rfl⟩
  rw [Node.text, hn]
  cases role with
  | provider p => exact ⟨p.name, rfl⟩
  | missing => exact ⟨"missing", rfl⟩
  | root t =>
    obtain ⟨s, hs⟩ := TypeKey.exists_text t (hc t hrole)
    exact ⟨_, by rw [Role.text, hs]; rfl⟩

/-- The failure of adding a well-formed provider can be worded. -/
theorem RootsWellFormed.exists_message_addProvider {e : GraphError} (hc : c.RootsWellFormed)
    (hp : p.WellFormed) (he : ((Container.addProvider p).run.run c).1 = .error e) :
    ∃ s, e.message = .ok s := by
  rw [addProvider_run_eq] at he
  cases hfault : p.fault? c.rootMethod c.rootType? with
  | none =>
    rw [hfault] at he
    cases he
  | some fault =>
    rw [hfault] at he
    obtain rfl : fault = e := Except.error.inj he
    exact Provider.exists_message_of_fault? hp (fun t ht => hc.rootType? ht) hfault

/-- So can that of adding several. -/
theorem RootsWellFormed.exists_message_addProviders {e : GraphError} (hc : c.RootsWellFormed)
    (hps : ∀ p ∈ ps, p.WellFormed) (he : ((Container.addProviders ps).run.run c).1 = .error e) :
    ∃ s, e.message = .ok s := by
  induction ps generalizing c with
  | nil => cases he
  | cons p ps ih =>
    have hp := hps p List.mem_cons_self
    have hfails := hc.exists_message_addProvider (e := e) hp
    have hfirst := hc.addProvider hp
    rw [addProviders_run_cons] at he
    generalize (Container.addProvider p).run.run c = first at he hfails hfirst
    obtain ⟨_ | n, c'⟩ := first
    · -- The first one fails, and the others are not tried.
      obtain rfl := Except.error.inj he
      exact hfails rfl
    · have hrest := ih hfirst fun q hq => hps q (List.mem_cons_of_mem p hq)
      dsimp only at he
      generalize (Container.addProviders ps).run.run c' = rest at he hrest
      obtain ⟨_ | ns, c''⟩ := rest
      · exact hrest he
      · cases he

/-- The refusal of a root of a well-formed type can be worded. -/
theorem RootsWellFormed.exists_message_setRoot {e : GraphError} (hc : c.RootsWellFormed)
    (ht : t.WellFormed) (he : ((Container.setRoot t).run.run c).1 = .error e) :
    ∃ s, e.message = .ok s := by
  rw [setRoot_run] at he
  cases hroot : c.rootType? with
  | none =>
    rw [hroot] at he
    cases he
  | some existing =>
    rw [hroot] at he
    obtain rfl := Except.error.inj he
    obtain ⟨s, hs⟩ := TypeKey.exists_text existing (hc.rootType? hroot)
    obtain ⟨s', hs'⟩ := TypeKey.exists_text t ht
    exact ⟨_, by rw [GraphError.message, hs, hs']; rfl⟩

/-- A cycle of nodes of the container can be worded. -/
theorem RootsWellFormed.exists_message_cyclicDependency {cycle : List Node}
    (hc : c.RootsWellFormed) (hcycle : ∀ n ∈ cycle, n ∈ c.members) :
    ∃ s, (GraphError.cyclicDependency cycle).message = .ok s := by
  obtain ⟨texts, htexts⟩ : ∃ texts, (cycle ++ cycle.take 1).mapM Node.text = .ok texts := by
    refine exists_mapM fun n hn => hc.exists_text (hcycle n ?_)
    rcases List.mem_append.mp hn with hn | hn
    · exact hn
    · exact List.mem_of_mem_take hn
  exact ⟨_, by rw [GraphError.message, htexts]; rfl⟩

/-- That there is no build order can be worded. -/
theorem RootsWellFormed.exists_message_buildOrder {e : GraphError} (hc : c.RootsWellFormed)
    (he : (Container.buildOrder.run.run c).1 = .error e) : ∃ s, e.message = .ok s := by
  rw [buildOrder_run] at he
  -- The cases are those of the definition: no root, no cycle, and a cycle.
  split at he
  · obtain rfl := Except.error.inj he
    exact ⟨_, rfl⟩
  · dsimp only at he
    split at he
    · split at he
      · cases he
      · obtain rfl := Except.error.inj he
        exact ⟨_, rfl⟩
    · obtain rfl := Except.error.inj he
      exact hc.withMissing.exists_message_cyclicDependency fun n hn => mem_members_of_mem_nodesOf hn

/-- Populating reports what fails, and never breaks off. -/
theorem RootsWellFormed.exists_diagnostics (hc : c.RootsWellFormed) (hps : ∀ p ∈ ps, p.WellFormed) :
    ∃ ds, ((populate ps).run.run c).1 = .ok ds := by
  obtain ⟨ds, hrun, -⟩ := populate_run fun f hf =>
    Provider.exists_message_of_mem_faults hps (fun t ht => hc.rootType? ht) hf
  exact ⟨ds, by rw [hrun]⟩

end Container

/-! ## Sessions -/

namespace Session

variable {s : Session} {step : Step} {steps : List Step}

/-- The types that a step brings in. Questions bring in none. -/
def Step.types : Step → List TypeKey
  | .operation (.addProvider p) => p.types
  | .operation (.addProviders ps) => ps.flatMap Provider.types
  | .operation (.setRoot t) => [t]
  | .name t _ => [t]
  | .operation (.query _) | .hasRoot | .provides _ => []

/-- The failure that is answered, if one is, has a wording, and a name is refused for nothing but
its number. -/
structure Answer.Worded (a : Answer) : Prop where
  /-- The wording misses no argument. -/
  message : ∀ m, a.message? = some m → ∃ s, m = .ok s
  /-- Neither does a name. -/
  name : ∀ e, a = .name (.error e) → ∃ n, e = .negativeInstance n

/-- An answer is worded if the error in it, if there is one, has a wording. -/
theorem Answer.Worded.of_node {result : Except GraphError Node}
    (h : ∀ e, result = .error e → ∃ s, e.message = .ok s) : (Answer.node result).Worded where
  message m hm := by
    cases result with
    | ok n => cases hm
    | error e =>
      obtain rfl := Option.some.inj hm
      exact h e rfl
  name := nofun

/-- The same for several nodes. -/
theorem Answer.Worded.of_nodes {result : Except GraphError (List Node)}
    (h : ∀ e, result = .error e → ∃ s, e.message = .ok s) : (Answer.nodes result).Worded where
  message m hm := by
    cases result with
    | ok ns => cases hm
    | error e =>
      obtain rfl := Option.some.inj hm
      exact h e rfl
  name := nofun

/-- The same for a name, which is refused in words anyway. -/
theorem Answer.Worded.of_name {result : Except NamingError String}
    (h : ∀ e, result = .error e → ∃ n, e = .negativeInstance n) : (Answer.name result).Worded where
  message m hm := by
    cases result with
    | ok name => cases hm
    | error e =>
      obtain rfl := Option.some.inj hm
      exact ⟨e.message, rfl⟩
  name e he := h e (Answer.name.inj he)

/-- Questions are answered in words. -/
theorem worded_answerQuery {c : Container} (hc : c.RootsWellFormed) (q : Container.Query) :
    (answerQuery c q).Worded := by
  cases q with
  | buildOrder => exact .of_nodes fun e he => hc.exists_message_buildOrder he
  | root =>
    refine .of_node fun e he => ?_
    unfold Container.root at he
    split at he
    · cases he
    · obtain rfl := Except.error.inj he
      exact ⟨_, rfl⟩
  | _ => exact ⟨nofun, nofun⟩

/-- A name of a well-formed type is refused for its number only. -/
theorem eq_negativeInstance_of_answer {namer : Namer} {t : TypeKey} {number : Int}
    {e : NamingError} (ht : t.WellFormed) (he : namer.answer (t, number) = .error e) :
    e = .negativeInstance number := by
  by_cases hnumber : 0 ≤ number
  · obtain ⟨name, hname⟩ := (Namer.exists_answer_iff ht).mpr hnumber
    rw [hname] at he
    cases he
  · unfold Namer.answer Namer.name at he
    rw [if_pos (by omega)] at he
    exact (Except.error.inj he).symm

/-- A step with well-formed types is answered in words. -/
theorem worded_answer (hs : s.container.RootsWellFormed) (hstep : ∀ t ∈ step.types, t.WellFormed) :
    (step.answer s).Worded := by
  cases step with
  | operation op =>
    cases op with
    | addProvider p =>
      have hp := Provider.wellFormed_iff.mpr hstep
      exact .of_node fun e he => hs.exists_message_addProvider hp he
    | addProviders ps =>
      have hps : ∀ p ∈ ps, p.WellFormed := fun p hp =>
        Provider.wellFormed_iff.mpr fun t ht => hstep t (List.mem_flatMap_of_mem hp ht)
      exact .of_nodes fun e he => hs.exists_message_addProviders hps he
    | setRoot t =>
      have ht := hstep t (List.mem_singleton_self t)
      exact .of_node fun e he => hs.exists_message_setRoot ht he
    | query q => exact worded_answerQuery hs q
  | hasRoot => exact ⟨nofun, nofun⟩
  | provides n => exact ⟨nofun, nofun⟩
  | name t number =>
    have ht := hstep t (List.mem_singleton_self t)
    exact .of_name fun e he => ⟨number, eq_negativeInstance_of_answer ht he⟩

/-- A step with well-formed types keeps root nodes with well-formed types. -/
theorem rootsWellFormed_apply (hs : s.container.RootsWellFormed)
    (hstep : ∀ t ∈ step.types, t.WellFormed) : (step.apply s).container.RootsWellFormed := by
  cases step with
  | operation op =>
    cases op with
    | addProvider p => exact hs.addProvider (Provider.wellFormed_iff.mpr hstep)
    | addProviders ps =>
      exact hs.addProviders fun p hp =>
        Provider.wellFormed_iff.mpr fun t ht => hstep t (List.mem_flatMap_of_mem hp ht)
    | setRoot t => exact hs.setRoot (hstep t (List.mem_singleton_self t))
    | query q => exact hs.query q
  | hasRoot | provides n | name t number => exact hs

/-- So do all steps of a session. -/
theorem rootsWellFormed_after (hs : s.container.RootsWellFormed)
    (hsteps : ∀ step ∈ steps, ∀ t ∈ step.types, t.WellFormed) :
    (s.after steps).container.RootsWellFormed := by
  induction steps generalizing s with
  | nil => exact hs
  | cons step steps ih =>
    have hfirst := rootsWellFormed_apply hs (hsteps step List.mem_cons_self)
    exact ih hfirst fun step' hstep' => hsteps step' (List.mem_cons_of_mem step hstep')

/-- Every step of a session is answered in words. -/
theorem worded_answers (hs : s.container.RootsWellFormed)
    (hsteps : ∀ step ∈ steps, ∀ t ∈ step.types, t.WellFormed) :
    ∀ a ∈ s.answers steps, a.Worded := by
  induction steps generalizing s with
  | nil => exact fun a ha => nomatch ha
  | cons step steps ih =>
    have hstep := hsteps step List.mem_cons_self
    rw [answers]
    refine List.forall_mem_cons.mpr ⟨worded_answer hs hstep, ?_⟩
    exact ih (rootsWellFormed_apply hs hstep) fun step' hstep' =>
      hsteps step' (List.mem_cons_of_mem step hstep')

end Session

/-! ## Extracted types -/

/-- The type is one of a provider of the list, or one of these is built from it. -/
def Provider.Uses (providers : List Provider) (t : TypeKey) : Prop :=
  ∃ p ∈ providers, ∃ u ∈ p.types, t.Within u

/-- Whatever is made of the types of the providers can be shown. -/
structure Provider.Presentable (providers : List Provider) : Prop where
  /-- Their types are well-formed: at every depth they have the arguments that their kinds ask
  for, and methods only where they are named. -/
  shaped : ∀ t, Uses providers t → t.WellFormed ∧ t.Shaped
  /-- They have printed forms, and their accessors answer. -/
  accessible : ∀ t, Uses providers t → (∃ s, t.text = .ok s) ∧ t.Accessible
  /-- They have basenames, however many types were counted before. -/
  basename : ∀ t, Uses providers t → ∀ counter,
    ∃ base counter', (Variable.basename t).run.run counter = (.ok base, counter')
  /-- Every namer names their instances, if these are counted from zero. -/
  name : ∀ t, Uses providers t → ∀ (namer : Namer) (number : Int), 0 ≤ number →
    ∃ name namer', namer.name t number = .ok (name, namer')
  /-- A session that uses no other types is answered in words. -/
  answers : ∀ rootMethod tag steps,
    (∀ step ∈ steps, ∀ t ∈ Session.Step.types step, Uses providers t) →
    ∀ a ∈ (Session.start rootMethod tag).answers steps, a.Worded
  /-- Afterwards all nodes of the container can be printed, and populating it with providers that
  use no other types reports in words what fails. -/
  after : ∀ rootMethod tag steps,
    (∀ step ∈ steps, ∀ t ∈ Session.Step.types step, Uses providers t) →
    (∀ n ∈ ((Session.start rootMethod tag).after steps).container.members,
      ∃ s, n.text = .ok s) ∧
    ∀ ps, (∀ p ∈ ps, ∀ t ∈ p.types, Uses providers t) →
      ∃ ds, ((Container.populate ps).run.run
        ((Session.start rootMethod tag).after steps).container).1 = .ok ds

/-- Well-formed providers are presentable. -/
theorem Provider.presentable {providers : List Provider} (h : ∀ p ∈ providers, p.WellFormed) :
    Presentable providers := by
  have huses : ∀ t, Uses providers t → t.WellFormed := by
    rintro t ⟨p, hp, u, hu, ht⟩
    exact (wellFormed_iff.mp (h p hp) u hu).of_within ht
  -- Every session starts without root nodes, so there is nothing to ask of it at first.
  have hroots : ∀ rootMethod tag, (Session.start rootMethod tag).container.RootsWellFormed :=
    Container.rootsWellFormed_new
  exact {
    shaped := fun t ht => ⟨huses t ht, (huses t ht).shaped⟩
    accessible := fun t ht => ⟨TypeKey.exists_text t (huses t ht), (huses t ht).accessible⟩
    basename := fun t ht => Variable.exists_basename (huses t ht)
    name := fun t ht namer number => Variable.Namer.exists_name namer (huses t ht)
    answers := fun rootMethod tag steps hsteps =>
      Session.worded_answers (hroots rootMethod tag) fun step hstep t ht =>
        huses t (hsteps step hstep t ht)
    after := fun rootMethod tag steps hsteps => by
      have hafter := Session.rootsWellFormed_after (hroots rootMethod tag)
        fun step hstep t ht => huses t (hsteps step hstep t ht)
      refine ⟨fun n hn => hafter.exists_text hn, fun ps hps => ?_⟩
      exact hafter.exists_diagnostics fun p hp =>
        wellFormed_iff.mpr fun t ht => huses t (hps p hp t ht) }

/-- Extracted providers are presentable. -/
theorem Declarations.presentable_providersOf [Reader] {modules : List Declarations}
    {providers : List Provider} (h : Declarations.providersOf modules = .ok providers) :
    Provider.Presentable providers :=
  Provider.presentable (yields_providersOf modules providers h)

/-- A provider that needs a mapping with a single index, a record whose only index is a slice, a
record with dots, an alternative to the absent value, a literal within a literal, and something
without annotation. -/
def oddModule : Declarations :=
  .collect "m" "m.py" "provider"
    [.function
      { name := "new_job"
        decorators := [.name "provider" "provider"]
        parameters := [
          some (.subscript "dict[str]" (.name "dict" "dict") [.name "str" "str"]),
          some (.subscript "tuple[1:2]" (.name "tuple" "tuple") []),
          some (.subscript "tuple[Job, ...]" (.name "tuple" "tuple")
            [.name "Job" "Job", .ellipsis "..."]),
          some (.union "Job | None" (.name "Job" "Job") (.name "None" "None")),
          some (.literal "\"list['Job']\"" "\"list['Job']\""),
          none]
        returns := some (.name "Job" "Job")
        place := ⟨2, 0⟩ } []]

/-- All its types can be shown, and whatever is made of them. -/
theorem presentable_oddModule : ∃ providers,
    Declarations.providersOf [oddModule] = .ok providers ∧
    (providers.map fun p => p.types.map TypeKey.text) =
      [[.ok "dict[str]", .ok "tuple[]", .ok "tuple[m.Job]", .ok "optional[m.Job]",
        .ok "list[m.Job]", .ok "Any", .ok "m.Job"]] ∧
    Provider.Presentable providers := by
  -- Only the printed forms are evaluated: they decide that reading does not fail.
  have htexts : (List.map fun p => p.types.map TypeKey.text) <$>
        Declarations.providersOf [oddModule] =
      .ok [[.ok "dict[str]", .ok "tuple[]", .ok "tuple[m.Job]", .ok "optional[m.Job]",
        .ok "list[m.Job]", .ok "Any", .ok "m.Job"]] := by decide +kernel
  cases hread : Declarations.providersOf [oddModule] with
  | error fault =>
    rw [hread] at htexts
    cases htexts
  | ok providers =>
    rw [hread] at htexts
    exact ⟨providers, rfl, Except.ok.inj htexts, Declarations.presentable_providersOf hread⟩

end Wiring
