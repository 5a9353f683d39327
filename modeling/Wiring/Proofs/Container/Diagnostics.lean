import Mathlib.Data.List.TakeDrop
import Wiring.Proofs.Container.Outcome

/-!
# What populating a container reports

Populating never breaks off when the faults that it meets can be worded, in particular when the types
of the providers and of the root are well-formed: it adds every valid provider and reports every
fault (`populate_run`). What is a fault depends on the root
at the time, and the root is the one from before or that of the first provider that has a single
candidate (`rootAfter`). So the faults of a list of providers can be told without running it
(`faults`), and `Reachable.populate_spec` compares them with the diagnostics.
-/

namespace Wiring

/-- The error says that a provider was refused. -/
def GraphError.isInvalidProvider : GraphError → Bool
  | .invalidProvider .. => true
  | _ => false

/-! ## The faults of a list of providers -/

namespace Provider

variable {method : String} {root : Option TypeKey} {p : Provider} {ps : List Provider}

/-- The root after providers are added to a container with the given root: that one, or else that of
the first provider that makes one of its types the root. -/
def rootAfter (method : String) (root : Option TypeKey) (ps : List Provider) : Option TypeKey :=
  root.or (ps.findSome? (detectedRoot? method))

/-- The providers of a list with which something is wrong when they are added in order, each with
what it is. Whether there is a root when its turn comes depends on the providers before it. -/
def faults (method : String) (root : Option TypeKey) (ps : List Provider) :
    List (Provider × GraphError) :=
  ps.zipIdx.filterMap fun x =>
    (x.1.fault? method (rootAfter method root (ps.take x.2))).map (x.1, ·)

/-- A root stays, and the first provider comes before the others. -/
theorem rootAfter_cons (method : String) (root : Option TypeKey) (p : Provider)
    (ps : List Provider) :
    rootAfter method root (p :: ps) = rootAfter method (rootAfter method root [p]) ps := by
  unfold rootAfter
  rw [Option.or_assoc]
  cases h : detectedRoot? method p with
  | none => simp [h]
  | some t => simp [h]

/-- The fault of the first provider comes before those of the others, which meet the root that it
leaves. -/
theorem faults_cons (method : String) (root : Option TypeKey) (p : Provider)
    (ps : List Provider) :
    faults method root (p :: ps) =
      ((p.fault? method root).map (p, ·)).toList ++
        faults method (rootAfter method root [p]) ps := by
  have hfirst : rootAfter method root [] = root := Option.or_none
  unfold faults
  rw [List.zipIdx_cons, List.filterMap_cons, Nat.zero_add, List.zipIdx_succ, List.filterMap_map]
  -- The places of the others are one less among themselves.
  rw [List.filterMap_congr (l := ps.zipIdx)
    (g := fun x => (x.1.fault? method
      (rootAfter method (rootAfter method root [p]) (ps.take x.2))).map (x.1, ·)) ?others]
  case others =>
    rintro ⟨q, i⟩ -
    dsimp only [Function.comp_apply]
    rw [List.take_succ_cons, rootAfter_cons]
  dsimp only
  rw [List.take_zero, hfirst]
  cases p.fault? method root with
  | none => rfl
  | some e => rfl

/-- A provider that is refused is named in its own fault. -/
theorem eq_of_fault? {q : Provider} {d : Defect}
    (h : p.fault? method root = some (.invalidProvider q d)) : q = p := by
  unfold fault? at h
  split at h
  all_goals cases h
  rfl

/-- The providers that are refused are those that are not valid. -/
theorem isInvalidProvider_of_fault? (method : String) (root : Option TypeKey) (p : Provider) :
    (p.fault? method root).any GraphError.isInvalidProvider = !decide p.Valid := by
  unfold fault?
  cases hdefect : p.defect? with
  | some d =>
    rw [decide_eq_false (exists_defect_iff.mp ⟨d, hdefect⟩)]
    rfl
  | none =>
    rw [decide_eq_true (defect?_eq_none_iff.mp hdefect)]
    match TypeKey.runnables method p.provides, root with
    | [], none => rfl
    | [], some _ => rfl
    | [_], none => rfl
    | [_], some _ => rfl
    | _ :: _ :: _, none => rfl
    | _ :: _ :: _, some _ => rfl

/-- Faults can be worded if the types of the providers and of the root are well-formed. -/
theorem exists_message_of_mem_faults {f : Provider × GraphError} (hps : ∀ p ∈ ps, p.WellFormed)
    (hroot : ∀ t, root = some t → t.WellFormed) (hf : f ∈ faults method root ps) :
    ∃ message, f.2.message = .ok message := by
  obtain ⟨⟨p, i⟩, hp, hfault⟩ := List.mem_filterMap.mp hf
  obtain ⟨e, he, rfl⟩ := Option.map_eq_some_iff.mp hfault
  refine exists_message_of_fault? (hps p (List.fst_mem_of_mem_zipIdx hp)) ?_ he
  -- A root that an earlier provider has made is one of its types.
  intro t ht
  rw [rootAfter, Option.or_eq_some_iff] at ht
  rcases ht with ht | ⟨-, ht⟩
  · exact hroot t ht
  · obtain ⟨q, hq, hdetected⟩ := List.exists_of_findSome?_eq_some ht
    have hprovides := (mem_provides_of_detectedRoot? hdetected).2
    exact (hps q (List.mem_of_mem_take hq)).results t (List.mem_filter.mp hprovides).1

/-- As many providers are refused as are not valid. -/
theorem countP_faults (method : String) (root : Option TypeKey) (ps : List Provider) :
    (faults method root ps).countP (·.2.isInvalidProvider) = ps.countP (!decide ·.Valid) := by
  induction ps generalizing root with
  | nil => rfl
  | cons p ps ih =>
    have hp := isInvalidProvider_of_fault? method root p
    rw [faults_cons, List.countP_append, ih, List.countP_cons, ← hp, Nat.add_comm]
    cases p.fault? method root with
    | none => rfl
    | some e => simp [List.countP_cons]

end Provider

/-- A diagnostic tells of the error that it was made of, at the position of the provider. -/
theorem Diagnostic.of_spec {p : Provider} {e : GraphError} {d : Diagnostic}
    (hprovider : ∀ q defect, e = .invalidProvider q defect → q = p)
    (h : Diagnostic.of p e = .ok d) : d.position = p.position ∧ d.error = e := by
  unfold Diagnostic.of at h
  cases hmessage : e.message with
  | error missing =>
    rw [hmessage] at h
    cases h
  | ok message =>
    rw [hmessage] at h
    cases e with
    | invalidProvider q defect =>
      cases h
      exact ⟨by rw [hprovider q defect rfl], rfl⟩
    | noRoot | rootAlreadySet | ambiguousRoot | cyclicDependency | unsorted =>
      cases h
      exact ⟨rfl, rfl⟩

/-- An error that can be worded makes a diagnostic. -/
theorem Diagnostic.exists_of {p : Provider} {e : GraphError}
    (h : ∃ message, e.message = .ok message) : ∃ d, Diagnostic.of p e = .ok d := by
  obtain ⟨message, hmessage⟩ := h
  unfold Diagnostic.of
  rw [hmessage]
  cases e with
  | invalidProvider | noRoot | rootAlreadySet | ambiguousRoot | cyclicDependency | unsorted =>
    exact ⟨_, rfl⟩

namespace Container

variable {c c' : Container} {p : Provider} {ps : List Provider} {t : TypeKey}

/-! ## What is left of a list of providers -/

/-- What adding several providers leaves, none of which ends the row. -/
def withProviders (c : Container) (ps : List Provider) : Container := ps.foldl withProvider c

/-- The method of roots stays. -/
theorem rootMethod_withProvider (c : Container) (p : Provider) :
    (c.withProvider p).rootMethod = c.rootMethod := by
  unfold withProvider
  split
  · split
    · rfl
    · rfl
  · rfl

/-- A provider leaves the root from before or makes one of its types the root. -/
theorem rootType?_withProvider (c : Container) (p : Provider) :
    (c.withProvider p).rootType? = Provider.rootAfter c.rootMethod c.rootType? [p] := by
  have hprovider : (c.push (.provider p)).rootType? = c.rootType? := by
    rw [rootType?_push]
    exact Option.or_none
  have hsingle : Provider.rootAfter c.rootMethod c.rootType? [p] =
      c.rootType?.or (p.detectedRoot? c.rootMethod) := by
    unfold Provider.rootAfter
    cases h : p.detectedRoot? c.rootMethod with
    | none => simp [h]
    | some t => simp [h]
  rw [hsingle]
  unfold withProvider
  split
  · split
    · rename_i hnone hdetected
      rw [rootType?_push, hprovider, hnone, hdetected]
      rfl
    · rename_i hother
      rw [hprovider]
      cases hroot : c.rootType? with
      | some existing => rfl
      | none =>
        cases hdetected : p.detectedRoot? c.rootMethod with
        | none => rfl
        | some t => exact absurd hdetected (hother t hroot)
  · -- A provider that is not valid detects no root.
    rename_i hinvalid
    cases hdetected : p.detectedRoot? c.rootMethod with
    | none => exact Option.or_none.symm
    | some t => exact absurd (Provider.mem_provides_of_detectedRoot? hdetected).1 hinvalid

/-- A valid provider stands behind the others. -/
theorem providers_withProvider (c : Container) (p : Provider) :
    (c.withProvider p).providers =
      c.providers ++ if p.Valid then [c.nodeOf c.nextId (.provider p)] else [] := by
  have hrun := providers_addProvider c p
  rw [addProvider_run_eq] at hrun
  rw [hrun]
  simp only [Provider.defect?_eq_none_iff]

/-- The method of roots stays. -/
theorem rootMethod_withProviders (c : Container) (ps : List Provider) :
    (c.withProviders ps).rootMethod = c.rootMethod := by
  induction ps generalizing c with
  | nil => rfl
  | cons p ps ih => exact (ih (c.withProvider p)).trans (rootMethod_withProvider c p)

/-- The root after several providers. -/
theorem rootType?_withProviders (c : Container) (ps : List Provider) :
    (c.withProviders ps).rootType? = Provider.rootAfter c.rootMethod c.rootType? ps := by
  induction ps generalizing c with
  | nil => exact Option.or_none.symm
  | cons p ps ih =>
    have hstep : c.withProviders (p :: ps) = (c.withProvider p).withProviders ps := rfl
    rw [hstep, ih, rootMethod_withProvider, rootType?_withProvider, ← Provider.rootAfter_cons]

/-- The valid ones of several providers stand behind the others, in their order. -/
theorem providers_withProviders (c : Container) (ps : List Provider) :
    ∃ added, (c.withProviders ps).providers = c.providers ++ added ∧
      added.map (·.role) = (ps.filter fun p => p.Valid).map .provider := by
  induction ps generalizing c with
  | nil => exact ⟨[], (List.append_nil _).symm, rfl⟩
  | cons p ps ih =>
    obtain ⟨added, hadded, hroles⟩ := ih (c.withProvider p)
    have hstep : c.withProviders (p :: ps) = (c.withProvider p).withProviders ps := rfl
    rw [providers_withProvider, List.append_assoc] at hadded
    refine ⟨_, hadded, ?_⟩
    rw [List.map_append, hroles]
    by_cases hvalid : p.Valid
    · rw [if_pos hvalid, List.filter_cons_of_pos (by simpa using hvalid)]
      rfl
    · rw [if_neg hvalid, List.filter_cons_of_neg (by simpa using hvalid)]
      rfl

/-! ## How populating runs -/

/-- What is wrong with single providers is reported, and all of them are tried, if it can be
worded. -/
theorem populate_run (hworded : ∀ f ∈ Provider.faults c.rootMethod c.rootType? ps,
      ∃ message, f.2.message = .ok message) :
    ∃ ds, (populate ps).run.run c = (.ok ds, c.withProviders ps) ∧
      ((Provider.faults c.rootMethod c.rootType? ps).mapM fun f => Diagnostic.of f.1 f.2) =
        .ok ds := by
  induction ps generalizing c with
  | nil => exact ⟨[], rfl, rfl⟩
  | cons p ps ih =>
    rw [Provider.faults_cons] at hworded ⊢
    -- The others meet the root that the first provider leaves.
    have hrest : ∀ f ∈ Provider.faults (c.withProvider p).rootMethod (c.withProvider p).rootType? ps,
        ∃ message, f.2.message = .ok message := by
      rw [rootMethod_withProvider, rootType?_withProvider]
      exact fun f hf => hworded f (List.mem_append_right _ hf)
    obtain ⟨ds, hrun, hds⟩ := ih hrest
    rw [rootMethod_withProvider, rootType?_withProvider] at hds
    rw [populate_run_cons, addProvider_run_eq]
    cases hfault : p.fault? c.rootMethod c.rootType? with
    | none => exact ⟨ds, hrun, hds⟩
    | some e =>
      rw [hfault] at hworded
      obtain ⟨d, hd⟩ := Diagnostic.exists_of (p := p)
        (hworded (p, e) (List.mem_append_left _ (List.mem_singleton_self _)))
      refine ⟨d :: ds, ?_, ?_⟩
      · dsimp only
        rw [hd]
        dsimp only
        rw [hrun]
        rfl
      · rw [Option.map_some, Option.toList_some, List.singleton_append, List.mapM_cons, hd, hds]
        rfl

/-- The diagnostics of faults name them and their places. -/
theorem map_diagnostics {ds : List Diagnostic} {method : String} {root : Option TypeKey}
    (h : ((Provider.faults method root ps).mapM fun f => Diagnostic.of f.1 f.2) = .ok ds) :
    (ds.map fun d => (d.position, d.error)) =
      (Provider.faults method root ps).map fun f => (f.1.position, f.2) := by
  -- In each fault a refused provider is the provider of the fault.
  have hnamed : ∀ f ∈ Provider.faults method root ps, ∀ q d,
      f.2 = .invalidProvider q d → q = f.1 := by
    intro f hf q d hq
    obtain ⟨x, -, hx⟩ := List.mem_filterMap.mp hf
    obtain ⟨e, he, rfl⟩ := Option.map_eq_some_iff.mp hx
    subst hq
    exact Provider.eq_of_fault? he
  generalize Provider.faults method root ps = fs at h hnamed
  induction fs generalizing ds with
  | nil =>
    cases h
    rfl
  | cons f fs ih =>
    rw [List.mapM_cons] at h
    cases hd : Diagnostic.of f.1 f.2 with
    | error missing =>
      rw [hd] at h
      cases h
    | ok d =>
      cases hds : fs.mapM fun f => Diagnostic.of f.1 f.2 with
      | error missing =>
        rw [hd, hds] at h
        cases h
      | ok ds' =>
        rw [hd, hds] at h
        cases h
        obtain ⟨hposition, herror⟩ := Diagnostic.of_spec (hnamed f List.mem_cons_self) hd
        rw [List.map_cons, List.map_cons, hposition, herror,
          ih hds fun f' hf' => hnamed f' (List.mem_cons_of_mem f hf')]

/-! ## Populated containers -/

/-- What a node provides goes on to be provided. -/
theorem Keeps.provided (h : c.Keeps c') (ht : c.Provided t) : c'.Provided t := by
  obtain ⟨n, hn, hprovides⟩ := exists_mem_members_iff.mpr ht
  exact exists_mem_members_iff.mp ⟨n, h.members.subset hn, hprovides⟩

/-- Populating keeps all nodes. -/
theorem keeps_populate (c : Container) (ps : List Provider) :
    c.Keeps ((populate ps).run.run c).2 :=
  populate_induction (Keeps.refl c) fun p _ d hd => hd.trans (grows_addProvider d p).keeps

/-- What providers leave of a container, and what is reported of them. -/
structure Populated (c : Container) (ps : List Provider) (ds : List Diagnostic)
    (c' : Container) : Prop where
  /-- The valid providers stand behind the others, in their order. -/
  appended : ∃ added, c'.providers = c.providers ++ added ∧
    added.map (·.role) = (ps.filter fun p => p.Valid).map .provider
  /-- Each fault is reported in its turn, at the position of its provider. -/
  reported : (ds.map fun d => (d.position, d.error)) =
    (Provider.faults c.rootMethod c.rootType? ps).map fun f => (f.1.position, f.2)
  /-- The reports are worded as those of single failures. -/
  worded : ((Provider.faults c.rootMethod c.rootType? ps).mapM fun f => Diagnostic.of f.1 f.2) =
    .ok ds
  /-- Every provider was added or is reported to be refused. -/
  counted : c'.providers.length + ds.countP (·.error.isInvalidProvider) =
    c.providers.length + ps.length
  /-- The root is the one from before or that of the first provider that has a single candidate. -/
  root : c'.rootType? = Provider.rootAfter c.rootMethod c.rootType? ps
  /-- A root node from before stays. -/
  rootNode : ∀ r, c.root? = some r → c'.root? = some r
  /-- A root that was detected is provided, whatever is done later. -/
  met : c.rootType? = none → ∀ t, c'.rootType? = some t → ∀ ops,
    (c'.after ops).unsatisfied.contains t = false

/-- As many providers are added as are valid. -/
theorem length_providers_withProviders (c : Container) (ps : List Provider) :
    (c.withProviders ps).providers.length + ps.countP (!decide ·.Valid) =
      c.providers.length + ps.length := by
  obtain ⟨added, hadded, hroles⟩ := providers_withProviders c ps
  have hlength := congrArg List.length hroles
  rw [List.length_map, List.length_map, ← List.countP_eq_length_filter] at hlength
  rw [hadded, List.length_append, hlength, Nat.add_assoc,
    List.length_eq_countP_add_countP (fun p : Provider => decide p.Valid) (l := ps)]
  simp

/-- A root that the providers made is provided by one of them, so it is never unmet. -/
theorem Reachable.unsatisfied_rootType (h : Reachable (c.withProviders ps))
    (hnone : c.rootType? = none) (ht : (c.withProviders ps).rootType? = some t)
    (ops : List Operation) :
    ((c.withProviders ps).after ops).unsatisfied.contains t = false := by
  obtain ⟨added, hadded, hroles⟩ := providers_withProviders c ps
  rw [rootType?_withProviders, Provider.rootAfter, hnone, Option.none_or] at ht
  obtain ⟨p, hp, hdetected⟩ := List.exists_of_findSome?_eq_some ht
  obtain ⟨hvalid, hprovides⟩ := Provider.mem_provides_of_detectedRoot? hdetected
  -- The provider that was detected is among those added, and provides the type.
  have hrole : Role.provider p ∈ added.map (·.role) := by
    rw [hroles]
    exact List.mem_map_of_mem (List.mem_filter.mpr ⟨hp, by simpa using hvalid⟩)
  obtain ⟨n, hn, hnrole⟩ := List.mem_map.mp hrole
  have hmember : n ∈ (c.withProviders ps).members := by
    have hn' : n ∈ (c.withProviders ps).providers := by
      rw [hadded]
      exact List.mem_append_right _ hn
    exact (List.mem_filter.mp hn').1
  have hprovided : (c.withProviders ps).Provided t := by
    refine exists_mem_members_iff.mp ⟨n, hmember, ?_⟩
    rw [hnrole]
    exact List.contains_iff_exists_mem_beq.mpr ⟨t, hprovides, BEq.refl t⟩
  rw [Bool.eq_false_iff]
  intro hunmet
  have hlater := (contains_unsatisfied_iff (h.after ops).consistent).mp hunmet
  exact hlater.2 ((keeps_after _ ops).provided hprovided)

/-- What populating leaves is as described, where it succeeds. -/
theorem Reachable.populated {ds : List Diagnostic} (h : Reachable c)
    (hrun : (Container.populate ps).run.run c = (.ok ds, c.withProviders ps))
    (hds : ((Provider.faults c.rootMethod c.rootType? ps).mapM fun f => Diagnostic.of f.1 f.2) =
      .ok ds) : c.Populated ps ds (c.withProviders ps) where
  appended := providers_withProviders c ps
  reported := map_diagnostics hds
  worded := hds
  counted := by
    have hcount := congrArg (List.countP fun f => f.2.isInvalidProvider) (map_diagnostics hds)
    rw [List.countP_map, List.countP_map] at hcount
    have hinvalid : ds.countP (·.error.isInvalidProvider) = ps.countP (!decide ·.Valid) :=
      hcount.trans (Provider.countP_faults c.rootMethod c.rootType? ps)
    rw [hinvalid, length_providers_withProviders]
  root := rootType?_withProviders c ps
  rootNode := by
    have hkeeps := keeps_populate c ps
    rw [hrun] at hkeeps
    exact hkeeps.root
  met hnone t ht ops := by
    have hreachable := h.populate ps
    rw [hrun] at hreachable
    exact hreachable.unsatisfied_rootType hnone ht ops

/-- Populating a reachable container with well-formed providers succeeds; it appends the valid ones
and reports the faults. -/
theorem Reachable.populate_spec (h : Reachable c) (hps : ∀ p ∈ ps, p.WellFormed)
    (hroot : ∀ t, c.rootType? = some t → t.WellFormed) :
    ∃ ds c', (Container.populate ps).run.run c = (.ok ds, c') ∧ c.Populated ps ds c' := by
  obtain ⟨ds, hrun, hds⟩ :=
    populate_run fun f hf => Provider.exists_message_of_mem_faults hps hroot hf
  exact ⟨ds, c.withProviders ps, hrun, h.populated hrun hds⟩

/-- A provider of a type that can be run. -/
def starter : Provider := { name := "g", results := [.named "App" "m" [{ name := "run" }]] }

/-- It makes its type the root, behind one that is refused, and is reported when it comes again. -/
theorem populate_spec_starter :
    ∃ ds c', (Container.populate [hasty, starter, starter]).run.run (new "run" 0) = (.ok ds, c') ∧
      c'.rootType? = some (.named "App" "m" [{ name := "run" }]) ∧ ds.length = 2 := by
  have hhasty : hasty.WellFormed :=
    ⟨by simp [hasty], by simp [hasty, TypeKey.error, TypeKey.wellFormed_named,
      TypeKey.wellFormed_basic], by simp [hasty]⟩
  have hstarter : starter.WellFormed :=
    ⟨by simp [starter], by simp [starter, TypeKey.wellFormed_named], by simp [starter]⟩
  have hps : ∀ p ∈ [hasty, starter, starter], p.WellFormed := by
    simp [hhasty, hstarter]
  obtain ⟨ds, c', hrun, hspec⟩ :=
    Reachable.populate_spec (c := new "run" 0) ⟨"run", 0, [], rfl⟩ hps (by rintro _ ⟨⟩)
  refine ⟨ds, c', hrun, hspec.root, ?_⟩
  have hlength := congrArg List.length hspec.reported
  rw [List.length_map, List.length_map] at hlength
  rw [hlength]
  rfl

end Container

end Wiring
