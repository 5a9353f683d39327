import Wiring.Container.Population
import Wiring.Proofs.Container.Consistent

/-!
# Populated containers

Adding many providers and reporting what fails does to a container what adding them one by one does
(`populate_run_cons`). So a populated container is a reachable one (`Reachable.populate`), its nodes
stand for the providers or are the root (`mem_roles_populate`), and its root is a type that one of
the providers provides (`rootType?_populate`).
-/

namespace Wiring

/-- The distinct types of a list are among its types. -/
theorem TypeKey.mem_of_mem_distinct {ts : List TypeKey} {t : TypeKey} (h : t ∈ distinct ts) :
    t ∈ ts := by
  induction ts using List.reverseRecOn with
  | nil => cases h
  | append_singleton ts u ih =>
    rw [distinct_concat] at h
    split at h
    · exact List.mem_append_left _ (ih h)
    · rcases List.mem_append.mp h with h | h
      · exact List.mem_append_left _ (ih h)
      · exact List.mem_append_right _ h

/-- The runnable types of a list are among its types. -/
theorem TypeKey.mem_of_mem_runnables {method : String} {ts : List TypeKey} {t : TypeKey}
    (h : t ∈ runnables method ts) : t ∈ ts :=
  (List.mem_filter.mp (mem_of_mem_distinct h)).1

namespace Container

variable {c : Container} {t : TypeKey}

/-- The first of several providers is added, its failure becomes a diagnostic, and the others
follow. -/
theorem populate_run_cons (c : Container) (p : Provider) (ps : List Provider) :
    (populate (p :: ps)).run.run c =
      match (addProvider p).run.run c with
      | (.ok _, c') => (populate ps).run.run c'
      | (.error e, c') =>
        match Diagnostic.of p e with
        | .error missing => (.error missing, c')
        | .ok d =>
          match (populate ps).run.run c' with
          | (.error missing, c'') => (.error missing, c'')
          | (.ok ds, c'') => (.ok (d :: ds), c'') := by
  -- Adding a provider does not fail as a step of populating: its failure is looked at.
  have hlift : (liftM (addProvider p).run :
      ExceptT TypeKey.MissingArgument (StateM Container) (Except GraphError Node)).run.run c =
        pure (.ok ((addProvider p).run.run c).1, ((addProvider p).run.run c).2) := rfl
  rw [populate]
  simp only [ExceptT.run_bind, StateT.run_bind]
  rw [hlift, pure_bind]
  generalize (addProvider p).run.run c = result
  obtain ⟨_ | _, c'⟩ := result
  · dsimp only
    rename_i e
    cases Diagnostic.of p e with
    | error missing => rfl
    | ok d =>
      simp only [ExceptT.run_bind, StateT.run_bind]
      have hd : (liftM (Except.ok d : Except TypeKey.MissingArgument Diagnostic) :
        ExceptT TypeKey.MissingArgument (StateM Container) Diagnostic).run.run c' =
          pure (.ok d, c') := rfl
      rw [hd, pure_bind]
      dsimp only
      rw [StateT.run_bind]
      cases (populate ps).run.run c' with
      | mk r c'' =>
        cases r with
        | error missing => rfl
        | ok ds => rfl
  · rfl

/-- What adding each of several providers keeps is kept by adding them all, also if this breaks
off. -/
theorem populate_induction {motive : Container → Prop} {ps : List Provider} (h : motive c)
    (hadd : ∀ p ∈ ps, ∀ c, motive c → motive ((addProvider p).run.run c).2) :
    motive ((populate ps).run.run c).2 := by
  induction ps generalizing c with
  | nil => exact h
  | cons p ps ih =>
    have hfirst := hadd p List.mem_cons_self c h
    rw [populate_run_cons]
    generalize (addProvider p).run.run c = result at hfirst
    obtain ⟨result, c'⟩ := result
    have hrest := ih hfirst fun q hq => hadd q (List.mem_cons_of_mem p hq)
    cases result with
    | ok n => exact hrest
    | error e =>
      dsimp only
      cases Diagnostic.of p e with
      | error missing => exact hfirst
      | ok d =>
        -- The diagnostic of the first failure stands in front of the others or is lost.
        dsimp only
        generalize (populate ps).run.run c' = result at hrest
        obtain ⟨_ | _, c''⟩ := result
        · exact hrest
        · exact hrest

/-- Populating a reachable container leaves a reachable one. -/
theorem Reachable.populate (h : Reachable c) (ps : List Provider) :
    Reachable ((populate ps).run.run c).2 :=
  populate_induction h fun p _ _ hc => hc.after [.addProvider p]

/-! ## Where the nodes come from -/

/-- Detecting a root adds nothing but a root of one of the types that are searched. -/
theorem mem_roles_detectRoot {types : List TypeKey} {role : Role}
    (h : role ∈ ((detectRoot types).run.run c).2.roles) :
    role ∈ c.roles ∨ ∃ t ∈ types, role = .root t := by
  rw [detectRoot_run] at h
  split at h
  · exact Or.inl h
  · rename_i type hrunnable
    split at h
    · exact Or.inl h
    · rcases List.mem_append.mp h with h | h
      · exact Or.inl h
      · have htype := TypeKey.mem_of_mem_runnables (hrunnable ▸ List.mem_singleton_self type)
        exact Or.inr ⟨type, htype, List.mem_singleton.mp h⟩
  · exact Or.inl h

/-- Adding a provider adds nothing but its node and a root of one of its types. -/
theorem mem_roles_addProvider {p : Provider} {role : Role}
    (h : role ∈ ((addProvider p).run.run c).2.roles) :
    role ∈ c.roles ∨ role = .provider p ∨ ∃ t ∈ p.provides, role = .root t := by
  rw [addProvider_run_snd] at h
  split at h
  · exact Or.inl h
  · rcases mem_roles_detectRoot h with hrole | hroot
    · rcases List.mem_append.mp hrole with hrole | hrole
      · exact Or.inl hrole
      · exact Or.inr (Or.inl (List.mem_singleton.mp hrole))
    · exact Or.inr (Or.inr hroot)

/-- A node of a populated container was there before, stands for one of the providers, or is the
root of a type that one of them provides. -/
theorem mem_roles_populate {ps : List Provider} {role : Role}
    (h : role ∈ ((populate ps).run.run c).2.roles) :
    role ∈ c.roles ∨ ∃ p ∈ ps, role = .provider p ∨ ∃ t ∈ p.provides, role = .root t := by
  refine populate_induction (motive := fun c' => role ∈ c'.roles →
    role ∈ c.roles ∨ ∃ p ∈ ps, role = .provider p ∨ ∃ t ∈ p.provides, role = .root t) Or.inl ?_ h
  intro p hp c' ih hc'
  rcases mem_roles_addProvider hc' with hbefore | hadded
  · exact ih hbefore
  · exact Or.inr ⟨p, hp, hadded⟩

/-! ## Where the root comes from -/

/-- A new node changes the root only if there was none and it is one. -/
theorem rootType?_push (c : Container) (role : Role) :
    (c.push role).rootType? = c.rootType?.or role.rootType? := by
  unfold push rootType?
  rw [List.findSome?_append]
  simp

/-- The root after one is looked for is the one from before or among the types that are searched. -/
theorem rootType?_detectRoot {types : List TypeKey}
    (h : ((detectRoot types).run.run c).2.rootType? = some t) :
    c.rootType? = some t ∨ t ∈ types := by
  rw [detectRoot_run] at h
  split at h
  · exact Or.inl h
  · rename_i type hrunnable
    split at h
    · exact Or.inl h
    · rename_i hnone
      have ht : type = t := by simpa [rootType?_push, hnone, Role.rootType?] using h
      rw [← ht]
      exact Or.inr (TypeKey.mem_of_mem_runnables (hrunnable ▸ List.mem_singleton_self type))
  · exact Or.inl h

/-- The root after a provider is added is the one from before or a type of the provider. -/
theorem rootType?_addProvider {p : Provider}
    (h : ((addProvider p).run.run c).2.rootType? = some t) :
    c.rootType? = some t ∨ t ∈ p.provides := by
  have hpush : (c.push (.provider p)).rootType? = c.rootType? := by
    simp [rootType?_push, Role.rootType?]
  rw [addProvider_run_snd] at h
  split at h
  · exact Or.inl h
  · rw [← hpush]
    exact rootType?_detectRoot h

/-- The root of a populated container is the one from before or a type of one of the providers. -/
theorem rootType?_populate {ps : List Provider}
    (h : ((populate ps).run.run c).2.rootType? = some t) :
    c.rootType? = some t ∨ ∃ p ∈ ps, t ∈ p.provides := by
  refine populate_induction (motive := fun c' => c'.rootType? = some t →
    c.rootType? = some t ∨ ∃ p ∈ ps, t ∈ p.provides) Or.inl ?_ h
  intro p hp c' ih hc'
  rcases rootType?_addProvider hc' with hbefore | hprovided
  · exact ih hbefore
  · exact Or.inr ⟨p, hp, hprovided⟩

end Container

end Wiring
