import Wiring.Proofs.Container.Stability

/-!
# What questions leave alone

A question leaves the providers, the root and both indices of a container as they were
(`undisturbed_apply`). All it can do is to make the missing node, and once that is there no question
changes anything (`query_apply_eq_self`).

So two containers that went through the same constructions, with any questions in between, differ in
the number of the missing node only. `SameHistory` says what they have in common: the providers in
the order of their insertion, their edges with the same types in the same order, what is unsatisfied
in the same order, the order of the numbers of all nodes but the missing one, and everything that
renumbering leaves the same (`SameGraph`).
-/

namespace Wiring.Container

variable {c c₁ c₂ : Container} {m u₁ u₂ v₁ v₂ : Node}

/-! ## One question -/

/-- What is the same in a container after a question. -/
structure Undisturbed (c c' : Container) : Prop where
  /-- It is the same container. -/
  tag : c'.tag = c.tag
  /-- Roots are detected by the same method. -/
  rootMethod : c'.rootMethod = c.rootMethod
  /-- It has the same provider nodes. -/
  providers : c'.providers = c.providers
  /-- It has the same root node. -/
  root : c'.root? = c.root?
  /-- The same nodes are listed for what they provide. -/
  providedBy : c'.providedBy = c.providedBy
  /-- The same nodes are listed for what they require. -/
  requiredBy : c'.requiredBy = c.requiredBy
  /-- If anything is different, the missing node was not there and is now, behind all others. -/
  missing : c' = c ∨ c.missing? = none ∧ c'.missing? = some (c.nodeOf c.nextId .missing) ∧
    c'.members = c.members ++ [c.nodeOf c.nextId .missing]

/-- Doing nothing leaves everything the same. -/
theorem Undisturbed.refl (c : Container) : c.Undisturbed c :=
  ⟨rfl, rfl, rfl, rfl, rfl, rfl, Or.inl rfl⟩

/-- Making the missing node disturbs nothing else. -/
theorem undisturbed_withMissing (c : Container) : c.Undisturbed c.withMissing := by
  cases h : c.roles.any Role.isMissing with
  | true =>
    rw [withMissing_eq_self h]
    exact Undisturbed.refl c
  | false =>
    have hnone : c.missing? = none := missing?_eq_none h
    have hmade : (c.push .missing).missing? = some (c.nodeOf c.nextId .missing) := by
      rw [missing?_push, hnone]
      rfl
    have hproviders := providers_withMissing c
    have hroot := root?_withMissing c
    rw [withMissing_eq_push h] at hproviders hroot ⊢
    exact ⟨rfl, rfl, hproviders, hroot, rfl, rfl, Or.inr ⟨hnone, hmade, members_push c .missing⟩⟩

/-- A question disturbs nothing. -/
theorem undisturbed_apply (c : Container) (q : Query) : c.Undisturbed (q.apply c) := by
  rcases query_apply c q with hself | hmade
  · rw [hself]
    exact Undisturbed.refl c
  · rw [hmade]
    exact undisturbed_withMissing c

/-- Where the missing node is there, a question changes nothing. -/
theorem query_apply_eq_self (h : c.missing? = some m) (q : Query) : q.apply c = c := by
  rcases query_apply c q with hself | hmade
  · exact hself
  · rw [hmade, withMissing_eq_self_of_missing? h]

/-! ## The same constructions -/

/-- What two containers have in common that went through the same constructions. -/
structure SameHistory (c₁ c₂ : Container) (R : Node → Node → Prop) : Prop
    extends SameGraph c₁ c₂ R where
  /-- Provider nodes correspond in the order of their insertion. -/
  providers : List.Forall₂ R c₁.providers c₂.providers
  /-- The edges between corresponding nodes carry the same types in the same order. -/
  carried_eq : ∀ u₁ u₂ v₁ v₂, R u₁ u₂ → R v₁ v₂ →
    carried (c₁.withMissing.edge? u₁ v₁) = carried (c₂.withMissing.edge? u₂ v₂)
  /-- The same types are unsatisfied, in the same order. -/
  unsatisfied_eq : c₁.unsatisfied = c₂.unsatisfied
  /-- The numbers of nodes other than the missing one compare alike. -/
  id_lt_iff : ∀ n₁ n₂ m₁ m₂, R n₁ n₂ → R m₁ m₂ → n₁.role.isMissing = false →
    m₁.role.isMissing = false → (n₁.id < m₁.id ↔ n₂.id < m₂.id)

/-- What is required does not depend on the missing node. -/
theorem flatMap_requires_builtRoles (c : Container) :
    c.builtRoles.flatMap Role.requires = c.roles.flatMap Role.requires := by
  unfold builtRoles
  induction c.roles with
  | nil => rfl
  | cons role roles ih =>
    cases role with
    | provider p => exact congrArg (p.requires ++ ·) ih
    | root type => exact congrArg (type :: ·) ih
    | missing => exact ih

namespace Parallel

/-- The same types are unsatisfied, in the same order. -/
theorem unsatisfied_eq (h : c₁.Parallel c₂) : c₁.unsatisfied = c₂.unsatisfied := by
  have hrequired : c₁.requiredBy.types = c₂.requiredBy.types := by
    rw [h.left.requiredBy.types, h.right.requiredBy.types, ← flatMap_requires_builtRoles c₁,
      ← flatMap_requires_builtRoles c₂, h.alike.builtRoles]
  have hunmet : ∀ t, c₁.isUnmet t = c₂.isUnmet t := by
    intro t
    rw [Bool.eq_iff_iff, isUnmet_iff h.left, isUnmet_iff h.right, h.renumbers.provided_iff]
  unfold unsatisfied
  rw [hrequired]
  exact List.filter_congr fun t _ => hunmet t

/-- Corresponding nodes provide the same types, in the same order. -/
theorem provides_eq (h : c₁.Parallel c₂) (hu : Corresponds c₁ c₂ u₁ u₂) :
    c₁.provides u₁ = c₂.provides u₂ := by
  unfold provides
  rw [hu.role_eq h.alike]
  cases u₂.role with
  | provider p => rfl
  | root type => rfl
  | missing => exact h.unsatisfied_eq

/-- The same types connect corresponding nodes, in the same order. -/
theorem connectingTypes_eq (h : c₁.Parallel c₂) (hu : Corresponds c₁ c₂ u₁ u₂)
    (hv : Corresponds c₁ c₂ v₁ v₂) : c₁.connectingTypes u₁ v₁ = c₂.connectingTypes u₂ v₂ := by
  rw [Container.connectingTypes_eq h.left hu.mem_members hv.mem_members,
    Container.connectingTypes_eq h.right hu.symm.mem_members hv.symm.mem_members,
    h.provides_eq hu, h.renumbers.requires_eq hv]

end Parallel

/-- Reachable containers that are alike have the same history. -/
theorem Reachable.sameHistory (h₁ : Reachable c₁) (h₂ : Reachable c₂) (halike : c₁.Alike c₂) :
    c₁.SameHistory c₂ (Corresponds c₁.withMissing c₂.withMissing) := by
  have h := h₁.parallel h₂ halike
  have hproviders := h.alike.forall₂_providers
  rw [providers_withMissing, providers_withMissing] at hproviders
  have hunsatisfied := h.unsatisfied_eq
  rw [unsatisfied_withMissing, unsatisfied_withMissing] at hunsatisfied
  refine {
    toSameGraph := h.renumbers.sameGraph h.left h.right
    providers := hproviders
    carried_eq := ?carried_eq
    unsatisfied_eq := hunsatisfied
    id_lt_iff := fun _ _ _ _ hn hm => hn.id_lt_iff hm }
  intro u₁ u₂ v₁ v₂ hu hv
  rw [carried_edge?, carried_edge?, h.connectingTypes_eq hu hv]

/-- A question to a container disturbs nothing, and once the missing node is there, none changes
anything, whatever is done in between. Hence containers that went through the same constructions,
with any questions in between, correspond in everything but the number of the missing node. -/
theorem queries_spec :
    (∀ (c : Container) (q : Query), c.Undisturbed (q.apply c)) ∧
    (∀ c : Container, c.missing?.isSome = true → ∀ (ops : List Operation) (q : Query),
      q.apply (c.after ops) = c.after ops) ∧
    ∀ (rootMethod : String) (tag₁ tag₂ : Nat) (ops₁ ops₂ : List Operation),
      constructions ops₁ = constructions ops₂ →
      SameHistory ((new rootMethod tag₁).after ops₁) ((new rootMethod tag₂).after ops₂)
        (Corresponds ((new rootMethod tag₁).after ops₁).withMissing
          ((new rootMethod tag₂).after ops₂).withMissing) := by
  refine ⟨undisturbed_apply, ?_, ?_⟩
  · intro c hmissing ops q
    obtain ⟨m, hm⟩ := Option.isSome_iff_exists.mp hmissing
    exact query_apply_eq_self ((keeps_after c ops).missing m hm) q
  · intro rootMethod tag₁ tag₂ ops₁ ops₂ hops
    exact Reachable.sameHistory ⟨rootMethod, tag₁, ops₁, rfl⟩ ⟨rootMethod, tag₂, ops₂, rfl⟩
      (alike_after_of_constructions_eq rootMethod tag₁ tag₂ hops)

/-- An early question moves the missing node in front of two providers and the root. Both containers
have the same types unsatisfied, and neither is changed by a further question. -/
theorem queries_spec_rivals :
    (new.after (rivals ++ [.query .missing])).unsatisfied =
        (new.after (.query .missing :: rivals)).unsatisfied ∧
      Query.findCycle.apply (new.after (.query .missing :: rivals)) =
        new.after (.query .missing :: rivals) := by
  obtain ⟨-, honce, hsame⟩ := queries_spec
  have hhistory := hsame "run" 0 0 (rivals ++ [.query .missing]) (.query .missing :: rivals) rfl
  exact ⟨hhistory.unsatisfied_eq, honce (new.after [.query .missing]) rfl rivals .findCycle⟩

end Wiring.Container
