import Wiring.Proofs.Container.Numbering
import Wiring.Proofs.Container.Population

/-!
# What decides the answers

Making the missing node changes neither the root nor what is unsatisfied. So whether a cycle is found
and what becomes of a build order is decided by the edges of the container with the missing node and
by its root alone: a cycle is found exactly if some node has a path to itself
(`findCycle_run_eq_nil_iff`), and with a root there is a build order exactly if no node that the root
needs has one (`exists_cyclicDependency_iff`, `exists_buildOrder_iff`).
-/

namespace Wiring.Container

open Relation

variable {c : Container} {n : Node} {t : TypeKey}

/-! ## The root and the missing node -/

/-- The missing node is a node of the container that is missing. -/
theorem missing?_spec (h : c.missing? = some n) :
    n ∈ c.members ∧ n.role.isMissing = true :=
  ⟨List.mem_of_find?_eq_some h, List.find?_some (p := fun n : Node => n.role.isMissing) h⟩

/-- Where the missing node is there, it is not made again. -/
theorem withMissing_eq_self_of_missing? (h : c.missing? = some n) : c.withMissing = c := by
  obtain ⟨hn, hrole⟩ := missing?_spec h
  exact withMissing_eq_self (List.any_eq_true.mpr (exists_mem_members_iff.mp ⟨n, hn, hrole⟩))

/-- A node of the container whose role has a property that only one has is the first that has it. -/
theorem find?_members_eq_some {q : Role → Bool} (hsingle : Single q c.roles) (hn : n ∈ c.members)
    (hq : q n.role = true) : c.members.find? (fun n => q n.role) = some n := by
  cases hfind : c.members.find? (fun n => q n.role) with
  | none => exact absurd hq (List.find?_eq_none.mp hfind n hn)
  | some m =>
    have hqm : q m.role = true := List.find?_some (p := fun n : Node => q n.role) hfind
    obtain ⟨i, hi⟩ := mem_members_iff.mp (List.mem_of_find?_eq_some hfind)
    obtain ⟨j, hj⟩ := mem_members_iff.mp hn
    obtain ⟨role, hrole, rfl⟩ := node?_eq_some_iff.mp hi
    obtain ⟨role', hrole', rfl⟩ := node?_eq_some_iff.mp hj
    obtain rfl := hsingle i j role role' hrole hrole' hqm hq
    rw [hrole] at hrole'
    rw [Option.some.inj hrole']

/-- The missing node is not the root. -/
theorem root?_withMissing (c : Container) : c.withMissing.root? = c.root? := by
  cases h : c.roles.any Role.isMissing with
  | true => rw [withMissing_eq_self h]
  | false =>
    rw [withMissing_eq_push h, root?_push]
    exact Option.or_none

/-- The missing node is not a provider. -/
theorem providers_withMissing (c : Container) : c.withMissing.providers = c.providers := by
  cases h : c.roles.any Role.isMissing with
  | true => rw [withMissing_eq_self h]
  | false =>
    rw [withMissing_eq_push h, providers_push]
    exact List.append_nil _

/-- The missing node requires nothing, so what is unmet stays the same when it is made. -/
theorem unsatisfied_withMissing (c : Container) : c.withMissing.unsatisfied = c.unsatisfied := by
  unfold withMissing
  split
  · rfl
  · rfl

/-- The missing node is no root. -/
theorem rootType?_withMissing (c : Container) : c.withMissing.rootType? = c.rootType? := by
  cases h : c.roles.any Role.isMissing with
  | true => rw [withMissing_eq_self h]
  | false =>
    rw [withMissing_eq_push h, rootType?_push]
    simp [Role.rootType?]

/-- If there is a type of the root there is a root node. -/
theorem exists_root? (h : c.rootType? = some t) : ∃ r, c.root? = some r := by
  obtain ⟨role, hrole, htype⟩ := List.exists_of_findSome?_eq_some h
  obtain ⟨i, hi⟩ := List.mem_iff_getElem?.mp hrole
  have hn : c.nodeOf i role ∈ c.members :=
    mem_members_iff.mpr ⟨i, node?_eq_some_iff.mpr ⟨role, hi, rfl⟩⟩
  have hsome : (c.nodeOf i role).role.rootType?.isSome = true := by
    show role.rootType?.isSome = true
    rw [htype]
    rfl
  exact Option.isSome_iff_exists.mp (List.find?_isSome.mpr ⟨_, hn, hsome⟩)

/-! ## Cycles -/

/-- The search for a cycle answers the same once the missing node is there. -/
theorem findCycle_run_withMissing (c : Container) :
    findCycle.run c.withMissing = ((findCycle.run c).1, c.withMissing) := by
  have hrun : findCycle.run c.withMissing =
      (c.withMissing.withMissing.nodesOf c.withMissing.withMissing.digraph.findCycle,
        c.withMissing.withMissing) := rfl
  rw [hrun, withMissing_withMissing]
  rfl

/-- The search answers with nothing exactly if no node has a path to itself. -/
theorem findCycle_run_eq_nil_iff (hc : c.withMissing.Consistent) :
    (findCycle.run c).1 = [] ↔ ¬ ∃ n, TransGen c.withMissing.Link n n := by
  have hmirrors := mirrors_digraph hc
  have hrun : (findCycle.run c).1 = c.withMissing.nodesOf c.withMissing.digraph.findCycle := rfl
  rw [← hmirrors.acyclic_iff, ← Digraph.findCycle_eq_nil_iff fun _ _ => mem_digraph_vertices hc,
    hrun]
  constructor
  · -- The numbers of a cycle are those of a loop of nodes, so they would not be lost.
    intro hnodes
    by_contra hne
    exact (hmirrors.isLoop (Digraph.isCycle_findCycle hne)).ne_nil hnodes
  · intro hids
    rw [hids]
    rfl

/-! ## Build orders -/

/-- Without a root, and only then, asking for a build order fails for lack of one. -/
theorem buildOrder_eq_noRoot_iff (hc : c.withMissing.Consistent) :
    (buildOrder.run.run c).1 = .error .noRoot ↔ c.root? = none := by
  cases hr : c.root? with
  | none =>
    rw [buildOrder_run, hr]
    exact iff_of_true rfl rfl
  | some r =>
    refine iff_of_false ?_ (Option.some_ne_none r)
    rcases buildOrder_cases_of_cycle hc hr with ⟨-, cycle, hrun⟩ | ⟨-, order, hrun⟩
    · rw [hrun]
      rintro ⟨⟩
    · rw [hrun]
      rintro ⟨⟩

/-- A cycle is reported exactly if what the root needs has a cycle. -/
theorem exists_cyclicDependency_iff (hc : c.withMissing.Consistent) :
    (∃ cycle, (buildOrder.run.run c).1 = .error (.cyclicDependency cycle)) ↔
      ∃ r, c.root? = some r ∧ ∃ n, TransGen (c.withMissing.Within r) n n := by
  cases hr : c.root? with
  | none =>
    rw [buildOrder_run, hr]
    refine iff_of_false ?_ ?_
    · rintro ⟨_, ⟨⟩⟩
    · rintro ⟨_, ⟨⟩, -⟩
  | some r =>
    rcases buildOrder_cases_of_cycle hc hr with ⟨hself, cycle, hrun⟩ | ⟨hnone, order, hrun⟩
    · rw [hrun]
      exact iff_of_true ⟨cycle, rfl⟩ ⟨r, rfl, hself⟩
    · rw [hrun]
      refine iff_of_false ?_ ?_
      · rintro ⟨_, ⟨⟩⟩
      · rintro ⟨_, ⟨⟩, hself⟩
        exact hnone hself

/-- There is a build order exactly if there is a root and what it needs has no cycle. -/
theorem exists_buildOrder_iff (hc : c.withMissing.Consistent) :
    (∃ order, (buildOrder.run.run c).1 = .ok order) ↔
      ∃ r, c.root? = some r ∧ ¬ ∃ n, TransGen (c.withMissing.Within r) n n := by
  cases hr : c.root? with
  | none =>
    rw [buildOrder_run, hr]
    refine iff_of_false ?_ ?_
    · rintro ⟨_, ⟨⟩⟩
    · rintro ⟨_, ⟨⟩, -⟩
  | some r =>
    rcases buildOrder_cases_of_cycle hc hr with ⟨hself, cycle, hrun⟩ | ⟨hnone, order, hrun⟩
    · rw [hrun]
      refine iff_of_false ?_ ?_
      · rintro ⟨_, ⟨⟩⟩
      · rintro ⟨_, ⟨⟩, hnone⟩
        exact hnone hself
    · rw [hrun]
      exact iff_of_true ⟨order, rfl⟩ ⟨r, rfl, hnone⟩

/-- Asking for a build order where there is a root leaves the missing node. -/
theorem buildOrder_run_snd {r : Node} (hc : c.withMissing.Consistent) (hr : c.root? = some r) :
    (buildOrder.run.run c).2 = c.withMissing := by
  rcases buildOrder_cases_of_cycle hc hr with ⟨-, cycle, hrun⟩ | ⟨-, order, hrun⟩
  · rw [hrun]
  · rw [hrun]

end Wiring.Container
