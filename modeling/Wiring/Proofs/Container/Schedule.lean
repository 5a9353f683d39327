import Wiring.Proofs.Container.Stability

/-!
# The least schedule

A schedule for a root lists the nodes that it needs, each once and after all nodes from which an
edge leads to it. There can be many. `Reachable.buildOrder_least` says which of them is the build
order: the one whose numbers are the smallest, compared from the front. It is found place by place,
since at each place stands the node with the smallest number that can come next
(`IsLeastSchedule.next`).

That the first choice is never regretted is `LeastFirst.eq_or_lt`: where another schedule departs
from the build order, what it lists there could have been listed by the build order too, and was not
because of its larger number.
-/

namespace Wiring.Container

open Relation

variable {c : Container} {n r : Node} {order other : List Node}

/-- The nodes that the root needs, each once and after all nodes from which an edge leads to it. -/
structure IsSchedule (c : Container) (r : Node) (order : List Node) : Prop where
  /-- No node is listed twice. -/
  nodup : order.Nodup
  /-- The listed nodes are those that the root needs. -/
  mem_iff : ∀ n, n ∈ order ↔ c.Needed r n
  /-- Before a node stand all nodes from which an edge leads to it. -/
  before : ∀ pre n post, order = pre ++ n :: post → ∀ u, c.Link u n → u ∈ pre

/-- The node can be listed next, behind those of `pre`. -/
structure Ready (c : Container) (r : Node) (pre : List Node) (n : Node) : Prop where
  /-- The root needs it. -/
  needed : c.Needed r n
  /-- It is not listed yet. -/
  fresh : n ∉ pre
  /-- All nodes from which an edge leads to it are. -/
  before : ∀ u, c.Link u n → u ∈ pre

/-- The smallest of all schedules. -/
structure IsLeastSchedule (c : Container) (r : Node) (order : List Node) : Prop where
  /-- It is a schedule. -/
  isSchedule : c.IsSchedule r order
  /-- All other schedules have larger numbers, compared from the front. -/
  least : ∀ other, c.IsSchedule r other → order = other ∨ order.map (·.id) < other.map (·.id)
  /-- At each place stands the node with the smallest number of those that can be listed next. -/
  next : ∀ pre n post, order = pre ++ n :: post →
    c.Ready r pre n ∧ ∀ m, c.Ready r pre m → n.id ≤ m.id

/-- A build order is a schedule. -/
theorem IsBuildOrder.isSchedule (h : c.IsBuildOrder r order) : c.IsSchedule r order :=
  ⟨h.nodup, h.mem_iff, h.before⟩

namespace IsSchedule

/-- Two schedules list the same nodes. -/
theorem perm (h : c.IsSchedule r order) (h' : c.IsSchedule r other) : order.Perm other := by
  rw [List.perm_ext_iff_of_nodup h.nodup h'.nodup]
  intro n
  rw [h.mem_iff, h'.mem_iff]

/-- Every node of a schedule could be listed when it was. -/
theorem ready {pre post : List Node} (h : c.IsSchedule r order)
    (hsplit : order = pre ++ n :: post) : c.Ready r pre n where
  needed := (h.mem_iff n).mp (by rw [hsplit]; simp)
  fresh hn := by
    have hnodup := h.nodup
    rw [hsplit] at hnodup
    exact List.disjoint_of_nodup_append hnodup hn List.mem_cons_self
  before := h.before pre n post hsplit

/-- A schedule that prefers smaller numbers at each place is the smallest. -/
theorem isLeastSchedule (h : c.IsSchedule r order) (hleast : LeastFirst c.Link (·.id) order) :
    c.IsLeastSchedule r order where
  isSchedule := h
  least _ hother := hleast.eq_or_lt (h.perm hother) hother.before
  next pre n post hsplit := by
    refine ⟨h.ready hsplit, fun m hm => ?_⟩
    have hmem : m ∈ pre ++ n :: post := by
      rw [← hsplit]
      exact (h.mem_iff m).mpr hm.needed
    rcases List.mem_cons.mp ((List.mem_append.mp hmem).resolve_left hm.fresh) with rfl | hlater
    · exact le_refl _
    · exact le_of_lt (hleast.least pre n post hsplit m hlater hm.before)

end IsSchedule

/-- If what the root needs has no cycle, the build order is the smallest of all schedules. -/
theorem Reachable.buildOrder_least (h : Reachable c) (hr : c.root? = some r)
    (hacyclic : ¬ ∃ n, TransGen (c.withMissing.Within r) n n) :
    ∃ order, buildOrder.run.run c = (.ok order, c.withMissing) ∧
      c.withMissing.IsLeastSchedule r order := by
  have hc : c.withMissing.Consistent := h.withMissing.consistent
  obtain ⟨order, horder⟩ := (exists_buildOrder_iff hc).mpr ⟨r, hr, hacyclic⟩
  obtain ⟨r', hr', hbuild, hleast⟩ := buildOrder_eq_ok hc horder
  obtain rfl : r = r' := Option.some.inj (hr.symm.trans hr')
  have hrun : buildOrder.run.run c = (.ok order, c.withMissing) :=
    Prod.ext horder (buildOrder_run_snd hc hr)
  exact ⟨order, hrun, hbuild.isSchedule.isLeastSchedule hleast⟩

/-- The root of the rivals needs no cycle, and of their schedules the one in which the second comes
first is the smallest. -/
theorem buildOrder_least_rivals :
    ∃ r, (new.after rivals).root? = some r ∧
      (¬ ∃ n, TransGen ((new.after rivals).withMissing.Within r) n n) ∧
      (new.after rivals).withMissing.IsLeastSchedule r
        ((new.after rivals).withMissing.nodesOf [1, 3, 0, 2]) := by
  have hreachable : Reachable (new.after rivals) := ⟨"run", 0, rivals, rfl⟩
  obtain ⟨r, hr, hacyclic⟩ :=
    (exists_buildOrder_iff hreachable.withMissing.consistent).mp ⟨_, buildOrder_rivals⟩
  obtain ⟨order, hrun, hleast⟩ := hreachable.buildOrder_least hr hacyclic
  have horder := congrArg Prod.fst hrun
  rw [buildOrder_rivals] at horder
  obtain rfl := Except.ok.inj horder
  exact ⟨r, hr, hacyclic, hleast⟩

end Wiring.Container
