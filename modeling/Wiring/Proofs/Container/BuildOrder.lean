import Wiring.Proofs.Container.Agreement
import Wiring.Proofs.Container.Cycle
import Wiring.Proofs.Digraph.LeastOrder

/-!
# Build orders

`IsBuildOrder` says what a build order for a root has to be, without regard to how it is found: the
nodes that the root needs, each once and after all nodes from which an edge leads to it. That the
root is last, that every requirement is provided for earlier, and that the missing node is listed
only where a requirement is unmet follows from this alone (`isBuildOrder_of_before`).

`Reachable.buildOrder_spec` says when there is one: always when there is a root and what it needs
has no cycle. In particular the sort does not fail on what the cycle search lets pass.
`Reachable.findCycle_spec` says the same of cycles, those that are asked for and those that are
reported in place of a build order.
-/

namespace Wiring.Container

open Relation

variable {c : Container} {u v n r : Node} {i : Nat}

/-! ## What an order has to be -/

/-- The list is a build order for the root `r`. -/
structure IsBuildOrder (c : Container) (r : Node) (order : List Node) : Prop where
  /-- No node is listed twice. -/
  nodup : order.Nodup
  /-- The listed nodes are those that the root needs. -/
  mem_iff : ∀ n, n ∈ order ↔ c.Needed r n
  /-- Before a node stand all nodes from which an edge leads to it. -/
  before : ∀ pre n post, order = pre ++ n :: post → ∀ u, c.Link u n → u ∈ pre
  /-- What a node requires is provided by a node before it. -/
  provided : ∀ pre n post, order = pre ++ n :: post → ∀ t ∈ n.requires,
    ∃ u ∈ pre, (c.provides u).contains t = true
  /-- The root is last. -/
  last : order.getLast? = some r
  /-- The missing node is listed exactly if a requirement of a listed node is unmet. -/
  missing : (∃ m ∈ order, m.role.isMissing = true) ↔
    ∃ n, c.Needed r n ∧ ∃ t ∈ n.requires, c.isUnmet t = true

/-- What a node of the container needs are nodes of the container. -/
theorem Needed.mem_members (h : c.Needed r n) (hr : r ∈ c.members) : n ∈ c.members := by
  cases h.cases_head with
  | inl heq => rwa [heq]
  | inr hstep =>
    obtain ⟨m, hlink, -⟩ := hstep
    exact hlink.1

/-- A container with a missing role has a missing node. -/
theorem exists_missing (hmissing : c.roles.any Role.isMissing = true) :
    ∃ m ∈ c.members, m.role.isMissing = true := by
  rw [List.any_eq_true] at hmissing
  exact exists_mem_members_iff.mpr hmissing

/-- Where there is a missing node, an edge leads to a node for each type that it requires. -/
theorem exists_link (hmissing : c.roles.any Role.isMissing = true) (hn : n ∈ c.members)
    {t : TypeKey} (ht : t ∈ n.requires) : ∃ u, c.Link u n ∧ c.Supplies u t := by
  by_cases hprovided : c.Provided t
  · -- A node that provides the type of itself is not the missing one.
    obtain ⟨u, hu, hown⟩ := exists_mem_members_iff.mpr hprovided
    have hnot : u.role.isMissing = false := by
      by_contra h
      rw [Bool.not_eq_false] at h
      rw [Role.provides_of_isMissing h] at hown
      simp at hown
    have hsupplies : c.Supplies u t := (supplies_iff_of_not_isMissing hnot).mpr hown
    exact ⟨u, ⟨hu, hn, t, ht, hsupplies⟩, hsupplies⟩
  · -- Nobody provides it, so the missing node does.
    obtain ⟨m, hm, hrole⟩ := exists_missing hmissing
    have hsupplies : c.Supplies m t :=
      (supplies_iff_of_isMissing hrole).mpr ⟨required_of_mem hn ht, hprovided⟩
    exact ⟨m, ⟨hm, hn, t, ht, hsupplies⟩, hsupplies⟩

/-- The missing node is needed exactly if a requirement of a needed node is unmet. -/
theorem exists_needed_missing_iff (hc : c.Consistent)
    (hmissing : c.roles.any Role.isMissing = true) (hr : r ∈ c.members)
    (hroot : r.role.isMissing = false) :
    (∃ m, c.Needed r m ∧ m.role.isMissing = true) ↔
      ∃ n, c.Needed r n ∧ ∃ t ∈ n.requires, c.isUnmet t = true := by
  constructor
  · rintro ⟨m, hneeded, hrole⟩
    cases hneeded.cases_head with
    | inl heq =>
      rw [heq, hroot] at hrole
      exact absurd hrole (by decide)
    | inr hstep =>
      -- The first edge on the way to the root carries a type that is unmet.
      obtain ⟨n, ⟨-, -, t, ht, hsupplies⟩, hn⟩ := hstep
      have hunmet := ((supplies_iff_of_isMissing hrole).mp hsupplies).2
      exact ⟨n, hn, t, ht, (isUnmet_iff hc).mpr hunmet⟩
  · rintro ⟨n, hneeded, t, ht, hunmet⟩
    have hn : n ∈ c.members := hneeded.mem_members hr
    obtain ⟨m, hm, hrole⟩ := exists_missing hmissing
    have hsupplies : c.Supplies m t :=
      (supplies_iff_of_isMissing hrole).mpr
        ⟨required_of_mem hn ht, (isUnmet_iff hc).mp hunmet⟩
    exact ⟨m, ReflTransGen.head ⟨hm, hn, t, ht, hsupplies⟩ hneeded, hrole⟩

/-- A list that has the sources of its nodes before them has all from which a path leads to a node
before it. -/
theorem mem_of_transGen {pre post : List Node}
    (hbefore : ∀ pre' m post', pre ++ n :: post = pre' ++ m :: post' → ∀ u, c.Link u m → u ∈ pre')
    (h : TransGen c.Link u n) : u ∈ pre := by
  induction h using TransGen.head_induction_on with
  | single hlink => exact hbefore pre n post rfl _ hlink
  | @head u m hlink _ ih =>
    -- The next node stands before `n`, so the list is split there and `u` stands before that.
    obtain ⟨pre', post', rfl⟩ := List.append_of_mem ih
    have hu : u ∈ pre' := hbefore pre' m (post' ++ n :: post) (by simp) u hlink
    exact List.mem_append_left _ hu

/-- A list of what the root needs, each node once and after the sources of the edges to it, is a
build order. -/
theorem isBuildOrder_of_before {order : List Node} (hc : c.Consistent)
    (hmissing : c.roles.any Role.isMissing = true) (hr : r ∈ c.members)
    (hroot : r.role.isMissing = false) (hnodup : order.Nodup)
    (hmem : ∀ n, n ∈ order ↔ c.Needed r n)
    (hbefore : ∀ pre n post, order = pre ++ n :: post → ∀ u, c.Link u n → u ∈ pre) :
    c.IsBuildOrder r order where
  nodup := hnodup
  mem_iff := hmem
  before := hbefore
  provided pre n post hsplit t ht := by
    have hneeded : c.Needed r n := (hmem n).mp (by rw [hsplit]; simp)
    obtain ⟨u, hlink, hsupplies⟩ := exists_link hmissing (hneeded.mem_members hr) ht
    exact ⟨u, hbefore pre n post hsplit u hlink, (contains_provides_iff hc).mpr hsupplies⟩
  last := by
    obtain ⟨pre, post, hsplit⟩ := List.append_of_mem ((hmem r).mpr ReflTransGen.refl)
    cases post with
    | nil =>
      rw [hsplit]
      simp
    | cons p post =>
      -- A node after the root would be needed by it, and so stand before it too.
      have hneeded : c.Needed r p := (hmem p).mp (by rw [hsplit]; simp)
      rw [hsplit, List.nodup_append] at hnodup
      obtain ⟨-, htail, hdisjoint⟩ := hnodup
      have hne : r ≠ p := by
        rintro rfl
        simp at htail
      have hpath : TransGen c.Link p r :=
        (reflTransGen_iff_eq_or_transGen.mp hneeded).resolve_left hne
      have hpre : p ∈ pre := by
        rw [hsplit] at hbefore
        exact mem_of_transGen hbefore hpath
      exact absurd rfl (hdisjoint p hpre p (by simp))
  missing := by
    rw [← exists_needed_missing_iff hc hmissing hr hroot]
    simp only [hmem]

/-! ## How an order is found -/

/-- The vertices of what leads to a node are the numbers of what it needs. -/
theorem mem_neededGraph_vertices_iff (hc : c.Consistent) (hr : r ∈ c.members)
    (hn : c.node? i = some n) :
    i ∈ (c.neededGraph r).vertices ↔ c.Needed r n := by
  have hi : i ∈ c.digraph.vertices := List.mem_range.mpr (lt_of_node? hn)
  rw [neededGraph, Digraph.mem_leadingTo_vertices_iff,
    (mirrors_digraph hc).reflTransGen_iff hn (node?_toNat hr)]
  exact and_iff_right hi

/-- What leads to a node is a graph on its vertices. -/
theorem wellFormed_neededGraph (hc : c.Consistent) (hr : r ∈ c.members) :
    (c.neededGraph r).WellFormed where
  nodup := List.Nodup.filter _ List.nodup_range
  tail u v h := by
    obtain ⟨m, -, hm, -, -, hneeded, -⟩ := ((mirrors_neededGraph hc hr).hasArc_iff u v).mp h
    exact (mem_neededGraph_vertices_iff hc hr hm).mpr hneeded
  head u v h := by
    obtain ⟨-, n, -, hn, -, -, hneeded⟩ := ((mirrors_neededGraph hc hr).hasArc_iff u v).mp h
    exact (mem_neededGraph_vertices_iff hc hr hn).mpr hneeded

/-- What leads to a node is searched in vain exactly if it is acyclic. -/
theorem findCycle_neededGraph_eq_nil_iff (hc : c.Consistent) (hr : r ∈ c.members) :
    (c.neededGraph r).findCycle = [] ↔ (c.neededGraph r).Acyclic :=
  Digraph.findCycle_eq_nil_iff (wellFormed_neededGraph hc hr).tail

/-- The nodes of an order of what leads to the root form a build order. -/
theorem isBuildOrder_of_isOrder {ids : List Nat} (hc : c.Consistent)
    (hmissing : c.roles.any Role.isMissing = true) (hr : r ∈ c.members)
    (hroot : r.role.isMissing = false)
    (horder : (c.neededGraph r).IsOrder ids) :
    c.IsBuildOrder r (c.nodesOf ids) := by
  have hrange : ∀ i ∈ ids, ∃ n, c.node? i = some n := by
    intro i hi
    have hi' := (Digraph.mem_leadingTo_vertices_iff.mp (horder.perm.mem_iff.mp hi)).1
    exact exists_node? (List.mem_range.mp hi')
  have hnumbers : (c.nodesOf ids).map (·.id.toNat) = ids := map_toNat_nodesOf hrange
  have hmem : ∀ n, n ∈ c.nodesOf ids ↔ c.Needed r n := by
    intro n
    rw [mem_nodesOf_iff]
    constructor
    · rintro ⟨i, hi, hn⟩
      exact (mem_neededGraph_vertices_iff hc hr hn).mp (horder.perm.mem_iff.mp hi)
    · intro hneeded
      have hn := node?_toNat (hneeded.mem_members hr)
      have hi := (mem_neededGraph_vertices_iff hc hr hn).mpr hneeded
      exact ⟨_, horder.perm.mem_iff.mpr hi, hn⟩
  apply isBuildOrder_of_before hc hmissing hr hroot _ hmem
  · -- A split of the nodes is a split of the numbers.
    intro pre n post hsplit u hlink
    have hneeded : c.Needed r n := (hmem n).mp (by rw [hsplit]; simp)
    have hids : ids = pre.map (·.id.toNat) ++ n.id.toNat :: post.map (·.id.toNat) := by
      rw [← hnumbers, hsplit, List.map_append, List.map_cons]
    have harc : (c.neededGraph r).HasArc u.id.toNat n.id.toNat :=
      ((mirrors_neededGraph hc hr).hasArc_iff _ _).mpr
        ⟨u, n, node?_toNat hlink.1, node?_toNat hlink.2.1, hlink,
          ReflTransGen.head hlink hneeded, hneeded⟩
    obtain ⟨w, hw, heq⟩ := List.mem_map.mp (horder.before _ _ _ hids _ harc)
    have hw' : w ∈ c.nodesOf ids := by
      rw [hsplit]
      exact List.mem_append_left _ hw
    rwa [← eq_of_toNat_eq (mem_members_of_mem_nodesOf hw') hlink.1 heq]
  · have hnodup : ((c.nodesOf ids).map (·.id.toNat)).Nodup := by
      rw [hnumbers]
      exact horder.perm.nodup_iff.mpr (wellFormed_neededGraph hc hr).nodup
    exact List.Nodup.of_map _ hnodup

/-- Among the nodes that can stand at a place of a build order, the one with the smallest number
does. -/
theorem leastFirst_nodesOf {ids : List Nat} (hc : c.Consistent) (hr : r ∈ c.members)
    (hids : (c.neededGraph r).order? = some ids) (horder : c.IsBuildOrder r (c.nodesOf ids)) :
    LeastFirst c.Link (·.id) (c.nodesOf ids) where
  nodup := horder.nodup
  before := horder.before
  least pre n post hsplit m hm hfree := by
    have hleast : LeastFirst (c.neededGraph r).HasArc id ids :=
      Digraph.leastFirst_of_order? (wellFormed_neededGraph hc hr) hids
    have hperm := (Digraph.isOrder_of_order? (wellFormed_neededGraph hc hr) hids).perm
    have hnumbers : (c.nodesOf ids).map (·.id.toNat) = ids := map_toNat_nodesOf fun i hi =>
      exists_node? (List.mem_range.mp
        (Digraph.mem_leadingTo_vertices_iff.mp (hperm.mem_iff.mp hi)).1)
    rw [hsplit, List.map_append, List.map_cons] at hnumbers
    have hmember : ∀ u ∈ pre ++ n :: post, u ∈ c.members := by
      rw [← hsplit]
      exact fun u => mem_members_of_mem_nodesOf
    have hn := node?_toNat (hmember n (by simp))
    have hm' := node?_toNat (hmember m (by simp [hm]))
    -- A later number that could stand there is that of a later node that could.
    have hlt : n.id.toNat < m.id.toNat := by
      refine hleast.least _ _ _ hnumbers.symm m.id.toNat (List.mem_map_of_mem hm) fun i harc => ?_
      obtain ⟨u, v, hu, hv, hlink, -⟩ := ((mirrors_neededGraph hc hr).hasArc_iff _ _).mp harc
      rw [hm'] at hv
      obtain rfl := Option.some.inj hv
      exact List.mem_map.mpr ⟨u, hfree u hlink, toNat_of_node? hu⟩
    have hn_id := id_eq_of_node? hn
    have hm_id := id_eq_of_node? hm'
    show n.id < m.id
    omega

/-- The root node is a node of the container, and not the missing one. -/
theorem root?_spec (h : c.root? = some r) : r ∈ c.members ∧ r.role.isMissing = false := by
  refine ⟨List.mem_of_find?_eq_some h, ?_⟩
  have hroot : r.role.rootType?.isSome = true :=
    List.find?_some (p := fun n : Node => n.role.rootType?.isSome) h
  cases hrole : r.role with
  | provider p => rfl
  | root type => rfl
  | missing =>
    rw [hrole] at hroot
    exact absurd hroot (by decide)

/-- The missing node is there once it is made. -/
theorem any_isMissing_withMissing (c : Container) :
    c.withMissing.roles.any Role.isMissing = true := by
  cases hmissing : c.roles.any Role.isMissing with
  | true => rwa [withMissing_eq_self hmissing]
  | false =>
    rw [withMissing_eq_push hmissing]
    simp [push, Role.isMissing]

/-- With a root, a cycle is reported or a build order is found; the sort does not fail. -/
theorem buildOrder_cases (hc : c.withMissing.Consistent) (hr : c.root? = some r) :
    ((c.withMissing.neededGraph r).findCycle ≠ [] ∧ buildOrder.run.run c =
      (.error (.cyclicDependency (c.withMissing.nodesOf (c.withMissing.neededGraph r).findCycle)),
        c.withMissing)) ∨
    ((c.withMissing.neededGraph r).Acyclic ∧ ∃ ids,
      (c.withMissing.neededGraph r).order? = some ids ∧
      buildOrder.run.run c = (.ok (c.withMissing.nodesOf ids), c.withMissing)) := by
  have hroot : r ∈ c.withMissing.members := mem_members_withMissing (root?_spec hr).1
  rw [buildOrder_run, hr]
  dsimp only
  rw [← neededGraph]
  cases hcycle : (c.withMissing.neededGraph r).findCycle with
  | cons v vs => exact Or.inl ⟨by simp, rfl⟩
  | nil =>
    have hacyclic := (findCycle_neededGraph_eq_nil_iff hc hroot).mp hcycle
    obtain ⟨ids, hids⟩ := Digraph.exists_order? (wellFormed_neededGraph hc hroot) hacyclic
    rw [hids]
    exact Or.inr ⟨hacyclic, ids, rfl, rfl⟩

/-- It is a cycle that is reported exactly if what the root needs has one. -/
theorem buildOrder_cases_of_cycle (hc : c.withMissing.Consistent) (hr : c.root? = some r) :
    ((∃ n, TransGen (c.withMissing.Within r) n n) ∧ ∃ cycle,
      buildOrder.run.run c = (.error (.cyclicDependency cycle), c.withMissing)) ∨
    ((¬ ∃ n, TransGen (c.withMissing.Within r) n n) ∧ ∃ order,
      buildOrder.run.run c = (.ok order, c.withMissing)) := by
  have hroot : r ∈ c.withMissing.members := mem_members_withMissing (root?_spec hr).1
  have hmirrors := mirrors_neededGraph hc hroot
  rcases buildOrder_cases hc hr with ⟨hcycle, hrun⟩ | ⟨hacyclic, ids, -, hrun⟩
  · refine Or.inl ⟨?_, _, hrun⟩
    by_contra hnone
    exact hcycle ((findCycle_neededGraph_eq_nil_iff hc hroot).mpr (hmirrors.acyclic_iff.mpr hnone))
  · exact Or.inr ⟨hmirrors.acyclic_iff.mp hacyclic, _, hrun⟩

/-- A build order that is found lists what the root needs, and of the nodes that can come next the
one with the smallest number. -/
theorem buildOrder_eq_ok {order : List Node} (hc : c.withMissing.Consistent)
    (h : (buildOrder.run.run c).1 = .ok order) :
    ∃ r, c.root? = some r ∧ c.withMissing.IsBuildOrder r order ∧
      LeastFirst c.withMissing.Link (·.id) order := by
  cases hr : c.root? with
  | none =>
    rw [buildOrder_run, hr] at h
    cases h
  | some r =>
    obtain ⟨hmem, hrole⟩ := root?_spec hr
    have hroot : r ∈ c.withMissing.members := mem_members_withMissing hmem
    rcases buildOrder_cases hc hr with ⟨-, hrun⟩ | ⟨-, ids, hids, hrun⟩
    · rw [hrun] at h
      cases h
    · rw [hrun] at h
      obtain rfl : c.withMissing.nodesOf ids = order := Except.ok.inj h
      have horder := isBuildOrder_of_isOrder hc (any_isMissing_withMissing c) hroot hrole
        (Digraph.isOrder_of_order? (wellFormed_neededGraph hc hroot) hids)
      exact ⟨r, rfl, horder, leastFirst_nodesOf hc hroot hids horder⟩

/-! ## Build orders and cycles of reachable containers -/

/-- Without a root there is no build order. With one, a cycle is reported exactly if what the root
needs has a cycle, and otherwise there is a build order. -/
theorem Reachable.buildOrder_spec (h : Reachable c) :
    (c.root? = none → buildOrder.run.run c = (.error .noRoot, c)) ∧
    ∀ r, c.root? = some r →
      (buildOrder.run.run c).2 = c.withMissing ∧
      ((∃ cycle, (buildOrder.run.run c).1 = .error (.cyclicDependency cycle)) ↔
        ∃ n, TransGen (c.withMissing.Within r) n n) ∧
      ((¬ ∃ n, TransGen (c.withMissing.Within r) n n) →
        ∃ order, (buildOrder.run.run c).1 = .ok order ∧ c.withMissing.IsBuildOrder r order) := by
  constructor
  · intro hnone
    rw [buildOrder_run, hnone]
  · intro r hr
    have hc : c.withMissing.Consistent := h.withMissing.consistent
    obtain ⟨hmem, hrole⟩ := root?_spec hr
    have hroot : r ∈ c.withMissing.members := mem_members_withMissing hmem
    have hmirrors := mirrors_neededGraph hc hroot
    rcases buildOrder_cases hc hr with ⟨hcycle, hrun⟩ | ⟨hacyclic, ids, hids, hrun⟩
    · -- The search answered with a cycle, so the graph is not acyclic.
      have hself : ∃ n, TransGen (c.withMissing.Within r) n n := by
        by_contra hnone
        have hacyclic := hmirrors.acyclic_iff.mpr hnone
        exact hcycle ((findCycle_neededGraph_eq_nil_iff hc hroot).mpr hacyclic)
      rw [hrun]
      exact ⟨rfl, ⟨fun _ => hself, fun _ => ⟨_, rfl⟩⟩, fun hnone => absurd hself hnone⟩
    · have hnone := hmirrors.acyclic_iff.mp hacyclic
      have horder := isBuildOrder_of_isOrder hc (any_isMissing_withMissing c) hroot hrole
        (Digraph.isOrder_of_order? (wellFormed_neededGraph hc hroot) hids)
      rw [hrun]
      refine ⟨rfl, ⟨?_, fun hself => absurd hself hnone⟩, fun _ => ⟨_, rfl, horder⟩⟩
      rintro ⟨cycle, hcycle⟩
      simp at hcycle

/-- In the container of a self-feeding provider an edge leads from its node to itself. -/
theorem within_selfFed :
    selfFed.withMissing.Within (selfFed.nodeOf 1 (.root (.basic "A")))
      (selfFed.nodeOf 0 (.provider selfFeeding)) (selfFed.nodeOf 0 (.provider selfFeeding)) := by
  have hnode : selfFed.nodeOf 0 (.provider selfFeeding) ∈ selfFed.withMissing.members :=
    mem_members_iff.mpr ⟨0, rfl⟩
  have hroot : selfFed.nodeOf 1 (.root (.basic "A")) ∈ selfFed.withMissing.members :=
    mem_members_iff.mpr ⟨1, rfl⟩
  have hsupplies : selfFed.withMissing.Supplies (selfFed.nodeOf 0 (.provider selfFeeding))
      (.basic "A") := by
    show selfFeeding.provides.contains (TypeKey.basic "A") = true
    decide
  have hself : selfFed.withMissing.Link (selfFed.nodeOf 0 (.provider selfFeeding))
      (selfFed.nodeOf 0 (.provider selfFeeding)) :=
    ⟨hnode, hnode, .basic "A", List.mem_cons_self, hsupplies⟩
  have hneeded : selfFed.withMissing.Needed (selfFed.nodeOf 1 (.root (.basic "A")))
      (selfFed.nodeOf 0 (.provider selfFeeding)) :=
    ReflTransGen.single ⟨hnode, hroot, .basic "A", List.mem_cons_self, hsupplies⟩
  exact ⟨hself, hneeded, hneeded⟩

/-- The self-feeding provider has no build order. -/
theorem buildOrder_spec_selfFed :
    ∃ cycle, (buildOrder.run.run selfFed).1 = .error (.cyclicDependency cycle) :=
  ((Reachable.buildOrder_spec (c := selfFed) ⟨"run", 0, _, rfl⟩).2
    (selfFed.nodeOf 1 (.root (.basic "A"))) rfl).2.1.mpr ⟨_, TransGen.single within_selfFed⟩

/-- The cycle that is reported in place of a build order is a loop, and the root needs all its
nodes. -/
theorem isLoop_of_cyclicDependency (hc : c.withMissing.Consistent) {cycle : List Node}
    (hcycle : (buildOrder.run.run c).1 = .error (.cyclicDependency cycle)) :
    c.withMissing.IsLoop cycle ∧
      ∃ r, c.root? = some r ∧ ∀ n ∈ cycle, TransGen c.withMissing.Link n r := by
  cases hr : c.root? with
  | none =>
    rw [buildOrder_run, hr] at hcycle
    simp at hcycle
  | some r =>
    have hneeded := mirrors_neededGraph hc (mem_members_withMissing (root?_spec hr).1)
    rcases buildOrder_cases hc hr with ⟨hne, hrun⟩ | ⟨-, ids, -, hrun⟩
    · rw [hrun] at hcycle
      obtain rfl : c.withMissing.nodesOf (c.withMissing.neededGraph r).findCycle = cycle := by
        simpa using hcycle
      have hfound := Digraph.isCycle_findCycle hne
      refine ⟨hneeded.isLoop hfound, r, rfl, ?_⟩
      intro n hn
      -- The path from the node back to itself starts with an edge in what the root needs.
      obtain ⟨m, ⟨hlink, -, hm⟩, -⟩ := TransGen.head'_iff.mp (hneeded.transGen_self hfound hn)
      exact TransGen.head' hlink hm
    · rw [hrun] at hcycle
      simp at hcycle

/-- A search for a cycle answers with nothing exactly if there is none, and otherwise with a loop
of provider nodes. So is the cycle that is reported in place of a build order, and the root needs
all its nodes. -/
theorem Reachable.findCycle_spec (h : Reachable c) :
    (findCycle.run c).2 = c.withMissing ∧
    ((findCycle.run c).1 = [] ↔ ¬ ∃ n, TransGen c.withMissing.Link n n) ∧
    ((findCycle.run c).1 ≠ [] → c.withMissing.IsLoop (findCycle.run c).1) ∧
    ∀ cycle, (buildOrder.run.run c).1 = .error (.cyclicDependency cycle) →
      c.withMissing.IsLoop cycle ∧
        ∃ r, c.root? = some r ∧ ∀ n ∈ cycle, TransGen c.withMissing.Link n r := by
  have hc : c.withMissing.Consistent := h.withMissing.consistent
  have hmirrors := mirrors_digraph hc
  have htails : ∀ u v, c.withMissing.digraph.HasArc u v → u ∈ c.withMissing.digraph.vertices :=
    fun u v harc => mem_digraph_vertices hc harc
  have hrun : (findCycle.run c).1 =
      c.withMissing.nodesOf c.withMissing.digraph.findCycle := rfl
  have hloop : c.withMissing.digraph.findCycle ≠ [] → c.withMissing.IsLoop (findCycle.run c).1 := by
    intro hne
    rw [hrun]
    exact hmirrors.isLoop (Digraph.isCycle_findCycle hne)
  have hnil : (findCycle.run c).1 = [] ↔ c.withMissing.digraph.findCycle = [] := by
    constructor
    · intro hnodes
      by_contra hne
      exact (hloop hne).ne_nil hnodes
    · intro hids
      rw [hrun, hids]
      rfl
  refine ⟨rfl, ?_, ?_, fun cycle => isLoop_of_cyclicDependency hc⟩
  · rw [hnil, Digraph.findCycle_eq_nil_iff htails, hmirrors.acyclic_iff]
  · intro hne
    exact hloop fun hids => hne (hnil.mpr hids)

/-- The self-feeding provider is found to be on a cycle. -/
theorem findCycle_spec_selfFed : (findCycle.run selfFed).1 ≠ [] := by
  intro hnil
  obtain ⟨-, hiff, -, -⟩ := Reachable.findCycle_spec (c := selfFed) ⟨"run", 0, _, rfl⟩
  exact hiff.mp hnil ⟨_, TransGen.single within_selfFed.1⟩

end Wiring.Container
