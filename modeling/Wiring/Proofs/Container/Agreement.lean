import Mathlib.Data.List.TFAE
import Mathlib.Data.Set.Card
import Mathlib.Tactic.TFAE
import Wiring.Proofs.Container.Edges

/-!
# All answers about edges agree

`EdgesAgree` collects what the queries about the edges between some nodes have to do with each
other, and `Reachable.edgesAgree` says that they do in every reachable container, about the nodes
made so far as well as about all nodes. The number of edges is that of the pairs with an edge
(`sum_length_eq_ncard`), whichever end they are counted from.
-/

namespace Wiring.Container

variable {c : Container} {u v n : Node} {t : TypeKey}

/-! ## The whole graph -/

/-- The graph has an entry for each node and each of its successors, with the edge between them. -/
theorem mem_edgesFrom_iff {ns : List Node} {e : Option Edge} :
    (u, v, e) ∈ c.edgesFrom ns ↔ u ∈ ns ∧ v ∈ c.successors u ∧ e = c.edge? u v := by
  unfold edgesFrom
  simp only [List.mem_flatMap, List.mem_map, Prod.mk.injEq]
  constructor
  · rintro ⟨_, hu, _, hv, rfl, rfl, rfl⟩
    exact ⟨hu, hv, rfl⟩
  · rintro ⟨hu, hv, rfl⟩
    exact ⟨u, hu, v, hv, rfl, rfl, rfl⟩

/-- Nodes in ascending order are distinct. -/
theorem nodup_of_pairwise_lt {ns : List Node} (h : ns.Pairwise fun m n => m.id < n.id) :
    ns.Nodup :=
  h.imp fun hlt heq => absurd (congrArg Node.id heq) hlt.ne

/-- Counting partners node by node counts the pairs of a relation. -/
theorem sum_length_eq_ncard {ns : List Node} {f : Node → List Node} {R : Node → Node → Prop}
    (hns : ns.Nodup) (hf : ∀ m ∈ ns, (f m).Nodup) (hR : ∀ m n, R m n ↔ m ∈ ns ∧ n ∈ f m) :
    (ns.map fun m => (f m).length).sum = {p : Node × Node | R p.1 p.2}.ncard := by
  classical
  -- The pairs in the order in which they are counted.
  let pairs := ns.flatMap fun m => (f m).map fun n => (m, n)
  have hnodup : pairs.Nodup := by
    rw [List.nodup_flatMap]
    constructor
    · intro m hm
      exact (hf m hm).map (Prod.mk_right_injective m)
    · -- Pairs of different rows differ in the first node.
      refine hns.imp ?_
      intro m m' hne p hp hp'
      obtain ⟨n, -, rfl⟩ := List.mem_map.mp hp
      obtain ⟨n', -, heq⟩ := List.mem_map.mp hp'
      exact hne (congrArg Prod.fst heq).symm
  have hset : {p : Node × Node | R p.1 p.2} = pairs.toFinset := by
    ext ⟨m, n⟩
    simp [pairs, hR]
  rw [hset, Set.ncard_coe_finset, List.toFinset_card_of_nodup hnodup, List.length_flatMap]
  simp only [List.length_map]

/-- The pairs of a relation are as many as those of its converse. -/
theorem ncard_swap (R : Node → Node → Prop) :
    {p : Node × Node | R p.2 p.1}.ncard = {p : Node × Node | R p.1 p.2}.ncard := by
  have himage : Prod.swap '' {p : Node × Node | R p.1 p.2} = {p : Node × Node | R p.2 p.1} := by
    rw [Set.image_swap_eq_preimage_swap]
    rfl
  rw [← himage, Set.ncard_image_of_injective _ Prod.swap_injective]

/-! ## All answers agree -/

/-- The answers that a container gives about the edges between the nodes of a list agree. -/
structure EdgesAgree (c : Container) (ns : List Node) : Prop where
  /-- All ways to ask whether an edge leads from one node to another have the same answer: it does
  if some type that the one provides is required by the other. -/
  views : ∀ u ∈ ns, ∀ v ∈ ns,
    [v ∈ c.successors u, u ∈ ((predecessors v).run c).1, c.hasEdgeFromTo u v = true,
      c.edge? u v ≠ none, ∃ e, (u, v, e) ∈ (graph.run c).1.2,
      ∃ t ∈ c.provides u, v.requires.contains t = true, c.Link u v].TFAE
  /-- The missing node provides what some node requires and no other node provides. -/
  missing : ∀ u ∈ ns, u.role.isMissing = true → ∀ t,
    (c.provides u).contains t = true ↔
      (∃ v ∈ ns, v.requires.contains t = true) ∧
        ¬ ∃ w ∈ ns, w.role.isMissing = false ∧ (c.provides w).contains t = true
  /-- An edge joins the nodes it was asked for, and its types are those that the one provides and
  the other requires, each once. -/
  edge : ∀ u ∈ ns, ∀ v ∈ ns, ∀ e, c.edge? u v = some e →
    e.source = u ∧ e.target = v ∧ (e.types.Pairwise fun s t => (s == t) = false) ∧
      ∀ t, e.types.contains t = true ↔
        (c.provides u).contains t = true ∧ v.requires.contains t = true
  /-- Successors ascend strictly. -/
  successors : ∀ u ∈ ns, (c.successors u).Pairwise fun m n => m.id < n.id
  /-- Predecessors ascend strictly. -/
  predecessors : ∀ v ∈ ns, ((predecessors v).run c).1.Pairwise fun m n => m.id < n.id

/-- The answers about all nodes of a consistent container agree. -/
theorem Consistent.edgesAgree_members (hc : c.Consistent) : c.EdgesAgree c.members := by
  refine {
    views := ?views
    missing := ?missing
    edge := ?edge
    successors := fun u _ => pairwise_successors c u
    predecessors := fun v hv => pairwise_predecessors hv }
  case views =>
    -- Each way to ask comes to `Link`.
    intro u hu v hv
    have hsuccessors : v ∈ c.successors u ↔ c.Link u v := mem_successors_iff hc hu
    have hpredecessors : u ∈ ((Container.predecessors v).run c).1 ↔ c.Link u v :=
      mem_predecessors_iff hc hu hv
    have hconnecting : c.connectingTypes u v ≠ [] ↔ c.Link u v :=
      connectingTypes_ne_nil_iff hc hu hv
    have hfromTo : c.hasEdgeFromTo u v = true ↔ c.Link u v := by
      rw [← hconnecting, hasEdgeFromTo]
      simp
    have hedge : c.edge? u v ≠ none ↔ c.Link u v := by rw [edge?_ne_none_iff, hconnecting]
    have hgraph : (∃ e, (u, v, e) ∈ (graph.run c).1.2) ↔ c.Link u v := by
      show (∃ e, (u, v, e) ∈ c.withMissing.edgesFrom c.withMissing.members) ↔ c.Link u v
      have hu' : u ∈ c.withMissing.members := mem_members_withMissing hu
      simp only [mem_edgesFrom_iff, exists_and_left, exists_eq, and_true, hu', true_and]
      rw [mem_successors_iff (hc.grows (grows_withMissing c)) hu', link_withMissing_iff hu hv]
    have hprovides : (∃ t ∈ c.provides u, v.requires.contains t = true) ↔ c.Link u v := by
      rw [exists_provides_iff hc, Link]
      simp only [hu, hv, true_and]
    rw [hsuccessors, hpredecessors, hfromTo, hedge, hgraph, hprovides]
    tfae_finish
  case missing =>
    intro u hu hmissing t
    rw [contains_provides_iff hc, supplies_iff_of_isMissing hmissing]
    refine and_congr ?_ (not_congr ?_)
    · exact exists_mem_members_iff.symm
    · -- What a node other than the missing one provides it provides of itself.
      rw [Provided, ← exists_mem_members_iff]
      refine exists_congr fun w => and_congr_right fun _ => ?_
      rw [contains_provides_iff hc]
      cases hw : w.role.isMissing with
      | true => simp [Role.provides_of_isMissing hw]
      | false => simp [supplies_iff_of_not_isMissing hw]
  case edge =>
    intro u hu v hv e he
    obtain ⟨-, rfl⟩ := edge?_eq_some_iff.mp he
    refine ⟨rfl, rfl, ?_, ?_⟩
    · rw [connectingTypes_eq hc hu hv]
      exact (TypeKey.pairwise_distinct _).filter _
    · intro t
      rw [contains_provides_iff hc]
      exact contains_connectingTypes_iff hc hu hv

/-- In a consistent container the successors of the nodes are as many as the edges. -/
theorem Consistent.sum_successors (hc : c.Consistent) :
    (c.members.map fun u => (c.successors u).length).sum =
      {p : Node × Node | c.Link p.1 p.2}.ncard := by
  apply sum_length_eq_ncard (nodup_of_pairwise_lt (pairwise_members c))
  · intro u _
    exact nodup_of_pairwise_lt (pairwise_successors c u)
  · intro u v
    constructor
    · intro h
      exact ⟨h.1, (mem_successors_iff hc h.1).mpr h⟩
    · rintro ⟨hu, hv⟩
      exact (mem_successors_iff hc hu).mp hv

/-- Once the missing node is made, asking for predecessors changes nothing. -/
theorem predecessors_withMissing (hv : v ∈ c.withMissing.members) :
    (predecessors v).run c.withMissing =
      (c.withMissing.nodesOf (ascending (c.withMissing.sources v)), c.withMissing) := by
  rw [predecessors_run _ v (has_of_mem_members hv), withMissing_withMissing]
  split
  · rfl
  · rfl

/-- In a consistent container with a missing node the predecessors of the nodes are as many as the
edges. -/
theorem Consistent.sum_predecessors (hc : c.withMissing.Consistent) :
    (c.withMissing.members.map fun v =>
      ((predecessors v).run c.withMissing).1.length).sum =
      {p : Node × Node | c.withMissing.Link p.1 p.2}.ncard := by
  rw [← ncard_swap]
  apply sum_length_eq_ncard (R := fun v u => c.withMissing.Link u v)
    (nodup_of_pairwise_lt (pairwise_members _))
  · intro v hv
    exact nodup_of_pairwise_lt (pairwise_predecessors hv)
  · intro v u
    constructor
    · intro h
      exact ⟨h.2.1, (mem_predecessors_iff hc h.1 h.2.1).mpr h⟩
    · rintro ⟨hv, hu⟩
      rw [predecessors_withMissing hv] at hu
      exact (mem_nodesOf_sources_iff hc hv).mp hu

/-- In every reachable container the answers about the edges agree, about the nodes made so far as
well as about all nodes. The number of edges is that of the pairs of nodes of which the one provides
what the other requires, counted in all or from either end, and every entry of the graph holds an
edge. -/
theorem Reachable.edgesAgree {c' : Container} {ns : List Node} (h : Reachable c)
    (hrun : nodes.run c = (ns, c')) :
    c.EdgesAgree c.members ∧ c'.EdgesAgree ns ∧
      (edgeCount.run c).1 =
        {p : Node × Node | p.1 ∈ ns ∧ p.2 ∈ ns ∧
          ∃ t ∈ c'.provides p.1, p.2.requires.contains t = true}.ncard ∧
      (edgeCount.run c).1 = (ns.map fun u => (c'.successors u).length).sum ∧
      (edgeCount.run c).1 = (ns.map fun v => ((Container.predecessors v).run c').1.length).sum ∧
      (graph.run c).1.1 = ns ∧ ∀ entry ∈ (graph.run c).1.2, entry.2.2.isSome = true := by
  -- Asking for all nodes makes the missing node and nothing else.
  obtain ⟨rfl, rfl⟩ : c.withMissing.members = ns ∧ c.withMissing = c' := Prod.mk.inj hrun
  have hc : c.Consistent := h.consistent
  have hc' : c.withMissing.Consistent := hc.grows (grows_withMissing c)
  have hcount : (edgeCount.run c).1 =
      (c.withMissing.members.map fun u => (c.withMissing.successors u).length).sum := by
    rw [List.sum_eq_foldl, List.foldl_map]
    rfl
  have hpairs : {p : Node × Node | p.1 ∈ c.withMissing.members ∧ p.2 ∈ c.withMissing.members ∧
      ∃ t ∈ c.withMissing.provides p.1, p.2.requires.contains t = true} =
        {p : Node × Node | c.withMissing.Link p.1 p.2} := by
    ext p
    rw [Set.mem_ofPred, Set.mem_ofPred, exists_provides_iff hc', Link]
  refine ⟨hc.edgesAgree_members, hc'.edgesAgree_members, ?_, hcount, ?_, rfl, ?_⟩
  · rw [hcount, hpairs, hc'.sum_successors]
  · rw [hcount, hc'.sum_successors, hc'.sum_predecessors]
  · -- An entry stands for a successor, and an edge leads to every successor.
    rintro ⟨u, v, e⟩ hentry
    obtain ⟨hu, hv, rfl⟩ := mem_edgesFrom_iff.mp hentry
    have hlink : c.withMissing.Link u v := (mem_successors_iff hc' hu).mp hv
    rw [Option.isSome_iff_ne_none, edge?_ne_none_iff, connectingTypes_ne_nil_iff hc' hu hlink.2.1]
    exact hlink

/-- A provider that requires what it provides and a type that nobody provides. -/
def selfFeeding : Provider :=
  { name := "f", params := [.basic "A", .basic "B"], results := [.basic "A"] }

/-- A container of a self-feeding provider and a root that requires it. -/
def selfFed : Container := (new "run" 0).after [.addProvider selfFeeding, .setRoot (.basic "A")]

/-- The answers agree for a graph with a self-loop and an unmet requirement. -/
theorem edgesAgree_selfFed : (nodes.run selfFed).2.EdgesAgree (nodes.run selfFed).1 :=
  (Reachable.edgesAgree (c := selfFed) ⟨"run", 0, _, rfl⟩ rfl).2.1

end Wiring.Container
