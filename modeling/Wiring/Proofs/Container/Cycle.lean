import Wiring.Proofs.Container.Edges
import Wiring.Proofs.Digraph.Search

/-!
# Cycles of a container

The graph that a container searches has the numbers of the nodes as vertices. `Mirrors` says that
such a graph stands for a relation between the nodes; paths and cycles of the one are then paths and
cycles of the other (`Mirrors.transGen_iff`, `Mirrors.isLoop`). Both graphs that are searched mirror
a relation: the whole graph `Link` (`mirrors_digraph`), and the part that leads to the root `Within`
(`mirrors_neededGraph`).

A cycle of such a graph is a loop of provider nodes, since no edge leads to the missing node and
none leaves the root (`isProvider_of_link`).
-/

namespace Wiring.Container

open Relation

variable {c : Container} {g : Digraph} {S : Node → Node → Prop} {u v n r : Node} {i j : Nat}

/-! ## Relations between nodes as graphs on numbers -/

/-- The graph on numbers stands for a relation between nodes: its arcs join the numbers of related
nodes, and all these have an edge. -/
structure Mirrors (c : Container) (g : Digraph) (S : Node → Node → Prop) : Prop where
  /-- An arc joins the numbers of two related nodes. -/
  hasArc_iff : ∀ i j, g.HasArc i j ↔ ∃ u v, c.node? i = some u ∧ c.node? j = some v ∧ S u v
  /-- Related nodes have an edge. -/
  link : ∀ u v, S u v → c.Link u v

/-- A node of the container is the one with its number. -/
theorem node?_toNat (h : n ∈ c.members) : c.node? n.id.toNat = some n := by
  obtain ⟨i, hn⟩ := mem_members_iff.mp h
  rwa [id_eq_of_node? hn, Int.toNat_natCast]

/-- The number of a node is the one it is found by. -/
theorem toNat_of_node? (h : c.node? i = some n) : n.id.toNat = i := by
  rw [id_eq_of_node? h, Int.toNat_natCast]

/-- Two nodes of the container with the same number are one. -/
theorem eq_of_toNat_eq (hu : u ∈ c.members) (hv : v ∈ c.members)
    (h : u.id.toNat = v.id.toNat) : u = v := by
  have hu' := node?_toNat hu
  rw [h, node?_toNat hv] at hu'
  exact (Option.some.inj hu').symm

/-- Between the numbers of two nodes there is an arc exactly if the nodes are related. -/
theorem Mirrors.hasArc_iff_of_node? (h : c.Mirrors g S) (hu : c.node? i = some u)
    (hv : c.node? j = some v) : g.HasArc i j ↔ S u v := by
  rw [h.hasArc_iff]
  constructor
  · rintro ⟨u', v', hu', hv', hS⟩
    rw [hu, Option.some.injEq] at hu'
    rw [hv, Option.some.injEq] at hv'
    rwa [hu', hv']
  · intro hS
    exact ⟨u, v, hu, hv, hS⟩

/-- Paths between numbers are paths between the nodes. -/
theorem Mirrors.transGen_iff (h : c.Mirrors g S) (hu : c.node? i = some u)
    (hv : c.node? j = some v) : TransGen g.HasArc i j ↔ TransGen S u v := by
  constructor
  · -- Every number on the path is that of a node, since arcs join numbers of nodes.
    intro hpath
    induction hpath generalizing v with
    | single harc => exact TransGen.single ((h.hasArc_iff_of_node? hu hv).mp harc)
    | @tail b j _ harc ih =>
      obtain ⟨w, -, hw, -, -⟩ := (h.hasArc_iff b j).mp harc
      exact (ih hw).tail ((h.hasArc_iff_of_node? hw hv).mp harc)
  · intro hpath
    have harcs : ∀ a b, S a b → g.HasArc a.id.toNat b.id.toNat := by
      intro a b hab
      obtain ⟨ha, hb, -⟩ := h.link a b hab
      exact (h.hasArc_iff _ _).mpr ⟨a, b, node?_toNat ha, node?_toNat hb, hab⟩
    have hlift : TransGen g.HasArc u.id.toNat v.id.toNat := hpath.lift _ harcs
    rwa [toNat_of_node? hu, toNat_of_node? hv] at hlift

/-- Paths between numbers, possibly empty, are paths between the nodes. -/
theorem Mirrors.reflTransGen_iff (h : c.Mirrors g S) (hu : c.node? i = some u)
    (hv : c.node? j = some v) : ReflTransGen g.HasArc i j ↔ ReflTransGen S u v := by
  have heq : j = i ↔ v = u := by
    constructor
    · rintro rfl
      rw [hu, Option.some.injEq] at hv
      exact hv.symm
    · rintro rfl
      rw [← toNat_of_node? hu, ← toNat_of_node? hv]
  rw [reflTransGen_iff_eq_or_transGen, reflTransGen_iff_eq_or_transGen, heq, h.transGen_iff hu hv]

/-- The tail of an arc is the number of a node. -/
theorem Mirrors.exists_node?_of_reaches (h : c.Mirrors g S) (hpath : g.Reaches i j) :
    ∃ u, c.node? i = some u := by
  cases hpath with
  | arc harc =>
    obtain ⟨u, -, hu, -, -⟩ := (h.hasArc_iff _ _).mp harc
    exact ⟨u, hu⟩
  | step harc _ =>
    obtain ⟨u, -, hu, -, -⟩ := (h.hasArc_iff _ _).mp harc
    exact ⟨u, hu⟩

/-- The graph is acyclic exactly if no node reaches itself. -/
theorem Mirrors.acyclic_iff (h : c.Mirrors g S) : g.Acyclic ↔ ¬ ∃ n, TransGen S n n := by
  constructor
  · rintro hacyclic ⟨n, hself⟩
    obtain ⟨m, hlink, -⟩ := TransGen.head'_iff.mp hself
    have hn := node?_toNat (h.link n m hlink).1
    exact hacyclic _ (Digraph.reaches_iff_transGen.mpr ((h.transGen_iff hn hn).mpr hself))
  · intro hnone i hself
    obtain ⟨n, hn⟩ := h.exists_node?_of_reaches hself
    exact hnone ⟨n, (h.transGen_iff hn hn).mp (Digraph.reaches_iff_transGen.mp hself)⟩

/-! ## Loops -/

/-- Distinct provider nodes in a row, each with an edge to the next and the last with an edge to the
first. -/
structure IsLoop (c : Container) (ns : List Node) : Prop where
  /-- There is a node. -/
  ne_nil : ns ≠ []
  /-- No node comes twice. -/
  nodup : ns.Nodup
  /-- All nodes stand for providers. -/
  isProvider : ∀ n ∈ ns, n.role.isProvider = true
  /-- Each node has an edge to the next, when the first is put after the last. -/
  isChain : (ns ++ ns.take 1).IsChain c.Link

/-- A node with edges into it and out of it stands for a provider: nothing leads to the missing
node, and nothing leaves the root. -/
theorem isProvider_of_link (hin : c.Link u n) (hout : c.Link n v) :
    n.role.isProvider = true := by
  obtain ⟨-, -, t, ht, -⟩ := hin
  obtain ⟨-, -, t', -, hsupplies⟩ := hout
  unfold Node.requires at ht
  unfold Supplies at hsupplies
  cases hrole : n.role with
  | provider p => rfl
  | root type =>
    rw [hrole] at hsupplies
    exact absurd hsupplies (by simp [Role.provides])
  | missing =>
    rw [hrole] at ht
    exact absurd ht (by simp [Role.requires])

/-- Numbers in range are those of the nodes they stand for. -/
theorem map_toNat_nodesOf {ids : List Nat} (h : ∀ i ∈ ids, ∃ n, c.node? i = some n) :
    (c.nodesOf ids).map (·.id.toNat) = ids := by
  unfold nodesOf
  induction ids with
  | nil => rfl
  | cons i ids ih =>
    obtain ⟨n, hn⟩ := h i List.mem_cons_self
    rw [List.filterMap_cons_some hn, List.map_cons, toNat_of_node? hn,
      ih fun j hj => h j (List.mem_cons_of_mem i hj)]

/-- What numbers stand for are nodes of the container. -/
theorem mem_members_of_mem_nodesOf {ids : List Nat} (h : n ∈ c.nodesOf ids) : n ∈ c.members := by
  obtain ⟨i, -, hn⟩ := mem_nodesOf_iff.mp h
  exact mem_members_iff.mpr ⟨i, hn⟩

/-- Every node of a cycle reaches itself. -/
theorem Mirrors.transGen_self (h : c.Mirrors g S) {vs : List Nat} (hcycle : g.IsCycle vs)
    (hn : n ∈ c.nodesOf vs) : TransGen S n n := by
  obtain ⟨i, hi, hn⟩ := mem_nodesOf_iff.mp hn
  exact (h.transGen_iff hn hn).mp (Digraph.reaches_iff_transGen.mp (hcycle.reaches_self hi))

/-- The nodes of a cycle form a loop. -/
theorem Mirrors.isLoop (h : c.Mirrors g S) {vs : List Nat} (hcycle : g.IsCycle vs) :
    c.IsLoop (c.nodesOf vs) := by
  have hnumbers : (c.nodesOf vs).map (·.id.toNat) = vs :=
    map_toNat_nodesOf fun i hi => h.exists_node?_of_reaches (hcycle.reaches_self hi)
  refine {
    ne_nil := ?ne_nil
    nodup := ?nodup
    isProvider := ?isProvider
    isChain := ?isChain }
  case ne_nil =>
    -- Each number of the cycle has a node, so there are as many nodes as numbers.
    intro hnil
    rw [hnil] at hnumbers
    exact hcycle.ne_nil hnumbers.symm
  case nodup =>
    have hnodup : ((c.nodesOf vs).map (·.id.toNat)).Nodup := by
      rw [hnumbers]
      exact hcycle.nodup
    exact List.Nodup.of_map _ hnodup
  case isProvider =>
    -- A node on a cycle has an edge out of it and one into it.
    intro n hn
    have hself := h.transGen_self hcycle hn
    obtain ⟨v, hout, -⟩ := TransGen.head'_iff.mp hself
    obtain ⟨u, -, hin⟩ := TransGen.tail'_iff.mp hself
    exact isProvider_of_link (h.link u n hin) (h.link n v hout)
  case isChain =>
    have harcs : ((c.nodesOf vs ++ (c.nodesOf vs).take 1).map (·.id.toNat)).IsChain g.HasArc := by
      rw [List.map_append, List.map_take, hnumbers]
      exact hcycle.isChain
    rw [List.isChain_map] at harcs
    have hmembers : ∀ m ∈ c.nodesOf vs ++ (c.nodesOf vs).take 1, m ∈ c.members := by
      intro m hm
      rcases List.mem_append.mp hm with hm | hm
      · exact mem_members_of_mem_nodesOf hm
      · exact mem_members_of_mem_nodesOf (List.mem_of_mem_take hm)
    -- Between numbers of nodes an arc is an edge.
    refine harcs.imp_of_mem_imp ?_
    intro a b ha hb harc
    have ha := node?_toNat (hmembers a ha)
    have hb := node?_toNat (hmembers b hb)
    exact h.link a b ((h.hasArc_iff_of_node? ha hb).mp harc)

/-! ## The graphs that are searched -/

/-- The graph of all nodes mirrors the edges. -/
theorem mirrors_digraph (hc : c.Consistent) : c.Mirrors c.digraph c.Link where
  hasArc_iff i j := by
    unfold digraph Digraph.HasArc
    rw [List.mem_flatMap]
    constructor
    · rintro ⟨i', -, harc⟩
      cases hu : c.node? i' with
      | none =>
        rw [hu] at harc
        simp at harc
      | some u =>
        rw [hu] at harc
        obtain ⟨v, hv, heq⟩ := List.mem_map.mp harc
        obtain ⟨rfl, rfl⟩ := Prod.mk.inj heq
        have hlink := (mem_successors_iff hc (mem_members_iff.mpr ⟨_, hu⟩)).mp hv
        exact ⟨u, v, hu, node?_toNat hlink.2.1, hlink⟩
    · rintro ⟨u, v, hu, hv, hlink⟩
      refine ⟨i, List.mem_range.mpr (lt_of_node? hu), ?_⟩
      rw [hu]
      exact List.mem_map.mpr ⟨v, (mem_successors_iff hc hlink.1).mpr hlink, by
        rw [toNat_of_node? hv]⟩
  link _ _ h := h

/-- From the node a path of edges, possibly empty, leads to `r`. -/
def Needed (c : Container) (r n : Node) : Prop := ReflTransGen c.Link n r

/-- An edge of the part of the graph that leads to `r`. -/
def Within (c : Container) (r u v : Node) : Prop := c.Link u v ∧ c.Needed r u ∧ c.Needed r v

/-- The part of the graph that leads to a node. -/
def neededGraph (c : Container) (r : Node) : Digraph := c.digraph.leadingTo r.id.toNat

/-- The graph of what leads to a node mirrors the edges of that part. -/
theorem mirrors_neededGraph (hc : c.Consistent) (hr : r ∈ c.members) :
    c.Mirrors (c.neededGraph r) (c.Within r) where
  hasArc_iff i j := by
    have hgraph := mirrors_digraph hc
    rw [neededGraph, Digraph.leadingTo_hasArc_iff, hgraph.hasArc_iff]
    constructor
    · -- If the head of an edge is needed, so is its tail.
      rintro ⟨⟨u, v, hu, hv, hlink⟩, hpath⟩
      have hneeded : c.Needed r v := (hgraph.reflTransGen_iff hv (node?_toNat hr)).mp hpath
      exact ⟨u, v, hu, hv, hlink, ReflTransGen.head hlink hneeded, hneeded⟩
    · rintro ⟨u, v, hu, hv, hlink, -, hneeded⟩
      exact ⟨⟨u, v, hu, hv, hlink⟩, (hgraph.reflTransGen_iff hv (node?_toNat hr)).mpr hneeded⟩
  link _ _ h := h.1

/-- The tails of all arcs are numbers of nodes. -/
theorem mem_digraph_vertices (hc : c.Consistent) (h : c.digraph.HasArc i j) :
    i ∈ c.digraph.vertices := by
  obtain ⟨u, -, hu, -, -⟩ := ((mirrors_digraph hc).hasArc_iff i j).mp h
  exact List.mem_range.mpr (lt_of_node? hu)

end Wiring.Container
