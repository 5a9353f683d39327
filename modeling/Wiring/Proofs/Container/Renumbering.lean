import Wiring.Proofs.Container.Answers

/-!
# Renumbered graphs

Two containers can hold nodes of the same roles under different numbers. `Renumbers` says of a
relation that it takes the nodes of the one to those of the other, each to one, with the same role.
Roles alone decide what is required, provided and supplied, so edges lead between corresponding
nodes (`Renumbers.link_iff`) and paths between the ends of corresponding paths
(`Renumbers.transGen`).

Hence everything that can be asked of a graph has the same answer up to the correspondence: the
edges with the types they carry, what is unsatisfied, whether there is a cycle, and what becomes of
a build order. `SameGraph` collects these, and `Renumbers.sameGraph` proves them of all consistent
containers with renumbered nodes. What is not the same is the order of the listed nodes and types,
which goes by the numbers.
-/

namespace Wiring.Container

open Relation

variable {c₁ c₂ : Container} {R S₁ S₂ : Node → Node → Prop} {m₁ m₂ n₁ n₂ r₁ r₂ u₁ u₂ v₁ v₂ : Node}
  {t : TypeKey}

/-! ## Corresponding nodes -/

/-- The relation takes the nodes of one container to those of another, each to one, and those of a
role to those of the same role. -/
structure Renumbers (c₁ c₂ : Container) (R : Node → Node → Prop) : Prop where
  /-- What corresponds to something is a node of the one container. -/
  mem_left : ∀ {n₁ n₂}, R n₁ n₂ → n₁ ∈ c₁.members
  /-- What something corresponds to is a node of the other. -/
  mem_right : ∀ {n₁ n₂}, R n₁ n₂ → n₂ ∈ c₂.members
  /-- Every node of the one corresponds to a node. -/
  left : ∀ n₁ ∈ c₁.members, ∃ n₂, R n₁ n₂
  /-- A node corresponds to every node of the other. -/
  right : ∀ n₂ ∈ c₂.members, ∃ n₁, R n₁ n₂
  /-- No node corresponds to two, and no two nodes to one. -/
  biUnique : Relator.BiUnique R
  /-- Corresponding nodes have the same role. -/
  role_eq : ∀ {n₁ n₂}, R n₁ n₂ → n₁.role = n₂.role

namespace Renumbers

/-- Two containers can be compared from either side. -/
theorem symm (h : c₁.Renumbers c₂ R) : c₂.Renumbers c₁ (flip R) where
  mem_left := h.mem_right
  mem_right := h.mem_left
  left := h.right
  right := h.left
  biUnique := ⟨fun _ _ _ hn hm => h.biUnique.2 hn hm, fun _ _ _ hn hm => h.biUnique.1 hn hm⟩
  role_eq hn := (h.role_eq hn).symm

/-- Both containers have a role with a property, or neither has. -/
theorem exists_role_iff (h : c₁.Renumbers c₂ R) (p : Role → Prop) :
    (∃ r ∈ c₁.roles, p r) ↔ ∃ r ∈ c₂.roles, p r := by
  rw [← exists_mem_members_iff, ← exists_mem_members_iff]
  constructor
  · rintro ⟨n₁, hn₁, hp⟩
    obtain ⟨n₂, hn⟩ := h.left n₁ hn₁
    exact ⟨n₂, h.mem_right hn, by rwa [← h.role_eq hn]⟩
  · rintro ⟨n₂, hn₂, hp⟩
    obtain ⟨n₁, hn⟩ := h.right n₂ hn₂
    exact ⟨n₁, h.mem_left hn, by rwa [h.role_eq hn]⟩

/-- The same types are required. -/
theorem required_iff (h : c₁.Renumbers c₂ R) : c₁.Required t ↔ c₂.Required t :=
  h.exists_role_iff _

/-- The same types are provided. -/
theorem provided_iff (h : c₁.Renumbers c₂ R) : c₁.Provided t ↔ c₂.Provided t :=
  h.exists_role_iff _

/-- Corresponding nodes require the same. -/
theorem requires_eq (h : c₁.Renumbers c₂ R) (hn : R n₁ n₂) : n₁.requires = n₂.requires := by
  unfold Node.requires
  rw [h.role_eq hn]

/-- Corresponding nodes supply the same types. -/
theorem supplies_iff (h : c₁.Renumbers c₂ R) (hu : R u₁ u₂) :
    c₁.Supplies u₁ t ↔ c₂.Supplies u₂ t := by
  unfold Supplies
  rw [← h.role_eq hu]
  cases u₁.role with
  | provider p => exact Iff.rfl
  | root type => exact Iff.rfl
  | missing => exact and_congr h.required_iff (not_congr h.provided_iff)

/-- Edges correspond to edges. -/
theorem link_iff (h : c₁.Renumbers c₂ R) (hu : R u₁ u₂) (hv : R v₁ v₂) :
    c₁.Link u₁ v₁ ↔ c₂.Link u₂ v₂ := by
  have hmem : (u₁ ∈ c₁.members ∧ v₁ ∈ c₁.members) ↔ (u₂ ∈ c₂.members ∧ v₂ ∈ c₂.members) :=
    iff_of_true ⟨h.mem_left hu, h.mem_left hv⟩ ⟨h.mem_right hu, h.mem_right hv⟩
  unfold Link
  rw [← and_assoc, ← and_assoc, hmem, h.requires_eq hv]
  simp only [h.supplies_iff hu]

/-! ### Paths -/

/-- A path corresponds to a path if its steps correspond to steps. -/
theorem transGen (h : c₁.Renumbers c₂ R) (hmem : ∀ u v, S₁ u v → u ∈ c₁.members)
    (hstep : ∀ {u₁ u₂ v₁ v₂}, R u₁ u₂ → R v₁ v₂ → S₁ u₁ v₁ → S₂ u₂ v₂) (hm : R m₁ m₂)
    (hn : R n₁ n₂) (hpath : TransGen S₁ m₁ n₁) : TransGen S₂ m₂ n₂ := by
  induction hpath generalizing n₂ with
  | single hfirst => exact TransGen.single (hstep hm hn hfirst)
  | tail _ hlast ih =>
    obtain ⟨k₂, hk⟩ := h.left _ (hmem _ _ hlast)
    exact (ih hk).tail (hstep hk hn hlast)

/-- A path from a node to itself corresponds to one. -/
theorem exists_loop (h : c₁.Renumbers c₂ R) (hmem : ∀ u v, S₁ u v → u ∈ c₁.members)
    (hstep : ∀ {u₁ u₂ v₁ v₂}, R u₁ u₂ → R v₁ v₂ → S₁ u₁ v₁ → S₂ u₂ v₂)
    (hloop : ∃ n, TransGen S₁ n n) : ∃ n, TransGen S₂ n n := by
  obtain ⟨n₁, hself⟩ := hloop
  obtain ⟨m₁, hfirst, -⟩ := TransGen.head'_iff.mp hself
  obtain ⟨n₂, hn⟩ := h.left n₁ (hmem _ _ hfirst)
  exact ⟨n₂, h.transGen hmem hstep hn hn hself⟩

/-- What corresponds to a node needs what corresponds to what it needs. -/
theorem needed (h : c₁.Renumbers c₂ R) (hr : R r₁ r₂) (hn : R n₁ n₂) (hneeded : c₁.Needed r₁ n₁) :
    c₂.Needed r₂ n₂ := by
  rcases reflTransGen_iff_eq_or_transGen.mp hneeded with heq | hpath
  · subst heq
    rw [h.biUnique.2 hn hr]
    exact ReflTransGen.refl
  · have hmapped : TransGen c₂.Link n₂ r₂ :=
      h.transGen (fun _ _ hlink => hlink.1) (fun hu hv => (h.link_iff hu hv).mp) hn hr hpath
    exact hmapped.to_reflTransGen

/-- Corresponding nodes need corresponding nodes. -/
theorem needed_iff (h : c₁.Renumbers c₂ R) (hr : R r₁ r₂) (hn : R n₁ n₂) :
    c₁.Needed r₁ n₁ ↔ c₂.Needed r₂ n₂ :=
  ⟨h.needed hr hn, h.symm.needed hr hn⟩

/-- There is a cycle in both containers or in neither. -/
theorem exists_cycle_iff (h : c₁.Renumbers c₂ R) :
    (∃ n, TransGen c₁.Link n n) ↔ ∃ n, TransGen c₂.Link n n :=
  ⟨h.exists_loop (fun _ _ hlink => hlink.1) fun hu hv => (h.link_iff hu hv).mp,
    h.symm.exists_loop (fun _ _ hlink => hlink.1) fun hu hv => (h.link_iff hu hv).mpr⟩

/-- A cycle of what the one node needs corresponds to a cycle of what the other needs. -/
theorem exists_within (h : c₁.Renumbers c₂ R) (hr : R r₁ r₂)
    (hcycle : ∃ n, TransGen (c₁.Within r₁) n n) : ∃ n, TransGen (c₂.Within r₂) n n := by
  refine h.exists_loop (fun _ _ hwithin => hwithin.1.1) ?_ hcycle
  -- The ends of the edge are needed on the other side too.
  rintro u₁ u₂ v₁ v₂ hu hv ⟨hlink, hu_needed, hv_needed⟩
  exact ⟨(h.link_iff hu hv).mp hlink, h.needed hr hu hu_needed, h.needed hr hv hv_needed⟩

/-- What corresponding nodes need has a cycle on both sides or on neither. -/
theorem exists_within_iff (h : c₁.Renumbers c₂ R) (hr : R r₁ r₂) :
    (∃ n, TransGen (c₁.Within r₁) n n) ↔ ∃ n, TransGen (c₂.Within r₂) n n :=
  ⟨h.exists_within hr, h.symm.exists_within hr⟩

/-! ### Single nodes -/

/-- Of a kind of which there is at most one node, that of the one container corresponds to that of the
other. -/
theorem find?_rel {q : Role → Bool} (h : c₁.Renumbers c₂ R) (hsingle : Single q c₂.roles) :
    Option.Rel R (c₁.members.find? fun n => q n.role) (c₂.members.find? fun n => q n.role) := by
  cases hfind : c₁.members.find? fun n => q n.role with
  | some n₁ =>
    obtain ⟨n₂, hn⟩ := h.left n₁ (List.mem_of_find?_eq_some hfind)
    have hq : q n₁.role = true := List.find?_some (p := fun n : Node => q n.role) hfind
    rw [h.role_eq hn] at hq
    rw [find?_members_eq_some hsingle (h.mem_right hn) hq]
    exact Option.Rel.some hn
  | none =>
    cases hfind' : c₂.members.find? fun n => q n.role with
    | none => exact Option.Rel.none
    | some n₂ =>
      -- What corresponds to it would have been found.
      obtain ⟨n₁, hn⟩ := h.right n₂ (List.mem_of_find?_eq_some hfind')
      have hq : q n₂.role = true := List.find?_some (p := fun n : Node => q n.role) hfind'
      rw [← h.role_eq hn] at hq
      exact absurd hq (List.find?_eq_none.mp hfind n₁ (h.mem_left hn))

end Renumbers

/-! ## Corresponding graphs -/

/-- Two edges join corresponding nodes and carry the same set of types. -/
structure SameEdge (R : Node → Node → Prop) (e₁ e₂ : Edge) : Prop where
  /-- They start at corresponding nodes. -/
  source : R e₁.source e₂.source
  /-- They end at corresponding nodes. -/
  target : R e₁.target e₂.target
  /-- They carry the same set of types. -/
  types : ∀ t, e₁.types.contains t = e₂.types.contains t

/-- Two lists have corresponding nodes. -/
structure SameNodes (R : Node → Node → Prop) (ns₁ ns₂ : List Node) : Prop where
  /-- What the one lists corresponds to what the other lists. -/
  left : ∀ n₁ ∈ ns₁, ∃ n₂ ∈ ns₂, R n₁ n₂
  /-- And the other way round. -/
  right : ∀ n₂ ∈ ns₂, ∃ n₁ ∈ ns₁, R n₁ n₂

/-- Whatever can be asked of the graphs of two containers has the same answer up to the
correspondence, the order of nodes and types aside. -/
structure SameGraph (c₁ c₂ : Container) (R : Node → Node → Prop) : Prop where
  /-- All nodes correspond, the missing node included. -/
  renumbers : c₁.withMissing.Renumbers c₂.withMissing R
  /-- The root corresponds to the root. -/
  root : Option.Rel R c₁.root? c₂.root?
  /-- The missing node corresponds to the missing node. -/
  missing : Option.Rel R c₁.withMissing.missing? c₂.withMissing.missing?
  /-- Edges lead between corresponding nodes and carry the same types. -/
  edge : ∀ u₁ u₂ v₁ v₂, R u₁ u₂ → R v₁ v₂ →
    Option.Rel (SameEdge R) (c₁.withMissing.edge? u₁ v₁) (c₂.withMissing.edge? u₂ v₂)
  /-- The same types are unsatisfied. -/
  unsatisfied : ∀ t, c₁.unsatisfied.contains t = c₂.unsatisfied.contains t
  /-- A cycle is found in both or in neither. -/
  findCycle : (findCycle.run c₁).1 = [] ↔ (findCycle.run c₂).1 = []
  /-- There is no root in both or in neither. -/
  noRoot : (buildOrder.run.run c₁).1 = .error .noRoot ↔ (buildOrder.run.run c₂).1 = .error .noRoot
  /-- A cycle is reported in place of a build order in both or in neither. -/
  cyclic : (∃ cycle, (buildOrder.run.run c₁).1 = .error (.cyclicDependency cycle)) ↔
    ∃ cycle, (buildOrder.run.run c₂).1 = .error (.cyclicDependency cycle)
  /-- There is a build order in both or in neither. -/
  ok : (∃ order, (buildOrder.run.run c₁).1 = .ok order) ↔
    ∃ order, (buildOrder.run.run c₂).1 = .ok order
  /-- Build orders list corresponding nodes. -/
  order : ∀ order₁ order₂, (buildOrder.run.run c₁).1 = .ok order₁ →
    (buildOrder.run.run c₂).1 = .ok order₂ → SameNodes R order₁ order₂

namespace Renumbers

/-- The same types connect corresponding nodes. -/
theorem contains_connectingTypes (h : c₁.Renumbers c₂ R) (hc₁ : c₁.Consistent)
    (hc₂ : c₂.Consistent) (hu : R u₁ u₂) (hv : R v₁ v₂) :
    (c₁.connectingTypes u₁ v₁).contains t = (c₂.connectingTypes u₂ v₂).contains t := by
  rw [Bool.eq_iff_iff, contains_connectingTypes_iff hc₁ (h.mem_left hu) (h.mem_left hv),
    contains_connectingTypes_iff hc₂ (h.mem_right hu) (h.mem_right hv), h.supplies_iff hu,
    h.requires_eq hv]

/-- Edges correspond to edges with the same types. -/
theorem edge?_rel (h : c₁.Renumbers c₂ R) (hc₁ : c₁.Consistent) (hc₂ : c₂.Consistent)
    (hu : R u₁ u₂) (hv : R v₁ v₂) :
    Option.Rel (SameEdge R) (c₁.edge? u₁ v₁) (c₂.edge? u₂ v₂) := by
  have htypes := fun t => h.contains_connectingTypes (t := t) hc₁ hc₂ hu hv
  unfold edge?
  cases hconnecting₁ : c₁.connectingTypes u₁ v₁ with
  | nil =>
    cases hconnecting₂ : c₂.connectingTypes u₂ v₂ with
    | nil => exact Option.Rel.none
    | cons t ts =>
      have ht := htypes t
      rw [hconnecting₁, hconnecting₂] at ht
      simp at ht
  | cons t ts =>
    cases hconnecting₂ : c₂.connectingTypes u₂ v₂ with
    | nil =>
      have ht := htypes t
      rw [hconnecting₁, hconnecting₂] at ht
      simp at ht
    | cons t' ts' =>
      rw [hconnecting₁, hconnecting₂] at htypes
      exact Option.Rel.some ⟨hu, hv, htypes⟩

/-- The same types are unsatisfied. -/
theorem contains_unsatisfied (h : c₁.Renumbers c₂ R) (hc₁ : c₁.Consistent) (hc₂ : c₂.Consistent) :
    c₁.unsatisfied.contains t = c₂.unsatisfied.contains t := by
  rw [Bool.eq_iff_iff, contains_unsatisfied_iff hc₁, contains_unsatisfied_iff hc₂, h.required_iff,
    h.provided_iff]

/-- The one root has a property exactly if the other has the property that comes to the same. -/
theorem exists_root_iff {P₁ P₂ : Node → Prop} {root₁ root₂ : Option Node}
    (hroot : Option.Rel R root₁ root₂) (hP : ∀ r₁ r₂, R r₁ r₂ → (P₁ r₁ ↔ P₂ r₂)) :
    (∃ r, root₁ = some r ∧ P₁ r) ↔ ∃ r, root₂ = some r ∧ P₂ r := by
  cases hroot with
  | none => simp
  | some hr => simp [hP _ _ hr]

/-- Build orders for corresponding roots list corresponding nodes. -/
theorem sameNodes (h : c₁.Renumbers c₂ R) (hr : R r₁ r₂) {order₁ order₂ : List Node}
    (h₁ : c₁.IsBuildOrder r₁ order₁) (h₂ : c₂.IsBuildOrder r₂ order₂) :
    SameNodes R order₁ order₂ where
  left n₁ hn₁ := by
    have hneeded := (h₁.mem_iff n₁).mp hn₁
    obtain ⟨n₂, hn⟩ := h.left n₁ (hneeded.mem_members (h.mem_left hr))
    exact ⟨n₂, (h₂.mem_iff n₂).mpr ((h.needed_iff hr hn).mp hneeded), hn⟩
  right n₂ hn₂ := by
    have hneeded := (h₂.mem_iff n₂).mp hn₂
    obtain ⟨n₁, hn⟩ := h.right n₂ (hneeded.mem_members (h.mem_right hr))
    exact ⟨n₁, (h₁.mem_iff n₁).mpr ((h.needed_iff hr hn).mpr hneeded), hn⟩

/-- Consistent containers with renumbered nodes have the same graph. -/
theorem sameGraph (h : c₁.withMissing.Renumbers c₂.withMissing R)
    (hc₁ : c₁.withMissing.Consistent) (hc₂ : c₂.withMissing.Consistent) :
    c₁.SameGraph c₂ R := by
  have hroot : Option.Rel R c₁.root? c₂.root? := by
    rw [← root?_withMissing c₁, ← root?_withMissing c₂]
    exact h.find?_rel hc₂.root_single
  refine {
    renumbers := h
    root := hroot
    missing := h.find?_rel hc₂.missing_single
    edge := fun _ _ _ _ hu hv => h.edge?_rel hc₁ hc₂ hu hv
    unsatisfied := ?unsatisfied
    findCycle := ?findCycle
    noRoot := ?noRoot
    cyclic := ?cyclic
    ok := ?ok
    order := ?order }
  case unsatisfied =>
    intro t
    rw [← unsatisfied_withMissing c₁, ← unsatisfied_withMissing c₂]
    exact h.contains_unsatisfied hc₁ hc₂
  case findCycle =>
    rw [findCycle_run_eq_nil_iff hc₁, findCycle_run_eq_nil_iff hc₂, h.exists_cycle_iff]
  case noRoot =>
    rw [buildOrder_eq_noRoot_iff hc₁, buildOrder_eq_noRoot_iff hc₂]
    generalize c₁.root? = root₁, c₂.root? = root₂ at hroot
    cases hroot with
    | none => exact iff_of_true rfl rfl
    | some hr => exact iff_of_false (Option.some_ne_none _) (Option.some_ne_none _)
  case cyclic =>
    rw [exists_cyclicDependency_iff hc₁, exists_cyclicDependency_iff hc₂]
    exact exists_root_iff hroot fun _ _ hr => h.exists_within_iff hr
  case ok =>
    rw [exists_buildOrder_iff hc₁, exists_buildOrder_iff hc₂]
    exact exists_root_iff hroot fun _ _ hr => not_congr (h.exists_within_iff hr)
  case order =>
    intro order₁ order₂ horder₁ horder₂
    obtain ⟨r₁, hr₁, hbuild₁, -⟩ := buildOrder_eq_ok hc₁ horder₁
    obtain ⟨r₂, hr₂, hbuild₂, -⟩ := buildOrder_eq_ok hc₂ horder₂
    rw [hr₁, hr₂] at hroot
    cases hroot with
    | some hr => exact h.sameNodes hr hbuild₁ hbuild₂

end Renumbers

end Wiring.Container
