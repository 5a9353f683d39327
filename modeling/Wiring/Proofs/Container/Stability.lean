import Wiring.Proofs.Container.Interleaving
import Wiring.Proofs.Container.Renumbering

/-!
# What questions do to build orders

`sameBuild_of_constructions_eq` compares the build orders of two containers that went through the
same constructions with other questions in between. There is one in both or in neither, and the same
nodes are listed. But the missing node has the number that the first question took, and the nodes
that wait for it come when it has come. So only the order of nodes that need nothing missing is
always the same (`SameOrder.met`). All nodes come in the same order when the missing node has its
place among the numbers of the others (`SameOrder.same`), in particular when it is not listed.
`not_sameOrder_early` shows that an early question can swap two providers otherwise.

The build orders are compared by `LeastFirst.forall₂`. For the nodes that need nothing missing it is
applied to what is left of the orders without the others, which nobody of them waits for.
-/

namespace Wiring.Container

open Relation

variable {c c₁ c₂ : Container} {n₁ n₂ u₁ u₂ v₁ v₂ r₁ r₂ : Node} {order₁ order₂ : List Node}

/-! ## What corresponding nodes need -/

/-- Neither the node nor anything it needs is the missing node. -/
def Met (c : Container) (n : Node) : Prop := ∀ m, c.Needed n m → m.role.isMissing = false

/-- Containers that are alike and have a missing node both. -/
structure Parallel (c₁ c₂ : Container) : Prop where
  /-- They differ in the place of the missing node only. -/
  alike : c₁.Alike c₂
  /-- The one is consistent. -/
  left : c₁.Consistent
  /-- So is the other. -/
  right : c₂.Consistent
  /-- The one has a missing node. -/
  missing_left : c₁.roles.any Role.isMissing = true
  /-- So has the other. -/
  missing_right : c₂.roles.any Role.isMissing = true

namespace Parallel

/-- Two containers can be compared from either side. -/
theorem symm (h : c₁.Parallel c₂) : c₂.Parallel c₁ :=
  ⟨h.alike.symm, h.right, h.left, h.missing_right, h.missing_left⟩

/-- Each node corresponds to one. -/
theorem exists_corresponds (h : c₁.Parallel c₂) (hn : n₁ ∈ c₁.members) :
    ∃ n₂, Corresponds c₁ c₂ n₁ n₂ :=
  h.alike.exists_corresponds h.left h.missing_right hn

/-- The correspondence renumbers the nodes. -/
theorem renumbers (h : c₁.Parallel c₂) : c₁.Renumbers c₂ (Corresponds c₁ c₂) where
  mem_left hn := hn.mem_members
  mem_right hn := hn.symm.mem_members
  left _ hn₁ := h.exists_corresponds hn₁
  right _ hn₂ := by
    obtain ⟨n₁, hn⟩ := h.symm.exists_corresponds hn₂
    exact ⟨n₁, hn.symm⟩
  biUnique := Corresponds.biUnique
  role_eq hn := hn.role_eq h.alike

/-- What corresponds to a node that needs nothing missing needs nothing missing. -/
theorem met (h : c₁.Parallel c₂) (hn : Corresponds c₁ c₂ n₁ n₂) (hmet : c₁.Met n₁) :
    c₂.Met n₂ := by
  intro m₂ hneeded
  obtain ⟨m₁, hm⟩ := h.symm.exists_corresponds (hneeded.mem_members hn.symm.mem_members)
  rw [hm.role_eq h.alike.symm]
  exact hmet m₁ ((h.renumbers.needed_iff hn hm.symm).mpr hneeded)

/-- Corresponding nodes need something missing both or neither. -/
theorem met_iff (h : c₁.Parallel c₂) (hn : Corresponds c₁ c₂ n₁ n₂) : c₁.Met n₁ ↔ c₂.Met n₂ :=
  ⟨h.met hn, h.symm.met hn.symm⟩

/-! ## Orders of corresponding nodes -/

/-- Lists of corresponding nodes that are needed match if their numbers compare alike. -/
theorem matching (h : c₁.Parallel c₂) (hr : Corresponds c₁ c₂ r₁ r₂) (P₁ P₂ : Node → Prop)
    (h₁ : ∀ n, n ∈ order₁ ↔ c₁.Needed r₁ n ∧ P₁ n) (h₂ : ∀ n, n ∈ order₂ ↔ c₂.Needed r₂ n ∧ P₂ n)
    (hP : ∀ n₁ n₂, Corresponds c₁ c₂ n₁ n₂ → (P₁ n₁ ↔ P₂ n₂))
    (hid : ∀ u₁ ∈ order₁, ∀ v₁ ∈ order₁, ∀ u₂ v₂, Corresponds c₁ c₂ u₁ u₂ →
      Corresponds c₁ c₂ v₁ v₂ → (u₁.id < v₁.id ↔ u₂.id < v₂.id)) :
    Matching c₁.Link (·.id) order₁ c₂.Link (·.id) order₂ (Corresponds c₁ c₂) where
  left n₁ hn₁ := by
    obtain ⟨hneeded, hP₁⟩ := (h₁ n₁).mp hn₁
    obtain ⟨n₂, hn⟩ := h.exists_corresponds (hneeded.mem_members hr.mem_members)
    exact ⟨n₂, (h₂ n₂).mpr ⟨h.renumbers.needed hr hn hneeded, (hP n₁ n₂ hn).mp hP₁⟩, hn⟩
  right n₂ hn₂ := by
    obtain ⟨hneeded, hP₂⟩ := (h₂ n₂).mp hn₂
    obtain ⟨n₁, hn⟩ := h.renumbers.right n₂ (hneeded.mem_members hr.symm.mem_members)
    have hneeded₁ : c₁.Needed r₁ n₁ := (h.renumbers.needed_iff hr hn).mpr hneeded
    exact ⟨n₁, (h₁ n₁).mpr ⟨hneeded₁, (hP n₁ n₂ hn).mpr hP₂⟩, hn⟩
  biUnique := Corresponds.biUnique
  arc_iff _ _ _ _ hu hv := h.renumbers.link_iff hu hv
  key_iff := hid

end Parallel

/-- What two build orders have in common. -/
structure SameOrder (c₁ c₂ : Container) (order₁ order₂ : List Node) : Prop where
  /-- What the one lists corresponds to what the other lists. -/
  left : ∀ n₁ ∈ order₁, ∃ n₂ ∈ order₂, Corresponds c₁ c₂ n₁ n₂
  /-- And the other way round. -/
  right : ∀ n₂ ∈ order₂, ∃ n₁ ∈ order₁, Corresponds c₁ c₂ n₁ n₂
  /-- Nodes that need nothing missing stand in the same order. -/
  met : ∀ u₁ u₂ v₁ v₂, Corresponds c₁ c₂ u₁ u₂ → Corresponds c₁ c₂ v₁ v₂ → c₁.Met u₁ →
    c₁.Met v₁ → ([u₁, v₁].Sublist order₁ ↔ [u₂, v₂].Sublist order₂)
  /-- If the missing node is not listed, or has its place among the numbers of the listed nodes in
  both, then at each place stand corresponding nodes. -/
  same : (∀ m₁ ∈ order₁, ∀ m₂ ∈ order₂, m₁.role.isMissing = true → m₂.role.isMissing = true →
    ∀ n₁ ∈ order₁, ∀ n₂ ∈ order₂, Corresponds c₁ c₂ n₁ n₂ → (m₁.id < n₁.id ↔ m₂.id < n₂.id)) →
    List.Forall₂ (Corresponds c₁ c₂) order₁ order₂

/-- Nodes of a list stand in the same order as the nodes that they correspond to in a list that runs
in step with it. -/
theorem sublist_of_forall₂ (h : List.Forall₂ (Corresponds c₁ c₂) order₁ order₂)
    (hu : Corresponds c₁ c₂ u₁ u₂) (hv : Corresponds c₁ c₂ v₁ v₂)
    (hsub : [u₁, v₁].Sublist order₁) : [u₂, v₂].Sublist order₂ := by
  induction h with
  | nil => cases hsub
  | @cons a b rest rest' hab hrest ih =>
    rcases List.sublist_cons_iff.mp hsub with hsub | ⟨tail, heq, htail⟩
    · exact (ih hsub).cons b
    · obtain ⟨rfl, rfl⟩ := List.cons.inj heq
      obtain rfl := hab.right_unique hu
      have hmem : v₂ ∈ rest' := (mem_iff_of_forall₂ Corresponds.biUnique hrest hv).mp
        (List.singleton_sublist.mp htail)
      exact (List.singleton_sublist.mpr hmem).cons_cons b

/-- What a node needs that needs nothing missing needs nothing missing. -/
theorem Met.of_link (hlink : c.Link u₁ v₁) (h : c.Met v₁) : c.Met u₁ :=
  fun m hm => h m (hm.tail hlink)

namespace Parallel

/-- Nodes that need nothing missing stand in the same order. -/
theorem sublist_of_met (h : c₁.Parallel c₂) (hr : Corresponds c₁ c₂ r₁ r₂)
    (h₁ : c₁.IsBuildOrder r₁ order₁) (h₂ : c₂.IsBuildOrder r₂ order₂)
    (hleast₁ : LeastFirst c₁.Link (·.id) order₁) (hleast₂ : LeastFirst c₂.Link (·.id) order₂)
    (hu : Corresponds c₁ c₂ u₁ u₂) (hv : Corresponds c₁ c₂ v₁ v₂) (hu_met : c₁.Met u₁)
    (hv_met : c₁.Met v₁) (hsub : [u₁, v₁].Sublist order₁) : [u₂, v₂].Sublist order₂ := by
  classical
  have hclosed : ∀ (c : Container) u v, c.Link u v → decide (c.Met v) = true →
      decide (c.Met u) = true := by
    intro c u v hlink hmet
    exact decide_eq_true ((of_decide_eq_true hmet).of_link hlink)
  have hmatch : Matching c₁.Link (·.id) (order₁.filter fun n => decide (c₁.Met n))
      c₂.Link (·.id) (order₂.filter fun n => decide (c₂.Met n)) (Corresponds c₁ c₂) := by
    refine h.matching hr c₁.Met c₂.Met ?_ ?_ (fun n₁ n₂ hn => h.met_iff hn) ?_
    · intro n
      rw [List.mem_filter, h₁.mem_iff, decide_eq_true_iff]
    · intro n
      rw [List.mem_filter, h₂.mem_iff, decide_eq_true_iff]
    · -- Neither node is the missing one, so the numbers compare alike.
      intro a₁ ha b₁ hb a₂ b₂ ha₂ hb₂
      have ha_met : c₁.Met a₁ := of_decide_eq_true (List.mem_filter.mp ha).2
      have hb_met : c₁.Met b₁ := of_decide_eq_true (List.mem_filter.mp hb).2
      exact ha₂.id_lt_iff hb₂ (ha_met a₁ ReflTransGen.refl) (hb_met b₁ ReflTransGen.refl)
  have hstep := (hleast₁.filter _ (hclosed c₁)).forall₂ (hleast₂.filter _ (hclosed c₂)) hmatch
  have hkept : [u₁, v₁].Sublist (order₁.filter fun n => decide (c₁.Met n)) := by
    have hfilter := hsub.filter fun n => decide (c₁.Met n)
    rwa [List.filter_eq_self.mpr (by simp [hu_met, hv_met])] at hfilter
  exact (sublist_of_forall₂ hstep hu hv hkept).trans List.filter_sublist

/-- All numbers compare alike if those of the missing nodes do. -/
theorem id_lt_iff (h : c₁.Parallel c₂) (hu : Corresponds c₁ c₂ u₁ u₂)
    (hv : Corresponds c₁ c₂ v₁ v₂)
    (huv : u₁.role.isMissing = true → (u₁.id < v₁.id ↔ u₂.id < v₂.id))
    (hvu : v₁.role.isMissing = true → (v₁.id < u₁.id ↔ v₂.id < u₂.id)) :
    u₁.id < v₁.id ↔ u₂.id < v₂.id := by
  cases hu_role : u₁.role.isMissing with
  | true => exact huv hu_role
  | false =>
    cases hv_role : v₁.role.isMissing with
    | false => exact hu.id_lt_iff hv hu_role hv_role
    | true =>
      -- The two are different nodes on either side, so one of them has the smaller number.
      have hne : ∀ {c : Container} {u v : Node}, u ∈ c.members → v ∈ c.members →
          u.role.isMissing = false → v.role.isMissing = true → u.id ≠ v.id := by
        intro c u v hu hv hu_role hv_role hid
        have huv : u = v := eq_of_toNat_eq hu hv (by rw [hid])
        rw [huv, hv_role] at hu_role
        cases hu_role
      have hne₁ := hne hu.mem_members hv.mem_members hu_role hv_role
      rw [hu.role_eq h.alike] at hu_role
      have hvu' := hvu hv_role
      rw [hv.role_eq h.alike] at hv_role
      have hne₂ := hne hu.symm.mem_members hv.symm.mem_members hu_role hv_role
      omega

/-- Two build orders for corresponding roots list the same, in the same order as far as nothing
missing is needed. -/
theorem sameOrder (h : c₁.Parallel c₂) (hr : Corresponds c₁ c₂ r₁ r₂)
    (h₁ : c₁.IsBuildOrder r₁ order₁) (h₂ : c₂.IsBuildOrder r₂ order₂)
    (hleast₁ : LeastFirst c₁.Link (·.id) order₁) (hleast₂ : LeastFirst c₂.Link (·.id) order₂) :
    c₁.SameOrder c₂ order₁ order₂ where
  left := (h.renumbers.sameNodes hr h₁ h₂).left
  right := (h.renumbers.sameNodes hr h₁ h₂).right
  met u₁ u₂ v₁ v₂ hu hv hu_met hv_met :=
    ⟨h.sublist_of_met hr h₁ h₂ hleast₁ hleast₂ hu hv hu_met hv_met,
      h.symm.sublist_of_met hr.symm h₂ h₁ hleast₂ hleast₁ hu.symm hv.symm (h.met hu hu_met)
        (h.met hv hv_met)⟩
  same hplace := by
    refine hleast₁.forall₂ hleast₂ (h.matching hr (fun _ => True) (fun _ => True)
      (fun n => by rw [h₁.mem_iff, and_true]) (fun n => by rw [h₂.mem_iff, and_true])
      (fun _ _ _ => Iff.rfl) ?_)
    intro u₁ hu₁ v₁ hv₁ u₂ v₂ hu hv
    have hlisted : ∀ n₁ ∈ order₁, ∀ n₂, Corresponds c₁ c₂ n₁ n₂ → n₂ ∈ order₂ :=
      fun n₁ hn₁ n₂ hn => (h₂.mem_iff n₂).mpr (h.renumbers.needed hr hn ((h₁.mem_iff n₁).mp hn₁))
    have hu₂ := hlisted u₁ hu₁ u₂ hu
    have hv₂ := hlisted v₁ hv₁ v₂ hv
    refine h.id_lt_iff hu hv (fun hrole => ?_) (fun hrole => ?_)
    · exact hplace u₁ hu₁ u₂ hu₂ hrole (by rwa [← hu.role_eq h.alike]) v₁ hv₁ v₂ hv₂ hv
    · exact hplace v₁ hv₁ v₂ hv₂ hrole (by rwa [← hv.role_eq h.alike]) u₁ hu₁ u₂ hu₂ hu

end Parallel

/-! ## Build orders -/

/-- What becomes of build orders. -/
structure SameBuild (c₁ c₂ : Container) : Prop where
  /-- There is no root in both or in neither. -/
  noRoot : (buildOrder.run.run c₁).1 = .error .noRoot ↔ (buildOrder.run.run c₂).1 = .error .noRoot
  /-- A cycle is reported in both or in neither. -/
  cyclic : (∃ cycle, (buildOrder.run.run c₁).1 = .error (.cyclicDependency cycle)) ↔
    ∃ cycle, (buildOrder.run.run c₂).1 = .error (.cyclicDependency cycle)
  /-- There is a build order in both or in neither. -/
  ok : (∃ order, (buildOrder.run.run c₁).1 = .ok order) ↔
    ∃ order, (buildOrder.run.run c₂).1 = .ok order
  /-- Build orders list the same, in the same order as far as nothing missing is needed. -/
  order : ∀ order₁ order₂, (buildOrder.run.run c₁).1 = .ok order₁ →
    (buildOrder.run.run c₂).1 = .ok order₂ →
    (buildOrder.run.run c₁).2.SameOrder (buildOrder.run.run c₂).2 order₁ order₂

/-- Reachable containers that are alike are so with the missing node too. -/
theorem Reachable.parallel (h₁ : Reachable c₁) (h₂ : Reachable c₂) (halike : c₁.Alike c₂) :
    c₁.withMissing.Parallel c₂.withMissing where
  alike := (alike_withMissing c₁).trans (halike.trans (alike_withMissing c₂).symm)
  left := h₁.withMissing.consistent
  right := h₂.withMissing.consistent
  missing_left := any_isMissing_withMissing c₁
  missing_right := any_isMissing_withMissing c₂

/-- Containers that are alike have the same build orders as far as nothing missing is needed. -/
theorem Reachable.sameBuild (h₁ : Reachable c₁) (h₂ : Reachable c₂) (halike : c₁.Alike c₂) :
    c₁.SameBuild c₂ := by
  have h := h₁.parallel h₂ halike
  have hgraph := h.renumbers.sameGraph h.left h.right
  refine {
    noRoot := hgraph.noRoot
    cyclic := hgraph.cyclic
    ok := hgraph.ok
    order := ?order }
  intro order₁ order₂ horder₁ horder₂
  obtain ⟨r₁, hr₁, hbuild₁, hleast₁⟩ := buildOrder_eq_ok h.left horder₁
  obtain ⟨r₂, hr₂, hbuild₂, hleast₂⟩ := buildOrder_eq_ok h.right horder₂
  rw [buildOrder_run_snd h.left hr₁, buildOrder_run_snd h.right hr₂]
  have hroot := hgraph.root
  rw [hr₁, hr₂] at hroot
  cases hroot with
  | some hcorr => exact h.sameOrder hcorr hbuild₁ hbuild₂ hleast₁ hleast₂

/-- Whatever is asked between the same constructions, there is a build order in both cases or in
neither, with the same nodes, and in the same order as far as nothing missing is needed. -/
theorem sameBuild_of_constructions_eq {ops₁ ops₂ : List Operation} (rootMethod : String)
    (tag₁ tag₂ : Nat) (h : constructions ops₁ = constructions ops₂) :
    ((new rootMethod tag₁).after ops₁).SameBuild ((new rootMethod tag₂).after ops₂) :=
  Reachable.sameBuild ⟨rootMethod, tag₁, ops₁, rfl⟩ ⟨rootMethod, tag₂, ops₂, rfl⟩
    (alike_after_of_constructions_eq rootMethod tag₁ tag₂ h)

/-- Two providers of the type of the root, the first of which requires a type that nobody
provides. -/
def rivals : List Operation :=
  [.addProvider { name := "f", params := [.basic "B"], results := [.basic "A"] },
    .addProvider { name := "g", results := [.basic "A"] },
    .setRoot (.basic "A")]

/-- Whether the missing node is asked for before or after, there is a build order. -/
theorem sameBuild_rivals :
    (new.after (rivals ++ [.query .missing])).SameBuild (new.after (.query .missing :: rivals)) :=
  sameBuild_of_constructions_eq "run" 0 0 rfl

/-- What is found without a cycle is the build order. -/
theorem buildOrder_eq_of_order? {g : Digraph} {ids : List Nat} (hr : c.root? = some r₁)
    (hgraph : c.withMissing.neededGraph r₁ = g) (hcycle : g.findCycle = [])
    (hids : g.order? = some ids) :
    (buildOrder.run.run c).1 = .ok (c.withMissing.nodesOf ids) := by
  rw [buildOrder_run, hr]
  dsimp only
  rw [← neededGraph, hgraph, hcycle, hids]

/-- Where the missing node is made last, the provider that requires nothing comes first. -/
theorem buildOrder_rivals :
    (buildOrder.run.run (new.after rivals)).1 =
      .ok ((new.after rivals).withMissing.nodesOf [1, 3, 0, 2]) := by
  exact buildOrder_eq_of_order? (g := ⟨[0, 1, 2, 3], [(0, 2), (1, 2), (3, 0)]⟩) rfl
    (by decide +kernel) (by decide +kernel) (by decide +kernel)

/-- Where it is made first, the provider that waits for it comes first. -/
theorem buildOrder_early :
    (buildOrder.run.run (new.after (.query .missing :: rivals))).1 =
      .ok ((new.after (.query .missing :: rivals)).withMissing.nodesOf [0, 1, 2, 3]) := by
  exact buildOrder_eq_of_order? (g := ⟨[0, 1, 2, 3], [(0, 1), (1, 3), (2, 3)]⟩) rfl
    (by decide +kernel) (by decide +kernel) (by decide +kernel)

/-- An early question can change the order of the providers. -/
theorem not_sameOrder_early :
    ¬ ∀ ops₁ ops₂ : List Operation, constructions ops₁ = constructions ops₂ →
      ∀ order₁ order₂, (buildOrder.run.run (new.after ops₁)).1 = .ok order₁ →
        (buildOrder.run.run (new.after ops₂)).1 = .ok order₂ →
        (order₁.filter (·.role.isProvider)).map (·.role) =
          (order₂.filter (·.role.isProvider)).map (·.role) := by
  intro hsame
  have hroles := hsame rivals (.query .missing :: rivals) rfl _ _ buildOrder_rivals buildOrder_early
  have hnames := congrArg (List.map Role.text) hroles
  revert hnames
  decide +kernel

end Wiring.Container
