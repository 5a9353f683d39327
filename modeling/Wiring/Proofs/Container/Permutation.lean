import Wiring.Proofs.Container.Agreement
import Wiring.Proofs.Container.Diagnostics
import Wiring.Proofs.Container.Renumbering

/-!
# Providers in another order

Where the root is not detected but set, the graph of a container does not depend on the order in
which the providers are added, nor on when the root is set (`graph_of_perm`). Types may be required
before or after they are provided, and several providers may provide the same; all of this only
changes the numbers of the nodes.

The same provider can stand at several places of a list, so the places are numbered and the other
order is a permutation of the numbered providers. A provider node stands for the occurrence that has
its place among the valid ones (`Stands`), and two nodes are the same up to renumbering if they
stand for the same occurrence, or both are the root or the missing node (`SameOccurrence`).
-/

namespace Wiring

/-! ## Providers without a runnable type -/

namespace Provider

variable {method : String} {root : Option TypeKey} {p : Provider} {ps : List Provider}

/-- A provider without a runnable type does not make a root. -/
theorem detectedRoot?_eq_none (h : ∀ t ∈ p.provides, ¬ t.Runnable method) :
    p.detectedRoot? method = none := by
  unfold detectedRoot?
  rw [TypeKey.runnables_eq_nil h]
  cases p.defect? with
  | some d => rfl
  | none => rfl

/-- Providers without a runnable type leave the root as it is. -/
theorem rootAfter_eq (h : ∀ p ∈ ps, ∀ t ∈ p.provides, ¬ t.Runnable method) :
    rootAfter method root ps = root := by
  have hnone : ps.findSome? (detectedRoot? method) = none :=
    List.findSome?_eq_none_iff.mpr fun p hp => detectedRoot?_eq_none (h p hp)
  unfold rootAfter
  rw [hnone]
  exact Option.or_none

/-- All that can be wrong with a provider without a runnable type is a defect, and that can be
worded. -/
theorem exists_message_of_not_runnable {f : Provider × GraphError}
    (h : ∀ p ∈ ps, ∀ t ∈ p.provides, ¬ t.Runnable method) (hf : f ∈ faults method root ps) :
    ∃ message, f.2.message = .ok message := by
  obtain ⟨⟨p, i⟩, hp, hfault⟩ := List.mem_filterMap.mp hf
  obtain ⟨e, he, rfl⟩ := Option.map_eq_some_iff.mp hfault
  have hrunnables := TypeKey.runnables_eq_nil (h p (List.fst_mem_of_mem_zipIdx hp))
  dsimp only at he
  unfold fault? at he
  rw [hrunnables] at he
  cases hdefect : p.defect? with
  | some d =>
    rw [hdefect] at he
    obtain rfl := Option.some.inj he
    exact ⟨_, rfl⟩
  | none =>
    rw [hdefect] at he
    cases he

end Provider

namespace Container

variable {c c₁ c₂ : Container} {method : String} {tag : Nat} {ps : List Provider}
  {xs ys : List (Provider × Nat)} {x y : Provider × Nat} {T U : TypeKey} {n n₁ n₂ m₁ m₂ : Node}

/-! ## Setting the root in between -/

/-- `c` is what a fresh container becomes when it is populated with the first `k` providers of a
list, then its root is set to `T`, and then it is populated with the others. Each of the three steps
succeeds. -/
def Filled (method : String) (tag : Nat) (ps : List Provider) (k : Nat) (T : TypeKey)
    (c : Container) : Prop :=
  ∃ reported c₁ r c₂ reported',
    (populate (ps.take k)).run.run (new method tag) = (.ok reported, c₁) ∧
    (setRoot T).run.run c₁ = (.ok r, c₂) ∧
    (populate (ps.drop k)).run.run c₂ = (.ok reported', c)

/-- A reachable container with the given providers, the valid ones of them in their order, and with
a root of the given type. -/
structure Holds (c : Container) (ps : List Provider) (T : TypeKey) : Prop where
  /-- The container is reachable. -/
  reachable : Reachable c
  /-- It has the valid providers. -/
  providers : c.providers.map (·.role) = (ps.filter fun p => p.Valid).map .provider
  /-- It has the root. -/
  root : ∃ r, c.root? = some r ∧ r.role = .root T

/-- `c'` is a reachable container `c` with the valid ones of some providers behind its own, and with
the same root. -/
structure Extends (c : Container) (ps : List Provider) (c' : Container) : Prop where
  /-- It is reachable as well. -/
  reachable : Reachable c'
  /-- No node is lost. -/
  keeps : c.Keeps c'
  /-- Roots are detected by the same method. -/
  rootMethod : c'.rootMethod = c.rootMethod
  /-- The root is the same. -/
  rootType : c'.rootType? = c.rootType?
  /-- The valid providers stand behind the others. -/
  providers : c'.providers.map (·.role) =
    c.providers.map (·.role) ++ (ps.filter fun p => p.Valid).map .provider

/-- Populating with providers without a runnable type succeeds and adds the valid ones. -/
theorem Reachable.exists_populate (hc : Reachable c)
    (h : ∀ p ∈ ps, ∀ t ∈ p.provides, ¬ t.Runnable c.rootMethod) :
    ∃ reported c', (Container.populate ps).run.run c = (.ok reported, c') ∧ c.Extends ps c' := by
  obtain ⟨reported, hrun, -⟩ :=
    populate_run fun f hf => Provider.exists_message_of_not_runnable h hf
  have hreachable := hc.populate ps
  have hkeeps := keeps_populate c ps
  rw [hrun] at hreachable hkeeps
  obtain ⟨added, hadded, hroles⟩ := providers_withProviders c ps
  refine ⟨reported, c.withProviders ps, hrun, hreachable, hkeeps, rootMethod_withProviders c ps,
    ?_, ?_⟩
  · rw [rootType?_withProviders, Provider.rootAfter_eq h]
  · rw [hadded, List.map_append, hroles]

/-- Where there is no root, one can be set, and then it is there. -/
theorem Reachable.exists_setRoot (hc : Reachable c) (hnone : c.rootType? = none) (T : TypeKey) :
    ∃ r c', (Container.setRoot T).run.run c = (.ok r, c') ∧ Reachable c' ∧
      c'.rootMethod = c.rootMethod ∧ c'.providers = c.providers ∧ c'.root? = some r ∧
      r.role = .root T := by
  have hrun : (Container.setRoot T).run.run c =
      (.ok (c.nodeOf c.nextId (.root T)), c.push (.root T)) := by
    rw [setRoot_run, hnone]
  have hreachable : Reachable (c.push (.root T)) := by
    have hafter := hc.after [.setRoot T]
    have hstate : c.after [.setRoot T] = ((Container.setRoot T).run.run c).2 := rfl
    rwa [hstate, hrun] at hafter
  have hproviders : (c.push (.root T)).providers = c.providers := by
    rw [providers_push]
    exact List.append_nil _
  exact ⟨_, _, hrun, hreachable, rfl, hproviders, root?_of_setRoot hrun, rfl⟩

/-- Providers without a runnable type can be added and the root set in between. -/
theorem exists_filled (tag k : Nat) (T : TypeKey)
    (h : ∀ p ∈ ps, ∀ t ∈ p.provides, ¬ t.Runnable method) :
    ∃ c, Filled method tag ps k T c ∧ c.Holds ps T := by
  have hnew : Reachable (new method tag) := ⟨method, tag, [], rfl⟩
  -- The first providers leave the container without a root, so it can be set.
  obtain ⟨reported, c₁, hrun₁, hfirst⟩ :=
    hnew.exists_populate fun p hp => h p (List.mem_of_mem_take hp)
  obtain ⟨r, c₂, hrun₂, hreachable, hmethod, hproviders, hr, hrole⟩ :=
    hfirst.reachable.exists_setRoot hfirst.rootType T
  have hmethod₂ : c₂.rootMethod = method := hmethod.trans hfirst.rootMethod
  obtain ⟨reported', c, hrun₃, hothers⟩ := hreachable.exists_populate fun p hp =>
    hmethod₂ ▸ h p (List.mem_of_mem_drop hp)
  refine ⟨c, ⟨reported, c₁, r, c₂, reported', hrun₁, hrun₂, hrun₃⟩, hothers.reachable, ?_,
    r, hothers.keeps.root r hr, hrole⟩
  have hempty : (new method tag).providers.map (·.role) = [] := rfl
  rw [hothers.providers, hproviders, hfirst.providers, hempty, List.nil_append, ← List.map_append,
    ← List.filter_append, List.take_append_drop]

/-! ## Occurrences of providers -/

/-- A provider node stands for an occurrence of a provider if it has the place among the provider
nodes that the occurrence has among those of valid providers. -/
def Stands (xs : List (Provider × Nat)) (c : Container) (n : Node) (x : Provider × Nat) : Prop :=
  ∃ i : Nat, c.providers[i]? = some n ∧ (xs.filter fun x => x.1.Valid)[i]? = some x

namespace Stands

/-- A provider node is one of those of the container. -/
theorem mem_providers (h : Stands xs c n x) : n ∈ c.providers := by
  obtain ⟨i, hn, -⟩ := h
  exact List.mem_of_getElem? hn

/-- The occurrence is one in the list, and of a valid provider. -/
theorem mem_filter (h : Stands xs c n x) : x ∈ xs.filter fun x => x.1.Valid := by
  obtain ⟨i, -, hx⟩ := h
  exact List.mem_of_getElem? hx

/-- A node stands for one occurrence only. -/
theorem right_unique (hc : Reachable c) (hx : Stands xs c n x) (hy : Stands xs c n y) : x = y := by
  obtain ⟨i, hn, hx⟩ := hx
  obtain ⟨j, hn', hy⟩ := hy
  have hnodup : c.providers.Nodup := nodup_of_pairwise_lt hc.numbered.ascending
  have hlt : i < c.providers.length := (List.getElem?_eq_some_iff.mp hn).1
  obtain rfl : i = j := (List.getElem?_inj hlt hnodup).mp (hn.trans hn'.symm)
  exact Option.some.inj (hx.symm.trans hy)

/-- One node only stands for an occurrence. -/
theorem left_unique (hxs : xs.Nodup) (hn : Stands xs c n₁ x) (hm : Stands xs c n₂ x) : n₁ = n₂ := by
  obtain ⟨i, hn, hx⟩ := hn
  obtain ⟨j, hm, hx'⟩ := hm
  have hlt : i < (xs.filter fun x => x.1.Valid).length := (List.getElem?_eq_some_iff.mp hx).1
  obtain rfl : i = j := (List.getElem?_inj hlt (hxs.filter _)).mp (hx.trans hx'.symm)
  exact Option.some.inj (hn.symm.trans hm)

end Stands

namespace Holds

/-- The provider nodes have the roles of the valid occurrences. -/
theorem map_role_providers (h : c.Holds (xs.map (·.1)) T) :
    c.providers.map (·.role) = (xs.filter fun x => x.1.Valid).map fun x => .provider x.1 := by
  rw [h.providers, List.filter_map, List.map_map]
  rfl

/-- There are as many provider nodes as valid occurrences. -/
theorem length_providers (h : c.Holds (xs.map (·.1)) T) :
    c.providers.length = (xs.filter fun x => x.1.Valid).length := by
  have hlength := congrArg List.length h.map_role_providers
  rwa [List.length_map, List.length_map] at hlength

/-- A node that stands for an occurrence of a provider has that role. -/
theorem role_of_stands (h : c.Holds (xs.map (·.1)) T) (hn : Stands xs c n x) :
    n.role = .provider x.1 := by
  obtain ⟨i, hn, hx⟩ := hn
  have hrole := congrArg (·[i]?) h.map_role_providers
  rw [List.getElem?_map, List.getElem?_map, hn, hx] at hrole
  exact Option.some.inj hrole

/-- Every provider node stands for an occurrence. -/
theorem exists_occurrence (h : c.Holds (xs.map (·.1)) T) (hn : n ∈ c.providers) :
    ∃ x, Stands xs c n x := by
  obtain ⟨i, hi⟩ := List.getElem?_of_mem hn
  have hlt : i < (xs.filter fun x => x.1.Valid).length := by
    rw [← h.length_providers]
    exact (List.getElem?_eq_some_iff.mp hi).1
  exact ⟨_, i, hi, List.getElem?_eq_getElem hlt⟩

/-- Every occurrence of a valid provider has a node. -/
theorem exists_node (h : c.Holds (xs.map (·.1)) T) (hx : x ∈ xs.filter fun x => x.1.Valid) :
    ∃ n, Stands xs c n x := by
  obtain ⟨i, hi⟩ := List.getElem?_of_mem hx
  have hlt : i < c.providers.length := by
    rw [h.length_providers]
    exact (List.getElem?_eq_some_iff.mp hi).1
  exact ⟨_, i, List.getElem?_eq_getElem hlt, hi⟩

/-- The root node has the role of the root. -/
theorem role_of_root? (h : c.Holds ps T) (hn : c.root? = some n) : n.role = .root T := by
  obtain ⟨r, hr, hrole⟩ := h.root
  rwa [← Option.some.inj (hr.symm.trans hn)]

end Holds

/-- Two nodes are the same up to renumbering. -/
inductive SameOccurrence (xs ys : List (Provider × Nat)) (c₁ c₂ : Container) (n₁ n₂ : Node) :
    Prop where
  /-- They stand for the same occurrence of a provider. -/
  | provider (x : Provider × Nat) (h₁ : Stands xs c₁ n₁ x) (h₂ : Stands ys c₂ n₂ x)
  /-- Both are the root. -/
  | root (h₁ : c₁.root? = some n₁) (h₂ : c₂.root? = some n₂)
  /-- Both are the missing node. -/
  | missing (h₁ : c₁.withMissing.missing? = some n₁) (h₂ : c₂.withMissing.missing? = some n₂)

namespace SameOccurrence

/-- The two containers can be taken in either order. -/
theorem symm (h : SameOccurrence xs ys c₁ c₂ n₁ n₂) : SameOccurrence ys xs c₂ c₁ n₂ n₁ := by
  cases h with
  | provider x h₁ h₂ => exact .provider x h₂ h₁
  | root h₁ h₂ => exact .root h₂ h₁
  | missing h₁ h₂ => exact .missing h₂ h₁

/-- Both are nodes of their containers. -/
theorem mem_members (h : SameOccurrence xs ys c₁ c₂ n₁ n₂) : n₁ ∈ c₁.withMissing.members := by
  cases h with
  | provider x h₁ h₂ => exact mem_members_withMissing (List.mem_filter.mp h₁.mem_providers).1
  | root h₁ h₂ => exact mem_members_withMissing (root?_spec h₁).1
  | missing h₁ h₂ => exact (missing?_spec h₁).1

/-- They have the same role. -/
theorem role_eq (h : SameOccurrence xs ys c₁ c₂ n₁ n₂) (h₁ : c₁.Holds (xs.map (·.1)) T)
    (h₂ : c₂.Holds (ys.map (·.1)) T) : n₁.role = n₂.role := by
  cases h with
  | provider x hn₁ hn₂ => rw [h₁.role_of_stands hn₁, h₂.role_of_stands hn₂]
  | root hn₁ hn₂ => rw [h₁.role_of_root? hn₁, h₂.role_of_root? hn₂]
  | missing hn₁ hn₂ =>
    rw [Role.eq_missing (missing?_spec hn₁).2, Role.eq_missing (missing?_spec hn₂).2]

/-- A node is the same as one only. -/
theorem right_unique (h₁ : c₁.Holds (xs.map (·.1)) T) (hys : ys.Nodup)
    (hn : SameOccurrence xs ys c₁ c₂ n₁ n₂) (hm : SameOccurrence xs ys c₁ c₂ n₁ m₂) :
    n₂ = m₂ := by
  -- The role of the one node decides in which way it is the same as both others.
  cases hn with
  | provider x hn₁ hn₂ =>
    have hrole := h₁.role_of_stands hn₁
    cases hm with
    | provider y hm₁ hm₂ =>
      obtain rfl := hn₁.right_unique h₁.reachable hm₁
      exact hn₂.left_unique hys hm₂
    | root hm₁ hm₂ => cases hrole.symm.trans (h₁.role_of_root? hm₁)
    | missing hm₁ hm₂ => cases hrole.symm.trans (Role.eq_missing (missing?_spec hm₁).2)
  | root hn₁ hn₂ =>
    have hrole := h₁.role_of_root? hn₁
    cases hm with
    | provider y hm₁ hm₂ => cases hrole.symm.trans (h₁.role_of_stands hm₁)
    | root hm₁ hm₂ => exact Option.some.inj (hn₂.symm.trans hm₂)
    | missing hm₁ hm₂ => cases hrole.symm.trans (Role.eq_missing (missing?_spec hm₁).2)
  | missing hn₁ hn₂ =>
    have hrole := Role.eq_missing (missing?_spec hn₁).2
    cases hm with
    | provider y hm₁ hm₂ => cases hrole.symm.trans (h₁.role_of_stands hm₁)
    | root hm₁ hm₂ => cases hrole.symm.trans (h₁.role_of_root? hm₁)
    | missing hm₁ hm₂ => exact Option.some.inj (hn₂.symm.trans hm₂)

end SameOccurrence

namespace Holds

/-- Every node is the same as one of the other container, or stands for an occurrence that is
missing there. -/
theorem exists_sameOccurrence_or (h₁ : c₁.Holds (xs.map (·.1)) T) (h₂ : c₂.Holds (ys.map (·.1)) U)
    (hn₁ : n₁ ∈ c₁.withMissing.members) :
    (∃ n₂, SameOccurrence xs ys c₁ c₂ n₁ n₂) ∨ ∃ x ∉ ys, Stands xs c₁ n₁ x := by
  have hknown := h₁.reachable.withMissing.members_perm.mem_iff.mp hn₁
  unfold known at hknown
  rw [providers_withMissing, root?_withMissing, List.mem_append, List.mem_append, Option.mem_toList,
    Option.mem_toList] at hknown
  rcases hknown with (hprovider | hroot) | hmissing
  · obtain ⟨x, hx⟩ := h₁.exists_occurrence hprovider
    by_cases hys : x ∈ ys
    · have hvalid := (List.mem_filter.mp hx.mem_filter).2
      obtain ⟨n₂, hn₂⟩ := h₂.exists_node (List.mem_filter.mpr ⟨hys, hvalid⟩)
      exact Or.inl ⟨n₂, .provider x hx hn₂⟩
    · exact Or.inr ⟨x, hys, hx⟩
  · obtain ⟨r, hr, -⟩ := h₂.root
    exact Or.inl ⟨r, .root hroot hr⟩
  · obtain ⟨m, hm⟩ := Option.isSome_iff_exists.mp (isSome_missing?_withMissing c₂)
    exact Or.inl ⟨m, .missing hmissing hm⟩

/-- Every node is the same as one of the other container, if that has all the occurrences. -/
theorem exists_sameOccurrence (h₁ : c₁.Holds (xs.map (·.1)) T) (h₂ : c₂.Holds (ys.map (·.1)) U)
    (hsub : xs ⊆ ys) (hn₁ : n₁ ∈ c₁.withMissing.members) :
    ∃ n₂, SameOccurrence xs ys c₁ c₂ n₁ n₂ := by
  rcases h₁.exists_sameOccurrence_or h₂ hn₁ with hsame | ⟨x, hys, hx⟩
  · exact hsame
  · exact absurd (hsub (List.mem_filter.mp hx.mem_filter).1) hys

/-- Containers with the same occurrences of providers and the same root have the same nodes up to
renumbering. -/
theorem renumbers (h₁ : c₁.Holds (xs.map (·.1)) T) (h₂ : c₂.Holds (ys.map (·.1)) T)
    (hperm : xs.Perm ys) (hxs : xs.Nodup) :
    c₁.withMissing.Renumbers c₂.withMissing (SameOccurrence xs ys c₁ c₂) where
  mem_left hn := hn.mem_members
  mem_right hn := hn.symm.mem_members
  left _ hn₁ := h₁.exists_sameOccurrence h₂ hperm.subset hn₁
  right _ hn₂ := by
    obtain ⟨n₁, hn⟩ := h₂.exists_sameOccurrence h₁ hperm.symm.subset hn₂
    exact ⟨n₁, hn.symm⟩
  biUnique := ⟨fun _ _ _ hn hm => SameOccurrence.right_unique h₂ hxs hn.symm hm.symm,
    fun _ _ _ hn hm => SameOccurrence.right_unique h₁ (hperm.nodup_iff.mp hxs) hn hm⟩
  role_eq hn := hn.role_eq h₁ h₂

end Holds

/-! ## The graph does not depend on the order -/

/-- With a root, cycles are reported for the same graph in both containers, or both build orders
list the same nodes. -/
theorem SameGraph.buildOrders {R : Node → Node → Prop} (h : c₁.SameGraph c₂ R)
    (hc : c₁.withMissing.Consistent) (hroot : c₁.root? = some n) :
    ((∃ cycle, (buildOrder.run.run c₁).1 = .error (.cyclicDependency cycle)) ∧
      ∃ cycle, (buildOrder.run.run c₂).1 = .error (.cyclicDependency cycle)) ∨
    ∃ order₁ order₂, (buildOrder.run.run c₁).1 = .ok order₁ ∧
      (buildOrder.run.run c₂).1 = .ok order₂ ∧ SameNodes R order₁ order₂ := by
  rcases buildOrder_cases_of_cycle hc hroot with ⟨-, cycle, hrun⟩ | ⟨-, order₁, hrun⟩
  · have hcyclic : ∃ cycle, (buildOrder.run.run c₁).1 = .error (.cyclicDependency cycle) :=
      ⟨cycle, by rw [hrun]⟩
    exact Or.inl ⟨hcyclic, h.cyclic.mp hcyclic⟩
  · have horder₁ : (buildOrder.run.run c₁).1 = .ok order₁ := by rw [hrun]
    obtain ⟨order₂, horder₂⟩ := h.ok.mp ⟨order₁, horder₁⟩
    exact Or.inr ⟨order₁, order₂, horder₁, horder₂, h.order _ _ horder₁ horder₂⟩

/-- Providers without a runnable type make the same graph up to renumbering in whichever order they
are added and whenever the root is set: the valid ones have nodes in both containers and the others
in neither, and for the root there is a cycle in both or a build order with the same nodes. -/
theorem graph_of_perm {method : String} {ps : List Provider} {xs : List (Provider × Nat)}
    (tag₁ tag₂ k₁ k₂ : Nat) (T : TypeKey) (hperm : xs.Perm ps.zipIdx)
    (hps : ∀ p ∈ ps, ∀ t ∈ p.provides, ¬ t.Runnable method) :
    ∃ c₁ c₂, Filled method tag₁ ps k₁ T c₁ ∧ Filled method tag₂ (xs.map (·.1)) k₂ T c₂ ∧
      c₁.providers.map (·.role) = (ps.filter fun p => p.Valid).map .provider ∧
      c₂.providers.map (·.role) = ((xs.map (·.1)).filter fun p => p.Valid).map .provider ∧
      c₁.SameGraph c₂ (SameOccurrence ps.zipIdx xs c₁ c₂) ∧
      (((∃ cycle, (buildOrder.run.run c₁).1 = .error (.cyclicDependency cycle)) ∧
          ∃ cycle, (buildOrder.run.run c₂).1 = .error (.cyclicDependency cycle)) ∨
        ∃ order₁ order₂, (buildOrder.run.run c₁).1 = .ok order₁ ∧
          (buildOrder.run.run c₂).1 = .ok order₂ ∧
          SameNodes (SameOccurrence ps.zipIdx xs c₁ c₂) order₁ order₂) := by
  have hfst : ps.zipIdx.map (·.1) = ps := List.zipIdx_map_fst 0 ps
  have hxs : ∀ p ∈ xs.map (·.1), ∀ t ∈ p.provides, ¬ t.Runnable method := by
    intro p hp
    have hp' : p ∈ ps.zipIdx.map (·.1) := (hperm.map (·.1)).mem_iff.mp hp
    exact hps p (hfst ▸ hp')
  -- Each occurrence has a number of its own.
  have hnodup : ps.zipIdx.Nodup := by
    refine List.Nodup.of_map (·.2) ?_
    rw [List.zipIdx_map_snd]
    exact List.nodup_range' 1
  obtain ⟨c₁, hfilled₁, hc₁⟩ := exists_filled tag₁ k₁ T hps
  obtain ⟨c₂, hfilled₂, hc₂⟩ := exists_filled tag₂ k₂ T hxs
  have hc₁' : c₁.Holds (ps.zipIdx.map (·.1)) T := by rwa [hfst]
  have hgraph := (hc₁'.renumbers hc₂ hperm.symm hnodup).sameGraph
    hc₁.reachable.withMissing.consistent hc₂.reachable.withMissing.consistent
  obtain ⟨r, hr, -⟩ := hc₁.root
  exact ⟨c₁, c₂, hfilled₁, hfilled₂, hc₁.providers, hc₂.providers, hgraph,
    hgraph.buildOrders hc₁.reachable.withMissing.consistent hr⟩

/-- Two providers of one type, of which the first requires another type, and one that is refused. -/
def competitors : List Provider :=
  [{ name := "f", params := [.basic "B"], results := [.basic "A"] },
    { name := "g", results := [.basic "A"] }, hasty]

/-- Adding them before the root is set, or the other way round behind it, makes the same graph with
two providers. -/
theorem graph_of_perm_competitors :
    ∃ c₁ c₂, Filled "run" 0 competitors 3 (.basic "A") c₁ ∧
      Filled "run" 0 (competitors.zipIdx.reverse.map (·.1)) 0 (.basic "A") c₂ ∧
      c₁.providers.length = 2 ∧
      c₁.SameGraph c₂ (SameOccurrence competitors.zipIdx competitors.zipIdx.reverse c₁ c₂) := by
  have hps : ∀ p ∈ competitors, ∀ t ∈ p.provides, ¬ t.Runnable "run" := by
    have hnone : ∀ p ∈ competitors, ∀ t ∈ p.provides, t.isRunnable "run" = false := by decide
    intro p hp t ht hrunnable
    have hnot := hnone p hp t ht
    rw [TypeKey.isRunnable_iff.mpr hrunnable] at hnot
    cases hnot
  obtain ⟨c₁, c₂, hfilled₁, hfilled₂, hroles, -, hgraph, -⟩ :=
    graph_of_perm 0 0 3 0 (.basic "A") (List.reverse_perm competitors.zipIdx) hps
  have hlength := congrArg List.length hroles
  rw [List.length_map] at hlength
  exact ⟨c₁, c₂, hfilled₁, hfilled₂, hlength, hgraph⟩

end Container

end Wiring
