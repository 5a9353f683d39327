import Wiring.Proofs.Container.Answers
import Wiring.Proofs.Container.Outcome

/-!
# Constructions with questions in between

A query may make the missing node and does nothing else, so it takes a number that would otherwise
go to a later node. Two containers that went through the same constructions with other queries in
between are therefore `Alike`: roots are detected by the same method, and the roles without the
missing one are the same in the same order (`alike_after_of_constructions_eq`).

In containers that are alike the nodes correspond (`Corresponds`): those that constructions made by
their places among these, and the missing node to the missing node. Corresponding nodes have the
same role (`Corresponds.role_eq`), each node corresponds to one (`Alike.exists_corresponds`,
`Corresponds.biUnique`), and of two nodes that constructions made the earlier one has the smaller
number on either side (`Corresponds.id_lt_iff`).
-/

namespace Wiring.Container

variable {c c₁ c₂ : Container} {n₁ n₂ m₁ m₂ : Node}

/-! ## Containers that differ in the missing node only -/

/-- The operation adds providers or sets the root. -/
def Operation.isConstruction : Operation → Bool
  | .query _ => false
  | _ => true

/-- The constructions among some operations. -/
def constructions (ops : List Operation) : List Operation := ops.filter Operation.isConstruction

/-- The roles of the nodes that constructions made. -/
def builtRoles (c : Container) : List Role := c.roles.filter (!·.isMissing)

/-- The same constructions may have led to both containers: they differ in whether and when the
missing node was made, and in their tags. -/
structure Alike (c₁ c₂ : Container) : Prop where
  /-- Roots are detected by the same method. -/
  rootMethod : c₁.rootMethod = c₂.rootMethod
  /-- Constructions made nodes of the same roles. -/
  builtRoles : c₁.builtRoles = c₂.builtRoles

namespace Alike

/-- A container is like itself. -/
theorem refl (c : Container) : c.Alike c := ⟨rfl, rfl⟩

/-- Two containers can be compared from either side. -/
theorem symm (h : c₁.Alike c₂) : c₂.Alike c₁ := ⟨h.rootMethod.symm, h.builtRoles.symm⟩

/-- What is like the same container is alike. -/
theorem trans {c₃ : Container} (h : c₁.Alike c₂) (h' : c₂.Alike c₃) : c₁.Alike c₃ :=
  ⟨h.rootMethod.trans h'.rootMethod, h.builtRoles.trans h'.builtRoles⟩

/-- A node of the same role keeps containers alike. -/
theorem push (h : c₁.Alike c₂) (role : Role) : (c₁.push role).Alike (c₂.push role) where
  rootMethod := h.rootMethod
  builtRoles := by
    have hroles := h.builtRoles
    unfold Container.builtRoles at hroles ⊢
    unfold Container.push
    rw [List.filter_append, List.filter_append, hroles]

end Alike

/-- The missing node makes no difference. -/
theorem alike_withMissing (c : Container) : c.withMissing.Alike c := by
  cases h : c.roles.any Role.isMissing with
  | true =>
    rw [withMissing_eq_self h]
    exact Alike.refl c
  | false =>
    rw [withMissing_eq_push h]
    refine ⟨rfl, ?_⟩
    unfold builtRoles push
    rw [List.filter_append]
    exact List.append_nil _

/-- The root is among the nodes that constructions made. -/
theorem rootType?_eq_findSome? (c : Container) :
    c.rootType? = c.builtRoles.findSome? Role.rootType? := by
  unfold rootType? builtRoles
  induction c.roles with
  | nil => rfl
  | cons role roles ih =>
    cases role with
    | provider p => exact ih
    | root type => rfl
    | missing => exact ih

/-- Containers that are alike have the same root. -/
theorem Alike.rootType?_eq (h : c₁.Alike c₂) : c₁.rootType? = c₂.rootType? := by
  rw [rootType?_eq_findSome?, rootType?_eq_findSome?, h.builtRoles]

/-! ## Operations keep containers alike -/

/-- Adding a provider leaves containers alike, and fails in both or in neither. -/
theorem Alike.addProvider (h : c₁.Alike c₂) (p : Provider) :
    ((addProvider p).run.run c₁).2.Alike ((addProvider p).run.run c₂).2 ∧
      (((addProvider p).run.run c₁).1.isOk = ((addProvider p).run.run c₂).1.isOk) := by
  rw [addProvider_run_eq, addProvider_run_eq, h.rootMethod, h.rootType?_eq]
  constructor
  · show (c₁.withProvider p).Alike (c₂.withProvider p)
    unfold withProvider
    rw [h.rootMethod, h.rootType?_eq]
    split
    · split
      · exact (h.push _).push _
      · exact h.push _
    · exact h
  · cases p.fault? c₂.rootMethod c₂.rootType? with
    | some e => rfl
    | none => rfl

/-- Adding several providers leaves containers alike. -/
theorem Alike.addProviders (h : c₁.Alike c₂) (ps : List Provider) :
    ((addProviders ps).run.run c₁).2.Alike ((addProviders ps).run.run c₂).2 := by
  induction ps generalizing c₁ c₂ with
  | nil => exact h
  | cons p ps ih =>
    obtain ⟨hfirst, hok⟩ := h.addProvider p
    rw [addProviders_run_cons_snd, addProviders_run_cons_snd]
    generalize (Container.addProvider p).run.run c₁ = result₁ at hfirst hok
    generalize (Container.addProvider p).run.run c₂ = result₂ at hfirst hok
    obtain ⟨_ | _, c₁'⟩ := result₁
    · obtain ⟨_ | _, c₂'⟩ := result₂
      · exact hfirst
      · cases hok
    · obtain ⟨_ | _, c₂'⟩ := result₂
      · cases hok
      · exact ih hfirst

/-- Setting the root leaves containers alike. -/
theorem Alike.setRoot (h : c₁.Alike c₂) (type : TypeKey) :
    ((setRoot type).run.run c₁).2.Alike ((setRoot type).run.run c₂).2 := by
  rw [setRoot_run, setRoot_run, h.rootType?_eq]
  cases c₂.rootType? with
  | some existing => exact h
  | none => exact h.push _

/-- A query leaves a container like itself. -/
theorem alike_query (c : Container) (q : Query) : (q.apply c).Alike c := by
  rcases query_apply c q with h | h
  · rw [h]
    exact Alike.refl c
  · rw [h]
    exact alike_withMissing c

/-- Every operation leaves containers alike. -/
theorem Alike.apply (h : c₁.Alike c₂) (op : Operation) : (op.apply c₁).Alike (op.apply c₂) := by
  cases op with
  | addProvider p => exact (h.addProvider p).1
  | addProviders ps => exact h.addProviders ps
  | setRoot type => exact h.setRoot type
  | query q => exact (alike_query c₁ q).trans (h.trans (alike_query c₂ q).symm)

/-- Only the constructions among the operations matter. -/
theorem Alike.after_constructions (h : c₁.Alike c₂) (ops : List Operation) :
    (c₁.after ops).Alike (c₂.after (constructions ops)) := by
  induction ops generalizing c₁ c₂ with
  | nil => exact h
  | cons op ops ih =>
    cases op with
    | query q => exact ih ((alike_query c₁ q).trans h)
    | addProvider p => exact ih (h.apply (.addProvider p))
    | addProviders ps => exact ih (h.apply (.addProviders ps))
    | setRoot type => exact ih (h.apply (.setRoot type))

/-- Containers that went through the same constructions are alike, whatever was asked in between. -/
theorem alike_after_of_constructions_eq {ops₁ ops₂ : List Operation} (rootMethod : String)
    (tag₁ tag₂ : Nat) (h : constructions ops₁ = constructions ops₂) :
    ((new rootMethod tag₁).after ops₁).Alike ((new rootMethod tag₂).after ops₂) := by
  have hempty : (new rootMethod tag₁).Alike (new rootMethod tag₂) := ⟨rfl, rfl⟩
  have hfirst := hempty.after_constructions ops₁
  have hsecond := (Alike.refl (new rootMethod tag₂)).after_constructions ops₂
  rw [h] at hfirst
  exact hfirst.trans hsecond.symm

/-! ## Corresponding nodes -/

/-- The nodes that constructions made, in their order. -/
def built (c : Container) : List Node := c.members.filter (!·.role.isMissing)

/-- The nodes stand for the same thing in two containers: constructions made them at the same place,
or they are the missing nodes. -/
inductive Corresponds (c₁ c₂ : Container) (n₁ n₂ : Node) : Prop where
  /-- Constructions made both at the same place. -/
  | built (i : Nat) (h₁ : c₁.built[i]? = some n₁) (h₂ : c₂.built[i]? = some n₂)
  /-- Both are the missing node. -/
  | missing (h₁ : c₁.missing? = some n₁) (h₂ : c₂.missing? = some n₂)

/-- A node that constructions made is a node of the container and not the missing one. -/
theorem mem_built_iff : n₁ ∈ c.built ↔ n₁ ∈ c.members ∧ n₁.role.isMissing = false := by
  unfold built
  rw [List.mem_filter, Bool.not_eq_true']

/-- The nodes that constructions made have the roles that constructions made. -/
theorem map_role_built (c : Container) : c.built.map (·.role) = c.builtRoles := by
  unfold built builtRoles
  rw [← map_role_members, List.filter_map]
  rfl

/-- The nodes that constructions made stand in the order of their numbers. -/
theorem pairwise_built (c : Container) : c.built.Pairwise fun m n => m.id < n.id :=
  (pairwise_members c).sublist List.filter_sublist

/-- Of two nodes that constructions made the one with the smaller number stands first. -/
theorem built_id_lt_iff {i j : Nat} (hi : c.built[i]? = some n₁) (hj : c.built[j]? = some m₁) :
    n₁.id < m₁.id ↔ i < j := by
  obtain ⟨hi', rfl⟩ := List.getElem?_eq_some_iff.mp hi
  obtain ⟨hj', rfl⟩ := List.getElem?_eq_some_iff.mp hj
  have hpairwise := List.pairwise_iff_getElem.mp (pairwise_built c)
  rcases Nat.lt_trichotomy i j with hlt | rfl | hlt
  · exact iff_of_true (hpairwise i j hi' hj' hlt) hlt
  · exact iff_of_false (lt_irrefl _) (lt_irrefl _)
  · exact iff_of_false (lt_asymm (hpairwise j i hj' hi' hlt)) (lt_asymm hlt)

namespace Corresponds

/-- A correspondence can be read from the other side. -/
theorem symm (h : Corresponds c₁ c₂ n₁ n₂) : Corresponds c₂ c₁ n₂ n₁ := by
  cases h with
  | built i h₁ h₂ => exact .built i h₂ h₁
  | missing h₁ h₂ => exact .missing h₂ h₁

/-- A node that corresponds to one is a node of its container. -/
theorem mem_members (h : Corresponds c₁ c₂ n₁ n₂) : n₁ ∈ c₁.members := by
  cases h with
  | built i h₁ h₂ => exact (mem_built_iff.mp (List.mem_of_getElem? h₁)).1
  | missing h₁ h₂ => exact (missing?_spec h₁).1

/-- Corresponding nodes have the same role. -/
theorem role_eq (halike : c₁.Alike c₂) (h : Corresponds c₁ c₂ n₁ n₂) : n₁.role = n₂.role := by
  cases h with
  | built i h₁ h₂ =>
    have hrole : (c₁.built.map (·.role))[i]? = (c₂.built.map (·.role))[i]? := by
      rw [map_role_built, map_role_built, halike.builtRoles]
    rw [List.getElem?_map, List.getElem?_map, h₁, h₂] at hrole
    exact Option.some.inj hrole
  | missing h₁ h₂ =>
    rw [Role.eq_missing (missing?_spec h₁).2, Role.eq_missing (missing?_spec h₂).2]

/-- A node corresponds to one node only. -/
theorem right_unique (h : Corresponds c₁ c₂ n₁ n₂) (h' : Corresponds c₁ c₂ n₁ m₂) : n₂ = m₂ := by
  cases h with
  | built i h₁ h₂ =>
    have hnot := (mem_built_iff.mp (List.mem_of_getElem? h₁)).2
    cases h' with
    | built j h₁' h₂' =>
      -- A node stands at one place only, since the numbers ascend.
      have hij : ¬ i < j := fun hlt => lt_irrefl _ ((built_id_lt_iff h₁ h₁').mpr hlt)
      have hji : ¬ j < i := fun hlt => lt_irrefl _ ((built_id_lt_iff h₁' h₁).mpr hlt)
      obtain rfl : i = j := by omega
      rw [h₂] at h₂'
      exact Option.some.inj h₂'
    | missing h₁' h₂' =>
      rw [(missing?_spec h₁').2] at hnot
      cases hnot
  | missing h₁ h₂ =>
    cases h' with
    | built j h₁' h₂' =>
      have hnot := (mem_built_iff.mp (List.mem_of_getElem? h₁')).2
      rw [(missing?_spec h₁).2] at hnot
      cases hnot
    | missing h₁' h₂' =>
      rw [h₂] at h₂'
      exact Option.some.inj h₂'

/-- Each node corresponds to one node only, on either side. -/
theorem biUnique : Relator.BiUnique (Corresponds c₁ c₂) :=
  ⟨fun _ _ _ h h' => h.symm.right_unique h'.symm, fun _ _ _ h h' => h.right_unique h'⟩

/-- Nodes that constructions made have numbers in the same order on either side. -/
theorem id_lt_iff (hn : Corresponds c₁ c₂ n₁ n₂) (hm : Corresponds c₁ c₂ m₁ m₂)
    (hn_built : n₁.role.isMissing = false) (hm_built : m₁.role.isMissing = false) :
    n₁.id < m₁.id ↔ n₂.id < m₂.id := by
  cases hn with
  | built i h₁ h₂ =>
    cases hm with
    | built j h₁' h₂' => rw [built_id_lt_iff h₁ h₁', built_id_lt_iff h₂ h₂']
    | missing h₁' h₂' =>
      rw [(missing?_spec h₁').2] at hm_built
      cases hm_built
  | missing h₁ h₂ =>
    rw [(missing?_spec h₁).2] at hn_built
    cases hn_built

end Corresponds

/-- Provider nodes are made by constructions. -/
theorem filter_isProvider_built (c : Container) :
    c.built.filter (·.role.isProvider) = c.providers := by
  unfold built providers
  rw [List.filter_filter]
  refine List.filter_congr fun n _ => ?_
  cases n.role with
  | provider p => rfl
  | root type => rfl
  | missing => rfl

namespace Alike

/-- Constructions made as many nodes in both containers. -/
theorem length_built (h : c₁.Alike c₂) : c₁.built.length = c₂.built.length := by
  have hroles := congrArg List.length h.builtRoles
  rwa [← map_role_built, ← map_role_built, List.length_map, List.length_map] at hroles

/-- Provider nodes correspond in the order of their insertion. -/
theorem forall₂_providers (h : c₁.Alike c₂) :
    List.Forall₂ (Corresponds c₁ c₂) c₁.providers c₂.providers := by
  have hbuilt : List.Forall₂ (Corresponds c₁ c₂) c₁.built c₂.built :=
    List.forall₂_iff_get.mpr ⟨h.length_built, fun i hi hi' =>
      .built i (List.getElem?_eq_getElem hi) (List.getElem?_eq_getElem hi')⟩
  rw [← filter_isProvider_built c₁, ← filter_isProvider_built c₂]
  refine List.rel_filter ?_ hbuilt
  intro n₁ n₂ hn
  show n₁.role.isProvider = true ↔ n₂.role.isProvider = true
  rw [hn.role_eq h]

/-- Each node corresponds to one of the other container, if that has the missing node too. -/
theorem exists_corresponds (h : c₁.Alike c₂) (hc : c₁.Consistent)
    (hmissing : c₂.roles.any Role.isMissing = true) (hn : n₁ ∈ c₁.members) :
    ∃ n₂, Corresponds c₁ c₂ n₁ n₂ := by
  cases hrole : n₁.role.isMissing with
  | true =>
    obtain ⟨m, hm, hmrole⟩ := exists_mem_members_iff.mpr (List.any_eq_true.mp hmissing)
    obtain ⟨n₂, hn₂⟩ := Option.isSome_iff_exists.mp
      (List.find?_isSome.mpr ⟨m, hm, hmrole⟩ : c₂.missing?.isSome = true)
    exact ⟨n₂, .missing (find?_members_eq_some hc.missing_single hn hrole) hn₂⟩
  | false =>
    obtain ⟨i, hi⟩ := List.getElem?_of_mem (mem_built_iff.mpr ⟨hn, hrole⟩)
    have hlt : i < c₂.built.length := by
      rw [← h.length_built]
      exact (List.getElem?_eq_some_iff.mp hi).1
    exact ⟨_, .built i hi (List.getElem?_eq_getElem hlt)⟩

end Alike

end Wiring.Container
