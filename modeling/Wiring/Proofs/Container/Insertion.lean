import Wiring.Proofs.Container.Filling
import Wiring.Proofs.Container.Persistence

/-!
# One provider more

A provider that is put somewhere among others takes a number, so all later ones have another number
than without it, and its own requirements may be unmet. If nothing that the root needs requires a
type of it, none of this can be seen in what the root needs: the same nodes are needed up to
renumbering, with the same edges between them (`Inserted.sameNeeds`).

The missing node is made when it is asked for. Where nothing is asked while a container is filled it
gets the last number in both cases, and then the numbers of corresponding nodes compare alike, all
but those of the root (`Inserted.id_lt_iff`). No edge leaves the root, so the order of the others
does not depend on where its number stands, and the build orders run in step (`SameNeeds.forall₂`).
-/

namespace Wiring.Container

open Relation

variable {c c₁ c₂ : Container} {p : Provider} {ps xs ys : List Provider} {T U t : TypeKey}
  {n m n₁ n₂ r₁ r₂ u₁ u₂ v v₁ v₂ : Node} {order₁ order₂ : List Node} {R : Node → Node → Prop}

/-! ## What two nodes need -/

/-- The relation takes what the one node needs to what the other needs, each node to one, and edges
between such nodes to edges. -/
structure SameNeeds (c₁ c₂ : Container) (r₁ r₂ : Node) (R : Node → Node → Prop) : Prop where
  /-- What corresponds to something is needed by the one node. -/
  needed_left : ∀ {n₁ n₂}, R n₁ n₂ → c₁.Needed r₁ n₁
  /-- What something corresponds to is needed by the other. -/
  needed_right : ∀ {n₁ n₂}, R n₁ n₂ → c₂.Needed r₂ n₂
  /-- All that the one node needs corresponds to something. -/
  left : ∀ n₁, c₁.Needed r₁ n₁ → ∃ n₂, R n₁ n₂
  /-- Something corresponds to all that the other needs. -/
  right : ∀ n₂, c₂.Needed r₂ n₂ → ∃ n₁, R n₁ n₂
  /-- No node corresponds to two, and no two nodes to one. -/
  biUnique : Relator.BiUnique R
  /-- Edges correspond to edges. -/
  link_iff : ∀ {u₁ v₁ u₂ v₂}, R u₁ u₂ → R v₁ v₂ → (c₁.Link u₁ v₁ ↔ c₂.Link u₂ v₂)
  /-- The two nodes themselves correspond. -/
  root : R r₁ r₂

namespace SameNeeds

/-- The two can be taken in either order. -/
theorem symm (h : SameNeeds c₁ c₂ r₁ r₂ R) : SameNeeds c₂ c₁ r₂ r₁ (flip R) where
  needed_left := h.needed_right
  needed_right := h.needed_left
  left := h.right
  right := h.left
  biUnique := ⟨fun _ _ _ hn hm => h.biUnique.2 hn hm, fun _ _ _ hn hm => h.biUnique.1 hn hm⟩
  link_iff hu hv := (h.link_iff hu hv).symm
  root := h.root

/-- A path in what is needed corresponds to such a path. -/
theorem transGen (h : SameNeeds c₁ c₂ r₁ r₂ R) (hm : R u₁ u₂) (hn : R n₁ n₂)
    (hpath : TransGen (c₁.Within r₁) u₁ n₁) : TransGen (c₂.Within r₂) u₂ n₂ := by
  have hstep : ∀ {u₁ u₂ v₁ v₂}, R u₁ u₂ → R v₁ v₂ → c₁.Within r₁ u₁ v₁ → c₂.Within r₂ u₂ v₂ :=
    fun hu hv hwithin => ⟨(h.link_iff hu hv).mp hwithin.1, h.needed_right hu, h.needed_right hv⟩
  induction hpath generalizing n₂ with
  | single hfirst => exact TransGen.single (hstep hm hn hfirst)
  | tail _ hlast ih =>
    obtain ⟨k₂, hk⟩ := h.left _ hlast.2.1
    exact (ih hk).tail (hstep hk hn hlast)

/-- A cycle in what is needed corresponds to one. -/
theorem exists_within (h : SameNeeds c₁ c₂ r₁ r₂ R)
    (hcycle : ∃ n, TransGen (c₁.Within r₁) n n) : ∃ n, TransGen (c₂.Within r₂) n n := by
  obtain ⟨n₁, hself⟩ := hcycle
  obtain ⟨m₁, hfirst, -⟩ := TransGen.head'_iff.mp hself
  obtain ⟨n₂, hn⟩ := h.left n₁ hfirst.2.1
  exact ⟨n₂, h.transGen hn hn hself⟩

/-- There is a cycle in both or in neither. -/
theorem exists_within_iff (h : SameNeeds c₁ c₂ r₁ r₂ R) :
    (∃ n, TransGen (c₁.Within r₁) n n) ↔ ∃ n, TransGen (c₂.Within r₂) n n :=
  ⟨h.exists_within, h.symm.exists_within⟩

/-- A node that stands before the root in a build order corresponds to one that does. -/
theorem exists_mem_init (h : SameNeeds c₁ c₂ r₁ r₂ R) {init₁ init₂ : List Node}
    (h₁ : c₁.IsBuildOrder r₁ (init₁ ++ [r₁])) (h₂ : c₂.IsBuildOrder r₂ (init₂ ++ [r₂]))
    (hn : n₁ ∈ init₁) : ∃ n₂ ∈ init₂, R n₁ n₂ := by
  have hneeded : c₁.Needed r₁ n₁ := (h₁.mem_iff n₁).mp (List.mem_append_left _ hn)
  obtain ⟨n₂, hR⟩ := h.left n₁ hneeded
  have hlisted := (h₂.mem_iff n₂).mpr (h.needed_right hR)
  refine ⟨n₂, (List.mem_append.mp hlisted).resolve_right fun hroot => ?_, hR⟩
  -- Only the root corresponds to the root.
  rw [List.mem_singleton.mp hroot] at hR
  have hroot₁ : n₁ = r₁ := h.biUnique.1 hR h.root
  exact List.disjoint_of_nodup_append h₁.nodup hn (List.mem_singleton.mpr hroot₁)

/-- Build orders for corresponding roots run in step if the numbers of other nodes compare alike. -/
theorem forall₂ (h : SameNeeds c₁ c₂ r₁ r₂ R) (h₁ : c₁.IsBuildOrder r₁ order₁)
    (h₂ : c₂.IsBuildOrder r₂ order₂) (hleast₁ : LeastFirst c₁.Link (·.id) order₁)
    (hleast₂ : LeastFirst c₂.Link (·.id) order₂)
    (hid : ∀ u₁ v₁ u₂ v₂, u₁ ≠ r₁ → v₁ ≠ r₁ → R u₁ u₂ → R v₁ v₂ →
      (u₁.id < v₁.id ↔ u₂.id < v₂.id)) : List.Forall₂ R order₁ order₂ := by
  -- The root stands last in both, and the others do not wait for it.
  obtain ⟨init₁, rfl⟩ := List.getLast?_eq_some_iff.mp h₁.last
  obtain ⟨init₂, rfl⟩ := List.getLast?_eq_some_iff.mp h₂.last
  have hne : ∀ n ∈ init₁, n ≠ r₁ := fun n hn heq =>
    List.disjoint_of_nodup_append h₁.nodup hn (List.mem_singleton.mpr heq)
  have hmatch : Matching c₁.Link (·.id) init₁ c₂.Link (·.id) init₂ R := {
    left := fun n₁ hn₁ => h.exists_mem_init h₁ h₂ hn₁
    right := fun n₂ hn₂ => h.symm.exists_mem_init h₂ h₁ hn₂
    biUnique := h.biUnique
    arc_iff := fun _ _ _ _ hu hv => h.link_iff hu hv
    key_iff := fun u₁ hu₁ v₁ hv₁ u₂ v₂ hu hv =>
      hid u₁ v₁ u₂ v₂ (hne u₁ hu₁) (hne v₁ hv₁) hu hv }
  have hinit := hleast₁.of_append.forall₂ hleast₂.of_append hmatch
  exact List.rel_append hinit (List.Forall₂.cons h.root List.Forall₂.nil)

end SameNeeds

/-! ## Edges by their target -/

/-- An edge leads from a node other than the missing one to those that require what it provides. -/
theorem link_iff_of_not_isMissing (hu : u₁ ∈ c.members) (hv : v ∈ c.members)
    (h : u₁.role.isMissing = false) :
    c.Link u₁ v ↔ ∃ t ∈ v.requires, u₁.role.provides.contains t = true := by
  unfold Link
  rw [and_iff_right hu, and_iff_right hv]
  simp only [supplies_iff_of_not_isMissing h]

/-- An edge leads from the missing node to those that require what nobody provides. -/
theorem link_iff_of_isMissing (hu : u₁ ∈ c.members) (hv : v ∈ c.members)
    (h : u₁.role.isMissing = true) : c.Link u₁ v ↔ ∃ t ∈ v.requires, ¬ c.Provided t := by
  unfold Link
  rw [and_iff_right hu, and_iff_right hv]
  refine exists_congr fun t => and_congr_right fun ht => ?_
  rw [supplies_iff_of_isMissing h, and_iff_right (required_of_mem hv ht)]

/-- What is provided is provided by one of the valid providers that the container holds. -/
theorem Holds.provided_iff (h : c.Holds ps T) :
    c.withMissing.Provided t ↔ ∃ q ∈ ps, q.Valid ∧ q.provides.contains t = true := by
  have hroles : (∃ n ∈ c.providers, (c.withMissing.provides n).contains t = true) ↔
      ∃ role ∈ c.providers.map (·.role), role.provides.contains t = true := by
    simp only [List.mem_map, exists_exists_and_eq_and]
    refine exists_congr fun n => and_congr_right fun hn => ?_
    rw [provides_of_not_isMissing (mem_providers_spec hn).2]
  rw [provided_iff_exists_provider, providers_withMissing, hroles, h.providers]
  simp only [List.mem_map, exists_exists_and_eq_and]
  simp only [List.mem_filter, decide_eq_true_eq, and_assoc]
  rfl

/-- A missing node that is made when all others are there has a larger number than these. -/
theorem id_lt_of_missing? (hc : c.roles.any Role.isMissing = false)
    (hm : c.withMissing.missing? = some m) (hn : n ∈ c.members) : n.id < m.id := by
  obtain ⟨i, hi⟩ := mem_members_iff.mp hn
  have hlt : i < c.nextId := lt_of_node? hi
  rw [withMissing_eq_push hc, missing?_push, missing?_eq_none hc, Option.none_or] at hm
  obtain rfl : c.nodeOf c.nextId .missing = m := Option.some.inj hm
  rw [id_eq_of_node? hi]
  exact Int.ofNat_lt.mpr hlt

/-! ## A provider that nobody needs -/

/-- The node requires a type that the provider provides. -/
def Wants (n : Node) (p : Provider) : Prop := ∃ t ∈ n.requires, p.provides.contains t = true

/-- Neither the root nor anything that it transitively requires requires a type of the provider. -/
def Unneeded (c : Container) (p : Provider) : Prop :=
  ∀ r, c.root? = some r → ∀ n, c.withMissing.Needed r n → ¬ Wants n p

/-- Both containers hold the same providers, but for one that the second has besides, and equal
roots. The missing node has been made in neither. -/
structure Inserted (xs : List Provider) (p : Provider) (ys : List Provider) (c₁ c₂ : Container)
    (T U : TypeKey) : Prop where
  /-- The first container has not the one provider. -/
  left : c₁.Holds (xs ++ ys) T
  /-- The second one has. -/
  right : c₂.Holds (xs ++ p :: ys) U
  /-- The roots have the same type. -/
  root : (T == U) = true
  /-- There is no missing node in the first container. -/
  unasked_left : c₁.roles.any Role.isMissing = false
  /-- And none in the second. -/
  unasked_right : c₂.roles.any Role.isMissing = false

/-- Both nodes stand for the same one of the common providers, both are the root, or both are the
missing node. -/
def Counterpart (xs : List Provider) (p : Provider) (ys : List Provider) (c₁ c₂ : Container) :
    Node → Node → Prop :=
  SameOccurrence (spaced xs ys) (xs ++ p :: ys).zipIdx c₁ c₂

namespace Inserted

/-- The occurrences that the first container holds. -/
theorem holds_left (h : Inserted xs p ys c₁ c₂ T U) : c₁.Holds ((spaced xs ys).map (·.1)) T := by
  rw [map_fst_spaced]
  exact h.left

/-- The occurrences that the second container holds. -/
theorem holds_right (h : Inserted xs p ys c₁ c₂ T U) :
    c₂.Holds ((xs ++ p :: ys).zipIdx.map (·.1)) U := by
  have hfst := List.zipIdx_map_fst 0 (xs ++ p :: ys)
  rw [hfst]
  exact h.right

/-- Every node of the first container has a counterpart. -/
theorem exists_right (h : Inserted xs p ys c₁ c₂ T U) (hn : n₁ ∈ c₁.withMissing.members) :
    ∃ n₂, Counterpart xs p ys c₁ c₂ n₁ n₂ :=
  h.holds_left.exists_sameOccurrence h.holds_right (spaced_sublist xs p ys).subset hn

/-- Every node of the second container is a counterpart or stands for the one provider. -/
theorem exists_left (h : Inserted xs p ys c₁ c₂ T U) (hn : n₂ ∈ c₂.withMissing.members) :
    (∃ n₁, Counterpart xs p ys c₁ c₂ n₁ n₂) ∨
      Stands (xs ++ p :: ys).zipIdx c₂ n₂ (p, xs.length) := by
  rcases h.holds_right.exists_sameOccurrence_or h.holds_left hn with ⟨n₁, hsame⟩ | ⟨x, hx, hstands⟩
  · exact Or.inl ⟨n₁, hsame.symm⟩
  · have hlisted := (List.mem_filter.mp hstands.mem_filter).1
    obtain rfl := (mem_spaced_of_mem_zipIdx hlisted).resolve_left hx
    exact Or.inr hstands

/-- A node has one counterpart only, and is that of one only. -/
theorem biUnique (h : Inserted xs p ys c₁ c₂ T U) :
    Relator.BiUnique (Counterpart xs p ys c₁ c₂) := by
  have hlong := pairwise_zipIdx (xs ++ p :: ys)
  have hshort := hlong.sublist (spaced_sublist xs p ys)
  refine ⟨fun _ _ _ hn hm => ?_, fun _ _ _ hn hm => ?_⟩
  · exact SameOccurrence.right_unique h.holds_right (nodup_of_pairwise_snd hshort) hn.symm hm.symm
  · exact SameOccurrence.right_unique h.holds_left (nodup_of_pairwise_snd hlong) hn hm

/-- Counterparts have the same role, except that the keys of the root may carry other methods. -/
theorem role_cases (h : Inserted xs p ys c₁ c₂ T U) (hn : Counterpart xs p ys c₁ c₂ n₁ n₂) :
    n₁.role = n₂.role ∨ n₁.role = .root T ∧ n₂.role = .root U := by
  cases hn with
  | provider x hn₁ hn₂ =>
    left
    rw [h.holds_left.role_of_stands hn₁, h.holds_right.role_of_stands hn₂]
  | root hn₁ hn₂ => exact Or.inr ⟨h.left.role_of_root? hn₁, h.right.role_of_root? hn₂⟩
  | missing hn₁ hn₂ =>
    left
    rw [Role.eq_missing (missing?_spec hn₁).2, Role.eq_missing (missing?_spec hn₂).2]

/-- Counterparts provide the same of themselves. -/
theorem provides_eq (h : Inserted xs p ys c₁ c₂ T U) (hn : Counterpart xs p ys c₁ c₂ n₁ n₂) :
    n₁.role.provides = n₂.role.provides := by
  rcases h.role_cases hn with heq | ⟨h₁, h₂⟩
  · rw [heq]
  · rw [h₁, h₂]
    rfl

/-- The counterpart of the missing node is the missing node. -/
theorem isMissing_eq (h : Inserted xs p ys c₁ c₂ T U) (hn : Counterpart xs p ys c₁ c₂ n₁ n₂) :
    n₁.role.isMissing = n₂.role.isMissing := by
  rcases h.role_cases hn with heq | ⟨h₁, h₂⟩
  · rw [heq]
  · rw [h₁, h₂]
    rfl

/-- Counterparts require equal types. -/
theorem exists_requires_iff (h : Inserted xs p ys c₁ c₂ T U)
    (hn : Counterpart xs p ys c₁ c₂ n₁ n₂) {P : TypeKey → Prop}
    (hP : ∀ {s t}, (s == t) = true → (P s ↔ P t)) :
    (∃ t ∈ n₁.requires, P t) ↔ ∃ t ∈ n₂.requires, P t := by
  unfold Node.requires
  rcases h.role_cases hn with heq | ⟨h₁, h₂⟩
  · rw [heq]
  · rw [h₁, h₂]
    simp only [Role.requires, List.mem_singleton, exists_eq_left]
    exact hP h.root

/-- Counterparts want the provider both or neither. -/
theorem wants_iff (h : Inserted xs p ys c₁ c₂ T U) (hn : Counterpart xs p ys c₁ c₂ n₁ n₂) :
    Wants n₁ p ↔ Wants n₂ p :=
  h.exists_requires_iff hn fun heq => by rw [List.contains_congr heq]

/-- A type that the one provider does not provide is provided in both containers or in neither. -/
theorem provided_iff (h : Inserted xs p ys c₁ c₂ T U) (ht : ¬ p.provides.contains t = true) :
    c₁.withMissing.Provided t ↔ c₂.withMissing.Provided t := by
  rw [h.left.provided_iff, h.right.provided_iff]
  constructor
  · rintro ⟨q, hq, hprovides⟩
    rcases List.mem_append.mp hq with hq | hq
    · exact ⟨q, List.mem_append_left _ hq, hprovides⟩
    · exact ⟨q, List.mem_append_right _ (List.mem_cons_of_mem p hq), hprovides⟩
  · rintro ⟨q, hq, hvalid, hprovides⟩
    rcases List.mem_append.mp hq with hq | hq
    · exact ⟨q, List.mem_append_left _ hq, hvalid, hprovides⟩
    · rcases List.mem_cons.mp hq with rfl | hq
      · exact absurd hprovides ht
      · exact ⟨q, List.mem_append_right _ hq, hvalid, hprovides⟩

/-- Edges to nodes that do not want the one provider lead from counterparts to counterparts. -/
theorem link_iff (h : Inserted xs p ys c₁ c₂ T U) (hu : Counterpart xs p ys c₁ c₂ u₁ u₂)
    (hv : Counterpart xs p ys c₁ c₂ v₁ v₂) (hwants : ¬ Wants v₁ p) :
    c₁.withMissing.Link u₁ v₁ ↔ c₂.withMissing.Link u₂ v₂ := by
  have hu₁ := hu.mem_members
  have hu₂ := hu.symm.mem_members
  have hv₁ := hv.mem_members
  have hv₂ := hv.symm.mem_members
  have hrole := h.isMissing_eq hu
  cases hmissing : u₂.role.isMissing with
  | false =>
    rw [hmissing] at hrole
    rw [link_iff_of_not_isMissing hu₁ hv₁ hrole, link_iff_of_not_isMissing hu₂ hv₂ hmissing,
      h.provides_eq hu]
    exact h.exists_requires_iff hv fun heq => by rw [List.contains_congr heq]
  | true =>
    rw [hmissing] at hrole
    rw [link_iff_of_isMissing hu₁ hv₁ hrole, link_iff_of_isMissing hu₂ hv₂ hmissing,
      h.exists_requires_iff hv fun heq => not_congr (provided_congr heq)]
    -- What is left are types that the one provider does not provide.
    rw [h.wants_iff hv] at hwants
    refine exists_congr fun t => and_congr_right fun ht => not_congr (h.provided_iff ?_)
    exact fun hprovides => hwants ⟨t, ht, hprovides⟩

/-- No edge leads from the one provider to a node that does not want it. -/
theorem not_link (h : Inserted xs p ys c₁ c₂ T U)
    (hu : Stands (xs ++ p :: ys).zipIdx c₂ u₂ (p, xs.length)) (hwants : ¬ Wants v p) :
    ¬ c₂.withMissing.Link u₂ v := by
  intro hlink
  have hrole := h.holds_right.role_of_stands hu
  have hmissing : u₂.role.isMissing = false := by
    rw [hrole]
    rfl
  have hsupplied := (link_iff_of_not_isMissing hlink.1 hlink.2.1 hmissing).mp hlink
  rw [hrole] at hsupplied
  exact hwants hsupplied

/-! ### What the root needs -/

/-- What is needed in both containers does not want the one provider. -/
theorem not_wants (h : Inserted xs p ys c₁ c₂ T U) (hp : c₁.Unneeded p ∨ c₂.Unneeded p)
    (hr₁ : c₁.root? = some r₁) (hr₂ : c₂.root? = some r₂)
    (hn : Counterpart xs p ys c₁ c₂ n₁ n₂) (hn₁ : c₁.withMissing.Needed r₁ n₁)
    (hn₂ : c₂.withMissing.Needed r₂ n₂) : ¬ Wants n₁ p := by
  rcases hp with hp | hp
  · exact hp r₁ hr₁ n₁ hn₁
  · rw [h.wants_iff hn]
    exact hp r₂ hr₂ n₂ hn₂

/-- The root needs what its counterpart needs, and with the same edges. -/
theorem sameNeeds (h : Inserted xs p ys c₁ c₂ T U) (hp : c₁.Unneeded p ∨ c₂.Unneeded p)
    (hr₁ : c₁.root? = some r₁) (hr₂ : c₂.root? = some r₂) :
    SameNeeds c₁.withMissing c₂.withMissing r₁ r₂ fun n₁ n₂ =>
      Counterpart xs p ys c₁ c₂ n₁ n₂ ∧ c₁.withMissing.Needed r₁ n₁ ∧
        c₂.withMissing.Needed r₂ n₂ where
  needed_left hR := hR.2.1
  needed_right hR := hR.2.2
  biUnique := ⟨fun _ _ _ hn hm => h.biUnique.1 hn.1 hm.1, fun _ _ _ hn hm => h.biUnique.2 hn.1 hm.1⟩
  link_iff hu hv := h.link_iff hu.1 hv.1 (h.not_wants hp hr₁ hr₂ hv.1 hv.2.1 hv.2.2)
  root := ⟨.root hr₁ hr₂, ReflTransGen.refl, ReflTransGen.refl⟩
  left n₁ hneeded := by
    -- The induction goes along the path to the root, from its end.
    induction hneeded using ReflTransGen.head_induction_on with
    | refl => exact ⟨r₂, .root hr₁ hr₂, ReflTransGen.refl, ReflTransGen.refl⟩
    | @head u₁ v₁ hlink hneeded ih =>
      obtain ⟨v₂, hv, hv₁, hv₂⟩ := ih
      have hwants := h.not_wants hp hr₁ hr₂ hv hv₁ hv₂
      obtain ⟨u₂, hu⟩ := h.exists_right hlink.1
      have hlink₂ := (h.link_iff hu hv hwants).mp hlink
      exact ⟨u₂, hu, ReflTransGen.head hlink hv₁, ReflTransGen.head hlink₂ hv₂⟩
  right n₂ hneeded := by
    induction hneeded using ReflTransGen.head_induction_on with
    | refl => exact ⟨r₁, .root hr₁ hr₂, ReflTransGen.refl, ReflTransGen.refl⟩
    | @head u₂ v₂ hlink hneeded ih =>
      obtain ⟨v₁, hv, hv₁, hv₂⟩ := ih
      have hwants := h.not_wants hp hr₁ hr₂ hv hv₁ hv₂
      rcases h.exists_left hlink.1 with ⟨u₁, hu⟩ | hgap
      · have hlink₁ := (h.link_iff hu hv hwants).mpr hlink
        exact ⟨u₁, hu, ReflTransGen.head hlink₁ hv₁, ReflTransGen.head hlink hv₂⟩
      · rw [h.wants_iff hv] at hwants
        exact absurd hlink (h.not_link hgap hwants)

/-! ### Numbers -/

/-- The numbers of counterparts other than the root compare alike. -/
theorem id_lt_iff (h : Inserted xs p ys c₁ c₂ T U) (hr₁ : c₁.root? = some r₁)
    (hu : Counterpart xs p ys c₁ c₂ u₁ u₂) (hv : Counterpart xs p ys c₁ c₂ v₁ v₂) (hu_ne : u₁ ≠ r₁)
    (hv_ne : v₁ ≠ r₁) : u₁.id < v₁.id ↔ u₂.id < v₂.id := by
  have hlong := pairwise_zipIdx (xs ++ p :: ys)
  have hshort := hlong.sublist (spaced_sublist xs p ys)
  cases hu with
  | root hu₁ hu₂ => exact absurd (Option.some.inj (hu₁.symm.trans hr₁)) hu_ne
  | provider x hu₁ hu₂ =>
    cases hv with
    | root hv₁ hv₂ => exact absurd (Option.some.inj (hv₁.symm.trans hr₁)) hv_ne
    | provider y hv₁ hv₂ =>
      rw [hu₁.id_lt_iff h.left.reachable hshort hv₁, hu₂.id_lt_iff h.right.reachable hlong hv₂]
    | missing hv₁ hv₂ =>
      have hlt₁ := id_lt_of_missing? h.unasked_left hv₁ (mem_providers_spec hu₁.mem_providers).1
      have hlt₂ := id_lt_of_missing? h.unasked_right hv₂ (mem_providers_spec hu₂.mem_providers).1
      exact iff_of_true hlt₁ hlt₂
  | missing hu₁ hu₂ =>
    cases hv with
    | root hv₁ hv₂ => exact absurd (Option.some.inj (hv₁.symm.trans hr₁)) hv_ne
    | provider y hv₁ hv₂ =>
      have hlt₁ := id_lt_of_missing? h.unasked_left hu₁ (mem_providers_spec hv₁.mem_providers).1
      have hlt₂ := id_lt_of_missing? h.unasked_right hu₂ (mem_providers_spec hv₂.mem_providers).1
      exact iff_of_false (lt_asymm hlt₁) (lt_asymm hlt₂)
    | missing hv₁ hv₂ =>
      obtain rfl := Option.some.inj (hu₁.symm.trans hv₁)
      obtain rfl := Option.some.inj (hu₂.symm.trans hv₂)
      exact iff_of_false (lt_irrefl _) (lt_irrefl _)

/-! ### Build orders -/

/-- No node that has a counterpart in front of it stands for the one provider. -/
theorem not_stands (h : Inserted xs p ys c₁ c₂ T U) (hn : Counterpart xs p ys c₁ c₂ n₁ n₂) :
    ¬ Stands (xs ++ p :: ys).zipIdx c₂ n₂ (p, xs.length) := by
  intro hgap
  have hrole := h.holds_right.role_of_stands hgap
  cases hn with
  | provider x hn₁ hn₂ =>
    obtain rfl := hn₂.right_unique h.right.reachable hgap
    exact not_mem_spaced xs p ys (List.mem_filter.mp hn₁.mem_filter).1
  | root hn₁ hn₂ => cases hrole.symm.trans (h.right.role_of_root? hn₂)
  | missing hn₁ hn₂ => cases hrole.symm.trans (Role.eq_missing (missing?_spec hn₂).2)

/-- Without and with the one provider a cycle is reported, or neither time, and then the two build
orders run in step. -/
theorem buildOrders (h : Inserted xs p ys c₁ c₂ T U) (hp : c₁.Unneeded p ∨ c₂.Unneeded p) :
    ((∃ cycle, (buildOrder.run.run c₁).1 = .error (.cyclicDependency cycle)) ∧
        ∃ cycle, (buildOrder.run.run c₂).1 = .error (.cyclicDependency cycle)) ∨
      ∃ order₁ order₂, buildOrder.run.run c₁ = (.ok order₁, c₁.withMissing) ∧
        buildOrder.run.run c₂ = (.ok order₂, c₂.withMissing) ∧
        List.Forall₂ (Counterpart xs p ys c₁ c₂) order₁ order₂ := by
  have hc₁ := h.left.reachable.withMissing.consistent
  have hc₂ := h.right.reachable.withMissing.consistent
  obtain ⟨r₁, hr₁, -⟩ := h.left.root
  obtain ⟨r₂, hr₂, -⟩ := h.right.root
  have hneeds := h.sameNeeds hp hr₁ hr₂
  rcases buildOrder_cases_of_cycle hc₁ hr₁ with ⟨hcycle, cycle, hrun₁⟩ | ⟨hnone, order₁, hrun₁⟩
  · have hcyclic₂ := (exists_cyclicDependency_iff hc₂).mpr
      ⟨r₂, hr₂, hneeds.exists_within_iff.mp hcycle⟩
    exact Or.inl ⟨⟨cycle, by rw [hrun₁]⟩, hcyclic₂⟩
  · rcases buildOrder_cases_of_cycle hc₂ hr₂ with ⟨hcycle, -⟩ | ⟨-, order₂, hrun₂⟩
    · exact absurd (hneeds.exists_within_iff.mpr hcycle) hnone
    refine Or.inr ⟨order₁, order₂, hrun₁, hrun₂, ?_⟩
    obtain ⟨s₁, hs₁, hbuild₁, hleast₁⟩ := buildOrder_eq_ok hc₁ (congrArg Prod.fst hrun₁)
    obtain ⟨s₂, hs₂, hbuild₂, hleast₂⟩ := buildOrder_eq_ok hc₂ (congrArg Prod.fst hrun₂)
    obtain rfl := Option.some.inj (hr₁.symm.trans hs₁)
    obtain rfl := Option.some.inj (hr₂.symm.trans hs₂)
    have hstep := hneeds.forall₂ hbuild₁ hbuild₂ hleast₁ hleast₂ fun u₁ v₁ u₂ v₂ hu hv hR hR' =>
      h.id_lt_iff hr₁ hR.1 hR'.1 hu hv
    exact hstep.imp fun _ _ hR => hR.1

end Inserted

end Wiring.Container
