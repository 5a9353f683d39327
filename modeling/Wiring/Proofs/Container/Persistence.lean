import Wiring.Proofs.Container.Answers
import Wiring.Proofs.Container.Outcome

/-!
# Edges persist

Edges are computed anew from the two indices whenever they are asked for. Nevertheless an edge
between two nodes, the missing node aside as its source, stays as it is whatever is done with the
container: what a node provides and requires was fixed when it was made. The missing node has edges
for what is unsatisfied, and among the types that a node requires these become fewer as providers of
them are added, and never more (`Persists`, `Reachable.persists`). One type stays among them for
ever, the error channel, which no provider provides.

The index of what is required only grows at its end, by types that no earlier node requires
(`exists_types_append`), so the types that are left keep their order.
-/

namespace Wiring

/-- The distinct types of the first part of a list stand in front, and those behind are not in it. -/
theorem TypeKey.exists_distinct_append (ts us : List TypeKey) :
    ∃ extra, distinct (ts ++ us) = distinct ts ++ extra ∧
      ∀ t ∈ extra, ts.contains t = false := by
  induction us using List.reverseRecOn with
  | nil => exact ⟨[], by rw [List.append_nil, List.append_nil], by simp⟩
  | append_singleton us u ih =>
    obtain ⟨extra, hextra, hnew⟩ := ih
    rw [← List.append_assoc, distinct_concat, hextra]
    split
    · exact ⟨extra, rfl, hnew⟩
    · rename_i hu
      have hts : ts.contains u = false := by
        rw [Bool.eq_false_iff, ← contains_distinct]
        intro hcontains
        simp only [List.contains_append, hcontains, Bool.true_or, not_true_eq_false] at hu
      refine ⟨extra ++ [u], by rw [List.append_assoc], ?_⟩
      intro t ht
      rcases List.mem_append.mp ht with ht | ht
      · exact hnew t ht
      · rwa [List.mem_singleton.mp ht]

namespace Container

variable {c c' : Container} {added : List Node} {m n u v : Node} {t : TypeKey}

/-! ## What is provided and required later -/

/-- Nodes other than the missing one provide what they provide of themselves. -/
theorem provides_of_not_isMissing (h : n.role.isMissing = false) :
    c.provides n = n.role.provides := by
  unfold provides
  cases hrole : n.role with
  | provider p => rfl
  | root type => rfl
  | missing =>
    rw [hrole] at h
    cases h

/-- A provider node is a node of the container and not the missing one. -/
theorem mem_providers_spec (h : n ∈ c.providers) : n ∈ c.members ∧ n.role.isMissing = false := by
  obtain ⟨hn, hrole⟩ := List.mem_filter.mp h
  obtain ⟨p, hp⟩ := Role.exists_eq_provider hrole
  exact ⟨hn, by rw [hp]; rfl⟩

/-- What is provided is provided by a provider node. -/
theorem provided_iff_exists_provider :
    c.Provided t ↔ ∃ n ∈ c.providers, (c.provides n).contains t = true := by
  unfold Provided
  rw [← exists_mem_members_iff]
  constructor
  · rintro ⟨n, hn, hprovides⟩
    cases hrole : n.role with
    | provider p =>
      have hprovider : n ∈ c.providers := List.mem_filter.mpr ⟨hn, by rw [hrole]; rfl⟩
      have hmissing := (mem_providers_spec hprovider).2
      exact ⟨n, hprovider, by rwa [provides_of_not_isMissing hmissing]⟩
    | root type =>
      rw [hrole] at hprovides
      cases hprovides
    | missing =>
      rw [hrole] at hprovides
      cases hprovides
  · rintro ⟨n, hn, hprovides⟩
    obtain ⟨hmem, hmissing⟩ := mem_providers_spec hn
    exact ⟨n, hmem, by rwa [← provides_of_not_isMissing hmissing]⟩

/-- What is unmet later was unmet before, and no added provider provides it. -/
theorem isUnmet_eq (hc : c.Consistent) (hc' : c'.Consistent)
    (hadded : c'.providers = c.providers ++ added) (t : TypeKey) :
    c'.isUnmet t = (c.isUnmet t && !added.any fun n => (c'.provides n).contains t) := by
  have hsame : ∀ n ∈ c.providers, c'.provides n = c.provides n := by
    intro n hn
    have hmissing := (mem_providers_spec hn).2
    rw [provides_of_not_isMissing hmissing, provides_of_not_isMissing hmissing]
  have hprovided : c'.Provided t ↔
      c.Provided t ∨ (added.any fun n => (c'.provides n).contains t) = true := by
    rw [provided_iff_exists_provider, provided_iff_exists_provider, hadded, List.any_eq_true]
    simp only [List.mem_append, or_and_right, exists_or]
    refine or_congr_left (exists_congr fun n => and_congr_right fun hn => ?_)
    rw [hsame n hn]
  rw [Bool.eq_iff_iff, Bool.and_eq_true, isUnmet_iff hc, isUnmet_iff hc', hprovided, not_or,
    Bool.not_eq_true', Bool.not_eq_true]

/-- Types that are first required later stand behind the others, and no earlier node requires
them. -/
theorem exists_types_append (hc : c.Consistent) (hc' : c'.Consistent) (h : c.Keeps c') :
    ∃ extra, c'.requiredBy.types = c.requiredBy.types ++ extra ∧
      ∀ t ∈ extra, ∀ v ∈ c.members, v.requires.contains t = false := by
  obtain ⟨rest, hrest⟩ := h.members
  have hroles : c'.roles = c.roles ++ rest.map (·.role) := by
    rw [← map_role_members c', ← hrest, List.map_append, map_role_members]
  obtain ⟨extra, hextra, hnew⟩ := TypeKey.exists_distinct_append
    (c.roles.flatMap Role.requires) ((rest.map (·.role)).flatMap Role.requires)
  refine ⟨extra, ?_, ?_⟩
  · rw [hc.requiredBy.types, hc'.requiredBy.types, hroles, List.flatMap_append, hextra]
  · intro t ht v hv
    have hnot := hnew t ht
    rw [List.contains_flatMap, List.any_eq_false] at hnot
    have hrole : v.role ∈ c.roles := by
      rw [← map_role_members c]
      exact List.mem_map_of_mem hv
    exact Bool.eq_false_iff.mpr (hnot v.role hrole)

/-- Among the types that a node requires, those are unsatisfied later that were so before and that no
added provider provides. -/
theorem filter_unsatisfied (hc : c.Consistent) (hc' : c'.Consistent) (h : c.Keeps c')
    (hadded : c'.providers = c.providers ++ added) (hv : v ∈ c.members) :
    c'.unsatisfied.filter (fun t => v.requires.contains t) =
      (c.unsatisfied.filter fun t => v.requires.contains t).filter
        fun t => !added.any fun n => (c'.provides n).contains t := by
  obtain ⟨extra, hextra, hnew⟩ := exists_types_append hc hc' h
  have hnone : (extra.filter c'.isUnmet).filter (fun t => v.requires.contains t) = [] := by
    rw [List.filter_eq_nil_iff]
    intro t ht
    rw [hnew t (List.mem_filter.mp ht).1 v hv]
    decide
  unfold unsatisfied
  rw [hextra, List.filter_append, List.filter_append, hnone, List.append_nil]
  simp only [List.filter_filter]
  refine List.filter_congr fun t _ => ?_
  rw [isUnmet_eq hc hc' hadded t]
  -- Both sides are the same three conditions.
  cases v.requires.contains t with
  | false => simp
  | true => simp [Bool.and_comm]

/-! ## The types on edges -/

/-- No two unsatisfied types are equal. -/
theorem pairwise_unsatisfied (hc : c.Consistent) :
    c.unsatisfied.Pairwise fun s t => (s == t) = false := by
  unfold unsatisfied
  rw [hc.requiredBy.types]
  exact (TypeKey.pairwise_distinct _).filter _

/-- The missing node is connected to a node by the unsatisfied types that this requires. -/
theorem connectingTypes_missing (hc : c.Consistent) (hm : m ∈ c.members)
    (hrole : m.role.isMissing = true) (hv : v ∈ c.members) :
    c.connectingTypes m v = c.unsatisfied.filter fun t => v.requires.contains t := by
  have hprovides : c.provides m = c.unsatisfied := by
    unfold provides
    rw [Role.eq_missing hrole]
    rfl
  rw [connectingTypes_eq hc hm hv, hprovides, TypeKey.distinct_eq_self (pairwise_unsatisfied hc)]

/-- The edge from the missing node, which is made for it if need be, carries the unsatisfied types
that the other node requires. -/
theorem carried_missing (hc : c.Consistent) (hv : v ∈ c.members) :
    carried ((missing.run c).2.edge? (missing.run c).1 v) =
      c.unsatisfied.filter fun t => v.requires.contains t := by
  obtain ⟨hm, hrole⟩ := missing?_spec (missing?_missing c)
  have hstate : (missing.run c).2 = c.withMissing := rfl
  rw [hstate] at hm ⊢
  rw [carried_edge?, connectingTypes_missing (hc.grows (grows_withMissing c)) hm hrole
    (mem_members_withMissing hv), unsatisfied_withMissing]

/-- Asking for the missing node answers with it where it is, and changes nothing. -/
theorem missing_run_of_missing? (h : c.missing? = some m) : missing.run c = (m, c) := by
  have hself : c.withMissing = c := withMissing_eq_self_of_missing? h
  have hanswer := missing?_missing c
  have hstate : (missing.run c).2 = c.withMissing := rfl
  rw [hstate, hself, h] at hanswer
  exact Prod.ext (Option.some.inj hanswer).symm (hstate.trans hself)

/-! ## The error channel -/

/-- No node provides the error channel. -/
theorem not_provided_error : ¬ c.Provided TypeKey.error := by
  rintro ⟨role, -, hprovides⟩
  cases role with
  | provider p =>
    obtain ⟨t, ht, heq⟩ := List.contains_iff_exists_mem_beq.mp hprovides
    have hne : (t == TypeKey.error) = false := Provider.ne_error_of_mem_provides ht
    rw [BEq.symm heq] at hne
    cases hne
  | root type => cases hprovides
  | missing => cases hprovides

/-- A required error channel is unsatisfied. -/
theorem contains_unsatisfied_error (hc : c.Consistent) (hv : v ∈ c.members)
    (ht : v.requires.contains TypeKey.error = true) :
    (c.unsatisfied.filter fun t => v.requires.contains t).contains TypeKey.error = true := by
  have hrequired : c.Required TypeKey.error := exists_mem_members_iff.mp ⟨v, hv, ht⟩
  have hunsatisfied : c.unsatisfied.contains TypeKey.error = true :=
    (contains_unsatisfied_iff hc).mpr ⟨hrequired, not_provided_error⟩
  obtain ⟨s, hs, heq⟩ := List.contains_iff_exists_mem_beq.mp hunsatisfied
  refine List.contains_iff_exists_mem_beq.mpr ⟨s, List.mem_filter.mpr ⟨hs, ?_⟩, heq⟩
  rwa [← List.contains_congr heq]

/-- An edge from a provider does not carry the error channel. -/
theorem contains_error_of_edge? {e : Edge} (hu : u.role.isProvider = true)
    (he : c.edge? u v = some e) : e.types.contains TypeKey.error = false := by
  obtain ⟨-, rfl⟩ := edge?_eq_some_iff.mp he
  rw [Bool.eq_false_iff]
  intro hcontains
  obtain ⟨t, ht, heq⟩ := List.contains_iff_exists_mem_beq.mp hcontains
  -- A connecting type is among those that the provider provides.
  have hprovides : t ∈ c.provides u := by
    dsimp only at ht
    unfold connectingTypes at ht
    split at ht
    · exact TypeKey.mem_of_mem_distinct (List.mem_filter.mp ht).1
    · cases ht
  obtain ⟨p, hp⟩ := Role.exists_eq_provider hu
  unfold provides at hprovides
  rw [hp] at hprovides
  have hne : (t == TypeKey.error) = false := Provider.ne_error_of_mem_provides hprovides
  rw [BEq.symm heq] at hne
  cases hne

/-! ## Later states -/

/-- The edges of `c` in a later state `c'`. -/
structure Persists (c c' : Container) : Prop where
  /-- Between the nodes of `c` no edge is gained, lost or changed, unless it starts at the missing
  node. -/
  edge : ∀ u ∈ c.members, ∀ v ∈ c.members, u.role.isMissing = false →
    c'.edge? u v = c.edge? u v
  /-- The edge from the missing node to a node of `c` carries the types that it carried, but for those
  that the providers added in between provide, in the same order. -/
  missing : ∃ added, c'.providers = c.providers ++ added ∧ ∀ v ∈ c.members,
    carried ((Container.missing.run c').2.edge? (Container.missing.run c').1 v) =
      (carried ((Container.missing.run c).2.edge? (Container.missing.run c).1 v)).filter
        fun t => !added.any fun n => (c'.provides n).contains t
  /-- Where the missing node is there in `c`, it is the same in `c'`, and asking for it changes
  neither. -/
  missingNode : ∀ m, c.missing? = some m →
    Container.missing.run c = (m, c) ∧ Container.missing.run c' = (m, c')
  /-- No edge from a provider carries the error channel. -/
  fromProvider : ∀ u v e, u.role.isProvider = true → c'.edge? u v = some e →
    e.types.contains TypeKey.error = false
  /-- If a node of `c` requires the error channel, that is unmet, and the edge from the missing node
  carries it. -/
  error : ∀ v ∈ c.members, v.requires.contains TypeKey.error = true →
    c'.isUnmet TypeKey.error = true ∧
      (carried ((Container.missing.run c').2.edge? (Container.missing.run c').1 v)).contains
        TypeKey.error = true

/-- Whatever is done with a reachable container, failures included, its edges persist. -/
theorem Reachable.persists (h : Reachable c) (ops : List Operation) : c.Persists (c.after ops) := by
  have hc : c.Consistent := h.consistent
  have hc' : (c.after ops).Consistent := (h.after ops).consistent
  have hkeeps : c.Keeps (c.after ops) := keeps_after c ops
  have hmember : ∀ n ∈ c.members, n ∈ (c.after ops).members := fun n hn => hkeeps.members.subset hn
  refine {
    edge := ?edge
    missing := ?missing
    missingNode := fun m hm =>
      ⟨missing_run_of_missing? hm, missing_run_of_missing? (hkeeps.missing m hm)⟩
    fromProvider := fun u v e hu he => contains_error_of_edge? hu he
    error := ?error }
  case edge =>
    intro u hu v hv hrole
    have hconnecting : (c.after ops).connectingTypes u v = c.connectingTypes u v := by
      rw [connectingTypes_eq hc hu hv, connectingTypes_eq hc' (hmember u hu) (hmember v hv),
        provides_of_not_isMissing hrole, provides_of_not_isMissing hrole]
    unfold edge?
    rw [hconnecting]
  case missing =>
    obtain ⟨added, hadded⟩ := hkeeps.providers
    refine ⟨added, hadded.symm, fun v hv => ?_⟩
    rw [carried_missing hc' (hmember v hv), carried_missing hc hv,
      filter_unsatisfied hc hc' hkeeps hadded.symm hv]
  case error =>
    intro v hv ht
    refine ⟨(isUnmet_iff hc').mpr not_provided_error, ?_⟩
    rw [carried_missing hc' (hmember v hv)]
    exact contains_unsatisfied_error hc' (hmember v hv) ht

/-- A provider of the type that the self-feeding provider lacks. -/
def feeder : Provider := { name := "g", results := [.basic "B"] }

/-- When it is added, the edge from the self-feeding provider to itself stays, and that from the
missing node, which carried the type, is gone. -/
theorem persists_selfFed :
    (selfFed.after [.addProvider feeder]).edge? (selfFed.nodeOf 0 (.provider selfFeeding))
        (selfFed.nodeOf 0 (.provider selfFeeding)) =
      selfFed.edge? (selfFed.nodeOf 0 (.provider selfFeeding))
        (selfFed.nodeOf 0 (.provider selfFeeding)) ∧
    carried ((Container.missing.run selfFed).2.edge? (Container.missing.run selfFed).1
      (selfFed.nodeOf 0 (.provider selfFeeding))) = [.basic "B"] ∧
    carried ((Container.missing.run (selfFed.after [.addProvider feeder])).2.edge?
      (Container.missing.run (selfFed.after [.addProvider feeder])).1
      (selfFed.nodeOf 0 (.provider selfFeeding))) = [] := by
  have hmem : selfFed.nodeOf 0 (.provider selfFeeding) ∈ selfFed.members :=
    mem_members_iff.mpr ⟨0, rfl⟩
  have h := Reachable.persists (c := selfFed) ⟨"run", 0, _, rfl⟩ [.addProvider feeder]
  have hbefore : carried ((Container.missing.run selfFed).2.edge?
      (Container.missing.run selfFed).1 (selfFed.nodeOf 0 (.provider selfFeeding))) =
        [.basic "B"] := rfl
  refine ⟨h.edge _ hmem _ hmem rfl, hbefore, ?_⟩
  obtain ⟨added, hadded, hcarried⟩ := h.missing
  -- The one provider that was added provides the one type that was carried.
  have hproviders : (selfFed.after [.addProvider feeder]).providers =
      selfFed.providers ++ [selfFed.nodeOf 2 (.provider feeder)] := rfl
  obtain rfl := List.append_cancel_left (hadded.symm.trans hproviders)
  rw [hcarried _ hmem, hbefore]
  rfl

end Container

end Wiring
