import Wiring.Proofs.Container.Persistence

/-!
# What is unmet

The types that are unsatisfied are computed from the two indices, and the successors of the missing
node from these types. In terms of the nodes themselves, a type is listed if a provider or the root
requires it and no provider provides it, once and in the order in which the types were first
required, and the missing node leads to the nodes with such a requirement (`ListsUnmet`,
`Reachable.listsUnmet`).
-/

namespace Wiring.Container

variable {c c' : Container} {n : Node} {t : TypeKey}

/-! ## Requirements -/

/-- The types that the nodes of a container require, in the order in which they came to be
required. -/
def requirements (c : Container) : List TypeKey := c.members.flatMap Node.requires

/-- The nodes that require a type, in the order of their numbers. -/
def requirers (c : Container) (t : TypeKey) : List Node :=
  c.members.filter fun n => n.requires.contains t

/-- The requirements are those of the roles of the nodes. -/
theorem requirements_eq (c : Container) : c.requirements = c.roles.flatMap Role.requires := by
  rw [requirements, ← map_role_members c, List.flatMap_map]
  rfl

/-- What is unsatisfied are the distinct requirements that nobody provides. -/
theorem unsatisfied_eq (hc : c.Consistent) :
    c.unsatisfied = (TypeKey.distinct c.requirements).filter c.isUnmet := by
  rw [unsatisfied, hc.requiredBy.types, requirements_eq]

/-- A type is required exactly if some node requires it. -/
theorem required_iff_exists_member :
    c.Required t ↔ ∃ n ∈ c.members, n.requires.contains t = true :=
  exists_mem_members_iff.symm

/-- Where nodes are kept, requirements are only added behind the others. -/
theorem Keeps.requirements (h : c.Keeps c') : c.requirements <+: c'.requirements := by
  obtain ⟨rest, hrest⟩ := h.members
  refine ⟨rest.flatMap Node.requires, ?_⟩
  unfold Container.requirements
  rw [← hrest, List.flatMap_append]

/-- The nodes that require a type are providers or the root. -/
theorem Reachable.required_iff (h : Reachable c) :
    c.Required t ↔ ∃ n ∈ c.providers ++ c.root?.toList, n.requires.contains t = true := by
  rw [required_iff_exists_member]
  constructor
  · rintro ⟨n, hn, hrequires⟩
    refine ⟨n, ?_, hrequires⟩
    rcases List.mem_append.mp (h.members_perm.mem_iff.mp hn) with hknown | hmissing
    · exact hknown
    · -- The missing node requires nothing.
      obtain ⟨-, hrole⟩ := missing?_spec (Option.mem_toList.mp hmissing)
      rw [Node.requires, Role.eq_missing hrole] at hrequires
      cases hrequires
  · rintro ⟨n, hn, hrequires⟩
    exact ⟨n, h.members_perm.mem_iff.mpr (List.mem_append_left _ hn), hrequires⟩

/-! ## The missing node -/

/-- Asking for the missing node where it has been made answers with it and changes nothing. -/
theorem missing_run_withMissing (c : Container) :
    missing.run c.withMissing = ((missing.run c).1, c.withMissing) :=
  missing_run_of_missing? (missing?_missing c)

end Wiring.Container
