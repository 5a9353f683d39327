import Wiring.Proofs.Container.Permutation

/-!
# Filling a container

A container is filled with a list of providers: they are added in their order, one by one or several
at a time, and at some time the root is set or detected (`Fills`). What is left holds the valid ones
of the providers and the root, and if nothing was asked there is no missing node yet (`Fills.holds`,
`Fills.any_isMissing`).

When one provider is put between others, the numbers of their places leave a gap in the shorter list
(`spaced`), so that an occurrence of a provider has the same number in both lists. Provider nodes
are numbered as the occurrences that they stand for (`Stands.id_lt_iff`).
-/

namespace Wiring.Container

variable {c c' : Container} {method : String} {tag : Nat} {p : Provider} {ps xs ys : List Provider}
  {T : TypeKey} {n m : Node}

/-! ## Populating and setting the root -/

/-- Adding the providers of a list in their order, one by one or several at a time, and setting the
root at some time or other makes `c'` of `c`. Nothing is asked in between. Providers may be refused,
and setting the root may fail. -/
inductive Fills : Container → List Provider → Container → Prop where
  /-- There are no providers left. -/
  | done (c : Container) : Fills c [] c
  /-- A provider is added. -/
  | add {c c' : Container} (p : Provider) {ps : List Provider}
    (h : Fills ((addProvider p).run.run c).2 ps c') : Fills c (p :: ps) c'
  /-- The container is populated with several providers. -/
  | populate {c c' : Container} (ps : List Provider) {ds : List Diagnostic} {qs : List Provider}
    (hrun : ((populate ps).run.run c).1 = .ok ds)
    (h : Fills ((populate ps).run.run c).2 qs c') : Fills c (ps ++ qs) c'
  /-- The root is set. -/
  | setRoot {c c' : Container} (type : TypeKey) {ps : List Provider}
    (h : Fills ((setRoot type).run.run c).2 ps c') : Fills c ps c'

/-- Populating that does not break off adds all providers. -/
theorem populate_run_snd {ds : List Diagnostic} (h : ((populate ps).run.run c).1 = .ok ds) :
    ((populate ps).run.run c).2 = c.withProviders ps := by
  induction ps generalizing c ds with
  | nil => rfl
  | cons p ps ih =>
    have hstep : c.withProviders (p :: ps) = (c.withProvider p).withProviders ps := rfl
    rw [populate_run_cons, addProvider_run_eq] at h ⊢
    rw [hstep]
    cases hfault : p.fault? c.rootMethod c.rootType? with
    | none =>
      rw [hfault] at h
      exact ih h
    | some e =>
      rw [hfault] at h
      dsimp only at h ⊢
      cases hd : Diagnostic.of p e with
      | error missing =>
        rw [hd] at h
        cases h
      | ok d =>
        rw [hd] at h
        dsimp only at h ⊢
        cases hrun : (Container.populate ps).run.run (c.withProvider p) with
        | mk result c' =>
          rw [hrun] at h
          have hrest : ∀ ds, ((Container.populate ps).run.run (c.withProvider p)).1 = .ok ds →
              ((Container.populate ps).run.run (c.withProvider p)).2 =
                (c.withProvider p).withProviders ps := fun _ => ih
          rw [hrun] at hrest
          cases result with
          | error missing => cases h
          | ok ds' => exact hrest ds' rfl

/-- A missing role is not made by adding a provider. -/
theorem any_isMissing_of_subset (h : c.roles.any Role.isMissing = false)
    (hroles : ∀ role ∈ c'.roles, role ∈ c.roles ∨ role.isMissing = false) :
    c'.roles.any Role.isMissing = false := by
  rw [List.any_eq_false] at h ⊢
  intro role hrole
  rcases hroles role hrole with hold | hnot
  · exact h role hold
  · rw [hnot]
    decide

/-- Setting the root makes the root node or nothing. -/
theorem setRoot_run_snd (c : Container) (type : TypeKey) :
    ((setRoot type).run.run c).2 = c ∨ ((setRoot type).run.run c).2 = c.push (.root type) := by
  rw [setRoot_run]
  cases c.rootType? with
  | some existing => exact Or.inl rfl
  | none => exact Or.inr rfl

namespace Fills

/-- A filled container is reachable. -/
theorem reachable (h : Fills c ps c') (hc : Reachable c) : Reachable c' := by
  induction h with
  | done c => exact hc
  | add p _ ih => exact ih (hc.after [.addProvider p])
  | populate ps _ _ ih => exact ih (hc.populate ps)
  | setRoot type _ ih => exact ih (hc.after [.setRoot type])

/-- Filling does not make the missing node. -/
theorem any_isMissing (h : Fills c ps c') (hc : c.roles.any Role.isMissing = false) :
    c'.roles.any Role.isMissing = false := by
  induction h with
  | done c => exact hc
  | add p _ ih =>
    refine ih (any_isMissing_of_subset hc fun role hrole => ?_)
    rcases mem_roles_addProvider hrole with hold | rfl | ⟨t, -, rfl⟩
    · exact Or.inl hold
    · exact Or.inr rfl
    · exact Or.inr rfl
  | populate ps _ _ ih =>
    refine ih (any_isMissing_of_subset hc fun role hrole => ?_)
    rcases mem_roles_populate hrole with hold | ⟨p, -, rfl | ⟨t, -, rfl⟩⟩
    · exact Or.inl hold
    · exact Or.inr rfl
    · exact Or.inr rfl
  | @setRoot c _ type _ _ ih =>
    apply ih
    rcases setRoot_run_snd c type with heq | heq
    · rwa [heq]
    · rw [heq]
      simp [push, hc, Role.isMissing]

/-- Filling appends the valid ones of the providers. -/
theorem map_role_providers (h : Fills c ps c') : c'.providers.map (·.role) =
    c.providers.map (·.role) ++ (ps.filter fun p => p.Valid).map .provider := by
  induction h with
  | done c => exact (List.append_nil _).symm
  | @add c c' p ps _ ih =>
    have hrun : ((addProvider p).run.run c).2 = c.withProvider p := by rw [addProvider_run_eq]
    rw [ih, hrun, providers_withProvider, List.map_append, List.append_assoc]
    by_cases hvalid : p.Valid
    · rw [if_pos hvalid, List.filter_cons_of_pos (by simpa using hvalid)]
      rfl
    · rw [if_neg hvalid, List.filter_cons_of_neg (by simpa using hvalid)]
      rfl
  | @populate c c' ps ds qs hrun _ ih =>
    obtain ⟨added, hadded, hroles⟩ := providers_withProviders c ps
    rw [ih, populate_run_snd hrun, hadded, List.map_append, hroles, List.append_assoc,
      ← List.map_append, ← List.filter_append]
  | @setRoot c c' type ps _ ih =>
    rw [ih]
    rcases setRoot_run_snd c type with heq | heq
    · rw [heq]
    · have hnone : [c.nodeOf c.nextId (.root type)].filter (·.role.isProvider) = [] := rfl
      rw [heq, providers_push, hnone, List.append_nil]

end Fills

/-- The root node has the type of the root. -/
theorem Consistent.exists_root (hc : c.Consistent) (hT : c.rootType? = some T) :
    ∃ r, c.root? = some r ∧ r.role = .root T := by
  obtain ⟨role, hrole, htype⟩ := List.exists_of_findSome?_eq_some hT
  obtain ⟨i, hi⟩ := List.getElem?_of_mem hrole
  have hmem : c.nodeOf i role ∈ c.members :=
    mem_members_iff.mpr ⟨i, node?_eq_some_iff.mpr ⟨role, hi, rfl⟩⟩
  have hroot : role.rootType?.isSome = true := by
    rw [htype]
    rfl
  refine ⟨c.nodeOf i role, find?_members_eq_some hc.root_single hmem hroot, ?_⟩
  cases role with
  | provider p => cases htype
  | root type => exact congrArg Role.root (Option.some.inj htype)
  | missing => cases htype

/-- A fresh container that is filled holds the providers and the root that it has in the end. -/
theorem Fills.holds (h : Fills (new method tag) ps c) (hT : c.rootType? = some T) :
    c.Holds ps T where
  reachable := h.reachable ⟨method, tag, [], rfl⟩
  providers := h.map_role_providers
  root := (h.reachable ⟨method, tag, [], rfl⟩).consistent.exists_root hT

/-! ## Occurrences with a gap -/

/-- The occurrences of two lists of providers in a row, with one number between them left free. -/
def spaced (xs ys : List Provider) : List (Provider × Nat) :=
  xs.zipIdx ++ ys.zipIdx (xs.length + 1)

/-- The occurrences are those of the providers of both lists. -/
theorem map_fst_spaced (xs ys : List Provider) : (spaced xs ys).map (·.1) = xs ++ ys := by
  have hfst : ∀ (l : List Provider) i, (l.zipIdx i).map (·.1) = l := fun l i =>
    List.zipIdx_map_fst i l
  rw [spaced, List.map_append, hfst, hfst]

/-- The free number is that of a provider that stands between the two lists. -/
theorem zipIdx_insert (xs : List Provider) (p : Provider) (ys : List Provider) :
    (xs ++ p :: ys).zipIdx = xs.zipIdx ++ (p, xs.length) :: ys.zipIdx (xs.length + 1) := by
  rw [List.zipIdx_append, List.zipIdx_cons, Nat.zero_add]

/-- The numbers of a list are ascending. -/
theorem pairwise_zipIdx (ps : List Provider) : ps.zipIdx.Pairwise fun x y => x.2 < y.2 := by
  have hnumbers : (ps.zipIdx.map (·.2)).Pairwise (· < ·) := by
    rw [List.zipIdx_map_snd]
    exact List.pairwise_lt_range'
  exact List.pairwise_map.mp hnumbers

/-- Ascending numbers are not repeated. -/
theorem nodup_of_pairwise_snd {l : List (Provider × Nat)} (h : l.Pairwise fun x y => x.2 < y.2) :
    l.Nodup :=
  h.imp fun hlt heq => absurd (congrArg Prod.snd heq) hlt.ne

/-- The occurrences with a gap are those of the longer list but for the one in the gap. -/
theorem spaced_sublist (xs : List Provider) (p : Provider) (ys : List Provider) :
    (spaced xs ys).Sublist (xs ++ p :: ys).zipIdx := by
  rw [zipIdx_insert]
  exact (List.sublist_cons_self _ _).append_left _

/-- An occurrence of the longer list is in the gap or not. -/
theorem mem_spaced_of_mem_zipIdx {x : Provider × Nat} (h : x ∈ (xs ++ p :: ys).zipIdx) :
    x ∈ spaced xs ys ∨ x = (p, xs.length) := by
  rw [zipIdx_insert, List.mem_append, List.mem_cons] at h
  rw [spaced, List.mem_append]
  tauto

/-- The occurrence in the gap is left out. -/
theorem not_mem_spaced (xs : List Provider) (p : Provider) (ys : List Provider) :
    (p, xs.length) ∉ spaced xs ys := by
  have hnodup := nodup_of_pairwise_snd (pairwise_zipIdx (xs ++ p :: ys))
  rw [zipIdx_insert, List.nodup_middle] at hnodup
  exact (List.nodup_cons.mp hnodup).1

/-- In an ascending list, places compare as what stands at them. -/
theorem lt_iff_of_pairwise_lt {α β : Type} [LinearOrder β] {l : List α} {key : α → β} {i j : Nat}
    {a b : α} (hl : l.Pairwise fun a b => key a < key b) (ha : l[i]? = some a)
    (hb : l[j]? = some b) : key a < key b ↔ i < j := by
  obtain ⟨hi, rfl⟩ := List.getElem?_eq_some_iff.mp ha
  obtain ⟨hj, rfl⟩ := List.getElem?_eq_some_iff.mp hb
  rw [List.pairwise_iff_getElem] at hl
  rcases lt_trichotomy i j with hlt | rfl | hgt
  · exact iff_of_true (hl i j hi hj hlt) hlt
  · exact iff_of_false (lt_irrefl _) (lt_irrefl _)
  · exact iff_of_false (lt_asymm (hl j i hj hi hgt)) (lt_asymm hgt)

/-- The numbers of provider nodes compare as those of the occurrences that they stand for. -/
theorem Stands.id_lt_iff {l : List (Provider × Nat)} {x y : Provider × Nat} (hc : Reachable c)
    (hl : l.Pairwise fun x y => x.2 < y.2) (hn : Stands l c n x) (hm : Stands l c m y) :
    n.id < m.id ↔ x.2 < y.2 := by
  obtain ⟨i, hn, hx⟩ := hn
  obtain ⟨j, hm, hy⟩ := hm
  rw [lt_iff_of_pairwise_lt hc.numbered.ascending hn hm,
    lt_iff_of_pairwise_lt (hl.filter _) hx hy]

end Wiring.Container
