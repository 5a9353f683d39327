import Wiring.Proofs.TypeKey.Index

/-!
# The runnable types of a list

Types are compared without their methods, but it is a method that makes a type runnable. So a list
can have several equal types of which only some are runnable, and it matters that the types are
filtered before the repetitions are dropped. `isCandidates_runnables` says what is left: for each
runnable type of the list one equal to it, the first of those that are runnable themselves, in the
order of the list.
-/

namespace Wiring.TypeKey

variable {method : String} {ts : List TypeKey} {t : TypeKey}

/-- A type with a method of the given name that takes nothing and returns nothing. -/
def Runnable (method : String) (t : TypeKey) : Prop :=
  ∃ m ∈ t.methods, m.name = method ∧ m.params = 0 ∧ m.results = 0

/-- What is tested of a type is that it is runnable. -/
theorem isRunnable_iff : t.isRunnable method = true ↔ t.Runnable method := by
  unfold isRunnable Runnable MethodSignature.isNullary
  simp only [List.any_eq_true, Bool.and_eq_true, beq_iff_eq]

/-- Types none of which is runnable have no runnable types. -/
theorem runnables_eq_nil (h : ∀ t ∈ ts, ¬ t.Runnable method) : runnables method ts = [] := by
  have hnone : ts.filter (isRunnable method) = [] := by
    rw [List.filter_eq_nil_iff]
    exact fun t ht hrunnable => h t ht (isRunnable_iff.mp hrunnable)
  unfold runnables
  rw [hnone]
  rfl

/-- Types without repetition are left as they are. -/
theorem distinct_eq_self (h : ts.Pairwise fun s t => (s == t) = false) : distinct ts = ts := by
  induction ts using List.reverseRecOn with
  | nil => rfl
  | append_singleton ts t ih =>
    obtain ⟨hts, -, hlast⟩ := List.pairwise_append.mp h
    have hnew : ts.contains t = false := by
      rw [Bool.eq_false_iff]
      intro hcontains
      obtain ⟨s, hs, hst⟩ := List.contains_iff_exists_mem_beq.mp hcontains
      have hne := hlast s hs t (List.mem_singleton_self t)
      rw [BEq.symm hst] at hne
      exact absurd hne (by decide)
    rw [distinct_concat, ih hts, hnew]
    rfl

/-- Dropping repetitions in the first part of a list changes nothing of what is left of it all. -/
theorem distinct_distinct_append (ts us : List TypeKey) :
    distinct (distinct ts ++ us) = distinct (ts ++ us) := by
  induction us using List.reverseRecOn with
  | nil => rw [List.append_nil, List.append_nil, distinct_eq_self (pairwise_distinct ts)]
  | append_singleton us u ih =>
    rw [← List.append_assoc, ← List.append_assoc, distinct_concat, distinct_concat, ih]

/-- The candidates among the types of a list for being the root. -/
structure IsCandidates (method : String) (ts candidates : List TypeKey) : Prop where
  /-- A candidate is runnable. -/
  runnable : ∀ t ∈ candidates, t.Runnable method
  /-- No two candidates are equal. -/
  distinct : candidates.Pairwise fun s t => (s == t) = false
  /-- Every runnable type of the list is equal to a candidate. -/
  complete : ∀ t ∈ ts, t.Runnable method → candidates.contains t = true
  /-- Before the place of a candidate in the list, every runnable type is equal to an earlier
  candidate. -/
  first : ∀ earlier t later, candidates = earlier ++ t :: later → ∃ before after,
    ts = before ++ t :: after ∧ ∀ s ∈ before, s.Runnable method → earlier.contains s = true

/-- The candidates of a list stay candidates when the list goes on with a type that is not runnable
or equal to one of them. -/
theorem IsCandidates.skip {candidates : List TypeKey} (h : IsCandidates method ts candidates)
    (hskip : t.Runnable method → candidates.contains t = true) :
    IsCandidates method (ts ++ [t]) candidates where
  runnable := h.runnable
  distinct := h.distinct
  complete s hs hrunnable := by
    rcases List.mem_append.mp hs with hs | hs
    · exact h.complete s hs hrunnable
    · rw [List.mem_singleton.mp hs] at hrunnable ⊢
      exact hskip hrunnable
  first earlier s later hsplit := by
    obtain ⟨before, after, rfl, hbefore⟩ := h.first earlier s later hsplit
    exact ⟨before, after ++ [t], by simp, hbefore⟩

/-- A runnable type that is equal to no candidate is the next one. -/
theorem IsCandidates.concat {candidates : List TypeKey} (h : IsCandidates method ts candidates)
    (hrunnable : t.Runnable method) (hnew : candidates.contains t = false) :
    IsCandidates method (ts ++ [t]) (candidates ++ [t]) where
  runnable s hs := by
    rcases List.mem_append.mp hs with hs | hs
    · exact h.runnable s hs
    · rwa [List.mem_singleton.mp hs]
  distinct := by
    rw [List.pairwise_append]
    refine ⟨h.distinct, List.pairwise_singleton _ _, ?_⟩
    intro s hs u hu
    rw [List.mem_singleton.mp hu, Bool.eq_false_iff]
    intro hst
    rw [List.contains_iff_exists_mem_beq.mpr ⟨s, hs, BEq.symm hst⟩] at hnew
    exact absurd hnew (by decide)
  complete s hs hs' := by
    rw [List.contains_append, Bool.or_eq_true]
    rcases List.mem_append.mp hs with hs | hs
    · exact Or.inl (h.complete s hs hs')
    · rw [List.mem_singleton.mp hs]
      exact Or.inr (by simp)
  first earlier s later hsplit := by
    -- The candidate is the new one, behind which nothing stands, or an old one.
    rcases List.eq_nil_or_concat later with rfl | ⟨later, u, rfl⟩
    · obtain ⟨rfl, hst⟩ := List.append_inj' hsplit rfl
      obtain rfl : t = s := List.singleton_inj.mp hst
      exact ⟨ts, [], rfl, h.complete⟩
    · rw [List.concat_eq_append, ← List.cons_append, ← List.append_assoc] at hsplit
      obtain ⟨hold, -⟩ := List.append_inj' hsplit rfl
      obtain ⟨before, after, rfl, hbefore⟩ := h.first earlier s later hold
      exact ⟨before, after ++ [t], by simp, hbefore⟩

/-- An empty list has no candidates. -/
theorem IsCandidates.nil (method : String) : IsCandidates method [] [] where
  runnable := by simp
  distinct := List.Pairwise.nil
  complete := by simp
  first := by simp

/-- The runnable types that are searched for a root are the candidates. -/
theorem isCandidates_runnables (method : String) (ts : List TypeKey) :
    IsCandidates method ts (runnables method ts) := by
  induction ts using List.reverseRecOn with
  | nil => exact IsCandidates.nil method
  | append_singleton ts t ih =>
    unfold runnables at ih ⊢
    rw [List.filter_append]
    cases hrunnable : t.isRunnable method with
    | false =>
      have hnone : [t].filter (isRunnable method) = [] := by simp [hrunnable]
      rw [hnone, List.append_nil]
      refine ih.skip fun hrunnable' => ?_
      rw [isRunnable_iff.mpr hrunnable'] at hrunnable
      exact absurd hrunnable (by decide)
    | true =>
      have hone : [t].filter (isRunnable method) = [t] := by simp [hrunnable]
      rw [hone, distinct_concat]
      split
      · rename_i hold
        exact ih.skip fun _ => hold
      · rename_i hnew
        exact ih.concat (isRunnable_iff.mp hrunnable) (by simpa using hnew)

end Wiring.TypeKey
