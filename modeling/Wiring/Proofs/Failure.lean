import Mathlib.Data.List.Basic
import Mathlib.Data.List.Forall2

/-!
# How computations fail

`FailsBy` tells by which errors a computation fails: it fails exactly if there is such an error, and
then with one of them, though not with each. This is followed through rows of steps, where the first
failure counts and the errors of all steps together are those that there can be. Results are
followed in the same way (`bind_eq_ok_iff`). A computation that also has a state keeps what was
changed before the failure (`Building.run_bind`).
-/

namespace Wiring

variable {ε α β : Type} {x : Except ε α} {F G : ε → Prop}

/-- Two steps have a result exactly if the first has one of which the second has it. -/
theorem bind_eq_ok_iff {f : α → Except ε β} {b : β} :
    x >>= f = .ok b ↔ ∃ a, x = .ok a ∧ f a = .ok b := by
  cases x with
  | error e => exact iff_of_false (by rintro ⟨⟩) (by rintro ⟨_, ⟨⟩, -⟩)
  | ok a =>
    constructor
    · intro h
      exact ⟨a, rfl, h⟩
    · rintro ⟨_, ⟨⟩, h⟩
      exact h

/-- Another wording of failures changes nothing of the results. -/
theorem mapError_eq_ok_iff {ε' : Type} {f : ε → ε'} {a : α} :
    x.mapError f = .ok a ↔ x = .ok a := by
  cases x with
  | error e => exact iff_of_false (by rintro ⟨⟩) (by rintro ⟨⟩)
  | ok a' =>
    constructor
    · rintro ⟨⟩
      rfl
    · rintro ⟨⟩
      rfl

/-- Steps for all members of a list have a list of results exactly if each has its one. -/
theorem mapM_eq_ok_iff {f : α → Except ε β} {as : List α} {bs : List β} :
    as.mapM f = .ok bs ↔ List.Forall₂ (fun a b => f a = .ok b) as bs := by
  induction as generalizing bs with
  | nil =>
    rw [List.mapM_nil, List.forall₂_nil_left_iff]
    exact ⟨fun h => (Except.ok.inj h).symm, fun h => congrArg Except.ok h.symm⟩
  | cons a as ih =>
    rw [List.mapM_cons, bind_eq_ok_iff, List.forall₂_cons_left_iff]
    constructor
    · rintro ⟨b, hb, hrest⟩
      obtain ⟨bs', hbs', hbs⟩ := bind_eq_ok_iff.mp hrest
      exact ⟨b, bs', hb, ih.mp hbs', (Except.ok.inj hbs).symm⟩
    · rintro ⟨b, bs', hb, hbs', rfl⟩
      exact ⟨b, hb, bind_eq_ok_iff.mpr ⟨bs', ih.mpr hbs', rfl⟩⟩

/-- There is such a list if each step has a result. -/
theorem exists_mapM {f : α → Except ε β} {as : List α} (h : ∀ a ∈ as, ∃ b, f a = .ok b) :
    ∃ bs, as.mapM f = .ok bs := by
  induction as with
  | nil => exact ⟨[], rfl⟩
  | cons a as ih =>
    obtain ⟨b, hb⟩ := h a List.mem_cons_self
    obtain ⟨bs, hbs⟩ := ih fun a' ha' => h a' (List.mem_cons_of_mem a ha')
    refine ⟨b :: bs, ?_⟩
    rw [List.mapM_cons, hb, hbs]
    rfl

/-- The computation fails exactly if there is an error of the given ones, and with one of them. -/
structure FailsBy (F : ε → Prop) (x : Except ε α) : Prop where
  /-- It fails with one of the errors only. -/
  of_error : ∀ e, x = .error e → F e
  /-- It fails if there is one. -/
  exists_error : ∀ e, F e → ∃ e', x = .error e'

namespace FailsBy

/-- The same errors can be told in another way. -/
theorem congr (h : FailsBy F x) (hiff : ∀ e, F e ↔ G e) : FailsBy G x where
  of_error e he := (hiff e).mp (h.of_error e he)
  exists_error e he := h.exists_error e ((hiff e).mpr he)

/-- What has a result does not fail. -/
theorem of_ok {a : α} (hx : x = .ok a) : FailsBy (fun _ => False) x where
  of_error e he := by
    rw [hx] at he
    cases he
  exists_error _ := False.elim

/-- A given result does not fail. -/
theorem pure (a : α) : FailsBy (fun _ => False) (Pure.pure a : Except ε α) := of_ok rfl

/-- What fails does so by its error. -/
theorem refl (x : Except ε α) : FailsBy (fun e => x = .error e) x where
  of_error _ he := he
  exists_error e he := ⟨e, he⟩

/-- There is a result exactly if there is no error. -/
theorem exists_ok_iff (h : FailsBy F x) : (∃ a, x = .ok a) ↔ ∀ e, ¬ F e := by
  cases x with
  | error e => exact iff_of_false (by rintro ⟨_, ⟨⟩⟩) fun hnone => hnone e (h.of_error e rfl)
  | ok a =>
    refine iff_of_true ⟨a, rfl⟩ fun e he => ?_
    obtain ⟨_, ⟨⟩⟩ := h.exists_error e he

/-- Two steps fail by the errors of the first and, after its result, those of the second. -/
theorem bind {f : α → Except ε β} {G : α → ε → Prop} (hx : FailsBy F x)
    (hf : ∀ a, x = .ok a → FailsBy (G a) (f a)) :
    FailsBy (fun e => F e ∨ ∃ a, x = .ok a ∧ G a e) (x >>= f) := by
  cases x with
  | error e =>
    refine ⟨?_, fun _ _ => ⟨e, rfl⟩⟩
    rintro _ ⟨⟩
    exact Or.inl (hx.of_error e rfl)
  | ok a =>
    refine ⟨fun e he => Or.inr ⟨a, rfl, (hf a rfl).of_error e he⟩, ?_⟩
    rintro e (he | ⟨_, ⟨⟩, he⟩)
    · obtain ⟨_, ⟨⟩⟩ := hx.exists_error e he
    · exact (hf a rfl).exists_error e he

/-- Where the result of the first step does not decide on the errors of the second, there are the
errors of both. -/
theorem or {f : α → Except ε β} (hx : FailsBy F x) (hf : ∀ a, FailsBy G (f a)) :
    FailsBy (fun e => F e ∨ G e) (x >>= f) := by
  cases x with
  | error e =>
    refine ⟨?_, fun _ _ => ⟨e, rfl⟩⟩
    rintro _ ⟨⟩
    exact Or.inl (hx.of_error e rfl)
  | ok a =>
    refine ⟨fun e he => Or.inr ((hf a).of_error e he), ?_⟩
    rintro e (he | he)
    · obtain ⟨_, ⟨⟩⟩ := hx.exists_error e he
    · exact (hf a).exists_error e he

/-- Changing the result changes nothing of the failures. -/
theorem map (hx : FailsBy F x) (f : α → β) : FailsBy F (f <$> x) := by
  cases x with
  | error e => exact ⟨fun _ he => hx.of_error _ (by cases he; rfl), fun _ _ => ⟨e, rfl⟩⟩
  | ok a =>
    refine ⟨by rintro _ ⟨⟩, fun e he => ?_⟩
    obtain ⟨_, ⟨⟩⟩ := hx.exists_error e he

/-- Another wording of failures is a wording of the same errors. -/
theorem mapError {ε' : Type} (hx : FailsBy F x) (f : ε → ε') :
    FailsBy (fun e' => ∃ e, F e ∧ e' = f e) (x.mapError f) := by
  cases x with
  | error e =>
    refine ⟨?_, fun _ _ => ⟨f e, rfl⟩⟩
    rintro _ ⟨⟩
    exact ⟨e, hx.of_error e rfl, rfl⟩
  | ok a =>
    refine ⟨by rintro _ ⟨⟩, ?_⟩
    rintro _ ⟨e, he, -⟩
    obtain ⟨_, ⟨⟩⟩ := hx.exists_error e he

/-- Steps for all members of a list fail by the errors of each. -/
theorem mapM {f : α → Except ε β} {F : α → ε → Prop} {as : List α}
    (hf : ∀ a ∈ as, FailsBy (F a) (f a)) : FailsBy (fun e => ∃ a ∈ as, F a e) (as.mapM f) := by
  induction as with
  | nil => exact (FailsBy.pure []).congr fun e => by simp
  | cons a as ih =>
    have hrest := ih fun a' ha' => hf a' (List.mem_cons_of_mem a ha')
    rw [List.mapM_cons]
    refine ((hf a List.mem_cons_self).or fun b => hrest.or fun bs => FailsBy.pure _).congr
      fun e => ?_
    rw [List.exists_mem_cons_iff, or_false]

/-- So do steps that hand on a state, if that does not decide on the errors. -/
theorem foldlM {f : β → α → Except ε β} {F : α → ε → Prop} {as : List α}
    (hf : ∀ a ∈ as, ∀ b, FailsBy (F a) (f b a)) (b : β) :
    FailsBy (fun e => ∃ a ∈ as, F a e) (as.foldlM f b) := by
  induction as generalizing b with
  | nil => exact (FailsBy.pure b).congr fun e => by simp
  | cons a as ih =>
    have hrest := ih fun a' ha' => hf a' (List.mem_cons_of_mem a ha')
    rw [List.foldlM_cons]
    refine ((hf a List.mem_cons_self b).or hrest).congr fun e => ?_
    rw [List.exists_mem_cons_iff]

end FailsBy

/-! ## Failures that keep the state -/

namespace Building

variable {σ : Type}

/-- A row of two steps stops at the first failure and keeps what was changed until then. -/
theorem run_bind (x : ExceptT ε (StateM σ) α) (f : α → ExceptT ε (StateM σ) β) (s : σ) :
    (x >>= f).run.run s =
      match x.run.run s with
      | (.ok a, s) => (f a).run.run s
      | (.error e, s) => (.error e, s) := by
  show (match x.run s with | (r, s) => ExceptT.bindCont f r s : Id _) = _
  cases h : x.run.run s with
  | mk r s' =>
    change x.run s = (r, s') at h
    rw [h]
    cases r with
    | ok a => rfl
    | error e => rfl

theorem run_get (s : σ) : (get : ExceptT ε (StateM σ) σ).run.run s = (.ok s, s) := rfl

theorem run_set (s s' : σ) : (set s' : ExceptT ε (StateM σ) PUnit).run.run s = (.ok (), s') := rfl

theorem run_modify (f : σ → σ) (s : σ) :
    (modify f : ExceptT ε (StateM σ) PUnit).run.run s = (.ok (), f s) := rfl

theorem run_pure (a : α) (s : σ) : (pure a : ExceptT ε (StateM σ) α).run.run s = (.ok a, s) := rfl

/-- A row of two steps that cannot fail hands the state on. -/
theorem run_seq (x : StateM σ α) (f : α → StateM σ β) (s : σ) :
    (x >>= f).run s = (f (x.run s).1).run (x.run s).2 := rfl

end Building

end Wiring
