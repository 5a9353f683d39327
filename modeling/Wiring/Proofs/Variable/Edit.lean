import Wiring.Proofs.TypeKey.WellFormed
import Wiring.Proofs.Variable.FirstRequest

/-!
# Requests without effect

Only the first request for a type that is not refused has an effect on a namer. All other requests
can be taken out of a run, and all numbers can be replaced by others that are not negative: the
requests that stay are answered as before (`Namer.getElem?_answers_edited`). The main result is
`Namer.followsFirstRequests`.
-/

namespace Wiring.Variable

/-! ## Edits -/

/-- What is done to a request of a run. -/
inductive Edit where
  /-- It stays as it is. -/
  | keep
  /-- It is taken out. -/
  | delete
  /-- It asks for another number. -/
  | renumber (m : Int)
deriving DecidableEq, Repr

namespace Edit

/-- The request that an edit leaves, if any. -/
def apply : Edit → TypeKey × Int → Option (TypeKey × Int)
  | keep, request => some request
  | delete, _ => none
  | renumber m, request => some (request.1, m)

/-- The edit takes out a request that is refused, or one for a type that was requested before, or it
replaces a number that is not negative by another such one. -/
def IsHarmless (earlier : List (TypeKey × Int)) (request : TypeKey × Int) : Edit → Prop
  | keep => True
  | delete => request.2 < 0 ∨ ∃ known ∈ earlier, 0 ≤ known.2 ∧ (known.1 == request.1) = true
  | renumber m => 0 ≤ request.2 ∧ 0 ≤ m

end Edit

/-- A run of requests with what is to be done to each. -/
abbrev Plan := List ((TypeKey × Int) × Edit)

namespace Plan

/-- The requests before the edits. -/
def original (plan : Plan) : List (TypeKey × Int) := plan.map Prod.fst

/-- The requests after the edits. -/
def edited (plan : Plan) : List (TypeKey × Int) := plan.filterMap fun entry => entry.2.apply entry.1

/-- Each edit is harmless where it is made. -/
def IsHarmless (plan : Plan) : Prop :=
  ∀ (i : Nat) (request : TypeKey × Int) (edit : Edit), plan[i]? = some (request, edit) →
    edit.IsHarmless (original (plan.take i)) request

variable {plan : Plan} {request : TypeKey × Int} {edit : Edit}

/-- A type is among those that were requested exactly if a request for an equal one was not
refused. -/
theorem contains_firstRequests_iff {requests : List (TypeKey × Int)} {t : TypeKey} :
    (firstRequests requests).contains t = true ↔
      ∃ known ∈ requests, 0 ≤ known.2 ∧ (known.1 == t) = true := by
  unfold firstRequests
  rw [TypeKey.contains_distinct, List.contains_iff_exists_mem_beq]
  constructor
  · rintro ⟨u, hu, htu⟩
    obtain ⟨known, hknown, rfl⟩ := List.mem_map.mp hu
    obtain ⟨hmem, hanswered⟩ := List.mem_filter.mp hknown
    exact ⟨known, hmem, of_decide_eq_true hanswered, BEq.symm htu⟩
  · rintro ⟨known, hmem, hanswered, htu⟩
    have hknown : known ∈ requests.filter fun request => 0 ≤ request.2 :=
      List.mem_filter.mpr ⟨hmem, decide_eq_true hanswered⟩
    exact ⟨known.1, List.mem_map_of_mem hknown, BEq.symm htu⟩

/-- The start of a harmless plan is harmless. -/
theorem IsHarmless.take (h : plan.IsHarmless) (n : Nat) : IsHarmless (plan.take n) := by
  intro i request edit hi
  have hlt : i < n := by
    obtain ⟨hlength, -⟩ := List.getElem?_eq_some_iff.mp hi
    rw [List.length_take] at hlength
    omega
  rw [List.getElem?_take_of_lt hlt] at hi
  rw [List.take_take, Nat.min_eq_left (by omega)]
  exact h i request edit hi

/-- Edits at the end of a plan are made at the end of the run. -/
theorem edited_concat (plan : Plan) (request : TypeKey × Int) (edit : Edit) :
    edited (plan ++ [(request, edit)]) = edited plan ++ (edit.apply request).toList := by
  unfold edited
  rw [List.filterMap_append]
  cases h : edit.apply request with
  | none => simp [h]
  | some left => simp [h]

/-- Harmless edits do not change which types are requested first. -/
theorem IsHarmless.firstRequests_edited (h : plan.IsHarmless) :
    firstRequests plan.edited = firstRequests plan.original := by
  induction plan using List.reverseRecOn with
  | nil => rfl
  | append_singleton plan entry ih =>
    obtain ⟨⟨t, n⟩, edit⟩ := entry
    have hearlier := h.take plan.length
    rw [List.take_left] at hearlier
    have hlast := h plan.length (t, n) edit List.getElem?_concat_length
    rw [List.take_left] at hlast
    have horiginal : original (plan ++ [((t, n), edit)]) = original plan ++ [(t, n)] := by
      unfold original
      rw [List.map_append]
      rfl
    rw [edited_concat, horiginal, firstRequests_concat]
    cases edit with
    | keep =>
      rw [Edit.apply, Option.toList_some, firstRequests_concat, ih hearlier]
    | delete =>
      -- What is taken out adds no type.
      obtain hrefused | hknown := hlast
      · rw [Edit.apply, Option.toList_none, List.append_nil, if_pos (Or.inl hrefused), ih hearlier]
      · have hcontains := contains_firstRequests_iff.mpr hknown
        rw [Edit.apply, Option.toList_none, List.append_nil, if_pos (Or.inr hcontains),
          ih hearlier]
    | renumber m =>
      obtain ⟨hn, hm⟩ := hlast
      have hn' : ¬ n < 0 := by simpa using hn
      have hm' : ¬ m < 0 := by omega
      rw [Edit.apply, Option.toList_some, firstRequests_concat, ih hearlier]
      simp only [hn', hm', false_or]

/-- The place of a request after the edits. -/
def place (plan : Plan) (i : Nat) : Nat := (edited (plan.take i)).length

/-- A request that an edit leaves stands at its place, behind what the edits before leave. -/
theorem take_edited {i : Nat} {left : TypeKey × Int} (hi : plan[i]? = some (request, edit))
    (hleft : edit.apply request = some left) :
    plan.edited[plan.place i]? = some left ∧
      plan.edited.take (plan.place i + 1) = edited (plan.take (i + 1)) := by
  have hstart : edited (plan.take (i + 1)) = edited (plan.take i) ++ [left] := by
    rw [List.take_add_one, hi, Option.toList_some, edited_concat, hleft, Option.toList_some]
  have hsplit : plan.edited = edited (plan.take i) ++ [left] ++ edited (plan.drop (i + 1)) := by
    rw [← hstart]
    unfold edited
    rw [← List.filterMap_append, List.take_append_drop]
  have hlength : (edited (plan.take i) ++ [left]).length = plan.place i + 1 := by
    unfold place
    rw [List.length_append]
    rfl
  constructor
  · rw [hsplit, List.append_assoc]
    unfold place
    rw [List.getElem?_append_right (Nat.le_refl _), Nat.sub_self]
    rfl
  · rw [hsplit, ← hlength, List.take_left, hstart]

/-- Edits do not change types, so they leave well-formed ones. -/
theorem wellFormed_edited (h : ∀ request ∈ plan.original, request.1.WellFormed) :
    ∀ request ∈ plan.edited, request.1.WellFormed := by
  intro request hrequest
  obtain ⟨⟨before, edit⟩, hentry, hleft⟩ := List.mem_filterMap.mp hrequest
  have hbefore := h before (List.mem_map_of_mem hentry)
  cases edit with
  | keep =>
    obtain rfl := Option.some.inj hleft
    exact hbefore
  | delete => cases hleft
  | renumber m =>
    obtain rfl := Option.some.inj hleft
    exact hbefore

end Plan

/-! ## Types without methods -/

section Bare

variable {ts us : List TypeKey} {t u : TypeKey}

/-- A type is usable without its methods exactly if it is with them. -/
theorem usablyNamed_bare_iff (t : TypeKey) : UsablyNamed t.bare ↔ UsablyNamed t := by
  rw [← isSome_ownName?_iff, ← isSome_ownName?_iff, ownName?, ownName?, ownBasename?_bare]

/-- What stands before a type does not depend on methods. -/
theorem before_bare (ts : List TypeKey) (t : TypeKey) :
    before (ts.map TypeKey.bare) t.bare = (before ts t).map TypeKey.bare := by
  unfold before
  rw [List.takeWhile_map]
  congr 2
  funext u
  exact congrArg not (TypeKey.bare_beq_bare u t)

/-- Neither does the basename. -/
theorem basenameIn_bare (ts : List TypeKey) (t : TypeKey) :
    basenameIn (ts.map TypeKey.bare) t.bare = basenameIn ts t := by
  unfold basenameIn
  rw [before_bare, List.countP_map, ownName?, ownBasename?_bare]
  refine congrArg (fun n : Nat => (ownName? t).getD (counted n))
    (List.countP_congr fun u _ => ?_)
  simp [usablyNamed_bare_iff u]

/-- Neither does the name. -/
theorem nameIn_bare (ts : List TypeKey) (t : TypeKey) :
    nameIn (ts.map TypeKey.bare) t.bare = nameIn ts t := by
  unfold nameIn
  rw [before_bare, List.countP_map, basenameIn_bare]
  congr 3
  funext u
  exact congrArg (· == basenameIn ts t) (basenameIn_bare ts u)

/-- Equal types have the same name among equal ones. -/
theorem nameIn_congr_of_forall₂ (hts : List.Forall₂ (fun t u => (t == u) = true) ts us)
    (htu : (t == u) = true) : nameIn ts t = nameIn us u := by
  calc nameIn ts t
    _ = nameIn (ts.map TypeKey.bare) t.bare := (nameIn_bare ts t).symm
    _ = nameIn (us.map TypeKey.bare) u.bare := by
      rw [TypeKey.map_bare_eq_iff.mpr hts, TypeKey.beq_iff_bare_eq.mp htu]
    _ = nameIn us u := nameIn_bare us u

end Bare

/-! ## Answers -/

namespace Namer

variable {requests : List (TypeKey × Int)} {t : TypeKey} {n : Int}

/-- A request that stays is answered as before. -/
theorem getElem?_answers_edited {plan : Plan} (hplan : plan.IsHarmless)
    (hwellFormed : ∀ request ∈ plan.original, request.1.WellFormed) {i : Nat}
    {request : TypeKey × Int} (hi : plan[i]? = some (request, .keep)) :
    (empty.answers plan.edited)[plan.place i]? = (empty.answers plan.original)[i]? := by
  obtain ⟨t, n⟩ := request
  obtain ⟨hplace, htake⟩ := plan.take_edited hi rfl
  have horiginal : plan.original[i]? = some (t, n) := by
    unfold Plan.original
    rw [List.getElem?_map, hi]
    rfl
  have hstart : plan.original.take (i + 1) = Plan.original (plan.take (i + 1)) := by
    unfold Plan.original
    rw [List.map_take]
  rw [getElem?_answers_eq (Plan.wellFormed_edited hwellFormed) hplace,
    getElem?_answers_eq hwellFormed horiginal, htake, hstart,
    (hplan.take (i + 1)).firstRequests_edited]

/-- A type that has a name among others has a place among those with its basename. -/
theorem getElem?_filter_before {ts : List TypeKey} {p : TypeKey → Bool}
    (hdistinct : ts.Pairwise fun t u => (t == u) = false) (hmem : t ∈ ts) (hp : p t = true) :
    (ts.filter p)[(before ts t).countP p]? = some t := by
  obtain ⟨k, hk⟩ := List.mem_iff_getElem?.mp (List.mem_filter.mpr ⟨hmem, hp⟩)
  rw [countP_before hdistinct hk]
  exact hk

/-- The type at a place among those without a usable name has a basename with that number. -/
theorem basenameIn_of_getElem? {ts : List TypeKey} {k : Nat}
    (hdistinct : ts.Pairwise fun t u => (t == u) = false)
    (hk : (ts.filter fun u => ¬ UsablyNamed u)[k]? = some t) :
    basenameIn ts t = "var" ++ toString k := by
  have hunusable : ¬ UsablyNamed t :=
    of_decide_eq_true (List.mem_filter.mp (List.mem_of_getElem? hk)).2
  have hnone : ownName? t = none := by
    rw [← Option.not_isSome_iff_eq_none, isSome_ownName?_iff]
    exact hunusable
  unfold basenameIn
  rw [hnone, countP_before hdistinct hk]
  rfl

/-- What a namer answers follows from the first requests for types. -/
structure FollowsFirstRequests (requests : List (TypeKey × Int)) : Prop where
  /-- A negative number is refused. All other requests are answered with the name that the type has
  among those that were requested so far. -/
  answer : ∀ (i : Nat) (t : TypeKey) (n : Int), requests[i]? = some (t, n) →
    (empty.answers requests)[i]? = some (if n < 0 then .error (.negativeInstance n)
      else .ok (instanceName (nameIn (firstRequests (requests.take (i + 1))) t) n))
  /-- In any other run a request for an equal type and the same number is answered in the same way
  if equal types were requested so far in the same order. -/
  same_answer : ∀ (requests' : List (TypeKey × Int)) (i j : Nat) (t u : TypeKey) (n : Int),
    (∀ request ∈ requests', request.1.WellFormed) →
    requests[i]? = some (t, n) → requests'[j]? = some (u, n) → (t == u) = true →
    List.Forall₂ (fun t u => (t == u) = true) (firstRequests (requests.take (i + 1)))
      (firstRequests (requests'.take (j + 1))) →
    (empty.answers requests)[i]? = (empty.answers requests')[j]?
  /-- Harmless edits do not change the answers to the requests that stay. -/
  kept : ∀ plan : Plan, plan.original = requests → plan.IsHarmless →
    ∀ (i : Nat) (request : TypeKey × Int), plan[i]? = some (request, .keep) →
      plan.edited[plan.place i]? = some request ∧
        (empty.answers plan.edited)[plan.place i]? = (empty.answers requests)[i]?
  /-- The types without a usable name are numbered in the order of their first requests: each claims
  the basename `var` with its number, and all its instances have names of this basename. -/
  counted : ∀ (k : Nat) (t : TypeKey),
    ((firstRequests requests).filter fun u => ¬ UsablyNamed u)[k]? = some t →
    ∃ index : Nat,
      ((empty.after requests).claimantsOf ("var" ++ toString k))[index]? = some t ∧
        ∀ (i : Nat) (u : TypeKey) (n : Int) (s : String), requests[i]? = some (u, n) →
          (t == u) = true → (empty.answers requests)[i]? = some (.ok s) →
          s = instanceName (typeName ("var" ++ toString k) index) n

/-- A type without a usable name claims the basename with its number. -/
theorem exists_claim (h : ∀ request ∈ requests, request.1.WellFormed) {k : Nat}
    (hk : ((firstRequests requests).filter fun u => ¬ UsablyNamed u)[k]? = some t) :
    ∃ index : Nat,
      ((empty.after requests).claimantsOf ("var" ++ toString k))[index]? = some t ∧
        (empty.after requests).table.get? t = some (typeName ("var" ++ toString k) index) := by
  have hnames := names_after h
  have hdistinct := pairwise_firstRequests requests
  have hbase := basenameIn_of_getElem? hdistinct hk
  have hmem := (List.mem_filter.mp (List.mem_of_getElem? hk)).1
  refine ⟨(before (firstRequests requests) t).countP fun u =>
    basenameIn (firstRequests requests) u == "var" ++ toString k, ?_, ?_⟩
  · rw [hnames.claimants]
    exact getElem?_filter_before hdistinct hmem (by rw [hbase]; exact BEq.refl _)
  · rw [hnames.get?, if_pos (contains_of_mem hmem)]
    unfold nameIn
    rw [hbase]

/-- Whatever well-formed types are requested of a new namer, its answers follow from the first
requests for them. -/
theorem followsFirstRequests (h : ∀ request ∈ requests, request.1.WellFormed) :
    FollowsFirstRequests requests where
  answer i t n hi := getElem?_answers_eq h hi
  same_answer requests' i j t u n h' hi hj htu hfirst := by
    rw [getElem?_answers_eq h hi, getElem?_answers_eq h' hj,
      nameIn_congr_of_forall₂ hfirst htu]
  kept plan hplan hharmless i request hi := by
    subst hplan
    exact ⟨(plan.take_edited hi rfl).1, getElem?_answers_edited hharmless h hi⟩
  counted k t hk := by
    obtain ⟨index, hclaim, hname⟩ := exists_claim h hk
    refine ⟨index, hclaim, fun i u n s hi htu hs => ?_⟩
    -- The answer is the name that the type has at the end.
    obtain ⟨-, name, hget, rfl⟩ := exists_name_of_answers hi hs
    rw [← get?_congr htu, hname] at hget
    rw [Option.some.inj hget]

/-- A run with what is to be done to it: a spelling and a class whose name is that of its number,
the spelling again, once refused, and another spelling. -/
def spellingsPlan : Plan :=
  [((.basic "int", 0), .keep), ((.named "Var0" "app", 0), .renumber 3),
    ((.basic "int", -1), .delete), ((.basic "int", 2), .delete), ((.basic "str", 1), .keep)]

/-- The edits of the run are harmless. -/
theorem isHarmless_spellingsPlan : spellingsPlan.IsHarmless := by
  intro i request edit hi
  match i, hi with
  | 0, rfl => trivial
  | 1, rfl => exact ⟨by decide, by decide⟩
  | 2, rfl => exact Or.inl (by decide)
  | 3, rfl => exact Or.inr ⟨_, List.mem_cons_self, by decide, BEq.refl _⟩
  | 4, rfl => trivial

/-- The second spelling is the second type without a usable name, and it is called so whether or not
the edits are made. -/
theorem followsFirstRequests_spellings :
    (empty.answers spellingsPlan.original =
      [.ok "var0", .ok "var0_A", .error (.negativeInstance (-1)), .ok "var0_2", .ok "var1_1"]) ∧
    (empty.answers spellingsPlan.edited)[2]? = (empty.answers spellingsPlan.original)[4]? ∧
    ∃ index : Nat,
      ((empty.after spellingsPlan.original).claimantsOf "var1")[index]? = some (.basic "str") := by
  have hwellFormed : ∀ request ∈ spellingsPlan.original, request.1.WellFormed := by
    intro request hrequest
    simp only [spellingsPlan, Plan.original, List.map_cons, List.map_nil, List.mem_cons,
      List.not_mem_nil, or_false] at hrequest
    rcases hrequest with rfl | rfl | rfl | rfl | rfl
    · exact TypeKey.wellFormed_basic "int"
    · exact TypeKey.wellFormed_named "Var0" "app" []
    · exact TypeKey.wellFormed_basic "int"
    · exact TypeKey.wellFormed_basic "int"
    · exact TypeKey.wellFormed_basic "str"
  have hfollows := followsFirstRequests hwellFormed
  obtain ⟨index, hclaim, -⟩ := hfollows.counted 1 (.basic "str") rfl
  exact ⟨by decide +kernel,
    (hfollows.kept spellingsPlan rfl isHarmless_spellingsPlan 4 (.basic "str", 1) rfl).2,
    index, hclaim⟩

end Namer

end Wiring.Variable
