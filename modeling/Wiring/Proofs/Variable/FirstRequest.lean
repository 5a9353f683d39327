import Mathlib.Data.List.TakeWhile
import Wiring.Proofs.Variable.Namer
import Wiring.Proofs.Variable.Usable

/-!
# Names follow first requests

What a namer answers can be said without any state. `nameIn` is the name that a type has among types
in the order of their first requests: its basename is its own one or `var` with the number of types
before it that have none, and the letters count the types before it with the same basename. A namer
holds these names and no others (`Namer.Names`), which each request keeps (`Namer.Names.next`), so
every answer is such a name (`Namer.getElem?_answers_eq`).
-/

namespace Wiring.Variable

/-! ## Types in the order of their first requests -/

/-- The types that a list of requests names, in the order of their first requests. A negative number
is refused and names nothing. -/
def firstRequests (requests : List (TypeKey × Int)) : List TypeKey :=
  TypeKey.distinct ((requests.filter fun request => 0 ≤ request.2).map Prod.fst)

/-- The types of a list that stand before the first one equal to a type. -/
def before (ts : List TypeKey) (t : TypeKey) : List TypeKey := ts.takeWhile fun u => !(u == t)

/-- The basename of a type among types in the order of their first requests: its own one, or `var`
with the number of types before it that have none. -/
def basenameIn (ts : List TypeKey) (t : TypeKey) : String :=
  (ownName? t).getD (counted ((before ts t).countP fun u => ¬ UsablyNamed u))

/-- The name of a type among types in the order of their first requests: its basename, with the
letters for the number of types before it that have the same. -/
def nameIn (ts : List TypeKey) (t : TypeKey) : String :=
  typeName (basenameIn ts t) ((before ts t).countP fun u => basenameIn ts u == basenameIn ts t)

section Order

variable {ts us : List TypeKey} {t u : TypeKey}

/-- A member of a list is in the list as types are compared. -/
theorem contains_of_mem (h : t ∈ ts) : ts.contains t = true :=
  TypeKey.contains_of_beq h (BEq.refl t)

/-- Requests name one type after the other: one that is refused or asks for a type that is named
adds none. -/
theorem firstRequests_concat (requests : List (TypeKey × Int)) (t : TypeKey) (n : Int) :
    firstRequests (requests ++ [(t, n)]) =
      if n < 0 ∨ (firstRequests requests).contains t = true then firstRequests requests
      else firstRequests requests ++ [t] := by
  unfold firstRequests
  rw [List.filter_append, List.map_append]
  by_cases hn : n < 0
  · have hrefused : ¬ (0 ≤ n) := by omega
    simp [hn, hrefused]
  · have hanswered : 0 ≤ n := by omega
    simp [hn, hanswered, TypeKey.distinct_concat]

/-- No two types are equal that are listed by their first requests. -/
theorem pairwise_firstRequests (requests : List (TypeKey × Int)) :
    (firstRequests requests).Pairwise fun t u => (t == u) = false :=
  TypeKey.pairwise_distinct _

/-- What stands before a type is part of the list. -/
theorem mem_of_mem_before (h : u ∈ before ts t) : u ∈ ts := (List.takeWhile_prefix _).mem h

/-- Equal types have the same types before them. -/
theorem before_congr (ts : List TypeKey) (h : (t == u) = true) : before ts t = before ts u := by
  unfold before
  congr 1
  funext s
  rw [BEq.congr_right h]

/-- All of a list stands before a type that it does not have. -/
theorem before_eq_self (h : ts.contains t = false) : before ts t = ts := by
  unfold before
  rw [List.takeWhile_eq_self_iff]
  intro u hu
  rw [TypeKey.beq_eq_false_of_mem (by simpa using h) hu]
  rfl

/-- What is added to a list does not stand before a type that the list has. -/
theorem before_append (us : List TypeKey) (h : ts.contains t = true) :
    before (ts ++ us) t = before ts t := by
  unfold before
  obtain ⟨u, hu, htu⟩ := List.contains_iff_exists_mem_beq.mp h
  induction ts with
  | nil => cases hu
  | cons s ts ih =>
    rw [List.cons_append, List.takeWhile_cons, List.takeWhile_cons]
    split
    · rename_i hs
      rcases List.mem_cons.mp hu with rfl | hu
      · rw [BEq.symm htu] at hs
        cases hs
      · rw [ih (List.contains_iff_exists_mem_beq.mpr ⟨u, hu, htu⟩) hu]
    · rfl

/-- A type that is added to a list that does not have it stands behind all others. -/
theorem before_concat (h : ts.contains t = false) : before (ts ++ [t]) t = ts := by
  unfold before
  have hself : ∀ u ∈ ts, (!(u == t)) = true := List.takeWhile_eq_self_iff.mp (before_eq_self h)
  rw [List.takeWhile_append_of_pos hself]
  simp

/-- Equal types have the same basename. -/
theorem basenameIn_congr (ts : List TypeKey) (h : (t == u) = true) :
    basenameIn ts t = basenameIn ts u := by
  unfold basenameIn
  rw [ownName?_congr h, before_congr ts h]

/-- Equal types have the same name. -/
theorem nameIn_congr (ts : List TypeKey) (h : (t == u) = true) : nameIn ts t = nameIn ts u := by
  unfold nameIn
  rw [basenameIn_congr ts h, before_congr ts h]

/-- Types that are added do not change the basename of a type that is there. -/
theorem basenameIn_append (us : List TypeKey) (h : ts.contains t = true) :
    basenameIn (ts ++ us) t = basenameIn ts t := by
  unfold basenameIn
  rw [before_append us h]

/-- Nor do they change its name. -/
theorem nameIn_append (us : List TypeKey) (h : ts.contains t = true) :
    nameIn (ts ++ us) t = nameIn ts t := by
  unfold nameIn
  rw [before_append us h, basenameIn_append us h]
  congr 2
  refine List.countP_congr fun u hu => ?_
  rw [basenameIn_append us (contains_of_mem (mem_of_mem_before hu))]

/-- The name of a type that is added has the letters for the number of types with its basename. -/
theorem nameIn_concat (h : ts.contains t = false) :
    nameIn (ts ++ [t]) t = typeName (basenameIn (ts ++ [t]) t)
      (ts.countP fun u => basenameIn ts u == basenameIn (ts ++ [t]) t) := by
  unfold nameIn
  rw [before_concat h]
  congr 2
  refine List.countP_congr fun u hu => ?_
  rw [basenameIn_append [t] (contains_of_mem hu)]

/-- The types before the one at a place among those with a property are as many as the place says,
if no two types are equal. -/
theorem countP_before {p : TypeKey → Bool} {k : Nat}
    (hdistinct : ts.Pairwise fun t u => (t == u) = false) (h : (ts.filter p)[k]? = some t) :
    (before ts t).countP p = k := by
  unfold before
  induction ts generalizing k with
  | nil => cases h
  | cons s ts ih =>
    obtain ⟨hs, hdistinct⟩ := List.pairwise_cons.mp hdistinct
    rw [List.filter_cons] at h
    by_cases hp : p s = true
    · rw [if_pos hp] at h
      cases k with
      | zero =>
        obtain rfl : s = t := Option.some.inj h
        simp
      | succ k =>
        -- The type stands further behind, so it is not the first one.
        rw [List.getElem?_cons_succ] at h
        have hmem : t ∈ ts := (List.mem_filter.mp (List.mem_of_getElem? h)).1
        rw [List.takeWhile_cons, hs t hmem]
        simp [hp, ih hdistinct h]
    · rw [if_neg hp] at h
      have hmem : t ∈ ts := (List.mem_filter.mp (List.mem_of_getElem? h)).1
      rw [List.takeWhile_cons, hs t hmem]
      simp [hp, ih hdistinct h]

end Order

/-! ## What a namer holds -/

namespace Namer

variable {namer namer' : Namer} {ts : List TypeKey} {t u : TypeKey}

/-- The namer has named some types, in the order of their first requests. -/
structure Names (namer : Namer) (ts : List TypeKey) : Prop where
  /-- It has counted those without a usable name. -/
  counter : namer.counter = ts.countP fun u => ¬ UsablyNamed u
  /-- A basename is claimed by the types that have it. -/
  claimants : ∀ base, namer.claimantsOf base = ts.filter fun u => basenameIn ts u == base
  /-- They and no others have names. -/
  get? : ∀ u, namer.table.get? u = if ts.contains u then some (nameIn ts u) else none

/-- A new namer has named nothing. -/
theorem names_empty : empty.Names [] where
  counter := rfl
  claimants _ := rfl
  get? _ := rfl

/-- A type that equals none of the claimants is added behind them. -/
theorem claim_of_not_contains (h : ts.contains t = false) :
    claim t ts = (ts.length, ts ++ [t]) := by
  have hnone : ts.findIdx? (· == t) = none := by
    rw [List.findIdx?_eq_none_iff]
    exact fun u hu => TypeKey.beq_eq_false_of_mem (by simpa using h) hu
  unfold claim
  rw [hnone]

/-- A well-formed type gets its own basename or the next number from the counter. -/
theorem Names.basename_run (h : namer.Names ts) (ht : t.WellFormed)
    (hnew : ts.contains t = false) :
    (basename t).run.run namer.counter =
      (.ok (basenameIn (ts ++ [t]) t), (ts ++ [t]).countP fun u => ¬ UsablyNamed u) := by
  rw [Variable.basename_run, ownBasename?_eq ht, h.counter, List.countP_append]
  unfold basenameIn
  rw [before_concat hnew]
  cases hown : ownName? t with
  | some name =>
    have husable : UsablyNamed t := isSome_ownName?_iff.mp (by rw [hown]; rfl)
    simp [husable]
  | none =>
    have hunusable : ¬ UsablyNamed t := fun husable => by
      have hsome := isSome_ownName?_iff.mpr husable
      rw [hown] at hsome
      cases hsome
    simp [hunusable]

/-- A type that is named keeps its name, and the namer stays as it is. -/
theorem Names.nameType_of_contains (h : namer.Names ts) (ht : ts.contains t = true) :
    namer.nameType t = .ok (nameIn ts t, namer) := by
  unfold nameType
  rw [h.get? t, if_pos ht]

/-- The namer that has named one more type, behind the types of a list. -/
def named (namer : Namer) (ts : List TypeKey) (t : TypeKey) : Namer where
  counter := (ts ++ [t]).countP fun u => ¬ UsablyNamed u
  claimants := namer.claimants.insert (basenameIn (ts ++ [t]) t)
    (namer.claimantsOf (basenameIn (ts ++ [t]) t) ++ [t])
  table := namer.table.set t (nameIn (ts ++ [t]) t)

/-- A type that is not named yet is none of the claimants of a basename. -/
theorem Names.claimantsOf_contains (h : namer.Names ts) (hnew : ts.contains t = false)
    (base : String) : (namer.claimantsOf base).contains t = false := by
  rw [h.claimants base, Bool.eq_false_iff]
  intro hcontains
  obtain ⟨u, hu, htu⟩ := List.contains_iff_exists_mem_beq.mp hcontains
  have hts := List.contains_iff_exists_mem_beq.mpr ⟨u, (List.mem_filter.mp hu).1, htu⟩
  rw [hnew] at hts
  cases hts

/-- A type that is not named yet is named behind all others. -/
theorem Names.nameType_of_not_contains (h : namer.Names ts) (ht : t.WellFormed)
    (hnew : ts.contains t = false) :
    namer.nameType t = .ok (nameIn (ts ++ [t]) t, namer.named ts t) := by
  have hunknown : namer.table.get? t = none := by
    rw [h.get? t, hnew]
    rfl
  have hclaim : claim t ((namer.claimants.find? (basenameIn (ts ++ [t]) t)).getD []) =
      ((namer.claimantsOf (basenameIn (ts ++ [t]) t)).length,
        namer.claimantsOf (basenameIn (ts ++ [t]) t) ++ [t]) :=
    claim_of_not_contains (h.claimantsOf_contains hnew _)
  -- The claimants of the basename are the types before that have it.
  have hname : typeName (basenameIn (ts ++ [t]) t)
      ((namer.claimantsOf (basenameIn (ts ++ [t]) t)).length : Nat) = nameIn (ts ++ [t]) t := by
    rw [nameIn_concat hnew, h.claimants, List.countP_eq_length_filter]
  unfold nameType
  rw [hunknown]
  dsimp only
  rw [h.basename_run ht hnew]
  dsimp only
  rw [hclaim]
  dsimp only
  rw [hname]
  rfl

/-- A basename is claimed by one more type. -/
theorem Names.claimants_named (h : namer.Names ts) (t : TypeKey) (base : String) :
    (namer.named ts t).claimantsOf base =
      (ts ++ [t]).filter fun u => basenameIn (ts ++ [t]) u == base := by
  have hbefore : (ts.filter fun u => basenameIn (ts ++ [t]) u == base) =
      namer.claimantsOf base := by
    rw [h.claimants base]
    refine List.filter_congr fun u hu => ?_
    rw [basenameIn_append [t] (contains_of_mem hu)]
  unfold named
  rw [claimantsOf_insert, List.filter_append, hbefore, List.filter_singleton]
  cases hbase : basenameIn (ts ++ [t]) t == base with
  | true => simp [eq_of_beq hbase]
  | false => simp

/-- The new name is found for the types that equal the new one, and all others keep theirs. -/
theorem Names.get?_named (h : namer.Names ts) (t u : TypeKey) :
    (namer.named ts t).table.get? u =
      if (ts ++ [t]).contains u then some (nameIn (ts ++ [t]) u) else none := by
  unfold named
  rw [get?_set, h.get? u]
  by_cases htu : (t == u) = true
  · have hcontains : (ts ++ [t]).contains u = true :=
      TypeKey.contains_of_beq (by simp) htu
    rw [if_pos htu, if_pos hcontains, nameIn_congr _ htu]
  · have hut : (u == t) = false := by
      rw [BEq.comm]
      simpa using htu
    have hcontains : (ts ++ [t]).contains u = ts.contains u := by
      simp [hut]
    rw [if_neg htu, hcontains]
    split
    · rename_i hu
      rw [nameIn_append [t] hu]
    · rfl

/-- Then one more type has a name. -/
theorem Names.concat (h : namer.Names ts) (t : TypeKey) : (namer.named ts t).Names (ts ++ [t]) where
  counter := rfl
  claimants := h.claimants_named t
  get? := h.get?_named t

/-! ## Requests -/

section Requests

variable {requests : List (TypeKey × Int)} {n : Int}

/-- Instances count from zero. -/
theorem answer_of_neg (namer : Namer) (t : TypeKey) (h : n < 0) :
    namer.answer (t, n) = .error (.negativeInstance n) := by
  unfold answer Namer.name
  rw [if_pos h]
  rfl

/-- One request keeps what the namer holds, and one that is not refused is answered with the name
of its type. -/
theorem Names.next {requests : List (TypeKey × Int)} (h : namer.Names (firstRequests requests))
    (ht : t.WellFormed) (n : Int) :
    (namer.next (t, n)).Names (firstRequests (requests ++ [(t, n)])) ∧
      (0 ≤ n → namer.answer (t, n) =
        .ok (instanceName (nameIn (firstRequests (requests ++ [(t, n)])) t) n)) := by
  rw [firstRequests_concat]
  unfold Namer.next answer Namer.name
  dsimp only
  by_cases hn : n < 0
  · -- A refused request changes nothing.
    rw [if_pos hn, if_pos (Or.inl hn)]
    refine ⟨h, fun hanswered => ?_⟩
    omega
  · rw [if_neg hn]
    by_cases hcontains : (firstRequests requests).contains t = true
    · rw [if_pos (Or.inr hcontains), h.nameType_of_contains hcontains]
      exact ⟨h, fun _ => rfl⟩
    · rw [if_neg (by simp [hn, hcontains])]
      have hnew : (firstRequests requests).contains t = false := by simpa using hcontains
      rw [h.nameType_of_not_contains ht hnew]
      exact ⟨h.concat t, fun _ => rfl⟩

/-- After any requests for well-formed types a new namer holds the names of those that were
requested. -/
theorem names_after (h : ∀ request ∈ requests, request.1.WellFormed) :
    (empty.after requests).Names (firstRequests requests) := by
  induction requests using List.reverseRecOn with
  | nil => exact names_empty
  | append_singleton requests request ih =>
    obtain ⟨t, n⟩ := request
    have hearlier : ∀ request ∈ requests, request.1.WellFormed := fun request hrequest =>
      h request (List.mem_append_left _ hrequest)
    have ht : t.WellFormed := h (t, n) (by simp)
    rw [Namer.after, List.foldl_append]
    exact ((ih hearlier).next ht n).1

/-- An answer is the name that the type has among those that were requested so far. -/
theorem getElem?_answers_eq (h : ∀ request ∈ requests, request.1.WellFormed) {i : Nat}
    (hi : requests[i]? = some (t, n)) :
    (empty.answers requests)[i]? = some (if n < 0 then .error (.negativeInstance n)
      else .ok (instanceName (nameIn (firstRequests (requests.take (i + 1))) t) n)) := by
  rw [getElem?_answers, hi, Option.map_some]
  congr 1
  by_cases hn : n < 0
  · rw [if_pos hn, answer_of_neg _ _ hn]
  · have hearlier : ∀ request ∈ requests.take i, request.1.WellFormed := fun request hrequest =>
      h request (List.mem_of_mem_take hrequest)
    have hanswered : 0 ≤ n := by omega
    rw [if_neg hn, ((names_after hearlier).next (h _ (List.mem_of_getElem? hi)) n).2 hanswered,
      List.take_add_one, hi]
    rfl

end Requests

end Namer

end Wiring.Variable
