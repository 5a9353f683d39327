import Wiring.Proofs.TypeKey.Index
import Wiring.Proofs.Variable.Basename
import Wiring.Proofs.Variable.Ending

/-!
# Names are unique

A namer answers a list of requests one after the other, some of which it refuses
(`Namer.answers`). Every name that it has given stands for a place among the claimants of a basename
(`Namer.Sound`), and since claimants are only ever added at the end, a type keeps both its place and
its name (`Namer.Grows`). An answer is therefore the name that its type has at the end of all
requests (`Namer.exists_name_of_answers`), and two types with the same place are equal.

The main result is `Namer.answers_spec`: two answers are the same string exactly if they were asked
for equal types and the same number.
-/

namespace Wiring.Variable.Namer

variable {namer namer' : Namer} {t u : TypeKey} {name : String} {n : Int}

/-! ## Requests -/

/-- The answer to a request. -/
def answer (namer : Namer) (request : TypeKey × Int) : Except NamingError String :=
  Prod.fst <$> namer.name request.1 request.2

/-- The namer after a request; one that is refused changes nothing. -/
def next (namer : Namer) (request : TypeKey × Int) : Namer :=
  match namer.name request.1 request.2 with
  | .ok (_, namer') => namer'
  | .error _ => namer

/-- The answers to a list of requests, one after the other. -/
def answers (namer : Namer) : List (TypeKey × Int) → List (Except NamingError String)
  | [] => []
  | request :: requests => namer.answer request :: (namer.next request).answers requests

/-- The namer after a list of requests. -/
def after (namer : Namer) (requests : List (TypeKey × Int)) : Namer := requests.foldl next namer

/-! ## What one request does -/

/-- The types that claim a basename. -/
def claimantsOf (namer : Namer) (base : String) : List TypeKey :=
  (namer.claimants.find? base).getD []

/-- Naming a type either answers with the name that it has, or gives it the next name of its
basename. -/
theorem nameType_cases (h : namer.nameType t = .ok (name, namer')) :
    (namer.table.get? t = some name ∧ namer' = namer) ∨
    (namer.table.get? t = none ∧ ∃ base counter,
      (basename t).run.run namer.counter = (.ok base, counter) ∧
      name = typeName base (claim t (namer.claimantsOf base)).1 ∧
      namer' = {
        counter
        claimants := namer.claimants.insert base (claim t (namer.claimantsOf base)).2
        table := namer.table.set t name }) := by
  unfold nameType at h
  split at h
  · rename_i known hknown
    obtain ⟨rfl, rfl⟩ := Prod.mk.inj (Except.ok.inj h)
    exact Or.inl ⟨hknown, rfl⟩
  · rename_i hunknown
    split at h
    · simp at h
    · rename_i base counter hbase
      obtain ⟨rfl, rfl⟩ := Prod.mk.inj (Except.ok.inj h)
      exact Or.inr ⟨hunknown, base, counter, hbase, rfl, rfl⟩

/-- A claim leads to the place of an equal type and moves no other. -/
theorem claim_spec (t : TypeKey) (ts : List TypeKey) :
    (∃ s, (claim t ts).2[(claim t ts).1]? = some s ∧ (s == t) = true) ∧
      ∀ (j : Nat) (s : TypeKey), ts[j]? = some s → (claim t ts).2[j]? = some s := by
  unfold claim
  split
  · rename_i i hfind
    obtain ⟨hi, heq, -⟩ := List.findIdx?_eq_some_iff_getElem.mp hfind
    exact ⟨⟨ts[i], List.getElem?_eq_getElem hi, heq⟩, fun _ _ hs => hs⟩
  · refine ⟨⟨t, List.getElem?_concat_length, BEq.refl t⟩, ?_⟩
    intro j s hs
    have hj : j < ts.length := (List.getElem?_eq_some_iff.mp hs).1
    rwa [List.getElem?_append_left hj]

/-! ## The invariant -/

/-- An equal type has the place `index` among the claimants of a basename. -/
def Holds (namer : Namer) (t : TypeKey) (base : String) (index : Nat) : Prop :=
  ∃ s, (namer.claimantsOf base)[index]? = some s ∧ (s == t) = true

/-- Types that hold the same place are equal. -/
theorem Holds.beq {base : String} {index : Nat} (h : namer.Holds t base index)
    (h' : namer.Holds u base index) : (t == u) = true := by
  obtain ⟨s, hs, hst⟩ := h
  obtain ⟨s', hs', hsu⟩ := h'
  rw [hs, Option.some.injEq] at hs'
  rw [← hs'] at hsu
  exact BEq.trans (BEq.symm hst) hsu

/-- Every name stands for a place among the claimants of a basename without underscores. -/
def Sound (namer : Namer) : Prop :=
  ∀ t name, namer.table.get? t = some name →
    ∃ (base : String) (index : Nat),
      '_' ∉ base.toList ∧ name = typeName base index ∧ namer.Holds t base index

/-- Names and places are kept. -/
structure Grows (namer namer' : Namer) : Prop where
  /-- A type keeps its name. -/
  get? : ∀ t name, namer.table.get? t = some name → namer'.table.get? t = some name
  /-- A type keeps its place. -/
  holds : ∀ t base index, namer.Holds t base index → namer'.Holds t base index

/-- Nothing is lost when nothing is done. -/
theorem Grows.refl (namer : Namer) : namer.Grows namer := ⟨fun _ _ h => h, fun _ _ _ h => h⟩

/-- What is kept twice is kept. -/
theorem Grows.trans {namer'' : Namer} (h : namer.Grows namer') (h' : namer'.Grows namer'') :
    namer.Grows namer'' where
  get? t name hname := h'.get? t name (h.get? t name hname)
  holds t base index hholds := h'.holds t base index (h.holds t base index hholds)

/-- Equal types have the same name. -/
theorem get?_congr (h : (t == u) = true) : namer.table.get? t = namer.table.get? u :=
  OrderedMap.find?_congr namer.table.names h

/-- A name that is given is found, for equal types and no others. -/
theorem get?_set (table : NameTable) (t u : TypeKey) (name : String) :
    (table.set t name).get? u = if t == u then some name else table.get? u :=
  OrderedMap.find?_insert table.names t u name

/-- After a claim the claimants of its basename are the new ones and all others stay. -/
theorem claimantsOf_insert (namer : Namer) (base base' : String) (ts : List TypeKey) (counter : Nat)
    (table : NameTable) :
    claimantsOf { counter, claimants := namer.claimants.insert base ts, table } base' =
      if base == base' then ts else namer.claimantsOf base' := by
  unfold claimantsOf
  rw [OrderedMap.find?_insert]
  split
  · rfl
  · rfl

/-- Naming a type keeps all names and places. -/
theorem grows_nameType (h : namer.nameType t = .ok (name, namer')) : namer.Grows namer' := by
  rcases nameType_cases h with ⟨-, rfl⟩ | ⟨hunknown, base, counter, -, -, rfl⟩
  · exact Grows.refl _
  · constructor
    · intro u known hknown
      rw [get?_set]
      split
      · -- The new name is given only to a type without one.
        rename_i htu
        rw [get?_congr htu, hknown] at hunknown
        simp at hunknown
      · exact hknown
    · rintro u base' index ⟨s, hs, hsu⟩
      refine ⟨s, ?_, hsu⟩
      rw [claimantsOf_insert]
      split
      · -- Claimants are added at the end.
        rename_i hbase
        rw [eq_of_beq hbase]
        exact (claim_spec t _).2 index s hs
      · exact hs

/-- A type that is named has the name. -/
theorem get?_of_nameType (h : namer.nameType t = .ok (name, namer')) :
    namer'.table.get? t = some name := by
  rcases nameType_cases h with ⟨hknown, rfl⟩ | ⟨-, base, counter, -, -, rfl⟩
  · exact hknown
  · rw [get?_set, if_pos (BEq.refl t)]

/-- Naming a type gives it a name that stands for its place. -/
theorem Sound.nameType (hsound : namer.Sound) (h : namer.nameType t = .ok (name, namer')) :
    namer'.Sound := by
  have hgrows := grows_nameType h
  rcases nameType_cases h with ⟨-, rfl⟩ | ⟨-, base, counter, hbase, hname, rfl⟩
  · exact hsound
  · intro u given hgiven
    rw [get?_set] at hgiven
    split at hgiven
    · -- The new name stands for the place that was just claimed.
      rename_i htu
      obtain rfl : name = given := Option.some.inj hgiven
      obtain ⟨s, hs, hst⟩ := (claim_spec t (namer.claimantsOf base)).1
      refine ⟨base, _, underscore_not_mem_basename hbase, hname, s, ?_, BEq.trans hst htu⟩
      rw [claimantsOf_insert, if_pos (BEq.refl base)]
      exact hs
    · obtain ⟨base', index, hunderscore, hgiven', hholds⟩ := hsound u given hgiven
      exact ⟨base', index, hunderscore, hgiven', hgrows.holds u base' index hholds⟩

/-! ## Runs -/

/-- A request that is answered has a number from zero on and names its type. -/
theorem name_eq_ok_iff {s : String} :
    namer.name t n = .ok (s, namer') ↔
      0 ≤ n ∧ ∃ name, namer.nameType t = .ok (name, namer') ∧ s = instanceName name n := by
  unfold Namer.name
  by_cases hn : n < 0
  · rw [if_pos hn]
    constructor
    · intro h
      simp at h
    · rintro ⟨hn', -⟩
      omega
  · rw [if_neg hn]
    cases hname : namer.nameType t with
    | error e => simp
    | ok r =>
      obtain ⟨name, namer''⟩ := r
      simp only [Except.ok.injEq, Prod.mk.injEq]
      constructor
      · rintro ⟨rfl, rfl⟩
        exact ⟨by omega, name, ⟨rfl, rfl⟩, rfl⟩
      · rintro ⟨-, _, ⟨rfl, rfl⟩, rfl⟩
        exact ⟨rfl, rfl⟩

/-- After a request the namer is sound and has kept all names and places. -/
theorem next_spec (namer : Namer) (request : TypeKey × Int) :
    namer.Grows (namer.next request) ∧ (namer.Sound → (namer.next request).Sound) := by
  unfold next
  split
  · rename_i s namer' hok
    obtain ⟨-, name, hname, -⟩ := name_eq_ok_iff.mp hok
    exact ⟨grows_nameType hname, fun hsound => hsound.nameType hname⟩
  · exact ⟨Grows.refl namer, id⟩

/-- After any requests the namer has kept all names and places. -/
theorem grows_after (namer : Namer) (requests : List (TypeKey × Int)) :
    namer.Grows (namer.after requests) := by
  induction requests generalizing namer with
  | nil => exact Grows.refl namer
  | cons request requests ih => exact (next_spec namer request).1.trans (ih (namer.next request))

/-- A sound namer stays sound. -/
theorem Sound.after (h : namer.Sound) (requests : List (TypeKey × Int)) :
    (namer.after requests).Sound := by
  induction requests generalizing namer with
  | nil => exact h
  | cons request requests ih => exact ih ((next_spec namer request).2 h)

/-- A namer that has named nothing is sound. -/
theorem sound_empty : empty.Sound := by
  intro t name hname
  simp [empty, NameTable.get?, NameTable.empty, OrderedMap.find?, OrderedMap.empty,
    OrderedMap.lookup] at hname

/-- There is an answer to each request. -/
theorem getElem?_answers (namer : Namer) (requests : List (TypeKey × Int)) (i : Nat) :
    (namer.answers requests)[i]? =
      requests[i]?.map fun request => (namer.after (requests.take i)).answer request := by
  induction requests generalizing namer i with
  | nil => simp [answers]
  | cons request requests ih =>
    cases i with
    | zero => simp [answers, Namer.after]
    | succ i => simpa [answers, Namer.after] using ih (namer.next request) i

/-- An answer is the name that its type has after all requests. -/
theorem exists_name_of_answers {requests : List (TypeKey × Int)} {i : Nat} {s : String}
    (hi : requests[i]? = some (t, n)) (h : (namer.answers requests)[i]? = some (.ok s)) :
    0 ≤ n ∧ ∃ name, (namer.after requests).table.get? t = some name ∧ s = instanceName name n := by
  induction requests generalizing namer i with
  | nil => simp at hi
  | cons request requests ih =>
    cases i with
    | succ i =>
      have hrest : ((namer.next request).answers requests)[i]? = some (.ok s) := h
      exact ih hi hrest
    | zero =>
      -- The type gets its name now and keeps it through the other requests.
      obtain rfl : request = (t, n) := Option.some.inj hi
      have hanswer : Prod.fst <$> namer.name t n = .ok s := Option.some.inj h
      cases hname : namer.name t n with
      | error e =>
        rw [hname] at hanswer
        simp at hanswer
      | ok r =>
        obtain ⟨s', namer'⟩ := r
        rw [hname] at hanswer
        obtain rfl : s' = s := Except.ok.inj hanswer
        obtain ⟨hn, name, htype, hs⟩ := name_eq_ok_iff.mp hname
        have hnext : namer.next (t, n) = namer' := by
          unfold next
          rw [hname]
        have hkept := (grows_after namer' requests).get? t name (get?_of_nameType htype)
        refine ⟨hn, name, ?_, hs⟩
        show ((namer.next (t, n)).after requests).table.get? t = some name
        rw [hnext]
        exact hkept

/-- An instance of a well-formed type has a name if its number is not negative. -/
theorem exists_name (namer : Namer) (ht : t.WellFormed) (hn : 0 ≤ n) :
    ∃ s namer', namer.name t n = .ok (s, namer') := by
  have htype : ∃ name namer', namer.nameType t = .ok (name, namer') := by
    unfold nameType
    split
    · exact ⟨_, _, rfl⟩
    · obtain ⟨base, counter, hbase⟩ := exists_basename ht namer.counter
      rw [hbase]
      exact ⟨_, _, rfl⟩
  obtain ⟨name, namer', hname⟩ := htype
  exact ⟨_, namer', name_eq_ok_iff.mpr ⟨hn, name, hname, rfl⟩⟩

/-- A request for a well-formed type is answered exactly if its number is not negative. -/
theorem exists_answer_iff (ht : t.WellFormed) :
    (∃ s, namer.answer (t, n) = .ok s) ↔ 0 ≤ n := by
  unfold answer
  constructor
  · rintro ⟨s, hs⟩
    cases hrun : namer.name t n with
    | error e =>
      rw [hrun] at hs
      simp at hs
    | ok r => exact (name_eq_ok_iff.mp hrun).1
  · intro hn
    obtain ⟨s, namer', hname⟩ := exists_name namer ht hn
    refine ⟨s, ?_⟩
    dsimp only
    rw [hname]
    rfl

/-- In a sound namer the names of two types with numbers are the same exactly if the types are equal
and the numbers are the same. -/
theorem Sound.instanceName_eq_iff (hsound : namer.Sound) {name' : String} {m : Int} (hn : 0 ≤ n)
    (hm : 0 ≤ m) (ht : namer.table.get? t = some name) (hu : namer.table.get? u = some name') :
    instanceName name n = instanceName name' m ↔ (t == u) = true ∧ n = m := by
  constructor
  · -- Equal names stand for the same place, and only equal types hold one place.
    intro heq
    obtain ⟨base, i, hbase, rfl, hholds⟩ := hsound t name ht
    obtain ⟨base', j, hbase', rfl, hholds'⟩ := hsound u name' hu
    obtain ⟨rfl, rfl, rfl⟩ := instanceName_typeName_inj hbase hbase' hn hm heq
    exact ⟨hholds.beq hholds', rfl⟩
  · rintro ⟨htu, rfl⟩
    rw [get?_congr htu, hu, Option.some.injEq] at ht
    rw [ht]

/-- There are as many answers as requests. -/
theorem length_answers (namer : Namer) (requests : List (TypeKey × Int)) :
    (namer.answers requests).length = requests.length := by
  induction requests generalizing namer with
  | nil => rfl
  | cons request requests ih => rw [answers, List.length_cons, ih, List.length_cons]

section Names

variable {requests : List (TypeKey × Int)} {names : List String}

/-- A name that was given without refusal is that of its type after all requests, with the number
that was asked for. -/
theorem exists_name_of_answers_eq (h : empty.answers requests = names.map .ok) {i : Nat}
    (hi : i < requests.length) (hi' : i < names.length) :
    0 ≤ (requests[i]).2 ∧ ∃ name, (empty.after requests).table.get? (requests[i]).1 = some name ∧
      names[i] = instanceName name (requests[i]).2 := by
  refine exists_name_of_answers (List.getElem?_eq_getElem hi) ?_
  rw [h, List.getElem?_map, List.getElem?_eq_getElem hi']
  rfl

/-- If no type is requested twice with the same number, no name is given twice. -/
theorem nodup_of_answers (h : empty.answers requests = names.map .ok)
    (hdistinct : requests.Pairwise fun x y => (x.1 == y.1) = true → x.2 ≠ y.2) :
    names.Nodup := by
  have hlength : requests.length = names.length := by
    rw [← length_answers empty, h, List.length_map]
  have hsound := sound_empty.after requests
  refine List.pairwise_iff_getElem.mpr fun i j hi hj hij hname => ?_
  have hi' : i < requests.length := by omega
  have hj' : j < requests.length := by omega
  obtain ⟨hn, name, ht, hi_name⟩ := exists_name_of_answers_eq h hi' hi
  obtain ⟨hm, name', hu, hj_name⟩ := exists_name_of_answers_eq h hj' hj
  rw [hi_name, hj_name] at hname
  obtain ⟨htypes, hnumbers⟩ := (hsound.instanceName_eq_iff hn hm ht hu).mp hname
  exact List.pairwise_iff_getElem.mp hdistinct i j hi' hj' hij htypes hnumbers

/-- No name that is given is a reserved word. -/
theorem isKeyword_of_answers (h : empty.answers requests = names.map .ok) :
    ∀ name ∈ names, Source.isKeyword name = false := by
  intro name hname
  obtain ⟨i, hi, rfl⟩ := List.getElem_of_mem hname
  have hi' : i < requests.length := by
    rw [← length_answers empty, h, List.length_map]
    exact hi
  obtain ⟨hn, typed, ht, hi_name⟩ := exists_name_of_answers_eq h hi' hi
  obtain ⟨base, index, -, rfl, -⟩ := (sound_empty.after requests) _ typed ht
  rw [hi_name]
  exact isKeyword_instanceName base index hn

end Names

/-- Whatever is asked of a new namer, and however often it refuses, two answers are the same string
exactly if they were asked for equal types and the same number. A request for a well-formed type is
refused only if its number is negative. -/
theorem answers_spec (requests : List (TypeKey × Int)) (i : Nat) (t : TypeKey) (n : Int)
    (hi : requests[i]? = some (t, n)) :
    (t.WellFormed → ((∃ s, (empty.answers requests)[i]? = some (.ok s)) ↔ 0 ≤ n)) ∧
    ∀ (j : Nat) (u : TypeKey) (m : Int) (s s' : String), requests[j]? = some (u, m) →
      (empty.answers requests)[i]? = some (.ok s) →
      (empty.answers requests)[j]? = some (.ok s') →
      (s = s' ↔ (t == u) = true ∧ n = m) := by
  constructor
  · intro ht
    rw [getElem?_answers, hi]
    simp only [Option.map_some, Option.some.injEq]
    exact exists_answer_iff ht
  · intro j u m s s' hj hs hs'
    obtain ⟨hn, name, ht, rfl⟩ := exists_name_of_answers hi hs
    obtain ⟨hm, name', hu, rfl⟩ := exists_name_of_answers hj hs'
    exact (sound_empty.after requests).instanceName_eq_iff hn hm ht hu

/-- Requests for two types of one name, with a refused one in between. -/
def configRequests : List (TypeKey × Int) :=
  [(.named "Config" "a", 0), (.named "Config" "a", -1), (.named "Config" "b", 1)]

/-- The two types get different names, the number of either being answerable. -/
theorem answers_spec_config :
    ((∃ s, (empty.answers configRequests)[0]? = some (.ok s)) ↔ (0 : Int) ≤ 0) ∧
    ("config" = "config_A_1" ↔
      (TypeKey.named "Config" "a" == TypeKey.named "Config" "b") = true ∧ (0 : Int) = 1) := by
  obtain ⟨hanswered, hunique⟩ := answers_spec configRequests 0 (.named "Config" "a") 0 rfl
  have hwellFormed : (TypeKey.named "Config" "a").WellFormed :=
    ⟨rfl, fun hkind => absurd rfl hkind, trivial⟩
  have hfirst : (empty.answers configRequests)[0]? = some (.ok "config") := by decide +kernel
  have hlast : (empty.answers configRequests)[2]? = some (.ok "config_A_1") := by decide +kernel
  exact ⟨hanswered hwellFormed, hunique 2 _ _ _ _ rfl hfirst hlast⟩

end Wiring.Variable.Namer
