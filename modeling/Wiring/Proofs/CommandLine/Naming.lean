import Wiring.Proofs.CommandLine.Check
import Wiring.Proofs.Failure
import Wiring.Proofs.Variable.Namer

/-!
# The variables of a build order

The table of variables has a row for every value of the build order (`values`). To name the values,
the types are requested of one namer in that order, each with the number of equal types before it
(`requests`), so that the values of one type are numbered from zero on (`numbers_requests`) and no
type is requested twice with the same number (`pairwise_requests`). Since a namer tells types apart
and instances by their numbers, no two values share a variable.

`exists_namesValues` says this of the rows of a table, and `exists_naming` that there is a table
whenever there is a build order: every value has a name, as all types of a build are well-formed.
-/

namespace Wiring

open Variable (Namer NamingError)

namespace Report

/-! ## Values and requests -/

section Requests

variable {earlier ts : List TypeKey} {t u : TypeKey} {n : Int}

/-- The values of a build order: for each node in turn the types that it provides. -/
def values (c : Container) (order : List Node) : List (Node × TypeKey) :=
  order.flatMap fun n => (c.provides n).map fun type => (n, type)

/-- The requests for names of values of the given types, each numbered by the values of an equal
type before it, of which there are also the earlier ones. -/
def requests (earlier : List TypeKey) : List TypeKey → List (TypeKey × Int)
  | [] => []
  | t :: ts => (t, (earlier.countP (· == t) : Nat)) :: requests (earlier ++ [t]) ts

/-- The types are requested in their order. -/
theorem map_fst_requests (earlier ts : List TypeKey) : (requests earlier ts).map (·.1) = ts := by
  induction ts generalizing earlier with
  | nil => rfl
  | cons t ts ih => rw [requests, List.map_cons, ih]

/-- Equal types are equal to as many types of a list. -/
theorem countP_beq_congr (h : (t == u) = true) : ts.countP (· == t) = ts.countP (· == u) := by
  refine List.countP_congr fun s _ => ?_
  rw [BEq.congr_right h]

/-- With one more type, equal types are counted once more. -/
theorem countP_beq_concat (ts : List TypeKey) (t u : TypeKey) :
    (ts ++ [t]).countP (· == u) = ts.countP (· == u) + if t == u then 1 else 0 := by
  rw [List.countP_append, List.countP_singleton]

/-- The values of a type are numbered one after the other. -/
theorem numbers_requests (earlier ts : List TypeKey) (u : TypeKey) :
    ((requests earlier ts).filter (·.1 == u)).map (·.2) =
      (List.range' (earlier.countP (· == u)) (ts.countP (· == u))).map Int.ofNat := by
  induction ts generalizing earlier with
  | nil => rfl
  | cons t ts ih =>
    have hrest := ih (earlier ++ [t])
    rw [countP_beq_concat] at hrest
    rw [requests, List.countP_cons]
    by_cases htu : (t == u) = true
    · -- The first value has the first number, and the others go on from the next.
      rw [if_pos htu] at hrest ⊢
      rw [List.filter_cons_of_pos (p := fun x : TypeKey × Int => x.1 == u) htu, List.map_cons,
        hrest, List.range'_succ, List.map_cons, countP_beq_congr htu]
      rfl
    · rw [if_neg htu] at hrest ⊢
      rw [List.filter_cons_of_neg (p := fun x : TypeKey × Int => x.1 == u) htu, hrest]
      rfl

/-- Every number is at least that of the earlier values of its type. -/
theorem le_of_mem_requests (h : (u, n) ∈ requests earlier ts) :
    (earlier.countP (· == u) : Int) ≤ n := by
  induction ts generalizing earlier with
  | nil => cases h
  | cons t ts ih =>
    rcases List.mem_cons.mp h with heq | h
    · obtain ⟨rfl, rfl⟩ := Prod.mk.inj heq
      exact Int.le_refl _
    · have hrest := ih h
      rw [countP_beq_concat] at hrest
      push_cast at hrest
      split at hrest
      · omega
      · omega

/-- Equal types have different numbers, the later one the greater. -/
theorem pairwise_requests (earlier ts : List TypeKey) :
    (requests earlier ts).Pairwise fun x y => (x.1 == y.1) = true → x.2 < y.2 := by
  induction ts generalizing earlier with
  | nil => exact List.Pairwise.nil
  | cons t ts ih =>
    rw [requests, List.pairwise_cons]
    refine ⟨?_, ih (earlier ++ [t])⟩
    rintro ⟨u, n⟩ hmem htu
    have hle := le_of_mem_requests hmem
    rw [countP_beq_concat, if_pos htu, ← countP_beq_congr htu] at hle
    show (earlier.countP (· == t) : Int) < n
    push_cast at hle
    omega

end Requests

/-! ## Rows -/

section Rows

variable {c : Container} {namer namer' : Namer} {counts : OrderedMap TypeKey Nat}
  {earlier : List TypeKey} {vs : List (Node × TypeKey)} {rows : List (List String)}

/-- The row shows a value and its name. -/
def IsRow (value : Node × TypeKey) (name : String) (row : List String) : Prop :=
  ∃ l s, label value.1 = .ok l ∧ value.2.text = .ok s ∧ row = [l, s, name]

/-- The counts say how many earlier values are of each type. -/
def Counts (counts : OrderedMap TypeKey Nat) (earlier : List TypeKey) : Prop :=
  ∀ t, (counts.find? t).getD 0 = earlier.countP (· == t)

/-- Nothing is counted at first. -/
theorem counts_empty : Counts .empty [] := fun _ => rfl

/-- A value is counted. -/
theorem Counts.concat (h : Counts counts earlier) (t : TypeKey) :
    Counts (counts.insert t ((counts.find? t).getD 0 + 1)) (earlier ++ [t]) := by
  intro u
  rw [OrderedMap.find?_insert, countP_beq_concat]
  by_cases htu : (t == u) = true
  · rw [if_pos htu, if_pos htu, Option.getD_some, h t, countP_beq_congr htu]
  · rw [if_neg htu, if_neg htu, h u, Nat.add_zero]

/-- There are rows exactly if the first value has a name, its row has texts, and there are rows for
the others. -/
theorem variableRows_cons_eq_ok_iff {n : Node} {t : TypeKey} (hcounts : Counts counts earlier) :
    variableRows c namer counts ((n, t) :: vs) = .ok rows ↔
      ∃ name namer', namer.name t (earlier.countP (· == t) : Nat) = .ok (name, namer') ∧
        ∃ row, IsRow (n, t) name row ∧ ∃ rest,
          variableRows c namer' (counts.insert t ((counts.find? t).getD 0 + 1)) vs = .ok rest ∧
          row :: rest = rows := by
  rw [variableRows]
  simp only [hcounts t, bind_eq_ok_iff, mapError_eq_ok_iff, Prod.exists]
  constructor
  · rintro ⟨name, namer', hname, l, hl, s, hs, rest, hrest, ⟨⟩⟩
    exact ⟨name, namer', hname, _, ⟨l, s, hl, hs, rfl⟩, rest, hrest, rfl⟩
  · rintro ⟨name, namer', hname, _, ⟨l, s, hl, hs, rfl⟩, rest, hrest, rfl⟩
    exact ⟨name, namer', hname, l, hl, s, hs, rest, hrest, rfl⟩

/-- The rows show the values in their order, with the answers to the requests for their types. -/
theorem variableRows_spec (hcounts : Counts counts earlier)
    (h : variableRows c namer counts vs = .ok rows) :
    ∃ names, namer.answers (requests earlier (vs.map (·.2))) = names.map .ok ∧
      names.length = vs.length ∧
      List.Forall₂ (fun x row => IsRow x.1 x.2 row) (vs.zip names) rows := by
  induction vs generalizing namer counts earlier rows with
  | nil =>
    cases h
    exact ⟨[], rfl, rfl, List.Forall₂.nil⟩
  | cons value vs ih =>
    obtain ⟨n, t⟩ := value
    obtain ⟨name, namer', hname, row, hrow, rest, hrest, rfl⟩ :=
      (variableRows_cons_eq_ok_iff hcounts).mp h
    obtain ⟨names, hanswers, hlength, hrows⟩ := ih (hcounts.concat t) hrest
    have hanswer : namer.answer (t, (earlier.countP (· == t) : Nat)) = .ok name := by
      unfold Namer.answer
      rw [hname]
      rfl
    have hnext : namer.next (t, (earlier.countP (· == t) : Nat)) = namer' := by
      unfold Namer.next
      rw [hname]
    refine ⟨name :: names, ?_, ?_, List.Forall₂.cons hrow hrows⟩
    · rw [List.map_cons, requests, Namer.answers, hanswer, hnext, hanswers]
      rfl
    · rw [List.length_cons, hlength, List.length_cons]

/-- There are rows for values of well-formed types of nodes that have labels. -/
theorem exists_variableRows (c : Container) (namer : Namer) (hcounts : Counts counts earlier)
    (hvs : ∀ x ∈ vs, (∃ l, label x.1 = .ok l) ∧ x.2.WellFormed) :
    ∃ rows, variableRows c namer counts vs = .ok rows := by
  induction vs generalizing namer counts earlier with
  | nil => exact ⟨[], rfl⟩
  | cons value vs ih =>
    obtain ⟨n, t⟩ := value
    obtain ⟨⟨l, hl⟩, ht⟩ := hvs (n, t) List.mem_cons_self
    obtain ⟨s, hs⟩ := TypeKey.exists_text t ht
    obtain ⟨name, namer', hname⟩ := Namer.exists_name namer ht
      (Int.natCast_nonneg (earlier.countP (· == t)))
    obtain ⟨rest, hrest⟩ := ih namer' (hcounts.concat t) fun x hx =>
      hvs x (List.mem_cons_of_mem _ hx)
    exact ⟨_, (variableRows_cons_eq_ok_iff hcounts).mpr
      ⟨name, namer', hname, _, ⟨l, s, hl, hs, rfl⟩, rest, hrest, rfl⟩⟩

/-- The rows of a table show the values in their order, each with a name of its own. -/
structure NamesValues (vs : List (Node × TypeKey)) (names : List String)
    (rows : List (List String)) : Prop where
  /-- There is a name for each value. -/
  length : names.length = vs.length
  /-- There is a row for each value, in the order of the values and with its name. -/
  rows : List.Forall₂ (fun x row => IsRow x.1 x.2 row) (vs.zip names) rows
  /-- The types of the values are requested in their order. -/
  requested : (requests [] (vs.map (·.2))).map (·.1) = vs.map (·.2)
  /-- The values of one type are requested with the numbers from zero on. -/
  numbers : ∀ t, ((requests [] (vs.map (·.2))).filter (·.1 == t)).map (·.2) =
    (List.range (vs.countP (·.2 == t))).map Int.ofNat
  /-- The names are the answers of one namer to these requests. -/
  answers : Namer.empty.answers (requests [] (vs.map (·.2))) = names.map .ok
  /-- No two values have the same name. -/
  nodup : names.Nodup
  /-- No name is a reserved word. -/
  reserved : ∀ name ∈ names, Source.isKeyword name = false

/-- Rows that are made with a new namer name the values. -/
theorem exists_namesValues (h : variableRows c .empty .empty vs = .ok rows) :
    ∃ names, NamesValues vs names rows := by
  obtain ⟨names, hanswers, hlength, hrows⟩ := variableRows_spec counts_empty h
  refine ⟨names, {
    length := hlength
    rows := hrows
    requested := map_fst_requests _ _
    numbers := fun t => ?_
    answers := hanswers
    nodup := Namer.nodup_of_answers hanswers ((pairwise_requests _ _).imp fun hlt heq => ?_)
    reserved := Namer.isKeyword_of_answers hanswers }⟩
  · rw [numbers_requests, List.countP_map, List.range_eq_range']
    rfl
  · exact (hlt heq).ne

end Rows

/-! ## The report -/

section Naming

variable {b : Build} {method : String} {outcome : Outcome}

/-- A report without failure shows the values of a build order. -/
theorem naming_spec (h : naming b = .ok outcome) (hexit : outcome.exitCode = 0) :
    ∃ order c rows, Container.buildOrder.run.run b.container = (.ok order, c) ∧
      variableRows c .empty .empty (values c order) = .ok rows ∧
      outcome = {
        printed := .table { title := "Variables", columns := ["Node", "Type", "Variable"], rows } ::
          problemLines b } := by
  unfold naming at h
  cases hrun : Container.buildOrder.run.run b.container with
  | mk result c =>
    rw [hrun] at h
    cases result with
    | error e =>
      -- The failure to find a build order has another exit code.
      obtain ⟨message, -, hmessage⟩ := bind_eq_ok_iff.mp h
      cases hmessage
      cases hexit
    | ok order =>
      obtain ⟨rows, hrows, houtcome⟩ := bind_eq_ok_iff.mp h
      cases houtcome
      exact ⟨order, c, rows, rfl, hrows, rfl⟩

/-- A node of an assembled build can be shown, and so can all that it provides once the missing node
is there. -/
theorem exists_label (hb : b.Assembled method) {n : Node}
    (hn : n ∈ b.container.withMissing.members) :
    (∃ l, label n = .ok l) ∧ ∀ t ∈ b.container.withMissing.provides n, t.WellFormed := by
  have hc := hb.sound.reachable.withMissing.consistent
  have hwell : ∀ role ∈ b.container.withMissing.roles,
      (∀ t ∈ role.requires, t.WellFormed) ∧ ∀ t ∈ role.provides, t.WellFormed := by
    intro role hrole
    cases hmissing : b.container.roles.any Role.isMissing with
    | true =>
      rw [Container.withMissing_eq_self hmissing] at hrole
      exact hb.wellFormed hrole
    | false =>
      rw [Container.withMissing_eq_push hmissing] at hrole
      rcases List.mem_append.mp hrole with hrole | hrole
      · exact hb.wellFormed hrole
      · -- The missing node neither requires nor provides anything of itself.
        rw [List.mem_singleton.mp hrole]
        exact ⟨fun _ ht => (by cases ht), fun _ ht => (by cases ht)⟩
  obtain ⟨i, hi⟩ := Container.mem_members_iff.mp hn
  obtain ⟨role, hrole, rfl⟩ := Container.node?_eq_some_iff.mp hi
  obtain ⟨hrequires, hprovides⟩ := hwell role (List.mem_of_getElem? hrole)
  refine ⟨exists_label_of_requires hrequires, ?_⟩
  cases role with
  | provider p => exact hprovides
  | root type => exact fun t ht => by cases ht
  | missing =>
    -- What is unsatisfied is required by some node.
    intro t ht
    have htypes : t ∈ b.container.withMissing.requiredBy.types := (List.mem_filter.mp ht).1
    rw [hc.requiredBy.types] at htypes
    obtain ⟨role, hrole, ht⟩ := List.mem_flatMap.mp (TypeKey.mem_of_mem_distinct htypes)
    exact (hwell role hrole).1 t ht

/-- With a build order there is a report without failure. -/
theorem exists_naming (hb : b.Assembled method) {order : List Node}
    (horder : (Container.buildOrder.run.run b.container).1 = .ok order) :
    ∃ outcome, naming b = .ok outcome ∧ outcome.exitCode = 0 := by
  have hc := hb.sound.reachable.withMissing.consistent
  obtain ⟨r, hr, hspec, -⟩ := Container.buildOrder_eq_ok hc horder
  have hroot := Container.mem_members_withMissing (Container.root?_spec hr).1
  have hrun : Container.buildOrder.run.run b.container = (.ok order, b.container.withMissing) :=
    Prod.ext horder (Container.buildOrder_run_snd hc hr)
  have hvalues : ∀ x ∈ values b.container.withMissing order,
      (∃ l, label x.1 = .ok l) ∧ x.2.WellFormed := by
    intro x hx
    obtain ⟨n, hn, hx⟩ := List.mem_flatMap.mp hx
    obtain ⟨t, ht, rfl⟩ := List.mem_map.mp hx
    have hmember := ((hspec.mem_iff n).mp hn).mem_members hroot
    obtain ⟨hlabel, hwell⟩ := exists_label hb hmember
    exact ⟨hlabel, hwell t ht⟩
  obtain ⟨rows, hrows⟩ := exists_variableRows b.container.withMissing .empty counts_empty hvalues
  unfold naming
  rw [hrun]
  exact ⟨_, bind_eq_ok_iff.mpr ⟨rows, hrows, rfl⟩, rfl⟩

end Naming

end Report

end Wiring
