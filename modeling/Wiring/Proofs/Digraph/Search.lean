import Wiring.Proofs.Digraph.Cycle

/-!
# The cycle search finds a cycle exactly if there is one

`findCycle_eq_nil_iff` says that the search answers with the empty list only on acyclic graphs, and
`isCycle_findCycle` that any other answer is a cycle.

What earlier starts have explored is settled, and so are at every moment the vertices that the walk
has left for good. The walk's stack consists of a part `top` of explored vertices, which the trail
does not know of, above a part `below`, which the trail ends on once it is rewound (`Searching`).
The trail itself is shortened only when the next arc asks for it, so until then it is `below` with
vertices above that have been left. A vertex is left when all its arcs are spent, and each of them
led to a settled vertex or to one further up the stack (`Pending`); so the vertex can be added to
the settled set, and there is nothing left on the stack when the walk ends.
-/

namespace Wiring.Digraph

variable {g : Digraph} {u v : Nat}

/-! ## One walk -/

/-- A walk leaves a vertex that no arc to come leaves. -/
theorem walk_cons_of_none {below : List Nat} {arcs : List (Nat × Nat)}
    (h : arcs.find? (·.1 == v) = none) : walk (v :: below) arcs = walk below arcs := by
  rw [walk]
  split
  · rfl
  · simp_all

/-- A walk follows the first arc to come that leaves its current vertex. -/
theorem walk_cons_of_some {below : List Nat} {arcs : List (Nat × Nat)} {a : Nat × Nat}
    (h : arcs.find? (·.1 == v) = some a) :
    walk (v :: below) arcs = a :: walk (a.2 :: v :: below) (arcs.erase a) := by
  rw [walk]
  split
  · simp_all
  · simp_all

/-- Every arc of a stacked vertex is still to come, or leads to a settled vertex or one further up
the stack. -/
def Pending (g : Digraph) (arcs : List (Nat × Nat)) : Set Nat → List Nat → Prop
  | _, [] => True
  | done, v :: below =>
    (∀ w, g.HasArc v w → (v, w) ∈ arcs ∨ w ∈ done) ∧ g.Pending arcs (insert v done) below

/-- What is pending stays so when an arc is spent that leaves no vertex of the stack and more is
settled. -/
theorem Pending.of_erase {arcs : List (Nat × Nat)} {a : Nat × Nat} {below : List Nat} :
    ∀ {done done' : Set Nat}, g.Pending arcs done below → done ⊆ done' → a.1 ∉ below →
      g.Pending (arcs.erase a) done' below := by
  induction below with
  | nil => intros; trivial
  | cons v below ih =>
    intro done done' h hsub ha
    obtain ⟨hv, hbelow⟩ := h
    rw [List.mem_cons, not_or] at ha
    refine ⟨?_, ih hbelow (Set.insert_subset_insert hsub) ha.2⟩
    intro w harc
    rcases hv w harc with hmem | hmem
    · left
      exact (List.mem_erase_of_ne (fun h => ha.1 (by rw [← h]))).mpr hmem
    · exact Or.inr (hsub hmem)

/-- The invariant of a search that stands in the middle of a walk. The stack of the walk is
`top ++ below`, `arcs` are those it has not followed yet, and `done` is what it has left for good,
together with what earlier starts have explored. -/
structure Searching (g : Digraph) (explored : List Nat) (start : Nat) (top below : List Nat)
    (arcs : List (Nat × Nat)) (t : Trail) (done : Set Nat) : Prop where
  /-- What is done is settled. -/
  settled : g.Settled done
  /-- What is explored is done. -/
  explored_done : ∀ v ∈ explored, v ∈ done
  /-- Above the trail's part of the stack all is explored. -/
  top_explored : ∀ v ∈ top, v ∈ explored
  /-- The trail's part of the stack is an end of the active vertices. -/
  suffix : below <:+ t.active
  /-- The path of the trail leads along its active vertices. -/
  trail : g.IsTrail start t.path t.active
  /-- The trail's last vertex is the head of its path. -/
  last : t.last = t.path.head?.map (·.2)
  /-- No active vertex is explored. -/
  fresh : ∀ v ∈ t.active, v ∉ explored
  /-- The arcs to come are arcs of the graph. -/
  arcs_subset : ∀ a ∈ arcs, g.HasArc a.1 a.2
  /-- An arc to come leaves no vertex that this walk is done with. -/
  spent : ∀ a ∈ arcs, a.1 ∈ done → a.1 ∈ explored
  /-- Each arc of a stacked vertex is to come or has been dealt with. -/
  pending : g.Pending arcs done below
  /-- The arcs of a vertex that has not been reached are all to come. -/
  untouched : ∀ v, v ∉ done → v ∉ below → ∀ w, g.HasArc v w → (v, w) ∈ arcs
  /-- What was seen or explored is done or on the stack. -/
  seen : ∀ v, v ∈ t.seen ∨ v ∈ explored ↔ v ∈ done ∨ v ∈ below

section Searching

variable {explored top below : List Nat} {start : Nat} {arcs : List (Nat × Nat)} {t : Trail}
  {done : Set Nat}

/-- A search stands so at the start of a walk from a vertex that is not explored. -/
theorem Searching.init (hsettled : g.Settled {v | v ∈ explored}) (hstart : start ∉ explored) :
    g.Searching explored start [] [start] g.arcs (.start start) {v | v ∈ explored} where
  settled := hsettled
  explored_done _ hv := hv
  top_explored _ hv := absurd hv List.not_mem_nil
  suffix := List.suffix_refl _
  trail := IsTrail.start g start
  last := rfl
  fresh v hv := by rwa [List.mem_singleton.mp hv]
  arcs_subset _ ha := ha
  spent _ _ hdone := hdone
  pending := ⟨fun _ harc => Or.inl harc, trivial⟩
  untouched _ _ _ _ harc := harc
  seen v := or_comm

/-- A vertex of the trail without arcs to come is left for good. -/
theorem Searching.leave (h : g.Searching explored start [] (u :: below) arcs t done)
    (hnone : ∀ a ∈ arcs, a.1 ≠ u) :
    g.Searching explored start [] below arcs t (insert u done) where
  settled := by
    apply h.settled.insert
    intro w harc
    rcases h.pending.1 w harc with hmem | hmem
    · exact absurd rfl (hnone _ hmem)
    · exact hmem
  explored_done v hv := Set.mem_insert_of_mem _ (h.explored_done v hv)
  top_explored := h.top_explored
  suffix := (List.suffix_cons u below).trans h.suffix
  trail := h.trail
  last := h.last
  fresh := h.fresh
  arcs_subset := h.arcs_subset
  spent a ha hdone := h.spent a ha (hdone.resolve_left (hnone a ha))
  pending := h.pending.2
  untouched v hv hbelow w harc := by
    rw [Set.mem_insert_iff, not_or] at hv
    exact h.untouched v hv.2 (by simp [hv.1, hbelow]) w harc
  seen v := by rw [h.seen, List.mem_cons, Set.mem_insert_iff]; tauto

/-- An explored vertex without arcs to come is left. -/
theorem Searching.leave_top (h : g.Searching explored start (u :: top) below arcs t done) :
    g.Searching explored start top below arcs t done :=
  { h with top_explored := fun v hv => h.top_explored v (List.mem_cons_of_mem _ hv) }

/-- An arc into an explored vertex is passed over. -/
theorem Searching.skip {a : Nat × Nat}
    (h : g.Searching explored start top below arcs t done) (ha : a.2 ∈ explored)
    (htail : a.1 ∈ explored ∨ ∃ below', below = a.1 :: below') :
    g.Searching explored start (a.2 :: top) below (arcs.erase a) t done where
  settled := h.settled
  explored_done := h.explored_done
  top_explored v hv := by
    rcases List.mem_cons.mp hv with rfl | hv
    · exact ha
    · exact h.top_explored v hv
  suffix := h.suffix
  trail := h.trail
  last := h.last
  fresh := h.fresh
  arcs_subset b hb := h.arcs_subset b (List.mem_of_mem_erase hb)
  spent b hb := h.spent b (List.mem_of_mem_erase hb)
  pending := by
    rcases htail with htail | ⟨below', rfl⟩
    · -- An explored tail is not active, so it is not on the trail's part of the stack.
      have hbelow : a.1 ∉ below := fun hmem => h.fresh _ (h.suffix.subset hmem) htail
      exact h.pending.of_erase (subset_refl _) hbelow
    · have hnodup : (a.1 :: below').Nodup := h.trail.nodup.sublist h.suffix.sublist
      obtain ⟨hu, hbelow⟩ := h.pending
      refine ⟨?_, hbelow.of_erase (subset_refl _) (List.nodup_cons.mp hnodup).1⟩
      intro w harc
      rcases hu w harc with hmem | hmem
      · by_cases heq : (a.1, w) = a
        · right
          rw [← heq] at ha
          exact h.explored_done w ha
        · exact Or.inl ((List.mem_erase_of_ne heq).mpr hmem)
      · exact Or.inr hmem
  untouched v hv hbelow w harc := by
    have hne : (v, w) ≠ a := by
      rintro rfl
      rcases htail with htail | ⟨below', rfl⟩
      · exact hv (h.explored_done _ htail)
      · exact hbelow (List.mem_cons_self ..)
    exact (List.mem_erase_of_ne hne).mpr (h.untouched v hv hbelow w harc)
  seen := h.seen

/-- An arc from the trail's current vertex to one that is neither explored nor active makes the
trail longer. -/
theorem Searching.advance {a : Nat × Nat}
    (h : g.Searching explored start [] (a.1 :: below) arcs t done) (harc : a ∈ arcs)
    (ha : a.2 ∉ explored) (hactive : a.2 ∉ (t.comeBackTo a.1).active) :
    g.Searching explored start [] (a.2 :: a.1 :: below) (arcs.erase a)
      { path := a :: (t.comeBackTo a.1).path
        active := a.2 :: (t.comeBackTo a.1).active
        seen := a.2 :: (t.comeBackTo a.1).seen
        last := some a.2 } done := by
  obtain ⟨htrail, heq, hseen⟩ := comeBackTo_spec h.trail h.last h.suffix
  rw [heq] at hactive
  have hnodup : (a.1 :: below).Nodup := htrail.nodup
  have hsub : done ⊆ insert a.2 done := Set.subset_insert _ _
  refine {
    settled := h.settled
    explored_done := h.explored_done
    top_explored := h.top_explored
    suffix := by rw [heq]
    trail := by rw [heq]; exact htrail.cons (h.arcs_subset a harc) hactive
    last := rfl
    fresh := ?fresh
    arcs_subset := fun b hb => h.arcs_subset b (List.mem_of_mem_erase hb)
    spent := fun b hb => h.spent b (List.mem_of_mem_erase hb)
    pending := ⟨?head, ?tail, ?rest⟩
    untouched := ?untouched
    seen := ?seen }
  case fresh =>
    intro v hv
    rw [heq] at hv
    rcases List.mem_cons.mp hv with rfl | hv
    · exact ha
    · exact h.fresh v (h.suffix.subset hv)
  case head =>
    -- The new vertex has all its arcs to come, unless it was left before and its arcs are spent.
    intro w hw
    by_cases hdone : a.2 ∈ done
    · exact Or.inr (h.settled.closed _ hdone w hw)
    · have hne : (a.2, w) ≠ a := by
        intro hab
        have hloop : a.2 = a.1 := congrArg Prod.fst hab
        exact hactive (by rw [hloop]; exact List.mem_cons_self ..)
      exact Or.inl ((List.mem_erase_of_ne hne).mpr (h.untouched _ hdone hactive w hw))
  case tail =>
    -- The arc that is spent now leads to the new vertex, which lies further up.
    intro w hw
    by_cases hab : (a.1, w) = a
    · right
      rw [← hab]
      exact Set.mem_insert _ _
    · rcases h.pending.1 w hw with hmem | hmem
      · exact Or.inl ((List.mem_erase_of_ne hab).mpr hmem)
      · exact Or.inr (hsub hmem)
  case rest =>
    exact h.pending.2.of_erase (Set.insert_subset_insert hsub) (List.nodup_cons.mp hnodup).1
  case untouched =>
    intro v hv hbelow w hw
    have hbelow' : v ∉ a.1 :: below := fun hmem => hbelow (List.mem_cons_of_mem _ hmem)
    have hne : (v, w) ≠ a := by
      rintro rfl
      exact hbelow' (List.mem_cons_self ..)
    exact (List.mem_erase_of_ne hne).mpr (h.untouched v hv hbelow' w hw)
  case seen =>
    intro v
    have hold := h.seen v
    rw [hseen]
    simp only [List.mem_cons] at hold ⊢
    tauto

/-- What a walk is followed to: a cycle, or a trail such that all it has seen is settled together
with what was explored before. -/
def Outcome (g : Digraph) (explored : List Nat) (start : Nat) : List Nat ⊕ Trail → Prop
  | .inl cycle => g.IsCycle cycle
  | .inr t => g.Settled {v | v ∈ t.seen ++ explored} ∧ start ∈ t.seen

/-- From wherever a search stands, following the rest of the walk has such an outcome. -/
theorem Searching.outcome (hexplored : g.Settled {v | v ∈ explored}) {stack : List Nat}
    (hstack : stack = top ++ below) (h : g.Searching explored start top below arcs t done)
    (hstart : start ∈ t.seen) :
    g.Outcome explored start (Trail.follow explored t (walk stack arcs)) := by
  induction stack, arcs using walk.induct generalizing top below t done with
  | case1 arcs =>
    -- The stack is empty: all that was seen is done.
    obtain ⟨rfl, rfl⟩ := List.append_eq_nil_iff.mp hstack.symm
    have hdone : {v | v ∈ t.seen ++ explored} = done := by
      ext v
      simpa using h.seen v
    rw [walk, Trail.follow]
    refine ⟨?_, hstart⟩
    rw [hdone]
    exact h.settled
  | case2 arcs u rest hnone ih =>
    -- The walk leaves the vertex on top.
    have hnone' : ∀ a ∈ arcs, a.1 ≠ u := by simpa using List.find?_eq_none.mp hnone
    rw [walk_cons_of_none hnone]
    cases top with
    | nil =>
      obtain rfl : u :: rest = below := hstack
      exact ih rfl (h.leave hnone') hstart
    | cons e top =>
      obtain ⟨rfl, rfl⟩ := List.cons.inj hstack
      exact ih rfl h.leave_top hstart
  | case3 arcs u rest a hsome ih =>
    -- The walk follows an arc: into an explored vertex, an active one, or a new one.
    have harc : a ∈ arcs := List.mem_of_find?_eq_some hsome
    obtain rfl : a.1 = u := by simpa using List.find?_some hsome
    rw [walk_cons_of_some hsome, Trail.follow]
    cases top with
    | nil =>
      obtain rfl : a.1 :: rest = below := hstack
      by_cases ha : a.2 ∈ explored
      · rw [if_pos ha]
        have hstack' : a.2 :: a.1 :: rest = [a.2] ++ a.1 :: rest := rfl
        exact ih hstack' (h.skip ha (Or.inr ⟨rest, rfl⟩)) hstart
      rw [if_neg ha]
      obtain ⟨htrail, heq, hseen⟩ := comeBackTo_spec h.trail h.last h.suffix
      by_cases hactive : a.2 ∈ (t.comeBackTo a.1).active
      · simp only [hactive, if_true]
        rw [heq] at hactive
        exact htrail.isCycle_cycleAt (h.arcs_subset a harc) hactive
      · simp only [hactive, if_false]
        have hstack' : a.2 :: a.1 :: rest = [] ++ a.2 :: a.1 :: rest := rfl
        refine ih hstack' (h.advance harc ha hactive) ?_
        rw [hseen]
        exact List.mem_cons_of_mem _ hstart
    | cons e top =>
      -- The tail is explored, so the head is too.
      obtain ⟨rfl, rfl⟩ := List.cons.inj hstack
      have htail : a.1 ∈ explored := h.top_explored _ (List.mem_cons_self ..)
      have ha : a.2 ∈ explored := hexplored.closed _ htail _ (h.arcs_subset a harc)
      rw [if_pos ha]
      have hstack' : a.2 :: a.1 :: (top ++ below) = (a.2 :: a.1 :: top) ++ below := rfl
      exact ih hstack' (h.skip ha (Or.inl htail)) hstart

end Searching

/-! ## The search -/

/-- From settled vertices on, a search finds a cycle or settles all its starts. -/
theorem searchFrom_spec (starts : List Nat) :
    ∀ explored : List Nat, g.Settled {v | v ∈ explored} →
      g.IsCycle (g.searchFrom starts explored) ∨
        g.searchFrom starts explored = [] ∧
          ∃ s, g.Settled s ∧ (∀ v ∈ explored, v ∈ s) ∧ ∀ v ∈ starts, v ∈ s := by
  induction starts with
  | nil =>
    intro explored hexplored
    exact Or.inr ⟨rfl, _, hexplored, fun _ hv => hv, fun _ hv => absurd hv List.not_mem_nil⟩
  | cons v starts ih =>
    intro explored hexplored
    by_cases hv : v ∈ explored
    · rw [searchFrom, if_pos hv]
      rcases ih explored hexplored with hcycle | ⟨hnil, s, hs, hsub, hstarts⟩
      · exact Or.inl hcycle
      · exact Or.inr ⟨hnil, s, hs, hsub, List.forall_mem_cons.mpr ⟨hsub v hv, hstarts⟩⟩
    rw [searchFrom, if_neg hv]
    -- A walk that closes no cycle settles what it has seen, and the search goes on from there.
    have hstack : [v] = [] ++ [v] := rfl
    have houtcome :=
      (Searching.init hexplored hv).outcome hexplored hstack (List.mem_cons_self ..)
    cases hfollow : Trail.follow explored (.start v) (walk [v] g.arcs) with
    | inl cycle =>
      rw [hfollow] at houtcome
      exact Or.inl houtcome
    | inr t =>
      rw [hfollow] at houtcome
      obtain ⟨hsettled, hseen⟩ := houtcome
      rcases ih _ hsettled with hcycle | ⟨hnil, s, hs, hsub, hstarts⟩
      · exact Or.inl hcycle
      · refine Or.inr ⟨hnil, s, hs, ?_, List.forall_mem_cons.mpr ⟨?_, hstarts⟩⟩
        · intro w hw
          exact hsub w (List.mem_append_right _ hw)
        · exact hsub v (List.mem_append_left _ hseen)

/-- A cycle that a search answers is one. -/
theorem isCycle_findCycle (h : g.findCycle ≠ []) : g.IsCycle g.findCycle := by
  have hempty : g.Settled {v | v ∈ ([] : List Nat)} := ⟨by simp, by simp⟩
  rcases searchFrom_spec g.vertices [] hempty with hcycle | ⟨hnil, -⟩
  · exact hcycle
  · exact absurd hnil h

/-- A search answers with no cycle exactly on acyclic graphs. -/
theorem findCycle_eq_nil_iff (htails : ∀ u v, g.HasArc u v → u ∈ g.vertices) :
    g.findCycle = [] ↔ g.Acyclic := by
  constructor
  · intro hnil v hself
    have hempty : g.Settled {v | v ∈ ([] : List Nat)} := ⟨by simp, by simp⟩
    rcases searchFrom_spec g.vertices [] hempty with hcycle | ⟨-, s, hs, -, hstarts⟩
    · exact hcycle.ne_nil hnil
    · have hv : v ∈ g.vertices := by
        cases hself with
        | arc harc => exact htails _ _ harc
        | step harc _ => exact htails _ _ harc
      exact hs.acyclic v (hstarts v hv) hself
  · intro hacyclic
    by_contra hne
    obtain ⟨v, hv⟩ := List.exists_mem_of_ne_nil _ hne
    exact hacyclic v ((isCycle_findCycle hne).reaches_self hv)

end Wiring.Digraph
