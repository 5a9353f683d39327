import Mathlib.Data.List.Chain
import Mathlib.Data.List.Nodup
import Wiring.Digraph.Cycle
import Wiring.Proofs.Digraph.Reach

/-!
# Cycles, settled sets and trails

A cycle lists distinct vertices, each with an arc to the next and the last with an arc to the first
(`IsCycle`). A set of vertices is *settled* when no arc leaves it and none of its vertices reaches
itself (`Settled`); a search grows such a set until it holds all vertices or a cycle is closed.

The trail of a search is a path and its active vertices (`IsTrail`). It is shortened only when the
next arc asks for it: rewinding cuts off what was left since (`comeBackTo_spec`). An arc into an
active vertex then closes a cycle, and the tails from that vertex on are the cycle that is answered
(`IsTrail.isCycle_cycleAt`).
-/

namespace Wiring.Digraph

variable {g : Digraph} {u v w : Nat}

/-! ## Cycles -/

/-- Distinct vertices in a row, each with an arc to the next and the last with an arc to the
first. -/
structure IsCycle (g : Digraph) (vs : List Nat) : Prop where
  /-- There is a vertex. -/
  ne_nil : vs ≠ []
  /-- No vertex comes twice. -/
  nodup : vs.Nodup
  /-- Each vertex has an arc to the next, when the first is put after the last. -/
  isChain : (vs ++ vs.take 1).IsChain g.HasArc

/-- Along a chain of arcs the first vertex reaches all others. -/
theorem reaches_of_isChain {v : Nat} {vs : List Nat} (h : (v :: vs).IsChain g.HasArc) :
    ∀ w ∈ vs, g.Reaches v w := by
  induction vs generalizing v with
  | nil => simp
  | cons a vs ih =>
    rw [List.isChain_cons_cons] at h
    intro w hw
    rcases List.mem_cons.mp hw with rfl | hw
    · exact Reaches.arc h.1
    · exact Reaches.step h.1 (ih h.2 w hw)

/-- Every vertex of a cycle reaches itself. -/
theorem IsCycle.reaches_self {vs : List Nat} (h : g.IsCycle vs) (hv : v ∈ vs) : g.Reaches v v := by
  obtain ⟨first, rest, rfl⟩ := List.exists_cons_of_ne_nil h.ne_nil
  have hchain : (first :: (rest ++ [first])).IsChain g.HasArc := by simpa using h.isChain
  have hself : g.Reaches first first := reaches_of_isChain hchain first (by simp)
  obtain ⟨pre, post, hsplit⟩ := List.append_of_mem hv
  have hback : g.Reaches v first := by
    have hchain' : (pre ++ (v :: (post ++ [first]))).IsChain g.HasArc := by
      have hrow : pre ++ (v :: (post ++ [first])) = first :: (rest ++ [first]) := by
        rw [← List.cons_append, ← List.append_assoc, ← hsplit, List.cons_append]
      rw [hrow]
      exact hchain
    exact reaches_of_isChain (hchain'.right_of_append) first (by simp)
  rcases List.mem_cons.mp hv with rfl | hv
  · exact hself
  · exact hback.trans (reaches_of_isChain hchain v (List.mem_append_left _ hv))

/-! ## Settled sets -/

/-- No arc leaves the set and no vertex of it reaches itself. -/
structure Settled (g : Digraph) (s : Set Nat) : Prop where
  /-- Arcs stay in the set. -/
  closed : ∀ u ∈ s, ∀ v, g.HasArc u v → v ∈ s
  /-- No vertex of the set lies on a cycle. -/
  acyclic : ∀ u ∈ s, ¬ g.Reaches u u

/-- A vertex whose arcs all lead into a settled set can be added to it. -/
theorem Settled.insert {s : Set Nat} (h : g.Settled s) (hv : ∀ w, g.HasArc v w → w ∈ s) :
    g.Settled (insert v s) := by
  by_cases hmem : v ∈ s
  · rwa [Set.insert_eq_of_mem hmem]
  refine ⟨?_, ?_⟩
  · rintro u (rfl | hu) w harc
    · exact Set.mem_insert_of_mem _ (hv w harc)
    · exact Set.mem_insert_of_mem _ (h.closed u hu w harc)
  · rintro u (rfl | hu) hself
    · -- A cycle through the new vertex would come back to it from inside the set.
      cases hself with
      | arc harc => exact hmem (hv _ harc)
      | step harc hpath => exact hmem (hpath.mem_of_closed h.closed (hv _ harc))
    · exact h.acyclic u hu hself

/-! ## The trail -/

/-- A path and its active vertices: the heads of its arcs, latest first, and the start. -/
structure IsTrail (g : Digraph) (start : Nat) (path : List (Nat × Nat)) (active : List Nat) :
    Prop where
  /-- The active vertices are the heads of the path and the start. -/
  heads : active = path.map (·.2) ++ [start]
  /-- Each arc of the path leaves the vertex that stands before its head. -/
  tails : path.map (·.1) = active.tail
  /-- No vertex is active twice. -/
  nodup : active.Nodup
  /-- Each active vertex has an arc from the one before it. -/
  isChain : active.IsChain fun a b => g.HasArc b a

/-- The empty path from a vertex. -/
theorem IsTrail.start (g : Digraph) (v : Nat) : g.IsTrail v [] [v] :=
  ⟨rfl, rfl, List.nodup_singleton v, List.isChain_singleton v⟩

/-- A trail stays one when its latest arcs are dropped. -/
theorem IsTrail.of_append {start : Nat} {dropped kept : List (Nat × Nat)} {active : List Nat}
    (h : g.IsTrail start (dropped ++ kept) active) :
    g.IsTrail start kept (kept.map (·.2) ++ [start]) := by
  have hactive : active = dropped.map (·.2) ++ (kept.map (·.2) ++ [start]) := by
    rw [h.heads, List.map_append, List.append_assoc]
  have hdrop : active.drop dropped.length = kept.map (·.2) ++ [start] := by
    rw [hactive, List.drop_left' (by simp)]
  refine ⟨rfl, ?_, ?_, ?_⟩
  · have htails := congrArg (List.drop dropped.length) h.tails
    rw [List.map_append, List.drop_left' (by simp), List.drop_tail, ← List.tail_drop, hdrop]
      at htails
    exact htails
  · rw [← hdrop]
    exact h.nodup.sublist (List.drop_sublist _ _)
  · rw [hactive] at h
    exact h.isChain.right_of_append

/-- An arc from the current vertex to one that is not active makes the trail longer. -/
theorem IsTrail.cons {start : Nat} {path : List (Nat × Nat)} {below : List Nat}
    (h : g.IsTrail start path (u :: below)) (harc : g.HasArc u v) (hv : v ∉ u :: below) :
    g.IsTrail start ((u, v) :: path) (v :: u :: below) := by
  refine ⟨?_, ?_, List.nodup_cons.mpr ⟨hv, h.nodup⟩, ?_⟩
  · rw [List.map_cons, List.cons_append, ← h.heads]
  · rw [List.map_cons, h.tails, List.tail_cons, List.tail_cons]
  · exact List.isChain_cons_cons.mpr ⟨harc, h.isChain⟩

/-- An arc from the current vertex into an active one closes a cycle, and this is the cycle that
is answered. -/
theorem IsTrail.isCycle_cycleAt {start : Nat} {path : List (Nat × Nat)} {below : List Nat}
    (h : g.IsTrail start path (u :: below)) (harc : g.HasArc u v) (hv : v ∈ u :: below) :
    g.IsCycle (Trail.cycleAt ((u, v) :: path) v) := by
  obtain ⟨pre, post, hsplit⟩ := List.append_of_mem hv
  have hnodup := h.nodup
  have hchain := h.isChain
  have hpost : v ∉ post := by
    rw [hsplit] at hnodup
    exact (List.nodup_cons.mp (List.nodup_append.mp hnodup).2.1).1
  -- The tails of the longer path are the active vertices, and the answer is what stands above `v`.
  have hcycle : Trail.cycleAt ((u, v) :: path) v = v :: pre.reverse := by
    have htails : ((u, v) :: path).map (·.1) = pre ++ v :: post := by
      rw [List.map_cons, h.tails, List.tail_cons, hsplit]
    have hskip : ∀ a ∈ post.reverse, (a != v) = true := by
      intro a ha
      rw [bne_iff_ne]
      rintro rfl
      exact hpost (List.mem_reverse.mp ha)
    have hmap : Trail.cycleAt ((u, v) :: path) v =
        (((u, v) :: path).map (·.1)).reverse.dropWhile (· != v) := by
      rw [← List.map_reverse, List.dropWhile_map]
      rfl
    rw [hmap, htails, List.reverse_append, List.reverse_cons, List.append_assoc,
      List.dropWhile_append_of_pos hskip]
    simp
  have hupto : u :: below = (pre ++ [v]) ++ post := by rw [hsplit, List.append_assoc]; rfl
  have hhead : ∀ b ∈ (pre ++ [v]).head?, g.HasArc b v := by
    intro b hb
    cases pre with
    | nil =>
      obtain ⟨rfl, -⟩ := List.cons.inj hsplit
      obtain rfl : u = b := by simpa using hb
      exact harc
    | cons a pre =>
      obtain ⟨rfl, -⟩ := List.cons.inj hsplit
      obtain rfl : u = b := by simpa using hb
      exact harc
  rw [hcycle]
  refine ⟨List.cons_ne_nil _ _, ?_, ?_⟩
  · rw [hupto] at hnodup
    have hrow : (pre ++ [v]).Nodup := hnodup.sublist (List.sublist_append_left _ _)
    rw [← List.nodup_reverse] at hrow
    simpa using hrow
  · have hrow : v :: pre.reverse ++ (v :: pre.reverse).take 1 = (v :: (pre ++ [v])).reverse := by
      simp
    rw [hupto] at hchain
    rw [hrow, List.isChain_reverse, List.isChain_cons]
    exact ⟨hhead, hchain.left_of_append⟩

/-- In a list without repetition two ends that begin with the same member are equal. -/
theorem eq_of_suffix_of_suffix {l below below' : List Nat} (hnodup : l.Nodup)
    (h : u :: below <:+ l) (h' : u :: below' <:+ l) : below = below' := by
  obtain ⟨pre, rfl⟩ := h
  obtain ⟨pre', heq⟩ := h'
  obtain ⟨-, hbelow, hpre⟩ := List.nodup_append.mp hnodup
  have hu : u ∉ pre := fun hmem => hpre u hmem u (List.mem_cons_self ..) rfl
  have hu' : u ∉ below := (List.nodup_cons.mp hbelow).1
  obtain ⟨-, -, hends⟩ := (List.append_cons_inj_of_notMem hu hu').mp heq.symm
  exact hends

/-- Rewinding a trail to one of its earlier vertices drops the arcs after that vertex. -/
theorem rewind_spec {start : Nat} {path : List (Nat × Nat)} :
    ∀ {a : Nat × Nat} {active : List Nat}, g.IsTrail start (a :: path) active →
      u ∈ active.tail → ∃ kept below, Trail.rewind u (a :: path) active = (kept, u :: below) ∧
        g.IsTrail start kept (u :: below) ∧ u :: below <:+ active := by
  induction path with
  | nil =>
    intro a active h hu
    have hactive : active = [a.2, start] := h.heads
    subst hactive
    obtain rfl : u = start := by simpa using hu
    refine ⟨[], [], ?_, IsTrail.start g u, List.suffix_cons _ _⟩
    simp [Trail.rewind]
  | cons b path ih =>
    intro a active h hu
    have hactive : active = a.2 :: b.2 :: (path.map (·.2) ++ [start]) := h.heads
    subst hactive
    have hshort : g.IsTrail start (b :: path) (b.2 :: (path.map (·.2) ++ [start])) := by
      have happend : g.IsTrail start ([a] ++ b :: path) _ := h
      exact happend.of_append
    by_cases hb : b.2 = u
    · -- The arc before the latest ends at `u`: one step is enough.
      subst hb
      refine ⟨b :: path, path.map (·.2) ++ [start], ?_, hshort, List.suffix_cons _ _⟩
      simp [Trail.rewind]
    · have hu' : u ∈ (b.2 :: (path.map (·.2) ++ [start])).tail := by
        rw [List.tail_cons] at hu ⊢
        exact (List.mem_cons.mp hu).resolve_left (Ne.symm hb)
      obtain ⟨kept, below, hrewind, htrail, hsuffix⟩ := ih hshort hu'
      refine ⟨kept, below, ?_, htrail, hsuffix.trans (List.suffix_cons _ _)⟩
      rw [Trail.rewind, List.erase_cons_head, ← hrewind]
      simp [hb]

/-- The trail at which an arc with tail `u` can be added ends at `u`, when `u` heads an end of the
active vertices; these become the active ones. -/
theorem comeBackTo_spec {start : Nat} {t : Trail} {below : List Nat}
    (htrail : g.IsTrail start t.path t.active) (hlast : t.last = t.path.head?.map (·.2))
    (hsuffix : u :: below <:+ t.active) :
    g.IsTrail start (t.comeBackTo u).path (u :: below) ∧ (t.comeBackTo u).active = u :: below ∧
      (t.comeBackTo u).seen = t.seen := by
  obtain ⟨path, active, seen, last⟩ := t
  simp only at htrail hsuffix hlast
  subst hlast
  cases path with
  | nil =>
    -- Nothing was followed yet, so the trail is at its start.
    have hactive : active = [start] := htrail.heads
    subst hactive
    have hwhole : u :: below = [start] := by
      rcases List.suffix_cons_iff.mp hsuffix with h | h
      · exact h
      · simp at h
    rw [hwhole]
    exact ⟨htrail, rfl, rfl⟩
  | cons a path =>
    have hactive : active = a.2 :: (path.map (·.2) ++ [start]) := htrail.heads
    by_cases ha : a.2 = u
    · -- The trail ends at `u` already.
      have hwhole : active = u :: below := by
        rw [hactive, ha] at hsuffix ⊢
        have hnodup := htrail.nodup
        rw [hactive, ha] at hnodup
        rw [eq_of_suffix_of_suffix hnodup (List.suffix_refl _) hsuffix]
      subst hwhole
      simpa [Trail.comeBackTo, ha] using htrail
    · have hu : u ∈ active.tail := by
        have hmem : u ∈ active := hsuffix.subset (List.mem_cons_self ..)
        rw [hactive] at hmem ⊢
        exact (List.mem_cons.mp hmem).resolve_left (Ne.symm ha)
      obtain ⟨kept, below', hrewind, hkept, hsuffix'⟩ := rewind_spec htrail hu
      obtain rfl := eq_of_suffix_of_suffix htrail.nodup hsuffix hsuffix'
      simp [Trail.comeBackTo, ha, hrewind, hkept]

end Wiring.Digraph
