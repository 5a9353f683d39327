import Mathlib.Data.List.Nodup
import Mathlib.Data.List.Perm.Basic
import Mathlib.Data.List.Sort
import Wiring.Digraph.Order

/-!
# The queue and the counts of a sort

`sortVertices` describes what a sort lists without queue or counts, and `drain_eq_sortVertices` says
that the sort lists it. Where the sort stands is determined by the vertices that are not listed yet
and the arcs among them (`Frontier.start`): the queue holds those into which no arc leads, in
ascending order, and the counts are those of the arcs. An arc less is one count less
(`relax?_start`), so when the heads of the arcs that leave a listed vertex have been gone through,
the sort stands where it would start with the vertices and arcs that are left
(`foldlM_relax?_heads`).
-/

namespace Wiring.Digraph

variable {g : Digraph} {vs queue : List Nat} {arcs : List (Nat × Nat)} {degree : Nat → Nat}
  {u v w : Nat}

/-- The vertices are listed once, and arcs lead from vertices to vertices. -/
structure WellFormed (g : Digraph) : Prop where
  /-- No vertex is listed twice. -/
  nodup : g.vertices.Nodup
  /-- Arcs leave vertices. -/
  tail : ∀ u v, g.HasArc u v → u ∈ g.vertices
  /-- Arcs lead to vertices. -/
  head : ∀ u v, g.HasArc u v → v ∈ g.vertices

/-- Lists the vertices of an ascending list by repeatedly taking the first that is the head of no
arc, together with the arcs that leave it. There is no such list if at some point every vertex is
a head. -/
def sortVertices (vertices : List Nat) (arcs : List (Nat × Nat)) : Option (List Nat) :=
  if vertices = [] then some []
  else
    match _h : vertices.find? fun v => arcs.all (·.2 != v) with
    | none => none
    | some v => (v :: ·) <$> sortVertices (vertices.erase v) (arcs.filter (·.1 != v))
termination_by vertices.length
decreasing_by
  have hmem := List.mem_of_find?_eq_some _h
  have hlen := List.length_erase_of_mem hmem
  have hpos := List.length_pos_of_mem hmem
  omega

/-- Sorting takes out the first vertex into which no arc leads. -/
theorem sortVertices_of_find?_some (h : vs.find? (fun v => arcs.all (·.2 != v)) = some v) :
    sortVertices vs arcs = (v :: ·) <$> sortVertices (vs.erase v) (arcs.filter (·.1 != v)) := by
  have hne : vs ≠ [] := List.ne_nil_of_mem (List.mem_of_find?_eq_some h)
  rw [sortVertices, if_neg hne]
  split
  · rename_i hnone
    rw [h] at hnone
    cases hnone
  · rename_i u hsome
    rw [h] at hsome
    obtain rfl := Option.some.inj hsome
    rfl

/-- Without such a vertex there is no order of vertices that are left. -/
theorem sortVertices_of_find? (hne : vs ≠ [])
    (h : vs.find? (fun v => arcs.all (·.2 != v)) = none) : sortVertices vs arcs = none := by
  rw [sortVertices, if_neg hne]
  split
  · rfl
  · rename_i u hsome
    rw [h] at hsome
    cases hsome

namespace Frontier

/-! ## One arc less -/

/-- The queue holds the vertex that was put into it besides what it held. -/
theorem enqueue_perm (v : Nat) (queue : List Nat) : (enqueue v queue).Perm (v :: queue) := by
  induction queue with
  | nil => exact List.Perm.refl _
  | cons u queue ih =>
    unfold enqueue
    split
    · exact List.Perm.refl _
    · exact (ih.cons u).trans (List.Perm.swap v u queue)

/-- The queue stays in order. -/
theorem pairwise_enqueue (h : queue.Pairwise (· ≤ ·)) : (enqueue v queue).Pairwise (· ≤ ·) := by
  induction queue with
  | nil => exact List.pairwise_singleton _ _
  | cons u queue ih =>
    obtain ⟨hfirst, hrest⟩ := List.pairwise_cons.mp h
    unfold enqueue
    split
    · rename_i hle
      refine List.pairwise_cons.mpr ⟨fun w hw => ?_, h⟩
      rcases List.mem_cons.mp hw with rfl | hw
      · exact hle
      · exact hle.trans (hfirst w hw)
    · rename_i hlt
      refine List.pairwise_cons.mpr ⟨fun w hw => ?_, ih hrest⟩
      rcases List.mem_cons.mp ((enqueue_perm v queue).mem_iff.mp hw) with rfl | hw
      · omega
      · exact hfirst w hw

/-- A vertex that has a count waits with it. -/
theorem lookup_waiting (hv : v ∈ vs) (hdegree : degree v ≠ 0) :
    (start vs degree).waiting.lookup v = some (degree v) := by
  refine List.lookup_graph degree (List.mem_filter.mpr ⟨hv, ?_⟩)
  simpa using hdegree

/-- The vertices that wait after one of them has come to zero. -/
theorem filter_waiting (hone : degree v = 1) :
    (start vs degree).waiting.filter (·.1 != v) =
      (start vs (Function.update degree v 0)).waiting := by
  unfold start
  dsimp only
  rw [List.filter_map, List.filter_filter]
  -- Another vertex has the same count before and after.
  have hfilter : vs.filter (fun u => ((·.1 != v) ∘ fun u => (u, degree u)) u && degree u != 0) =
      vs.filter fun u => Function.update degree v 0 u != 0 := by
    refine List.filter_congr fun u _ => ?_
    by_cases huv : u = v
    · subst huv
      simp
    · simp [huv]
  rw [hfilter]
  refine List.map_congr_left fun u hu => ?_
  have huv : u ≠ v := by
    rintro rfl
    simp at hu
  rw [Function.update_of_ne huv]

/-- The queue after one vertex more has come to zero. -/
theorem enqueue_ready (hvs : vs.Pairwise (· < ·)) (hv : v ∈ vs) (hdegree : degree v ≠ 0) :
    enqueue v (start vs degree).ready = (start vs (Function.update degree v 0)).ready := by
  have hnodup : vs.Nodup := hvs.imp Nat.ne_of_lt
  have hready : (start vs degree).ready.Pairwise (· ≤ ·) := (hvs.imp Nat.le_of_lt).filter _
  have hready' : (start vs (Function.update degree v 0)).ready.Pairwise (· ≤ ·) :=
    (hvs.imp Nat.le_of_lt).filter _
  refine List.Perm.eq_of_pairwise (fun _ _ _ _ => Nat.le_antisymm) (pairwise_enqueue hready) hready'
    ((enqueue_perm v _).trans ?_)
  have hnew : v ∉ (start vs degree).ready := fun h => hdegree (by simpa using (List.mem_filter.mp h).2)
  refine (List.perm_ext_iff_of_nodup (List.nodup_cons.mpr ⟨hnew, hnodup.filter _⟩)
    (hnodup.filter _)).mpr fun u => ?_
  unfold start
  rw [List.mem_cons, List.mem_filter, List.mem_filter]
  by_cases huv : u = v
  · subst huv
    simp [hv]
  · simp [huv]

/-- The counts after one of them has gone down. -/
theorem map_waiting (hone : degree v ≠ 1) (hdegree : degree v ≠ 0) :
    ((start vs degree).waiting.map fun e => if e.1 == v then (v, degree v - 1) else e) =
      (start vs (Function.update degree v (degree v - 1))).waiting := by
  have hzero : ∀ u, (Function.update degree v (degree v - 1) u != 0) = (degree u != 0) := by
    intro u
    by_cases huv : u = v
    · subst huv
      have hleft : degree u - 1 ≠ 0 := by omega
      rw [Function.update_self, bne_iff_ne.mpr hleft, bne_iff_ne.mpr hdegree]
    · rw [Function.update_of_ne huv]
  unfold start
  simp only [hzero, List.map_map]
  refine List.map_congr_left fun u _ => ?_
  by_cases huv : u = v
  · subst huv
    simp
  · simp [huv]

/-- The queue is the same after a count has gone down that does not come to zero. -/
theorem ready_update (hone : degree v ≠ 1) (hdegree : degree v ≠ 0) :
    (start vs degree).ready = (start vs (Function.update degree v (degree v - 1))).ready := by
  refine List.filter_congr fun u _ => ?_
  by_cases huv : u = v
  · subst huv
    have hleft : degree u - 1 ≠ 0 := by omega
    simp [hleft, hdegree]
  · simp [huv]

/-- One arc less into a vertex is one count less. -/
theorem relax?_start (hvs : vs.Pairwise (· < ·)) (hv : v ∈ vs) (hdegree : degree v ≠ 0) :
    (start vs degree).relax? v = some (start vs (Function.update degree v (degree v - 1))) := by
  unfold relax?
  rw [lookup_waiting hv hdegree]
  dsimp only
  by_cases hone : degree v = 1
  · rw [if_pos (by simpa using hone), enqueue_ready hvs hv hdegree, filter_waiting hone, hone]
  · rw [if_neg (by simpa using hone), map_waiting hone hdegree, ready_update hone hdegree]

/-- Several arcs less are as many counts less. -/
theorem foldlM_relax?_start {hs : List Nat} (hvs : vs.Pairwise (· < ·)) (hmem : ∀ v ∈ hs, v ∈ vs)
    (hcount : ∀ v, hs.count v ≤ degree v) :
    hs.foldlM relax? (start vs degree) = some (start vs fun v => degree v - hs.count v) := by
  induction hs generalizing degree with
  | nil => rfl
  | cons h hs ih =>
    have hfirst := hcount h
    rw [List.count_cons_self] at hfirst
    have hdegree : degree h ≠ 0 := by omega
    have hrest : ∀ v, hs.count v ≤ Function.update degree h (degree h - 1) v := by
      intro v
      have hle := hcount v
      by_cases hvh : v = h
      · subst hvh
        rw [Function.update_self]
        omega
      · rw [List.count_cons_of_ne (Ne.symm hvh)] at hle
        rwa [Function.update_of_ne hvh]
    rw [List.foldlM_cons, relax?_start hvs (hmem h List.mem_cons_self) hdegree]
    show hs.foldlM relax? _ = _
    rw [ih (fun v hv => hmem v (List.mem_cons_of_mem h hv)) hrest]
    refine congrArg (fun degree => some (start vs degree)) (funext fun v => ?_)
    by_cases hvh : v = h
    · subst hvh
      rw [Function.update_self, List.count_cons_self]
      omega
    · rw [Function.update_of_ne hvh, List.count_cons_of_ne (Ne.symm hvh)]

end Frontier

/-! ## The arcs of a listed vertex -/

/-- No arc leads into a vertex exactly if their number is zero. -/
theorem inDegree_eq_zero_iff : inDegree arcs v = 0 ↔ ∀ a ∈ arcs, a.2 ≠ v := by
  unfold inDegree
  rw [List.length_eq_zero_iff, List.filter_eq_nil_iff]
  simp

/-- The arcs into a vertex leave a given vertex or another. -/
theorem inDegree_eq_add (arcs : List (Nat × Nat)) (v w : Nat) :
    inDegree arcs w = (heads arcs v).count w + inDegree (arcs.filter (·.1 != v)) w := by
  unfold inDegree heads
  induction arcs with
  | nil => rfl
  | cons a arcs ih =>
    obtain ⟨x, y⟩ := a
    by_cases hx : x = v
    · by_cases hy : y = w
      · simp [hx, hy, ih]
        omega
      · simp [hx, hy, ih]
    · by_cases hy : y = w
      · simp [hx, hy, ih]
        omega
      · simp [hx, hy, ih]

namespace Frontier

variable {rest : List (Nat × Nat)} {ready : List Nat}

/-- Without a vertex in the queue the sort ends. -/
theorem drain_nil {f : Frontier} (h : f.ready = []) :
    drain arcs f = if f.waiting.isEmpty then some [] else none := by
  rw [drain]
  split
  · rfl
  · rename_i hcons
    rw [h] at hcons
    cases hcons

/-- The first vertex of the queue is listed, and the heads of its arcs have one arc less. -/
theorem drain_cons {f f' : Frontier} (h : f.ready = v :: ready)
    (hrelaxed : (heads arcs v).foldlM relax? { f with ready } = some f') :
    drain arcs f = (v :: ·) <$> drain arcs f' := by
  rw [drain]
  split
  · rename_i hnil
    rw [h] at hnil
    cases hnil
  · rename_i u queue hcons
    rw [h] at hcons
    obtain ⟨rfl, rfl⟩ := List.cons.inj hcons
    split
    · rename_i hnone
      rw [hrelaxed] at hnone
      cases hnone
    · rename_i g hsome
      rw [hrelaxed] at hsome
      obtain rfl := Option.some.inj hsome
      rfl

/-- A vertex taken from the queue is no vertex that is left. -/
theorem start_erase (hnodup : vs.Nodup) (h : (start vs degree).ready = v :: ready) :
    { start vs degree with ready } = start (vs.erase v) degree := by
  have hv : v ∈ (start vs degree).ready := by
    rw [h]
    exact List.mem_cons_self
  have hzero : degree v = 0 := by simpa using (List.mem_filter.mp hv).2
  have hready : (start (vs.erase v) degree).ready = ready := by
    have hrest : ((start vs degree).ready).erase v = ready := by rw [h, List.erase_cons_head]
    rw [← hrest]
    unfold start
    dsimp only
    rw [hnodup.erase_eq_filter, (hnodup.filter _).erase_eq_filter, List.filter_filter,
      List.filter_filter]
    exact List.filter_congr fun u _ => Bool.and_comm _ _
  have hwaiting : (start (vs.erase v) degree).waiting = (start vs degree).waiting := by
    unfold start
    dsimp only
    rw [hnodup.erase_eq_filter, List.filter_filter]
    refine congrArg (List.map _) (List.filter_congr fun u _ => ?_)
    by_cases huv : u = v
    · subst huv
      simp [hzero]
    · simp [huv]
  dsimp only
  rw [← hready, ← hwaiting]

/-- The first vertex of the queue is the first into which no arc leads. -/
theorem find?_eq_head?_ready (vs : List Nat) (rest : List (Nat × Nat)) :
    vs.find? (fun v => rest.all (·.2 != v)) = (start vs (inDegree rest)).ready.head? := by
  have hfree : (fun v => rest.all (·.2 != v)) = fun v => inDegree rest v == 0 := by
    funext v
    rw [Bool.eq_iff_iff, List.all_eq_true, beq_iff_eq, inDegree_eq_zero_iff]
    simp
  rw [hfree]
  exact List.head?_filter.symm

/-- If no vertex is in the queue, all wait. -/
theorem isEmpty_waiting (hne : vs ≠ []) (h : (start vs degree).ready = []) :
    (start vs degree).waiting.isEmpty = false := by
  obtain ⟨v, hv⟩ := List.exists_mem_of_ne_nil vs hne
  have hdegree : degree v ≠ 0 := by simpa using List.filter_eq_nil_iff.mp h v hv
  cases hwaiting : (start vs degree).waiting with
  | cons e waiting => rfl
  | nil =>
    have hlookup := lookup_waiting hv hdegree
    rw [hwaiting] at hlookup
    cases hlookup

/-- Without the arcs of a vertex those of another are still there. -/
theorem heads_filter_of_ne {v w : Nat} (h : w ≠ v) (arcs : List (Nat × Nat)) :
    heads (arcs.filter (·.1 != v)) w = heads arcs w := by
  unfold heads
  rw [List.filter_filter]
  refine congrArg (List.map _) (List.filter_congr fun a _ => ?_)
  by_cases haw : a.1 = w
  · simp [haw, h]
  · simp [haw]

/-- Once the first vertex of the queue is taken out and the heads of its arcs have one arc less, the
sort stands where it would start with the other vertices and the other arcs. -/
theorem foldlM_relax?_heads (hvs : vs.Pairwise (· < ·)) (hheads : ∀ a ∈ rest, a.2 ∈ vs.erase v)
    (hready : (start vs (inDegree rest)).ready = v :: ready) :
    (heads rest v).foldlM relax? { start vs (inDegree rest) with ready } =
      some (start (vs.erase v) (inDegree (rest.filter (·.1 != v)))) := by
  have hmem : ∀ w ∈ heads rest v, w ∈ vs.erase v := by
    intro w hw
    obtain ⟨a, ha, rfl⟩ := List.mem_map.mp hw
    exact hheads a (List.mem_filter.mp ha).1
  have hcount : ∀ w, (heads rest v).count w ≤ inDegree rest w := by
    intro w
    rw [inDegree_eq_add rest v w]
    exact Nat.le_add_right _ _
  rw [start_erase (hvs.imp Nat.ne_of_lt) hready,
    foldlM_relax?_start (hvs.sublist List.erase_sublist) hmem hcount]
  refine congrArg (fun degree => some (start (vs.erase v) degree)) (funext fun w => ?_)
  rw [inDegree_eq_add rest v w]
  omega

/-- The sort lists what the description says. -/
theorem drain_eq_sortVertices (hvs : vs.Pairwise (· < ·)) (hheads : ∀ a ∈ rest, a.2 ∈ vs)
    (hleave : ∀ v ∈ vs, heads arcs v = heads rest v) :
    drain arcs (start vs (inDegree rest)) = sortVertices vs rest := by
  -- The arcs that count are those of the vertices that are not listed yet.
  induction hlen : vs.length generalizing vs rest with
  | zero =>
    obtain rfl := List.length_eq_zero_iff.mp hlen
    rw [drain_nil rfl, sortVertices, if_pos rfl]
    rfl
  | succ n ih =>
    have hne : vs ≠ [] := List.ne_nil_of_length_eq_add_one hlen
    have hnodup : vs.Nodup := hvs.imp Nat.ne_of_lt
    have hfind := find?_eq_head?_ready vs rest
    cases hready : (start vs (inDegree rest)).ready with
    | nil =>
      -- Every vertex is a head, and as some are left, neither of the two goes on.
      rw [hready] at hfind
      rw [drain_nil hready, isEmpty_waiting hne hready, sortVertices_of_find? hne hfind]
      rfl
    | cons v ready =>
      rw [hready] at hfind
      have hv : v ∈ vs := List.mem_of_find?_eq_some hfind
      have hnone : ∀ a ∈ rest, a.2 ≠ v := by simpa using List.find?_some hfind
      have hleft : ∀ a ∈ rest, a.2 ∈ vs.erase v :=
        fun a ha => (List.mem_erase_of_ne (hnone a ha)).mpr (hheads a ha)
      have hrelaxed := foldlM_relax?_heads hvs hleft hready
      rw [← hleave v hv] at hrelaxed
      rw [drain_cons hready hrelaxed, sortVertices_of_find?_some hfind]
      refine congrArg ((v :: ·) <$> ·) (ih (hvs.sublist List.erase_sublist) ?_ ?_ ?_)
      · exact fun a ha => hleft a (List.mem_filter.mp ha).1
      · intro w hw
        obtain ⟨hwv, hw⟩ := hnodup.mem_erase_iff.mp hw
        rw [hleave w hw, heads_filter_of_ne hwv]
      · rw [List.length_erase_of_mem hv, hlen, Nat.add_sub_cancel]

end Frontier

end Wiring.Digraph
