import Wiring.Proofs.Container.BuildOrder

/-!
# The numbers of nodes

In the list of roles the number of a node is its place, so what has to be said is which nodes there
are: the provider nodes, the root node and the missing node are all of them (`Numbered`), and a node,
once made, stays what it is under its number (`Keeps`). Both are shown change by change: a change
makes one node of one kind, under the next number (`providers_push`, `root?_push`,
`missing?_push`). That a counter gives out the same numbers is shown of `Wiring.Ledger`.
-/

namespace Wiring.Container

variable {c c' : Container} {role : Role} {n : Node}

/-! ## One change -/

/-- A change puts one node behind all others, with the next number. -/
theorem members_push (c : Container) (role : Role) :
    (c.push role).members = c.members ++ [c.nodeOf c.nextId role] := by
  unfold members push
  rw [List.mapIdx_concat]
  rfl

/-- A change uses up one number. -/
theorem nextId_push (c : Container) (role : Role) : (c.push role).nextId = c.nextId + 1 := by
  unfold nextId push
  rw [List.length_append, List.length_singleton]

/-- A new provider node is the last one. -/
theorem providers_push (c : Container) (role : Role) :
    (c.push role).providers =
      c.providers ++ [c.nodeOf c.nextId role].filter (·.role.isProvider) := by
  unfold providers
  rw [members_push, List.filter_append]

/-- The root node stays, and a new root node is it only if there was none. -/
theorem root?_push (c : Container) (role : Role) :
    (c.push role).root? =
      c.root?.or ([c.nodeOf c.nextId role].find? (·.role.rootType?.isSome)) := by
  unfold root?
  rw [members_push, List.find?_append]

/-- The missing node stays, and a new missing node is it only if there was none. -/
theorem missing?_push (c : Container) (role : Role) :
    (c.push role).missing? =
      c.missing?.or ([c.nodeOf c.nextId role].find? (·.role.isMissing)) := by
  unfold missing?
  rw [members_push, List.find?_append]

/-- Without a type of the root there is no root node. -/
theorem root?_eq_none (h : c.rootType? = none) : c.root? = none := by
  unfold root?
  rw [List.find?_eq_none]
  intro n hn
  obtain ⟨i, hn⟩ := mem_members_iff.mp hn
  obtain ⟨role, hrole, rfl⟩ := node?_eq_some_iff.mp hn
  have hnone : role.rootType? = none :=
    List.findSome?_eq_none_iff.mp h role (List.mem_of_getElem? hrole)
  show ¬ role.rootType?.isSome = true
  rw [hnone]
  decide

/-- Without a missing role there is no missing node. -/
theorem missing?_eq_none (h : c.roles.any Role.isMissing = false) : c.missing? = none := by
  unfold missing?
  rw [List.find?_eq_none]
  intro n hn
  obtain ⟨i, hn⟩ := mem_members_iff.mp hn
  obtain ⟨role, hrole, rfl⟩ := node?_eq_some_iff.mp hn
  exact List.any_eq_false.mp h role (List.mem_of_getElem? hrole)

/-! ## No number is left out or given twice -/

/-- The provider nodes, the root node and the missing node of a container. -/
def known (c : Container) : List Node := c.providers ++ c.root?.toList ++ c.missing?.toList

/-- The nodes of a container are numbered from zero on without a gap. -/
structure Numbered (c : Container) : Prop where
  /-- The numbers of the provider nodes, the root node and the missing node are all those below the
  next one, each once. -/
  perm : (c.known.map (·.id)).Perm ((List.range c.nextId).map Int.ofNat)
  /-- Provider nodes have ascending numbers in the order of their insertion. -/
  ascending : c.providers.Pairwise fun m n => m.id < n.id
  /-- There are no other nodes, so no second root node and no second missing node. -/
  members_perm : c.members.Perm c.known

/-- A change makes one more node known. -/
theorem known_push (hallowed : c.Allows role) :
    (c.push role).known.Perm (c.known ++ [c.nodeOf c.nextId role]) := by
  unfold known
  rw [providers_push, root?_push, missing?_push]
  cases role with
  | provider p =>
    -- The new node stands before the root node and the missing node.
    have hfilter : [c.nodeOf c.nextId (.provider p)].filter (·.role.isProvider) =
        [c.nodeOf c.nextId (.provider p)] := rfl
    have hroot : [c.nodeOf c.nextId (.provider p)].find? (·.role.rootType?.isSome) = none := rfl
    have hmissing : [c.nodeOf c.nextId (.provider p)].find? (·.role.isMissing) = none := rfl
    rw [hfilter, hroot, hmissing, Option.or_none, Option.or_none]
    simp only [List.append_assoc]
    rw [← List.append_assoc c.root?.toList]
    exact List.perm_append_comm.append_left c.providers
  | root type =>
    have hnone : c.root? = none := root?_eq_none hallowed
    have hfind : [c.nodeOf c.nextId (.root type)].find? (·.role.rootType?.isSome) =
        some (c.nodeOf c.nextId (.root type)) := rfl
    have hfilter : [c.nodeOf c.nextId (.root type)].filter (·.role.isProvider) = [] := rfl
    have hmissing : [c.nodeOf c.nextId (.root type)].find? (·.role.isMissing) = none := rfl
    rw [hnone, hfind, hfilter, hmissing, Option.or_none, Option.none_or, Option.toList_none,
      List.append_nil, List.append_assoc, List.append_assoc]
    exact List.perm_append_comm.append_left c.providers
  | missing =>
    -- The new node stands last on both sides.
    have hnone : c.missing? = none := missing?_eq_none hallowed
    have hfind : [c.nodeOf c.nextId .missing].find? (·.role.isMissing) =
        some (c.nodeOf c.nextId .missing) := rfl
    have hfilter : [c.nodeOf c.nextId .missing].filter (·.role.isProvider) = [] := rfl
    have hroot : [c.nodeOf c.nextId .missing].find? (·.role.rootType?.isSome) = none := rfl
    rw [hnone, hfind, hfilter, hroot, Option.or_none, Option.none_or, List.append_nil]
    simp

/-- In every reachable container the known nodes are all nodes. -/
theorem Reachable.members_perm (h : Reachable c) : c.members.Perm c.known := by
  refine h.induction (motive := fun c => c.members.Perm c.known) ?_ ?_
  · intro rootMethod tag
    exact List.Perm.nil
  · rintro c _ hperm ⟨role, hallowed, rfl⟩
    rw [members_push]
    exact (hperm.append_right _).trans (known_push hallowed).symm

/-- What can be told of a node by its number alone can be told of all nodes by counting. -/
theorem map_members {β : Type} {f : Node → β} {g : Nat → β}
    (hfg : ∀ i role, f (c.nodeOf i role) = g i) :
    c.members.map f = (List.range c.nextId).map g := by
  unfold members nextId
  apply List.ext_getElem
  · rw [List.length_map, List.length_mapIdx, List.length_map, List.length_range]
  · intro i _ _
    rw [List.getElem_map, List.getElem_mapIdx, List.getElem_map, List.getElem_range]
    exact hfg i _

/-- The nodes have the roles of the container, in the same order. -/
theorem map_role_members (c : Container) : c.members.map (·.role) = c.roles := by
  unfold members
  apply List.ext_getElem
  · rw [List.length_map, List.length_mapIdx]
  · intro i _ _
    rw [List.getElem_map, List.getElem_mapIdx]
    rfl

/-- Every reachable container is numbered without a gap. -/
theorem Reachable.numbered (h : Reachable c) : c.Numbered where
  perm := by
    have hids : c.members.map (·.id) = (List.range c.nextId).map Int.ofNat :=
      map_members fun _ _ => rfl
    rw [← hids]
    exact (h.members_perm.map _).symm
  ascending := (pairwise_members c).filter _
  members_perm := h.members_perm

/-! ## What is made stays -/

/-- All nodes of `c` are still there in `c'` and are what they were. -/
structure Keeps (c c' : Container) : Prop where
  /-- It is the same container. -/
  tag : c'.tag = c.tag
  /-- Numbers are not taken back. -/
  nextId : c.nextId ≤ c'.nextId
  /-- Later nodes stand behind the earlier ones. -/
  members : c.members <+: c'.members
  /-- Later providers stand behind the earlier ones. -/
  providers : c.providers <+: c'.providers
  /-- The root node is never replaced. -/
  root : ∀ r, c.root? = some r → c'.root? = some r
  /-- The missing node is never replaced. -/
  missing : ∀ m, c.missing? = some m → c'.missing? = some m
  /-- What belongs to the container goes on to do so. -/
  has : ∀ n, c.has n = true → c'.has n = true

/-- A container keeps its own nodes. -/
theorem Keeps.refl (c : Container) : c.Keeps c :=
  ⟨rfl, le_refl _, List.prefix_refl _, List.prefix_refl _, fun _ h => h, fun _ h => h, fun _ h => h⟩

/-- What is kept over two stretches is kept over both together. -/
theorem Keeps.trans {c₁ c₂ c₃ : Container} (h : c₁.Keeps c₂) (h' : c₂.Keeps c₃) : c₁.Keeps c₃ where
  tag := h'.tag.trans h.tag
  nextId := h.nextId.trans h'.nextId
  members := h.members.trans h'.members
  providers := h.providers.trans h'.providers
  root r hr := h'.root r (h.root r hr)
  missing m hm := h'.missing m (h.missing m hm)
  has n hn := h'.has n (h.has n hn)

/-- A change keeps all nodes. -/
theorem keeps_push (c : Container) (role : Role) : c.Keeps (c.push role) where
  tag := rfl
  nextId := by rw [nextId_push]; exact Nat.le_succ _
  members := by rw [members_push]; exact List.prefix_append _ _
  providers := by rw [providers_push]; exact List.prefix_append _ _
  root r hr := by rw [root?_push, hr, Option.some_or]
  missing m hm := by rw [missing?_push, hm, Option.some_or]
  has n hn := by
    -- The number lies below the next one, and that grows.
    unfold has Node.idInRange at hn ⊢
    rw [nextId_push]
    simp only [Bool.and_eq_true, decide_eq_true_eq] at hn ⊢
    obtain ⟨howner, hnonneg, hlt⟩ := hn
    refine ⟨howner, hnonneg, ?_⟩
    push_cast
    omega

/-- A row of changes keeps all nodes. -/
theorem Grows.keeps (h : c.Grows c') : c.Keeps c' := by
  induction h with
  | refl => exact Keeps.refl c
  | tail _ hchange ih =>
    obtain ⟨role, -, rfl⟩ := hchange
    exact ih.trans (keeps_push _ role)

/-- Whatever is done with a container keeps all nodes. -/
theorem keeps_after (c : Container) (ops : List Operation) : c.Keeps (c.after ops) :=
  Grows.keeps (grows_after c ops)

/-! ## The nodes that operations make -/

/-- Detecting a root leaves the provider nodes as they are. -/
theorem providers_detectRoot (c : Container) (types : List TypeKey) :
    ((detectRoot types).run.run c).2.providers = c.providers := by
  rw [detectRoot_run]
  match TypeKey.runnables c.rootMethod types with
  | [] => rfl
  | [type] =>
    dsimp only
    cases c.rootType? with
    | some existing => rfl
    | none =>
      have hnone : [c.nodeOf c.nextId (.root type)].filter (·.role.isProvider) = [] := rfl
      dsimp only
      rw [providers_push, hnone, List.append_nil]
  | _ :: _ :: _ => rfl

/-- A provider without a defect gets a node behind all others, also if the search for a root then
fails; no other provider gets one. -/
theorem providers_addProvider (c : Container) (p : Provider) :
    ((addProvider p).run.run c).2.providers =
      c.providers ++ if p.defect? = none then [c.nodeOf c.nextId (.provider p)] else [] := by
  rw [addProvider_run_snd]
  cases p.defect? with
  | some defect => rw [if_neg (by simp), List.append_nil]
  | none =>
    dsimp only
    rw [providers_detectRoot, providers_push, if_pos rfl]
    rfl

/-- The node that setting the root answers with is the root node from then on. -/
theorem root?_of_setRoot {type : TypeKey}
    (hrun : (setRoot type).run.run c = (.ok n, c')) : c'.root? = some n := by
  rw [setRoot_run] at hrun
  cases hroot : c.rootType? with
  | some existing =>
    rw [hroot] at hrun
    cases hrun
  | none =>
    rw [hroot] at hrun
    obtain ⟨hn, rfl⟩ := Prod.mk.inj hrun
    rw [root?_push, root?_eq_none hroot, Option.none_or, ← Except.ok.inj hn]
    rfl

/-- Once the missing role is there, so is the missing node. -/
theorem isSome_missing?_withMissing (c : Container) : c.withMissing.missing?.isSome = true := by
  obtain ⟨m, hm, hrole⟩ := exists_missing (any_isMissing_withMissing c)
  exact List.find?_isSome.mpr ⟨m, hm, hrole⟩

/-- Asking for the missing node answers with the missing node. -/
theorem missing?_missing (c : Container) :
    (Container.missing.run c).2.missing? = some (Container.missing.run c).1 := by
  obtain ⟨m, hm⟩ := Option.isSome_iff_exists.mp (isSome_missing?_withMissing c)
  show c.withMissing.missing? =
    some (c.withMissing.missing?.getD (c.withMissing.nodeOf c.withMissing.nextId .missing))
  rw [hm]
  rfl

end Wiring.Container
