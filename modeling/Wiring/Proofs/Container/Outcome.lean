import Wiring.Proofs.Container.Numbering
import Wiring.Proofs.Container.Population
import Wiring.Proofs.Declaration.WellFormed
import Wiring.Proofs.Failure
import Wiring.Proofs.TypeKey.Runnable

/-!
# What becomes of an added provider

A provider that is not valid is refused, and nothing has changed. A valid one always stays, but the
search for a root that follows can fail: when several of its types are candidates, whether or not
there is a root, and when one is and there is a root already. `Added` puts these outcomes together
with what each leaves behind, and `AddedInOrder` says that adding many providers is adding them one
by one up to the first failure. `Reachable.addProvider_outcome` shows both of every reachable
container.

What went wrong and what is left depend on the provider, the type of the root and the name of the
method only (`Provider.fault?`, `Container.withProvider`); `addProvider_run_eq` says how an addition
runs in these terms, and later results start from there.
-/

namespace Wiring

namespace Provider

variable {p : Provider} {method : String} {root : Option TypeKey} {e : GraphError}

/-! ## Valid providers -/

/-- A provider that can be added: a function that is no method, whose results are what it provides
and perhaps the error channel behind that. -/
structure Valid (p : Provider) : Prop where
  /-- It has no receiver. -/
  receiver : p.receiver = none
  /-- At most one result follows those it provides, and that is the error channel. -/
  results : ∃ channel, p.results = p.provides ++ channel ∧ channel.length ≤ 1 ∧
    ∀ t ∈ channel, (t == TypeKey.error) = true

/-- What a provider provides is not the error channel. -/
theorem ne_error_of_mem_provides {t : TypeKey} (h : t ∈ p.provides) :
    (t == TypeKey.error) = false := by
  simpa [bne] using (List.mem_filter.mp h).2

/-- The error channel stands only at the end of the results exactly if they are what is provided
with perhaps the channel behind. -/
theorem hasEarlyError_eq_false_iff :
    p.hasEarlyError = false ↔ ∃ channel, p.results = p.provides ++ channel ∧
      channel.length ≤ 1 ∧ ∀ t ∈ channel, (t == TypeKey.error) = true := by
  unfold hasEarlyError
  rw [List.any_eq_false]
  constructor
  · intro hearly
    unfold provides
    rcases List.eq_nil_or_concat p.results with hnil | ⟨init, last, hconcat⟩
    · exact ⟨[], by simp [hnil], by simp, by simp⟩
    · rw [List.concat_eq_append] at hconcat
      rw [hconcat, List.dropLast_concat] at hearly
      have hinit : init.filter (· != TypeKey.error) = init := by
        rw [List.filter_eq_self]
        intro t ht
        simpa [bne] using hearly t ht
      rw [hconcat, List.filter_append, hinit]
      cases hlast : last == TypeKey.error with
      | true => exact ⟨[last], by simp [bne, hlast], by simp, by simpa using hlast⟩
      | false => exact ⟨[], by simp [bne, hlast], by simp, by simp⟩
  · rintro ⟨channel, hresults, hlength, -⟩ t ht
    -- All results but the last are among those that are provided.
    have hmem : t ∈ p.provides := by
      rw [hresults] at ht
      match channel, hlength with
      | [], _ =>
        rw [List.append_nil] at ht
        exact List.mem_of_mem_dropLast ht
      | [u], _ =>
        rwa [List.dropLast_concat] at ht
    rw [ne_error_of_mem_provides hmem]
    decide

/-- A provider has no defect exactly if it is valid. -/
theorem defect?_eq_none_iff : p.defect? = none ↔ p.Valid := by
  unfold defect? isMethod
  cases hreceiver : p.receiver with
  | some t => exact ⟨fun h => by simp at h, fun h => by simp [h.receiver] at hreceiver⟩
  | none =>
    cases hearly : p.hasEarlyError with
    | true =>
      refine ⟨fun h => by simp at h, fun h => ?_⟩
      rw [hasEarlyError_eq_false_iff.mpr h.results] at hearly
      exact absurd hearly (by decide)
    | false => exact ⟨fun _ => ⟨hreceiver, hasEarlyError_eq_false_iff.mp hearly⟩, fun _ => rfl⟩

instance (p : Provider) : Decidable p.Valid := decidable_of_iff _ defect?_eq_none_iff

/-- A provider is not valid exactly if it has a defect. -/
theorem exists_defect_iff : (∃ d, p.defect? = some d) ↔ ¬ p.Valid := by
  rw [← defect?_eq_none_iff, ← Ne, Option.ne_none_iff_exists']

/-! ## What adding a provider comes to -/

/-- The type that a valid provider makes the root where there is none: its only candidate. -/
def detectedRoot? (method : String) (p : Provider) : Option TypeKey :=
  match p.defect?, TypeKey.runnables method p.provides with
  | none, [t] => some t
  | _, _ => none

/-- What is wrong with adding a provider where the root is given. -/
def fault? (method : String) (root : Option TypeKey) (p : Provider) : Option GraphError :=
  match p.defect?, TypeKey.runnables method p.provides, root with
  | some d, _, _ => some (.invalidProvider p d)
  | none, [], _ => none
  | none, [_], none => none
  | none, [t], some existing => some (.rootAlreadySet existing t)
  | none, candidates, _ => some (.ambiguousRoot candidates)

/-- A detected root is a type that a valid provider provides. -/
theorem mem_provides_of_detectedRoot? {t : TypeKey} (h : p.detectedRoot? method = some t) :
    p.Valid ∧ t ∈ p.provides := by
  unfold detectedRoot? at h
  split at h
  · rename_i t' hdefect hrunnables
    obtain rfl : t' = t := Option.some.inj h
    have ht : t' ∈ TypeKey.runnables method p.provides := by
      rw [hrunnables]
      exact List.mem_singleton_self _
    exact ⟨defect?_eq_none_iff.mp hdefect, TypeKey.mem_of_mem_runnables ht⟩
  · cases h

/-- What is wrong is told of types that the provider and the root have, so it can be worded if
these are well-formed. -/
theorem exists_message_of_fault? (hp : p.WellFormed) (hroot : ∀ t, root = some t → t.WellFormed)
    (he : p.fault? method root = some e) : ∃ message, e.message = .ok message := by
  have htext : ∀ t ∈ TypeKey.runnables method p.provides, ∃ s, t.text = .ok s := by
    intro t ht
    have hresult := (List.mem_filter.mp (TypeKey.mem_of_mem_runnables ht)).1
    exact TypeKey.exists_text t (hp.results t hresult)
  unfold fault? at he
  split at he
  · obtain rfl := Option.some.inj he
    exact ⟨_, rfl⟩
  · cases he
  · cases he
  · rename_i t existing _ hrunnables
    obtain rfl := Option.some.inj he
    obtain ⟨s, hs⟩ := TypeKey.exists_text existing (hroot existing rfl)
    obtain ⟨s', hs'⟩ := htext t (by rw [hrunnables]; exact List.mem_singleton_self t)
    exact ⟨_, by rw [GraphError.message, hs, hs']; rfl⟩
  · obtain rfl := Option.some.inj he
    -- The list has a text, since none of its types lacks one.
    have hlist : FailsBy (fun _ => ∃ t ∈ TypeKey.runnables method p.provides, False)
        (TypeKey.textList (TypeKey.runnables method p.provides)) :=
      (FailsBy.mapM fun t ht => FailsBy.of_ok (htext t ht).choose_spec).map _
    obtain ⟨s, hs⟩ := hlist.exists_ok_iff.mpr (by simp)
    exact ⟨_, by rw [GraphError.message, hs]; rfl⟩

end Provider

/-! ## One more node -/

namespace TypeIndex

variable {α : Type} {index : TypeIndex Nat} {f : α → List TypeKey} {rows : List α}

/-- One more row is the last node of each of its types. -/
theorem Lists.nodes_concat (h : index.Lists f rows) (r : α) (t : TypeKey) :
    (index.addAll (f r) rows.length).nodes t =
      index.nodes t ++ if (f r).contains t then [rows.length] else [] := by
  rw [(h.concat r).nodes, h.nodes, List.findIdxs_append, List.findIdxs_singleton, Nat.zero_add]

/-- Its new types stand behind those that were there. -/
theorem Lists.types_concat (h : index.Lists f rows) (r : α) :
    (index.addAll (f r) rows.length).types = TypeKey.distinct (index.types ++ f r) := by
  rw [(h.concat r).types, h.types, TypeKey.distinct_distinct_append, List.flatMap_append,
    List.flatMap_singleton]

end TypeIndex

namespace Container

variable {c c' : Container} {p : Provider} {role : Role}

/-- `c'` is `c` with one more node of the given role, and nothing else is different. -/
structure Adds (c : Container) (role : Role) (c' : Container) : Prop where
  /-- It is the same container. -/
  tag : c'.tag = c.tag
  /-- Roots are detected by the same method. -/
  rootMethod : c'.rootMethod = c.rootMethod
  /-- The new node has the next number and stands behind all others. -/
  members : c'.members = c.members ++ [c.nodeOf c.nextId role]
  /-- One number is used up. -/
  nextId : c'.nextId = c.nextId + 1
  /-- The root is another only if the new node is it. -/
  root : c'.root? =
    c.root?.or (if role.rootType?.isSome then some (c.nodeOf c.nextId role) else none)
  /-- The missing node is another only if the new node is it. -/
  missing : c'.missing? =
    c.missing?.or (if role.isMissing then some (c.nodeOf c.nextId role) else none)
  /-- The new node is the last of those that provide each of its types. -/
  providedBy : ∀ t, c'.providedBy.nodes t =
    c.providedBy.nodes t ++ if role.provides.contains t then [c.nextId] else []
  /-- Types that nobody provided before stand behind the others. -/
  provided : c'.providedBy.types = TypeKey.distinct (c.providedBy.types ++ role.provides)
  /-- The new node is the last of those that require each of its types. -/
  requiredBy : ∀ t, c'.requiredBy.nodes t =
    c.requiredBy.nodes t ++ if role.requires.contains t then [c.nextId] else []
  /-- Types that nobody required before stand behind the others. -/
  required : c'.requiredBy.types = TypeKey.distinct (c.requiredBy.types ++ role.requires)

/-- Putting a node at the end of a consistent container does nothing else. -/
theorem Consistent.adds_push (hc : c.Consistent) (role : Role) : c.Adds role (c.push role) where
  tag := rfl
  rootMethod := rfl
  members := members_push c role
  nextId := nextId_push c role
  root := by
    rw [root?_push, List.find?_singleton]
    rfl
  missing := by
    rw [missing?_push, List.find?_singleton]
    rfl
  providedBy t := hc.providedBy.nodes_concat role t
  provided := hc.providedBy.types_concat role
  requiredBy t := hc.requiredBy.nodes_concat role t
  required := hc.requiredBy.types_concat role

/-! ## How an addition runs -/

/-- What adding a provider leaves: the provider, if it is valid, and behind it the root that it
makes, if there is none. -/
def withProvider (c : Container) (p : Provider) : Container :=
  if p.Valid then
    match c.rootType?, p.detectedRoot? c.rootMethod with
    | none, some t => (c.push (.provider p)).push (.root t)
    | _, _ => c.push (.provider p)
  else c

/-- An addition fails if something is wrong, and answers with the new node otherwise. -/
theorem addProvider_run_eq (c : Container) (p : Provider) :
    (addProvider p).run.run c =
      (match p.fault? c.rootMethod c.rootType? with
        | some e => .error e
        | none => .ok (c.nodeOf c.nextId (.provider p)),
        c.withProvider p) := by
  have hmethod : (c.push (.provider p)).rootMethod = c.rootMethod := rfl
  have hroot : (c.push (.provider p)).rootType? = c.rootType? := by
    rw [rootType?_push]
    exact Option.or_none
  rw [addProvider_run]
  unfold Provider.fault? withProvider Provider.detectedRoot?
  cases hdefect : p.defect? with
  | some d =>
    rw [if_neg (Provider.exists_defect_iff.mp ⟨d, hdefect⟩)]
  | none =>
    rw [if_pos (Provider.defect?_eq_none_iff.mp hdefect)]
    dsimp only
    rw [detectRoot_run, hmethod, hroot]
    -- The candidates decide, and for a single one the root.
    match TypeKey.runnables c.rootMethod p.provides, c.rootType? with
    | [], none => rfl
    | [], some existing => rfl
    | [t], none => rfl
    | [t], some existing => rfl
    | _ :: _ :: _, none => rfl
    | _ :: _ :: _, some existing => rfl

/-! ## The outcomes -/

/-- What adding a provider answers and leaves. -/
structure Added (c : Container) (p : Provider) (result : Except GraphError Node × Container) :
    Prop where
  /-- A provider is refused exactly if it is not valid. -/
  invalid_iff : (∃ d, result.1 = .error (.invalidProvider p d)) ↔ ¬ p.Valid
  /-- Then nothing has changed. -/
  unchanged : ¬ p.Valid → result.2 = c
  /-- A valid provider is there in any case. With no candidate for the root among its types nothing
  else has happened, and neither if there are several or if there is a root already. A single
  candidate becomes the root where there is none. -/
  inserted : p.Valid → ∃ candidates c', TypeKey.IsCandidates c.rootMethod p.provides candidates ∧
    c.Adds (.provider p) c' ∧
    match candidates, c.rootType? with
    | [], _ => result = (.ok (c.nodeOf c.nextId (.provider p)), c')
    | [t], none =>
      result.1 = .ok (c.nodeOf c.nextId (.provider p)) ∧ c'.Adds (.root t) result.2
    | [t], some existing => result = (.error (.rootAlreadySet existing t), c')
    | _ :: _ :: _, _ => result = (.error (.ambiguousRoot candidates), c')
  /-- A failure can be worded if the types that are involved are well-formed. -/
  worded : p.WellFormed → (∀ t, c.rootType? = some t → t.WellFormed) →
    ∀ e, result.1 = .error e → ∃ message, e.message = .ok message

/-- Every provider that is added to a consistent container has one of these outcomes. -/
theorem Consistent.added (hc : c.Consistent) (p : Provider) :
    c.Added p ((addProvider p).run.run c) := by
  rw [addProvider_run_eq]
  refine {
    invalid_iff := ?invalid_iff
    unchanged := ?unchanged
    inserted := ?inserted
    worded := ?worded }
  case invalid_iff =>
    rw [← Provider.exists_defect_iff]
    unfold Provider.fault?
    cases hdefect : p.defect? with
    | some d => exact ⟨fun _ => ⟨d, rfl⟩, fun _ => ⟨d, rfl⟩⟩
    | none =>
      -- The other failures say something else.
      refine ⟨?_, fun ⟨_, h⟩ => by cases h⟩
      rintro ⟨d, hd⟩
      match TypeKey.runnables c.rootMethod p.provides, c.rootType?, hd with
      | [_], some _, hd => cases hd
      | _ :: _ :: _, none, hd => cases hd
      | _ :: _ :: _, some _, hd => cases hd
  case unchanged =>
    intro hinvalid
    exact if_neg hinvalid
  case inserted =>
    intro hvalid
    have hdefect := Provider.defect?_eq_none_iff.mpr hvalid
    have hallowed : c.Allows (.provider p) := hdefect
    refine ⟨TypeKey.runnables c.rootMethod p.provides, c.push (.provider p),
      TypeKey.isCandidates_runnables _ _, hc.adds_push _, ?_⟩
    unfold Provider.fault? withProvider Provider.detectedRoot?
    rw [hdefect, if_pos hvalid]
    match TypeKey.runnables c.rootMethod p.provides, c.rootType? with
    | [], none => rfl
    | [], some existing => rfl
    | [t], none => exact ⟨rfl, (hc.grows (grows_push hallowed)).adds_push _⟩
    | [t], some existing => rfl
    | _ :: _ :: _, none => rfl
    | _ :: _ :: _, some existing => rfl
  case worded =>
    intro hp hroot e he
    cases hfault : p.fault? c.rootMethod c.rootType? with
    | none =>
      rw [hfault] at he
      cases he
    | some e' =>
      rw [hfault] at he
      obtain rfl : e' = e := Except.error.inj he
      exact Provider.exists_message_of_fault? hp hroot hfault

/-! ## Many providers -/

/-- What adding providers one by one answers, a failed one being followed by the next. -/
def answersTo (c : Container) : List Provider → List (Except GraphError Node)
  | [] => []
  | p :: ps => ((addProvider p).run.run c).1 :: ((addProvider p).run.run c).2.answersTo ps

/-- What adding several providers answers and leaves. -/
structure AddedInOrder (c : Container) (ps : List Provider)
    (result : Except GraphError (List Node) × Container) : Prop where
  /-- If it succeeds, adding them one by one answers with the same nodes and leaves the same. -/
  ok : ∀ ns, result.1 = .ok ns →
    c.answersTo ps = ns.map .ok ∧ result.2 = c.after (ps.map .addProvider)
  /-- If it fails, it does so at the first provider that fails when they are added one by one, and
  leaves what they leave up to that one. -/
  error : ∀ e, result.1 = .error e → ∃ earlier p later, ∃ ns : List Node,
    ps = earlier ++ p :: later ∧
    c.answersTo (earlier ++ [p]) = ns.map .ok ++ [.error e] ∧
    result.2 = c.after ((earlier ++ [p]).map .addProvider)

/-- Adding several providers is adding them one by one up to the first failure. -/
theorem addedInOrder (c : Container) (ps : List Provider) :
    c.AddedInOrder ps ((addProviders ps).run.run c) := by
  induction ps generalizing c with
  | nil =>
    refine ⟨?_, ?_⟩
    · rintro _ ⟨⟩
      exact ⟨rfl, rfl⟩
    · rintro _ ⟨⟩
  | cons p ps ih =>
    have hstate : ∀ qs : List Provider, c.after ((p :: qs).map .addProvider) =
        ((addProvider p).run.run c).2.after (qs.map .addProvider) := fun _ => rfl
    have hanswers : ∀ qs : List Provider, c.answersTo (p :: qs) =
        ((addProvider p).run.run c).1 :: ((addProvider p).run.run c).2.answersTo qs := fun _ => rfl
    rw [addProviders_run_cons]
    generalize hfirst : (addProvider p).run.run c = first at hstate hanswers
    obtain ⟨_ | n, c'⟩ := first
    · -- The first one fails, and the others are not tried.
      rename_i e
      refine ⟨?_, ?_⟩
      · rintro _ ⟨⟩
      · rintro _ ⟨⟩
        exact ⟨[], p, ps, [], rfl, hanswers [], (hstate []).symm⟩
    · have hrest := ih c'
      dsimp only
      generalize (addProviders ps).run.run c' = rest at hrest
      obtain ⟨_ | ns, c''⟩ := rest
      · rename_i e
        refine ⟨?_, ?_⟩
        · rintro _ ⟨⟩
        · rintro _ ⟨⟩
          obtain ⟨earlier, q, later, ns, rfl, hq, hleft⟩ := hrest.error e rfl
          refine ⟨p :: earlier, q, later, n :: ns, rfl, ?_, ?_⟩
          · rw [List.cons_append, hanswers, hq]
            rfl
          · rw [List.cons_append, hstate]
            exact hleft
      · refine ⟨?_, ?_⟩
        · rintro _ ⟨⟩
          obtain ⟨hq, hleft⟩ := hrest.ok ns rfl
          refine ⟨?_, ?_⟩
          · rw [hanswers, hq]
            rfl
          · rw [hstate]
            exact hleft
        · rintro _ ⟨⟩

/-- In a reachable container, adding a provider has one of the described outcomes, and adding
several is adding them one by one up to the first failure. -/
theorem Reachable.addProvider_outcome (h : Reachable c) :
    (∀ p, c.Added p ((addProvider p).run.run c)) ∧
      ∀ ps, c.AddedInOrder ps ((addProviders ps).run.run c) :=
  ⟨h.consistent.added, addedInOrder c⟩

/-- A provider whose error channel stands before its other result. -/
def hasty : Provider := { name := "f", results := [.error, .basic "B"] }

/-- It is refused by a container with a root and leaves no trace there. -/
theorem addProvider_outcome_selfFed :
    ((addProvider hasty).run.run selfFed).2 = selfFed ∧
      ∃ d, ((addProvider hasty).run.run selfFed).1 = .error (.invalidProvider hasty d) := by
  have hinvalid : ¬ hasty.Valid := by decide
  obtain ⟨hadded, -⟩ := Reachable.addProvider_outcome (c := selfFed) ⟨"run", 0, _, rfl⟩
  exact ⟨(hadded hasty).unchanged hinvalid, (hadded hasty).invalid_iff.mpr hinvalid⟩

end Container

end Wiring
