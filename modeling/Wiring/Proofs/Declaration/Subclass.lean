import Wiring.Proofs.Declaration.Composition

/-!
# Classes that only inherit

A class that declares no methods and has one base has the methods of the base, but of each name only
the first. A type can be run if any of its methods of the name can, so the two policies part where a
body declares a name more than once: the class then can be run exactly if the first method of the
name can (`isRunnable_subclass`). Methods from above have names of their own, so it is only the body
of the base itself that can make this difference, however far up the other methods come from
(`redeclares_append_iff`).
-/

namespace Wiring

open Relation
open Source (FunctionHead Stmt Expr Reader)

variable {name : String} {methods own inherited : List MethodSignature}

/-! ## The first method of a name -/

/-- Of the methods of one name only the first is new. -/
theorem filter_newNames_nil (met : List MethodSignature) (name : String) :
    (newNames [] met).filter (·.name == name) = (met.filter (·.name == name)).take 1 := by
  induction met using List.reverseRecOn with
  | nil => rfl
  | append_singleton met m ih =>
    rw [newNames_concat, List.nil_append, List.filter_append met]
    by_cases hname : m.name = name
    · subst hname
      have hlast : [m].filter (·.name == m.name) = [m] := by simp
      rw [hlast]
      cases hmet : met.filter (·.name == m.name) with
      | nil =>
        rw [hmet, List.take_nil, List.filter_eq_nil_iff] at ih
        have hnew : ¬ (newNames [] met).any (·.name == m.name) = true := by
          intro hany
          obtain ⟨k, hk, hkm⟩ := List.any_eq_true.mp hany
          exact ih k hk hkm
        rw [if_neg hnew, List.filter_append, List.filter_eq_nil_iff.mpr ih, hlast]
        rfl
      | cons first rest =>
        have hfirst : first ∈ (newNames [] met).filter (·.name == m.name) := by
          rw [ih, hmet]
          exact List.mem_singleton_self first
        obtain ⟨hmem, hsame⟩ := List.mem_filter.mp hfirst
        rw [if_pos (List.any_eq_true.mpr ⟨first, hmem, hsame⟩), ih, hmet]
        rfl
    · have hlast : [m].filter (·.name == name) = [] := by simp [hname]
      rw [hlast, List.append_nil]
      split
      · exact ih
      · rw [List.filter_append, hlast, List.append_nil]
        exact ih

/-- Some method of the name takes nothing and returns nothing. -/
def HasNullary (methods : List MethodSignature) (name : String) : Prop :=
  ∃ m ∈ methods, m.name = name ∧ m.isNullary = true

/-- The first method of the name takes nothing and returns nothing. -/
def FirstNullary (methods : List MethodSignature) (name : String) : Prop :=
  ∃ m, methods.find? (·.name == name) = some m ∧ m.isNullary = true

/-- The name is declared again: some method of the name takes nothing and returns nothing, but the
first one does not. -/
def Redeclares (methods : List MethodSignature) (name : String) : Prop :=
  HasNullary methods name ∧ ¬ FirstNullary methods name

/-- The first method of a name is a method of the name. -/
theorem FirstNullary.hasNullary (h : FirstNullary methods name) : HasNullary methods name := by
  obtain ⟨m, hfind, hm⟩ := h
  have hname := List.find?_some hfind
  exact ⟨m, List.mem_of_find?_eq_some hfind, eq_of_beq hname, hm⟩

/-- A class whose methods are given can be run if one of them can. -/
theorem isRunnable_named_iff {C scope : String} :
    (TypeKey.named C scope methods).isRunnable name = true ↔ HasNullary methods name := by
  unfold TypeKey.isRunnable HasNullary
  simp only [List.any_eq_true, Bool.and_eq_true, beq_iff_eq]
  rfl

/-- Among new names it is the first method of each name that counts. -/
theorem hasNullary_newNames_nil_iff :
    HasNullary (newNames [] methods) name ↔ FirstNullary methods name := by
  have hfilter : HasNullary (newNames [] methods) name ↔
      ∃ m ∈ (newNames [] methods).filter (·.name == name), m.isNullary = true := by
    unfold HasNullary
    simp only [List.mem_filter, beq_iff_eq, and_assoc]
  rw [hfilter, filter_newNames_nil]
  unfold FirstNullary
  rw [← List.head?_filter]
  cases methods.filter (·.name == name) with
  | nil => simp
  | cons first rest => simp

/-- Methods from above do not declare a name again: where the body has the name they do not, and
among themselves they have each name once. -/
theorem redeclares_append_iff {h : Hierarchy} {id : ClassId}
    (habove : h.FromAbove id own inherited) :
    Redeclares (own ++ inherited) name ↔ Redeclares own name := by
  have hhas : HasNullary (own ++ inherited) name ↔
      HasNullary own name ∨ HasNullary inherited name := by
    unfold HasNullary
    simp only [List.mem_append, or_and_right, exists_or]
  unfold Redeclares
  rw [hhas]
  unfold FirstNullary
  rw [List.find?_append]
  cases hfind : own.find? (·.name == name) with
  | some first =>
    -- The name is one of the body, so no method from above has it.
    have hother : ¬ HasNullary inherited name := by
      rintro ⟨m, hm, hname, -⟩
      have hfirst := List.find?_some hfind
      exact habove.name_ne m hm first (List.mem_of_find?_eq_some hfind)
        ((eq_of_beq hfirst).trans hname.symm)
    rw [or_iff_left hother]
    rfl
  | none =>
    -- The name is none of the body, and the only method from above that may have it is the first.
    have hown : ¬ HasNullary own name := by
      rintro ⟨m, hm, hname, -⟩
      exact List.find?_eq_none.mp hfind m hm (beq_iff_eq.mpr hname)
    refine iff_of_false ?_ fun hredeclares => hown hredeclares.1
    rintro ⟨howner | ⟨m, hm, hname, hnullary⟩, hfirst⟩
    · exact hown howner
    · refine hfirst ⟨m, ?_, hnullary⟩
      have hsome : (inherited.find? (·.name == name)).isSome = true :=
        List.find?_isSome.mpr ⟨m, hm, beq_iff_eq.mpr hname⟩
      obtain ⟨m', hfind'⟩ := Option.isSome_iff_exists.mp hsome
      have hname' := List.find?_some hfind'
      have hmem' := List.mem_of_find?_eq_some hfind'
      obtain rfl : m' = m := List.inj_on_of_nodup_map habove.nodup_names hmem' hm
        ((eq_of_beq hname').trans hname.symm)
      exact hfind'

/-! ## Subclasses without methods -/

namespace Hierarchy

variable {h : Hierarchy} {id base : ClassId} {body : ClassBody}

/-- A class that declares nothing and whose only base does not inherit from it has the methods of
the base, the first of each name. -/
theorem find?_methodSets_subclass (hbody : h.find? id = some ⟨[], [base]⟩)
    (hbase : h.methodSets.find? base = some methods)
    (hbelow : ¬ ReflTransGen h.Inherits base id) :
    h.methodSets.find? id = some (newNames [] methods) := by
  have hne : (base != id) = true := by
    rw [bne_iff_ne]
    rintro rfl
    exact hbelow .refl
  have hgather : h.methodSets.gather [] [base] = addMethods [] methods := by
    rw [MethodSets.gather, List.foldl_cons, hbase]
    rfl
  have hfilter : [base].filter (· != id) = [base] := List.filter_cons_of_pos hne
  have hother : ∀ b ∈ [base], ReflTransGen h.Inherits b id → b = id := by
    intro b hb hback
    rw [List.mem_singleton.mp hb] at hback
    exact absurd hback hbelow
  calc h.methodSets.find? id
      = some (h.methodSets.gather [] ([base].filter (· != id))) :=
        find?_methodSets_eq_gather hbody hother
    _ = some (newNames [] methods) := by
        rw [hfilter, hgather, addMethods_eq_append_newNames, List.nil_append]

end Hierarchy

namespace Declarations

variable {modules : List Declarations} {h : Hierarchy} {A B : ClassId} {body : ClassBody}

/-- A class `B` declares no methods, and its only base is a known class `A` that does not inherit
from it. Then `B` can be run exactly if the first of the methods of `A` that have the name can. So
`A` can be run if `B` can, and both can or neither unless the body of `A` declares the name again: a
method of the name there can be run, but the first one cannot. -/
theorem isRunnable_subclass [Reader] (hh : hierarchy modules = .ok h)
    (hB : h.find? B = some ⟨[], [A]⟩) (hA : h.find? A = some body) (hbelow : ¬ ReflTransGen h.Inherits A B) :
    ∃ sets methods, methodSets modules = .ok sets ∧ sets.find? A = some methods ∧
      sets.find? B = some (newNames [] methods) ∧
      ∀ env : Environment, env.known = sets → ∀ name,
        ((env.named B.2 B.1).isRunnable name = true ↔ FirstNullary methods name) ∧
        ((env.named B.2 B.1).isRunnable name = true →
          (env.named A.2 A.1).isRunnable name = true) ∧
        (((env.named B.2 B.1).isRunnable name = true ↔
            (env.named A.2 A.1).isRunnable name = true) ↔ ¬ Redeclares body.methods name) := by
  obtain ⟨inherited, hmethods, habove⟩ := Hierarchy.exists_fromAbove hA
  have hset : h.methodSets.find? B = some (newNames [] (body.methods ++ inherited)) :=
    Hierarchy.find?_methodSets_subclass hB hmethods hbelow
  refine ⟨h.methodSets, body.methods ++ inherited, by rw [methodSets, hh]; rfl, hmethods, hset, ?_⟩
  intro env henv name
  generalize hall : body.methods ++ inherited = methods at hmethods hset ⊢
  have hrunB : (env.named B.2 B.1).isRunnable name = true ↔ FirstNullary methods name := by
    rw [Environment.named, henv, hset, isRunnable_named_iff]
    exact hasNullary_newNames_nil_iff
  have hrunA : (env.named A.2 A.1).isRunnable name = true ↔ HasNullary methods name := by
    rw [Environment.named, henv, hmethods, isRunnable_named_iff]
    rfl
  have hredeclares : Redeclares methods name ↔ Redeclares body.methods name := by
    rw [← hall]
    exact redeclares_append_iff habove
  rw [hrunA, hrunB, ← hredeclares]
  refine ⟨Iff.rfl, FirstNullary.hasNullary, ?_⟩
  constructor
  · intro hiff hagain
    exact hagain.2 (hiff.mpr hagain.1)
  · intro hagain
    refine ⟨FirstNullary.hasNullary, fun hhas => ?_⟩
    by_contra hfirst
    exact hagain ⟨hhas, hfirst⟩

/-- A method that takes parameters beside the instance and returns nothing. -/
def plainMethod (name : String) (parameters : Nat) : Stmt :=
  .function { name, decorators := [], parameters := List.replicate (parameters + 1) none,
              returns := some (.name "None" "None"), place := ⟨2, 4⟩ } [.simple]

/-- A module with a class `Job` and a class `Task` that only inherits from it. The second method
`run` of `Job` takes nothing, the first one does. -/
def jobModule : List Stmt :=
  [.classDef "Job" [] [plainMethod "run" 1, plainMethod "run" 0, plainMethod "stop" 0],
   .classDef "Task" [.name "Job" "Job"] [.simple]]

/-- What the module declares. -/
def jobModules : List Declarations := [.collect "m" "m.py" "provider" jobModule]

/-- The classes of the module with their bases. -/
def jobHierarchy : Hierarchy where
  entries := [
    (("m", "Job"), ⟨[⟨"run", 1, 0⟩, ⟨"run", 0, 0⟩, ⟨"stop", 0, 0⟩], []⟩),
    (("m", "Task"), ⟨[], [("m", "Job")]⟩)]

theorem hierarchy_jobModules : hierarchy jobModules = .ok jobHierarchy := rfl

/-- The class `Task` stands above its base. -/
theorem acyclic_jobHierarchy : jobHierarchy.Acyclic := by
  apply Hierarchy.acyclic_of_rank fun id => if id = ("m", "Task") then 1 else 0
  decide

/-- By `stop` both classes can be run, by `run` only `Job` can. -/
theorem isRunnable_subclass_task :
    ∃ sets, methodSets jobModules = .ok sets ∧ ∀ env : Environment, env.known = sets →
      (env.named "Task" "m").isRunnable "stop" = true ∧
      ¬ ((env.named "Task" "m").isRunnable "run" = true ↔
        (env.named "Job" "m").isRunnable "run" = true) := by
  have hbelow : ¬ ReflTransGen jobHierarchy.Inherits ("m", "Job") ("m", "Task") := by
    intro hpath
    rcases hpath.cases_head with heq | ⟨base, ⟨body, hbody, hbase⟩, -⟩
    · exact absurd heq (by decide)
    · cases hbody
      cases hbase
  obtain ⟨sets, methods, hsets, hmethods, -, hrun⟩ :=
    isRunnable_subclass hierarchy_jobModules rfl rfl hbelow
  refine ⟨sets, hsets, fun env henv => ⟨?_, ?_⟩⟩
  · cases hsets
    cases hmethods
    exact (hrun env henv "stop").1.mpr ⟨⟨"stop", 0, 0⟩, rfl, rfl⟩
  · rw [(hrun env henv "run").2.2, not_not]
    refine ⟨⟨⟨"run", 0, 0⟩, by simp, rfl, rfl⟩, ?_⟩
    rintro ⟨m, hfind, hnullary⟩
    cases hfind
    cases hnullary

/-- The class `Task` declares no methods, and its only base is `Job`; nothing inherits from itself.
But only `Job` can be run. -/
theorem not_isRunnable_task :
    ∃ h sets, hierarchy jobModules = .ok h ∧ h.Acyclic ∧
      h.find? ("m", "Task") = some ⟨[], [("m", "Job")]⟩ ∧
      (h.find? ("m", "Job")).isSome = true ∧ methodSets jobModules = .ok sets ∧
      ∀ env : Environment, env.known = sets →
        (env.named "Job" "m").isRunnable "run" = true ∧
        (env.named "Task" "m").isRunnable "run" = false := by
  refine ⟨jobHierarchy, _, hierarchy_jobModules, acyclic_jobHierarchy, rfl, rfl, rfl, ?_⟩
  intro env henv
  rw [Environment.named, Environment.named, henv]
  exact ⟨rfl, rfl⟩

end Declarations

end Wiring
