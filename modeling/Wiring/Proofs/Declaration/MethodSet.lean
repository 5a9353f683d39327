import Mathlib.Data.List.Nodup
import Mathlib.Data.List.Perm.Subperm
import Mathlib.Logic.Relation
import Mathlib.Data.List.Induction
import Wiring.Declaration.Extraction

/-!
# Adding methods, and where they are searched

`addMethods` puts methods with new names behind those that are there, the first of each name
(`newNames`). It makes no difference to the methods that are added whether repeated names are left
out of them before (`addMethods_addMethods`).

Where methods are searched is told by a relation between classes (`Hierarchy.Inherits`), and what a
visit to a class does by two equations (`inherit_run_cons`, `visit_run`).
-/

namespace Wiring

open Relation

/-! ## New names -/

/-- The methods of a list with names that none of the given ones has, the first of each name. -/
def newNames (methods met : List MethodSignature) : List MethodSignature :=
  (met.filter fun m => !methods.any (·.name == m.name)).eraseDupsBy (·.name == ·.name)

/-- Adding methods one by one puts those with new names at the end. -/
theorem addMethods_eq_append_newNames (methods met : List MethodSignature) :
    addMethods methods met = methods ++ newNames methods met := by
  induction met generalizing methods with
  | nil => exact (List.append_nil methods).symm
  | cons m met ih =>
    have hstep : addMethods methods (m :: met) =
        addMethods (if methods.any (·.name == m.name) then methods else methods ++ [m]) met := rfl
    rw [hstep, ih]
    cases hm : methods.any (·.name == m.name) with
    | true =>
      unfold newNames
      rw [if_pos rfl, List.filter_cons_of_neg (by simp [hm])]
    | false =>
      -- What is left out because of the added method is left out because of `m`.
      have hrest : newNames methods (m :: met) = m :: newNames (methods ++ [m]) met := by
        unfold newNames
        rw [List.filter_cons_of_pos (by simp [hm]), List.eraseDupsBy_cons, List.filter_filter]
        congr 2
        apply List.filter_congr
        intro k _
        rw [List.any_append, List.any_cons, List.any_nil, Bool.or_false, Bool.not_or,
          Bool.decide_eq_false, Bool.and_comm, BEq.comm (a := m.name)]
      rw [hrest]
      simp

/-- Adding the methods of two lists adds those of the first and then those of the second. -/
theorem addMethods_append (methods met met' : List MethodSignature) :
    addMethods methods (met ++ met') = addMethods (addMethods methods met) met' := by
  unfold addMethods
  rw [List.foldl_append]

/-- After methods are added, the names are those of before and those added. -/
theorem any_addMethods (methods met : List MethodSignature) (name : String) :
    (addMethods methods met).any (·.name == name) =
      (methods.any (·.name == name) || met.any (·.name == name)) := by
  induction met generalizing methods with
  | nil => exact (Bool.or_false _).symm
  | cons m met ih =>
    have hstep : addMethods methods (m :: met) =
        addMethods (if methods.any (·.name == m.name) then methods else methods ++ [m]) met := rfl
    rw [hstep, ih, List.any_cons]
    cases hm : methods.any (·.name == m.name) with
    | false => simp [Bool.or_assoc]
    | true =>
      -- The name of the method that is left out stands among the others.
      rw [if_pos rfl]
      cases hname : m.name == name with
      | false => rw [Bool.false_or]
      | true =>
        rw [beq_iff_eq.mp hname] at hm
        rw [hm, Bool.true_or, Bool.true_or]

/-- A single method is added unless its name is there already. -/
theorem addMethods_concat (methods met : List MethodSignature) (m : MethodSignature) :
    addMethods methods (met ++ [m]) =
      if (addMethods methods met).any (·.name == m.name) then addMethods methods met
      else addMethods methods met ++ [m] := by
  rw [addMethods_append]
  rfl

/-- It makes no difference whether repeated names are left out before methods are added. -/
theorem addMethods_addMethods (methods own met : List MethodSignature) :
    addMethods methods (addMethods own met) = addMethods methods (own ++ met) := by
  induction met using List.reverseRecOn with
  | nil => rw [List.append_nil]; rfl
  | append_singleton met m ih =>
    rw [addMethods_concat own, ← List.append_assoc, addMethods_concat methods (own ++ met), ← ih]
    cases hm : (addMethods own met).any (·.name == m.name) with
    | false => rw [if_neg Bool.false_ne_true, addMethods_concat]
    | true => rw [if_pos rfl, any_addMethods methods, hm, Bool.or_true, if_pos rfl]

namespace Hierarchy

variable {h : Hierarchy} {id : ClassId} {body : ClassBody}

/-! ## Inheritance -/

/-- A known class has the other among its bases. -/
def Inherits (h : Hierarchy) (id base : ClassId) : Prop :=
  ∃ body, h.find? id = some body ∧ base ∈ body.bases

/-- No class inherits from itself, directly or through others. -/
def Acyclic (h : Hierarchy) : Prop := ∀ id, ¬ TransGen h.Inherits id id

/-- What is found under a key stands there. -/
theorem mem_entries_of_find? (hbody : h.find? id = some body) : (id, body) ∈ h.entries := by
  obtain ⟨entries⟩ := h
  unfold OrderedMap.find? at hbody
  induction entries with
  | nil => cases hbody
  | cons e entries ih =>
    rw [OrderedMap.lookup] at hbody
    split at hbody
    · rename_i hkey
      rw [← beq_iff_eq.mp hkey, ← Option.some.inj hbody]
      exact List.mem_cons_self
    · exact List.mem_cons_of_mem _ (ih hbody)

/-- Inheritance is acyclic if every class ranks above its bases. -/
theorem acyclic_of_rank (rank : ClassId → Nat)
    (hrank : ∀ e ∈ h.entries, ∀ base ∈ e.2.bases, rank base < rank e.1) : h.Acyclic := by
  have hlt : ∀ id base, TransGen h.Inherits id base → rank base < rank id := by
    intro id base hpath
    induction hpath with
    | single hstep =>
      obtain ⟨body, hbody, hbase⟩ := hstep
      exact hrank _ (mem_entries_of_find? hbody) _ hbase
    | tail _ hstep ih =>
      obtain ⟨body, hbody, hbase⟩ := hstep
      exact Nat.lt_trans (hrank _ (mem_entries_of_find? hbody) _ hbase) ih
  intro id hself
  exact Nat.lt_irrefl _ (hlt id id hself)

/-- A known class is among the keys. -/
theorem mem_keys_of_isSome (hknown : (h.find? id).isSome = true) : id ∈ h.keys := by
  obtain ⟨body, hbody⟩ := Option.isSome_iff_exists.mp hknown
  exact List.mem_map_of_mem (mem_entries_of_find? hbody)

/-! ## The search -/

/-- Adds the methods of bases to those of a class, as the search does while it visits the class. -/
def inherit (h : Hierarchy) (depth : Nat) (visiting : List ClassId)
    (methods : List MethodSignature) (bases : List ClassId) :
    StateM MethodSets (List MethodSignature) :=
  bases.foldlM (fun methods base => do
    return addMethods methods (← visit h depth visiting base)) methods

/-- The methods of bases are added base by base. -/
theorem inherit_run_cons (h : Hierarchy) (depth : Nat) (visiting : List ClassId)
    (methods : List MethodSignature) (base : ClassId) (bases : List ClassId) (memo : MethodSets) :
    (h.inherit depth visiting methods (base :: bases)).run memo =
      match (h.visit depth visiting base).run memo with
      | (ms, memo) => (h.inherit depth visiting (addMethods methods ms) bases).run memo := rfl

/-- A visit gives out what is kept of a class, and otherwise finds its methods and keeps them. -/
theorem visit_run (h : Hierarchy) (depth : Nat) (visiting : List ClassId) (id : ClassId)
    (memo : MethodSets) :
    (h.visit (depth + 1) visiting id).run memo =
      match memo.find? id, h.find? id with
      | some ms, _ => (ms, memo)
      | none, none => ([], memo)
      | none, some body =>
        if visiting.contains id then ([], memo)
        else
          match (h.inherit depth (id :: visiting) body.methods body.bases).run memo with
          | (ms, memo) => (ms, memo.insert id ms) := by
  rw [visit]
  cases hmemo : memo.find? id with
  | some ms => simp only [StateT.run_bind, StateT.run_get, pure_bind, hmemo]; rfl
  | none =>
    cases hbody : h.find? id with
    | none => simp only [StateT.run_bind, StateT.run_get, pure_bind, hmemo]; rfl
    | some body =>
      simp only [StateT.run_bind, StateT.run_get, pure_bind, hmemo]
      split
      · rfl
      · rfl

end Hierarchy

end Wiring
