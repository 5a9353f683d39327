import Wiring.Proofs.Declaration.Hierarchy

/-!
# Method sets where classes inherit from themselves

Classes may inherit from themselves, directly or through others. The search for method sets then
leaves out the bases that it is in the middle of, so that what it keeps of a class depends on where
it came from. Two things hold of all classes all the same, since they hold at the moment at which a
class is stored. The methods of the own body come first, all of them and in order
(`exists_prefix_methodSets`). And a class that has no bases but itself has no other methods
(`find?_methodSets_of_forall_eq`).
-/

namespace Wiring

open Source (Reader)

/-- Adding methods leaves those at the start that are there. -/
theorem prefix_addMethods (methods met : List MethodSignature) :
    methods <+: addMethods methods met := by
  rw [addMethods_eq_append_newNames]
  exact List.prefix_append methods _

namespace Hierarchy

variable {h : Hierarchy} {id : ClassId} {body : ClassBody}

/-- Each known class has a method set, which starts with the methods of its own body. -/
theorem exists_prefix_methodSets (hbody : h.find? id = some body) :
    ∃ methods, h.methodSets.find? id = some methods ∧ body.methods <+: methods := by
  have hkept : (h.methodSets.find? id).isSome = true := by
    rw [isSome_find?_methodSets, hbody]
    rfl
  obtain ⟨stage, -, -, -, hlater⟩ := exists_stage h.stores_methodSets hbody rfl hkept
  refine ⟨_, find?_eq_some_of_stores hlater find?_insert_self, ?_⟩
  rw [MethodSets.gather_eq_addMethods]
  exact prefix_addMethods body.methods _

/-- A class that has no bases but itself has the methods of its own body and no others. -/
theorem find?_methodSets_of_forall_eq (hbody : h.find? id = some body)
    (hbases : ∀ base ∈ body.bases, base = id) :
    h.methodSets.find? id = some body.methods := by
  have hnone : body.bases.filter (· != id) = [] := by
    rw [List.filter_eq_nil_iff]
    intro base hbase
    simp [hbases base hbase]
  rw [find?_methodSets_eq_gather hbody fun base hbase _ => hbases base hbase, hnone]
  rfl

end Hierarchy

namespace Declarations

variable {modules : List Declarations} {sets : MethodSets} {id : ClassId} {d : Declarations}
  {c : ClassDecl}

/-- The method sets of modules are those of the classes that they declare. -/
theorem exists_hierarchy_of_methodSets [Reader] (hsets : methodSets modules = .ok sets) :
    ∃ h, hierarchy modules = .ok h ∧ h.methodSets = sets := by
  unfold methodSets at hsets
  cases hh : hierarchy modules with
  | error fault =>
    rw [hh] at hsets
    cases hsets
  | ok h =>
    rw [hh] at hsets
    exact ⟨h, rfl, Except.ok.inj hsets⟩

/-- What is known of the last class declared under a scope and name starts with the methods of its
own body. -/
theorem exists_prefix_of_lastDeclared [Reader] (hsets : methodSets modules = .ok sets)
    (hlast : lastDeclared modules id = some (d, c)) :
    ∃ methods, sets.find? id = some methods ∧ c.methods <+: methods := by
  obtain ⟨h, hh, rfl⟩ := exists_hierarchy_of_methodSets hsets
  obtain ⟨body, hread, hbody⟩ := (find?_hierarchy hh id).2 d c hlast
  rw [← methods_classBody hread]
  exact Hierarchy.exists_prefix_methodSets hbody

end Declarations

end Wiring
