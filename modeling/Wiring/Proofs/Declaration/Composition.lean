import Wiring.Proofs.Declaration.Annotation
import Wiring.Proofs.Declaration.Inheritance
import Wiring.Proofs.TypeKey.Index

/-!
# What method sets are made of

A method set is the body of the class, all of it and in order, and after it methods from above. Each
of these has a name of its own that the body does not have, and a class stands for it that is
reached through bases and declares it (`Hierarchy.FromAbove`). This is an invariant of the step by
which the search keeps one more class, so it holds of what was kept while some bases were left out
as it does of everything else.

`Declarations.methodSets_outcome` puts this together for all modules, whatever their classes inherit
from. The search comes to an end; exactly the declared classes have method sets; and of classes
declared twice the last one counts.
-/

namespace Wiring

open Relation
open Source (Reader)

/-! ## New names -/

/-- The last method of a list is new if its name is nowhere before. -/
theorem newNames_concat (methods met : List MethodSignature) (m : MethodSignature) :
    newNames methods (met ++ [m]) =
      if (methods ++ newNames methods met).any (·.name == m.name) then newNames methods met
      else newNames methods met ++ [m] := by
  have hadd := addMethods_concat methods met m
  rw [addMethods_eq_append_newNames, addMethods_eq_append_newNames, List.append_assoc,
    ← apply_ite (methods ++ ·)] at hadd
  exact List.append_cancel_left hadd

/-- The new ones are some of the methods. -/
theorem newNames_subset (methods met : List MethodSignature) : newNames methods met ⊆ met := by
  induction met using List.reverseRecOn with
  | nil => exact fun _ hm => hm
  | append_singleton met m ih =>
    have hleft : newNames methods met ⊆ met ++ [m] :=
      List.Subset.trans ih (List.subset_append_left met [m])
    rw [newNames_concat]
    split
    · exact hleft
    · exact List.append_subset.mpr ⟨hleft, List.subset_append_right met [m]⟩

/-- No two of them have one name, and none has a name that was there before. -/
theorem nodup_names_append_newNames {methods met : List MethodSignature} :
    ((newNames methods met).map (·.name)).Nodup ∧
      ∀ m ∈ newNames methods met, ∀ m' ∈ methods, m'.name ≠ m.name := by
  induction met using List.reverseRecOn with
  | nil => exact ⟨List.nodup_nil, fun _ hm => by cases hm⟩
  | append_singleton met m ih =>
    obtain ⟨hnodup, hfresh⟩ := ih
    rw [newNames_concat]
    split
    · exact ⟨hnodup, hfresh⟩
    · rename_i hnew
      have hother : ∀ m' ∈ methods ++ newNames methods met, m'.name ≠ m.name := by
        intro m' hm' heq
        exact hnew (List.any_eq_true.mpr ⟨m', hm', beq_iff_eq.mpr heq⟩)
      constructor
      · rw [List.map_append, List.map_singleton]
        refine hnodup.append (List.nodup_singleton _) fun name hname hlast => ?_
        obtain ⟨m', hm', rfl⟩ := List.mem_map.mp hname
        exact hother m' (List.mem_append_right _ hm') (List.mem_singleton.mp hlast)
      · intro k hk m' hm'
        rcases List.mem_append.mp hk with hk | hk
        · exact hfresh k hk m' hm'
        · obtain rfl := List.mem_singleton.mp hk
          exact hother m' (List.mem_append_left _ hm')

namespace Hierarchy

variable {h : Hierarchy} {memo memo' : MethodSets} {id base : ClassId}
  {own inherited methods : List MethodSignature} {m : MethodSignature}

/-! ## Methods from above -/

/-- A known class that is reached from the given one through bases declares the method. -/
def Supplies (h : Hierarchy) (id : ClassId) (m : MethodSignature) : Prop :=
  ∃ a body, TransGen h.Inherits id a ∧ h.find? a = some body ∧ m ∈ body.methods

/-- What is supplied to a base is supplied to the class. -/
theorem Supplies.of_inherits (hbase : h.Inherits id base) (hm : h.Supplies base m) :
    h.Supplies id m := by
  obtain ⟨a, body, hpath, hbody, hmem⟩ := hm
  exact ⟨a, body, TransGen.head hbase hpath, hbody, hmem⟩

/-- The methods that a class has beside its own: each under a name of its own, which the class does
not declare, and each declared by a class above. -/
structure FromAbove (h : Hierarchy) (id : ClassId) (own inherited : List MethodSignature) :
    Prop where
  /-- No two of them have one name. -/
  nodup_names : (inherited.map (·.name)).Nodup
  /-- None has the name of a method of the class. -/
  name_ne : ∀ m ∈ inherited, ∀ m' ∈ own, m'.name ≠ m.name
  /-- Each comes from above. -/
  supplied : ∀ m ∈ inherited, h.Supplies id m

/-- The methods of a known class are those of its body, and after them methods from above. -/
def Composed (h : Hierarchy) (id : ClassId) (methods : List MethodSignature) : Prop :=
  ∃ body inherited, h.find? id = some body ∧ methods = body.methods ++ inherited ∧
    h.FromAbove id body.methods inherited

/-- What a base has is declared by the base or by a class above it, so it comes from above. -/
theorem Composed.supplies (hbase : h.Inherits id base) (hmethods : h.Composed base methods)
    (hm : m ∈ methods) : h.Supplies id m := by
  obtain ⟨body, inherited, hbody, rfl, habove⟩ := hmethods
  rcases List.mem_append.mp hm with hm | hm
  · exact ⟨base, body, TransGen.single hbase, hbody, hm⟩
  · exact (habove.supplied m hm).of_inherits hbase

/-- What is gathered for a class comes from above, if all that is kept is composed so. -/
theorem fromAbove_newNames {body : ClassBody} (hbody : h.find? id = some body)
    (hmemo : AllKept h.Composed memo) :
    h.FromAbove id body.methods
      (newNames body.methods (body.bases.flatMap fun base => (memo.find? base).getD [])) where
  nodup_names := nodup_names_append_newNames.1
  name_ne := nodup_names_append_newNames.2
  supplied m hm := by
    obtain ⟨base, hbase, hm⟩ := List.mem_flatMap.mp (newNames_subset _ _ hm)
    cases hkept : memo.find? base with
    | none =>
      rw [hkept] at hm
      cases hm
    | some methods =>
      rw [hkept] at hm
      exact (hmemo base methods hkept).supplies ⟨body, hbody, hbase⟩ hm

/-- One more class is kept with methods so composed. -/
theorem Stores.allKept_composed (hstep : h.Stores memo memo') (hmemo : AllKept h.Composed memo) :
    AllKept h.Composed memo' := by
  cases hstep with
  | @store id body hbody hnew hbases =>
    refine hmemo.insert ⟨body, _, hbody, ?_, fromAbove_newNames hbody hmemo⟩
    rw [MethodSets.gather_eq_addMethods, addMethods_eq_append_newNames]

/-- No class is kept twice. -/
theorem Stores.nodup_keys (hstep : h.Stores memo memo') (hnodup : memo.keys.Nodup) :
    memo'.keys.Nodup := by
  cases hstep with
  | @store id body hbody hnew hbases =>
    have hfresh : memo.contains id = false := by
      rw [OrderedMap.contains, hnew]
      rfl
    have hdisjoint : id ∉ memo.keys := by
      rw [← List.contains_iff_mem, ← OrderedMap.contains_eq_contains_keys, hfresh]
      exact Bool.false_ne_true
    rw [OrderedMap.insert, OrderedMap.keys_alter, hfresh, if_neg Bool.false_ne_true]
    exact List.nodup_append_comm.mp (List.nodup_cons.mpr ⟨hdisjoint, hnodup⟩)

/-- All method sets are so composed, and no class has two. -/
theorem composed_methodSets (h : Hierarchy) :
    AllKept h.Composed h.methodSets ∧ h.methodSets.keys.Nodup := by
  constructor
  · exact holds_methodSets allKept_empty fun _ _ hstep hmemo => hstep.allKept_composed hmemo
  · exact holds_methodSets List.nodup_nil fun _ _ hstep hnodup => hstep.nodup_keys hnodup

/-- The methods of a known class are those of its body, and after them methods from above. -/
theorem exists_fromAbove {body : ClassBody} (hbody : h.find? id = some body) :
    ∃ inherited, h.methodSets.find? id = some (body.methods ++ inherited) ∧
      h.FromAbove id body.methods inherited := by
  obtain ⟨methods, hkept, -⟩ := exists_prefix_methodSets hbody
  obtain ⟨body', inherited, hbody', rfl, habove⟩ := h.composed_methodSets.1 id methods hkept
  obtain rfl := Option.some.inj (hbody.symm.trans hbody')
  exact ⟨inherited, hkept, habove⟩

end Hierarchy

namespace Declarations

variable {modules : List Declarations} {h : Hierarchy} {id : ClassId}

/-- A base of some class of the modules has the fault. -/
def BaseFault [Reader] (modules : List Declarations) (fault : Source.LiteralFault) : Prop :=
  ∃ d ∈ modules, ∃ c ∈ d.classes, ∃ e ∈ c.bases, e.HasFault fault

/-- Some module declares a class under the scope and name. -/
def Declares (modules : List Declarations) (id : ClassId) : Prop :=
  ∃ d ∈ modules, ∃ c ∈ d.classes, (c.scope, c.name) = id

/-- The classes that are declared are those of which one is the last. -/
theorem declares_iff : Declares modules id ↔ ∃ d c, lastDeclared modules id = some (d, c) := by
  constructor
  · rintro ⟨d, hd, c, hc, rfl⟩
    exact exists_lastDeclared hd hc
  · rintro ⟨d, c, hlast⟩
    obtain ⟨hd, hc, hid⟩ := mem_of_lastDeclared hlast
    exact ⟨d, hd, c, hc, hid⟩

/-- The known classes are those that are declared. -/
theorem isSome_find?_hierarchy_iff [Reader] (hh : hierarchy modules = .ok h) (id : ClassId) :
    (h.find? id).isSome = true ↔ Declares modules id := by
  obtain ⟨hnone, hsome⟩ := find?_hierarchy hh id
  rw [declares_iff]
  cases hlast : lastDeclared modules id with
  | none => exact iff_of_false (by rw [hnone hlast]; simp) (by simp)
  | some e =>
    obtain ⟨d, c⟩ := e
    obtain ⟨body, -, hbody⟩ := hsome d c hlast
    exact iff_of_true (by rw [hbody]; rfl) ⟨d, c, rfl⟩

/-- A known class has the methods of the last one declared under its scope and name. -/
theorem exists_lastDeclared_of_find? [Reader] {body : ClassBody} (hh : hierarchy modules = .ok h)
    (hbody : h.find? id = some body) :
    ∃ d c, lastDeclared modules id = some (d, c) ∧ c.methods = body.methods := by
  obtain ⟨d, c, hlast⟩ := declares_iff.mp
    ((isSome_find?_hierarchy_iff hh id).mp (by rw [hbody]; rfl))
  obtain ⟨body', hread, hbody'⟩ := (find?_hierarchy hh id).2 d c hlast
  obtain rfl := Option.some.inj (hbody.symm.trans hbody')
  exact ⟨d, c, hlast, (methods_classBody hread).symm⟩

/-- What the method sets of modules are, where the classes that they declare are known. -/
structure HasMethodSets [Reader] (modules : List Declarations) (h : Hierarchy) (sets : MethodSets) :
    Prop where
  /-- The search through all known classes ends without any bound on how deep it goes. -/
  ends : ∃ found, h.Search [] [] h.keys .empty found sets
  /-- It ends with nothing else. -/
  unique : ∀ found sets', h.Search [] [] h.keys .empty found sets' → sets' = sets
  /-- No class has two method sets. -/
  nodup_keys : sets.keys.Nodup
  /-- Exactly the declared classes have one. -/
  mem_keys_iff : ∀ id, id ∈ sets.keys ↔ Declares modules id
  /-- The methods of the last class declared come first. Those after them have distinct names that
  the class does not declare, and a class reached through bases declares each of them. -/
  composed : ∀ id d c, lastDeclared modules id = some (d, c) →
    ∃ inherited, sets.find? id = some (c.methods ++ inherited) ∧
      (inherited.map (·.name)).Nodup ∧
      (∀ m ∈ inherited, ∀ m' ∈ c.methods, m'.name ≠ m.name) ∧
      ∀ m ∈ inherited, ∃ a d' c', TransGen h.Inherits id a ∧
        lastDeclared modules a = some (d', c') ∧ m ∈ c'.methods

/-- The method sets that the search finds in the classes of the modules are as they should be. -/
theorem hasMethodSets_methodSets [Reader] (hh : hierarchy modules = .ok h) :
    HasMethodSets modules h h.methodSets := by
  obtain ⟨found, hrun⟩ := h.exists_search_methodSets
  refine ⟨⟨found, hrun⟩, fun found' sets' hrun' => (hrun'.unique hrun).2,
    h.composed_methodSets.2, ?_, ?_⟩
  · intro id
    rw [← List.contains_iff_mem, ← OrderedMap.contains_eq_contains_keys, OrderedMap.contains,
      Hierarchy.isSome_find?_methodSets, isSome_find?_hierarchy_iff hh]
  · intro id d c hlast
    obtain ⟨body, hread, hbody⟩ := (find?_hierarchy hh id).2 d c hlast
    obtain ⟨inherited, hfind, habove⟩ := Hierarchy.exists_fromAbove hbody
    rw [methods_classBody hread] at hfind habove
    refine ⟨inherited, hfind, habove.nodup_names, habove.name_ne, fun m hm => ?_⟩
    obtain ⟨a, above, hpath, ha, hmem⟩ := habove.supplied m hm
    obtain ⟨d', c', hlast', hmethods⟩ := exists_lastDeclared_of_find? hh ha
    exact ⟨a, d', c', hpath, hlast', hmethods ▸ hmem⟩

/-- Whatever the classes of the modules inherit from, and however often they are declared: either a
base cannot be read, or there are method sets, which a search comes to in finitely many steps. They
belong to exactly the declared classes, and each holds all methods of the body and after them only
methods of classes reached through bases, under new names. -/
theorem methodSets_outcome [Reader] (modules : List Declarations) :
    (∃ fault, BaseFault modules fault ∧ methodSets modules = .error fault) ∨
    (∀ fault, ¬ BaseFault modules fault) ∧
      ∃ h sets, hierarchy modules = .ok h ∧ methodSets modules = .ok sets ∧
        HasMethodSets modules h sets := by
  have hfails : FailsBy (BaseFault modules) (hierarchy modules) := failsBy_hierarchy modules
  unfold methodSets
  cases hh : hierarchy modules with
  | error fault => exact Or.inl ⟨fault, hfails.of_error fault hh, rfl⟩
  | ok h =>
    exact Or.inr ⟨hfails.exists_ok_iff.mp ⟨h, hh⟩, h, h.methodSets, rfl, rfl,
      hasMethodSets_methodSets hh⟩

end Declarations

end Wiring
