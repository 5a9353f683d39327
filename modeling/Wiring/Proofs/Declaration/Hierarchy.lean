import Wiring.Proofs.Declaration.Walk

/-!
# The classes of several modules

Of the classes that modules declare under one scope and name, the last one counts
(`find?_hierarchy`). `methodSets_eq_walk` puts this together with what the search for method sets
finds: each class has its own methods and those that a plain walk through its bases meets under new
names.
-/

namespace Wiring.Declarations

open Source (LiteralFault Expr Reader)

variable {modules : List Declarations} {h : Hierarchy} {id : ClassId}

/-- The classes that modules declare, each with the module that declares it. -/
def declaredClasses (modules : List Declarations) : List (Declarations × ClassDecl) :=
  modules.flatMap fun d => d.classes.map fun decl => (d, decl)

/-- The last class that modules declare under a scope and name. -/
def lastDeclared (modules : List Declarations) (id : ClassId) : Option (Declarations × ClassDecl) :=
  (declaredClasses modules).reverse.find? fun e => (e.2.scope, e.2.name) == id

/-- The last class is declared by its module under the scope and name. -/
theorem mem_of_lastDeclared {d : Declarations} {c : ClassDecl}
    (hlast : lastDeclared modules id = some (d, c)) :
    d ∈ modules ∧ c ∈ d.classes ∧ (c.scope, c.name) = id := by
  have hid := List.find?_some hlast
  have hmem := List.mem_reverse.mp (List.mem_of_find?_eq_some hlast)
  obtain ⟨d', hd', hmem⟩ := List.mem_flatMap.mp hmem
  obtain ⟨c', hc', heq⟩ := List.mem_map.mp hmem
  cases heq
  exact ⟨hd', hc', eq_of_beq hid⟩

/-- Under the scope and name of a class that some module declares, some class is the last one. -/
theorem exists_lastDeclared {d : Declarations} {c : ClassDecl} (hd : d ∈ modules)
    (hc : c ∈ d.classes) :
    ∃ d' decl, lastDeclared modules (c.scope, c.name) = some (d', decl) := by
  have hmem : (d, c) ∈ (declaredClasses modules).reverse :=
    List.mem_reverse.mpr (List.mem_flatMap.mpr ⟨d, hd, List.mem_map_of_mem hc⟩)
  have hsome : (lastDeclared modules (c.scope, c.name)).isSome = true :=
    List.find?_isSome.mpr ⟨(d, c), hmem, beq_self_eq_true _⟩
  obtain ⟨⟨d', decl⟩, hlast⟩ := Option.isSome_iff_exists.mp hsome
  exact ⟨d', decl, hlast⟩

/-- Makes a class known, with what its module says about its bases. -/
def addDeclared [Reader] (h : Hierarchy) (e : Declarations × ClassDecl) :
    Except LiteralFault Hierarchy := do
  return h.insert (e.2.scope, e.2.name) (← Environment.classBody { declarations := e.1 } e.2)

/-- Classes are made known one by one, module after module. -/
theorem hierarchy_eq_foldlM [Reader] (modules : List Declarations) :
    hierarchy modules = (declaredClasses modules).foldlM addDeclared .empty := by
  unfold hierarchy declaredClasses
  generalize (OrderedMap.empty : Hierarchy) = start
  induction modules generalizing start with
  | nil => rfl
  | cons d modules ih =>
    rw [List.foldlM_cons, List.flatMap_cons, List.foldlM_append, List.foldlM_map]
    refine congrArg _ ?_
    funext h
    exact ih h

/-- A class becomes known only if its bases can be read. -/
theorem addDeclared_eq_ok [Reader] {h' : Hierarchy} {e : Declarations × ClassDecl}
    (hadd : addDeclared h e = .ok h') :
    ∃ body, Environment.classBody { declarations := e.1 } e.2 = .ok body ∧
      h' = h.insert (e.2.scope, e.2.name) body := by
  unfold addDeclared at hadd
  cases hbody : Environment.classBody { declarations := e.1 } e.2 with
  | error fault =>
    rw [hbody] at hadd
    cases hadd
  | ok body =>
    rw [hbody] at hadd
    exact ⟨body, rfl, (Except.ok.inj hadd).symm⟩

/-- A known class has the body of the last one declared under its scope and name. -/
theorem find?_hierarchy [Reader] (hh : hierarchy modules = .ok h) (id : ClassId) :
    (lastDeclared modules id = none → h.find? id = none) ∧
      ∀ d decl, lastDeclared modules id = some (d, decl) →
        ∃ body, Environment.classBody { declarations := d } decl = .ok body ∧
          h.find? id = some body := by
  rw [hierarchy_eq_foldlM] at hh
  unfold lastDeclared
  generalize declaredClasses modules = es at hh ⊢
  induction es using List.reverseRecOn generalizing h with
  | nil =>
    cases hh
    exact ⟨fun _ => rfl, fun _ _ hlast => by cases hlast⟩
  | append_singleton es e ih =>
    rw [List.foldlM_append] at hh
    cases hes : es.foldlM addDeclared .empty with
    | error fault =>
      rw [hes] at hh
      cases hh
    | ok h₁ =>
      rw [hes] at hh
      have hadd : addDeclared h₁ e >>= pure = .ok h := hh
      rw [bind_pure] at hadd
      obtain ⟨body, hbody, rfl⟩ := addDeclared_eq_ok hadd
      rw [List.reverse_append, List.reverse_singleton, List.singleton_append, List.find?_cons,
        OrderedMap.find?_insert]
      cases hid : (e.2.scope, e.2.name) == id with
      | true =>
        refine ⟨by simp, ?_⟩
        rintro d decl hlast
        cases hlast
        exact ⟨body, hbody, rfl⟩
      | false => exact ih hes

/-- The body of a class holds the methods that it declares. -/
theorem methods_classBody [Reader] {env : Environment} {decl : ClassDecl} {body : ClassBody}
    (hbody : env.classBody decl = .ok body) : body.methods = decl.methods := by
  unfold Environment.classBody at hbody
  cases htypes : decl.bases.mapM env.typeOf with
  | error fault =>
    rw [htypes] at hbody
    cases hbody
  | ok types =>
    rw [htypes] at hbody
    cases hbody
    rfl

/-- If no class inherits from itself, each class that is declared has a method set: its own methods
in order, and then the first of each further name that a walk through its bases meets, where of
classes declared twice the last one counts. No other class has one. -/
theorem methodSets_eq_walk [Reader] (hh : hierarchy modules = .ok h) (hacyclic : h.Acyclic) :
    ∃ sets, methodSets modules = .ok sets ∧ ∀ id,
      (lastDeclared modules id = none → h.find? id = none ∧ sets.find? id = none) ∧
      ∀ d decl, lastDeclared modules id = some (d, decl) →
        ∃ body above, Environment.classBody { declarations := d } decl = .ok body ∧
          h.find? id = some body ∧ h.Walk body.bases above ∧
          (∀ other, h.Walk body.bases other → other = above) ∧
          sets.find? id = some (decl.methods ++ newNames decl.methods above) := by
  obtain ⟨hsound, hknown⟩ := Hierarchy.methodSets_spec hacyclic
  refine ⟨h.methodSets, by rw [methodSets, hh]; rfl, ?_⟩
  intro id
  obtain ⟨hnone, hsome⟩ := find?_hierarchy hh id
  constructor
  · intro hlast
    refine ⟨hnone hlast, ?_⟩
    cases hset : h.methodSets.find? id with
    | none => rfl
    | some methods =>
      obtain ⟨body, -, hbody, -⟩ := hsound id methods hset
      rw [hnone hlast] at hbody
      cases hbody
  · intro d decl hlast
    obtain ⟨body, hread, hbody⟩ := hsome d decl hlast
    obtain ⟨methods, hset⟩ := Option.isSome_iff_exists.mp (hknown id (by rw [hbody]; rfl))
    obtain ⟨body', above, hbody', hwalk, rfl⟩ := hsound id methods hset
    obtain rfl : body = body' := Option.some.inj (hbody.symm.trans hbody')
    refine ⟨body, above, hread, hbody, hwalk, fun other hother => hother.unique hwalk, ?_⟩
    rw [hset, methods_classBody hread]

/-- A module in which `D` inherits from `B` and `C`, and both of these from `A`. The first class of
the name `D` is replaced by a second one. -/
def diamond : Declarations where
  moduleName := "m"
  classes := [
    { name := "D", scope := "m", methods := [], bases := [.name "D" "D"] },
    { name := "A", scope := "m", methods := [⟨"run", 0, 0⟩, ⟨"stop", 1, 0⟩], bases := [] },
    { name := "B", scope := "m", methods := [⟨"stop", 0, 0⟩], bases := [.name "A" "A"] },
    { name := "C", scope := "m", methods := [⟨"run", 2, 1⟩],
      bases := [.name "A" "A", .name "E" "E"] },
    { name := "D", scope := "m", methods := [⟨"start", 0, 0⟩, ⟨"start", 1, 0⟩],
      bases := [.name "B" "B", .name "C" "C"] }]

/-- The classes of the module with their bases. -/
def diamondHierarchy : Hierarchy where
  entries := [
    (("m", "D"), ⟨[⟨"start", 0, 0⟩, ⟨"start", 1, 0⟩], [("m", "B"), ("m", "C")]⟩),
    (("m", "A"), ⟨[⟨"run", 0, 0⟩, ⟨"stop", 1, 0⟩], []⟩),
    (("m", "B"), ⟨[⟨"stop", 0, 0⟩], [("m", "A")]⟩),
    (("m", "C"), ⟨[⟨"run", 2, 1⟩], [("m", "A"), ("m", "E")]⟩)]

theorem hierarchy_diamond : hierarchy [diamond] = .ok diamondHierarchy := rfl

/-- Each class of the module stands above its bases. -/
theorem acyclic_diamondHierarchy : diamondHierarchy.Acyclic := by
  apply Hierarchy.acyclic_of_rank fun id =>
    if id = ("m", "D") then 3 else if id = ("m", "A") then 1 else if id = ("m", "E") then 0 else 2
  decide

/-- The class at the bottom has its own two methods, one of its first base and one that both bases
have from the class at the top. -/
theorem methodSets_eq_walk_diamond :
    ∃ sets, methodSets [diamond] = .ok sets ∧ sets.find? ("m", "D") =
      some [⟨"start", 0, 0⟩, ⟨"start", 1, 0⟩, ⟨"stop", 0, 0⟩, ⟨"run", 0, 0⟩] := by
  obtain ⟨sets, hsets, hfind⟩ := methodSets_eq_walk hierarchy_diamond acyclic_diamondHierarchy
  obtain ⟨body, above, -, hbody, -, hunique, hset⟩ := (hfind ("m", "D")).2 _ _ rfl
  refine ⟨sets, hsets, ?_⟩
  cases hbody
  have hA : diamondHierarchy.find? ("m", "A") = some ⟨[⟨"run", 0, 0⟩, ⟨"stop", 1, 0⟩], []⟩ := rfl
  have hB : diamondHierarchy.find? ("m", "B") = some ⟨[⟨"stop", 0, 0⟩], [("m", "A")]⟩ := rfl
  have hC : diamondHierarchy.find? ("m", "C") =
      some ⟨[⟨"run", 2, 1⟩], [("m", "A"), ("m", "E")]⟩ := rfl
  have hE : diamondHierarchy.find? ("m", "E") = none := rfl
  -- The walk enters the class at the top twice.
  have hwalk : diamondHierarchy.Walk [("m", "B"), ("m", "C")] _ :=
    .known hB (.known hA .nil .nil) (.known hC (.known hA .nil (.unknown hE .nil)) .nil)
  rw [hset, ← hunique _ hwalk]
  decide

end Wiring.Declarations
