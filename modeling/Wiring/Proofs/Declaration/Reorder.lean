import Wiring.Proofs.Declaration.Reading
import Wiring.Proofs.Declaration.Subclass

/-!
# The order of modules and classes

Modules can be listed in any order, and so can the classes in each of them (`Reordered`). If no two
classes have one scope and name, the same classes are known with the same bodies, whatever the order
(`find?_hierarchy_reordered`). Their method sets can still differ, since the search starts with
another class: what it keeps of a class while it is in the middle of an heir of the class lacks
methods of that heir (`methodSets_entwined`).

This takes two classes that inherit from each other. Where there are none among a class and those
above it (`Hierarchy.Untangled`), the method set of the class does not depend on the order. If that
holds of all classes, neither does anything that is extracted: each module yields the same providers
with the same types, and these come in the order of the modules (`methodSets_reordered`).
-/

namespace Wiring

open Relation
open Source (Expr LiteralFault Reader Stmt)

namespace Hierarchy

variable {h h' : Hierarchy} {id : ClassId} {memo : MethodSets}

/-! ## Method sets that depend on the classes alone -/

/-- Among the class and those above it no two inherit from each other. A class may still have itself
among its bases. -/
def Untangled (h : Hierarchy) (id : ClassId) : Prop :=
  ∀ a b, ReflTransGen h.Inherits id a → TransGen h.Inherits a b → TransGen h.Inherits b a → a = b

/-- Where no class inherits from itself, no two inherit from each other. -/
theorem Acyclic.untangled (hacyclic : h.Acyclic) (id : ClassId) : h.Untangled id :=
  fun a _ _ hab hba => absurd (hab.trans hba) (hacyclic a)

/-- The bases of the class are untangled too. -/
theorem Untangled.of_inherits {base : ClassId} (huntangled : h.Untangled id)
    (hbase : h.Inherits id base) : h.Untangled base :=
  fun a b hpath => huntangled a b (hpath.head hbase)

/-- A base that inherits from the class is the class. -/
theorem Untangled.eq_of_inherits {base : ClassId} (huntangled : h.Untangled id)
    (hbase : h.Inherits id base) (hback : ReflTransGen h.Inherits base id) : base = id := by
  rcases reflTransGen_iff_eq_or_transGen.mp hback with heq | hback
  · exact heq.symm
  · exact (huntangled id base .refl (.single hbase) hback).symm

/-- All that the search keeps of untangled classes are their method sets in any other order of the
same classes. -/
theorem Stores.find?_methodSets (hsame : ∀ id, h.find? id = h'.find? id)
    (hsteps : ReflTransGen h.Stores .empty memo) {methods : List MethodSignature}
    (huntangled : h.Untangled id) (hkept : memo.find? id = some methods) :
    h'.methodSets.find? id = some methods := by
  have hinherits : h'.Inherits = h.Inherits := by
    funext a b
    unfold Inherits
    rw [hsame]
  induction hsteps generalizing id methods with
  | refl => cases hkept
  | @tail memo memo' hsteps hstep ih =>
    cases hstep with
    | @store a body hbody hnew hbases =>
      by_cases ha : a = id
      · subst ha
        rw [find?_insert_self] at hkept
        obtain rfl := Option.some.inj hkept
        have hbelow : ∀ base ∈ body.bases, ReflTransGen h'.Inherits base a → base = a := by
          intro base hbase hback
          rw [hinherits] at hback
          exact huntangled.eq_of_inherits ⟨body, hbody, hbase⟩ hback
        -- Of each other base both have kept the same, or nothing if it is not known.
        have hagree : ∀ base ∈ body.bases.filter (· != a),
            h'.methodSets.find? base = memo.find? base := by
          intro base hbase
          obtain ⟨hbase, hne⟩ := List.mem_filter.mp hbase
          have hne : base ≠ a := by simpa using hne
          have hstep : h.Inherits a base := ⟨body, hbody, hbase⟩
          cases hknown : h.find? base with
          | none =>
            rw [find?_eq_none_of_stores hsteps hknown rfl]
            exact find?_eq_none_of_stores h'.stores_methodSets ((hsame base).symm.trans hknown) rfl
          | some above =>
            rcases hbases base hbase (by rw [hknown]; rfl) with hbaseKept | hback
            · obtain ⟨ms, hms⟩ := Option.isSome_iff_exists.mp hbaseKept
              rw [hms]
              exact ih (huntangled.of_inherits hstep) hms
            · exact absurd (huntangled.eq_of_inherits hstep hback) hne
        calc h'.methodSets.find? a
            = some (h'.methodSets.gather body.methods (body.bases.filter (· != a))) :=
              find?_methodSets_eq_gather ((hsame a).symm.trans hbody) hbelow
          _ = some (memo.gather body.methods (body.bases.filter (· != a))) := by
              rw [MethodSets.gather_congr hagree]
          _ = some (memo.gather body.methods body.bases) := by
              rw [MethodSets.gather_filter_ne hnew]
      · rw [find?_insert_of_ne ha] at hkept
        exact ih huntangled hkept

/-- The method set of an untangled class does not depend on the order of the classes. -/
theorem find?_methodSets_congr (hsame : ∀ id, h.find? id = h'.find? id)
    (huntangled : h.Untangled id) : h'.methodSets.find? id = h.methodSets.find? id := by
  cases hkept : h.methodSets.find? id with
  | some methods => exact Stores.find?_methodSets hsame h.stores_methodSets huntangled hkept
  | none =>
    have hunknown : (h'.methodSets.find? id).isSome = false := by
      rw [isSome_find?_methodSets, ← hsame, ← isSome_find?_methodSets, hkept]
      rfl
    exact Option.isSome_eq_false_iff.mp hunknown |> Option.isNone_iff_eq_none.mp

end Hierarchy

/-! ## Reading in modules that differ in the order of their classes -/

/-- The names in both modules denote the same: the modules have one name, the same imports and
classes of the same names, and the same is known of each class. -/
structure Environment.ReadsLike (env env' : Environment) : Prop where
  /-- The modules have one name. -/
  moduleName_eq : env.declarations.moduleName = env'.declarations.moduleName
  /-- The same names are imported. -/
  importedNames_eq : env.declarations.importedNames = env'.declarations.importedNames
  /-- The same modules are imported. -/
  moduleAliases_eq : env.declarations.moduleAliases = env'.declarations.moduleAliases
  /-- The modules declare the same names of classes. -/
  declaresClass_eq : ∀ name, env.declaresClass name = env'.declaresClass name
  /-- The same is known of each class. -/
  find?_eq : ∀ id, env.known.find? id = env'.known.find? id

namespace Environment.ReadsLike

variable {env env' : Environment}

/-- A class is the same type, with the same methods. -/
theorem named_eq (hlike : env.ReadsLike env') (name scope : String) :
    env.named name scope = env'.named name scope := by
  unfold Environment.named
  rw [hlike.find?_eq]

/-- A name denotes the same type. -/
theorem typeOfName_eq (hlike : env.ReadsLike env') (name : String) :
    env.typeOfName name = env'.typeOfName name := by
  unfold typeOfName
  simp only [hlike.moduleName_eq, hlike.importedNames_eq, hlike.declaresClass_eq, hlike.named_eq]

/-- So does a dotted name. -/
theorem typeOfMember_eq (hlike : env.ReadsLike env') (value : Expr) (attr : String) :
    env.typeOfMember value attr = env'.typeOfMember value attr := by
  have hhead : env.expandHead = env'.expandHead := by
    funext head
    unfold expandHead
    rw [hlike.moduleAliases_eq, hlike.importedNames_eq]
  unfold typeOfMember
  simp only [hhead, hlike.named_eq]

/-- So does every annotation. -/
theorem typeOf_eq [Reader] (hlike : env.ReadsLike env') : env.typeOf = env'.typeOf :=
  funext (typeOf_congr hlike.typeOfName_eq hlike.typeOfMember_eq)

/-- A class has the same body. -/
theorem classBody_eq [Reader] (hlike : env.ReadsLike env') (decl : ClassDecl) :
    env.classBody decl = env'.classBody decl := by
  unfold classBody
  rw [hlike.typeOf_eq]

/-- A declaration describes the same provider, if positions show the same file. -/
theorem provider_eq [Reader] (hlike : env.ReadsLike env')
    (hfile : env.declarations.filePath = env'.declarations.filePath) (decl : ProviderDecl) :
    env.provider decl = env'.provider decl := by
  have hparameter : env.typeOf? = env'.typeOf? := by
    funext declared
    cases declared with
    | none => rfl
    | some e => exact congrFun hlike.typeOf_eq e
  have hresults : env.resultsOf = env'.resultsOf := by
    funext declared
    unfold resultsOf
    rw [hlike.typeOf_eq]
  unfold provider
  simp only [hparameter, hresults, hfile, hlike.named_eq]

end Environment.ReadsLike

namespace Declarations

variable {modules modules' : List Declarations} {d d' : Declarations} {h h' : Hierarchy}
  {id : ClassId} {sets sets' : MethodSets}

/-- The modules differ at most in the order of their classes. -/
structure Rearranged (d d' : Declarations) : Prop where
  /-- Everything else is the same. -/
  eq_rest : d' = { d with classes := d'.classes }
  /-- The classes are the same in some order. -/
  classes_perm : d.classes.Perm d'.classes

/-- The modules come in another order, and so do the classes in each of them. -/
def Reordered (modules modules' : List Declarations) : Prop :=
  ∃ middle, List.Forall₂ Rearranged modules middle ∧ middle.Perm modules'

/-- Modules read alike if they differ in the order of their classes. -/
theorem Rearranged.readsLike (hd : Rearranged d d')
    (hknown : ∀ id, sets.find? id = sets'.find? id) :
    Environment.ReadsLike ⟨d, sets⟩ ⟨d', sets'⟩ where
  moduleName_eq := (congrArg Declarations.moduleName hd.eq_rest).symm
  importedNames_eq := (congrArg Declarations.importedNames hd.eq_rest).symm
  moduleAliases_eq := (congrArg Declarations.moduleAliases hd.eq_rest).symm
  declaresClass_eq name := by
    have hmodule : d'.moduleName = d.moduleName := by rw [hd.eq_rest]
    unfold Environment.declaresClass
    rw [hmodule]
    exact hd.classes_perm.any_eq
  find?_eq := hknown

/-- They have the same annotations and bases. -/
theorem Rearranged.mem_annotations_iff (hd : Rearranged d d') {e : Expr} :
    e ∈ d.annotations ↔ e ∈ d'.annotations := by
  have hproviders : d'.providers = d.providers := by rw [hd.eq_rest]
  unfold annotations
  rw [hproviders, List.mem_append, List.mem_append, (hd.classes_perm.flatMap_right _).mem_iff]

/-- What two lists have member by member, each member of the first has with one of the second. -/
theorem exists_mem_of_forall₂ {α β : Type} {R : α → β → Prop} {as : List α} {bs : List β} {a : α}
    (hall : List.Forall₂ R as bs) (ha : a ∈ as) : ∃ b ∈ bs, R a b := by
  induction hall with
  | nil => cases ha
  | @cons a' b as bs hab _ ih =>
    rcases List.mem_cons.mp ha with rfl | ha
    · exact ⟨b, List.mem_cons_self, hab⟩
    · obtain ⟨b', hb', hab'⟩ := ih ha
      exact ⟨b', List.mem_cons_of_mem _ hb', hab'⟩

namespace Reordered

/-- Each module is among the others, with its classes in some order. -/
theorem exists_after (hreordered : Reordered modules modules') (hd : d ∈ modules) :
    ∃ d' ∈ modules', Rearranged d d' := by
  obtain ⟨middle, hall, hperm⟩ := hreordered
  obtain ⟨d', hd', hrearranged⟩ := exists_mem_of_forall₂ hall hd
  exact ⟨d', hperm.mem_iff.mp hd', hrearranged⟩

/-- And there are no further ones. -/
theorem exists_before (hreordered : Reordered modules modules') (hd' : d' ∈ modules') :
    ∃ d ∈ modules, Rearranged d d' := by
  obtain ⟨middle, hall, hperm⟩ := hreordered
  exact exists_mem_of_forall₂ (R := fun d' d => Rearranged d d') hall.flip (hperm.mem_iff.mpr hd')

/-- The bases have the same faults. -/
theorem baseFault_iff [Reader] (hreordered : Reordered modules modules') (fault : LiteralFault) :
    BaseFault modules fault ↔ BaseFault modules' fault := by
  constructor
  · rintro ⟨d, hd, c, hc, hbases⟩
    obtain ⟨d', hd', hrearranged⟩ := hreordered.exists_after hd
    exact ⟨d', hd', c, hrearranged.classes_perm.mem_iff.mp hc, hbases⟩
  · rintro ⟨d', hd', c, hc, hbases⟩
    obtain ⟨d, hd, hrearranged⟩ := hreordered.exists_before hd'
    exact ⟨d, hd, c, hrearranged.classes_perm.mem_iff.mpr hc, hbases⟩

/-- So the classes become known in both orders or in neither. -/
theorem exists_hierarchy_iff [Reader] (hreordered : Reordered modules modules') :
    (∃ h, hierarchy modules = .ok h) ↔ ∃ h', hierarchy modules' = .ok h' := by
  have hfails : FailsBy (BaseFault modules) (hierarchy modules) := failsBy_hierarchy modules
  have hfails' : FailsBy (BaseFault modules') (hierarchy modules') := failsBy_hierarchy modules'
  rw [hfails.exists_ok_iff, hfails'.exists_ok_iff]
  exact forall_congr' fun fault => not_congr (hreordered.baseFault_iff fault)

/-- Providers are extracted in both orders or in neither. -/
theorem exists_providersOf_iff [Reader] (hreordered : Reordered modules modules') :
    (∃ ps, providersOf modules = .ok ps) ↔ ∃ ps', providersOf modules' = .ok ps' := by
  rw [(failsBy_providersOf modules).exists_ok_iff, (failsBy_providersOf modules').exists_ok_iff]
  refine forall_congr' fun fault => not_congr ⟨?_, ?_⟩
  · rintro ⟨d, hd, e, he, hfault⟩
    obtain ⟨d', hd', hrearranged⟩ := hreordered.exists_after hd
    exact ⟨d', hd', e, hrearranged.mem_annotations_iff.mp he, hfault⟩
  · rintro ⟨d', hd', e, he, hfault⟩
    obtain ⟨d, hd, hrearranged⟩ := hreordered.exists_before hd'
    exact ⟨d, hd, e, hrearranged.mem_annotations_iff.mpr he, hfault⟩

end Reordered

/-! ## Distinct classes -/

/-- The scopes and names of all classes that modules declare. -/
def classKeys (modules : List Declarations) : List ClassId :=
  modules.flatMap fun d => d.classes.map fun c => (c.scope, c.name)

/-- If no two classes have one scope and name, each is the last one declared. -/
theorem lastDeclared_eq_of_mem {c : ClassDecl} (hdistinct : (classKeys modules).Nodup)
    (hd : d ∈ modules) (hc : c ∈ d.classes) :
    lastDeclared modules (c.scope, c.name) = some (d, c) := by
  obtain ⟨d₀, c₀, hlast⟩ := exists_lastDeclared hd hc
  obtain ⟨hd₀, hc₀, hkey⟩ := mem_of_lastDeclared hlast
  have hmem : ∀ {d c}, d ∈ modules → c ∈ d.classes → (d, c) ∈ declaredClasses modules :=
    fun hd hc => List.mem_flatMap.mpr ⟨_, hd, List.mem_map_of_mem hc⟩
  have hkeys : (declaredClasses modules).map (fun e => (e.2.scope, e.2.name)) =
      classKeys modules := by
    simp [declaredClasses, classKeys, List.map_flatMap, Function.comp_def]
  rw [← hkeys] at hdistinct
  rw [hlast, List.inj_on_of_nodup_map hdistinct (hmem hd₀ hc₀) (hmem hd hc) hkey]

/-- In another order no class is declared twice either. -/
theorem Reordered.classKeys_perm (hreordered : Reordered modules modules') :
    (classKeys modules).Perm (classKeys modules') := by
  obtain ⟨middle, hall, hperm⟩ := hreordered
  have hmiddle : (classKeys modules).Perm (classKeys middle) := by
    clear hperm
    induction hall with
    | nil => exact .nil
    | cons hd _ ih => exact (hd.classes_perm.map _).append ih
  exact hmiddle.trans (hperm.flatMap_right _)

/-- If no two classes have one scope and name, the same classes are known in both orders, each with
the same body. -/
theorem find?_hierarchy_reordered [Reader] (hreordered : Reordered modules modules')
    (hdistinct : (classKeys modules).Nodup) (hh : hierarchy modules = .ok h)
    (hh' : hierarchy modules' = .ok h') (id : ClassId) : h.find? id = h'.find? id := by
  have hdistinct' : (classKeys modules').Nodup := hreordered.classKeys_perm.nodup_iff.mp hdistinct
  by_cases hdeclares : Declares modules id
  · obtain ⟨d, hd, c, hc, rfl⟩ := hdeclares
    obtain ⟨d', hd', hrearranged⟩ := hreordered.exists_after hd
    have hc' : c ∈ d'.classes := hrearranged.classes_perm.mem_iff.mp hc
    obtain ⟨body, hread, hbody⟩ :=
      (find?_hierarchy hh _).2 d c (lastDeclared_eq_of_mem hdistinct hd hc)
    obtain ⟨body', hread', hbody'⟩ :=
      (find?_hierarchy hh' _).2 d' c (lastDeclared_eq_of_mem hdistinct' hd' hc')
    have hlike : Environment.ReadsLike { declarations := d } { declarations := d' } :=
      hrearranged.readsLike fun _ => rfl
    rw [hlike.classBody_eq, hread'] at hread
    rw [hbody, hbody', Except.ok.inj hread]
  · have hdeclares' : ¬ Declares modules' id := by
      rintro ⟨d', hd', c, hc, hid⟩
      obtain ⟨d, hd, hrearranged⟩ := hreordered.exists_before hd'
      exact hdeclares ⟨d, hd, c, hrearranged.classes_perm.mem_iff.mpr hc, hid⟩
    rw [← isSome_find?_hierarchy_iff hh, Option.not_isSome_iff_eq_none] at hdeclares
    rw [← isSome_find?_hierarchy_iff hh', Option.not_isSome_iff_eq_none] at hdeclares'
    rw [hdeclares, hdeclares']

/-! ## Providers -/

/-- The providers of each module, where the given methods are known of classes. -/
def Blocks [Reader] (modules : List Declarations) (sets : MethodSets)
    (blocks : List (List Provider)) : Prop :=
  List.Forall₂
    (fun d block => d.providers.mapM (Environment.provider ⟨d, sets⟩) = .ok block) modules blocks

/-- What is extracted are the providers of all modules, one module after the other. -/
theorem providersOf_eq_ok_iff [Reader] {ps : List Provider}
    (hsets : methodSets modules = .ok sets) :
    providersOf modules = .ok ps ↔ ∃ blocks, Blocks modules sets blocks ∧ ps = blocks.flatten := by
  unfold providersOf Blocks
  rw [hsets]
  simp only [← mapM_eq_ok_iff]
  show (_ >>= fun blocks : List (List Provider) => Except.ok blocks.flatten) = .ok ps ↔ _
  rw [bind_eq_ok_iff]
  refine exists_congr fun blocks => and_congr Iff.rfl ?_
  rw [Except.ok.injEq, eq_comm]

/-- If the same is known of all classes, each module has the same providers in the other order. -/
theorem Blocks.reordered [Reader] {blocks : List (List Provider)}
    (hreordered : Reordered modules modules')
    (hknown : ∀ id, sets.find? id = sets'.find? id) (hblocks : Blocks modules sets blocks) :
    ∃ blocks', Blocks modules' sets' blocks' ∧ blocks.Perm blocks' := by
  obtain ⟨middle, hall, hperm⟩ := hreordered
  have hmiddle : Blocks middle sets' blocks := by
    clear hperm
    unfold Blocks at hblocks ⊢
    induction hall generalizing blocks with
    | nil =>
      cases hblocks
      exact .nil
    | @cons d d' ds ds' hd _ ih =>
      obtain ⟨block, rest, hblock, hrest, rfl⟩ := List.forall₂_cons_left_iff.mp hblocks
      refine .cons ?_ (ih hrest)
      have hproviders : d'.providers = d.providers := by rw [hd.eq_rest]
      have hfile : d.filePath = d'.filePath := by rw [hd.eq_rest]
      have hprovider : Environment.provider ⟨d, sets⟩ = Environment.provider ⟨d', sets'⟩ :=
        funext ((hd.readsLike hknown).provider_eq hfile)
      rw [hproviders, ← hprovider]
      exact hblock
  obtain ⟨blocks', hblocks', hperm'⟩ := List.perm_comp_forall₂ hperm.symm hmiddle
  exact ⟨blocks', hblocks', hperm'.symm⟩

/-- No two classes of the modules have one scope and name. In another order of the modules and of
the classes in each of them, there are method sets and providers if there are in the first order.
An untangled class has the same methods. And if all classes are untangled, each module has the same
providers with the same types, so that they change places with the modules and nothing else. -/
theorem methodSets_reordered [Reader] (hreordered : Reordered modules modules')
    (hdistinct : (classKeys modules).Nodup) :
    ((∃ sets, methodSets modules = .ok sets) ↔ ∃ sets', methodSets modules' = .ok sets') ∧
    ((∃ ps, providersOf modules = .ok ps) ↔ ∃ ps', providersOf modules' = .ok ps') ∧
    ∀ h sets sets', hierarchy modules = .ok h → methodSets modules = .ok sets →
      methodSets modules' = .ok sets' →
      (∀ id, h.Untangled id → sets'.find? id = sets.find? id) ∧
      ((∀ id, h.Untangled id) → ∀ ps ps', providersOf modules = .ok ps →
        providersOf modules' = .ok ps' →
        ∃ blocks blocks', Blocks modules sets blocks ∧ Blocks modules' sets' blocks' ∧
          blocks.Perm blocks' ∧ ps = blocks.flatten ∧ ps' = blocks'.flatten) := by
  have hok : ∀ ms : List Declarations,
      (∃ sets, methodSets ms = .ok sets) ↔ ∃ h, hierarchy ms = .ok h := by
    intro ms
    constructor
    · rintro ⟨sets, hsets⟩
      obtain ⟨h, hh, -⟩ := exists_hierarchy_of_methodSets hsets
      exact ⟨h, hh⟩
    · rintro ⟨h, hh⟩
      exact ⟨h.methodSets, by rw [methodSets, hh]; rfl⟩
  refine ⟨?_, hreordered.exists_providersOf_iff, ?_⟩
  · rw [hok, hok]
    exact hreordered.exists_hierarchy_iff
  intro h sets sets' hh hsets hsets'
  have hset : h.methodSets = sets := by
    rw [methodSets, hh] at hsets
    exact Except.ok.inj hsets
  obtain ⟨h', hh', hset'⟩ := exists_hierarchy_of_methodSets hsets'
  subst hset hset'
  have hagree : ∀ id, h.Untangled id → h'.methodSets.find? id = h.methodSets.find? id := fun _ =>
    Hierarchy.find?_methodSets_congr (find?_hierarchy_reordered hreordered hdistinct hh hh')
  refine ⟨hagree, fun huntangled ps ps' hps hps' => ?_⟩
  obtain ⟨blocks, hblocks, rfl⟩ := (providersOf_eq_ok_iff hsets).mp hps
  obtain ⟨blocks', hblocks', hperm⟩ :=
    hblocks.reordered hreordered fun id => (hagree id (huntangled id)).symm
  have hflatten : providersOf modules' = .ok blocks'.flatten :=
    (providersOf_eq_ok_iff hsets').mpr ⟨blocks', hblocks', rfl⟩
  exact ⟨blocks, blocks', hblocks, hblocks', hperm, rfl, Except.ok.inj (hps'.symm.trans hflatten)⟩

/-- A provider that takes nothing and returns an instance of a class. -/
def plainProvider (name C : String) : Stmt :=
  .function { name, decorators := [.name "provider" "provider"], parameters := [],
              returns := some (.name C C), place := ⟨9, 0⟩ } [.simple]

/-- The classes `Job` and `Task` and a provider for the second. -/
def taskModule (classes : List Stmt) : Declarations :=
  .collect "m" "m.py" "provider" (classes ++ [plainProvider "new_task" "Task"])

/-- A class that inherits from `Task` and has a provider. -/
def workerModule : Declarations :=
  .collect "w" "w.py" "provider"
    [.importFrom 0 "m" (some [⟨"Task", none⟩]), .classDef "Worker" [.name "Task" "Task"] [.simple],
     plainProvider "new_worker" "Worker"]

/-- The classes of both modules with their bases. -/
def workerHierarchy : Hierarchy where
  entries := [
    (("m", "Job"), ⟨[⟨"run", 1, 0⟩, ⟨"run", 0, 0⟩, ⟨"stop", 0, 0⟩], []⟩),
    (("m", "Task"), ⟨[], [("m", "Job")]⟩),
    (("w", "Worker"), ⟨[], [("m", "Task")]⟩)]

/-- Each class stands above its base. -/
theorem acyclic_workerHierarchy : workerHierarchy.Acyclic := by
  apply Hierarchy.acyclic_of_rank fun id =>
    if id = ("w", "Worker") then 2 else if id = ("m", "Task") then 1 else 0
  decide

/-- The modules in the other order, with the classes of the first one in the other order. -/
theorem reordered_worker : Reordered [taskModule jobModule, workerModule]
    [workerModule, taskModule jobModule.reverse] := by
  have hfirst : Rearranged (taskModule jobModule) (taskModule jobModule.reverse) :=
    ⟨rfl, .swap _ _ _⟩
  have hsecond : Rearranged workerModule workerModule := ⟨rfl, .refl _⟩
  exact ⟨[taskModule jobModule.reverse, workerModule],
    .cons hfirst (.cons hsecond .nil), .swap _ _ _⟩

/-- The three classes have the same methods, and the two providers change places. -/
theorem methodSets_reordered_worker : ∃ sets sets' ps ps',
    methodSets [taskModule jobModule, workerModule] = .ok sets ∧
    methodSets [workerModule, taskModule jobModule.reverse] = .ok sets' ∧
    (∀ id, sets'.find? id = sets.find? id) ∧
    providersOf [taskModule jobModule, workerModule] = .ok ps ∧
    providersOf [workerModule, taskModule jobModule.reverse] = .ok ps' ∧ ps.Perm ps' := by
  have hdistinct : (classKeys [taskModule jobModule, workerModule]).Nodup := by decide
  obtain ⟨-, -, hsame⟩ := methodSets_reordered reordered_worker hdistinct
  obtain ⟨hsets, hps⟩ := hsame workerHierarchy _ _ rfl rfl rfl
  have huntangled : ∀ id, workerHierarchy.Untangled id :=
    fun id => acyclic_workerHierarchy.untangled id
  obtain ⟨blocks, blocks', -, -, hperm, hblocks, hblocks'⟩ := hps huntangled _ _ rfl rfl
  refine ⟨_, _, _, _, rfl, rfl, fun id => hsets id (huntangled id), rfl, rfl, ?_⟩
  rw [hblocks, hblocks']
  exact hperm.flatten

/-- A class `Front` that inherits from `Back`, and a provider of it. -/
def frontModule : Declarations :=
  .collect "front" "front.py" "provider"
    [.importFrom 0 "back" (some [⟨"Back", none⟩]),
     .classDef "Front" [.name "Back" "Back"] [plainMethod "stop" 0],
     plainProvider "new_front" "Front"]

/-- A class `Back` that inherits from `Front`. -/
def backModule : Declarations :=
  .collect "back" "back.py" "provider"
    [.importFrom 0 "front" (some [⟨"Front", none⟩]),
     .classDef "Back" [.name "Front" "Front"] [plainMethod "run" 0]]

/-- In one order `Front` has the method `run` of `Back` and can be run by it. In the other order it
has its own method only, though it is the same class with the same bases. -/
theorem methodSets_entwined :
    Reordered [frontModule, backModule] [backModule, frontModule] ∧
    (classKeys [frontModule, backModule]).Nodup ∧
    ∃ sets sets', methodSets [frontModule, backModule] = .ok sets ∧
      methodSets [backModule, frontModule] = .ok sets' ∧
      sets.find? ("front", "Front") = some [⟨"stop", 0, 0⟩, ⟨"run", 0, 0⟩] ∧
      sets'.find? ("front", "Front") = some [⟨"stop", 0, 0⟩] ∧
      ∀ env env' : Environment, env.known = sets → env'.known = sets' →
        (env.named "Front" "front").isRunnable "run" = true ∧
        (env'.named "Front" "front").isRunnable "run" = false := by
  have hsame : ∀ d ∈ [frontModule, backModule], Rearranged d d := fun d _ => ⟨rfl, .refl _⟩
  refine ⟨⟨_, List.forall₂_same.mpr hsame, .swap _ _ _⟩, by decide, ?_⟩
  refine ⟨_, _, rfl, rfl, rfl, rfl, fun env env' henv henv' => ?_⟩
  rw [Environment.named, Environment.named, henv, henv']
  exact ⟨rfl, rfl⟩

end Declarations

end Wiring
