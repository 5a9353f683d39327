import Wiring.Proofs.Declaration.Collection
import Wiring.Proofs.Declaration.Hierarchy
import Wiring.Proofs.Project.Directory

/-!
# Keys of classes in different files

A class is known by its scope and its name. In files whose directories and stems are names, the
scope is known by the place of the class: the names that lead to its module, and then the classes
around it (`dotted_cons_inj`). Different files lead to different places, except a module and the
initial module of a package beside it (`Path.eq_or_beside`). So two classes of different files share
a key only if one of them stands within classes that continue the name of its module as directories
would, and no class of one file takes the place of another one's otherwise (`apart_of_plain`).
-/

namespace Wiring

open Source (Reader Stmt)

/-! ## Places -/

namespace Path

variable {parts others outer outer' : List String}

/-- The last part of a path without the ending of sources. -/
def moduleStem (parts : List String) : String := dropSourceEnding (parts.getLastD "")

/-- The names that lead to the module in a file. -/
def modulePath (parts : List String) : List String := ownParts parts.dropLast (moduleStem parts)

/-- The directories and the stem of a file are names. -/
def Plain (parts : List String) : Prop :=
  (∀ n ∈ parts.dropLast, IsName n) ∧ IsName (moduleStem parts)

instance (parts : List String) : Decidable (Plain parts) := inferInstanceAs (Decidable (_ ∧ _))

/-- The second file is the initial one of a package that is named as the module in the first. -/
def Beside (parts others : List String) : Prop :=
  parts.dropLast ++ [moduleStem parts] = others.dropLast ∧ moduleStem parts ≠ "__init__" ∧
    moduleStem others = "__init__"

instance (parts others : List String) : Decidable (Beside parts others) :=
  inferInstanceAs (Decidable (_ ∧ _))

/-- A module is named after the names that lead to it. -/
theorem moduleNameOf_eq (parts : List String) :
    moduleNameOf parts = ".".intercalate (modulePath parts) := by
  unfold moduleNameOf modulePath ownParts moduleStem
  rw [List.getLastD_eq_getLast?]
  cases hlast : parts.getLast? with
  | none =>
    rw [List.getLast?_eq_none_iff.mp hlast]
    rfl
  | some last => simp

/-- The path of a source is made of its directories and its stem. -/
theorem eq_fileIn (h : sourceEnding.toList.isSuffixOf (parts.getLastD "").toList = true) :
    parts = fileIn parts.dropLast (moduleStem parts) := by
  cases hlast : parts.getLast? with
  | none =>
    rw [List.getLastD_eq_getLast?, hlast] at h
    cases h
  | some last =>
    have hsplit : parts.dropLast ++ [last] = parts := List.dropLast_append_getLast? last hlast
    unfold fileIn moduleStem
    rw [List.getLastD_eq_getLast?, hlast] at h ⊢
    obtain ⟨front, hfront⟩ := List.isSuffixOf_iff_suffix.mp h
    have hstem : String.ofList front ++ sourceEnding = last := by
      apply String.toList_inj.mp
      rw [String.toList_append, String.toList_ofList]
      exact hfront
    rw [Option.getD_some, ← hstem, dropSourceEnding_append, hstem]
    exact hsplit.symm

/-- The names that lead to the module in a plain file are names. -/
theorem Plain.isName (h : Plain parts) : ∀ n ∈ modulePath parts, IsName n := by
  unfold modulePath ownParts
  split
  · rw [List.append_nil]
    exact h.1
  · intro n hn
    rcases List.mem_append.mp hn with hn | hn
    · exact h.1 n hn
    · rw [List.mem_singleton.mp hn]
      exact h.2

/-- The same names lead to the modules of different files only if these are a module and a package
beside it. -/
theorem eq_or_beside (hsource : sourceEnding.toList.isSuffixOf (parts.getLastD "").toList = true)
    (hsource' : sourceEnding.toList.isSuffixOf (others.getLastD "").toList = true)
    (h : modulePath parts = modulePath others) :
    parts = others ∨ Beside parts others ∨ Beside others parts := by
  have hparts := eq_fileIn hsource
  have hothers := eq_fileIn hsource'
  unfold modulePath ownParts at h
  split at h
  · rename_i hinit
    split at h
    · rename_i hinit'
      left
      rw [List.append_nil, List.append_nil] at h
      rw [hparts, hothers, h, hinit, hinit']
    · rename_i hplain
      rw [List.append_nil] at h
      exact Or.inr (Or.inr ⟨h.symm, hplain, hinit⟩)
  · rename_i hplain
    split at h
    · rename_i hinit
      rw [List.append_nil] at h
      exact Or.inr (Or.inl ⟨h, hplain, hinit⟩)
    · left
      obtain ⟨hdirs, hstem⟩ := List.append_inj' h rfl
      rw [hparts, hothers, hdirs, List.singleton_inj.mp hstem]

/-- The scope of a class within others is its place with dots. -/
theorem dotted_cons_intercalate (hparts : ∀ n ∈ parts, IsName n) (houter : ∀ n ∈ outer, IsName n) :
    dotted (".".intercalate parts :: outer) = ".".intercalate (parts ++ outer) := by
  by_cases hnone : parts = []
  · -- The module at the top has no name, which is left out.
    have hrest : dotted ("" :: outer) = dotted outer := by
      unfold dotted
      rw [List.filter_cons_of_neg (by decide)]
    rw [hnone, List.nil_append, ← dotted_eq_intercalate fun n hn => (houter n hn).1]
    exact hrest
  · have hname : ".".intercalate parts ≠ "" :=
      fun h => hnone ((intercalate_names_eq_empty_iff hparts).mp h)
    rw [dotted_eq_intercalate (List.forall_mem_cons.mpr ⟨hname, fun n hn => (houter n hn).1⟩)]
    cases outer with
    | nil => rw [List.append_nil, String.intercalate_singleton]
    | cons n outer =>
      rw [String.intercalate_append_of_ne_nil hnone (List.cons_ne_nil _ _),
        String.intercalate_cons_cons]

/-- The scope of a class is known by its place. -/
theorem dotted_cons_inj (hparts : ∀ n ∈ parts, IsName n) (hothers : ∀ n ∈ others, IsName n)
    (houter : ∀ n ∈ outer, IsName n) (houter' : ∀ n ∈ outer', IsName n) :
    dotted (".".intercalate parts :: outer) = dotted (".".intercalate others :: outer') ↔
      parts ++ outer = others ++ outer' := by
  rw [dotted_cons_intercalate hparts houter, dotted_cons_intercalate hothers houter']
  exact intercalate_names_inj (List.forall_mem_append.mpr ⟨hparts, houter⟩)
    (List.forall_mem_append.mpr ⟨hothers, houter'⟩)

end Path

namespace Build

variable {tree : Tree} {directory : Path} {place exclusions : List String} {marker : String}
  {entries : List Entry} {e e' : Entry} {d d' : Declarations} {c c' : ClassDecl}
  {outer outer' : List String}

/-! ## Classes of files -/

/-- The sources that are asked for are those that are not excluded. -/
theorem mem_asked_iff : e ∈ asked exclusions entries ↔
    e ∈ entries ∧ e.isSource = true ∧ Pattern.anyAccepts? exclusions e.parts = some false := by
  unfold asked sources
  rw [List.mem_filter, List.mem_mergeSort, List.mem_filter, beq_iff_eq, and_assoc]

section Reading

variable [Reader]

/-- What a source declares is collected from its statements, in the module that is named after its
place. -/
theorem exists_stmts_of_declarationsOf (hd : declarationsOf directory marker e = .ok d) :
    ∃ text stmts, e.read (directory.join e.parts) = .ok text ∧
      Stmt.ofText? text.toList = some stmts ∧
      d = .collect (Path.moduleNameOf e.parts) (directory.join e.parts).text marker stmts := by
  cases hread : e.read (directory.join e.parts) with
  | error fault =>
    unfold declarationsOf at hd
    dsimp only at hd
    rw [hread] at hd
    cases hd
  | ok text =>
    rw [declarationsOf_eq_read hread] at hd
    cases hstmts : Stmt.read text.toList with
    | error fault =>
      rw [hstmts] at hd
      cases hd
    | ok stmts =>
      rw [hstmts] at hd
      exact ⟨text, stmts, rfl, Stmt.ofText?_eq_some_iff.mpr hstmts, (Except.ok.inj hd).symm⟩

/-- A source declares a class within the given classes. -/
def Declares (directory : Path) (e : Entry) (outer : List String) (c : ClassDecl) : Prop :=
  ∃ text stmts bases body, e.read (directory.join e.parts) = .ok text ∧
    Stmt.ofText? text.toList = some stmts ∧ Within (.classDef c.name bases body) outer stmts ∧
    c = .ofClass (Path.moduleNameOf e.parts) outer c.name bases body

/-- Each class of a source stands within some classes in it. -/
theorem exists_declares (hd : declarationsOf directory marker e = .ok d) (hc : c ∈ d.classes) :
    ∃ outer, Declares directory e outer c := by
  obtain ⟨text, stmts, hread, hstmts, rfl⟩ := exists_stmts_of_declarationsOf hd
  rw [Declarations.classes_collect] at hc
  obtain ⟨outer, name, bases, body, hwithin, rfl⟩ := ClassDecl.mem_ofStmts_iff.mp hc
  exact ⟨outer, text, stmts, bases, body, hread, hstmts, hwithin, rfl⟩

/-- The classes around a class have names. -/
theorem Declares.isName (h : Declares directory e outer c) : ∀ n ∈ outer, Path.IsName n := by
  obtain ⟨text, stmts, bases, body, -, hstmts, hwithin, -⟩ := h
  intro n hn
  exact Path.isName_of_isIdentifier
    (Stmt.isIdentifier_of_mem hstmts n (hwithin.mem_declaredNamesOf n hn))

/-- The scope of a class is made of the name of its module and the classes around it. -/
theorem Declares.scope_eq (h : Declares directory e outer c) :
    c.scope = dotted (".".intercalate (Path.modulePath e.parts) :: outer) := by
  obtain ⟨text, stmts, bases, body, -, -, -, hc⟩ := h
  rw [hc, ← Path.moduleNameOf_eq]
  rfl

/-- Classes of plain files have the same scope exactly if they have the same place. -/
theorem Declares.scope_eq_iff (h : Declares directory e outer c)
    (h' : Declares directory e' outer' c') (hplain : Path.Plain e.parts)
    (hplain' : Path.Plain e'.parts) :
    c.scope = c'.scope ↔
      Path.modulePath e.parts ++ outer = Path.modulePath e'.parts ++ outer' := by
  rw [h.scope_eq, h'.scope_eq]
  exact Path.dotted_cons_inj hplain.isName hplain'.isName h.isName h'.isName

/-! ## Files apart -/

/-- A class of one file has the place of a class of another one, since the classes around the two
continue the names of their modules in different ways. -/
def Overlaps (directory : Path) (e e' : Entry) (c c' : ClassDecl) : Prop :=
  ∃ outer outer', Declares directory e outer c ∧ Declares directory e' outer' c' ∧
    c.name = c'.name ∧ outer ≠ outer' ∧
    Path.modulePath e.parts ++ outer = Path.modulePath e'.parts ++ outer'

/-- The classes of two of some sources are told apart. -/
structure Apart (directory : Path) (marker : String) (entries : List Entry) (e e' : Entry)
    (d d' : Declarations) : Prop where
  /-- The modules have different names. -/
  moduleName : d.moduleName ≠ d'.moduleName
  /-- Classes with the same key overlap. -/
  key : ∀ c ∈ d.classes, ∀ c' ∈ d'.classes, (c.scope, c.name) = (c'.scope, c'.name) →
    Overlaps directory e e' c c'
  /-- Under the key of a class that overlaps with no class of the other file, the body of a class is
  known that the other file does not declare. -/
  known : ∀ c ∈ d.classes, (∀ c' ∈ d'.classes, ¬ Overlaps directory e e' c c') →
    ∀ h, Declarations.hierarchy (accepted directory marker entries) = .ok h →
      ∃ d₀ ∈ accepted directory marker entries, ∃ c₀ ∈ d₀.classes, ∃ body,
        c₀ ∉ d'.classes ∧ (c₀.scope, c₀.name) = (c.scope, c.name) ∧
        Environment.classBody { declarations := d₀ } c₀ = .ok body ∧
        h.find? (c.scope, c.name) = some body

/-- Something is known under the key of each class that is declared: the body of a class with this
key. -/
theorem exists_known {modules : List Declarations} {h : Hierarchy}
    (hh : Declarations.hierarchy modules = .ok h) (hd : d ∈ modules) (hc : c ∈ d.classes) :
    ∃ d₀ ∈ modules, ∃ c₀ ∈ d₀.classes, ∃ body, (c₀.scope, c₀.name) = (c.scope, c.name) ∧
      Environment.classBody { declarations := d₀ } c₀ = .ok body ∧
      h.find? (c.scope, c.name) = some body := by
  obtain ⟨d₀, c₀, hlast⟩ := Declarations.exists_lastDeclared hd hc
  obtain ⟨body, hbody, hfind⟩ := (Declarations.find?_hierarchy hh _).2 d₀ c₀ hlast
  obtain ⟨hd₀, hc₀, hsame⟩ := Declarations.mem_of_lastDeclared hlast
  exact ⟨d₀, hd₀, c₀, hc₀, body, hsame, hbody, hfind⟩

/-- The classes of two plain files are told apart, unless one file is beside the other. -/
theorem apart_of_plain (he : e ∈ asked exclusions (tree.below place))
    (he' : e' ∈ asked exclusions (tree.below place)) (hne : e.parts ≠ e'.parts)
    (hplain : Path.Plain e.parts) (hplain' : Path.Plain e'.parts)
    (hbeside : ¬ Path.Beside e.parts e'.parts) (hbeside' : ¬ Path.Beside e'.parts e.parts)
    (hd : declarationsOf directory marker e = .ok d)
    (hd' : declarationsOf directory marker e' = .ok d') :
    Apart directory marker (asked exclusions (tree.below place)) e e' d d' := by
  have hpath : Path.modulePath e.parts ≠ Path.modulePath e'.parts := by
    intro hsame
    rcases Path.eq_or_beside (mem_asked_iff.mp he).2.1 (mem_asked_iff.mp he').2.1 hsame with
      heq | hleft | hright
    · exact hne heq
    · exact hbeside hleft
    · exact hbeside' hright
  have hkey : ∀ c ∈ d.classes, ∀ c' ∈ d'.classes, (c.scope, c.name) = (c'.scope, c'.name) →
      Overlaps directory e e' c c' := by
    intro c hc c' hc' hkey
    obtain ⟨hscope, hname⟩ := Prod.mk.inj hkey
    obtain ⟨outer, houter⟩ := exists_declares hd hc
    obtain ⟨outer', houter'⟩ := exists_declares hd' hc'
    have hplace := (houter.scope_eq_iff houter' hplain hplain').mp hscope
    refine ⟨outer, outer', houter, houter', hname, ?_, hplace⟩
    rintro rfl
    exact hpath (List.append_cancel_right hplace)
  refine { moduleName := ?_, key := hkey, known := ?_ }
  · obtain ⟨-, -, -, -, rfl⟩ := exists_stmts_of_declarationsOf hd
    obtain ⟨-, -, -, -, rfl⟩ := exists_stmts_of_declarationsOf hd'
    rw [Declarations.moduleName_collect, Declarations.moduleName_collect, Path.moduleNameOf_eq,
      Path.moduleNameOf_eq, ne_eq, Path.intercalate_names_inj hplain.isName hplain'.isName]
    exact hpath
  · intro c hc hfree h hh
    have haccepted : d ∈ accepted directory marker (asked exclusions (tree.below place)) :=
      List.mem_filterMap.mpr ⟨e, he, by rw [hd]; rfl⟩
    obtain ⟨d₀, hd₀, c₀, hc₀, body, hsame, hbody, hfind⟩ := exists_known hh haccepted hc
    refine ⟨d₀, hd₀, c₀, hc₀, body, ?_, hsame, hbody, hfind⟩
    intro hc₀'
    exact hfree c₀ hc₀' (hkey c hc c₀ hc₀' hsame.symm)

end Reading

/-- A text with a class within a class. -/
def nestedClasses : String := "class b:\n    class C: ...\n\nclass D: ...\n"

/-- A module with this text. -/
def single : Entry := ⟨["a.py"], some (nestedClasses.toList.map (·.toNat))⟩

/-- The initial module of a package beside it, with the same text. -/
def package : Entry := ⟨["a", "__init__.py"], some (nestedClasses.toList.map (·.toNat))⟩

/-- A module of the package. -/
def submodule : Entry where
  parts := ["a", "b.py"]
  octets? := some ("class C: ...\n\nclass D: ...\n".toList.map (·.toNat))

/-- A module with a dot in its stem. -/
def dottedStem : Entry := ⟨["a.b.py"], some ("class C: ...\n".toList.map (·.toNat))⟩

/-- A module without a stem. -/
def noStem : Entry := ⟨[".py"], some ("class E: ...\n".toList.map (·.toNat))⟩

/-- The initial module of the whole directory. -/
def initial : Entry := ⟨["__init__.py"], some ("class E: ...\n".toList.map (·.toNat))⟩

/-- All of them. -/
def rivalEntries : List Entry := [single, package, submodule, dottedStem, noStem, initial]

/-- A directory with all of them. -/
def rivals : Tree where
  entries := [⟨["src"], none⟩, ⟨["src", "a"], none⟩] ++
    rivalEntries.map fun e => { e with parts := "src" :: e.parts }

/-- If nothing is excluded they are asked for. -/
theorem mem_asked_rivals : ∀ e ∈ rivalEntries, e ∈ asked [] (rivals.below ["src"]) := by
  have hall : ∀ e ∈ rivalEntries, e ∈ rivals.below ["src"] ∧ e.isSource = true ∧
      Pattern.anyAccepts? [] e.parts = some false := by
    decide +kernel
  exact fun e he => mem_asked_iff.mpr (hall e he)

/-- They can be read. -/
theorem exists_declarationsOf_rivals : ∀ e ∈ rivalEntries,
    ∃ d, declarationsOf { parts := ["src"] } "provider" e = .ok d := by
  have hall : ∀ e ∈ rivalEntries,
      (declarationsOf { parts := ["src"] } "provider" e).toOption.isSome = true := by
    decide +kernel
  intro e he
  have hread := hall e he
  cases hd : declarationsOf { parts := ["src"] } "provider" e with
  | error fault =>
    rw [hd] at hread
    cases hread
  | ok d => exact ⟨d, rfl⟩

/-- The keys of the classes that a source declares. -/
def keysOf (directory : Path) (marker : String) (e : Entry) : List (String × String) :=
  (accepted directory marker [e]).flatMap fun d => d.classes.map fun c => (c.scope, c.name)

/-- If it can be read, they are those of its declarations. -/
theorem keysOf_eq (hd : declarationsOf directory marker e = .ok d) :
    keysOf directory marker e = d.classes.map fun c => (c.scope, c.name) := by
  simp [keysOf, accepted, hd, Except.toOption]

/-- The initial module of the package and the module in it are told apart. Both have classes `C` and
`D`. Those called `D` have different keys, and those called `C` overlap: the one in the package
stands within a class that is named as the module. -/
theorem apart_of_plain_rivals : ∃ d d',
    declarationsOf { parts := ["src"] } "provider" package = .ok d ∧
    declarationsOf { parts := ["src"] } "provider" submodule = .ok d' ∧
    (d.classes.map fun c => (c.scope, c.name)) = [("a", "b"), ("a.b", "C"), ("a", "D")] ∧
    (d'.classes.map fun c => (c.scope, c.name)) = [("a.b", "C"), ("a.b", "D")] ∧
    Apart { parts := ["src"] } "provider" (asked [] (rivals.below ["src"])) package submodule
      d d' := by
  have hpackage : package ∈ rivalEntries := by decide
  have hsubmodule : submodule ∈ rivalEntries := by decide
  obtain ⟨d, hd⟩ := exists_declarationsOf_rivals package hpackage
  obtain ⟨d', hd'⟩ := exists_declarationsOf_rivals submodule hsubmodule
  refine ⟨d, d', hd, hd', ?_, ?_, apart_of_plain (mem_asked_rivals _ hpackage)
    (mem_asked_rivals _ hsubmodule) (by decide +kernel) (by decide +kernel) (by decide +kernel)
    (by decide +kernel) (by decide +kernel) hd hd'⟩
  · rw [← keysOf_eq hd]
    decide +kernel
  · rw [← keysOf_eq hd']
    decide +kernel

/-- The modules of different files can have the same name, if one is beside the other or a stem has
a dot or no characters, and then their classes can share a key. So can classes of modules with
different names, if one stands within a class that is named as the other module. -/
theorem keysOf_rivals :
    (∀ e ∈ rivalEntries, e ∈ asked [] (rivals.below ["src"])) ∧
    (rivalEntries.map (·.parts)).Nodup ∧
    rivalEntries.map (fun e => Path.moduleName (.join { parts := ["src"] } e.parts)
      { parts := ["src"] }) = ["a", "a", "a.b", "a.b", "", ""] ∧
    rivalEntries.map (keysOf { parts := ["src"] } "provider") =
      [[("a", "b"), ("a.b", "C"), ("a", "D")], [("a", "b"), ("a.b", "C"), ("a", "D")],
        [("a.b", "C"), ("a.b", "D")], [("a.b", "C")], [("", "E")], [("", "E")]] := by
  refine ⟨mem_asked_rivals, ?_, ?_, ?_⟩
  · decide +kernel
  · decide +kernel
  · decide +kernel

end Build

end Wiring
