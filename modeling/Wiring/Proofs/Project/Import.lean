import Wiring.Project.Build
import Wiring.Proofs.Declaration.Import

/-!
# Relative imports and the files they denote

A module is named after its file (`moduleNameOf_fileIn`), and a relative import in it is recorded
under a name that is computed from that name alone. An import denotes a file (`Denotes`): its dots
lead from the directory of the importing file outward, and its path leads from there inward.

The two agree for every module that is a plain file, and for the initial module of a package only if
the dots lead all the way to the top. Any other import of an initial module is recorded as if it had
one more dot, since the name of the package already lacks the part that the first dot stands for
(`importedNames_eq_iff`).
-/

namespace Wiring

namespace Path

variable {dirs parts others : List String} {stem path : String} {dots : Nat}

/-! ## Names of modules -/

/-- A part of a path that an import can name: it is not empty and has no dot. -/
def IsName (s : String) : Prop := s ≠ "" ∧ '.' ∉ s.toList

instance (s : String) : Decidable (IsName s) := inferInstanceAs (Decidable (_ ∧ _))

/-- An identifier is a name. -/
theorem isName_of_isIdentifier {s : String} (h : Text.isIdentifier s.toList = true) :
    IsName s := by
  have hstart : Text.isIdentifierStart '.' = false := by decide
  have hcontinue : Text.isIdentifierContinue '.' = false := by decide
  cases hs : s.toList with
  | nil =>
    rw [hs] at h
    cases h
  | cons c cs =>
    rw [hs, Text.isIdentifier, Bool.and_eq_true, List.all_eq_true] at h
    refine ⟨?_, ?_⟩
    · rintro rfl
      cases hs
    · rw [hs]
      intro hdot
      rcases List.mem_cons.mp hdot with rfl | hdot
      · rw [hstart] at h
        cases h.1
      · have hrest := h.2 _ hdot
        rw [hcontinue] at hrest
        cases hrest

/-- Names with dots between them come apart into the names. -/
theorem pieces_intercalate_names (hne : parts ≠ []) (hparts : ∀ p ∈ parts, IsName p) :
    Text.pieces '.' (".".intercalate parts) = parts :=
  Text.pieces_intercalate hne fun p hp => (hparts p hp).2

/-- Only no names at all make an empty text. -/
theorem intercalate_names_eq_empty_iff (hparts : ∀ p ∈ parts, IsName p) :
    ".".intercalate parts = "" ↔ parts = [] := by
  constructor
  · intro hempty
    by_contra hne
    have hpieces := pieces_intercalate_names hne hparts
    rw [hempty] at hpieces
    have hsingle : Text.pieces '.' "" = [""] := rfl
    rw [hsingle] at hpieces
    exact (hparts "" (hpieces ▸ List.mem_singleton_self "")).1 rfl
  · rintro rfl
    rfl

/-- Names with dots between them are known by the text. -/
theorem intercalate_names_inj (hparts : ∀ p ∈ parts, IsName p) (hothers : ∀ p ∈ others, IsName p) :
    ".".intercalate parts = ".".intercalate others ↔ parts = others := by
  constructor
  · intro h
    by_cases hne : parts = []
    · rw [hne, eq_comm] at h
      rw [hne, (intercalate_names_eq_empty_iff hothers).mp h]
    · have hne' : others ≠ [] := by
        rintro rfl
        exact hne ((intercalate_names_eq_empty_iff hparts).mp h)
      rw [← pieces_intercalate_names hne hparts, h, pieces_intercalate_names hne' hothers]
  · rintro rfl
    rfl

/-- Taking the ending of sources off a name with it leaves the name. -/
theorem dropSourceEnding_append (s : String) : dropSourceEnding (s ++ sourceEnding) = s := by
  have hsuffix : sourceEnding.toList.isSuffixOf (s ++ sourceEnding).toList = true := by
    rw [String.toList_append]
    simp
  unfold dropSourceEnding
  rw [if_pos hsuffix]
  apply String.toList_inj.mp
  rw [String.toList_ofList, String.toList_append, String.length_append, Nat.add_sub_cancel]
  exact List.take_left' String.length_toList

/-- The file of a module or, with the initial stem, of a package. -/
def fileIn (dirs : List String) (stem : String) : List String := dirs ++ [stem ++ sourceEnding]

/-- The parts of the name of the module in a file. -/
def ownParts (dirs : List String) (stem : String) : List String :=
  dirs ++ if stem = "__init__" then [] else [stem]

/-- A module is named after its file, and the initial module of a package after the directory. -/
theorem moduleNameOf_fileIn (dirs : List String) (stem : String) :
    moduleNameOf (fileIn dirs stem) = ".".intercalate (ownParts dirs stem) := by
  unfold moduleNameOf fileIn ownParts
  rw [List.getLast?_concat, List.dropLast_concat]
  dsimp only
  rw [dropSourceEnding_append]
  simp

/-- In a directory, the file of a module is named as seen from there. -/
theorem moduleName_join (directory : Path) (parts : List String) :
    (directory.join parts).moduleName directory = moduleNameOf parts := by
  have hbelow : directory.parts.isPrefixOf (directory.parts ++ parts) = true :=
    List.isPrefixOf_iff_prefix.mpr (List.prefix_append _ _)
  unfold moduleName relativeTo? join
  simp [hbelow]

/-! ## What relative imports lead to -/

/-- The parts of a dotted path; the empty path has none. -/
def pathParts (path : String) : List String := if path == "" then [] else Text.pieces '.' path

/-- The place that an import in a directory leads to: its first dot stays there, each further one
leads to the directory around, and its path leads inward. -/
def placeFrom (dirs : List String) (dots : Nat) (path : String) : List String :=
  dirs.take (dirs.length + 1 - dots) ++ pathParts path

/-- An import in a directory denotes a file: the initial module of the package at its place or, if
it has a path, the module there. -/
inductive Denotes (dirs : List String) (dots : Nat) (path : String) : List String → Prop where
  /-- The place is a package. -/
  | package : Denotes dirs dots path (fileIn (placeFrom dirs dots path) "__init__")
  /-- The place is a module. -/
  | plain {above : List String} {name : String} (hpath : path ≠ "")
      (hplace : placeFrom dirs dots path = above ++ [name]) (hname : name ≠ "__init__") :
      Denotes dirs dots path (fileIn above name)

/-- The module that an import denotes is named after its place. -/
theorem Denotes.moduleNameOf_eq {target : List String} (h : Denotes dirs dots path target) :
    moduleNameOf target = ".".intercalate (placeFrom dirs dots path) := by
  cases h with
  | package =>
    rw [moduleNameOf_fileIn, ownParts, if_pos rfl, List.append_nil]
  | plain hpath hplace hname =>
    rw [moduleNameOf_fileIn, ownParts, if_neg hname, hplace]

/-- A path behind some names is joined to them as if it were the names in it. -/
theorem intercalate_append_path (parts : List String) (path : String) :
    ".".intercalate (parts ++ if path == "" then [] else [path]) =
      ".".intercalate (parts ++ pathParts path) := by
  unfold pathParts
  split
  · rfl
  · have hpath : ".".intercalate (Text.pieces '.' path) = path := Text.intercalate_pieces '.' path
    have hpieces : Text.pieces '.' path ≠ [] := by
      unfold Text.pieces
      simp
    by_cases hparts : parts = []
    · rw [hparts, List.nil_append, List.nil_append, hpath, String.intercalate_singleton]
    · rw [String.intercalate_append_of_ne_nil hparts (List.cons_ne_nil _ _),
        String.intercalate_append_of_ne_nil hparts hpieces, hpath, String.intercalate_singleton]

/-- A relative import takes as many names off that of the importing module as it has dots. -/
theorem resolveRelative_names (hparts : ∀ p ∈ parts, IsName p) (hdots : 0 < dots) (path : String) :
    resolveRelative (".".intercalate parts) dots path =
      ".".intercalate (parts.take (parts.length - dots) ++ pathParts path) := by
  have hpieces : (if ".".intercalate parts == "" then [] else
      Text.pieces '.' (".".intercalate parts)) = parts := by
    by_cases hne : parts = []
    · rw [hne]
      rfl
    · have hempty : ".".intercalate parts ≠ "" :=
        fun h => hne ((intercalate_names_eq_empty_iff hparts).mp h)
      rw [if_neg (by simpa using hempty), pieces_intercalate_names hne hparts]
  have hpositive : (dots == 0) = false := by simpa using Nat.ne_of_gt hdots
  unfold resolveRelative
  rw [hpieces, hpositive]
  exact intercalate_append_path _ path

/-- The name of the importing module and its place differ by the last part, unless it is the initial
module of a package: then a dot has been spent already. -/
theorem resolveRelative_fileIn (hdirs : ∀ n ∈ dirs, IsName n) (hstem : IsName stem)
    (hdots : 0 < dots) (path : String) :
    resolveRelative (moduleNameOf (fileIn dirs stem)) dots path =
      ".".intercalate (placeFrom dirs (if stem = "__init__" then dots + 1 else dots) path) := by
  have hown : ∀ n ∈ ownParts dirs stem, IsName n := by
    unfold ownParts
    split
    · simpa using hdirs
    · intro n hn
      rcases List.mem_append.mp hn with hn | hn
      · exact hdirs n hn
      · rw [List.mem_singleton.mp hn]
        exact hstem
  rw [moduleNameOf_fileIn, resolveRelative_names hown hdots]
  unfold placeFrom ownParts
  split
  · rw [List.append_nil, Nat.add_sub_add_right]
  · rw [List.length_append, List.length_singleton,
      List.take_append_of_le_length (by omega)]

/-- One more dot leads to the same place exactly from the top. -/
theorem placeFrom_succ_eq_iff (hdots : 0 < dots) :
    placeFrom dirs (dots + 1) path = placeFrom dirs dots path ↔ ¬ dots ≤ dirs.length := by
  unfold placeFrom
  rw [List.append_left_inj]
  constructor
  · intro h hinside
    have hlength := congrArg List.length h
    rw [List.length_take, List.length_take] at hlength
    omega
  · intro houtside
    have hnone : dirs.length + 1 - (dots + 1) = dirs.length + 1 - dots := by omega
    rw [hnone]

/-- The name that a relative import is resolved to is that of the file it denotes, unless the
importing module is the initial one of a package that the dots do not lead out of. -/
theorem resolveRelative_eq_iff {target : List String} (hdirs : ∀ n ∈ dirs, IsName n)
    (hstem : IsName stem) (hdots : 0 < dots) (hpath : ∀ n ∈ pathParts path, IsName n)
    (htarget : Denotes dirs dots path target) :
    resolveRelative (moduleNameOf (fileIn dirs stem)) dots path = moduleNameOf target ↔
      ¬ (stem = "__init__" ∧ dots ≤ dirs.length) := by
  have hplace : ∀ k, ∀ n ∈ placeFrom dirs k path, IsName n := by
    intro k n hn
    rcases List.mem_append.mp hn with hn | hn
    · exact hdirs n (List.mem_of_mem_take hn)
    · exact hpath n hn
  rw [resolveRelative_fileIn hdirs hstem hdots, htarget.moduleNameOf_eq,
    intercalate_names_inj (hplace _) (hplace _)]
  split
  · rename_i hinit
    rw [placeFrom_succ_eq_iff hdots]
    simp [hinit]
  · rename_i hplain
    simp [hplain]

end Path

/-! ## What is recorded -/

namespace Build

open Source (Reader Stmt)
open Wiring.Path

variable {directory : Path} {octets? : Option (List Nat)} {dirs : List String}
  {stem marker text x : String} {stmts : List Stmt}

/-- What a source below a directory declares depends on what its text is read as. Its module is named
after its place there. -/
theorem declarationsOf_eq_read [Reader] {e : Entry}
    (hread : e.read (directory.join e.parts) = .ok text) :
    declarationsOf directory marker e =
      (Declarations.collect (moduleNameOf e.parts) (directory.join e.parts).text marker <$>
        Stmt.read text.toList).mapError .ofSyntax := by
  unfold declarationsOf Declarations.ofText
  dsimp only
  have hbind : ∀ f : String → Except SourceFault Declarations,
      ((Except.ok text : Except ReadFault String).mapError (fun fault => .leftOut (.unread fault))
        >>= f) = f text :=
    fun _ => rfl
  rw [hread, moduleName_join, hbind]

/-- If it can be read as statements, it declares what they do. -/
theorem declarationsOf_eq [Reader] {e : Entry}
    (hread : e.read (directory.join e.parts) = .ok text)
    (hstmts : Stmt.ofText? text.toList = some stmts) :
    declarationsOf directory marker e =
      .ok (.collect (moduleNameOf e.parts) (directory.join e.parts).text marker stmts) := by
  rw [declarationsOf_eq_read hread, Stmt.ofText?_eq_some_iff.mp hstmts]
  rfl

/-- An entry whose octets encode a text with line feeds only has that text. -/
theorem read_eq {e : Entry} {octets : List Nat} (hoctets : e.octets? = some octets)
    (hdecode : (Text.decode octets).toOption = some text.toList)
    (hbreaks : Text.unifyBreaks text.toList = text.toList) (path : Path) :
    e.read path = .ok text := by
  unfold Entry.read
  rw [hoctets]
  dsimp only
  cases h : Text.decode octets with
  | error e =>
    rw [h] at hdecode
    cases hdecode
  | ok cs =>
    rw [h] at hdecode
    rw [Option.some.inj hdecode]
    dsimp only
    rw [hbreaks]
    exact congrArg Except.ok String.ofList_toList

/-- What a source imports relatively is recorded under the name of the file that the import denotes,
unless the source is the initial module of a package that the dots do not lead out of. An initial
module records what the import with one more dot denotes. -/
theorem importedNames_eq_iff [Reader] {i : FromImport} {target : List String}
    (hdirs : ∀ n ∈ dirs, IsName n) (hstem : IsName stem)
    (hread : Entry.read ⟨fileIn dirs stem, octets?⟩ (directory.join (fileIn dirs stem)) = .ok text)
    (hstmts : Stmt.ofText? text.toList = some stmts)
    (hlast : FromImport.last? (FromImport.ofStmts stmts) x = some i)
    (hdots : 0 < i.dots) (hpath : ∀ n ∈ pathParts i.path, IsName n)
    (htarget : Denotes dirs i.dots i.path target) :
    ∃ d source, declarationsOf directory marker ⟨fileIn dirs stem, octets?⟩ = .ok d ∧
      d.importedNames.find? x = some (source, i.imported.name) ∧
      (source = moduleNameOf target ↔ ¬ (stem = "__init__" ∧ i.dots ≤ dirs.length)) ∧
      (stem = "__init__" → ∀ further, Denotes dirs (i.dots + 1) i.path further →
        source = moduleNameOf further) := by
  have hsource : i.source (moduleNameOf (fileIn dirs stem)) =
      resolveRelative (moduleNameOf (fileIn dirs stem)) i.dots i.path :=
    if_neg (by simpa using Nat.ne_of_gt hdots)
  refine ⟨_, i.source (moduleNameOf (fileIn dirs stem)), declarationsOf_eq hread hstmts, ?_, ?_, ?_⟩
  · rw [Declarations.find?_importedNames_collect, hlast]
    rfl
  · rw [hsource]
    exact resolveRelative_eq_iff hdirs hstem hdots hpath htarget
  · intro hinit further hfurther
    rw [hsource, resolveRelative_fileIn hdirs hstem hdots, if_pos hinit, hfurther.moduleNameOf_eq]

/-- The text of a package that imports from a module beside it. -/
def besideText : String := "from .models import Config\n"

/-- The initial module of the package. -/
def beside : Entry := ⟨fileIn ["pkg"] "__init__", some (besideText.toList.map (·.toNat))⟩

/-- It can be read. -/
theorem read_beside (path : Path) : beside.read path = .ok besideText :=
  read_eq rfl (by decide +kernel) (by decide +kernel) path

/-- It imports one name. -/
theorem last?_beside : ∃ stmts, Stmt.ofText? besideText.toList = some stmts ∧
    FromImport.last? (FromImport.ofStmts stmts) "Config" =
      some { dots := 1, path := "models", imported := ⟨"Config", none⟩ } := by
  have himport : (Stmt.ofText? besideText.toList).bind (fun stmts =>
      (FromImport.last? (FromImport.ofStmts stmts) "Config").map fun i =>
        (i.dots, i.path, i.imported)) = some (1, "models", ⟨"Config", none⟩) := by
    decide +kernel
  obtain ⟨stmts, hstmts, hlast⟩ := Option.bind_eq_some_iff.mp himport
  obtain ⟨⟨dots, path, imported⟩, hlast, hparts⟩ := Option.map_eq_some_iff.mp hlast
  cases hparts
  exact ⟨stmts, hstmts, hlast⟩

/-- The package records the name as one from a module outside of it. -/
theorem importedNames_beside :
    ∃ d source, declarationsOf {} "provider" beside = .ok d ∧
      d.importedNames.find? "Config" = some (source, "Config") ∧
      source = moduleNameOf ["models.py"] ∧ source ≠ moduleNameOf ["pkg", "models.py"] := by
  obtain ⟨stmts, hstmts, hlast⟩ := last?_beside
  have hnames : ∀ n ∈ ["pkg"], IsName n := by decide
  have hinit : IsName "__init__" := by decide
  have hpath : ∀ n ∈ pathParts "models", IsName n := by decide +kernel
  have hplace : placeFrom ["pkg"] 1 "models" = ["pkg"] ++ ["models"] := by decide +kernel
  have hfurther : placeFrom ["pkg"] 2 "models" = [] ++ ["models"] := by decide +kernel
  obtain ⟨d, source, hd, hfind, hiff, hone⟩ := importedNames_eq_iff hnames hinit (read_beside _)
    hstmts hlast (by decide) hpath (.plain (by decide) hplace (by decide))
  refine ⟨d, source, hd, hfind, hone rfl _ (.plain (by decide) hfurther (by decide)), ?_⟩
  intro hbeside
  exact hiff.mp hbeside ⟨rfl, by decide⟩

end Build

end Wiring
