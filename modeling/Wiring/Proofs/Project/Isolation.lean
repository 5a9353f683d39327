import Mathlib.Data.List.Lex
import Mathlib.Order.Lattice
import Wiring.Proofs.Project.Directory

/-!
# Broken files

A source that has no text, or whose text cannot be read as statements, is listed among the failures,
and otherwise the build is the same as if it were not there (`ofDirectory_isolates`). What is
extracted from the other sources, the numbers of their nodes and the root do not depend on it.

The sources of a smaller tree are those of the larger one that are left, in the same order. For this
sorting has to be stable: `filter_mergeSort` says that it commutes with leaving something out.
-/

namespace Wiring

open Source (Reader Stmt)

/-! ## Sorting -/

/-- A list splits in one way only into members that pass a test and others behind that fail. -/
theorem append_inj_of_forall {α : Type} {q : α → Bool} {xs ys xs' ys' : List α}
    (h : xs ++ ys = xs' ++ ys') (hxs : ∀ a ∈ xs, q a = true) (hys : ∀ a ∈ ys, ¬ q a = true)
    (hxs' : ∀ a ∈ xs', q a = true) (hys' : ∀ a ∈ ys', ¬ q a = true) : xs = xs' ∧ ys = ys' := by
  have hfront : ∀ {us vs : List α}, (∀ a ∈ us, q a = true) → (∀ a ∈ vs, ¬ q a = true) →
      (us ++ vs).filter q = us := by
    intro us vs hus hvs
    rw [List.filter_append, List.filter_eq_self.mpr hus, List.filter_eq_nil_iff.mpr hvs,
      List.append_nil]
  obtain rfl : xs = xs' := by rw [← hfront hxs hys, h, hfront hxs' hys']
  exact ⟨rfl, List.append_cancel_left h⟩

/-- Sorting what is left of a list leaves the same as leaving it out of the sorted list. -/
theorem filter_mergeSort {α : Type} {le : α → α → Bool}
    (htrans : ∀ a b c, le a b = true → le b c = true → le a c = true)
    (htotal : ∀ a b, (le a b || le b a) = true) (p : α → Bool) (l : List α) :
    (l.filter p).mergeSort le = (l.mergeSort le).filter p := by
  induction l with
  | nil => simp
  | cons a l ih =>
    obtain ⟨front, back, hsort, hrest, hfront⟩ := List.mergeSort_cons htrans htotal a l
    rw [hrest, List.filter_append] at ih
    rw [hsort, List.filter_append]
    by_cases ha : p a = true
    · obtain ⟨front', back', hsort', hrest', hfront'⟩ :=
        List.mergeSort_cons htrans htotal a (l.filter p)
      have hsorted := List.pairwise_mergeSort htrans htotal (a :: l)
      have hsorted' := List.pairwise_mergeSort htrans htotal (a :: l.filter p)
      rw [hsort, List.pairwise_append, List.pairwise_cons] at hsorted
      rw [hsort', List.pairwise_append, List.pairwise_cons] at hsorted'
      -- Both ways, what is smaller than `a` stands in front of it, and nothing else.
      obtain ⟨hfront_eq, hback_eq⟩ := append_inj_of_forall (q := fun b => !le a b)
        (hrest'.symm.trans ih) hfront' (fun b hb => by simp [hsorted'.2.1.1 b hb])
        (fun b hb => hfront b (List.mem_filter.mp hb).1)
        (fun b hb => by simp [hsorted.2.1.1 b (List.mem_filter.mp hb).1])
      rw [List.filter_cons_of_pos ha, List.filter_cons_of_pos ha, hsort', hfront_eq, hback_eq]
    · rw [List.filter_cons_of_neg ha, List.filter_cons_of_neg ha, ih]

/-- The lexicographic order of lists is that of lists of keys if the keys tell elements apart. -/
theorem lex_iff_map_lt {α β : Type} [BEq α] [LawfulBEq α] [LinearOrder β] {key : α → β}
    {lt : α → α → Bool} (hkey : Function.Injective key)
    (hlt : ∀ a b, lt a b = true ↔ key a < key b) (as bs : List α) :
    List.lex as bs lt = true ↔ as.map key < bs.map key := by
  induction as generalizing bs with
  | nil =>
    cases bs with
    | nil => simp [List.lex]
    | cons b bs => simp [List.lex]
  | cons a as ih =>
    cases bs with
    | nil => simp [List.lex]
    | cons b bs =>
      simp only [List.lex, List.map_cons, List.cons_lt_cons_iff, Bool.or_eq_true, Bool.and_eq_true,
        beq_iff_eq, hlt, ih, hkey.eq_iff]

namespace Path

/-- The codes of the characters of some parts. -/
def codes (parts : List String) : List (List Nat) := parts.map fun s => s.toList.map Char.toNat

/-- Texts are known by the codes of their characters. -/
theorem textCodes_injective : Function.Injective fun s : String => s.toList.map Char.toNat :=
  fun _ _ heq => String.toList_inj.mp
    (List.map_injective_iff.mpr (fun _ _ => Char.toNat_inj.mp) heq)

/-- So are parts. -/
theorem codes_injective : Function.Injective codes :=
  List.map_injective_iff.mpr textCodes_injective

/-- Parts are ordered as the codes of their characters. -/
theorem precedes_iff (parts others : List String) :
    precedes parts others = true ↔ codes parts < codes others := by
  have hchar : Function.Injective Char.toNat := fun _ _ => Char.toNat_inj.mp
  have hprecedes : ∀ s t : String, textPrecedes s t = true ↔
      s.toList.map Char.toNat < t.toList.map Char.toNat := fun s t =>
    lex_iff_map_lt hchar (fun _ _ => decide_eq_true_iff) s.toList t.toList
  exact lex_iff_map_lt textCodes_injective hprecedes parts others

/-- Parts that others do not stand before have the smaller codes, or the same. -/
theorem not_precedes_iff (parts others : List String) :
    (!precedes others parts) = true ↔ codes parts ≤ codes others := by
  rw [Bool.not_eq_true', Bool.eq_false_iff, ne_eq, precedes_iff, not_lt]

/-- Not to come behind is transitive. -/
theorem not_precedes_trans (parts others more : List String)
    (h : (!precedes others parts) = true) (h' : (!precedes more others) = true) :
    (!precedes more parts) = true := by
  rw [not_precedes_iff] at h h' ⊢
  exact le_trans h h'

/-- Of any two lists of parts, one does not come behind the other. -/
theorem not_precedes_total (parts others : List String) :
    (!precedes others parts || !precedes parts others) = true := by
  rw [Bool.or_eq_true, not_precedes_iff, not_precedes_iff]
  exact le_total _ _

end Path

/-! ## Files that are gone -/

/-- The tree without the files at some places. Directories stay. -/
def Tree.dropFiles (t : Tree) (gone : List String → Bool) : Tree where
  entries := t.entries.filter fun e => e.octets?.isNone || !gone e.parts

/-- The octets of the file encode a text that can be read as statements. -/
def Entry.parses [Reader] (e : Entry) : Bool :=
  match e.octets? with
  | none => false
  | some octets =>
    match Text.decode octets with
    | .ok cs => (Stmt.ofText? (Text.unifyBreaks cs)).isSome
    | .error _ => false

namespace Tree

variable {t : Tree} {place parts : List String}

/-- Directories stay. -/
theorem isDirectory_dropFiles (gone : List String → Bool) (h : t.isDirectory parts = true) :
    (t.dropFiles gone).isDirectory parts = true := by
  unfold isDirectory at h ⊢
  rw [Bool.or_eq_true] at h ⊢
  refine h.imp_right fun hfound => ?_
  obtain ⟨e, he, hnone⟩ := (Option.any_eq_true _ _).mp hfound
  -- The directory is the first entry at its place, so it still is.
  obtain ⟨hparts, front, back, hentries, hfront⟩ := List.find?_eq_some_iff_append.mp he
  refine (Option.any_eq_true _ _).mpr ⟨e, ?_, hnone⟩
  refine List.find?_eq_some_iff_append.mpr ⟨hparts,
    front.filter (fun e => e.octets?.isNone || !gone e.parts),
    back.filter (fun e => e.octets?.isNone || !gone e.parts), ?_,
    fun a ha => hfront a (List.mem_filter.mp ha).1⟩
  show List.filter _ t.entries = _
  rw [hentries, List.filter_append, List.filter_cons_of_pos (by simp [hnone])]

/-- A path to a directory leads there still. -/
theorem follow?_dropFiles (gone : List String → Bool) {q : List String}
    (h : t.follow? place parts = some q) (hq : t.isDirectory q = true) :
    (t.dropFiles gone).follow? place parts = some q := by
  induction parts generalizing place with
  | nil =>
    rw [follow?] at h ⊢
    split at h
    · obtain rfl := Option.some.inj h
      have hdirectory := isDirectory_dropFiles gone hq
      have hcontains : (t.dropFiles gone).contains place = true := by
        unfold isDirectory at hdirectory
        unfold contains
        rw [Bool.or_eq_true] at hdirectory ⊢
        refine hdirectory.imp_right fun hany => ?_
        obtain ⟨e, he, -⟩ := (Option.any_eq_true _ _).mp hany
        rw [he]
        rfl
      rw [if_pos hcontains]
    · cases h
  | cons part parts ih =>
    rw [follow?] at h ⊢
    cases hdirectory : t.isDirectory place with
    | false =>
      rw [hdirectory] at h
      cases h
    | true =>
      rw [hdirectory] at h
      rw [isDirectory_dropFiles gone hdirectory]
      rw [if_neg (by decide)] at h ⊢
      split at h
      · rename_i hup
        rw [if_pos hup]
        split at h
        · cases h
        · rename_i htop
          rw [if_neg htop]
          exact ih h
      · rename_i hdown
        rw [if_neg hdown]
        exact ih h

/-- Below a place are the entries that are left of those that were there. -/
theorem below_dropFiles (t : Tree) (gone : List String → Bool) (place : List String) :
    (t.dropFiles gone).below place =
      (t.below place).filter fun e => e.octets?.isNone || !gone (place ++ e.parts) := by
  unfold below dropFiles
  rw [List.filterMap_filter, List.filter_filterMap]
  refine List.filterMap_congr fun e _ => ?_
  cases hbelow : place.isPrefixOf e.parts && e.parts.length != place.length with
  | false => simp
  | true =>
    have hprefix := List.isPrefixOf_iff_prefix.mp (Bool.and_eq_true_iff.mp hbelow).1
    have hparts : place ++ e.parts.drop place.length = e.parts :=
      List.prefix_iff_eq_append.mp hprefix
    simp only [↓reduceIte, Option.filter, hparts]

end Tree

namespace Build

variable {tree : Tree} {directory : Path} {place : List String} {entries es : List Entry}
  {options : BuildOptions} {exclusions : List String} {marker : String} {b : Build}

/-! ## The sources that are asked for -/

/-- Of the sources below a directory those that are left are taken, in the same order. -/
theorem sources_filter (p : Entry → Bool) (entries : List Entry) :
    sources (entries.filter p) = (sources entries).filter p := by
  unfold sources
  rw [List.filter_comm, filter_mergeSort
    (fun a b c : Entry => Path.not_precedes_trans a.parts b.parts c.parts)
    fun a b : Entry => Path.not_precedes_total a.parts b.parts]

/-- The sources that are asked for of what is left. -/
theorem asked_filter (p : Entry → Bool) (entries : List Entry) :
    asked exclusions (entries.filter p) = (asked exclusions entries).filter p := by
  unfold asked
  rw [sources_filter, List.filter_comm]

/-- No source comes behind a later one. -/
theorem pairwise_sources (entries : List Entry) :
    (sources entries).Pairwise fun a b => (!Path.precedes b.parts a.parts) = true :=
  List.pairwise_mergeSort
    (fun a b c : Entry => Path.not_precedes_trans a.parts b.parts c.parts)
    (fun a b : Entry => Path.not_precedes_total a.parts b.parts) _

/-- The sources that are asked for stand in the order of their parts. -/
theorem pairwise_asked (exclusions : List String) (entries : List Entry) :
    (asked exclusions entries).Pairwise fun a b => Path.precedes b.parts a.parts = false :=
  ((pairwise_sources entries).filter _).imp fun h => (Bool.not_eq_true' _).mp h

/-! ## Good and broken sources -/

section Reading

variable [Reader]

/-- The sources that are asked for and can be read. -/
def good (exclusions : List String) (entries : List Entry) : List Entry :=
  (asked exclusions entries).filter (·.parses)

/-- The sources that are asked for and cannot be read. -/
def broken (exclusions : List String) (entries : List Entry) : List Entry :=
  (asked exclusions entries).filter (!·.parses)

/-- A source declares something exactly if it can be read. -/
theorem isSome_declarationsOf (directory : Path) (marker : String) (e : Entry) :
    (declarationsOf directory marker e).toOption.isSome = e.parses := by
  unfold declarationsOf Declarations.ofText Entry.parses Entry.read Stmt.ofText?
  cases e.octets? with
  | none => rfl
  | some octets =>
    dsimp only
    cases Text.decode octets with
    | error fault => rfl
    | ok cs =>
      dsimp only [Except.mapError, bind, Except.bind]
      rw [String.toList_ofList]
      cases Stmt.read (Text.unifyBreaks cs) with
      | error fault => rfl
      | ok stmts => rfl

/-- What is declared is declared by the sources that can be read. -/
theorem accepted_filter_parses (directory : Path) (marker : String) (es : List Entry) :
    accepted directory marker (es.filter (·.parses)) = accepted directory marker es := by
  unfold accepted
  rw [List.filterMap_filter]
  refine List.filterMap_congr fun e _ => ?_
  cases hparses : e.parses with
  | true => rfl
  | false =>
    have hnone := isSome_declarationsOf directory marker e
    rw [hparses, Option.isSome_eq_false_iff, Option.isNone_iff_eq_none] at hnone
    rw [hnone]
    rfl

/-- There are as many declarations of files as files that can be read. -/
theorem length_accepted (directory : Path) (marker : String) (es : List Entry) :
    (accepted directory marker es).length = (es.filter (·.parses)).length := by
  unfold accepted
  rw [List.length_filterMap_eq_countP, ← List.countP_eq_length_filter]
  simp only [isSome_declarationsOf]

/-- The sources that are left out are those that cannot be read, in their order. -/
theorem map_fst_leftOut (marker : String) (h : ∀ e ∈ es, ¬ BreaksOff directory e) :
    (leftOut directory marker es).map (·.1) =
      (es.filter (!·.parses)).map fun e => directory.join e.parts := by
  induction es with
  | nil => rfl
  | cons e es ih =>
    obtain ⟨hfirst, hrest⟩ := List.forall_mem_cons.mp h
    have hparses := isSome_declarationsOf directory marker e
    have hleft := ih hrest
    unfold leftOut at hleft ⊢
    rw [List.filterMap_cons, List.filter_cons]
    cases hread : declarationsOf directory marker e with
    | ok d =>
      rw [hread] at hparses
      rw [← hparses]
      exact hleft
    | error fault =>
      rw [hread] at hparses
      rw [← hparses]
      cases fault with
      | leftOut fault => exact congrArg (directory.join e.parts :: ·) hleft
      | brokenOff => exact absurd (declarationsOf_eq_brokenOff_iff.mp hread) hfirst

/-- The same was extracted from the sources, and the same graph was built of it. -/
structure SameExtraction (b b' : Build) : Prop where
  /-- The providers are the same. -/
  providers : b'.providers = b.providers
  /-- The container is the same. -/
  container : b'.container = b.container
  /-- The diagnostics are the same. -/
  diagnostics : b'.diagnostics = b.diagnostics
  /-- As many files were read. -/
  filesScanned : b'.filesScanned = b.filesScanned

/-- If only sources are left out that cannot be read, or are not asked for, there is a build still,
and the same is extracted. -/
theorem exists_ofEntries_filter (p : Entry → Bool)
    (h : ofEntries directory entries options exclusions = .ok b)
    (hgood : ∀ e ∈ good exclusions entries, p e = true) :
    ∃ b', ofEntries directory (entries.filter p) options exclusions = .ok b' ∧
      SameExtraction b b' := by
  obtain ⟨hdecided, hnone, providers, built, hread, hbuilt, rfl⟩ := ofEntries_eq_ok_iff.mp h
  have hsame : accepted directory options.marker (asked exclusions (entries.filter p)) =
      accepted directory options.marker (asked exclusions entries) := by
    -- Both are what the good ones declare, and these all stay.
    have hkept : (good exclusions entries).filter p = good exclusions entries :=
      List.filter_eq_self.mpr hgood
    unfold good at hkept
    rw [← accepted_filter_parses, asked_filter, List.filter_comm, hkept, accepted_filter_parses]
  have hdecided' : ∀ e ∈ sources (entries.filter p),
      (Pattern.anyAccepts? exclusions e.parts).isSome = true := by
    rw [sources_filter]
    exact fun e he => hdecided e (List.mem_filter.mp he).1
  have hnone' : ∀ e ∈ asked exclusions (entries.filter p), ¬ BreaksOff directory e := by
    rw [asked_filter]
    exact fun e he => hnone e (List.mem_filter.mp he).1
  rw [← hsame] at hread
  refine ⟨_, ofEntries_eq_ok_iff.mpr ⟨hdecided', hnone', providers, built, hread, hbuilt, rfl⟩,
    ⟨rfl, rfl, rfl, ?_⟩⟩
  exact congrArg List.length hsame

/-! ## The outcome -/

/-- The build of the sources below a place keeps broken ones apart from the others. -/
structure Isolates (tree : Tree) (directory : Path) (place : List String) (options : BuildOptions)
    (exclusions : List String) (b : Build) : Prop where
  /-- The good sources are counted. -/
  scanned : b.filesScanned = (good exclusions (tree.below place)).length
  /-- The broken ones are listed, each once. -/
  failures : b.failures.map (·.1) =
    (broken exclusions (tree.below place)).map fun e => directory.join e.parts
  /-- They are listed in the order of their parts. -/
  sorted : (broken exclusions (tree.below place)).Pairwise fun e e' =>
    Path.precedes e'.parts e.parts = false
  /-- Without files other than good sources, be it all or some of them, the same is extracted. -/
  others : ∀ gone : List String → Bool,
    (∀ e ∈ good exclusions (tree.below place), gone (place ++ e.parts) = false) →
      ∃ b', ofDirectory (tree.dropFiles gone) directory options exclusions = .ok b' ∧
        SameExtraction b b'

/-- A build of a directory keeps broken sources apart from the others. -/
theorem ofDirectory_isolates (h : ofDirectory tree directory options exclusions = .ok b) :
    ∃ place, tree.locate? directory = some place ∧
      Isolates tree directory place options exclusions b := by
  unfold ofDirectory at h
  cases hplace : tree.locate? directory with
  | none =>
    rw [hplace] at h
    cases h
  | some place =>
    rw [hplace] at h
    dsimp only at h
    split at h
    · rename_i hdirectory
      obtain ⟨-, hnone, providers, built, -, -, rfl⟩ := ofEntries_eq_ok_iff.mp h
      refine ⟨place, rfl, {
        scanned := length_accepted directory options.marker _
        failures := map_fst_leftOut options.marker hnone
        sorted := (pairwise_asked exclusions _).filter _
        others := fun gone hgone => ?_ }⟩
      have hplace' : (tree.dropFiles gone).locate? directory = some place := by
        unfold Tree.locate? at hplace ⊢
        split at hplace
        · rename_i hroot
          rw [if_pos hroot]
          exact Tree.follow?_dropFiles gone hplace hdirectory
        · cases hplace
      obtain ⟨b', hb', hsame⟩ := exists_ofEntries_filter
        (fun e => e.octets?.isNone || !gone (place ++ e.parts)) h fun e he => by
          rw [hgone e he]
          simp
      refine ⟨b', ?_, hsame⟩
      unfold ofDirectory
      rw [hplace']
      dsimp only
      rw [if_pos (Tree.isDirectory_dropFiles gone hdirectory), Tree.below_dropFiles]
      exact hb'
    · cases h

end Reading

/-- A file with an octet that begins no character. -/
def garbled : Entry := ⟨["bad.py"], some [255]⟩

/-- A file in which nothing is wrong. -/
def plain : Entry := ⟨["good.py"], some (plainText.toList.map (·.toNat))⟩

/-- A directory with both. -/
def tainted : Tree where
  entries := [
    ⟨["src"], none⟩,
    { garbled with parts := ["src", "bad.py"] },
    { plain with parts := ["src", "good.py"] }]

/-- Both are asked for. -/
theorem asked_tainted : asked defaultExclusions (tainted.below ["src"]) = [garbled, plain] := by
  have hsources : sources (tainted.below ["src"]) = [garbled, plain] := by
    unfold sources
    rw [List.mergeSort_of_pairwise (by decide +kernel)]
    decide +kernel
  unfold asked
  rw [hsources]
  decide +kernel

/-- Reading breaks off on neither. -/
theorem not_breaksOff_tainted :
    ∀ e ∈ asked defaultExclusions (tainted.below ["src"]), ¬ BreaksOff { parts := ["src"] } e := by
  have hgarbled : (garbled.read (Path.join { parts := ["src"] } garbled.parts)).toOption = none := by
    decide +kernel
  have hplain : (declarationsOf { parts := ["src"] } "provider" plain).toOption.isSome = true := by
    decide +kernel
  rw [asked_tainted, List.forall_mem_cons, List.forall_mem_singleton]
  refine ⟨?_, not_breaksOff_of_isSome hplain⟩
  rintro ⟨text, htext, -⟩
  rw [htext] at hgarbled
  cases hgarbled

/-- There is a build of the directory. -/
theorem exists_ofDirectory_tainted : ∃ b, ofDirectory tainted { parts := ["src"] } = .ok b := by
  have hplace : tainted.locate? { parts := ["src"] } = some ["src"] := by decide +kernel
  have hread : (Declarations.providersOf
      (accepted { parts := ["src"] } "provider" [garbled, plain])).toOption.isSome = true := by
    decide +kernel
  cases hproviders : Declarations.providersOf
      (accepted { parts := ["src"] } "provider" [garbled, plain]) with
  | error f =>
    rw [hproviders] at hread
    cases hread
  | ok providers =>
    obtain ⟨ds, c, hbuilt, -⟩ := exists_ofProviders "run"
      (Declarations.yields_providersOf _ providers hproviders)
    have hdecided : ∀ e ∈ sources (tainted.below ["src"]),
        (Pattern.anyAccepts? defaultExclusions e.parts).isSome = true := fun e _ =>
      Pattern.isSome_anyAccepts? (by decide +kernel) e.parts
    have hdirectory : tainted.isDirectory ["src"] = true := by decide +kernel
    rw [← asked_tainted] at hproviders
    unfold ofDirectory
    rw [hplace]
    dsimp only
    rw [if_pos hdirectory]
    exact ⟨_, ofEntries_eq_ok_iff.mpr
      ⟨hdecided, not_breaksOff_tainted, providers, _, hproviders, hbuilt, rfl⟩⟩

/-- One file is read, and the other is listed. Without it the same is extracted. -/
theorem ofDirectory_isolates_tainted :
    ∃ b b', ofDirectory tainted { parts := ["src"] } = .ok b ∧ b.filesScanned = 1 ∧
      b.failures.map (·.1) = [{ parts := ["src", "bad.py"] }] ∧
      ofDirectory (tainted.dropFiles (· == ["src", "bad.py"])) { parts := ["src"] } = .ok b' ∧
      SameExtraction b b' := by
  obtain ⟨b, hb⟩ := exists_ofDirectory_tainted
  obtain ⟨place, hplace, hisolates⟩ := ofDirectory_isolates hb
  have hsrc : tainted.locate? { parts := ["src"] } = some ["src"] := by decide +kernel
  obtain rfl := Option.some.inj (hplace.symm.trans hsrc)
  have hgood : good defaultExclusions (tainted.below ["src"]) = [plain] := by
    unfold good
    rw [asked_tainted]
    decide +kernel
  have hscanned := hisolates.scanned
  have hfailures := hisolates.failures
  unfold broken at hfailures
  rw [hgood] at hscanned
  rw [asked_tainted] at hfailures
  obtain ⟨b', hb', hsame⟩ := hisolates.others (· == ["src", "bad.py"]) (by
    rw [hgood]
    decide +kernel)
  exact ⟨b, b', hb, hscanned, hfailures.trans (by decide +kernel), hb', hsame⟩

end Build

end Wiring
