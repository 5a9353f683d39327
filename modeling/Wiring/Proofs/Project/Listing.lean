import Mathlib.Data.List.Find
import Wiring.Proofs.Project.Isolation

/-!
# The order in which files are listed

A tree lists its entries in any order, as the system finds them, but each place once. Builds do not
depend on this order (`Build.sameProcessing`): which place a path leads to does not, and the sources
below it are sorted before any of them is read. For sorting to leave one order only, any two
different places have to be told apart, and they are, since a place stands before another one if the
first of their parts that differ does. So there is a single arrangement of some sources in strict
order (`Entry.Ordered.eq_of_perm`).
-/

namespace Wiring

namespace Path

/-- Of two different lists of parts, one that does not come behind the other stands before it. -/
theorem precedes_of_not_precedes {parts others : List String} (hne : parts ≠ others)
    (h : (!precedes others parts) = true) : precedes parts others = true := by
  rw [not_precedes_iff] at h
  rw [precedes_iff]
  exact lt_of_le_of_ne h (codes_injective.ne hne)

/-- No two lists of parts stand before each other. -/
theorem precedes_asymm {parts others : List String} (h : precedes parts others = true) :
    ¬ precedes others parts = true := by
  rw [precedes_iff] at h ⊢
  exact lt_asymm h

end Path

/-! ## Sorted entries -/

namespace Entry

variable {es es' : List Entry}

/-- Each entry stands before all later ones, part by part. -/
def Ordered (es : List Entry) : Prop := es.Pairwise fun a b => Path.precedes a.parts b.parts = true

/-- Every place is listed once. -/
def Distinct (es : List Entry) : Prop := (es.map (·.parts)).Nodup

/-- Entries can be arranged in order in one way only. -/
theorem Ordered.eq_of_perm (hes : Ordered es) (hes' : Ordered es') (hperm : es.Perm es') :
    es = es' := by
  refine List.Perm.eq_of_pairwise (fun a b _ _ hab hba => ?_) hes hes' hperm
  exact absurd hba (Path.precedes_asymm hab)

/-- In another order every place is listed once still. -/
theorem Distinct.perm (h : Distinct es) (hperm : es.Perm es') : Distinct es' :=
  (hperm.map _).nodup_iff.mp h

/-- So it is if some entries are left out. -/
theorem Distinct.filter (h : Distinct es) (p : Entry → Bool) : Distinct (es.filter p) :=
  h.sublist (List.filter_sublist.map _)

end Entry

open Entry (Ordered Distinct)

namespace Build

open scoped List

variable {entries entries' : List Entry} {directory : Path} {options : BuildOptions}
  {exclusions : List String}

/-- The sources are some of the entries. -/
theorem perm_sources (entries : List Entry) :
    (sources entries).Perm (entries.filter (·.isSource)) :=
  List.mergeSort_perm _ _

/-- The sources stand in order. -/
theorem ordered_sources (h : Distinct entries) : Ordered (sources entries) := by
  -- Sorting leaves open only how entries of the same parts stand to each other, and there are none.
  have hdistinct : Distinct (sources entries) := (h.filter _).perm (perm_sources entries).symm
  have hne : (sources entries).Pairwise fun a b => a.parts ≠ b.parts :=
    List.pairwise_map.mp hdistinct
  exact (hne.and (pairwise_sources entries)).imp fun ⟨hne, hnot⟩ =>
    Path.precedes_of_not_precedes hne hnot

/-- So do those that are asked for. -/
theorem ordered_asked (h : Distinct entries) : Ordered (asked exclusions entries) :=
  (ordered_sources h).filter _

/-- Which sources there are does not depend on the order of the entries. -/
theorem sources_eq_of_perm (h : Distinct entries) (hperm : entries.Perm entries') :
    sources entries = sources entries' := by
  refine (ordered_sources h).eq_of_perm (ordered_sources (h.perm hperm)) ?_
  calc sources entries ~ entries.filter (·.isSource) := perm_sources entries
    _ ~ entries'.filter (·.isSource) := hperm.filter _
    _ ~ sources entries' := (perm_sources entries').symm

/-- What is asked for of them does not either. -/
theorem asked_eq_of_perm (h : Distinct entries) (hperm : entries.Perm entries') :
    asked exclusions entries = asked exclusions entries' := by
  unfold asked
  rw [sources_eq_of_perm h hperm]

/-- A build of entries does not depend on their order. -/
theorem ofEntries_eq_of_perm [Source.Reader] (h : Distinct entries) (hperm : entries.Perm entries') :
    ofEntries directory entries options exclusions =
      ofEntries directory entries' options exclusions := by
  unfold ofEntries
  rw [sources_eq_of_perm h hperm]

end Build

/-! ## Trees that are listed in another order -/

namespace Tree

variable {t t' : Tree}

/-- The entries of the tree are listed in another order, and every place once. -/
structure Relisted (t t' : Tree) : Prop where
  /-- The entries are the same. -/
  perm : t.entries.Perm t'.entries
  /-- No two of them have the same parts. -/
  distinct : Distinct t.entries

/-- There is the same at every place. -/
theorem Relisted.find?_eq (h : t.Relisted t') (parts : List String) :
    t.find? parts = t'.find? parts := by
  -- Only one entry can be found, so it does not matter which ones are tried before it.
  refine List.find?_eq_find?_of_perm h.perm ?_
  rintro a ⟨ha, haparts⟩ b ⟨hb, hbparts⟩
  have hparts : a.parts = b.parts := (beq_iff_eq.mp haparts).trans (beq_iff_eq.mp hbparts).symm
  exact List.inj_on_of_nodup_map h.distinct ha hb hparts

/-- The same places are directories. -/
theorem Relisted.isDirectory_eq (h : t.Relisted t') (place : List String) :
    t.isDirectory place = t'.isDirectory place := by
  rw [isDirectory, isDirectory, h.find?_eq]

/-- The same places are there at all. -/
theorem Relisted.contains_eq (h : t.Relisted t') (place : List String) :
    t.contains place = t'.contains place := by
  rw [contains, contains, h.find?_eq]

/-- Parts lead to the same place. -/
theorem Relisted.follow?_eq (h : t.Relisted t') (place parts : List String) :
    t.follow? place parts = t'.follow? place parts := by
  induction parts generalizing place with
  | nil => rw [follow?, follow?, h.contains_eq]
  | cons part parts ih => rw [follow?, follow?, h.isDirectory_eq, ih, ih]

/-- Paths lead to the same place. -/
theorem Relisted.locate?_eq (h : t.Relisted t') (path : Path) :
    t.locate? path = t'.locate? path := by
  rw [locate?, locate?, h.follow?_eq]

/-- Below a place there are the same entries, in another order. -/
theorem Relisted.perm_below (h : t.Relisted t') (place : List String) :
    (t.below place).Perm (t'.below place) :=
  h.perm.filterMap _

/-- Below a place every place is listed once, since the parts in front are the same for all. -/
theorem Relisted.distinct_below (h : t.Relisted t') (place : List String) :
    Distinct (t.below place) := by
  have happend : ∀ e rest : Entry, (if place.isPrefixOf e.parts && e.parts.length != place.length
      then some { e with parts := e.parts.drop place.length } else none) = some rest →
      place ++ rest.parts = e.parts := by
    intro e rest hrest
    split at hrest
    · rename_i hbelow
      obtain rfl := Option.some.inj hrest
      have hprefix := List.isPrefixOf_iff_prefix.mp (Bool.and_eq_true_iff.mp hbelow).1
      exact List.prefix_iff_eq_append.mp hprefix
    · cases hrest
  unfold Distinct below
  rw [List.Nodup, List.pairwise_map, List.pairwise_filterMap]
  refine (List.pairwise_map.mp h.distinct).imp fun {a b} hne a' ha b' hb heq => hne ?_
  calc a.parts
      = place ++ a'.parts := (happend a a' ha).symm
    _ = place ++ b'.parts := by rw [heq]
    _ = b.parts := happend b b' hb

end Tree

namespace Build

variable {tree tree' : Tree} {directory : Path} {options : BuildOptions} {exclusions : List String}

/-! ## Builds of directories -/

/-- A build of a directory has read the sources that are asked for, one after the other. -/
theorem exists_processed [Source.Reader] {b : Build}
    (h : ofDirectory tree directory options exclusions = .ok b) :
    ∃ place, tree.locate? directory = some place ∧
      Declarations.providersOf
        (accepted directory options.marker (asked exclusions (tree.below place))) =
          .ok b.providers ∧
      b.failures = leftOut directory options.marker (asked exclusions (tree.below place)) ∧
      b.filesScanned =
        (accepted directory options.marker (asked exclusions (tree.below place))).length := by
  unfold ofDirectory at h
  cases hplace : tree.locate? directory with
  | none =>
    rw [hplace] at h
    cases h
  | some place =>
    rw [hplace] at h
    dsimp only at h
    split at h
    · obtain ⟨-, -, providers, built, hread, hbuilt, rfl⟩ := ofEntries_eq_ok_iff.mp h
      -- The container keeps the providers as they were read, since populating it does not fail.
      obtain ⟨ds, c, hproviders, -⟩ := exists_ofProviders options.rootMethod
        (Declarations.yields_providersOf _ providers hread)
      obtain rfl := Except.ok.inj (hbuilt.symm.trans hproviders)
      exact ⟨place, rfl, hread, rfl, rfl⟩
    · cases h

/-- A directory of two trees is built in the same way. -/
structure SameProcessing [Source.Reader] (tree tree' : Tree) (directory : Path)
    (options : BuildOptions) (exclusions : List String) : Prop where
  /-- The path leads to the same place. -/
  located : tree.locate? directory = tree'.locate? directory
  /-- The same sources are asked for below each place. -/
  asked : ∀ place, asked exclusions (tree.below place) = asked exclusions (tree'.below place)
  /-- They stand in the order of their parts. -/
  ordered : ∀ place, Ordered (Build.asked exclusions (tree.below place))
  /-- There is no other arrangement of them in this order. -/
  unique : ∀ place es, es.Perm (Build.asked exclusions (tree.below place)) → Ordered es →
    es = Build.asked exclusions (tree.below place)
  /-- A build has the providers of these sources and leaves out those that cannot be read, both in
  this order. -/
  processed : ∀ b, ofDirectory tree directory options exclusions = .ok b →
    ∃ place, tree.locate? directory = some place ∧
      Declarations.providersOf
        (accepted directory options.marker (Build.asked exclusions (tree.below place))) =
          .ok b.providers ∧
      b.failures = leftOut directory options.marker (Build.asked exclusions (tree.below place)) ∧
      b.filesScanned =
        (accepted directory options.marker (Build.asked exclusions (tree.below place))).length
  /-- What comes of it is the same: the container with the numbers of its nodes and its root, the
  providers, the diagnostics, the files that were left out and how many were read, or the error. -/
  result : ofDirectory tree directory options exclusions =
    ofDirectory tree' directory options exclusions

/-- A directory is built in the same way, in whichever order its tree is listed. -/
theorem sameProcessing [Source.Reader] (h : tree.Relisted tree') (directory : Path)
    (options : BuildOptions) (exclusions : List String) :
    SameProcessing tree tree' directory options exclusions where
  located := h.locate?_eq directory
  asked place := asked_eq_of_perm (h.distinct_below place) (h.perm_below place)
  ordered place := ordered_asked (h.distinct_below place)
  unique place es hperm hes := hes.eq_of_perm (ordered_asked (h.distinct_below place)) hperm
  processed b hb := exists_processed hb
  result := by
    unfold ofDirectory
    rw [h.locate?_eq]
    cases tree'.locate? directory with
    | none => rfl
    | some place =>
      dsimp only
      rw [h.isDirectory_eq, ofEntries_eq_of_perm (h.distinct_below place) (h.perm_below place)]

/-- A package beside a module of its name. -/
def packaged : Tree where
  entries := [
    { plain with parts := ["app.py"] },
    { plain with parts := ["app", "core.py"] },
    ⟨["app"], none⟩]

/-- Listed backwards it is built in the same way. What is in the package comes first, since `app`
stands before `app.py`, though the spelling `app/core.py` stands behind it. -/
theorem sameProcessing_packaged :
    SameProcessing packaged ⟨packaged.entries.reverse⟩ {} {} defaultExclusions ∧
      (asked defaultExclusions (packaged.below [])).map (·.parts) =
        [["app", "core.py"], ["app.py"]] := by
  have hrelisted : packaged.Relisted ⟨packaged.entries.reverse⟩ :=
    ⟨(List.reverse_perm _).symm, by unfold Distinct; decide +kernel⟩
  refine ⟨sameProcessing hrelisted {} {} defaultExclusions, ?_⟩
  -- Sorting does not evaluate, but there is one order only, and it can be written down.
  have hsources : sources (packaged.below []) =
      [{ plain with parts := ["app", "core.py"] }, { plain with parts := ["app.py"] }] := by
    refine (ordered_sources (hrelisted.distinct_below [])).eq_of_perm ?_ ?_
    · unfold Ordered
      decide +kernel
    · exact (perm_sources _).trans (by decide +kernel)
  unfold asked
  rw [hsources]
  decide +kernel

end Build

end Wiring
