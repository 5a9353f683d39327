import Mathlib.Data.List.Forall2
import Wiring.Proofs.Project.Directory

/-!
# What the default patterns leave out

The parts of a pattern are compared with the last parts of a path, one by one, and two stars stand
for one part just as a single one does (`Pattern.accepts_iff`, `Glob.matchesAll_star_star`). So the
default patterns leave out what stands directly in a `__pycache__` directory, if that is not at the
top, and files whose name starts with a dot, if they are not at the top. All other sources are read,
in whatever directories they are: those in a `__pycache__` at the top or deeper inside of one, those
with a dot in front at the top, and those in directories with a dot in front
(`Build.ofDirectory_default`).
-/

namespace Wiring

/-! ## Matching a part -/

namespace Glob

variable {globs : List Glob} {c d : Char} {cs text : List Char}

/-- A star leaves any end of a text to the other pieces. -/
theorem matchesAll_star_iff :
    matchesAll (.star :: globs) text = true ↔
      ∃ n ≤ text.length, matchesAll globs (text.drop n) = true := by
  rw [matchesAll, List.any_eq_true]
  refine exists_congr fun n => and_congr_left fun _ => ?_
  rw [List.mem_range]
  omega

/-- One star matches everything. -/
theorem matchesAll_star (text : List Char) : matchesAll [.star] text = true := by
  refine matchesAll_star_iff.mpr ⟨text.length, le_refl _, ?_⟩
  rw [List.drop_length]
  rfl

/-- Two stars match no more than one. -/
theorem matchesAll_star_star (text : List Char) : matchesAll [.star, .star] text = true :=
  matchesAll_star_iff.mpr ⟨0, Nat.zero_le _, matchesAll_star text⟩

/-- The piece for one character. -/
def exactly (c : Char) : Glob := .among false [(c, c)]

/-- The piece for one character accepts that and no other. -/
theorem accepts_exactly_iff : (exactly d).accepts c = true ↔ c = d := by
  unfold exactly accepts
  simp only [List.any_cons, List.any_nil, Bool.or_false, Bool.false_bne, Bool.and_eq_true,
    decide_eq_true_eq]
  constructor
  · rintro ⟨hle, hge⟩
    exact Char.le_antisymm hge hle
  · rintro rfl
    exact ⟨Char.le_refl c, Char.le_refl c⟩

/-- Pieces for characters match these, and the others match what follows. -/
theorem matchesAll_exactly_iff :
    matchesAll (cs.map exactly ++ globs) text = true ↔
      ∃ rest, text = cs ++ rest ∧ matchesAll globs rest = true := by
  induction cs generalizing text with
  | nil => simp
  | cons d cs ih =>
    rw [List.map_cons, List.cons_append]
    cases text with
    | nil =>
      refine iff_of_false (by simp [exactly, matchesAll]) ?_
      rintro ⟨_, ⟨⟩, -⟩
    | cons c text =>
      have hstep : matchesAll (exactly d :: (cs.map exactly ++ globs)) (c :: text) =
          ((exactly d).accepts c && matchesAll (cs.map exactly ++ globs) text) := rfl
      rw [hstep, Bool.and_eq_true, accepts_exactly_iff, ih]
      constructor
      · rintro ⟨rfl, rest, rfl, hrest⟩
        exact ⟨rest, rfl, hrest⟩
      · rintro ⟨rest, htext, hrest⟩
        obtain ⟨rfl, rfl⟩ := List.cons.inj htext
        exact ⟨rfl, rest, rfl, hrest⟩

end Glob

/-! ## Matching a path -/

namespace Pattern

/-- All members of a list have what they need in the pairs with the start of another list exactly if
that start is there and they are related to it member by member. -/
theorem zip_all_iff {α β : Type} {f : α × β → Bool} {as : List α} {bs : List β} :
    as.length ≤ bs.length ∧ (as.zip bs).all f = true ↔
      ∃ start rest, bs = start ++ rest ∧ List.Forall₂ (fun a b => f (a, b) = true) as start := by
  induction as generalizing bs with
  | nil => simp
  | cons a as ih =>
    cases bs with
    | nil =>
      refine iff_of_false (by simp) ?_
      rintro ⟨start, rest, hbs, hstart⟩
      obtain ⟨rfl, -⟩ := List.append_eq_nil_iff.mp hbs.symm
      cases hstart
    | cons b bs =>
      rw [List.zip_cons_cons, List.all_cons, Bool.and_eq_true, List.length_cons, List.length_cons,
        Nat.add_le_add_iff_right, and_left_comm, ih]
      constructor
      · rintro ⟨hab, start, rest, rfl, hstart⟩
        exact ⟨b :: start, rest, rfl, List.Forall₂.cons hab hstart⟩
      · rintro ⟨start, rest, hbs, hstart⟩
        obtain ⟨b', start, hab, hrest, rfl⟩ := List.forall₂_cons_left_iff.mp hstart
        obtain ⟨rfl, rfl⟩ := List.cons.inj hbs
        exact ⟨hab, start, rest, rfl, hrest⟩

/-- A relative pattern matches a path exactly if its parts match the last parts of the path. -/
theorem accepts_iff {p : Pattern} {parts : List String} (hp : p.isAbsolute = false) :
    p.accepts parts = true ↔ ∃ front back, parts = front ++ back ∧
      List.Forall₂ (fun globs part => Glob.matchesAll globs part.toList = true) p.parts back := by
  have hlength : p.parts.length ≤ parts.length ↔ p.parts.reverse.length ≤ parts.reverse.length := by
    rw [List.length_reverse, List.length_reverse]
  unfold accepts
  rw [hp, Bool.not_false, Bool.true_and, Bool.and_eq_true, decide_eq_true_eq, hlength, zip_all_iff]
  -- The parts are compared from the last one on.
  constructor
  · rintro ⟨start, rest, hparts, hstart⟩
    refine ⟨rest.reverse, start.reverse, ?_, ?_⟩
    · rw [← List.reverse_append, ← hparts, List.reverse_reverse]
    · rw [← List.forall₂_reverse_iff, List.reverse_reverse]
      exact hstart
  · rintro ⟨front, back, rfl, hback⟩
    exact ⟨back.reverse, front.reverse, List.reverse_append, List.forall₂_reverse_iff.mpr hback⟩

end Pattern

namespace Build

variable {tree : Tree} {directory : Path} {place : List String} {entries : List Entry}
  {options : BuildOptions} {parts : List String} {e : Entry}

/-! ## The default patterns -/

/-- A file stands directly in a cache directory, and that is in another directory. -/
def IsCached (parts : List String) : Prop :=
  ∃ front outer name, parts = front ++ [outer, "__pycache__", name]

/-- The text starts with a dot. -/
def IsDotted (part : String) : Prop := part.toList.head? = some '.'

/-- A file has a name that starts with a dot and is in another directory. -/
def IsHidden (parts : List String) : Prop :=
  ∃ front outer name, parts = front ++ [outer, name] ∧ IsDotted name

/-- The pattern for what stands in cache directories. -/
def cachePattern : Pattern :=
  ⟨false, [[.star, .star], "__pycache__".toList.map Glob.exactly, [.star, .star]]⟩

/-- The pattern for names that start with a dot. -/
def hiddenPattern : Pattern := ⟨false, [[.star, .star], [Glob.exactly '.', .star]]⟩

/-- The one pattern matches what stands directly in a cache directory. -/
theorem accepts_cachePattern_iff : cachePattern.accepts parts = true ↔ IsCached parts := by
  rw [Pattern.accepts_iff rfl]
  unfold IsCached
  refine exists_congr fun front => ?_
  have hcache : ∀ part : String,
      Glob.matchesAll ("__pycache__".toList.map Glob.exactly) part.toList = true ↔
        part = "__pycache__" := by
    intro part
    rw [← List.append_nil ("__pycache__".toList.map Glob.exactly), Glob.matchesAll_exactly_iff,
      ← String.toList_inj]
    simp [Glob.matchesAll]
  constructor
  · rintro ⟨back, rfl, hback⟩
    obtain ⟨outer, inside, -, hinside, rfl⟩ := List.forall₂_cons_left_iff.mp hback
    obtain ⟨cache, names, hmatch, hnames, rfl⟩ := List.forall₂_cons_left_iff.mp hinside
    obtain ⟨name, rest, -, hrest, rfl⟩ := List.forall₂_cons_left_iff.mp hnames
    obtain rfl := List.forall₂_nil_left_iff.mp hrest
    obtain rfl := (hcache cache).mp hmatch
    exact ⟨outer, name, rfl⟩
  · rintro ⟨outer, name, rfl⟩
    refine ⟨_, rfl, ?_⟩
    exact .cons (Glob.matchesAll_star_star _) (.cons ((hcache _).mpr rfl)
      (.cons (Glob.matchesAll_star_star _) .nil))

/-- The other pattern matches names that start with a dot. -/
theorem accepts_hiddenPattern_iff : hiddenPattern.accepts parts = true ↔ IsHidden parts := by
  rw [Pattern.accepts_iff rfl]
  unfold IsHidden
  refine exists_congr fun front => ?_
  have hdot : ∀ part : String,
      Glob.matchesAll [Glob.exactly '.', .star] part.toList = true ↔ IsDotted part := by
    intro part
    have hpieces : [Glob.exactly '.', .star] = ['.'].map Glob.exactly ++ [.star] := rfl
    unfold IsDotted
    rw [hpieces, Glob.matchesAll_exactly_iff]
    simp only [Glob.matchesAll_star, and_true]
    cases part.toList with
    | nil => simp
    | cons c cs => simp
  constructor
  · rintro ⟨back, rfl, hback⟩
    obtain ⟨outer, names, -, hnames, rfl⟩ := List.forall₂_cons_left_iff.mp hback
    obtain ⟨name, rest, hmatch, hrest, rfl⟩ := List.forall₂_cons_left_iff.mp hnames
    obtain rfl := List.forall₂_nil_left_iff.mp hrest
    exact ⟨outer, name, rfl, (hdot name).mp hmatch⟩
  · rintro ⟨outer, name, rfl, hname⟩
    exact ⟨_, rfl, .cons (Glob.matchesAll_star_star _) (.cons ((hdot name).mpr hname) .nil)⟩

/-- The default patterns spare a path exactly if neither matches it. -/
theorem anyAccepts?_default_iff :
    (Pattern.anyAccepts? defaultExclusions parts == some false) = true ↔
      ¬ IsCached parts ∧ ¬ IsHidden parts := by
  have hcache : Pattern.ofString? "**/__pycache__/**" = some cachePattern := by decide
  have hhidden : Pattern.ofString? "**/.*" = some hiddenPattern := by decide
  unfold defaultExclusions
  rw [Pattern.anyAccepts?, hcache]
  dsimp only
  rw [Pattern.anyAccepts?, hhidden]
  dsimp only
  rw [Pattern.anyAccepts?, ← accepts_cachePattern_iff, ← accepts_hiddenPattern_iff]
  cases cachePattern.accepts parts with
  | true => simp
  | false =>
    cases hiddenPattern.accepts parts with
    | true => simp
    | false => simp

/-! ## What is read -/

/-- The path has a cache directory or a part that starts with a dot. -/
def Offends (parts : List String) : Prop :=
  "__pycache__" ∈ parts.dropLast ∨ ∃ part ∈ parts, IsDotted part

/-- The sources that the default patterns leave are those that neither matches. -/
theorem mem_asked_default_iff :
    e ∈ asked defaultExclusions entries ↔
      e ∈ entries ∧ e.isSource = true ∧ ¬ IsCached e.parts ∧ ¬ IsHidden e.parts := by
  rw [asked, List.mem_filter, anyAccepts?_default_iff, sources, List.mem_mergeSort,
    List.mem_filter, and_assoc]

/-- What is left out for the patterns has a cache directory or a part that starts with a dot. -/
theorem offends_of_excluded (h : IsCached parts ∨ IsHidden parts) : Offends parts := by
  rcases h with ⟨front, outer, name, rfl⟩ | ⟨front, outer, name, rfl, hname⟩
  · left
    have hsplit : front ++ [outer, "__pycache__", name] =
        front ++ [outer, "__pycache__"] ++ [name] := by simp
    rw [hsplit, List.dropLast_concat]
    simp
  · exact Or.inr ⟨name, by simp, hname⟩

/-- A build of a directory with the default patterns accounts for all sources but those that stand
directly in a cache directory or have a dot in front of their name, as far as these are not at the
top. What it leaves out has a cache directory or a part that starts with a dot, but not all of that
is left out. -/
theorem ofDirectory_default [Source.Reader] (hplace : tree.locate? directory = some place)
    (hdirectory : tree.isDirectory place = true) :
    (∀ b, ofDirectory tree directory options = .ok b →
        Accounts directory options (asked defaultExclusions (tree.below place)) b) ∧
      (∀ e, e ∈ asked defaultExclusions (tree.below place) ↔ e ∈ tree.below place ∧
        e.isSource = true ∧ ¬ IsCached e.parts ∧ ¬ IsHidden e.parts) ∧
      ∀ e ∈ tree.below place, e.isSource = true →
        e ∉ asked defaultExclusions (tree.below place) → Offends e.parts := by
  refine ⟨fun b hb => ?_, fun e => mem_asked_default_iff, ?_⟩
  · rw [ofDirectory_eq hplace hdirectory] at hb
    exact accounts_of_ofEntries hb
  · intro e hbelow hsource hread
    rw [mem_asked_default_iff] at hread
    have hexcluded : IsCached e.parts ∨ IsHidden e.parts := by
      by_contra hnone
      rw [not_or] at hnone
      exact hread ⟨hbelow, hsource, hnone⟩
    exact offends_of_excluded hexcluded

/-- A directory with sources in a cache directory at its top and in one further down, with one that
has a dot in front of its name, and with one in a directory that has. -/
def leftovers : Tree where
  entries := [
    ⟨["src"], none⟩,
    ⟨["src", "__pycache__"], none⟩,
    ⟨["src", "__pycache__", "stale.py"], some []⟩,
    ⟨["src", "app"], none⟩,
    ⟨["src", "app", "__pycache__"], none⟩,
    ⟨["src", "app", "__pycache__", "stale.py"], some []⟩,
    ⟨["src", ".draft.py"], some []⟩,
    ⟨["src", ".venv"], none⟩,
    ⟨["src", ".venv", "site.py"], some []⟩]

/-- All its sources can be read, and no type is asked for in them. -/
theorem exists_declarationsOf_leftovers :
    ∀ e ∈ leftovers.below ["src"], e.isSource = true →
      ∃ d, declarationsOf { parts := ["src"] } "provider" e = .ok d ∧ d.annotations = [] := by
  have hany : ∀ e ∈ leftovers.below ["src"], e.isSource = true →
      ((declarationsOf { parts := ["src"] } "provider" e).toOption.any
        fun d => d.annotations.isEmpty) = true := by
    decide +kernel
  intro e he hsource
  have hdeclarations := hany e he hsource
  cases hread : declarationsOf { parts := ["src"] } "provider" e with
  | error fault =>
    rw [hread] at hdeclarations
    cases hdeclarations
  | ok d =>
    rw [hread] at hdeclarations
    exact ⟨d, rfl, List.isEmpty_iff.mp hdeclarations⟩

/-- Of these only the one in the cache directory further down is left out. The others are read,
although each has a part that the default patterns are about. -/
theorem ofDirectory_default_leftovers :
    (∃ b, ofDirectory leftovers { parts := ["src"] } = .ok b ∧ b.filesScanned = 3) ∧
    ∀ parts ∈ [["__pycache__", "stale.py"], [".draft.py"], [".venv", "site.py"]],
      ⟨parts, some []⟩ ∈ asked defaultExclusions (leftovers.below ["src"]) ∧ Offends parts := by
  have hplace : leftovers.locate? { parts := ["src"] } = some ["src"] := by decide +kernel
  have hdirectory : leftovers.isDirectory ["src"] = true := by decide +kernel
  have hread : ∀ e ∈ asked defaultExclusions (leftovers.below ["src"]),
      ∃ d, declarationsOf { parts := ["src"] } "provider" e = .ok d ∧ d.annotations = [] := by
    intro e he
    obtain ⟨hbelow, hsource, -⟩ := mem_asked_default_iff.mp he
    exact exists_declarationsOf_leftovers e hbelow hsource
  -- The order of the sources does not matter for how many there are.
  have hlength : (asked defaultExclusions (leftovers.below ["src"])).length = 3 := by
    have hperm := (List.mergeSort_perm ((leftovers.below ["src"]).filter (·.isSource))
      fun a b => !Path.precedes b.parts a.parts).filter
        fun e => Pattern.anyAccepts? defaultExclusions e.parts == some false
    rw [asked, sources, hperm.length_eq]
    decide +kernel
  have hbuild : ∃ b, ofDirectory leftovers { parts := ["src"] } = .ok b := by
    rw [ofDirectory_eq hplace hdirectory, exists_ofEntries_iff (by decide)]
    constructor
    · intro e he
      obtain ⟨d, hd, -⟩ := hread e he
      exact not_breaksOff_of_isSome (Option.isSome_of_eq_some (congrArg Except.toOption hd))
    · intro d hd e he
      obtain ⟨entry, hentry, hd⟩ := List.mem_filterMap.mp hd
      obtain ⟨d', hd', hannotations⟩ := hread entry hentry
      rw [hd'] at hd
      obtain rfl := Option.some.inj hd
      rw [hannotations] at he
      cases he
  obtain ⟨b, hb⟩ := hbuild
  have haccounts : Accounts { parts := ["src"] } {}
      (asked defaultExclusions (leftovers.below ["src"])) b :=
    (ofDirectory_default hplace hdirectory).1 b hb
  have hfailures : b.failures = [] := by
    rw [haccounts.failures, leftOut, List.filterMap_eq_nil_iff]
    intro e he
    obtain ⟨d, hd, -⟩ := hread e he
    rw [hd]
  have hasked : ∀ parts ∈ [["__pycache__", "stale.py"], [".draft.py"], [".venv", "site.py"]],
      (⟨parts, some []⟩ : Entry) ∈ (leftovers.below ["src"]).filter (·.isSource) ∧
        (Pattern.anyAccepts? defaultExclusions parts == some false) = true := by decide +kernel
  refine ⟨⟨b, hb, ?_⟩, fun parts hparts => ⟨?_, ?_⟩⟩
  · have hcounted := haccounts.counted
    rw [hlength, hfailures] at hcounted
    exact hcounted
  · obtain ⟨hmem, hspared⟩ := hasked parts hparts
    exact List.mem_filter.mpr ⟨List.mem_mergeSort.mpr hmem, hspared⟩
  · simp only [List.mem_cons, List.not_mem_nil, or_false] at hparts
    rcases hparts with rfl | rfl | rfl
    · exact Or.inl List.mem_cons_self
    · exact Or.inr ⟨".draft.py", List.mem_cons_self, rfl⟩
    · exact Or.inr ⟨".venv", List.mem_cons_self, rfl⟩

end Build

end Wiring
