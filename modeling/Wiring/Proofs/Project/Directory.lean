import Wiring.Proofs.Container.Diagnostics
import Wiring.Proofs.Declaration.Annotation
import Wiring.Proofs.Project.Build
import Wiring.Proofs.Project.Import

/-!
# What a build of a directory accounts for

Every source below a directory is either read or listed among the failures, and every provider of
what is read is in the container or reported (`Accounts`). There are two ways in which there is no
build, though, and no other one (`ofDirectory_outcome`): reading breaks off on the text of a source,
or a literal that is read for an annotation denotes no text, or one on which reading breaks off. It
does not matter in which of the sources that is. What the reader takes for a text that it cannot
read, and where it breaks off, is left open.
-/

namespace Wiring

/-- Patterns that ask for something decide on every path. -/
theorem Pattern.isSome_anyAccepts? {patterns : List String}
    (h : ∀ text ∈ patterns, (Pattern.ofString? text).isSome) (parts : List String) :
    (Pattern.anyAccepts? patterns parts).isSome := by
  induction patterns with
  | nil => rfl
  | cons text patterns ih =>
    obtain ⟨p, hp⟩ := Option.isSome_iff_exists.mp (h text List.mem_cons_self)
    rw [anyAccepts?, hp]
    dsimp only
    split
    · rfl
    · exact ih fun t ht => h t (List.mem_cons_of_mem text ht)

namespace Build

open Source (Expr Literal.value LiteralFault Reader Stmt)

variable {tree : Tree} {directory : Path} {place : List String} {entries : List Entry}
  {options : BuildOptions} {exclusions : List String} {marker : String} {e : Entry} {b : Build}

/-! ## The sources of a directory -/

/-- The sources among the entries that no pattern excludes. -/
def asked (exclusions : List String) (entries : List Entry) : List Entry :=
  (sources entries).filter fun e => Pattern.anyAccepts? exclusions e.parts == some false

/-- Well-formed providers make a build. -/
theorem exists_ofProviders (rootMethod : String) {providers : List Provider}
    (hproviders : ∀ p ∈ providers, p.WellFormed) :
    ∃ diagnostics container, ofProviders rootMethod providers =
        .ok { container, providers, diagnostics } ∧
      (Container.new rootMethod).Populated providers diagnostics container := by
  have hnew : Container.Reachable (.new rootMethod) := ⟨rootMethod, 0, [], rfl⟩
  obtain ⟨ds, hrun, hds⟩ := Container.populate_run (c := .new rootMethod) fun f hf =>
    Provider.exists_message_of_mem_faults hproviders (by rintro _ ⟨⟩) hf
  refine ⟨ds, _, ?_, hnew.populated hrun hds⟩
  unfold ofProviders
  rw [hrun]

section Reading

variable [Reader]

/-- What the sources that can be read declare. -/
def accepted (directory : Path) (marker : String) (entries : List Entry) : List Declarations :=
  entries.filterMap fun e => (declarationsOf directory marker e).toOption

/-- The sources that are left out, each with the reason. -/
def leftOut (directory : Path) (marker : String) (entries : List Entry) : List (Path × FileFault) :=
  entries.filterMap fun e =>
    match declarationsOf directory marker e with
    | .error (.leftOut fault) => some (directory.join e.parts, fault)
    | _ => none

/-- The source has a text on which reading breaks off. -/
def BreaksOff (directory : Path) (e : Entry) : Prop :=
  ∃ text, e.read (directory.join e.parts) = .ok text ∧ Stmt.read text.toList = .error .brokenOff

/-- This is how reading a source breaks off. -/
theorem declarationsOf_eq_brokenOff_iff :
    declarationsOf directory marker e = .error .brokenOff ↔ BreaksOff directory e := by
  unfold BreaksOff
  cases hread : e.read (directory.join e.parts) with
  | error fault =>
    have hunread : declarationsOf directory marker e = .error (.leftOut (.unread fault)) := by
      unfold declarationsOf
      dsimp only
      rw [hread]
      rfl
    simp [hunread]
  | ok text =>
    rw [declarationsOf_eq_read hread]
    cases hstmts : Stmt.read text.toList with
    | error fault => cases fault <;> simp [hstmts, SourceFault.ofSyntax, Except.mapError]
    | ok stmts => simp [hstmts, Except.mapError]

/-- Reading does not break off on a source that declares something. -/
theorem not_breaksOff_of_isSome
    (h : (declarationsOf directory marker e).toOption.isSome = true) : ¬ BreaksOff directory e := by
  intro hbreaks
  rw [declarationsOf_eq_brokenOff_iff.mpr hbreaks] at h
  cases h

/-- Every source is read or left out, unless reading breaks off. -/
theorem length_accepted_add (h : ∀ e ∈ entries, ¬ BreaksOff directory e) :
    (accepted directory marker entries).length + (leftOut directory marker entries).length =
      entries.length := by
  induction entries with
  | nil => rfl
  | cons e entries ih =>
    obtain ⟨hfirst, hrest⟩ := List.forall_mem_cons.mp h
    rw [accepted, leftOut, List.filterMap_cons, List.filterMap_cons, List.length_cons, ← ih hrest]
    cases hread : declarationsOf directory marker e with
    | ok d => exact Nat.succ_add _ _
    | error fault =>
      cases fault with
      | leftOut fault => exact Nat.add_succ _ _
      | brokenOff => exact absurd (declarationsOf_eq_brokenOff_iff.mp hread) hfirst

/-! ## Reading one source after the other -/

/-- What comes of a source is its declarations, or why it is left out. -/
theorem failsBy_reading (directory : Path) (marker : String) (e : Entry) :
    FailsBy (fun err => err = .brokenOff ∧ BreaksOff directory e)
      (reading directory marker e) := by
  have hbreaks : BreaksOff directory e ↔ declarationsOf directory marker e = .error .brokenOff :=
    declarationsOf_eq_brokenOff_iff.symm
  rw [hbreaks]
  unfold reading
  split <;> rename_i hread
  · exact (FailsBy.of_ok rfl).congr fun err => by simp [hread]
  · exact (FailsBy.of_ok rfl).congr fun err => by simp [hread]
  · exact (FailsBy.refl (.error BuildError.brokenOff)).congr fun err => by simp [hread, eq_comm]

/-- Where the patterns decide, those sources are read that they do not exclude. -/
theorem readings_eq_mapM
    (h : ∀ e ∈ entries, (Pattern.anyAccepts? exclusions e.parts).isSome = true) :
    readings directory marker exclusions entries =
      (entries.filter fun e => Pattern.anyAccepts? exclusions e.parts == some false).mapM fun e =>
        Prod.mk (directory.join e.parts) <$> reading directory marker e := by
  induction entries with
  | nil => rfl
  | cons e entries ih =>
    obtain ⟨hfirst, hrest⟩ := List.forall_mem_cons.mp h
    obtain ⟨excluded, hexcluded⟩ := Option.isSome_iff_exists.mp hfirst
    rw [readings, hexcluded, List.filter_cons, hexcluded]
    cases excluded with
    | true => exact ih hrest
    | false =>
      dsimp only
      rw [ih hrest, if_pos (by rfl), List.mapM_cons]
      cases reading directory marker e with
      | error err => rfl
      | ok first => rfl

/-- They have to decide on each source, if all are read. -/
theorem isSome_of_readings {rs : List (Path × Except FileFault Declarations)}
    (h : readings directory marker exclusions entries = .ok rs) :
    ∀ e ∈ entries, (Pattern.anyAccepts? exclusions e.parts).isSome = true := by
  induction entries generalizing rs with
  | nil => exact fun e he => nomatch he
  | cons e entries ih =>
    rw [readings] at h
    rw [List.forall_mem_cons]
    cases hexcluded : Pattern.anyAccepts? exclusions e.parts with
    | none =>
      rw [hexcluded] at h
      cases h
    | some excluded =>
      rw [hexcluded] at h
      refine ⟨rfl, ?_⟩
      cases excluded with
      | true => exact ih h
      | false =>
        obtain ⟨first, -, hrest⟩ := bind_eq_ok_iff.mp h
        obtain ⟨rest, hrest, -⟩ := bind_eq_ok_iff.mp hrest
        exact ih hrest

/-- What was read is what the sources declare, and the rest is left out. -/
theorem filterMap_of_mapM {rs : List (Path × Except FileFault Declarations)}
    (h : (entries.mapM fun e => Prod.mk (directory.join e.parts) <$> reading directory marker e) =
      .ok rs) :
    rs.filterMap (fun (_, r) => r.toOption) = accepted directory marker entries ∧
    rs.filterMap (fun (path, r) =>
        match r with
        | .ok _ => none
        | .error fault => some (path, fault)) =
      leftOut directory marker entries := by
  induction mapM_eq_ok_iff.mp h with
  | nil => exact ⟨rfl, rfl⟩
  | @cons e r entries rs hfirst hrest ih =>
    obtain ⟨haccepted, hleftOut⟩ := ih (mapM_eq_ok_iff.mpr hrest)
    unfold accepted leftOut at *
    rw [List.filterMap_cons, List.filterMap_cons, List.filterMap_cons, List.filterMap_cons,
      haccepted, hleftOut]
    unfold reading at hfirst
    cases hread : declarationsOf directory marker e with
    | ok d =>
      rw [hread] at hfirst
      obtain rfl := Except.ok.inj hfirst
      exact ⟨rfl, rfl⟩
    | error fault =>
      rw [hread] at hfirst
      cases fault with
      | leftOut fault =>
        obtain rfl := Except.ok.inj hfirst
        exact ⟨rfl, rfl⟩
      | brokenOff => cases hfirst

/-- Reading sources fails if reading breaks off on one of those that are asked for. -/
theorem failsBy_readings (directory : Path) (marker : String)
    (h : ∀ e ∈ sources entries, (Pattern.anyAccepts? exclusions e.parts).isSome = true) :
    FailsBy (fun err => err = .brokenOff ∧ ∃ e ∈ asked exclusions entries, BreaksOff directory e)
      (readings directory marker exclusions (sources entries)) := by
  rw [readings_eq_mapM h]
  refine (FailsBy.mapM fun e _ => (failsBy_reading directory marker e).map _).congr fun err => ?_
  constructor
  · rintro ⟨e, he, rfl, hbreaks⟩
    exact ⟨rfl, e, he, hbreaks⟩
  · rintro ⟨rfl, e, he, hbreaks⟩
    exact ⟨e, he, rfl, hbreaks⟩

/-- The sources are read exactly if the patterns decide on each of them, and reading breaks off on
none that is asked for. -/
theorem exists_readings_iff (directory : Path) (marker : String) :
    (∃ rs, readings directory marker exclusions (sources entries) = .ok rs) ↔
      (∀ e ∈ sources entries, (Pattern.anyAccepts? exclusions e.parts).isSome = true) ∧
        ∀ e ∈ asked exclusions entries, ¬ BreaksOff directory e := by
  constructor
  · rintro ⟨rs, hrs⟩
    have hdecided := isSome_of_readings hrs
    refine ⟨hdecided, fun e he hbreaks => ?_⟩
    exact (failsBy_readings directory marker hdecided).exists_ok_iff.mp ⟨rs, hrs⟩ _
      ⟨rfl, e, he, hbreaks⟩
  · rintro ⟨hdecided, hnone⟩
    refine (failsBy_readings directory marker hdecided).exists_ok_iff.mpr ?_
    rintro _ ⟨-, e, he, hbreaks⟩
    exact hnone e he hbreaks

/-! ## The outcome -/

/-- A build of sources below a directory accounts for all of them. -/
structure Accounts (directory : Path) (options : BuildOptions) (entries : List Entry) (b : Build) :
    Prop where
  /-- The sources that can be read are counted. -/
  scanned : b.filesScanned = (accepted directory options.marker entries).length
  /-- The others are listed, each with the reason. -/
  failures : b.failures = leftOut directory options.marker entries
  /-- There are no other sources. -/
  counted : b.filesScanned + b.failures.length = entries.length
  /-- The providers are those of what was read. -/
  providers : Declarations.providersOf (accepted directory options.marker entries) = .ok b.providers
  /-- Each of them is in the container or reported. -/
  populated : (Container.new options.rootMethod).Populated b.providers b.diagnostics b.container

/-- How a build of sources below a directory ends. -/
structure Outcome (directory : Path) (options : BuildOptions) (entries : List Entry)
    (result : Except BuildError Build) : Prop where
  /-- There is a build exactly if reading breaks off on none of the sources, and no annotation of
  what can be read has a fault. -/
  exists_iff : (∃ b, result = .ok b) ↔ (∀ e ∈ entries, ¬ BreaksOff directory e) ∧
    ∀ d ∈ accepted directory options.marker entries, ∀ e ∈ d.annotations, ∀ f, ¬ e.HasFault f
  /-- It accounts for all sources. -/
  accounts : ∀ b, result = .ok b → Accounts directory options entries b
  /-- If reading breaks off, this is the reason why there is none. -/
  brokenOff_iff : result = .error .brokenOff ↔ ∃ e ∈ entries, BreaksOff directory e
  /-- Otherwise the reason is one of the faults. -/
  error : ∀ err, result = .error err → err = .brokenOff ∨
    ∃ d ∈ accepted directory options.marker entries, ∃ e ∈ d.annotations, ∃ f,
      e.HasFault f ∧ err = .literal f

/-- Once all sources are read, the providers of what they declare decide on the build. -/
theorem ofEntries_eq_of_readings {rs : List (Path × Except FileFault Declarations)}
    (h : readings directory options.marker exclusions (sources entries) = .ok rs) :
    ofEntries directory entries options exclusions = (do
      let entries := asked exclusions entries
      let modules := accepted directory options.marker entries
      let providers ← (Declarations.providersOf modules).mapError .literal
      let build ← ofProviders options.rootMethod providers
      return { build with
        failures := leftOut directory options.marker entries, filesScanned := modules.length }) := by
  have hrun := h
  rw [readings_eq_mapM (isSome_of_readings h)] at hrun
  obtain ⟨haccepted, hleftOut⟩ := filterMap_of_mapM hrun
  unfold ofEntries asked
  dsimp only
  rw [h, ← haccepted, ← hleftOut]
  rfl

/-- If not all of them are read, there is no build for the same reason. -/
theorem ofEntries_eq_error {err : BuildError}
    (h : readings directory options.marker exclusions (sources entries) = .error err) :
    ofEntries directory entries options exclusions = .error err := by
  unfold ofEntries
  rw [h]
  rfl

/-- There is a build of sources exactly if patterns decide on each, and reading breaks off on none
that is asked for. It is that of what they declare, with those that cannot be read beside it. -/
theorem ofEntries_eq_ok_iff : ofEntries directory entries options exclusions = .ok b ↔
    (∀ e ∈ sources entries, (Pattern.anyAccepts? exclusions e.parts).isSome = true) ∧
      (∀ e ∈ asked exclusions entries, ¬ BreaksOff directory e) ∧
      ∃ providers built,
        Declarations.providersOf (accepted directory options.marker (asked exclusions entries)) =
          .ok providers ∧
        ofProviders options.rootMethod providers = .ok built ∧
        b = { built with
          failures := leftOut directory options.marker (asked exclusions entries)
          filesScanned :=
            (accepted directory options.marker (asked exclusions entries)).length } := by
  rw [← and_assoc, ← exists_readings_iff directory options.marker]
  constructor
  · intro h
    obtain ⟨rs, hrs, -⟩ := bind_eq_ok_iff.mp h
    refine ⟨⟨rs, hrs⟩, ?_⟩
    rw [ofEntries_eq_of_readings hrs] at h
    obtain ⟨providers, hread, hbuild⟩ := bind_eq_ok_iff.mp h
    obtain ⟨built, hbuilt, hb⟩ := bind_eq_ok_iff.mp hbuild
    exact ⟨providers, built, mapError_eq_ok_iff.mp hread, hbuilt, (Except.ok.inj hb).symm⟩
  · rintro ⟨⟨rs, hrs⟩, providers, built, hread, hbuilt, rfl⟩
    rw [ofEntries_eq_of_readings hrs]
    exact bind_eq_ok_iff.mpr ⟨providers, mapError_eq_ok_iff.mpr hread,
      bind_eq_ok_iff.mpr ⟨built, hbuilt, rfl⟩⟩

/-- A build of sources accounts for those that are asked for. -/
theorem accounts_of_ofEntries (h : ofEntries directory entries options exclusions = .ok b) :
    Accounts directory options (asked exclusions entries) b := by
  obtain ⟨-, hnone, providers, built, hread, hbuilt, rfl⟩ := ofEntries_eq_ok_iff.mp h
  obtain ⟨ds, c, hproviders, hpopulated⟩ := exists_ofProviders options.rootMethod
    (Declarations.yields_providersOf _ providers hread)
  obtain rfl := Except.ok.inj (hbuilt.symm.trans hproviders)
  exact {
    scanned := rfl
    failures := rfl
    counted := length_accepted_add hnone
    providers := hread
    populated := hpopulated }

/-- What is wrong with reading sources or with the annotations in them is all that is wrong with a
build. -/
theorem failsBy_ofEntries (h : ∀ text ∈ exclusions, (Pattern.ofString? text).isSome) :
    FailsBy (fun err => (err = .brokenOff ∧ ∃ e ∈ asked exclusions entries, BreaksOff directory e) ∨
        ∃ d ∈ accepted directory options.marker (asked exclusions entries), ∃ e ∈ d.annotations,
          ∃ f, e.HasFault f ∧ err = .literal f)
      (ofEntries directory entries options exclusions) := by
  have hdecided : ∀ e ∈ sources entries, (Pattern.anyAccepts? exclusions e.parts).isSome = true :=
    fun e _ => Pattern.isSome_anyAccepts? h e.parts
  have hreadings := failsBy_readings directory options.marker hdecided
  cases hrs : readings directory options.marker exclusions (sources entries) with
  | error err =>
    -- Reading comes before anything else, so there is no other way to fail.
    rw [ofEntries_eq_error hrs]
    refine ⟨?_, fun _ _ => ⟨err, rfl⟩⟩
    rintro _ ⟨⟩
    exact Or.inl (hreadings.of_error err hrs)
  | ok rs =>
    have hnone := hreadings.exists_ok_iff.mp ⟨rs, hrs⟩
    have hproviders := (Declarations.failsBy_providersOf
      (accepted directory options.marker (asked exclusions entries))).mapError BuildError.literal
    rw [ofEntries_eq_of_readings hrs]
    refine (hproviders.bind (G := fun _ _ => False) fun providers hread => ?_).congr fun err => ?_
    · -- Well-formed providers make a build.
      obtain ⟨ds, c, hbuilt, -⟩ := exists_ofProviders options.rootMethod
        (Declarations.yields_providersOf _ providers (mapError_eq_ok_iff.mp hread))
      rw [hbuilt]
      exact FailsBy.pure _
    · constructor
      · rintro (⟨f, ⟨d, hd, e, he, hfault⟩, rfl⟩ | ⟨_, _, ⟨⟩⟩)
        exact Or.inr ⟨d, hd, e, he, f, hfault, rfl⟩
      · rintro (hbreaks | ⟨d, hd, e, he, f, hfault, rfl⟩)
        · exact absurd hbreaks (hnone err)
        · exact Or.inl ⟨f, ⟨d, hd, e, he, hfault⟩, rfl⟩

/-- In which cases there is a build of sources. -/
theorem exists_ofEntries_iff (h : ∀ text ∈ exclusions, (Pattern.ofString? text).isSome) :
    (∃ b, ofEntries directory entries options exclusions = .ok b) ↔
      (∀ e ∈ asked exclusions entries, ¬ BreaksOff directory e) ∧
        ∀ d ∈ accepted directory options.marker (asked exclusions entries), ∀ e ∈ d.annotations,
          ∀ f, ¬ e.HasFault f := by
  rw [(failsBy_ofEntries h).exists_ok_iff]
  constructor
  · intro hnone
    exact ⟨fun e he hbreaks => hnone _ (Or.inl ⟨rfl, e, he, hbreaks⟩),
      fun d hd e he f hfault => hnone _ (Or.inr ⟨d, hd, e, he, f, hfault, rfl⟩)⟩
  · rintro ⟨hread, hnone⟩ err (⟨-, e, he, hbreaks⟩ | ⟨d, hd, e, he, f, hfault, -⟩)
    · exact hread e he hbreaks
    · exact hnone d hd e he f hfault

/-- In which cases there is none because reading breaks off. -/
theorem ofEntries_eq_brokenOff_iff (h : ∀ text ∈ exclusions, (Pattern.ofString? text).isSome) :
    ofEntries directory entries options exclusions = .error .brokenOff ↔
      ∃ e ∈ asked exclusions entries, BreaksOff directory e := by
  constructor
  · intro hrun
    rcases (failsBy_ofEntries h).of_error _ hrun with ⟨-, hbreaks⟩ | ⟨_, _, _, _, _, _, ⟨⟩⟩
    exact hbreaks
  · intro hbreaks
    -- All sources are read before any annotation is.
    have hreadings := failsBy_readings directory options.marker
      fun e (_ : e ∈ sources entries) => Pattern.isSome_anyAccepts? h e.parts
    obtain ⟨err, hrs⟩ := hreadings.exists_error _ ⟨rfl, hbreaks⟩
    obtain ⟨rfl, -⟩ := hreadings.of_error err hrs
    exact ofEntries_eq_error hrs

/-- Where a directory is, a build of it is one of the sources below. -/
theorem ofDirectory_eq (hplace : tree.locate? directory = some place)
    (hdirectory : tree.isDirectory place = true) :
    ofDirectory tree directory options exclusions =
      ofEntries directory (tree.below place) options exclusions := by
  unfold ofDirectory
  rw [hplace]
  exact if_pos hdirectory

/-- A build of the sources of a directory that is there ends in one of these ways. -/
theorem ofDirectory_outcome (hplace : tree.locate? directory = some place)
    (hdirectory : tree.isDirectory place = true)
    (hexclusions : ∀ text ∈ exclusions, (Pattern.ofString? text).isSome) :
    Outcome directory options (asked exclusions (tree.below place))
      (ofDirectory tree directory options exclusions) := by
  rw [ofDirectory_eq hplace hdirectory]
  exact {
    exists_iff := exists_ofEntries_iff hexclusions
    accounts := fun b hb => accounts_of_ofEntries hb
    brokenOff_iff := ofEntries_eq_brokenOff_iff hexclusions
    error := fun err herr => ((failsBy_ofEntries hexclusions).of_error err herr).imp_left And.left }

end Reading

/-- A text with an annotation of octets that encode no characters. -/
def strayText : String := "@provider\ndef new_key(raw: b'\\xff') -> int: ...\n"

/-- The source with it. -/
def stray : Entry := ⟨["bad.py"], some (strayText.toList.map (·.toNat))⟩

/-- A text in which nothing is wrong. -/
def plainText : String := "class Config: ...\n\n@provider\ndef new_config() -> Config: ...\n"

/-- A directory with the source and one of that text beside it. -/
def mixed : Tree where
  entries := [
    ⟨["src"], none⟩,
    { stray with parts := ["src", "bad.py"] },
    ⟨["src", "good.py"], some (plainText.toList.map (·.toNat))⟩]

/-- The first source can be read, and its annotation has a fault. -/
theorem exists_hasFault_mixed :
    ∃ d ∈ accepted { parts := ["src"] } "provider" (asked defaultExclusions (mixed.below ["src"])),
      ∃ e ∈ d.annotations, ∃ f, e.HasFault f := by
  have hbelow : stray ∈ (mixed.below ["src"]).filter (·.isSource) := by decide +kernel
  have hasked : stray ∈ asked defaultExclusions (mixed.below ["src"]) :=
    List.mem_filter.mpr ⟨List.mem_mergeSort.mpr hbelow, by decide +kernel⟩
  have hread : stray.read (Path.join { parts := ["src"] } stray.parts) = .ok strayText :=
    read_eq rfl (by decide +kernel) (by decide +kernel) _
  have hliteral : (Stmt.ofText? strayText.toList).any (fun stmts =>
      (Declarations.collect (Path.moduleNameOf stray.parts)
        (Path.join { parts := ["src"] } stray.parts).text "provider" stmts).annotations.any fun
        | .literal _ l => (Literal.value l.toList).toOption.isNone
        | _ => false) = true := by
    decide +kernel
  obtain ⟨stmts, hstmts, hany⟩ := (Option.any_eq_true _ _).mp hliteral
  obtain ⟨e, he, hvalue⟩ := List.any_eq_true.mp hany
  refine ⟨_, List.mem_filterMap.mpr ⟨stray, hasked, ?_⟩, e, he, ?_⟩
  · rw [declarationsOf_eq hread hstmts]
    rfl
  · cases e with
    | literal code l =>
      dsimp only at hvalue
      cases hl : Literal.value l.toList with
      | ok text =>
        rw [hl] at hvalue
        cases hvalue
      | error f => exact ⟨f, Expr.hasFault_literal_iff.mpr (Or.inl hl)⟩
    | _ => cases hvalue

/-- Reading breaks off on none of its sources. -/
theorem not_breaksOff_mixed :
    ∀ e ∈ asked defaultExclusions (mixed.below ["src"]), ¬ BreaksOff { parts := ["src"] } e := by
  have hread : ∀ e ∈ (mixed.below ["src"]).filter (·.isSource),
      (declarationsOf { parts := ["src"] } "provider" e).toOption.isSome = true := by
    decide +kernel
  intro e he
  exact not_breaksOff_of_isSome (hread e (List.mem_mergeSort.mp (List.mem_filter.mp he).1))

/-- A text in which octets follow a text. -/
def tornText : String := "x = 'a' b'c'\n"

/-- The source with it. -/
def torn : Entry := ⟨["torn.py"], some (tornText.toList.map (·.toNat))⟩

/-- A directory with the source and one in which nothing is wrong. -/
def withTorn : Tree where
  entries := [
    ⟨["src"], none⟩,
    { torn with parts := ["src", "torn.py"] },
    ⟨["src", "good.py"], some (plainText.toList.map (·.toNat))⟩]

/-- Reading breaks off on the text. -/
theorem breaksOff_torn : BreaksOff { parts := ["src"] } torn := by
  refine ⟨tornText, read_eq rfl (by decide +kernel) (by decide +kernel) _, ?_⟩
  have hparse : (Stmt.parse? tornText.toList).isSome = true := by decide +kernel
  have hobjection : Reader.objection? .statements tornText.toList = some .brokenOff := by
    decide +kernel
  obtain ⟨stmts, hstmts⟩ := Option.isSome_iff_exists.mp hparse
  rw [Stmt.read, hstmts, Reader.judge, hobjection]

/-- So there is no build of the one directory for the annotation, and none of the other because
reading breaks off. -/
theorem ofDirectory_outcome_mixed :
    (∃ f, ofDirectory mixed { parts := ["src"] } = .error (.literal f)) ∧
      ofDirectory withTorn { parts := ["src"] } = .error .brokenOff := by
  constructor
  · have houtcome : Outcome { parts := ["src"] } {} (asked defaultExclusions (mixed.below ["src"]))
        (ofDirectory mixed { parts := ["src"] }) :=
      ofDirectory_outcome (by decide +kernel) (by decide +kernel) (by decide +kernel)
    obtain ⟨d, hd, e, he, f, hfault⟩ := exists_hasFault_mixed
    cases hresult : ofDirectory mixed { parts := ["src"] } with
    | ok b => exact absurd hfault ((houtcome.exists_iff.mp ⟨b, hresult⟩).2 d hd e he f)
    | error err =>
      rcases houtcome.error err hresult with rfl | ⟨d, -, e, -, f, -, rfl⟩
      · obtain ⟨e, he, hbreaks⟩ := houtcome.brokenOff_iff.mp hresult
        exact absurd hbreaks (not_breaksOff_mixed e he)
      · exact ⟨f, rfl⟩
  · have houtcome : Outcome { parts := ["src"] } {}
        (asked defaultExclusions (withTorn.below ["src"]))
        (ofDirectory withTorn { parts := ["src"] }) :=
      ofDirectory_outcome (by decide +kernel) (by decide +kernel) (by decide +kernel)
    have hbelow : torn ∈ (withTorn.below ["src"]).filter (·.isSource) := by decide +kernel
    have hasked : torn ∈ asked defaultExclusions (withTorn.below ["src"]) :=
      List.mem_filter.mpr ⟨List.mem_mergeSort.mpr hbelow, by decide +kernel⟩
    exact houtcome.brokenOff_iff.mpr ⟨torn, hasked, breaksOff_torn⟩

end Build

end Wiring
