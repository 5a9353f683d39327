import Wiring.CommandLine.Basic
import Wiring.Proofs.Container.Unmet
import Wiring.Proofs.Failure
import Wiring.Proofs.Project.Build

/-!
# When a check passes

A check passes exactly if the build has no fault of its own, its graph has no cycle at all, and the
console can print what is said of it; then there is a build order (`exitCode_check_eq_zero_iff`). The
converse fails: a cycle among providers that the root does not need does not keep the others from
being ordered, and yet the check reports it (`check_unneeded`).

The exit code of a report depends on the count of its problems alone (`yields_check`). That there is
a report if there are no problems needs the text of the root type, which every well-formed type has.
-/

namespace Wiring

open Relation

/-- Nothing is wrong with a build, cycles left aside. -/
structure Build.Faultless (b : Build) : Prop where
  /-- No provider failed. -/
  diagnostics : b.diagnostics = []
  /-- No file was left out. -/
  failures : b.failures = []
  /-- There is a root. -/
  hasRoot : b.container.hasRoot = true
  /-- All that is required is provided. -/
  unsatisfied : b.container.unsatisfied = []

/-! ## Build orders of acyclic graphs -/

namespace Container

variable {c : Container} {r : Node}

/-- With a root and without any cycle there is a build order. -/
theorem exists_buildOrder (hc : c.withMissing.Consistent) (hr : c.root? = some r)
    (hnone : ¬ ∃ n, TransGen c.withMissing.Link n n) :
    ∃ order, (buildOrder.run.run c).1 = .ok order := by
  -- A cycle of what the root needs would be one of the whole graph.
  have hnoneWithin : ¬ ∃ n, TransGen (c.withMissing.Within r) n n := by
    rintro ⟨n, hself⟩
    exact hnone ⟨n, hself.lift id fun _ _ h => h.1⟩
  exact (exists_buildOrder_iff hc).mpr ⟨r, hr, hnoneWithin⟩

end Container

/-! ## The report -/

namespace Report

open Container

variable {b : Build}

/-- A check shows the root and the cycle in a frame and has the lines on unsatisfied types and on
other problems behind it. Its exit code says whether there are problems. -/
theorem exists_check_eq (b : Build) : ∃ panel : String → String → Printed, check b = do
    let root ← rootText b.container.withMissing
    let cycle ← cycleText (findCycle.run b.container).1
    let lines ← b.container.unsatisfied.mapM
      (unmetLine b.container.withMissing (missing.run b.container).1)
    return {
      exitCode := if problemCount b b.container.unsatisfied.length
        (findCycle.run b.container).1 == 0 then 0 else 1
      printed := panel root cycle :: lines ++ problemLines b } := by
  have hedges : (edgeCount.run b.container).2 = b.container.withMissing := rfl
  unfold check
  generalize edgeCount.run b.container = counted at hedges
  obtain ⟨edges, c⟩ := counted
  subst hedges
  dsimp only
  rw [findCycle_run_withMissing, unsatisfied_withMissing]
  dsimp only
  rw [missing_run_withMissing]
  exact ⟨_, rfl⟩

/-- The exit code of a report says whether there are problems. -/
theorem yields_check (b : Build) :
    Yields (fun outcome => outcome.exitCode =
      if problemCount b b.container.unsatisfied.length (findCycle.run b.container).1 == 0
      then 0 else 1) (check b) := by
  obtain ⟨panel, hcheck⟩ := exists_check_eq b
  rw [hcheck]
  -- The texts of the report do not matter.
  refine Yields.bind (fun _ _ => trivial) fun _ _ => ?_
  refine Yields.bind (fun _ _ => trivial) fun _ _ => ?_
  refine Yields.bind (fun _ _ => trivial) fun _ _ => ?_
  exact Yields.pure rfl

/-- There are no problems exactly if nothing is wrong and no cycle was found. -/
theorem problemCount_eq_zero_iff {cycle : List Node} :
    problemCount b b.container.unsatisfied.length cycle = 0 ↔ b.Faultless ∧ cycle = [] := by
  have hroot : (if b.container.hasRoot then 0 else 1) = 0 ↔ b.container.hasRoot = true := by
    cases b.container.hasRoot <;> simp
  have hcycle : (if cycle.isEmpty then 0 else 1) = 0 ↔ cycle = [] := by
    cases cycle <;> simp
  unfold problemCount
  simp only [Nat.add_eq_zero_iff, hroot, hcycle, List.length_eq_zero_iff]
  constructor
  · rintro ⟨⟨⟨⟨hroot, hunmet⟩, hcycle⟩, hdiagnostics⟩, hfailures⟩
    exact ⟨⟨hdiagnostics, hfailures, hroot, hunmet⟩, hcycle⟩
  · rintro ⟨h, hcycle⟩
    exact ⟨⟨⟨⟨h.hasRoot, h.unsatisfied⟩, hcycle⟩, h.diagnostics⟩, h.failures⟩

/-- A node whose requirements are well-formed has a label. -/
theorem exists_label_of_requires {n : Node} (h : ∀ t ∈ n.requires, t.WellFormed) :
    ∃ l, label n = .ok l := by
  unfold label
  cases hrole : n.role with
  | provider p => exact ⟨_, rfl⟩
  | missing => exact ⟨_, rfl⟩
  | root type =>
    have htype : type ∈ n.requires := by
      rw [Node.requires, hrole]
      exact List.mem_singleton_self type
    obtain ⟨text, htext⟩ := TypeKey.exists_text type (h type htype)
    exact ⟨_, bind_eq_ok_iff.mpr ⟨text, htext, rfl⟩⟩

/-- The root has a text if it is well-formed. -/
theorem exists_rootText_of_rootType {c : Container}
    (h : ∀ t, c.rootType? = some t → t.WellFormed) :
    ∃ s, rootText c = .ok s := by
  unfold rootText
  cases hroot : c.rootType? with
  | none => exact ⟨_, rfl⟩
  | some type => exact TypeKey.exists_text type (h type hroot)

/-- The root of a sound build has a text. -/
theorem exists_rootText (hb : b.Sound) : ∃ s, rootText b.container.withMissing = .ok s := by
  refine exists_rootText_of_rootType fun t ht => hb.root t ?_
  rwa [rootType?_withMissing] at ht

/-- A sound build without problems has a report. -/
theorem exists_check (hb : b.Sound) (hfaultless : b.Faultless)
    (hcycle : (findCycle.run b.container).1 = []) : ∃ outcome, check b = .ok outcome := by
  obtain ⟨s, hs⟩ := exists_rootText hb
  obtain ⟨panel, hcheck⟩ := exists_check_eq b
  rw [hcheck, hs, hcycle, hfaultless.unsatisfied]
  exact ⟨_, rfl⟩

/-- A sound build is reported to have no problem exactly if nothing is wrong with it and its graph
has no cycle. -/
theorem exists_check_iff (hb : b.Sound) :
    (∃ outcome, check b = .ok outcome ∧ outcome.exitCode = 0) ↔
      b.Faultless ∧ ¬ ∃ n, TransGen b.container.withMissing.Link n n := by
  rw [← findCycle_run_eq_nil_iff hb.reachable.withMissing.consistent, ← problemCount_eq_zero_iff]
  constructor
  · rintro ⟨outcome, hcheck, hexit⟩
    by_contra hcount
    rw [yields_check b outcome hcheck, if_neg (by simpa using hcount)] at hexit
    cases hexit
  · intro hcount
    obtain ⟨hfaultless, hcycle⟩ := problemCount_eq_zero_iff.mp hcount
    obtain ⟨outcome, hcheck⟩ := exists_check hb hfaultless hcycle
    refine ⟨outcome, hcheck, ?_⟩
    rw [yields_check b outcome hcheck, if_pos (by simpa using hcount)]

end Report

/-! ## The command -/

namespace CommandLine

open Source (Reader)

/-- Every build of the command line is assembled. -/
theorem yields_build [Reader] (tree : Tree) (path : Path) (options : BuildOptions) :
    Yields (Build.Assembled options.rootMethod) (build tree path options) := by
  unfold build
  split
  · exact Build.yields_ofEntries _ _ _ _
  · exact Yields.bind (fun _ _ => trivial) fun _ _ => Build.yields_ofText _ _ _ _

/-- Without a build the exit code is not zero. -/
theorem exitCode_failure (e : BuildError) : (failure e).exitCode ≠ 0 := by
  unfold failure
  split
  · decide
  · cases e.message? with
    | none => decide
    | some message => exact Nat.one_ne_zero

/-- What a command hands to the console has the exit code zero exactly if there is a report that has
it. -/
theorem exitCode_content_iff [Reader] (tree : Tree) (path : Path) (options : BuildOptions)
    (command : Command) :
    (content tree path options command).exitCode = 0 ↔
      ∃ b, build tree path options = .ok b ∧
        ∃ outcome, report b command = .ok outcome ∧ outcome.exitCode = 0 := by
  unfold content
  cases build tree path options with
  | error e =>
    constructor
    · intro hexit
      exact absurd hexit (exitCode_failure e)
    · rintro ⟨b, hb, -⟩
      cases hb
  | ok b =>
    dsimp only
    cases hreport : report b command with
    | error e =>
      constructor
      · rintro ⟨⟩
      · rintro ⟨_, ⟨⟩, outcome, houtcome, -⟩
        rw [hreport] at houtcome
        cases houtcome
    | ok outcome =>
      constructor
      · intro hexit
        exact ⟨b, rfl, outcome, hreport, hexit⟩
      · rintro ⟨_, ⟨⟩, outcome', houtcome, hexit⟩
        rw [hreport] at houtcome
        cases houtcome
        exact hexit

/-- What a check of a build hands to the console has the exit code zero exactly if there is a report
that has it. -/
theorem exitCode_check_iff [Reader] (tree : Tree) (path : Path) (options : BuildOptions) :
    (content tree path options .check).exitCode = 0 ↔
      ∃ b, build tree path options = .ok b ∧
        ∃ outcome, Report.check b = .ok outcome ∧ outcome.exitCode = 0 := by
  rw [exitCode_content_iff]
  simp only [report, mapError_eq_ok_iff]

/-- A check has nothing to complain of exactly if there is a build with which nothing is wrong and
whose whole graph has no cycle. Then there is a build order. -/
theorem exitCode_content_check_iff [Reader] (tree : Tree) (path : Path) (options : BuildOptions) :
    (content tree path options .check).exitCode = 0 ↔
      ∃ b order, build tree path options = .ok b ∧ b.Faultless ∧
        (¬ ∃ n, TransGen b.container.withMissing.Link n n) ∧
        (Container.buildOrder.run.run b.container).1 = .ok order := by
  have hassembled := yields_build tree path options
  rw [exitCode_check_iff]
  constructor
  · rintro ⟨b, hbuild, hcheck⟩
    have hb := (hassembled b hbuild).sound
    obtain ⟨hfaultless, hnone⟩ := (Report.exists_check_iff hb).mp hcheck
    obtain ⟨t, ht⟩ := Option.isSome_iff_exists.mp hfaultless.hasRoot
    obtain ⟨r, hr⟩ := Container.exists_root? ht
    obtain ⟨order, horder⟩ :=
      Container.exists_buildOrder hb.reachable.withMissing.consistent hr hnone
    exact ⟨b, order, hbuild, hfaultless, hnone, horder⟩
  · rintro ⟨b, -, hbuild, hfaultless, hnone, -⟩
    have hb := (hassembled b hbuild).sound
    exact ⟨b, hbuild, (Report.exists_check_iff hb).mpr ⟨hfaultless, hnone⟩⟩

/-- A check passes exactly if there is a build with which nothing is wrong and whose whole graph has
no cycle, and the console can print the report on it. Then there is a build order. -/
theorem exitCode_check_eq_zero_iff [Reader] (console : Console) (tree : Tree) (path : Path)
    (options : BuildOptions) :
    (execute console tree path options .check).exitCode = 0 ↔
      (∃ b order, build tree path options = .ok b ∧ b.Faultless ∧
        (¬ ∃ n, TransGen b.container.withMissing.Link n n) ∧
        (Container.buildOrder.run.run b.container).1 = .ok order) ∧
      console.printsAll (content tree path options .check).printed = true := by
  rw [execute, Console.exitCode_display_eq_zero_iff, exitCode_content_check_iff]

/-- The providers of a root that needs nothing and of two types that need each other. -/
def unneeded : List Provider :=
  [{ name := "new_app", results := [.named "App" "" [⟨"run", 0, 0⟩]] },
    { name := "new_a", params := [.basic "B"], results := [.basic "A"] },
    { name := "new_b", params := [.basic "A"], results := [.basic "B"] }]

/-- The build of these providers. -/
def unneededBuild : Build where
  container := (Container.new "run").after (unneeded.map .addProvider)
  providers := unneeded
  diagnostics := []

/-- A cycle that the root does not need fails the check, although nothing else is wrong and there is
a build order. -/
theorem check_unneeded :
    Build.ofProviders "run" unneeded = .ok unneededBuild ∧ unneededBuild.Faultless ∧
      (∃ order, (Container.buildOrder.run.run unneededBuild.container).1 = .ok order) ∧
      ∃ outcome, report unneededBuild .check = .ok outcome ∧ outcome.exitCode = 1 := by
  have hexit : (report unneededBuild .check).toOption.map (·.exitCode) = some 1 := by
    decide +kernel
  have horder :
      ((Container.buildOrder.run.run unneededBuild.container).1.toOption).isSome = true := by
    decide +kernel
  refine ⟨rfl, ⟨rfl, rfl, rfl, rfl⟩, ?_, ?_⟩
  · cases h : (Container.buildOrder.run.run unneededBuild.container).1 with
    | error e =>
      rw [h] at horder
      cases horder
    | ok order => exact ⟨order, rfl⟩
  · cases h : report unneededBuild .check with
    | error e =>
      rw [h] at hexit
      cases hexit
    | ok outcome =>
      rw [h] at hexit
      exact ⟨outcome, rfl, Option.some.inj hexit⟩

end CommandLine

end Wiring
