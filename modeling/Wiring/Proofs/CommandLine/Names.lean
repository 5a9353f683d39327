import Wiring.Proofs.CommandLine.Console
import Wiring.Proofs.CommandLine.Naming

/-!
# When the names are shown

There are names of the values exactly if there is a build order (`exitCode_names_iff`), and where
they are shown every value of it has a row and a variable of its own (`answer_names_spec`).

A check looks at the whole graph and at everything that is required, the names at what the root
needs. So a check that passes promises more than is needed: if no node has a path to itself, no node
that the root needs has one, and if nothing is unmet, the missing node provides nothing and no path
leads from it to the root. Then there is a table of names without any failure, and the exit code is
zero exactly if the console can print it (`answer_names_of_check`). The check itself does not print
the types that are provided, so it may pass where the text of one of them has a closing tag and the
table cannot be printed (`exitCode_names_closing`).
-/

namespace Wiring

namespace Container

variable {c : Container} {r : Node} {order : List Node}

/-- The list has all that the root needs, and every requirement is met by a provider in it. -/
structure MeetsAll (c : Container) (r : Node) (order : List Node) : Prop where
  /-- The nodes are the root and those that it transitively requires. -/
  mem_iff : ∀ n, n ∈ order ↔ c.Needed r n
  /-- None of them is the missing node. -/
  present : ∀ n ∈ order, n.role.isMissing = false
  /-- What a node requires is provided by a provider before it. -/
  provided : ∀ pre n post, order = pre ++ n :: post → ∀ t ∈ n.requires,
    ∃ u ∈ pre, ∃ p, u.role = .provider p ∧ p.provides.contains t = true

/-- A build order where nothing is unsatisfied meets all requirements by providers. -/
theorem IsBuildOrder.meetsAll (h : c.IsBuildOrder r order) (hc : c.Consistent) (hr : r ∈ c.members)
    (hmet : c.unsatisfied = []) : c.MeetsAll r order := by
  have hpresent : ∀ n ∈ order, n.role.isMissing = false := by
    intro n hn
    rw [Bool.eq_false_iff]
    intro hmissing
    -- The missing node is listed only for a type that is unmet, and this would be unsatisfied.
    obtain ⟨m, hm, t, ht, hunmet⟩ := h.missing.mp ⟨n, hn, hmissing⟩
    have hunsatisfied : c.unsatisfied.contains t = true :=
      (contains_unsatisfied_iff hc).mpr
        ⟨required_of_mem (hm.mem_members hr) ht, (isUnmet_iff hc).mp hunmet⟩
    rw [hmet] at hunsatisfied
    cases hunsatisfied
  refine ⟨h.mem_iff, hpresent, fun pre n post hsplit t ht => ?_⟩
  obtain ⟨u, hu, hprovides⟩ := h.provided pre n post hsplit t ht
  have hlisted : u ∈ order := by
    rw [hsplit]
    exact List.mem_append_left _ hu
  refine ⟨u, hu, ?_⟩
  -- The root provides nothing, and the missing node is not there.
  cases hrole : u.role with
  | provider p =>
    refine ⟨p, rfl, ?_⟩
    rwa [provides, hrole] at hprovides
  | root type =>
    rw [provides, hrole] at hprovides
    cases hprovides
  | missing =>
    have hfalse := hpresent u hlisted
    rw [hrole] at hfalse
    cases hfalse

end Container

namespace CommandLine

open Source (Reader)

variable {console : Console} {tree : Tree} {home : Path} {command : Command} {text : String}
  {options : BuildOptions}

/-- A command succeeds only for a path that leads to something in the tree, and then any other
command is executed too. -/
theorem answer_eq_execute [Reader]
    (h : (answer console tree home (.run command text options)).exitCode = 0) (other : Command) :
    answer console tree home (.run other text options) =
      execute console tree (resolve home text) options other := by
  unfold answer at h ⊢
  dsimp only at h ⊢
  split
  · rfl
  · rename_i hpath
    rw [if_neg hpath] at h
    cases h

/-! ## When there are names -/

/-- There are names to be shown exactly if there is a build order. -/
theorem exitCode_names_iff [Reader] (tree : Tree) (path : Path) (options : BuildOptions) :
    (content tree path options .names).exitCode = 0 ↔
      ∃ b order, build tree path options = .ok b ∧
        (Container.buildOrder.run.run b.container).1 = .ok order := by
  have hassembled := yields_build tree path options
  rw [exitCode_content_iff]
  constructor
  · rintro ⟨b, hbuild, outcome, hreport, hexit⟩
    obtain ⟨order, c, -, hrun, -⟩ := Report.naming_spec hreport hexit
    exact ⟨b, order, hbuild, by rw [hrun]⟩
  · rintro ⟨b, order, hbuild, horder⟩
    exact ⟨b, hbuild, Report.exists_naming (hassembled b hbuild) horder⟩

/-- If there are names, they are a table with a row for each value of the build order, above what
the build has to say besides. -/
theorem exists_content_names_eq [Reader] {path : Path}
    (h : (content tree path options .names).exitCode = 0) :
    ∃ b order c rows names,
      build tree path options = .ok b ∧
      Container.buildOrder.run.run b.container = (.ok order, c) ∧
      content tree path options .names = {
        printed := .table { title := "Variables", columns := ["Node", "Type", "Variable"], rows } ::
          Report.problemLines b } ∧
      Report.NamesValues (Report.values c order) names rows := by
  obtain ⟨b, hbuild, outcome, hreport, hexit⟩ := (exitCode_content_iff ..).mp h
  obtain ⟨order, c, rows, hrun, hrows, rfl⟩ := Report.naming_spec hreport hexit
  obtain ⟨names, hvalues⟩ := Report.exists_namesValues hrows
  refine ⟨b, order, c, rows, names, hbuild, hrun, ?_, hvalues⟩
  unfold content
  rw [hbuild]
  dsimp only
  rw [hreport]

/-- Of a build without diagnostics and failures there is nothing to say besides. -/
theorem problemLines_eq_nil {b : Build} (h : b.Faultless) : Report.problemLines b = [] := by
  unfold Report.problemLines
  rw [h.diagnostics, h.failures]
  rfl

/-- A check that passes is of a build that has a build order, in which all requirements are met. -/
theorem exists_meetsAll [Reader] {path : Path}
    (h : (content tree path options .check).exitCode = 0) :
    ∃ b r order, build tree path options = .ok b ∧ b.Faultless ∧ b.container.root? = some r ∧
      (Container.buildOrder.run.run b.container).1 = .ok order ∧
      b.container.withMissing.MeetsAll r order := by
  obtain ⟨b, order, hbuild, hfaultless, -, horder⟩ := (exitCode_content_check_iff ..).mp h
  have hc := (yields_build _ _ _ b hbuild).sound.reachable.withMissing.consistent
  obtain ⟨r, hr, hspec, -⟩ := Container.buildOrder_eq_ok hc horder
  have hmember := Container.mem_members_withMissing (Container.root?_spec hr).1
  have hmet : b.container.withMissing.unsatisfied = [] := by
    rw [Container.unsatisfied_withMissing]
    exact hfaultless.unsatisfied
  exact ⟨b, r, order, hbuild, hfaultless, hr, horder, hspec.meetsAll hc hmember hmet⟩

/-- If a check passes, then there is a build order that has all that the root needs, never the
missing node, and for each value that a node requires a provider before it. The names are a table
and nothing else, and they are shown exactly if the console can print it. A console that fails for
nothing but closing tags can, if there are none in the cells. -/
theorem answer_names_of_check [Reader]
    (h : (answer console tree home (.run .check text options)).exitCode = 0) :
    ∃ b r order rows, build tree (resolve home text) options = .ok b ∧
      b.container.root? = some r ∧
      (Container.buildOrder.run.run b.container).1 = .ok order ∧
      b.container.withMissing.MeetsAll r order ∧
      content tree (resolve home text) options .names = {
        printed :=
          [.table { title := "Variables", columns := ["Node", "Type", "Variable"], rows }] } ∧
      ((answer console tree home (.run .names text options)).exitCode = 0 ↔
        console.printsAll (content tree (resolve home text) options .names).printed = true) ∧
      (console.Lenient → (∀ row ∈ rows, ∀ cell ∈ row, ¬ Markup.Closes cell.toList) →
        (answer console tree home (.run .names text options)).exitCode = 0) := by
  rw [answer_eq_execute h]
  rw [answer_eq_execute h, execute, Console.exitCode_display_eq_zero_iff] at h
  obtain ⟨b, r, order, hbuild, hfaultless, hr, horder, hmeets⟩ := exists_meetsAll h.1
  have hnames := (exitCode_names_iff ..).mpr ⟨b, order, hbuild, horder⟩
  obtain ⟨b', _, _, rows, _, hbuild', -, hcontent, -⟩ := exists_content_names_eq hnames
  obtain rfl : b = b' := Except.ok.inj (hbuild.symm.trans hbuild')
  rw [problemLines_eq_nil hfaultless] at hcontent
  have hiff : (execute console tree (resolve home text) options .names).exitCode = 0 ↔
      console.printsAll (content tree (resolve home text) options .names).printed = true := by
    rw [execute, Console.exitCode_display_eq_zero_iff]
    exact and_iff_right hnames
  refine ⟨b, r, order, rows, hbuild, hr, horder, hmeets, hcontent, hiff, fun hlenient hcells => ?_⟩
  rw [hiff, hcontent]
  -- The title and the heads have no tags at all.
  have hheads : ∀ s ∈ ["Variables", "Node", "Type", "Variable"], ¬ Markup.Closes s.toList := by
    decide +kernel
  refine List.all_eq_true.mpr fun item hitem => List.all_eq_true.mpr fun s hs => hlenient s ?_
  obtain rfl := List.mem_singleton.mp hitem
  rcases List.mem_append.mp hs with hs | hs
  · exact hheads s hs
  · obtain ⟨row, hrow, hcell⟩ := List.mem_flatten.mp hs
    exact hcells row hrow s hcell

/-- A source in which two providers provide one type. -/
def doubledText : String :=
  "class A:\n def r(s): ...\n@p\ndef f() -> int: ...\n@p\ndef g() -> int: ...\n" ++
  "@p\ndef h(n: int) -> A: ...\n"

/-- The marker of its providers and the method of its root. -/
def doubledOptions : BuildOptions := { marker := "p", rootMethod := "r" }

/-- The file with it. -/
def doubled : Tree where
  entries := [⟨["w.py"], some (doubledText.toList.map (·.toNat))⟩]

/-- Its check passes. -/
theorem exitCode_check_doubled :
    (answer .plain doubled { root := "/" } (.run .check "w.py" doubledOptions)).exitCode = 0 := by
  decide +kernel

/-- The rows of its names. -/
def doubledRows : List (List String) :=
  [["w.f", "int", "var0"], ["w.g", "int", "var0_1"], ["w.h", "w.A", "a"]]

/-- These are handed to the console. -/
theorem content_names_doubled :
    content doubled (resolve { root := "/" } "w.py") doubledOptions .names = {
      printed := [.table ⟨"Variables", ["Node", "Type", "Variable"], doubledRows⟩] } := by
  decide +kernel

/-- No cell has a closing tag, so the names are shown, in a build order without the missing node. -/
theorem answer_names_of_check_doubled :
    (answer .plain doubled { root := "/" } (.run .names "w.py" doubledOptions)).exitCode = 0 ∧
      ∃ b order, build doubled (resolve { root := "/" } "w.py") doubledOptions = .ok b ∧
        (Container.buildOrder.run.run b.container).1 = .ok order ∧
        ∀ n ∈ order, n.role.isMissing = false := by
  obtain ⟨b, r, order, rows, hbuild, -, horder, hmeets, hcontent, -, hshown⟩ :=
    answer_names_of_check exitCode_check_doubled
  rw [content_names_doubled] at hcontent
  obtain rfl : doubledRows = rows := by
    cases hcontent
    rfl
  have hcells : ∀ row ∈ doubledRows, ∀ cell ∈ row, ¬ Markup.Closes cell.toList := by
    decide +kernel
  exact ⟨hshown Console.lenient_plain hcells, b, order, hbuild, horder, hmeets.present⟩

/-- The text of a file in which a type that the root needs is spelled with a closing tag. -/
def closingText : String :=
  "class App:\n    def run(self) -> None: ...\n\n" ++
  "@provider\ndef new_b() -> Literal[\"[/b]\"]: ...\n\n" ++
  "@provider\ndef new_app(b: Literal[\"[/b]\"]) -> App: ...\n"

/-- The file with it. -/
def closing : Tree where
  entries := [⟨["wiring.py"], some (closingText.toList.map (·.toNat))⟩]

/-- Where a cell has a closing tag, the check passes and there are names to be shown, but the table
of them cannot be printed. -/
theorem exitCode_names_closing :
    (answer .plain closing { root := "/" } (.run .check "wiring.py" {})).exitCode = 0 ∧
      (content closing (resolve { root := "/" } "wiring.py") {} .names).exitCode = 0 ∧
      (answer .plain closing { root := "/" } (.run .names "wiring.py" {})).exitCode = 1 := by
  decide +kernel

/-! ## What the names are -/

/-- Whenever the names are shown there is a build order, and the table has a row for each value of
it in that order, with a variable of its own that is no reserved word. The values of one type are
numbered from zero on in the order of the rows. -/
theorem answer_names_spec [Reader]
    (h : (answer console tree home (.run .names text options)).exitCode = 0) :
    ∃ b order c rows names,
      build tree (resolve home text) options = .ok b ∧
      Container.buildOrder.run.run b.container = (.ok order, c) ∧
      answer console tree home (.run .names text options) = {
        printed := .table { title := "Variables", columns := ["Node", "Type", "Variable"], rows } ::
          Report.problemLines b } ∧
      Report.NamesValues (Report.values c order) names rows := by
  have hnames := h
  rw [answer_eq_execute h, execute, Console.exitCode_display_eq_zero_iff] at hnames
  obtain ⟨b, order, c, rows, names, hbuild, hrun, hcontent, hvalues⟩ :=
    exists_content_names_eq hnames.1
  refine ⟨b, order, c, rows, names, hbuild, hrun, ?_, hvalues⟩
  rw [answer_eq_execute h, execute, Console.display_eq_self hnames.2, hcontent]

/-- The values of the two providers of one type are shown under different names. -/
theorem answer_names_spec_doubled :
    ∃ b rows vs names,
      answer .plain doubled { root := "/" } (.run .names "w.py" doubledOptions) = {
        printed := .table { title := "Variables", columns := ["Node", "Type", "Variable"], rows } ::
          Report.problemLines b } ∧
      Report.NamesValues vs names rows := by
  have hexit : (answer .plain doubled { root := "/" }
      (.run .names "w.py" doubledOptions)).exitCode = 0 := by
    decide +kernel
  obtain ⟨b, order, c, rows, names, -, -, hanswer, hvalues⟩ := answer_names_spec hexit
  exact ⟨b, rows, Report.values c order, names, hanswer, hvalues⟩

end CommandLine

end Wiring
