import Wiring.Container.Order
import Wiring.Project.Build
import Wiring.Variable.Namer

/-!
# Reports

What the commands show of a build: the nodes and edges of its graph (`graph`), a check for problems
(`check`), and the variables of the build order (`names`, here `Report.naming`). A report is the list
of items that the command hands to `console.print`, one after the other, and the exit code that goes
with it if all of them are printed. Square brackets in texts are markup, also where they come from
the text of a type; what a console makes of them is for `Console.display` to say.

The other definitions are the helpers of the commands: `_node_label`, `_print_diagnostics`, and the
lines and tables that the commands make up.
-/

namespace Wiring

/-- A table. -/
structure ReportTable where
  /-- The title, if it has one. -/
  title : Option String := none
  /-- The heads of the columns. -/
  columns : List String
  /-- The cells, row by row. -/
  rows : List (List String)
deriving DecidableEq, Repr

/-- An item that is handed to a console. -/
inductive Printed where
  /-- A line of text, in which markup counts or not. -/
  | text (line : String) (markup : Bool := true)
  /-- A table. -/
  | table (t : ReportTable)
  /-- A table in a frame with a title, in a color. -/
  | panel (title color : String) (t : ReportTable)
deriving DecidableEq, Repr

/-- What a command leaves behind, or hands to a console. -/
structure Outcome where
  /-- Zero if all is well. -/
  exitCode : Nat := 0
  /-- What is printed. -/
  printed : List Printed := []
deriving DecidableEq, Repr

namespace Report

/-- What a report needs to show of a type may be missing. -/
abbrev Shown (α : Type) : Type := Except TypeKey.MissingArgument α

/-- The label of a node: `_node_label`. -/
def label (n : Node) : Shown String :=
  match n.role with
  | .provider p => return p.name
  | .root type => do return "[bold]root[/bold] (" ++ (← type.text) ++ ")"
  | .missing => return "[yellow]missing[/yellow]"

/-- Types with commas between them. -/
def typeList (types : List TypeKey) : Shown String := do
  return ", ".intercalate (← types.mapM TypeKey.text)

/-- Types with commas between them, or a dash. -/
def typesOrDash (types : List TypeKey) : Shown String := do
  let text ← typeList types
  return if text == "" then "-" else text

/-- The line of an error. -/
def errorLine (message : String) : Printed := .text ("[bold red]Error:[/bold red] " ++ message)

/-- The lines on diagnostics and on files that were left out, of which the first five are named.
This is `_print_diagnostics`. -/
def problemLines (b : Build) : List Printed :=
  let diagnostics := b.diagnostics.map fun d => Printed.text ("   • " ++ d.text) false
  let failures := (b.failures.take 5).map fun (path, fault) =>
    Printed.text ("   • " ++ path.text ++ ": " ++ fault.message) false
  let count := b.failures.length
  let heading (n : Nat) (what : String) : Printed :=
    .text ("\n[yellow]⚠️  " ++ toString n ++ " " ++ what ++ ":[/yellow]")
  (if diagnostics.isEmpty then []
    else heading diagnostics.length "diagnostic(s)" :: diagnostics) ++
  (if failures.isEmpty then [] else heading count "file(s) had parse errors" :: failures) ++
  (if count ≤ 5 then [] else [.text ("   ... and " ++ toString (count - 5) ++ " more")])

/-! ## The graph -/

/-- The row of a node. -/
def nodeRow (c : Container) (n : Node) : Shown (List String) := do
  return [toString n.id, ← label n, ← typesOrDash n.requires, ← typesOrDash (c.provides n)]

/-- The row of an edge. -/
def edgeRow (c : Container) (u v : Node) : Shown (List String) := do
  return [← label u, ← label v, ← typeList (c.connectingTypes u v)]

/-- Shows the nodes and edges of the graph. -/
def graph (b : Build) : Shown Outcome := do
  let (nodes, c) := Container.nodes.run b.container
  let edges := nodes.flatMap fun u => (c.successors u).map fun v => (u, v)
  let nodeTable : ReportTable :=
    { title := "Nodes", columns := ["ID", "Node", "Requires", "Provides"],
      rows := ← nodes.mapM (nodeRow c) }
  let edgeTable : ReportTable :=
    { title := "Edges", columns := ["From", "To", "Types"],
      rows := ← edges.mapM fun (u, v) => edgeRow c u v }
  return { printed := [.table nodeTable, .table edgeTable] ++ problemLines b }

/-! ## The check -/

/-- The line on a type that no provider provides. -/
def unmetLine (c : Container) (missing : Node) (type : TypeKey) : Shown Printed := do
  let requirers := (c.successors missing).filter fun n => n.requires.any (· == type)
  let names := ", ".intercalate (← requirers.mapM label)
  return .text ("   • [yellow]" ++ (← type.text) ++ "[/yellow] required by " ++ names)

/-- How many problems a build has, given how many types are unmet and the cycle that was found. -/
def problemCount (b : Build) (unmet : Nat) (cycle : List Node) : Nat :=
  (if b.container.hasRoot then 0 else 1) + unmet + (if cycle.isEmpty then 0 else 1) +
    b.diagnostics.length + b.failures.length

/-- The frame of a check with the given number of problems. -/
def checkPanel (problems : Nat) (t : ReportTable) : Printed :=
  if problems == 0 then .panel "[bold green]✓ Check Passed[/bold green]" "green" t
  else .panel "[bold red]✗ Check Failed[/bold red]" "red" t

/-- The text on the root of a container. -/
def rootText (c : Container) : Shown String :=
  match c.rootType? with
  | some type => type.text
  | none => do return "[red]" ++ (← GraphError.message .noRoot) ++ "[/red]"

/-- The text on a cycle, or a dash. -/
def cycleText (cycle : List Node) : Shown String := do
  let labels ← cycle.mapM label
  return if cycle.isEmpty then "-" else " -> ".intercalate labels

/-- Checks that the build has no problem. -/
def check (b : Build) : Shown Outcome := do
  let (edges, c) := Container.edgeCount.run b.container
  let unmet := c.unsatisfied
  let (cycle, c) := Container.findCycle.run c
  let (missing, c) := Container.missing.run c
  let problems := problemCount b unmet.length cycle
  let table : ReportTable :=
    { columns := ["Label", "Value"]
      rows :=
        [["Files scanned", toString b.filesScanned],
         ["Providers", toString b.providerCount],
         ["Edges", toString edges],
         ["Root", ← rootText c],
         ["Unmet requirements", toString unmet.length],
         ["Cycle", ← cycleText cycle]] }
  let unmetLines ← unmet.mapM (unmetLine c missing)
  return { exitCode := if problems == 0 then 0 else 1,
           printed := checkPanel problems table :: unmetLines ++ problemLines b }

/-! ## The variables -/

/-- The rows of the values of a build order. The values of one type are numbered in that order. -/
def variableRows (c : Container) (namer : Variable.Namer) (counts : OrderedMap TypeKey Nat) :
    List (Node × TypeKey) → Except Variable.NamingError (List (List String))
  | [] => return []
  | (n, type) :: values => do
    let number := (counts.find? type).getD 0
    let (name, namer) ← namer.name type number
    let row := [← (label n).mapError .missingArgument, ← type.text.mapError .missingArgument, name]
    return row :: (← variableRows c namer (counts.insert type (number + 1)) values)

/-- Shows the variables of the build order: `names`. -/
def naming (b : Build) : Except Variable.NamingError Outcome :=
  match Container.buildOrder.run.run b.container with
  | (.error e, _) => do
    let message ← e.message.mapError .missingArgument
    return { exitCode := 1, printed := [errorLine message] }
  | (.ok order, c) => do
    let values := order.flatMap fun n => (c.provides n).map fun type => (n, type)
    let table : ReportTable :=
      { title := "Variables", columns := ["Node", "Type", "Variable"],
        rows := ← variableRows c .empty .empty values }
    return { printed := .table table :: problemLines b }

end Report

end Wiring
