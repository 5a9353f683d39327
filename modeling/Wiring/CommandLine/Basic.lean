import Wiring.CommandLine.Arguments
import Wiring.CommandLine.Console

/-!
# The command line

`CommandLine.parse` reads the arguments of the program as a request, and `Request.answer` is what
the program prints and returns for it.

The commands are `graph`, `check` and `names`, with the path and the options of `_path_argument`,
`_marker_option` and `_run_method_option`.
-/

namespace Wiring

/-- A command. -/
inductive Command where
  /-- Shows the nodes and edges. -/
  | graph
  /-- Looks for problems. -/
  | check
  /-- Shows the variables of the build order. -/
  | names
deriving DecidableEq, Repr

/-- The command with a name. -/
def Command.ofName? : String → Option Command
  | "graph" => some .graph
  | "check" => some .check
  | "names" => some .names
  | _ => none

/-- What the program is asked for. -/
inductive Request where
  /-- The version of the program. -/
  | version
  /-- A text on how to use the program. -/
  | help
  /-- A command for the sources at a path. -/
  | run (command : Command) (path : String) (options : BuildOptions)
deriving DecidableEq, Repr

namespace CommandLine

open Source (Reader)

/-- The option that asks for help. -/
def helpOption : OptionSpec := { long := "--help" }

/-- The option that asks for the version. -/
def versionOption : OptionSpec := { long := "--version", short? := some 'v' }

/-- The option that names the marker of providers. -/
def markerOption : OptionSpec := { long := "--marker", short? := some 'm', takesValue := true }

/-- The option that names the method of the root. -/
def runMethodOption : OptionSpec :=
  { long := "--run-method", short? := some 'r', takesValue := true }

/-- The request that the arguments of a command make. -/
def parseCommand (command : Command) (args : List String) : Option Request := do
  let args ← Arguments.parse? [markerOption, runMethodOption, helpOption] false args
  if (args.value? helpOption).isSome then return .help
  let defaults : BuildOptions := {}
  match args.rest with
  | [path] =>
    return .run command path
      { marker := (args.value? markerOption).getD defaults.marker,
        rootMethod := (args.value? runMethodOption).getD defaults.rootMethod }
  | _ => none

/-- The request that the arguments of the program make, if they are usable. Of version and help the
first one counts. -/
def parse (args : List String) : Option Request := do
  let args ← Arguments.parse? [versionOption, helpOption] true args
  match args.options, args.rest with
  | (option, _) :: _, _ => return if option == versionOption then .version else .help
  | [], name :: rest => parseCommand (← Command.ofName? name) rest
  | [], [] => none

/-- The line on the version: `_version_callback`. -/
def versionLine : Printed := .text "[bold]wiregraph[/bold] version 0.1.0"

/-- What is left behind if the arguments are not usable. -/
def misuse : Outcome := { exitCode := 2 }

/-- What is left behind if the program breaks off. -/
def breakdown : Outcome := { exitCode := 1 }

/-- The path that a text means, seen from a directory. Two dots lead back to the directory above. -/
def resolve (home : Path) (text : String) : Path :=
  let path := Path.ofString text
  let start := if path.root == "" then home else { path with parts := [] }
  { start with parts := path.parts.foldl (fun parts part =>
      if part == ".." then parts.dropLast else parts ++ [part]) start.parts }

/-- The build of the sources at a path that leads to something: `_build`. -/
def build [Reader] (tree : Tree) (path : Path) (options : BuildOptions) :
    Except BuildError Build := do
  if tree.isDirectory path.parts then
    Build.ofEntries path (tree.below path.parts) options
  else
    let entry := (tree.find? path.parts).getD ⟨path.parts, none⟩
    let text ← (entry.read path).mapError fun fault => .file (.unread fault)
    Build.ofText text path.stem path.text options

/-- What a command hands to the console for a build, and the exit code that goes with it. -/
def report (b : Build) : Command → Except Variable.NamingError Outcome
  | .graph => (Report.graph b).mapError .missingArgument
  | .check => (Report.check b).mapError .missingArgument
  | .names => Report.naming b

/-- What is handed to the console if there is no build. `_build` prints it. -/
def failure : BuildError → Outcome
  | .missingArgument _ => breakdown
  | e =>
    match e.message? with
    | some message => { exitCode := 1, printed := [Report.errorLine message] }
    | none => breakdown

/-- What a command hands to the console for the sources at a path. -/
def content [Reader] (tree : Tree) (path : Path) (options : BuildOptions) (command : Command) :
    Outcome :=
  match build tree path options with
  | .error e => failure e
  | .ok b =>
    match report b command with
    | .ok outcome => outcome
    | .error _ => breakdown

/-- What a command leaves behind for the sources at a path. -/
def execute [Reader] (console : Console) (tree : Tree) (path : Path) (options : BuildOptions)
    (command : Command) : Outcome :=
  console.display (content tree path options command)

/-- What the program leaves behind for a request, made in a directory of a tree. -/
def answer [Reader] (console : Console) (tree : Tree) (home : Path) : Request → Outcome
  | .version => console.display { printed := [versionLine] }
  | .help => {}
  | .run command text options =>
    let path := resolve home text
    if path.root == home.root && tree.contains path.parts then
      execute console tree path options command
    else misuse

/-- What the program leaves behind for its arguments. -/
def run [Reader] (console : Console) (tree : Tree) (home : Path) (args : List String) : Outcome :=
  match parse args with
  | some request => answer console tree home request
  | none => misuse

end CommandLine

end Wiring
