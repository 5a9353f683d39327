import Wiring.Container.Population
import Wiring.Declaration.Extraction
import Wiring.Project.Pattern
import Wiring.Project.Tree

/-!
# Builds

A build extracts the providers of one source, or of all sources in a directory, and adds them to a
container. Sources of a directory are taken in the order of their parts; one that has no text or is
reported to be malformed is listed among the failures, and the others are built without it. There is
no build, though, if reading a source breaks off.

The functions are `build_container_from_source`, `build_container_from_directory` and
`extract_providers_from_file`; a `Build` is a `BuildResult`.
-/

namespace Wiring

open Source (LiteralFault Reader SyntaxFault)

/-- What a build can be asked for. -/
structure BuildOptions where
  /-- The name of the decorator that marks providers. -/
  marker : String := "provider"
  /-- The name of the method that makes a type the root. -/
  rootMethod : String := "run"
deriving DecidableEq, Repr

/-- Why a source file was left out. -/
inductive FileFault where
  /-- It has no text. -/
  | unread (fault : ReadFault)
  /-- Its text is malformed. -/
  | unreadable
deriving DecidableEq, Repr

/-- The wording of a fault. -/
def FileFault.message : FileFault → String
  | .unread fault => fault.message
  | .unreadable => "Syntax Error"

/-- What is wrong with a source. -/
inductive SourceFault where
  /-- It is left out. -/
  | leftOut (fault : FileFault)
  /-- Reading it broke off. -/
  | brokenOff
deriving DecidableEq, Repr

/-- The fault of a source whose text is not read. -/
def SourceFault.ofSyntax : SyntaxFault → SourceFault
  | .malformed => .leftOut .unreadable
  | .brokenOff => .brokenOff

/-- Why there is no build. -/
inductive BuildError where
  /-- There is no such file. -/
  | noFile (path : Path)
  /-- There is no such directory. -/
  | noDirectory (path : Path)
  /-- The path leads to a file. -/
  | notDirectory (path : Path)
  /-- A pattern asks for nothing. -/
  | emptyPattern
  /-- The source that is asked for cannot be read. -/
  | file (fault : FileFault)
  /-- Reading a source broke off. -/
  | brokenOff
  /-- A literal among the annotations or bases denotes nothing. -/
  | literal (fault : LiteralFault)
  /-- A type lacks an argument that a wording needs. -/
  | missingArgument (error : TypeKey.MissingArgument)
deriving Repr

/-- The wording of an error, if it has one of its own. -/
def BuildError.message? : BuildError → Option String
  | .noFile path => some ("File not found: " ++ path.text)
  | .noDirectory path => some ("Directory not found: " ++ path.text)
  | .notDirectory path => some ("Not a directory: " ++ path.text)
  | .emptyPattern => some "empty pattern"
  | .file fault => some fault.message
  | .brokenOff => none
  | .literal fault => fault.message?
  | .missingArgument e => some e.message

/-- The error of an extraction. -/
def BuildError.ofExtraction : ExtractionError → BuildError
  | .unreadable => .file .unreadable
  | .brokenOff => .brokenOff
  | .literal fault => .literal fault

/-- What a build yields: `BuildResult`. -/
structure Build where
  /-- The container with all valid providers. -/
  container : Container
  /-- All providers of the sources. -/
  providers : List Provider
  /-- What went wrong with single providers. -/
  diagnostics : List Diagnostic
  /-- The files that were left out. -/
  failures : List (Path × FileFault) := []
  /-- How many files were read. -/
  filesScanned : Nat := 1

namespace Build

variable [Reader]

/-- Nothing went wrong. -/
def ok (b : Build) : Bool := b.diagnostics.isEmpty && b.failures.isEmpty

/-- How many providers are in the container: `provider_count`. -/
def providerCount (b : Build) : Nat := b.container.providers.length

/-- The build that has the given providers. -/
def ofProviders (rootMethod : String) (providers : List Provider) : Except BuildError Build :=
  match (Container.populate providers).run.run (.new rootMethod) with
  | (.ok diagnostics, container) => .ok { container, providers, diagnostics }
  | (.error e, _) => .error (.missingArgument e)

/-- The build of a single source: `build_container_from_source`. -/
def ofText (text : String) (moduleName : String := "") (filePath : String := "<source>")
    (options : BuildOptions := {}) : Except BuildError Build := do
  let providers ←
    (extractProviders text moduleName filePath options.marker).mapError .ofExtraction
  ofProviders options.rootMethod providers

/-! ## Single files -/

/-- The text of the file at a path. -/
def textAt (tree : Tree) (path : Path) : Except BuildError String :=
  match tree.locate? path with
  | none => .error (.noFile path)
  | some place =>
    let entry := (tree.find? place).getD ⟨place, none⟩
    (entry.read path).mapError fun fault => .file (.unread fault)

/-- The providers of the file at a path. Its stem is the name of the module. This is
`extract_providers_from_file`. -/
def providersAt (tree : Tree) (path : Path) (marker : String := "provider") :
    Except BuildError (List Provider) := do
  let text ← textAt tree path
  (extractProviders text path.stem path.text marker).mapError .ofExtraction

/-! ## Directories -/

/-- The patterns of what is left out if nothing else is asked for. -/
def defaultExclusions : List String := ["**/__pycache__/**", "**/.*"]

/-- The entries that can hold sources, in the order of their parts. -/
def sources (entries : List Entry) : List Entry :=
  (entries.filter (·.isSource)).mergeSort fun a b => !Path.precedes b.parts a.parts

/-- The declarations of an entry below a directory. -/
def declarationsOf (directory : Path) (marker : String) (e : Entry) :
    Except SourceFault Declarations := do
  let path := directory.join e.parts
  let text ← (e.read path).mapError fun fault => .leftOut (.unread fault)
  (Declarations.ofText text (path.moduleName directory) path.text marker).mapError .ofSyntax

/-- What comes of an entry that is asked for: its declarations, or why it is left out. It is an error
if reading breaks off. -/
def reading (directory : Path) (marker : String) (e : Entry) :
    Except BuildError (Except FileFault Declarations) :=
  match declarationsOf directory marker e with
  | .ok declarations => .ok (.ok declarations)
  | .error (.leftOut fault) => .ok (.error fault)
  | .error .brokenOff => .error .brokenOff

/-- What comes of the entries that no pattern excludes, each with its path. They are read one after
the other. It is an error if a pattern asks for nothing. -/
def readings (directory : Path) (marker : String) (patterns : List String) :
    List Entry → Except BuildError (List (Path × Except FileFault Declarations))
  | [] => return []
  | e :: entries =>
    match Pattern.anyAccepts? patterns e.parts with
    | none => throw .emptyPattern
    | some true => readings directory marker patterns entries
    | some false => do
      let first ← reading directory marker e
      return (directory.join e.parts, first) :: (← readings directory marker patterns entries)

/-- The build of the sources among the entries below a directory. -/
def ofEntries (directory : Path) (entries : List Entry) (options : BuildOptions := {})
    (exclusions : List String := defaultExclusions) : Except BuildError Build := do
  let readings ← readings directory options.marker exclusions (sources entries)
  let modules := readings.filterMap fun (_, reading) => reading.toOption
  let failures := readings.filterMap fun (path, reading) =>
    match reading with
    | .ok _ => none
    | .error fault => some (path, fault)
  let providers ← (Declarations.providersOf modules).mapError .literal
  let build ← ofProviders options.rootMethod providers
  return { build with failures, filesScanned := modules.length }

/-- The build of the sources in the directory at a path: `build_container_from_directory`. -/
def ofDirectory (tree : Tree) (directory : Path) (options : BuildOptions := {})
    (exclusions : List String := defaultExclusions) : Except BuildError Build :=
  match tree.locate? directory with
  | none => .error (.noDirectory directory)
  | some place =>
    if tree.isDirectory place then ofEntries directory (tree.below place) options exclusions
    else .error (.notDirectory directory)

end Build

end Wiring
