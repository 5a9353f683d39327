import Wiring.CommandLine.Basic
import Wiring.CommandLine.Console

/-!
# The program

Reads the files that a command is about, and prints what is left behind for it.
-/

namespace Wiring

/-- The file at a place. -/
def fileEntry (place : List String) (content : ByteArray) : Entry :=
  { parts := place, octets? := some (content.toList.map UInt8.toNat) }

/-- The entries below a directory at a place. Only files that can hold sources are read. -/
partial def entriesBelow (place : List String) (found : Array IO.FS.DirEntry) :
    IO (List Entry) := do
  let nested ← found.toList.mapM fun e => do
    let place := place ++ [e.fileName]
    if ← e.path.isDir then
      return { parts := place, octets? := none } :: (← entriesBelow place (← e.path.readDir))
    else if (fileEntry place .empty).isSource then
      return [fileEntry place (← IO.FS.readBinFile e.path)]
    else return []
  return nested.flatten

/-- What the program leaves behind for a command on the sources at a path. -/
def runAt (command : Command) (text : String) (options : BuildOptions) : IO Outcome := do
  let path := (← IO.currentDir) / text
  if !(← path.pathExists) then return CommandLine.misuse
  let path ← IO.FS.realPath path
  let place := Path.partsOf path.toString
  let entries ←
    if ← path.isDir then do
      let below ← entriesBelow place (← path.readDir)
      pure ({ parts := place, octets? := none } :: below)
    else do
      pure [fileEntry place (← IO.FS.readBinFile path)]
  let home : Path := { root := "/" }
  return CommandLine.answer .plain (.ofEntries entries) home (.run command path.toString options)

end Wiring

/-- Runs the program. -/
def main (args : List String) : IO UInt32 := do
  let outcome ← match Wiring.CommandLine.parse args with
    | some (.run command text options) => Wiring.runAt command text options
    | _ => pure (Wiring.CommandLine.run .plain {} {} args)
  for item in outcome.printed do
    for line in Wiring.Console.plain.lines item do
      IO.println line
  return outcome.exitCode.toUInt32
