/-!
# Arguments

Reading the arguments of a command: options with or without a value, and the rest. A long option
starts with two dashes and may have its value after an equals sign; a short one starts with one dash
and may be followed by further short ones, or by its value.
-/

namespace Wiring

/-- An option. -/
structure OptionSpec where
  /-- Its long name, with dashes. -/
  long : String
  /-- Its letter, if it has one. -/
  short? : Option Char := none
  /-- It takes a value. -/
  takesValue : Bool := false
deriving DecidableEq, Repr

/-- Arguments that have been read. -/
structure Arguments where
  /-- The options in the order in which they stand, each with its value. -/
  options : List (OptionSpec × String) := []
  /-- The other arguments. -/
  rest : List String := []
deriving DecidableEq, Repr

namespace Arguments

/-- The options that an argument holds. The last one may wait for a value. -/
structure Reading where
  /-- The options that are complete. -/
  options : List (OptionSpec × String)
  /-- The option whose value is the next argument. -/
  pending? : Option OptionSpec := none

/-- Reads a long option. A value is allowed only if the option takes one. -/
def readLong? (specs : List OptionSpec) (arg : String) : Option Reading := do
  let cs := arg.toList
  let name := cs.takeWhile (· != '=')
  let value? := (cs.drop name.length).tail?.map String.ofList
  let spec ← specs.find? (·.long == String.ofList name)
  match spec.takesValue, value? with
  | true, some value => return { options := [(spec, value)] }
  | true, none => return { options := [], pending? := some spec }
  | false, none => return { options := [(spec, "")] }
  | false, some _ => none

/-- Reads short options. -/
def readShort? (specs : List OptionSpec) : List Char → Option Reading
  | [] => some { options := [] }
  | c :: rest => do
    let spec ← specs.find? (·.short? == some c)
    if spec.takesValue then
      if rest.isEmpty then return { options := [], pending? := some spec }
      else return { options := [(spec, String.ofList rest)] }
    else
      let more ← readShort? specs rest
      return { more with options := (spec, "") :: more.options }

/-- The argument is an option. A single dash is not. -/
def isOption (arg : String) : Bool := arg.toList.head? == some '-' && arg.length > 1

/-- Reads an argument that is an option. -/
def readOption? (specs : List OptionSpec) (arg : String) : Option Reading :=
  match arg.toList with
  | '-' :: '-' :: _ => readLong? specs arg
  | _ => readShort? specs (arg.toList.drop 1)

/-- Reads arguments. Options end after two dashes, and, if they stand only in front, with the first
other argument. -/
def parse? (specs : List OptionSpec) (inFront : Bool) : List String → Option Arguments
  | [] => some {}
  | arg :: args =>
    if arg == "--" then some { rest := args }
    else if isOption arg then do
      let reading ← readOption? specs arg
      match reading.pending?, args with
      | none, args =>
        let more ← parse? specs inFront args
        return { more with options := reading.options ++ more.options }
      | some _, [] => none
      | some spec, value :: args =>
        let more ← parse? specs inFront args
        return { more with options := reading.options ++ (spec, value) :: more.options }
    else if inFront then some { rest := arg :: args }
    else do
      let more ← parse? specs inFront args
      return { more with rest := arg :: more.rest }

/-- The value of an option. The last one counts. -/
def value? (args : Arguments) (spec : OptionSpec) : Option String :=
  args.options.reverse.lookup spec

end Arguments

end Wiring
