import Wiring.Container.Ledger

/-!
# Adding providers and reporting what fails

Every failure becomes a diagnostic with the position of its provider, and the next provider is
tried.

This is `populate_container`.
-/

namespace Wiring

/-- A failure, worded and located. -/
structure Diagnostic where
  /-- The position of the provider that failed. -/
  position : Position
  /-- The wording of the failure. -/
  message : String
  /-- The failure itself. -/
  error : GraphError
deriving Repr

namespace Diagnostic

/-- The printed form: position and wording. This is `__str__`. -/
def text (d : Diagnostic) : String := d.position.text ++ ": " ++ d.message

/-- The diagnostic of a failure to add `p`. A defect names the provider in its own wording. -/
def of (p : Provider) (e : GraphError) : Except TypeKey.MissingArgument Diagnostic := do
  let message ← e.message
  match e with
  | .invalidProvider q _ => return { position := q.position, message, error := e }
  | _ => return { position := p.position, message := p.name ++ ": " ++ message, error := e }

end Diagnostic

namespace Container

/-- Adds providers in order. The answer has a diagnostic for each that failed. A failure whose
wording needs an argument that a type lacks ends the run. This is `populate_container`. -/
def populate : List Provider →
    ExceptT TypeKey.MissingArgument (StateM Container) (List Diagnostic)
  | [] => return []
  | p :: ps => do
    match ← (addProvider p).run with
    | .ok _ => populate ps
    | .error e => return (← Diagnostic.of p e) :: (← populate ps)

end Container

/-- Adds providers to a ledger in order, with a diagnostic for each that failed:
`populate_container`. -/
def Ledger.populate : List Provider →
    ExceptT TypeKey.MissingArgument (StateM Ledger) (List Diagnostic)
  | [] => return []
  | p :: ps => do
    match ← (addProvider p).run with
    | .ok _ => populate ps
    | .error e => return (← Diagnostic.of p e) :: (← populate ps)

end Wiring
