import Wiring.CommandLine.Markup
import Wiring.CommandLine.Report

/-!
# The console

What becomes of a report on a console. The console is not part of the program: all that matters of
it is which texts it can read as markup. An item in which there is a text that it cannot read is not
printed, and the program breaks off there with what was printed before.

`Console.display` is what the calls of `print` of the console leave behind, one for each item. How
tables and frames are drawn does not count; `Console.lines` draws them for a plain terminal.
-/

namespace Wiring

/-- A console. -/
structure Console where
  /-- What is seen of a text in which markup counts, if its tags can be read. -/
  seen? : String → Option String

/-- The texts of an item in which markup counts. The heads of the columns are not shown in frames. -/
def Printed.markupTexts : Printed → List String
  | .text line markup => if markup then [line] else []
  | .table t => t.title.toList ++ t.columns ++ t.rows.flatten
  | .panel title _ t => title :: t.rows.flatten

namespace Console

/-- A console that shows texts as they are. -/
def verbatim : Console where
  seen? := some

/-- A console that reads the tags of texts. -/
def plain : Console where
  seen? := Markup.plain?

/-- It can read a text. -/
def reads (console : Console) (text : String) : Bool := (console.seen? text).isSome

/-- It can print an item. -/
def prints (console : Console) (item : Printed) : Bool := item.markupTexts.all console.reads

/-- It can print all items. -/
def printsAll (console : Console) (items : List Printed) : Bool := items.all console.prints

/-- What is left behind once items were printed in order. -/
def display (console : Console) (outcome : Outcome) : Outcome where
  exitCode := if console.printsAll outcome.printed then outcome.exitCode else 1
  printed := outcome.printed.takeWhile console.prints

variable {console : Console} {outcome : Outcome}

/-- If everything can be printed, nothing is left out. -/
theorem display_eq_self (h : console.printsAll outcome.printed = true) :
    console.display outcome = outcome := by
  have hall : (outcome.printed ++ []).takeWhile console.prints = outcome.printed ++ [] :=
    List.takeWhile_append_of_pos (List.all_eq_true.mp h)
  rw [List.append_nil] at hall
  unfold display
  rw [if_pos h, hall]

/-- The exit code is zero if it would be and everything can be printed. -/
theorem exitCode_display_eq_zero_iff : (console.display outcome).exitCode = 0 ↔
    outcome.exitCode = 0 ∧ console.printsAll outcome.printed = true := by
  unfold display
  cases console.printsAll outcome.printed <;> simp

/-- Where no text is markup, everything is printed. -/
theorem display_verbatim (outcome : Outcome) : verbatim.display outcome = outcome :=
  display_eq_self <| List.all_eq_true.mpr fun _ _ => List.all_eq_true.mpr fun _ _ => rfl

/-! ## Plain display -/

/-- A text as it is seen, or else as it is. -/
def seen (console : Console) (text : String) : String := (console.seen? text).getD text

/-- The widths of the columns of some rows. -/
def widths (console : Console) (rows : List (List String)) : List Nat :=
  rows.foldl (fun widths row =>
    let lengths := row.map fun cell => (console.seen cell).length
    (List.range (max widths.length lengths.length)).map fun i =>
      max (widths.getD i 0) (lengths.getD i 0)) []

/-- The line of a row in columns of the given widths. -/
def line (console : Console) (widths : List Nat) (row : List String) : String :=
  "  ".intercalate <| widths.zipWith (fun width cell =>
    let cell := console.seen cell
    cell ++ String.ofList (List.replicate (width - cell.length) ' ')) row

/-- The lines of an item. -/
def lines (console : Console) : Printed → List String
  | .text line markup => [if markup then console.seen line else line]
  | .table t =>
    let rows := t.columns :: t.rows
    t.title.toList.map console.seen ++ rows.map (console.line (console.widths rows))
  | .panel title _ t => console.seen title :: t.rows.map (console.line (console.widths t.rows))

end Console

end Wiring
