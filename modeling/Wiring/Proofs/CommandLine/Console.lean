import Mathlib.Data.List.Basic
import Wiring.CommandLine.Console

/-!
# What a console can print

Of all markup only a closing tag can be one that cannot be read, as there may be nothing that it
closes (`Markup.exists_seen?`). A console of which this holds is lenient; `Console.plain` is.
-/

namespace Wiring

namespace Markup

variable {text content after : List Char}

/-- The text has a bracket with a slash behind it, as every closing tag has. -/
def Closes (text : List Char) : Prop := ['[', '/'] <:+: text

instance : Decidable (Closes text) := inferInstanceAs (Decidable (['[', '/'] <:+: text))

/-- Any tag but a closing one can be read. -/
theorem exists_enter? (opened : List (List Char)) (h : content.head? ≠ some '/') :
    ∃ opened', enter? opened content = some opened' := by
  unfold enter?
  split
  · rename_i closing hclosing
    -- The name of the tag starts as its content does.
    cases content with
    | nil => cases hclosing
    | cons c rest =>
      rw [List.takeWhile_cons] at hclosing
      split at hclosing
      · obtain ⟨rfl, -⟩ := List.cons.inj hclosing
        exact absurd rfl h
      · cases hclosing
  · exact ⟨_, rfl⟩

/-- Neither a tag nor what follows it closes anything where the text does not. -/
theorem not_closes_of_tag? {n : Nat} (h : ¬ Closes text)
    (htag : tag? (text.drop n) = some (content, after)) :
    content.head? ≠ some '/' ∧ ¬ Closes after := by
  have hinfix : '[' :: content ++ ']' :: after <:+: text := by
    rw [← eq_of_tag? htag]
    exact (List.drop_suffix n text).isInfix
  constructor
  · intro hhead
    obtain ⟨rest, rfl⟩ := List.head?_eq_some_iff.mp hhead
    exact h (List.IsInfix.trans ⟨[], rest ++ ']' :: after, rfl⟩ hinfix)
  · intro hcloses
    have hafter : after <:+: '[' :: content ++ ']' :: after :=
      ⟨'[' :: content ++ [']'], [], by simp⟩
    exact h (hcloses.trans (hafter.trans hinfix))

/-- A text without closing tags can be read. -/
theorem exists_seen? (opened : List (List Char)) (h : ¬ Closes text) :
    ∃ s, seen? opened text = some s := by
  fun_induction seen? opened text with
  | case1 opened => exact ⟨[], rfl⟩
  | case2 opened c rest slashes shown content after htag _ ih =>
    -- The backslash makes the tag a part of the text.
    obtain ⟨s, hs⟩ := ih (not_closes_of_tag? h htag).2
    rw [hs]
    exact ⟨_, rfl⟩
  | case3 opened c rest slashes shown content after htag _ ih =>
    obtain ⟨hcontent, hafter⟩ := not_closes_of_tag? h htag
    obtain ⟨opened', hopened⟩ := exists_enter? opened hcontent
    obtain ⟨s, hs⟩ := ih opened' hafter
    rw [hopened, Option.bind_eq_bind, Option.bind_some, hs]
    exact ⟨_, rfl⟩
  | case4 opened c rest slashes _ ih =>
    obtain ⟨s, hs⟩ := ih fun hcloses => h (hcloses.trans (List.suffix_cons c rest).isInfix)
    rw [hs]
    exact ⟨_, rfl⟩

end Markup

/-- The console can read whatever has no closing tag. -/
def Console.Lenient (console : Console) : Prop :=
  ∀ text : String, ¬ Markup.Closes text.toList → console.reads text = true

/-- A console that reads tags is lenient. -/
theorem Console.lenient_plain : plain.Lenient := by
  intro text h
  obtain ⟨s, hs⟩ := Markup.exists_seen? [] h
  exact Option.isSome_iff_exists.mpr ⟨String.ofList s, congrArg (Option.map String.ofList) hs⟩

end Wiring
