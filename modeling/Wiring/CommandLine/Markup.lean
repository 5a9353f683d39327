/-!
# Markup

A text in which markup counts has tags in square brackets. A tag that starts with a slash closes the
last open tag of its name, or the last one at all if it has no name; it cannot be read if there is
none. Any other tag opens a style, whether or not there is a style of that name, so `list[int]` is
shown as `list`. A backslash before a tag takes its meaning from it.

Names of styles are compared as they are written, up to case and blanks around them. Codes of
emojis are not replaced, and what stands behind an equals sign in a tag does not count.
-/

namespace Wiring.Markup

/-- Characters with which the content of a tag starts. -/
def startsTag (c : Char) : Bool := c.isLower || c == '#' || c == '/' || c == '@'

/-- The content of the tag at the start of a text, and what follows it. -/
def tag? : List Char → Option (List Char × List Char)
  | '[' :: c :: rest =>
    if startsTag c then
      match rest.dropWhile (fun c => c != '[' && c != ']') with
      | ']' :: after => some (c :: rest.takeWhile (fun c => c != '[' && c != ']'), after)
      | _ => none
    else none
  | _ => none

/-- A tag stands between brackets. -/
theorem eq_of_tag? {text content after : List Char} (h : tag? text = some (content, after)) :
    text = '[' :: content ++ ']' :: after := by
  unfold tag? at h
  split at h
  · rename_i c rest
    split at h
    · split at h
      · rename_i after' hafter
        obtain ⟨rfl, rfl⟩ := Prod.mk.inj (Option.some.inj h)
        rw [← hafter, List.cons_append, List.cons_append, List.takeWhile_append_dropWhile]
      · cases h
    · cases h
  · cases h

/-- What follows a tag is shorter than a text that ends with both. -/
theorem length_lt_of_tag? {n : Nat} {text content after : List Char}
    (h : tag? (text.drop n) = some (content, after)) : after.length < text.length := by
  have hlength := congrArg List.length (eq_of_tag? h)
  simp only [List.length_drop, List.length_append, List.length_cons] at hlength
  omega

/-- The name of a style as it is compared. -/
def styleName (name : List Char) : List Char :=
  (((name.dropWhile Char.isWhitespace).reverse.dropWhile Char.isWhitespace).reverse).map
    Char.toLower

/-- The tags that are open after one more, the last one first, if it can be read. -/
def enter? (opened : List (List Char)) (content : List Char) : Option (List (List Char)) :=
  match content.takeWhile (· != '=') with
  | '/' :: closing =>
    match styleName closing, opened with
    | [], [] => none
    | [], _ :: outer => some outer
    | name, opened => if opened.contains name then some (opened.erase name) else none
  | name => some (styleName name :: opened)

/-- What is seen of a text behind some open tags. Of the backslashes before a tag every two stand for
one, and one that is left over makes the tag a part of the text. -/
def seen? (opened : List (List Char)) : List Char → Option (List Char)
  | [] => some []
  | c :: rest =>
    let slashes := (c :: rest).takeWhile (· == '\\')
    let shown := slashes.take (slashes.length / 2)
    match _h : tag? ((c :: rest).drop slashes.length) with
    | some (content, after) =>
      if slashes.length % 2 == 1 then do
        return shown ++ '[' :: content ++ ']' :: (← seen? opened after)
      else do
        return shown ++ (← seen? (← enter? opened content) after)
    | none => do
      let more ← seen? opened rest
      return if c == '\\' && rest.head? == some '[' then more else c :: more
termination_by text => text.length
decreasing_by
  · exact length_lt_of_tag? ‹_›
  · exact length_lt_of_tag? ‹_›
  · exact Nat.lt_succ_self _

/-- What is seen of a text, if its tags can be read. -/
def plain? (text : String) : Option String := (seen? [] text.toList).map String.ofList

example : plain? "list[int]" = some "list" := by decide +kernel

example : plain? "[bold]root[/bold] (Literal\\[a])" = some "root (Literal[a])" := by
  decide +kernel

example : plain? "Literal[\"[/b]\"]" = none := by decide +kernel

end Wiring.Markup
