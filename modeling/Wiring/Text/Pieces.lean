/-!
# Texts cut at a mark

`pieces` are what stands between the marks of a text. Joined with the mark they are the text again
(`intercalate_pieces`), and what was joined out of parts without marks comes apart into these
(`pieces_intercalate`).
-/

namespace Wiring.Text

/-- The pieces of a text before, between and after its marks: `split`. -/
def pieces (mark : Char) (text : String) : List String :=
  (text.toList.splitOn mark).map String.ofList

/-- The pieces of a text joined with the mark are the text. -/
theorem intercalate_pieces (mark : Char) (text : String) :
    (String.singleton mark).intercalate (pieces mark text) = text := by
  apply String.toList_inj.mp
  rw [String.toList_intercalate, pieces, List.map_map]
  have hround : String.toList ∘ String.ofList = id := by
    funext cs
    exact String.toList_ofList
  rw [hround, List.map_id, String.toList_singleton, List.intercalate_splitOn]

/-- Parts without marks are the pieces of what they are joined to. -/
theorem pieces_intercalate {mark : Char} {parts : List String} (hparts : parts ≠ [])
    (hmark : ∀ p ∈ parts, mark ∉ p.toList) :
    pieces mark ((String.singleton mark).intercalate parts) = parts := by
  have hsplit : ([mark].intercalate (parts.map String.toList)).splitOn mark =
      parts.map String.toList := by
    apply List.splitOn_intercalate
    · simpa using hmark
    · simpa using hparts
  have hround : String.ofList ∘ String.toList = id := by
    funext s
    exact String.ofList_toList
  rw [pieces, String.toList_intercalate, String.toList_singleton, hsplit, List.map_map, hround,
    List.map_id]

end Wiring.Text
