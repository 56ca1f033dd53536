/-!
# Texts cut at one character

Paths, dotted keys and search paths are texts cut at one character. There is always at least one
piece: the empty text has exactly one, which is empty. `intercalate_cut` says that nothing is lost.
-/

namespace LspHost.Text

/-- The pieces of a text between the occurrences of `sep`. -/
def cut (sep : Char) (text : String) : List String :=
  (text.toList.splitOn sep).map String.ofList

/-- There is always a piece. -/
theorem cut_ne_nil (sep : Char) (text : String) : cut sep text ≠ [] := by
  simp [cut, List.splitOn_ne_nil]

/-- **Nothing is lost**: the pieces with the separator between neighbours are the text. -/
theorem intercalate_cut (sep : Char) (text : String) :
    (String.singleton sep).intercalate (cut sep text) = text := by
  rw [← String.toList_inj, String.toList_intercalate, cut, List.map_map]
  simp [Function.comp_def]

end LspHost.Text
