import LspHost.Text.Words

/-!
# Lines that have no words

Whether a command line can be cut into words is decided by where it ends, and that is found without
cutting it: one character after the other tells whether the next one is inside a quotation, or is kept
by a backslash (`Words.Mode.next`). A line that ends outside quotations, and not right after such a
backslash, has words; every other line has none, for a reason that only its end gives
(`Words.split_eq_error_iff`).
-/

namespace LspHost.Text.Words

/-- Where a line goes on after one more character. -/
def Mode.next : Mode → Char → Mode
  | .bare, c =>
    if c = '\'' then .single else if c = '"' then .double else if c = '\\' then .bareEscape else .bare
  | .bareEscape, _ => .bare
  | .single, c => if c = '\'' then .bare else .single
  | .double, c => if c = '"' then .bare else if c = '\\' then .doubleEscape else .double
  | .doubleEscape, _ => .double

/-- Why a line that ends here has no words. -/
def Mode.unfinished? : Mode → Option Unfinished
  | .bare => none
  | .single | .double => some .quotation
  | .bareEscape | .doubleEscape => some .escape

/-- Why a line has no words, if it has none: it ends inside a quotation, or right after a backslash
that keeps the next character. -/
def unfinished? (line : String) : Option Unfinished :=
  (line.toList.foldl Mode.next .bare).unfinished?

/-- A blank opens nothing. -/
theorem Mode.next_of_isGap {c : Char} (h : isGap c = true) : Mode.next .bare c = .bare := by
  simp only [isGap, Bool.or_eq_true, beq_iff_eq] at h
  rcases h with ((rfl | rfl) | rfl) | rfl <;> rfl

/-- **Reading on fails** where the rest of the line leads to an end without words. -/
theorem read_eq_error_iff (mode : Mode) (word : Open) (text : List Char) {cause : Unfinished} :
    read mode word text = .error cause ↔
      (text.foldl Mode.next mode).unfinished? = some cause := by
  induction text generalizing mode word with
  | nil => cases mode <;> simp [read, Mode.unfinished?]
  | cons c rest ih =>
    rw [List.foldl_cons]
    cases mode with
    | bare =>
      by_cases hgap : isGap c = true
      · rw [Mode.next_of_isGap hgap, ← ih .bare none, read, if_pos hgap]
        cases read .bare none rest <;> simp [Except.map]
      · rw [read, if_neg hgap, Mode.next]
        split
        · exact ih _ _
        · split
          · exact ih _ _
          · split <;> exact ih _ _
    | bareEscape => exact ih _ _
    | single =>
      rw [read, Mode.next]
      split <;> exact ih _ _
    | double =>
      rw [read, Mode.next]
      split
      · exact ih _ _
      · split <;> exact ih _ _
    | doubleEscape =>
      rw [read, Mode.next]
      split <;> exact ih _ _

/-- **A line has no words** just where it ends inside a quotation or right after a backslash that keeps
the next character. -/
theorem split_eq_error_iff {line : String} {cause : Unfinished} :
    split line = .error cause ↔ unfinished? line = some cause := by
  rw [unfinished?, ← read_eq_error_iff .bare none, split]
  cases read .bare none line.toList <;> simp [Except.map]

example : unfinished? "serve '\\' \"\\\"" = some .quotation := by decide +kernel

end LspHost.Text.Words
