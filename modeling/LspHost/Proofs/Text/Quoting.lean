import LspHost.Text.Words

/-!
# Words that are written down

A command line that is written of words is cut into the same words again (`Words.split_join`), whatever
the words hold: nothing at all, blanks, quotes, backslashes or line ends.

The reader is followed along one word. In a word that is written bare each character is taken as it is
(`Words.read_bare_append`); between single quotes so is each character but a single quote, and that one
leaves the quotation, is read in another one, and comes back (`Words.read_single_append`). Whichever way a
word is written, the reader has read it, and nothing else, at its end (`Words.read_quoteWord`).
-/

namespace LspHost.Text.Words

/-! ## Words without quotation -/

/-- **A safe character** means nothing to the reader. -/
theorem ne_of_isSafe {c : Char} (h : isSafe c = true) :
    isGap c = false ∧ c ≠ '\'' ∧ c ≠ '"' ∧ c ≠ '\\' := by
  have hother (special : Char) (hspecial : isSafe special = false) : c ≠ special := by
    rintro rfl
    rw [h] at hspecial
    cases hspecial
  refine ⟨?_, hother _ (by decide), hother _ (by decide), hother _ (by decide)⟩
  simp [isGap, hother ' ' (by decide), hother '\t' (by decide), hother '\r' (by decide),
    hother '\n' (by decide)]

/-- **A safe character** is added to the word. -/
theorem read_bare_of_isSafe {c : Char} (h : isSafe c = true) (word : Open) (rest : List Char) :
    read .bare word (c :: rest) = read .bare (word.extend [c]) rest := by
  obtain ⟨hgap, hsingle, hdouble, hescape⟩ := ne_of_isSafe h
  rw [read, if_neg (Bool.eq_false_iff.mp hgap), if_neg hsingle, if_neg hdouble, if_neg hescape]

/-- **Safe characters** are added to the word one after the other. -/
theorem read_bare_append {chars : List Char} (h : ∀ c ∈ chars, isSafe c = true)
    (done rest : List Char) :
    read .bare (some done) (chars ++ rest) = read .bare (some (chars.reverse ++ done)) rest := by
  induction chars generalizing done with
  | nil => rfl
  | cons c chars ih =>
    obtain ⟨hc, hchars⟩ := List.forall_mem_cons.mp h
    have hword : Open.extend (some done) [c] = some (c :: done) := rfl
    rw [List.cons_append, read_bare_of_isSafe hc, hword, ih hchars, List.reverse_cons,
      List.append_assoc, List.singleton_append]

/-! ## Words in quotation -/

/-- **A single quote** within a quotation is read, and the quotation goes on. -/
theorem read_single_quote (done rest : List Char) :
    read .single (some done) ("'\"'\"'".toList ++ rest) = read .single (some ('\'' :: done)) rest := by
  simp [read, isGap, Open.extend]

/-- **A quotation** is read up to its end. -/
theorem read_single_append (chars done rest : List Char) :
    read .single (some done)
        (chars.flatMap (fun c => if c = '\'' then "'\"'\"'".toList else [c]) ++ '\'' :: rest) =
      read .bare (some (chars.reverse ++ done)) rest := by
  induction chars generalizing done with
  | nil => simp [read]
  | cons c chars ih =>
    rw [List.flatMap_cons, List.append_assoc, List.reverse_cons, List.append_assoc,
      List.singleton_append]
    by_cases hquote : c = '\''
    · rw [if_pos hquote, read_single_quote, ih, hquote]
    · have hword : Open.extend (some done) [c] = some (c :: done) := rfl
      rw [if_neg hquote, List.singleton_append, read, if_neg hquote, hword, ih]

theorem read_quoteAlways (word rest : List Char) :
    read .bare none (quoteAlways word ++ rest) = read .bare (some word.reverse) rest := by
  have hopen (text : List Char) : read .bare none ('\'' :: text) = read .single (some []) text := by
    simp [read, isGap, Open.extend]
  rw [quoteAlways, List.append_assoc, List.singleton_append, List.cons_append, hopen,
    read_single_append, List.append_nil]

/-! ## Lines -/

/-- **A word that is written down** is read as it was. -/
theorem read_quoteWord (word : String) (rest : List Char) :
    read .bare none ((quoteWord word).toList ++ rest) = read .bare (some word.toList.reverse) rest := by
  unfold quoteWord
  split
  · next hempty =>
    obtain rfl : word = "" := by simpa using hempty
    exact read_quoteAlways [] rest
  · next hempty =>
    split
    · next hsafe =>
      have hsafe : ∀ c ∈ word.toList, isSafe c = true := List.all_eq_true.mp hsafe
      obtain ⟨c, chars, hword⟩ : ∃ c chars, word.toList = c :: chars :=
        List.exists_cons_of_ne_nil (by simpa using hempty)
      rw [hword] at hsafe ⊢
      obtain ⟨hc, hchars⟩ := List.forall_mem_cons.mp hsafe
      rw [List.cons_append, read_bare_of_isSafe hc, List.reverse_cons]
      exact read_bare_append hchars [c] rest
    · rw [String.toList_ofList, read_quoteAlways]

/-- **A word at the end of a line** is its last one. -/
theorem read_quoteWord_nil (word : String) :
    read .bare none (quoteWord word).toList = .ok [word.toList] := by
  have h := read_quoteWord word []
  rw [List.append_nil] at h
  rw [h, read]
  simp [Open.finish]

/-- **A word before a blank** is followed by the words after it. -/
theorem read_quoteWord_gap (word : String) (rest : List Char) :
    read .bare none ((quoteWord word).toList ++ ' ' :: rest) =
      (read .bare none rest).map (word.toList :: ·) := by
  rw [read_quoteWord, read, if_pos (by decide)]
  simp [Open.finish]

theorem toList_join_cons (first second : String) (words : List String) :
    (join (first :: second :: words)).toList =
      (quoteWord first).toList ++ ' ' :: (join (second :: words)).toList := by
  simp [join]

/-- **Words that are written down** in a line are read again. -/
theorem read_join (words : List String) :
    read .bare none (join words).toList = .ok (words.map String.toList) := by
  induction words with
  | nil => rfl
  | cons first words ih =>
    cases words with
    | nil =>
      have hline : join [first] = quoteWord first := String.intercalate_singleton
      rw [hline, read_quoteWord_nil]
      rfl
    | cons second words =>
      rw [toList_join_cons, read_quoteWord_gap, ih]
      rfl

/-- **A line that is written of words** is cut into these words. -/
theorem split_join (words : List String) : split (join words) = .ok words := by
  rw [split, read_join]
  simp [Except.map]

/-- **Only no words** are written as nothing. -/
theorem join_ne_empty {words : List String} (h : words ≠ []) : join words ≠ "" := by
  intro hempty
  have hwords := split_join words
  rw [hempty] at hwords
  exact h (Except.ok.inj hwords).symm

example : join ["serve", "", "it's", "a\\b #c"] = "serve '' 'it'\"'\"'s' 'a\\b #c'" := by decide +kernel

end LspHost.Text.Words
