import LspHost.Path

/-!
# Paths and their texts

A path is read back from its text (`Path.ofText_text`), so two paths of one text are one path
(`Path.text_injective`). A path taken from an absolute one is absolute, and an absolute one is the
same from everywhere.
-/

namespace LspHost

/-- **Pieces without the separator** are what their text is cut into. -/
theorem Text.cut_intercalate {sep : Char} {pieces : List String}
    (h : ∀ piece ∈ pieces, sep ∉ piece.toList) (hne : pieces ≠ []) :
    Text.cut sep ((String.singleton sep).intercalate pieces) = pieces := by
  have hlists : ∀ l ∈ pieces.map String.toList, sep ∉ l := by
    intro l hl
    obtain ⟨piece, hpiece, rfl⟩ := List.mem_map.mp hl
    exact h piece hpiece
  rw [Text.cut, String.toList_intercalate, String.toList_singleton,
    List.splitOn_intercalate sep hlists (by simpa using hne), List.map_map]
  simp

/-- **A text that begins with the separator** has an empty piece in front. -/
theorem Text.cut_singleton_append (sep : Char) (text : String) :
    Text.cut sep (String.singleton sep ++ text) = "" :: Text.cut sep text := by
  have hsplit := List.splitOn_append_cons_self (a := sep) [] text.toList
  rw [List.splitOn_nil, List.nil_append, List.singleton_append] at hsplit
  rw [Text.cut, String.toList_append, String.toList_singleton, List.singleton_append, hsplit]
  rfl

namespace Path

/-! ## Joining -/

/-- **A path taken from an absolute one** is absolute. -/
theorem isAbsolute_join {base : Path} (h : base.isAbsolute = true) (p : Path) :
    (base.join p).isAbsolute = true := by
  unfold join
  split
  · exact h
  · next hrelative => simpa [isAbsolute] using hrelative

/-- **An absolute path** is the same from everywhere. -/
theorem join_of_isAbsolute (base : Path) {p : Path} (h : p.isAbsolute = true) :
    base.join p = p := by
  unfold join
  split
  · next hrelative => simp [isAbsolute, hrelative] at h
  · rfl

/-! ## Segments -/

theorem slash_not_mem_of_isSegment {segment : String} (h : isSegment segment = true) :
    '/' ∉ segment.toList := by
  simp only [isSegment, Bool.and_eq_true, Bool.not_eq_true', List.contains_eq_mem,
    decide_eq_false_iff_not] at h
  exact h.2

theorem ne_empty_of_isSegment {segment : String} (h : isSegment segment = true) :
    segment ≠ "" := by
  rintro rfl
  cases h

/-- The segments of a path with slashes between them. -/
def body (p : Path) : String := "/".intercalate p.segments

/-- **The segments** are what the body is cut into, leaving out what names nothing. -/
theorem filter_cut_body (p : Path) : (Text.cut '/' p.body).filter isSegment = p.segments := by
  by_cases hnone : p.segments = []
  · rw [body, hnone]
    decide
  · have hcut : Text.cut '/' p.body = p.segments :=
      Text.cut_intercalate (fun segment h => slash_not_mem_of_isSegment (p.named segment h)) hnone
    rw [hcut, List.filter_eq_self]
    exact p.named

/-- **The body** does not begin with a slash. -/
theorem body_ne_slash (p : Path) (rest : List Char) : p.body.toList ≠ '/' :: rest := by
  obtain ⟨anchor, segments, named⟩ := p
  cases segments with
  | nil =>
    intro h
    simp [body] at h
  | cons segment more =>
    intro h
    obtain ⟨c, chars, hsegment⟩ : ∃ c chars, segment.toList = c :: chars := by
      have hne := ne_empty_of_isSegment (named segment (List.mem_cons_self ..))
      exact List.exists_cons_of_ne_nil (by simpa using hne)
    have hslash := slash_not_mem_of_isSegment (named segment (List.mem_cons_self ..))
    rw [hsegment] at hslash
    have hfirst : (body ⟨anchor, segment :: more, named⟩).toList.head? = some c := by
      cases more with
      | nil => simp [body, hsegment]
      | cons next more => simp [body, hsegment]
    rw [h] at hfirst
    obtain rfl := Option.some.inj hfirst
    exact hslash (List.mem_cons_self ..)

/-! ## Texts -/

/-- **The text of an absolute path** begins with a slash. -/
theorem startsWith_text {p : Path} (h : p.isAbsolute = true) : p.text.startsWith "/" = true := by
  have hrelative : p.anchor ≠ .relative := by simpa [isAbsolute] using h
  rw [text, if_neg (fun hand => hrelative hand.1), String.startsWith_string_iff]
  cases hanchor : p.anchor with
  | relative => exact absurd hanchor hrelative
  | root => simp [anchorText]
  | doubleRoot => simp [anchorText]

theorem anchorOf_slash (rest : List Char) : anchorOf ('/' :: rest) ≠ .relative := by
  unfold anchorOf
  split
  · exact nofun
  · exact nofun
  · exact nofun
  · next hnone => exact absurd rfl (hnone rest)

/-- **The anchor** is read off the text in front of a body. -/
theorem anchorOf_body (p : Path) :
    anchorOf ((anchorText p.anchor).toList ++ p.body.toList) = p.anchor := by
  have hbody := p.body_ne_slash
  cases hanchor : p.anchor with
  | relative =>
    simp only [anchorText]
    unfold anchorOf
    split
    · next h => exact absurd h (hbody _)
    · next h => exact absurd h (hbody _)
    · next h => exact absurd h (hbody _)
    · rfl
  | root =>
    show anchorOf ('/' :: p.body.toList) = .root
    unfold anchorOf
    split
    · rfl
    · next h => exact absurd (List.cons.inj h).2 (hbody _)
    · rfl
    · next h => exact absurd rfl (h _)
  | doubleRoot =>
    show anchorOf ('/' :: '/' :: p.body.toList) = .doubleRoot
    unfold anchorOf
    split
    · next h => exact absurd (List.cons.inj (List.cons.inj h).2).2 (hbody _)
    · rfl
    · next hone h => exact absurd (List.cons.inj h).2.symm (hone _)
    · next h => exact absurd rfl (h _)

/-- **A slash in front** names nothing. -/
theorem filter_cut_slash (text : String) :
    (Text.cut '/' ("/" ++ text)).filter isSegment = (Text.cut '/' text).filter isSegment := by
  have hempty : isSegment "" = false := by decide
  have hcut : Text.cut '/' ("/" ++ text) = "" :: Text.cut '/' text :=
    Text.cut_singleton_append '/' text
  rw [hcut, List.filter_cons, hempty, if_neg Bool.false_ne_true]

/-- **The segments** are read off the text in front of a body too. -/
theorem filter_cut_anchorText (p : Path) :
    (Text.cut '/' (anchorText p.anchor ++ p.body)).filter isSegment = p.segments := by
  cases p.anchor with
  | relative => rw [anchorText, String.empty_append, filter_cut_body]
  | root => rw [anchorText, filter_cut_slash, filter_cut_body]
  | doubleRoot =>
    have htwo : anchorText .doubleRoot = "/" ++ "/" := by decide
    rw [htwo, String.append_assoc, filter_cut_slash, filter_cut_slash, filter_cut_body]

/-- **A path** is read back from its text. -/
theorem ofText_text (p : Path) : ofText p.text = p := by
  unfold text
  split
  · next hhere =>
    rw [ext_iff', hhere.1, hhere.2]
    decide
  · rw [ext_iff']
    constructor
    · show anchorOf (anchorText p.anchor ++ p.body).toList = p.anchor
      rw [String.toList_append, anchorOf_body]
    · exact p.filter_cut_anchorText

/-- **Two paths of one text** are one. -/
theorem text_injective : Function.Injective text :=
  Function.LeftInverse.injective ofText_text

/-- **The text of a path** is never empty. -/
theorem text_ne_empty (p : Path) : p.text ≠ "" := by
  intro hempty
  have hp : ofText "" = p := by rw [← hempty, ofText_text]
  have htext : (ofText "").text = "." := by decide +kernel
  rw [hp, hempty] at htext
  exact absurd htext (by decide)

/-- **Two names of one segment** lead to the same place only if the segments are the same. -/
theorem segments_joinText_of_relative (base : Path) {text : String}
    (h : (ofText text).anchor = .relative) :
    (base.joinText text).segments = base.segments ++ (ofText text).segments := by
  rw [joinText, join, h]

end Path

end LspHost
