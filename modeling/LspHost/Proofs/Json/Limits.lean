import LspHost.Json.Parser
import Mathlib.Data.List.Infix
import Mathlib.Data.List.TakeWhile

/-!
# The limits of reading JSON

A text has no value if it is not JSON, and also if it goes beyond what is read: a row of more digits than are
converted, or more lists and objects within each other than are permitted. Each problem that reading ends
with shows in the text (`Json.fits_of_parse`). So a text without such rows and with few brackets is only
ever read or found not to be JSON.

Every reader takes something off the front of a text, so that what one of them meets is in the text that the
others left, and with it in the whole (`Json.Reads`).
-/

namespace LspHost.Json

open Text (Front)

variable {α β : Type} {depth : Nat} {text rest : List Char} {problem : Problem}

/-! ## What a problem says of a text -/

/-- Whether a list or an object begins with a character. -/
def opens (c : Char) : Bool := c == '[' || c == '\x7b'

/-- The number of lists and objects that may begin in a text. -/
def openings (text : List Char) : Nat := text.countP opens

/-- Whether so many digits stand in a row in a text. -/
def HasDigits (count : Nat) (text : List Char) : Prop :=
  ∃ digits, digits.length = count ∧ (∀ c ∈ digits, isDigit c = true) ∧ digits <:+: text

/-- What a problem says of the text that was read with some lists and objects around it. -/
def Problem.Fits (depth : Nat) (text : List Char) : Problem → Prop
  | .malformed => True
  | .tooManyDigits count => digitLimit < count ∧ HasDigits count text
  | .tooDeep => depthLimit < depth + openings text

/-- What a reader leaves of a text is the end of it, and its problem shows in the text. -/
def Reads (depth : Nat) (text : List Char) : Except Problem (Front α) → Prop
  | .ok (_, rest) => rest <:+ text
  | .error problem => problem.Fits depth text

/-- **A problem** shows in all of a text if it shows in the end of it. -/
theorem Problem.Fits.of_suffix (hrest : rest <:+ text) (h : problem.Fits depth rest) :
    problem.Fits depth text := by
  cases problem with
  | malformed => trivial
  | tooManyDigits count =>
    obtain ⟨hlimit, digits, hlength, hdigits, hinfix⟩ := h
    exact ⟨hlimit, digits, hlength, hdigits, hinfix.trans hrest.isInfix⟩
  | tooDeep =>
    have hle : openings rest ≤ openings text := hrest.sublist.countP_le
    exact Nat.lt_of_lt_of_le h (Nat.add_le_add_left hle depth)

theorem openings_cons {c : Char} (hc : opens c = true) (rest : List Char) :
    openings (c :: rest) = openings rest + 1 :=
  List.countP_cons_of_pos hc

/-- **One list or object more than is permitted** begins with its bracket. -/
theorem Problem.fits_tooDeep {c : Char} (hc : opens c = true) (hdepth : depthLimit ≤ depth)
    (rest : List Char) : Problem.tooDeep.Fits depth (c :: rest) := by
  show depthLimit < depth + openings (c :: rest)
  rw [openings_cons hc]
  omega

/-- **A problem within a list or an object** shows in it. -/
theorem Problem.Fits.of_within {c : Char} (hc : opens c = true)
    (h : problem.Fits (depth + 1) rest) : problem.Fits depth (c :: rest) := by
  cases problem with
  | malformed => trivial
  | tooManyDigits count =>
    have hrest : (Problem.tooManyDigits count).Fits depth rest := h
    exact hrest.of_suffix (List.suffix_cons c rest)
  | tooDeep =>
    have hlimit : depthLimit < depth + 1 + openings rest := h
    show depthLimit < depth + openings (c :: rest)
    rw [openings_cons hc]
    omega

theorem Reads.of_suffix {x : Except Problem (Front α)} (hrest : rest <:+ text) (h : Reads depth rest x) :
    Reads depth text x := by
  rcases x with problem | ⟨a, after⟩
  · exact Problem.Fits.of_suffix hrest h
  · exact List.IsSuffix.trans h hrest

theorem Reads.of_within {x : Except Problem (Front α)} {c : Char} (hc : opens c = true)
    (h : Reads (depth + 1) rest x) : Reads depth (c :: rest) x := by
  rcases x with problem | ⟨a, after⟩
  · exact Problem.Fits.of_within hc h
  · exact List.IsSuffix.trans h (List.suffix_cons c rest)

/-- **Reading on** from where a reader stopped reads the text. -/
theorem Reads.bind {x : Except Problem (Front α)} {f : Front α → Except Problem (Front β)}
    (hx : Reads depth text x) (hf : ∀ a rest, Reads depth rest (f (a, rest))) :
    Reads depth text (x >>= f) := by
  rcases x with problem | ⟨a, rest⟩
  · exact hx
  · exact Reads.of_suffix hx (hf a rest)

theorem skipSpace_suffix (text : List Char) : skipSpace text <:+ text := List.dropWhile_suffix _

/-! ## Texts, numbers and words -/

/-- **A text** ends where its closing quote is. -/
theorem reads_readText (depth : Nat) (half : Option Nat) (text : List Char) :
    Reads depth text (readText half text) := by
  fun_induction readText half text with
  | case1 | case6 | case8 | case9 => trivial
  | case2 half rest => exact List.suffix_cons ..
  | case3 a b c d rest _ _ _ _ ih | case4 _ a b c d rest _ _ _ _ ih | case5 _ a b c d rest _ _ _ _ ih =>
    have hmore : Reads depth rest (readText _ rest) := ih
    exact Reads.of_suffix (List.suffix_append ['\\', 'u', a, b, c, d] rest)
      (hmore.bind fun _ => List.suffix_refl)
  | case7 _ letter rest _ _ _ ih =>
    exact Reads.of_suffix (List.suffix_append ['\\', letter] rest) (ih.bind fun _ => List.suffix_refl)
  | case10 _ c rest _ _ _ _ ih =>
    exact Reads.of_suffix (List.suffix_cons c rest) (ih.bind fun _ => List.suffix_refl)

/-- **Digits** are taken off the front as far as they go. -/
theorem of_spanDigits {digits : List Char} (h : spanDigits text = (digits, rest)) :
    digits ++ rest = text ∧ ∀ c ∈ digits, isDigit c = true := by
  rw [spanDigits, List.span_eq_takeWhile_dropWhile] at h
  cases h
  exact ⟨List.takeWhile_append_dropWhile, fun _ => List.mem_takeWhile_imp⟩

theorem of_spanWhole {whole : List Char} (h : spanWhole text = (whole, rest)) :
    whole ++ rest = text ∧ ∀ c ∈ whole, isDigit c = true := by
  unfold spanWhole at h
  split at h
  · cases h
    exact ⟨rfl, List.forall_mem_singleton.mpr rfl⟩
  · exact of_spanDigits h

theorem suffix_of_spanFraction {digits : List Char} (h : spanFraction text = (digits, rest)) :
    rest <:+ text := by
  unfold spanFraction at h
  split at h
  · next more =>
    split at h
    next hspan =>
    split at h <;> cases h
    · exact List.suffix_refl _
    · exact List.IsSuffix.trans ⟨_, (of_spanDigits hspan).1⟩ (List.suffix_cons '.' more)
  · cases h
    exact List.suffix_refl _

theorem suffix_of_spanExponent {down : Bool} {digits : List Char}
    (h : spanExponent? text = some (down, digits, rest)) : rest <:+ text := by
  unfold spanExponent? at h
  split at h
  · next e signed =>
    split at h
    · split at h
      next body hsign =>
      have hbody : body <:+ signed := by
        split at hsign <;> cases hsign
        · exact List.suffix_cons ..
        · exact List.suffix_cons ..
        · exact List.suffix_refl _
      split at h
      next hspan =>
      split at h <;> cases h
      exact (List.IsSuffix.trans ⟨_, (of_spanDigits hspan).1⟩ hbody).trans (List.suffix_cons e signed)
    · cases h
  · cases h

/-- **A number** ends after its digits, and all of them stand in the text. -/
theorem reads_readNumber (depth : Nat) (text : List Char) : Reads depth text (readNumber text) := by
  unfold readNumber
  split
  next body hsign =>
  have hbody : body <:+ text := by
    split at hsign <;> cases hsign
    · exact List.suffix_cons ..
    · exact List.suffix_refl _
  split
  next whole more hwhole =>
  obtain ⟨happend, hdigits⟩ := of_spanWhole hwhole
  have hmore : more <:+ text := List.IsSuffix.trans ⟨whole, happend⟩ hbody
  split
  · trivial
  split
  next rest hfraction =>
  have hrest : rest <:+ text := (suffix_of_spanFraction hfraction).trans hmore
  split
  · split
    · next hlimit =>
      have hprefix : whole <+: body := ⟨more, happend⟩
      exact ⟨hlimit, whole, rfl, hdigits, hprefix.isInfix.trans hbody.isInfix⟩
    · exact hrest
  · exact hrest
  · next hexponent => exact (suffix_of_spanExponent hexponent).trans hrest

/-- **A word** is taken off the front. -/
theorem reads_of_readWord {front : Front Value} (h : readWord? text = some front) :
    Reads depth text (.ok front) := by
  obtain ⟨⟨word, value⟩, -, hword⟩ := List.exists_of_findSome?_eq_some h
  obtain ⟨rest, hrest, rfl⟩ := Option.map_eq_some_iff.mp hword
  show rest <:+ text
  unfold Text.afterWord? at hrest
  split at hrest
  · cases hrest
    exact List.drop_suffix ..
  · cases hrest

/-! ## Values -/

theorem reads_readValue {fuel : Nat}
    (hitems : ∀ depth text, Reads depth text (readItems fuel depth text))
    (hentries : ∀ depth text, Reads depth text (readEntries fuel depth text))
    (depth : Nat) (text : List Char) : Reads depth text (readValue (fuel + 1) depth text) := by
  unfold readValue
  split
  · next rest =>
    exact Reads.of_suffix (List.suffix_cons '"' rest)
      ((reads_readText depth none rest).bind fun _ => List.suffix_refl)
  · next rest =>
    split
    · next hdeep => exact Problem.fits_tooDeep rfl hdeep rest
    · refine Reads.of_within rfl (Reads.of_suffix (skipSpace_suffix rest) ?_)
      split
      · next after heq => exact heq ▸ List.suffix_cons ']' after
      · exact (hitems (depth + 1) _).bind fun _ => List.suffix_refl
  · next rest =>
    split
    · next hdeep => exact Problem.fits_tooDeep rfl hdeep rest
    · refine Reads.of_within rfl (Reads.of_suffix (skipSpace_suffix rest) ?_)
      split
      · next after heq => exact heq ▸ List.suffix_cons '\x7d' after
      · exact (hentries (depth + 1) _).bind fun _ => List.suffix_refl
  · split
    · next hword => exact reads_of_readWord hword
    · exact reads_readNumber depth _

theorem reads_readItems {fuel : Nat}
    (hvalue : ∀ depth text, Reads depth text (readValue fuel depth text))
    (hitems : ∀ depth text, Reads depth text (readItems fuel depth text))
    (depth : Nat) (text : List Char) : Reads depth text (readItems (fuel + 1) depth text) := by
  rw [readItems]
  refine (hvalue depth text).bind fun item rest => Reads.of_suffix (skipSpace_suffix rest) ?_
  dsimp only
  split
  · next after heq => exact heq ▸ List.suffix_cons ']' after
  · next after heq =>
    rw [heq]
    refine Reads.of_suffix ((skipSpace_suffix after).trans (List.suffix_cons ',' after)) ?_
    exact (hitems depth _).bind fun _ => List.suffix_refl
  · trivial

theorem reads_readEntries {fuel : Nat}
    (hvalue : ∀ depth text, Reads depth text (readValue fuel depth text))
    (hentries : ∀ depth text, Reads depth text (readEntries fuel depth text))
    (depth : Nat) (text : List Char) : Reads depth text (readEntries (fuel + 1) depth text) := by
  unfold readEntries
  split
  · next rest =>
    refine Reads.of_suffix (List.suffix_cons '"' rest) ((reads_readText depth none rest).bind ?_)
    intro key rest
    refine Reads.of_suffix (skipSpace_suffix rest) ?_
    dsimp only
    split
    · next after heq =>
      rw [heq]
      refine Reads.of_suffix ((skipSpace_suffix after).trans (List.suffix_cons ':' after)) ?_
      refine (hvalue depth _).bind fun value rest => Reads.of_suffix (skipSpace_suffix rest) ?_
      dsimp only
      split
      · next after heq => exact heq ▸ List.suffix_cons '\x7d' after
      · next after heq =>
        rw [heq]
        refine Reads.of_suffix ((skipSpace_suffix after).trans (List.suffix_cons ',' after)) ?_
        exact (hentries depth _).bind fun _ => List.suffix_refl
      · trivial
    · trivial
  · trivial

/-- **Every reader of values** takes something off the front, and meets problems that show in the text. -/
theorem reads_of_fuel (fuel : Nat) :
    (∀ depth text, Reads depth text (readValue fuel depth text)) ∧
      (∀ depth text, Reads depth text (readItems fuel depth text)) ∧
      ∀ depth text, Reads depth text (readEntries fuel depth text) := by
  induction fuel with
  | zero =>
    refine ⟨fun depth text => ?_, fun depth text => ?_, fun depth text => ?_⟩
    · rw [readValue]
      trivial
    · rw [readItems]
      trivial
    · rw [readEntries]
      trivial
  | succ fuel ih =>
    -- the readers call each other with less fuel, so the three are proved together
    obtain ⟨hvalue, hitems, hentries⟩ := ih
    exact ⟨reads_readValue hitems hentries, reads_readItems hvalue hitems, reads_readEntries hvalue hentries⟩

/-- **Where a text has no value**, it is not JSON, it has too many digits in a row, or more lists and objects
than may be within each other. -/
theorem fits_of_parse {text : String} (h : parse text = .error problem) : problem.Fits 0 text.toList := by
  have hvalue := (reads_of_fuel (2 * text.toList.length + 2)).1 0 (skipSpace text.toList)
  simp only [parse, bind, Except.bind] at h
  refine Problem.Fits.of_suffix (skipSpace_suffix text.toList) ?_
  -- a value with something after it is no problem but that the text is not JSON
  rcases hread : readValue (2 * text.toList.length + 2) 0 (skipSpace text.toList) with
    problem' | ⟨value, rest⟩
  · rw [hread] at h hvalue
    cases h
    exact hvalue
  · rw [hread] at h
    dsimp only at h
    split at h <;> cases h
    trivial

/-- **More digits than are converted** are given up. -/
theorem parse_eq_tooManyDigits {more : Nat} (h : digitLimit ≤ more) :
    parse (String.ofList ('1' :: List.replicate more '1')) = .error (.tooManyDigits (more + 1)) := by
  have hdigits : ∀ c ∈ '1' :: List.replicate more '1', isDigit c = true := by
    intro c hc
    rw [← List.replicate_succ] at hc
    obtain rfl := List.eq_of_mem_replicate hc
    decide
  have hwhole : spanWhole ('1' :: List.replicate more '1') = ('1' :: List.replicate more '1', []) := by
    show spanDigits _ = _
    rw [spanDigits, List.span_eq_takeWhile_dropWhile, List.takeWhile_eq_self_iff.mpr hdigits,
      List.dropWhile_eq_nil_iff.mpr hdigits]
  have hfraction : spanFraction [] = ([], []) := rfl
  have hexponent : spanExponent? [] = none := rfl
  have hnumber : readNumber ('1' :: List.replicate more '1') = .error (.tooManyDigits (more + 1)) := by
    have hlimit : digitLimit < more + 1 := Nat.lt_succ_of_le h
    simp [readNumber, hwhole, hfraction, hexponent, hlimit]
  have hword : readWord? ('1' :: List.replicate more '1') = none := by
    simp [readWord?, Text.afterWord?]
  have hskip : skipSpace ('1' :: List.replicate more '1') = '1' :: List.replicate more '1' := rfl
  have hvalue (fuel : Nat) : readValue (fuel + 1) 0 ('1' :: List.replicate more '1') =
      .error (.tooManyDigits (more + 1)) := by
    rw [readValue]
    · simp only [hword, hnumber]
    all_goals simp
  simp only [parse, String.toList_ofList, hskip, hvalue, bind, Except.bind]

end LspHost.Json
