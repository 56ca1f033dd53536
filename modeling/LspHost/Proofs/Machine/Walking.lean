import LspHost.Machine
import LspHost.Proofs.Path.Text
import Mathlib.Data.List.Infix

/-!
# Walking without links

Where there are no links, a path that leads anywhere leads where its names say: down by each name and up by
each `..` (`Files.eq_walked_of_descend`). So what is at it can be read off the path that names the same place
without `..` (`Path.collapsed`).

A path that goes up passes through directories that are not above its end. What its beginnings name is
either above the end or left upward later (`Files.isPrefix_walked_or`), and all directories that lie between
what a beginning names and the end are named by later beginnings (`Files.exists_walked_eq`).
-/

namespace LspHost

namespace Machine

namespace Files

/-! ## Names that lead up and down -/

/-- Where one more name leads from a location. -/
def stepped (from_ : Location) (name : String) : Location :=
  if name.isEmpty || name == "." then from_
  else if name == ".." then from_.dropLast
  else from_ ++ [name]

/-- Where a row of names leads from a location. -/
def walked (from_ : Location) (names : List String) : Location := names.foldl stepped from_

/-- Whether a name leads down into a directory. -/
def LeadsDown (name : String) : Prop := isSegment name = true ∧ name ≠ ".."

instance (name : String) : Decidable (LeadsDown name) := inferInstanceAs (Decidable (_ ∧ _))

/-- **Names without `..`** are where the names lead from the root. -/
theorem normalise_eq (names : List String) : normalise names = walked [] names := rfl

variable {fs : Files} {from_ at_ : Location} {name : String} {names : List String}

theorem walked_append (from_ : Location) (names more : List String) :
    walked from_ (names ++ more) = walked (walked from_ names) more :=
  List.foldl_append ..

theorem walked_concat (from_ : Location) (names : List String) (name : String) :
    walked from_ (names ++ [name]) = stepped (walked from_ names) name :=
  List.foldl_concat ..

/-- **One more name** leads nowhere else, up or down. -/
theorem stepped_cases (from_ : Location) (name : String) :
    stepped from_ name = from_ ∨ stepped from_ name = from_.dropLast ∨
      stepped from_ name = from_ ++ [name] := by
  unfold stepped
  split
  · exact .inl rfl
  split
  · exact .inr (.inl rfl)
  · exact .inr (.inr rfl)

theorem LeadsDown.not_blank (h : LeadsDown name) : ¬(name.isEmpty || name == ".") = true := by
  have hsegment := h.1
  simp only [isSegment, Bool.and_eq_true, Bool.not_eq_true', bne_iff_ne] at hsegment
  simp [hsegment.1.1, hsegment.1.2]

theorem LeadsDown.not_up (h : LeadsDown name) : ¬(name == "..") = true := by
  simpa using h.2

theorem LeadsDown.stepped_eq (h : LeadsDown name) (from_ : Location) :
    stepped from_ name = from_ ++ [name] := by
  rw [stepped, if_neg h.not_blank, if_neg h.not_up]

/-- **Names that lead down** lead to themselves. -/
theorem walked_of_leadsDown (h : ∀ name ∈ names, LeadsDown name) (from_ : Location) :
    walked from_ names = from_ ++ names := by
  induction names generalizing from_ with
  | nil => exact (List.append_nil _).symm
  | cons name rest ih =>
    obtain ⟨hname, hrest⟩ := List.forall_mem_cons.mp h
    show walked (stepped from_ name) rest = _
    rw [hname.stepped_eq, ih hrest, List.append_assoc, List.singleton_append]

/-- **Where segments lead** there are only names that lead down. -/
theorem leadsDown_of_mem_walked (hfrom : ∀ name ∈ from_, LeadsDown name)
    (hnames : ∀ name ∈ names, isSegment name = true) : ∀ name ∈ walked from_ names, LeadsDown name := by
  induction names generalizing from_ with
  | nil => exact hfrom
  | cons name rest ih =>
    obtain ⟨hname, hrest⟩ := List.forall_mem_cons.mp hnames
    have hstepped : ∀ other ∈ stepped from_ name, LeadsDown other := by
      unfold stepped
      split
      · exact hfrom
      split
      · exact fun other hother => hfrom other (List.mem_of_mem_dropLast hother)
      · next hup =>
        intro other hother
        rcases List.mem_append.mp hother with hother | hother
        · exact hfrom other hother
        · obtain rfl := List.mem_singleton.mp hother
          exact ⟨hname, by simpa using hup⟩
    exact ih hstepped hrest

/-- **A location that a row of names starts from** is above the end, unless the names go up from it. -/
theorem isPrefix_walked_or (from_ : Location) (names : List String) :
    from_ <+: walked from_ names ∨
      ∃ part, part <+: names ∧ walked from_ part <+: from_ ∧ walked from_ part ≠ from_ := by
  induction names using List.reverseRecOn with
  | nil => exact .inl (List.prefix_refl _)
  | append_singleton names name ih =>
    rcases ih with habove | ⟨part, hpart, hleft⟩
    · have hstep := walked_concat from_ names name
      rcases stepped_cases (walked from_ names) name with hstay | hup | hdown
      · rw [hstep, hstay]
        exact .inl habove
      · rcases List.eq_nil_or_concat' (walked from_ names) with hroot | ⟨top, last, hend⟩
        · rw [hroot] at habove
          exact .inl (List.prefix_nil.mp habove ▸ List.nil_prefix)
        · rw [hup, hend, List.dropLast_concat] at hstep
          rw [hend, List.prefix_concat_iff] at habove
          rcases habove with rfl | habove
          · -- the names were back where they started from
            refine .inr ⟨names ++ [name], List.prefix_refl _, ?_, ?_⟩ <;> rw [hstep]
            · exact List.prefix_append _ _
            · simp
          · exact .inl (hstep ▸ habove)
      · rw [hstep, hdown]
        exact .inl (habove.trans (List.prefix_append _ _))
    · exact .inr ⟨part, hpart.trans (List.prefix_append _ _), hleft⟩

/-- **What lies above the end of a row of names**, and not above where it starts, is where some of the
names lead. -/
theorem exists_walked_eq {above : Location} (habove : above <+: walked from_ names)
    (hbelow : ¬above <+: from_) : ∃ part, part <+: names ∧ walked from_ part = above := by
  induction names using List.reverseRecOn with
  | nil => exact absurd habove hbelow
  | append_singleton names name ih =>
    have hearlier (h : above <+: walked from_ names) :
        ∃ part, part <+: names ++ [name] ∧ walked from_ part = above := by
      obtain ⟨part, hpart, heq⟩ := ih h
      exact ⟨part, hpart.trans (List.prefix_append _ _), heq⟩
    have hstep := walked_concat from_ names name
    rw [hstep] at habove
    rcases stepped_cases (walked from_ names) name with hstay | hup | hdown
    · exact hearlier (hstay ▸ habove)
    · exact hearlier ((hup ▸ habove).trans (List.dropLast_prefix _))
    · -- only a name that leads down reaches what no beginning reached
      rw [hdown, List.prefix_concat_iff] at habove
      rcases habove with hend | habove
      · exact ⟨names ++ [name], List.prefix_refl _, by rw [hstep, hdown, hend]⟩
      · exact hearlier habove

/-! ## Following names -/

/-- Whether a file system is without links. -/
def IsPlain (fs : Files) : Prop := ∀ entry ∈ fs.nodes, ∀ target, entry.2 ≠ .link target

theorem IsPlain.get?_ne_link (h : fs.IsPlain) (at_ : Location) (target : String) :
    fs.get? at_ ≠ some (.link target) := by
  unfold get?
  split
  · exact nofun
  · intro hlink
    obtain ⟨entry, hentry, heq⟩ := Option.map_eq_some_iff.mp hlink
    exact h entry (List.mem_of_find?_eq_some hentry) target heq

/-- **Without links** no row of names ends at one. -/
theorem IsPlain.descend_ne_link (h : fs.IsPlain) {directory : Location} {target : String}
    {rest : List String} : fs.descend true from_ names ≠ .link directory target rest := by
  fun_induction descend fs true from_ names with
  | case1 | case2 | case5 | case6 | case7 | case8 => exact nofun
  | case3 _ _ _ _ _ ih | case4 _ _ _ _ _ _ ih => exact ih
  | case9 from_ name rest _ _ _ _ target hlink => exact absurd hlink (h.get?_ne_link _ _)
  | case10 _ _ _ _ _ _ _ _ _ _ ih => exact ih

/-- **What a row of names leads to** is where the names lead. -/
theorem eq_walked_of_descend (h : fs.descend true from_ names = .found at_) :
    at_ = walked from_ names := by
  fun_induction descend fs true from_ names with
  | case1 =>
    cases h
    rfl
  | case2 | case5 | case6 | case7 | case9 => cases h
  | case3 from_ name rest _ hblank ih =>
    rw [ih h]
    show _ = walked (stepped from_ name) rest
    rw [stepped, if_pos hblank]
  | case4 from_ name rest _ hblank hup ih =>
    rw [ih h]
    show _ = walked (stepped from_ name) rest
    rw [stepped, if_neg hblank, if_pos hup]
  | case8 _ _ rest _ _ _ _ target _ hlast => simp at hlast
  | case10 from_ name rest _ hblank hup _ _ _ _ ih =>
    rw [ih h]
    show _ = walked (stepped from_ name) rest
    rw [stepped, if_neg hblank, if_neg hup]

/-- **A row of names** leads on from where its beginning leads. -/
theorem descend_append_eq_found {more : List String} :
    fs.descend true from_ (names ++ more) = .found at_ ↔
      ∃ mid, fs.descend true from_ names = .found mid ∧ fs.descend true mid more = .found at_ := by
  induction names generalizing from_ with
  | nil => simp [descend]
  | cons name rest ih =>
    simp only [List.cons_append, descend]
    split
    · simp
    split
    · exact ih
    split
    · exact ih
    split
    · simp
    split
    · constructor
      · intro h
        split at h <;> cases h
      · rintro ⟨mid, hmid, -⟩
        split at hmid <;> cases hmid
    · simp
    · exact ih

/-- **A name that says nothing** leads from the root to the root. -/
theorem descend_empty (names : List String) :
    fs.descend true [] ("" :: names) = fs.descend true [] names := by
  have hroot : fs.isDirectoryAt [] = true := rfl
  simp [descend, hroot]

/-- **The pieces of a text** that begins at the root lead where its segments lead. -/
theorem descend_cut_text {p : Path} (h : p.isAbsolute = true) :
    fs.descend true [] (Text.cut '/' p.text) = fs.descend true [] p.segments := by
  have hbody : fs.descend true [] (Text.cut '/' p.body) = fs.descend true [] p.segments := by
    by_cases hnone : p.segments = []
    · have hcut : Text.cut '/' "" = [""] := by decide
      rw [Path.body, hnone, String.intercalate_nil, hcut, descend_empty]
    · have hcut : Text.cut '/' p.body = p.segments :=
        Text.cut_intercalate (fun segment h => Path.slash_not_mem_of_isSegment (p.named segment h)) hnone
      rw [hcut]
  have hslash (text : String) : Text.cut '/' ("/" ++ text) = "" :: Text.cut '/' text :=
    Text.cut_singleton_append '/' text
  have hrelative : p.anchor ≠ .relative := by simpa [Path.isAbsolute] using h
  rw [Path.text, if_neg fun hand => hrelative hand.1]
  show fs.descend true [] (Text.cut '/' (Path.anchorText p.anchor ++ p.body)) = _
  cases hanchor : p.anchor with
  | relative => exact absurd hanchor hrelative
  | root => rw [Path.anchorText, hslash, descend_empty, hbody]
  | doubleRoot =>
    have htwo : Path.anchorText .doubleRoot = "/" ++ "/" := by decide
    rw [htwo, String.append_assoc, hslash, hslash, descend_empty, descend_empty, hbody]

/-- **A path from the root** leads where its pieces lead from there, unless it is too long. -/
theorem place_text {p : Path} (h : p.isAbsolute = true) (from_ : Location) :
    fs.place true from_ p.text =
      if pathLimit ≤ Text.byteCount p.text then .error .nameTooLong
      else fs.follow true linkLimit [] (Text.cut '/' p.text) := by
  have hempty : p.text.isEmpty = false := by simpa using p.text_ne_empty
  rw [place, hempty, if_neg Bool.false_ne_true, Path.startsWith_text h, if_pos rfl]

/-- **What is at a path** from the root is what its segments lead to. -/
theorem descend_of_stat (hplain : fs.IsPlain) {p : Path} (h : p.isAbsolute = true) {node : Node}
    (hstat : fs.stat from_ p.text = .ok node) :
    ∃ at_, fs.descend true [] p.segments = .found at_ ∧ fs.get? at_ = some node := by
  simp only [stat, walk, place_text h, bind, Except.bind] at hstat
  by_cases hlong : pathLimit ≤ Text.byteCount p.text
  · rw [if_pos hlong] at hstat
    cases hstat
  unfold follow at hstat
  rw [if_neg hlong, descend_cut_text h] at hstat
  cases hreach : fs.descend true [] p.segments with
  | found at_ =>
    simp only [hreach, pure, Except.pure] at hstat
    split at hstat
    · next hnode =>
      cases hstat
      exact ⟨at_, rfl, hnode⟩
    · cases hstat
  | vacant at_ =>
    rw [hreach] at hstat
    cases hstat
  | failed errno =>
    rw [hreach] at hstat
    cases hstat
  | link directory target rest => exact absurd hreach hplain.descend_ne_link

/-- **What the segments of a path lead to** is at the path, unless it is too long to ask. -/
theorem stat_of_descend {p : Path} (h : p.isAbsolute = true) {node : Node}
    (hfound : fs.descend true [] p.segments = .found at_) (hnode : fs.get? at_ = some node) :
    fs.stat from_ p.text = .ok node ∨ fs.stat from_ p.text = .error .nameTooLong := by
  simp only [stat, walk, place_text h, bind, Except.bind]
  by_cases hlong : pathLimit ≤ Text.byteCount p.text
  · rw [if_pos hlong]
    exact .inr rfl
  · unfold follow
    rw [if_neg hlong, descend_cut_text h, hfound]
    left
    simp only [pure, Except.pure, hnode]

end Files

end Machine

namespace Path

open Machine (Files.walked Files.LeadsDown)

/-! ## Paths without `..` -/

/-- The path that names the same place without going up, if no link is involved. -/
def collapsed (p : Path) : Path where
  anchor := p.anchor
  segments := Machine.Files.normalise p.segments
  named := fun segment h => (Machine.Files.leadsDown_of_mem_walked (by simp) p.named segment h).1

@[simp]
theorem anchor_collapsed (p : Path) : p.collapsed.anchor = p.anchor := rfl

@[simp]
theorem segments_collapsed (p : Path) :
    p.collapsed.segments = Machine.Files.walked [] p.segments :=
  Machine.Files.normalise_eq p.segments

theorem leadsDown_of_mem_collapsed (p : Path) :
    ∀ segment ∈ p.collapsed.segments, Machine.Files.LeadsDown segment :=
  Machine.Files.leadsDown_of_mem_walked (by simp) p.named

/-- **A path that does not go up** names its place already. -/
theorem collapsed_collapsed (p : Path) : p.collapsed.collapsed = p.collapsed :=
  ext_iff'.mpr ⟨rfl, Machine.Files.walked_of_leadsDown p.leadsDown_of_mem_collapsed []⟩

variable {name : String}

/-- **A segment** is a relative path of its own. -/
theorem ofText_of_isSegment (h : isSegment name = true) :
    (ofText name).anchor = .relative ∧ (ofText name).segments = [name] := by
  have hslash := slash_not_mem_of_isSegment h
  constructor
  · show anchorOf name.toList = .relative
    unfold anchorOf
    split
    · next heq => simp [heq] at hslash
    · next heq => simp [heq] at hslash
    · next heq => simp [heq] at hslash
    · rfl
  · have hcut : Text.cut '/' name = [name] := by
      have hpieces : Text.cut '/' ((String.singleton '/').intercalate [name]) = [name] :=
        Text.cut_intercalate (by simpa using hslash) (List.cons_ne_nil _ _)
      rwa [String.intercalate_singleton] at hpieces
    show (Text.cut '/' name).filter isSegment = [name]
    rw [hcut, List.filter_singleton, h, cond_true]

theorem segments_joinText (p : Path) (h : isSegment name = true) :
    (p.joinText name).segments = p.segments ++ [name] := by
  obtain ⟨hanchor, hsegments⟩ := ofText_of_isSegment h
  rw [p.segments_joinText_of_relative hanchor, hsegments]

theorem anchor_joinText (p : Path) (h : isSegment name = true) :
    (p.joinText name).anchor = p.anchor := by
  rw [joinText, join, (ofText_of_isSegment h).1]

theorem isAbsolute_joinText {p : Path} (h : p.isAbsolute = true) (text : String) :
    (p.joinText text).isAbsolute = true :=
  isAbsolute_join h _

/-- **A name that leads down** stays the last one. -/
theorem collapsed_joinText (p : Path) (h : Machine.Files.LeadsDown name) :
    (p.joinText name).collapsed = p.collapsed.joinText name := by
  rw [ext_iff']
  refine ⟨?_, ?_⟩
  · rw [anchor_collapsed, anchor_joinText _ h.1, anchor_joinText _ h.1, anchor_collapsed]
  · rw [segments_collapsed, segments_joinText _ h.1, segments_joinText _ h.1, segments_collapsed,
      Machine.Files.walked_concat, h.stepped_eq]

/-- **A character of segments** with slashes between them is in one of them, unless it is the slash. -/
theorem mem_intercalate_slash {c : Char} (h : c ≠ '/') (pieces : List String) :
    c ∈ ("/".intercalate pieces).toList ↔ ∃ piece ∈ pieces, c ∈ piece.toList := by
  induction pieces with
  | nil => simp
  | cons piece rest ih =>
    cases rest with
    | nil => simp
    | cons next rest =>
      rw [String.intercalate_cons_cons, String.toList_append, List.mem_append, ih, String.toList_append,
        List.mem_append, List.exists_mem_cons_iff _ piece]
      simp [h]

/-- **A path** holds the character that ends names if one of its segments does. -/
theorem hasNul_eq_false_iff (p : Path) :
    p.hasNul = false ↔ ∀ segment ∈ p.segments, '\x00' ∉ segment.toList := by
  have htext : '\x00' ∈ p.text.toList ↔ '\x00' ∈ p.body.toList := by
    unfold text
    split
    · next hhere => simp [body, hhere.2]
    · cases p.anchor <;> simp [anchorText, body]
  rw [hasNul, List.contains_eq_mem, decide_eq_false_iff_not, htext, body, mem_intercalate_slash (by decide)]
  simp

end Path

namespace Machine

variable {m : Machine} {p : Path}

/-! ## Directories -/

/-- **A directory without links** is where its segments lead. -/
theorem descend_of_isDirectory (hplain : m.files.IsPlain) (habsolute : p.isAbsolute = true)
    (h : m.isDirectory p = .ok true) :
    p.hasNul = false ∧ m.files.descend true [] p.segments = .found p.collapsed.segments ∧
      m.files.get? p.collapsed.segments = some .directory := by
  unfold isDirectory at h
  split at h
  · cases h
  · next hnul =>
    have hstat : m.files.stat m.directory p.text = .ok .directory := by
      unfold Files.isDirectory at h
      split at h
      · assumption
      · cases h
      · split at h <;> cases h
    obtain ⟨at_, hfound, hdirectory⟩ := Files.descend_of_stat hplain habsolute hstat
    obtain rfl := Files.eq_walked_of_descend hfound
    exact ⟨by simpa using hnul, hfound, hdirectory⟩

/-- **A directory** is never said not to be there, though its path may be too long to ask. -/
theorem isDirectory_ne_false (habsolute : p.isAbsolute = true) (hnul : p.hasNul = false) {at_ : Location}
    (hfound : m.files.descend true [] p.segments = .found at_)
    (hdirectory : m.files.get? at_ = some .directory) : m.isDirectory p ≠ .ok false := by
  rw [isDirectory, hnul, if_neg Bool.false_ne_true, Files.isDirectory]
  have hstat : m.files.stat m.directory p.text = .ok .directory ∨
      m.files.stat m.directory p.text = .error .nameTooLong :=
    Files.stat_of_descend habsolute hfound hdirectory
  rcases hstat with hstat | hstat <;> rw [hstat] <;> exact nofun

end Machine

end LspHost
