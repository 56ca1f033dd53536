import LspHost.Proofs.Workspace.Documents
import Mathlib.Data.List.Basic
import Mathlib.Data.List.Induction

/-!
# Documents of opened paths

Paths are opened one after the other, and documents closed in between. Then each path is listed once,
in the order in which the paths were first opened, and of all documents ever made for a path only the
listed one can be live (`Workspace.Tracks`).

The current file follows the order of the listing: it is the path of the live document whose path was
first opened last (`Workspace.Tracks.currentFile_eq_some_iff`), which is the document made last only as
long as no live document took the place of a closed one
(`Workspace.Tracks.currentFile_of_unreplaced`).
-/

namespace LspHost

/-! ## First occurrences -/

section Lists

variable {α : Type}

/-- **An item at the end** is a first occurrence if it did not occur before. -/
theorem eraseDups_concat [BEq α] [LawfulBEq α] (l : List α) (a : α) :
    (l ++ [a]).eraseDups = if a ∈ l then l.eraseDups else l.eraseDups ++ [a] := by
  rw [List.eraseDups_append]
  by_cases h : a ∈ l
  · simp [List.removeAll, h]
  · simp [List.removeAll, h, List.eraseDups_cons]

/-- First occurrences are in order. -/
theorem pairwise_idxOf_eraseDups [BEq α] [LawfulBEq α] (l : List α) :
    l.eraseDups.Pairwise fun a b => l.idxOf a < l.idxOf b := by
  induction l using List.reverseRecOn with
  | nil => simp
  | append_singleton init last ih =>
    have hinit : init.eraseDups.Pairwise fun a b =>
        (init ++ [last]).idxOf a < (init ++ [last]).idxOf b := by
      refine List.Pairwise.imp_of_mem ?_ ih
      intro a b ha hb hab
      rw [List.mem_eraseDups] at ha hb
      rw [List.idxOf_append_of_mem ha, List.idxOf_append_of_mem hb]
      exact hab
    rw [eraseDups_concat]
    split
    · exact hinit
    · next hlast =>
      refine List.pairwise_append.mpr ⟨hinit, List.pairwise_singleton _ _, ?_⟩
      intro a ha b hb
      rw [List.mem_eraseDups] at ha
      obtain rfl := List.mem_singleton.mp hb
      rw [List.idxOf_append_of_mem ha, List.idxOf_append, if_neg hlast]
      have := List.idxOf_lt_length_of_mem ha
      omega

/-- **The last one** of items in order is the greatest. -/
theorem getLast?_eq_some_iff_of_pairwise {f : α → Nat} {l : List α}
    (h : l.Pairwise fun a b => f a < f b) (a : α) :
    l.getLast? = some a ↔ a ∈ l ∧ ∀ b ∈ l, f b ≤ f a := by
  rcases List.eq_nil_or_concat l with rfl | ⟨init, last, rfl⟩
  · simp
  · rw [List.concat_eq_append] at h ⊢
    obtain ⟨-, -, hlast⟩ := List.pairwise_append.mp h
    have hbefore : ∀ b ∈ init, f b < f last := fun b hb => hlast b hb last (List.mem_singleton_self _)
    rw [List.getLast?_concat, Option.some.injEq]
    constructor
    · rintro rfl
      refine ⟨List.mem_append_right _ (List.mem_singleton_self _), ?_⟩
      intro b hb
      rcases List.mem_append.mp hb with hb | hb
      · exact Nat.le_of_lt (hbefore b hb)
      · exact Nat.le_of_eq (congrArg f (List.mem_singleton.mp hb))
    · rintro ⟨ha, hmax⟩
      rcases List.mem_append.mp ha with ha | ha
      · have hle := hmax last (List.mem_append_right _ (List.mem_singleton_self _))
        have hlt := hbefore a ha
        omega
      · exact (List.mem_singleton.mp ha).symm

end Lists

namespace Workspace

variable {w : Workspace} {opened : List Path} {path : Path} {n : Nat}

/-! ## Listed once -/

/-- What a workspace holds once some paths were opened, one after the other. -/
structure Tracks (w : Workspace) (opened : List Path) : Prop where
  /-- each path is listed once, in the order of first opening -/
  keys : w.listing.map Prod.fst = opened.eraseDups
  /-- a document is made for each path when it is first opened -/
  firsts : (w.made.map Document.path).eraseDups = opened.eraseDups
  /-- a path is listed with a document of it -/
  own : ∀ entry ∈ w.listing, ∃ d, w.made[entry.2]? = some d ∧ d.path = entry.1
  /-- a live document is the one that is listed for its path -/
  alone : ∀ (n : Nat) (d : Document), w.made[n]? = some d → d.live = true →
    w.listed? d.path = some n

/-- Every live document is the first one that was made for its path. -/
def Unreplaced (w : Workspace) : Prop :=
  ∀ (n : Nat) (d : Document), w.made[n]? = some d → d.live = true →
    (w.made.map Document.path).idxOf d.path = n

theorem tracks_empty (root : Path) : Tracks { root } [] :=
  ⟨rfl, rfl, nofun, nofun⟩

namespace Tracks

/-- **A path is listed** once it was opened. -/
theorem listed?_eq_none_iff (h : w.Tracks opened) (path : Path) :
    w.listed? path = none ↔ path ∉ opened := by
  rw [Workspace.listed?_eq_none_iff, h.keys, List.mem_eraseDups]

/-- **The listed document** is one of its path. -/
theorem exists_of_listed? (h : w.Tracks opened) (hlisted : w.listed? path = some n) :
    ∃ d, w.made[n]? = some d ∧ d.path = path :=
  h.own _ (mem_of_listed? hlisted)

/-- **A new document** takes the place of a closed one, or is listed at the end. -/
theorem add (h : w.Tracks opened) (hdead : ∀ n, w.listed? path = some n → w.isLive n = false) :
    (w.add path).Tracks (opened ++ [path]) where
  keys := by
    show (list path w.made.length w.listing).map Prod.fst = _
    rw [keys_list, eraseDups_concat, h.keys]
    simp only [List.mem_eraseDups]
  firsts := by
    have hmem : path ∈ w.made.map Document.path ↔ path ∈ opened := by
      rw [← List.mem_eraseDups, h.firsts, List.mem_eraseDups]
    rw [made_add, List.map_append, List.map_singleton, eraseDups_concat, eraseDups_concat, h.firsts]
    simp only [hmem]
  own := by
    intro entry hentry
    rcases mem_list hentry with rfl | hentry
    · exact ⟨{ path }, List.getElem?_concat_length, rfl⟩
    · obtain ⟨d, hd, hpath⟩ := h.own entry hentry
      exact ⟨d, (List.getElem?_append_left (List.getElem?_eq_some_iff.mp hd).1).trans hd, hpath⟩
  alone := by
    intro n d hd hlive
    rw [made_add] at hd
    by_cases hn : n < w.made.length
    · rw [List.getElem?_append_left hn] at hd
      have hlisted := h.alone n d hd hlive
      have hpath : d.path ≠ path := by
        rintro rfl
        have hclosed := hdead n hlisted
        rw [isLive_iff.mpr ⟨d, hd, hlive⟩] at hclosed
        cases hclosed
      rw [listed?_add_of_ne hpath]
      exact hlisted
    · -- only the new document is left
      obtain ⟨i, hi⟩ := Nat.exists_eq_add_of_le (Nat.le_of_not_lt hn)
      subst hi
      rw [List.getElem?_append_right (Nat.le_add_right _ _), Nat.add_sub_cancel_left] at hd
      cases i with
      | zero =>
        obtain rfl := Option.some.inj hd
        exact listed?_add_self w path
      | succ i => cases hd

/-- **Opening a path** adds it to those that were opened. -/
theorem openAt (h : w.Tracks opened) (path : Path) :
    (w.openAt path).2.Tracks (opened ++ [path]) := by
  rcases openAt_cases w path with ⟨n, hlisted, -, hopen⟩ | ⟨hdead, hopen⟩
  · have hmem : path ∈ opened := by
      by_contra hnot
      rw [(h.listed?_eq_none_iff path).mpr hnot] at hlisted
      cases hlisted
    rw [hopen]
    refine ⟨?_, ?_, h.own, h.alone⟩
    · rw [eraseDups_concat, if_pos hmem]
      exact h.keys
    · rw [eraseDups_concat, if_pos hmem]
      exact h.firsts
  · rw [hopen]
    exact h.add hdead

/-- **Closing a path** opens none. -/
theorem closeAt (h : w.Tracks opened) (path : Path) : (w.closeAt path).Tracks opened where
  keys := by
    rw [listing_closeAt]
    exact h.keys
  firsts := by
    rw [paths_closeAt]
    exact h.firsts
  own := by
    intro entry hentry
    rw [listing_closeAt] at hentry
    obtain ⟨d, hd, hpath⟩ := h.own entry hentry
    obtain ⟨d', hd', hkept⟩ := (Grows.closeAt w path).exists_getElem? hd
    exact ⟨d', hd', hkept.trans hpath⟩
  alone := by
    intro n d hd hlive
    rw [getElem?_made_closeAt] at hd
    obtain ⟨before, hbefore, rfl⟩ := Option.map_eq_some_iff.mp hd
    rw [listed?_closeAt]
    split at hlive
    · cases hlive
    · next hother =>
      rw [if_neg hother]
      exact h.alone n before hbefore hlive

/-- **The documents** are those of the opened paths, in the order of first opening. -/
theorem paths_documents (h : w.Tracks opened) :
    w.documents.map Document.path = opened.eraseDups := by
  rw [paths_documents_of_made h.own]
  exact h.keys

/-! ## The current file -/

/-- **A live document** is listed. -/
theorem mem_liveDocuments (h : w.Tracks opened) (d : Document) :
    d ∈ w.liveDocuments ↔ d.live = true ∧ ∃ n : Nat, w.made[n]? = some d := by
  simp only [liveDocuments, documents, List.mem_filter, List.mem_filterMap]
  constructor
  · rintro ⟨⟨entry, -, hd⟩, hlive⟩
    exact ⟨hlive, entry.2, hd⟩
  · rintro ⟨hlive, n, hd⟩
    exact ⟨⟨(d.path, n), mem_of_listed? (h.alone n d hd hlive), hd⟩, hlive⟩

/-- **There is no current file** when no document is live. -/
theorem currentFile_eq_none_iff (h : w.Tracks opened) :
    w.currentFile = none ↔ ∀ n, w.isLive n = false := by
  rw [currentFile, Option.map_eq_none_iff, List.getLast?_eq_none_iff, List.eq_nil_iff_forall_not_mem]
  constructor
  · intro hnone n
    by_contra hlive
    obtain ⟨d, hd, hlive⟩ := isLive_iff.mp (by simpa using hlive)
    exact hnone d ((h.mem_liveDocuments d).mpr ⟨hlive, n, hd⟩)
  · intro hdead d hd
    obtain ⟨hlive, n, hd⟩ := (h.mem_liveDocuments d).mp hd
    have hclosed := hdead n
    rw [isLive_iff.mpr ⟨d, hd, hlive⟩] at hclosed
    cases hclosed

/-- **The current file** is the path of a live document; those of the others come before it wherever
the opened paths come in the order of first opening. -/
theorem currentFile_eq_some_iff (h : w.Tracks opened) {order : List Path}
    (horder : order.eraseDups = opened.eraseDups) (path : Path) :
    w.currentFile = some path ↔
      (∃ n : Nat, w.made[n]? = some { path := path, live := true }) ∧
        ∀ (n : Nat) (d : Document), w.made[n]? = some d → d.live = true →
          order.idxOf d.path ≤ order.idxOf path := by
  have hpaths : w.liveDocuments.Pairwise fun a b => order.idxOf a.path < order.idxOf b.path := by
    have hall : (w.documents.map Document.path).Pairwise fun p q =>
        order.idxOf p < order.idxOf q := by
      rw [h.paths_documents, ← horder]
      exact pairwise_idxOf_eraseDups order
    exact (List.pairwise_map.mp hall).sublist List.filter_sublist
  rw [currentFile, Option.map_eq_some_iff]
  constructor
  · rintro ⟨d, hlast, rfl⟩
    obtain ⟨hd, hmax⟩ := (getLast?_eq_some_iff_of_pairwise hpaths d).mp hlast
    obtain ⟨hlive, n, hmade⟩ := (h.mem_liveDocuments d).mp hd
    refine ⟨⟨n, by rw [hmade, ← hlive]⟩, ?_⟩
    intro m e he hlive'
    exact hmax e ((h.mem_liveDocuments e).mpr ⟨hlive', m, he⟩)
  · rintro ⟨⟨n, hmade⟩, hmax⟩
    refine ⟨{ path := path, live := true }, ?_, rfl⟩
    refine (getLast?_eq_some_iff_of_pairwise hpaths _).mpr
      ⟨(h.mem_liveDocuments _).mpr ⟨rfl, n, hmade⟩, ?_⟩
    intro e he
    obtain ⟨hlive, m, he⟩ := (h.mem_liveDocuments e).mp he
    exact hmax m e he hlive

/-- **The current file is that of the document made last** among the live ones, as long as none of
them took the place of another one. -/
theorem currentFile_of_unreplaced (h : w.Tracks opened) (hfirst : w.Unreplaced) (path : Path) :
    w.currentFile = some path ↔
      ∃ n : Nat, w.made[n]? = some { path := path, live := true } ∧
        ∀ m, w.isLive m = true → m ≤ n := by
  rw [h.currentFile_eq_some_iff h.firsts]
  constructor
  · rintro ⟨⟨n, hmade⟩, hmax⟩
    refine ⟨n, hmade, ?_⟩
    intro m hlive
    obtain ⟨d, hd, hlive⟩ := isLive_iff.mp hlive
    have hle := hmax m d hd hlive
    rwa [hfirst m d hd hlive, hfirst n _ hmade rfl] at hle
  · rintro ⟨n, hmade, hmax⟩
    refine ⟨⟨n, hmade⟩, ?_⟩
    intro m d hd hlive
    rw [hfirst m d hd hlive, hfirst n _ hmade rfl]
    exact hmax m (isLive_iff.mpr ⟨d, hd, hlive⟩)

end Tracks

end Workspace

end LspHost
