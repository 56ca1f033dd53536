import LspHost.Proofs.Path.Text
import LspHost.Workspace

/-!
# The listing of a workspace

A workspace lists each path once, with a document that was made for it (`Workspace.Orderly`).
Opening and closing documents keeps it so; hence no two of its documents have one path
(`Workspace.Orderly.nodup_paths`).
-/

namespace LspHost.Workspace

/-- Each absolute path is listed once at most, with a document that was made for it. -/
structure Orderly (w : Workspace) : Prop where
  /-- no path is listed twice -/
  distinct : (w.listing.map Prod.fst).Nodup
  /-- what is listed for a path is a document of it -/
  made : ∀ entry ∈ w.listing, ∃ d, w.made[entry.2]? = some d ∧ d.path = entry.1
  /-- the paths are absolute -/
  absolute : ∀ entry ∈ w.listing, entry.1.isAbsolute = true

/-! ## Listing a document -/

/-- **Listing a document** keeps the paths where they are, and adds the path that is missing at the
end. -/
theorem keys_list (path : Path) (number : Nat) (listing : List (Path × Nat)) :
    (list path number listing).map Prod.fst =
      if path ∈ listing.map Prod.fst then listing.map Prod.fst
      else listing.map Prod.fst ++ [path] := by
  induction listing with
  | nil => rfl
  | cons entry rest ih =>
    obtain ⟨p, n⟩ := entry
    by_cases hp : p = path
    · subst hp
      simp [list]
    · have hne : path ≠ p := Ne.symm hp
      by_cases hrest : path ∈ rest.map Prod.fst
      · rw [if_pos hrest] at ih
        rw [list, if_neg hp, List.map_cons, List.map_cons, ih,
          if_pos (List.mem_cons_of_mem _ hrest)]
      · rw [if_neg hrest] at ih
        have hnot : path ∉ p :: rest.map Prod.fst := by
          rw [List.mem_cons]
          exact not_or.mpr ⟨hne, hrest⟩
        rw [list, if_neg hp, List.map_cons, List.map_cons, ih, if_neg hnot, List.cons_append]

theorem mem_list {path : Path} {number : Nat} {listing : List (Path × Nat)} {entry : Path × Nat}
    (h : entry ∈ list path number listing) : entry = (path, number) ∨ entry ∈ listing := by
  induction listing with
  | nil => exact .inl (List.mem_singleton.mp h)
  | cons first rest ih =>
    obtain ⟨p, n⟩ := first
    unfold list at h
    split at h
    · next hp =>
      subst hp
      rcases List.mem_cons.mp h with rfl | h
      · exact .inl rfl
      · exact .inr (List.mem_cons_of_mem _ h)
    · rcases List.mem_cons.mp h with rfl | h
      · exact .inr (List.mem_cons_self ..)
      · exact (ih h).imp_right (List.mem_cons_of_mem _)

/-- **Documents that are listed for their own paths** come path by path. -/
theorem paths_documents_of_made {w : Workspace}
    (hmade : ∀ entry ∈ w.listing, ∃ d, w.made[entry.2]? = some d ∧ d.path = entry.1) :
    w.documents.map Document.path = w.listing.map Prod.fst := by
  unfold documents
  generalize w.listing = listing at hmade
  induction listing with
  | nil => rfl
  | cons entry rest ih =>
    obtain ⟨d, hd, hpath⟩ := hmade entry (List.mem_cons_self ..)
    have hrest := ih fun entry' hentry' => hmade entry' (List.mem_cons_of_mem _ hentry')
    have hfirst : (entry :: rest).filterMap (fun entry => w.made[entry.2]?) =
        d :: rest.filterMap fun entry => w.made[entry.2]? := List.filterMap_cons_some hd
    rw [hfirst, List.map_cons, List.map_cons, hpath, hrest]

/-! ## Opening and closing -/

/-- A workspace without documents is orderly. -/
theorem orderly_empty (root : Path) : Orderly { root } :=
  ⟨List.nodup_nil, nofun, nofun⟩

namespace Orderly

variable {w : Workspace}

theorem add (h : w.Orderly) {path : Path} (hpath : path.isAbsolute = true) :
    (w.add path).Orderly where
  distinct := by
    show ((list path w.made.length w.listing).map Prod.fst).Nodup
    rw [keys_list]
    split
    · exact h.distinct
    · next hnew =>
      refine List.nodup_append.mpr ⟨h.distinct, by simp, fun p hp q hq => ?_⟩
      rw [List.mem_singleton.mp hq]
      rintro rfl
      exact hnew hp
  made := by
    intro entry hentry
    rcases mem_list hentry with rfl | hentry
    · exact ⟨{ path }, List.getElem?_concat_length, rfl⟩
    · obtain ⟨d, hd, hpath⟩ := h.made entry hentry
      exact ⟨d, (List.getElem?_append_left (List.getElem?_eq_some_iff.mp hd).1).trans hd, hpath⟩
  absolute := by
    intro entry hentry
    rcases mem_list hentry with rfl | hentry
    · exact hpath
    · exact h.absolute entry hentry

/-- **Opening a document** keeps the listing orderly. -/
theorem openAt (h : w.Orderly) {path : Path} (hpath : path.isAbsolute = true) :
    (w.openAt path).2.Orderly := by
  unfold Workspace.openAt
  split
  · split
    · exact h
    · exact h.add hpath
  · exact h.add hpath

/-- **Closing a document** keeps the listing orderly. -/
theorem closeAt (h : w.Orderly) (path : Path) : (w.closeAt path).Orderly := by
  unfold Workspace.closeAt
  split
  · refine ⟨h.distinct, fun entry hentry => ?_, h.absolute⟩
    obtain ⟨d, hd, hpath⟩ := h.made entry hentry
    rw [List.getElem?_modify, hd]
    split
    · exact ⟨_, rfl, hpath⟩
    · exact ⟨d, rfl, hpath⟩
  · exact h

/-! ## Documents -/

/-- **The documents** of an orderly workspace are those of its listing, path by path. -/
theorem paths_documents (h : w.Orderly) : w.documents.map Document.path = w.listing.map Prod.fst :=
  paths_documents_of_made h.made

/-- **No two live documents** have one path. -/
theorem nodup_paths (h : w.Orderly) : (w.liveDocuments.map Document.path).Nodup := by
  have hall : (w.documents.map Document.path).Nodup := h.paths_documents ▸ h.distinct
  exact hall.sublist (List.filter_sublist.map Document.path)

/-- **The path of a live document** is absolute. -/
theorem isAbsolute_path (h : w.Orderly) {d : Document} (hd : d ∈ w.liveDocuments) :
    d.path.isAbsolute = true := by
  have hpath : d.path ∈ w.listing.map Prod.fst := by
    rw [← h.paths_documents]
    exact List.mem_map_of_mem (List.mem_filter.mp hd).1
  obtain ⟨entry, hentry, hsame⟩ := List.mem_map.mp hpath
  rw [← hsame]
  exact h.absolute entry hentry

end Orderly

end LspHost.Workspace
