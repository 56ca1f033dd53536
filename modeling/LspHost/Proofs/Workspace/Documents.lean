import LspHost.Proofs.Workspace.Listing

/-!
# Documents by their numbers

What opening and closing a path comes to: a path is listed with a document that is live or not
(`Workspace.openAt_cases`), a new document takes the number that comes next, and closing takes the
life of the listed document and of no other one (`Workspace.isLive_closeAt`).

Documents are added and never taken away, each keeps its path, and one that is closed stays closed
(`Workspace.Grows`).
-/

namespace LspHost

namespace Workspace

variable {w : Workspace} {path other : Path} {n : Nat}

/-! ## Listed and live -/

theorem find?_list_self (path : Path) (number : Nat) (listing : List (Path × Nat)) :
    (list path number listing).find? (·.1 == path) = some (path, number) := by
  induction listing with
  | nil => simp [list]
  | cons entry rest ih =>
    obtain ⟨p, m⟩ := entry
    by_cases hp : p = path
    · simp [list, hp]
    · simp [list, hp, ih]

theorem find?_list_of_ne (h : other ≠ path) (number : Nat) (listing : List (Path × Nat)) :
    (list path number listing).find? (·.1 == other) = listing.find? (·.1 == other) := by
  induction listing with
  | nil => simp [list, h.symm]
  | cons entry rest ih =>
    obtain ⟨p, m⟩ := entry
    by_cases hp : p = path
    · subst hp
      simp [list, h.symm]
    · simp [list, hp, List.find?_cons, ih]

theorem mem_of_listed? (h : w.listed? path = some n) : (path, n) ∈ w.listing := by
  obtain ⟨entry, hfound, rfl⟩ := Option.map_eq_some_iff.mp h
  have hpath : entry.1 = path := by simpa using List.find?_some hfound
  rw [← hpath]
  exact List.mem_of_find?_eq_some hfound

theorem listed?_eq_none_iff : w.listed? path = none ↔ path ∉ w.listing.map Prod.fst := by
  rw [listed?, Option.map_eq_none_iff, List.find?_eq_none, List.mem_map]
  constructor
  · rintro h ⟨entry, hentry, rfl⟩
    exact h entry hentry (beq_self_eq_true entry.1)
  · intro h entry hentry hpath
    exact h ⟨entry, hentry, by simpa using hpath⟩

theorem isLive_iff : w.isLive n = true ↔ ∃ d, w.made[n]? = some d ∧ d.live = true := by
  unfold isLive
  cases w.made[n]? <;> simp

/-- What is beyond the documents ever made is not live. -/
theorem lt_of_isLive (h : w.isLive n = true) : n < w.made.length := by
  obtain ⟨d, hd, -⟩ := isLive_iff.mp h
  exact (List.getElem?_eq_some_iff.mp hd).1

/-! ### A new document -/

@[simp]
theorem made_add (w : Workspace) (path : Path) :
    (w.add path).made = w.made ++ [{ path := path, live := true }] :=
  rfl

@[simp]
theorem listed?_add_self (w : Workspace) (path : Path) :
    (w.add path).listed? path = some w.made.length := by
  simp [listed?, add, find?_list_self]

theorem listed?_add_of_ne (h : other ≠ path) (w : Workspace) :
    (w.add path).listed? other = w.listed? other := by
  simp [listed?, add, find?_list_of_ne h]

@[simp]
theorem isLive_add_self (w : Workspace) (path : Path) :
    (w.add path).isLive w.made.length = true := by
  simp [isLive]

theorem isLive_add_of_lt (h : n < w.made.length) (path : Path) :
    (w.add path).isLive n = w.isLive n := by
  simp [isLive, List.getElem?_append_left h]

/-- **Opening** gives the listed document if it is live; otherwise a new one is made. -/
theorem openAt_cases (w : Workspace) (path : Path) :
    (∃ n, w.listed? path = some n ∧ w.isLive n = true ∧ w.openAt path = (n, w)) ∨
      ((∀ n, w.listed? path = some n → w.isLive n = false) ∧
        w.openAt path = (w.made.length, w.add path)) := by
  unfold openAt
  rcases hlisted : w.listed? path with _ | number
  · exact .inr ⟨nofun, rfl⟩
  · dsimp only
    by_cases hlive : w.isLive number = true
    · rw [if_pos hlive]
      exact .inl ⟨number, rfl, hlive, rfl⟩
    · rw [if_neg hlive]
      refine .inr ⟨?_, rfl⟩
      intro n hn
      obtain rfl := Option.some.inj hn
      simpa using hlive

/-! ### Closing a document -/

theorem closeAt_of_not_listed (h : w.listed? path = none) : w.closeAt path = w := by
  simp [closeAt, h]

@[simp]
theorem listing_closeAt (w : Workspace) (path : Path) :
    (w.closeAt path).listing = w.listing := by
  unfold closeAt
  split
  · rfl
  · rfl

@[simp]
theorem listed?_closeAt (w : Workspace) (path other : Path) :
    (w.closeAt path).listed? other = w.listed? other := by
  simp [listed?]

theorem getElem?_made_closeAt (w : Workspace) (path : Path) (n : Nat) :
    (w.closeAt path).made[n]? = w.made[n]?.map fun d =>
      if w.listed? path = some n then { d with live := false } else d := by
  unfold closeAt
  rcases hlisted : w.listed? path with _ | number
  · simp
  · simp [List.getElem?_modify]

/-- **Closing** takes the life of the listed document and of no other one. -/
theorem isLive_closeAt (w : Workspace) (path : Path) (n : Nat) :
    (w.closeAt path).isLive n = (w.isLive n && w.listed? path != some n) := by
  unfold isLive
  rw [getElem?_made_closeAt]
  by_cases h : w.listed? path = some n
  · cases w.made[n]? <;> simp [h]
  · cases w.made[n]? <;> simp [h]

@[simp]
theorem paths_closeAt (w : Workspace) (path : Path) :
    (w.closeAt path).made.map Document.path = w.made.map Document.path := by
  apply List.ext_getElem?
  intro n
  rw [List.getElem?_map, List.getElem?_map, getElem?_made_closeAt, Option.map_map]
  congr 1
  funext d
  simp only [Function.comp]
  split
  · rfl
  · rfl

/-! ## What stays -/

/-- Documents are added, each keeps its path, and what is closed stays closed. -/
structure Grows (w w' : Workspace) : Prop where
  /-- the documents are still there -/
  paths : w.made.map Document.path <+: w'.made.map Document.path
  /-- those that were closed are not live -/
  closed : ∀ n < w.made.length, w.isLive n = false → w'.isLive n = false

namespace Grows

theorem refl (w : Workspace) : Grows w w := ⟨List.prefix_refl _, fun _ _ h => h⟩

/-- There are no fewer documents than before. -/
theorem length_le {w w' : Workspace} (h : Grows w w') : w.made.length ≤ w'.made.length := by
  simpa using h.paths.length_le

theorem trans {w w' w'' : Workspace} (h : Grows w w') (h' : Grows w' w'') : Grows w w'' where
  paths := h.paths.trans h'.paths
  closed := fun n hn hclosed =>
    h'.closed n (Nat.lt_of_lt_of_le hn h.length_le) (h.closed n hn hclosed)

theorem openAt (w : Workspace) (path : Path) : Grows w (w.openAt path).2 := by
  rcases openAt_cases w path with ⟨n, -, -, hopen⟩ | ⟨-, hopen⟩
  · rw [hopen]
    exact refl w
  · rw [hopen]
    refine ⟨by simp, ?_⟩
    intro n hn hclosed
    rw [isLive_add_of_lt hn]
    exact hclosed

theorem closeAt (w : Workspace) (path : Path) : Grows w (w.closeAt path) := by
  refine ⟨by simp, ?_⟩
  intro n _ hclosed
  rw [isLive_closeAt, hclosed, Bool.false_and]

/-- **A document keeps its path.** -/
theorem exists_getElem? {w w' : Workspace} (h : Grows w w') {d : Document}
    (hd : w.made[n]? = some d) : ∃ d', w'.made[n]? = some d' ∧ d'.path = d.path := by
  have hpath : (w.made.map Document.path)[n]? = some d.path := by
    rw [List.getElem?_map, hd]
    rfl
  have hlt := (List.getElem?_eq_some_iff.mp hpath).1
  have hpath' : (w'.made.map Document.path)[n]? = some d.path := by
    rw [← hpath]
    exact (List.prefix_iff_getElem?.mp h.paths _ hlt).trans (List.getElem?_eq_getElem hlt).symm
  rw [List.getElem?_map] at hpath'
  exact Option.map_eq_some_iff.mp hpath'

end Grows

end Workspace

end LspHost
