import LspHost.Proofs.Faults
import LspHost.Proofs.Session.Workspace

/-!
# Which document is which

Documents have numbers, so that each can be told from the one that took its place. Over a run of a
session the number that opening a path gave stands for a document of that path ever after
(`Session.made_of_opened`); it is listed while it is live, and dead once it was closed
(`Session.identity_of_run`).

The current file of the workspace is read off its listing, in which a path stays where it was first
opened. So a document that is opened anew after it was closed does not come last
(`Session.currentFile_of_run`, `Session.reopened_document_not_current`).
-/

namespace LspHost.Session

variable {σ : Type}

/-! ## Documents that were given -/

/-- **The document that opening a path gives** is one of the path that the host finds for it, is
listed for that path, and is live. It is the listed one if that is live, and a new one otherwise. -/
theorem openInWorkspace_of_tracks {s : Session σ} {st : State σ} {opened : List Path}
    (h : st.workspace.Tracks opened) {path located : Path}
    (hlocated : s.located? st path = some located) :
    ∃ n t, s.openInWorkspace path st = .ok n t ∧
      (∃ d, t.workspace.made[n]? = some d ∧ d.path = located) ∧
      t.workspace.listed? located = some n ∧ t.workspace.isLive n = true ∧
      ((st.workspace.listed? located = some n ∧ st.workspace.isLive n = true ∧
          t.workspace = st.workspace) ∨
        ((∀ m, st.workspace.listed? located = some m → st.workspace.isLive m = false) ∧
          n = st.workspace.made.length)) := by
  obtain ⟨scene, hrun⟩ := openInWorkspace_of_located hlocated
  rcases st.workspace.openAt_cases located with ⟨n, hlisted, hlive, hopen⟩ | ⟨hdead, hopen⟩
  · rw [hopen] at hrun
    exact ⟨n, _, hrun, h.exists_of_listed? hlisted, hlisted, hlive, .inl ⟨hlisted, hlive, rfl⟩⟩
  · rw [hopen] at hrun
    refine ⟨_, _, hrun, ⟨{ path := located }, ?_, rfl⟩, ?_, ?_, .inr ⟨hdead, rfl⟩⟩
    · exact List.getElem?_concat_length
    · exact Workspace.listed?_add_self _ _
    · exact Workspace.isLive_add_self _ _

/-- **A document that a call gave** is one that opening a path found. -/
theorem openInWorkspace_of_answer {s : Session σ} {st : State σ} {path : Path} {n : Nat}
    (h : (s.perform (.openInWorkspace path)).answer st = .ok (.document n)) :
    ∃ located t, s.located? st path = some located ∧ s.openInWorkspace path st = .ok n t ∧
      (s.perform (.openInWorkspace path)).after st = t := by
  rcases hlocated : s.located? st path with _ | located
  · obtain ⟨e, scene, hrun⟩ := openInWorkspace_of_not_located hlocated
    have hfault : (s.perform (.openInWorkspace path)).answer st = .error e :=
      Attempt.answer_of_error (Attempt.bind_of_error hrun _)
    rw [hfault] at h
    cases h
  · obtain ⟨scene, hrun⟩ := openInWorkspace_of_located hlocated
    have hgiven : (s.perform (.openInWorkspace path)).answer st =
        .ok (.document (st.workspace.openAt located).1) :=
      Attempt.answer_of_ok (Attempt.bind_of_ok hrun _)
    rw [hgiven] at h
    cases h
    exact ⟨located, _, rfl, hrun, Attempt.after_of_ok (Attempt.bind_of_ok hrun _)⟩

/-- **A document that was given** when a path was opened is a document of that path ever after. -/
theorem made_of_opened (s : Session σ) {start : State σ} {opened : List Path}
    (hstart : start.workspace.Tracks opened) (calls : List Call) {e : Step σ}
    (he : e ∈ Attempt.history s.perform start calls) {path : Path} {n : Nat}
    (hcall : e.call = .openInWorkspace path) (hanswer : e.answer = .ok (.document n)) :
    ∃ d, (Attempt.afterAll s.perform start calls).workspace.made[n]? = some d ∧
      s.located? e.before path = some d.path := by
  induction calls generalizing start opened with
  | nil => cases he
  | cons call rest ih =>
    rcases List.mem_cons.mp he with rfl | he
    · -- the document is there right after the call, and stays
      obtain rfl : call = .openInWorkspace path := hcall
      obtain ⟨located, t, hlocated, hrun, hafter⟩ := openInWorkspace_of_answer hanswer
      obtain ⟨m, t', hrun', ⟨d, hd, hpath⟩, -⟩ := openInWorkspace_of_tracks hstart hlocated
      obtain ⟨rfl, rfl⟩ := EStateM.Result.ok.inj (hrun.symm.trans hrun')
      obtain ⟨d', hd', hkept⟩ := (s.grows_run t rest).exists_getElem? hd
      refine ⟨d', ?_, ?_⟩
      · rw [← hafter] at hd'
        exact hd'
      · refine Eq.trans hlocated ?_
        rw [hkept, hpath]
    · exact ih (s.tracks_perform call hstart) he

/-- **Closing a path** closes the document that is listed for it, and no other one; a path that was
never opened has none. -/
theorem closeInWorkspace_of_tracks {s : Session σ} {st : State σ} {opened : List Path}
    (h : st.workspace.Tracks opened) {path located : Path}
    (hlocated : s.located? st path = some located) :
    ∃ t, s.closeInWorkspace path st = .ok () t ∧ t.workspace.listing = st.workspace.listing ∧
      (∀ n, t.workspace.isLive n =
        (st.workspace.isLive n && st.workspace.listed? located != some n)) ∧
      (located ∉ opened → t.workspace = st.workspace) := by
  obtain ⟨scene, hrun⟩ := closeInWorkspace_of_located hlocated
  refine ⟨_, hrun, Workspace.listing_closeAt _ _, Workspace.isLive_closeAt _ _, ?_⟩
  intro hnever
  exact Workspace.closeAt_of_not_listed ((h.listed?_eq_none_iff located).mpr hnever)

/-! ## Over a run -/

/-- **Which document is which.** After any run of a session with a new workspace:

* each path that was opened is listed once, with a document of it, in the order of first opening;
* a document that was given when a path was opened is a document of the path that was found then;
* of all documents of a path the listed one alone can be live;
* a document that is closed is closed after whatever is called then;
* opening gives the listed document if it is live, and a new one otherwise, which is listed then;
* closing closes the listed document and no other one, and does nothing for a path that was never
  opened. -/
theorem identity_of_run (s : Session σ) (root : Path) (scene : Scene σ) (calls : List Call) :
    let start : State σ := { scene, workspace := { root } }
    let events := Attempt.history s.perform start calls
    let st := Attempt.afterAll s.perform start calls
    let w := st.workspace
    (w.listing.map Prod.fst = (s.openings events).eraseDups ∧
        w.documents.map Document.path = (s.openings events).eraseDups) ∧
      (∀ e ∈ events, ∀ path n, e.call = .openInWorkspace path → e.answer = .ok (.document n) →
        ∃ d, w.made[n]? = some d ∧ s.located? e.before path = some d.path) ∧
      (∀ (n : Nat) (d : Document), w.made[n]? = some d → d.live = true →
        w.listed? d.path = some n) ∧
      (∀ more n, n < w.made.length → w.isLive n = false →
        (Attempt.afterAll s.perform st more).workspace.isLive n = false) ∧
      (∀ path located, s.located? st path = some located →
        ∃ n t, s.openInWorkspace path st = .ok n t ∧ t.workspace.listed? located = some n ∧
          t.workspace.isLive n = true ∧
          ((w.listed? located = some n ∧ w.isLive n = true ∧ t.workspace = w) ∨
            ((∀ m, w.listed? located = some m → w.isLive m = false) ∧ n = w.made.length))) ∧
      ∀ path located, s.located? st path = some located →
        ∃ t, s.closeInWorkspace path st = .ok () t ∧ t.workspace.listing = w.listing ∧
          (∀ n, t.workspace.isLive n = (w.isLive n && w.listed? located != some n)) ∧
          (located ∉ s.openings events → t.workspace = w) := by
  intro start events st w
  have hstart : start.workspace.Tracks [] := Workspace.tracks_empty root
  have h : w.Tracks (s.openings events) := s.tracks_run hstart calls
  refine ⟨⟨h.keys, h.paths_documents⟩, ?_, h.alone, ?_, ?_, ?_⟩
  · intro e he path n hcall hanswer
    exact s.made_of_opened hstart calls he hcall hanswer
  · intro more n hn hclosed
    exact (s.grows_run st more).closed n hn hclosed
  · intro path located hlocated
    obtain ⟨n, t, hrun, -, hlisted, hlive, hcases⟩ := openInWorkspace_of_tracks h hlocated
    exact ⟨n, t, hrun, hlisted, hlive, hcases⟩
  · intro path located hlocated
    exact closeInWorkspace_of_tracks h hlocated

/-! ## The current file -/

/-- **The current file.** After any run of a session with a new workspace there is none exactly if no
document is live. Otherwise it is the path of the live document whose path was first opened last,
however often it was closed and opened since; that is the document made last, as long as no live
document took the place of a closed one. -/
theorem currentFile_of_run (s : Session σ) (root : Path) (scene : Scene σ) (calls : List Call) :
    let start : State σ := { scene, workspace := { root } }
    let opened := s.openings (Attempt.history s.perform start calls)
    let w := (Attempt.afterAll s.perform start calls).workspace
    (w.currentFile = none ↔ ∀ n, w.isLive n = false) ∧
      (∀ path, w.currentFile = some path ↔
        (∃ n : Nat, w.made[n]? = some { path := path, live := true }) ∧
          ∀ (n : Nat) (d : Document), w.made[n]? = some d → d.live = true →
            opened.idxOf d.path ≤ opened.idxOf path) ∧
      (w.Unreplaced → ∀ path, w.currentFile = some path ↔
        ∃ n : Nat, w.made[n]? = some { path := path, live := true } ∧
          ∀ m, w.isLive m = true → m ≤ n) := by
  intro start opened w
  have hstart : start.workspace.Tracks [] := Workspace.tracks_empty root
  have h : w.Tracks opened := s.tracks_run hstart calls
  refine ⟨h.currentFile_eq_none_iff, ?_, ?_⟩
  · exact h.currentFile_eq_some_iff rfl
  · exact h.currentFile_of_unreplaced

/-- A session on a bare host whose two documents are opened, and the first one opened again after it
was closed. -/
def reopened : Workspace :=
  (Attempt.afterAll (facing .bare (losing fun _ => none)).perform
    { scene := { world := () }, workspace := { root := .ofText "/w" } }
    [.openInWorkspace (.ofText "a.py"), .openInWorkspace (.ofText "b.py"),
      .closeInWorkspace (.ofText "a.py"), .openInWorkspace (.ofText "a.py")]).workspace

/-- The document made last is live, and the current file is another one. -/
theorem reopened_document_not_current :
    reopened.made[2]? = some { path := .ofText "/w/a.py", live := true } ∧
      (∀ m, reopened.isLive m = true → m ≤ 2) ∧
      reopened.currentFile = some (.ofText "/w/b.py") ∧
      reopened.currentFile ≠ some (.ofText "/w/a.py") := by
  have hlength : reopened.made.length = 3 := by decide +kernel
  refine ⟨by decide +kernel, ?_, by decide +kernel, by decide +kernel⟩
  intro m hlive
  have hlt := Workspace.lt_of_isLive hlive
  omega

end LspHost.Session
