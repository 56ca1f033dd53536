import LspHost.Proofs.Session.Start
import LspHost.Proofs.Workspace.Opened

/-!
# The workspace of a session

Only opening and closing documents of the workspace changes it, and both do so at the path that the
host finds for the given one at that moment (`Session.workspace_perform_cases`). So a run of a session
opens one path after the other (`Session.openings`), and its workspace holds the documents of these
(`Session.tracks_run`), whatever else is called in between.
-/

namespace LspHost.Session

variable {σ : Type}

/-! ## Opening and closing -/

/-- The path that the host finds for a path of the workspace in a state, if it does. -/
def located? (s : Session σ) (st : State σ) (path : Path) : Option Path :=
  ((st.workspace.locate s.host path).answer st.scene).toOption

theorem locate_of_located {s : Session σ} {st : State σ} {path located : Path}
    (h : s.located? st path = some located) :
    ∃ scene, st.workspace.locate s.host path st.scene = .ok located scene := by
  unfold located? at h
  rcases hanswer : (st.workspace.locate s.host path).answer st.scene with e | found
  · rw [hanswer] at h
    cases h
  · rw [hanswer] at h
    obtain rfl := Option.some.inj h
    exact ⟨_, Attempt.eq_ok_of_answer hanswer⟩

theorem locate_of_not_located {s : Session σ} {st : State σ} {path : Path}
    (h : s.located? st path = none) :
    ∃ e scene, st.workspace.locate s.host path st.scene = .error e scene := by
  unfold located? at h
  rcases hanswer : (st.workspace.locate s.host path).answer st.scene with e | found
  · exact ⟨e, _, Attempt.eq_error_of_answer hanswer⟩
  · rw [hanswer] at h
    cases h

/-- **Opening a path** opens the document where the host finds it. -/
theorem openInWorkspace_of_located {s : Session σ} {st : State σ} {path located : Path}
    (h : s.located? st path = some located) :
    ∃ scene, s.openInWorkspace path st =
      .ok (st.workspace.openAt located).1
        { st with scene, workspace := (st.workspace.openAt located).2 } := by
  obtain ⟨scene, hlocate⟩ := locate_of_located h
  exact ⟨scene, Attempt.bind_of_ok (lift_of_ok hlocate) _⟩

theorem openInWorkspace_of_not_located {s : Session σ} {st : State σ} {path : Path}
    (h : s.located? st path = none) :
    ∃ e scene, s.openInWorkspace path st = .error e { st with scene } := by
  obtain ⟨e, scene, hlocate⟩ := locate_of_not_located h
  exact ⟨e, scene, Attempt.bind_of_error (lift_of_error hlocate) _⟩

/-- **Closing a path** closes the document where the host finds it. -/
theorem closeInWorkspace_of_located {s : Session σ} {st : State σ} {path located : Path}
    (h : s.located? st path = some located) :
    ∃ scene, s.closeInWorkspace path st =
      .ok () { st with scene, workspace := st.workspace.closeAt located } := by
  obtain ⟨scene, hlocate⟩ := locate_of_located h
  exact ⟨scene, Attempt.bind_of_ok (lift_of_ok hlocate) _⟩

theorem closeInWorkspace_of_not_located {s : Session σ} {st : State σ} {path : Path}
    (h : s.located? st path = none) :
    ∃ e scene, s.closeInWorkspace path st = .error e { st with scene } := by
  obtain ⟨e, scene, hlocate⟩ := locate_of_not_located h
  exact ⟨e, scene, Attempt.bind_of_error (lift_of_error hlocate) _⟩

/-! ## Calls that leave the workspace -/

/-- The workspace is as it was. -/
def SameWorkspace (s t : State σ) : Prop := t.workspace = s.workspace

theorem SameWorkspace.refl (s : State σ) : SameWorkspace s s := rfl

theorem SameWorkspace.trans (s t u : State σ) (hst : SameWorkspace s t) (htu : SameWorkspace t u) :
    SameWorkspace s u :=
  Eq.trans htu hst

theorem sameWorkspace_start (s : Session σ) (given : List String) :
    (s.start given).Keeps SameWorkspace := by
  rw [start_eq]
  refine .bind SameWorkspace.trans ((s.untouched_launch given).mono fun _ _ h => h.workspace)
    fun _ => ?_
  refine .bind SameWorkspace.trans (s.untouched_greet.mono fun _ _ h => h.workspace)
    fun answer => ?_
  refine .bind SameWorkspace.trans ?_ fun _ => ?_
  · refine .bind SameWorkspace.trans ((s.untouched_send _).mono fun _ _ h => h.workspace) fun _ => ?_
    exact .of_modify fun _ => rfl
  · exact .bind SameWorkspace.trans (s.steady_openAll.mono fun _ _ h => h.workspace)
      fun _ => .pure SameWorkspace.refl _

theorem sameWorkspace_stop (s : Session σ) : s.stop.Keeps SameWorkspace := by
  intro st
  obtain ⟨parting, -, ⟨-, ⟨e, scene, hstop⟩ | ⟨scene, hstop⟩⟩ | ⟨e, scene, -, -, -, hstop⟩⟩ :=
    s.stop_outcome st
  · rw [Attempt.after_of_error hstop]
    rfl
  · rw [Attempt.after_of_ok hstop]
    rfl
  · rw [Attempt.after_of_error hstop]
    rfl

/-- **Every other call** leaves the workspace as it is. -/
theorem sameWorkspace_perform (s : Session σ) {call : Call}
    (hopen : ∀ path, call ≠ .openInWorkspace path)
    (hclose : ∀ path, call ≠ .closeInWorkspace path) : (s.perform call).Keeps SameWorkspace := by
  cases call
  case openInWorkspace path => exact absurd rfl (hopen path)
  case closeInWorkspace path => exact absurd rfl (hclose path)
  case start given => exact (s.sameWorkspace_start given).bind_pure _
  case stop => exact s.sameWorkspace_stop.bind_pure fun _ => Answer.done
  case openDocument path =>
    exact ((s.steady_openDocument path).mono fun _ _ h => h.workspace).bind_pure fun _ => Answer.done
  case closeDocument path =>
    exact ((s.steady_closeDocument path).mono fun _ _ h => h.workspace).bind_pure
      fun _ => Answer.done
  all_goals exact (s.unmoved_perform rfl).mono fun _ _ h => h.workspace

/-- **What a call does to the workspace**: it opens a path that the host finds, or closes one, or
leaves the workspace as it is. -/
theorem workspace_perform_cases (s : Session σ) (call : Call) (st : State σ) :
    (∃ path located, call = .openInWorkspace path ∧ s.located? st path = some located ∧
        ((s.perform call).after st).workspace = (st.workspace.openAt located).2) ∨
      (∃ path located, call = .closeInWorkspace path ∧ s.located? st path = some located ∧
        ((s.perform call).after st).workspace = st.workspace.closeAt located) ∨
      ((∀ path, call = .openInWorkspace path → s.located? st path = none) ∧
        ((s.perform call).after st).workspace = st.workspace) := by
  by_cases hopen : ∃ path, call = .openInWorkspace path
  · obtain ⟨path, rfl⟩ := hopen
    rw [after_perform_openInWorkspace]
    rcases hlocated : s.located? st path with _ | located
    · obtain ⟨e, scene, hrun⟩ := openInWorkspace_of_not_located hlocated
      rw [Attempt.after_of_error hrun]
      refine .inr (.inr ⟨?_, rfl⟩)
      rintro _ ⟨⟩
      exact hlocated
    · obtain ⟨scene, hrun⟩ := openInWorkspace_of_located hlocated
      rw [Attempt.after_of_ok hrun]
      exact .inl ⟨path, located, rfl, hlocated, rfl⟩
  have hnot : ∀ path, call ≠ .openInWorkspace path := fun path hcall => hopen ⟨path, hcall⟩
  by_cases hclose : ∃ path, call = .closeInWorkspace path
  · obtain ⟨path, rfl⟩ := hclose
    rw [after_perform_closeInWorkspace]
    rcases hlocated : s.located? st path with _ | located
    · obtain ⟨e, scene, hrun⟩ := closeInWorkspace_of_not_located hlocated
      rw [Attempt.after_of_error hrun]
      exact .inr (.inr ⟨fun path' hcall => absurd hcall (hnot path'), rfl⟩)
    · obtain ⟨scene, hrun⟩ := closeInWorkspace_of_located hlocated
      rw [Attempt.after_of_ok hrun]
      exact .inr (.inl ⟨path, located, rfl, hlocated, rfl⟩)
  · have hsame := s.sameWorkspace_perform hnot (fun path hcall => hclose ⟨path, hcall⟩) st
    exact .inr (.inr ⟨fun path hcall => absurd hcall (hnot path), hsame⟩)

/-! ## Over a run -/

/-- The path that a call of a run opened, as the host found it then. -/
def openedAt? (s : Session σ) (e : Step σ) : Option Path :=
  match e.call with
  | .openInWorkspace path => s.located? e.before path
  | _ => none

/-- The paths that a run opened, one after the other. -/
def openings (s : Session σ) (events : List (Step σ)) : List Path := events.filterMap s.openedAt?

/-- **A call keeps the documents**, each with its path, and those that are closed stay closed. -/
theorem grows_perform (s : Session σ) (call : Call) (st : State σ) :
    st.workspace.Grows ((s.perform call).after st).workspace := by
  rcases s.workspace_perform_cases call st with
    ⟨path, located, -, -, hafter⟩ | ⟨path, located, -, -, hafter⟩ | ⟨-, hafter⟩
  · rw [hafter]
    exact .openAt st.workspace located
  · rw [hafter]
    exact .closeAt st.workspace located
  · rw [hafter]
    exact .refl st.workspace

/-- **In every run** the documents are kept. -/
theorem grows_run (s : Session σ) (st : State σ) (calls : List Call) :
    st.workspace.Grows (Attempt.afterAll s.perform st calls).workspace :=
  Attempt.afterAll_of_step (P := fun t => st.workspace.Grows t.workspace)
    (fun call t h => h.trans (s.grows_perform call t)) (.refl st.workspace) calls

/-- **A call holds the documents** of the paths that were opened, and of the one that it opens. -/
theorem tracks_perform (s : Session σ) (call : Call) {st : State σ} {opened : List Path}
    (h : st.workspace.Tracks opened) :
    ((s.perform call).after st).workspace.Tracks
      (opened ++ (s.openedAt? (Attempt.event s.perform st call)).toList) := by
  rcases s.workspace_perform_cases call st with
    ⟨path, located, rfl, hlocated, hafter⟩ | ⟨path, located, rfl, -, hafter⟩ | ⟨hnone, hafter⟩
  · have hopened : s.openedAt? (Attempt.event s.perform st (.openInWorkspace path)) =
        some located := hlocated
    rw [hafter, hopened]
    exact h.openAt located
  · have hopened : s.openedAt? (Attempt.event s.perform st (.closeInWorkspace path)) = none := rfl
    rw [hafter, hopened, Option.toList_none, List.append_nil]
    exact h.closeAt located
  · have hopened : s.openedAt? (Attempt.event s.perform st call) = none := by
      unfold openedAt?
      split
      · next path hcall => exact hnone path hcall
      · rfl
    rw [hafter, hopened, Option.toList_none, List.append_nil]
    exact h

/-- **In every run** the workspace holds the documents of the paths that were opened. -/
theorem tracks_run (s : Session σ) {start : State σ} {opened : List Path}
    (hstart : start.workspace.Tracks opened) (calls : List Call) :
    (Attempt.afterAll s.perform start calls).workspace.Tracks
      (opened ++ s.openings (Attempt.history s.perform start calls)) := by
  induction calls generalizing start opened with
  | nil =>
    rw [show s.openings (Attempt.history s.perform start []) = [] from rfl, List.append_nil]
    exact hstart
  | cons call rest ih =>
    have hrest := ih (s.tracks_perform call hstart)
    rw [List.append_assoc] at hrest
    have hopenings : s.openings (Attempt.history s.perform start (call :: rest)) =
        (s.openedAt? (Attempt.event s.perform start call)).toList ++
          s.openings (Attempt.history s.perform ((s.perform call).after start) rest) := by
      rw [Attempt.history, openings, List.filterMap_cons]
      cases s.openedAt? (Attempt.event s.perform start call) <;> rfl
    rw [hopenings]
    exact hrest

end LspHost.Session
