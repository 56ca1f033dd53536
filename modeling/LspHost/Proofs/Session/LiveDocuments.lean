import LspHost.Proofs.Session.Faults
import LspHost.Proofs.Session.Workspace

/-!
# The live documents of a session

Opening and closing documents of the workspace keeps it orderly, and nothing else changes it
(`Session.orderly_run`). So a start that returns has told the server about each live document that it
did not hold for open already, once and in order, and it holds all of them for open then.
-/

namespace LspHost.Session

variable {σ : Type}

section Orderly

variable {s : Session σ}
  (hresolve : ∀ path scene located scene', s.host.resolve path scene = .ok located scene' →
    located.isAbsolute = true)

include hresolve

/-- **Every call** keeps the workspace orderly, if what the host finds is absolute. -/
theorem orderly_perform (call : Call) (st : State σ) (h : st.workspace.Orderly) :
    ((s.perform call).after st).workspace.Orderly := by
  rcases s.workspace_perform_cases call st with
    ⟨path, located, -, hlocated, hafter⟩ | ⟨path, located, -, -, hafter⟩ | ⟨-, hafter⟩
  · obtain ⟨scene, hfound⟩ := locate_of_located hlocated
    rw [hafter]
    exact h.openAt (hresolve _ st.scene located scene hfound)
  · rw [hafter]
    exact h.closeAt located
  · rwa [hafter]

/-- **In every run** the workspace stays orderly. -/
theorem orderly_run {start : State σ} (hstart : start.workspace.Orderly) (calls : List Call) :
    (Attempt.afterAll s.perform start calls).workspace.Orderly :=
  Attempt.afterAll_of_step (orderly_perform hresolve) hstart calls

/-! ## After a start -/

/-- **What a start tells about documents.** In a run of a new session, a start that returns has sent
its greeting, the messages up to the settings, and then that each live document is open which the
session did not hold for open before, each once, in the order of the workspace, all of them
delivered. The live documents are told apart by their URIs, and for each of them the last that got
through since the last stop that returned says that it is open, now or before this start. -/
theorem opened_of_run (scene : Scene σ) (calls : List Call) (given : List String) :
    let start : State σ := { scene, workspace := { root := s.root } }
    let st := Attempt.afterAll s.perform start calls
    let live := st.workspace.liveDocuments.map s.uriOf
    ∀ info ended, s.start given st = .ok info ended →
    live.Nodup ∧
      (∃ argv greeting openings, ended.sent = st.sent ++ greeting ++ openings ∧
        greeting.map Sending.topic =
          [.spawn argv s.root.text, .handshake, .initialized, .settings] ∧
        openings.map Sending.topic =
          (live.filter fun uri => !st.opened.contains uri).map .opened ∧
        ∀ x ∈ greeting ++ openings, x.delivered = true) ∧
      ∀ uri ∈ live, uri ∈ ended.opened ∧
        (told uri ((sinceStop (Attempt.history s.perform start
          (calls ++ [.start given]))).flatMap sending)).getLast? = some .opened := by
  intro start st live info ended h
  have horderly : st.workspace.Orderly :=
    orderly_run hresolve (Workspace.orderly_empty s.root) calls
  have hdistinct := s.nodup_uris horderly
  have hawaiting : s.awaiting st = live.filter fun uri => !st.opened.contains uri :=
    unopened_of_nodup hdistinct st.opened
  refine ⟨hdistinct, ?_, fun uri huri => ?_⟩
  · obtain ⟨sent, hsent, ⟨e, -, hfailed, -⟩ | ⟨argv, -, -, hwhole⟩⟩ := s.sent_start given st
    · cases hfailed.symm.trans h
    have hwhole := hwhole (Attempt.answer_of_ok h ▸ rfl)
    rw [Attempt.after_of_ok h] at hsent
    obtain ⟨greeting, openings, rfl, hgreeting, hopenings⟩ :=
      List.map_eq_append_iff.mp hwhole.topics
    rw [hawaiting] at hopenings
    exact ⟨argv, greeting, openings, by rw [hsent, List.append_assoc], hgreeting, hopenings,
      hwhole.delivered⟩
  · have hopen : uri ∈ ended.opened := by
      rw [opened_of_start h, hawaiting]
      by_cases hbefore : uri ∈ st.opened
      · exact List.mem_append_left _ hbefore
      · refine List.mem_append_right _ (List.mem_filter.mpr ⟨huri, ?_⟩)
        simpa using hbefore
    refine ⟨hopen, ?_⟩
    have hafter : Attempt.afterAll s.perform start (calls ++ [.start given]) = ended := by
      rw [Attempt.afterAll_concat, after_perform_start]
      exact Attempt.after_of_ok h
    have hfollow := s.follow_run (show start.opened = [] from rfl) (calls ++ [.start given]) uri
    rw [hafter] at hfollow
    exact (isOpen_iff_of_follow hfollow).mp (List.contains_iff_mem.mpr hopen)

end Orderly

/-- A session whose messages all get through, on a bare host. -/
def heard : Session Unit := facing .bare (losing fun _ => none)

/-- It has two documents in its workspace, and has told the server about one of them. -/
def heardOnce : List Call :=
  [.openInWorkspace (.ofText "a.py"), .openInWorkspace (.ofText "b.py"),
    .openDocument (.ofText "a.py")]

/-- The state of that session then. -/
def heardState : State Unit :=
  Attempt.afterAll heard.perform
    { scene := { world := () }, workspace := { root := heard.root } } heardOnce

/-- It starts, and the start tells about the other document alone. -/
theorem start_heard :
    ((heard.start ["serve"]).answer heardState).isOk = true ∧
      (((heard.start ["serve"]).after heardState).sent.drop heardState.sent.length).map
          Sending.topic =
        [.spawn ["serve"] "/w", .handshake, .initialized, .settings, .opened "file:///w/b.py"] ∧
      heardState.workspace.liveDocuments.map heard.uriOf = ["file:///w/a.py", "file:///w/b.py"] := by
  decide +kernel

/-- A live document that a start which returns does not tell about. -/
theorem live_document_unannounced :
    ∃ info ended, heard.start ["serve"] heardState = .ok info ended ∧
      "file:///w/a.py" ∈ heardState.workspace.liveDocuments.map heard.uriOf ∧
      .opened "file:///w/a.py" ∉
        (ended.sent.drop heardState.sent.length).map Sending.topic := by
  obtain ⟨hok, htopics, hlive⟩ := start_heard
  obtain ⟨info, ended, hstart⟩ := Attempt.exists_eq_ok hok
  rw [Attempt.after_of_ok hstart] at htopics
  refine ⟨info, ended, hstart, ?_, ?_⟩
  · rw [hlive]
    decide
  · rw [htopics]
    decide

/-- The other document is told about, and both are open afterwards. -/
theorem opened_of_heard_run :
    ∃ info ended openings, heard.start ["serve"] heardState = .ok info ended ∧
      openings <:+ ended.sent ∧ openings.map Sending.topic = [.opened "file:///w/b.py"] ∧
      "file:///w/a.py" ∈ ended.opened ∧ "file:///w/b.py" ∈ ended.opened := by
  obtain ⟨hok, -, hlive⟩ := start_heard
  obtain ⟨info, ended, hstart⟩ := Attempt.exists_eq_ok hok
  have hresolve : ∀ path scene located scene',
      heard.host.resolve path scene = .ok located scene' → located.isAbsolute = true := by
    intro path scene located scene' hfound
    cases hfound
    exact Path.isAbsolute_join rfl path
  have hopened : heardState.opened = ["file:///w/a.py"] := by decide +kernel
  obtain ⟨-, ⟨argv, greeting, openings, hsent, -, hopenings, -⟩, hall⟩ :=
    opened_of_run hresolve { world := () } heardOnce ["serve"] info ended hstart
  have hfilter : (heardState.workspace.liveDocuments.map heard.uriOf).filter
      (fun uri => !heardState.opened.contains uri) = ["file:///w/b.py"] := by
    rw [hlive, hopened]
    decide
  refine ⟨info, ended, openings, hstart, ⟨_, hsent.symm⟩, ?_, (hall _ ?_).1, (hall _ ?_).1⟩
  · exact hopenings.trans (congrArg (List.map Topic.opened) hfilter)
  · show _ ∈ heardState.workspace.liveDocuments.map heard.uriOf
    rw [hlive]
    decide
  · show _ ∈ heardState.workspace.liveDocuments.map heard.uriOf
    rw [hlive]
    decide

end LspHost.Session
