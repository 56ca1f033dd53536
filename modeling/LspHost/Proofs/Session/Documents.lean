import LspHost.Proofs.Session.Teardown
import Mathlib.Data.List.Induction

/-!
# The server is told about documents in step

What got through about a document since the session was last stopped says in turn that it is open
and that it is closed, beginning with open; and the session holds the document for open exactly when
the last of it says so (`Session.follow_run`).

The law is carried by `Session.InStep`, which relates the states before and after: what was sent in
between takes each document from what it was to what it is. Every call keeps it except a stop that
returns, and so does every part of a call, so that it does not matter where a fault cuts a call off.
-/

namespace LspHost.Session

variable {σ α : Type}

/-! ## Notices -/

/-- What the server is told about a document. -/
inductive Notice where
  /-- it is open -/
  | opened
  /-- it is closed -/
  | closed
  deriving DecidableEq, Repr

/-- What a message tells the server about a document, if it gets through. -/
def noticeOf (uri : String) : Sending → Option Notice
  | { message := .opened about _, delivered := true } => if about = uri then some .opened else none
  | { message := .closed about, delivered := true } => if about = uri then some .closed else none
  | _ => none

/-- What messages tell the server about a document. -/
def told (uri : String) (sent : List Sending) : List Notice := sent.filterMap (noticeOf uri)

@[simp]
theorem told_append (uri : String) (sent more : List Sending) :
    told uri (sent ++ more) = told uri sent ++ told uri more :=
  List.filterMap_append

/-- A message that did not get through tells nothing. -/
@[simp]
theorem told_undelivered (uri : String) (message : Message) :
    told uri [{ message, delivered := false }] = [] := by
  cases message <;> rfl

@[simp]
theorem told_opened (uri about text : String) :
    told uri [{ message := .opened about text, delivered := true }] =
      if about = uri then [.opened] else [] := by
  by_cases h : about = uri <;> simp [told, noticeOf, h]

@[simp]
theorem told_closed (uri about : String) :
    told uri [{ message := .closed about, delivered := true }] =
      if about = uri then [.closed] else [] := by
  by_cases h : about = uri <;> simp [told, noticeOf, h]

/-- Whether a document is open after notices that tell of a change each; none if one does not. -/
def follow : Bool → List Notice → Option Bool
  | isOpen, [] => some isOpen
  | false, .opened :: rest => follow true rest
  | true, .closed :: rest => follow false rest
  | _, _ :: _ => none

theorem follow_append (isOpen : Bool) (notices more : List Notice) :
    follow isOpen (notices ++ more) = (follow isOpen notices).bind (follow · more) := by
  induction notices generalizing isOpen with
  | nil => rfl
  | cons notice rest ih => cases isOpen <;> cases notice <;> simp [follow, ih]

/-- **Notices that tell of a change each** alternate. -/
theorem getElem_of_follow {isOpen isOpen' : Bool} {notices : List Notice}
    (h : follow isOpen notices = some isOpen') (i : Nat) (hi : i < notices.length) :
    notices[i] = if (i % 2 == 0) != isOpen then .opened else .closed := by
  induction notices generalizing isOpen i with
  | nil => cases hi
  | cons notice rest ih =>
    have hnotice : notice = (if isOpen then .closed else .opened) ∧
        follow (!isOpen) rest = some isOpen' := by
      cases isOpen <;> cases notice <;> first | exact ⟨rfl, h⟩ | cases h
    obtain ⟨rfl, hrest⟩ := hnotice
    cases i with
    | zero => cases isOpen <;> rfl
    | succ j =>
      have hparity : ((j + 1) % 2 == 0) = !(j % 2 == 0) := by
        rcases Nat.mod_two_eq_zero_or_one j with hj | hj <;> simp [Nat.add_mod, hj]
      rw [List.getElem_cons_succ, ih hrest j (Nat.lt_of_succ_lt_succ hi), hparity]
      cases isOpen <;> cases j % 2 == 0 <;> rfl

/-- **The last notice** says whether the document is open, if it was closed before the first. -/
theorem isOpen_iff_of_follow {isOpen : Bool} {notices : List Notice}
    (h : follow false notices = some isOpen) :
    isOpen = true ↔ notices.getLast? = some .opened := by
  rcases List.eq_nil_or_concat notices with rfl | ⟨init, last, rfl⟩
  · cases h
    simp
  · rw [List.concat_eq_append, follow_append] at h
    obtain ⟨before, -, hlast⟩ := Option.bind_eq_some_iff.mp h
    rw [List.concat_eq_append, List.getLast?_concat]
    cases before <;> cases last <;> cases hlast <;> decide

/-! ## In step -/

/-- What was sent in between takes each document from what it was to what it is. -/
def InStep (s t : State σ) : Prop :=
  ∃ more, t.sent = s.sent ++ more ∧
    ∀ uri, follow (s.opened.contains uri) (told uri more) = some (t.opened.contains uri)

theorem InStep.refl (s : State σ) : InStep s s := ⟨[], by simp, fun _ => rfl⟩

theorem InStep.trans (s t u : State σ) (hst : InStep s t) (htu : InStep t u) : InStep s u := by
  obtain ⟨more, hsent, hfollow⟩ := hst
  obtain ⟨more', hsent', hfollow'⟩ := htu
  refine ⟨more ++ more', by rw [hsent', hsent, List.append_assoc], fun uri => ?_⟩
  rw [told_append, follow_append, hfollow, Option.bind_some, hfollow']

/-- What was sent stays sent. -/
theorem InStep.sent {s t : State σ} (h : InStep s t) : s.sent <+: t.sent := by
  obtain ⟨more, hsent, -⟩ := h
  rw [hsent]
  exact List.prefix_append _ _

/-- **What is quiet** stays in step. -/
theorem Quiet.inStep {s t : State σ} (h : Quiet s t) : InStep s t :=
  ⟨[], by rw [h.sent, List.append_nil], fun uri => by rw [h.opened]; rfl⟩

theorem inStep_of_quiet {act : Run σ α} (h : act.Keeps Quiet) : act.Keeps InStep :=
  h.mono fun _ _ => Quiet.inStep

theorem inStep_of_unmoved {act : Run σ α} (h : act.Keeps Unmoved) : act.Keeps InStep :=
  inStep_of_quiet (quiet_of_unmoved h)

/-- A message that tells nothing about documents stays in step. -/
theorem inStep_send (s : Session σ) {message : Message}
    (h : ∀ uri, told uri [{ message, delivered := true }] = []) :
    (s.send message).Keeps InStep := by
  intro st
  obtain ⟨scene, delivered, hafter⟩ := s.after_send message st
  rw [hafter]
  refine ⟨[{ message, delivered }], rfl, fun uri => ?_⟩
  cases delivered
  · rw [told_undelivered]
    rfl
  · rw [h uri]
    rfl

/-! ## Documents -/

/-- **Opening a document** does nothing if it is open; else it ends with a fault while reading it or
while sending it, or the server knows of it and it is open. -/
theorem openDocument_cases (s : Session σ) (path : Path) (st : State σ) :
    let file := s.root.join path
    (st.opened.contains file.uri = true ∧ s.openDocument path st = .ok () st) ∨
      (st.opened.contains file.uri = false ∧
        ((∃ e scene, s.documentText file st.scene = .error e scene ∧
            s.openDocument path st = .error e { st with scene }) ∨
          ∃ text u, s.documentText file st.scene = .ok text u ∧
            ((∃ e scene, s.link (.opened file.uri text) u = .error e scene ∧
                s.openDocument path st =
                  .error e (st.afterSending scene (.opened file.uri text) false)) ∨
              ∃ info scene, s.link (.opened file.uri text) u = .ok info scene ∧
                s.openDocument path st =
                  .ok () { st.afterSending scene (.opened file.uri text) true with
                    opened := st.opened ++ [file.uri] }))) := by
  intro file
  have hrun : s.openDocument path st =
      if st.opened.contains file.uri then .ok () st
      else (do
        let text ← lift (s.documentText file)
        let _ ← s.send (.opened file.uri text)
        modify fun st => { st with opened := st.opened ++ [file.uri] } : Run σ Unit) st := by
    unfold openDocument
    rw [Attempt.get_bind]
    split <;> rfl
  by_cases hopen : st.opened.contains file.uri = true
  · rw [if_pos hopen] at hrun
    exact .inl ⟨hopen, hrun⟩
  rw [if_neg hopen] at hrun
  refine .inr ⟨Bool.eq_false_iff.mpr hopen, ?_⟩
  rcases htext : s.documentText file st.scene with ⟨text, u⟩ | ⟨e, scene⟩
  · refine .inr ⟨text, u, rfl, ?_⟩
    rw [Attempt.bind_of_ok (lift_of_ok htext)] at hrun
    rcases hlink : s.link (.opened file.uri text) u with ⟨info, scene⟩ | ⟨e, scene⟩
    · have hsend : s.send (.opened file.uri text) { st with scene := u } = .ok info _ :=
        s.send_of_ok hlink
      rw [Attempt.bind_of_ok hsend] at hrun
      exact .inr ⟨info, scene, rfl, hrun⟩
    · have hsend : s.send (.opened file.uri text) { st with scene := u } = .error e _ :=
        s.send_of_error hlink
      rw [Attempt.bind_of_error hsend] at hrun
      exact .inl ⟨e, scene, rfl, hrun⟩
  · exact .inl ⟨e, scene, rfl, hrun.trans (Attempt.bind_of_error (lift_of_error htext) _)⟩

/-- **Closing a document** does nothing if it is closed; else it ends with a fault while sending it,
or the server knows of it and it is closed. -/
theorem closeDocument_cases (s : Session σ) (path : Path) (st : State σ) :
    let file := s.root.join path
    (st.opened.contains file.uri = false ∧ s.closeDocument path st = .ok () st) ∨
      (st.opened.contains file.uri = true ∧
        ((∃ e scene, s.link (.closed file.uri) st.scene = .error e scene ∧
            s.closeDocument path st = .error e (st.afterSending scene (.closed file.uri) false)) ∨
          ∃ info scene, s.link (.closed file.uri) st.scene = .ok info scene ∧
            s.closeDocument path st =
              .ok () { st.afterSending scene (.closed file.uri) true with
                opened := st.opened.filter (· != file.uri) })) := by
  intro file
  have hrun : s.closeDocument path st =
      if st.opened.contains file.uri then (do
        let _ ← s.send (.closed file.uri)
        modify fun st => { st with opened := st.opened.filter (· != file.uri) } : Run σ Unit) st
      else .ok () st := by
    unfold closeDocument
    rw [Attempt.get_bind]
    split <;> rfl
  by_cases hopen : st.opened.contains file.uri = true
  · rw [if_pos hopen] at hrun
    refine .inr ⟨hopen, ?_⟩
    rcases hlink : s.link (.closed file.uri) st.scene with ⟨info, scene⟩ | ⟨e, scene⟩
    · rw [Attempt.bind_of_ok (s.send_of_ok hlink)] at hrun
      exact .inr ⟨info, scene, rfl, hrun⟩
    · rw [Attempt.bind_of_error (s.send_of_error hlink)] at hrun
      exact .inl ⟨e, scene, rfl, hrun⟩
  · rw [if_neg hopen] at hrun
    exact .inl ⟨Bool.eq_false_iff.mpr hopen, hrun⟩

/-- A message that did not get through changes nothing about documents. -/
theorem inStep_undelivered (st : State σ) (scene : Scene σ) (message : Message) :
    InStep st (st.afterSending scene message false) :=
  ⟨_, rfl, fun uri => by rw [told_undelivered]; rfl⟩

theorem inStep_openDocument (s : Session σ) (path : Path) :
    (s.openDocument path).Keeps InStep := by
  intro st
  rcases s.openDocument_cases path st with ⟨-, hrun⟩ |
    ⟨hclosed, ⟨e, scene, -, hrun⟩ | ⟨text, u, -, ⟨e, scene, -, hrun⟩ | ⟨info, scene, -, hrun⟩⟩⟩
  · rw [Attempt.after_of_ok hrun]
    exact .refl st
  · rw [Attempt.after_of_error hrun]
    exact Quiet.inStep ⟨rfl, rfl, rfl⟩
  · rw [Attempt.after_of_error hrun]
    exact inStep_undelivered st scene _
  · rw [Attempt.after_of_ok hrun]
    refine ⟨_, rfl, fun uri => ?_⟩
    rw [told_opened]
    by_cases huri : (s.root.join path).uri = uri
    · subst huri
      rw [hclosed, if_pos rfl]
      simp [follow]
    · rw [if_neg huri]
      simp [follow, Ne.symm huri]

theorem inStep_closeDocument (s : Session σ) (path : Path) :
    (s.closeDocument path).Keeps InStep := by
  intro st
  rcases s.closeDocument_cases path st with ⟨-, hrun⟩ |
    ⟨hopen, ⟨e, scene, -, hrun⟩ | ⟨info, scene, -, hrun⟩⟩
  · rw [Attempt.after_of_ok hrun]
    exact .refl st
  · rw [Attempt.after_of_error hrun]
    exact inStep_undelivered st scene _
  · rw [Attempt.after_of_ok hrun]
    refine ⟨_, rfl, fun uri => ?_⟩
    rw [told_closed]
    by_cases huri : (s.root.join path).uri = uri
    · subst huri
      rw [hopen, if_pos rfl]
      simp [follow]
    · rw [if_neg huri]
      simp [follow, Ne.symm huri]

/-- **A fault while opening or closing** leaves the same documents open. -/
theorem opened_of_error (s : Session σ) (path : Path) {st t : State σ} {e : Fault}
    (h : s.openDocument path st = .error e t ∨ s.closeDocument path st = .error e t) :
    t.opened = st.opened := by
  rcases h with h | h
  · rcases s.openDocument_cases path st with ⟨-, hrun⟩ |
      ⟨-, ⟨f, scene, -, hrun⟩ | ⟨text, u, -, ⟨f, scene, -, hrun⟩ | ⟨info, scene, -, hrun⟩⟩⟩
    all_goals rw [hrun] at h
    · cases h
    · cases h
      rfl
    · cases h
      rfl
    · cases h
  · rcases s.closeDocument_cases path st with ⟨-, hrun⟩ |
      ⟨-, ⟨f, scene, -, hrun⟩ | ⟨info, scene, -, hrun⟩⟩
    all_goals rw [hrun] at h
    · cases h
    · cases h
      rfl
    · cases h

/-! ## Starting and stopping -/

theorem inStep_spawn (s : Session σ) (argv : List String) : (s.spawn argv).Keeps InStep := by
  intro st
  rw [s.after_spawn]
  exact s.inStep_send (fun _ => rfl) st

theorem inStep_openAll (s : Session σ) : s.openAll.Keeps InStep :=
  .bind InStep.trans (.get InStep.refl) fun _ =>
    .forM InStep.refl InStep.trans (fun _ => s.inStep_openDocument _) _

/-- **Starting** stays in step, wherever it ends. -/
theorem inStep_start (s : Session σ) (given : List String) : (s.start given).Keeps InStep := by
  refine .bind InStep.trans (.ofExcept InStep.refl _) fun argv => ?_
  refine .bind InStep.trans (inStep_of_unmoved (unmoved_note _ _)) fun _ => ?_
  refine .bind InStep.trans (s.inStep_spawn argv) fun _ => ?_
  refine .bind InStep.trans (inStep_of_unmoved s.unmoved_settings) fun answer => ?_
  obtain ⟨python, snapshot⟩ := answer
  refine .bind InStep.trans (inStep_of_unmoved (unmoved_lift _)) fun info => ?_
  refine .bind InStep.trans (inStep_of_unmoved (unmoved_note _ _)) fun _ => ?_
  refine .bind InStep.trans (.ofExcept InStep.refl _) fun options => ?_
  refine .bind InStep.trans (s.inStep_send fun _ => rfl) fun answer => ?_
  refine .bind InStep.trans (inStep_of_unmoved (unmoved_note _ _)) fun _ => ?_
  refine .bind InStep.trans (s.inStep_send fun _ => rfl) fun _ => ?_
  refine .bind InStep.trans (.ofExcept InStep.refl _) fun nested => ?_
  refine .bind InStep.trans (s.inStep_send fun _ => rfl) fun _ => ?_
  refine .bind InStep.trans (.of_modify fun st => ⟨[], by simp, fun _ => rfl⟩) fun _ => ?_
  exact .bind InStep.trans s.inStep_openAll fun _ => .pure InStep.refl answer

/-- Messages that tell nothing about documents stay in step. -/
theorem inStep_having (st : State σ) (scene : Scene σ) {more : List Sending}
    (h : ∀ uri, told uri more = []) : InStep st (st.having scene more) :=
  ⟨more, rfl, fun uri => by rw [h uri]; rfl⟩

/-- What is asked of the server before the transport is halted tells nothing about documents. -/
theorem told_parting {isStarted : Bool} {parting : List Sending} (h : Parting isStarted parting)
    (uri : String) : told uri parting = [] := by
  cases h with
  | silent => rfl
  | unanswered => rfl
  | answered delivered => cases delivered <;> rfl

/-! ## Runs -/

/-- Whether a call was a stop that returned. -/
def hasStopped (e : Step σ) : Bool := e.call matches .stop && e.answer.isOk

/-- **A stop** that returns has halted the transport and ended the session; any other one has sent at
most what is asked of the server and that the transport is to be halted. -/
theorem perform_stop_cases (s : Session σ) (st : State σ) :
    ∃ parting scene, Parting st.started parting ∧
      ((hasStopped (Attempt.event s.perform st .stop) = true ∧ (s.perform .stop).after st =
          st.ended scene (parting ++ [{ message := .halt, delivered := true }])) ∨
        (hasStopped (Attempt.event s.perform st .stop) = false ∧
          ∃ more, (∀ x ∈ more, x = { message := .halt, delivered := false }) ∧
            (s.perform .stop).after st = st.having scene (parting ++ more))) := by
  have hreturned {t : State σ} (hstop : s.stop st = .ok () t) :
      hasStopped (Attempt.event s.perform st .stop) = true ∧ (s.perform .stop).after st = t := by
    have hperform : s.perform .stop st = .ok .done t := Attempt.bind_of_ok hstop _
    refine ⟨?_, Attempt.after_of_ok hperform⟩
    simp only [hasStopped, Attempt.event, Attempt.answer_of_ok hperform]
    rfl
  have hraised {t : State σ} {e : Fault} (hstop : s.stop st = .error e t) :
      hasStopped (Attempt.event s.perform st .stop) = false ∧ (s.perform .stop).after st = t := by
    have hperform : s.perform .stop st = .error e t := Attempt.bind_of_error hstop _
    refine ⟨?_, Attempt.after_of_error hperform⟩
    simp only [hasStopped, Attempt.event, Attempt.answer_of_error hperform]
    rfl
  obtain ⟨parting, hparting, ⟨-, ⟨e, scene, hstop⟩ | ⟨scene, hstop⟩⟩ | ⟨e, scene, -, -, -, hstop⟩⟩ :=
    s.stop_outcome st
  · obtain ⟨hnot, hafter⟩ := hraised hstop
    exact ⟨parting, scene, hparting, .inr ⟨hnot, _, by simp, hafter⟩⟩
  · exact ⟨parting, scene, hparting, .inl (hreturned hstop)⟩
  · obtain ⟨hnot, hafter⟩ := hraised hstop
    refine ⟨parting, scene, hparting, .inr ⟨hnot, [], nofun, ?_⟩⟩
    rw [List.append_nil]
    exact hafter

/-- What happened since the last stop that returned, or since the beginning. -/
def sinceStop (events : List (Step σ)) : List (Step σ) :=
  (events.reverse.takeWhile fun e => !hasStopped e).reverse

/-- What was sent in a call. -/
def sending (e : Step σ) : List Sending := e.after.sent.drop e.before.sent.length

theorem sinceStop_concat (events : List (Step σ)) (e : Step σ) :
    sinceStop (events ++ [e]) = if hasStopped e then [] else sinceStop events ++ [e] := by
  unfold sinceStop
  rw [List.reverse_concat, List.takeWhile_cons]
  cases hasStopped e <;> simp

/-- **Every call** stays in step, unless it is a stop that returns. -/
theorem inStep_perform (s : Session σ) (st : State σ) (call : Call)
    (h : hasStopped (Attempt.event s.perform st call) = false) :
    InStep st ((s.perform call).after st) := by
  cases call
  case start given => exact (s.inStep_start given).bind_pure _ st
  case stop =>
    obtain ⟨parting, scene, hparting, ⟨hstopped, -⟩ | ⟨-, more, hmore, hafter⟩⟩ :=
      s.perform_stop_cases st
    · rw [h] at hstopped
      cases hstopped
    · rw [hafter]
      refine inStep_having st scene fun uri => ?_
      rw [told_append, told_parting hparting, List.nil_append, told, List.filterMap_eq_nil_iff]
      intro x hx
      rw [hmore x hx]
      rfl
  case openDocument path => exact (s.inStep_openDocument path).bind_pure (fun _ => Answer.done) st
  case closeDocument path => exact (s.inStep_closeDocument path).bind_pure (fun _ => Answer.done) st
  case openInWorkspace path =>
    exact (inStep_of_quiet (s.quiet_openInWorkspace path)).bind_pure _ st
  case closeInWorkspace path =>
    exact (inStep_of_quiet (s.quiet_closeInWorkspace path)).bind_pure (fun _ => Answer.done) st
  all_goals exact inStep_of_unmoved (s.unmoved_perform rfl) st

/-- **A stop that returns** ends the session. -/
theorem ended_of_hasStopped (s : Session σ) (st : State σ) (call : Call)
    (h : hasStopped (Attempt.event s.perform st call) = true) :
    ∃ scene more, (s.perform call).after st = st.ended scene more := by
  cases call
  case stop =>
    obtain ⟨parting, scene, -, ⟨-, hafter⟩ | ⟨hnot, -⟩⟩ := s.perform_stop_cases st
    · exact ⟨scene, _, hafter⟩
    · rw [h] at hnot
      cases hnot
  all_goals
    obtain ⟨hcall, -⟩ := Bool.and_eq_true_iff.mp h
    cases hcall

/-- **What a call leaves** as sent is what was sent before it and what it sent. -/
theorem sent_perform (s : Session σ) (st : State σ) (call : Call) :
    ((s.perform call).after st).sent = st.sent ++ sending (Attempt.event s.perform st call) := by
  have hprefix : st.sent <+: ((s.perform call).after st).sent := by
    rcases hstopped : hasStopped (Attempt.event s.perform st call)
    · exact (s.inStep_perform st call hstopped).sent
    · obtain ⟨scene, more, hended⟩ := s.ended_of_hasStopped st call hstopped
      rw [hended]
      exact List.prefix_append _ _
  exact List.prefix_iff_eq_append.mp hprefix |>.symm

/-- **Every run** stays in step from its last stop on. -/
theorem follow_run (s : Session σ) {start : State σ} (hstart : start.opened = [])
    (calls : List Call) (uri : String) :
    follow false (told uri ((sinceStop (Attempt.history s.perform start calls)).flatMap sending)) =
      some ((Attempt.afterAll s.perform start calls).opened.contains uri) := by
  induction calls using List.reverseRecOn with
  | nil =>
    rw [Attempt.afterAll_nil, hstart]
    rfl
  | append_singleton calls call ih =>
    rw [Attempt.history_concat, Attempt.afterAll_concat, sinceStop_concat]
    split
    · next hstopped =>
      obtain ⟨scene, more, hended⟩ := s.ended_of_hasStopped _ call hstopped
      rw [hended]
      rfl
    · next hstopped =>
      obtain ⟨more, hsent, hfollow⟩ := s.inStep_perform _ call (Bool.eq_false_iff.mpr hstopped)
      obtain rfl := List.append_cancel_left (hsent.symm.trans (s.sent_perform _ call))
      rw [List.flatMap_append, List.flatMap_singleton, told_append, follow_append, ih,
        Option.bind_some]
      exact hfollow uri

/-- **Documents are kept in step.** In a run of a new session, what got through about a document
since the last stop that returned is in turn that it is open and that it is closed, beginning with
open, and the session holds the document for open exactly when the last of it is that it is open. A
fault while opening or closing a document leaves the same documents open, in every state. -/
theorem told_of_run (s : Session σ) (scene : Scene σ) (workspace : Workspace) (calls : List Call) :
    let start : State σ := { scene, workspace }
    let notices (uri : String) : List Notice :=
      told uri ((sinceStop (Attempt.history s.perform start calls)).flatMap sending)
    (∀ uri,
      (∀ (i : Nat) (h : i < (notices uri).length),
        (notices uri)[i] = if i % 2 = 0 then .opened else .closed) ∧
      (uri ∈ (Attempt.afterAll s.perform start calls).opened ↔
        (notices uri).getLast? = some .opened)) ∧
    ∀ (path : Path) (st t : State σ) (e : Fault),
      s.openDocument path st = .error e t ∨ s.closeDocument path st = .error e t →
        t.opened = st.opened := by
  intro start notices
  refine ⟨fun uri => ?_, fun path st t e => s.opened_of_error path⟩
  have hfollow := s.follow_run (show start.opened = [] from rfl) calls uri
  refine ⟨fun i hi => ?_, ?_⟩
  · rw [getElem_of_follow hfollow i hi]
    simp
  · rw [← isOpen_iff_of_follow hfollow]
    exact List.contains_iff_mem.symm

end LspHost.Session
