import LspHost.Proofs.Session.Handshake

/-!
# The life of a session

Over a whole run the session counts as started exactly if the settings of a start got through since
the last stop that returned (`Session.started_run`). This decides what a stop asks of the server
(`Session.shutdown_perform`). What is sent keeps a grammar: the handshake follows the program's
spawning (`Session.handshake_perform`), and exit a shutdown that was answered
(`Session.exit_perform`).
-/

namespace LspHost.Session

variable {σ : Type}

/-- Whether a call was a start whose settings got through. -/
def Begins (e : Step σ) : Prop := (∃ given, e.call = .start given) ∧ Pushed (sending e)

/-- What was sent in a call is what came to what was sent before. -/
theorem sending_eq {s : Session σ} {st : State σ} {call : Call} {more : List Sending}
    (h : ((s.perform call).after st).sent = st.sent ++ more) :
    sending (Attempt.event s.perform st call) = more :=
  List.append_cancel_left ((s.sent_perform st call).symm.trans h)

/-! ## Calls about documents -/

/-- Whether a message is about a document. -/
def isOnDocument (x : Sending) : Bool := x.topic matches .opened _ | .closed _

/-- At most documents were told about, and the handshake is as it was. -/
structure OnDocuments (s t : State σ) : Prop where
  /-- every message that was sent is about a document -/
  sent : ∃ more, t.sent = s.sent ++ more ∧ ∀ x ∈ more, isOnDocument x = true
  /-- the handshake is as it was -/
  started : t.started = s.started

theorem onDocuments_of_quiet {α : Type} {act : Run σ α} (h : act.Keeps Quiet) :
    act.Keeps OnDocuments := by
  intro st
  exact ⟨⟨[], by rw [(h st).sent, List.append_nil], nofun⟩, (h st).started⟩

theorem onDocuments_openDocument (s : Session σ) (path : Path) :
    (s.openDocument path).Keeps OnDocuments := by
  intro st
  obtain ⟨more, hsent, hcut⟩ := (s.carries_openDocument path st).cutShort
  refine ⟨⟨more, hsent, fun x hx => ?_⟩, (s.steady_openDocument path st).started⟩
  obtain ⟨uri, -, htopic⟩ := List.mem_map.mp (hcut.mem hx)
  rw [isOnDocument, ← htopic]

theorem onDocuments_closeDocument (s : Session σ) (path : Path) :
    (s.closeDocument path).Keeps OnDocuments := by
  intro st
  refine ⟨?_, (s.steady_closeDocument path st).started⟩
  rcases s.closeDocument_cases path st with ⟨-, hrun⟩ |
    ⟨-, ⟨e, scene, -, hrun⟩ | ⟨info, scene, -, hrun⟩⟩
  · rw [Attempt.after_of_ok hrun]
    exact ⟨[], by rw [List.append_nil], nofun⟩
  · rw [Attempt.after_of_error hrun]
    refine ⟨_, rfl, fun x hx => ?_⟩
    rw [List.mem_singleton.mp hx]
    rfl
  · rw [Attempt.after_of_ok hrun]
    refine ⟨_, rfl, fun x hx => ?_⟩
    rw [List.mem_singleton.mp hx]
    rfl

/-- **Calls that neither start nor stop** tell about documents at most. -/
theorem onDocuments_perform (s : Session σ) {call : Call} (hstart : ∀ given, call ≠ .start given)
    (hstop : call ≠ .stop) : (s.perform call).Keeps OnDocuments := by
  cases call
  case start given => exact absurd rfl (hstart given)
  case stop => exact absurd rfl hstop
  case openDocument path =>
    exact (s.onDocuments_openDocument path).bind_pure fun _ => Answer.done
  case closeDocument path =>
    exact (s.onDocuments_closeDocument path).bind_pure fun _ => Answer.done
  case openInWorkspace path =>
    exact (onDocuments_of_quiet (s.quiet_openInWorkspace path)).bind_pure _
  case closeInWorkspace path =>
    exact (onDocuments_of_quiet (s.quiet_closeInWorkspace path)).bind_pure fun _ => Answer.done
  all_goals exact onDocuments_of_quiet (quiet_of_unmoved (s.unmoved_perform rfl))

/-! ## What each call sends -/

/-- **A start** sends messages from the beginning of a plan. -/
theorem sending_start (s : Session σ) (given : List String) (st : State σ) :
    ∃ argv, CutShort (s.startPlan argv st)
      (sending (Attempt.event s.perform st (.start given))) := by
  obtain ⟨calls, hsent, hcases⟩ := s.sent_start given st
  rw [← after_perform_start] at hsent
  rw [sending_eq hsent]
  rcases hcases with ⟨e, -, -, rfl⟩ | ⟨argv, -, hcut, -⟩
  · exact ⟨[], cutShort_nil _⟩
  · exact ⟨argv, hcut⟩

/-- **A stop** asks the server if the session is started, and may halt the transport then. -/
theorem sending_stop (s : Session σ) (st : State σ) :
    ∃ parting more, Parting st.started parting ∧ (∀ x ∈ more, x.topic = .halt) ∧
      sending (Attempt.event s.perform st .stop) = parting ++ more := by
  obtain ⟨parting, scene, hparting, ⟨-, hafter⟩ | ⟨-, more, hmore, hafter⟩⟩ :=
    s.perform_stop_cases st
  · refine ⟨parting, [{ message := .halt, delivered := true }], hparting, fun x hx => ?_,
      sending_eq (congrArg State.sent hafter)⟩
    rw [List.mem_singleton.mp hx]
    rfl
  · refine ⟨parting, more, hparting, fun x hx => ?_, sending_eq (congrArg State.sent hafter)⟩
    rw [hmore x hx]
    rfl

/-- **A call** is a start, a stop, or about documents. -/
theorem sending_cases (s : Session σ) (st : State σ) (call : Call) :
    let sent := sending (Attempt.event s.perform st call)
    (∃ given argv, call = .start given ∧ CutShort (s.startPlan argv st) sent) ∨
      (∃ parting more, call = .stop ∧ Parting st.started parting ∧
        (∀ x ∈ more, x.topic = .halt) ∧ sent = parting ++ more) ∨
      (call ≠ .stop ∧ ∀ x ∈ sent, isOnDocument x = true) := by
  intro sent
  by_cases hstart : ∃ given, call = .start given
  · obtain ⟨given, rfl⟩ := hstart
    obtain ⟨argv, hcut⟩ := s.sending_start given st
    exact .inl ⟨given, argv, rfl, hcut⟩
  by_cases hstop : call = .stop
  · subst hstop
    obtain ⟨parting, more, hsent⟩ := s.sending_stop st
    exact .inr (.inl ⟨parting, more, rfl, hsent⟩)
  · obtain ⟨more, hsent, hmore⟩ :=
      (s.onDocuments_perform (fun given hcall => hstart ⟨given, hcall⟩) hstop st).sent
    refine .inr (.inr ⟨hstop, ?_⟩)
    rw [show sent = more from sending_eq hsent]
    exact hmore

/-! ## Neighbours -/

/-- **The second message of a plan** is sent right after the first one, which got through. -/
theorem CutShort.neighbour {a b : Topic} {rest : List Topic} {before after : List Sending}
    {x : Sending} (h : CutShort (a :: b :: rest) (before ++ x :: after)) (hx : x.topic = b)
    (hab : a ≠ b) (hrest : b ∉ rest) :
    ∃ y, before = [y] ∧ y.topic = a ∧ y.delivered = true := by
  obtain ⟨htopics, hdelivered⟩ := h
  rcases before with _ | ⟨y, _ | ⟨z, more⟩⟩
  · -- the message would be the first one
    have hfirst : x.topic = a := (List.cons_prefix_cons.mp htopics).1
    exact absurd (hfirst.symm.trans hx) hab
  · refine ⟨y, rfl, (List.cons_prefix_cons.mp htopics).1, hdelivered y ?_⟩
    simp
  · -- the message would be a later one
    have hlater := (List.cons_prefix_cons.mp (List.cons_prefix_cons.mp htopics).2).2
    have hmem : x.topic ∈ rest := hlater.subset (by simp)
    exact absurd (hx ▸ hmem) hrest

/-- **The server is told to exit** right after it answered that it shuts down. -/
theorem Parting.neighbour {isStarted : Bool} {parting more before after : List Sending}
    {x : Sending} (h : Parting isStarted parting) (hmore : ∀ y ∈ more, y.topic = .halt)
    (hsplit : parting ++ more = before ++ x :: after) (hx : x.topic = .exit) :
    before = [{ message := .shutdown, delivered := true }] := by
  have hnot : x ∉ more := by
    intro hmem
    rw [hmore x hmem] at hx
    cases hx
  cases h with
  | silent =>
    rw [List.nil_append] at hsplit
    exact absurd (hsplit ▸ by simp) hnot
  | unanswered =>
    rcases before with _ | ⟨y, more'⟩
    · obtain ⟨rfl, -⟩ := List.cons.inj hsplit
      cases hx
    · obtain ⟨-, rfl⟩ := List.cons.inj hsplit
      exact absurd (by simp) hnot
  | answered delivered =>
    rcases before with _ | ⟨y, _ | ⟨z, more'⟩⟩
    · obtain ⟨rfl, -⟩ := List.cons.inj hsplit
      cases hx
    · obtain ⟨rfl, -⟩ := List.cons.inj hsplit
      rfl
    · obtain ⟨-, hsplit⟩ := List.cons.inj hsplit
      obtain ⟨-, rfl⟩ := List.cons.inj hsplit
      exact absurd (by simp) hnot

/-- **The server is asked to shut down** exactly if the session is started. -/
theorem Parting.asks_iff {isStarted : Bool} {parting : List Sending} (h : Parting isStarted parting) :
    (∃ x ∈ parting, x.topic = .shutdown) ↔ isStarted = true := by
  cases h with
  | silent => simp
  | unanswered => simp [Sending.topic, Message.topic]
  | answered delivered => simp [Sending.topic, Message.topic]

theorem Parting.topic_of_mem {isStarted : Bool} {parting : List Sending}
    (h : Parting isStarted parting) {x : Sending} (hx : x ∈ parting) :
    x.topic = .shutdown ∨ x.topic = .exit := by
  cases h with
  | silent => cases hx
  | unanswered =>
    rw [List.mem_singleton.mp hx]
    exact .inl rfl
  | answered delivered =>
    rcases List.mem_pair.mp hx with rfl | rfl
    · exact .inl rfl
    · exact .inr rfl

/-! ## The grammar of a call -/

/-- What a start sends is neither shutdown nor exit. -/
theorem not_mem_startPlan (s : Session σ) (argv : List String) (st : State σ) {topic : Topic}
    (h : topic = .shutdown ∨ topic = .exit) : topic ∉ s.startPlan argv st := by
  rcases h with rfl | rfl <;> simp [startPlan]

/-- **Shutdown** is sent by a stop of a session that is started. -/
theorem shutdown_perform (s : Session σ) (st : State σ) (call : Call) :
    (∃ x ∈ sending (Attempt.event s.perform st call), x.topic = .shutdown) ↔
      call = .stop ∧ st.started = true := by
  constructor
  · rintro ⟨x, hx, htopic⟩
    rcases s.sending_cases st call with ⟨given, argv, -, hcut⟩ |
      ⟨parting, more, hcall, hparting, hmore, hsent⟩ | ⟨-, hdocuments⟩
    · exact absurd (htopic ▸ hcut.mem hx) (s.not_mem_startPlan argv st (.inl rfl))
    · refine ⟨hcall, hparting.asks_iff.mp ⟨x, ?_, htopic⟩⟩
      rw [hsent] at hx
      refine (List.mem_append.mp hx).resolve_right fun hhalt => ?_
      rw [hmore x hhalt] at htopic
      cases htopic
    · have hdocument := hdocuments x hx
      rw [isOnDocument, htopic] at hdocument
      cases hdocument
  · rintro ⟨rfl, hstarted⟩
    obtain ⟨parting, more, hparting, -, hsent⟩ := s.sending_stop st
    obtain ⟨x, hx, htopic⟩ := hparting.asks_iff.mpr hstarted
    rw [hsent]
    exact ⟨x, List.mem_append_left _ hx, htopic⟩

/-- **Exit** is sent by a stop, right after a shutdown that was answered. -/
theorem exit_perform (s : Session σ) (st : State σ) (call : Call) {before after : List Sending}
    {x : Sending} (hsplit : sending (Attempt.event s.perform st call) = before ++ x :: after)
    (hx : x.topic = .exit) :
    call = .stop ∧ before.getLast? = some { message := .shutdown, delivered := true } := by
  have hmem : x ∈ sending (Attempt.event s.perform st call) := by
    rw [hsplit]
    simp
  rcases s.sending_cases st call with ⟨given, argv, -, hcut⟩ |
    ⟨parting, more, hcall, hparting, hmore, hsent⟩ | ⟨-, hdocuments⟩
  · exact absurd (hx ▸ hcut.mem hmem) (s.not_mem_startPlan argv st (.inr rfl))
  · rw [hparting.neighbour hmore (hsent.symm.trans hsplit) hx]
    exact ⟨hcall, rfl⟩
  · have hdocument := hdocuments x hmem
    rw [isOnDocument, hx] at hdocument
    cases hdocument

/-- **The handshake** begins in a start, right after its program was spawned. -/
theorem handshake_perform (s : Session σ) (st : State σ) (call : Call)
    {before after : List Sending} {x : Sending}
    (hsplit : sending (Attempt.event s.perform st call) = before ++ x :: after)
    (hx : x.topic = .handshake) :
    (∃ given, call = .start given) ∧ ∃ argv directory,
      before.getLast? = some { message := .spawn argv directory, delivered := true } := by
  have hmem : x ∈ sending (Attempt.event s.perform st call) := by
    rw [hsplit]
    simp
  rcases s.sending_cases st call with ⟨given, argv, hcall, hcut⟩ |
    ⟨parting, more, -, hparting, hmore, hsent⟩ | ⟨-, hdocuments⟩
  · rw [hsplit] at hcut
    obtain ⟨⟨message, delivered⟩, rfl, hspawn, hdelivered⟩ := hcut.neighbour hx nofun (by simp)
    obtain rfl : delivered = true := hdelivered
    refine ⟨⟨given, hcall⟩, argv, s.root.text, ?_⟩
    cases message <;> cases hspawn
    rfl
  · rw [hsent] at hmem
    rcases List.mem_append.mp hmem with hparted | hhalt
    · rcases hparting.topic_of_mem hparted with htopic | htopic
      all_goals
        rw [hx] at htopic
        cases htopic
    · have htopic := hmore x hhalt
      rw [hx] at htopic
      cases htopic
  · have hdocument := hdocuments x hmem
    rw [isOnDocument, hx] at hdocument
    cases hdocument

/-! ## Whole runs -/

/-- **Any call but a stop that returns** leaves the session started if it was before, or if the call
was a start whose settings got through. -/
theorem started_perform (s : Session σ) (st : State σ) (call : Call)
    (h : hasStopped (Attempt.event s.perform st call) = false) :
    ((s.perform call).after st).started = true ↔
      st.started = true ∨ Begins (Attempt.event s.perform st call) := by
  by_cases hstart : ∃ given, call = .start given
  · obtain ⟨given, rfl⟩ := hstart
    obtain ⟨more, hsent, hstarted⟩ := s.accounts_start given st
    rw [← after_perform_start] at hsent hstarted
    rw [Begins, sending_eq hsent, hstarted]
    exact or_congr_right ⟨fun hpushed => ⟨⟨given, rfl⟩, hpushed⟩, And.right⟩
  have hkept : ((s.perform call).after st).started = st.started := by
    by_cases hstop : call = .stop
    · subst hstop
      obtain ⟨parting, scene, -, ⟨hstopped, -⟩ | ⟨-, more, -, hafter⟩⟩ := s.perform_stop_cases st
      · rw [h] at hstopped
        cases hstopped
      · rw [hafter]
        rfl
    · exact (s.onDocuments_perform (fun given hcall => hstart ⟨given, hcall⟩) hstop st).started
  rw [hkept, or_iff_left fun hbegins : Begins _ => hstart hbegins.1]

/-- **A session counts as started** exactly if a start got its settings through since the last stop
that returned. -/
theorem started_run (s : Session σ) {start : State σ} (hstart : start.started = false)
    (calls : List Call) :
    (Attempt.afterAll s.perform start calls).started = true ↔
      ∃ e ∈ sinceStop (Attempt.history s.perform start calls), Begins e := by
  induction calls using List.reverseRecOn with
  | nil =>
    rw [Attempt.afterAll_nil, hstart]
    simp [Attempt.history, sinceStop]
  | append_singleton calls call ih =>
    rw [Attempt.history_concat, Attempt.afterAll_concat, sinceStop_concat]
    split
    · -- the session has ended, and nothing has happened since
      next hstopped =>
      obtain ⟨scene, more, hended⟩ := s.ended_of_hasStopped _ call hstopped
      rw [hended]
      simp [State.ended]
    · next hstopped =>
      rw [s.started_perform _ call (Bool.eq_false_iff.mpr hstopped), ih]
      simp only [List.mem_append, List.mem_singleton, or_and_right, exists_or, exists_eq_left]

/-- **A session's life.** In a run of a new session, whatever is lost on the way, a call sends
shutdown exactly if it is a stop and a start got its settings through since the last stop that
returned; exit is sent by a stop, right after a shutdown that was answered; the handshake begins in a
start, right after its program was spawned; and a stop right after a stop that returned asks the
server nothing. -/
theorem lifecycle_of_run (s : Session σ) (scene : Scene σ) (workspace : Workspace)
    (calls : List Call) (call : Call) :
    let start : State σ := { scene, workspace }
    let events := Attempt.history s.perform start calls
    let sent := sending (Attempt.event s.perform (Attempt.afterAll s.perform start calls) call)
    ((∃ x ∈ sent, x.topic = .shutdown) ↔ call = .stop ∧ ∃ e ∈ sinceStop events, Begins e) ∧
      (∀ before x after, sent = before ++ x :: after → x.topic = .exit →
        call = .stop ∧ before.getLast? = some { message := .shutdown, delivered := true }) ∧
      (∀ before x after, sent = before ++ x :: after → x.topic = .handshake →
        (∃ given, call = .start given) ∧ ∃ argv directory,
          before.getLast? = some { message := .spawn argv directory, delivered := true }) ∧
      (call = .stop → (∃ e, events.getLast? = some e ∧ hasStopped e = true) →
        ∀ x ∈ sent, x.topic ≠ .shutdown ∧ x.topic ≠ .exit) := by
  intro start events sent
  have hstarted := s.started_run (show start.started = false from rfl) calls
  have hshutdown : (∃ x ∈ sent, x.topic = .shutdown) ↔
      call = .stop ∧ ∃ e ∈ sinceStop events, Begins e :=
    (s.shutdown_perform _ call).trans (and_congr_right fun _ => hstarted)
  refine ⟨hshutdown, fun before x after => s.exit_perform _ call,
    fun before x after => s.handshake_perform _ call, fun hcall ⟨e, hlast, hstopped⟩ => ?_⟩
  -- nothing began since the stop right before, so the server is not asked to shut down
  have hnone : sinceStop events = [] := by
    obtain ⟨init, hinit⟩ := List.getLast?_eq_some_iff.mp hlast
    rw [hinit, sinceStop_concat, if_pos hstopped]
  have hsilent : ∀ x ∈ sent, x.topic ≠ .shutdown := by
    intro x hx htopic
    obtain ⟨-, e, he, -⟩ := hshutdown.mp ⟨x, hx, htopic⟩
    rw [hnone] at he
    cases he
  refine fun x hx => ⟨hsilent x hx, fun htopic => ?_⟩
  obtain ⟨before, after, hsplit⟩ := List.append_of_mem hx
  obtain ⟨-, hbefore⟩ := s.exit_perform _ call hsplit htopic
  refine hsilent { message := .shutdown, delivered := true } ?_ rfl
  rw [hsplit]
  exact List.mem_append_left _ (List.mem_of_getLast? hbefore)

end LspHost.Session
