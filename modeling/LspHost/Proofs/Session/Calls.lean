import LspHost.Proofs.History
import LspHost.Session

/-!
# Calls of a session

What is asked of a session, by its owner and by the server, as data, so that a run is a list of
calls; and for each operation on documents what it comes to.

What is computed on the scene, the resolver or the relay leaves documents, workspace and handshake
unmoved and sends nothing (`Session.Unmoved`); opening and closing documents of the workspace is
quiet, but for the workspace (`Session.Quiet`). Everything else a session does goes through
`Session.send`, which records the message and whether it got through.
-/

namespace LspHost.Session

variable {σ α : Type}

/-- What is asked of a session. -/
inductive Call where
  /-- starts the server, with a command if one is given -/
  | start (given : List String)
  /-- stops it -/
  | stop
  /-- tells it that a document is open -/
  | openDocument (path : Path)
  /-- tells it that a document is closed -/
  | closeDocument (path : Path)
  /-- opens a document in the workspace -/
  | openInWorkspace (path : Path)
  /-- closes a document in the workspace -/
  | closeInWorkspace (path : Path)
  /-- asks for the settings -/
  | settings
  /-- the server asks for sections of the settings -/
  | configuration (sections : List (Option String))
  /-- the server sends a notification of its own -/
  | notification (method : String) (payload : Value)
  /-- the server tells of the progress of work -/
  | progress (token : Value) (value : WorkDone)
  /-- the server makes a progress token -/
  | progressToken (token : Value)
  /-- the server logs a message -/
  | logMessage (type : Int) (message : String)
  /-- the server sends the diagnostics of a document -/
  | diagnostics (uri : String) (diagnostics : List Diagnostic)
  /-- the server's program exits -/
  | exit (status : Option Int)

/-- What a call answers. -/
inductive Answer where
  /-- nothing -/
  | done
  /-- what the server says about itself -/
  | started (info : Option ServerInfo)
  /-- the number of a document -/
  | document (number : Nat)
  /-- the interpreter and the settings -/
  | settings (python : String) (snapshot : Snapshot)
  /-- the values of sections -/
  | sections (values : List Value)

/-- Makes a call. -/
def perform (s : Session σ) : Call → Run σ Answer
  | .start given => do return .started (← s.start given)
  | .stop => do s.stop; return .done
  | .openDocument path => do s.openDocument path; return .done
  | .closeDocument path => do s.closeDocument path; return .done
  | .openInWorkspace path => do return .document (← s.openInWorkspace path)
  | .closeInWorkspace path => do s.closeInWorkspace path; return .done
  | .settings => do
    let (python, snapshot) ← s.settings
    return .settings python snapshot
  | .configuration sections => do return .sections (← s.answerConfiguration sections)
  | .notification method payload => do s.onNotification method payload; return .done
  | .progress token value => do s.onProgress token value; return .done
  | .progressToken token => do onProgressToken token; return .done
  | .logMessage type message => do onLogMessage type message; return .done
  | .diagnostics uri diagnostics => do onDiagnostics uri diagnostics; return .done
  | .exit status => do onExit status; return .done

theorem after_perform_start (s : Session σ) (given : List String) (st : State σ) :
    (s.perform (.start given)).after st = (s.start given).after st :=
  Attempt.after_bind_pure _ _ st

theorem after_perform_openInWorkspace (s : Session σ) (path : Path) (st : State σ) :
    (s.perform (.openInWorkspace path)).after st = (s.openInWorkspace path).after st :=
  Attempt.after_bind_pure _ _ st

theorem after_perform_closeInWorkspace (s : Session σ) (path : Path) (st : State σ) :
    (s.perform (.closeInWorkspace path)).after st = (s.closeInWorkspace path).after st :=
  Attempt.after_bind_pure (s.closeInWorkspace path) (fun _ => Answer.done) st

/-- A call of a run of a session. -/
abbrev Step (σ : Type) := Event Call (State σ) Answer

/-! ## Quiet computations -/

/-- Nothing was sent, and the documents and the handshake are as they were. -/
structure Quiet (s t : State σ) : Prop where
  /-- nothing was sent -/
  sent : t.sent = s.sent
  /-- the same documents are open -/
  opened : t.opened = s.opened
  /-- the handshake is as it was -/
  started : t.started = s.started

theorem Quiet.refl (s : State σ) : Quiet s s := ⟨rfl, rfl, rfl⟩

theorem Quiet.trans (s t u : State σ) (hst : Quiet s t) (htu : Quiet t u) : Quiet s u :=
  ⟨htu.sent.trans hst.sent, htu.opened.trans hst.opened, htu.started.trans hst.started⟩

/-- Nothing was sent, and the documents, those of the workspace too, and the handshake are as they
were. -/
structure Unmoved (s t : State σ) : Prop extends Quiet s t where
  /-- the workspace is as it was -/
  workspace : t.workspace = s.workspace

theorem Unmoved.refl (s : State σ) : Unmoved s s := ⟨.refl s, rfl⟩

theorem Unmoved.trans (s t u : State σ) (hst : Unmoved s t) (htu : Unmoved t u) : Unmoved s u :=
  ⟨.trans s t u hst.toQuiet htu.toQuiet, htu.workspace.trans hst.workspace⟩

theorem unmoved_lift (act : Act σ α) : (lift act).Keeps Unmoved :=
  Attempt.Keeps.lift (l := State.sceneLens) (fun _ _ => ⟨⟨rfl, rfl, rfl⟩, rfl⟩) act

theorem unmoved_note (level : Level) (message : String) :
    (note level message : Run σ Unit).Keeps Unmoved :=
  unmoved_lift _

theorem unmoved_resolving (run : Resolver.Run σ α) : (resolving run).Keeps Unmoved :=
  Attempt.Keeps.lift (l := State.memoryLens) (fun _ _ => ⟨⟨rfl, rfl, rfl⟩, rfl⟩) run

theorem unmoved_relaying (run : Relay.Run σ α) : (relaying run).Keeps Unmoved :=
  Attempt.Keeps.lift (l := State.relayLens) (fun _ _ => ⟨⟨rfl, rfl, rfl⟩, rfl⟩) run

theorem unmoved_settings (s : Session σ) : s.settings.Keeps Unmoved :=
  .bind Unmoved.trans (.get Unmoved.refl) fun _ => unmoved_resolving _

theorem unmoved_answerConfiguration (s : Session σ) (sections : List (Option String)) :
    (s.answerConfiguration sections).Keeps Unmoved :=
  .bind Unmoved.trans s.unmoved_settings fun _ =>
    .bind Unmoved.trans (.ofExcept Unmoved.refl _) fun _ => .pure Unmoved.refl _

theorem unmoved_onNotification (s : Session σ) (method : String) (payload : Value) :
    (s.onNotification method payload).Keeps Unmoved := by
  unfold onNotification
  split
  · exact .bind Unmoved.trans (.get Unmoved.refl) fun _ => unmoved_relaying _
  · exact .pure Unmoved.refl _

theorem unmoved_onProgress (s : Session σ) (token : Value) (value : WorkDone) :
    (s.onProgress token value).Keeps Unmoved := by
  unfold onProgress
  split
  · exact .bind Unmoved.trans (.get Unmoved.refl) fun _ => unmoved_relaying _
  · exact unmoved_note _ _

theorem unmoved_onDiagnostics (uri : String) (diagnostics : List Diagnostic) :
    (onDiagnostics uri diagnostics : Run σ Unit).Keeps Unmoved :=
  .bind Unmoved.trans (.of_modify fun _ => ⟨⟨rfl, rfl, rfl⟩, rfl⟩) fun _ => unmoved_note _ _

theorem unmoved_onExit (status : Option Int) : (onExit status : Run σ Unit).Keeps Unmoved :=
  .bind Unmoved.trans (unmoved_note _ _) fun _ => .of_modify fun _ => ⟨⟨rfl, rfl, rfl⟩, rfl⟩

/-- A computation that leaves everything unmoved is quiet. -/
theorem quiet_of_unmoved {act : Run σ α} (h : act.Keeps Unmoved) : act.Keeps Quiet :=
  h.mono fun _ _ => Unmoved.toQuiet

theorem quiet_openInWorkspace (s : Session σ) (path : Path) :
    (s.openInWorkspace path).Keeps Quiet :=
  .bind Quiet.trans (.get Quiet.refl) fun _ =>
    .bind Quiet.trans (quiet_of_unmoved (unmoved_lift _)) fun _ => fun _ => ⟨rfl, rfl, rfl⟩

theorem quiet_closeInWorkspace (s : Session σ) (path : Path) :
    (s.closeInWorkspace path).Keeps Quiet :=
  .bind Quiet.trans (.get Quiet.refl) fun _ =>
    .bind Quiet.trans (quiet_of_unmoved (unmoved_lift _)) fun _ => fun _ => ⟨rfl, rfl, rfl⟩

/-- Whether a call is made aside: the server tells or asks something, or the settings are asked
for. -/
def Call.isAside : Call → Bool
  | .start _ | .stop | .openDocument _ | .closeDocument _ => false
  | .openInWorkspace _ | .closeInWorkspace _ => false
  | _ => true

/-- **A call made aside** leaves everything unmoved. -/
theorem unmoved_perform (s : Session σ) {call : Call} (h : call.isAside = true) :
    (s.perform call).Keeps Unmoved := by
  cases call with
  | settings => exact s.unmoved_settings.bind_pure fun answer => Answer.settings answer.1 answer.2
  | configuration sections => exact (s.unmoved_answerConfiguration sections).bind_pure _
  | notification method payload =>
    exact (s.unmoved_onNotification method payload).bind_pure fun _ => Answer.done
  | progress token value => exact (s.unmoved_onProgress token value).bind_pure fun _ => Answer.done
  | progressToken token => exact (unmoved_note _ _).bind_pure fun _ => Answer.done
  | logMessage type message => exact (unmoved_note _ _).bind_pure fun _ => Answer.done
  | diagnostics uri diagnostics =>
    exact (unmoved_onDiagnostics uri diagnostics).bind_pure fun _ => Answer.done
  | exit status => exact (unmoved_onExit status).bind_pure fun _ => Answer.done
  | start given => cases h
  | stop => cases h
  | openDocument path => cases h
  | closeDocument path => cases h
  | openInWorkspace path => cases h
  | closeInWorkspace path => cases h

/-! ## Sending -/

/-- The state after a message went through or did not. -/
def State.afterSending (st : State σ) (scene : Scene σ) (message : Message) (delivered : Bool) :
    State σ :=
  { st with scene, sent := st.sent ++ [{ message, delivered }] }

theorem lift_of_ok {act : Act σ α} {st : State σ} {scene : Scene σ} {a : α}
    (h : act st.scene = .ok a scene) : lift act st = .ok a { st with scene } :=
  Lens.lift_of_ok (l := State.sceneLens) h

theorem lift_of_error {act : Act σ α} {st : State σ} {scene : Scene σ} {e : Fault}
    (h : act st.scene = .error e scene) : lift act st = .error e { st with scene } :=
  Lens.lift_of_error (l := State.sceneLens) h

/-- **A message that gets through** is recorded as such. -/
theorem send_of_ok (s : Session σ) {message : Message} {st : State σ} {scene : Scene σ}
    {info : Option ServerInfo} (h : s.link message st.scene = .ok info scene) :
    s.send message st = .ok info (st.afterSending scene message true) := by
  unfold send
  rw [lift_of_ok h]
  rfl

/-- **A message that does not get through** is recorded too. -/
theorem send_of_error (s : Session σ) {message : Message} {st : State σ} {scene : Scene σ}
    {e : Fault} (h : s.link message st.scene = .error e scene) :
    s.send message st = .error e (st.afterSending scene message false) := by
  unfold send
  rw [lift_of_error h]
  rfl

/-- **Sending** records the message. -/
theorem after_send (s : Session σ) (message : Message) (st : State σ) :
    ∃ scene delivered, (s.send message).after st = st.afterSending scene message delivered := by
  rcases h : s.link message st.scene with ⟨info, scene⟩ | ⟨e, scene⟩
  · exact ⟨scene, true, Attempt.after_of_ok (s.send_of_ok h)⟩
  · exact ⟨scene, false, Attempt.after_of_error (s.send_of_error h)⟩

/-- **Spawning the program** leaves what telling the transport to do so leaves. -/
theorem after_spawn (s : Session σ) (argv : List String) (st : State σ) :
    (s.spawn argv).after st = (s.send (.spawn argv s.root.text)).after st := by
  unfold Attempt.after spawn
  rcases s.send (.spawn argv s.root.text) st with ⟨info, t⟩ | ⟨e, t⟩
  · rfl
  · rfl

/-- **Reading the text of a document** leaves what reading its file leaves. -/
theorem after_documentText (s : Session σ) (path : Path) (scene : Scene σ) :
    (s.documentText path).after scene = (s.host.read path).after scene := by
  unfold Attempt.after documentText
  rcases s.host.read path scene with ⟨bytes, t⟩ | ⟨e, t⟩
  · dsimp only
    cases Text.ofBytes? bytes <;> rfl
  · cases e <;> rfl

/-- A link that loses some messages. -/
def losing (lost : Message → Option Fault) : Link σ := fun message =>
  match lost message with
  | some e => throw e
  | none => pure none

/-- A session in `/w` with a host and a link. -/
def facing (host : Host σ) (link : Link σ) : Session σ where
  config := { root := .ofText "/w" }
  host
  link
  root := .ofText "/w"
  indicator := none

/-! ## Stopping -/

/-- Halts the transport and ends the session. -/
def halt (s : Session σ) : Run σ Unit := do
  let _ ← s.send .halt
  modify fun st => { st with started := false, opened := [], cache := none }

/-- **Stopping** asks the server first if the handshake is done, and then halts the transport. -/
theorem stop_eq (s : Session σ) (st : State σ) :
    s.stop st = if st.started then (s.shutDown >>= fun _ => s.halt) st else s.halt st := by
  unfold stop halt
  rw [Attempt.get_bind]
  split <;> rfl

end LspHost.Session
