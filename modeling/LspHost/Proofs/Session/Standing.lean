import LspHost.Proofs.Resolver.Transparency
import LspHost.Proofs.Session.Configuration
import LspHost.Proofs.Session.Mirroring
import LspHost.Proofs.Session.Start

/-!
# Sessions in a world that stands still

In a world that stands still, what a resolver remembers agrees with what it would be told, or is all
that it will ever say: a remembered answer is never asked for again (`Resolver.Memory.Agrees`). No
call of a session but a stop changes that (`Session.holds_perform`), so a session takes the same
settings again and again (`Session.isSettled_settings`).
-/

namespace LspHost

variable {σ α : Type} {W : σ → Prop}

/-! ## Variables of the environment -/

/-- A host without variables. -/
def Host.withoutVariables (host : Host σ) : Host σ := { host with environment := fun _ => pure none }

/-- A host that stands still does so without its variables. -/
theorem Host.IsStill.withoutVariables {host : Host σ} (h : host.IsStill W) :
    host.withoutVariables.IsStill W :=
  { h with environment := fun _ => .of_pure _ }

theorem Search.firstDirectory_withoutVariables (host : Host σ) (paths : List Path) :
    firstDirectory host.withoutVariables paths = firstDirectory host paths := by
  induction paths with
  | nil => rfl
  | cons path rest ih =>
    simp only [firstDirectory, ih]
    rfl

theorem Search.upwardAmong_withoutVariables (host : Host σ) (start : Path) (names : List Value) :
    upwardAmong host.withoutVariables start names = upwardAmong host start names := by
  induction names with
  | nil => rfl
  | cons name rest ih => simp only [upwardAmong, upward, ih, firstDirectory_withoutVariables]

/-- **A search** reads no variables. -/
theorem Search.venv_withoutVariables (host : Host σ) (overrides : Overrides) (root : Path)
    (file : Option Path) :
    venv host.withoutVariables overrides root file = venv host overrides root file := by
  unfold venv
  simp only [upwardAmong_withoutVariables]
  rfl

namespace Resolver

/-- A resolver without variables. -/
def withoutVariables (r : Resolver σ) : Resolver σ := { r with host := r.host.withoutVariables }

theorem python_withoutVariables (r : Resolver σ) : r.withoutVariables.python = r.python := rfl

theorem venv_withoutVariables (r : Resolver σ) (file : Option Path) :
    r.withoutVariables.venv file = r.venv file := by
  unfold venv
  simp only [withoutVariables, Search.venv_withoutVariables]
  rfl

/-! ## Memories that agree with the world -/

/-- A memory from which the tool of the project answers the same, now and later: that is what it
remembers, or the tool goes on answering so. -/
structure Memory.Agrees (r : Resolver σ) (W : σ → Prop) (tool : Except Fault (Option Environment))
    (m : Memory σ) : Prop extends m.IsTrue W tool where
  /-- with nothing remembered the tool answers so -/
  asked : m.cache = none → r.query.Yields (Scene.In W) tool

variable {r : Resolver σ} {tool : Except Fault (Option Environment)}

theorem Memory.isWorldly_agrees : IsWorldly W (Memory.Agrees r W tool) :=
  ⟨fun _ hm => hm.world, fun _ _ hm hscene => ⟨⟨hscene, hm.cache⟩, hm.asked⟩⟩

/-- **Whatever is remembered**, the memory agrees with the world about one answer. -/
theorem Memory.exists_agrees (h : r.withoutVariables.host.IsStill W) {m : Memory σ}
    (hm : Scene.In W m.scene) : ∃ tool, m.Agrees r W tool := by
  rcases hcache : m.cache with _ | e
  · obtain ⟨tool, htool⟩ := isSettled_query h
    refine ⟨tool, ⟨hm, fun e he => ?_⟩, fun _ => htool⟩
    rw [hcache] at he
    cases he
  · refine ⟨.ok (some e), ⟨hm, fun e' he => ?_⟩, fun hnone => ?_⟩
    · rw [hcache] at he
      cases he
      rfl
    · rw [hcache] at hnone
      cases hnone

/-- **Asking the tool** answers what the memory agrees about, and it goes on agreeing. -/
theorem yields_viaTool_of_agrees : r.viaTool.Yields (Memory.Agrees r W tool) tool := by
  intro m hm
  obtain ⟨hanswer, htrue⟩ := viaTool_of_isTrue hm.toIsTrue hm.asked
  refine ⟨hanswer, htrue, fun hnone => ?_⟩
  rcases r.cache_after_viaTool m with hsame | ⟨hcache, -⟩
  · exact hm.asked (hsame.symm.trans hnone)
  · exact hm.asked hcache

/-- **The settings of a moment** are settled where the memory agrees with the world. -/
theorem isSettled_take (h : r.withoutVariables.host.IsStill W) (c : Config) (file : Option Path) :
    (Snapshot.take c r file).IsSettled (Memory.Agrees r W tool) := by
  have htool : r.viaTool.IsSettled (Memory.Agrees r W tool) := yields_viaTool_of_agrees.isSettled
  rw [Snapshot.take_eq, ← r.python_withoutVariables, ← r.venv_withoutVariables]
  refine .bind (isSettled_python h Memory.isWorldly_agrees htool) fun python => ?_
  exact .bind (isSettled_venv h Memory.isWorldly_agrees htool file) fun venv => .of_pure _

end Resolver

/-! ## Acts that do not leave the worlds -/

theorem Attempt.IsSettled.keeps {state : Type} {I : state → Prop} {act : Attempt state α}
    (h : act.IsSettled I) : act.Keeps fun s t => I s → I t := by
  obtain ⟨x, hx⟩ := h
  exact fun s hs => (hx s hs).2

theorem Interpreter.isSettled_inspect {host : Host σ} (h : host.IsStill W) (python : String)
    (directory : Option String) : (inspect host.run python directory).IsSettled (Scene.In W) :=
  Attempt.isSettled_iff_mirrors.mpr (Interpreter.mirrors_inspect h.mirrors python directory)

/-- **Relaying an event** keeps what noting a record and telling the indicator keep. -/
theorem Relay.keeps_handle {r : Setup σ} {R : State σ → State σ → Prop} (hrefl : ∀ s, R s s)
    (htrans : ∀ s t u, R s t → R t u → R s u)
    (hnote : ∀ message, (lift (Act.note .progress .info message)).Keeps R)
    (hshow : ∀ show_ ∈ r.indicator, ∀ toggle name, (show_ toggle name).Keeps R) (w : Workspace)
    (event : Progress) : (handle r w event).Keeps R := by
  have hall : ∀ toggle, (showAll r toggle w).Keeps R := by
    intro toggle
    unfold showAll
    split
    · next show_ _ hshow_ =>
      exact .forM hrefl htrans (fun d : Document => hshow show_ hshow_ toggle d.name) _
    · exact .pure hrefl ()
  cases event with
  | begin => exact .bind htrans (hnote _) fun _ => hall .start
  | report message =>
    cases message with
    | none => exact .pure hrefl ()
    | some text =>
      simp only [handle]
      split
      · exact .pure hrefl ()
      · exact hnote text
  | done => exact .bind htrans (hnote _) fun _ => hall .stop

namespace Session

/-- A session that does not leave some worlds, in which its host stands still. Variables of the
environment may change, as a session reads none. -/
structure StandsStill (s : Session σ) (W : σ → Prop) : Prop where
  /-- the host stands still -/
  host : s.host.withoutVariables.IsStill W
  /-- messages to the server do not leave the worlds -/
  link : ∀ message, (s.link message).Keeps fun a b => Scene.In W a → Scene.In W b
  /-- the indicator does not leave them -/
  indicator : ∀ show_ ∈ s.indicator, ∀ toggle name,
    (show_ toggle name).Keeps fun a b => Scene.In W a.scene → Scene.In W b.scene

/-- The resolver's memory agrees with the world. -/
def State.Agrees (s : Session σ) (W : σ → Prop) (tool : Except Fault (Option Environment))
    (st : State σ) : Prop :=
  (State.memoryLens.get st).Agrees s.resolver W tool

variable {s : Session σ} {tool : Except Fault (Option Environment)}

/-- **Settings that are taken again** are the same, for the same document opened last. -/
theorem isSettled_settings (h : s.StandsStill W) (file : Option Path) :
    s.settings.IsSettled fun st => st.Agrees s W tool ∧ st.workspace.currentFile = file := by
  have htake : (Snapshot.take s.config s.resolver file).IsSettled
      (Resolver.Memory.Agrees s.resolver W tool) :=
    Resolver.isSettled_take (r := s.resolver) h.host s.config file
  obtain ⟨x, hx⟩ := htake.lift (l := State.memoryLens)
    (J := fun st => st.Agrees s W tool ∧ st.workspace.currentFile = file)
    (fun _ hst => hst.1) fun _ _ hst hm => ⟨hm, hst.2⟩
  refine ⟨x, fun st hst => ?_⟩
  obtain rfl := hst.2
  exact hx st hst

/-! ## Calls -/

/-- If the memory agrees with the world before, it does so after. -/
def Holds (s : Session σ) (W : σ → Prop) (tool : Except Fault (Option Environment))
    (st t : State σ) : Prop :=
  st.Agrees s W tool → t.Agrees s W tool

theorem Holds.refl (st : State σ) : Holds s W tool st st := id

theorem Holds.trans (st t u : State σ) (hst : Holds s W tool st t) (htu : Holds s W tool t u) :
    Holds s W tool st u :=
  htu ∘ hst

theorem holds_lift {act : Act σ α} (h : act.Keeps fun a b => Scene.In W a → Scene.In W b) :
    (lift act).Keeps (Holds s W tool) :=
  .lift_of (l := State.sceneLens)
    (fun _ _ hscene hst => ⟨⟨hscene hst.world, hst.cache⟩, hst.asked⟩) h

theorem holds_relaying {run : Relay.Run σ α}
    (h : run.Keeps fun a b => Scene.In W a.scene → Scene.In W b.scene) :
    (relaying run).Keeps (Holds s W tool) :=
  .lift_of (l := State.relayLens)
    (fun _ _ hscene hst => ⟨⟨hscene hst.world, hst.cache⟩, hst.asked⟩) h

theorem holds_note (level : Level) (message : String) :
    (note level message : Run σ Unit).Keeps (Holds s W tool) :=
  holds_lift (Act.isSettled_note W _ _ _).keeps

theorem holds_modify {f : State σ → State σ}
    (hf : ∀ st, State.memoryLens.get (f st) = State.memoryLens.get st) :
    (modify f : Run σ Unit).Keeps (Holds s W tool) := by
  refine .of_modify fun st hst => ?_
  unfold State.Agrees
  rwa [hf st]

section Calls

variable (h : s.StandsStill W)

include h

theorem holds_send (message : Message) : (s.send message).Keeps (Holds s W tool) := by
  intro st
  have hlift : Holds s W tool st ((lift (s.link message)).after st) := holds_lift (h.link message) st
  rcases hlink : s.link message st.scene with ⟨info, scene⟩ | ⟨e, scene⟩
  · rw [Attempt.after_of_ok (lift_of_ok hlink)] at hlift
    rw [Attempt.after_of_ok (s.send_of_ok hlink)]
    exact hlift
  · rw [Attempt.after_of_error (lift_of_error hlink)] at hlift
    rw [Attempt.after_of_error (s.send_of_error hlink)]
    exact hlift

theorem holds_settings : s.settings.Keeps (Holds s W tool) := by
  intro st hst
  exact ((isSettled_settings h st.workspace.currentFile).keeps st ⟨hst, rfl⟩).1

theorem holds_answerConfiguration (sections : List (Option String)) :
    (s.answerConfiguration sections).Keeps (Holds s W tool) :=
  .bind Holds.trans (holds_settings h) fun _ =>
    .bind Holds.trans (.ofExcept Holds.refl _) fun _ => .pure Holds.refl _

theorem holds_documentText (path : Path) :
    (lift (s.documentText path)).Keeps (Holds s W tool) := by
  refine holds_lift fun scene hscene => ?_
  rw [s.after_documentText]
  exact (h.host.read path).keeps scene hscene

theorem holds_openDocument (path : Path) : (s.openDocument path).Keeps (Holds s W tool) := by
  refine .bind Holds.trans (.get Holds.refl) fun st => ?_
  split
  · exact .pure Holds.refl _
  refine .bind Holds.trans (holds_documentText h _) fun text => ?_
  exact .bind Holds.trans (holds_send h _) fun _ => holds_modify fun _ => rfl

theorem holds_closeDocument (path : Path) : (s.closeDocument path).Keeps (Holds s W tool) := by
  refine .bind Holds.trans (.get Holds.refl) fun st => ?_
  split
  · exact .bind Holds.trans (holds_send h _) fun _ => holds_modify fun _ => rfl
  · exact .pure Holds.refl _

theorem holds_openInWorkspace (path : Path) : (s.openInWorkspace path).Keeps (Holds s W tool) :=
  .bind Holds.trans (.get Holds.refl) fun _ =>
    .bind Holds.trans (holds_lift (h.host.resolve _).keeps) fun _ _ hst => hst

theorem holds_closeInWorkspace (path : Path) : (s.closeInWorkspace path).Keeps (Holds s W tool) :=
  .bind Holds.trans (.get Holds.refl) fun _ =>
    .bind Holds.trans (holds_lift (h.host.resolve _).keeps) fun _ => holds_modify fun _ => rfl

theorem holds_handle (w : Workspace) (event : Progress) :
    (relaying (Relay.handle s.relay w event)).Keeps (Holds s W tool) := by
  refine holds_relaying (Relay.keeps_handle (fun _ hs => hs) (fun _ _ _ hst htu hs => htu (hst hs))
    (fun message => ?_) h.indicator w event)
  exact .lift_of (l := Relay.State.sceneLens) (fun _ _ hscene => hscene)
    (Act.isSettled_note W .progress .info message).keeps

theorem holds_onNotification (method : String) (payload : Value) :
    (s.onNotification method payload).Keeps (Holds s W tool) := by
  unfold onNotification
  split
  · exact .bind Holds.trans (.get Holds.refl) fun _ => holds_handle h _ _
  · exact .pure Holds.refl _

theorem holds_onProgress (token : Value) (value : WorkDone) :
    (s.onProgress token value).Keeps (Holds s W tool) := by
  unfold onProgress
  split
  · exact .bind Holds.trans (.get Holds.refl) fun _ => holds_handle h _ _
  · exact holds_note _ _

theorem holds_spawn (argv : List String) : (s.spawn argv).Keeps (Holds s W tool) := by
  intro st
  rw [s.after_spawn]
  exact holds_send h _ st

theorem holds_launch (given : List String) : (s.launch given).Keeps (Holds s W tool) :=
  .bind Holds.trans (.ofExcept Holds.refl _) fun _ =>
    .bind Holds.trans (holds_note _ _) fun _ => holds_spawn h _

theorem holds_greet : s.greet.Keeps (Holds s W tool) := by
  refine .bind Holds.trans (holds_settings h) fun (python, snapshot) => ?_
  refine .bind Holds.trans (holds_lift (Interpreter.isSettled_inspect h.host _ _).keeps)
    fun info => ?_
  refine .bind Holds.trans (holds_note _ _) fun _ => ?_
  refine .bind Holds.trans (.ofExcept Holds.refl _) fun options => ?_
  refine .bind Holds.trans (holds_send h _) fun answer => ?_
  refine .bind Holds.trans (holds_note _ _) fun _ => ?_
  refine .bind Holds.trans (holds_send h _) fun _ => ?_
  exact .bind Holds.trans (.ofExcept Holds.refl _) fun nested => .pure Holds.refl _

theorem holds_start (given : List String) : (s.start given).Keeps (Holds s W tool) := by
  rw [start_eq]
  refine .bind Holds.trans (holds_launch h given) fun _ => ?_
  refine .bind Holds.trans (holds_greet h) fun answer => ?_
  refine .bind Holds.trans ?_ fun _ => ?_
  · exact .bind Holds.trans (holds_send h _) fun _ => holds_modify fun _ => rfl
  refine .bind Holds.trans ?_ fun _ => .pure Holds.refl _
  exact .bind Holds.trans (.get Holds.refl) fun _ =>
    .forM Holds.refl Holds.trans (fun _ => holds_openDocument h _) _

/-- **Every call but a stop** leaves the memory in agreement with the world. -/
theorem holds_perform {call : Call} (hcall : call ≠ .stop) :
    (s.perform call).Keeps (Holds s W tool) := by
  cases call with
  | start given => exact (holds_start h given).bind_pure _
  | stop => exact absurd rfl hcall
  | openDocument path => exact (holds_openDocument h path).bind_pure fun _ => Answer.done
  | closeDocument path => exact (holds_closeDocument h path).bind_pure fun _ => Answer.done
  | openInWorkspace path => exact (holds_openInWorkspace h path).bind_pure _
  | closeInWorkspace path => exact (holds_closeInWorkspace h path).bind_pure fun _ => Answer.done
  | settings =>
    exact (holds_settings h).bind_pure fun answer => Answer.settings answer.1 answer.2
  | configuration sections => exact (holds_answerConfiguration h sections).bind_pure _
  | notification method payload =>
    exact (holds_onNotification h method payload).bind_pure fun _ => Answer.done
  | progress token value => exact (holds_onProgress h token value).bind_pure fun _ => Answer.done
  | progressToken token => exact (holds_note _ _).bind_pure fun _ => Answer.done
  | logMessage type message => exact (holds_note _ _).bind_pure fun _ => Answer.done
  | diagnostics uri diagnostics =>
    have hnoted : (onDiagnostics uri diagnostics : Run σ Unit).Keeps (Holds s W tool) :=
      .bind Holds.trans (holds_modify fun _ => rfl) fun _ => holds_note _ _
    exact hnoted.bind_pure fun _ => Answer.done
  | exit status =>
    have hnoted : (onExit status : Run σ Unit).Keeps (Holds s W tool) :=
      .bind Holds.trans (holds_note _ _) fun _ => holds_modify fun _ => rfl
    exact hnoted.bind_pure fun _ => Answer.done

end Calls

end Session

end LspHost
