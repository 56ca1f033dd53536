import LspHost.Proofs.Faults
import LspHost.Proofs.Progress.Notice
import LspHost.Proofs.Progress.Relay
import LspHost.Proofs.Session.Attended

/-!
# Relaying over whole runs

The relay of a session can be switched on and off while documents are opened and closed and the server
tells about its work (`Session.Turn`). `Session.relayed_of_run`: over every such run the lines of
progress, and what the indicator is told, are what is put out for one notice after the other, each
with the documents that are live and the switch as it is at that moment. Nothing depends on the form in
which a notice arrives.

The calls of the indicator are those of the session that is attended. Both the lines and the calls are
something that is observed of a scene (`Session.Shows`), so the law of a turn is proved once for both.
-/

namespace LspHost

variable {σ β : Type}

/-! ## What is observed -/

/-- The records of progress in the journal. -/
def Scene.progressRecords (scene : Scene σ) : List Record :=
  scene.journal.filter (·.source = .progress)

/-- The record that a line of progress is noted as. -/
def Output.record? : Output → Option Record
  | .line message => some { source := .progress, level := .info, message }
  | .telling .. => none

/-- The request that telling the indicator is written down as. -/
def Output.request? : Output → Option Request
  | .line _ => none
  | .telling toggle name => some (.toggle toggle name)

namespace Session

/-! ## Turns -/

/-- What happens at a session whose relay can be switched. -/
inductive Turn where
  /-- a document is opened in the workspace -/
  | opens (path : Path)
  /-- a document is closed in the workspace -/
  | closes (path : Path)
  /-- the relay is switched on or off -/
  | switches (enabled : Bool)
  /-- the server says something about its work -/
  | hears (notice : Progress.Notice)

/-- The state of a session whose relay can be switched. -/
structure Desk (σ : Type) where
  /-- the state of the session -/
  state : State σ
  /-- whether the relay is on -/
  enabled : Bool

/-- The state of the session as a part. -/
def Desk.stateLens : Lens (Desk σ) (State σ) where
  get := Desk.state
  set := fun state desk => { desk with state }

/-- A session whose relay is on or off, whatever its configuration says. -/
def switched (s : Session σ) (enabled : Bool) : Session σ :=
  { s with config := s.config.assign .progressIndicator (.bool enabled) }

@[simp]
theorem relay_switched (s : Session σ) (enabled : Bool) :
    (s.switched enabled).relay = { indicator := s.indicator, enabled } := by
  simp [relay, switched, Value.isTruthy]

/-- The call that a notice of the server is. -/
def callOf : Progress.Notice → Call
  | .own method payload => .notification method payload
  | .standard token value => .progress token value

/-- Makes a call with the relay as it is switched. -/
def callAt (s : Session σ) (call : Call) : Attempt (Desk σ) Answer := do
  Desk.stateLens.lift ((s.switched (← get).enabled).perform call)

/-- Takes a turn. -/
def take (s : Session σ) : Turn → Attempt (Desk σ) Answer
  | .opens path => s.callAt (.openInWorkspace path)
  | .closes path => s.callAt (.closeInWorkspace path)
  | .switches enabled => do
    modify fun desk => { desk with enabled }
    return .done
  | .hears notice => s.callAt (callOf notice)

/-- A call leaves what it leaves of the session, and the switch as it is. -/
theorem after_callAt (s : Session σ) (call : Call) (desk : Desk σ) :
    (s.callAt call).after desk =
      { desk with state := ((s.switched desk.enabled).perform call).after desk.state } :=
  Attempt.after_lift Desk.stateLens ((s.switched desk.enabled).perform call) desk

/-- The event of a turn, if it has one. -/
def Turn.event? : Turn → Option Progress
  | .hears notice => notice.event?
  | _ => none

/-- What is put out for a turn: for an event what the documents that are live and the switch make of
it, and nothing otherwise. -/
def outputs (s : Session σ) (e : Event Turn (Desk σ) Answer) : List Output :=
  e.call.event?.toList.flatMap
    (Progress.outputs (e.before.enabled && s.indicator.isSome) e.before.state.workspace.liveDocuments)

/-! ## Notices -/

/-- Relays an event. -/
def relayEvent (s : Session σ) (event : Progress) : Run σ Unit := do
  relaying (Relay.handle s.relay (← get).workspace event)

/-- **A notice of an event** is relayed as that event, whatever its form. -/
theorem perform_callOf {s : Session σ} {notice : Progress.Notice} {event : Progress}
    (h : notice.event? = some event) :
    s.perform (callOf notice) = (do s.relayEvent event; return Answer.done) := by
  cases notice with
  | own method payload =>
    have hread : Progress.ofNotification method payload = some event := h
    simp only [callOf, perform, onNotification, hread, relayEvent]
  | standard token value =>
    have hread : Progress.ofWorkDone value = some event := h
    simp only [callOf, perform, onProgress, hread, relayEvent]

/-- A notice of no event is noted by the session at most. -/
theorem perform_callOf_of_none {s : Session σ} {notice : Progress.Notice} (h : notice.event? = none) :
    s.perform (callOf notice) = pure Answer.done ∨
      ∃ message, s.perform (callOf notice) = (do note .debug message; return Answer.done) := by
  cases notice with
  | own method payload =>
    have hread : Progress.ofNotification method payload = none := h
    refine .inl ?_
    simp only [callOf, perform, onNotification, hread]
    rfl
  | standard token value =>
    have hread : Progress.ofWorkDone value = none := h
    refine .inr ⟨"ignoring progress value for token " ++ token.display, ?_⟩
    simp only [callOf, perform, onProgress, hread]

/-- Turns that are the same, or that hear of the same event. -/
inductive Turn.Alike : Turn → Turn → Prop where
  /-- the same turn -/
  | refl (turn : Turn) : Alike turn turn
  /-- two notices of one event -/
  | hears {notice notice' : Progress.Notice} {event : Progress} (h : notice.Tells event)
      (h' : notice'.Tells event) : Alike (.hears notice) (.hears notice')

/-- **Turns that are alike** are the same to a session. -/
theorem take_of_alike (s : Session σ) {turn turn' : Turn} (h : turn.Alike turn') :
    s.take turn = s.take turn' := by
  cases h with
  | refl => rfl
  | hears h h' => simp only [take, callAt, perform_callOf h.event?, perform_callOf h'.event?]

/-! ## The law of a turn -/

/-- What is observed of the scene of a session: finding a path and noting records of the session's
own do not change it, and what its relay puts out adds to it. -/
structure Shows (s : Session σ) (observed : Scene σ → List β) (seen : Output → Option β) : Prop where
  /-- finding a path -/
  resolve : ∀ path, (s.host.resolve path).Keeps fun scene scene' => observed scene' = observed scene
  /-- noting a record -/
  note : ∀ level message, (Act.note .session level message).Keeps
    fun scene scene' => observed scene' = observed scene
  /-- putting something out -/
  relay : Relay.Shows s.indicator observed seen

/-- The same is observed of two states. -/
def SameObserved (observed : Scene σ → List β) (st t : State σ) : Prop :=
  observed t.scene = observed st.scene

section Shows

variable {s : Session σ} {observed : Scene σ → List β} {seen : Output → Option β}

theorem SameObserved.refl (st : State σ) : SameObserved observed st st := rfl

theorem SameObserved.trans (st t u : State σ) (h : SameObserved observed st t)
    (h' : SameObserved observed t u) : SameObserved observed st u :=
  Eq.trans h' h

theorem sameObserved_lift {α : Type} {act : Act σ α}
    (h : act.Keeps fun scene scene' => observed scene' = observed scene) :
    (lift act).Keeps (SameObserved observed) :=
  .lift_of (l := State.sceneLens) (fun _ _ hscene => hscene) h

/-- **Opening and closing documents** shows nothing. -/
theorem Shows.openInWorkspace (h : s.Shows observed seen) (path : Path) :
    (s.openInWorkspace path).Keeps (SameObserved observed) := by
  refine .bind SameObserved.trans (.get SameObserved.refl) fun _ => ?_
  refine .bind SameObserved.trans (sameObserved_lift (h.resolve _)) fun _ => ?_
  exact fun _ => rfl

theorem Shows.closeInWorkspace (h : s.Shows observed seen) (path : Path) :
    (s.closeInWorkspace path).Keeps (SameObserved observed) := by
  refine .bind SameObserved.trans (.get SameObserved.refl) fun _ => ?_
  refine .bind SameObserved.trans (sameObserved_lift (h.resolve _)) fun _ => ?_
  exact .of_modify fun _ => rfl

/-- **A notice** shows what is put out for its event, if it tells one. -/
theorem Shows.perform_callOf (h : s.Shows observed seen) (notice : Progress.Notice) (st : State σ) :
    observed ((s.perform (callOf notice)).after st).scene = observed st.scene ++
      (notice.event?.toList.flatMap
        (Progress.outputs s.relay.indicating st.workspace.liveDocuments)).filterMap seen := by
  rcases hevent : notice.event? with _ | event
  · -- at most the session notes something, which does not show
    have hnothing : (s.perform (callOf notice)).Keeps (SameObserved observed) := by
      rcases perform_callOf_of_none (s := s) hevent with hperform | ⟨message, hperform⟩
      · rw [hperform]
        exact .pure SameObserved.refl _
      · rw [hperform]
        exact (sameObserved_lift (h.note .debug message)).bind_pure fun _ => Answer.done
    exact Eq.trans (hnothing st) (List.append_nil _).symm
  · obtain ⟨q, hhandle, hq⟩ :=
      Relay.handle_shows (r := s.relay) h.relay st.workspace event (State.relayLens.get st)
    have hafter : (s.perform (callOf notice)).after st = State.relayLens.set q st := by
      rw [Session.perform_callOf hevent]
      refine (Attempt.after_bind_pure _ (fun _ => Answer.done) st).trans ?_
      exact Attempt.after_of_ok (Lens.lift_of_ok (l := State.relayLens) hhandle)
    rw [hafter, Option.toList_some, List.flatMap_singleton]
    exact hq

theorem Shows.switched (h : s.Shows observed seen) (enabled : Bool) :
    (s.switched enabled).Shows observed seen :=
  ⟨h.resolve, h.note, h.relay⟩

/-- **A turn** shows what is put out for it. -/
theorem Shows.take (h : s.Shows observed seen) (turn : Turn) (desk : Desk σ) :
    observed ((s.take turn).after desk).state.scene = observed desk.state.scene ++
      (s.outputs (Attempt.event s.take desk turn)).filterMap seen := by
  cases turn with
  | opens path =>
    have hopen : ((s.take (.opens path)).after desk).state =
        ((s.switched desk.enabled).openInWorkspace path).after desk.state := by
      rw [Session.take, after_callAt, after_perform_openInWorkspace]
    rw [hopen]
    exact Eq.trans ((h.switched desk.enabled).openInWorkspace path desk.state)
      (List.append_nil _).symm
  | closes path =>
    have hclose : ((s.take (.closes path)).after desk).state =
        ((s.switched desk.enabled).closeInWorkspace path).after desk.state := by
      rw [Session.take, after_callAt, after_perform_closeInWorkspace]
    rw [hclose]
    exact Eq.trans ((h.switched desk.enabled).closeInWorkspace path desk.state)
      (List.append_nil _).symm
  | switches enabled => exact (List.append_nil _).symm
  | hears notice =>
    have hindicating : (s.switched desk.enabled).relay.indicating =
        (desk.enabled && s.indicator.isSome) := by
      rw [relay_switched]
      rfl
    rw [Session.take, after_callAt, (h.switched desk.enabled).perform_callOf notice desk.state,
      hindicating]
    rfl

/-- **A run** shows what is put out for its turns, one after the other. -/
theorem Shows.run (h : s.Shows observed seen) (desk : Desk σ) (turns : List Turn) :
    observed (Attempt.afterAll s.take desk turns).state.scene = observed desk.state.scene ++
      ((Attempt.history s.take desk turns).flatMap s.outputs).filterMap seen := by
  rw [List.filterMap_flatMap]
  exact Attempt.afterAll_adds (fun desk : Desk σ => observed desk.state.scene)
    (fun turn desk => h.take turn desk) desk turns

end Shows

/-! ## The lines of progress -/

/-- Neither finding a path nor telling the indicator notes a record of progress, and the indicator can
always be told. -/
structure IsReticent (s : Session σ) : Prop where
  /-- finding a path -/
  resolve : ∀ path, (s.host.resolve path).Keeps
    fun scene scene' => scene'.progressRecords = scene.progressRecords
  /-- telling the indicator -/
  indicator : ∀ show_ ∈ s.indicator, ∀ toggle name p, ∃ q, show_ toggle name p = .ok () q ∧
    q.scene.progressRecords = p.scene.progressRecords

/-- The lines show in the journal. -/
theorem IsReticent.shows {s : Session σ} (h : s.IsReticent) :
    s.Shows Scene.progressRecords Output.record? where
  resolve := h.resolve
  note level message := by
    intro scene
    exact (List.filter_append scene.journal _).trans (List.append_nil _)
  relay := {
    line := fun message scene => List.filter_append scene.journal _
    telling := by
      intro show_ hshow toggle name p
      obtain ⟨q, htold, hq⟩ := h.indicator show_ hshow toggle name p
      exact ⟨q, htold, hq.trans (List.append_nil _).symm⟩ }

/-! ## The calls of the indicator -/

/-- The state of a session that is attended, with no request written down yet. -/
def Desk.attended (desk : Desk σ) : Desk (σ × List Request) :=
  { state := desk.state.attended, enabled := desk.enabled }

/-- What is asked of the surroundings and told the indicator over a run. -/
def tellings (s : Session σ) (desk : Desk σ) (turns : List Turn) : List Request :=
  (Attempt.afterAll s.attended.take desk.attended turns).state.scene.world.2

/-- The calls of the indicator show where requests are written down. -/
theorem IsReticent.shows_attended {s : Session σ} (h : s.IsReticent) :
    s.attended.Shows (fun scene => scene.world.2) Output.request? where
  resolve path := .lift (l := Request.sceneLens) (fun _ _ => rfl) (s.host.resolve path)
  note level message := fun _ => rfl
  relay := {
    line := fun message scene => (List.append_nil _).symm
    telling := by
      intro _ hattended toggle name p
      obtain ⟨show_, hshow, rfl⟩ := Option.map_eq_some_iff.mp hattended
      -- the request is written down before the indicator is told
      let asked : Relay.State (σ × List Request) :=
        { p with scene := { p.scene with
            world := (p.scene.world.1, p.scene.world.2 ++ [.toggle toggle name]) } }
      obtain ⟨q, htold, -⟩ := h.indicator show_ hshow toggle name (Relay.State.attendedLens.get asked)
      have hrun : Relay.Indicator.attended show_ toggle name p =
          .ok () (Relay.State.attendedLens.set q asked) :=
        Lens.lift_of_ok (l := Relay.State.attendedLens) (s := asked) htold
      exact ⟨_, hrun, rfl⟩ }

/-! ## Attending changes nothing -/

/-- States of related sessions, with the same switch. -/
structure Desk.Mirrors {σ' : Type} (R : Scene σ → Scene σ' → Prop) (desk : Desk σ)
    (desk' : Desk σ') : Prop where
  /-- the states of the sessions are related -/
  state : State.Mirrors R [] desk.state desk'.state
  /-- the switch is the same -/
  enabled : desk.enabled = desk'.enabled

section Mirrors

variable {σ' : Type} {R : Scene σ → Scene σ' → Prop} {s : Session σ} {host' : Host σ'}
  {link' : Link σ'} {indicator' : Option (Relay.Indicator σ')}

theorem mirrors_callAt (h : s.Mirrors R host' link' indicator') (call : Call) :
    Attempt.Mirrors (Desk.Mirrors R) (s.callAt call) ((s.on host' link' indicator').callAt call) := by
  refine .get_bind fun desk desk' hdesk => ?_
  rw [← hdesk.enabled]
  have hswitched : (s.switched desk.enabled).Mirrors R host' link' indicator' :=
    ⟨h.host, h.link, h.indicator⟩
  exact .lift (l := Desk.stateLens) (k := Desk.stateLens) (fun _ _ hd => hd.state)
    (fun _ _ _ _ hd hstate => ⟨hstate, hd.enabled⟩) (mirrors_perform hswitched call)

/-- **Every turn** is mirrored. -/
theorem mirrors_take (h : s.Mirrors R host' link' indicator') (turn : Turn) :
    Attempt.Mirrors (Desk.Mirrors R) (s.take turn) ((s.on host' link' indicator').take turn) := by
  cases turn with
  | opens path => exact mirrors_callAt h _
  | closes path => exact mirrors_callAt h _
  | switches enabled => exact .bind (.of_modify fun _ _ hd => ⟨hd.state, rfl⟩) fun _ => .of_pure _
  | hears notice => exact mirrors_callAt h _

end Mirrors

/-- **A session that is attended** takes the same turns, from and to the same states but for what is
written down. -/
theorem attended_turns (s : Session σ) (desk : Desk σ) (turns : List Turn) :
    List.Forall₂ (Attempt.MirrorEvents (Desk.Mirrors IsAttended))
      (Attempt.history s.take desk turns)
      (Attempt.history s.attended.take desk.attended turns) :=
  Attempt.mirrors_history (mirrors_take (mirrors_attended s))
    ⟨⟨rfl, rfl, rfl, rfl, rfl, rfl, rfl⟩, rfl⟩ turns

/-- **The same is put out** by a session that is attended. -/
theorem outputs_attended (s : Session σ) (desk : Desk σ) (turns : List Turn) :
    (Attempt.history s.attended.take desk.attended turns).flatMap s.attended.outputs =
      (Attempt.history s.take desk turns).flatMap s.outputs := by
  have hevents : (Attempt.history s.take desk turns).map s.outputs =
      (Attempt.history s.attended.take desk.attended turns).map s.attended.outputs := by
    rw [← List.forall₂_eq_eq_eq, List.forall₂_map_left_iff, List.forall₂_map_right_iff]
    refine (s.attended_turns desk turns).imp fun e e' he => ?_
    have hindicator : s.attended.indicator.isSome = s.indicator.isSome := Option.isSome_map
    unfold outputs
    rw [he.call, he.before.enabled, he.before.state.workspace, hindicator]
  rw [List.flatMap_def, List.flatMap_def, hevents]

/-! ## Over a run -/

/-- **Relaying over whole runs.** While documents are opened and closed, the relay is switched, and the
server tells about its work in any form:

* a notice is read as the event that it tells, in whichever form, and as none if it tells none;
* the lines of progress are those that are put out for the turns, one after the other;
* the indicator is told what is put out for the turns, one after the other, and nothing is asked of the
  surroundings;
* with other notices of the same events everything is the same. -/
theorem relayed_of_run (s : Session σ) (h : s.IsReticent) (desk : Desk σ) (turns : List Turn) :
    let output := (Attempt.history s.take desk turns).flatMap s.outputs
    let final := Attempt.afterAll s.take desk turns
    (∀ (notice : Progress.Notice) (event : Progress),
        notice.Tells event ↔ notice.event? = some event) ∧
      final.state.scene.progressRecords =
        desk.state.scene.progressRecords ++ output.filterMap Output.record? ∧
      s.tellings desk turns = output.filterMap Output.request? ∧
      ∀ turns', List.Forall₂ Turn.Alike turns turns' →
        Attempt.afterAll s.take desk turns' = final ∧
          s.tellings desk turns' = s.tellings desk turns := by
  intro output final
  refine ⟨fun _ _ => Progress.Notice.tells_iff, h.shows.run desk turns, ?_, ?_⟩
  · have hrun := h.shows_attended.run desk.attended turns
    rw [s.outputs_attended] at hrun
    exact hrun
  · intro turns' halike
    have htake : ∀ {σ' : Type} (s' : Session σ'), turns'.map s'.take = turns.map s'.take := by
      intro σ' s'
      refine Eq.symm ?_
      rw [← List.forall₂_eq_eq_eq, List.forall₂_map_left_iff, List.forall₂_map_right_iff]
      exact halike.imp fun _ _ => s'.take_of_alike
    refine ⟨Attempt.afterAll_eq_of_map (htake s) desk, ?_⟩
    unfold tellings
    rw [Attempt.afterAll_eq_of_map (htake s.attended) desk.attended]

/-- A session on a bare host whose indicator notes what it is told. -/
def indicating : Session Unit :=
  { facing .bare (losing fun _ => none) with indicator := some Relay.loggingIndicator }

/-- Two documents are opened, one of them is closed while work goes on, and the relay is off when
further work begins. -/
def switchedTurns (first : Progress.Notice) : List Turn :=
  [.opens (.ofText "a.py"), .opens (.ofText "b.py"), .hears first, .closes (.ofText "a.py"),
    .hears (.standard .null
      (.raw (.table [("kind", .string "report"), ("message", .string "half")]))),
    .hears (.standard .null .done), .switches false, .hears (.own "pyright/beginProgress" .null)]

/-- Whatever form the first notice has, the lines and the calls of the indicator are the same. -/
theorem relayed_of_switched_run :
    let desk : Desk Unit :=
      { state := { scene := { world := () }, workspace := { root := .ofText "/w" } }, enabled := true }
    indicating.IsReticent ∧ ∀ first : Progress.Notice, first.Tells .begin →
      (Attempt.afterAll indicating.take desk (switchedTurns first)).state.scene.progressRecords.map
          Record.message =
        ["analysis started", "half", "analysis finished", "analysis started"] ∧
      indicating.tellings desk (switchedTurns first) =
        [.toggle .start "/w/a.py", .toggle .start "/w/b.py", .toggle .stop "/w/b.py"] := by
  intro desk
  have hreticent : indicating.IsReticent := by
    refine ⟨fun path scene => rfl, ?_⟩
    rintro _ ⟨⟩ toggle name p
    exact ⟨_, rfl, (List.filter_append p.scene.journal _).trans (List.append_nil _)⟩
  refine ⟨hreticent, ?_⟩
  intro first hfirst
  obtain ⟨-, hlines, htold, hsame⟩ := relayed_of_run indicating hreticent desk
    (switchedTurns (.own "python/beginProgress" .null))
  have halike : List.Forall₂ Turn.Alike (switchedTurns (.own "python/beginProgress" .null))
      (switchedTurns first) :=
    .cons (.refl _) (.cons (.refl _)
      (.cons (.hears (.ownBegin .null (.inl rfl)) hfirst) (List.forall₂_same.mpr fun _ _ => .refl _)))
  obtain ⟨hfinal, htellings⟩ := hsame _ halike
  rw [hfinal, htellings, hlines, htold]
  exact ⟨by decide +kernel, by decide +kernel⟩

end Session

end LspHost
