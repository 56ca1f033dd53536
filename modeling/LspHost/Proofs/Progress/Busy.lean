import LspHost.Progress.Relay
import LspHost.Proofs.Faults
import LspHost.Proofs.History

/-!
# The documents that are marked as busy

A relay with the indicator that keeps names, and the workspace that it looks at: documents are opened
and closed, the relay is switched on and off, and events occur (`Relay.Incident`). The two are coupled by
the names alone, and the relay only sees the documents that are live when an event occurs.

* `Relay.mem_busy_of_run`: a name is marked just when the latest event that was shown for it was a
  beginning. Every name has its own history; there is nothing that one name does to another.
* `Relay.busy_since_done`: what is left when all work is over. A document that was closed while work went
  on is not there for the end to unmark, so its name stays marked, and is the name of a live document as
  soon as the document is opened again.
-/

namespace LspHost

variable {σ : Type}

/-- The names of the live documents. -/
def Workspace.liveNames (w : Workspace) : List String := w.liveDocuments.map Document.name

/-- The event at which a document is told to be busy or idle. -/
def Toggle.event : Toggle → Progress
  | .start => .begin
  | .stop => .done

namespace Relay

/-! ## A relay and its workspace -/

/-- What happens at a relay and its workspace. -/
inductive Incident where
  /-- a document is opened -/
  | opens (path : Path)
  /-- a document is closed -/
  | closes (path : Path)
  /-- the relay is switched on or off -/
  | switches (enabled : Bool)
  /-- an event occurs -/
  | occurs (event : Progress)
  deriving DecidableEq

/-- A relay, the workspace that it looks at, and its switch. -/
structure Watch (σ : Type) where
  /-- the state of the relay -/
  state : State σ
  /-- the documents -/
  workspace : Workspace
  /-- whether the relay is on -/
  enabled : Bool

/-- The state of the relay as a part. -/
def Watch.stateLens : Lens (Watch σ) (State σ) where
  get := Watch.state
  set := fun state watch => { watch with state }

/-- The scene as a part. -/
def Watch.sceneLens : Lens (Watch σ) (Scene σ) where
  get := fun watch => watch.state.scene
  set := fun scene watch => { watch with state := { watch.state with scene } }

/-- A relay with the indicator that keeps names. -/
def keepingNames (enabled : Bool) : Setup σ := { indicator := some loggingIndicator, enabled }

/-- What an incident does. -/
def meet (host : Host σ) : Incident → Attempt (Watch σ) Unit
  | .opens path => do
    let path ← Watch.sceneLens.lift ((← get).workspace.locate host path)
    modify fun watch => { watch with workspace := (watch.workspace.openAt path).2 }
  | .closes path => do
    let path ← Watch.sceneLens.lift ((← get).workspace.locate host path)
    modify fun watch => { watch with workspace := watch.workspace.closeAt path }
  | .switches enabled => modify fun watch => { watch with enabled }
  | .occurs event => do
    let watch ← get
    Watch.stateLens.lift (handle (keepingNames watch.enabled) watch.workspace event)

/-- The indicator is told about a name: the event for it occurs, the relay is on, and a document of that
name is live. -/
structure Tells (toggle : Toggle) (name : String) (e : Event Incident (Watch σ) Unit) : Prop where
  /-- the event -/
  occurs : e.call = .occurs toggle.event
  /-- the relay is on -/
  enabled : e.before.enabled = true
  /-- there is a live document -/
  live : name ∈ e.before.workspace.liveNames

/-! ## What one event marks -/

variable {toggle : Toggle} {name other : String}

theorem mem_markBusy {busy : List String} :
    other ∈ markBusy toggle name busy ↔
      (toggle = .start ∧ other = name) ∨ (other ∈ busy ∧ ¬ (toggle = .stop ∧ other = name)) := by
  cases toggle with
  | start =>
    by_cases hname : name ∈ busy
    · simp only [markBusy, List.contains_iff_mem.mpr hname, if_pos]
      refine ⟨fun h => .inr ⟨h, nofun⟩, ?_⟩
      rintro (⟨-, rfl⟩ | ⟨h, -⟩)
      · exact hname
      · exact h
    · simp [markBusy, hname, or_comm]
  | stop => simp [markBusy]

/-- **Telling the indicator** marks or unmarks the names of the live documents and no other one. -/
theorem showAll_marks (enabled : Bool) (toggle : Toggle) (w : Workspace) (p : State σ) :
    ∃ q, showAll (keepingNames enabled) toggle w p = .ok () q ∧ ∀ name, name ∈ q.busy ↔
      (toggle = .start ∧ enabled = true ∧ name ∈ w.liveNames) ∨
        (name ∈ p.busy ∧ ¬ (toggle = .stop ∧ enabled = true ∧ name ∈ w.liveNames)) := by
  cases enabled with
  | false => exact ⟨p, rfl, by simp⟩
  | true =>
    show ∃ q, (w.liveDocuments.forM fun d => loggingIndicator toggle d.name) p = .ok () q ∧ _
    simp only [Workspace.liveNames, true_and]
    -- one document after the other, each on what is marked so far
    induction w.liveDocuments generalizing p with
    | nil => exact ⟨p, rfl, by simp⟩
    | cons d rest ih =>
      obtain ⟨u, hround, hu⟩ : ∃ u, loggingIndicator toggle d.name p = .ok () u ∧
          u.busy = markBusy toggle d.name p.busy := ⟨_, rfl, rfl⟩
      obtain ⟨q, hrest, hq⟩ := ih u
      refine ⟨q, (Attempt.bind_of_ok hround fun _ => _).trans hrest, ?_⟩
      intro name
      rw [hq, hu, mem_markBusy, List.map_cons, List.mem_cons]
      cases toggle <;> grind

/-- **An event** marks or unmarks the names of the live documents and no other one. -/
theorem mem_busy_handle (enabled : Bool) (w : Workspace) (event : Progress) (p : State σ)
    (name : String) :
    name ∈ ((handle (keepingNames enabled) w event).after p).busy ↔
      (event = Toggle.start.event ∧ enabled = true ∧ name ∈ w.liveNames) ∨
        (name ∈ p.busy ∧ ¬ (event = Toggle.stop.event ∧ enabled = true ∧ name ∈ w.liveNames)) := by
  -- at its two ends, work is noted first and the documents are told then
  have hends : ∀ message toggle,
      name ∈ ((do lift (Act.note .progress .info message)
                  showAll (keepingNames enabled) toggle w : Run σ Unit).after p).busy ↔
        (toggle = .start ∧ enabled = true ∧ name ∈ w.liveNames) ∨
          (name ∈ p.busy ∧ ¬ (toggle = .stop ∧ enabled = true ∧ name ∈ w.liveNames)) := by
    intro message toggle
    obtain ⟨u, hnote, hu⟩ : ∃ u, (lift (Act.note .progress .info message) : Run σ Unit) p = .ok () u ∧
        u.busy = p.busy := ⟨_, rfl, rfl⟩
    obtain ⟨q, hshow, hq⟩ := showAll_marks enabled toggle w u
    rw [Attempt.after_of_ok ((Attempt.bind_of_ok hnote _).trans hshow), hq, hu]
  cases event with
  | begin => exact (hends "analysis started" .start).trans (by simp [Toggle.event])
  | report message =>
    have hsame : ((handle (keepingNames enabled) w (.report message)).after p).busy = p.busy := by
      rcases message with _ | text
      · rfl
      · unfold handle
        dsimp only
        split
        · rfl
        · rfl
    simp [hsame, Toggle.event]
  | done => exact (hends "analysis finished" .stop).trans (by simp [Toggle.event])

/-! ## What one incident marks -/

/-- The same names are marked, and the switch is the same. -/
structure SameMarks (watch watch' : Watch σ) : Prop where
  /-- the marks -/
  busy : watch'.state.busy = watch.state.busy
  /-- the switch -/
  enabled : watch'.enabled = watch.enabled

theorem SameMarks.refl (watch : Watch σ) : SameMarks watch watch := ⟨rfl, rfl⟩

theorem SameMarks.trans (watch watch' watch'' : Watch σ) (h : SameMarks watch watch')
    (h' : SameMarks watch' watch'') : SameMarks watch watch'' :=
  ⟨h'.busy.trans h.busy, h'.enabled.trans h.enabled⟩

/-- Finding a path and changing the documents leaves the marks and the switch alone. -/
theorem sameMarks_locate (host : Host σ) (path : Path) (change : Path → Workspace → Workspace) :
    Attempt.Keeps SameMarks (do
      let path ← Watch.sceneLens.lift ((← get).workspace.locate host path)
      modify fun watch : Watch σ => { watch with workspace := change path watch.workspace }) := by
  refine .bind SameMarks.trans (.get SameMarks.refl) fun _ => ?_
  refine .bind SameMarks.trans (.lift (fun _ _ => ⟨rfl, rfl⟩) _) fun _ => ?_
  exact .of_modify fun _ => ⟨rfl, rfl⟩

variable {host : Host σ}

theorem sameMarks_opens (path : Path) : (meet host (.opens path)).Keeps SameMarks :=
  sameMarks_locate host path fun path w => (w.openAt path).2

theorem sameMarks_closes (path : Path) : (meet host (.closes path)).Keeps SameMarks :=
  sameMarks_locate host path fun path w => w.closeAt path

/-- An event leaves what its relaying leaves of the relay, and the rest as it is. -/
theorem after_meet_occurs (event : Progress) (watch : Watch σ) :
    (meet host (.occurs event)).after watch = Watch.stateLens.set
      ((handle (keepingNames watch.enabled) watch.workspace event).after watch.state) watch :=
  Attempt.after_lift Watch.stateLens _ watch

/-- An event changes no document. -/
theorem workspace_meet_occurs (event : Progress) (watch : Watch σ) :
    ((meet host (.occurs event)).after watch).workspace = watch.workspace := by
  rw [after_meet_occurs]
  rfl

/-- **What an incident marks**: a name is marked after it if the indicator is told so, or if it was
marked and the indicator is not told that it is idle. -/
theorem mem_busy_meet (name : String) (incident : Incident) (watch : Watch σ) :
    name ∈ ((meet host incident).after watch).state.busy ↔
      Tells .start name (Attempt.event (meet host) watch incident) ∨
        (name ∈ watch.state.busy ∧ ¬ Tells .stop name (Attempt.event (meet host) watch incident)) := by
  -- what is no event tells nothing
  have hother : ((meet host incident).after watch).state.busy = watch.state.busy →
      (∀ event, incident ≠ .occurs event) → (name ∈ ((meet host incident).after watch).state.busy ↔
        Tells .start name (Attempt.event (meet host) watch incident) ∨
          (name ∈ watch.state.busy ∧
            ¬ Tells .stop name (Attempt.event (meet host) watch incident))) := by
    intro hbusy hno
    have hnot : ∀ toggle, ¬ Tells toggle name (Attempt.event (meet host) watch incident) :=
      fun toggle htells => hno toggle.event htells.occurs
    rw [hbusy]
    exact ⟨fun h => .inr ⟨h, hnot .stop⟩, fun h => (h.resolve_left (hnot .start)).1⟩
  cases incident with
  | opens path => exact hother (sameMarks_opens path watch).busy nofun
  | closes path => exact hother (sameMarks_closes path watch).busy nofun
  | switches enabled => exact hother rfl nofun
  | occurs event =>
    have htells : ∀ toggle, Tells toggle name (Attempt.event (meet host) watch (.occurs event)) ↔
        event = toggle.event ∧ watch.enabled = true ∧ name ∈ watch.workspace.liveNames := by
      intro toggle
      refine ⟨fun h => ⟨Incident.occurs.inj h.occurs, h.enabled, h.live⟩, ?_⟩
      rintro ⟨rfl, henabled, hlive⟩
      exact ⟨rfl, henabled, hlive⟩
    rw [after_meet_occurs, htells, htells]
    exact mem_busy_handle watch.enabled watch.workspace event watch.state name

/-- **The relay stays on** as long as nothing switches it off. -/
theorem enabled_meet {incident : Incident}
    (hstays : ∀ enabled, incident = .switches enabled → enabled = true) {watch : Watch σ}
    (h : watch.enabled = true) : ((meet host incident).after watch).enabled = true := by
  cases incident with
  | opens path => rwa [(sameMarks_opens path watch).enabled]
  | closes path => rwa [(sameMarks_closes path watch).enabled]
  | switches enabled => exact hstays enabled rfl
  | occurs event => rwa [after_meet_occurs]

/-! ## Over a run -/

/-- **A name is marked** just when it stands that it was told to be. -/
theorem mem_busy_afterAll {watch : Watch σ} (hbusy : watch.state.busy = []) (name : String)
    (incidents : List Incident) :
    name ∈ (Attempt.afterAll (meet host) watch incidents).state.busy ↔
      StandsIn (Tells .start name) (Tells .stop name) (Attempt.history (meet host) watch incidents) := by
  have hstart : name ∉ watch.state.busy := by simp [hbusy]
  exact Attempt.afterAll_iff_standsIn (P := fun watch : Watch σ => name ∈ watch.state.busy)
    (mem_busy_meet name) hstart incidents

/-- **What is marked as busy.** Over every run of documents being opened and closed, the relay being
switched, and events:

* a name is marked just when it was told about, and what was told last is that it is busy;
* after a beginning every live document is marked, and after an end none is, if the relay is on. -/
theorem mem_busy_of_run (host : Host σ) (scene : Scene σ) (workspace : Workspace) (enabled : Bool)
    (incidents : List Incident) :
    let watch : Watch σ := { state := { scene }, workspace, enabled }
    let final := Attempt.afterAll (meet host) watch incidents
    let begun := (meet host (.occurs .begin)).after final
    let ended := (meet host (.occurs .done)).after final
    (∀ name, name ∈ final.state.busy ↔
        ∃ before e after, Attempt.history (meet host) watch incidents = before ++ e :: after ∧
          Tells .start name e ∧ ∀ e' ∈ after, ∀ toggle, ¬ Tells toggle name e') ∧
      (final.enabled = true →
        (∀ d ∈ begun.workspace.liveDocuments, d.name ∈ begun.state.busy) ∧
          ∀ d ∈ ended.workspace.liveDocuments, d.name ∉ ended.state.busy) := by
  intro watch final begun ended
  refine ⟨?_, ?_⟩
  · intro name
    have huntold : ∀ e : Event Incident (Watch σ) Unit,
        ¬ (Tells .start name e ∨ Tells .stop name e) ↔ ∀ toggle, ¬ Tells toggle name e := by
      intro e
      constructor
      · intro hnone toggle htells
        cases toggle with
        | start => exact hnone (.inl htells)
        | stop => exact hnone (.inr htells)
      · exact fun hnone htells => htells.elim (hnone .start) (hnone .stop)
    rw [mem_busy_afterAll rfl, standsIn_iff_latest]
    simp only [StandsIn, huntold]
  · intro henabled
    refine ⟨?_, ?_⟩
    · intro d hd
      rw [workspace_meet_occurs] at hd
      exact (mem_busy_meet d.name (.occurs .begin) final).mpr
        (.inl ⟨rfl, henabled, List.mem_map_of_mem hd⟩)
    · intro d hd hbusy
      rw [workspace_meet_occurs] at hd
      rcases (mem_busy_meet d.name (.occurs .done) final).mp hbusy with hstart | ⟨-, hstop⟩
      · cases hstart.occurs
      · exact hstop ⟨rfl, henabled, List.mem_map_of_mem hd⟩

/-- **What is left when work is over.** Over every run of documents being opened and closed and events,
while the relay stays on:

* if no work begins, nothing is marked;
* once work has ended and no more begins, a name is marked just when no document of that name was live at
  the last end, and it was marked then: work had begun with a live document of that name, and had not
  ended with one since. -/
theorem busy_since_done (host : Host σ) (scene : Scene σ) (workspace : Workspace)
    (incidents : List Incident)
    (hstays : ∀ enabled, .switches enabled ∈ incidents → enabled = true) :
    let watch : Watch σ := { state := { scene }, workspace, enabled := true }
    let events := Attempt.history (meet host) watch incidents
    let final := Attempt.afterAll (meet host) watch incidents
    ((∀ e ∈ events, e.call ≠ .occurs .begin) → final.state.busy = []) ∧
      ∀ before last since, events = before ++ last :: since → last.call = .occurs .done →
        (∀ e ∈ since, e.call ≠ .occurs .begin ∧ e.call ≠ .occurs .done) →
        ∀ name, name ∈ final.state.busy ↔ name ∉ last.before.workspace.liveNames ∧
          StandsIn (Tells .start name) (Tells .stop name) before := by
  intro watch events final
  have hmarked : ∀ name, name ∈ final.state.busy ↔
      StandsIn (Tells .start name) (Tells .stop name) events :=
    fun name => mem_busy_afterAll rfl name incidents
  refine ⟨?_, ?_⟩
  · intro hnone
    rw [List.eq_nil_iff_forall_not_mem]
    intro name hbusy
    obtain ⟨e, he, htells⟩ := ((hmarked name).mp hbusy).exists_mem
    exact hnone e he htells.occurs
  · intro before last since hevents hlast hsince name
    have hon : last.before.enabled = true := by
      have hall : ∀ e ∈ events, e.before.enabled = true :=
        Attempt.before_of_step (P := fun watch : Watch σ => watch.enabled = true)
          (fun _ hincident _ => enabled_meet fun enabled hswitch => hstays enabled (hswitch ▸ hincident))
          rfl
      refine hall last ?_
      rw [hevents]
      exact List.mem_append_right before (List.mem_cons_self ..)
    -- from the last end on nothing is told to be busy, and only that end tells that anything is idle
    have hstart : ∀ e ∈ last :: since, ¬ Tells .start name e := by
      refine List.forall_mem_cons.mpr ⟨?_, fun e he htells => (hsince e he).1 htells.occurs⟩
      intro htells
      cases hlast.symm.trans htells.occurs
    have hstop : (∀ e ∈ last :: since, ¬ Tells .stop name e) ↔
        name ∉ last.before.workspace.liveNames := by
      constructor
      · intro hnone hlive
        exact hnone last (List.mem_cons_self ..) ⟨hlast, hon, hlive⟩
      · intro hdead
        exact List.forall_mem_cons.mpr ⟨fun htells => hdead htells.live,
          fun e he htells => (hsince e he).2 htells.occurs⟩
    rw [hmarked, hevents, standsIn_append hstart, hstop, and_comm]

/-- A relay that is on and a workspace without documents, on a bare host. -/
def watching : Watch Unit :=
  { state := { scene := { world := () } }, workspace := { root := .ofText "/w" }, enabled := true }

/-- Two documents are opened; one of them is closed while work goes on, and opened again afterwards. -/
def reopening : List Incident :=
  [.opens (.ofText "a.py"), .opens (.ofText "b.py"), .occurs .begin, .closes (.ofText "a.py"),
    .occurs .done, .opens (.ofText "a.py")]

/-- What then happens. -/
def reopeningEvents : List (Event Incident (Watch Unit) Unit) :=
  Attempt.history (meet .bare) watching reopening

/-- The end is the fifth incident. -/
theorem reopeningEvents_eq : reopeningEvents = reopeningEvents.take 4 ++
    reopeningEvents.get ⟨4, by decide +kernel⟩ :: reopeningEvents.drop 5 :=
  rfl

/-- The document that was not there for the end is marked, the other one is not. -/
theorem busy_of_reopening :
    let final := Attempt.afterAll (meet .bare) watching reopening
    (∀ enabled, .switches enabled ∈ reopening → enabled = true) ∧
      final.workspace.liveNames = ["/w/a.py", "/w/b.py"] ∧
      "/w/a.py" ∈ final.state.busy ∧ "/w/b.py" ∉ final.state.busy := by
  intro final
  have hstays : ∀ enabled, .switches enabled ∈ reopening → enabled = true := by simp [reopening]
  obtain ⟨-, hdone⟩ := busy_since_done .bare { world := () } { root := .ofText "/w" } reopening hstays
  have hleft := hdone _ _ _ reopeningEvents_eq rfl (by decide +kernel)
  refine ⟨hstays, by decide +kernel, ?_, ?_⟩
  · -- the third incident is the beginning, and the fourth one no event
    have hbegun : reopeningEvents.take 4 = reopeningEvents.take 2 ++
        reopeningEvents.get ⟨2, by decide +kernel⟩ :: [reopeningEvents.get ⟨3, by decide +kernel⟩] := rfl
    refine (hleft "/w/a.py").mpr ⟨by decide +kernel, _, _, _, hbegun, ⟨rfl, rfl, by decide +kernel⟩, ?_⟩
    intro e he htells
    obtain rfl := List.mem_singleton.mp he
    cases htells.occurs
  · intro hbusy
    exact ((hleft "/w/b.py").mp hbusy).1 (by decide +kernel)

/-- **Live documents can be marked though all work is over**: it is not so that none is whenever no work
has begun since the last end. -/
theorem exists_busy_since_done :
    ¬ ∀ incidents : List Incident, (∀ enabled, .switches enabled ∉ incidents) →
      ∀ before last since,
        Attempt.history (meet .bare) watching incidents = before ++ last :: since →
        last.call = .occurs .done → (∀ e ∈ since, e.call ≠ .occurs .begin) →
        ∀ d ∈ (Attempt.afterAll (meet .bare) watching incidents).workspace.liveDocuments,
          d.name ∉ (Attempt.afterAll (meet .bare) watching incidents).state.busy := by
  intro hclaim
  have hnone := hclaim reopening (by simp [reopening]) _ _ _ reopeningEvents_eq rfl (by decide +kernel)
  exact hnone { path := .ofText "/w/a.py" } (by decide +kernel) (by decide +kernel)

end Relay

end LspHost
