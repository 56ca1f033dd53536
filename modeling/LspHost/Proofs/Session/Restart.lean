import LspHost.Proofs.Session.Attended
import LspHost.Proofs.Session.Documents

/-!
# Restarting is starting afresh

A stop that returns forgets the handshake, the documents and the interpreter
(`Session.forgotten_of_stop`). What it leaves in place, the diagnostics, what was sent and that the
server has exited, no call ever reads; so from then on the session mirrors a new one in the same
surroundings, whatever is called (`Session.restart_of_stop`).
-/

namespace LspHost

theorem Attempt.Mirrors.of_eq {state α : Type} (act : Attempt state α) : Mirrors Eq act act := by
  rintro s s' rfl
  exact ⟨rfl, rfl⟩

theorem Host.mirrors_self {σ : Type} (host : Host σ) : host.Mirrors Eq host where
  note _ _ _ := .of_eq _
  isDirectory _ := .of_eq _
  isPresent _ := .of_eq _
  resolve _ := .of_eq _
  read _ := .of_eq _
  lookup _ := .of_eq _
  remoteLookup := by
    cases host.remoteLookup with
    | none => exact .none
    | some lookup => exact .some fun _ => .of_eq _
  run _ _ _ := .of_eq _

namespace Session

variable {σ : Type}

theorem mirrors_self (s : Session σ) : s.Mirrors Eq s.host s.link s.indicator where
  host := s.host.mirrors_self
  link _ := .of_eq _
  indicator := by
    cases s.indicator with
    | none => exact .none
    | some show_ =>
      refine .some fun toggle name => ?_
      rintro ⟨scene, busy⟩ ⟨_, _⟩ ⟨rfl, rfl⟩
      exact ⟨rfl, rfl, rfl⟩

/-- A new session in the same surroundings: the scene, the documents of the workspace and what the
indicator has marked are as they are. -/
def State.renewed (st : State σ) : State σ :=
  { scene := st.scene, workspace := st.workspace, busy := st.busy }

/-- **A stop that returns** forgets the handshake, the documents and the interpreter. -/
theorem forgotten_of_stop {s : Session σ} {st t : State σ} (h : s.stop st = .ok () t) :
    t.started = false ∧ t.opened = [] ∧ t.cache = none := by
  obtain ⟨parting, -, ⟨-, ⟨e, scene, hstop⟩ | ⟨scene, hstop⟩⟩ | ⟨e, scene, -, -, -, hstop⟩⟩ :=
    s.stop_outcome st
  all_goals rw [hstop] at h
  · cases h
  · cases h
    exact ⟨rfl, rfl, rfl⟩
  · cases h

/-- **Nothing that a session reads** is left of one that has forgotten these. -/
theorem mirrors_renewed {t : State σ}
    (h : t.started = false ∧ t.opened = [] ∧ t.cache = none) :
    State.Mirrors Eq t.sent t t.renewed :=
  ⟨rfl, rfl, h.2.2, rfl, h.1, h.2.1, (List.append_nil _).symm⟩

/-- Two events that cannot be told apart from outside the session: the same call is answered the same,
the same is sent, and the scene, the marks of the indicator and the documents are the same after
it. -/
structure Alike (e e' : Step σ) : Prop where
  /-- the call is the same -/
  call : e.call = e'.call
  /-- so is the value or the fault that it ends with -/
  answer : e.answer = e'.answer
  /-- the same messages are sent -/
  sending : sending e = sending e'
  /-- the world and the journal are the same after it -/
  scene : e.after.scene = e'.after.scene
  /-- so are the marks of the indicator -/
  busy : e.after.busy = e'.after.busy
  /-- so are the documents of the workspace -/
  workspace : e.after.workspace = e'.after.workspace

theorem alike_of_mirrorEvents {before : List Sending} {e e' : Step σ}
    (h : Attempt.MirrorEvents (State.Mirrors Eq before) e e') : Alike e e' := by
  refine ⟨h.call, h.answer, ?_, h.after.scene, h.after.busy, h.after.workspace⟩
  unfold sending
  rw [h.before.sent, h.after.sent, List.length_append, List.drop_length_add_append]

/-- **Restarting is starting afresh.** Once a stop has returned, whatever is called then, in whatever
order, is answered like on a new session in the same surroundings: call by call the same value or
fault, the same messages to the server and the same effects, and the same requests to the
surroundings and to the indicator. -/
theorem restart_of_stop (s : Session σ) {st t : State σ} (h : s.stop st = .ok () t)
    (calls : List Call) :
    List.Forall₂ Alike (Attempt.history s.perform t calls)
        (Attempt.history s.perform t.renewed calls) ∧
      s.requests t calls = s.requests t.renewed calls := by
  have hforgotten := forgotten_of_stop h
  refine ⟨?_, ?_⟩
  · have hmirrored := Attempt.mirrors_history (mirrors_perform (mirrors_self s))
      (mirrors_renewed hforgotten) calls
    exact hmirrored.imp fun _ _ => alike_of_mirrorEvents
  · -- the session that is attended is like any other one
    have hattended : State.Mirrors Eq t.sent t.attended t.renewed.attended :=
      mirrors_renewed (t := t.attended) hforgotten
    have hmirrored := Attempt.mirrors_history (mirrors_perform (mirrors_self s.attended))
      hattended calls
    unfold requests
    rw [← List.forall₂_eq_eq_eq, List.forall₂_map_left_iff, List.forall₂_map_right_iff]
    exact hmirrored.imp fun e e' he => by rw [he.before.scene, he.after.scene]

/-- A session whose indicator notes what it is told, and which keeps diagnostics of a document. -/
def keeping : Session Unit :=
  { facing Resolver.pipenvHost (losing fun _ => none) with indicator := some Relay.loggingIndicator }

/-- It is started again after a stop like a new one, diagnostics and all. -/
theorem restart_of_kept_diagnostics :
    let st := Attempt.afterAll keeping.perform
      { scene := { world := () }, workspace := { root := keeping.root } }
      [.start ["serve"], .diagnostics "file:///w/a.py" [⟨"unused"⟩], .exit (some 0)]
    let calls : List Call := [.start ["serve"], .notification "python/beginProgress" .null,
      .configuration [some "python.pythonPath"], .stop]
    ∃ t, keeping.stop st = .ok () t ∧ t.diagnostics = [("file:///w/a.py", [⟨"unused"⟩])] ∧
      List.Forall₂ Alike (Attempt.history keeping.perform t calls)
        (Attempt.history keeping.perform t.renewed calls) ∧
      keeping.requests t calls = keeping.requests t.renewed calls := by
  intro st calls
  obtain ⟨_, t, hstop⟩ : ∃ answer t, keeping.stop st = .ok answer t :=
    Attempt.exists_eq_ok (by decide +kernel)
  have hkept : (keeping.stop.after st).diagnostics = [("file:///w/a.py", [⟨"unused"⟩])] := by
    decide +kernel
  rw [Attempt.after_of_ok hstop] at hkept
  exact ⟨t, hstop, hkept, restart_of_stop keeping hstop calls⟩

end Session

end LspHost
