import LspHost.Proofs.Resolver.Transparency
import LspHost.Proofs.Session.Calls

/-!
# How a stop ends

A stop of a session that is started asks the server first to shut down and to exit
(`Session.Parting`), and then halts the transport; only a stop whose transport was halted forgets the
handshake, the documents and the interpreter (`Session.stop_outcome`). A fault of the server that
says that it is gone is put aside, but any other one ends the stop before it comes to the transport
(`Session.stop_of_farewell_error`).
-/

namespace LspHost.Session

variable {σ : Type}

/-- What is asked of the server before the transport is halted, if the session is started or if it
is not: to exit only once the server has answered that it shuts down. -/
inductive Parting : Bool → List Sending → Prop where
  /-- nothing is asked -/
  | silent : Parting false []
  /-- the server did not shut down -/
  | unanswered : Parting true [{ message := .shutdown, delivered := false }]
  /-- it did, and was told to exit -/
  | answered (delivered : Bool) :
    Parting true [{ message := .shutdown, delivered := true }, { message := .exit, delivered }]

/-- The state after messages, with nothing else but the scene changed. -/
def State.having (st : State σ) (scene : Scene σ) (more : List Sending) : State σ :=
  { st with scene, sent := st.sent ++ more }

/-- The state after messages that end the session. -/
def State.ended (st : State σ) (scene : Scene σ) (more : List Sending) : State σ :=
  { st.having scene more with started := false, opened := [], cache := none }

theorem State.having_having (st : State σ) (scene scene' : Scene σ) (more more' : List Sending) :
    (st.having scene more).having scene' more' = st.having scene' (more ++ more') := by
  simp only [having, List.append_assoc]

theorem State.ended_having (st : State σ) (scene scene' : Scene σ) (more more' : List Sending) :
    (st.having scene more).ended scene' more' = st.ended scene' (more ++ more') := by
  rw [ended, having_having, ended]

/-! ## Asking the server -/

/-- **Asking the server** to shut down and then to exit is a parting, however it ends. -/
theorem farewell_cases (s : Session σ) (st : State σ) :
    ∃ parting scene, Parting true parting ∧
      (s.farewell st = .ok () (st.having scene parting) ∨
        ∃ e, s.farewell st = .error e (st.having scene parting)) := by
  rcases hshutdown : s.link .shutdown st.scene with ⟨info, u⟩ | ⟨e, scene⟩
  · have hrest : s.farewell st = _ := Attempt.bind_of_ok (s.send_of_ok hshutdown) _
    rcases hexit : s.link .exit u with ⟨info', scene⟩ | ⟨e, scene⟩
    · have hsend : s.send .exit (st.afterSending u .shutdown true) = .ok info' _ :=
        s.send_of_ok hexit
      rw [Attempt.bind_of_ok hsend] at hrest
      exact ⟨_, scene, .answered true, .inl (hrest.trans
        (congrArg (EStateM.Result.ok ()) (st.having_having u scene [_] [_])))⟩
    · have hsend : s.send .exit (st.afterSending u .shutdown true) = .error e _ :=
        s.send_of_error hexit
      rw [Attempt.bind_of_error hsend] at hrest
      exact ⟨_, scene, .answered false, .inr ⟨e, hrest.trans
        (congrArg (EStateM.Result.error e) (st.having_having u scene [_] [_]))⟩⟩
  · exact ⟨_, scene, .unanswered, .inr ⟨e, Attempt.bind_of_error (s.send_of_error hshutdown) _⟩⟩

theorem shutDown_of_ok {s : Session σ} {st t : State σ} (h : s.farewell st = .ok () t) :
    s.shutDown st = .ok () t := by
  unfold shutDown
  rw [h]

/-- **A fault that is put aside** ends the asking only. -/
theorem shutDown_of_absorbed {s : Session σ} {st t : State σ} {e : Fault}
    (h : s.farewell st = .error e t) (he : isAbsorbed e = true) :
    ∃ scene, s.shutDown st = .ok () { t with scene } := by
  unfold shutDown
  rw [h]
  dsimp only
  rw [if_pos he]
  exact ⟨_, rfl⟩

/-- **Any other fault** is not put aside. -/
theorem shutDown_of_error {s : Session σ} {st t : State σ} {e : Fault}
    (h : s.farewell st = .error e t) (he : isAbsorbed e = false) :
    s.shutDown st = .error e t := by
  unfold shutDown
  rw [h]
  dsimp only
  rw [if_neg (Bool.eq_false_iff.mp he)]

/-! ## Halting the transport -/

/-- **Halting the transport** ends the session, or leaves it as it was with a fault. -/
theorem halt_cases (s : Session σ) (st : State σ) :
    (∃ e scene, s.halt st =
        .error e (st.having scene [{ message := .halt, delivered := false }])) ∨
      ∃ scene, s.halt st = .ok () (st.ended scene [{ message := .halt, delivered := true }]) := by
  rcases hlink : s.link .halt st.scene with ⟨info, scene⟩ | ⟨e, scene⟩
  · exact .inr ⟨scene, Attempt.bind_of_ok (s.send_of_ok hlink) _⟩
  · exact .inl ⟨e, scene, Attempt.bind_of_error (s.send_of_error hlink) _⟩

/-! ## Stopping -/

/-- A stop that has come to the transport after some messages. -/
def Halted (s : Session σ) (st : State σ) (parting : List Sending) : Prop :=
  (∃ e scene, s.stop st =
      .error e (st.having scene (parting ++ [{ message := .halt, delivered := false }]))) ∨
    ∃ scene, s.stop st =
      .ok () (st.ended scene (parting ++ [{ message := .halt, delivered := true }]))

/-- **A stop of a session that is not started** comes to the transport at once. -/
theorem halted_of_not_started (s : Session σ) {st : State σ} (h : st.started = false) :
    s.Halted st [] := by
  unfold Halted
  rw [stop_eq, h, if_neg Bool.false_ne_true]
  exact s.halt_cases st

/-- **A stop whose asking is over** comes to the transport. -/
theorem halted_of_shutDown {s : Session σ} {st : State σ} {scene : Scene σ}
    {parting : List Sending} (hstarted : st.started = true)
    (h : s.shutDown st = .ok () (st.having scene parting)) : s.Halted st parting := by
  unfold Halted
  rw [stop_eq, hstarted, if_pos rfl, Attempt.bind_of_ok h]
  rcases s.halt_cases (st.having scene parting) with ⟨e, scene', hhalt⟩ | ⟨scene', hhalt⟩
  · exact .inl ⟨e, scene', by rw [hhalt, State.having_having]⟩
  · exact .inr ⟨scene', by rw [hhalt, State.ended_having]⟩

/-- **A stop whose asking ends with a fault** that is not put aside ends with it. -/
theorem stop_of_farewell_error {s : Session σ} {st t : State σ} {e : Fault}
    (hstarted : st.started = true) (h : s.farewell st = .error e t) (he : isAbsorbed e = false) :
    s.stop st = .error e t := by
  rw [stop_eq, hstarted, if_pos rfl]
  exact Attempt.bind_of_error (shutDown_of_error h he) _

/-- **A stop** asks the server if the session is started, and comes to the transport unless asking
ends with a fault that is not put aside. -/
theorem stop_outcome (s : Session σ) (st : State σ) :
    ∃ parting, Parting st.started parting ∧
      (((st.started = true → ∀ e t, s.farewell st = .error e t → isAbsorbed e = true) ∧
          s.Halted st parting) ∨
        ∃ e scene, st.started = true ∧ isAbsorbed e = false ∧
          s.farewell st = .error e (st.having scene parting) ∧
          s.stop st = .error e (st.having scene parting)) := by
  rcases hstarted : st.started
  · exact ⟨[], .silent, .inl ⟨nofun, s.halted_of_not_started hstarted⟩⟩
  obtain ⟨parting, scene, hparting, hok | ⟨e, hfault⟩⟩ := s.farewell_cases st
  · refine ⟨parting, hparting, .inl ⟨fun _ e t hfault => ?_,
      halted_of_shutDown hstarted (shutDown_of_ok hok)⟩⟩
    rw [hok] at hfault
    cases hfault
  refine ⟨parting, hparting, ?_⟩
  rcases he : isAbsorbed e
  · exact .inr ⟨e, scene, rfl, he, hfault, stop_of_farewell_error hstarted hfault he⟩
  · obtain ⟨scene', hshut⟩ := shutDown_of_absorbed hfault he
    refine .inl ⟨fun _ f t hfault' => ?_, halted_of_shutDown hstarted hshut⟩
    rw [hfault] at hfault'
    cases hfault'
    exact he

/-- **What a stop tears down.** If the session is started and asking the server to shut down ends
with a fault that is not put aside, the stop ends with it there and then: the transport is not
halted, and the handshake, the documents and the interpreter are kept. In all other cases it comes to
the transport, and once that is halted nothing of the session is left; only a fault of the transport
itself leaves the session as it was. -/
theorem teardown_of_stop (s : Session σ) (st : State σ) :
    let ended := s.stop.after st
    let kept := ended.started = st.started ∧ ended.opened = st.opened ∧ ended.cache = st.cache
    ∃ parting, Parting st.started parting ∧
      ((∃ e, st.started = true ∧ isAbsorbed e = false ∧ s.farewell.answer st = .error e ∧
          s.stop.answer st = .error e ∧ ended.sent = st.sent ++ parting ∧ kept) ∨
        ((st.started = true → ∀ e, s.farewell.answer st = .error e → isAbsorbed e = true) ∧
          ∃ delivered,
            ended.sent = st.sent ++ (parting ++ [{ message := .halt, delivered }]) ∧
            if delivered then
              s.stop.answer st = .ok () ∧ ended.started = false ∧ ended.opened = [] ∧
                ended.cache = none
            else (∃ e, s.stop.answer st = .error e) ∧ kept)) := by
  intro ended kept
  obtain ⟨parting, hparting, ⟨habsorbed, hhalted⟩ | ⟨e, scene, hstarted, he, hfault, hstop⟩⟩ :=
    s.stop_outcome st
  · refine ⟨parting, hparting, .inr ⟨fun hstarted e hfault =>
      habsorbed hstarted e _ (Attempt.eq_error_of_answer hfault), ?_⟩⟩
    rcases hhalted with ⟨e, scene, hstop⟩ | ⟨scene, hstop⟩
    · refine ⟨false, ?_⟩
      simp only [kept, ended, Attempt.after_of_error hstop]
      exact ⟨rfl, ⟨e, Attempt.answer_of_error hstop⟩, rfl, rfl, rfl⟩
    · refine ⟨true, ?_⟩
      simp only [ended, Attempt.after_of_ok hstop]
      exact ⟨rfl, Attempt.answer_of_ok hstop, rfl, rfl, rfl⟩
  · refine ⟨parting, hparting, .inl ⟨e, hstarted, he, Attempt.answer_of_error hfault,
      Attempt.answer_of_error hstop, ?_⟩⟩
    simp only [kept, ended, Attempt.after_of_error hstop]
    exact ⟨rfl, rfl, rfl, rfl⟩

/-- Why a server whose pipe is broken in an unforeseen way does not shut down. -/
def unreachable : Message → Option Fault
  | .shutdown => some (.refused (.ofCode 5 "Input/output error"))
  | _ => none

/-- A session with such a server. -/
def unheard : Session Unit := facing Resolver.pipenvHost (losing unreachable)

/-- The state of that session once it is started with a document. -/
def unheardStarted : State Unit :=
  Attempt.afterAll unheard.perform
    { scene := { world := () }, workspace := { root := unheard.root } }
    [.openDocument (.ofText "a.py"), .start ["serve"]]

/-- A stop that leaves the transport running, and the session as it was. -/
theorem transport_left_running :
    (unheard.stop.answer unheardStarted).isOk = false ∧
      (∀ x ∈ (unheard.stop.after unheardStarted).sent, x.message ≠ .halt) ∧
      (unheard.stop.after unheardStarted).started = true ∧
      (unheard.stop.after unheardStarted).opened = ["file:///w/a.py"] ∧
      (unheard.stop.after unheardStarted).cache =
        some ⟨"/venvs/w", "/venvs/w/bin/python", .pipenv⟩ := by
  decide +kernel

end LspHost.Session
