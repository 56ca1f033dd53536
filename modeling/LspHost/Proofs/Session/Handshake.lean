import LspHost.Proofs.Machine.Faults
import LspHost.Proofs.Session.Faults

/-!
# The order of the handshake

Whatever goes wrong in a start, what it sends is the beginning of its plan with at most the last
message lost (`Session.sent_start`), and the session counts as started exactly if it did before or the
settings of this start got through (`Session.accounts_start`). A failed start sent nothing or was
refused the program, and leaves the session as it was.
-/

namespace LspHost

namespace Session

variable {σ α : Type}

/-! ## When a session counts as started -/

/-- Whether settings were sent that got through. -/
def Pushed (sent : List Sending) : Prop :=
  ∃ settings, { message := .configurationChanged settings, delivered := true } ∈ sent

/-- The handshake is done afterwards if it was done before or settings got through in between. -/
def Accounts (s t : State σ) : Prop :=
  ∃ more, t.sent = s.sent ++ more ∧ (t.started = true ↔ s.started = true ∨ Pushed more)

theorem not_pushed_of_cutShort {plan : List Topic} {sent : List Sending} (h : CutShort plan sent)
    (hplan : .settings ∉ plan) : ¬ Pushed sent := by
  rintro ⟨settings, hmem⟩
  exact hplan (h.mem hmem)

theorem pushed_append {sent more : List Sending} :
    Pushed (sent ++ more) ↔ Pushed sent ∨ Pushed more := by
  constructor
  · rintro ⟨settings, hmem⟩
    rcases List.mem_append.mp hmem with hmem | hmem
    · exact .inl ⟨settings, hmem⟩
    · exact .inr ⟨settings, hmem⟩
  · rintro (⟨settings, hmem⟩ | ⟨settings, hmem⟩)
    · exact ⟨settings, List.mem_append_left _ hmem⟩
    · exact ⟨settings, List.mem_append_right _ hmem⟩

theorem Accounts.refl (s : State σ) : Accounts s s :=
  ⟨[], by simp, by simp [Pushed]⟩

theorem Accounts.trans (s t u : State σ) (hst : Accounts s t) (htu : Accounts t u) :
    Accounts s u := by
  obtain ⟨more, hsent, hstarted⟩ := hst
  obtain ⟨more', hsent', hstarted'⟩ := htu
  refine ⟨more ++ more', by rw [hsent', hsent, List.append_assoc], ?_⟩
  rw [hstarted', hstarted, pushed_append, or_assoc]

/-- **A plan without settings** accounts for a handshake that is as it was. -/
theorem accounts_of_carries {plan : List Topic} {act : Run σ α} {st : State σ}
    (h : Carries plan act st) (hsteady : act.Keeps Steady) (hplan : .settings ∉ plan) :
    Accounts st (act.after st) := by
  obtain ⟨more, hsent, hcut⟩ := h.cutShort
  refine ⟨more, hsent, ?_⟩
  rw [(hsteady st).started, or_iff_left (not_pushed_of_cutShort hcut hplan)]

theorem accounts_launch (s : Session σ) (given : List String) :
    (s.launch given).Keeps Accounts := by
  intro st
  rcases hcommand : s.commandLine given with e | argv
  · rcases s.launch_cases given st with ⟨f, -, hrun⟩ | ⟨argv, u, hsome, -⟩
    · rw [Attempt.after_of_error hrun]
      exact .refl st
    · rw [hcommand] at hsome
      cases hsome
  · refine accounts_of_carries (s.carries_launch hcommand st) ?_ (by simp)
    exact (s.untouched_launch given).mono fun _ _ => Untouched.toSteady

theorem accounts_greet (s : Session σ) : s.greet.Keeps Accounts := fun st =>
  accounts_of_carries (s.carries_greet st) (s.untouched_greet.mono fun _ _ => Untouched.toSteady)
    (by simp)

/-- **A push** that gets through makes the session count as started. -/
theorem accounts_push (s : Session σ) (nested : Value) : (s.push nested).Keeps Accounts := by
  intro st
  rcases s.push_cases nested st with ⟨e, scene, hrun⟩ | ⟨scene, hrun⟩
  · rw [Attempt.after_of_error hrun]
    exact ⟨_, rfl, by simp [Pushed, State.afterSending]⟩
  · rw [Attempt.after_of_ok hrun]
    exact ⟨_, rfl, by simp [Pushed]⟩

theorem accounts_openDocument (s : Session σ) (path : Path) :
    (s.openDocument path).Keeps Accounts := fun st =>
  accounts_of_carries (s.carries_openDocument path st) (s.steady_openDocument path) (by simp)

theorem accounts_openAll (s : Session σ) : s.openAll.Keeps Accounts :=
  .bind Accounts.trans (.get Accounts.refl) fun _ =>
    .forM Accounts.refl Accounts.trans (fun _ => s.accounts_openDocument _) _

/-- **After a start** the session counts as started if it did before or the settings of this start
got through, wherever the start ended. -/
theorem accounts_start (s : Session σ) (given : List String) : (s.start given).Keeps Accounts := by
  rw [start_eq]
  refine .bind Accounts.trans (s.accounts_launch given) fun _ => ?_
  refine .bind Accounts.trans s.accounts_greet fun answer => ?_
  refine .bind Accounts.trans (s.accounts_push answer.2) fun _ => ?_
  exact .bind Accounts.trans s.accounts_openAll fun _ => .pure Accounts.refl answer.1

/-! ## The order -/

/-- **A start keeps the order of the handshake**, wherever it ends. The messages that it sends are
the first ones of its plan, and only the last of them may have been lost: the program is spawned, the
handshake goes on from there to the settings, and then each live document that is not open yet is
opened, in the order of the workspace. A start that returns has sent all of them. The session counts
as started if it did before or the settings of this start got through. If nothing else can raise it,
a failed start says that there is no command, and nothing was sent, or that the program was refused,
and only that was sent; either way the session is as it was. -/
theorem order_of_start (s : Session σ) (given : List String) (st : State σ) :
    let ended := (s.start given).after st
    ∃ calls, ended.sent = st.sent ++ calls ∧
      (∀ x ∈ calls.dropLast, x.delivered = true) ∧
      (match s.commandLine given with
        | .ok argv =>
          let plan := [.spawn argv s.root.text, .handshake, .initialized, .settings] ++
            (s.awaiting st).map Topic.opened
          calls.map Sending.topic <+: plan ∧
            (((s.start given).answer st).isOk = true →
              calls.map Sending.topic = plan ∧ ∀ x ∈ calls, x.delivered = true)
        | .error _ => calls = []) ∧
      (st.workspace.Orderly → s.awaiting st =
        (st.workspace.liveDocuments.map s.uriOf).filter fun uri => !st.opened.contains uri) ∧
      (ended.started = true ↔ st.started = true ∨ Pushed calls) ∧
      ((∀ message, (s.link message).Raises Fault.IsForeign) → s.host.Raises Fault.IsForeign →
        ∀ problem, (s.start given).answer st = .error (.launchFailed problem) →
          ((given = [] ∧ (s.config.value .command).items? = some [] ∧ calls = []) ∨
            ∃ argv u refusal scene, s.commandLine given = .ok argv ∧
              s.link (.spawn argv s.root.text) u = .error (.refused refusal) scene ∧
              calls = [{ message := .spawn argv s.root.text, delivered := false }]) ∧
          ended.started = st.started ∧ ended.opened = st.opened ∧ ended.cache = st.cache) := by
  intro ended
  obtain ⟨calls, hsent, horder⟩ := s.sent_start given st
  obtain ⟨more, hmore, hstarted⟩ := s.accounts_start given st
  obtain rfl := List.append_cancel_left (hsent.symm.trans hmore)
  have hdelivered : ∀ x ∈ calls.dropLast, x.delivered = true := by
    rcases horder with ⟨e, -, -, rfl⟩ | ⟨argv, -, hcut, -⟩
    · simp
    · exact hcut.delivered
  refine ⟨calls, hsent, hdelivered, ?_, fun hw => unopened_of_nodup (s.nodup_uris hw) _, hstarted,
    fun hlink hhost problem hfailed => ?_⟩
  · rcases horder with ⟨e, hcommand, -, hnone⟩ | ⟨argv, hcommand, hcut, hwhole⟩
    · rw [hcommand]
      exact hnone
    · rw [hcommand]
      exact ⟨hcut.topics, fun hok => ⟨(hwhole hok).topics, (hwhole hok).delivered⟩⟩
  have hrun : s.start given st = .error (.launchFailed problem) ended :=
    Attempt.eq_error_of_answer hfailed
  change ended.sent = st.sent ++ calls at hsent
  rcases start_of_launchFailed hlink hhost hrun with ⟨hgiven, hitems, hsame⟩ |
    ⟨argv, u, refusal, scene, hcommand, hspawn, -, hlost⟩
  · rw [hsame] at hsent ⊢
    obtain rfl := List.append_right_eq_self.mp hsent.symm
    exact ⟨.inl ⟨hgiven, hitems, rfl⟩, rfl, rfl, rfl⟩
  · rw [hlost] at hsent ⊢
    obtain rfl : calls = [{ message := .spawn argv s.root.text, delivered := false }] :=
      (List.append_cancel_left hsent).symm
    exact ⟨.inr ⟨argv, u, refusal, scene, hcommand, hspawn, rfl⟩, rfl, rfl, rfl⟩

/-- Why a program that is not there cannot be spawned. -/
def stranded : Message → Option Fault
  | .spawn .. => some (.refused (.ofCode 2 "No such file or directory"))
  | _ => none

/-- On a machine on which nobody has worked yet, a program that is not there fails the start, and nothing
else is sent. -/
theorem order_of_stranded_start :
    let m : Machine := { files := Machine.systemFiles, directory := [], environment := [] }
    let s := facing (Machine.host none) (losing stranded)
    let st : State Machine := { scene := { world := m }, workspace := { root := s.root } }
    (s.start ["serve"]).answer st =
        .error (.launchFailed (.refused "serve" "[Errno 2] No such file or directory")) ∧
      ((s.start ["serve"]).after st).sent =
        [{ message := .spawn ["serve"] "/w", delivered := false }] ∧
      ((s.start ["serve"]).after st).started = false := by
  intro m s st
  have hfailed : (s.start ["serve"]).answer st =
      .error (.launchFailed (.refused "serve" "[Errno 2] No such file or directory")) := by
    decide +kernel
  have hforeign : ∀ message e, stranded message = some e → e.IsForeign := by
    intro message e h
    cases message <;> cases h
    exact nofun
  obtain ⟨calls, hsent, -, -, -, -, hproblem⟩ := order_of_start s ["serve"] st
  obtain ⟨⟨hgiven, -⟩ | ⟨argv, u, refusal, scene, hcommand, -, hcalls⟩, hstarted, -⟩ :=
    hproblem (raises_losing hforeign) (Machine.raises_host none) _ hfailed
  · cases hgiven
  · obtain rfl : ["serve"] = argv := Except.ok.inj hcommand
    have hroot : s.root.text = "/w" := by decide +kernel
    rw [hcalls, hroot] at hsent
    exact ⟨hfailed, hsent, hstarted⟩

end Session

end LspHost
