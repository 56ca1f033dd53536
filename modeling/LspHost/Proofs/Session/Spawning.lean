import LspHost.Proofs.Session.Lifecycle

/-!
# Programs that are spawned

A start spawns one program, with the command that it is given or else with the configured one, and it does
so before anything else (`Session.spawned_start`). Whatever becomes of the start after that, and of a stop,
nothing is spawned again.
-/

namespace LspHost.Session

variable {σ α β : Type} {s : Session σ}

/-! ## Commands -/

theorem mapM_string? (argv : List String) : (argv.map Value.string).mapM Value.string? = some argv := by
  induction argv with
  | nil => rfl
  | cons word rest ih =>
    rw [List.map_cons, List.mapM_cons, ih]
    rfl

/-- **A command that is given** is the one to spawn. -/
theorem commandLine_of_given (s : Session σ) {argv : List String} (hargv : argv ≠ []) :
    s.commandLine argv = .ok argv := by
  have hgiven : ¬ argv.isEmpty = true := by simpa using hargv
  have hany : ¬ (argv.map Value.string).isEmpty = true := by simpa using hargv
  unfold commandLine
  simp only [if_neg hgiven, pure_bind, if_neg hany, mapM_string?]
  rfl

/-- **A configured command** is the one to spawn where none is given. -/
theorem commandLine_of_config {argv : List String} (hargv : argv ≠ [])
    (hconfig : s.config.value .command = .list (argv.map .string)) : s.commandLine [] = .ok argv := by
  have hany : ¬ (argv.map Value.string).isEmpty = true := by simpa using hargv
  have hitems : Interpreter.itemsOf (s.config.value .command) = pure (argv.map .string) := by
    rw [hconfig]
    rfl
  unfold commandLine
  simp only [List.isEmpty_nil, if_true, hitems, pure_bind, if_neg hany, mapM_string?]
  rfl

/-! ## Nothing more is spawned -/

/-- Whether a message spawns a program. -/
def isSpawning (x : Sending) : Bool := x.topic matches .spawn ..

/-- Messages may have been sent, none of which spawns a program. -/
def SpawnsNothing (st t : State σ) : Prop :=
  ∃ more, t.sent = st.sent ++ more ∧ ∀ x ∈ more, isSpawning x = false

theorem SpawnsNothing.refl (st : State σ) : SpawnsNothing st st := ⟨[], by rw [List.append_nil], nofun⟩

theorem SpawnsNothing.trans (st t u : State σ) (hst : SpawnsNothing st t) (htu : SpawnsNothing t u) :
    SpawnsNothing st u := by
  obtain ⟨first, hfirst, hnone⟩ := hst
  obtain ⟨second, hsecond, hnone'⟩ := htu
  refine ⟨first ++ second, by rw [hsecond, hfirst, List.append_assoc], fun x hx => ?_⟩
  exact (List.mem_append.mp hx).elim (hnone x) (hnone' x)

theorem spawnsNothing_of_quiet {act : Run σ α} (h : act.Keeps Quiet) : act.Keeps SpawnsNothing :=
  h.mono fun _ _ hst => ⟨[], by rw [hst.sent, List.append_nil], nofun⟩

/-- **A plan without programs** is carried out without spawning any. -/
theorem Carries.spawnsNothing {plan : List Topic} {act : Run σ α} {st : State σ} (h : Carries plan act st)
    (hplan : ∀ argv directory, Topic.spawn argv directory ∉ plan) : SpawnsNothing st (act.after st) := by
  obtain ⟨more, hsent, hcut⟩ := h.cutShort
  refine ⟨more, hsent, fun x hx => ?_⟩
  have hmem := hcut.mem hx
  unfold isSpawning
  split
  · next argv directory htopic => exact absurd (htopic ▸ hmem) (hplan argv directory)
  · rfl

theorem spawnsNothing_greet (s : Session σ) : s.greet.Keeps SpawnsNothing := fun st =>
  (s.carries_greet st).spawnsNothing (by simp)

theorem spawnsNothing_push (s : Session σ) (nested : Value) : (s.push nested).Keeps SpawnsNothing :=
  fun st => (s.carries_push nested st).spawnsNothing (by simp)

theorem spawnsNothing_openAll (s : Session σ) : s.openAll.Keeps SpawnsNothing :=
  .bind SpawnsNothing.trans (.get SpawnsNothing.refl) fun _ st =>
    (s.carries_openEach _ st).spawnsNothing (by simp)

theorem Parting.spawnsNothing {isStarted : Bool} {parting : List Sending} (h : Parting isStarted parting) :
    ∀ x ∈ parting, isSpawning x = false := by
  intro x hx
  rcases h.topic_of_mem hx with htopic | htopic <;> rw [isSpawning, htopic]

/-- **A stop** spawns nothing. -/
theorem spawnsNothing_stop (s : Session σ) : s.stop.Keeps SpawnsNothing := by
  intro st
  obtain ⟨parting, hparting, ⟨-, ⟨e, scene, hrun⟩ | ⟨scene, hrun⟩⟩ | ⟨e, scene, -, -, -, hrun⟩⟩ :=
    s.stop_outcome st
  all_goals have hasked := hparting.spawnsNothing
  · rw [Attempt.after_of_error hrun]
    exact ⟨_, rfl, List.forall_mem_append.mpr ⟨hasked, List.forall_mem_singleton.mpr rfl⟩⟩
  · rw [Attempt.after_of_ok hrun]
    exact ⟨_, rfl, List.forall_mem_append.mpr ⟨hasked, List.forall_mem_singleton.mpr rfl⟩⟩
  · rw [Attempt.after_of_error hrun]
    exact ⟨_, rfl, hasked⟩

/-! ## One program -/

/-- A program was spawned in a directory, or refused, and nothing was sent before and nothing spawned after
it. -/
def Spawned (argv : List String) (directory : String) (st t : State σ) : Prop :=
  ∃ delivered more, t.sent = st.sent ++ { message := .spawn argv directory, delivered } :: more ∧
    ∀ x ∈ more, isSpawning x = false

/-- **Where nothing more is spawned** the program stays the only one. -/
theorem Spawned.trans {argv : List String} {directory : String} {st t u : State σ}
    (h : Spawned argv directory st t) (hmore : SpawnsNothing t u) : Spawned argv directory st u := by
  obtain ⟨delivered, first, hfirst, hnone⟩ := h
  obtain ⟨second, hsecond, hnone'⟩ := hmore
  refine ⟨delivered, first ++ second, ?_, fun x hx => ?_⟩
  · rw [hsecond, hfirst, List.append_assoc, List.cons_append]
  · exact (List.mem_append.mp hx).elim (hnone x) (hnone' x)

/-- **After a program is spawned** only what spawns none may follow. -/
theorem Spawned.bind {argv : List String} {directory : String} {act : Run σ α} {next : α → Run σ β}
    {st : State σ} (h : Spawned argv directory st (act.after st))
    (hnext : ∀ a, (next a).Keeps SpawnsNothing) :
    Spawned argv directory st ((act >>= next).after st) := by
  rcases hrun : act st with ⟨a, t⟩ | ⟨e, t⟩
  · rw [Attempt.after_of_ok hrun] at h
    have hafter : (act >>= next).after st = (next a).after t := by
      unfold Attempt.after
      rw [Attempt.bind_of_ok hrun]
    rw [hafter]
    exact h.trans (hnext a t)
  · rw [Attempt.after_of_error hrun] at h
    rw [Attempt.after_of_error (Attempt.bind_of_error hrun next)]
    exact h

/-- **A launch** spawns its command. -/
theorem spawned_launch {given argv : List String} (hcommand : s.commandLine given = .ok argv)
    (st : State σ) : Spawned argv s.root.text st ((s.launch given).after st) := by
  rcases s.launch_cases given st with ⟨e, hnone, -⟩ |
    ⟨argv', u, hsome, ⟨e, scene, -, hrun⟩ | ⟨info, scene, -, hrun⟩⟩
  · cases hcommand.symm.trans hnone
  · cases hcommand.symm.trans hsome
    rw [Attempt.after_of_error hrun]
    exact ⟨false, [], rfl, nofun⟩
  · cases hcommand.symm.trans hsome
    rw [Attempt.after_of_ok hrun]
    exact ⟨true, [], rfl, nofun⟩

/-- **A start** spawns its command, and nothing else. -/
theorem spawned_start {given argv : List String} (hcommand : s.commandLine given = .ok argv)
    (st : State σ) : Spawned argv s.root.text st ((s.start given).after st) := by
  rw [start_eq]
  refine (spawned_launch hcommand st).bind fun _ => ?_
  refine .bind SpawnsNothing.trans s.spawnsNothing_greet fun answer => ?_
  refine .bind SpawnsNothing.trans (s.spawnsNothing_push answer.2) fun _ => ?_
  exact .bind SpawnsNothing.trans s.spawnsNothing_openAll fun _ => .pure SpawnsNothing.refl _

end LspHost.Session
