import LspHost.Proofs.Resolver.Faults
import LspHost.Proofs.Session.Start

/-!
# Where a failed start comes from

Everything that a start does beside finding its command and spawning it raises faults of other kinds
than a failed start (`Fault.IsForeign`), as long as the host and the way to the server do. So a start
that ends as a failed one found no command or was refused the program, and has done nothing else
(`Session.start_of_launchFailed`).
-/

namespace LspHost

variable {σ : Type}

/-! ## Values and texts -/

theorem Interpreter.isForeign_of_itemsOf {value : Value} {e : Fault}
    (h : Interpreter.itemsOf value = .error e) : e.IsForeign := by
  unfold Interpreter.itemsOf at h
  split at h
  · cases h
  · cases h
    exact nofun

theorem Interpreter.isForeign_of_options {c : Config} {python : String} {info : Interpreter}
    {e : Fault} (h : Interpreter.options c python info = .error e) : e.IsForeign := by
  unfold Interpreter.options at h
  rcases hextra : Interpreter.itemsOf (c.value .extraPaths) with f | extra
  · rw [hextra] at h
    cases h
    exact isForeign_of_itemsOf hextra
  rcases hstubs : Interpreter.itemsOf (c.value .typeStubPaths) with f | stubs
  · rw [hextra, hstubs] at h
    cases h
    exact isForeign_of_itemsOf hstubs
  rcases hexcluded : Interpreter.itemsOf (c.value .excludeFiles) with f | excluded
  · rw [hextra, hstubs, hexcluded] at h
    cases h
    exact isForeign_of_itemsOf hexcluded
  · rw [hextra, hstubs, hexcluded] at h
    cases h

/-- **Putting a value into nested settings** is at fault with the settings, not with a launch. -/
theorem Settings.isForeign_of_insertAt {parts : List String} {value nested : Value} {e : Fault}
    (h : Settings.insertAt parts value nested = .error e) : e.IsForeign := by
  induction parts, value, nested using Settings.insertAt.induct with
  | case1 value nested => cases h
  | case2 leaf value fields => cases h
  | case3 leaf value nested hother =>
    rw [Settings.insertAt.eq_3 _ _ _ hother] at h
    cases h
    exact nofun
  | case4 part next rest value fields ih =>
    rcases hinner : Settings.insertAt (next :: rest) value
        ((Table.find? part fields).getD (.table [])) with f | inner
    · rw [Settings.insertAt, hinner] at h
      cases h
      exact ih hinner
    · rw [Settings.insertAt, hinner] at h
      cases h
  | case5 part next rest value nested hother =>
    rw [Settings.insertAt.eq_5 _ _ _ _ _ hother] at h
    cases h
    exact nofun

theorem Settings.isForeign_of_nest {snapshot : Snapshot} {e : Fault}
    (h : Settings.nest snapshot = .error e) : e.IsForeign := by
  unfold Settings.nest at h
  generalize Value.table [] = nested at h
  induction snapshot generalizing nested with
  | nil => cases h
  | cons entry rest ih =>
    rw [List.foldlM_cons] at h
    rcases hentry : Settings.insertEntry nested entry with f | grown
    · rw [hentry] at h
      cases h
      exact isForeign_of_insertAt hentry
    · rw [hentry] at h
      exact ih grown h

/-! ## The interpreter and the settings -/

theorem Interpreter.raises_ofOutput (python output : String) :
    (Interpreter.ofOutput python output : Act σ Interpreter).Raises Fault.IsForeign := by
  unfold Interpreter.ofOutput
  split
  · exact .pure _
  · exact .bind (Act.raises_note _ _ _) fun _ => .pure _
  · exact .throw nofun
  · exact .throw nofun

theorem Interpreter.raises_inspect {run : Runner σ} {python : String} {directory : Option String}
    (h : ∀ command arguments directory,
      (run command arguments directory).Raises Fault.IsForeign) :
    (Interpreter.inspect run python directory).Raises Fault.IsForeign := by
  unfold Interpreter.inspect
  split
  · exact .pure _
  refine .bind (Act.raises_settle (h _ _ _)) fun reply => ?_
  cases reply with
  | error query => exact .bind (Act.raises_note _ _ _) fun _ => .pure _
  | ok output => exact Interpreter.raises_ofOutput _ _

theorem Snapshot.raises_take {c : Config} {r : Resolver σ} (h : r.host.Raises Fault.IsForeign)
    (file : Option Path) : (Snapshot.take c r file).Raises Fault.IsForeign :=
  .bind (Resolver.raises_python h) fun _ =>
    .bind (Resolver.raises_venv h nofun file) fun _ => .pure _

namespace Session

/-! ## Parts of a start -/

/-- **Finding the command** is a failed start if none is given and none is configured. -/
theorem commandLine_eq_launchFailed {s : Session σ} {given : List String} {problem : LaunchProblem}
    (h : s.commandLine given = .error (.launchFailed problem)) :
    given = [] ∧ (s.config.value .command).items? = some [] := by
  unfold commandLine at h
  cases given with
  | nil =>
    rcases hitems : (s.config.value .command).items? with _ | _ | ⟨word, words⟩
    · simp [Interpreter.itemsOf, hitems, bind, Except.bind] at h
    · exact ⟨rfl, rfl⟩
    · simp only [List.isEmpty_nil, if_true, Interpreter.itemsOf, hitems, bind, Except.bind,
        List.isEmpty_cons, Bool.false_eq_true, if_false] at h
      split at h <;> cases h
  | cons word words =>
    simp only [List.isEmpty_cons, Bool.false_eq_true, if_false, pure, Except.pure, bind,
      Except.bind, List.map_cons] at h
    split at h <;> cases h

/-- **Spawning** is a failed start if the program is refused. -/
theorem asLaunchFault_eq_launchFailed {argv : List String} {e : Fault} {problem : LaunchProblem}
    (he : e.IsForeign) (h : asLaunchFault argv e = .launchFailed problem) :
    ∃ refusal, e = .refused refusal ∧ problem = .refused (argv.headD "") refusal.text := by
  cases e with
  | refused refusal => exact ⟨refusal, rfl, (Fault.launchFailed.inj h).symm⟩
  | launchFailed other => exact absurd rfl (he other)
  | queryFailed | badText | undecodable | wrongType | notTable | linkLoop | tooDeep | badState
  | foreign => cases h

theorem raises_send {s : Session σ} {message : Message}
    (h : (s.link message).Raises Fault.IsForeign) : (s.send message).Raises Fault.IsForeign := by
  intro st t e he
  rcases hlink : s.link message st.scene with ⟨info, scene⟩ | ⟨f, scene⟩
  · rw [s.send_of_ok hlink] at he
    cases he
  · rw [s.send_of_error hlink] at he
    cases he
    exact h _ _ _ hlink

theorem raises_losing {P : Fault → Prop} {lost : Message → Option Fault}
    (h : ∀ message e, lost message = some e → P e) (message : Message) :
    (losing lost message : Act σ (Option ServerInfo)).Raises P := by
  unfold losing
  split
  · next e hlost => exact .throw (h message e hlost)
  · exact .pure _

theorem raises_documentText {s : Session σ} {path : Path}
    (h : (s.host.read path).Raises Fault.IsForeign) :
    (s.documentText path).Raises Fault.IsForeign := by
  intro scene t e he
  unfold documentText at he
  split at he
  · split at he
    · cases he
    · cases he
      exact nofun
  · cases he
  · next hread =>
    cases he
    exact h _ _ _ hread

section Foreign

variable {s : Session σ} (hlink : ∀ message, (s.link message).Raises Fault.IsForeign)
  (hhost : s.host.Raises Fault.IsForeign)

include hlink hhost

theorem raises_greet : s.greet.Raises Fault.IsForeign := by
  refine .bind (.bind .get fun _ => .lift (Snapshot.raises_take hhost _)) fun answer => ?_
  refine .bind (.lift (Interpreter.raises_inspect hhost.run)) fun info => ?_
  refine .bind (.lift (Act.raises_note _ _ _)) fun _ => ?_
  refine .bind (.ofExcept fun e => Interpreter.isForeign_of_options) fun options => ?_
  refine .bind (raises_send (hlink _)) fun answer => ?_
  refine .bind (.lift (Act.raises_note _ _ _)) fun _ => ?_
  refine .bind (raises_send (hlink _)) fun _ => ?_
  exact .bind (.ofExcept fun e => Settings.isForeign_of_nest) fun nested => .pure _

theorem raises_openDocument (path : Path) : (s.openDocument path).Raises Fault.IsForeign := by
  refine .bind .get fun st => ?_
  by_cases hopen : st.opened.contains (s.root.join path).uri = true
  · rw [if_pos hopen]
    exact .pure ()
  · rw [if_neg hopen]
    exact .bind (.lift (raises_documentText (hhost.read _))) fun text =>
      .bind (raises_send (hlink _)) fun _ => .modify _

theorem raises_openAll : s.openAll.Raises Fault.IsForeign :=
  .bind .get fun _ => .forM (fun _ => raises_openDocument hlink hhost _) _

/-- **A failed start** found no command, and did nothing; or the program was refused, and all that
it did beside noting a record was to ask for it. -/
theorem start_of_launchFailed {given : List String} {problem : LaunchProblem} {st t : State σ}
    (h : s.start given st = .error (.launchFailed problem) t) :
    (given = [] ∧ (s.config.value .command).items? = some [] ∧ t = st) ∨
      ∃ argv u refusal scene, s.commandLine given = .ok argv ∧
        s.link (.spawn argv s.root.text) u = .error (.refused refusal) scene ∧
        problem = .refused (argv.headD "") refusal.text ∧
        t = st.afterSending scene (.spawn argv s.root.text) false := by
  rw [start_eq] at h
  -- only the first of the four parts can end like this
  have hlaunch : s.launch given st = .error (.launchFailed problem) t := by
    rcases Attempt.bind_eq_error h with h | ⟨_, u, -, h⟩
    · exact h
    have hrest := (Attempt.Raises.bind (raises_greet hlink hhost) fun answer =>
      .bind (.bind (raises_send (hlink _)) fun _ => .modify _) fun _ =>
        .bind (raises_openAll hlink hhost) fun _ => .pure answer.1) u t _ h
    exact absurd rfl (hrest problem)
  rcases s.launch_cases given st with ⟨e, hcommand, hrun⟩ |
    ⟨argv, u, hcommand, ⟨e, scene, hspawn, hrun⟩ | ⟨info, scene, -, hrun⟩⟩
  all_goals rw [hlaunch] at hrun
  · cases hrun
    obtain ⟨hgiven, hitems⟩ := commandLine_eq_launchFailed hcommand
    exact .inl ⟨hgiven, hitems, rfl⟩
  · injection hrun with hfault hstate
    obtain ⟨refusal, rfl, hproblem⟩ :=
      asLaunchFault_eq_launchFailed (hlink _ _ _ _ hspawn) hfault.symm
    exact .inr ⟨argv, u, refusal, scene, hcommand, hspawn, hproblem, hstate⟩
  · cases hrun

end Foreign

end Session

end LspHost
