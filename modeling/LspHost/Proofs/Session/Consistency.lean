import LspHost.Proofs.Session.LiveDocuments
import LspHost.Proofs.Session.Standing

/-!
# The interpreter in all reports

A start resolves the interpreter once: the same text is inspected, initialises the server and is
pushed with the settings (`Session.start_eq_introduce`, `Session.sent_of_introduce`). In a world that
stands still the settings are the same whenever they are taken again, so everything that the server
asks for later is in what was pushed (`Session.answer_answerConfiguration`).
-/

namespace LspHost

/-! ## What is reported -/

/-- **The options of the handshake** name the interpreter that was resolved, whatever is known about
it. -/
theorem Interpreter.interpreterPath_of_options {c : Config} {python : String}
    {interpreter : Interpreter} {options : Value}
    (h : Interpreter.options c python interpreter = .ok options) :
    Settings.lookupAt ["interpreter", "properties", "InterpreterPath"] options =
      some (.string python) := by
  unfold Interpreter.options at h
  obtain ⟨extra, -, h⟩ := exists_of_bind_eq_ok h
  obtain ⟨stubs, -, h⟩ := exists_of_bind_eq_ok h
  obtain ⟨excluded, -, h⟩ := exists_of_bind_eq_ok h
  cases h
  rfl

namespace Session

variable {σ : Type} {s : Session σ}

/-- **Settings can be nested** once they are taken, and report the interpreter then. -/
theorem exists_nested_of_settings {st t : State σ} {python : String} {snapshot : Snapshot}
    (h : s.settings st = .ok (python, snapshot) t) :
    ∃ pushed, Settings.nest snapshot = .ok pushed ∧
      Settings.lookup pushed (some Snapshot.pythonPathKey) = .string python := by
  obtain ⟨found, venv, rfl, rfl⟩ := exists_reporting_of_settings h
  refine ⟨_, Snapshot.nest_reporting _ _ _, ?_⟩
  rw [Snapshot.lookup_pythonPath, Snapshot.orEmpty_map_string]

/-! ## What a start sends -/

/-- What a start does once the interpreter is inspected: it initialises the server, pushes the
settings and opens the live documents. -/
def introduce (s : Session σ) (python : String) (snapshot : Snapshot) (interpreter : Interpreter) :
    Run σ (Option ServerInfo) := do
  note .info ("using interpreter " ++ orElseText python "(none)" ++ " (" ++
    orElseText interpreter.version "unknown version" ++ ")")
  let options ← Attempt.ofExcept (Interpreter.options s.config python interpreter)
  let answer ← s.send (.handshake s.process s.root options)
  note .info ("server initialised: " ++ describeInfo answer)
  let _ ← s.send .initialized
  let nested ← Attempt.ofExcept (Settings.nest snapshot)
  s.push nested
  s.openAll
  return answer

/-- **A start** launches the program, resolves the interpreter, inspects it, and introduces it to the
server. -/
theorem start_eq_introduce (s : Session σ) (given : List String) :
    s.start given = (do
      s.launch given
      let (python, snapshot) ← s.settings
      let interpreter ← lift (Interpreter.inspect s.host.run python (some s.root.text))
      s.introduce python snapshot interpreter) := by
  unfold start launch introduce push
  simp only [bind_assoc]

/-- **A launch that returns** sent that the program is spawned. -/
theorem sent_of_launch {given : List String} {st t : State σ} (h : s.launch given st = .ok () t) :
    ∃ argv, s.commandLine given = .ok argv ∧
      t.sent = st.sent ++ [{ message := .spawn argv s.root.text, delivered := true }] := by
  rcases s.launch_cases given st with ⟨e, -, hrun⟩ |
    ⟨argv, u, hcommand, ⟨e, scene, -, hrun⟩ | ⟨info, scene, -, hrun⟩⟩
  all_goals rw [hrun] at h
  · cases h
  · cases h
  · cases h
    exact ⟨argv, hcommand, rfl⟩

/-- **A message that got through** is the one thing that was sent. -/
theorem sent_of_send {message : Message} {st t : State σ} {info : Option ServerInfo}
    (h : s.send message st = .ok info t) :
    t.sent = st.sent ++ [{ message, delivered := true }] := by
  rcases hlink : s.link message st.scene with ⟨info', scene⟩ | ⟨e, scene⟩
  · rw [s.send_of_ok hlink] at h
    cases h
    rfl
  · rw [s.send_of_error hlink] at h
    cases h

/-- **The last part of a start** tells of open documents only. -/
theorem sent_of_openAll {st t : State σ} (h : s.openAll st = .ok () t) :
    ∃ openings, t.sent = st.sent ++ openings ∧
      ∀ x ∈ openings, ∃ uri text, x = { message := .opened uri text, delivered := true } := by
  obtain ⟨u, v, hget, heach⟩ := Attempt.bind_eq_ok h
  cases hget
  obtain ⟨openings, hsent, hwhole⟩ := (s.carries_openEach _ st).of_ok () t heach
  refine ⟨openings, hsent, fun x hx => ?_⟩
  obtain ⟨message, delivered⟩ := x
  obtain rfl : delivered = true := hwhole.delivered _ hx
  obtain ⟨uri, -, huri⟩ := List.mem_map.mp (hwhole.topics ▸ List.mem_map_of_mem hx)
  change Topic.opened uri = message.topic at huri
  cases message with
  | opened uri' text => exact ⟨uri', text, rfl⟩
  | spawn | handshake | initialized | configurationChanged | closed | shutdown | exit | halt =>
    cases huri

/-- **What is introduced to the server**: the options that name the interpreter, the settings, and
then the documents. -/
theorem sent_of_introduce {python : String} {snapshot : Snapshot} {interpreter : Interpreter}
    {pushed : Value} (hpushed : Settings.nest snapshot = .ok pushed) {st t : State σ}
    {info : Option ServerInfo} (h : s.introduce python snapshot interpreter st = .ok info t) :
    ∃ options openings, Interpreter.options s.config python interpreter = .ok options ∧
      t.sent = st.sent ++ ([.handshake s.process s.root options, .initialized,
        .configurationChanged pushed].map fun message => { message, delivered := true }) ++
        openings ∧
      ∀ x ∈ openings, ∃ uri text, x = { message := .opened uri text, delivered := true } := by
  obtain ⟨_, a, hnote, h⟩ := Attempt.bind_eq_ok h
  obtain ⟨options, hoptions, h⟩ := Attempt.ofExcept_bind_eq_ok h
  obtain ⟨answer, b, hhandshake, h⟩ := Attempt.bind_eq_ok h
  obtain ⟨_, c, hnote', h⟩ := Attempt.bind_eq_ok h
  obtain ⟨_, d, hinitialized, h⟩ := Attempt.bind_eq_ok h
  obtain ⟨nested, hnested, h⟩ := Attempt.ofExcept_bind_eq_ok h
  obtain rfl := Except.ok.inj (hpushed.symm.trans hnested)
  obtain ⟨_, e, hpush, h⟩ := Attempt.bind_eq_ok h
  obtain ⟨_, f, hsend, hstarted⟩ := Attempt.bind_eq_ok hpush
  obtain ⟨_, g, hopen, hreturn⟩ := Attempt.bind_eq_ok h
  cases hstarted
  cases hreturn
  obtain ⟨openings, hopenings, hopened⟩ := sent_of_openAll hopen
  refine ⟨options, openings, hoptions, ?_, hopened⟩
  rw [hopenings]
  change f.sent ++ openings = _
  rw [sent_of_send hsend, sent_of_send hinitialized, ((unmoved_note _ _).of_ok hnote').sent,
    sent_of_send hhandshake, ((unmoved_note _ _).of_ok hnote).sent]
  simp only [List.append_assoc, List.map_cons, List.map_nil, List.cons_append, List.nil_append]

/-! ## What is asked for later -/

section Later

variable {W : σ → Prop} {tool : Except Fault (Option Environment)}

/-- **In a run without a stop** that leaves the documents of the workspace alone, the memory goes on
agreeing with the world. -/
theorem agrees_of_run (h : s.StandsStill W) {st : State σ} (hst : st.Agrees s W tool)
    (calls : List Call) (hcalls : ∀ e ∈ Attempt.history s.perform st calls,
      e.call ≠ .stop ∧ e.after.workspace = e.before.workspace) :
    (Attempt.afterAll s.perform st calls).Agrees s W tool ∧
      (Attempt.afterAll s.perform st calls).workspace = st.workspace := by
  induction calls generalizing st with
  | nil => exact ⟨hst, rfl⟩
  | cons call rest ih =>
    obtain ⟨hstop, hsame⟩ := hcalls _ (List.mem_cons_self ..)
    obtain ⟨hafter, hworkspace⟩ := ih (holds_perform h hstop st hst) fun e he =>
      hcalls e (List.mem_cons_of_mem _ he)
    exact ⟨hafter, hworkspace.trans hsame⟩

/-- **Sections that are asked for later** are looked up in the settings that were taken before. -/
theorem answer_answerConfiguration (h : s.StandsStill W) {st t : State σ}
    (hst : st.Agrees s W tool) {python : String} {snapshot : Snapshot} {pushed : Value}
    (hsettings : s.settings st = .ok (python, snapshot) t)
    (hpushed : Settings.nest snapshot = .ok pushed) {later : State σ}
    (hlater : later.Agrees s W tool) (hworkspace : later.workspace = st.workspace)
    (sections : List (Option String)) :
    (s.answerConfiguration sections).answer later =
      .ok (sections.map (Settings.lookup pushed)) := by
  obtain ⟨x, hx⟩ : s.settings.IsSettled _ := isSettled_settings h st.workspace.currentFile
  obtain ⟨rfl, -⟩ := hx.eq_ok ⟨hst, rfl⟩ hsettings
  have hagain := Attempt.eq_ok_of_answer (hx later ⟨hlater, by rw [hworkspace]⟩).1
  obtain ⟨everything, heverything, hanswer⟩ := exists_nest_of_settings hagain
  obtain rfl := Except.ok.inj (hpushed.symm.trans heverything)
  exact Attempt.answer_of_ok (hanswer sections)

end Later

/-- **The interpreter is reported consistently.** A start that returns resolved the interpreter once,
and the path that it inspected is the one in the options of the handshake and in the settings that it
pushed. And as long as the world stands still from the start on, the workspace keeps its documents and
the session is not stopped, whatever the server asks for is found in the settings that were pushed,
after any calls and whatever was remembered when the start was called. -/
theorem consistent_of_start {given : List String} {st ended : State σ} {info : Option ServerInfo}
    (h : s.start given st = .ok info ended) :
    ∃ launched python snapshot settled interpreter inspected argv options pushed openings,
      s.launch given st = .ok () launched ∧
      s.settings launched = .ok (python, snapshot) settled ∧
      Interpreter.inspect s.host.run python (some s.root.text) settled.scene =
        .ok interpreter inspected ∧
      s.introduce python snapshot interpreter { settled with scene := inspected } =
        .ok info ended ∧
      Interpreter.options s.config python interpreter = .ok options ∧
      ended.sent = st.sent ++ ([.spawn argv s.root.text, .handshake s.process s.root options,
        .initialized, .configurationChanged pushed].map fun message =>
          { message, delivered := true }) ++ openings ∧
      (∀ x ∈ openings, ∃ uri text, x = { message := .opened uri text, delivered := true }) ∧
      Settings.lookupAt ["interpreter", "properties", "InterpreterPath"] options =
        some (.string python) ∧
      Settings.lookup pushed (some "python.pythonPath") = .string python ∧
      ∀ W, s.StandsStill W → Scene.In W st.scene →
        ∀ calls, (∀ e ∈ Attempt.history s.perform ended calls,
          e.call ≠ .stop ∧ e.after.workspace = e.before.workspace) →
        ∀ sections,
          (s.answerConfiguration sections).answer (Attempt.afterAll s.perform ended calls) =
            .ok (sections.map (Settings.lookup pushed)) := by
  have hstart := h
  rw [start_eq_introduce] at h
  obtain ⟨_, launched, hlaunch, h⟩ := Attempt.bind_eq_ok h
  obtain ⟨⟨python, snapshot⟩, settled, hsettings, h⟩ := Attempt.bind_eq_ok h
  obtain ⟨interpreter, u, hlift, h⟩ := Attempt.bind_eq_ok h
  obtain ⟨inspected, hinspect, hu⟩ := Attempt.lift_eq_ok hlift
  rw [hu] at h
  obtain ⟨pushed, hpushed, hpath⟩ := exists_nested_of_settings hsettings
  obtain ⟨argv, -, hspawned⟩ := sent_of_launch hlaunch
  obtain ⟨options, openings, hoptions, hsent, hopened⟩ := sent_of_introduce hpushed h
  refine ⟨launched, python, snapshot, settled, interpreter, inspected, argv, options, pushed,
    openings, hlaunch, hsettings, hinspect, h, hoptions, ?_, hopened,
    Interpreter.interpreterPath_of_options hoptions, hpath, ?_⟩
  · have hsettled : (State.sceneLens.set inspected settled).sent = launched.sent :=
      (s.unmoved_settings.of_ok hsettings).sent
    rw [hsent, hsettled, hspawned]
    simp only [List.append_assoc, List.map_cons, List.cons_append, List.nil_append]
  intro W hstill hscene calls hcalls sections
  obtain ⟨tool, hagrees⟩ := Resolver.Memory.exists_agrees (r := s.resolver) hstill.host
    (m := State.memoryLens.get st) hscene
  have hlaunched : launched.Agrees s W tool := (holds_launch hstill given).of_ok hlaunch hagrees
  have hended : ended.Agrees s W tool := (holds_start hstill given).of_ok hstart hagrees
  obtain ⟨hlater, hworkspace⟩ := agrees_of_run hstill hended calls hcalls
  refine answer_answerConfiguration hstill hlaunched hsettings hpushed hlater ?_ sections
  -- neither the start nor its first part touches the documents
  have hsame : ended.workspace = st.workspace := (s.sameWorkspace_start given).of_ok hstart
  rw [hworkspace, hsame, ((s.untouched_launch given).of_ok hlaunch).workspace]

/-- A start that is called with an environment remembered which no tool reports now reports that one,
to the server and whenever it is asked later. -/
theorem consistent_of_remembered_start :
    let s := facing Resolver.pipenvHost (losing fun _ => none)
    let st : State Unit :=
      { scene := { world := () }, workspace := { root := s.root }
        cache := some ⟨"/old", "/old/bin/python", .poetry⟩ }
    ∃ info ended, s.start ["serve"] st = .ok info ended ∧
      ∃ options pushed,
        { message := .handshake 0 s.root options, delivered := true } ∈ ended.sent ∧
        { message := .configurationChanged pushed, delivered := true } ∈ ended.sent ∧
        Settings.lookupAt ["interpreter", "properties", "InterpreterPath"] options =
          some (.string "/old/bin/python") ∧
        Settings.lookup pushed (some "python.pythonPath") = .string "/old/bin/python" ∧
        (s.answerConfiguration [some "python.pythonPath"]).answer
          (Attempt.afterAll s.perform ended [.openDocument (.ofText "a.py"), .settings]) =
            .ok [.string "/old/bin/python"] := by
  intro s st
  obtain ⟨info, ended, hstart⟩ : ∃ info ended, s.start ["serve"] st = .ok info ended :=
    Attempt.exists_eq_ok (by decide +kernel)
  have hpython : ((s.launch ["serve"] >>= fun _ => s.settings).answer st).map Prod.fst =
      .ok "/old/bin/python" := by
    decide +kernel
  obtain ⟨launched, python, snapshot, settled, interpreter, inspected, argv, options, pushed,
    openings, hlaunch, hsettings, -, -, -, hsent, -, hoptions, hpushed, hlater⟩ :=
      consistent_of_start hstart
  rw [Attempt.answer_of_ok ((Attempt.bind_of_ok hlaunch _).trans hsettings)] at hpython
  obtain rfl : python = "/old/bin/python" := Except.ok.inj hpython
  have hstill : s.StandsStill fun _ => True :=
    ⟨Resolver.isStill_pipenvHost.withoutVariables, fun _ _ _ => trivial, nofun⟩
  have hmember : ∀ message ∈ [.spawn argv s.root.text, .handshake s.process s.root options,
      .initialized, .configurationChanged pushed],
      { message, delivered := true } ∈ ended.sent := by
    intro message hmessage
    rw [hsent]
    exact List.mem_append_left _ (List.mem_append_right _ (List.mem_map_of_mem hmessage))
  let calls : List Call := [.openDocument (.ofText "a.py"), .settings]
  have hcalls : ∀ e ∈ Attempt.history s.perform ended calls,
      e.call ≠ .stop ∧ e.after.workspace = e.before.workspace := by
    intro e he
    obtain ⟨hcall, hevent⟩ := Attempt.eq_event_of_mem_history he
    have hother : ∀ call, call ∉ calls → e.call ≠ call := fun call hcall' heq => hcall' (heq ▸ hcall)
    refine ⟨hother _ (by simp [calls]), ?_⟩
    rw [hevent]
    exact s.sameWorkspace_perform (fun path => hother _ (by simp [calls]))
      (fun path => hother _ (by simp [calls])) e.before
  have hanswer := hlater _ hstill trivial calls hcalls [some "python.pythonPath"]
  rw [List.map_cons, List.map_nil, hpushed] at hanswer
  exact ⟨info, ended, hstart, options, pushed, hmember _ (.tail _ (.head _)), hmember _ (by simp),
    hoptions, hpushed, hanswer⟩

end Session

end LspHost
