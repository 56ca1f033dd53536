import LspHost.CommandLine.Serve
import LspHost.Proofs.Config.Command
import LspHost.Proofs.Session.Spawning

/-!
# The ways of a command line to the server

A command line reaches the server from a variable, from either of the configuration files, or from the
arguments of the program. On every way the words that it was written of are the ones that are spawned, once,
and nothing else is (`CommandLine.command_reaches_server`).

The program runs the server in three parts, of which only the first looks at the arguments for a command
(`CommandLine.runCommand_eq`).
-/

namespace LspHost.CommandLine

open Session

variable {σ : Type}

/-! ## Running the server -/

/-- Sets up a session for a project, with its workspace. -/
def prepare (s : Surroundings σ) (found : Found) (c : Config) : Act σ (Session σ × Workspace) := do
  let c := if found.has "--no-indicator" then c.assign .progressIndicator (.bool false) else c
  let workspace ← Workspace.new s.host c.root
  let workspace ← ((found.arguments? "--open").getD []).foldlM (fun w file => do
    return (w.openAt (← w.locate s.host (Path.ofText file))).2) workspace
  return (
    { config := c
      host := s.host
      link := s.link
      root := workspace.root
      indicator := some Relay.loggingIndicator
      process := s.process }, workspace)

/-- Attends a session from its start to its stop, and reports a start that failed. -/
def attend (s : Surroundings σ) (command : List String) (session : Session σ) (workspace : Workspace) :
    Act σ Report := fun scene =>
  match lifetime s session command { scene, workspace } with
  | .ok _ t => .ok { ending := .ok 0 } t.scene
  | .error (.launchFailed problem) t =>
    .ok { ending := .ok 2, errors := "serverlink: error: " ++ problem.message ++ "\n" } t.scene
  | .error e t => .error e t.scene

/-- **Running the server** has three parts. -/
theorem runCommand_eq (s : Surroundings σ) (found : Found) (c : Config) :
    runCommand s found c = (do
      let command ← Attempt.ofExcept (serverWords found)
      let (session, workspace) ← prepare s found c
      attend s command session workspace) := by
  unfold runCommand prepare
  simp only [bind_assoc, pure_bind]
  rfl

/-- **A session that is set up** has the command of the configuration. -/
theorem command_of_prepare {s : Surroundings σ} {found : Found} {c : Config} {session : Session σ}
    {workspace : Workspace} {scene t : Scene σ}
    (h : prepare s found c scene = .ok (session, workspace) t) :
    session.config.value .command = c.value .command := by
  obtain ⟨_, _, -, h⟩ := Attempt.bind_eq_ok h
  obtain ⟨_, _, -, h⟩ := Attempt.bind_eq_ok h
  cases h
  dsimp only
  split
  · exact Config.value_assign_of_ne (by decide) c _
  · rfl

/-- **The life of a server** ends with a stop, however it went. -/
theorem after_lifetime (s : Surroundings σ) (session : Session σ) (command : List String) (st : State σ) :
    (lifetime s session command).after st =
      session.stop.after ((session.start command >>= fun _ => Session.lift s.awaitExit).after st) := by
  unfold lifetime Attempt.after
  dsimp only
  rcases (session.start command >>= fun _ => Session.lift s.awaitExit) st with ⟨_, t⟩ | ⟨e, t⟩
  · rfl
  · dsimp only
    rcases session.stop t with ⟨_, u⟩ | ⟨f, u⟩
    · rfl
    · rfl

/-- **The life of a server** has one program. -/
theorem spawned_lifetime (s : Surroundings σ) {session : Session σ} {command argv : List String}
    (hcommand : session.commandLine command = .ok argv) (st : State σ) :
    Spawned argv session.root.text st ((lifetime s session command).after st) := by
  have hwait : (Session.lift s.awaitExit).Keeps SpawnsNothing :=
    spawnsNothing_of_quiet (quiet_of_unmoved (unmoved_lift _))
  rw [after_lifetime]
  exact ((spawned_start hcommand st).bind fun _ => hwait).trans (session.spawnsNothing_stop _)

/-! ## The ways of a command line -/

/-- **A line of words among the arguments** is cut into them. -/
theorem serverWords_join {found : Found} {argv : List String} (hargv : argv ≠ [])
    (hfound : found.arguments? "--server" = some [Text.Words.join argv]) :
    serverWords found = .ok argv := by
  have hempty : ¬ (Text.Words.join argv).isEmpty = true := by
    simpa using Text.Words.join_ne_empty hargv
  unfold serverWords
  rw [hfound]
  simp only [Option.bind_some, List.head?_cons, if_neg hempty, Config.commandWords, Text.Words.split_join]
  rfl

/-- **Running the server** with its words among the arguments is attending the session with them. -/
theorem runCommand_join (s : Surroundings σ) {found : Found} (c : Config) {argv : List String}
    (hargv : argv ≠ []) (hfound : found.arguments? "--server" = some [Text.Words.join argv]) :
    runCommand s found c = (do
      let (session, workspace) ← prepare s found c
      attend s argv session workspace) := by
  rw [runCommand_eq, serverWords_join hargv hfound]
  exact pure_bind argv _

/-- **Running the server** without words among the arguments leaves the command to the configuration. -/
theorem runCommand_of_none (s : Surroundings σ) {found : Found} (c : Config)
    (hfound : found.arguments? "--server" = none) :
    runCommand s found c = (do
      let (session, workspace) ← prepare s found c
      attend s [] session workspace) := by
  have hwords : serverWords found = .ok [] := by
    unfold serverWords
    rw [hfound]
    rfl
  rw [runCommand_eq, hwords]
  exact pure_bind [] _

/-- A session spawns a program at its start, and over the whole life of the server nothing else. -/
def SpawnsOnly (s : Surroundings σ) (session : Session σ) (command argv : List String) : Prop :=
  ∀ st, Spawned argv session.root.text st ((session.start command).after st) ∧
    Spawned argv session.root.text st ((lifetime s session command).after st)

theorem spawnsOnly_of_commandLine (s : Surroundings σ) {session : Session σ} {command argv : List String}
    (hcommand : session.commandLine command = .ok argv) : SpawnsOnly s session command argv :=
  fun st => ⟨spawned_start hcommand st, spawned_lifetime s hcommand st⟩

/-- **The words of a command line** reach the server.

* The variable that has the line gives a configuration with the words as its command.
* So does either of the files with the line in it, unless another section counts as given and is no table.
* Such a configuration keeps its command over any other, and a session with it spawns that program, once, and
  nothing else; the program that runs the server without a command sets up such a session.
* With the line among its arguments, the program hands the words to the session as its command, whatever the
  configuration has, and the session spawns that program, once, and nothing else. -/
theorem command_reaches_server {argv : List String} (hargv : argv ≠ []) :
    (∀ (host : Host σ) (W : σ → Prop) (view : LspHost.Surroundings) (scene : Scene σ),
      host.Tells W view → Scene.In W scene →
      (∀ here, view.resolve Path.here = .ok here →
        view.environment "SERVERLINK_SERVER_COMMAND" = some (Text.Words.join argv) →
        ∃ c, (Config.ofVariables host).answer scene = .ok c ∧ c.Orders argv) ∧
      (∀ root data, view.document (root.joinText ".serverlink.toml") = .ok (some data) →
        Layer.written data .command = some (.string (Text.Words.join argv)) →
        Config.Delivers (Config.ofOwnFile host root) scene data argv) ∧
      ∀ root document data, view.document (root.joinText "pyproject.toml") = .ok (some document) →
        Layer.toolTable? document = some data →
        Layer.written data .command = some (.string (Text.Words.join argv)) →
        Config.Delivers (Config.ofProjectFile host root) scene data argv) ∧
    (∀ (s : Surroundings σ) (session : Session σ) (c : Config), c.Orders argv →
      (session.config = c ∨ ∃ here base, session.config = Config.merge here base c) →
      SpawnsOnly s session [] argv) ∧
    (∀ (s : Surroundings σ) (found : Found) (c : Config),
      c.value .command = .list (argv.map .string) → found.arguments? "--server" = none →
      (runCommand s found c = do
        let (session, workspace) ← prepare s found c
        attend s [] session workspace) ∧
      ∀ session workspace scene t, prepare s found c scene = .ok (session, workspace) t →
        SpawnsOnly s session [] argv) ∧
    ∀ (s : Surroundings σ) (found : Found) (c : Config),
      found.arguments? "--server" = some [Text.Words.join argv] →
      (runCommand s found c = do
        let (session, workspace) ← prepare s found c
        attend s argv session workspace) ∧
      ∀ session, SpawnsOnly s session argv argv := by
  refine ⟨fun host W view scene h hscene => ⟨?_, ?_, ?_⟩, ?_, ?_, ?_⟩
  · exact fun here hhere hline => Config.orders_ofVariables h hscene hargv hhere hline
  · exact fun root data hdocument hline => Config.delivers_ofOwnFile h hscene hdocument hline
  · exact fun root document data hdocument htable hline =>
      Config.delivers_ofProjectFile h hscene hdocument htable hline
  · intro s session c horders hconfig
    refine spawnsOnly_of_commandLine s (commandLine_of_config hargv ?_)
    rcases hconfig with rfl | ⟨here, base, hmerge⟩
    · exact horders.value
    · rw [hmerge]
      exact horders.merged here base
  · intro s found c hvalue hfound
    refine ⟨runCommand_of_none s c hfound, fun session workspace scene t hprepare => ?_⟩
    have hcommand := commandLine_of_config hargv ((command_of_prepare hprepare).trans hvalue)
    exact spawnsOnly_of_commandLine s hcommand
  · intro s found c hfound
    exact ⟨runCommand_join s c hargv hfound,
      fun session => spawnsOnly_of_commandLine s (session.commandLine_of_given hargv)⟩

/-! ## Words of every kind -/

/-- A program with an empty argument, one with a quote, and one with a backslash, a blank, a hash and a line
end. -/
def oddWords : List String := ["serve", "", "it's", "a\\b #é\n"]

/-- A project in whose two files, and among whose variables, the command is the line of these words. -/
def withOddWords : LspHost.Surroundings :=
  .plain
    [(Path.ofText "/w/pyproject.toml",
        "[tool.serverlink.server]\ncommand = \"serve '' 'it'\\\"'\\\"'s' 'a\\\\b #é\\n'\""),
      (Path.ofText "/w/.serverlink.toml",
        "[server]\ncommand = \"serve '' 'it'\\\"'\\\"'s' 'a\\\\b #é\\n'\"")]
    [("SERVERLINK_SERVER_COMMAND", "serve '' 'it'\"'\"'s' 'a\\b #é\n'")] (Path.ofText "/w")
    Path.isAbsolute_ofText_w

/-- A machine of that project, whose server exits at once. -/
def withOddServer : Surroundings Unit where
  host := withOddWords.host
  link := fun _ => pure none
  awaitExit := pure ()
  openLog := fun _ => pure ()
  writeLog := fun _ _ => pure ()

/-- The table of the server with the line of these words. -/
def oddTable : Table := [("server", .table [("command", .string (Text.Words.join oddWords))])]

theorem isTabled_oddTable (s : Section) : Config.IsTabled oddTable s := by
  intro value hdata htruthy
  cases s with
  | server => exact ⟨_, (Option.some.inj hdata).symm⟩
  | python | analysis | ui => cases hdata

/-- Each of the sources gives a configuration with these words, with which they are spawned; and so are they
where the line is among the arguments. -/
theorem command_reaches_server_odd :
    (∃ c, (Config.ofVariables withOddWords.host).answer { world := () } = .ok c ∧
      SpawnsOnly withOddServer { facing withOddWords.host withOddServer.link with config := c } [] oddWords) ∧
    (∃ c, (Config.ofOwnFile withOddWords.host (.ofText "/w")).answer { world := () } = .ok (some c) ∧
      SpawnsOnly withOddServer { facing withOddWords.host withOddServer.link with config := c } [] oddWords) ∧
    (∃ c, (Config.ofProjectFile withOddWords.host (.ofText "/w")).answer { world := () } = .ok (some c) ∧
      SpawnsOnly withOddServer { facing withOddWords.host withOddServer.link with config := c } [] oddWords) ∧
    ∃ request, serverProgram.parse ["run", "--server", Text.Words.join oddWords] = .ok request ∧
      (runCommand withOddServer request.found { root := .ofText "/w" } = do
        let (session, workspace) ← prepare withOddServer request.found { root := .ofText "/w" }
        attend withOddServer oddWords session workspace) ∧
      SpawnsOnly withOddServer (facing withOddWords.host withOddServer.link) oddWords oddWords := by
  have hodd : oddWords ≠ [] := by decide
  obtain ⟨hsources, hconfigured, -, hgiven⟩ := command_reaches_server (σ := Unit) hodd
  obtain ⟨hvariables, hown, hproject⟩ :=
    hsources withOddWords.host (fun _ => True) withOddWords { world := () } withOddWords.tells_host trivial
  have hspawns {c : Config} (horders : c.Orders oddWords) : SpawnsOnly withOddServer
      { facing withOddWords.host withOddServer.link with config := c } [] oddWords :=
    hconfigured withOddServer _ c horders (.inl rfl)
  have hline : Layer.written oddTable .command = some (.string (Text.Words.join oddWords)) := by
    decide +kernel
  refine ⟨?_, ?_, ?_, ?_⟩
  · have hhere : withOddWords.resolve Path.here = .ok (.ofText "/w") := by decide +kernel
    obtain ⟨c, hanswer, horders⟩ := hvariables _ hhere (by decide +kernel)
    exact ⟨c, hanswer, hspawns horders⟩
  · have hdocument : withOddWords.document ((Path.ofText "/w").joinText ".serverlink.toml") =
        .ok (some oddTable) := by decide +kernel
    obtain ⟨c, hanswer, horders⟩ := (hown _ _ hdocument hline).of_tabled isTabled_oddTable
    exact ⟨c, hanswer, hspawns horders⟩
  · have hdocument : withOddWords.document ((Path.ofText "/w").joinText "pyproject.toml") =
        .ok (some [("tool", .table [("serverlink", .table oddTable)])]) := by decide +kernel
    obtain ⟨c, hanswer, horders⟩ := (hproject _ _ _ hdocument rfl hline).of_tabled isTabled_oddTable
    exact ⟨c, hanswer, hspawns horders⟩
  · have hfound : (serverProgram.parse ["run", "--server", Text.Words.join oddWords]).toOption.map
        (·.found.arguments? "--server") = some (some [Text.Words.join oddWords]) := by decide +kernel
    rcases hparse : serverProgram.parse ["run", "--server", Text.Words.join oddWords] with stop | request
    all_goals rw [hparse] at hfound
    · cases hfound
    · obtain ⟨hrun, hspawn⟩ := hgiven withOddServer request.found { root := .ofText "/w" }
        (Option.some.inj hfound)
      exact ⟨request, rfl, hrun, hspawn _⟩

end LspHost.CommandLine
