import LspHost.CommandLine.Resolve
import LspHost.Config.Source

/-!
# The language server from the command line

The program with commands to resolve the environment of a project, to show the settings that the
server is given, and to run the server. Each command loads the configuration of the project first,
sets logging up, and then does its work.
-/

namespace LspHost.CommandLine

variable {σ : Type}

/-! ## Commands -/

/-- The resolver of a configuration. -/
def resolverOf (s : Surroundings σ) (c : Config) : Resolver σ where
  host := s.host
  overrides := c.overrides
  root := c.root

/-- The targets to resolve: all of them unless one is named. -/
def targets (found : Found) : Except Fault (List Target) :=
  match found.argument? "--kind" with
  | none => .ok Target.all
  | some name =>
    match Target.ofName? name with
    | some target => .ok [target]
    | none => .error (.badText (.unknownName name "EnvKind"))

/-- Whether something was found for every target. -/
def Answers.areComplete (answers : Answers) : Bool :=
  answers.all fun entry => (entry.2.bind Value.given?).isSome

/-- Resolves what is asked for; the status tells whether all of it was found. Lines for a reader are
printed one by one, so those before a fault are there. -/
def resolveCommand (s : Surroundings σ) (found : Found) (c : Config) : Act σ Report := do
  let targets ← Attempt.ofExcept (targets found)
  let answers ← freshly (resolveEach (resolverOf s c) found.file? targets)
  let status := if answers.areComplete then 0 else 1
  if found.has "--json" then
    return { ending := .ok status, output := (← Attempt.ofExcept answers.json) ++ "\n" }
  let (printed, fault) := answers.lines
  let ending := match fault with
    | some fault => .error fault
    | none => .ok status
  return { ending, output := String.join (printed.map (· ++ "\n")) }

/-- Shows the settings as the server is given them. -/
def settingsCommand (s : Surroundings σ) (found : Found) (c : Config) : Act σ Report := do
  let (_, snapshot) ← freshly (Snapshot.take c (resolverOf s c) found.file?)
  let nested ← Attempt.ofExcept (Settings.nest snapshot)
  return { ending := .ok 0, output := (← Attempt.ofExcept (Json.prettySorted nested)) ++ "\n" }

/-- Starts the server, waits for its exit, and ends the session in any case. A fault of the ending
takes the place of an earlier one. -/
def lifetime (s : Surroundings σ) (session : Session σ) (command : List String) :
    Session.Run σ Unit := fun st =>
  let work : Session.Run σ Unit := do
    let _ ← session.start command
    Session.lift s.awaitExit
  match work st with
  | .ok _ t => session.stop t
  | .error e t =>
    -- the session ends whatever happened; the last fault is the one that is reported
    match session.stop t with
    | .ok _ u => .error e u
    | .error f u => .error f u

/-- The command line of the server, if one is given that is not empty. -/
def serverWords (found : Found) : Except Fault (List String) :=
  match (found.arguments? "--server").bind List.head? with
  | some line => if line.isEmpty then .ok [] else Config.commandWords line
  | none => .ok []

/-- Runs the server for a project. -/
def runCommand (s : Surroundings σ) (found : Found) (c : Config) : Act σ Report := do
  let command ← Attempt.ofExcept (serverWords found)
  let c := if found.has "--no-indicator" then c.assign .progressIndicator (.bool false) else c
  let workspace ← Workspace.new s.host c.root
  let workspace ← ((found.arguments? "--open").getD []).foldlM (fun w file => do
    return (w.openAt (← w.locate s.host (Path.ofText file))).2) workspace
  let session : Session σ :=
    { config := c
      host := s.host
      link := s.link
      root := workspace.root
      indicator := some Relay.loggingIndicator
      process := s.process }
  fun scene =>
    match lifetime s session command { scene, workspace } with
    | .ok _ t => .ok { ending := .ok 0 } t.scene
    | .error (.launchFailed problem) t =>
      .ok { ending := .ok 2, errors := "serverlink: error: " ++ problem.message ++ "\n" } t.scene
    | .error e t => .error e t.scene

/-! ## Logging -/

/-- Where the journal goes once logging is set up. -/
inductive LogPlace where
  /-- to the standard error -/
  | errors
  /-- to a file -/
  | file (name : String)
  deriving DecidableEq, Repr

/-- The place that a configured log file stands for: one that does not count as given is none, and
any other must be a text. -/
def logPlace (value : Value) : Except Fault LogPlace :=
  match value.given? with
  | none => .ok .errors
  | some (.string name) => .ok (.file name)
  | some _ => .error .wrongType

/-- A command of the program: how important a record must be to be shown, where the journal goes,
and what the command does. -/
structure Work (σ : Type) where
  /-- the least level that is shown -/
  least : Level
  /-- the configured log file -/
  log : Config → Value
  /-- what the command does -/
  act : Surroundings σ → Found → Config → Act σ Report

/-- The commands by their names. -/
def work? (name : String) : Option (Work σ) :=
  match name with
  | "resolve" => some { least := .warning, log := fun _ => .null, act := resolveCommand }
  | "settings" => some { least := .warning, log := fun _ => .null, act := settingsCommand }
  | "run" => some { least := .info, log := fun c => c.value .logFile, act := runCommand }
  | _ => none

/-- Sets logging up. -/
def openLog (s : Surroundings σ) (value : Value) : Act σ LogPlace := do
  let place ← Attempt.ofExcept (logPlace value)
  if let .file name := place then s.openLog name
  return place

/-- The report of the work of a command after the configuration is loaded and logging set up: what
was shown before comes first. -/
def reportWork (s : Surroundings σ) (before : String) (display : Display) (place : LogPlace)
    (act : Act σ Report) (world : σ) : Report × σ :=
  let shown (journal : List Record) (world : σ) : String × σ :=
    match place with
    | .errors => (before ++ display.text journal, world)
    | .file name =>
      match s.writeLog name (display.text journal) { world } with
      | .ok _ t | .error _ t => (before, t.world)
  match act { world } with
  | .ok r t =>
    let (errors, world) := shown t.journal t.world
    ({ r with errors := errors ++ r.errors }, world)
  | .error e t =>
    let (errors, world) := shown t.journal t.world
    ({ ending := .error e, errors }, world)

/-- Loads the configuration of a project and does the work of a command. -/
def perform (s : Surroundings σ) (work : Work σ) (found : Found) (world : σ) : Report × σ :=
  let prepare : Act σ (Option (Config × LogPlace)) := do
    unless ← s.host.isPresent found.root do return none
    let c ← Config.load s.host found.root
    return some (c, ← openLog s (work.log c))
  match prepare { world } with
  | .ok none t =>
    ({ ending := .ok 1
       errors := "serverlink: error: path not found: " ++ found.root.text ++ "\n" }, t.world)
  | .ok (some (c, place)) t =>
    let least := if found.has "--debug" then .debug else work.least
    reportWork s (Display.text .bare t.journal) (.named least) place (work.act s found c) t.world
  | .error e t => ({ ending := .error e, errors := Display.text .bare t.journal }, t.world)

/-- The program around the language server. -/
def serverMain (s : Surroundings σ) (arguments : List String) (world : σ) : Report × σ :=
  match serverProgram.parse arguments with
  | .error stop => reportStop s stop world
  | .ok request =>
    match request.command.bind work? with
    | some work => perform s work request.found world
    | none => reportStop s (.help serverForm) world

end LspHost.CommandLine
