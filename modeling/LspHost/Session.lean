import LspHost.Interpreter
import LspHost.Progress.Relay
import LspHost.Session.Message
import LspHost.Settings.Nested
import LspHost.Text.Lines
import LspHost.Text.Utf8

/-!
# Server sessions

A session keeps one language server attached to one workspace: it spawns the server, performs the
handshake, tells it about documents, and answers what the server asks. The interpreter is resolved
once and remembered for as long as the session lives; stopping the session forgets it.

Every message is recorded with whether it got through. A message that does not get through, or any
other fault, ends the operation where it stands; what it had done by then stays done.
-/

namespace LspHost

/-- Delivers a message; the handshake is answered by what the server says about itself. -/
abbrev Link (σ : Type) := Message → Act σ (Option ServerInfo)

/-- A diagnostic of a document. -/
structure Diagnostic where
  /-- what it says -/
  message : String
  deriving DecidableEq, Repr

/-- A message that a session sent, and whether it got through. -/
structure Sending where
  /-- the message -/
  message : Message
  /-- whether it got through -/
  delivered : Bool
  deriving DecidableEq

/-- What a session works with. The interpreter is resolved for the root of the workspace by what the
configuration fixes, unless a resolver is given that has been set up otherwise; it asks the same
surroundings. -/
structure Session (σ : Type) where
  /-- the configuration -/
  config : Config
  /-- the surroundings -/
  host : Host σ
  /-- the way to the server -/
  link : Link σ
  /-- the root of the workspace -/
  root : Path
  /-- the busy indicator, if there is one -/
  indicator : Option (Relay.Indicator σ)
  /-- the number of the own process -/
  process : Nat := 0
  /-- what the resolver takes as fixed by the user -/
  overrides : Overrides := config.overrides
  /-- the root of the project that the resolver is for -/
  project : Path := root

namespace Session

/-- What a session changes. -/
structure State (σ : Type) where
  /-- the scene -/
  scene : Scene σ
  /-- the documents -/
  workspace : Workspace
  /-- the remembered answer of the project's tool -/
  cache : Option Environment := none
  /-- the names of the documents marked as busy -/
  busy : List String := []
  /-- whether the handshake is done -/
  started : Bool := false
  /-- whether the server has exited -/
  exited : Bool := false
  /-- the URIs of the documents that the server was told are open -/
  opened : List String := []
  /-- the latest diagnostics of each document -/
  diagnostics : List (String × List Diagnostic) := []
  /-- everything sent so far -/
  sent : List Sending := []

/-- A computation of a session. -/
abbrev Run (σ : Type) : Type → Type := Attempt (State σ)

variable {σ : Type}

/-- The scene as a part of what a session changes. -/
def State.sceneLens : Lens (State σ) (Scene σ) where
  get := State.scene
  set := fun scene s => { s with scene }

/-- The part that the resolver changes. -/
def State.memoryLens : Lens (State σ) (Resolver.Memory σ) where
  get := fun s => { scene := s.scene, cache := s.cache }
  set := fun m s => { s with scene := m.scene, cache := m.cache }

/-- The part that the relay changes. -/
def State.relayLens : Lens (State σ) (Relay.State σ) where
  get := fun s => { scene := s.scene, busy := s.busy }
  set := fun r s => { s with scene := r.scene, busy := r.busy }

/-- An act as a computation of a session. -/
def lift {α : Type} (act : Act σ α) : Run σ α := State.sceneLens.lift act

/-- A computation of the resolver as one of a session. -/
def resolving {α : Type} (run : Resolver.Run σ α) : Run σ α := State.memoryLens.lift run

/-- A computation of the relay as one of a session. -/
def relaying {α : Type} (run : Relay.Run σ α) : Run σ α := State.relayLens.lift run

/-- Notes a record of the session. -/
def note (level : Level) (message : String) : Run σ Unit := lift (Act.note .session level message)

/-- The session's resolver. -/
def resolver (s : Session σ) : Resolver σ where
  host := s.host
  overrides := s.overrides
  root := s.project

/-- The session's progress relay. -/
def relay (s : Session σ) : Relay.Setup σ where
  indicator := s.indicator
  enabled := (s.config.value .progressIndicator).isTruthy

/-- Sends a message, recording whether it got through. -/
def send (s : Session σ) (message : Message) : Run σ (Option ServerInfo) := fun st =>
  match lift (s.link message) st with
  | .ok info t => .ok info { t with sent := t.sent ++ [{ message, delivered := true }] }
  | .error e t => .error e { t with sent := t.sent ++ [{ message, delivered := false }] }

/-! ## Settings -/

/-- The settings at this moment, for the document opened last, with the interpreter among them. -/
def settings (s : Session σ) : Run σ (String × Snapshot) := do
  let file := (← get).workspace.currentFile
  resolving (Snapshot.take s.config s.resolver file)

/-- Answers a request for sections of the settings, all from one snapshot. -/
def answerConfiguration (s : Session σ) (sections : List (Option String)) :
    Run σ (List Value) := do
  let (_, snapshot) ← s.settings
  let nested ← Attempt.ofExcept (Settings.nest snapshot)
  return sections.map (Settings.lookup nested)

/-! ## Documents -/

/-- The content of a document; a file that cannot be read is empty, one that is not UTF-8 is a
fault. -/
def documentText (s : Session σ) (path : Path) : Act σ String := fun scene =>
  match s.host.read path scene with
  | .ok bytes t =>
    match Text.ofBytes? bytes with
    | some text => .ok (Text.withLineFeeds text) t
    | none => .error .undecodable t
  | .error (.refused _) t => .ok "" t
  | .error e t => .error e t

/-- Tells the server that a document is open, once for each URI. -/
def openDocument (s : Session σ) (path : Path) : Run σ Unit := do
  let file := s.root.join path
  if (← get).opened.contains file.uri then return
  let text ← lift (s.documentText file)
  let _ ← s.send (.opened file.uri text)
  modify fun st => { st with opened := st.opened ++ [file.uri] }

/-- Tells the server that a document is closed, if it was told that it is open. -/
def closeDocument (s : Session σ) (path : Path) : Run σ Unit := do
  let file := s.root.join path
  unless (← get).opened.contains file.uri do return
  let _ ← s.send (.closed file.uri)
  modify fun st => { st with opened := st.opened.filter (· != file.uri) }

/-- Opens a document in the workspace, giving its number. -/
def openInWorkspace (s : Session σ) (path : Path) : Run σ Nat := do
  let located ← lift ((← get).workspace.locate s.host path)
  modifyGet fun st =>
    let (number, workspace) := st.workspace.openAt located
    (number, { st with workspace })

/-- Closes a document in the workspace. -/
def closeInWorkspace (s : Session σ) (path : Path) : Run σ Unit := do
  let located ← lift ((← get).workspace.locate s.host path)
  modify fun st => { st with workspace := st.workspace.closeAt located }

/-! ## Starting and stopping -/

/-- The command to spawn: the one that is given unless it is empty, else the configured one, whose
words must be texts. -/
def commandLine (s : Session σ) (given : List String) : Except Fault (List String) := do
  let words ←
    if given.isEmpty then Interpreter.itemsOf (s.config.value .command)
    else pure (given.map .string)
  if words.isEmpty then throw (.launchFailed .noCommand)
  match words.mapM Value.string? with
  | some argv => return argv
  | none => throw .wrongType

/-- A refusal to spawn the program is a failed start. -/
def asLaunchFault (argv : List String) : Fault → Fault
  | .refused refusal => .launchFailed (.refused (argv.headD "") refusal.text)
  | e => e

/-- Spawns the server's program. -/
def spawn (s : Session σ) (argv : List String) : Run σ Unit := fun st =>
  match s.send (.spawn argv s.root.text) st with
  | .ok _ t => .ok () t
  | .error e t => .error (asLaunchFault argv e) t

/-- A text, or another one in its place if it is empty. -/
def orElseText (text other : String) : String := if text.isEmpty then other else text

/-- What the server says about itself, for the journal. -/
def describeInfo : Option ServerInfo → String
  | none => "None"
  | some info =>
    "ServerInfo(name=" ++ Text.quoted info.name ++ ", version=" ++
      (info.version.map Text.quoted).getD "None" ++ ")"

/-- Tells the server about every live document of the workspace. -/
def openAll (s : Session σ) : Run σ Unit := do
  (← get).workspace.liveDocuments.forM fun d => s.openDocument d.path

/-- Spawns the server and performs the handshake: the interpreter is resolved and inspected, the
server is initialised and given the settings, and then it is told about the live documents. -/
def start (s : Session σ) (given : List String := []) : Run σ (Option ServerInfo) := do
  let argv ← Attempt.ofExcept (s.commandLine given)
  note .info ("starting " ++ " ".intercalate argv ++ " in " ++ s.root.text)
  s.spawn argv
  -- from here on the program runs, and a fault leaves it running
  let (python, snapshot) ← s.settings
  let info ← lift (Interpreter.inspect s.host.run python (some s.root.text))
  note .info ("using interpreter " ++ orElseText python "(none)" ++ " (" ++
    orElseText info.version "unknown version" ++ ")")
  let options ← Attempt.ofExcept (Interpreter.options s.config python info)
  let answer ← s.send (.handshake s.process s.root options)
  note .info ("server initialised: " ++ describeInfo answer)
  let _ ← s.send .initialized
  let nested ← Attempt.ofExcept (Settings.nest snapshot)
  let _ ← s.send (.configurationChanged nested)
  -- the server has its settings, so the session counts even if a document cannot be sent
  modify fun st => { st with started := true }
  s.openAll
  return answer

/-- Whether stopping puts a fault aside: the connection is gone, the call took too long, or the
server is in no state to be called. -/
def isAbsorbed : Fault → Bool
  | .refused refusal => refusal.kind.isConnection || refusal.kind == .timeout
  | .badState .. | .launchFailed _ | .linkLoop | .tooDeep => true
  | _ => false

/-- Asks the server to shut down and then to exit. -/
def farewell (s : Session σ) : Run σ Unit := do
  let _ ← s.send .shutdown
  let _ ← s.send .exit

/-- Asks the server to shut down, putting faults aside that only say that it is gone. -/
def shutDown (s : Session σ) : Run σ Unit := fun st =>
  match s.farewell st with
  | .ok _ t => .ok () t
  | .error e t =>
    if isAbsorbed e then note .debug ("error during server shutdown: " ++ e.message) t
    else .error e t

/-- Shuts the server down and ends the session, forgetting the interpreter. -/
def stop (s : Session σ) : Run σ Unit := do
  if (← get).started then s.shutDown
  -- the transport is halted even if the server was never asked
  let _ ← s.send .halt
  modify fun st => { st with started := false, opened := [], cache := none }

/-! ## What the server sends -/

/-- Relays one of the server's own progress notifications. -/
def onNotification (s : Session σ) (method : String) (payload : Value) : Run σ Unit := do
  match Progress.ofNotification method payload with
  | some event => relaying (Relay.handle s.relay (← get).workspace event)
  | none => return

/-- Relays a standard progress value. -/
def onProgress (s : Session σ) (token : Value) (value : WorkDone) : Run σ Unit := do
  match Progress.ofWorkDone value with
  | some event => relaying (Relay.handle s.relay (← get).workspace event)
  | none => note .debug ("ignoring progress value for token " ++ token.display)

/-- Notes that the server made a progress token. -/
def onProgressToken (token : Value) : Run σ Unit :=
  note .debug ("server created progress token " ++ token.display)

/-- The level of a log message of the server by its type. -/
def levelOfType (type : Int) : Level :=
  if type = 1 then .error else if type = 2 then .warning else if type = 3 then .info else .debug

/-- Notes a log message of the server. -/
def onLogMessage (type : Int) (message : String) : Run σ Unit :=
  note (levelOfType type) ("[server] " ++ message)

/-- Entries with those of one key replaced in their place, or added at the end. -/
def replaceEntry {α : Type} (key : String) (value : α) : List (String × α) → List (String × α)
  | [] => [(key, value)]
  | (k, v) :: rest =>
    if k = key then (key, value) :: rest else (k, v) :: replaceEntry key value rest

/-- Keeps the diagnostics of a document. -/
def onDiagnostics (uri : String) (diagnostics : List Diagnostic) : Run σ Unit := do
  modify fun st => { st with diagnostics := replaceEntry uri diagnostics st.diagnostics }
  note .debug (toString diagnostics.length ++ " diagnostics for " ++ uri)

/-- Notes that the server's program has exited. -/
def onExit (status : Option Int) : Run σ Unit := do
  note .info ("language server exited with status " ++ (status.map toString).getD "None")
  modify fun st => { st with exited := true }

end Session

end LspHost
