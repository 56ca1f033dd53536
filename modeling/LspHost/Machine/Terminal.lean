import LspHost.CommandLine.Report
import LspHost.Machine

/-!
# Machines with a terminal

What the command line programs need of a machine beside its host: log files, and the way to a
language server. The programs of a machine do not speak to anybody, so a server that is found there
is started and gives no answer.
-/

namespace LspHost.Machine

/-- The path of a log file from the root down, in which `..` drops the name before it. -/
def logPath (m : Machine) (name : String) : String :=
  let names := Text.cut '/' name
  let names := if name.startsWith "/" then names else m.directory ++ names
  "/" ++ "/".intercalate (Files.normalise names)

/-- Opens a log file, which is made if it is missing. -/
def openLog (m : Machine) (name : String) : Except Fault Unit × Machine :=
  let path := m.logPath name
  if Command.hasNul path then (.error (.badText .nul), m)
  else
    match m.files.openForWriting [] path with
    | .ok (_, files) => (.ok (), { m with files })
    | .error errno => (.error (.refused (errno.refusal path)), m)

/-- Writes to the end of a log file. -/
def writeLog (m : Machine) (name text : String) : Machine :=
  match m.files.walk true [] (m.logPath name) with
  | .ok at_ =>
    let content := m.files.contentAt at_ ++ Text.toBytes text
    { m with files := m.files.setContent at_ content }
  | .error _ => m

/-- Starts a language server. -/
def spawn (m : Machine) (argv : List String) (directory : String) : Except Fault Unit :=
  if argv.any Command.hasNul then .error (.badText .nul)
  else
    match m.startDirectory (some directory) with
    | .error refusal => .error (.refused refusal)
    | .ok at_ =>
      match m.files.imageOnPath at_ (m.value? "PATH") argv with
      | .ok _ => .ok ()
      | .error errno => .error (.refused (errno.refusal (argv.headD "")))

/-- The way to the language servers of a machine. -/
def link : Link Machine := fun message => do
  match message with
  | .spawn argv directory =>
    Act.tryOfWorld (·.spawn argv directory)
    return none
  | .handshake .. =>
    throw (.refused { kind := .connectionReset, text := "Connection reset by peer" })
  | _ => return none

/-- A machine as the surroundings of a program. -/
def terminal : CommandLine.Surroundings Machine where
  host := Machine.host
  link := link
  awaitExit := pure ()
  openLog := fun name => Act.tryOnWorld (·.openLog name)
  writeLog := fun name text => Act.onWorld fun m => ((), m.writeLog name text)

end LspHost.Machine
