import LspHost.Command
import LspHost.Machine.Resolution
import LspHost.Machine.Shell.Run

/-!
# Machines

A machine is a host that is all data: files, a current directory and an environment. It looks
programs up along its search path and runs those that are shell scripts. `Machine.host` is what the
library needs of it.
-/

namespace LspHost

/-- A machine. -/
structure Machine where
  /-- its files -/
  files : Machine.Files
  /-- the current directory -/
  directory : Machine.Location
  /-- the variables of the environment -/
  environment : List (String × String)

namespace Machine

/-- The value of a variable of the environment. -/
def value? (m : Machine) (name : String) : Option String :=
  (m.environment.find? (·.1 == name)).map Prod.snd

/-- The files of a machine on which nobody has worked yet: its own programs, and a place that
swallows what is written to it. -/
def systemFiles : Files where
  nodes :=
    [(["usr"], .directory), (["usr", "bin"], .directory), (["bin"], .link "usr/bin"),
      (["usr", "bin", "sh"], .program .shell), (["usr", "bin", "sleep"], .program .sleep),
      (["dev"], .directory), (["dev", "null"], .file .empty false), (["tmp"], .directory)]

/-! ## The search path -/

/-- Whether a file that may be run is at a path. -/
def isProgram (m : Machine) (path : String) : Bool :=
  !Command.hasNul path &&
    match m.files.stat m.directory path with
    | .ok .directory | .error _ => false
    | .ok node => Files.mayExecute node

/-- The program of a name: a name with a slash is a path, any other is looked for along the search
path. -/
def find? (m : Machine) (name : String) : Option String :=
  if name.toList.contains '/' then if m.isProgram name then some name else none
  else if m.value? "PATH" = some "" then none
  else
    ((Files.searchDirectories (m.value? "PATH")).map (Files.inDirectory · name)).find? m.isProgram

/-! ## Processes -/

/-- The directory that a program starts in. -/
def startDirectory (m : Machine) : Option String → Except Refusal Location
  | none => .ok m.directory
  | some path =>
    match m.files.walk true m.directory path with
    | .error errno => .error (errno.refusal path)
    | .ok at_ =>
      if m.files.isDirectoryAt at_ then .ok at_ else .error (Errno.notDirectory.refusal path)

/-- The shell in which a program of the machine is run. -/
def shell (m : Machine) (directory : Location) : Shell.State where
  files := m.files
  directory
  logical := directory
  bindings := m.environment.map fun (name, value) =>
    { name, value := some (octetsOf value), isExported := true }

/-- How the run of a program ended, seen by a caller who waits for a limited time. A signal shows as
a negative status. -/
def endingOf (limit : Option Nat) (outcome : Shell.Outcome) (s : Shell.State) : Ending :=
  let ended (status : Int) : Ending :=
    if limit.any (· ≤ s.elapsed) then .timedOut
    else .ended status (bytesOf s.output.reverse) (bytesOf s.errors.reverse)
  match outcome with
  | .ended status => ended status
  | .killed signal => ended (-signal)
  | .never => .timedOut

/-- Starts a program and waits for its end. -/
def launch (m : Machine) (request : Launch) : Ending × Machine :=
  match m.startDirectory request.directory with
  | .error refusal => (.refused refusal, m)
  | .ok directory =>
    match m.files.imageOnPath directory (m.value? "PATH") request.argv with
    | .error errno => (.refused (errno.refusal (request.argv.headD "")), m)
    | .ok image =>
      let (outcome, s) := Shell.execute image (m.shell directory)
      (endingOf request.limit outcome s, { m with files := s.files })

/-! ## The host -/

/-- An answer about files, a refusal naming the path. -/
def answer {α : Type} (path : Path) : Except Errno α → Except Fault α
  | .ok a => .ok a
  | .error errno => .error (.refused (errno.refusal path.text))

/-- Whether a path is that of a directory. -/
def isDirectory (m : Machine) (path : Path) : Except Fault Bool :=
  if path.hasNul then .ok false else answer path (m.files.isDirectory m.directory path.text)

/-- Whether there is anything at a path. -/
def isPresent (m : Machine) (path : Path) : Except Fault Bool :=
  if path.hasNul then .ok false else answer path (m.files.isPresent m.directory path.text)

/-- The absolute path without links that a path stands for. -/
def resolve (m : Machine) (path : Path) : Except Fault Path :=
  m.files.resolve m.directory path.text

/-- The content of a file. -/
def read (m : Machine) (path : Path) : Except Fault ByteArray :=
  if path.hasNul then .error (.badText .nul)
  else answer path (m.files.read m.directory path.text)

/-- Looks up a command, which must be a text. -/
def lookup (m : Machine) : Value → Except Fault (Option String)
  | .string name => .ok (m.find? name)
  | _ => .error .wrongType

/-- A machine as a host, on which commands may take a limited time. -/
def host (limit : Option Nat := none) : Host Machine where
  isDirectory := fun path => Act.tryOfWorld (·.isDirectory path)
  isPresent := fun path => Act.tryOfWorld (·.isPresent path)
  resolve := fun path => Act.tryOfWorld (·.resolve path)
  read := fun path => Act.tryOfWorld (·.read path)
  lookup := fun name => Act.tryOfWorld (·.lookup name)
  remoteLookup := none
  run := Command.run (fun request => Act.onWorld (·.launch request)) limit
  environment := fun name => Act.ofWorld (·.value? name)

end Machine

end LspHost
