import LspHost.Machine.Image
import LspHost.Machine.Shell.Syntax

/-!
# Shell scripts: state

What a shell works on while it runs a script, and how a part of a run may stop before its end. Where
a stream goes is a matter of the shell, so that redirections are changes of the state that are
undone behind the command.
-/

namespace LspHost.Machine.Shell

/-- Where a stream goes. -/
inductive Sink where
  /-- to the caller's standard output -/
  | output
  /-- to the caller's standard error -/
  | errors
  /-- to the end of a file -/
  | file (at_ : Location)
  /-- to the place that swallows everything -/
  | nothing
  deriving DecidableEq

/-- The place that swallows what is written to it. -/
def voidLocation : Location := ["dev", "null"]

/-- Where a stream goes that is opened on the file at a location. -/
def Sink.ofLocation (at_ : Location) : Sink := if at_ == voidLocation then .nothing else .file at_

/-- A variable. -/
structure Variable where
  /-- its name -/
  name : String
  /-- its value, if it has one -/
  value : Option Octets
  /-- whether other programs see it -/
  isExported : Bool := false
  /-- whether it keeps its value -/
  isFixed : Bool := false
  deriving DecidableEq

/-- A shell at work. -/
structure State where
  /-- the files -/
  files : Files
  /-- the directory it is in -/
  directory : Location
  /-- the directory by the names that led to it, which may be those of links -/
  logical : Location
  /-- its variables -/
  bindings : List Variable
  /-- its functions -/
  functions : List (String × Command) := []
  /-- the name of the script -/
  name : Octets := []
  /-- the arguments of the script or the function -/
  arguments : List Octets := []
  /-- the status of the last command -/
  status : Nat := 0
  /-- the status of what a command in the present one wrote, which a command without words takes
  over
  -/
  substituted : Nat := 0
  /-- the processes that are not waited for, with their statuses, the last one first -/
  jobs : List (Nat × Nat) := []
  /-- the letters of the options that are set -/
  options : List Char := []
  /-- the commands to run when signals arrive; the end of the script counts as signal 0 -/
  traps : List (Nat × Octets) := []
  /-- where the streams go -/
  sinks : List (Nat × Sink) := [(1, .output), (2, .errors)]
  /-- what is left to be read on the standard input -/
  input : Octets := []
  /-- what went to the standard output, the last octet first -/
  output : Octets := []
  /-- what went to the standard error, the last octet first -/
  errors : Octets := []
  /-- the microseconds that went by -/
  elapsed : Nat := 0
  /-- the number of the process -/
  process : Nat := 100
  /-- the number of loops around the command -/
  loops : Nat := 0
  /-- the number of functions around the command -/
  calls : Nat := 0
  /-- inside a function, the variables that were replaced by local ones -/
  replaced : Option (List (String × Option Variable)) := none

/-- Why a run stops before the end of its script. -/
inductive Stop where
  /-- the shell ends with a status -/
  | exit (status : Nat)
  /-- a signal ends the shell -/
  | killed (signal : Nat)
  /-- the shell never ends -/
  | never
  /-- some loops end -/
  | leave (loops : Nat)
  /-- some loops end but the last of them, which goes on -/
  | again (loops : Nat)
  /-- a function ends with a status -/
  | back (status : Nat)
  deriving DecidableEq, Repr

/-- A part of a run. -/
abbrev Run : Type → Type := EStateM Stop State

namespace State

/-! ## Streams -/

/-- Writes to a stream; tells whether it leads anywhere. -/
def write (s : State) (stream : Nat) (octets : Octets) : State × Bool :=
  match s.sinks.find? (·.1 == stream) with
  | some (_, .output) => ({ s with output := octets.reverseAux s.output }, true)
  | some (_, .errors) => ({ s with errors := octets.reverseAux s.errors }, true)
  | some (_, .file at_) =>
    let content := s.files.contentAt at_ ++ bytesOf octets
    ({ s with files := s.files.setContent at_ content }, true)
  | some (_, .nothing) => (s, true)
  | none => (s, octets.isEmpty)

/-- Sends a stream elsewhere, or nowhere. -/
def redirect (s : State) (stream : Nat) (sink : Option Sink) : State :=
  { s with
    sinks := (sink.map (stream, ·)).toList ++ s.sinks.filter (·.1 != stream) }

/-! ## Variables -/

/-- A variable by its name. -/
def binding? (s : State) (name : String) : Option Variable := s.bindings.find? (·.name == name)

/-- The value of a variable. -/
def value? (s : State) (name : String) : Option Octets := (s.binding? name).bind Variable.value

/-- Puts a variable in the place of the one with its name. -/
def bind (s : State) (v : Variable) : State :=
  { s with bindings := s.bindings.filter (·.name != v.name) ++ [v] }

/-- Gives a variable a value, and perhaps shows it to other programs. -/
def assign (s : State) (name : String) (value : Octets) (isExported : Bool := false) : State :=
  let known := (s.binding? name).getD { name, value := none }
  s.bind { known with value := some value, isExported := isExported || known.isExported }

/-- Removes a variable. -/
def unbind (s : State) (name : String) : State :=
  { s with bindings := s.bindings.filter (·.name != name) }

/-- Whether a variable keeps its value. -/
def isFixed (s : State) (name : String) : Bool := (s.binding? name).any Variable.isFixed

/-- Puts a variable back, or removes it. -/
def restore (s : State) (name : String) (before : Option Variable) : State :=
  match before with
  | some v => s.bind v
  | none => s.unbind name

/-- The characters between which values are cut into fields. -/
def separators (s : State) : Octets := (s.value? "IFS").getD " \t\n".toList

/-! ## Files and programs -/

/-- The search path. -/
def searchPath (s : State) : Option String := (s.value? "PATH").map textOf

/-- Whether an option is set. -/
def hasOption (s : State) (letter : Char) : Bool := s.options.contains letter

/-- The shell of a program that a shell starts; variables that are not exported stay behind. -/
def forProgram (s : State) : State :=
  { s with
    bindings := s.bindings.filter Variable.isExported
    functions := []
    status := 0
    jobs := []
    options := []
    traps := s.traps.filter (·.2.isEmpty)
    process := s.process + 1
    loops := 0
    calls := 0
    replaced := none }

/-- The shell that runs a part of a script apart from the rest. -/
def forPart (s : State) : State :=
  { s with traps := s.traps.filter (·.2.isEmpty), loops := 0 }

/-- A shell behind the end of another one that it started: files, output and time go on, all else is
as before. -/
def behind (s inner : State) : State :=
  { s with
    files := inner.files
    input := inner.input
    output := inner.output
    errors := inner.errors
    elapsed := inner.elapsed }

end State

/-- The text of a location. -/
def locationText (at_ : Location) : String := "/" ++ "/".intercalate at_

/-- Writes a message about the script to the standard error. -/
def complain (line : Nat) (message : String) : Run Unit :=
  modify fun s =>
    (s.write 2 (s.name ++ octetsOf (": " ++ toString line ++ ": " ++ message ++ "\n"))).1

/-- Writes a message about the script, which ends. -/
def fail {α : Type} (line : Nat) (message : String) : Run α := do
  complain line message
  throw (.exit 2)

/-- Gives a variable a value, unless it keeps the one that it has. -/
def assign (line : Nat) (name : String) (value : Octets) (isExported : Bool := false) :
    Run Unit := do
  if (← get).isFixed name then fail line (name ++ ": is read only")
  modify (·.assign name value isExported)

end LspHost.Machine.Shell
