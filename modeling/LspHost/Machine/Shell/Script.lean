import LspHost.Machine.Shell.Builtin
import LspHost.Machine.Shell.Expansion
import LspHost.Machine.Shell.Grammar

/-!
# Shell scripts: scripts

A script is read and run line by line, in a shell that may end before it. Parts of a script run in
shells of their own, of which only files, output and time go on behind them. How the commands are
run is a parameter here.
-/

namespace LspHost.Machine.Shell

/-- How a command inside another one is run; the flag tells whether its outcome is tested, so that a
failure does not end the script. -/
abbrev Runner := Bool → Command → Run Unit

/-- Sets the status. -/
def setStatus (status : Nat) : Run Unit := modify fun s => { s with status }

/-! ## Lines -/

/-- Runs what is left of a script, line by line; messages about flaws name a command before them.
`fuel` bounds the number of lines. -/
def runLines (go : Runner) (r : Reading) (namer : String) : (fuel : Nat) → Source → Run Unit
  | 0, _ => return
  | fuel + 1, source => do
    match r.nextLine source with
    | .ok none _ => return
    | .ok (some command) rest =>
      go false command
      runLines go r namer fuel rest
    | .error flaw _ => Shell.fail flaw.line (namer ++ "Syntax error: " ++ flaw.message)

/-- Runs a text as a script. -/
def runText (go : Runner) (namer : String) (text : Octets) : Run Unit :=
  runLines go (Reading.ofScript text) namer (text.length + 1) { text }

/-- Runs commands to the end of their shell, which `exit` may be, and gives the status. -/
def finish (body : Run Unit) : Run Nat := do
  try
    body
    return (← get).status
  catch
    | .exit status | .back status => return status
    | .leave _ | .again _ => return (← get).status
    | stop => throw stop

/-- Runs commands to the end of their shell, where the command is run that waits for it. -/
def runShell (go : Runner) (body : Run Unit) : Run Nat := do
  let status ← finish body
  match (← get).traps.find? (·.1 == 0) with
  | none => return status
  | some (_, action) =>
    modify fun s => { s with traps := trapped s.traps 0 none, status }
    finish do
      runText go "" action
      setStatus status

/-- Runs commands in a shell of their own and gives the status. -/
def runApart (go : Runner) (body : Run Unit) : Run Nat := do
  let outer ← get
  set outer.forPart
  let status ← runShell go body
  let inner ← get
  set (outer.behind inner)
  return status

/-- What commands write in a shell of their own, and their status. -/
def capture (go : Runner) (body : Run Unit) : Run (Octets × Nat) := do
  let outer ← get
  set ({ outer with output := [] }.redirect 1 (some .output))
  let status ← runApart go body
  let inner ← get
  set { outer.behind inner with output := outer.output }
  return (inner.output.reverse, status)

/-- The value of what a command writes, without the line feeds at its end. -/
def outputOf (go : Runner) (command : Command) : Run Octets := do
  let (written, status) ← capture go (go false command)
  modify fun s => { s with substituted := status }
  return (written.reverse.dropWhile (· == '\n')).reverse

/-- How the words of a command on a line are expanded. -/
def expander (go : Runner) (line : Nat) : Expander where
  line
  outputOf := outputOf go
  cuts := true

end LspHost.Machine.Shell
