import LspHost.Host
import LspHost.Text.Blank
import LspHost.Text.Lines
import LspHost.Text.Utf8
import LspHost.Value.Text

/-!
# External commands

`Command.run` runs a command to its end and gives its standard output without the blanks around it.
A command that cannot be launched, takes longer than it may, or ends with another status than zero
is a failed query; output that is not UTF-8 is a fault of its own. How a program is launched is a
parameter.
-/

namespace LspHost

/-- A program to launch. -/
structure Launch where
  /-- the program and its arguments -/
  argv : List String
  /-- the directory it starts in; none for that of the caller -/
  directory : Option String
  /-- the microseconds it may take -/
  limit : Option Nat := none
  deriving DecidableEq, Repr

/-- How a launch ended. -/
inductive Ending where
  /-- the program was not started -/
  | refused (refusal : Refusal)
  /-- the program took longer than it may -/
  | timedOut
  /-- the program ended; a signal that ended it counts as a negative status -/
  | ended (status : Int) (output errors : ByteArray)

namespace Command

variable {σ : Type}

/-- The arguments of a program as texts; none if one of them is no text. -/
def argv? (command : Value) (arguments : List String) : Option (List String) :=
  command.string?.map (· :: arguments)

/-- The arguments of a program as values. -/
def argvValue (command : Value) (arguments : List String) : Value :=
  .list (command :: arguments.map .string)

/-- Whether a text holds the character that ends names. -/
def hasNul (text : String) : Bool := text.toList.contains '\x00'

/-- The text that a program wrote. -/
def outputText (bytes : ByteArray) : Except Fault String :=
  match Text.ofBytes? bytes with
  | some text => .ok (Text.withLineFeeds text)
  | none => .error .undecodable

/-- What a finished launch means for the caller. -/
def outcome (argv : List String) : Ending → Except Fault String
  | .refused _ | .timedOut =>
    .error (.queryFailed { command := argv, status := none, stderr := "" })
  | .ended status output errors => do
    let output ← outputText output
    let errors ← outputText errors
    if status = 0 then return Text.trim output
    else .error (.queryFailed { command := argv, status, stderr := Text.trim errors })

/-- Runs a command to its end and gives its trimmed output. -/
def run (launch : Launch → Act σ Ending) (limit : Option Nat := none) : Runner σ :=
  fun command arguments directory => do
    let shown := (argvValue command arguments).described
    Act.note .process .debug
      ("running " ++ shown ++ " (cwd=" ++ directory.getD "None" ++ ")")
    let some argv := argv? command arguments | throw .wrongType
    if argv.any hasNul || directory.any hasNul then throw (.badText .nul)
    let ending ← launch { argv, directory, limit }
    Attempt.ofExcept (outcome argv ending)

end Command

end LspHost
