import LspHost.Text.Quoted
import LspHost.Text.Words

/-!
# Faults

Everything that can end an operation early, by cause, and its wording. A fault leaves the state that
was reached in place; see `LspHost.Act`.
-/

namespace LspHost

/-- What kind of refusal of the operating system a call met, as far as callers tell them apart. -/
inductive RefusalKind where
  /-- the thing is not there -/
  | missing
  /-- the thing is there already -/
  | present
  /-- permission is denied -/
  | denied
  /-- a directory was found where none may be -/
  | isDirectory
  /-- no directory was found where one must be -/
  | notDirectory
  /-- nobody reads what is written -/
  | brokenPipe
  /-- a connection was given up -/
  | connectionAborted
  /-- a connection was refused -/
  | connectionRefused
  /-- a connection was cut off -/
  | connectionReset
  /-- a connection failed in another way -/
  | connection
  /-- the call took too long -/
  | timeout
  /-- the call would have to wait -/
  | blocked
  /-- there is no such child process -/
  | child
  /-- a signal came in between -/
  | interrupted
  /-- there is no such process -/
  | noProcess
  /-- any other refusal -/
  | other
  deriving DecidableEq, Repr

namespace RefusalKind

/-- The kind of refusal that an error number of the operating system stands for. -/
def ofCode (code : Int) : RefusalKind :=
  if code = 2 then .missing
  else if code = 17 then .present
  else if code = 1 ∨ code = 13 then .denied
  else if code = 21 then .isDirectory
  else if code = 20 then .notDirectory
  else if code = 32 ∨ code = 108 then .brokenPipe
  else if code = 103 then .connectionAborted
  else if code = 111 then .connectionRefused
  else if code = 104 then .connectionReset
  else if code = 110 then .timeout
  else if code = 11 ∨ code = 114 ∨ code = 115 then .blocked
  else if code = 10 then .child
  else if code = 4 then .interrupted
  else if code = 3 then .noProcess
  else .other

/-- Whether the refusal says that the other side of a connection is gone. -/
def isConnection : RefusalKind → Bool
  | .brokenPipe | .connectionAborted | .connectionRefused | .connectionReset | .connection => true
  | _ => false

end RefusalKind

/-- A refusal of the operating system. -/
structure Refusal where
  /-- its kind -/
  kind : RefusalKind
  /-- its wording -/
  text : String
  deriving DecidableEq, Repr

namespace Refusal

/-- The refusal with an error number and its explanation. -/
def ofCode (code : Int) (explanation : String) : Refusal where
  kind := .ofCode code
  text := "[Errno " ++ toString code ++ "] " ++ explanation

/-- The refusal with an error number, its explanation and the name of what was refused. -/
def ofCodeFor (code : Int) (explanation name : String) : Refusal where
  kind := .ofCode code
  text := "[Errno " ++ toString code ++ "] " ++ explanation ++ ": " ++ Text.quoted name

end Refusal

/-- An external command that could not be run or ended with a failure. -/
structure FailedQuery where
  /-- the program and its arguments -/
  command : List String
  /-- the exit status, none if the program never ran to its end -/
  status : Option Int
  /-- what it wrote to its standard error -/
  stderr : String
  deriving DecidableEq, Repr

/-- The wording of a failed command. -/
def FailedQuery.message (q : FailedQuery) : String :=
  let line := Text.quoted (" ".intercalate q.command)
  match q.status with
  | none => "could not run " ++ line
  | some status => line ++ " exited with status " ++ toString status

/-- Why a language server could not be started. -/
inductive LaunchProblem where
  /-- no command is configured -/
  | noCommand
  /-- the program could not be spawned -/
  | refused (program detail : String)
  /-- any other wording -/
  | other (message : String)
  deriving DecidableEq, Repr

/-- The wording of a failed start. -/
def LaunchProblem.message : LaunchProblem → String
  | .noCommand => "no language server command configured"
  | .refused program detail => "could not start " ++ Text.quoted program ++ ": " ++ detail
  | .other message => message

/-- Why a text cannot stand for what it should, or why there is no text for a value. -/
inductive TextProblem where
  /-- a command line cannot be cut into words -/
  | unfinished (cause : Text.Words.Unfinished)
  /-- a path or an argument holds the character that ends names -/
  | nul
  /-- a name is not among the names of a type -/
  | unknownName (name type : String)
  /-- an integer to be read has this many digits, which is too many -/
  | tooManyDigits (count : Nat)
  /-- an integer to be written has too many digits -/
  | tooLong
  /-- any other wording -/
  | other (message : String)
  deriving DecidableEq, Repr

/-- The wording of a problem with a text. -/
def TextProblem.message : TextProblem → String
  | .unfinished .quotation => "No closing quotation"
  | .unfinished .escape => "No escaped character"
  | .nul => "embedded null byte"
  | .unknownName name type => Text.quoted name ++ " is not a valid " ++ type
  | .tooManyDigits count =>
    "Exceeds the limit (4300 digits) for integer string conversion: value has " ++
      toString count ++ " digits; use sys.set_int_max_str_digits() to increase the limit"
  | .tooLong =>
    "Exceeds the limit (4300 digits) for integer string conversion; " ++
      "use sys.set_int_max_str_digits() to increase the limit"
  | .other message => message

/-- What ends an operation early. -/
inductive Fault where
  /-- an external command failed -/
  | queryFailed (query : FailedQuery)
  /-- the language server could not be started -/
  | launchFailed (problem : LaunchProblem)
  /-- a text does not stand for what it should -/
  | badText (problem : TextProblem)
  /-- bytes are not the encoding of a text -/
  | undecodable
  /-- a value is of a type that the operation does not take -/
  | wrongType
  /-- a value that is no table is used as one -/
  | notTable
  /-- the operating system refused a call -/
  | refused (refusal : Refusal)
  /-- a path leads through links that lead back to themselves -/
  | linkLoop
  /-- data is nested too deep -/
  | tooDeep
  /-- the other side is not in a state in which it can be called -/
  | badState (kind text : String)
  /-- any other fault that code outside raises -/
  | foreign (kind text : String)
  deriving DecidableEq, Repr

/-- The wording of a fault. -/
def Fault.message : Fault → String
  | .queryFailed query => query.message
  | .launchFailed problem => problem.message
  | .badText problem => problem.message
  | .refused refusal => refusal.text
  | .badState _ text => text
  | .foreign _ text => text
  | .undecodable | .wrongType | .notTable | .linkLoop | .tooDeep => ""

end LspHost
