import LspHost.Fault

/-!
# Error numbers

The error numbers of the calls that the machine of this library answers, with their explanations.
-/

namespace LspHost.Machine

/-- Why a call on files or programs is refused. -/
inductive Errno where
  /-- there is no such file or directory -/
  | missing
  /-- permission is denied -/
  | denied
  /-- the file is there already -/
  | present
  /-- a part of the path is no directory -/
  | notDirectory
  /-- a directory was found where a file must be -/
  | isDirectory
  /-- too many links -/
  | loop
  /-- a name or a path is too long -/
  | nameTooLong
  /-- a file is no program -/
  | notProgram
  /-- an argument of a program is too long -/
  | tooLong
  deriving DecidableEq, Repr

namespace Errno

/-- The number. -/
def code : Errno → Int
  | .missing => 2
  | .tooLong => 7
  | .notProgram => 8
  | .denied => 13
  | .present => 17
  | .notDirectory => 20
  | .isDirectory => 21
  | .nameTooLong => 36
  | .loop => 40

/-- The explanation. -/
def explanation : Errno → String
  | .missing => "No such file or directory"
  | .notProgram => "Exec format error"
  | .tooLong => "Argument list too long"
  | .denied => "Permission denied"
  | .present => "File exists"
  | .notDirectory => "Not a directory"
  | .isDirectory => "Is a directory"
  | .nameTooLong => "File name too long"
  | .loop => "Too many levels of symbolic links"

/-- The refusal of a call that names a file. -/
def refusal (errno : Errno) (name : String) : Refusal :=
  .ofCodeFor errno.code errno.explanation name

/-- Whether a check for a file just answers that it is not there. -/
def meansAbsent : Errno → Bool
  | .missing | .notDirectory | .loop => true
  | _ => false

end Errno

end LspHost.Machine
