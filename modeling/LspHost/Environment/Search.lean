import LspHost.Environment
import LspHost.Host

/-!
# Searching for a virtual environment upward

A directory of a given name is looked for in a start directory and then in each of its parents. Of
several names the first is looked for all the way up before the second is.
-/

namespace LspHost.Search

variable {σ : Type}

/-- The names tried after the one that the user fixed. -/
def usualNames : List String := [".venv", "venv"]

/-- The first of some paths that is a directory. -/
def firstDirectory (host : Host σ) : List Path → Act σ (Option Path)
  | [] => return none
  | path :: rest => do
    if ← host.isDirectory path then return some path
    firstDirectory host rest

/-- The places where a directory of a name may be, the nearest first. -/
def candidates (start : Path) (name : String) : List Path :=
  (start :: start.parents).map (·.joinText name)

/-- The nearest directory of a name in a start directory or one of its parents. -/
def upward (host : Host σ) (start : Path) (name : String) : Act σ (Option Path) :=
  firstDirectory host (candidates start name)

/-- The directory that the search starts from: the root without a file, else the file itself if it
is a directory and the one that it is in otherwise. -/
def start (host : Host σ) (root : Path) : Option Path → Act σ Path
  | none => return root
  | some file => do
    let path := root.join file
    if ← host.isDirectory path then return path
    return path.parent

/-- The nearest directory of the first name that has one; a name that is no text is a fault. -/
def upwardAmong (host : Host σ) (start : Path) : List Value → Act σ (Option Path)
  | [] => return none
  | name :: rest => do
    let some text := name.string? | throw .wrongType
    match ← upward host start text with
    | some found =>
      Act.note .resolver .debug ("found " ++ text ++ " directory at " ++ found.text)
      return some found
    | none => upwardAmong host start rest

/-- The names to look for: the one that the user fixed, if any, and the usual ones. -/
def names (overrides : Overrides) : List Value :=
  overrides.venvDirectory.given?.toList ++ usualNames.map .string

/-- The virtual environment that the search finds for the file that the user works on. -/
def venv (host : Host σ) (overrides : Overrides) (root : Path) (file : Option Path) :
    Act σ (Option Path) := do
  let start ← start host root file
  upwardAmong host start (names overrides)

end LspHost.Search
