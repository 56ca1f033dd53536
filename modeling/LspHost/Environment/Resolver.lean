import LspHost.Environment.Detection
import LspHost.Environment.Query
import LspHost.Environment.Search
import LspHost.Value.Text

/-!
# Resolving an environment

The interpreter and the virtual environment of a project come from the first of these that gives an
answer: for the virtual environment, the one that the user fixed; the tool that manages the project;
for the virtual environment, the search upward; for the interpreter, the interpreter command on the
search path.

The answer of a tool is remembered until it is cleared, a failed or an empty one is not. So a tool
is asked at most once for one answer, and again after each failure.
-/

namespace LspHost

variable {σ : Type}

/-- What a resolver works with. -/
structure Resolver (σ : Type) where
  /-- the surroundings -/
  host : Host σ
  /-- what the user fixed -/
  overrides : Overrides
  /-- the root of the project -/
  root : Path

namespace Resolver

/-- The scene of a resolver with the answer it remembers. -/
structure Memory (σ : Type) where
  /-- the scene -/
  scene : Scene σ
  /-- the remembered answer of the project's tool -/
  cache : Option Environment := none

/-- The scene as a part of what a resolver changes. -/
def Memory.sceneLens : Lens (Memory σ) (Scene σ) where
  get := Memory.scene
  set := fun scene m => { m with scene }

/-- A computation of a resolver. -/
abbrev Run (σ : Type) : Type → Type := Attempt (Memory σ)

/-- An act as a computation that leaves the remembered answer alone. -/
def lift {α : Type} (act : Act σ α) : Run σ α := Memory.sceneLens.lift act

/-- Forgets the remembered answer. -/
def clear : Run σ Unit := modify fun m => { m with cache := none }

/-- Remembers an answer. -/
def remember (e : Environment) : Run σ Unit := modify fun m => { m with cache := some e }

/-- Asks the tool of a project, noting how that went. -/
def ask (r : Resolver σ) (tool : Tool) (program : Value) : Act σ (Option Environment) := do
  match ← Act.settle (tool.query .bin r.host.run program r.root) with
  | .error query =>
    Act.note .resolver .debug (tool.name ++ " query failed: " ++ query.message)
    return none
  | .ok none =>
    Act.note .resolver .debug (tool.name ++ " reported no environment for " ++ r.root.text)
    return none
  | .ok (some e) =>
    Act.note .resolver .debug
      (tool.name ++ " resolved venv=" ++ e.venv ++ " python=" ++ e.python)
    return some e

/-- Finds the tool of the project and asks it, whatever is remembered. -/
def query (r : Resolver σ) : Act σ (Option Environment) := do
  match ← Tool.detect r.host r.overrides r.root with
  | none => return none
  | some (tool, program) => r.ask tool program

/-- The environment that the project's tool reports: the remembered one, or else a new answer, which
is then remembered. -/
def viaTool (r : Resolver σ) : Run σ (Option Environment) := do
  match (← get).cache with
  | some e => return some e
  | none =>
    let answer ← lift r.query
    -- only an answer is remembered, so that a failed query is made again
    if let some e := answer then remember e
    return answer

/-- The interpreter command on the search path, on that of the remote side if the user prefers it
and there is one. -/
def searchInterpreter (r : Resolver σ) : Act σ (Option String) :=
  let command := r.overrides.pythonCommand.orElse (.string "python")
  match r.overrides.preferRemote.isTruthy, r.host.remoteLookup with
  | true, some lookup => lookup command
  | _, _ => r.host.lookup command

/-- The interpreter of the project. -/
def python (r : Resolver σ) : Run σ (Option String) := do
  match ← r.viaTool with
  | some e => return some e.python
  | none => lift r.searchInterpreter

/-- The virtual environment of the project, for the file that the user works on. -/
def venv (r : Resolver σ) (file : Option Path) : Run σ (Option Value) := do
  if r.overrides.venvPath.isTruthy then
    lift (Act.note .resolver .debug ("using venv override " ++ r.overrides.venvPath.display))
    return some r.overrides.venvPath
  match ← r.viaTool with
  | some e => return some (.string e.venv)
  | none =>
    let found ← lift (Search.venv r.host r.overrides r.root file)
    return found.map fun path => .string path.text

/-- The answer to a question about the project's environment. -/
def resolve (r : Resolver σ) (target : Target) (file : Option Path) : Run σ (Option Value) :=
  match target with
  | .python => do return (← r.python).map .string
  | .venv => r.venv file

end Resolver

end LspHost
