import LspHost.Environment
import LspHost.Host

/-!
# Detecting the tool of a project

A project is managed by the first tool that is both installed, or fixed by the user, and has its
marker file directly inside the project's root.
-/

namespace LspHost

variable {σ : Type}

namespace Tool

/-- The program of a tool: the one that the user fixed, which is not checked, or else the one on the
search path. -/
def locate (tool : Tool) (override : Value) (lookup : Lookup σ) : Act σ (Option Value) := do
  if override.isTruthy then return some override
  let found ← lookup (.string tool.name)
  return found.map .string

/-- The program of a tool if the project is managed by it. -/
def ofProject? (tool : Tool) (host : Host σ) (overrides : Overrides) (root : Path) :
    Act σ (Option Value) := do
  match ← tool.locate (overrides.executable tool) host.lookup with
  | none =>
    Act.note .detection .debug (tool.name ++ " not found on the search path")
    return none
  | some program =>
    if ← host.isPresent (root.joinText tool.markerFile) then return some program
    return none

/-- The first of some tools that manages a project, with its program. -/
def detectAmong (host : Host σ) (overrides : Overrides) (root : Path) :
    List Tool → Act σ (Option (Tool × Value))
  | [] => return none
  | tool :: rest => do
    match ← tool.ofProject? host overrides root with
    | some program =>
      Act.note .detection .debug ("detected " ++ tool.name ++ " project at " ++ root.text)
      return some (tool, program)
    | none => detectAmong host overrides root rest

/-- The tool that manages a project, with its program. -/
def detect (host : Host σ) (overrides : Overrides) (root : Path) :
    Act σ (Option (Tool × Value)) :=
  detectAmong host overrides root all

end Tool

end LspHost
