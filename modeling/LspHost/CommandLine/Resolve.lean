import LspHost.CommandLine.Report

/-!
# Resolving from the command line

The program that resolves the interpreter and the virtual environment of a project without any
configuration files.
-/

namespace LspHost.CommandLine

variable {σ : Type}

/-- The file that is edited. -/
def Found.file? (f : Found) : Option Path := (f.argument? "--file").map Path.ofText

/-- The root of the project, which is the current directory unless it is given. -/
def Found.root (f : Found) : Path := Path.ofText (f.operand.headD ".")

/-- What a resolver finds for each of several targets, one after the other. -/
def resolveEach (r : Resolver σ) (file : Option Path) (targets : List Target) :
    Resolver.Run σ Answers :=
  targets.mapM fun target => do return (target, ← r.resolve target file)

/-- Runs a computation of a resolver that remembers nothing yet. -/
def freshly {α : Type} (run : Resolver.Run σ α) : Act σ α := fun s =>
  match run { scene := s } with
  | .ok a m => .ok a m.scene
  | .error e m => .error e m.scene

/-- Resolves the interpreter and the virtual environment of a project. -/
def resolveProject (s : Surroundings σ) (found : Found) : Act σ Report := do
  let root := found.root
  unless ← s.host.isPresent root do
    return { ending := .ok 1, errors := "error: path not found: " ++ root.text ++ "\n" }
  let overrides : Overrides :=
    { venvPath := ((found.argument? "--venv-override").map Value.string).getD .null
      pythonCommand := .string ((found.argument? "--python-command").getD "python") }
  let resolver : Resolver σ := { host := s.host, overrides, root := ← s.host.resolve root }
  let answers ← freshly (resolveEach resolver found.file? Target.all)
  let text ← Attempt.ofExcept (Answers.text (found.has "--json") answers)
  return { ending := .ok 0, output := text ++ "\n" }

/-- The report of an act, whose journal is shown without any logging set up. -/
def reportBare (act : Act σ Report) (world : σ) : Report × σ :=
  match act { world } with
  | .ok r t => ({ r with errors := Display.text .bare t.journal ++ r.errors }, t.world)
  | .error e t => ({ ending := .error e, errors := Display.text .bare t.journal }, t.world)

/-- The program that resolves the environment of a project. -/
def resolverMain (s : Surroundings σ) (arguments : List String) (world : σ) : Report × σ :=
  match resolverProgram.parse arguments with
  | .error stop => reportStop s stop world
  | .ok request => reportBare (resolveProject s request.found) world

end LspHost.CommandLine
