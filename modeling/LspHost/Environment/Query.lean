import LspHost.Environment
import LspHost.Host

/-!
# Asking a tool for the environment

One tool reports the virtual environment and the interpreter by a command each, the other only the
virtual environment, in which the interpreter's place is known. All commands run in the project's
root.
-/

namespace LspHost.Tool

variable {σ : Type}

/-- Asks a tool for the environment of the project at a root. -/
def query (tool : Tool) (layout : Layout) (run : Runner σ) (program : Value) (root : Path) :
    Act σ (Option Environment) := do
  match tool with
  | .pipenv =>
    let venv ← run program ["--venv"] (some root.text)
    let python ← run program ["--py"] (some root.text)
    return Environment.ofPaths? venv python .pipenv
  | .poetry =>
    let venv ← run program ["env", "info", "-p"] (some root.text)
    if venv.isEmpty then return none
    return Environment.ofPaths? venv (layout.interpreterOf venv) .poetry

end LspHost.Tool
