import LspHost.Path
import LspHost.Value

/-!
# Environments of projects

A project's environment is a virtual environment with an interpreter in it. A project may be managed
by a tool that knows both; a user may override every step of finding them.
-/

namespace LspHost

/-- A tool that manages projects and their environments. -/
inductive Tool where
  /-- a project with a `Pipfile` -/
  | pipenv
  /-- a project with a `pyproject.toml` -/
  | poetry
  deriving DecidableEq, Repr

namespace Tool

/-- The name of a tool, which is also that of its program. -/
def name : Tool → String
  | .pipenv => "pipenv"
  | .poetry => "poetry"

/-- The file directly inside a project's root by which a project of the tool is known. -/
def markerFile : Tool → String
  | .pipenv => "Pipfile"
  | .poetry => "pyproject.toml"

/-- The tools in the order in which they are tried. -/
def all : List Tool := [.pipenv, .poetry]

/-- The tool of a name. -/
def ofName? (name : String) : Option Tool := all.find? (·.name == name)

end Tool

/-- What can be asked of an environment. -/
inductive Target where
  /-- the interpreter -/
  | python
  /-- the directory of the virtual environment -/
  | venv
  deriving DecidableEq, Repr

namespace Target

/-- The name of a target. -/
def name : Target → String
  | .python => "python"
  | .venv => "venv"

/-- The targets in the order in which they are reported. -/
def all : List Target := [.python, .venv]

/-- The target of a name. -/
def ofName? (name : String) : Option Target := all.find? (·.name == name)

end Target

/-- The environment that a tool reports for a project. -/
structure Environment where
  /-- the directory of the virtual environment -/
  venv : String
  /-- the interpreter inside it -/
  python : String
  /-- the tool that reported them -/
  tool : Tool
  deriving DecidableEq, Repr

namespace Environment

/-- The environment of two paths, neither of which may be empty. -/
def ofPaths? (venv python : String) (tool : Tool) : Option Environment :=
  if venv.isEmpty || python.isEmpty then none else some { venv, python, tool }

/-- The path that answers a question. -/
def get (e : Environment) : Target → String
  | .python => e.python
  | .venv => e.venv

/-- Whether both paths are there. -/
def IsComplete (e : Environment) : Prop := e.venv ≠ "" ∧ e.python ≠ ""

/-- **Only complete environments are made.** -/
theorem isComplete_of_ofPaths? {venv python : String} {tool : Tool} {e : Environment}
    (h : ofPaths? venv python tool = some e) : e.IsComplete := by
  unfold ofPaths? at h
  split at h
  · exact absurd h (by simp)
  · next hne =>
    obtain rfl := Option.some.inj h
    simpa [IsComplete] using hne

end Environment

/-- Where a virtual environment keeps its interpreter. -/
inductive Layout where
  /-- `bin/python` -/
  | bin
  /-- `Scripts/python.exe` -/
  | scripts
  deriving DecidableEq, Repr

namespace Layout

/-- The layout of a platform. -/
def ofPlatform (platform : String) : Layout :=
  if platform = "win32" then .scripts else .bin

/-- The path of the interpreter inside a virtual environment. -/
def interpreter : Layout → Path
  | .bin => Path.ofText "bin/python"
  | .scripts => Path.ofText "Scripts/python.exe"

/-- The interpreter of a virtual environment. Nothing checks that it is there. -/
def interpreterOf (layout : Layout) (venv : String) : String :=
  ((Path.ofText venv).join layout.interpreter).text

end Layout

/-- What a user fixed about the environment. The values are taken as they are given; one that does
not count as given fixes nothing. -/
structure Overrides where
  /-- the virtual environment to use in any case -/
  venvPath : Value := .null
  /-- the name of the directory to look for upward -/
  venvDirectory : Value := .null
  /-- the interpreter command of last resort -/
  pythonCommand : Value := .string "python"
  /-- the program of pipenv -/
  pipenvExecutable : Value := .null
  /-- the program of poetry -/
  poetryExecutable : Value := .null
  /-- whether the interpreter command is looked up on the remote side if there is one -/
  preferRemote : Value := .bool false
  deriving DecidableEq

/-- The program that a user fixed for a tool. -/
def Overrides.executable (o : Overrides) : Tool → Value
  | .pipenv => o.pipenvExecutable
  | .poetry => o.poetryExecutable

end LspHost
