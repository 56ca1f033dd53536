import LspHost.CommandLine.Arguments

/-!
# The command line programs

The switches and texts of the two programs: one resolves the environment of a project, the other
also shows the settings and runs the language server.
-/

namespace LspHost.CommandLine

/-- The switch that prints the help text. -/
def helpSwitch : Switch where
  names := ["-h", "--help"]
  role := .help
  help := "show this help message and exit"

/-- The switch that prints the version. -/
def versionSwitch : Switch where
  names := ["--version"]
  role := .version
  help := "show program's version number and exit"

/-- The switch for the file that is edited. -/
def fileSwitch : Switch where
  names := ["--file"]
  arity := .one
  argumentName := "FILE"
  help := "file being edited; directory search starts next to it"

/-- The switch that shows all records. -/
def debugSwitch : Switch where
  names := ["--debug"]
  help := "enable debug logging for troubleshooting"

/-- The project that a program works on. -/
def projectOperand (help : String) : Operand := .value "project_root" help

/-- Lines of examples. -/
def examples (texts : List String) : String :=
  "examples:\n" ++ String.join (texts.map fun text => "  " ++ text ++ "\n") ++ "        "

/-- The program that resolves the environment of a project. -/
def resolverForm : Form where
  name := "envresolver"
  description := "python interpreter and virtual environment resolver"
  operand := projectOperand "project directory to resolve (default: current directory)"
  switches :=
    [helpSwitch, fileSwitch,
      { names := ["--venv-override"]
        arity := .one
        argumentName := "VENV_OVERRIDE"
        help := "use this virtual environment regardless of detection" },
      { names := ["--python-command"]
        arity := .one
        argumentName := "PYTHON_COMMAND"
        help := "interpreter command used as a last resort (default: python)" },
      { names := ["--json"], help := "output as json" }, versionSwitch]
  epilogue := examples
    ["envresolver /path/to/project               # resolve interpreter and venv",
      "envresolver /path/to/project --json        # output as json",
      "envresolver . --venv-override /opt/envs/x  # force a venv"]
  version := "envresolver 0.1.0"

/-- The program that resolves the environment of a project. -/
def resolverProgram : Program := { form := resolverForm }

/-- The program around the language server. -/
def serverForm : Form where
  name := "serverlink"
  description := "python language server launcher with interpreter detection"
  operand := .command "available commands"
    [("resolve", "resolve the project's python interpreter and virtual environment"),
      ("settings", "print the settings snapshot sent to the language server"),
      ("run", "start the language server for a project")]
  switches := [helpSwitch, versionSwitch]
  epilogue := examples
    ["serverlink resolve .                       # show interpreter and venv",
      "serverlink resolve --kind venv --json .    # only the venv, as json",
      "serverlink settings .                      # settings sent to the server",
      "serverlink run . --open src/main.py        # run the language server",
      "serverlink run . --server \"pyls --stdio\"   # run another server"]
  version := "serverlink 0.1.0"

/-- The project that a command works on. -/
def commandOperand : Operand := projectOperand "project directory (default: current directory)"

/-- The command that resolves the environment. -/
def resolveForm : Form where
  name := "serverlink resolve"
  operand := commandOperand
  switches :=
    [helpSwitch,
      { names := ["--kind"]
        arity := .one
        choices := ["python", "venv"]
        help := "resolve only this value (default: both)" },
      fileSwitch, { names := ["--json"], help := "output in json format (default: text)" },
      debugSwitch]

/-- The command that shows the settings. -/
def settingsForm : Form where
  name := "serverlink settings"
  operand := commandOperand
  switches := [helpSwitch, fileSwitch, debugSwitch]

/-- The command that runs the language server. -/
def runForm : Form where
  name := "serverlink run"
  operand := commandOperand
  switches :=
    [helpSwitch,
      { names := ["--server"]
        arity := .one
        argumentName := "COMMAND"
        help :=
          "language server command line, split like a shell would (default: from configuration)" },
      { names := ["--open"]
        arity := .many
        argumentName := "FILE"
        help := "files to open once the server is ready" },
      { names := ["--no-indicator"], help := "do not toggle busy indicators on progress" },
      debugSwitch]

/-- The program around the language server. -/
def serverProgram : Program where
  form := serverForm
  commands := [("resolve", resolveForm), ("settings", settingsForm), ("run", runForm)]

end LspHost.CommandLine
