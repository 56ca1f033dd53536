import LspHost.Value

/-!
# Settings

Each setting has a name inside a section and a default. `Setting.all` lists them in the order in
which they are shown.
-/

namespace LspHost

/-- A section of the configuration. -/
inductive Section where
  /-- how the interpreter is found -/
  | python
  /-- how the language server is launched -/
  | server
  /-- what is passed through to the language server -/
  | analysis
  /-- what the host shows -/
  | ui
  deriving DecidableEq, Repr

namespace Section

/-- The name of a section in a configuration file. -/
def name : Section → String
  | .python => "python"
  | .server => "server"
  | .analysis => "analysis"
  | .ui => "ui"

/-- The name of a section in messages. -/
def title : Section → String
  | .python => "PythonConfig"
  | .server => "ServerConfig"
  | .analysis => "AnalysisConfig"
  | .ui => "UiConfig"

/-- The sections in the order in which they are read. -/
def all : List Section := [.python, .server, .analysis, .ui]

end Section

/-- A setting. -/
inductive Setting where
  /-- the virtual environment to use in any case -/
  | venvPath
  /-- the name of the directory to look for upward -/
  | venvDirectory
  /-- the interpreter command of last resort -/
  | pythonCommand
  /-- the program of pipenv -/
  | pipenvExecutable
  /-- the program of poetry -/
  | poetryExecutable
  /-- whether the interpreter command is looked up on the remote side -/
  | preferRemote
  /-- the command of the language server -/
  | command
  /-- the file that receives the log -/
  | logFile
  /-- further import search paths -/
  | extraPaths
  /-- what the server caches -/
  | cachingLevel
  /-- the diagnostics reported as errors -/
  | errors
  /-- the diagnostics reported as warnings -/
  | warnings
  /-- the diagnostics reported as information -/
  | information
  /-- the diagnostics that are not reported -/
  | disabled
  /-- how much the server logs -/
  | logLevel
  /-- whether the server adds source directories to the search paths -/
  | autoSearchPaths
  /-- whether the server keeps the trees of libraries -/
  | keepLibraryAst
  /-- the depth of the tree of document symbols -/
  | symbolsHierarchyDepthLimit
  /-- the files that are not analysed -/
  | excludeFiles
  /-- further directories with stubs -/
  | typeStubPaths
  /-- whether buffers show that the server is busy -/
  | progressIndicator
  deriving DecidableEq, Repr

namespace Setting

/-- The settings in the order in which they are shown. -/
def all : List Setting :=
  [.venvPath, .venvDirectory, .pythonCommand, .pipenvExecutable, .poetryExecutable, .preferRemote,
    .command, .logFile,
    .extraPaths, .cachingLevel, .errors, .warnings, .information, .disabled, .logLevel,
    .autoSearchPaths, .keepLibraryAst, .symbolsHierarchyDepthLimit, .excludeFiles, .typeStubPaths,
    .progressIndicator]

/-- The section of a setting. -/
def group : Setting → Section
  | .venvPath | .venvDirectory | .pythonCommand | .pipenvExecutable | .poetryExecutable
  | .preferRemote => .python
  | .command | .logFile => .server
  | .extraPaths | .cachingLevel | .errors | .warnings | .information | .disabled | .logLevel
  | .autoSearchPaths | .keepLibraryAst | .symbolsHierarchyDepthLimit | .excludeFiles
  | .typeStubPaths => .analysis
  | .progressIndicator => .ui

/-- The name of a setting inside its section. -/
def name : Setting → String
  | .venvPath => "venv_path"
  | .venvDirectory => "venv_directory"
  | .pythonCommand => "python_command"
  | .pipenvExecutable => "pipenv_executable"
  | .poetryExecutable => "poetry_executable"
  | .preferRemote => "prefer_remote"
  | .command => "command"
  | .logFile => "log_file"
  | .extraPaths => "extra_paths"
  | .cachingLevel => "caching_level"
  | .errors => "errors"
  | .warnings => "warnings"
  | .information => "information"
  | .disabled => "disabled"
  | .logLevel => "log_level"
  | .autoSearchPaths => "auto_search_paths"
  | .keepLibraryAst => "keep_library_ast"
  | .symbolsHierarchyDepthLimit => "symbols_hierarchy_depth_limit"
  | .excludeFiles => "exclude_files"
  | .typeStubPaths => "type_stub_paths"
  | .progressIndicator => "progress_indicator"

/-- The value of a setting that nothing sets. -/
def default : Setting → Value
  | .venvPath | .venvDirectory | .pipenvExecutable | .poetryExecutable | .logFile => .null
  | .pythonCommand => .string "python"
  | .command => .list [.string "Microsoft.Python.LanguageServer"]
  | .extraPaths | .errors | .warnings | .information | .disabled | .excludeFiles
  | .typeStubPaths => .list []
  | .cachingLevel => .string "Default"
  | .logLevel => .string "Warning"
  | .preferRemote | .keepLibraryAst => .bool false
  | .autoSearchPaths | .progressIndicator => .bool true
  | .symbolsHierarchyDepthLimit => .int 10

/-- The settings of a section in order. -/
def ofSection (s : Section) : List Setting := all.filter (·.group == s)

/-- The setting of a name inside a section. -/
def ofName? (s : Section) (name : String) : Option Setting :=
  (ofSection s).find? (·.name == name)

/-- Every setting is listed. -/
theorem mem_all (setting : Setting) : setting ∈ all := by
  cases setting <;> decide

/-- **A name within a section belongs to one setting.** -/
theorem ofName?_name (setting : Setting) :
    ofName? setting.group setting.name = some setting := by
  cases setting <;> decide +kernel

end Setting

end LspHost
