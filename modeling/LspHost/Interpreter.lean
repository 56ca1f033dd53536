import LspHost.Config
import LspHost.Host
import LspHost.Json.Parser
import LspHost.Value.Text

/-!
# Inspecting the interpreter

The interpreter is run once with a script that prints its version and its search paths as JSON. An
interpreter that cannot be run or answers something else is described by nothing. Together with the
configuration the description makes up the options that the language server is initialised with.
-/

namespace LspHost

/-- What an interpreter reports about itself. -/
structure Interpreter where
  /-- its version, empty if unknown -/
  version : String := ""
  /-- where it looks for modules -/
  searchPaths : List String := []
  deriving DecidableEq, Repr

namespace Interpreter

variable {σ : Type}

/-- The script that makes an interpreter report about itself. -/
def script : String :=
  "import json, sys; " ++
    "print(json.dumps(\x7b'version': '%d.%d.%d' % sys.version_info[:3], " ++
    "'paths': [p for p in sys.path if p]\x7d))"

/-- What an answer says. Fields that are missing or of the wrong type say nothing. -/
def ofAnswer : Value → Interpreter
  | .table fields =>
    { version := ((Table.find? "version" fields).bind Value.string?).getD ""
      searchPaths :=
        match Table.find? "paths" fields with
        | some (.list paths) => paths.map Value.display
        | _ => [] }
  | _ => {}

/-- What a text that an interpreter printed says. An integer too long to convert and nesting too
deep are faults. -/
def ofOutput (python output : String) : Act σ Interpreter :=
  match Json.parse output with
  | .ok answer => return ofAnswer answer
  | .error .malformed => do
    Act.note .interpreter .debug
      ("unexpected interpreter output from " ++ python ++ ": " ++ Text.quoted output)
    return {}
  | .error (.tooManyDigits count) => throw (.badText (.tooManyDigits count))
  | .error .tooDeep => throw .tooDeep

/-- Runs an interpreter and reads what it reports; the empty path is no interpreter. -/
def inspect (run : Runner σ) (python : String) (directory : Option String) :
    Act σ Interpreter := do
  if python.isEmpty then return {}
  match ← Act.settle (run (.string python) ["-c", script] directory) with
  | .error query =>
    Act.note .interpreter .debug ("could not inspect " ++ python ++ ": " ++ query.message)
    return {}
  | .ok output => ofOutput python output

/-- The items of a value; a value that has none is a fault. -/
def itemsOf (value : Value) : Except Fault (List Value) :=
  match value.items? with
  | some items => .ok items
  | none => .error .wrongType

/-- The options that the server is initialised with. -/
def options (c : Config) (python : String) (info : Interpreter) : Except Fault Value := do
  let extra ← itemsOf (c.value .extraPaths)
  let stubs ← itemsOf (c.value .typeStubPaths)
  let excluded ← itemsOf (c.value .excludeFiles)
  return .table
    [("interpreter", .table
        [("properties", .table
          [("InterpreterPath", .string python),
            ("UseDefaultDatabase", .bool true),
            ("Version", .string info.version)])]),
      ("searchPaths", .list (info.searchPaths.map .string ++ extra)),
      ("typeStubSearchPaths", .list stubs),
      ("excludeFiles", .list excluded),
      ("analysisUpdates", .bool true),
      ("asyncStartup", .bool true)]

end Interpreter

end LspHost
