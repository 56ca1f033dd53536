import LspHost.Path
import LspHost.Value

/-!
# Messages to the server

Everything that a session does to the server, in the order of a session's life: the program is
spawned, the handshake initialises it, settings and documents follow, and at the end it is shut down
and its transport halted. `Message.method` and `Message.params` are the form in which each travels.
-/

namespace LspHost

/-- What the server says about itself. -/
structure ServerInfo where
  /-- its name -/
  name : String
  /-- its version, if it has one -/
  version : Option String := none
  deriving DecidableEq, Repr

/-- A message to the server, or an action on its process. -/
inductive Message where
  /-- spawns the server's program in a directory -/
  | spawn (argv : List String) (directory : String)
  /-- begins the handshake -/
  | handshake (process : Nat) (root : Path) (options : Value)
  /-- ends the handshake -/
  | initialized
  /-- pushes the settings -/
  | configurationChanged (settings : Value)
  /-- says that a document is open, with its text -/
  | opened (uri text : String)
  /-- says that a document is closed -/
  | closed (uri : String)
  /-- asks the server to shut down -/
  | shutdown
  /-- tells the server to exit -/
  | exit
  /-- halts the transport -/
  | halt
  deriving DecidableEq

namespace Message

/-- The method of a message. -/
def method : Message → String
  | .spawn .. => "$spawn"
  | .handshake .. => "initialize"
  | .initialized => "initialized"
  | .configurationChanged _ => "workspace/didChangeConfiguration"
  | .opened .. => "textDocument/didOpen"
  | .closed _ => "textDocument/didClose"
  | .shutdown => "shutdown"
  | .exit => "exit"
  | .halt => "$stop"

/-- What the session can do, as it tells the server. -/
def capabilities : Value :=
  .table
    [("workspace", .table
        [("didChangeConfiguration", .table [("dynamicRegistration", .bool false)]),
          ("workspaceFolders", .bool true), ("configuration", .bool true)]),
      ("textDocument", .table
        [("synchronization", .table [("didSave", .bool true)]), ("completion", .table []),
          ("hover", .table []), ("publishDiagnostics", .table [])]),
      ("window", .table [("workDoneProgress", .bool true)])]

/-- The parameters of the handshake. -/
def initializeParams (process : Nat) (root : Path) (options : Value) : Value :=
  .table
    [("capabilities", capabilities),
      ("processId", .int process),
      ("rootPath", .string root.text),
      ("rootUri", .string root.uri),
      ("workspaceFolders", .list [.table [("uri", .string root.uri), ("name", .string root.name)]]),
      ("clientInfo", .table [("name", .string "serverlink"), ("version", .string "0.1.0")]),
      ("initializationOptions", options)]

/-- The parameters of a message. -/
def params : Message → Value
  | .spawn argv directory =>
    .table [("argv", .list (argv.map .string)), ("cwd", .string directory)]
  | .handshake process root options => initializeParams process root options
  | .initialized => .table []
  | .configurationChanged settings => .table [("settings", settings)]
  | .opened uri text =>
    .table [("textDocument", .table
      [("uri", .string uri), ("languageId", .string "python"), ("version", .int 1),
        ("text", .string text)])]
  | .closed uri => .table [("textDocument", .table [("uri", .string uri)])]
  | .shutdown | .exit | .halt => .null

end Message

end LspHost
