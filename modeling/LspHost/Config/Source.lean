import LspHost.Config
import LspHost.Host
import LspHost.Text.Words
import LspHost.Toml.Document
import LspHost.Text.Utf8

/-!
# Sources of configuration

Configuration comes from a table inside `pyproject.toml`, from `.serverlink.toml` and from
environment variables, a later source overlaying an earlier one. A file that cannot be read or is
not TOML is put aside with a warning. A section that is given but is no table, and a command line
that cannot be cut into words, are faults.
-/

namespace LspHost.Config

variable {σ : Type}

/-! ## Tables -/

/-- The words of a command line. -/
def commandWords (line : String) : Except Fault (List String) :=
  (Text.Words.split line).mapError fun cause => .badText (.unfinished cause)

/-- A command given as a text is a command line. -/
def commandValue : Value → Except Fault Value
  | .string line => (commandWords line).map fun words => .list (words.map .string)
  | value => .ok value

/-- Notes a key that names no setting of a section. -/
def noteUnknown (s : Section) (key : String) : Act σ Unit :=
  Act.note .config .warning ("ignoring unknown " ++ s.title ++ " setting: " ++ key)

/-- The keys of a table that name no setting of a section, in order. -/
def unknownKeys (s : Section) (entries : Table) : List String :=
  (entries.keys.filter fun key => (Setting.ofName? s key).isNone).mergeSort

/-- The settings of a section that a table names. -/
def knownSettings (s : Section) (entries : Table) : List Setting :=
  (Setting.ofSection s).filter fun setting => (entries.find? setting.name).isSome

/-- A configuration with the settings of a section from a table. -/
def withSection (c : Config) (s : Section) (entries : Table) : Config :=
  let known := knownSettings s entries
  let assigned : Config :=
    { c with value := fun setting =>
        if setting.group = s then (entries.find? setting.name).getD (c.value setting)
        else c.value setting }
  assigned.mark s.name (known.map Setting.name)

/-- Reads one section of a table into a configuration. A section that does not count as given is
passed over. -/
def readSection (data : Table) (c : Config) (s : Section) : Act σ Config :=
  match (data.find? s.name).bind Value.given? with
  | none => return c
  | some (.table entries) => do
    (unknownKeys s entries).forM (noteUnknown s)
    let c := c.withSection s entries
    match s with
    | .server => do
      -- cut into words here, so that the sources after this one overlay a list
      let command ← Attempt.ofExcept (commandValue (c.value .command))
      return c.assign .command command
    | _ => return c
  | some _ => throw .notTable

/-- The configuration that a table describes. -/
def ofTable (data : Table) (root : Path) : Act σ Config :=
  Section.all.foldlM (readSection data) { root }

/-! ## Files -/

/-- Why a configuration file is put aside. -/
inductive Unreadable where
  /-- it cannot be opened -/
  | refused (refusal : Refusal)
  /-- it is not TOML -/
  | notToml

/-- The reason in messages. -/
def Unreadable.text : Unreadable → String
  | .refused refusal => refusal.text
  | .notToml => "not a TOML document"

/-- The document that bytes hold; a document with an integer too long to convert, or nested too
deep, is a fault. -/
def document (bytes : ByteArray) : Except Fault (Except Unreadable Table) :=
  match Text.ofBytes? bytes with
  | none => .error .undecodable
  | some text =>
    match Toml.parse text with
    | .ok table => .ok (.ok table)
    | .error .malformed => .ok (.error .notToml)
    | .error (.tooManyDigits count) => .error (.badText (.tooManyDigits count))
    | .error .tooDeep => .error .tooDeep

/-- Reads a file; a refusal is an answer. -/
def tryRead (host : Host σ) (path : Path) : Act σ (Except Unreadable ByteArray) := fun s =>
  match host.read path s with
  | .ok bytes t => .ok (.ok bytes) t
  | .error (.refused refusal) t => .ok (.error (.refused refusal)) t
  | .error e t => .error e t

/-- The document in a file, none if the file is not there or is put aside. -/
def readDocument (host : Host σ) (path : Path) : Act σ (Option Table) := do
  unless ← host.isPresent path do return none
  let content ←
    match ← tryRead host path with
    | .ok bytes => Attempt.ofExcept (document bytes)
    | .error reason => pure (.error reason)
  match content with
  | .ok table => return some table
  | .error reason =>
    Act.note .config .warning
      ("ignoring unreadable config file " ++ path.text ++ ": " ++ reason.text)
    return none

/-- The configuration in the `tool.serverlink` table of `pyproject.toml`. -/
def ofProjectFile (host : Host σ) (root : Path) : Act σ (Option Config) := do
  let some data ← readDocument host (root.joinText "pyproject.toml") | return none
  match data.find? "tool" with
  | none => return none
  | some (.table tool) =>
    match Table.find? "serverlink" tool with
    | some (.table entries) => return some (← ofTable entries root)
    | _ => return none
  | some _ => throw .notTable

/-- The configuration in `.serverlink.toml`. -/
def ofOwnFile (host : Host σ) (root : Path) : Act σ (Option Config) := do
  let some data ← readDocument host (root.joinText ".serverlink.toml") | return none
  return some (← ofTable data root)

/-! ## Environment variables -/

/-- The variables that set a setting. -/
def namedSettings : List (String × Setting) :=
  [("SERVERLINK_PYTHON_COMMAND", .pythonCommand), ("SERVERLINK_VENV_PATH", .venvPath),
    ("SERVERLINK_SERVER_COMMAND", .command),
    ("SERVERLINK_PROGRESS_INDICATOR", .progressIndicator)]

/-- Whether a text says yes. -/
def isYes (text : String) : Bool := ["true", "1", "yes"].contains text.toLower

/-- The value that the text of a variable gives a setting. -/
def variableValue (setting : Setting) (text : String) : Except Fault Value :=
  match setting with
  | .command => commandValue (.string text)
  | .progressIndicator => .ok (.bool (isYes text))
  | _ => .ok (.string text)

/-- Reads one variable into a configuration; an empty one says nothing. -/
def readVariable (host : Host σ) (c : Config) (entry : String × Setting) : Act σ Config := do
  match ← host.environment entry.1 with
  | none => return c
  | some text =>
    if text.isEmpty then return c
    return c.set entry.2 (← Attempt.ofExcept (variableValue entry.2 text))

/-- The configuration in the environment variables. -/
def ofVariables (host : Host σ) : Act σ Config := do
  let here ← host.resolve Path.here
  namedSettings.foldlM (readVariable host) { root := here }

/-! ## All sources -/

/-- Overlays a configuration with a further source, if there is one. -/
def overlay (host : Host σ) (base : Config) : Option Config → Act σ Config
  | none => return base
  | some other => do
    let here ← host.resolve Path.here
    return merge here base other

/-- The configuration of a project from all sources. -/
def load (host : Host σ) (root : Path) : Act σ Config := do
  let root ← host.resolve root
  let c ← overlay host { root } (← ofProjectFile host root)
  let c ← overlay host c (← ofOwnFile host root)
  overlay host c (some (← ofVariables host))

end LspHost.Config
