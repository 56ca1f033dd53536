import LspHost.Config.Setting
import LspHost.Environment

/-!
# Configuration

A configuration has a project root, a value for every setting, and the marks that tell which
settings a source set explicitly. `Config.merge` overlays one configuration with another: a setting
takes the other's value if the other marks it or differs from the default there. So a source can set
a setting back to its default, and one that says nothing changes nothing.
-/

namespace LspHost

/-- For each section that a source touched, the names it set there, in the order in which they were
first marked. -/
abbrev Marks := List (String × List String)

namespace Marks

/-- The names marked in a section. -/
def names (section_ : String) : Marks → List String
  | [] => []
  | (s, marked) :: rest => if s = section_ then marked else names section_ rest

/-- Whether a section was touched. -/
def touches (marks : Marks) (section_ : String) : Bool := marks.any (·.1 == section_)

/-- Names with further ones, none twice. -/
def addNames (marked more : List String) : List String :=
  more.foldl (fun marked name => if marked.contains name then marked else marked ++ [name]) marked

/-- Marks names in a section, which counts as touched even without names. -/
def mark (section_ : String) (more : List String) : Marks → Marks
  | [] => [(section_, addNames [] more)]
  | (s, marked) :: rest =>
    if s = section_ then (s, addNames marked more) :: rest
    else (s, marked) :: mark section_ more rest

/-- All marks of two sources. -/
def union (a b : Marks) : Marks :=
  b.foldl (fun marks entry => marks.mark entry.1 entry.2) a

end Marks

/-- A configuration. -/
structure Config where
  /-- the root of the project -/
  root : Path
  /-- the value of each setting -/
  value : Setting → Value := Setting.default
  /-- what was set explicitly -/
  marks : Marks := []

namespace Config

/-- Whether a setting is marked. -/
def isMarked (c : Config) (setting : Setting) : Bool :=
  (c.marks.names setting.group.name).contains setting.name

/-- Gives a setting a value, leaving the marks alone. -/
def assign (c : Config) (setting : Setting) (value : Value) : Config :=
  { c with value := fun other => if other = setting then value else c.value other }

/-- Marks names of a section. -/
def mark (c : Config) (section_ : String) (names : List String) : Config :=
  { c with marks := c.marks.mark section_ names }

/-- Gives a setting a value and marks it. -/
def set (c : Config) (setting : Setting) (value : Value) : Config :=
  (c.assign setting value).mark setting.group.name [setting.name]

/-- Whether a configuration says something about a setting: it marks it, or differs from the default
there. -/
def decides (c : Config) (setting : Setting) : Bool :=
  c.isMarked setting || !(c.value setting).alike setting.default

/-- A configuration overlaid with another one. The other one's root counts unless it is `here`, the
directory that a root stands for when none is given. -/
def merge (here : Path) (base other : Config) : Config where
  root := if other.root ≠ here then other.root else base.root
  value := fun setting => if other.decides setting then other.value setting else base.value setting
  marks := Marks.union (Marks.union [] base.marks) other.marks

/-- What the configuration fixes about the environment of the project. -/
def overrides (c : Config) : Overrides where
  venvPath := (c.value .venvPath).orElse .null
  venvDirectory := (c.value .venvDirectory).orElse .null
  pythonCommand := (c.value .pythonCommand).orElse (.string "python")
  pipenvExecutable := (c.value .pipenvExecutable).orElse .null
  poetryExecutable := (c.value .poetryExecutable).orElse .null
  preferRemote := c.value .preferRemote

@[simp]
theorem value_assign_self (c : Config) (setting : Setting) (value : Value) :
    (c.assign setting value).value setting = value := by
  simp [assign]

theorem value_assign_of_ne {setting other : Setting} (h : other ≠ setting) (c : Config)
    (value : Value) : (c.assign setting value).value other = c.value other := by
  simp [assign, h]

end Config

end LspHost
