import LspHost.Config
import LspHost.Environment.Resolver

/-!
# The settings snapshot

The language server works with settings under dotted keys. A snapshot holds them all at one moment:
those passed through from the configuration, and the interpreter and the virtual environment, which
are resolved when the snapshot is taken. Nothing in a snapshot changes afterwards, so lists are
frozen.
-/

namespace LspHost

/-- A value of a snapshot: a list that can no longer change, or any other value. -/
inductive Frozen where
  /-- a fixed list -/
  | sequence (items : List Value)
  /-- any other value -/
  | plain (value : Value)
  deriving DecidableEq

namespace Frozen

/-- A value as it is kept in a snapshot. -/
def freeze : Value → Frozen
  | .list items => .sequence items
  | value => .plain value

/-- The value that is kept. -/
def thaw : Frozen → Value
  | .sequence items => .list items
  | .plain value => value

/-- **Keeping a value changes nothing about it.** -/
@[simp]
theorem thaw_freeze (value : Value) : (freeze value).thaw = value := by
  cases value <;> rfl

end Frozen

/-- The settings under their dotted keys, in the order in which they were put in. -/
abbrev Snapshot := List (String × Frozen)

namespace Snapshot

/-- The key of the interpreter. -/
def pythonPathKey : String := "python.pythonPath"

/-- The key of the virtual environment. -/
def venvPathKey : String := "python.venvPath"

/-- The settings that are passed through, with their keys. -/
def passedThrough : List (Setting × String) :=
  [(.extraPaths, "python.autoComplete.extraPaths"),
    (.cachingLevel, "python.analysis.cachingLevel"),
    (.errors, "python.analysis.errors"),
    (.warnings, "python.analysis.warnings"),
    (.information, "python.analysis.information"),
    (.disabled, "python.analysis.disabled"),
    (.logLevel, "python.analysis.logLevel"),
    (.autoSearchPaths, "python.analysis.autoSearchPaths"),
    (.keepLibraryAst, "python.analysis.memory.keepLibraryAst"),
    (.symbolsHierarchyDepthLimit, "python.analysis.symbolsHierarchyDepthLimit")]

/-- The part of a snapshot that the configuration alone determines. -/
def ofConfig (c : Config) : Snapshot :=
  passedThrough.map fun (setting, key) => (key, .freeze (c.value setting))

/-- The snapshot with a resolved interpreter and virtual environment. -/
def withPaths (c : Config) (python : String) (venv : Value) : Snapshot :=
  ofConfig c ++ [(pythonPathKey, .freeze (.string python)), (venvPathKey, .freeze venv)]

/-- What a snapshot records when something is resolved to nothing or to nothing that counts. -/
def orEmpty (answer : Option Value) : Value := (answer.getD .null).orElse (.string "")

variable {σ : Type}

/-- Takes a snapshot, resolving the interpreter first; answers are empty where nothing resolves. The
interpreter is given beside the snapshot that holds it. -/
def take (c : Config) (resolver : Resolver σ) (file : Option Path) :
    Resolver.Run σ (String × Snapshot) := do
  let python ← resolver.python
  let python := python.getD ""
  let venv ← resolver.venv file
  return (python, withPaths c python (orEmpty venv))

/-- The value of a key. -/
def find? (key : String) : Snapshot → Option Frozen
  | [] => none
  | (k, v) :: rest => if k = key then some v else find? key rest

/-- Gives a key a value: in its place if the key is there, at the end otherwise. -/
def insert (key : String) (value : Frozen) : Snapshot → Snapshot
  | [] => [(key, value)]
  | (k, v) :: rest =>
    if k = key then (key, value) :: rest else (k, v) :: insert key value rest

/-- The snapshot that a list of pairs describes. -/
def ofPairs (pairs : List (String × Frozen)) : Snapshot :=
  pairs.foldl (fun s pair => s.insert pair.1 pair.2) []

/-- A snapshot as a table of its dotted keys. -/
def toTable (s : Snapshot) : Table := s.map fun (key, value) => (key, value.thaw)

end Snapshot

end LspHost
