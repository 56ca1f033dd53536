import LspHost.Act
import LspHost.Path
import LspHost.Value

/-!
# Hosts

A host is what the library needs from its surroundings: file system checks, the search path,
external commands, and the environment. It is given by its operations alone, which may answer
differently at every call, so that whatever holds for all hosts holds for a real machine and for any
stand-in.

Configuration is not typed, so a command name can be a value that is no text; what a host makes of
it is up to the host.
-/

namespace LspHost

/-- Looks up a command by its name. -/
abbrev Lookup (σ : Type) := Value → Act σ (Option String)

/-- Runs a command with its arguments in a directory and gives its trimmed output; a command that
cannot be run or fails is a fault. -/
abbrev Runner (σ : Type) := (command : Value) → (arguments : List String) →
  (directory : Option String) → Act σ String

/-- The operations of the surroundings. -/
structure Host (σ : Type) where
  /-- whether a path is that of a directory -/
  isDirectory : Path → Act σ Bool
  /-- whether there is anything at a path -/
  isPresent : Path → Act σ Bool
  /-- the absolute path without links that a path stands for -/
  resolve : Path → Act σ Path
  /-- the content of a file -/
  read : Path → Act σ ByteArray
  /-- the search path -/
  lookup : Lookup σ
  /-- the search path of a remote side, if there is one -/
  remoteLookup : Option (Lookup σ)
  /-- external commands -/
  run : Runner σ
  /-- a variable of the environment -/
  environment : String → Act σ (Option String)

/-- A world that is part of a larger one, as part of the scenes. -/
def Scene.partLens {σ τ : Type} (l : Lens σ τ) : Lens (Scene σ) (Scene τ) where
  get := fun s => { world := l.get s.world, journal := s.journal }
  set := fun t s => { world := l.set t.world s.world, journal := t.journal }
  get_set := fun t s => by simp only [l.get_set]
  set_get := fun s => by simp only [l.set_get]
  set_set := fun t u s => by simp only [l.set_set]

/-- A host on a part of a world, as one on the whole. -/
def Host.onPart {σ τ : Type} (l : Lens σ τ) (host : Host τ) : Host σ where
  isDirectory := fun path => (Scene.partLens l).lift (host.isDirectory path)
  isPresent := fun path => (Scene.partLens l).lift (host.isPresent path)
  resolve := fun path => (Scene.partLens l).lift (host.resolve path)
  read := fun path => (Scene.partLens l).lift (host.read path)
  lookup := fun name => (Scene.partLens l).lift (host.lookup name)
  remoteLookup := host.remoteLookup.map fun lookup name => (Scene.partLens l).lift (lookup name)
  run := fun command arguments directory =>
    (Scene.partLens l).lift (host.run command arguments directory)
  environment := fun name => (Scene.partLens l).lift (host.environment name)

end LspHost
