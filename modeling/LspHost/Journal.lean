/-!
# The journal

Operations note what they do as records, each with the name of the part that notes it, a level and a
message. Nothing in the library reads the journal back; the command line shows a part of it.
-/

namespace LspHost

/-- How important a record is. -/
inductive Level where
  /-- for finding faults -/
  | debug
  /-- the normal course of things -/
  | info
  /-- something was put aside -/
  | warning
  /-- something went wrong -/
  | error
  deriving DecidableEq, Repr

/-- The order of the levels. -/
def Level.rank : Level → Nat
  | .debug => 10
  | .info => 20
  | .warning => 30
  | .error => 40

/-- Whether one level is at least as important as another. -/
def Level.atLeast (level least : Level) : Bool := least.rank ≤ level.rank

/-- The parts of the library that note records. -/
inductive Source where
  /-- running external commands -/
  | process
  /-- detecting the tool of a project -/
  | detection
  /-- resolving an environment -/
  | resolver
  /-- loading the configuration -/
  | config
  /-- inspecting an interpreter -/
  | interpreter
  /-- the busy indicator -/
  | indicator
  /-- relaying progress -/
  | progress
  /-- the server session -/
  | session
  deriving DecidableEq, Repr

/-- The name under which a part notes its records. -/
def Source.name : Source → String
  | .process => "libenvresolver.process"
  | .detection => "libenvresolver.detectors"
  | .resolver => "libenvresolver.core"
  | .config => "serverlink.config"
  | .interpreter => "serverlink.interpreter"
  | .indicator => "serverlink.host"
  | .progress => "serverlink.progress"
  | .session => "serverlink.client"

/-- One record. -/
structure Record where
  /-- the part that notes it -/
  source : Source
  /-- how important it is -/
  level : Level
  /-- what it says -/
  message : String
  deriving DecidableEq, Repr

end LspHost
