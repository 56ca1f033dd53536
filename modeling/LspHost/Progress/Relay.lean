import LspHost.Act
import LspHost.Progress
import LspHost.Workspace

/-!
# Relaying progress

Events go to the journal and, while the relay is enabled and there is an indicator, to the busy
indicator: every beginning marks each live document as busy and every end as idle, whatever was
marked before.
-/

namespace LspHost

/-- What an indicator is told about a document. -/
inductive Toggle where
  /-- the document is busy -/
  | start
  /-- the document is idle -/
  | stop
  deriving DecidableEq, Repr

namespace Relay

/-- The scene of a relay with the names of the documents that are marked as busy. -/
structure State (σ : Type) where
  /-- the scene -/
  scene : Scene σ
  /-- the names marked as busy -/
  busy : List String := []

/-- A computation of a relay. -/
abbrev Run (σ : Type) : Type → Type := Attempt (State σ)

variable {σ : Type}

/-- The scene as a part of what a relay changes. -/
def State.sceneLens : Lens (State σ) (Scene σ) where
  get := State.scene
  set := fun scene s => { s with scene }

/-- An act as a computation that leaves the marks alone. -/
def lift {α : Type} (act : Act σ α) : Run σ α := State.sceneLens.lift act

/-- Shows that the document of a name is busy or idle. -/
abbrev Indicator (σ : Type) := Toggle → (name : String) → Run σ Unit

/-- Names with one that is marked as told. -/
def markBusy (toggle : Toggle) (name : String) (busy : List String) : List String :=
  match toggle with
  | .start => if busy.contains name then busy else busy ++ [name]
  | .stop => busy.filter (· != name)

/-- The word for a toggle in the journal. -/
def toggleWord : Toggle → String
  | .start => "busy"
  | .stop => "idle"

/-- The indicator that keeps the names of busy documents and notes each toggle. -/
def loggingIndicator : Indicator σ := fun toggle name => do
  modify fun s => { s with busy := markBusy toggle name s.busy }
  lift (Act.note .indicator .debug (toggleWord toggle ++ ": " ++ name))

/-- What a relay works with. -/
structure Setup (σ : Type) where
  /-- the busy indicator, if there is one -/
  indicator : Option (Indicator σ)
  /-- whether the indicator is told anything -/
  enabled : Bool

/-- Tells the indicator about each live document of a workspace in order. -/
def showAll (r : Setup σ) (toggle : Toggle) (w : Workspace) : Run σ Unit :=
  match r.enabled, r.indicator with
  | true, some show_ => w.liveDocuments.forM fun d => show_ toggle d.name
  | _, _ => return

/-- Notes an event and tells the indicator about it. -/
def handle (r : Setup σ) (w : Workspace) : Progress → Run σ Unit
  | .begin => do
    lift (Act.note .progress .info "analysis started")
    showAll r .start w
  | .report message =>
    match message with
    | some text => if text.isEmpty then return else lift (Act.note .progress .info text)
    | none => return
  | .done => do
    lift (Act.note .progress .info "analysis finished")
    showAll r .stop w

end Relay

end LspHost
