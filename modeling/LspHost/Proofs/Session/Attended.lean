import LspHost.Proofs.Session.Mirroring

/-!
# Requests of a session

A session that is attended runs as it does, in a world beside which everything is written down that it
asks for: the commands that it runs, the programs that it looks up, and what it tells the indicator.
Attending changes nothing (`Session.attended_history`), so what was written down is what the session
itself asked for (`Session.requests`).
-/

namespace LspHost

variable {σ α : Type}

/-- What is asked of the surroundings or told the indicator. -/
inductive Request where
  /-- a command is run -/
  | run (command : Value) (arguments : List String) (directory : Option String)
  /-- a command is looked up -/
  | lookup (name : Value)
  /-- a command is looked up on the remote side -/
  | remoteLookup (name : Value)
  /-- the indicator is told about a document -/
  | toggle (toggle : Toggle) (name : String)
  deriving DecidableEq

/-- The world beside the requests that were made in it. -/
def Request.worldLens : Lens (σ × List Request) σ where
  get := Prod.fst
  set := fun world attended => (world, attended.2)

/-- The scene without the requests. -/
def Request.sceneLens : Lens (Scene (σ × List Request)) (Scene σ) := Scene.partLens worldLens

/-- Writes a request down. -/
def Act.request (request : Request) : Act (σ × List Request) Unit :=
  modify fun s => { s with world := (s.world.1, s.world.2 ++ [request]) }

/-- An act that is written down as a request. -/
def Act.attended (request : Request) (act : Act σ α) : Act (σ × List Request) α := do
  Act.request request
  Request.sceneLens.lift act

/-- A host whose commands and lookups are written down. -/
def Host.attended (host : Host σ) : Host (σ × List Request) :=
  { Host.onPart Request.worldLens host with
    lookup := fun name => (host.lookup name).attended (.lookup name)
    remoteLookup := host.remoteLookup.map fun lookup name =>
      (lookup name).attended (.remoteLookup name)
    run := fun command arguments directory =>
      (host.run command arguments directory).attended (.run command arguments directory) }

namespace Relay

/-- The state of a relay without the requests. -/
def State.attendedLens : Lens (State (σ × List Request)) (State σ) where
  get := fun s => { scene := Request.sceneLens.get s.scene, busy := s.busy }
  set := fun p s => { scene := Request.sceneLens.set p.scene s.scene, busy := p.busy }

/-- An indicator that is written down whenever it is told something. -/
def Indicator.attended (show_ : Indicator σ) : Indicator (σ × List Request) := fun toggle name => do
  lift (Act.request (.toggle toggle name))
  State.attendedLens.lift (show_ toggle name)

end Relay

namespace Session

/-- A session whose requests are written down. -/
def attended (s : Session σ) : Session (σ × List Request) :=
  s.on s.host.attended (fun message => Request.sceneLens.lift (s.link message))
    (s.indicator.map Relay.Indicator.attended)

/-- A state of a session with no request written down yet. -/
def State.attended (st : State σ) : State (σ × List Request) :=
  { st with scene := { world := (st.scene.world, []), journal := st.scene.journal } }

/-- The requests that each of some calls makes, one after the other. -/
def requests (s : Session σ) (st : State σ) (calls : List Call) : List (List Request) :=
  (Attempt.history s.attended.perform st.attended calls).map fun e =>
    e.after.scene.world.2.drop e.before.scene.world.2.length

/-! ## Attending changes nothing -/

/-- Scenes that are the same but for the requests. -/
abbrev IsAttended (scene : Scene σ) (scene' : Scene (σ × List Request)) : Prop :=
  scene = Request.sceneLens.get scene'

/-- **Writing a request down** changes nothing else. -/
theorem mirrors_attended_act (request : Request) (act : Act σ α) :
    Attempt.Mirrors IsAttended act (act.attended request) := by
  intro scene scene' hscene
  exact Attempt.Mirrors.of_lift Request.sceneLens act scene
    { scene' with world := (scene'.world.1, scene'.world.2 ++ [request]) } hscene

theorem mirrors_attended_host (host : Host σ) : host.Mirrors IsAttended host.attended where
  note source level message := by
    rintro scene scene' rfl
    exact ⟨rfl, rfl⟩
  isDirectory path := .of_lift _ _
  isPresent path := .of_lift _ _
  resolve path := .of_lift _ _
  read path := .of_lift _ _
  lookup name := mirrors_attended_act _ _
  remoteLookup := by
    simp only [Host.attended]
    cases host.remoteLookup with
    | none => exact .none
    | some lookup => exact .some fun name => mirrors_attended_act _ _
  run command arguments directory := mirrors_attended_act _ _

theorem mirrors_attended_indicator (indicator : Option (Relay.Indicator σ)) :
    Relay.MirrorIndicators IsAttended indicator (indicator.map Relay.Indicator.attended) := by
  cases indicator with
  | none => exact .none
  | some show_ =>
    refine .some fun toggle name => ?_
    have hlift : Attempt.Mirrors (Relay.State.Mirrors IsAttended) (show_ toggle name)
        (Relay.State.attendedLens.lift (show_ toggle name)) := by
      intro p w hp
      obtain rfl : p = Relay.State.attendedLens.get w := by
        obtain ⟨scene, busy⟩ := p
        obtain ⟨rfl, rfl⟩ := hp
        rfl
      obtain ⟨hanswer, hafter⟩ :=
        Attempt.Mirrors.of_lift Relay.State.attendedLens (show_ toggle name) _ w rfl
      refine ⟨hanswer, ?_⟩
      rw [hafter]
      exact ⟨rfl, rfl⟩
    intro p w hp
    exact hlift p _ ⟨hp.scene, hp.busy⟩

theorem mirrors_attended (s : Session σ) :
    s.Mirrors IsAttended s.host.attended (fun message => Request.sceneLens.lift (s.link message))
      (s.indicator.map Relay.Indicator.attended) where
  host := mirrors_attended_host s.host
  link _ := .of_lift _ _
  indicator := mirrors_attended_indicator s.indicator

/-- **A session that is attended** makes the same calls with the same answers, and the same is sent,
noted and kept: all that is different is that its requests are written down. -/
theorem attended_history (s : Session σ) (st : State σ) (calls : List Call) :
    List.Forall₂ (Attempt.MirrorEvents (State.Mirrors IsAttended []))
      (Attempt.history s.perform st calls)
      (Attempt.history s.attended.perform st.attended calls) :=
  Attempt.mirrors_history (mirrors_perform (mirrors_attended s))
    ⟨rfl, rfl, rfl, rfl, rfl, rfl, rfl⟩ calls

end Session

end LspHost
