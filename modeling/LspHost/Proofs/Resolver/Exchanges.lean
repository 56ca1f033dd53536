import LspHost.Proofs.Faults
import LspHost.Proofs.Resolver.Mirroring

/-!
# Exchanges with the surroundings

A host that is recorded works as it does, in a world beside which everything is written down that it is
asked, with what it answered (`Host.recorded`). Recording changes nothing (`mirrors_recorded`), so what is
written down is what a computation had from its surroundings, even where these answer differently at every
call.

`Act.Asks` says of an act that it answers, and what it asks until then. A row of acts asks what each of
them does, one after the other.
-/

namespace LspHost

variable {σ α β : Type}

/-- One thing that a host is asked, with what it answers. -/
inductive Exchange where
  /-- a command is looked up -/
  | lookup (name : Value) (answer : Except Fault (Option String))
  /-- a command is looked up on the remote side -/
  | remoteLookup (name : Value) (answer : Except Fault (Option String))
  /-- it is checked whether there is anything at a path -/
  | presence (path : Path) (answer : Except Fault Bool)
  /-- it is checked whether a path is that of a directory -/
  | directory (path : Path) (answer : Except Fault Bool)
  /-- a command is run -/
  | run (command : Value) (arguments : List String) (directory : Option String)
      (answer : Except Fault String)

namespace Exchange

/-- The world beside the exchanges. -/
def worldLens : Lens (σ × List Exchange) σ where
  get := Prod.fst
  set := fun world recorded => (world, recorded.2)

/-- The scene without the exchanges. -/
def sceneLens : Lens (Scene (σ × List Exchange)) (Scene σ) := Scene.partLens worldLens

end Exchange

/-! ## Recording -/

/-- Writes an exchange down. -/
def Scene.record (exchange : Exchange) (s : Scene (σ × List Exchange)) : Scene (σ × List Exchange) :=
  { s with world := (s.world.1, s.world.2 ++ [exchange]) }

/-- An act whose answer, or fault, is written down as an exchange. -/
def Act.recorded (exchange : Except Fault α → Exchange) (act : Act σ α) :
    Act (σ × List Exchange) α := fun s =>
  match Exchange.sceneLens.lift act s with
  | .ok a t => .ok a (t.record (exchange (.ok a)))
  | .error e t => .error e (t.record (exchange (.error e)))

/-- A host whose checks, lookups and commands are written down. -/
def Host.recorded (host : Host σ) : Host (σ × List Exchange) :=
  { Host.onPart Exchange.worldLens host with
    isDirectory := fun path => (host.isDirectory path).recorded (.directory path)
    isPresent := fun path => (host.isPresent path).recorded (.presence path)
    lookup := fun name => (host.lookup name).recorded (.lookup name)
    remoteLookup := host.remoteLookup.map fun lookup name =>
      (lookup name).recorded (.remoteLookup name)
    run := fun command arguments directory =>
      (host.run command arguments directory).recorded (.run command arguments directory) }

theorem Act.recorded_of_ok {exchange : Except Fault α → Exchange} {act : Act σ α}
    {s : Scene (σ × List Exchange)} {t : Scene σ} {a : α}
    (h : act (Exchange.sceneLens.get s) = .ok a t) :
    act.recorded exchange s = .ok a ((Exchange.sceneLens.set t s).record (exchange (.ok a))) := by
  simp only [Act.recorded, Lens.lift_of_ok (l := Exchange.sceneLens) h]

theorem Act.recorded_of_error {exchange : Except Fault α → Exchange} {act : Act σ α}
    {s : Scene (σ × List Exchange)} {t : Scene σ} {e : Fault}
    (h : act (Exchange.sceneLens.get s) = .error e t) :
    act.recorded exchange s = .error e ((Exchange.sceneLens.set t s).record (exchange (.error e))) := by
  simp only [Act.recorded, Lens.lift_of_error (l := Exchange.sceneLens) h]

/-- Scenes that are the same but for the exchanges. -/
abbrev IsRecorded (scene : Scene σ) (scene' : Scene (σ × List Exchange)) : Prop :=
  scene = Exchange.sceneLens.get scene'

/-- **Writing an answer down** changes nothing else. -/
theorem mirrors_recorded_act (exchange : Except Fault α → Exchange) (act : Act σ α) :
    Attempt.Mirrors IsRecorded act (act.recorded exchange) := by
  refine .of_outcome fun scene scene' hscene => ?_
  unfold Act.recorded
  rcases (Attempt.Mirrors.of_lift Exchange.sceneLens act).outcome hscene with
    ⟨a, t, t', hact, hlift, ht⟩ | ⟨e, t, t', hact, hlift, ht⟩
  · rw [hlift]
    exact .inl ⟨a, t, _, hact, rfl, ht⟩
  · rw [hlift]
    exact .inr ⟨e, t, _, hact, rfl, ht⟩

/-- **Recording** changes nothing about what a host does. -/
theorem mirrors_recorded (host : Host σ) : host.Mirrors IsRecorded host.recorded where
  note source level message := by
    rintro scene scene' rfl
    exact ⟨rfl, rfl⟩
  isDirectory path := mirrors_recorded_act _ _
  isPresent path := mirrors_recorded_act _ _
  resolve path := .of_lift _ _
  read path := .of_lift _ _
  lookup name := mirrors_recorded_act _ _
  remoteLookup := by
    simp only [Host.recorded]
    cases host.remoteLookup with
    | none => exact .none
    | some lookup => exact .some fun name => mirrors_recorded_act _ _
  run command arguments directory := mirrors_recorded_act _ _

/-! ## What is asked -/

/-- An act answers, and what it asks until then, with that answer, meets a condition. -/
def Act.Asks (act : Act (σ × List Exchange) α) (P : List Exchange → α → Prop) : Prop :=
  ∀ s, ∃ a t trace, act s = .ok a t ∧ t.world.2 = s.world.2 ++ trace ∧ P trace a

namespace Act

variable {act : Act (σ × List Exchange) α} {P : List Exchange → α → Prop}
  {Q : List Exchange → β → Prop}

/-- **An answer that is known** asks nothing. -/
theorem Asks.of_pure {a : α} (h : P [] a) : Act.Asks (pure a : Act (σ × List Exchange) α) P :=
  fun s => ⟨a, s, [], rfl, (List.append_nil _).symm, h⟩

/-- **Acts in a row** ask one after the other. -/
theorem Asks.bind {next : α → Act (σ × List Exchange) β} (hact : act.Asks P)
    (hnext : ∀ trace a, P trace a → (next a).Asks fun rest b => Q (trace ++ rest) b) :
    Act.Asks (act >>= next) Q := by
  intro s
  obtain ⟨a, u, trace, hact, hu, ha⟩ := hact s
  obtain ⟨b, t, rest, hrest, ht, hb⟩ := hnext trace a ha u
  refine ⟨b, t, trace ++ rest, (Attempt.bind_of_ok hact next).trans hrest, ?_, hb⟩
  rw [ht, hu, List.append_assoc]

theorem Asks.mono {P' : List Exchange → α → Prop} (hact : act.Asks P)
    (h : ∀ trace a, P trace a → P' trace a) : act.Asks P' := by
  intro s
  obtain ⟨a, t, trace, hact, ht, ha⟩ := hact s
  exact ⟨a, t, trace, hact, ht, h trace a ha⟩

/-- **Noting a record** asks nothing. -/
theorem Asks.note_bind {next : Unit → Act (σ × List Exchange) β} (source : Source) (level : Level)
    (message : String) (hnext : (next ()).Asks Q) :
    Act.Asks (Act.note source level message >>= next) Q := fun _ => hnext _

/-- **What is written down** is asked once. -/
theorem Asks.of_answers {act : Act σ α} (h : act.Answers) {exchange : Except Fault α → Exchange}
    {P : List Exchange → α → Prop} (hP : ∀ a, P [exchange (.ok a)] a) :
    (act.recorded exchange).Asks P := by
  intro s
  obtain ⟨a, t, hact⟩ := h (Exchange.sceneLens.get s)
  exact ⟨a, _, [exchange (.ok a)], Act.recorded_of_ok hact, rfl, hP a⟩

/-- **After what is written down** the rest is asked. -/
theorem Asks.recorded_bind {act : Act σ α} (h : act.Answers) {exchange : Except Fault α → Exchange}
    {next : α → Act (σ × List Exchange) β}
    (hnext : ∀ a, (next a).Asks fun rest b => Q (exchange (.ok a) :: rest) b) :
    Act.Asks (act.recorded exchange >>= next) Q := by
  refine Asks.bind (Asks.of_answers h fun a => rfl : (act.recorded exchange).Asks fun trace a =>
    trace = [exchange (.ok a)]) ?_
  rintro _ a rfl
  exact hnext a

end Act

end LspHost
