import LspHost.Fault
import LspHost.Journal

/-!
# Acts

An act runs in a world of any kind, can note records, and ends with an answer or a fault. The world
and the journal as they were when it ended are kept in both cases, so that it is known what an act
that was cut short had done. Larger states, such as that of a session, hold a scene as a part; acts
on a part are lifted to the whole by `Lens.lift`.
-/

namespace LspHost

/-- A world with the records noted in it, in order. -/
structure Scene (σ : Type) where
  /-- the world -/
  world : σ
  /-- the records noted so far -/
  journal : List Record := []

/-- A computation on a state that ends with an answer or a fault, the state being kept in both
cases. -/
abbrev Attempt (state : Type) : Type → Type := EStateM Fault state

/-- A computation in a world. -/
abbrev Act (σ : Type) : Type → Type := Attempt (Scene σ)

/-- A part of a state that can be read and replaced. -/
structure Lens (whole part : Type) where
  /-- reads the part -/
  get : whole → part
  /-- replaces the part -/
  set : part → whole → whole
  /-- what was put in place is read back -/
  get_set : ∀ p w, get (set p w) = p := by intros; rfl
  /-- putting back what was read changes nothing -/
  set_get : ∀ w, set (get w) w = w := by intros; rfl
  /-- what is put in place last counts -/
  set_set : ∀ p q w, set p (set q w) = set p w := by intros; rfl

/-- A computation on a part of a state as a computation on the whole. -/
def Lens.lift {whole part α : Type} (l : Lens whole part) (act : Attempt part α) :
    Attempt whole α := fun s =>
  match act (l.get s) with
  | .ok a t => .ok a (l.set t s)
  | .error e t => .error e (l.set t s)

/-! ## Steps -/

section Steps

variable {state whole part α β : Type}

/-- **A step that answers** hands its answer and its state to the next one. -/
theorem Attempt.bind_of_ok {act : Attempt state α} {s t : state} {a : α} (h : act s = .ok a t)
    (next : α → Attempt state β) : (act >>= next) s = next a t := by
  simp only [bind, EStateM.bind, h]

/-- **A step that ends with a fault** ends what follows it too. -/
theorem Attempt.bind_of_error {act : Attempt state α} {s t : state} {e : Fault}
    (h : act s = .error e t) (next : α → Attempt state β) : (act >>= next) s = .error e t := by
  simp only [bind, EStateM.bind, h]

/-- **A part that answers** makes the whole answer, with the part replaced. -/
theorem Lens.lift_of_ok {l : Lens whole part} {act : Attempt part α} {s : whole} {t : part} {a : α}
    (h : act (l.get s) = .ok a t) : l.lift act s = .ok a (l.set t s) := by
  simp only [Lens.lift, h]

/-- **A part that ends with a fault** ends the whole, with the part replaced. -/
theorem Lens.lift_of_error {l : Lens whole part} {act : Attempt part α} {s : whole} {t : part}
    {e : Fault} (h : act (l.get s) = .error e t) : l.lift act s = .error e (l.set t s) := by
  simp only [Lens.lift, h]

/-- **Doing nothing to a part** does nothing to the whole. -/
@[simp]
theorem Lens.lift_pure (l : Lens whole part) (a : α) :
    l.lift (pure a : Attempt part α) = pure a := by
  funext s
  simp only [Lens.lift, pure, EStateM.pure, l.set_get]

/-- **Two steps on a part** are two steps on the whole. -/
theorem Lens.lift_bind (l : Lens whole part) (act : Attempt part α) (next : α → Attempt part β) :
    l.lift (act >>= next) = l.lift act >>= fun a => l.lift (next a) := by
  funext s
  simp only [Lens.lift, bind, EStateM.bind]
  cases act (l.get s) with
  | ok a t =>
    simp only [l.get_set]
    cases next a t <;> simp only [l.set_set]
  | error e t => rfl

end Steps

/-! ## Acts in a world -/

namespace Act

variable {σ : Type}

/-- Notes a record. -/
def note (source : Source) (level : Level) (message : String) : Act σ Unit :=
  modify fun s => { s with journal := s.journal ++ [{ source, level, message }] }

/-- Changes the world, with an answer that depends on it. -/
def onWorld {α : Type} (f : σ → α × σ) : Act σ α := fun s =>
  let (a, world) := f s.world
  .ok a { s with world }

/-- Changes the world, with an answer or a fault. -/
def tryOnWorld {α : Type} (f : σ → Except Fault α × σ) : Act σ α := fun s =>
  match f s.world with
  | (.ok a, world) => .ok a { s with world }
  | (.error e, world) => .error e { s with world }

/-- Reads the world. -/
def ofWorld {α : Type} (f : σ → α) : Act σ α := fun s => .ok (f s.world) s

/-- Reads the world, which can end with a fault. -/
def tryOfWorld {α : Type} (f : σ → Except Fault α) : Act σ α := fun s =>
  match f s.world with
  | .ok a => .ok a s
  | .error e => .error e s

/-- Turns a failed query into an answer; other faults stay faults. -/
def settle {α : Type} (act : Act σ α) : Act σ (Except FailedQuery α) := fun s =>
  match act s with
  | .ok a t => .ok (.ok a) t
  | .error (.queryFailed query) t => .ok (.error query) t
  | .error e t => .error e t

end Act

/-- The answer of something that can fail, as a computation that does nothing. -/
def Attempt.ofExcept {state α : Type} : Except Fault α → Attempt state α
  | .ok a => pure a
  | .error e => throw e

end LspHost
