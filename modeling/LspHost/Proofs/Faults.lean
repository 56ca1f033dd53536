import LspHost.Host
import LspHost.Proofs.Outcome

/-!
# Where faults come from

A computation raises faults of a kind (`Attempt.Raises`) if every fault that it ends with is of that
kind. Rows of such steps are such steps again, so what can go wrong with a computation is read off
its parts, down to the operations of the host (`Host.Raises`). The kind that matters for a start is
that of the faults which do not themselves say that a start failed (`Fault.IsForeign`). A computation
that raises no fault at all answers (`Attempt.Answers`).
-/

namespace LspHost

variable {σ state whole part α β : Type}

namespace Attempt

/-- Every fault that a computation ends with is of a kind. -/
def Raises (P : Fault → Prop) (act : Attempt state α) : Prop :=
  ∀ s t e, act s = .error e t → P e

section Raises

variable {P : Fault → Prop}

theorem Raises.pure (a : α) : Raises P (Pure.pure a : Attempt state α) :=
  fun _ _ _ h => by cases h

theorem Raises.throw {e : Fault} (he : P e) :
    Raises P (MonadExcept.throw e : Attempt state α) := by
  intro s t f h
  cases h
  exact he

theorem Raises.ofExcept {x : Except Fault α} (hx : ∀ e, x = .error e → P e) :
    Raises P (Attempt.ofExcept x : Attempt state α) := by
  cases x with
  | ok a => exact .pure a
  | error e => exact .throw (hx e rfl)

theorem Raises.get : Raises P (MonadState.get : Attempt state state) :=
  fun _ _ _ h => by cases h

theorem Raises.modify (f : state → state) : Raises P (modify f : Attempt state Unit) :=
  fun _ _ _ h => by cases h

/-- **Steps in a row** raise what one of them raises. -/
theorem Raises.bind {act : Attempt state α} {next : α → Attempt state β} (hact : act.Raises P)
    (hnext : ∀ a, (next a).Raises P) : (act >>= next).Raises P := by
  intro s t e h
  rcases bind_eq_error h with hfirst | ⟨a, u, -, hsecond⟩
  · exact hact s t e hfirst
  · exact hnext a u t e hsecond

/-- **A loop** raises what its rounds raise. -/
theorem Raises.forM {body : α → Attempt state Unit} (hbody : ∀ a, (body a).Raises P)
    (items : List α) : (items.forM body).Raises P := by
  induction items with
  | nil => exact .pure ()
  | cons item rest ih => exact .bind (hbody item) fun _ => ih

/-- **A computation on a part** raises on the whole what it raises on the part. -/
theorem Raises.lift {l : Lens whole part} {act : Attempt part α} (hact : act.Raises P) :
    (l.lift act).Raises P := by
  intro s t e h
  rcases hrun : act (l.get s) with ⟨a, u⟩ | ⟨f, u⟩
  · rw [Lens.lift_of_ok hrun] at h
    cases h
  · rw [Lens.lift_of_error hrun] at h
    cases h
    exact hact _ _ _ hrun

end Raises

/-! ### Computations that answer -/

/-- A computation ends with an answer, whatever the state is. -/
def Answers (act : Attempt state α) : Prop := ∀ s, ∃ a t, act s = .ok a t

/-- **What answers** raises nothing. -/
theorem Answers.raises {P : Fault → Prop} {act : Attempt state α} (h : act.Answers) :
    act.Raises P := by
  intro s t e he
  obtain ⟨a, u, hact⟩ := h s
  rw [hact] at he
  cases he

/-- **What raises nothing** answers. -/
theorem Raises.answers {act : Attempt state α} (h : act.Raises fun _ => False) : act.Answers := by
  intro s
  rcases hact : act s with ⟨a, t⟩ | ⟨e, t⟩
  · exact ⟨a, t, rfl⟩
  · exact (h s t e hact).elim

end Attempt

/-- Noting a record raises nothing. -/
theorem Act.raises_note {P : Fault → Prop} (source : Source) (level : Level) (message : String) :
    (Act.note source level message : Act σ Unit).Raises P :=
  .modify _

/-- **A failed query** is absorbed; other faults stay. -/
theorem Act.raises_settle {P : Fault → Prop} {act : Act σ α} (h : act.Raises P) :
    (Act.settle act).Raises P := by
  intro s t e he
  exact h s t e (Act.settle_eq_error he).1

/-! ## Hosts -/

/-- A host whose operations raise faults of a kind. -/
structure Host.Raises (host : Host σ) (P : Fault → Prop) : Prop where
  /-- looking for a directory -/
  isDirectory : ∀ path, (host.isDirectory path).Raises P
  /-- looking for a file -/
  isPresent : ∀ path, (host.isPresent path).Raises P
  /-- following links -/
  resolve : ∀ path, (host.resolve path).Raises P
  /-- reading a file -/
  read : ∀ path, (host.read path).Raises P
  /-- looking a command up -/
  lookup : ∀ name, (host.lookup name).Raises P
  /-- looking a command up on the remote side -/
  remoteLookup : ∀ lookup ∈ host.remoteLookup, ∀ name, (lookup name).Raises P
  /-- running a command -/
  run : ∀ command arguments directory, (host.run command arguments directory).Raises P
  /-- reading a variable -/
  environment : ∀ name, (host.environment name).Raises P

/-- A host of a world with nothing in it. -/
def Host.bare : Host Unit where
  isDirectory := fun _ => pure false
  isPresent := fun _ => pure false
  resolve := fun path => pure ((Path.ofSegments .root []).join path)
  read := fun path => throw (.refused (.ofCodeFor 2 "No such file or directory" path.text))
  lookup := fun _ => pure none
  remoteLookup := none
  run := fun _ arguments _ => throw (.queryFailed { command := arguments, status := none, stderr := "" })
  environment := fun _ => pure none

/-- Whether a fault is one other than a failed start. -/
def Fault.IsForeign (e : Fault) : Prop := ∀ problem, e ≠ .launchFailed problem

end LspHost
