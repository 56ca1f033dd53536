import LspHost.Proofs.Mirroring

/-!
# Worlds that stand still

In a world that stands still an operation answers the same whenever it is called. `Attempt.Yields`
says so of a computation and the states of an invariant: it has one answer there, and it does not
leave them. Rows of such steps are such steps again, so the operations of a host decide what
everything built from them answers.

Nothing is said about what else changes: the invariant may leave the journal, or parts of the world
that no answer depends on, entirely open. To have one answer in these states is to mirror oneself between
any two of them (`Attempt.isSettled_iff_mirrors`).
-/

namespace LspHost

variable {σ τ state state' whole part α β : Type}

namespace Attempt

/-- In the states of an invariant a computation has this answer, and it keeps the invariant. -/
def Yields (I : state → Prop) (act : Attempt state α) (x : Except Fault α) : Prop :=
  ∀ s, I s → act.answer s = x ∧ I (act.after s)

/-- In the states of an invariant a computation has one answer, and it keeps the invariant. -/
def IsSettled (I : state → Prop) (act : Attempt state α) : Prop := ∃ x, act.Yields I x

section Yields

variable {I : state → Prop}

theorem Yields.isSettled {act : Attempt state α} {x : Except Fault α} (h : act.Yields I x) :
    act.IsSettled I := ⟨x, h⟩

theorem Yields.of_pure (a : α) : Yields I (pure a : Attempt state α) (.ok a) :=
  fun _ hs => ⟨rfl, hs⟩

theorem Yields.of_throw (e : Fault) : Yields I (throw e : Attempt state α) (.error e) :=
  fun _ hs => ⟨rfl, hs⟩

theorem Yields.of_ofExcept (x : Except Fault α) :
    Yields I (Attempt.ofExcept x : Attempt state α) x := by
  cases x with
  | ok a => exact .of_pure a
  | error e => exact .of_throw e

/-- **A step that answers** hands its one answer to the next step. -/
theorem Yields.bind_ok {act : Attempt state α} {next : α → Attempt state β} {a : α}
    {y : Except Fault β} (hact : act.Yields I (.ok a)) (hnext : (next a).Yields I y) :
    (act >>= next).Yields I y := by
  intro s hs
  obtain ⟨hanswer, hafter⟩ := hact s hs
  obtain ⟨hanswer', hafter'⟩ := hnext _ hafter
  have hrun : (act >>= next) s = next a (act.after s) := bind_of_ok (eq_ok_of_answer hanswer) next
  unfold answer after at *
  rw [hrun]
  exact ⟨hanswer', hafter'⟩

/-- **A step that ends with a fault** is all that is made of a row of steps. -/
theorem Yields.bind_error {act : Attempt state α} {next : α → Attempt state β} {e : Fault}
    (hact : act.Yields I (.error e)) : (act >>= next).Yields I (.error e) := by
  intro s hs
  obtain ⟨hanswer, hafter⟩ := hact s hs
  have hrun := bind_of_error (eq_error_of_answer hanswer) next
  rw [answer_of_error hrun, after_of_error hrun]
  exact ⟨rfl, hafter⟩

/-- **Steps in a row** answer what their answers make in a row. -/
theorem Yields.bind {act : Attempt state α} {next : α → Attempt state β} {x : Except Fault α}
    {y : α → Except Fault β} (hact : act.Yields I x) (hnext : ∀ a, x = .ok a → (next a).Yields I (y a)) :
    (act >>= next).Yields I (x >>= y) := by
  cases x with
  | ok a => exact hact.bind_ok (hnext a rfl)
  | error e => exact hact.bind_error

/-- **A step for each item** of a list answers what its answers make in a row. -/
theorem Yields.mapM {body : α → Attempt state β} {f : α → Except Fault β}
    (hbody : ∀ a, (body a).Yields I (f a)) (items : List α) :
    (items.mapM body).Yields I (items.mapM f) := by
  induction items with
  | nil => exact .of_pure []
  | cons item rest ih =>
    rw [List.mapM_cons, List.mapM_cons]
    exact (hbody item).bind fun b _ => ih.bind fun bs _ => .of_pure (b :: bs)

/-- **A loop** whose rounds all go through does. -/
theorem Yields.forM {body : α → Attempt state Unit} (hbody : ∀ a, (body a).Yields I (.ok ()))
    (items : List α) : (items.forM body).Yields I (.ok ()) := by
  induction items with
  | nil => exact .of_pure ()
  | cons item rest ih => exact (hbody item).bind_ok ih

/-- What an answer is, read off a run that answered. -/
theorem Yields.eq_ok {act : Attempt state α} {x : Except Fault α} (h : act.Yields I x)
    {s t : state} {a : α} (hs : I s) (hact : act s = .ok a t) : x = .ok a ∧ I t := by
  obtain ⟨hanswer, hafter⟩ := h s hs
  rw [answer_of_ok hact] at hanswer
  rw [after_of_ok hact] at hafter
  exact ⟨hanswer.symm, hafter⟩

/-- **A settled computation** answers everywhere what it answers somewhere. -/
theorem IsSettled.yields {act : Attempt state α} (h : act.IsSettled I) {s : state} (hs : I s) :
    act.Yields I (act.answer s) := by
  obtain ⟨x, hx⟩ := h
  rw [(hx s hs).1]
  exact hx

theorem IsSettled.of_pure (a : α) : IsSettled I (pure a : Attempt state α) :=
  (Yields.of_pure a).isSettled

theorem IsSettled.of_throw (e : Fault) : IsSettled I (throw e : Attempt state α) :=
  (Yields.of_throw e).isSettled

/-- **Settled steps in a row** are settled. -/
theorem IsSettled.bind {act : Attempt state α} {next : α → Attempt state β}
    (hact : act.IsSettled I) (hnext : ∀ a, (next a).IsSettled I) : (act >>= next).IsSettled I := by
  obtain ⟨a | a, ha⟩ := hact
  · exact ⟨_, ha.bind_error⟩
  · obtain ⟨y, hy⟩ := hnext a
    exact ⟨y, ha.bind_ok hy⟩

/-- Where a settled computation leads. -/
theorem IsSettled.after {act : Attempt state α} (h : act.IsSettled I) {s t : state} {a : α}
    (hs : I s) (hact : act s = .ok a t) : I t := by
  obtain ⟨x, hx⟩ := h
  exact (hx.eq_ok hs hact).2

theorem IsSettled.of_ofExcept (x : Except Fault α) :
    IsSettled I (Attempt.ofExcept x : Attempt state α) :=
  (Yields.of_ofExcept x).isSettled

/-- **A computation on a part** that is settled there is settled on the whole. -/
theorem IsSettled.lift {l : Lens whole part} {I : part → Prop} {J : whole → Prop}
    (hget : ∀ w, J w → I (l.get w)) (hset : ∀ p w, J w → I p → J (l.set p w))
    {act : Attempt part α} (h : act.IsSettled I) : (l.lift act).IsSettled J := by
  obtain ⟨x, hx⟩ := h
  refine ⟨x, fun w hw => ?_⟩
  obtain ⟨hanswer, hafter⟩ := hx (l.get w) (hget w hw)
  have hwhole := hset _ w hw hafter
  rcases hact : act (l.get w) with ⟨a, p⟩ | ⟨e, p⟩
  · have hlift := Lens.lift_of_ok hact
    rw [answer_of_ok hlift, after_of_ok hlift]
    rw [answer_of_ok hact] at hanswer
    rw [after_of_ok hact] at hwhole
    exact ⟨hanswer, hwhole⟩
  · have hlift := Lens.lift_of_error hact
    rw [answer_of_error hlift, after_of_error hlift]
    rw [answer_of_error hact] at hanswer
    rw [after_of_error hact] at hwhole
    exact ⟨hanswer, hwhole⟩

/-! ### Answers that are the same in two places -/

/-- States of two invariants. -/
def Both (I : state → Prop) (J : state' → Prop) (s : state) (s' : state') : Prop := I s ∧ J s'

variable {J : state' → Prop}

/-- **Computations that yield the same** mirror one another. -/
theorem Mirrors.of_yields {act : Attempt state α} {act' : Attempt state' α} {x : Except Fault α}
    (h : act.Yields I x) (h' : act'.Yields J x) : Mirrors (Both I J) act act' := by
  intro s s' hs
  obtain ⟨hanswer, hafter⟩ := h s hs.1
  obtain ⟨hanswer', hafter'⟩ := h' s' hs.2
  exact ⟨hanswer.trans hanswer'.symm, hafter, hafter'⟩

/-- **After a step that yields the same**, what follows only has to be mirrored from there. -/
theorem Mirrors.yields_bind {act : Attempt state α} {act' : Attempt state' α} {a : α}
    {next : α → Attempt state β} {next' : α → Attempt state' β} (h : act.Yields I (.ok a))
    (h' : act'.Yields J (.ok a)) (hnext : Mirrors (Both I J) (next a) (next' a)) :
    Mirrors (Both I J) (act >>= next) (act' >>= next') := by
  intro s s' hs
  obtain ⟨hanswer, hafter⟩ := h s hs.1
  obtain ⟨hanswer', hafter'⟩ := h' s' hs.2
  have hact := bind_of_ok (eq_ok_of_answer hanswer) next
  have hact' := bind_of_ok (eq_ok_of_answer hanswer') next'
  have hrest := hnext _ _ ⟨hafter, hafter'⟩
  unfold answer after at hrest ⊢
  rw [hact, hact']
  exact hrest

/-- **A settled computation** is one that mirrors itself between any two states of the invariant. -/
theorem isSettled_iff_mirrors {act : Attempt state α} :
    act.IsSettled I ↔ Mirrors (Both I I) act act := by
  constructor
  · rintro ⟨x, hx⟩
    exact .of_yields hx hx
  · intro h
    by_cases hsome : ∃ s, I s
    · obtain ⟨s, hs⟩ := hsome
      refine ⟨act.answer s, fun t ht => ?_⟩
      obtain ⟨hanswer, -, hafter⟩ := h s t ⟨hs, ht⟩
      exact ⟨hanswer.symm, hafter⟩
    · -- without any state every answer will do
      exact ⟨.error .wrongType, fun s hs => (hsome ⟨s, hs⟩).elim⟩

end Yields

end Attempt

/-! ## Acts -/

/-- The scenes whose world is one of some worlds. -/
def Scene.In (W : σ → Prop) (scene : Scene σ) : Prop := W scene.world

/-- **Noting a record** leaves the world where it is. -/
theorem Act.yields_note (W : σ → Prop) (source : Source) (level : Level) (message : String) :
    (Act.note source level message : Act σ Unit).Yields (Scene.In W) (.ok ()) :=
  fun _ hs => ⟨rfl, hs⟩

theorem Act.isSettled_note (W : σ → Prop) (source : Source) (level : Level) (message : String) :
    (Act.note source level message : Act σ Unit).IsSettled (Scene.In W) :=
  (Act.yields_note W source level message).isSettled

theorem Act.mirrors_note (W : σ → Prop) (V : τ → Prop) (source : Source) (level : Level)
    (message : String) : Attempt.Mirrors (Attempt.Both (Scene.In W) (Scene.In V))
      (Act.note source level message) (Act.note source level message) :=
  .of_yields (Act.yields_note W source level message) (Act.yields_note V source level message)

/-! ## Hosts -/

/-- A host whose operations are functions of their arguments alone, as long as the world is one of
some worlds, which they do not leave. -/
structure Host.IsStill (host : Host σ) (W : σ → Prop) : Prop where
  /-- directories neither come nor go -/
  isDirectory : ∀ path, (host.isDirectory path).IsSettled (Scene.In W)
  /-- files neither come nor go -/
  isPresent : ∀ path, (host.isPresent path).IsSettled (Scene.In W)
  /-- paths keep their meaning -/
  resolve : ∀ path, (host.resolve path).IsSettled (Scene.In W)
  /-- files keep their contents -/
  read : ∀ path, (host.read path).IsSettled (Scene.In W)
  /-- the search path leads to the same programs -/
  lookup : ∀ name, (host.lookup name).IsSettled (Scene.In W)
  /-- so does the one of the remote side -/
  remoteLookup : ∀ lookup ∈ host.remoteLookup, ∀ name, (lookup name).IsSettled (Scene.In W)
  /-- commands end the same -/
  run : ∀ command arguments directory,
    (host.run command arguments directory).IsSettled (Scene.In W)
  /-- variables keep their values -/
  environment : ∀ name, (host.environment name).IsSettled (Scene.In W)

/-- **A host that stands still** mirrors itself, so whatever mirrors on mirrored hosts is settled on it. -/
theorem Host.IsStill.mirrors {host : Host σ} {W : σ → Prop} (h : host.IsStill W) :
    host.Mirrors (Attempt.Both (Scene.In W) (Scene.In W)) host where
  note := Act.mirrors_note W W
  isDirectory path := Attempt.isSettled_iff_mirrors.mp (h.isDirectory path)
  isPresent path := Attempt.isSettled_iff_mirrors.mp (h.isPresent path)
  resolve path := Attempt.isSettled_iff_mirrors.mp (h.resolve path)
  read path := Attempt.isSettled_iff_mirrors.mp (h.read path)
  lookup name := Attempt.isSettled_iff_mirrors.mp (h.lookup name)
  remoteLookup := by
    rcases hremote : host.remoteLookup with _ | lookup
    · exact .none
    · exact .some fun name => Attempt.isSettled_iff_mirrors.mp (h.remoteLookup lookup hremote name)
  run command arguments directory :=
    Attempt.isSettled_iff_mirrors.mp (h.run command arguments directory)

/-- The files and the variables of a world, seen from some directory. -/
structure Surroundings where
  /-- whether there is anything at a path -/
  isPresent : Path → Except Fault Bool
  /-- the absolute path without links that a path stands for -/
  resolve : Path → Except Fault Path
  /-- the content of a file -/
  read : Path → Except Fault ByteArray
  /-- a variable of the environment -/
  environment : String → Option String
  /-- what a path stands for is absolute -/
  isAbsolute_of_resolve : ∀ path resolved, resolve path = .ok resolved → resolved.isAbsolute = true

/-- The same files and variables, seen from another directory: only paths that are not absolute may
lead somewhere else. -/
structure Surroundings.Elsewhere (view other : Surroundings) : Prop where
  /-- there is something at the same paths -/
  isPresent : ∀ path, path.isAbsolute = true → other.isPresent path = view.isPresent path
  /-- paths stand for the same -/
  resolve : ∀ path, path.isAbsolute = true → other.resolve path = view.resolve path
  /-- files have the same contents -/
  read : ∀ path, path.isAbsolute = true → other.read path = view.read path
  /-- variables have the same values -/
  environment : other.environment = view.environment

/-- A host that tells of these surroundings, as long as the world is one of some worlds, which it
does not leave. -/
structure Host.Tells (host : Host σ) (W : σ → Prop) (view : Surroundings) : Prop where
  /-- it tells whether there is anything at a path -/
  isPresent : ∀ path, (host.isPresent path).Yields (Scene.In W) (view.isPresent path)
  /-- it tells what a path stands for -/
  resolve : ∀ path, (host.resolve path).Yields (Scene.In W) (view.resolve path)
  /-- it tells the contents of files -/
  read : ∀ path, (host.read path).Yields (Scene.In W) (view.read path)
  /-- it tells the values of variables -/
  environment : ∀ name, (host.environment name).Yields (Scene.In W) (.ok (view.environment name))

/-- A host that tells of surroundings, with no programs. -/
def Surroundings.host (view : Surroundings) : Host Unit where
  isDirectory := fun path => .ofExcept ((view.isPresent path).map not)
  isPresent := fun path => .ofExcept (view.isPresent path)
  resolve := fun path => .ofExcept (view.resolve path)
  read := fun path => .ofExcept (view.read path)
  lookup := fun _ => return none
  remoteLookup := none
  run := fun _ _ _ => throw .wrongType
  environment := fun name => return view.environment name

/-- **Any surroundings** are told of by some host. -/
theorem Surroundings.tells_host (view : Surroundings) : view.host.Tells (fun _ => True) view where
  isPresent := fun _ => .of_ofExcept _
  resolve := fun _ => .of_ofExcept _
  read := fun _ => .of_ofExcept _
  environment := fun _ => .of_pure _

end LspHost
