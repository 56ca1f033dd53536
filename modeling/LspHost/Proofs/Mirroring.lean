import LspHost.Host
import LspHost.Proofs.History
import Mathlib.Data.List.Forall2

/-!
# Computations that mirror one another

Two computations on states of different kinds mirror one another if from related states they answer
the same and end in related states (`Attempt.Mirrors`). Rows of mirrored steps are mirrored, and so
are runs, call by call (`Attempt.mirrors_history`). A host is mirrored by another one if each of its
operations is (`Host.Mirrors`).
-/

namespace LspHost

variable {α β : Type}

namespace Attempt

variable {state state' whole whole' part part' : Type}

/-- From related states, two computations answer the same and end in related states. -/
def Mirrors (R : state → state' → Prop) (act : Attempt state α) (act' : Attempt state' α) : Prop :=
  ∀ s s', R s s' → act.answer s = act'.answer s' ∧ R (act.after s) (act'.after s')

variable {R : state → state' → Prop}

theorem Mirrors.of_pure (a : α) :
    Mirrors R (pure a : Attempt state α) (pure a : Attempt state' α) :=
  fun _ _ hs => ⟨rfl, hs⟩

theorem Mirrors.of_throw (e : Fault) :
    Mirrors R (throw e : Attempt state α) (throw e : Attempt state' α) :=
  fun _ _ hs => ⟨rfl, hs⟩

theorem Mirrors.of_ofExcept (x : Except Fault α) :
    Mirrors R (ofExcept x : Attempt state α) (ofExcept x : Attempt state' α) := by
  cases x with
  | ok a => exact .of_pure a
  | error e => exact .of_throw e

theorem Mirrors.of_modify {f : state → state} {f' : state' → state'}
    (h : ∀ s s', R s s' → R (f s) (f' s')) :
    Mirrors R (modify f : Attempt state Unit) (modify f' : Attempt state' Unit) :=
  fun s s' hs => ⟨rfl, h s s' hs⟩

theorem Mirrors.of_modifyGet {f : state → α × state} {f' : state' → α × state'}
    (h : ∀ s s', R s s' → (f s).1 = (f' s').1 ∧ R (f s).2 (f' s').2) :
    Mirrors R (modifyGet f : Attempt state α) (modifyGet f' : Attempt state' α) :=
  fun s s' hs => ⟨congrArg Except.ok (h s s' hs).1, (h s s' hs).2⟩

/-- **What mirrored computations end with**: answers that are the same, or faults that are, and
related states. -/
theorem Mirrors.outcome {act : Attempt state α} {act' : Attempt state' α}
    (h : Mirrors R act act') {s : state} {s' : state'} (hs : R s s') :
    (∃ a t t', act s = .ok a t ∧ act' s' = .ok a t' ∧ R t t') ∨
      ∃ e t t', act s = .error e t ∧ act' s' = .error e t' ∧ R t t' := by
  obtain ⟨hanswer, hafter⟩ := h s s' hs
  rcases hact : act s with ⟨a, t⟩ | ⟨e, t⟩
  · rw [answer_of_ok hact] at hanswer
    rw [after_of_ok hact] at hafter
    exact .inl ⟨a, t, _, rfl, eq_ok_of_answer hanswer.symm, hafter⟩
  · rw [answer_of_error hact] at hanswer
    rw [after_of_error hact] at hafter
    exact .inr ⟨e, t, _, rfl, eq_error_of_answer hanswer.symm, hafter⟩

/-- Computations that end with the same and in related states mirror one another. -/
theorem Mirrors.of_outcome {act : Attempt state α} {act' : Attempt state' α}
    (h : ∀ s s', R s s' → (∃ a t t', act s = .ok a t ∧ act' s' = .ok a t' ∧ R t t') ∨
      ∃ e t t', act s = .error e t ∧ act' s' = .error e t' ∧ R t t') : Mirrors R act act' := by
  intro s s' hs
  rcases h s s' hs with ⟨a, t, t', hact, hact', ht⟩ | ⟨e, t, t', hact, hact', ht⟩
  · rw [answer_of_ok hact, answer_of_ok hact', after_of_ok hact, after_of_ok hact']
    exact ⟨rfl, ht⟩
  · rw [answer_of_error hact, answer_of_error hact', after_of_error hact, after_of_error hact']
    exact ⟨rfl, ht⟩

/-- **Mirrored steps in a row** mirror one another. -/
theorem Mirrors.bind {act : Attempt state α} {act' : Attempt state' α}
    {next : α → Attempt state β} {next' : α → Attempt state' β} (hact : Mirrors R act act')
    (hnext : ∀ a, Mirrors R (next a) (next' a)) : Mirrors R (act >>= next) (act' >>= next') := by
  refine .of_outcome fun s s' hs => ?_
  rcases hact.outcome hs with ⟨a, t, t', hok, hok', ht⟩ | ⟨e, t, t', herror, herror', ht⟩
  · rw [bind_of_ok hok, bind_of_ok hok']
    exact (hnext a).outcome ht
  · exact .inr ⟨e, t, t', bind_of_error herror next, bind_of_error herror' next', ht⟩

/-- **Looking at related states** first hands them to what follows. -/
theorem Mirrors.get_bind {next : state → Attempt state α} {next' : state' → Attempt state' α}
    (h : ∀ s s', R s s' → Mirrors R (next s) (next' s')) :
    Mirrors R ((get : Attempt state state) >>= next) ((get : Attempt state' state') >>= next') :=
  fun s s' hs => h s s' hs s s' hs

/-- **Loops** with mirrored rounds mirror one another. -/
theorem Mirrors.forM {body : α → Attempt state Unit} {body' : α → Attempt state' Unit}
    (hbody : ∀ a, Mirrors R (body a) (body' a)) (items : List α) :
    Mirrors R (items.forM body) (items.forM body') := by
  induction items with
  | nil => exact .of_pure ()
  | cons item rest ih => exact .bind (hbody item) fun _ => ih

/-- **Loops that build something up** in mirrored rounds mirror one another. -/
theorem Mirrors.foldlM {body : β → α → Attempt state β} {body' : β → α → Attempt state' β}
    (hbody : ∀ b a, Mirrors R (body b a) (body' b a)) (b : β) (items : List α) :
    Mirrors R (items.foldlM body b) (items.foldlM body' b) := by
  induction items generalizing b with
  | nil => exact .of_pure b
  | cons item rest ih => exact .bind (hbody b item) ih

/-- **Computations on parts** that mirror one another do so on the wholes. -/
theorem Mirrors.lift {l : Lens whole part} {k : Lens whole' part'} {P : part → part' → Prop}
    {R : whole → whole' → Prop} (hget : ∀ w w', R w w' → P (l.get w) (k.get w'))
    (hset : ∀ w w' p p', R w w' → P p p' → R (l.set p w) (k.set p' w'))
    {act : Attempt part α} {act' : Attempt part' α} (h : Mirrors P act act') :
    Mirrors R (l.lift act) (k.lift act') := by
  refine .of_outcome fun w w' hw => ?_
  rcases h.outcome (hget w w' hw) with ⟨a, p, p', hok, hok', hp⟩ | ⟨e, p, p', herror, herror', hp⟩
  · exact .inl ⟨a, _, _, Lens.lift_of_ok hok, Lens.lift_of_ok hok', hset w w' p p' hw hp⟩
  · exact .inr ⟨e, _, _, Lens.lift_of_error herror, Lens.lift_of_error herror',
      hset w w' p p' hw hp⟩

/-- **A computation on a part** is mirrored by the one on the whole. -/
theorem Mirrors.of_lift (l : Lens whole part) (act : Attempt part α) :
    Mirrors (fun p w => p = l.get w) act (l.lift act) := by
  refine .of_outcome fun p w hp => ?_
  subst hp
  rcases hact : act (l.get w) with ⟨a, p⟩ | ⟨e, p⟩
  · exact .inl ⟨a, p, _, rfl, Lens.lift_of_ok hact, (l.get_set p w).symm⟩
  · exact .inr ⟨e, p, _, rfl, Lens.lift_of_error hact, (l.get_set p w).symm⟩

/-! ## Runs -/

/-- Two events of the same call that answer the same, from related states to related states. -/
structure MirrorEvents {κ : Type} (R : state → state' → Prop) (e : Event κ state α)
    (e' : Event κ state' α) : Prop where
  /-- the call is the same -/
  call : e.call = e'.call
  /-- so is the answer -/
  answer : e.answer = e'.answer
  /-- the states that they found are related -/
  before : R e.before e'.before
  /-- so are those that they left -/
  after : R e.after e'.after

/-- **Runs of mirrored calls** mirror one another, event by event. -/
theorem mirrors_history {κ : Type} {perform : κ → Attempt state α} {perform' : κ → Attempt state' α}
    (h : ∀ call, Mirrors R (perform call) (perform' call)) {s : state} {s' : state'} (hs : R s s')
    (calls : List κ) :
    List.Forall₂ (MirrorEvents R) (history perform s calls) (history perform' s' calls) := by
  induction calls generalizing s s' with
  | nil => exact .nil
  | cons call rest ih =>
    obtain ⟨hanswer, hafter⟩ := h call s s' hs
    exact .cons ⟨rfl, hanswer, hs, hafter⟩ (ih hafter)

end Attempt

variable {σ σ' : Type}

/-- **Absorbing failed queries** mirrors itself. -/
theorem Act.mirrors_settle {R : Scene σ → Scene σ' → Prop} {act : Act σ α} {act' : Act σ' α}
    (h : Attempt.Mirrors R act act') : Attempt.Mirrors R (Act.settle act) (Act.settle act') := by
  refine .of_outcome fun s s' hs => ?_
  unfold settle
  rcases h.outcome hs with ⟨a, t, t', hok, hok', ht⟩ | ⟨e, t, t', herror, herror', ht⟩
  · rw [hok, hok']
    exact .inl ⟨_, t, t', rfl, rfl, ht⟩
  · rw [herror, herror']
    cases e with
    | queryFailed query => exact .inl ⟨_, t, t', rfl, rfl, ht⟩
    | _ => exact .inr ⟨_, t, t', rfl, rfl, ht⟩

/-! ## Hosts -/

/-- Two hosts of different worlds, each operation of which mirrors that of the other one; records are
noted alike. -/
structure Host.Mirrors (R : Scene σ → Scene σ' → Prop) (host : Host σ) (host' : Host σ') : Prop where
  /-- noting a record -/
  note : ∀ source level message, Attempt.Mirrors R (Act.note source level message : Act σ Unit)
    (Act.note source level message : Act σ' Unit)
  /-- checking for a directory -/
  isDirectory : ∀ path, Attempt.Mirrors R (host.isDirectory path) (host'.isDirectory path)
  /-- checking whether there is anything -/
  isPresent : ∀ path, Attempt.Mirrors R (host.isPresent path) (host'.isPresent path)
  /-- finding what a path stands for -/
  resolve : ∀ path, Attempt.Mirrors R (host.resolve path) (host'.resolve path)
  /-- reading a file -/
  read : ∀ path, Attempt.Mirrors R (host.read path) (host'.read path)
  /-- looking a command up -/
  lookup : ∀ name, Attempt.Mirrors R (host.lookup name) (host'.lookup name)
  /-- looking a command up on the remote side -/
  remoteLookup : Option.Rel (fun lookup lookup' : Value → _ => ∀ name,
    Attempt.Mirrors R (lookup name) (lookup' name)) host.remoteLookup host'.remoteLookup
  /-- running a command -/
  run : ∀ command arguments directory,
    Attempt.Mirrors R (host.run command arguments directory) (host'.run command arguments directory)

end LspHost
