import LspHost.Proofs.Outcome
import Mathlib.Data.List.Induction

/-!
# Histories

Something that answers calls is called again and again. A fault ends its call and not the run: the
next call finds the state that the fault left. `Attempt.afterAll` is the state after a list of
calls, `Attempt.history` tells of each call what it found, what it answered and what it left.

What every call keeps, every run keeps (`Attempt.afterAll_of_step`); what every single call answers
from the states of an invariant, a run answers call by call (`Attempt.answers_history`); what every
call adds to something that is observed, a run adds one after the other (`Attempt.afterAll_adds`); what
some events set and others clear is as the latest of them left it (`Attempt.afterAll_iff_standsIn`).
-/

namespace LspHost

variable {κ state α : Type}

/-- One call of a run. -/
structure Event (κ state α : Type) where
  /-- the state in which it was made -/
  before : state
  /-- the call -/
  call : κ
  /-- the value or the fault that it ended with -/
  answer : Except Fault α
  /-- the state that it left -/
  after : state

/-! ## What stands at the end of a history -/

/-- An event of a history sets what no later one clears. -/
def StandsIn (sets clears : Event κ state α → Prop) (events : List (Event κ state α)) : Prop :=
  ∃ before e after, events = before ++ e :: after ∧ sets e ∧ ∀ e' ∈ after, ¬ clears e'

section StandsIn

variable {sets clears : Event κ state α → Prop} {events later : List (Event κ state α)}
  {e : Event κ state α}

theorem StandsIn.exists_mem (h : StandsIn sets clears events) : ∃ e ∈ events, sets e := by
  obtain ⟨before, e, after, rfl, hsets, -⟩ := h
  exact ⟨e, List.mem_append_right before (List.mem_cons_self ..), hsets⟩

/-- **With one more event** it stands if that one sets it, or if it stood and is not cleared. -/
theorem standsIn_concat :
    StandsIn sets clears (events ++ [e]) ↔ sets e ∨ (StandsIn sets clears events ∧ ¬ clears e) := by
  constructor
  · rintro ⟨before, first, after, hsplit, hsets, hafter⟩
    -- the new event is the one that sets it, or comes after that one
    rcases List.eq_nil_or_concat after with rfl | ⟨after, last, rfl⟩
    · obtain ⟨-, hlast⟩ := List.append_inj' hsplit rfl
      obtain rfl : e = first := List.head_eq_of_cons_eq hlast
      exact .inl hsets
    · rw [List.concat_eq_append, ← List.cons_append, ← List.append_assoc] at hsplit
      obtain ⟨hevents, hlast⟩ := List.append_inj' hsplit rfl
      obtain rfl : e = last := List.head_eq_of_cons_eq hlast
      refine .inr ⟨⟨before, first, after, hevents, hsets, ?_⟩, hafter _ (by simp)⟩
      intro e' he'
      exact hafter e' (by simp [he'])
  · rintro (hsets | ⟨⟨before, first, after, rfl, hsets, hafter⟩, hkept⟩)
    · exact ⟨events, e, [], rfl, hsets, nofun⟩
    · refine ⟨before, first, after ++ [e], by simp, hsets, ?_⟩
      intro e' he'
      rcases List.mem_append.mp he' with he' | he'
      · exact hafter e' he'
      · rwa [List.mem_singleton.mp he']

/-- **Where nothing more sets it**, it stands if it stood and nothing more clears it. -/
theorem standsIn_append (h : ∀ e ∈ later, ¬ sets e) :
    StandsIn sets clears (events ++ later) ↔
      StandsIn sets clears events ∧ ∀ e ∈ later, ¬ clears e := by
  induction later using List.reverseRecOn with
  | nil => simp
  | append_singleton later last ih =>
    have hlater := ih fun e he => h e (List.mem_append_left _ he)
    have hlast : ¬ sets last := h last (by simp)
    rw [← List.append_assoc, standsIn_concat, or_iff_right hlast, hlater, and_assoc,
      List.forall_mem_append, List.forall_mem_singleton]

/-- **An event that sets it** may as well count as one that clears what was set before. -/
theorem standsIn_iff_latest :
    StandsIn sets clears events ↔ StandsIn sets (fun e => sets e ∨ clears e) events := by
  induction events using List.reverseRecOn with
  | nil => exact ⟨fun h => absurd h.exists_mem (by simp), fun h => absurd h.exists_mem (by simp)⟩
  | append_singleton events e ih =>
    rw [standsIn_concat, standsIn_concat, ih]
    by_cases hsets : sets e
    · simp only [hsets, true_or]
    · simp only [hsets, false_or]

end StandsIn

namespace Attempt

variable (perform : κ → Attempt state α)

/-- A call made in a state. -/
def event (s : state) (call : κ) : Event κ state α where
  before := s
  call := call
  answer := (perform call).answer s
  after := (perform call).after s

/-- The state after calls made one after the other. -/
def afterAll (s : state) (calls : List κ) : state :=
  calls.foldl (fun s call => (perform call).after s) s

/-- Calls made one after the other. -/
def history : state → List κ → List (Event κ state α)
  | _, [] => []
  | s, call :: rest => event perform s call :: history ((perform call).after s) rest

@[simp]
theorem afterAll_nil (s : state) : afterAll perform s [] = s := rfl

@[simp]
theorem afterAll_concat (s : state) (calls : List κ) (call : κ) :
    afterAll perform s (calls ++ [call]) = (perform call).after (afterAll perform s calls) := by
  simp only [afterAll, List.foldl_append, List.foldl_cons, List.foldl_nil]

/-- **The last call** of a run is made in the state that the others left. -/
theorem history_concat (s : state) (calls : List κ) (call : κ) :
    history perform s (calls ++ [call]) =
      history perform s calls ++ [event perform (afterAll perform s calls) call] := by
  induction calls generalizing s with
  | nil => rfl
  | cons first rest ih =>
    rw [List.cons_append, history, ih]
    rfl

variable {perform}

/-- **An event of a run** is one of its calls, made in the state that it found. -/
theorem eq_event_of_mem_history {s : state} {calls : List κ} {e : Event κ state α}
    (h : e ∈ history perform s calls) : e.call ∈ calls ∧ e = event perform e.before e.call := by
  induction calls generalizing s with
  | nil => cases h
  | cons call rest ih =>
    rcases List.mem_cons.mp h with rfl | hrest
    · exact ⟨List.mem_cons_self .., rfl⟩
    · obtain ⟨hcall, hevent⟩ := ih hrest
      exact ⟨List.mem_cons_of_mem _ hcall, hevent⟩

/-- **What every call keeps** holds after every run. -/
theorem afterAll_of_step {P : state → Prop} (hstep : ∀ call s, P s → P ((perform call).after s))
    {s : state} (hs : P s) (calls : List κ) : P (afterAll perform s calls) := by
  induction calls generalizing s with
  | nil => exact hs
  | cons call rest ih => exact ih (hstep call s hs)

/-- **What every call of a run keeps** holds before each of its events. -/
theorem before_of_step {P : state → Prop} {calls : List κ}
    (hstep : ∀ call ∈ calls, ∀ s, P s → P ((perform call).after s)) {s : state} (hs : P s) :
    ∀ e ∈ history perform s calls, P e.before := by
  induction calls generalizing s with
  | nil => exact nofun
  | cons call rest ih =>
    obtain ⟨hcall, hrest⟩ := List.forall_mem_cons.mp hstep
    exact List.forall_mem_cons.mpr ⟨hs, ih hrest (hcall s hs)⟩

/-- **A run answers call by call**: if every call keeps an invariant and its answer is the same in
all states of the invariant, then a run answers what the calls answer. -/
theorem answers_history {P : state → Prop} {f : κ → Except Fault α}
    (hstep : ∀ call s, P s → (perform call).answer s = f call ∧ P ((perform call).after s))
    {s : state} (hs : P s) (calls : List κ) :
    (history perform s calls).map Event.answer = calls.map f := by
  induction calls generalizing s with
  | nil => rfl
  | cons call rest ih =>
    obtain ⟨hanswer, hafter⟩ := hstep call s hs
    rw [history, List.map_cons, List.map_cons, ih hafter]
    exact congrArg (· :: _) hanswer

/-- **What is observed adds up**: if every call adds to it what its event says, then a run adds what
its events say, one after the other. -/
theorem afterAll_adds {β : Type} (observed : state → List β) {added : Event κ state α → List β}
    (hstep : ∀ call s, observed ((perform call).after s) =
      observed s ++ added (event perform s call)) (s : state) (calls : List κ) :
    observed (afterAll perform s calls) =
      observed s ++ (history perform s calls).flatMap added := by
  induction calls generalizing s with
  | nil => exact (List.append_nil _).symm
  | cons call rest ih =>
    rw [history, List.flatMap_cons, ← List.append_assoc, ← hstep]
    exact ih ((perform call).after s)

/-- **The latest event decides**: if something holds after a call just when the call sets it, or when it
held before and the call does not clear it, then it holds after a run just when it stands in what
happened. -/
theorem afterAll_iff_standsIn {P : state → Prop} {sets clears : Event κ state α → Prop}
    (hstep : ∀ call s, P ((perform call).after s) ↔
      sets (event perform s call) ∨ (P s ∧ ¬ clears (event perform s call)))
    {s : state} (hs : ¬ P s) (calls : List κ) :
    P (afterAll perform s calls) ↔ StandsIn sets clears (history perform s calls) := by
  induction calls using List.reverseRecOn with
  | nil =>
    refine iff_of_false hs ?_
    intro h
    obtain ⟨e, he, -⟩ := h.exists_mem
    cases he
  | append_singleton calls call ih =>
    rw [afterAll_concat, history_concat, standsIn_concat, hstep, ih]

/-- **Calls that are performed alike** leave the same state. -/
theorem afterAll_eq_of_map {calls calls' : List κ} (h : calls.map perform = calls'.map perform)
    (s : state) : afterAll perform s calls = afterAll perform s calls' := by
  have hfold : ∀ calls : List κ,
      afterAll perform s calls = (calls.map perform).foldl (fun s act => act.after s) s := by
    intro calls
    rw [List.foldl_map]
    rfl
  rw [hfold, hfold, h]

end Attempt

end LspHost
