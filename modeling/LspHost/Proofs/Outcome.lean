import LspHost.Act

/-!
# Outcomes of computations

A computation ends with an answer or a fault, and in a state, whichever of the two it is. This
module separates the two: `Attempt.answer` is what comes out, `Attempt.after` is the state that is
left. It has

* the inversion of two steps in a row (`Attempt.bind_eq_ok`, `Attempt.bind_eq_error`);
* `Attempt.Keeps`: a relation between the state before and the state after, which holds of a row of
  steps as soon as it holds of each;
* what absorbing a failed query comes to (`Act.settle_eq_ok`, `Act.settle_eq_error`).
-/

namespace LspHost

variable {σ state whole part α β : Type}

/-- **Two values in a row that are there**: the first one is, and the second one after it. -/
theorem exists_of_bind_eq_ok {x : Except Fault α} {next : α → Except Fault β} {b : β}
    (h : x >>= next = .ok b) : ∃ a, x = .ok a ∧ next a = .ok b := by
  cases x with
  | ok a => exact ⟨a, rfl, h⟩
  | error e => cases h

namespace Attempt

/-- What a computation ends with: a value or a fault. -/
def answer (act : Attempt state α) (s : state) : Except Fault α :=
  match act s with
  | .ok a _ => .ok a
  | .error e _ => .error e

/-- The state in which a computation ends, with a value or with a fault. -/
def after (act : Attempt state α) (s : state) : state :=
  match act s with
  | .ok _ t => t
  | .error _ t => t

theorem answer_of_ok {act : Attempt state α} {s t : state} {a : α} (h : act s = .ok a t) :
    act.answer s = .ok a := by
  simp only [answer, h]

theorem after_of_ok {act : Attempt state α} {s t : state} {a : α} (h : act s = .ok a t) :
    act.after s = t := by
  simp only [after, h]

theorem answer_of_error {act : Attempt state α} {s t : state} {e : Fault}
    (h : act s = .error e t) : act.answer s = .error e := by
  simp only [answer, h]

theorem after_of_error {act : Attempt state α} {s t : state} {e : Fault}
    (h : act s = .error e t) : act.after s = t := by
  simp only [after, h]

/-- **An answer and the state beside it** are the whole outcome. -/
theorem eq_ok_of_answer {act : Attempt state α} {s : state} {a : α} (h : act.answer s = .ok a) :
    act s = .ok a (act.after s) := by
  unfold answer at h
  unfold after
  split at h
  · next hact =>
    obtain rfl := Except.ok.inj h
    simp only [hact]
  · cases h

/-- A computation that answers at all has an answer and a state beside it. -/
theorem exists_eq_ok {act : Attempt state α} {s : state} (h : (act.answer s).isOk = true) :
    ∃ a t, act s = .ok a t := by
  rcases hanswer : act.answer s with e | a
  · rw [hanswer] at h
    cases h
  · exact ⟨a, act.after s, eq_ok_of_answer hanswer⟩

/-- **A fault and the state beside it** are the whole outcome. -/
theorem eq_error_of_answer {act : Attempt state α} {s : state} {e : Fault}
    (h : act.answer s = .error e) : act s = .error e (act.after s) := by
  unfold answer at h
  unfold after
  split at h
  · cases h
  · next hact =>
    obtain rfl := Except.error.inj h
    simp only [hact]

/-- Only a value is handed on, and nothing happens meanwhile. -/
theorem ofExcept_eq_ok {x : Except Fault α} {s t : state} {a : α}
    (h : (ofExcept x : Attempt state α) s = .ok a t) : x = .ok a ∧ t = s := by
  cases x with
  | ok b =>
    cases h
    exact ⟨rfl, rfl⟩
  | error e => cases h

/-- Only a fault is handed on, and nothing happens meanwhile. -/
theorem ofExcept_eq_error {x : Except Fault α} {s t : state} {e : Fault}
    (h : (ofExcept x : Attempt state α) s = .error e t) : x = .error e ∧ t = s := by
  cases x with
  | ok a => cases h
  | error f =>
    cases h
    exact ⟨rfl, rfl⟩

/-! ## Two steps in a row -/

/-- **Two steps that answer**: the first one did, and the second one from where it ended. -/
theorem bind_eq_ok {act : Attempt state α} {next : α → Attempt state β} {s t : state} {b : β}
    (h : (act >>= next) s = .ok b t) : ∃ a u, act s = .ok a u ∧ next a u = .ok b t := by
  rcases hact : act s with ⟨a, u⟩ | ⟨e, u⟩
  · rw [bind_of_ok hact] at h
    exact ⟨a, u, rfl, h⟩
  · rw [bind_of_error hact] at h
    cases h

/-- **Two steps that end with a fault**: the first one did, or it answered and the second one
did. -/
theorem bind_eq_error {act : Attempt state α} {next : α → Attempt state β} {s t : state}
    {e : Fault} (h : (act >>= next) s = .error e t) :
    act s = .error e t ∨ ∃ a u, act s = .ok a u ∧ next a u = .error e t := by
  rcases hact : act s with ⟨a, u⟩ | ⟨f, u⟩
  · rw [bind_of_ok hact] at h
    exact .inr ⟨a, u, rfl, h⟩
  · rw [bind_of_error hact] at h
    cases h
    exact .inl rfl

/-- **An answer of the whole** is one of the part, which is replaced. -/
theorem lift_eq_ok {l : Lens whole part} {act : Attempt part α} {s t : whole} {a : α}
    (h : l.lift act s = .ok a t) : ∃ p, act (l.get s) = .ok a p ∧ t = l.set p s := by
  rcases hact : act (l.get s) with ⟨b, p⟩ | ⟨e, p⟩
  · rw [Lens.lift_of_ok hact] at h
    cases h
    exact ⟨p, rfl, rfl⟩
  · rw [Lens.lift_of_error hact] at h
    cases h

/-- **A value that is handed on** is there, and what follows goes on from the same state. -/
theorem ofExcept_bind_eq_ok {x : Except Fault α} {next : α → Attempt state β} {s t : state} {b : β}
    (h : (ofExcept x >>= next) s = .ok b t) : ∃ a, x = .ok a ∧ next a s = .ok b t := by
  obtain ⟨a, u, hact, hrest⟩ := bind_eq_ok h
  obtain ⟨hx, rfl⟩ := ofExcept_eq_ok hact
  exact ⟨a, hx, hrest⟩

/-- **Looking at the state** first hands it to the next step. -/
theorem get_bind (next : state → Attempt state α) (s : state) :
    ((get : Attempt state state) >>= next) s = next s s := rfl

/-- **Giving an answer another form** changes neither whether there is one nor the state. -/
theorem bind_pure_apply (act : Attempt state α) (f : α → β) (s : state) :
    (act >>= fun a => pure (f a)) s = match act s with
      | .ok a t => .ok (f a) t
      | .error e t => .error e t := by
  rcases h : act s with ⟨a, t⟩ | ⟨e, t⟩
  · rw [bind_of_ok h]
    rfl
  · rw [bind_of_error h]

@[simp]
theorem answer_bind_pure (act : Attempt state α) (f : α → β) (s : state) :
    (act >>= fun a => pure (f a)).answer s = (act.answer s).map f := by
  unfold answer
  rw [bind_pure_apply]
  cases act s <;> rfl

@[simp]
theorem after_bind_pure (act : Attempt state α) (f : α → β) (s : state) :
    (act >>= fun a => pure (f a)).after s = act.after s := by
  unfold after
  rw [bind_pure_apply]
  cases act s <;> rfl

/-- **A computation on a part** leaves the whole with the part as it left that. -/
theorem after_lift (l : Lens whole part) (act : Attempt part α) (w : whole) :
    (l.lift act).after w = l.set (act.after (l.get w)) w := by
  rcases h : act (l.get w) with ⟨a, p⟩ | ⟨e, p⟩
  · rw [after_of_ok h, after_of_ok (Lens.lift_of_ok h)]
  · rw [after_of_error h, after_of_error (Lens.lift_of_error h)]

/-- **A loop whose rounds answer** and each add something to what is observed of the state answers, and
adds all of it in order. -/
theorem forM_adds (observed : state → List β) {body : α → Attempt state Unit} {added : α → List β}
    (hbody : ∀ a s, ∃ t, body a s = .ok () t ∧ observed t = observed s ++ added a)
    (items : List α) (s : state) :
    ∃ t, items.forM body s = .ok () t ∧ observed t = observed s ++ items.flatMap added := by
  induction items generalizing s with
  | nil => exact ⟨s, rfl, (List.append_nil _).symm⟩
  | cons item rest ih =>
    obtain ⟨u, hround, hu⟩ := hbody item s
    obtain ⟨t, hrest, ht⟩ := ih u
    refine ⟨t, (bind_of_ok hround fun _ => rest.forM body).trans hrest, ?_⟩
    rw [ht, hu, List.append_assoc, List.flatMap_cons]

/-! ## Relations between before and after -/

/-- However a computation ends, the state after it is related to the state before. -/
def Keeps (R : state → state → Prop) (act : Attempt state α) : Prop := ∀ s, R s (act.after s)

section Keeps

variable {R : state → state → Prop}

theorem Keeps.pure (hrefl : ∀ s, R s s) (a : α) : Keeps R (Pure.pure a : Attempt state α) :=
  fun s => hrefl s

theorem Keeps.ofExcept (hrefl : ∀ s, R s s) (x : Except Fault α) :
    Keeps R (Attempt.ofExcept x : Attempt state α) := by
  intro s
  cases x with
  | ok a => exact hrefl s
  | error e => exact hrefl s

theorem Keeps.get (hrefl : ∀ s, R s s) : Keeps R (MonadState.get : Attempt state state) :=
  fun s => hrefl s

theorem Keeps.of_modify {f : state → state} (hf : ∀ s, R s (f s)) :
    Keeps R (modify f : Attempt state Unit) :=
  fun s => hf s

/-- What is kept by a computation that answers. -/
theorem Keeps.of_ok {act : Attempt state α} (h : act.Keeps R) {s t : state} {a : α}
    (hact : act s = .ok a t) : R s t := by
  have hs := h s
  rwa [after_of_ok hact] at hs

/-- What is kept by a computation that ends with a fault. -/
theorem Keeps.of_error {act : Attempt state α} (h : act.Keeps R) {s t : state} {e : Fault}
    (hact : act s = .error e t) : R s t := by
  have hs := h s
  rwa [after_of_error hact] at hs

/-- **What is kept** is kept more loosely too. -/
theorem Keeps.mono {S : state → state → Prop} {act : Attempt state α} (h : act.Keeps R)
    (hRS : ∀ s t, R s t → S s t) : act.Keeps S :=
  fun s => hRS _ _ (h s)

/-- **Steps in a row** keep what each of them keeps. -/
theorem Keeps.bind (htrans : ∀ s t u, R s t → R t u → R s u) {act : Attempt state α}
    {next : α → Attempt state β} (hact : act.Keeps R) (hnext : ∀ a, (next a).Keeps R) :
    (act >>= next).Keeps R := by
  intro s
  have hs := hact s
  rcases h : act s with ⟨a, t⟩ | ⟨e, t⟩
  · rw [after_of_ok h] at hs
    have ht := hnext a t
    unfold after at ht ⊢
    rw [bind_of_ok h]
    exact htrans _ _ _ hs ht
  · rw [after_of_error h] at hs
    rw [after_of_error (bind_of_error h next)]
    exact hs

/-- **Giving an answer another form** keeps what the computation keeps. -/
theorem Keeps.bind_pure {act : Attempt state α} (hact : act.Keeps R) (f : α → β) :
    (act >>= fun a => Pure.pure (f a)).Keeps R := by
  intro s
  rw [after_bind_pure]
  exact hact s

/-- **A loop** keeps what each round keeps. -/
theorem Keeps.forM (hrefl : ∀ s, R s s) (htrans : ∀ s t u, R s t → R t u → R s u)
    {body : α → Attempt state Unit} (hbody : ∀ a, (body a).Keeps R) (items : List α) :
    (items.forM body).Keeps R := by
  induction items with
  | nil => exact Keeps.pure hrefl ()
  | cons item rest ih => exact Keeps.bind htrans (hbody item) fun _ => ih

/-- **A computation on a part** keeps what replacing the part keeps. -/
theorem Keeps.lift {l : Lens whole part} {R : whole → whole → Prop}
    (hset : ∀ p w, R w (l.set p w)) (act : Attempt part α) : (l.lift act).Keeps R := by
  intro s
  rw [after_lift]
  exact hset (act.after (l.get s)) s

/-- **A computation on a part** keeps of the whole what follows from what it keeps of the part. -/
theorem Keeps.lift_of {l : Lens whole part} {R : part → part → Prop} {Q : whole → whole → Prop}
    (hset : ∀ w p, R (l.get w) p → Q w (l.set p w)) {act : Attempt part α} (hact : act.Keeps R) :
    (l.lift act).Keeps Q := by
  intro w
  rw [after_lift]
  exact hset w (act.after (l.get w)) (hact (l.get w))

end Keeps

end Attempt

/-! ## Absorbing a failed query -/

namespace Act

variable {act : Act σ α} {s t : Scene σ}

theorem settle_of_ok {a : α} (h : act s = .ok a t) : Act.settle act s = .ok (.ok a) t := by
  simp only [settle, h]

theorem settle_of_queryFailed {query : FailedQuery} (h : act s = .error (.queryFailed query) t) :
    Act.settle act s = .ok (.error query) t := by
  simp only [settle, h]

theorem settle_eq_ok {a : α} (h : Act.settle act s = .ok (.ok a) t) : act s = .ok a t := by
  unfold settle at h
  split at h
  · next hact =>
    cases h
    exact hact
  · cases h
  · cases h

/-- **What is not absorbed** is no failed query. -/
theorem settle_eq_error {e : Fault} (h : Act.settle act s = .error e t) :
    act s = .error e t ∧ ∀ query, e ≠ .queryFailed query := by
  unfold settle at h
  split at h
  · cases h
  · cases h
  · next hother hact =>
    cases h
    exact ⟨hact, hother⟩

end Act

end LspHost
