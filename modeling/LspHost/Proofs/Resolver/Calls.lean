import LspHost.Environment.Resolver
import LspHost.Proofs.History

/-!
# Calls of a resolver

What a client can do with a resolver, as data, so that a run is a list of calls; and for each call
what it does with the remembered answer.

Only `Resolver.viaTool` ever remembers anything: it recalls what is remembered without looking at
anything else (`viaTool_of_cached`), and asks the tool where nothing is (`viaTool_of_empty`). Every
other call either goes through it and then leaves the remembered answer alone, or never touches it.
-/

namespace LspHost.Resolver

variable {σ α : Type}

/-- A call of a resolver. -/
inductive Call where
  /-- asks for the interpreter or the virtual environment, for a file -/
  | resolve (target : Target) (file : Option Path)
  /-- asks for what the project's tool reports -/
  | viaTool
  /-- forgets the remembered answer -/
  | clear
  deriving DecidableEq

/-- What a call answers. -/
inductive Answer where
  /-- a path, if there is one -/
  | place (path : Option Value)
  /-- the environment that the tool reports, if it does -/
  | environment (e : Option Environment)
  /-- the remembered answer is forgotten -/
  | cleared
  deriving DecidableEq

/-- Makes a call. -/
def perform (r : Resolver σ) : Call → Run σ Answer
  | .resolve target file => do return .place (← r.resolve target file)
  | .viaTool => do return .environment (← r.viaTool)
  | .clear => do
    clear
    return .cleared

/-- What a resolver has before its first call. -/
def Memory.fresh (scene : Scene σ) : Memory σ := { scene }

/-! ## Acts leave the remembered answer alone -/

theorem lift_of_ok {act : Act σ α} {m : Memory σ} {t : Scene σ} {a : α}
    (h : act m.scene = .ok a t) : lift act m = .ok a { m with scene := t } :=
  Lens.lift_of_ok (l := Memory.sceneLens) h

theorem lift_of_error {act : Act σ α} {m : Memory σ} {t : Scene σ} {e : Fault}
    (h : act m.scene = .error e t) : lift act m = .error e { m with scene := t } :=
  Lens.lift_of_error (l := Memory.sceneLens) h

theorem keeps_cache_lift (act : Act σ α) :
    (lift act).Keeps fun m m' => m'.cache = m.cache :=
  Attempt.Keeps.lift (l := Memory.sceneLens) (fun _ _ => rfl) act

/-! ## Asking the tool -/

/-- **A remembered answer is recalled**, with nothing looked at and nothing changed. -/
theorem viaTool_of_cached (r : Resolver σ) {m : Memory σ} {e : Environment}
    (h : m.cache = some e) : r.viaTool m = .ok (some e) m := by
  unfold viaTool
  rw [Attempt.get_bind, h]
  rfl

/-- **With nothing remembered** the tool is asked, and its answer remembered if there is one. -/
theorem viaTool_of_empty (r : Resolver σ) {m : Memory σ} (h : m.cache = none) :
    r.viaTool m = match r.query m.scene with
      | .ok answer t => .ok answer { scene := t, cache := answer }
      | .error f t => .error f { scene := t, cache := none } := by
  obtain ⟨scene, cache⟩ := m
  obtain rfl : cache = none := h
  unfold viaTool
  rw [Attempt.get_bind]
  dsimp only
  rcases hquery : r.query scene with ⟨_ | e, t⟩ | ⟨f, t⟩
  · rw [Attempt.bind_of_ok (lift_of_ok (m := ⟨scene, none⟩) hquery)]
    rfl
  · rw [Attempt.bind_of_ok (lift_of_ok (m := ⟨scene, none⟩) hquery)]
    rfl
  · rw [Attempt.bind_of_error (lift_of_error (m := ⟨scene, none⟩) hquery)]

/-- **What is remembered changes by learning only**: asking the tool leaves it alone, or nothing was
remembered and the tool's answer now is. -/
theorem cache_after_viaTool (r : Resolver σ) (m : Memory σ) :
    (r.viaTool.after m).cache = m.cache ∨
      (m.cache = none ∧ ∃ e t, r.query m.scene = .ok (some e) t ∧
        r.viaTool m = .ok (some e) { scene := t, cache := some e }) := by
  rcases hcache : m.cache with _ | e
  · have hrun := r.viaTool_of_empty hcache
    rcases hquery : r.query m.scene with ⟨_ | e, t⟩ | ⟨f, t⟩
    all_goals rw [hquery] at hrun
    · exact .inl (by rw [Attempt.after_of_ok hrun])
    · exact .inr ⟨rfl, e, t, rfl, hrun⟩
    · exact .inl (by rw [Attempt.after_of_error hrun])
  · exact .inl (by rw [Attempt.after_of_ok (r.viaTool_of_cached hcache), hcache])

/-- **What follows the tool** and leaves the remembered answer alone leaves it as the tool's part
did. -/
theorem cache_after_viaTool_bind (r : Resolver σ) {next : Option Environment → Run σ α}
    (hnext : ∀ answer, (next answer).Keeps fun m m' => m'.cache = m.cache) (m : Memory σ) :
    ((r.viaTool >>= next).after m).cache = (r.viaTool.after m).cache := by
  rcases h : r.viaTool m with ⟨answer, t⟩ | ⟨f, t⟩
  · rw [Attempt.after_of_ok h]
    have hkept := hnext answer t
    unfold Attempt.after at hkept ⊢
    rw [Attempt.bind_of_ok h]
    exact hkept
  · rw [Attempt.after_of_error h, Attempt.after_of_error (Attempt.bind_of_error h next)]

/-! ## The interpreter and the virtual environment -/

/-- **The interpreter** is the one that the tool reports, if it does. -/
theorem python_of_viaTool (r : Resolver σ) {m t : Memory σ} {e : Environment}
    (h : r.viaTool m = .ok (some e) t) : r.python m = .ok (some e.python) t := by
  rw [python, Attempt.bind_of_ok h]
  rfl

/-- The interpreter command is looked up without touching what is remembered. -/
theorem cache_after_python (r : Resolver σ) (m : Memory σ) :
    (r.python.after m).cache = (r.viaTool.after m).cache := by
  refine r.cache_after_viaTool_bind (fun answer => ?_) m
  cases answer with
  | none => exact keeps_cache_lift _
  | some e => exact fun _ => rfl

/-- **A fixed virtual environment** is the answer whatever is remembered; all that happens is that a
record is noted. -/
theorem venv_of_override (r : Resolver σ) (file : Option Path) (m : Memory σ)
    (h : r.overrides.venvPath.isTruthy = true) :
    ∃ journal, r.venv file m =
      .ok (some r.overrides.venvPath) { m with scene := { m.scene with journal } } := by
  simp only [venv, h, if_true]
  exact ⟨_, rfl⟩

theorem venv_of_no_override (r : Resolver σ) (file : Option Path)
    (h : r.overrides.venvPath.isTruthy = false) :
    r.venv file = r.viaTool >>= fun
      | some e => return some (.string e.venv)
      | none => do
        let found ← lift (Search.venv r.host r.overrides r.root file)
        return found.map fun path => .string path.text := by
  unfold venv
  rw [h]
  rfl

/-- **Without a fixed one**, the virtual environment is the one that the tool reports, if it
does. -/
theorem venv_of_viaTool (r : Resolver σ) (file : Option Path) {m t : Memory σ} {e : Environment}
    (hoverride : r.overrides.venvPath.isTruthy = false) (h : r.viaTool m = .ok (some e) t) :
    r.venv file m = .ok (some (.string e.venv)) t := by
  rw [venv_of_no_override r file hoverride, Attempt.bind_of_ok h]
  rfl

/-- The search upward does not touch what is remembered. -/
theorem cache_after_venv (r : Resolver σ) (file : Option Path) (m : Memory σ)
    (h : r.overrides.venvPath.isTruthy = false) :
    ((r.venv file).after m).cache = (r.viaTool.after m).cache := by
  rw [venv_of_no_override r file h]
  refine r.cache_after_viaTool_bind (fun answer => ?_) m
  cases answer with
  | none =>
    refine Attempt.Keeps.bind (fun _ _ _ hst htu => htu.trans hst) (keeps_cache_lift _) ?_
    exact fun found m => rfl
  | some e => exact fun _ => rfl

end LspHost.Resolver
