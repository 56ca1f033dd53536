import LspHost.Proofs.Resolver.Calls

/-!
# The remembered answer

The answer that a resolver remembers, over whole runs in a world that may answer differently at
every call. It is always complete (`Resolver.isComplete_cache`), it comes from a query that just
succeeded and goes by being forgotten (`Resolver.cache_change`), and while it is there nothing else
is looked at.
-/

namespace LspHost.Resolver

variable {σ : Type}

/-! ## Where an answer comes from -/

/-- A tool was found and has just reported an environment, all from the scene of a call. -/
def JustReported (r : Resolver σ) (scene : Scene σ) (e : Environment) : Prop :=
  ∃ tool program found reported,
    Tool.detect r.host r.overrides r.root scene = .ok (some (tool, program)) found ∧
      tool.query .bin r.host.run program r.root found = .ok (some e) reported

/-- **An answer of asking** is an answer of the tool's query. -/
theorem query_of_ask {r : Resolver σ} {tool : Tool} {program : Value} {e : Environment}
    {s t : Scene σ} (h : r.ask tool program s = .ok (some e) t) :
    ∃ u, tool.query .bin r.host.run program r.root s = .ok (some e) u := by
  obtain ⟨reply, u, hsettle, hrest⟩ := Attempt.bind_eq_ok h
  rcases reply with query | _ | found
  · obtain ⟨_, _, -, hnone⟩ := Attempt.bind_eq_ok hrest
    cases hnone
  · obtain ⟨_, _, -, hnone⟩ := Attempt.bind_eq_ok hrest
    cases hnone
  · obtain ⟨_, _, -, hsome⟩ := Attempt.bind_eq_ok hrest
    cases hsome
    exact ⟨u, Act.settle_eq_ok hsettle⟩

/-- **An answer comes from a query that just succeeded.** -/
theorem justReported_of_query {r : Resolver σ} {s t : Scene σ} {e : Environment}
    (h : r.query s = .ok (some e) t) : r.JustReported s e := by
  obtain ⟨detected, u, hdetect, hrest⟩ := Attempt.bind_eq_ok h
  rcases detected with _ | ⟨tool, program⟩
  · cases hrest
  · obtain ⟨v, hquery⟩ := query_of_ask hrest
    exact ⟨tool, program, u, v, hdetect, hquery⟩

/-- **A tool reports complete environments only.** -/
theorem isComplete_of_toolQuery {tool : Tool} {layout : Layout} {run : Runner σ} {program : Value}
    {root : Path} {s t : Scene σ} {e : Environment}
    (h : tool.query layout run program root s = .ok (some e) t) : e.IsComplete := by
  cases tool with
  | pipenv =>
    obtain ⟨venv, u, -, hrest⟩ := Attempt.bind_eq_ok h
    obtain ⟨python, v, -, hpair⟩ := Attempt.bind_eq_ok hrest
    injection hpair with hmade
    exact Environment.isComplete_of_ofPaths? hmade
  | poetry =>
    obtain ⟨venv, u, -, hrest⟩ := Attempt.bind_eq_ok h
    by_cases hempty : venv.isEmpty = true
    · simp only [hempty, if_true] at hrest
      cases hrest
    · simp only [hempty, Bool.false_eq_true, if_false] at hrest
      injection hrest with hmade
      exact Environment.isComplete_of_ofPaths? hmade

theorem JustReported.isComplete {r : Resolver σ} {s : Scene σ} {e : Environment}
    (h : r.JustReported s e) : e.IsComplete := by
  obtain ⟨tool, program, found, reported, -, hquery⟩ := h
  exact isComplete_of_toolQuery hquery

/-! ## What a call does to the remembered answer -/

/-- **A call other than forgetting** leaves what is remembered alone or does to it what asking the
tool does. -/
theorem cache_after_perform (r : Resolver σ) {call : Call} (hcall : call ≠ .clear) (m : Memory σ) :
    ((r.perform call).after m).cache = m.cache ∨
      ((r.perform call).after m).cache = (r.viaTool.after m).cache := by
  cases call with
  | resolve target file =>
    simp only [perform, Attempt.after_bind_pure]
    cases target with
    | python =>
      simp only [resolve, Attempt.after_bind_pure]
      exact .inr (r.cache_after_python m)
    | venv =>
      by_cases hoverride : r.overrides.venvPath.isTruthy = true
      · obtain ⟨journal, hvenv⟩ := r.venv_of_override file m hoverride
        rw [resolve, Attempt.after_of_ok hvenv]
        exact .inl rfl
      · exact .inr (r.cache_after_venv file m (by simpa using hoverride))
  | viaTool => exact .inr (by rw [perform, Attempt.after_bind_pure])
  | clear => exact absurd rfl hcall

/-- **Once the tool has answered**, no call ends with a fault. -/
theorem perform_of_viaTool (r : Resolver σ) (call : Call) {m t : Memory σ} {e : Environment}
    (h : r.viaTool m = .ok (some e) t) : ∃ answer, (r.perform call).answer m = .ok answer := by
  cases call with
  | resolve target file =>
    simp only [perform, Attempt.answer_bind_pure]
    cases target with
    | python =>
      simp only [resolve, Attempt.answer_bind_pure]
      rw [Attempt.answer_of_ok (r.python_of_viaTool h)]
      exact ⟨_, rfl⟩
    | venv =>
      simp only [resolve]
      by_cases hoverride : r.overrides.venvPath.isTruthy = true
      · obtain ⟨journal, hvenv⟩ := r.venv_of_override file m hoverride
        rw [Attempt.answer_of_ok hvenv]
        exact ⟨_, rfl⟩
      · rw [Attempt.answer_of_ok (r.venv_of_viaTool file (by simpa using hoverride) h)]
        exact ⟨_, rfl⟩
  | viaTool =>
    simp only [perform, Attempt.answer_bind_pure]
    rw [Attempt.answer_of_ok h]
    exact ⟨_, rfl⟩
  | clear => exact ⟨_, rfl⟩

/-- **The only ways in which what is remembered changes**: from nothing to what a tool has just
reported, and to nothing by being forgotten. -/
theorem cache_change (r : Resolver σ) (call : Call) (m : Memory σ) :
    ((r.perform call).after m).cache = m.cache ∨
      (m.cache = none ∧ call ≠ .clear ∧
        ∃ e, ((r.perform call).after m).cache = some e ∧ r.JustReported m.scene e) ∨
      (call = .clear ∧ ((r.perform call).after m).cache = none) := by
  by_cases hcall : call = .clear
  · subst hcall
    exact .inr (.inr ⟨rfl, rfl⟩)
  rcases r.cache_after_perform hcall m with hsame | htool
  · exact .inl hsame
  rw [htool]
  rcases r.cache_after_viaTool m with hsame | ⟨hcache, e, t, hquery, hlearnt⟩
  · exact .inl hsame
  · rw [Attempt.after_of_ok hlearnt]
    exact .inr (.inl ⟨hcache, hcall, e, rfl, justReported_of_query hquery⟩)

/-- **A call that hears nothing from the tool**, or ends with a fault, leaves nothing remembered
where nothing was. -/
theorem cache_after_of_unanswered (r : Resolver σ) (call : Call) {m : Memory σ}
    (hcache : m.cache = none)
    (h : (∃ f, (r.perform call).answer m = .error f) ∨ ∀ e, r.viaTool.answer m ≠ .ok (some e)) :
    ((r.perform call).after m).cache = none := by
  have hunanswered : ∀ e, r.viaTool.answer m ≠ .ok (some e) := by
    rcases h with ⟨f, hf⟩ | h
    · intro e he
      obtain ⟨answer, hanswer⟩ := r.perform_of_viaTool call (Attempt.eq_ok_of_answer he)
      rw [hf] at hanswer
      cases hanswer
    · exact h
  by_cases hcall : call = .clear
  · subst hcall
    rfl
  rcases r.cache_after_perform hcall m with hsame | htool
  · rw [hsame, hcache]
  rw [htool]
  rcases r.cache_after_viaTool m with hsame | ⟨-, e, t, -, hlearnt⟩
  · rw [hsame, hcache]
  · exact absurd (Attempt.answer_of_ok hlearnt) (hunanswered e)

/-- **What is remembered is complete**, after every run. -/
theorem isComplete_cache (r : Resolver σ) (scene : Scene σ) (calls : List Call) :
    ∀ e, (Attempt.afterAll r.perform (Memory.fresh scene) calls).cache = some e →
      e.IsComplete := by
  refine Attempt.afterAll_of_step
    (P := fun m : Memory σ => ∀ e, m.cache = some e → e.IsComplete) ?_ ?_ calls
  · intro call m hm e he
    rcases r.cache_change call m with hsame | ⟨-, -, e', hnew, hreported⟩ | ⟨-, hnone⟩
    · exact hm e (hsame ▸ he)
    · rw [hnew] at he
      cases he
      exact hreported.isComplete
    · rw [hnone] at he
      cases he
  · intro e he
    cases he

/-! ## Whole runs -/

/-- **The remembered answer over whole runs.** Whatever was called before in a world of any kind,
and whatever is called next: what is remembered is complete; it changes only to what a tool has just
reported where nothing was remembered, or to nothing when it is forgotten; while it is there it is
the answer, on any host at all, in an unchanged world; and a call that hears nothing from the tool
or ends with a fault adds nothing to an empty memory. -/
theorem cache_of_run (r : Resolver σ) (scene : Scene σ) (calls : List Call) (call : Call) :
    let m := Attempt.afterAll r.perform (Memory.fresh scene) calls
    let m' := (r.perform call).after m
    (∀ e, m.cache = some e → e.venv ≠ "" ∧ e.python ≠ "") ∧
    (m'.cache = m.cache ∨
      (m.cache = none ∧ call ≠ .clear ∧ ∃ e, m'.cache = some e ∧ r.JustReported m.scene e) ∨
      (call = .clear ∧ m'.cache = none)) ∧
    (∀ e, m.cache = some e → ∀ (host : Host σ) (file : Option Path),
      let anywhere := { r with host }
      anywhere.viaTool m = .ok (some e) m ∧
      anywhere.resolve .python file m = .ok (some (.string e.python)) m ∧
      if r.overrides.venvPath.isTruthy then
        ∃ journal, anywhere.resolve .venv file m =
          .ok (some r.overrides.venvPath) { m with scene := { m.scene with journal } }
      else anywhere.resolve .venv file m = .ok (some (.string e.venv)) m) ∧
    (m.cache = none →
      (∃ f, (r.perform call).answer m = .error f) ∨ (∀ e, r.viaTool.answer m ≠ .ok (some e)) →
      m'.cache = none) := by
  intro m m'
  refine ⟨r.isComplete_cache scene calls, r.cache_change call m, ?_,
    fun hcache h => r.cache_after_of_unanswered call hcache h⟩
  intro e he host file anywhere
  have hrecalled : anywhere.viaTool m = .ok (some e) m := anywhere.viaTool_of_cached he
  refine ⟨hrecalled, ?_, ?_⟩
  · simp only [resolve]
    rw [Attempt.bind_of_ok (anywhere.python_of_viaTool hrecalled)]
    rfl
  · split
    · next hoverride => exact anywhere.venv_of_override file m hoverride
    · next hoverride =>
      exact anywhere.venv_of_viaTool file (by simpa using hoverride) hrecalled

end LspHost.Resolver
