import LspHost.Command
import LspHost.Proofs.Faults

/-!
# How running a command can fail

A command that is a text and can be launched is a failed query, or has written what is no text
(`Command.run_eq_error`); there is nothing else that running it ends with. Only the first is what callers
are told to expect.
-/

namespace LspHost.Command

variable {σ : Type}

/-- What a program wrote is no text. -/
def Unreadable (output errors : ByteArray) : Prop :=
  Text.ofBytes? output = none ∨ Text.ofBytes? errors = none

/-- A launch has just ended, and what the program wrote is no text. -/
def WroteNoText (launch : Launch → Act σ Ending) (scene : Scene σ) : Prop :=
  ∃ request before status output errors,
    launch request before = .ok (.ended status output errors) scene ∧ Unreadable output errors

theorem outputText_eq_error {bytes : ByteArray} {e : Fault} (h : outputText bytes = .error e) :
    e = .undecodable ∧ Text.ofBytes? bytes = none := by
  unfold outputText at h
  split at h
  · cases h
  · next hbytes =>
    cases h
    exact ⟨rfl, hbytes⟩

/-- **What a launch came to** is a failed query at worst, or no text. -/
theorem outcome_eq_error {argv : List String} {ending : Ending} {e : Fault}
    (h : outcome argv ending = .error e) : (∃ query, e = .queryFailed query) ∨
      e = .undecodable ∧ ∃ status output errors, ending = .ended status output errors ∧
        Unreadable output errors := by
  cases ending with
  | refused refusal =>
    cases h
    exact .inl ⟨_, rfl⟩
  | timedOut =>
    cases h
    exact .inl ⟨_, rfl⟩
  | ended status output errors =>
    simp only [outcome] at h
    rcases houtput : outputText output with f | text
    · rw [houtput] at h
      cases h
      obtain ⟨rfl, hnone⟩ := outputText_eq_error houtput
      exact .inr ⟨rfl, status, output, errors, rfl, .inl hnone⟩
    rcases herrors : outputText errors with f | text'
    · rw [houtput, herrors] at h
      cases h
      obtain ⟨rfl, hnone⟩ := outputText_eq_error herrors
      exact .inr ⟨rfl, status, output, errors, rfl, .inr hnone⟩
    rw [houtput, herrors] at h
    simp only [bind, Except.bind] at h
    split at h
    · cases h
    · cases h
      exact .inl ⟨_, rfl⟩

/-- **Running a program**, whose name and directory hold no character that ends names, fails as a query
if at all, unless what the program wrote is no text. -/
theorem run_eq_error {launch : Launch → Act σ Ending} {limit : Option Nat}
    (hlaunch : ∀ request, (launch request).Answers) {program : String} {arguments : List String}
    {directory : Option String}
    (hnames : (program :: arguments).any hasNul = false ∧ directory.any hasNul = false)
    {s t : Scene σ} {e : Fault}
    (h : run launch limit (.string program) arguments directory s = .error e t) :
    (∃ query, e = .queryFailed query) ∨ (e = .undecodable ∧ WroteNoText launch t) := by
  obtain ⟨harguments, hdirectory⟩ := hnames
  rcases Attempt.bind_eq_error h with hnote | ⟨-, u, -, h⟩
  · cases hnote
  simp only [argv?, Value.string?, Option.map_some, harguments, hdirectory, Bool.or_false,
    Bool.false_eq_true, if_false] at h
  rcases Attempt.bind_eq_error h with hfailed | ⟨ending, v, hended, h⟩
  · exact ((hlaunch _).raises (P := fun _ => False) _ _ _ hfailed).elim
  obtain ⟨houtcome, rfl⟩ := Attempt.ofExcept_eq_error h
  refine (outcome_eq_error houtcome).imp_right ?_
  rintro ⟨rfl, status, output, errors, rfl, hunreadable⟩
  exact ⟨rfl, _, u, status, output, errors, hended, hunreadable⟩

theorem isForeign_of_outcome {argv : List String} {ending : Ending} {e : Fault}
    (h : outcome argv ending = .error e) : e.IsForeign := by
  rcases outcome_eq_error h with ⟨query, rfl⟩ | ⟨rfl, -⟩
  · exact nofun
  · exact nofun

theorem raises_run {launch : Launch → Act σ Ending} {limit : Option Nat}
    (h : ∀ request, (launch request).Raises Fault.IsForeign) (command : Value)
    (arguments : List String) (directory : Option String) :
    (run launch limit command arguments directory).Raises Fault.IsForeign := by
  refine .bind (Act.raises_note _ _ _) fun _ => ?_
  split
  · split
    · exact .bind (.throw nofun) fun _ => .bind (h _) fun _ => .ofExcept fun _ => isForeign_of_outcome
    · exact .bind (h _) fun _ => .ofExcept fun _ => isForeign_of_outcome
  · exact .throw nofun

end LspHost.Command
