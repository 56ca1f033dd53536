import LspHost.Config
import LspHost.Proofs.Resolver.Endings

/-!
# What is fixed for a resolver

A virtual environment or an interpreter command that is empty fixes nothing, like one that is not given, so
a resolver cannot tell the two apart (`Resolver.resolve_congr`). Hence a configuration that fixes a virtual
environment and an interpreter command and nothing else makes a resolver with the answers of one that is
given the two as they are (`Config.FixesOnly.resolve_eq`).
-/

namespace LspHost

variable {σ : Type}

/-! ## What a resolver looks at -/

/-- **It makes no difference** how it is said that no virtual environment or no interpreter command is
fixed. -/
theorem Resolver.resolve_congr (host : Host σ) (root : Path) (o : Overrides) {venvPath pythonCommand : Value}
    (hvenvPath : venvPath.given? = o.venvPath.given?)
    (hpythonCommand : pythonCommand.orElse (.string "python") =
      o.pythonCommand.orElse (.string "python")) :
    (Resolver.mk host { o with venvPath, pythonCommand } root).resolve =
      (Resolver.mk host o root).resolve := by
  set r' := Resolver.mk host { o with venvPath, pythonCommand } root
  set r := Resolver.mk host o root
  have hviaTool : r'.viaTool = r.viaTool := rfl
  have hinterpreter : r'.searchInterpreter = r.searchInterpreter := by
    unfold searchInterpreter
    dsimp only [r', r]
    rw [hpythonCommand]
  have hpython : r'.python = r.python := by
    unfold python
    rw [hviaTool, hinterpreter]
  have hvenv : ∀ file, r'.venv file = r.venv file := by
    intro file
    by_cases hgiven : venvPath.isTruthy = true
    · have heq : r'.overrides.venvPath = r.overrides.venvPath := by
        rw [Value.given?, if_pos hgiven, Value.given?] at hvenvPath
        split at hvenvPath
        · exact Option.some.inj hvenvPath
        · cases hvenvPath
      unfold venv
      rw [heq, hviaTool]
      rfl
    · have hgiven' : o.venvPath.isTruthy = false := by
        rw [Value.given?, if_neg hgiven, Value.given?] at hvenvPath
        split at hvenvPath
        · cases hvenvPath
        · next hfalse => exact Bool.eq_false_iff.mpr hfalse
      rw [venv_of_no_override r' file (Bool.eq_false_iff.mpr hgiven),
        venv_of_no_override r file hgiven', hviaTool]
      rfl
  funext target file
  cases target with
  | python =>
    unfold resolve
    rw [hpython]
  | venv => exact hvenv file

/-! ## What a configuration fixes -/

namespace Value

theorem given?_orElse_null (value : Value) : (value.orElse .null).given? = value.given? := by
  unfold orElse
  split
  · rfl
  · next hfalse => rw [given?, given?, if_neg hfalse, if_neg (by decide)]

theorem orElse_orElse (value other : Value) : (value.orElse other).orElse other = value.orElse other := by
  by_cases htrue : value.isTruthy = true
  · simp only [orElse, if_pos htrue]
  · simp only [orElse, if_neg htrue, ite_self]

end Value

namespace Config

/-- The section about the interpreter fixes a virtual environment and an interpreter command and nothing
else. Either may be empty, which fixes nothing. -/
structure FixesOnly (c : Config) (venvPath pythonCommand : String) : Prop where
  /-- the virtual environment -/
  venvPath : c.value .venvPath = .string venvPath ∨ venvPath = "" ∧ c.value .venvPath = .null
  /-- the interpreter command -/
  pythonCommand : c.value .pythonCommand = .string pythonCommand
  /-- the other settings of the section are at their defaults -/
  others : ∀ setting : Setting, setting.group = .python → setting ≠ .venvPath →
    setting ≠ .pythonCommand → c.value setting = setting.default

instance (c : Config) (venvPath pythonCommand : String) :
    Decidable (c.FixesOnly venvPath pythonCommand) :=
  decidable_of_iff
    ((c.value .venvPath = .string venvPath ∨ venvPath = "" ∧ c.value .venvPath = .null) ∧
      c.value .pythonCommand = .string pythonCommand ∧
      ∀ setting ∈ Setting.all, setting.group = .python → setting ≠ .venvPath →
        setting ≠ .pythonCommand → c.value setting = setting.default)
    ⟨fun h => ⟨h.1, h.2.1, fun setting => h.2.2 setting (Setting.mem_all setting)⟩,
      fun h => ⟨h.venvPath, h.pythonCommand, fun setting _ => h.others setting⟩⟩

variable {c : Config} {venvPath pythonCommand : String} (h : c.FixesOnly venvPath pythonCommand)

include h

theorem FixesOnly.isTextual_venvPath : c.overrides.venvPath.IsTextual := by
  show ((c.value .venvPath).orElse .null).IsTextual
  rcases h.venvPath with hfixed | ⟨-, hnone⟩
  · rw [hfixed]
    unfold Value.orElse
    split
    · exact .inr ⟨venvPath, rfl⟩
    · exact .inl rfl
  · rw [hnone]
    exact .inl rfl

/-- **The configuration and the switches** that fix the same make resolvers that answer the same. -/
theorem FixesOnly.resolve_eq (host : Host σ) (root : Path) :
    (Resolver.mk host c.overrides root).resolve =
      (Resolver.mk host { venvPath := .string venvPath, pythonCommand := .string pythonCommand }
        root).resolve := by
  have hoverrides : c.overrides =
      { ({ venvPath := .string venvPath, pythonCommand := .string pythonCommand } : Overrides) with
        venvPath := (c.value .venvPath).orElse .null
        pythonCommand := (c.value .pythonCommand).orElse (.string "python") } := by
    unfold overrides
    rw [h.others .venvDirectory rfl (by decide) (by decide),
      h.others .pipenvExecutable rfl (by decide) (by decide),
      h.others .poetryExecutable rfl (by decide) (by decide),
      h.others .preferRemote rfl (by decide) (by decide)]
    rfl
  rw [hoverrides]
  refine Resolver.resolve_congr host root _ ?_ ?_
  · rw [Value.given?_orElse_null]
    rcases h.venvPath with hfixed | ⟨rfl, hnone⟩
    · rw [hfixed]
    · rw [hnone]
      rfl
  · rw [h.pythonCommand, Value.orElse_orElse]

end Config

end LspHost
