import LspHost.Environment.Query
import LspHost.Proofs.Path.Inside

/-!
# Interpreters inside environments

A tool that reports a virtual environment and no interpreter leaves it to the layout where the interpreter
is. That place is inside the environment, however the tool spells its path, and it tells the environment
again (`Layout.parent_parent_interpreterOf`): so it is never empty, and different environments never share
an interpreter (`Layout.interpreterOf_inj`).
-/

namespace LspHost

/-- **A tool that answers** with an environment alone is taken at its word. -/
theorem Tool.query_poetry_of_ok {σ : Type} (layout : Layout) {run : Runner σ} {program : Value} {root : Path}
    {s t : Scene σ} {venv : String} (hrun : run program ["env", "info", "-p"] (some root.text) s = .ok venv t)
    (hvenv : venv ≠ "") :
    Tool.poetry.query layout run program root s =
      .ok (some { venv, python := layout.interpreterOf venv, tool := .poetry }) t := by
  have hpython : layout.interpreterOf venv ≠ "" := Path.text_ne_empty _
  refine (Attempt.bind_of_ok hrun _).trans ?_
  simp only [String.isEmpty_iff, hvenv, if_false, Environment.ofPaths?]
  simp [hvenv, hpython]
  rfl

namespace Layout

variable (layout : Layout)

theorem anchor_interpreter : layout.interpreter.anchor = .relative := by
  cases layout <;> decide

theorem length_segments_interpreter : layout.interpreter.segments.length = 2 := by
  cases layout <;> decide +kernel

/-- **The place of an interpreter** is read back from its text. -/
theorem ofText_interpreterOf (venv : String) :
    Path.ofText (layout.interpreterOf venv) = (Path.ofText venv).join layout.interpreter :=
  Path.ofText_text _

/-- **Two segments above its interpreter** is the environment. -/
theorem parent_parent_interpreterOf (venv : String) :
    (Path.ofText (layout.interpreterOf venv)).parent.parent = Path.ofText venv := by
  have hinner : layout.interpreter.anchor = .relative := layout.anchor_interpreter
  have hlength := layout.length_segments_interpreter
  have houter : layout.interpreter.parent.anchor = .relative := hinner
  have hleft : layout.interpreter.parent.parent.anchor = .relative := hinner
  have hone : layout.interpreter.parent.segments.length = 1 := by
    simp [Path.parent, hlength]
  have hnone : layout.interpreter.parent.parent.segments = [] := by
    simp [Path.parent, hlength]
  rw [ofText_interpreterOf, Path.parent_join hinner (List.ne_nil_of_length_pos (by omega)),
    Path.parent_join houter (List.ne_nil_of_length_pos (by omega)),
    Path.join_of_segments_eq_nil hleft hnone]

/-- **Only one environment** has its interpreter at a place. -/
theorem interpreterOf_inj {venv other : String} :
    layout.interpreterOf venv = layout.interpreterOf other ↔ Path.ofText venv = Path.ofText other := by
  constructor
  · intro h
    rw [← layout.parent_parent_interpreterOf venv, h, parent_parent_interpreterOf]
  · intro h
    rw [interpreterOf, h, interpreterOf]

/-- **Outside Windows** an interpreter is in `bin`. -/
theorem segments_ofPlatform {platform : String} (hposix : platform ≠ "win32") (venv : String) :
    (Path.ofText ((ofPlatform platform).interpreterOf venv)).segments =
      (Path.ofText venv).segments ++ ["bin", "python"] := by
  have hbin : (Path.ofText "bin/python").segments = ["bin", "python"] := by decide +kernel
  rw [ofText_interpreterOf, Path.segments_join (anchor_interpreter _), ofPlatform, if_neg hposix,
    interpreter, hbin]

/-- **The interpreter of an environment** outside Windows is `bin/python` inside it, two segments above
which is the environment; so it is never empty, poetry's answer makes a complete environment unless it is
empty, and no two environments share an interpreter. -/
theorem interpreter_lies_inside {platform : String} (hposix : platform ≠ "win32") :
    (∀ venv : String, (Path.ofText ((ofPlatform platform).interpreterOf venv)).segments =
        (Path.ofText venv).segments ++ ["bin", "python"] ∧
      (Path.ofText ((ofPlatform platform).interpreterOf venv)).parent.parent = Path.ofText venv ∧
      (ofPlatform platform).interpreterOf venv ≠ "") ∧
    (∀ (σ : Type) (run : Runner σ) (program : Value) (root : Path) (s t : Scene σ) (venv : String),
      run program ["env", "info", "-p"] (some root.text) s = .ok venv t → venv ≠ "" →
      ∃ e : Environment, Tool.poetry.query (ofPlatform platform) run program root s = .ok (some e) t ∧
        e.IsComplete ∧ e.venv = venv ∧ e.python = (ofPlatform platform).interpreterOf venv ∧
        e.tool = .poetry) ∧
    ∀ venv other : String,
      (ofPlatform platform).interpreterOf venv = (ofPlatform platform).interpreterOf other ↔
        Path.ofText venv = Path.ofText other := by
  refine ⟨fun venv => ⟨segments_ofPlatform hposix venv, parent_parent_interpreterOf _ venv,
    Path.text_ne_empty _⟩, ?_, fun venv other => interpreterOf_inj _⟩
  intro σ run program root s t venv hrun hvenv
  exact ⟨_, Tool.query_poetry_of_ok _ hrun hvenv, ⟨hvenv, Path.text_ne_empty _⟩, rfl, rfl, rfl⟩

/-- **Two spellings of a place** with a blank, a letter beyond ASCII and two slashes in front share an
interpreter, which one slash less does not; and a tool that reports the first is believed. -/
theorem interpreter_lies_inside_spellings :
    (Path.ofText ((ofPlatform "linux").interpreterOf "//srv/./my énv/")).parent.parent =
        Path.ofText "//srv/my énv" ∧
      (ofPlatform "linux").interpreterOf "//srv/./my énv/" =
        (ofPlatform "linux").interpreterOf "//srv//my énv" ∧
      (ofPlatform "linux").interpreterOf "//srv/my énv" ≠
        (ofPlatform "linux").interpreterOf "/srv/my énv" ∧
      ∃ e : Environment, e.IsComplete ∧
        Tool.poetry.query (ofPlatform "linux") (fun _ _ _ => pure "//srv/./my énv/") (.string "poetry")
          (Path.ofText "/w") ⟨(), []⟩ = .ok (some e) ⟨(), []⟩ := by
  have hposix : "linux" ≠ "win32" := by decide
  obtain ⟨hinside, hquery, hshared⟩ := interpreter_lies_inside hposix
  have hsame : Path.ofText "//srv/./my énv/" = Path.ofText "//srv/my énv" := by decide +kernel
  have hspelled : Path.ofText "//srv/./my énv/" = Path.ofText "//srv//my énv" := by decide +kernel
  have hother : Path.ofText "//srv/my énv" ≠ Path.ofText "/srv/my énv" := by decide +kernel
  obtain ⟨e, hanswer, hcomplete, -⟩ := hquery Unit (fun _ _ _ => pure "//srv/./my énv/") (.string "poetry")
    (Path.ofText "/w") ⟨(), []⟩ ⟨(), []⟩ "//srv/./my énv/" rfl (by decide)
  exact ⟨(hinside _).2.1.trans hsame, (hshared _ _).mpr hspelled, fun h => hother ((hshared _ _).mp h),
    e, hcomplete, hanswer⟩

end Layout

end LspHost
