import LspHost.Proofs.CommandLine.Reports
import LspHost.Proofs.Json.Forms
import LspHost.Proofs.Resolver.Endings
import LspHost.Proofs.Resolver.Transparency
import LspHost.Proofs.Session.Configuration

/-!
# What the programs print of their answers

In a world that stands still every question to a resolver has one answer, in whatever order questions are
asked, and the work of each program is what is made of these answers: `yields_resolveProject`,
`yields_resolveCommand` and `yields_settingsCommand`. Answers that are texts can always be printed
(`Answers.exists_text`).
-/

namespace LspHost

variable {σ : Type} {W : σ → Prop}

/-- What a resolver with nothing remembered answers to a question. -/
def Resolver.answerAt (r : Resolver σ) (file : Option Path) (scene : Scene σ) (target : Target) :
    Except Fault (Option Value) :=
  (r.resolve target file).answer (.fresh scene)

namespace CommandLine

/-! ## Answers to several questions -/

/-- The answers to several questions, up to the first fault. -/
def findEach (answer : Target → Except Fault (Option Value)) (targets : List Target) :
    Except Fault Answers :=
  targets.mapM fun target => do return (target, ← answer target)

/-- The answers are texts where there are any. -/
def Answers.AreTexts (answers : Answers) : Prop :=
  ∀ entry ∈ answers, ∀ value, entry.2 = some value → ∃ text, value = .string text

theorem findEach_cons (answer : Target → Except Fault (Option Value)) (target : Target)
    (rest : List Target) :
    findEach answer (target :: rest) = (do
      let found ← answer target
      let others ← findEach answer rest
      return (target, found) :: others) := by
  rw [findEach, List.mapM_cons]
  cases answer target <;> rfl

/-- **Texts** are found where every answer is one. -/
theorem areTexts_of_findEach {answer : Target → Except Fault (Option Value)}
    (htexts : ∀ target value, answer target = .ok (some value) → ∃ text, value = .string text)
    {targets : List Target} {answers : Answers} (h : findEach answer targets = .ok answers) :
    answers.AreTexts := by
  induction targets generalizing answers with
  | nil =>
    cases h
    exact nofun
  | cons target rest ih =>
    rw [findEach_cons] at h
    obtain ⟨found, hfound, h⟩ := exists_of_bind_eq_ok h
    obtain ⟨others, hothers, h⟩ := exists_of_bind_eq_ok h
    cases h
    intro entry hentry value hvalue
    rcases List.mem_cons.mp hentry with rfl | hentry
    · exact htexts target value (hfound.trans (congrArg Except.ok hvalue))
    · exact ih hothers entry hentry value hvalue

/-- **All of it is found** just where every answer is a text that is not empty. -/
theorem exists_areComplete_iff {answer : Target → Except Fault (Option Value)}
    (htexts : ∀ target value, answer target = .ok (some value) → ∃ text, value = .string text)
    (targets : List Target) :
    (∃ answers, findEach answer targets = .ok answers ∧ answers.areComplete = true) ↔
      ∀ target ∈ targets, ∃ path, answer target = .ok (some (.string path)) ∧ path ≠ "" := by
  induction targets with
  | nil => exact ⟨fun _ => nofun, fun _ => ⟨[], rfl, rfl⟩⟩
  | cons target rest ih =>
    rw [List.forall_mem_cons, ← ih, findEach_cons]
    constructor
    · rintro ⟨answers, h, hcomplete⟩
      obtain ⟨found, hfound, h⟩ := exists_of_bind_eq_ok h
      obtain ⟨others, hothers, h⟩ := exists_of_bind_eq_ok h
      cases h
      obtain ⟨hfirst, hrest⟩ : (found.bind Value.given?).isSome = true ∧
          others.areComplete = true := by
        simpa [Answers.areComplete] using hcomplete
      refine ⟨?_, others, hothers, hrest⟩
      cases found with
      | none => cases hfirst
      | some value =>
        obtain ⟨path, rfl⟩ := htexts target value hfound
        refine ⟨path, hfound, ?_⟩
        rintro rfl
        cases hfirst
    · rintro ⟨⟨path, hpath, hne⟩, others, hothers, hrest⟩
      have hgiven : (Value.string path).given? = some (.string path) := by
        simp [Value.given?, Value.isTruthy, hne]
      refine ⟨(target, some (.string path)) :: others, by rw [hpath, hothers]; rfl, ?_⟩
      simpa [Answers.areComplete, hgiven] using hrest

/-! ## Texts can be printed -/

theorem exists_foundText {found : Option Value}
    (h : ∀ value, found = some value → ∃ text, value = .string text) :
    ∃ text, foundText found = .ok text := by
  cases found with
  | none => exact ⟨_, rfl⟩
  | some value =>
    obtain ⟨text, rfl⟩ := h value rfl
    by_cases hempty : text = ""
    · rw [hempty]
      exact ⟨_, rfl⟩
    · refine ⟨text, ?_⟩
      simp [foundText, Value.given?, Value.isTruthy, Value.write_string, hempty]

namespace Answers

/-- **Texts** are shown to a reader one a line. -/
theorem AreTexts.exists_lines {answers : Answers} (h : answers.AreTexts) :
    ∃ lines : List String, answers.lines = (lines, none) ∧ lines.length = answers.length := by
  induction answers with
  | nil => exact ⟨[], rfl, rfl⟩
  | cons entry rest ih =>
    obtain ⟨hentry, hrest⟩ := List.forall_mem_cons.mp h
    obtain ⟨text, htext⟩ := exists_foundText hentry
    obtain ⟨lines, hlines, hlength⟩ := ih hrest
    refine ⟨(entry.1.name ++ ": " ++ text) :: lines, ?_, congrArg (· + 1) hlength⟩
    simp only [Answers.lines, htext, hlines]

/-- **Texts** have a JSON form. -/
theorem AreTexts.exists_json {answers : Answers} (h : answers.AreTexts) :
    ∃ text, answers.json = .ok text := by
  show Json.HasForm false 0 (.table _)
  refine Json.hasForm_table_iff.mpr ⟨by decide, fun entry hentry => ?_⟩
  obtain ⟨⟨target, found⟩, hmem, rfl⟩ := List.mem_map.mp hentry
  cases found with
  | none => exact ⟨_, rfl⟩
  | some value =>
    obtain ⟨text, rfl⟩ := h _ hmem value rfl
    exact .of_string _ _ text

/-- **Texts** can be printed in either form. -/
theorem AreTexts.exists_text {answers : Answers} (h : answers.AreTexts) (json : Bool) :
    ∃ text, answers.text json = .ok text := by
  cases json with
  | true => exact h.exists_json
  | false =>
    obtain ⟨lines, hlines, -⟩ := h.exists_lines
    exact ⟨_, by rw [Answers.text, hlines]; rfl⟩

end Answers

/-- **Lines that are ended** are lines with breaks between them and one at the end. -/
theorem join_ended_lines {lines : List String} (h : lines ≠ []) :
    String.join (lines.map (· ++ "\n")) = "\n".intercalate lines ++ "\n" := by
  induction lines with
  | nil => exact absurd rfl h
  | cons line rest ih =>
    cases rest with
    | nil => simp
    | cons next rest =>
      rw [List.map_cons, String.join_cons, ih (by simp), String.intercalate_cons_cons]
      simp only [String.append_assoc]

/-! ## The work of the programs -/

/-- **What is done with a memory of its own** answers in a world that stands still what it answers where
nothing is remembered. -/
theorem yields_freshly {α : Type} {tool : Except Fault (Option Environment)} {run : Resolver.Run σ α}
    {x : Except Fault α} (h : run.Yields (Resolver.Memory.IsTrue W tool) x) :
    (freshly run).Yields (Scene.In W) x := by
  intro scene hscene
  obtain ⟨hanswer, hafter⟩ := h (.fresh scene) (Resolver.Memory.isTrue_fresh hscene tool)
  have hworld := hafter.world
  rcases hrun : run (.fresh scene) with ⟨a, m⟩ | ⟨e, m⟩
  · have hfreshly : freshly run scene = .ok a m.scene := by
      unfold freshly
      rw [← Resolver.Memory.fresh, hrun]
    rw [Attempt.answer_of_ok hrun] at hanswer
    rw [Attempt.after_of_ok hrun] at hworld
    rw [Attempt.answer_of_ok hfreshly, Attempt.after_of_ok hfreshly]
    exact ⟨hanswer, hworld⟩
  · have hfreshly : freshly run scene = .error e m.scene := by
      unfold freshly
      rw [← Resolver.Memory.fresh, hrun]
    rw [Attempt.answer_of_error hrun] at hanswer
    rw [Attempt.after_of_error hrun] at hworld
    rw [Attempt.answer_of_error hfreshly, Attempt.after_of_error hfreshly]
    exact ⟨hanswer, hworld⟩

/-- **Several questions** in a row are answered like each of them alone. -/
theorem yields_resolveEach {r : Resolver σ} (h : r.host.IsStill W) {scene : Scene σ}
    (hscene : Scene.In W scene) (file : Option Path) (targets : List Target) :
    (freshly (resolveEach r file targets)).Yields (Scene.In W)
      (findEach (r.answerAt file scene) targets) := by
  obtain ⟨tool, htool⟩ := Resolver.isSettled_query h
  have hresolve := fun target => (Resolver.isSettled_resolve h htool target file).yields
    (Resolver.Memory.isTrue_fresh hscene tool)
  exact yields_freshly (.mapM (fun target => (hresolve target).bind fun found _ =>
    .of_pure (target, found)) targets)

theorem targets_ne_nil {found : Found} {asked : List Target} (h : targets found = .ok asked) :
    asked ≠ [] := by
  unfold targets at h
  split at h
  · cases h
    exact List.cons_ne_nil _ _
  · split at h
    · cases h
      exact List.cons_ne_nil _ _
    · cases h

theorem length_findEach {answer : Target → Except Fault (Option Value)} {targets : List Target}
    {answers : Answers} (h : findEach answer targets = .ok answers) :
    answers.length = targets.length := by
  induction targets generalizing answers with
  | nil =>
    cases h
    rfl
  | cons target rest ih =>
    rw [findEach_cons] at h
    obtain ⟨found, -, h⟩ := exists_of_bind_eq_ok h
    obtain ⟨others, hothers, h⟩ := exists_of_bind_eq_ok h
    cases h
    exact congrArg (· + 1) (ih hothers)

/-- What the switches of the resolving program fix. -/
def Found.overrides (f : Found) : Overrides where
  venvPath := ((f.argument? "--venv-override").map Value.string).getD .null
  pythonCommand := .string ((f.argument? "--python-command").getD "python")

section Still

variable {s : Surroundings σ} (h : s.host.IsStill W) {scene : Scene σ} (hscene : Scene.In W scene)

include h hscene

/-- **The resolving program** prints all answers. -/
theorem yields_resolveProject {view : LspHost.Surroundings} (hview : s.host.Tells W view) {found : Found}
    {root : Path} (hroot : view.isPresent found.root = .ok true)
    (hresolve : view.resolve found.root = .ok root) :
    let r : Resolver σ := { host := s.host, overrides := found.overrides, root }
    (resolveProject s found).Yields (Scene.In W) (do
      let answers ← findEach (r.answerAt found.file? scene) Target.all
      let text ← answers.text (found.has "--json")
      return { ending := .ok 0, output := text ++ "\n" }) := by
  intro r
  refine (hroot ▸ hview.isPresent found.root).bind_ok ?_
  refine (hresolve ▸ hview.resolve found.root).bind_ok ?_
  refine (yields_resolveEach (r := r) h hscene found.file? Target.all).bind fun answers _ => ?_
  exact (Attempt.Yields.of_ofExcept _).bind fun text _ => .of_pure _

/-- **The command that resolves** prints the answers that are asked for. -/
theorem yields_resolveCommand {found : Found} {c : Config}
    (htexts : ∀ target value, (resolverOf s c).answerAt found.file? scene target = .ok (some value) →
      ∃ text, value = .string text) :
    (resolveCommand s found c).Yields (Scene.In W) (do
      let asked ← targets found
      let answers ← findEach ((resolverOf s c).answerAt found.file? scene) asked
      let text ← answers.text (found.has "--json")
      return { ending := .ok (if answers.areComplete then 0 else 1), output := text ++ "\n" }) := by
  refine (Attempt.Yields.of_ofExcept _).bind fun asked hasked => ?_
  refine (yields_resolveEach (r := resolverOf s c) h hscene found.file? asked).bind
    fun answers hanswers => ?_
  have htext := areTexts_of_findEach htexts hanswers
  by_cases hjson : found.has "--json" = true
  · obtain ⟨text, hprinted⟩ := htext.exists_json
    rw [if_pos hjson, hjson, hprinted]
    have hshown : answers.text true = .ok text := hprinted
    rw [hshown]
    exact .of_pure _
  · obtain ⟨lines, hlines, hlength⟩ := htext.exists_lines
    have hne : lines ≠ [] := by
      rw [← List.length_pos_iff, hlength, length_findEach hanswers, List.length_pos_iff]
      exact targets_ne_nil hasked
    have hshown : answers.text false = .ok ("\n".intercalate lines) := by
      rw [Answers.text, hlines]
      rfl
    rw [if_neg hjson, Bool.eq_false_iff.mpr hjson, hshown, hlines]
    dsimp only
    rw [join_ended_lines hne]
    exact .of_pure _

/-- **The command that shows the settings** prints those that report the answers. -/
theorem yields_settingsCommand {found : Found} {c : Config} :
    let answer := (resolverOf s c).answerAt found.file? scene
    (settingsCommand s found c).Yields (Scene.In W) (do
      let python ← answer .python
      let venv ← answer .venv
      let text ← Json.prettySorted (Snapshot.nested c python venv)
      return { ending := .ok 0, output := text ++ "\n" }) := by
  intro answer
  obtain ⟨tool, htool⟩ := Resolver.isSettled_query (r := resolverOf s c) h
  obtain ⟨python, hpython⟩ := Resolver.isSettled_python (r := resolverOf s c) h
    Resolver.Memory.isWorldly_isTrue (Resolver.yields_viaTool htool).isSettled
  have hvenv := (Resolver.isSettled_resolve (r := resolverOf s c) h htool .venv found.file?).yields
    (Resolver.Memory.isTrue_fresh hscene tool)
  have htake : (freshly (Snapshot.take c (resolverOf s c) found.file?)).Yields (Scene.In W) (do
      let python ← python
      let venv ← answer .venv
      return (python.getD "", Snapshot.reporting c (python.map .string) venv)) := by
    rw [Snapshot.take_eq]
    exact yields_freshly (hpython.bind fun python _ => hvenv.bind fun venv _ => .of_pure _)
  have hanswer : answer .python = python.map (Option.map .string) := by
    rw [← (hpython (.fresh scene) (Resolver.Memory.isTrue_fresh hscene tool)).1]
    exact Attempt.answer_bind_pure _ _ _
  rw [hanswer]
  rcases python with e | python
  · exact htake.bind_error
  rcases hfound : answer .venv with e | venv
  all_goals rw [hfound] at htake
  · exact htake.bind_error
  · refine htake.bind_ok ?_
    dsimp only
    rw [Snapshot.nest_reporting]
    refine .bind_ok (.of_pure _) ?_
    exact (Attempt.Yields.of_ofExcept _).bind fun text _ => .of_pure _

end Still

end CommandLine

end LspHost
