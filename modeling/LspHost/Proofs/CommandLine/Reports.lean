import LspHost.CommandLine.Serve
import LspHost.Proofs.Config.Load

/-!
# Outcomes of programs

How a program ends and what it prints on its standard output (`Outcome`) depends on its work alone: where
its journal is shown makes no difference (`outcome_reportBare`, `outcome_reportWork`). In a world that
stands still a command without a log file of its own does its work with the configuration that is loaded
there (`outcome_perform`).
-/

namespace LspHost.CommandLine

variable {σ : Type}

/-- How a program ended, and what it printed on its standard output. -/
structure Outcome where
  /-- the exit status, or the fault that ended it -/
  ending : Except Fault Nat
  /-- what went to the standard output -/
  output : String

/-- The outcome that a report tells of. -/
def Report.outcome (r : Report) : Outcome := ⟨r.ending, r.output⟩

theorem Report.ending_outcome (r : Report) : r.outcome.ending = r.ending := rfl

theorem Report.output_outcome (r : Report) : r.outcome.output = r.output := rfl

/-- The outcome of a program whose work ends with a report or with a fault. -/
def Outcome.ofWork : Except Fault Report → Outcome
  | .ok r => r.outcome
  | .error e => ⟨.error e, ""⟩

/-- **Without logging** the outcome is that of the work. -/
theorem outcome_reportBare (act : Act σ Report) (world : σ) :
    (reportBare act world).1.outcome = .ofWork (act.answer { world }) := by
  unfold reportBare Attempt.answer
  cases act { world } <;> rfl

/-- **With logging** the outcome is that of the work, wherever the journal goes. -/
theorem outcome_reportWork (s : Surroundings σ) (before : String) (display : Display) (place : LogPlace)
    (act : Act σ Report) (world : σ) :
    (reportWork s before display place act world).1.outcome = .ofWork (act.answer { world }) := by
  unfold reportWork Attempt.answer
  cases act { world } <;> rfl

section Still

variable {s : Surroundings σ} {W : σ → Prop} {view : LspHost.Surroundings} (hview : s.host.Tells W view)

include hview

/-- **A command** whose log does not go to a file does its work with the configuration. -/
theorem outcome_perform {work : Work σ} {found : Found} {c : Config} {x : Except Fault Report} {world : σ}
    (hworld : W world) (hroot : view.isPresent found.root = .ok true)
    (hload : (Config.load s.host found.root).Yields (Scene.In W) (.ok c)) (hlog : work.log c = .null)
    (hwork : (work.act s found c).Yields (Scene.In W) x) :
    (perform s work found world).1.outcome = .ofWork x := by
  have hopen : (openLog s (work.log c)).Yields (Scene.In W) (.ok .errors) := by
    rw [hlog]
    exact .bind_ok (.of_pure _) (.bind_ok (.of_pure _) (.of_pure _))
  unfold perform
  extract_lets prepare
  have hprepare : prepare.Yields (Scene.In W) (.ok (some (c, .errors))) :=
    (hroot ▸ hview.isPresent found.root).bind_ok (hload.bind_ok (hopen.bind_ok (.of_pure _)))
  obtain ⟨hanswer, hafter⟩ := hprepare { world } hworld
  rw [Attempt.eq_ok_of_answer hanswer]
  exact (outcome_reportWork ..).trans (congrArg Outcome.ofWork (hwork { world := _ } hafter).1)

end Still

end LspHost.CommandLine
