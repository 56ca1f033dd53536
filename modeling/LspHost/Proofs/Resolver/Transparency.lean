import LspHost.Proofs.Resolver.Calls
import LspHost.Proofs.Resolver.Mirroring
import LspHost.Proofs.StillWorld

/-!
# Remembering changes no answer

In a world that stands still a resolver that remembers answers like one that does not. Detection and
query have one answer there, `Resolver.query` itself; so a memory is true to the world when it holds
nothing or that answer (`Resolver.Memory.IsTrue`). Every call keeps it so and answers what it would
answer with nothing remembered (`Resolver.isSettled_perform`), and so does every call of a run.
-/

namespace LspHost

variable {σ α : Type} {W : σ → Prop}

/-! ## Detection and search -/

/-- **The search** has one answer: what is looked at does not change. -/
theorem Search.isSettled_venv {host : Host σ} (h : host.IsStill W) (overrides : Overrides) (root : Path)
    (file : Option Path) : (Search.venv host overrides root file).IsSettled (Scene.In W) :=
  Attempt.isSettled_iff_mirrors.mpr (Search.mirrors_venv h.mirrors overrides root file)

namespace Resolver

variable {r : Resolver σ} (h : r.host.IsStill W)

include h

/-- **Finding and asking the tool** has one answer. -/
theorem isSettled_query : r.query.IsSettled (Scene.In W) :=
  Attempt.isSettled_iff_mirrors.mpr (mirrors_query h.mirrors)

theorem isSettled_searchInterpreter : r.searchInterpreter.IsSettled (Scene.In W) :=
  Attempt.isSettled_iff_mirrors.mpr (mirrors_searchInterpreter h.mirrors)

/-! ## Memories that are true to the world -/

omit h in
/-- A memory that holds nothing, or what the tool of the project answers in the present world. -/
structure Memory.IsTrue (W : σ → Prop) (tool : Except Fault (Option Environment)) (m : Memory σ) :
    Prop where
  /-- the world is the one that stands still -/
  world : Scene.In W m.scene
  /-- what is remembered is the tool's answer -/
  cache : ∀ e, m.cache = some e → tool = .ok (some e)

omit h in
theorem Memory.isTrue_fresh {scene : Scene σ} (hs : Scene.In W scene)
    (tool : Except Fault (Option Environment)) : (Memory.fresh scene).IsTrue W tool :=
  ⟨hs, fun e he => by cases he⟩

variable {tool : Except Fault (Option Environment)}

omit h in
/-- **Asking the tool** from a true memory answers what it answers with nothing remembered, and the
memory stays true: a remembered answer is that answer, and a new one is remembered as it is. -/
theorem viaTool_of_isTrue {m : Memory σ} (hm : m.IsTrue W tool)
    (htool : m.cache = none → r.query.Yields (Scene.In W) tool) :
    r.viaTool.answer m = tool ∧ (r.viaTool.after m).IsTrue W tool := by
  rcases hcache : m.cache with _ | e
  · have hrun := r.viaTool_of_empty hcache
    obtain ⟨hanswer, hafter⟩ := htool hcache m.scene hm.world
    rcases hquery : r.query m.scene with ⟨answer, t⟩ | ⟨f, t⟩
    all_goals rw [hquery] at hrun
    · rw [Attempt.answer_of_ok hquery] at hanswer
      rw [Attempt.after_of_ok hquery] at hafter
      rw [Attempt.answer_of_ok hrun, Attempt.after_of_ok hrun]
      refine ⟨hanswer, hafter, fun e he => ?_⟩
      rw [← hanswer]
      exact congrArg _ he
    · rw [Attempt.answer_of_error hquery] at hanswer
      rw [Attempt.after_of_error hquery] at hafter
      rw [Attempt.answer_of_error hrun, Attempt.after_of_error hrun]
      exact ⟨hanswer, hafter, fun e he => by cases he⟩
  · have hrun := r.viaTool_of_cached hcache
    rw [Attempt.answer_of_ok hrun, Attempt.after_of_ok hrun]
    exact ⟨(hm.cache e hcache).symm, hm⟩

omit h in
theorem yields_viaTool (htool : r.query.Yields (Scene.In W) tool) :
    r.viaTool.Yields (Memory.IsTrue W tool) tool :=
  fun _ hm => viaTool_of_isTrue hm fun _ => htool

omit h in
/-- An invariant of memories that says nothing about the scene but that its world is one of some
worlds. -/
structure Memory.IsWorldly (W : σ → Prop) (I : Memory σ → Prop) : Prop where
  /-- the world is one of them -/
  world : ∀ m, I m → Scene.In W m.scene
  /-- nothing else is said about the scene -/
  scene : ∀ scene m, I m → Scene.In W scene → I { m with scene }

omit h in
theorem Memory.isWorldly_isTrue : Memory.IsWorldly W (Memory.IsTrue (σ := σ) W tool) :=
  ⟨fun _ hm => hm.world, fun _ _ hm hscene => ⟨hscene, hm.cache⟩⟩

section Invariant

variable {I : Memory σ → Prop} (hI : Memory.IsWorldly W I)

include hI

omit h in
/-- An act that is settled is so beside any memory of such an invariant. -/
theorem isSettled_lift {act : Act σ α} (hact : act.IsSettled (Scene.In W)) :
    (lift act).IsSettled I :=
  hact.lift hI.world hI.scene

/-- **The interpreter** is settled if the tool is. -/
theorem isSettled_python (htool : r.viaTool.IsSettled I) : r.python.IsSettled I := by
  refine .bind htool fun answer => ?_
  cases answer with
  | none => exact isSettled_lift hI (isSettled_searchInterpreter h)
  | some e => exact .of_pure _

/-- **The virtual environment** is settled if the tool is. -/
theorem isSettled_venv (htool : r.viaTool.IsSettled I) (file : Option Path) :
    (r.venv file).IsSettled I := by
  unfold venv
  split
  · exact .bind (isSettled_lift hI (Act.isSettled_note W _ _ _)) fun _ => .of_pure _
  refine .bind htool fun answer => ?_
  cases answer with
  | none =>
    exact .bind (isSettled_lift hI (Search.isSettled_venv h r.overrides r.root file)) fun _ =>
      .of_pure _
  | some e => exact .of_pure _

end Invariant

/-- **Resolving** has one answer from all true memories, and keeps them true. -/
theorem isSettled_resolve (htool : r.query.Yields (Scene.In W) tool) (target : Target)
    (file : Option Path) : (r.resolve target file).IsSettled (Memory.IsTrue W tool) := by
  cases target with
  | python =>
    exact .bind (isSettled_python h Memory.isWorldly_isTrue (yields_viaTool htool).isSettled)
      fun _ => .of_pure _
  | venv => exact isSettled_venv h Memory.isWorldly_isTrue (yields_viaTool htool).isSettled file

/-- **Every call** has one answer from all true memories, and keeps them true. -/
theorem isSettled_perform (htool : r.query.Yields (Scene.In W) tool) (call : Call) :
    (r.perform call).IsSettled (Memory.IsTrue W tool) := by
  cases call with
  | resolve target file => exact .bind (isSettled_resolve h htool target file) fun _ => .of_pure _
  | viaTool => exact .bind (yields_viaTool htool).isSettled fun _ => .of_pure _
  | clear => exact ⟨.ok .cleared, fun m hm => ⟨rfl, hm.world, fun e he => by cases he⟩⟩

/-! ## Whole runs -/

/-- **Remembering changes no answer.** In a world that stands still every call of a run answers, or
ends with the fault, that the same call does on a resolver that remembers nothing. So what a call
answers does not depend on which calls were made before it, in which order or how often. -/
theorem answers_of_run {scene fresh : Scene σ} (hs : Scene.In W scene)
    (hfresh : Scene.In W fresh) :
    (∀ calls, (Attempt.history r.perform (Memory.fresh scene) calls).map Event.answer =
      calls.map fun call => (r.perform call).answer (Memory.fresh fresh)) ∧
    ∀ calls others call,
      (r.perform call).answer (Attempt.afterAll r.perform (Memory.fresh scene) calls) =
        (r.perform call).answer (Attempt.afterAll r.perform (Memory.fresh scene) others) := by
  obtain ⟨tool, htool⟩ := isSettled_query h
  have hstep : ∀ call m, Memory.IsTrue W tool m →
      (r.perform call).answer m = (r.perform call).answer (Memory.fresh fresh) ∧
        ((r.perform call).after m).IsTrue W tool := by
    intro call m hm
    obtain ⟨x, hx⟩ := isSettled_perform h htool call
    obtain ⟨hanswer, hafter⟩ := hx m hm
    obtain ⟨hanswer', -⟩ := hx _ (Memory.isTrue_fresh hfresh tool)
    exact ⟨hanswer.trans hanswer'.symm, hafter⟩
  have hstart := Memory.isTrue_fresh hs tool
  have hafter := fun calls =>
    Attempt.afterAll_of_step (fun call m hm => (hstep call m hm).2) hstart calls
  refine ⟨Attempt.answers_history hstep hstart, fun calls others call => ?_⟩
  rw [(hstep call _ (hafter calls)).1, (hstep call _ (hafter others)).1]

omit h

/-- A host of pure functions: a project in `/w` that pipenv manages. -/
def pipenvHost : Host Unit where
  isDirectory := fun path => pure (path.text == "/w")
  isPresent := fun path => pure (path.text == "/w/Pipfile")
  resolve := fun path => pure path
  read := fun path => throw (.refused (.ofCodeFor 2 "No such file or directory" path.text))
  lookup := fun name => pure (if name = .string "pipenv" then some "/bin/pipenv" else none)
  remoteLookup := none
  run := fun _ arguments _ =>
    if arguments = ["--venv"] then pure "/venvs/w"
    else if arguments = ["--py"] then pure "/venvs/w/bin/python"
    else
      throw (.queryFailed { command := "/bin/pipenv" :: arguments, status := some 2, stderr := "" })
  environment := fun _ => pure none

theorem isStill_pipenvHost : pipenvHost.IsStill fun _ => True where
  isDirectory := fun _ => .of_pure _
  isPresent := fun _ => .of_pure _
  resolve := fun _ => .of_pure _
  read := fun _ => .of_throw _
  lookup := fun _ => .of_pure _
  remoteLookup := fun _ hlookup => by cases hlookup
  run := fun _ arguments _ => by
    unfold pipenvHost
    dsimp only
    split
    · exact .of_pure _
    split
    · exact .of_pure _
    · exact .of_throw _
  environment := fun _ => .of_pure _

/-- A run that learns, recalls, forgets and learns again answers like calls made alone. -/
theorem answers_of_pipenv_run :
    (Attempt.history ({ host := pipenvHost, overrides := {}, root := Path.ofText "/w" } :
        Resolver Unit).perform (Memory.fresh { world := () })
      [.resolve .venv none, .viaTool, .clear, .resolve .python none]).map Event.answer =
    [.ok (.place (some (.string "/venvs/w"))),
      .ok (.environment (some ⟨"/venvs/w", "/venvs/w/bin/python", .pipenv⟩)),
      .ok .cleared, .ok (.place (some (.string "/venvs/w/bin/python")))] :=
  ((answers_of_run (r := { host := pipenvHost, overrides := {}, root := Path.ofText "/w" })
    isStill_pipenvHost (show Scene.In (fun _ => True) { world := () } from trivial)
    (show Scene.In (fun _ => True) { world := () } from trivial)).1
    [.resolve .venv none, .viaTool, .clear, .resolve .python none]).trans (by rfl)

end Resolver

end LspHost
