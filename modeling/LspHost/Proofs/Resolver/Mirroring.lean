import LspHost.Environment.Resolver
import LspHost.Proofs.Mirroring
import LspHost.Settings.Snapshot

/-!
# Resolvers on mirrored hosts

A resolver sees its surroundings through the operations of its host alone, so resolvers on mirrored
hosts mirror one another: with the same remembered they answer the same and remember the same
(`Resolver.mirrors_python`, `Resolver.mirrors_venv`, `Snapshot.mirrors_take`).
-/

namespace LspHost

variable {σ σ' α : Type} {R : Scene σ → Scene σ' → Prop}

section Hosts

variable {host : Host σ} {host' : Host σ'} (h : host.Mirrors R host')

include h

/-! ## Detection and query -/

theorem Tool.mirrors_locate (tool : Tool) (override : Value) :
    Attempt.Mirrors R (tool.locate override host.lookup) (tool.locate override host'.lookup) := by
  unfold Tool.locate
  split
  · exact .of_pure _
  · exact .bind (h.lookup _) fun found => .of_pure _

theorem Tool.mirrors_ofProject? (tool : Tool) (overrides : Overrides) (root : Path) :
    Attempt.Mirrors R (tool.ofProject? host overrides root)
      (tool.ofProject? host' overrides root) := by
  refine .bind (Tool.mirrors_locate h tool _) fun program => ?_
  cases program with
  | none => exact .bind (h.note _ _ _) fun _ => .of_pure _
  | some program =>
    refine .bind (h.isPresent _) fun isThere => ?_
    cases isThere
    · exact .of_pure _
    · exact .of_pure _

theorem Tool.mirrors_detectAmong (overrides : Overrides) (root : Path) (tools : List Tool) :
    Attempt.Mirrors R (Tool.detectAmong host overrides root tools)
      (Tool.detectAmong host' overrides root tools) := by
  induction tools with
  | nil => exact .of_pure _
  | cons tool rest ih =>
    refine .bind (tool.mirrors_ofProject? h overrides root) fun program => ?_
    cases program with
    | none => exact ih
    | some program => exact .bind (h.note _ _ _) fun _ => .of_pure _

theorem Tool.mirrors_query (tool : Tool) (layout : Layout) (program : Value) (root : Path) :
    Attempt.Mirrors R (tool.query layout host.run program root)
      (tool.query layout host'.run program root) := by
  cases tool with
  | pipenv => exact .bind (h.run _ _ _) fun venv => .bind (h.run _ _ _) fun python => .of_pure _
  | poetry =>
    refine .bind (h.run _ _ _) fun venv => ?_
    split
    · exact .of_pure _
    · exact .of_pure _

/-! ## The search upward -/

theorem Search.mirrors_firstDirectory (paths : List Path) :
    Attempt.Mirrors R (firstDirectory host paths) (firstDirectory host' paths) := by
  induction paths with
  | nil => exact .of_pure _
  | cons path rest ih =>
    refine .bind (h.isDirectory path) fun isThere => ?_
    cases isThere
    · exact ih
    · exact .of_pure _

theorem Search.mirrors_start (root : Path) (file : Option Path) :
    Attempt.Mirrors R (start host root file) (start host' root file) := by
  cases file with
  | none => exact .of_pure _
  | some file =>
    refine .bind (h.isDirectory _) fun isThere => ?_
    cases isThere
    · exact .of_pure _
    · exact .of_pure _

theorem Search.mirrors_upwardAmong (start : Path) (names : List Value) :
    Attempt.Mirrors R (upwardAmong host start names) (upwardAmong host' start names) := by
  induction names with
  | nil => exact .of_pure _
  | cons name rest ih =>
    unfold upwardAmong
    split
    · refine .bind (Search.mirrors_firstDirectory h _) fun found => ?_
      cases found with
      | none => exact ih
      | some found => exact .bind (h.note _ _ _) fun _ => .of_pure _
    · exact .of_throw _

theorem Search.mirrors_venv (overrides : Overrides) (root : Path) (file : Option Path) :
    Attempt.Mirrors R (venv host overrides root file) (venv host' overrides root file) :=
  .bind (Search.mirrors_start h root file) fun start =>
    Search.mirrors_upwardAmong h start (names overrides)

end Hosts

/-! ## Resolvers -/

namespace Resolver

/-- Related scenes, with the same remembered. -/
structure Memory.Mirrors (R : Scene σ → Scene σ' → Prop) (m : Memory σ) (m' : Memory σ') : Prop where
  /-- the scenes are related -/
  scene : R m.scene m'.scene
  /-- the same is remembered -/
  cache : m.cache = m'.cache

theorem mirrors_lift {act : Act σ α} {act' : Act σ' α} (h : Attempt.Mirrors R act act') :
    Attempt.Mirrors (Memory.Mirrors R) (lift act) (lift act') :=
  .lift (l := Memory.sceneLens) (k := Memory.sceneLens) (fun _ _ hm => hm.scene)
    (fun _ _ _ _ hm hscene => ⟨hscene, hm.cache⟩) h

/-- A resolver on another host. -/
def on (r : Resolver σ) (host : Host σ') : Resolver σ' :=
  { host, overrides := r.overrides, root := r.root }

variable {r : Resolver σ} {host' : Host σ'} (h : r.host.Mirrors R host')

include h

theorem mirrors_ask (tool : Tool) (program : Value) :
    Attempt.Mirrors R (r.ask tool program) ((r.on host').ask tool program) := by
  refine .bind (Act.mirrors_settle (tool.mirrors_query h .bin program r.root)) fun reply => ?_
  rcases reply with query | _ | e
  · exact .bind (h.note _ _ _) fun _ => .of_pure _
  · exact .bind (h.note _ _ _) fun _ => .of_pure _
  · exact .bind (h.note _ _ _) fun _ => .of_pure _

theorem mirrors_query : Attempt.Mirrors R r.query (r.on host').query := by
  refine .bind (Tool.mirrors_detectAmong h r.overrides r.root Tool.all) fun detected => ?_
  rcases detected with _ | ⟨tool, program⟩
  · exact .of_pure _
  · exact mirrors_ask h tool program

/-- **Asking the tool** is mirrored: what is remembered is the same, and so is what is learnt. -/
theorem mirrors_viaTool :
    Attempt.Mirrors (Memory.Mirrors R) r.viaTool (r.on host').viaTool := by
  refine .get_bind fun m m' hm => ?_
  rw [← hm.cache]
  cases m.cache with
  | some e => exact .of_pure _
  | none =>
    refine .bind (mirrors_lift (mirrors_query h)) fun answer => ?_
    cases answer with
    | none => exact .of_pure _
    | some e =>
      exact .bind (.of_modify fun _ _ hm => ⟨hm.scene, rfl⟩) fun _ => .of_pure _

theorem mirrors_searchInterpreter :
    Attempt.Mirrors R r.searchInterpreter (r.on host').searchInterpreter := by
  have hremote := h.remoteLookup
  unfold searchInterpreter on
  dsimp only
  generalize r.host.remoteLookup = remote at hremote ⊢
  generalize host'.remoteLookup = remote' at hremote ⊢
  cases hremote with
  | none => cases r.overrides.preferRemote.isTruthy <;> exact h.lookup _
  | some hlookup =>
    cases r.overrides.preferRemote.isTruthy
    · exact h.lookup _
    · exact hlookup _

/-- **The interpreter** is the same on mirrored hosts. -/
theorem mirrors_python : Attempt.Mirrors (Memory.Mirrors R) r.python (r.on host').python := by
  refine .bind (mirrors_viaTool h) fun answer => ?_
  cases answer with
  | none => exact mirrors_lift (mirrors_searchInterpreter h)
  | some e => exact .of_pure _

/-- **The virtual environment** is the same on mirrored hosts. -/
theorem mirrors_venv (file : Option Path) :
    Attempt.Mirrors (Memory.Mirrors R) (r.venv file) ((r.on host').venv file) := by
  unfold venv
  change Attempt.Mirrors _ _ (if r.overrides.venvPath.isTruthy then _ else _)
  split
  · exact .bind (mirrors_lift (h.note _ _ _)) fun _ => .of_pure _
  refine .bind (mirrors_viaTool h) fun answer => ?_
  cases answer with
  | none =>
    exact .bind (mirrors_lift (Search.mirrors_venv h r.overrides r.root file)) fun _ => .of_pure _
  | some e => exact .of_pure _

/-- **Every answer** is the same on mirrored hosts. -/
theorem mirrors_resolve (target : Target) (file : Option Path) :
    Attempt.Mirrors (Memory.Mirrors R) (r.resolve target file) ((r.on host').resolve target file) := by
  cases target with
  | python => exact .bind (mirrors_python h) fun _ => .of_pure _
  | venv => exact mirrors_venv h file

/-- **The settings of a moment** are the same on mirrored hosts. -/
theorem mirrors_take (c : Config) (file : Option Path) :
    Attempt.Mirrors (Memory.Mirrors R) (Snapshot.take c r file)
      (Snapshot.take c (r.on host') file) :=
  .bind (mirrors_python h) fun _ => .bind (mirrors_venv h file) fun _ => .of_pure _

end Resolver

end LspHost
