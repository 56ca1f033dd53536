import LspHost.Environment.Resolver
import LspHost.Proofs.Faults

/-!
# What a resolver raises

The faults of a resolver are those of its host, and one of its own: a name to search for that is no
text. A failed query never leaves it.
-/

namespace LspHost

variable {σ α : Type} {P : Fault → Prop}

/-! ## Detection, query and search -/

section Host

variable {host : Host σ}

theorem Tool.raises_locate (tool : Tool) (override : Value)
    (hlookup : (host.lookup (.string tool.name)).Raises P) :
    (tool.locate override host.lookup).Raises P := by
  unfold Tool.locate
  split
  · exact .pure _
  · exact .bind hlookup fun found => .pure _

/-- **Detecting a tool** raises what looking for its program and for its marker raises. -/
theorem Tool.raises_ofProject? (tool : Tool) (overrides : Overrides) (root : Path)
    (hlookup : (host.lookup (.string tool.name)).Raises P)
    (hpresent : (host.isPresent (root.joinText tool.markerFile)).Raises P) :
    (tool.ofProject? host overrides root).Raises P := by
  refine .bind (tool.raises_locate _ hlookup) fun program => ?_
  cases program with
  | none => exact .bind (Act.raises_note _ _ _) fun _ => .pure _
  | some program =>
    refine .bind hpresent fun isThere => ?_
    cases isThere
    · exact .pure _
    · exact .pure _

theorem Tool.raises_detectAmong (overrides : Overrides) (root : Path) (tools : List Tool)
    (hlookup : ∀ tool ∈ tools, (host.lookup (.string tool.name)).Raises P)
    (hpresent : ∀ tool ∈ tools, (host.isPresent (root.joinText tool.markerFile)).Raises P) :
    (Tool.detectAmong host overrides root tools).Raises P := by
  induction tools with
  | nil => exact .pure _
  | cons tool rest ih =>
    obtain ⟨hlookup, hlookups⟩ := List.forall_mem_cons.mp hlookup
    obtain ⟨hpresent, hpresents⟩ := List.forall_mem_cons.mp hpresent
    refine .bind (tool.raises_ofProject? overrides root hlookup hpresent) fun program => ?_
    cases program with
    | none => exact ih hlookups hpresents
    | some program => exact .bind (Act.raises_note _ _ _) fun _ => .pure _

/-- **Asking a tool** raises what running it raises. -/
theorem Tool.raises_query (tool : Tool) (layout : Layout) (program : Value) (root : Path)
    (hrun : ∀ arguments, (host.run program arguments (some root.text)).Raises P) :
    (tool.query layout host.run program root).Raises P := by
  cases tool with
  | pipenv => exact .bind (hrun _) fun venv => .bind (hrun _) fun python => .pure _
  | poetry =>
    refine .bind (hrun _) fun venv => ?_
    split
    · exact .pure _
    · exact .pure _

theorem Search.raises_firstDirectory (paths : List Path)
    (hdirectory : ∀ path ∈ paths, (host.isDirectory path).Raises P) :
    (Search.firstDirectory host paths).Raises P := by
  induction paths with
  | nil => exact .pure _
  | cons path rest ih =>
    obtain ⟨hpath, hrest⟩ := List.forall_mem_cons.mp hdirectory
    refine .bind hpath fun isThere => ?_
    cases isThere
    · exact ih hrest
    · exact .pure _

/-- **Searching upward** for some names raises what looking for the directories raises, or that a name
is no text. -/
theorem Search.raises_upwardAmong (start : Path) (names : List Value)
    (hdirectory : ∀ name, .string name ∈ names →
      ∀ path ∈ Search.candidates start name, (host.isDirectory path).Raises P)
    (hwrong : ∀ name ∈ names, name.string? = none → P .wrongType) :
    (Search.upwardAmong host start names).Raises P := by
  induction names with
  | nil => exact .pure _
  | cons name rest ih =>
    have hrest := ih (fun name hname => hdirectory name (List.mem_cons_of_mem _ hname))
      fun name hname => hwrong name (List.mem_cons_of_mem _ hname)
    cases name with
    | string text =>
      refine .bind (Search.raises_firstDirectory _ (hdirectory text (List.mem_cons_self ..)))
        fun found => ?_
      cases found with
      | none => exact hrest
      | some found => exact .bind (Act.raises_note _ _ _) fun _ => .pure _
    | _ => exact .throw (hwrong _ (List.mem_cons_self ..) rfl)

/-- The directories that a search may start from. -/
def Search.starts (root : Path) : Option Path → List Path
  | none => [root]
  | some file => [root.join file, (root.join file).parent]

theorem Search.mem_starts {root : Path} {file : Option Path} {s t : Scene σ} {path : Path}
    (h : Search.start host root file s = .ok path t) : path ∈ Search.starts root file := by
  cases file with
  | none =>
    cases h
    exact List.mem_singleton_self root
  | some file =>
    obtain ⟨isThere, u, -, h⟩ := Attempt.bind_eq_ok h
    cases isThere with
    | true =>
      cases h
      exact List.mem_cons_self ..
    | false =>
      cases h
      exact List.mem_cons_of_mem _ (List.mem_singleton_self _)

/-- **The search** raises what the checks of it raise, or that a name is no text. -/
theorem Search.raises_venv (overrides : Overrides) (root : Path) (file : Option Path)
    (hfile : ∀ file' ∈ file, (host.isDirectory (root.join file')).Raises P)
    (hdirectory : ∀ start ∈ Search.starts root file, ∀ name,
      .string name ∈ Search.names overrides →
        ∀ path ∈ Search.candidates start name, (host.isDirectory path).Raises P)
    (hwrong : ∀ name ∈ Search.names overrides, name.string? = none → P .wrongType) :
    (Search.venv host overrides root file).Raises P := by
  intro s t e h
  rcases Attempt.bind_eq_error h with hstart | ⟨start, u, hstart, hupward⟩
  · cases file with
    | none => cases hstart
    | some file =>
      rcases Attempt.bind_eq_error hstart with hcheck | ⟨isThere, u, -, hpure⟩
      · exact hfile file rfl _ _ _ hcheck
      · cases isThere <;> cases hpure
  · exact Search.raises_upwardAmong start (Search.names overrides)
      (hdirectory start (Search.mem_starts hstart)) hwrong _ _ _ hupward

end Host

namespace Resolver

/-! ## Resolving -/

variable {r : Resolver σ} (h : r.host.Raises P)

include h

theorem raises_ask (tool : Tool) (program : Value) : (r.ask tool program).Raises P := by
  have hquery := tool.raises_query .bin program r.root fun _ => h.run _ _ _
  refine .bind (Act.raises_settle hquery) fun reply => ?_
  rcases reply with query | _ | e
  · exact .bind (Act.raises_note _ _ _) fun _ => .pure _
  · exact .bind (Act.raises_note _ _ _) fun _ => .pure _
  · exact .bind (Act.raises_note _ _ _) fun _ => .pure _

theorem raises_query : r.query.Raises P := by
  have hdetect := Tool.raises_detectAmong r.overrides r.root Tool.all (fun _ _ => h.lookup _)
    fun _ _ => h.isPresent _
  refine .bind hdetect fun detected => ?_
  rcases detected with _ | ⟨tool, program⟩
  · exact .pure _
  · exact raises_ask h tool program

theorem raises_viaTool : r.viaTool.Raises P := by
  refine .bind .get fun m => ?_
  cases m.cache with
  | some e => exact .pure _
  | none =>
    refine .bind (.lift (raises_query h)) fun answer => ?_
    cases answer with
    | none => exact .pure _
    | some e => exact .bind (.modify _) fun _ => .pure _

theorem raises_searchInterpreter : r.searchInterpreter.Raises P := by
  unfold searchInterpreter
  split
  · next lookup _ hlookup => exact h.remoteLookup lookup hlookup _
  · exact h.lookup _

/-- **The interpreter** raises what the host raises. -/
theorem raises_python : r.python.Raises P := by
  refine .bind (raises_viaTool h) fun answer => ?_
  cases answer with
  | none => exact .lift (raises_searchInterpreter h)
  | some e => exact .pure _

/-- **The virtual environment** raises what the host raises, or that a name is no text. -/
theorem raises_venv (hwrong : P .wrongType) (file : Option Path) : (r.venv file).Raises P := by
  unfold venv
  split
  · exact .bind (.lift (Act.raises_note _ _ _)) fun _ => .pure _
  refine .bind (raises_viaTool h) fun answer => ?_
  have hsearch := Search.raises_venv r.overrides r.root file (fun _ _ => h.isDirectory _)
    (fun _ _ _ _ _ _ => h.isDirectory _) fun _ _ _ => hwrong
  cases answer with
  | none => exact .bind (.lift hsearch) fun _ => .pure _
  | some e => exact .pure _

end Resolver

end LspHost
