import LspHost.Proofs.Config.Load

/-!
# Files that are put aside

A configuration file that cannot be opened, or that is not TOML, is put aside: loading then ends just as
it does where the file is missing, whether with a configuration or with a fault of another source
(`Config.load_put_aside`). That is so of nothing else: with a file whose bytes are no text, that is nested
too deep or has an integer that is too long, or whose presence cannot be checked, nothing is loaded.

Loading asks for little of its surroundings: where two paths lead, the two documents, and the variables.
So it goes alike wherever these are the same (`Config.mirrors_load`), which is all that is needed here.
-/

namespace LspHost

variable {σ τ : Type}

namespace Config

/-- The names of the configuration files of a project. -/
def fileNames : List String := ["pyproject.toml", ".serverlink.toml"]

section Mirrors

variable {W : σ → Prop} {V : τ → Prop}

/-! ## Loading alike -/

variable {host : Host σ} {host' : Host τ} {view view' : Surroundings} (h : host.Tells W view)
  (h' : host'.Tells V view')

include h h'

theorem mirrors_readDocument {path : Path} (hdocument : view'.document path = view.document path) :
    Attempt.Mirrors (Attempt.Both (Scene.In W) (Scene.In V)) (readDocument host path)
      (readDocument host' path) :=
  .of_yields (yields_readDocument h path) (hdocument ▸ yields_readDocument h' path)

theorem mirrors_ofProjectFile {root : Path} (hdocument : view'.document (root.joinText "pyproject.toml") =
      view.document (root.joinText "pyproject.toml")) :
    Attempt.Mirrors (Attempt.Both (Scene.In W) (Scene.In V)) (ofProjectFile host root)
      (ofProjectFile host' root) := by
  refine .bind (mirrors_readDocument h h' hdocument) fun data => ?_
  rcases data with _ | data
  · exact .of_pure _
  dsimp only
  split
  · exact .of_pure _
  · split
    · exact .bind (mirrors_ofTable _ root) fun _ => .of_pure _
    · exact .of_pure _
  · exact .of_throw _

theorem mirrors_ofOwnFile {root : Path} (hdocument : view'.document (root.joinText ".serverlink.toml") =
      view.document (root.joinText ".serverlink.toml")) :
    Attempt.Mirrors (Attempt.Both (Scene.In W) (Scene.In V)) (ofOwnFile host root) (ofOwnFile host' root) := by
  refine .bind (mirrors_readDocument h h' hdocument) fun data => ?_
  cases data with
  | none => exact .of_pure _
  | some data => exact .bind (mirrors_ofTable data root) fun _ => .of_pure _

theorem mirrors_readVariable (henvironment : view'.environment = view.environment) (c : Config)
    (entry : String × Setting) :
    Attempt.Mirrors (Attempt.Both (Scene.In W) (Scene.In V)) (readVariable host c entry)
      (readVariable host' c entry) := by
  refine .bind (.of_yields (h.environment _) (henvironment ▸ h'.environment _)) fun value => ?_
  cases value with
  | none => exact .of_pure c
  | some text =>
    dsimp only
    split
    · exact .of_pure c
    · exact .bind (.of_ofExcept _) fun _ => .of_pure _

theorem mirrors_ofVariables (hhere : view'.resolve Path.here = view.resolve Path.here)
    (henvironment : view'.environment = view.environment) :
    Attempt.Mirrors (Attempt.Both (Scene.In W) (Scene.In V)) (ofVariables host) (ofVariables host') :=
  .bind (.of_yields (h.resolve _) (hhere ▸ h'.resolve _)) fun _ =>
    .foldlM (mirrors_readVariable h h' henvironment) _ _

theorem mirrors_overlay (hhere : view'.resolve Path.here = view.resolve Path.here) (base : Config)
    (source : Option Config) :
    Attempt.Mirrors (Attempt.Both (Scene.In W) (Scene.In V)) (overlay host base source)
      (overlay host' base source) := by
  cases source with
  | none => exact .of_pure base
  | some other =>
    exact .bind (.of_yields (h.resolve _) (hhere ▸ h'.resolve _)) fun _ => .of_pure _

/-- **Loading** goes alike where the root and the current directory lead to the same, and the two
documents and the variables are the same. -/
theorem mirrors_load {root resolved : Path} (hroot : view.resolve root = .ok resolved)
    (hroot' : view'.resolve root = .ok resolved)
    (hhere : view'.resolve Path.here = view.resolve Path.here)
    (hdocument : ∀ name ∈ fileNames,
      view'.document (resolved.joinText name) = view.document (resolved.joinText name))
    (henvironment : view'.environment = view.environment) :
    Attempt.Mirrors (Attempt.Both (Scene.In W) (Scene.In V)) (load host root) (load host' root) := by
  have hproject := hdocument "pyproject.toml" (List.mem_cons_self ..)
  have hown := hdocument ".serverlink.toml" (List.mem_cons_of_mem _ (List.mem_cons_self ..))
  refine .yields_bind (hroot ▸ h.resolve root) (hroot' ▸ h'.resolve root) ?_
  refine .bind (mirrors_ofProjectFile h h' hproject) fun project => ?_
  refine .bind (mirrors_overlay h h' hhere _ project) fun c => ?_
  refine .bind (mirrors_ofOwnFile h h' hown) fun own => ?_
  refine .bind (mirrors_overlay h h' hhere c own) fun c => ?_
  refine .bind (mirrors_ofVariables h h' hhere henvironment) fun other => ?_
  exact mirrors_overlay h h' hhere c (some other)

omit h' in
/-- **Loading** has one answer in surroundings that stand still. -/
theorem isSettled_load (root : Path) : (load host root).IsSettled (Scene.In W) := by
  have hroot := h.resolve root
  rcases hresolved : view.resolve root with e | resolved
  · rw [hresolved] at hroot
    exact hroot.bind_error.isSettled
  · exact Attempt.isSettled_iff_mirrors.mpr
      (mirrors_load h h hresolved hresolved rfl (fun _ _ => rfl) rfl)

end Mirrors

end Config

/-! ## A file and its absence -/

namespace Surroundings

/-- Surroundings of a project, and others that differ in that one of its configuration files is
missing. -/
structure Missing (view other : Surroundings) (root resolved : Path) (name : String) : Prop where
  /-- the root leads to the same place -/
  root : view.resolve root = .ok resolved ∧ other.resolve root = .ok resolved
  /-- so does the current directory -/
  here : other.resolve Path.here = view.resolve Path.here
  /-- there is no such file -/
  absent : other.isPresent (resolved.joinText name) = .ok false
  /-- any other configuration file holds the same document -/
  document : ∀ name' ∈ Config.fileNames, name' ≠ name →
    other.document (resolved.joinText name') = view.document (resolved.joinText name')
  /-- variables have the same values -/
  environment : other.environment = view.environment

/-- It can be told whether a file is there, and it cannot be opened or is not TOML. -/
structure IsPutAside (view : Surroundings) (file : Path) : Prop where
  /-- whether it is there is known -/
  isPresent : ∃ isThere, view.isPresent file = .ok isThere
  /-- it is of no use -/
  read : (∃ refusal, view.read file = .error (.refused refusal)) ∨
    ∃ bytes text, view.read file = .ok bytes ∧ Text.ofBytes? bytes = some text ∧
      Toml.parse text = .error .malformed

/-- A file is in the way of everything else. -/
inductive IsObstructed (view : Surroundings) (file : Path) : Prop where
  /-- it cannot be told whether it is there -/
  | unknown (e : Fault) (hpresent : view.isPresent file = .error e)
  /-- it can be opened and is no text -/
  | noText (bytes : ByteArray) (hpresent : view.isPresent file = .ok true)
      (hread : view.read file = .ok bytes) (htext : Text.ofBytes? bytes = none)
  /-- it can be opened and is given up before it turns out whether it is TOML -/
  | givenUp (bytes : ByteArray) (text : String) (problem : Toml.Problem)
      (hpresent : view.isPresent file = .ok true) (hread : view.read file = .ok bytes)
      (htext : Text.ofBytes? bytes = some text) (hparse : Toml.parse text = .error problem)
      (hproblem : problem ≠ .malformed)

variable {view other : Surroundings} {file : Path}

/-- **A file that is put aside** is as good as missing. -/
theorem IsPutAside.document (h : view.IsPutAside file) : view.document file = .ok none := by
  obtain ⟨⟨isThere, hpresent⟩, hread⟩ := h
  unfold Surroundings.document
  rw [hpresent]
  cases isThere with
  | false => rfl
  | true =>
    rcases hread with ⟨refusal, hread⟩ | ⟨bytes, text, hread, htext, hparse⟩
    · simp only [hread]
    · simp only [hread, Config.document, htext, hparse]
      rfl

/-- **A file that is in the way** has no document, not even an empty one. -/
theorem IsObstructed.document (h : view.IsObstructed file) : ∃ e, view.document file = .error e := by
  unfold Surroundings.document
  cases h with
  | unknown e hpresent => exact ⟨e, by rw [hpresent]⟩
  | noText bytes hpresent hread htext =>
    refine ⟨.undecodable, ?_⟩
    simp only [hpresent, hread, Config.document, htext]
    rfl
  | givenUp bytes text problem hpresent hread htext hparse hproblem =>
    simp only [hpresent, hread, Config.document, htext, hparse]
    cases problem with
    | malformed => exact absurd rfl hproblem
    | tooManyDigits count => exact ⟨_, rfl⟩
    | tooDeep => exact ⟨_, rfl⟩

/-- **Without a file that has no document** all documents are the same. -/
theorem Missing.document_eq {root resolved : Path} {name : String}
    (h : view.Missing other root resolved name)
    (hnone : view.document (resolved.joinText name) = .ok none) {name' : String}
    (hname : name' ∈ Config.fileNames) :
    other.document (resolved.joinText name') = view.document (resolved.joinText name') := by
  by_cases hsame : name' = name
  · rw [hsame, hnone, Surroundings.document, h.absent]
  · exact h.document name' hname hsame

end Surroundings

namespace Config

/-- **Files that are put aside.** Whatever is around:

* with a configuration file that cannot be opened or is not TOML, loading ends as it does where that file
  is missing, with the same configuration or the same fault;
* with one whose presence cannot be checked, that is no text, or that is given up before it is read,
  nothing is loaded. -/
theorem load_put_aside {host : Host σ} {host' : Host τ} {W : σ → Prop} {V : τ → Prop}
    {view view' : Surroundings} (h : host.Tells W view) (h' : host'.Tells V view')
    {root resolved : Path} {name : String} (hname : name ∈ fileNames)
    (hmissing : view.Missing view' root resolved name) {scene : Scene σ} {scene' : Scene τ}
    (hscene : Scene.In W scene) (hscene' : Scene.In V scene') :
    (view.IsPutAside (resolved.joinText name) →
        (load host root).answer scene = (load host' root).answer scene') ∧
      (view.IsObstructed (resolved.joinText name) → ∀ c, (load host root).answer scene ≠ .ok c) := by
  obtain ⟨hroot, hroot'⟩ := hmissing.root
  refine ⟨?_, ?_⟩
  · intro haside
    exact (mirrors_load h h' hroot hroot' hmissing.here
      (fun _ hother => hmissing.document_eq haside.document hother) hmissing.environment
      scene scene' ⟨hscene, hscene'⟩).1
  · intro hobstructed c hload
    obtain ⟨e, hdocument⟩ := hobstructed.document
    obtain ⟨hrooted, project, own, hproject, hown, -⟩ :=
      eq_ofSources_of_load h hscene (Attempt.eq_ok_of_answer hload)
    obtain rfl : resolved = c.root := Except.ok.inj (hroot.symm.trans hrooted)
    -- a configuration comes from two documents, one of which this one would be
    rcases List.mem_pair.mp hname with rfl | rfl
    · cases hdocument.symm.trans hproject
    · cases hdocument.symm.trans hown

end Config

/-! ## A project file alone -/

/-- A project whose only file is `pyproject.toml`, if there is any. -/
def Surroundings.ofProjectFile (content : Option ByteArray) : Surroundings where
  isPresent := fun path => .ok (content.isSome && decide (path = .ofText "/w/pyproject.toml"))
  resolve := fun path => .ok ((Path.ofText "/w").join path)
  read := fun path =>
    match content, decide (path = .ofText "/w/pyproject.toml") with
    | some bytes, true => .ok bytes
    | _, _ => .error (.refused (.ofCodeFor 2 "No such file or directory" path.text))
  environment := fun _ => none
  isAbsolute_of_resolve := fun path resolved hresolved => by
    cases hresolved
    exact Path.isAbsolute_join (by decide +kernel) path

/-- The project without its file. -/
theorem Surroundings.missing_ofProjectFile (bytes : ByteArray) :
    (ofProjectFile (some bytes)).Missing (ofProjectFile none) Path.here (.ofText "/w")
      "pyproject.toml" where
  root := by
    have hroot : (Path.ofText "/w").join Path.here = Path.ofText "/w" := by decide +kernel
    exact ⟨congrArg Except.ok hroot, congrArg Except.ok hroot⟩
  here := rfl
  absent := rfl
  document := by
    intro name' hname hne
    rcases List.mem_pair.mp hname with rfl | rfl
    · exact absurd rfl hne
    · have hother : ((Path.ofText "/w").joinText ".serverlink.toml" =
          Path.ofText "/w/pyproject.toml") = False := by
        rw [eq_iff_iff, iff_false]
        decide +kernel
      simp only [Surroundings.document, ofProjectFile, hother, decide_false, Bool.and_false]
  environment := rfl

namespace Config

/-- A project file that is not TOML is as good as missing, and the defaults are loaded. -/
theorem load_malformed_put_aside :
    let view := Surroundings.ofProjectFile (some "[tool.serverlink".toUTF8)
    let without := Surroundings.ofProjectFile none
    view.IsPutAside ((Path.ofText "/w").joinText "pyproject.toml") ∧
      ((load without.host Path.here).answer { world := () }).isOk = true ∧
      (load view.host Path.here).answer { world := () } =
        (load without.host Path.here).answer { world := () } := by
  intro view without
  have haside : view.IsPutAside ((Path.ofText "/w").joinText "pyproject.toml") := by
    refine ⟨⟨_, rfl⟩, .inr ⟨_, "[tool.serverlink", rfl, by decide +kernel, by decide +kernel⟩⟩
  refine ⟨haside, by decide +kernel, ?_⟩
  exact (load_put_aside view.tells_host without.tells_host (by decide)
    (Surroundings.missing_ofProjectFile _) trivial trivial).1 haside

/-- **A project file that is no text** is not put aside: with it nothing is loaded, though everything is
without it. -/
theorem load_of_undecodable_file :
    let view := Surroundings.ofProjectFile (some ⟨#[0xff]⟩)
    let without := Surroundings.ofProjectFile none
    view.Missing without Path.here (.ofText "/w") "pyproject.toml" ∧
      Text.ofBytes? ⟨#[0xff]⟩ = none ∧
      ¬ (load view.host Path.here).answer { world := () } =
        (load without.host Path.here).answer { world := () } := by
  intro view without
  have hfails : ((load view.host Path.here).answer { world := () }).isOk = false := by decide +kernel
  have hloads : ((load without.host Path.here).answer { world := () }).isOk = true := by
    decide +kernel
  refine ⟨Surroundings.missing_ofProjectFile _, by decide +kernel, ?_⟩
  intro hsame
  rw [hsame, hloads] at hfails
  cases hfails

end Config

end LspHost
