import LspHost.Proofs.Config.Content
import LspHost.Proofs.Machine.Directory

/-!
# Loading follows the layers

What `Config.load` gives in surroundings that stand still: what the project file, the file of its
own and the environment variables amount to, rooted where the given root leads
(`Config.eq_ofSources_of_load`). So every setting has the value that the last of them names for it,
and the current directory plays no part where the root is given absolutely
(`Config.eq_of_load_elsewhere`).
-/

namespace LspHost

variable {σ : Type}

namespace Surroundings

/-- The document in a file: none if there is no file, or if it cannot be opened or is not TOML. -/
def document (view : Surroundings) (path : Path) : Except Fault (Option Table) :=
  match view.isPresent path with
  | .error e => .error e
  | .ok false => .ok none
  | .ok true =>
    match view.read path with
    | .ok bytes => (Config.document bytes).map Except.toOption
    | .error (.refused _) => .ok none
    | .error e => .error e

/-- **The document of an absolute path** is the same from everywhere. -/
theorem Elsewhere.document_eq {view other : Surroundings} (h : view.Elsewhere other) {path : Path}
    (hpath : path.isAbsolute = true) : other.document path = view.document path := by
  unfold document
  rw [h.isPresent path hpath, h.read path hpath]

end Surroundings

namespace Config

/-! ## Tables -/

/-- A section is read as it is laid over what is there. -/
theorem readSection_eq_ok {data : Table} {c c' : Config} {s : Section} {scene scene' : Scene σ}
    (h : readSection data c s scene = .ok c' scene') : c' = c.withTable data s := by
  unfold readSection at h
  unfold withTable
  rcases hgiven : (data.find? s.name).bind Value.given? with _ | value
  all_goals rw [hgiven] at h
  · cases h
    rfl
  cases value with
  | table entries =>
    obtain ⟨_, u, -, hrest⟩ := Attempt.bind_eq_ok h
    by_cases hs : s = .server
    · subst hs
      obtain ⟨command, v, hvalue, hassign⟩ := Attempt.bind_eq_ok hrest
      cases hassign
      rw [Layer.eq_taken_of_commandValue (Attempt.ofExcept_eq_ok hvalue).1]
      rfl
    · have hpure : c' = c.withSection s entries := by
        cases s <;> first | exact absurd rfl hs | (cases hrest; rfl)
      simp only [if_neg hs, hpure]
  | _ => cases h

/-- **A table** is read as what it amounts to. -/
theorem ofTable_eq_ok {data : Table} {root : Path} {c : Config} {scene scene' : Scene σ}
    (h : ofTable data root scene = .ok c scene') : c = inTable data root := by
  simp only [ofTable, Section.all, List.foldlM_cons, List.foldlM_nil] at h
  obtain ⟨c₁, u₁, h₁, h⟩ := Attempt.bind_eq_ok h
  obtain ⟨c₂, u₂, h₂, h⟩ := Attempt.bind_eq_ok h
  obtain ⟨c₃, u₃, h₃, h⟩ := Attempt.bind_eq_ok h
  obtain ⟨c₄, u₄, h₄, h⟩ := Attempt.bind_eq_ok h
  cases h
  rw [readSection_eq_ok h₄, readSection_eq_ok h₃, readSection_eq_ok h₂, readSection_eq_ok h₁]
  rfl

section Mirrors

variable {τ : Type} {W : σ → Prop} {V : τ → Prop}

theorem mirrors_readSection (data : Table) (c : Config) (s : Section) :
    Attempt.Mirrors (Attempt.Both (Scene.In W) (Scene.In V)) (readSection data c s)
      (readSection data c s) := by
  unfold readSection
  rcases (data.find? s.name).bind Value.given? with _ | value
  · exact .of_pure c
  cases value with
  | table entries =>
    refine .bind (.forM (fun _ => Act.mirrors_note W V _ _ _) _) fun _ => ?_
    cases s with
    | server => exact .bind (.of_ofExcept _) fun _ => .of_pure _
    | _ => exact .of_pure _
  | _ => exact .of_throw _

/-- **Reading a table** goes alike everywhere: it does nothing but note records. -/
theorem mirrors_ofTable (data : Table) (root : Path) :
    Attempt.Mirrors (Attempt.Both (Scene.In W) (Scene.In V)) (ofTable data root) (ofTable data root) :=
  .foldlM (mirrors_readSection data) _ _

theorem isSettled_ofTable (W : σ → Prop) (data : Table) (root : Path) :
    (ofTable data root : Act σ Config).IsSettled (Scene.In W) :=
  Attempt.isSettled_iff_mirrors.mpr (mirrors_ofTable data root)

end Mirrors

/-! ## Files -/

section Sources

variable {host : Host σ} {W : σ → Prop} {view : Surroundings} (h : host.Tells W view)

include h

/-- Opening a file is answered by what the surroundings have there; a refusal is an answer. -/
theorem yields_tryRead (path : Path) :
    (tryRead host path).Yields (Scene.In W) (match view.read path with
      | .ok bytes => .ok (.ok bytes)
      | .error (.refused refusal) => .ok (.error (.refused refusal))
      | .error e => .error e) := by
  intro s hs
  obtain ⟨hanswer, hafter⟩ := h.read path s hs
  unfold Attempt.answer at hanswer
  unfold Attempt.after at hafter
  unfold Attempt.answer Attempt.after tryRead
  rcases hact : host.read path s with ⟨bytes, t⟩ | ⟨e, t⟩
  all_goals
    rw [hact] at hanswer hafter
    rw [← hanswer]
  · exact ⟨rfl, hafter⟩
  · cases e <;> exact ⟨rfl, hafter⟩

/-- **The document of a file** is the one that the surroundings have there. -/
theorem yields_readDocument (path : Path) :
    (readDocument host path).Yields (Scene.In W) (view.document path) := by
  have hpresent := h.isPresent path
  have hread := yields_tryRead h path
  unfold Surroundings.document
  rcases hthere : view.isPresent path with e | _ | _
  all_goals rw [hthere] at hpresent
  · exact hpresent.bind_error
  · exact hpresent.bind_ok (.of_pure none)
  · refine hpresent.bind_ok ?_
    rcases hcontent : view.read path with e | bytes
    all_goals rw [hcontent] at hread
    · cases e
      case refused refusal =>
        exact hread.bind_ok (.bind_ok (.of_pure _)
          (.bind_ok (Act.yields_note W _ _ _) (.of_pure _)))
      all_goals exact hread.bind_error
    · refine hread.bind_ok ?_
      have hdocument := Attempt.Yields.of_ofExcept (I := Scene.In W) (document bytes)
      dsimp only
      rcases hbytes : document bytes with e | reason | table
      all_goals rw [hbytes] at hdocument
      · exact hdocument.bind_error
      · exact hdocument.bind_ok (.bind_ok (Act.yields_note W _ _ _) (.of_pure _))
      · exact hdocument.bind_ok (.of_pure _)

/-- **The project file** is read as what its table amounts to. -/
theorem ofProjectFile_eq_ok {root : Path} {scene scene' : Scene σ} {source : Option Config}
    (hscene : Scene.In W scene) (hread : ofProjectFile host root scene = .ok source scene') :
    Scene.In W scene' ∧ ∃ data, view.document (root.joinText "pyproject.toml") = .ok data ∧
      source = (data.bind Layer.toolTable?).map (inTable · root) := by
  obtain ⟨data, u, hdata, hrest⟩ := Attempt.bind_eq_ok hread
  obtain ⟨hview, hu⟩ := (yields_readDocument h _).eq_ok hscene hdata
  rcases data with _ | data
  · cases hrest
    exact ⟨hu, none, hview, rfl⟩
  dsimp only at hrest
  rcases htool : data.find? "tool" with _ | tool
  all_goals rw [htool] at hrest
  · cases hrest
    refine ⟨hu, some data, hview, ?_⟩
    simp only [Option.bind_some, Layer.toolTable?, htool, Option.map_none]
  cases tool with
  | table tool =>
    dsimp only at hrest
    rcases hown : Table.find? "serverlink" tool with _ | own
    all_goals rw [hown] at hrest
    · cases hrest
      refine ⟨hu, some data, hview, ?_⟩
      simp only [Option.bind_some, Layer.toolTable?, htool, hown, Option.map_none]
    cases own with
    | table entries =>
      obtain ⟨c, v, hentries, hpure⟩ := Attempt.bind_eq_ok hrest
      cases hpure
      refine ⟨(isSettled_ofTable W entries root).after hu hentries, some data, hview, ?_⟩
      simp only [Option.bind_some, Layer.toolTable?, htool, hown, Option.map_some,
        ofTable_eq_ok hentries]
    | _ =>
      cases hrest
      refine ⟨hu, some data, hview, ?_⟩
      simp only [Option.bind_some, Layer.toolTable?, htool, hown, Option.map_none]
  | _ => cases hrest

/-- **The configuration file of its own** is read as what it amounts to. -/
theorem ofOwnFile_eq_ok {root : Path} {scene scene' : Scene σ} {source : Option Config}
    (hscene : Scene.In W scene) (hread : ofOwnFile host root scene = .ok source scene') :
    Scene.In W scene' ∧ ∃ data, view.document (root.joinText ".serverlink.toml") = .ok data ∧
      source = data.map (inTable · root) := by
  obtain ⟨data, u, hdata, hrest⟩ := Attempt.bind_eq_ok hread
  obtain ⟨hview, hu⟩ := (yields_readDocument h _).eq_ok hscene hdata
  rcases data with _ | data
  · cases hrest
    exact ⟨hu, none, hview, rfl⟩
  · obtain ⟨c, v, hentries, hpure⟩ := Attempt.bind_eq_ok hrest
    cases hpure
    refine ⟨(isSettled_ofTable W data root).after hu hentries, some data, hview, ?_⟩
    rw [ofTable_eq_ok hentries]
    rfl

/-! ## Variables -/

/-- **One variable** is read as it is laid over what is there. -/
theorem readVariable_eq_ok {c c' : Config} {entry : String × Setting} {scene scene' : Scene σ}
    (hscene : Scene.In W scene) (hread : readVariable host c entry scene = .ok c' scene') :
    Scene.In W scene' ∧ c' = c.withVariable view.environment entry := by
  obtain ⟨value, u, hvalue, hrest⟩ := Attempt.bind_eq_ok hread
  obtain ⟨hview, hu⟩ := (h.environment _).eq_ok hscene hvalue
  unfold withVariable
  rw [show view.environment entry.1 = value from Except.ok.inj hview]
  rcases value with _ | text
  · cases hrest
    exact ⟨hu, rfl⟩
  dsimp only at hrest ⊢
  by_cases hempty : text.isEmpty = true
  · rw [if_pos hempty] at hrest
    cases hrest
    rw [if_pos hempty]
    exact ⟨hu, rfl⟩
  · rw [if_neg hempty] at hrest
    obtain ⟨v, w, hv, hpure⟩ := Attempt.bind_eq_ok hrest
    obtain ⟨htext, rfl⟩ := Attempt.ofExcept_eq_ok hv
    cases hpure
    rw [if_neg hempty, Layer.eq_ofText_of_variableValue htext]
    exact ⟨hu, rfl⟩

/-- **The environment variables** are read as what they amount to, with the current directory in the
place of a root. -/
theorem ofVariables_eq_ok {c : Config} {scene scene' : Scene σ} (hscene : Scene.In W scene)
    (hread : ofVariables host scene = .ok c scene') :
    Scene.In W scene' ∧ view.resolve Path.here = .ok c.root ∧
      c = inVariables view.environment c.root := by
  obtain ⟨here, u, hhere, hread⟩ := Attempt.bind_eq_ok hread
  obtain ⟨hview, hu⟩ := (h.resolve _).eq_ok hscene hhere
  simp only [namedSettings, List.foldlM_cons, List.foldlM_nil] at hread
  obtain ⟨c₁, u₁, h₁, hread⟩ := Attempt.bind_eq_ok hread
  obtain ⟨c₂, u₂, h₂, hread⟩ := Attempt.bind_eq_ok hread
  obtain ⟨c₃, u₃, h₃, hread⟩ := Attempt.bind_eq_ok hread
  obtain ⟨c₄, u₄, h₄, hread⟩ := Attempt.bind_eq_ok hread
  cases hread
  obtain ⟨hu₁, rfl⟩ := readVariable_eq_ok h hu h₁
  obtain ⟨hu₂, rfl⟩ := readVariable_eq_ok h hu₁ h₂
  obtain ⟨hu₃, rfl⟩ := readVariable_eq_ok h hu₂ h₃
  obtain ⟨hu₄, hc⟩ := readVariable_eq_ok h hu₃ h₄
  have hall : c = inVariables view.environment here := hc
  rw [hall, root_inVariables]
  exact ⟨hu₄, hview, rfl⟩

/-! ## All sources -/

/-- **One more source** is laid over what is there already, if it has the same root, or the current
directory in the place of a root. -/
theorem overlay_eq_ok {base c : Config} {source : Option Config} {scene scene' : Scene σ}
    (hscene : Scene.In W scene)
    (hroot : ∀ other ∈ source, other.root = base.root ∨ view.resolve Path.here = .ok other.root)
    (hoverlay : overlay host base source scene = .ok c scene') :
    Scene.In W scene' ∧ c = base.overlaid source := by
  rcases source with _ | other
  · cases hoverlay
    exact ⟨hscene, rfl⟩
  · obtain ⟨here, u, hresolve, hpure⟩ := Attempt.bind_eq_ok hoverlay
    obtain ⟨hview, hu⟩ := (h.resolve _).eq_ok hscene hresolve
    cases hpure
    refine ⟨hu, merge_eq_overlaid ?_⟩
    rcases hroot other rfl with hsame | hhere
    · exact .inl hsame
    · exact .inr (Except.ok.inj (hhere.symm.trans hview))

/-- **Loading** gives what the sources amount to, rooted where the given root leads. -/
theorem eq_ofSources_of_load {root : Path} {c : Config} {scene scene' : Scene σ}
    (hscene : Scene.In W scene) (hload : load host root scene = .ok c scene') :
    view.resolve root = .ok c.root ∧ ∃ project own,
      view.document (c.root.joinText "pyproject.toml") = .ok project ∧
      view.document (c.root.joinText ".serverlink.toml") = .ok own ∧
      c = ofSources view.environment c.root (project.bind Layer.toolTable?) own := by
  obtain ⟨resolved, u, hresolved, hload⟩ := Attempt.bind_eq_ok hload
  obtain ⟨hroot, hu⟩ := (h.resolve _).eq_ok hscene hresolved
  have hrooted : ∀ (data : Option Table) (base : Config), base.root = resolved →
      ∀ other ∈ data.map (inTable · resolved), other.root = base.root ∨
        view.resolve Path.here = .ok other.root := by
    intro data base hbase other hother
    obtain ⟨table, -, rfl⟩ := Option.map_eq_some_iff.mp hother
    exact .inl ((root_inTable table resolved).trans hbase.symm)
  obtain ⟨projectFile, u₁, hproject, hload⟩ := Attempt.bind_eq_ok hload
  obtain ⟨hu₁, project, hprojectView, rfl⟩ := ofProjectFile_eq_ok h hu hproject
  obtain ⟨c₁, u₂, hc₁, hload⟩ := Attempt.bind_eq_ok hload
  obtain ⟨hu₂, rfl⟩ := overlay_eq_ok h hu₁ (hrooted _ _ rfl) hc₁
  obtain ⟨ownFile, u₃, hown, hload⟩ := Attempt.bind_eq_ok hload
  obtain ⟨hu₃, own, hownView, rfl⟩ := ofOwnFile_eq_ok h hu₂ hown
  obtain ⟨c₂, u₄, hc₂, hload⟩ := Attempt.bind_eq_ok hload
  obtain ⟨hu₄, rfl⟩ := overlay_eq_ok h hu₃ (hrooted _ _ (root_overlaid _ _)) hc₂
  obtain ⟨fromVariables, u₅, hvariables, hload⟩ := Attempt.bind_eq_ok hload
  obtain ⟨hu₅, hhere, hinVariables⟩ := ofVariables_eq_ok h hu₄ hvariables
  have hrootless : ∀ (base : Config), ∀ other ∈ some fromVariables, other.root = base.root ∨
      view.resolve Path.here = .ok other.root := by
    rintro base other ⟨⟩
    exact .inr hhere
  obtain ⟨-, hc⟩ := overlay_eq_ok h hu₅ (hrootless _) hload
  have hall : c = ofSources view.environment resolved (project.bind Layer.toolTable?) own := by
    rw [hc, hinVariables, inVariables_rooted view.environment _ resolved, overlaid_rooted]
    rfl
  rw [hall, root_ofSources]
  exact ⟨hroot, project, own, hprojectView, hownView, rfl⟩

/-- **From another directory** the same root, given absolutely, gives the same configuration. -/
theorem eq_of_load_elsewhere {τ : Type} {host' : Host τ} {V : τ → Prop} {view' : Surroundings}
    {root : Path} {c c' : Config} {scene scene' : Scene σ} {start finish : Scene τ}
    (h' : host'.Tells V view') (helsewhere : view.Elsewhere view')
    (habsolute : root.isAbsolute = true) (hscene : Scene.In W scene) (hstart : Scene.In V start)
    (hload : load host root scene = .ok c scene')
    (hload' : load host' root start = .ok c' finish) : c' = c := by
  obtain ⟨hroot, project, own, hproject, hown, hc⟩ := eq_ofSources_of_load h hscene hload
  obtain ⟨hroot', project', own', hproject', hown', hc'⟩ := eq_ofSources_of_load h' hstart hload'
  have hsame : c'.root = c.root := by
    rw [helsewhere.resolve root habsolute] at hroot'
    exact Except.ok.inj (hroot'.symm.trans hroot)
  have hinside (text : String) : (c.root.joinText text).isAbsolute = true :=
    Path.isAbsolute_join (view.isAbsolute_of_resolve _ _ hroot) _
  rw [hsame, helsewhere.document_eq (hinside _), hproject] at hproject'
  rw [hsame, helsewhere.document_eq (hinside _), hown] at hown'
  obtain rfl := Except.ok.inj hproject'
  obtain rfl := Except.ok.inj hown'
  rw [hsame, helsewhere.environment, ← hc] at hc'
  exact hc'

end Sources

/-- **Loading follows the layers.** The root is the one that the given root leads to. A setting has
the value that the last of the project file, the file of its own and the variables names for it, or
its default; the marked settings are those that are named, and the others are at their defaults.
From another directory the same root, given absolutely, gives the same configuration. -/
theorem load_layers {host : Host σ} {W : σ → Prop} {view : Surroundings} {root : Path} {c : Config}
    {scene scene' : Scene σ} (h : host.Tells W view) (hscene : Scene.In W scene)
    (hload : load host root scene = .ok c scene') :
    view.resolve root = .ok c.root ∧
    (∃ project own, view.document (c.root.joinText "pyproject.toml") = .ok project ∧
      view.document (c.root.joinText ".serverlink.toml") = .ok own ∧
      let named : Layer := fun setting => (Layer.ofVariables view.environment setting).or
        ((Layer.ofTable? own setting).or (Layer.ofTable? (project.bind Layer.toolTable?) setting))
      (∀ setting, c.value setting = (named setting).getD setting.default) ∧
      (∀ (s : Section) (name : String), name ∈ c.marks.names s.name ↔
        ∃ setting : Setting, setting.group = s ∧ setting.name = name ∧ (named setting).isSome) ∧
      ∀ setting, c.isMarked setting = false → c.value setting = setting.default) ∧
    ∀ {τ : Type} {host' : Host τ} {V : τ → Prop} {view' : Surroundings} {c' : Config}
      {start finish : Scene τ}, root.isAbsolute = true → view.Elsewhere view' →
      host'.Tells V view' → Scene.In V start → load host' root start = .ok c' finish → c' = c := by
  obtain ⟨hroot, project, own, hproject, hown, hc⟩ := eq_ofSources_of_load h hscene hload
  have hfollows := follows_ofSources view.environment c.root (project.bind Layer.toolTable?) own
  rw [← hc] at hfollows
  refine ⟨hroot, ⟨project, own, hproject, hown, hfollows.value, hfollows.marks, ?_⟩, ?_⟩
  · exact fun setting hmarked => hfollows.eq_default hmarked
  · intro τ host' V view' c' start finish habsolute helsewhere h' hstart hload'
    exact eq_of_load_elsewhere h h' helsewhere habsolute hscene hstart hload hload'

/-- A machine with a project in `/w`, to which a link at `/v` leads, and a current directory. The project's
own file sets a setting of its project file back to the default. -/
def restored (directory : Machine.Location) : Machine where
  files :=
    { nodes :=
        [(["tmp"], .directory), (["v"], .link "w"), (["w"], .directory),
          (["w", "pyproject.toml"],
            .file "[tool.serverlink.ui]\nprogress_indicator = false".toUTF8 false),
          (["w", ".serverlink.toml"],
            .file "[ui]\nprogress_indicator = true\n[server]\ncommand = \"serve -v\"".toUTF8 false)] }
  directory
  environment := [("SERVERLINK_VENV_PATH", ".venv")]

/-- The project is loaded the same from two directories, its root given by the link. -/
theorem load_layers_restored :
    ∃ (c c' : Config) (t t' : Scene Machine),
      load (Machine.host none) (Path.ofText "/v") { world := restored ["tmp"] } = .ok c t ∧
      load (Machine.host none) (Path.ofText "/v") { world := restored ["w"] } = .ok c' t' ∧
      c' = c ∧ c.root = Path.ofText "/w" ∧ c.value .progressIndicator = .bool true ∧
      c.value .venvPath = .string ".venv" ∧
      c.value .command = .list [.string "serve", .string "-v"] := by
  obtain ⟨c, t, hload⟩ := Attempt.exists_eq_ok (s := { world := restored ["tmp"] })
    (show ((load (Machine.host none) (Path.ofText "/v")).answer _).isOk = true by decide +kernel)
  obtain ⟨c', t', hload'⟩ := Attempt.exists_eq_ok (s := { world := restored ["w"] })
    (show ((load (Machine.host none) (Path.ofText "/v")).answer _).isOk = true by decide +kernel)
  have hstart (directory : Machine.Location) :
      Scene.In (· = restored directory) { world := restored directory } := rfl
  obtain ⟨hroot, ⟨project, own, hproject, hown, hvalue, -⟩, hsame⟩ :=
    load_layers ((restored ["tmp"]).tells_host none) (hstart _) hload
  have hlink : ((restored ["tmp"]).view.resolve (Path.ofText "/v")).toOption =
      some (Path.ofText "/w") := by decide +kernel
  rw [hroot] at hlink
  have hw : c.root = Path.ofText "/w" := Option.some.inj hlink
  have hproject' : ((restored ["tmp"]).view.document
      ((Path.ofText "/w").joinText "pyproject.toml")).toOption =
        some (some [("tool", .table [("serverlink",
          .table [("ui", .table [("progress_indicator", .bool false)])])])]) := by decide +kernel
  have hown' : ((restored ["tmp"]).view.document
      ((Path.ofText "/w").joinText ".serverlink.toml")).toOption =
        some (some [("ui", .table [("progress_indicator", .bool true)]),
          ("server", .table [("command", .string "serve -v")])]) := by decide +kernel
  rw [← hw, hproject] at hproject'
  rw [← hw, hown] at hown'
  obtain rfl := Option.some.inj hproject'
  obtain rfl := Option.some.inj hown'
  refine ⟨c, c', t, t', hload, hload', ?_, hw, ?_, ?_, ?_⟩
  · exact hsame (by decide +kernel) ((restored ["tmp"]).elsewhere ["w"])
      ((restored ["w"]).tells_host none) (hstart _) hload'
  all_goals
    rw [hvalue]
    decide +kernel

end Config

/-! ## Files without links -/

theorem Path.isAbsolute_ofText_w : (Path.ofText "/w").isAbsolute = true := by
  decide +kernel

/-- A few files and variables without any link, seen from a directory. -/
def Surroundings.plain (files : List (Path × String)) (vars : List (String × String))
    (directory : Path) (h : directory.isAbsolute = true) : Surroundings where
  isPresent := fun path => .ok (files.any (·.1 == directory.join path))
  resolve := fun path => .ok (directory.join path)
  read := fun path =>
    match files.find? (·.1 == directory.join path) with
    | some (_, content) => .ok content.toUTF8
    | none => .error (.refused (.ofCodeFor 2 "No such file or directory" path.text))
  environment := fun name => (vars.find? (·.1 == name)).map Prod.snd
  isAbsolute_of_resolve := fun path resolved hresolved => by
    cases hresolved
    exact Path.isAbsolute_join h path

end LspHost
