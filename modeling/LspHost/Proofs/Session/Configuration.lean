import LspHost.Proofs.Faults
import LspHost.Proofs.Session.Calls
import LspHost.Proofs.Settings.Sections

/-!
# Answers to configuration requests

All sections of one request are looked up in one nested value, made from the configuration and two
answers of the resolver (`Session.answerConfiguration_eq`). So what the answers are depends on the
world through those two alone, and answers to sections that lead into one another fit together
(`Session.coheres_lookup`), however the world changes meanwhile.
-/

namespace LspHost

namespace Settings

/-! ## Sections of sections -/

/-- What is at a section of an answer: nothing unless the answer is a table. -/
def continued (answer : Value) (rest : String) : Value :=
  match answer with
  | .table t => lookup (.table t) (some rest)
  | _ => .null

/-- **No section and the empty one** are everything. -/
theorem lookup_everything (nested : Value) {named : Option String}
    (h : named = none ∨ named = some "") : lookup nested named = nested := by
  rcases h with rfl | rfl
  · rfl
  · rfl

/-- **A section that is named** is looked up in tables only. -/
theorem lookup_eq_continued (nested : Value) {rest : String} (h : rest ≠ "") :
    lookup nested (some rest) = continued nested rest := by
  cases nested with
  | table t => rfl
  | null | bool | int | float | string | list | moment =>
    obtain ⟨part, more, hparts⟩ := List.exists_cons_of_ne_nil (parts_ne_nil rest)
    rw [Snapshot.lookup_of_ne_empty _ h, hparts]
    rfl

/-- **Looking up a section of a section** is looking it up in the answer for that section. -/
theorem lookup_append (nested : Value) {section_ rest : String} (hsection : section_ ≠ "")
    (hrest : rest ≠ "") :
    lookup nested (some (section_ ++ "." ++ rest)) =
      continued (lookup nested (some section_)) rest := by
  have hwhole : section_ ++ "." ++ rest ≠ "" := by simp
  rw [Snapshot.lookup_of_ne_empty nested hwhole, Snapshot.lookup_of_ne_empty nested hsection,
    parts_append, lookupAt_append]
  cases lookupAt (parts section_) nested with
  | none => rfl
  | some found =>
    rw [Option.bind_some, Option.getD_some, ← lookup_eq_continued found hrest,
      Snapshot.lookup_of_ne_empty found hrest]

end Settings

/-! ## The settings of one moment -/

namespace Snapshot

open Settings

/-- The settings that report two answers of a resolver. -/
def reporting (c : Config) (python venv : Option Value) : Snapshot :=
  ofConfig c ++
    [(pythonPathKey, .freeze (orEmpty python)), (venvPathKey, .freeze (orEmpty venv))]

/-- The keys of all settings. -/
def keys : List String := passedThrough.map Prod.snd ++ [pythonPathKey, venvPathKey]

theorem map_fst_reporting (c : Config) (python venv : Option Value) :
    (reporting c python venv).map Prod.fst = keys := by
  simp only [reporting, ofConfig, keys, List.map_append, List.map_map, List.map_cons, List.map_nil]
  rfl

/-- **The keys of the settings** are apart, whatever the values are. -/
theorem isApart_reporting (c : Config) (python venv : Option Value) :
    (reporting c python venv).IsApart :=
  isApart_of_keys (map_fst_reporting c python venv) (by decide) (by decide +kernel)

/-- **An interpreter that is not there** is reported as an empty text. -/
theorem orEmpty_map_string (python : Option String) :
    orEmpty (python.map .string) = .string (python.getD "") := by
  cases python with
  | none => rfl
  | some text =>
    simp only [orEmpty, Option.map_some, Option.getD_some, Value.orElse, Value.isTruthy]
    by_cases hempty : text = "" <;> simp [hempty]

theorem withPaths_eq (c : Config) (python : Option String) (venv : Option Value) :
    withPaths c (python.getD "") (orEmpty venv) = reporting c (python.map .string) venv := by
  rw [withPaths, reporting, orEmpty_map_string]

/-- **A setting that is passed through** is among the settings as the configuration has it. -/
theorem mem_reporting_of_passedThrough {setting : Setting} {key : String}
    (h : (setting, key) ∈ passedThrough) (c : Config) (python venv : Option Value) :
    (key, .freeze (c.value setting)) ∈ reporting c python venv :=
  List.mem_append_left _ (List.mem_map_of_mem (f := fun entry : Setting × String =>
    (entry.2, Frozen.freeze (c.value entry.1))) h)

theorem ne_empty_of_passedThrough {setting : Setting} {key : String}
    (h : (setting, key) ∈ passedThrough) : key ≠ "" := by
  have hnone : "" ∉ passedThrough.map Prod.snd := by decide
  exact fun hempty => hnone (hempty ▸ List.mem_map_of_mem h)

/-- The nested settings that report two answers of a resolver. -/
def nested (c : Config) (python venv : Option Value) : Value :=
  match nest (reporting c python venv) with
  | .ok value => value
  | .error _ => .null

/-- **The settings can always be nested.** -/
theorem nest_reporting (c : Config) (python venv : Option Value) :
    nest (reporting c python venv) = .ok (nested c python venv) := by
  obtain ⟨value, hnest, -⟩ := (isApart_reporting c python venv).exists_nest
  rw [nested, hnest]

/-- **A setting** is at its key. -/
theorem lookup_nested {c : Config} {python venv : Option Value} {key : String} {value : Value}
    (h : (key, .freeze value) ∈ reporting c python venv) (hkey : key ≠ "") :
    lookup (nested c python venv) (some key) = value := by
  have hfound := lookup_key (isApart_reporting c python venv) (nest_reporting c python venv) h hkey
  rwa [Frozen.thaw_freeze] at hfound

/-- **The interpreter** is at its key. -/
theorem lookup_pythonPath (c : Config) (python venv : Option Value) :
    lookup (nested c python venv) (some pythonPathKey) = orEmpty python :=
  lookup_nested (List.mem_append_right _ (List.mem_cons_self ..)) (by decide)

/-- **The virtual environment** is at its key. -/
theorem lookup_venvPath (c : Config) (python venv : Option Value) :
    lookup (nested c python venv) (some venvPathKey) = orEmpty venv :=
  lookup_nested (List.mem_append_right _ (.tail _ (List.mem_cons_self ..))) (by decide)

/-- **Taking a snapshot** makes two calls of the resolver, and the settings report their answers. -/
theorem take_eq {σ : Type} (c : Config) (r : Resolver σ) (file : Option Path) :
    take c r file = (do
      let python ← r.python
      let venv ← r.venv file
      return (python.getD "", reporting c (python.map .string) venv)) := by
  unfold take
  simp only [withPaths_eq]

end Snapshot

/-! ## Requests -/

namespace Session

open Settings

variable {σ : Type}

/-- **A request for sections** makes one call of the resolver for the interpreter and one for the
virtual environment, both for the document opened last, and looks all sections up in what they
answered. -/
theorem answerConfiguration_eq (s : Session σ) (sections : List (Option String)) :
    s.answerConfiguration sections = (do
      let file := (← get).workspace.currentFile
      let python ← resolving (s.resolver.resolve .python file)
      let venv ← resolving (s.resolver.resolve .venv file)
      return sections.map (lookup (Snapshot.nested s.config python venv))) := by
  unfold answerConfiguration settings resolving
  simp only [Snapshot.take_eq, Resolver.resolve, Lens.lift_bind, Lens.lift_pure, bind_assoc,
    pure_bind, Snapshot.nest_reporting]
  rfl

/-- **Settings that are taken** report the interpreter beside them. -/
theorem exists_reporting_of_settings {s : Session σ} {st t : State σ} {python : String} {snapshot : Snapshot}
    (h : s.settings st = .ok (python, snapshot) t) :
    ∃ (found : Option String) (venv : Option Value), python = found.getD "" ∧
      snapshot = Snapshot.reporting s.config (found.map .string) venv := by
  unfold settings resolving at h
  rw [Attempt.get_bind, Snapshot.take_eq, Lens.lift_bind] at h
  obtain ⟨found, u, -, h⟩ := Attempt.bind_eq_ok h
  rw [Lens.lift_bind] at h
  obtain ⟨venv, v, -, h⟩ := Attempt.bind_eq_ok h
  cases h
  exact ⟨found, venv, rfl, rfl⟩

/-- **Once the settings are taken**, all sections are answered from them. -/
theorem exists_nest_of_settings {s : Session σ} {st t : State σ} {python : String}
    {snapshot : Snapshot} (h : s.settings st = .ok (python, snapshot) t) :
    ∃ everything, nest snapshot = .ok everything ∧ ∀ sections,
      s.answerConfiguration sections st = .ok (sections.map (lookup everything)) t := by
  obtain ⟨found, venv, -, hsnapshot⟩ := exists_reporting_of_settings h
  have hnest : nest snapshot = .ok (Snapshot.nested s.config (found.map .string) venv) := by
    rw [hsnapshot, Snapshot.nest_reporting]
  refine ⟨_, hnest, fun sections => ?_⟩
  unfold answerConfiguration
  rw [Attempt.bind_of_ok h]
  dsimp only
  rw [hnest]
  rfl

/-- Answers to a request for sections that fit together. -/
structure Coheres (c : Config) (sections : List (Option String)) (values : List Value) : Prop where
  /-- there is one for each section -/
  length : values.length = sections.length
  /-- a section of a section is the section of its answer -/
  section_of_section : ∀ (i j : Nat) (section_ rest : String), section_ ≠ "" → rest ≠ "" →
    sections[i]? = some (some section_) → sections[j]? = some (some (section_ ++ "." ++ rest)) →
    ∃ value, values[i]? = some value ∧ values[j]? = some (continued value rest)
  /-- a section is the section of everything -/
  section_of_everything : ∀ (i j : Nat) (named : Option String) (rest : String),
    (named = none ∨ named = some "") → rest ≠ "" →
    sections[i]? = some named → sections[j]? = some (some rest) →
    ∃ value, values[i]? = some value ∧ values[j]? = some (continued value rest)
  /-- what is passed through is as the configuration has it -/
  passed_through : ∀ (i : Nat) (setting : Setting) (key : String),
    (setting, key) ∈ Snapshot.passedThrough →
    sections[i]? = some (some key) → values[i]? = some (c.value setting)

/-- **Answers that are looked up in the settings of one moment** fit together. -/
theorem coheres_lookup (c : Config) (python venv : Option Value)
    (sections : List (Option String)) :
    Coheres c sections (sections.map (lookup (Snapshot.nested c python venv))) := by
  set everything := Snapshot.nested c python venv with heverything
  have hanswer : ∀ {i : Nat} {named : Option String}, sections[i]? = some named →
      (sections.map (lookup everything))[i]? = some (lookup everything named) := by
    intro i named hi
    rw [List.getElem?_map, hi, Option.map_some]
  refine ⟨List.length_map _, ?_, ?_, ?_⟩
  · intro i j section_ rest hsection hrest hi hj
    exact ⟨_, hanswer hi, by rw [hanswer hj, lookup_append everything hsection hrest]⟩
  · intro i j named rest hnamed hrest hi hj
    refine ⟨_, hanswer hi, ?_⟩
    rw [hanswer hj, lookup_everything everything hnamed, lookup_eq_continued everything hrest]
  · intro i setting key hkey hi
    have hentry := Snapshot.mem_reporting_of_passedThrough hkey c python venv
    rw [hanswer hi, heverything,
      Snapshot.lookup_nested hentry (Snapshot.ne_empty_of_passedThrough hkey)]

/-- **A configuration reply is one snapshot**, in a world that may answer differently at every call.
The resolver is called once for the interpreter and once for the virtual environment, however many
sections are asked for; if both calls answer then so does the request, one value for each section in
order, and the values fit together. -/
theorem coheres_of_answerConfiguration (s : Session σ) :
    (∃ everything : Option Value → Option Value → Value,
      (∀ python venv,
        nest (Snapshot.reporting s.config python venv) = .ok (everything python venv)) ∧
      ∀ sections, s.answerConfiguration sections = do
        let file := (← get).workspace.currentFile
        let python ← resolving (s.resolver.resolve .python file)
        let venv ← resolving (s.resolver.resolve .venv file)
        return sections.map (lookup (everything python venv))) ∧
    ∀ sections st values t, s.answerConfiguration sections st = .ok values t →
      Coheres s.config sections values := by
  refine ⟨⟨_, Snapshot.nest_reporting s.config, s.answerConfiguration_eq⟩, ?_⟩
  intro sections st values t h
  rw [s.answerConfiguration_eq, Attempt.get_bind] at h
  obtain ⟨python, u, -, h⟩ := Attempt.bind_eq_ok h
  obtain ⟨venv, v, -, h⟩ := Attempt.bind_eq_ok h
  cases h
  exact coheres_lookup s.config python venv sections

/-- Everything, two sections and a key in one request. -/
theorem coheres_of_nested_request :
    let s := facing .bare (losing fun _ => none)
    let st : State Unit := { scene := { world := () }, workspace := { root := s.root } }
    let sections := [none, some "python", some "python.analysis.logLevel", some "python.analysis"]
    ∃ values t, s.answerConfiguration sections st = .ok values t ∧
      Coheres s.config sections values ∧ values[2]? = some (.string "Warning") := by
  intro s st sections
  obtain ⟨answer, t, hsettings⟩ : ∃ answer t, s.settings st = .ok answer t :=
    Attempt.exists_eq_ok (by decide +kernel)
  obtain ⟨everything, -, hanswers⟩ := exists_nest_of_settings hsettings
  have hrun := hanswers sections
  have hcoheres := (coheres_of_answerConfiguration s).2 sections st _ t hrun
  refine ⟨_, t, hrun, hcoheres, ?_⟩
  have hlevel := hcoheres.passed_through 2 .logLevel _ (by decide) rfl
  exact hlevel.trans (by decide +kernel)

/-- A section that is empty asks for everything, and not for the settings below an empty part: what
is asked for with a dot in front is no section of its answer. -/
theorem empty_section_is_everything :
    let s := facing .bare (losing fun _ => none)
    let st : State Unit := { scene := { world := () }, workspace := { root := s.root } }
    ¬ ∀ sections values t, s.answerConfiguration sections st = .ok values t →
      ∀ (i j : Nat) (section_ rest : String), rest ≠ "" →
        sections[i]? = some (some section_) →
        sections[j]? = some (some (section_ ++ "." ++ rest)) →
        ∃ value, values[i]? = some value ∧ values[j]? = some (continued value rest) := by
  intro s st hall
  obtain ⟨values, t, hrun⟩ : ∃ values t,
      s.answerConfiguration [some "", some ".python"] st = .ok values t := by
    obtain ⟨answer, t, hsettings⟩ : ∃ answer t, s.settings st = .ok answer t :=
      Attempt.exists_eq_ok (by decide +kernel)
    obtain ⟨everything, -, hanswers⟩ := exists_nest_of_settings hsettings
    exact ⟨_, t, hanswers _⟩
  obtain ⟨everything, hfirst, hsecond⟩ :=
    hall _ values t hrun 0 1 "" "python" (by decide) rfl (by decide +kernel)
  -- the answers there are everything and nothing
  have hanswers : ((s.answerConfiguration [some "", some ".python"]).answer st).map
      (fun values => decide (values[1]? = values[0]?.map (continued · "python"))) =
        .ok false := by
    decide +kernel
  rw [Attempt.answer_of_ok hrun] at hanswers
  simp [Except.map, hfirst, hsecond] at hanswers

end Session

end LspHost
