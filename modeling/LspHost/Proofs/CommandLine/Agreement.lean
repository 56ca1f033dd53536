import LspHost.Proofs.CommandLine.Answers
import LspHost.Proofs.Config.PutAside
import LspHost.Proofs.Resolver.Fixed

/-!
# The programs agree

Two programs resolve the environment of a project: one from its configuration, the other from its
switches. Where both fix the same about the interpreter, a resolver cannot tell them apart
(`Config.FixesOnly.resolve_eq`), so in a world that stands still they print the same
(`CommandLine.programs_agree`). The settings report the same two answers, but they are printed only where
every value among them has a JSON form: a date that is passed through keeps them from it
(`CommandLine.settings_of_date`).
-/

namespace LspHost.CommandLine

variable {σ : Type} {W : σ → Prop}

/-! ## The programs -/

/-- A command line asks a program for a command, and names a root and a file. -/
structure Asks (program : Program) (command : Option String) (root : Path) (file : Option Path)
    (arguments : List String) (found : Found) : Prop where
  /-- it is understood -/
  parse : program.parse arguments = .ok { command, found }
  /-- the root -/
  root : found.root = root
  /-- the file -/
  file : found.file? = file

theorem serverMain_of_command {s : Surroundings σ} {root : Path} {file : Option Path} {name : String}
    {arguments : List String} {found : Found} (h : Asks serverProgram (some name) root file arguments found)
    {work : Work σ} (hwork : work? name = some work) (world : σ) :
    serverMain s arguments world = perform s work found world := by
  unfold serverMain
  rw [h.parse]
  simp only [Option.bind_some, hwork]

/-- **What is reported of an answer** is the text, or the empty one in place of none. -/
theorem orEmpty_of_text {answer : Option Value}
    (h : ∀ value, answer = some value → ∃ text, value = .string text) :
    Snapshot.orEmpty answer = answer.getD (.string "") := by
  cases answer with
  | none => rfl
  | some value =>
    obtain ⟨text, rfl⟩ := h value rfl
    exact Snapshot.orEmpty_map_string (some text)

theorem exists_orEmpty_eq {answer : Option Value}
    (h : ∀ value, answer = some value → ∃ text, value = .string text) :
    ∃ text, Snapshot.orEmpty answer = .string text := by
  rw [orEmpty_of_text h]
  cases answer with
  | none => exact ⟨"", rfl⟩
  | some value => exact h value rfl

/-- **Resolving ends with status 0** just where every answer is a text that is not empty. -/
theorem ending_eq_zero_iff {answer : Target → Except Fault (Option Value)}
    (htexts : ∀ target value, answer target = .ok (some value) → ∃ text, value = .string text)
    (asked : List Target) (json : Bool) :
    (Outcome.ofWork (do
      let answers ← findEach answer asked
      let text ← answers.text json
      return { ending := .ok (if answers.areComplete then 0 else 1), output := text ++ "\n" })).ending =
        .ok 0 ↔
      ∀ target ∈ asked, ∃ path, answer target = .ok (some (.string path)) ∧ path ≠ "" := by
  rw [← exists_areComplete_iff htexts asked]
  rcases hfound : findEach answer asked with e | answers
  · constructor
    · nofun
    · rintro ⟨answers, hnone, -⟩
      cases hnone
  · obtain ⟨text, htext⟩ := (areTexts_of_findEach htexts hfound).exists_text json
    dsimp only [bind, Except.bind]
    rw [htext]
    show (Except.ok (if answers.areComplete then 0 else 1) : Except Fault Nat) = .ok 0 ↔ _
    constructor
    · intro hzero
      refine ⟨answers, rfl, ?_⟩
      by_contra hincomplete
      rw [if_neg hincomplete] at hzero
      cases hzero
    · rintro ⟨_, ⟨⟩, hcomplete⟩
      rw [if_pos hcomplete]

/-! ## Settings that can be shown -/

/-- Everything that is passed through to the settings has a JSON form where it is put. -/
def IsShown (c : Config) : Prop :=
  ∀ passed ∈ Snapshot.passedThrough,
    Json.HasForm true (Settings.parts passed.2).length (c.value passed.1)

instance (c : Config) : Decidable (IsShown c) :=
  inferInstanceAs (Decidable (∀ passed ∈ Snapshot.passedThrough,
    Json.HasForm true (Settings.parts passed.2).length (c.value passed.1)))

theorem isShown_of_hasForm {c : Config} {python venv : Option Value}
    (h : Json.HasForm true 0 (Snapshot.nested c python venv)) : IsShown c := by
  rintro ⟨setting, key⟩ hpassed
  have hfound := Snapshot.lookupAt_key (Snapshot.isApart_reporting c python venv)
    (Snapshot.nest_reporting c python venv)
    (Snapshot.mem_reporting_of_passedThrough hpassed c python venv)
  have hform := h.of_lookupAt hfound
  rwa [Nat.zero_add, Frozen.thaw_freeze] at hform

/-- **Settings that report texts** have a JSON form just where everything that is passed through has
one. -/
theorem hasForm_nested_iff {c : Config} {python venv : Option Value}
    (hpython : ∀ value, python = some value → ∃ text, value = .string text)
    (hvenv : ∀ value, venv = some value → ∃ text, value = .string text) :
    Json.HasForm true 0 (Snapshot.nested c python venv) ↔ IsShown c := by
  refine ⟨isShown_of_hasForm, fun h => ?_⟩
  have hnest := Snapshot.nest_reporting c python venv
  rw [Snapshot.nest_eq] at hnest
  refine Json.HasForm.of_nestRows hnest fun row hrow => ?_
  obtain ⟨key, value, hentry, rfl⟩ := Snapshot.mem_rows.mp hrow
  have hkey : key ∈ Snapshot.keys :=
    Snapshot.map_fst_reporting c python venv ▸ List.mem_map_of_mem (f := Prod.fst) hentry
  have hshallow : ∀ key ∈ Snapshot.keys, (Settings.parts key).length < Value.depthLimit := by
    decide +kernel
  refine ⟨hshallow key hkey, ?_⟩
  rcases List.mem_append.mp hentry with hconfig | hresolved
  · obtain ⟨passed, hpassed, ⟨⟩⟩ := List.mem_map.mp hconfig
    rw [Frozen.thaw_freeze]
    exact h passed hpassed
  · obtain ⟨pythonText, hpython⟩ := exists_orEmpty_eq hpython
    obtain ⟨venvText, hvenv⟩ := exists_orEmpty_eq hvenv
    rw [hpython, hvenv] at hresolved
    simp only [List.mem_cons, Prod.mk.injEq, List.not_mem_nil, or_false] at hresolved
    rcases hresolved with ⟨-, rfl⟩ | ⟨-, rfl⟩
    · rw [Frozen.thaw_freeze]
      exact .of_string _ _ pythonText
    · rw [Frozen.thaw_freeze]
      exact .of_string _ _ venvText

section Still

variable {s : Surroundings σ} {view : LspHost.Surroundings} {root : Path} {c : Config} {scene : Scene σ}
  {venvPath pythonCommand : String} {file : Option Path} (hstill : s.host.IsStill W)
  (hview : s.host.Tells W view) (hroot : view.isPresent root = .ok true) (hscene : Scene.In W scene)
  (hload : (Config.load s.host root).answer scene = .ok c)

theorem answerAt_isText (hfixes : c.FixesOnly venvPath pythonCommand) {target : Target} {value : Value}
    (h : (resolverOf s c).answerAt file scene target = .ok (some value)) :
    ∃ text, value = .string text :=
  Resolver.isText_of_resolve (r := resolverOf s c) hfixes.isTextual_venvPath (Attempt.eq_ok_of_answer h)

include hstill hview hroot hscene hload

/-- **The command that resolves** does what it makes of the answers. -/
theorem outcome_resolve (hfixes : c.FixesOnly venvPath pythonCommand) {arguments : List String}
    {found : Found} (h : Asks serverProgram (some "resolve") root file arguments found) {world : σ}
    (hworld : W world) :
    (serverMain s arguments world).1.outcome = .ofWork (do
      let asked ← targets found
      let answers ← findEach ((resolverOf s c).answerAt file scene) asked
      let text ← answers.text (found.has "--json")
      return { ending := .ok (if answers.areComplete then 0 else 1), output := text ++ "\n" }) := by
  obtain ⟨-, rfl, rfl⟩ := id h
  rw [serverMain_of_command h rfl]
  exact outcome_perform hview hworld hroot (hload ▸ (Config.isSettled_load hview _).yields hscene) rfl
    (yields_resolveCommand hstill hscene fun target value => answerAt_isText hfixes)

/-- **The command that shows the settings** does what it makes of the answers. -/
theorem outcome_settings {arguments : List String} {found : Found}
    (h : Asks serverProgram (some "settings") root file arguments found) {world : σ} (hworld : W world) :
    (serverMain s arguments world).1.outcome = .ofWork (do
      let python ← (resolverOf s c).answerAt file scene .python
      let venv ← (resolverOf s c).answerAt file scene .venv
      let text ← Json.prettySorted (Snapshot.nested c python venv)
      return { ending := .ok 0, output := text ++ "\n" }) := by
  obtain ⟨-, rfl, rfl⟩ := id h
  rw [serverMain_of_command h rfl]
  exact outcome_perform hview hworld hroot (hload ▸ (Config.isSettled_load hview _).yields hscene) rfl
    (yields_settingsCommand hstill hscene)

/-- **Settings with a date or a time among them** are not printed, whatever the answers are. -/
theorem outcome_settings_of_moment {setting : Setting} {key : String}
    (hpassed : (setting, key) ∈ Snapshot.passedThrough) {moment : Moment}
    (hmoment : c.value setting = .moment moment) {arguments : List String} {found : Found}
    (h : Asks serverProgram (some "settings") root file arguments found) {world : σ} (hworld : W world) :
    (serverMain s arguments world).1.output = "" ∧
      ∀ status, (serverMain s arguments world).1.ending ≠ .ok status := by
  have hunwritten : ∀ python venv text,
      Json.prettySorted (Snapshot.nested c python venv) ≠ .ok text := by
    intro python venv text htext
    have hform := isShown_of_hasForm ⟨text, htext⟩ _ hpassed
    rw [hmoment] at hform
    exact Json.not_hasForm_moment _ _ _ hform
  rw [← Report.output_outcome, ← Report.ending_outcome,
    outcome_settings hstill hview hroot hscene hload h hworld]
  dsimp only [bind, Except.bind]
  rcases (resolverOf s c).answerAt file scene .python with e | python
  · exact ⟨rfl, nofun⟩
  rcases (resolverOf s c).answerAt file scene .venv with e | venv
  · exact ⟨rfl, nofun⟩
  dsimp only
  rcases hwritten : Json.prettySorted (Snapshot.nested c python venv) with e | text
  · exact ⟨rfl, nofun⟩
  · exact absurd hwritten (hunwritten python venv text)

/-- **The resolving program** with switches that fix the same does what it makes of the same answers. -/
theorem outcome_resolver (hfixes : c.FixesOnly venvPath pythonCommand) {arguments : List String}
    {found : Found} (h : Asks resolverProgram none root file arguments found)
    (hvenvPath : found.argument? "--venv-override" = some venvPath)
    (hpythonCommand : found.argument? "--python-command" = some pythonCommand) {world : σ}
    (hworld : W world) :
    (resolverMain s arguments world).1.outcome = .ofWork (do
      let answers ← findEach ((resolverOf s c).answerAt file scene) Target.all
      let text ← answers.text (found.has "--json")
      return { ending := .ok 0, output := text ++ "\n" }) := by
  obtain ⟨hparse, rfl, rfl⟩ := id h
  have hresolve : view.resolve found.root = .ok c.root :=
    (Config.eq_ofSources_of_load hview hscene (Attempt.eq_ok_of_answer hload)).1
  have hsame : (Resolver.mk s.host found.overrides c.root).answerAt found.file? scene =
      (resolverOf s c).answerAt found.file? scene := by
    have hoverrides : found.overrides =
        { venvPath := .string venvPath, pythonCommand := .string pythonCommand } := by
      rw [Found.overrides, hvenvPath, hpythonCommand]
      rfl
    funext target
    unfold Resolver.answerAt resolverOf
    rw [hoverrides, hfixes.resolve_eq]
  have hwork := yields_resolveProject hstill hscene hview hroot hresolve
  dsimp only at hwork
  rw [hsame] at hwork
  unfold resolverMain
  rw [hparse]
  exact (outcome_reportBare _ _).trans (congrArg Outcome.ofWork (hwork { world } hworld).1)

/-- **Both programs print the same** for the same form of output. -/
theorem output_resolve_eq (hfixes : c.FixesOnly venvPath pythonCommand) {arguments arguments' : List String}
    {found found' : Found} (h : Asks serverProgram (some "resolve") root file arguments found)
    (hkind : found.argument? "--kind" = none) (h' : Asks resolverProgram none root file arguments' found')
    (hvenvPath : found'.argument? "--venv-override" = some venvPath)
    (hpythonCommand : found'.argument? "--python-command" = some pythonCommand)
    (hjson : found'.has "--json" = found.has "--json") {world world' : σ} (hworld : W world)
    (hworld' : W world') :
    (serverMain s arguments world).1.output = (resolverMain s arguments' world').1.output := by
  have hasked : targets found = .ok Target.all := by
    rw [targets, hkind]
  have houtcome := outcome_resolve hstill hview hroot hscene hload hfixes h hworld
  have houtcome' := outcome_resolver hstill hview hroot hscene hload hfixes h' hvenvPath hpythonCommand
    hworld'
  rw [hasked] at houtcome
  rw [hjson] at houtcome'
  rw [← Report.output_outcome, ← Report.output_outcome, houtcome, houtcome']
  dsimp only [bind, Except.bind]
  rcases findEach ((resolverOf s c).answerAt file scene) Target.all with e | answers
  · rfl
  · dsimp only
    rcases answers.text (found.has "--json") with e | text
    · rfl
    · rfl

/-- **Resolving succeeds** just where every answer that was asked for is a text that is not empty. -/
theorem ending_resolve_iff (hfixes : c.FixesOnly venvPath pythonCommand) {arguments : List String}
    {found : Found} (h : Asks serverProgram (some "resolve") root file arguments found) {world : σ}
    (hworld : W world) :
    (serverMain s arguments world).1.ending = .ok 0 ↔
      ∃ asked, targets found = .ok asked ∧ ∀ target ∈ asked,
        ∃ path, (resolverOf s c).answerAt file scene target = .ok (some (.string path)) ∧ path ≠ "" := by
  rw [← Report.ending_outcome, outcome_resolve hstill hview hroot hscene hload hfixes h hworld]
  rcases targets found with e | asked
  · exact ⟨nofun, nofun⟩
  have htexts : ∀ target value, (resolverOf s c).answerAt file scene target = .ok (some value) →
      ∃ text, value = .string text :=
    fun target value => answerAt_isText hfixes
  refine (ending_eq_zero_iff htexts asked (found.has "--json")).trans ⟨fun hall => ⟨asked, rfl, hall⟩, ?_⟩
  rintro ⟨_, ⟨⟩, hall⟩
  exact hall

/-- **Where both are answered** the settings that report the answers are printed, if they have a JSON
form. -/
theorem outcome_settings_of_answers {arguments : List String} {found : Found}
    (h : Asks serverProgram (some "settings") root file arguments found) {world : σ} (hworld : W world)
    {python venv : Option Value} (hpython : (resolverOf s c).answerAt file scene .python = .ok python)
    (hvenv : (resolverOf s c).answerAt file scene .venv = .ok venv) :
    (serverMain s arguments world).1.outcome =
      match Json.prettySorted (Snapshot.nested c python venv) with
      | .ok text => ⟨.ok 0, text ++ "\n"⟩
      | .error e => ⟨.error e, ""⟩ := by
  rw [outcome_settings hstill hview hroot hscene hload h hworld, hpython, hvenv]
  dsimp only [bind, Except.bind]
  cases Json.prettySorted (Snapshot.nested c python venv) <;> rfl

end Still

/-! ## Projects with a file of their own -/

/-- A project in the current directory with nothing but a file of its own, where every command is
found. -/
def ofOwnFile (text : String) : Surroundings Unit where
  host := { (view text).host with lookup := fun name => pure (name.string?.map ("/bin/" ++ ·)) }
  link := fun _ => pure none
  awaitExit := pure ()
  openLog := fun _ => pure ()
  writeLog := fun _ _ => pure ()
where
  view (text : String) : LspHost.Surroundings :=
    .plain [(Path.ofText "/w", ""), (Path.ofText "/w/.serverlink.toml", text)] [] (Path.ofText "/w")
      Path.isAbsolute_ofText_w

theorem tells_ofOwnFile (text : String) :
    (ofOwnFile text).host.Tells (fun _ => True) (ofOwnFile.view text) :=
  let h := (ofOwnFile.view text).tells_host
  { isPresent := h.isPresent, resolve := h.resolve, read := h.read, environment := h.environment }

theorem isStill_ofOwnFile (text : String) : (ofOwnFile text).host.IsStill fun _ => True where
  isDirectory := fun path => .of_ofExcept (((ofOwnFile.view text).isPresent path).map not)
  isPresent := fun path => ((tells_ofOwnFile text).isPresent path).isSettled
  resolve := fun path => ((tells_ofOwnFile text).resolve path).isSettled
  read := fun path => ((tells_ofOwnFile text).read path).isSettled
  lookup := fun _ => .of_pure _
  remoteLookup := nofun
  run := fun _ _ _ => .of_throw _
  environment := fun name => ((tells_ofOwnFile text).environment name).isSettled

theorem isPresent_ofOwnFile (text : String) : (ofOwnFile.view text).isPresent Path.here = .ok true := by
  have hhere : (Path.ofText "/w").join Path.here = Path.ofText "/w" := by decide +kernel
  simp only [ofOwnFile.view, LspHost.Surroundings.plain, hhere, List.any_cons, beq_self_eq_true,
    Bool.true_or]

/-- **What can be computed** and checked is there. -/
theorem exists_of_map_decide {ε α : Type} {x : Except ε α} {P : α → Prop} [DecidablePred P]
    (h : x.map (fun a => decide (P a)) = .ok true) : ∃ a, x = .ok a ∧ P a := by
  cases x with
  | error e => cases h
  | ok a => exact ⟨a, rfl, of_decide_eq_true (Except.ok.inj h)⟩

/-- A configuration of such a project fixes the virtual environment alone, and both answers are found. -/
abbrev FindsBoth (text : String) (c : Config) : Prop :=
  c.FixesOnly "/v" "python" ∧
    (resolverOf (ofOwnFile text) c).answerAt none { world := () } .python =
      .ok (some (.string "/bin/python")) ∧
    (resolverOf (ofOwnFile text) c).answerAt none { world := () } .venv = .ok (some (.string "/v"))

/-- A command line names a command and nothing else. -/
theorem asks_of_parse {name : String} (h : ((serverProgram.parse [name]).map fun request =>
    decide (request.command = some name ∧ request.found = {})) = .ok true) :
    Asks serverProgram (some name) Path.here none [name] {} := by
  obtain ⟨⟨command, found⟩, hparse, rfl, rfl⟩ := exists_of_map_decide h
  exact ⟨hparse, by decide +kernel, rfl⟩

/-! ## Agreement -/

/-- **The programs agree.** Let a project be there in a world that stands still, and its configuration fix
a virtual environment and an interpreter command, either of which may be empty, and nothing else about the
interpreter. Then

* resolving everything prints the same as the resolving program with switches that fix the same, in
  either form;
* resolving ends with status 0 just where every answer that was asked for is a text that is not empty;
* the settings are those that report the two answers, an empty text in place of none, and they are
  printed just where everything that is passed through to them has a JSON form. -/
theorem programs_agree {s : Surroundings σ} {view : LspHost.Surroundings} {root : Path} {c : Config}
    {scene : Scene σ} {venvPath pythonCommand : String} (hstill : s.host.IsStill W)
    (hview : s.host.Tells W view) (hroot : view.isPresent root = .ok true) (hscene : Scene.In W scene)
    (hload : (Config.load s.host root).answer scene = .ok c)
    (hfixes : c.FixesOnly venvPath pythonCommand) (file : Option Path) :
    let answer := (resolverOf s c).answerAt file scene
    (∀ arguments found, Asks serverProgram (some "resolve") root file arguments found →
      (found.argument? "--kind" = none → ∀ arguments' found',
        Asks resolverProgram none root file arguments' found' →
        found'.argument? "--venv-override" = some venvPath →
        found'.argument? "--python-command" = some pythonCommand →
        found'.has "--json" = found.has "--json" → ∀ world world', W world → W world' →
          (serverMain s arguments world).1.output = (resolverMain s arguments' world').1.output) ∧
      ∀ world, W world → ((serverMain s arguments world).1.ending = .ok 0 ↔
        ∃ asked, targets found = .ok asked ∧
          ∀ target ∈ asked, ∃ path, answer target = .ok (some (.string path)) ∧ path ≠ "")) ∧
    ∀ arguments found, Asks serverProgram (some "settings") root file arguments found →
      ∀ world, W world → ∀ python venv, answer .python = .ok python → answer .venv = .ok venv →
        ∃ everything,
          Settings.lookup everything (some "python.pythonPath") = python.getD (.string "") ∧
          Settings.lookup everything (some "python.venvPath") = venv.getD (.string "") ∧
          ((serverMain s arguments world).1.outcome = match Json.prettySorted everything with
            | .ok text => ⟨.ok 0, text ++ "\n"⟩
            | .error e => ⟨.error e, ""⟩) ∧
          ((∃ text, Json.prettySorted everything = .ok text) ↔ IsShown c) := by
  intro answer
  have htexts : ∀ {target found}, answer target = .ok found →
      ∀ value, found = some value → ∃ text, value = .string text :=
    fun hanswer value hvalue => answerAt_isText hfixes (hvalue ▸ hanswer)
  refine ⟨fun arguments found h => ⟨?_, ?_⟩, ?_⟩
  · intro hkind arguments' found' h' hvenvPath hpythonCommand hjson world world' hworld hworld'
    exact output_resolve_eq hstill hview hroot hscene hload hfixes h hkind h' hvenvPath hpythonCommand
      hjson hworld hworld'
  · intro world hworld
    exact ending_resolve_iff hstill hview hroot hscene hload hfixes h hworld
  · intro arguments found h world hworld python venv hpython hvenv
    refine ⟨Snapshot.nested c python venv, ?_, ?_, ?_, ?_⟩
    · rw [← orEmpty_of_text (htexts hpython)]
      exact Snapshot.lookup_pythonPath c python venv
    · rw [← orEmpty_of_text (htexts hvenv)]
      exact Snapshot.lookup_venvPath c python venv
    · exact outcome_settings_of_answers hstill hview hroot hscene hload h hworld hpython hvenv
    · exact hasForm_nested_iff (htexts hpython) (htexts hvenv)

/-- What fixes the virtual environment and nothing else. -/
def fixedVenv : String := "[python]\nvenv_path = \"/v\"\n"

/-- The programs agree on a virtual environment that is fixed; all is found, and the settings are
shown. -/
theorem programs_agree_on_fixed_venv :
    (serverMain (ofOwnFile fixedVenv) ["resolve"] ()).1.output =
        (resolverMain (ofOwnFile fixedVenv) ["--venv-override=/v", "--python-command", "python"] ()).1.output ∧
      (serverMain (ofOwnFile fixedVenv) ["resolve"] ()).1.ending = .ok 0 ∧
      ∃ everything, Settings.lookup everything (some "python.venvPath") = .string "/v" ∧
        ∃ text, Json.prettySorted everything = .ok text ∧
          (serverMain (ofOwnFile fixedVenv) ["settings"] ()).1.outcome = ⟨.ok 0, text ++ "\n"⟩ := by
  have hconfig : ((Config.load (ofOwnFile fixedVenv).host Path.here).answer { world := () }).map
      (fun c => decide (FindsBoth fixedVenv c ∧ IsShown c)) = .ok true := by
    decide +kernel
  obtain ⟨c, hload, ⟨hfixes, hpython, hvenv⟩, hshown⟩ := exists_of_map_decide hconfig
  have hswitches : (resolverProgram.parse ["--venv-override=/v", "--python-command", "python"]).map
      (fun request => decide (request.command = none ∧ request.found.root = Path.here ∧
        request.found.file? = none ∧ request.found.argument? "--venv-override" = some "/v" ∧
        request.found.argument? "--python-command" = some "python" ∧
        request.found.has "--json" = false)) = .ok true := by
    decide +kernel
  obtain ⟨⟨command, found⟩, hparse, hcommand, hroot, hfile, hvenvPath, hpythonCommand, hjson⟩ :=
    exists_of_map_decide hswitches
  have hscene : Scene.In (fun _ => True) ({ world := () } : Scene Unit) := trivial
  have hagree := programs_agree (isStill_ofOwnFile fixedVenv) (tells_ofOwnFile fixedVenv)
    (isPresent_ofOwnFile fixedVenv) hscene hload hfixes none
  have hasks : Asks serverProgram (some "resolve") Path.here none ["resolve"] {} :=
    asks_of_parse (by decide +kernel)
  have hasks' : Asks resolverProgram none Path.here none
      ["--venv-override=/v", "--python-command", "python"] found := by
    refine ⟨?_, hroot, hfile⟩
    rw [hparse, ← hcommand]
  have hkind : ({} : Found).argument? "--kind" = none := by decide +kernel
  have hform : found.has "--json" = ({} : Found).has "--json" := hjson.trans (by decide +kernel)
  have hasked : targets {} = .ok Target.all := by rw [targets, hkind]
  obtain ⟨hsame, hstatus⟩ := hagree.1 _ _ hasks
  refine ⟨hsame hkind _ found hasks' hvenvPath hpythonCommand hform () () trivial trivial, ?_, ?_⟩
  · refine (hstatus () trivial).mpr ⟨Target.all, hasked, ?_⟩
    intro target _
    cases target with
    | python => exact ⟨"/bin/python", hpython, by decide⟩
    | venv => exact ⟨"/v", hvenv, by decide⟩
  · have hsettings : Asks serverProgram (some "settings") Path.here none ["settings"] {} :=
      asks_of_parse (by decide +kernel)
    obtain ⟨everything, -, hvenvPath, houtcome, hwritten⟩ :=
      hagree.2 _ _ hsettings () trivial _ _ hpython hvenv
    obtain ⟨text, htext⟩ := hwritten.mpr hshown
    rw [htext] at houtcome
    exact ⟨everything, hvenvPath, text, htext, houtcome⟩

/-- What fixes the same, and has a date among what is passed through. -/
def dated : String := "[python]\nvenv_path = \"/v\"\n\n[analysis]\nlog_level = 1979-05-27\n"

/-- **A date among the settings** keeps them from being printed, though both answers are found. -/
theorem settings_of_date :
    (∃ c, (Config.load (ofOwnFile dated).host Path.here).answer { world := () } = .ok c ∧
      FindsBoth dated c) ∧
    Asks serverProgram (some "settings") Path.here none ["settings"] {} ∧
    (serverMain (ofOwnFile dated) ["settings"] ()).1.output = "" ∧
    ∀ status, (serverMain (ofOwnFile dated) ["settings"] ()).1.ending ≠ .ok status := by
  have hconfig : ((Config.load (ofOwnFile dated).host Path.here).answer { world := () }).map
      (fun c => decide (FindsBoth dated c ∧ c.value .logLevel = .moment (.date ⟨1979, 5, 27⟩))) =
        .ok true := by
    decide +kernel
  obtain ⟨c, hload, hfinds, hdate⟩ := exists_of_map_decide hconfig
  have hasks : Asks serverProgram (some "settings") Path.here none ["settings"] {} :=
    asks_of_parse (by decide +kernel)
  have hscene : Scene.In (fun _ => True) ({ world := () } : Scene Unit) := trivial
  exact ⟨⟨c, hload, hfinds⟩, hasks, outcome_settings_of_moment (isStill_ofOwnFile dated)
    (tells_ofOwnFile dated) (isPresent_ofOwnFile dated) hscene hload
    (by decide : (Setting.logLevel, "python.analysis.logLevel") ∈ Snapshot.passedThrough) hdate hasks trivial⟩

end LspHost.CommandLine
