import LspHost.Proofs.Resolver.Endings
import LspHost.Proofs.Resolver.Rules

/-!
# Which answer comes first

In surroundings that respond (`Resolver.Responds`), but may respond differently at every call, each step of
a resolver asks what its rule says, and so does the whole: `Resolver.resolve_precedence` has it that
resolving gives an answer, and what follows from the rules for the second tool and for empty answers.

Each step is taken on a host that is recorded; that it is recorded makes no difference to the answer.
-/

namespace LspHost

variable {σ : Type}

/-- **The names to look for** are texts if the one that the user fixed is. -/
theorem Search.names_eq {o : Overrides} (h : o.venvDirectory.IsTextual) :
    names o = (wanted o).map .string := by
  rw [names, wanted, List.map_append]
  congr 1
  unfold Value.given?
  split
  · next hgiven =>
    obtain ⟨text, htext⟩ := h.eq_string hgiven
    rw [htext]
    rfl
  · rfl

namespace Resolver

/-! ## Surroundings that respond -/

/-- The checks made for a project and a file answer, and a command that is run gives a text or fails as a
query. -/
structure Responds (r : Resolver σ) (file : Option Path) : Prop where
  /-- what the user fixed is textual -/
  overrides : r.overrides.IsTextual
  /-- commands are looked up -/
  lookup : ∀ name, (r.host.lookup (.string name)).Answers
  /-- commands are looked up on the remote side, if there is one -/
  remoteLookup : ∀ lookup ∈ r.host.remoteLookup, ∀ name, (lookup (.string name)).Answers
  /-- the markers of the tools are looked for -/
  marker : ∀ tool : Tool, (r.host.isPresent (r.root.joinText tool.markerFile)).Answers
  /-- it is checked whether the file is a directory -/
  start : ∀ file' ∈ file, (r.host.isDirectory (r.root.join file')).Answers
  /-- directories are looked for upward -/
  upward : ∀ start ∈ Search.starts r.root file, ∀ name ∈ Search.wanted r.overrides,
    ∀ path ∈ Search.candidates start name, (r.host.isDirectory path).Answers
  /-- a command gives a text or fails as a query -/
  run : ∀ program arguments directory s,
    (∃ output t, r.host.run program arguments directory s = .ok output t) ∨
      ∃ query t, r.host.run program arguments directory s = .error (.queryFailed query) t

variable {r : Resolver σ} {file : Option Path} (h : r.Responds file)

include h

/-! ## Following the rules -/

/-- **The program of a tool** is found by the rules. -/
theorem Responds.asks_locate (tool : Tool) :
    (tool.locate (r.overrides.executable tool) r.host.recorded.lookup).Asks
      (tool.Locates r.overrides) := by
  unfold Tool.locate
  split
  · next hfixed => exact .of_pure (.fixed hfixed)
  · next hfree =>
    refine .recorded_bind (h.lookup tool.name) fun found => .of_pure ?_
    exact .lookedUp (by simpa using hfree)

/-- **Whether a tool manages the project** is found by the rules. -/
theorem Responds.asks_ofProject? (tool : Tool) :
    (tool.ofProject? r.host.recorded r.overrides r.root).Asks
      (tool.Manages r.overrides r.root) := by
  refine .bind (h.asks_locate tool) fun trace program hlocate => ?_
  cases program with
  | none =>
    refine .note_bind _ _ _ (.of_pure ?_)
    rw [List.append_nil]
    exact .missing hlocate
  | some program =>
    refine .recorded_bind (h.marker tool) fun isThere => ?_
    have hmanages : tool.Manages r.overrides r.root
        (trace ++ [.presence (r.root.joinText tool.markerFile) (.ok isThere)])
        (if isThere = true then some program else none) := .located hlocate
    cases isThere with
    | true => exact .of_pure hmanages
    | false => exact .of_pure hmanages

/-- **The tool of the project** is found by the rules. -/
theorem Responds.asks_detectAmong (tools : List Tool) :
    (Tool.detectAmong r.host.recorded r.overrides r.root tools).Asks
      (Tool.Detects r.overrides r.root tools) := by
  induction tools with
  | nil => exact .of_pure .nil
  | cons tool rest ih =>
    refine .bind (h.asks_ofProject? tool) fun trace program hmanages => ?_
    cases program with
    | none => exact ih.mono fun trace' answer hrest => .passed hmanages hrest
    | some program =>
      refine .note_bind _ _ _ (.of_pure ?_)
      rw [List.append_nil]
      exact .found hmanages

/-- **A command whose failure is absorbed** ends everything where it fails, and else the rest is asked. -/
theorem Responds.asks_settle_bind {α : Type} {program : Value} {arguments : List String}
    {directory : Option String} {next : String → Act (σ × List Exchange) α}
    {P : List Exchange → Except FailedQuery α → Prop}
    (hfailed : ∀ query, P [.run program arguments directory (.error (.queryFailed query))]
      (.error query))
    (hnext : ∀ output, (Act.settle (next output)).Asks fun rest reply =>
      P (.run program arguments directory (.ok output) :: rest) reply) :
    (Act.settle (r.host.recorded.run program arguments directory >>= next)).Asks P := by
  intro s
  rcases h.run program arguments directory (Exchange.sceneLens.get s) with
    ⟨output, t, hrun⟩ | ⟨query, t, hrun⟩
  · have hrecorded : (r.host.recorded.run program arguments directory >>= next) s = next output _ :=
      Attempt.bind_of_ok (Act.recorded_of_ok hrun) next
    obtain ⟨reply, u, rest, hsettle, hu, hreply⟩ := hnext output
      ((Exchange.sceneLens.set t s).record (.run program arguments directory (.ok output)))
    refine ⟨reply, u, .run program arguments directory (.ok output) :: rest, ?_, ?_, hreply⟩
    · unfold Act.settle at hsettle ⊢
      rw [hrecorded]
      exact hsettle
    · rw [hu, List.append_cons]
      rfl
  · have hrecorded : (r.host.recorded.run program arguments directory >>= next) s =
        .error (.queryFailed query) _ := Attempt.bind_of_error (Act.recorded_of_error hrun) next
    exact ⟨.error query, _, [_], Act.settle_of_queryFailed hrecorded, rfl, hfailed query⟩

/-- **What a tool reports** is asked by the rules. -/
theorem Responds.asks_settle (tool : Tool) (program : Value) :
    (Act.settle (tool.query .bin r.host.recorded.run program r.root)).Asks fun trace reply =>
      tool.Reports r.root program trace reply.toOption.join := by
  cases tool with
  | pipenv =>
    refine h.asks_settle_bind (fun query => .pipenvFailed) fun venv => ?_
    refine h.asks_settle_bind (fun query => .pipenvHalf) fun python => .of_pure ?_
    rw [Environment.ofPaths?_eq]
    exact .pipenv
  | poetry =>
    refine h.asks_settle_bind (fun query => .poetryFailed) fun venv => ?_
    have hreports : Tool.poetry.Reports r.root program
        [.run program ["env", "info", "-p"] (some r.root.text) (.ok venv)]
        (if venv = "" then none
          else some { venv, python := Layout.bin.interpreterOf venv, tool := .poetry }) := .poetry
    by_cases hempty : venv = ""
    · rw [if_pos hempty] at hreports
      subst hempty
      exact .of_pure hreports
    · have hnonempty : ¬ venv.isEmpty = true := by simpa using hempty
      rw [if_neg hempty] at hreports
      rw [if_neg hnonempty, Environment.ofPaths?_eq, if_neg (by
        simp [hempty, Layout.interpreterOf_ne_empty])]
      exact .of_pure hreports

theorem Responds.asks_ask (tool : Tool) (program : Value) :
    ((r.on r.host.recorded).ask tool program).Asks (tool.Reports r.root program) := by
  refine .bind (h.asks_settle tool program) fun trace reply hreports => ?_
  rcases reply with query | _ | e
  all_goals
    refine .note_bind _ _ _ (.of_pure ?_)
    rw [List.append_nil]
    exact hreports

/-- **The tool of the project** is found and asked by the rules. -/
theorem Responds.asks_query : (r.on r.host.recorded).query.Asks r.Reported := by
  refine .bind (h.asks_detectAmong Tool.all) fun trace detected hdetects => ?_
  rcases detected with _ | ⟨tool, program⟩
  · refine .of_pure ?_
    rw [List.append_nil]
    exact .unmanaged hdetects
  · exact (h.asks_ask tool program).mono fun trace' answer hreports => .managed hdetects hreports

/-- **The interpreter command** is looked up by the rules. -/
theorem Responds.asks_searchInterpreter : (r.on r.host.recorded).searchInterpreter.Asks
    fun trace found => r.Searches file .python trace (found.map .string) := by
  obtain ⟨command, hcommand⟩ := h.overrides.exists_command
  have hhere : (r.overrides.preferRemote.isTruthy = true → r.host.remoteLookup = none) →
      (r.host.recorded.lookup r.command).Asks
        fun trace found => r.Searches file .python trace (found.map .string) := by
    intro hnone
    refine Act.Asks.of_answers ?_ fun found => .here hnone
    rw [Resolver.command, hcommand]
    exact h.lookup command
  unfold searchInterpreter on Host.recorded
  dsimp only
  rcases hprefer : r.overrides.preferRemote.isTruthy with _ | _
  · exact hhere fun htrue => by cases hprefer.symm.trans htrue
  · rcases hremote : r.host.remoteLookup with _ | lookup
    · exact hhere fun _ => hremote
    · refine Act.Asks.of_answers ?_ fun found => .remote hprefer (by simp [hremote])
      rw [hcommand]
      exact h.remoteLookup lookup hremote command

/-- **The start of the search** is found by the rules. -/
theorem Responds.asks_start : (Search.start r.host.recorded r.root file).Asks
    fun trace start => Search.Starts r.root file trace start := by
  cases file with
  | none => exact .of_pure .root
  | some file =>
    refine .recorded_bind (h.start file rfl) fun isThere => ?_
    have hstarts : Search.Starts r.root (some file) [.directory (r.root.join file) (.ok isThere)]
        (if isThere = true then r.root.join file else (r.root.join file).parent) := .file
    cases isThere with
    | true => exact .of_pure hstarts
    | false => exact .of_pure hstarts

omit h in
/-- **The first directory** of some paths is found by the rules. -/
theorem asks_firstDirectory {host : Host σ} {paths : List Path}
    (hpaths : ∀ path ∈ paths, (host.isDirectory path).Answers) :
    (Search.firstDirectory host.recorded paths).Asks (Search.Walks paths) := by
  induction paths with
  | nil => exact .of_pure .nil
  | cons path rest ih =>
    obtain ⟨hpath, hrest⟩ := List.forall_mem_cons.mp hpaths
    refine .recorded_bind hpath fun isThere => ?_
    cases isThere with
    | true => exact .of_pure .found
    | false => exact (ih hrest).mono fun trace answer hwalks => .passed hwalks

omit h in
/-- **The nearest directory** of the first name that has one is found by the rules. -/
theorem asks_upwardAmong {host : Host σ} {start : Path} {names : List String}
    (hnames : ∀ name ∈ names, ∀ path ∈ Search.candidates start name, (host.isDirectory path).Answers) :
    (Search.upwardAmong host.recorded start (names.map .string)).Asks
      (Search.Walks (names.flatMap (Search.candidates start))) := by
  induction names with
  | nil => exact .of_pure .nil
  | cons name rest ih =>
    obtain ⟨hname, hrest⟩ := List.forall_mem_cons.mp hnames
    refine .bind (asks_firstDirectory hname) fun trace found hwalks => ?_
    cases found with
    | none =>
      exact (ih hrest).mono fun trace' answer hrest => by
        rw [List.flatMap_cons]
        exact hwalks.append hrest
    | some found =>
      refine .note_bind _ _ _ (.of_pure ?_)
      rw [List.append_nil, List.flatMap_cons]
      exact hwalks.stop _

/-- **The virtual environment** is searched for by the rules. -/
theorem Responds.asks_searchVenv :
    (Search.venv r.host.recorded r.overrides r.root file).Asks fun trace found =>
      r.Searches file .venv trace (found.map fun path => .string path.text) := by
  refine .bind h.asks_start fun trace start hstarts => ?_
  rw [Search.names_eq h.overrides.venvDirectory]
  exact (asks_upwardAmong (h.upward start hstarts.mem_starts)).mono fun trace' found hwalks =>
    .upward hstarts hwalks

/-! ## Resolving -/

/-- **What the tool of the project reports** is asked by the rules where nothing is remembered. -/
theorem Responds.recorded_viaTool (scene : Scene (σ × List Exchange)) :
    ∃ reported t trace, (r.on r.host.recorded).viaTool (.fresh scene) = .ok reported t ∧
      t.scene.world.2 = scene.world.2 ++ trace ∧ r.Reported trace reported := by
  obtain ⟨reported, t, trace, hquery, ht, hreported⟩ := h.asks_query scene
  have hviaTool := (r.on r.host.recorded).viaTool_of_empty (m := .fresh scene) rfl
  rw [Memory.fresh, hquery] at hviaTool
  exact ⟨reported, _, trace, hviaTool, ht, hreported⟩

/-- **Without a tool** the rest is asked by the rules, whatever is remembered. -/
theorem Responds.recorded_search (target : Target) {m t : Memory (σ × List Exchange)}
    (hfree : r.IsFree target) (hviaTool : (r.on r.host.recorded).viaTool m = .ok none t) :
    ∃ answer u trace, (r.on r.host.recorded).resolve target file m = .ok answer u ∧
      u.scene.world.2 = t.scene.world.2 ++ trace ∧ r.Searches file target trace answer := by
  cases target with
  | python =>
    obtain ⟨found, u, trace, hfound, hu, hsearches⟩ := h.asks_searchInterpreter t.scene
    have hpython : (r.on r.host.recorded).python m = .ok found { t with scene := u } :=
      (Attempt.bind_of_ok hviaTool _).trans (lift_of_ok hfound)
    exact ⟨_, { t with scene := u }, trace, Attempt.bind_of_ok hpython _, hu, hsearches⟩
  | venv =>
    obtain ⟨found, u, trace, hfound, hu, hsearches⟩ := h.asks_searchVenv t.scene
    refine ⟨_, { t with scene := u }, trace, ?_, hu, hsearches⟩
    rw [resolve, venv_of_no_override (r.on r.host.recorded) file (hfree rfl),
      Attempt.bind_of_ok hviaTool]
    exact Attempt.bind_of_ok (lift_of_ok hfound) _

/-- **Resolving** follows the rules where nothing is remembered. -/
theorem Responds.recorded_resolve (target : Target) (scene : Scene (σ × List Exchange)) :
    ∃ answer t trace, (r.on r.host.recorded).resolve target file (.fresh scene) = .ok answer t ∧
      t.scene.world.2 = scene.world.2 ++ trace ∧ r.Resolves file target trace answer := by
  by_cases hfree : r.IsFree target
  · obtain ⟨reported, t, trace, hviaTool, ht, hreported⟩ := h.recorded_viaTool scene
    cases reported with
    | none =>
      obtain ⟨answer, u, trace', hresolve, hu, hsearches⟩ := h.recorded_search target hfree hviaTool
      refine ⟨answer, u, trace ++ trace', hresolve, ?_, .searched hfree hreported hsearches⟩
      rw [hu, ht, List.append_assoc]
    | some e =>
      refine ⟨_, t, trace, ?_, ht, .reported hfree hreported⟩
      cases target with
      | python => exact Attempt.bind_of_ok (python_of_viaTool _ hviaTool) _
      | venv => exact venv_of_viaTool _ file (hfree rfl) hviaTool
  · obtain ⟨rfl, hfixed⟩ : target = .venv ∧ r.overrides.venvPath.isTruthy = true := by
      simpa [IsFree] using hfree
    obtain ⟨journal, hvenv⟩ := venv_of_override (r.on r.host.recorded) file (.fresh scene) hfixed
    exact ⟨_, _, [], hvenv, (List.append_nil _).symm, .fixed hfixed⟩

/-- What a resolver asks of its surroundings until it answers, with nothing remembered before. -/
def exchanges (r : Resolver σ) (target : Target) (file : Option Path) (scene : Scene σ) :
    List Exchange :=
  let recorded : Scene (σ × List Exchange) := { world := (scene.world, []), journal := scene.journal }
  (((r.on r.host.recorded).resolve target file).after (.fresh recorded)).scene.world.2

/-- **Resolving** follows the rules, recorded or not. -/
theorem Responds.resolves (target : Target) (scene : Scene σ) :
    ∃ answer left, r.resolve target file (.fresh scene) = .ok answer left ∧
      r.Resolves file target (r.exchanges target file scene) answer := by
  let recorded : Scene (σ × List Exchange) := { world := (scene.world, []), journal := scene.journal }
  obtain ⟨answer, t, trace, hrecorded, ht, hresolves⟩ := h.recorded_resolve target recorded
  have htrace : r.exchanges target file scene = trace := by
    rw [exchanges, Attempt.after_of_ok hrecorded, ht]
    exact List.nil_append _
  have hmirrors := mirrors_resolve (mirrors_recorded r.host) target file
  obtain ⟨hanswer, -⟩ := hmirrors (.fresh scene) (.fresh recorded) ⟨rfl, rfl⟩
  rw [Attempt.answer_of_ok hrecorded] at hanswer
  exact ⟨answer, _, Attempt.eq_ok_of_answer hanswer, htrace ▸ hresolves⟩

omit h

/-- **Which answer comes first.** In surroundings of any kind that respond, and with nothing remembered,
resolving gives an answer, and what it asks until then and the answer follow the rules: what the user
fixed, then what the tool of the project reports, then the search. Where the marker of pipenv was found
poetry is left alone, whatever becomes of the query; and the answer is not empty unless a lookup gave an
empty text. -/
theorem resolve_precedence (r : Resolver σ) (file : Option Path) (h : r.Responds file)
    (target : Target) (scene : Scene σ) :
    let trace := r.exchanges target file scene
    ∃ answer left, r.resolve target file (.fresh scene) = .ok answer left ∧
      r.Resolves file target trace answer ∧
      (r.FoundPipenv trace → ∀ exchange ∈ trace, r.IsApartFromPoetry exchange) ∧
      (¬ GaveEmpty trace → answer ≠ some (.string "")) := by
  intro trace
  obtain ⟨answer, left, hresolve, hresolves⟩ := h.resolves target scene
  exact ⟨answer, left, hresolve, hresolves, hresolves.isApartFromPoetry, hresolves.ne_empty⟩

/-! ## A project of both tools -/

/-- A resolver of a project with the markers of both tools, whose commands are all found and fail. -/
def ofBothTools : Resolver Unit where
  host := { Host.bare with
    isPresent := fun _ => pure true
    lookup := fun name => pure (name.string?.map ("/bin/" ++ ·)) }
  overrides := {}
  root := .ofText "/w"

theorem responds_ofBothTools (file : Option Path) : ofBothTools.Responds file where
  overrides := Overrides.isTextual_default
  lookup := fun _ scene => ⟨_, scene, rfl⟩
  remoteLookup := nofun
  marker := fun _ scene => ⟨_, scene, rfl⟩
  start := fun _ _ scene => ⟨_, scene, rfl⟩
  upward := fun _ _ _ _ _ _ scene => ⟨_, scene, rfl⟩
  run := fun _ _ _ scene => .inr ⟨_, scene, rfl⟩

/-- Where pipenv manages the project and fails, poetry is left alone and the command is looked up. -/
theorem resolve_of_both_tools :
    let trace := ofBothTools.exchanges .python none { world := () }
    ofBothTools.Responds none ∧ ofBothTools.FoundPipenv trace ∧ ¬ GaveEmpty trace ∧
      (∀ exchange ∈ trace, ofBothTools.IsApartFromPoetry exchange) ∧
      ∃ left, ofBothTools.resolve .python none (.fresh { world := () }) =
        .ok (some (.string "/bin/python")) left := by
  intro trace
  have htrace : trace =
      [.lookup (.string "pipenv") (.ok (some "/bin/pipenv")),
        .presence (ofBothTools.root.joinText "Pipfile") (.ok true),
        .run (.string "/bin/pipenv") ["--venv"] (some ofBothTools.root.text)
          (.error (.queryFailed { command := ["--venv"], status := none, stderr := "" })),
        .lookup (.string "python") (.ok (some "/bin/python"))] := rfl
  have hfound : ofBothTools.FoundPipenv trace := by
    rw [htrace]
    exact .tail _ (.head _)
  have hfull : ¬ GaveEmpty trace := by
    rw [htrace]
    simp [GaveEmpty]
  have hresponds := responds_ofBothTools none
  obtain ⟨answer, left, hresolve, -, hapart, -⟩ :=
    resolve_precedence ofBothTools none hresponds .python { world := () }
  have hanswer : answer = some (.string "/bin/python") := by
    cases hresolve
    rfl
  exact ⟨hresponds, hfound, hfull, hapart hfound, left, hanswer ▸ hresolve⟩

end Resolver

end LspHost
