import LspHost.Proofs.Command
import LspHost.Proofs.Resolver.Cache
import LspHost.Proofs.Resolver.Faults

/-!
# How resolving ends

Where the checks of the file system answer, and the tools are run as commands (`Resolver.Serves`), resolving
gives an answer whatever a tool does: it cannot be launched, takes too long, fails, or reports nothing of
use. There is one exception, which nothing catches: a tool that writes what is no text. `Resolver.resolve_ends`
has both, and says where resolving goes on after a tool has failed.

The exception is followed from where it is raised: what ends a call ended the query of the tool, and what
ended that was running a command. All else answers.
-/

namespace LspHost

variable {σ : Type}

/-- A value is a text or none. -/
def Value.IsTextual (value : Value) : Prop := value = .null ∨ ∃ text, value = .string text

/-- **A textual value that counts as given** is a text. -/
theorem Value.IsTextual.eq_string {value : Value} (h : value.IsTextual)
    (hgiven : value.isTruthy = true) : ∃ text, value = .string text := by
  rcases h with rfl | htext
  · cases hgiven
  · exact htext

/-- What a user fixed is textual. -/
structure Overrides.IsTextual (o : Overrides) : Prop where
  /-- the virtual environment -/
  venvPath : o.venvPath.IsTextual
  /-- the name of the directory -/
  venvDirectory : o.venvDirectory.IsTextual
  /-- the interpreter command -/
  pythonCommand : o.pythonCommand.IsTextual
  /-- the programs of the tools -/
  executable : ∀ tool, (o.executable tool).IsTextual

/-- **The interpreter command** of textual overrides is a text. -/
theorem Overrides.IsTextual.exists_command {o : Overrides} (h : o.IsTextual) :
    ∃ text, o.pythonCommand.orElse (.string "python") = .string text := by
  unfold Value.orElse
  split
  · next hgiven => exact h.pythonCommand.eq_string hgiven
  · exact ⟨"python", rfl⟩

/-- Where the user fixed nothing everything is textual. -/
theorem Overrides.isTextual_default : ({} : Overrides).IsTextual := by
  refine ⟨.inl rfl, .inl rfl, .inr ⟨"python", rfl⟩, fun tool => ?_⟩
  cases tool with
  | pipenv => exact .inl rfl
  | poetry => exact .inl rfl

/-! ## Asking a tool -/

/-- **What ends the query of a tool** ended one of its commands. -/
theorem Tool.query_eq_error {tool : Tool} {layout : Layout} {run : Runner σ} {program : Value}
    {root : Path} {s t : Scene σ} {e : Fault}
    (h : tool.query layout run program root s = .error e t) :
    ∃ arguments u, arguments.any Command.hasNul = false ∧
      run program arguments (some root.text) u = .error e t := by
  cases tool with
  | pipenv =>
    rcases Attempt.bind_eq_error h with hvenv | ⟨venv, u, -, h⟩
    · exact ⟨_, s, by decide, hvenv⟩
    rcases Attempt.bind_eq_error h with hpython | ⟨python, v, -, h⟩
    · exact ⟨_, u, by decide, hpython⟩
    · cases h
  | poetry =>
    rcases Attempt.bind_eq_error h with hvenv | ⟨venv, u, -, h⟩
    · exact ⟨_, s, by decide, hvenv⟩
    · split at h
      · cases h
      · cases h

namespace Resolver

/-- **What ends asking** ended the query, and is no failure of it. -/
theorem ask_eq_error {r : Resolver σ} {tool : Tool} {program : Value} {s t : Scene σ} {e : Fault}
    (h : r.ask tool program s = .error e t) :
    tool.query .bin r.host.run program r.root s = .error e t ∧ ∀ query, e ≠ .queryFailed query := by
  rcases Attempt.bind_eq_error h with hsettle | ⟨reply, u, -, hnoted⟩
  · exact Act.settle_eq_error hsettle
  · rcases reply with query | _ | e
    all_goals cases hnoted

/-- **After a failed query** the answer is that there is none, with a record noted. -/
theorem ask_of_queryFailed {r : Resolver σ} {tool : Tool} {program : Value} {s t : Scene σ}
    {query : FailedQuery}
    (h : tool.query .bin r.host.run program r.root s = .error (.queryFailed query) t) :
    ∃ journal, r.ask tool program s = .ok none { t with journal } := by
  let failed : Record :=
    { source := .resolver, level := .debug, message := tool.name ++ " query failed: " ++ query.message }
  exact ⟨t.journal ++ [failed], Attempt.bind_of_ok (Act.settle_of_queryFailed h) _⟩

/-! ## A resolver that is served -/

/-- The checks made for a project and a file answer, and a tool is launched with some limit on its time,
whatever comes of it. -/
structure Serves (r : Resolver σ) (launch : Launch → Act σ Ending) (limit : Option Nat)
    (file : Option Path) : Prop where
  /-- what the user fixed is textual -/
  overrides : r.overrides.IsTextual
  /-- commands are looked up -/
  lookup : ∀ name, (r.host.lookup (.string name)).Answers
  /-- commands are looked up on the remote side, if there is one -/
  remoteLookup : ∀ lookup ∈ r.host.remoteLookup, ∀ name, (lookup (.string name)).Answers
  /-- the markers of the tools are looked for -/
  marker : ∀ tool : Tool, (r.host.isPresent (r.root.joinText tool.markerFile)).Answers
  /-- it is checked whether the file is a directory -/
  start : ∀ file' ∈ file, (r.host.isDirectory (r.root.join file')).Answers
  /-- directories are looked for upward -/
  upward : ∀ start ∈ Search.starts r.root file, ∀ name, .string name ∈ Search.names r.overrides →
    ∀ path ∈ Search.candidates start name, (r.host.isDirectory path).Answers
  /-- commands are run -/
  run : r.host.run = Command.run launch limit
  /-- every launch comes to an end -/
  launch : ∀ request, (launch request).Answers
  /-- programs have names without the character that ends names -/
  program : ∀ (tool : Tool) s t program, tool.locate (r.overrides.executable tool) r.host.lookup s =
    .ok (some (.string program)) t → Command.hasNul program = false
  /-- and so has a directory with a marker in it -/
  root : ∀ (tool : Tool) s t, r.host.isPresent (r.root.joinText tool.markerFile) s = .ok true t →
    Command.hasNul r.root.text = false

/-- A call is ended by what a tool wrote: nothing was remembered, and nothing is. -/
def StoppedBy {α : Type} (launch : Launch → Act σ Ending) (act : Run σ α) (m : Memory σ) : Prop :=
  m.cache = none ∧ ∃ t, act m = .error .undecodable t ∧ t.cache = none ∧
    Command.WroteNoText launch t.scene

/-- A call answers, unless what a tool wrote is no text. -/
def Ends {α : Type} (launch : Launch → Act σ Ending) (act : Run σ α) (m : Memory σ) : Prop :=
  (∃ answer t, act m = .ok answer t) ∨ StoppedBy launch act m

/-- **What is followed by what answers** ends as it does. -/
theorem Ends.bind {α β : Type} {launch : Launch → Act σ Ending} {act : Run σ α} {next : α → Run σ β}
    {m : Memory σ} (h : Ends launch act m) (hnext : ∀ a, (next a).Answers) :
    Ends launch (act >>= next) m := by
  rcases h with ⟨answer, t, hact⟩ | ⟨hcache, t, hact, hstopped⟩
  · obtain ⟨answer', t', hrest⟩ := hnext answer t
    exact .inl ⟨answer', t', (Attempt.bind_of_ok hact next).trans hrest⟩
  · exact .inr ⟨hcache, t, Attempt.bind_of_error hact next, hstopped⟩

section Serves

variable {r : Resolver σ} {launch : Launch → Act σ Ending} {limit : Option Nat} {file : Option Path}

/-- **A tool is looked for** without a fault. -/
theorem Serves.detect (h : r.Serves launch limit file) :
    (Tool.detect r.host r.overrides r.root).Answers :=
  (Tool.raises_detectAmong r.overrides r.root Tool.all (fun tool _ => (h.lookup tool.name).raises)
    fun tool _ => (h.marker tool).raises).answers

theorem Serves.locate (h : r.Serves launch limit file) {tool : Tool} {s t : Scene σ} {program : Value}
    (hlocate : tool.locate (r.overrides.executable tool) r.host.lookup s = .ok (some program) t) :
    ∃ text, program = .string text := by
  unfold Tool.locate at hlocate
  split at hlocate
  · next hgiven =>
    cases hlocate
    exact (h.overrides.executable tool).eq_string hgiven
  · obtain ⟨found, u, -, hlocate⟩ := Attempt.bind_eq_ok hlocate
    cases found with
    | none => cases hlocate
    | some text =>
      cases hlocate
      exact ⟨text, rfl⟩

/-- **The program of a tool that manages the project** can be launched in the root. -/
theorem Serves.detected (h : r.Serves launch limit file) {tools : List Tool} {tool : Tool}
    {s t : Scene σ} {program : Value}
    (hdetect : Tool.detectAmong r.host r.overrides r.root tools s = .ok (some (tool, program)) t) :
    ∃ text, program = .string text ∧ Command.hasNul text = false ∧
      Command.hasNul r.root.text = false := by
  induction tools generalizing s with
  | nil => cases hdetect
  | cons first rest ih =>
    obtain ⟨answer, u, hfirst, hdetect⟩ := Attempt.bind_eq_ok hdetect
    cases answer with
    | none => exact ih hdetect
    | some found =>
      obtain ⟨_, _, -, hfound⟩ := Attempt.bind_eq_ok hdetect
      cases hfound
      obtain ⟨located, v, hlocate, hfirst⟩ := Attempt.bind_eq_ok hfirst
      cases located with
      | none =>
        obtain ⟨_, _, -, hnone⟩ := Attempt.bind_eq_ok hfirst
        cases hnone
      | some located =>
        obtain ⟨isThere, w, hpresent, hfirst⟩ := Attempt.bind_eq_ok hfirst
        cases isThere with
        | false => cases hfirst
        | true =>
          cases hfirst
          obtain ⟨text, rfl⟩ := h.locate hlocate
          exact ⟨text, rfl, h.program _ _ _ _ hlocate, h.root _ _ _ hpresent⟩

/-- **What ends the query** is that a tool wrote what is no text. -/
theorem Serves.query_eq_error (h : r.Serves launch limit file) {s t : Scene σ} {e : Fault}
    (hquery : r.query s = .error e t) : e = .undecodable ∧ Command.WroteNoText launch t := by
  rcases Attempt.bind_eq_error hquery with hdetect | ⟨detected, u, hdetect, hquery⟩
  · exact (h.detect.raises (P := fun _ => False) _ _ _ hdetect).elim
  rcases detected with _ | ⟨tool, program⟩
  · cases hquery
  obtain ⟨text, rfl, htext, hroot⟩ := h.detected hdetect
  obtain ⟨hasked, hother⟩ := ask_eq_error hquery
  obtain ⟨arguments, v, harguments, hrun⟩ := Tool.query_eq_error hasked
  rw [h.run] at hrun
  have hnames : (text :: arguments).any Command.hasNul = false ∧
      (some r.root.text).any Command.hasNul = false :=
    ⟨by rw [List.any_cons, htext, harguments]; rfl, hroot⟩
  exact (Command.run_eq_error h.launch hnames hrun).resolve_left fun ⟨query, hfailed⟩ =>
    hother query hfailed

/-- **What the tool reports** is given, unless it wrote what is no text. -/
theorem Serves.viaTool (h : r.Serves launch limit file) (m : Memory σ) : Ends launch r.viaTool m := by
  rcases hcache : m.cache with _ | e
  · have hrun := r.viaTool_of_empty hcache
    rcases hquery : r.query m.scene with ⟨answer, t⟩ | ⟨e, t⟩
    · rw [hquery] at hrun
      exact .inl ⟨_, _, hrun⟩
    · rw [hquery] at hrun
      obtain ⟨rfl, hwrote⟩ := h.query_eq_error hquery
      exact .inr ⟨hcache, _, hrun, rfl, hwrote⟩
  · exact .inl ⟨_, m, r.viaTool_of_cached hcache⟩

theorem Serves.searchInterpreter (h : r.Serves launch limit file) : r.searchInterpreter.Answers := by
  obtain ⟨command, hcommand⟩ := h.overrides.exists_command
  unfold Resolver.searchInterpreter
  rw [hcommand]
  split
  · next lookup _ hlookup => exact h.remoteLookup lookup hlookup command
  · exact h.lookup command

theorem Serves.searchVenv (h : r.Serves launch limit file) :
    (Search.venv r.host r.overrides r.root file).Answers := by
  refine (Search.raises_venv r.overrides r.root file (fun file' hfile => (h.start file' hfile).raises)
    (fun start hstart name hname path hpath => (h.upward start hstart name hname path hpath).raises)
    ?_).answers
  intro name hname hnone
  rcases List.mem_append.mp hname with hfixed | husual
  · obtain ⟨text, rfl⟩ : ∃ text, name = .string text := by
      unfold Value.given? at hfixed
      split at hfixed
      · next hgiven =>
        obtain rfl := List.mem_singleton.mp hfixed
        exact h.overrides.venvDirectory.eq_string hgiven
      · cases hfixed
    cases hnone
  · obtain ⟨text, -, rfl⟩ := List.mem_map.mp husual
    cases hnone

/-- **The answer** to a question is a text, if there is one. -/
theorem isText_of_resolve (h : r.overrides.venvPath.IsTextual) {target : Target} {m t : Memory σ}
    {value : Value} (hresolve : r.resolve target file m = .ok (some value) t) : ∃ text, value = .string text := by
  cases target with
  | python =>
    obtain ⟨answer, u, -, hresolve⟩ := Attempt.bind_eq_ok hresolve
    cases answer with
    | none => cases hresolve
    | some text =>
      cases hresolve
      exact ⟨text, rfl⟩
  | venv =>
    rcases hfixed : r.overrides.venvPath.isTruthy with _ | _
    · rw [resolve, venv_of_no_override r file hfixed] at hresolve
      obtain ⟨answer, u, -, hresolve⟩ := Attempt.bind_eq_ok hresolve
      cases answer with
      | some e =>
        cases hresolve
        exact ⟨e.venv, rfl⟩
      | none =>
        obtain ⟨found, v, -, hresolve⟩ := Attempt.bind_eq_ok hresolve
        cases found with
        | none => cases hresolve
        | some path =>
          cases hresolve
          exact ⟨path.text, rfl⟩
    · obtain ⟨journal, hvenv⟩ := r.venv_of_override file m hfixed
      rw [resolve, hvenv] at hresolve
      cases hresolve
      exact h.eq_string hfixed

theorem Serves.isText (h : r.Serves launch limit file) {target : Target} {m t : Memory σ} {value : Value}
    (hresolve : r.resolve target file m = .ok (some value) t) : ∃ text, value = .string text :=
  isText_of_resolve h.overrides.venvPath hresolve

/-- **Resolving** answers, unless what a tool wrote is no text. -/
theorem Serves.resolve (h : r.Serves launch limit file) (target : Target) (m : Memory σ) :
    Ends launch (r.resolve target file) m := by
  cases target with
  | python =>
    have hpython : Ends launch r.python m := by
      refine (h.viaTool m).bind fun answer => ?_
      cases answer with
      | none => exact (Attempt.Raises.lift h.searchInterpreter.raises).answers
      | some e => exact fun m => ⟨_, m, rfl⟩
    exact hpython.bind fun answer m => ⟨_, m, rfl⟩
  | venv =>
    rcases hfixed : r.overrides.venvPath.isTruthy with _ | _
    · rw [Resolver.resolve, venv_of_no_override r file hfixed]
      refine (h.viaTool m).bind fun answer => ?_
      cases answer with
      | none =>
        exact (Attempt.Raises.bind (.lift h.searchVenv.raises) fun _ => .pure _).answers
      | some e => exact fun m => ⟨_, m, rfl⟩
    · obtain ⟨journal, hvenv⟩ := r.venv_of_override file m hfixed
      exact .inl ⟨_, _, hvenv⟩

end Serves

/-- **How resolving ends.** Where the checks answer, and whatever a tool does:

* resolving answers with a text or that there is none, and asking the tool with an environment or that
  there is none, unless what the tool wrote is no text;
* after the query of the tool has failed, the interpreter is the command on the search path, and the
  virtual environment what is found upward, with nothing remembered. -/
theorem resolve_ends (r : Resolver σ) (launch : Launch → Act σ Ending) (limit : Option Nat)
    (file : Option Path) (h : r.Serves launch limit file) (m : Memory σ) :
    (∀ target, Ends launch (r.resolve target file) m ∧
        ∀ value t, r.resolve target file m = .ok (some value) t → ∃ text, value = .string text) ∧
      Ends launch r.viaTool m ∧
      ∀ tool program found query reported, m.cache = none →
        Tool.detect r.host r.overrides r.root m.scene = .ok (some (tool, program)) found →
        tool.query .bin r.host.run program r.root found = .error (.queryFailed query) reported →
        ∃ journal, let left : Memory σ := { scene := { reported with journal }, cache := none }
          r.viaTool m = .ok none left ∧
            r.resolve .python file m =
              (do let found ← lift r.searchInterpreter
                  return found.map Value.string : Run σ _) left ∧
            (r.overrides.venvPath.isTruthy = false → r.resolve .venv file m =
              (do let found ← lift (Search.venv r.host r.overrides r.root file)
                  return found.map fun path => Value.string path.text : Run σ _) left) := by
  refine ⟨fun target => ⟨h.resolve target m, fun value t => h.isText⟩, h.viaTool m, ?_⟩
  intro tool program found query reported hcache hdetect hfailed
  obtain ⟨journal, hasked⟩ := ask_of_queryFailed hfailed
  have hquery : r.query m.scene = .ok none { reported with journal } :=
    (Attempt.bind_of_ok hdetect _).trans hasked
  have hviaTool : r.viaTool m = .ok none { scene := { reported with journal }, cache := none } := by
    rw [r.viaTool_of_empty hcache, hquery]
  refine ⟨journal, hviaTool, ?_, ?_⟩
  · have hpython : r.python m = lift r.searchInterpreter
        { scene := { reported with journal }, cache := none } := Attempt.bind_of_ok hviaTool _
    simp only [Resolver.resolve, bind, EStateM.bind, hpython]
  · intro hfixed
    rw [Resolver.resolve, venv_of_no_override r file hfixed]
    exact Attempt.bind_of_ok hviaTool _

/-! ## A project of pipenv -/

/-- A resolver of a project in which there is nothing but the marker of pipenv, whose launches all end in
one way. -/
def ofPipenv (ending : Ending) : Resolver Unit where
  host := { Host.bare with
    isPresent := fun path => pure (decide (path = .ofText "/w/Pipfile"))
    lookup := fun name => pure (name.string?.map ("/bin/" ++ ·))
    run := Command.run fun _ => pure ending }
  overrides := {}
  root := .ofText "/w"

/-- The checks for the project answer. -/
theorem serves_ofPipenv (ending : Ending) (file : Option Path) :
    (ofPipenv ending).Serves (fun _ => pure ending) none file where
  overrides := Overrides.isTextual_default
  lookup := fun name scene => ⟨_, scene, rfl⟩
  remoteLookup := nofun
  marker := fun tool scene => ⟨_, scene, rfl⟩
  start := fun file' _ scene => ⟨_, scene, rfl⟩
  upward := fun start _ name _ path _ scene => ⟨_, scene, rfl⟩
  run := rfl
  launch := fun request scene => ⟨ending, scene, rfl⟩
  program := by
    intro tool s t program hlocate
    cases tool with
    | pipenv =>
      cases hlocate
      decide
    | poetry =>
      cases hlocate
      decide
  root := by
    intro tool s t _
    show Command.hasNul (Path.ofText "/w").text = false
    decide +kernel

/-- When pipenv fails the interpreter is the command on the search path. -/
theorem python_of_failed_pipenv :
    let r := ofPipenv (.ended 1 .empty .empty)
    r.Serves (fun _ => pure (.ended 1 .empty .empty)) none none ∧
      ∃ left, r.viaTool (.fresh { world := () }) = .ok none left ∧ left.cache = none ∧
        r.resolve .python none (.fresh { world := () }) = .ok (some (.string "/bin/python")) left := by
  intro r
  have hserves := serves_ofPipenv (.ended 1 .empty .empty) none
  obtain ⟨-, -, hfailed⟩ := resolve_ends r _ none none hserves (.fresh { world := () })
  let found := (Tool.detect r.host r.overrides r.root).after { world := () }
  have hquery : (Tool.pipenv.query .bin r.host.run (.string "/bin/pipenv") r.root).answer found =
      .error (.queryFailed { command := ["/bin/pipenv", "--venv"], status := some 1, stderr := "" }) := by
    decide +kernel
  obtain ⟨journal, hviaTool, hpython, -⟩ :=
    hfailed .pipenv (.string "/bin/pipenv") found _ _ rfl rfl (Attempt.eq_error_of_answer hquery)
  exact ⟨hserves, _, hviaTool, rfl, hpython⟩

/-- **A tool that writes what is no text** ends the call: it is not so that resolving always answers. -/
theorem resolve_of_unreadable_pipenv :
    let r := ofPipenv (.ended 0 ⟨#[0xff]⟩ .empty)
    r.Serves (fun _ => pure (.ended 0 ⟨#[0xff]⟩ .empty)) none none ∧
      ¬ ∃ answer left, r.resolve .python none (.fresh { world := () }) = .ok answer left := by
  intro r
  have hended : ((r.resolve .python none).answer (.fresh { world := () })).isOk = false := by
    decide +kernel
  refine ⟨serves_ofPipenv _ none, ?_⟩
  rintro ⟨answer, left, hresolve⟩
  rw [Attempt.answer_of_ok hresolve] at hended
  cases hended

end Resolver

end LspHost
