import LspHost.Proofs.Path.Text
import LspHost.Proofs.Resolver.Exchanges
import LspHost.Proofs.Resolver.Faults

/-!
# The rules of resolving

What resolving asks of its surroundings, in which order, and what it makes of the answers, with nothing
remembered (`Resolver.Resolves`): the virtual environment that the user fixed; what the first tool reports
that is installed and has its marker in the root; and only then the search. The rules say all of it by the
exchanges alone, so they say it of surroundings that answer differently at every call.

What they imply is read off them: where pipenv manages the project poetry is left alone
(`Resolver.Resolves.isApartFromPoetry`), and no answer is empty unless a lookup gave an empty one
(`Resolver.Resolves.ne_empty`).
-/

namespace LspHost

variable {σ : Type}

theorem Environment.ofPaths?_eq (venv python : String) (tool : Tool) :
    ofPaths? venv python tool = if venv = "" ∨ python = "" then none else some { venv, python, tool } := by
  simp [ofPaths?]

/-- **An interpreter inside an environment** has a path that is not empty. -/
theorem Layout.interpreterOf_ne_empty (layout : Layout) (venv : String) :
    layout.interpreterOf venv ≠ "" := Path.text_ne_empty _

/-! ## The tool of the project -/

namespace Tool

variable (o : Overrides) (root : Path)

/-- How the program of a tool is found: the user fixed it, or it is looked up under its name. -/
inductive Locates (tool : Tool) : List Exchange → Option Value → Prop where
  /-- it is fixed -/
  | fixed : (o.executable tool).isTruthy = true → Locates tool [] (some (o.executable tool))
  /-- it is looked up -/
  | lookedUp {found : Option String} : (o.executable tool).isTruthy = false →
    Locates tool [.lookup (.string tool.name) (.ok found)] (found.map .string)

/-- How it is found whether a tool manages the project: its program is found, and then its marker. -/
inductive Manages (tool : Tool) : List Exchange → Option Value → Prop where
  /-- there is no program -/
  | missing {trace : List Exchange} : Locates o tool trace none → Manages tool trace none
  /-- there is one, and the marker is looked for -/
  | located {trace : List Exchange} {program : Value} {isThere : Bool} :
    Locates o tool trace (some program) →
      Manages tool (trace ++ [.presence (root.joinText tool.markerFile) (.ok isThere)])
        (if isThere = true then some program else none)

/-- How the first of some tools is found that manages the project. -/
inductive Detects : List Tool → List Exchange → Option (Tool × Value) → Prop where
  /-- no tool is left -/
  | nil : Detects [] [] none
  /-- it is the next one -/
  | found {tool : Tool} {rest : List Tool} {trace : List Exchange} {program : Value} :
    Manages o root tool trace (some program) → Detects (tool :: rest) trace (some (tool, program))
  /-- it is a later one, or none -/
  | passed {tool : Tool} {rest : List Tool} {trace trace' : List Exchange}
    {answer : Option (Tool × Value)} : Manages o root tool trace none → Detects rest trace' answer →
      Detects (tool :: rest) (trace ++ trace') answer

/-- What a tool reports: an answer that is not complete is none, and so is a failure. -/
inductive Reports (program : Value) : Tool → List Exchange → Option Environment → Prop where
  /-- the first command fails -/
  | pipenvFailed {query : FailedQuery} : Reports program .pipenv
    [.run program ["--venv"] (some root.text) (.error (.queryFailed query))] none
  /-- the second command fails -/
  | pipenvHalf {venv : String} {query : FailedQuery} : Reports program .pipenv
    [.run program ["--venv"] (some root.text) (.ok venv),
      .run program ["--py"] (some root.text) (.error (.queryFailed query))] none
  /-- both commands answer -/
  | pipenv {venv python : String} : Reports program .pipenv
    [.run program ["--venv"] (some root.text) (.ok venv),
      .run program ["--py"] (some root.text) (.ok python)]
    (if venv = "" ∨ python = "" then none else some { venv, python, tool := .pipenv })
  /-- the command fails -/
  | poetryFailed {query : FailedQuery} : Reports program .poetry
    [.run program ["env", "info", "-p"] (some root.text) (.error (.queryFailed query))] none
  /-- the command answers -/
  | poetry {venv : String} : Reports program .poetry
    [.run program ["env", "info", "-p"] (some root.text) (.ok venv)]
    (if venv = "" then none
      else some { venv, python := Layout.bin.interpreterOf venv, tool := .poetry })

variable {o root} {tool : Tool} {trace : List Exchange} {exchange : Exchange}

theorem Locates.eq_lookup {program : Option Value} (h : tool.Locates o trace program)
    (hmem : exchange ∈ trace) : ∃ found, exchange = .lookup (.string tool.name) (.ok found) := by
  cases h with
  | fixed => cases hmem
  | lookedUp => exact ⟨_, List.mem_singleton.mp hmem⟩

/-- **Finding whether a tool manages the project** looks its name up and looks for its marker. -/
theorem Manages.eq_lookup_or {program : Option Value} (h : tool.Manages o root trace program)
    (hmem : exchange ∈ trace) : (∃ found, exchange = .lookup (.string tool.name) (.ok found)) ∨
      exchange = .presence (root.joinText tool.markerFile) (.ok program.isSome) := by
  cases h with
  | missing h => exact .inl (h.eq_lookup hmem)
  | @located _ _ isThere h =>
    rcases List.mem_append.mp hmem with hmem | hmem
    · exact .inl (h.eq_lookup hmem)
    · rw [List.mem_singleton.mp hmem]
      cases isThere with
      | true => exact .inr rfl
      | false => exact .inr rfl

/-- **Asking a tool** runs its program. -/
theorem Reports.eq_run {program : Value} {answer : Option Environment}
    (h : tool.Reports root program trace answer) (hmem : exchange ∈ trace) :
    ∃ arguments output, exchange = .run program arguments (some root.text) output ∧
      (tool = .pipenv → arguments = ["--venv"] ∨ arguments = ["--py"]) := by
  cases h
  all_goals
    simp only [List.mem_cons, List.not_mem_nil, or_false] at hmem
  case pipenvHalf | pipenv =>
    rcases hmem with rfl | rfl
    · exact ⟨_, _, rfl, fun _ => .inl rfl⟩
    · exact ⟨_, _, rfl, fun _ => .inr rfl⟩
  case pipenvFailed =>
    subst hmem
    exact ⟨_, _, rfl, fun _ => .inl rfl⟩
  case poetryFailed | poetry =>
    subst hmem
    exact ⟨_, _, rfl, nofun⟩

/-- **An environment that is reported** is complete. -/
theorem Reports.isComplete {program : Value} {e : Environment}
    (h : tool.Reports root program trace (some e)) : e.IsComplete := by
  generalize hanswer : some e = answer at h
  cases h with
  | pipenvFailed => cases hanswer
  | pipenvHalf => cases hanswer
  | poetryFailed => cases hanswer
  | @pipenv venv python =>
    split at hanswer
    · cases hanswer
    · next hne =>
      cases hanswer
      exact not_or.mp hne
  | @poetry venv =>
    split at hanswer
    · cases hanswer
    · next hne =>
      cases hanswer
      exact ⟨hne, Layout.interpreterOf_ne_empty _ _⟩

/-- **The markers** of the two tools are different files. -/
theorem joinText_markerFile_ne (root : Path) :
    root.joinText Tool.pipenv.markerFile ≠ root.joinText Tool.poetry.markerFile := by
  intro h
  have hsegments := congrArg Path.segments h
  rw [Path.segments_joinText_of_relative root (by decide),
    Path.segments_joinText_of_relative root (by decide)] at hsegments
  exact absurd (List.append_cancel_left hsegments) (by decide)

/-- **Where the marker of pipenv was found**, pipenv manages the project. -/
theorem Detects.eq_pipenv {detected : Option (Tool × Value)} (h : Detects o root all trace detected)
    (hmem : .presence (root.joinText Tool.pipenv.markerFile) (.ok true) ∈ trace) :
    ∃ program, detected = some (.pipenv, program) ∧
      Tool.pipenv.Manages o root trace (some program) := by
  have hother : ∀ {trace : List Exchange} {program}, Tool.poetry.Manages o root trace program →
      .presence (root.joinText Tool.pipenv.markerFile) (.ok true) ∉ trace := by
    intro trace program hpoetry hmem
    rcases hpoetry.eq_lookup_or hmem with ⟨found, hlookup⟩ | hpresence
    · cases hlookup
    · exact joinText_markerFile_ne root (Exchange.presence.inj hpresence).1
  cases h with
  | found h => exact ⟨_, rfl, h⟩
  | passed h hrest =>
    exfalso
    rcases List.mem_append.mp hmem with hmem | hmem
    · rcases h.eq_lookup_or hmem with ⟨found, hlookup⟩ | hpresence
      · cases hlookup
      · cases hpresence
    cases hrest with
    | found h => exact hother h hmem
    | passed h hrest =>
      cases hrest
      rw [List.append_nil] at hmem
      exact hother h hmem

end Tool

/-! ## The search -/

namespace Search

/-- The names to look for, as texts. -/
def wanted (o : Overrides) : List String :=
  (o.venvDirectory.given?.bind Value.string?).toList ++ usualNames

/-- Where the search starts: in the root, in the file if that is a directory, or beside it. -/
inductive Starts (root : Path) : Option Path → List Exchange → Path → Prop where
  /-- there is no file -/
  | root : Starts root none [] root
  /-- there is one -/
  | file {file : Path} {isThere : Bool} :
    Starts root (some file) [.directory (root.join file) (.ok isThere)]
      (if isThere = true then root.join file else (root.join file).parent)

/-- The first of some paths is found that is a directory. -/
inductive Walks : List Path → List Exchange → Option Path → Prop where
  /-- no path is left -/
  | nil : Walks [] [] none
  /-- it is the next one -/
  | found {path : Path} {rest : List Path} :
    Walks (path :: rest) [.directory path (.ok true)] (some path)
  /-- it is a later one, or none -/
  | passed {path : Path} {rest : List Path} {trace : List Exchange} {answer : Option Path} :
    Walks rest trace answer → Walks (path :: rest) (.directory path (.ok false) :: trace) answer

/-- **Where no path was a directory**, further ones are gone through. -/
theorem Walks.append {paths rest : List Path} {trace trace' : List Exchange} {answer : Option Path}
    (h : Walks paths trace none) (hrest : Walks rest trace' answer) :
    Walks (paths ++ rest) (trace ++ trace') answer := by
  induction paths generalizing trace with
  | nil =>
    cases h
    exact hrest
  | cons path paths ih =>
    cases h with
    | passed h => exact .passed (ih h)

/-- **Where a path was a directory**, no further one is looked at. -/
theorem Walks.stop {paths : List Path} {trace : List Exchange} {found : Path}
    (h : Walks paths trace (some found)) (rest : List Path) :
    Walks (paths ++ rest) trace (some found) := by
  induction paths generalizing trace with
  | nil => cases h
  | cons path paths ih =>
    cases h with
    | found => exact .found
    | passed h => exact .passed (ih h)

theorem Walks.eq_directory {paths : List Path} {trace : List Exchange} {answer : Option Path}
    (h : Walks paths trace answer) {exchange : Exchange} (hmem : exchange ∈ trace) :
    ∃ path isThere, exchange = .directory path isThere := by
  induction h with
  | nil => cases hmem
  | found => exact ⟨_, _, List.mem_singleton.mp hmem⟩
  | passed h ih =>
    rcases List.mem_cons.mp hmem with rfl | hmem
    · exact ⟨_, _, rfl⟩
    · exact ih hmem

theorem Starts.mem_starts {root start : Path} {file : Option Path} {trace : List Exchange}
    (h : Starts root file trace start) : start ∈ starts root file := by
  cases h with
  | root => exact List.mem_singleton_self root
  | @file file isThere => cases isThere <;> simp [starts]

end Search

namespace Resolver

/-- The interpreter command of last resort. -/
def command (r : Resolver σ) : Value := r.overrides.pythonCommand.orElse (.string "python")

variable (r : Resolver σ) (file : Option Path)

/-- What is found without a tool: the interpreter command, on the remote side if the user prefers that
and there is one, or the nearest directory of the first name that has one. -/
inductive Searches : Target → List Exchange → Option Value → Prop where
  /-- the command is looked up -/
  | here {found : Option String} :
    (r.overrides.preferRemote.isTruthy = true → r.host.remoteLookup = none) →
      Searches .python [.lookup r.command (.ok found)] (found.map .string)
  /-- the command is looked up on the remote side -/
  | remote {found : Option String} : r.overrides.preferRemote.isTruthy = true →
    r.host.remoteLookup ≠ none →
      Searches .python [.remoteLookup r.command (.ok found)] (found.map .string)
  /-- the directory is looked for upward -/
  | upward {trace trace' : List Exchange} {start : Path} {found : Option Path} :
    Search.Starts r.root file trace start →
      Search.Walks ((Search.wanted r.overrides).flatMap (Search.candidates start)) trace' found →
        Searches .venv (trace ++ trace') (found.map fun path => .string path.text)

/-- What the tool of the project reports, if there is one. -/
inductive Reported : List Exchange → Option Environment → Prop where
  /-- no tool manages the project -/
  | unmanaged {trace : List Exchange} :
    Tool.Detects r.overrides r.root Tool.all trace none → Reported trace none
  /-- one does -/
  | managed {trace trace' : List Exchange} {tool : Tool} {program : Value}
    {answer : Option Environment} :
    Tool.Detects r.overrides r.root Tool.all trace (some (tool, program)) →
      tool.Reports r.root program trace' answer → Reported (trace ++ trace') answer

/-- The user fixed no answer to a question. -/
def IsFree (target : Target) : Prop := target = .venv → r.overrides.venvPath.isTruthy = false

/-- What resolving asks and answers: the virtual environment that the user fixed, or what the tool of the
project reports, or what the search finds. -/
inductive Resolves : Target → List Exchange → Option Value → Prop where
  /-- the virtual environment is fixed -/
  | fixed : r.overrides.venvPath.isTruthy = true → Resolves .venv [] (some r.overrides.venvPath)
  /-- the tool reports an environment -/
  | reported {target : Target} {trace : List Exchange} {e : Environment} : r.IsFree target →
    r.Reported trace (some e) → Resolves target trace (some (.string (e.get target)))
  /-- no tool does -/
  | searched {target : Target} {trace trace' : List Exchange} {answer : Option Value} :
    r.IsFree target → r.Reported trace none → r.Searches file target trace' answer →
      Resolves target (trace ++ trace') answer

/-! ## What the rules imply -/

section Rules

variable {r file} {target : Target} {trace : List Exchange} {answer : Option Value}

/-- An exchange is none that finding or asking poetry takes: only pipenv and the interpreter command are
looked up, only the marker of pipenv is looked for, and only what pipenv is asked is run. -/
def IsApartFromPoetry (r : Resolver σ) : Exchange → Prop
  | .lookup name _ => name = .string Tool.pipenv.name ∨ name = r.command
  | .remoteLookup name _ => name = r.command
  | .presence path _ => path = r.root.joinText Tool.pipenv.markerFile
  | .directory _ _ => True
  | .run _ arguments _ _ => arguments = ["--venv"] ∨ arguments = ["--py"]

/-- The marker of pipenv was found. -/
def FoundPipenv (r : Resolver σ) (trace : List Exchange) : Prop :=
  .presence (r.root.joinText Tool.pipenv.markerFile) (.ok true) ∈ trace

/-- A lookup gave an empty text. -/
def GaveEmpty (trace : List Exchange) : Prop :=
  ∃ name, .lookup name (.ok (some "")) ∈ trace ∨ .remoteLookup name (.ok (some "")) ∈ trace

/-- **Searching** looks the interpreter command up or looks for directories. -/
theorem Searches.isApartFromPoetry (h : r.Searches file target trace answer) :
    ¬ r.FoundPipenv trace ∧ ∀ exchange ∈ trace, r.IsApartFromPoetry exchange := by
  cases h with
  | here => simp [FoundPipenv, IsApartFromPoetry]
  | remote => simp [FoundPipenv, IsApartFromPoetry]
  | @upward trace trace' _ _ hstarts hwalks =>
    have hdirectory : ∀ exchange ∈ trace ++ trace',
        ∃ path isThere, exchange = .directory path isThere := by
      intro exchange hmem
      rcases List.mem_append.mp hmem with hmem | hmem
      · cases hstarts with
        | root => cases hmem
        | file => exact ⟨_, _, List.mem_singleton.mp hmem⟩
      · exact hwalks.eq_directory hmem
    constructor
    · intro hfound
      obtain ⟨path, isThere, heq⟩ := hdirectory _ hfound
      cases heq
    · intro exchange hmem
      obtain ⟨path, isThere, rfl⟩ := hdirectory exchange hmem
      trivial

/-- **Where pipenv manages the project**, finding and asking the tool leaves poetry alone. -/
theorem Reported.isApartFromPoetry {reported : Option Environment} (h : r.Reported trace reported)
    (hfound : r.FoundPipenv trace) : ∀ exchange ∈ trace, r.IsApartFromPoetry exchange := by
  cases h with
  | unmanaged hdetects =>
    obtain ⟨program, hnone, -⟩ := hdetects.eq_pipenv hfound
    cases hnone
  | managed hdetects hreports =>
    have hmarker : r.FoundPipenv _ := (List.mem_append.mp hfound).resolve_right fun hmem => by
      obtain ⟨arguments, output, heq, -⟩ := hreports.eq_run hmem
      cases heq
    obtain ⟨program, hsome, hmanages⟩ := hdetects.eq_pipenv hmarker
    cases hsome
    intro exchange hmem
    rcases List.mem_append.mp hmem with hmem | hmem
    · rcases hmanages.eq_lookup_or hmem with ⟨found, rfl⟩ | rfl
      · exact .inl rfl
      · exact rfl
    · obtain ⟨arguments, output, rfl, harguments⟩ := hreports.eq_run hmem
      exact harguments rfl

/-- **Where pipenv manages the project**, poetry is left alone whatever becomes of the query. -/
theorem Resolves.isApartFromPoetry (h : r.Resolves file target trace answer)
    (hfound : r.FoundPipenv trace) : ∀ exchange ∈ trace, r.IsApartFromPoetry exchange := by
  cases h with
  | fixed => cases hfound
  | reported _ hreported => exact hreported.isApartFromPoetry hfound
  | searched _ hreported hsearches =>
    obtain ⟨hunfound, hsearched⟩ := hsearches.isApartFromPoetry
    have hasked := hreported.isApartFromPoetry ((List.mem_append.mp hfound).resolve_right hunfound)
    intro exchange hmem
    exact (List.mem_append.mp hmem).elim (hasked exchange) (hsearched exchange)

/-- **What the search finds** is not empty unless a lookup gave an empty text. -/
theorem Searches.ne_empty (h : r.Searches file target trace answer) (hempty : ¬ GaveEmpty trace) :
    answer ≠ some (.string "") := by
  rintro rfl
  generalize hanswer : some (Value.string "") = answer at h
  cases h with
  | @here found =>
    cases found with
    | none => cases hanswer
    | some text =>
      cases hanswer
      exact hempty ⟨r.command, .inl (List.mem_singleton_self _)⟩
  | @remote found =>
    cases found with
    | none => cases hanswer
    | some text =>
      cases hanswer
      exact hempty ⟨r.command, .inr (List.mem_singleton_self _)⟩
  | @upward _ _ _ found =>
    cases found with
    | none => cases hanswer
    | some path => exact path.text_ne_empty (Value.string.inj (Option.some.inj hanswer)).symm

/-- **No answer is empty** unless a lookup gave an empty text. -/
theorem Resolves.ne_empty (h : r.Resolves file target trace answer) (hempty : ¬ GaveEmpty trace) :
    answer ≠ some (.string "") := by
  cases h with
  | fixed hfixed =>
    intro hanswer
    rw [Option.some.inj hanswer] at hfixed
    cases hfixed
  | @reported _ _ e _ hreported =>
    obtain ⟨hvenv, hpython⟩ : e.IsComplete := by
      cases hreported with
      | managed _ hreports => exact hreports.isComplete
    cases target with
    | python => simpa [Environment.get] using hpython
    | venv => simpa [Environment.get] using hvenv
  | searched _ _ hsearches =>
    refine hsearches.ne_empty fun ⟨name, hname⟩ => hempty ⟨name, ?_⟩
    exact hname.imp (List.mem_append_right _) (List.mem_append_right _)

end Rules

end Resolver

end LspHost
