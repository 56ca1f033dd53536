import LspHost.Proofs.Config.PutAside
import LspHost.Proofs.Text.Words
import LspHost.Proofs.Toml.Depth

/-!
# When loading fails

Loading meets its sources in a fixed order, and within a table the sections in theirs. At each of these
places there can be an obstacle, which the content of the place alone decides (`Config.obstacle?`): a
document that is given up while it is read, a `tool` or a section that is no table, a command line that
has no words. Loading fails just where there is one, with the fault of the first
(`Config.load_fails_first`). Nothing else that documents and variables can hold makes it fail.
-/

namespace LspHost

variable {σ state α β ι : Type}

/-! ## Computations that end with a fault or answer -/

theorem findSome?_cons_or (f : α → Option β) (a : α) (rest : List α) :
    (a :: rest).findSome? f = (f a).or (rest.findSome? f) := by
  rw [List.findSome?_cons]
  cases f a <;> rfl

namespace Attempt

/-- In the states of an invariant a computation ends with a fault, if one is given, and otherwise
answers with something that meets a condition. -/
def Ends (I : state → Prop) (act : Attempt state α) (fault? : Option Fault) (P : α → Prop) : Prop :=
  match fault? with
  | some e => act.Yields I (.error e)
  | none => ∃ a, P a ∧ act.Yields I (.ok a)

variable {I : state → Prop} {P : α → Prop} {Q : β → Prop}

theorem Ends.of_pure {a : α} (h : P a) : Ends I (pure a : Attempt state α) none P :=
  ⟨a, h, .of_pure a⟩

theorem Ends.of_throw (e : Fault) (P : α → Prop) : Ends I (throw e : Attempt state α) (some e) P :=
  Yields.of_throw e

theorem Ends.of_yields {act : Attempt state α} {a : α} (h : act.Yields I (.ok a)) (ha : P a) :
    act.Ends I none P :=
  ⟨a, ha, h⟩

/-- **What is known beforehand** decides what a computation ends with. -/
theorem Ends.of_ofExcept {x : Except Fault α} {fault? : Option Fault}
    (hfault : ∀ e, x = .error e ↔ fault? = some e) (hanswer : ∀ a, x = .ok a → P a) :
    (Attempt.ofExcept x : Attempt state α).Ends I fault? P := by
  cases x with
  | error e =>
    rw [(hfault e).mp rfl]
    exact .of_throw e P
  | ok a =>
    have hnone : fault? = none := Option.eq_none_iff_forall_ne_some.mpr fun e he => by
      cases (hfault e).mpr he
    rw [hnone]
    exact .of_pure (hanswer a rfl)

/-- **The first fault** of a row of steps is that of the whole. -/
theorem Ends.bind {act : Attempt state α} {next : α → Attempt state β} {fault? later? : Option Fault}
    (hact : act.Ends I fault? P) (hnext : ∀ a, P a → (next a).Ends I later? Q) :
    (act >>= next).Ends I (fault?.or later?) Q := by
  cases fault? with
  | some e => exact Yields.bind_error hact
  | none =>
    obtain ⟨a, ha, hact⟩ := hact
    have hrest := hnext a ha
    cases later? with
    | some e => exact hact.bind_ok hrest
    | none =>
      obtain ⟨b, hb, hrest⟩ := hrest
      exact ⟨b, hb, hact.bind_ok hrest⟩

/-- **A step that answers** leaves it to the next step. -/
theorem Ends.yields_bind {act : Attempt state α} {next : α → Attempt state β} {a : α}
    {fault? : Option Fault} (hact : act.Yields I (.ok a)) (hnext : (next a).Ends I fault? Q) :
    (act >>= next).Ends I fault? Q := by
  cases fault? with
  | some e => exact hact.bind_ok hnext
  | none =>
    obtain ⟨b, hb, hnext⟩ := hnext
    exact ⟨b, hb, hact.bind_ok hnext⟩

/-- **A last step that answers** leaves it at what was before. -/
theorem Ends.bind_answer {act : Attempt state α} {next : α → Attempt state β} {fault? : Option Fault}
    (hact : act.Ends I fault? P) (hnext : ∀ a, P a → (next a).Ends I none Q) :
    (act >>= next).Ends I fault? Q := by
  have h := hact.bind hnext
  rwa [Option.or_none] at h

/-- **The first fault** of the rounds of a loop is that of the whole, if every round keeps the
condition. -/
theorem Ends.foldlM {body : α → ι → Attempt state α} {fault? : ι → Option Fault} {items : List ι}
    (hbody : ∀ a, P a → ∀ i ∈ items, (body a i).Ends I (fault? i) P) {a : α} (ha : P a) :
    (items.foldlM body a).Ends I (items.findSome? fault?) P := by
  induction items generalizing a with
  | nil => exact .of_pure ha
  | cons i rest ih =>
    have hround := hbody a ha i (List.mem_cons_self ..)
    rw [List.foldlM_cons, findSome?_cons_or]
    exact hround.bind fun b hb => ih (fun b hb j hj => hbody b hb j (List.mem_cons_of_mem _ hj)) hb

/-- **What a computation ends with** is read off any state of the invariant. -/
theorem Ends.answer_eq_error_iff {act : Attempt state α} {fault? : Option Fault}
    (h : act.Ends I fault? P) {s : state} (hs : I s) {e : Fault} :
    act.answer s = .error e ↔ fault? = some e := by
  cases fault? with
  | some e' =>
    rw [(h s hs).1]
    simp
  | none =>
    obtain ⟨a, -, h⟩ := h
    rw [(h s hs).1]
    simp

end Attempt

namespace Config

/-! ## Obstacles -/

/-- A place where loading can fail. -/
inductive Place where
  /-- the project file -/
  | projectFile
  /-- the value in it that the table of a tool should be in -/
  | tool
  /-- a section of the table in it -/
  | projectSection (s : Section)
  /-- the file of its own -/
  | ownFile
  /-- a section of that file -/
  | ownSection (s : Section)
  /-- the variable with the command of the server -/
  | variable
  deriving DecidableEq, Repr

/-- The places in the order in which they are met. -/
def Place.all : List Place :=
  .projectFile :: .tool :: Section.all.map .projectSection ++
    .ownFile :: Section.all.map .ownSection ++ [.variable]

/-- What is wrong with a command line: it has no words. -/
def lineObstacle? (line : String) : Option Fault :=
  (Text.Words.unfinished? line).map fun cause => .badText (.unfinished cause)

/-- What is wrong with the value of a command: it is a text that has no words. -/
def commandObstacle? : Value → Option Fault
  | .string line => lineObstacle? line
  | _ => none

/-- What is wrong with a section of a table: it is there, counts as given and is no table, or it is the
one of the server and its command is a text that has no words. -/
def sectionObstacle? (data : Table) (s : Section) : Option Fault :=
  match data.find? s.name with
  | none => none
  | some (.table entries) =>
    if s = .server then (Table.find? "command" entries).bind commandObstacle? else none
  | some value => if value.isTruthy then some .notTable else none

/-- What is wrong with the value of `tool`: it is there and is no table. -/
def toolObstacle? (data : Table) : Option Fault :=
  match data.find? "tool" with
  | none | some (.table _) => none
  | some _ => some .notTable

/-- What is wrong with a document: it is given up while it is read. -/
def documentObstacle? : Except Fault (Option Table) → Option Fault
  | .error e => some e
  | .ok _ => none

/-- What is wrong at a place, by the two documents and the variables. -/
def obstacle? (project own : Except Fault (Option Table)) (environment : String → Option String) :
    Place → Option Fault
  | .projectFile => documentObstacle? project
  | .tool => project.toOption.join.bind toolObstacle?
  | .projectSection s => (project.toOption.join.bind Layer.toolTable?).bind (sectionObstacle? · s)
  | .ownFile => documentObstacle? own
  | .ownSection s => own.toOption.join.bind (sectionObstacle? · s)
  | .variable => (environment "SERVERLINK_SERVER_COMMAND").bind lineObstacle?

/-- What is wrong in the document of a project file. -/
def projectObstacle? (data : Option Table) : Option Fault :=
  (data.bind toolObstacle?).or
    ((data.bind Layer.toolTable?).bind fun table => Section.all.findSome? (sectionObstacle? table))

/-- What is wrong in the document of a file of its own. -/
def ownObstacle? (data : Option Table) : Option Fault :=
  data.bind fun table => Section.all.findSome? (sectionObstacle? table)

/-- **The first obstacle** is one of the project file, or else one of the file of its own, or else the
one of the variables. -/
theorem findSome?_obstacle? (project own : Except Fault (Option Table))
    (environment : String → Option String) :
    Place.all.findSome? (obstacle? project own environment) =
      ((documentObstacle? project).or (projectObstacle? project.toOption.join)).or
        (((documentObstacle? own).or (ownObstacle? own.toOption.join)).or
          ((environment "SERVERLINK_SERVER_COMMAND").bind lineObstacle?)) := by
  have hsections (table? : Option Table) :
      (Section.all.findSome? fun s => table?.bind (sectionObstacle? · s)) = ownObstacle? table? := by
    cases table? <;> rfl
  have hproject := hsections (project.toOption.join.bind Layer.toolTable?)
  have hown := hsections own.toOption.join
  simp only [Place.all, List.findSome?_append, findSome?_cons_or, List.findSome?_map, List.findSome?_nil,
    Option.or_none, Option.or_assoc, obstacle?, Function.comp_def, hproject, hown, projectObstacle?,
    ownObstacle?]

/-! ## Tables -/

/-- **A command line** fails to be cut where it has no words. -/
theorem commandWords_eq_error_iff {line : String} {e : Fault} :
    commandWords line = .error e ↔ lineObstacle? line = some e := by
  rw [lineObstacle?, Option.map_eq_some_iff]
  simp only [← Text.Words.split_eq_error_iff, commandWords]
  cases Text.Words.split line <;> simp [Except.mapError]

/-- **A command** fails to be taken where it is a text that has no words. -/
theorem commandValue_eq_error_iff (value : Value) {e : Fault} :
    commandValue value = .error e ↔ commandObstacle? value = some e := by
  cases value with
  | string line =>
    rw [commandObstacle?, ← commandWords_eq_error_iff, commandValue]
    cases commandWords line <;> simp [Except.map]
  | null | bool | int | float | list | table | moment =>
    constructor
    · intro h
      cases h
    · intro h
      cases h

/-- The command of the server is no text. -/
def IsCut (c : Config) : Prop := ∀ line, c.value .command ≠ .string line

/-- **What a command is taken for** is no text. -/
theorem ne_string_of_commandValue {value command : Value} (h : commandValue value = .ok command)
    (line : String) : command ≠ .string line := by
  cases value with
  | string text =>
    simp only [commandValue] at h
    rcases hwords : commandWords text with e | words
    all_goals rw [hwords] at h
    · cases h
    · cases h
      intro hlist
      cases hlist
  | null | bool | int | float | list | table | moment =>
    cases h
    intro hline
    cases hline

/-- **A command that is named in a section** is the one that counts, and else the one before. -/
theorem value_command_withSection (c : Config) (entries : Table) :
    (c.withSection .server entries).value .command =
      (Table.find? "command" entries).getD (c.value .command) := rfl

theorem IsCut.withSection {c : Config} (hc : c.IsCut) {s : Section} (hs : s ≠ .server)
    (entries : Table) : (c.withSection s entries).IsCut := by
  have hsame : (c.withSection s entries).value .command = c.value .command := if_neg hs.symm
  intro line
  rw [hsame]
  exact hc line

/-- **Where no text stands before it**, only a command that is named can be wrong. -/
theorem IsCut.commandObstacle?_withSection {c : Config} (hc : c.IsCut) (entries : Table) :
    commandObstacle? ((c.withSection .server entries).value .command) =
      (Table.find? "command" entries).bind commandObstacle? := by
  rw [value_command_withSection]
  cases Table.find? "command" entries with
  | some value => rfl
  | none =>
    rw [Option.getD_none, Option.bind_none]
    cases hvalue : c.value .command with
    | string line => exact absurd hvalue (hc line)
    | null | bool | int | float | list | table | moment => rfl

/-- **A section that is given** fails to be read where its command has no words. -/
theorem ends_readSection_of_given (W : σ → Prop) {data entries : Table} {c : Config} (hc : c.IsCut)
    {s : Section} (h : (data.find? s.name).bind Value.given? = some (.table entries)) :
    (readSection data c s : Act σ Config).Ends (Scene.In W)
      (if s = .server then (Table.find? "command" entries).bind commandObstacle? else none) IsCut := by
  unfold readSection
  rw [h]
  refine .yields_bind (.forM (fun _ => Act.yields_note W _ _ _) _) ?_
  by_cases hs : s = .server
  · subst hs
    rw [if_pos rfl, ← hc.commandObstacle?_withSection]
    refine .bind_answer (.of_ofExcept (fun e => commandValue_eq_error_iff _)
      fun command hcommand => ne_string_of_commandValue hcommand) fun command hcommand => ?_
    refine .of_pure fun line => ?_
    rw [value_assign_self]
    exact hcommand line
  · rw [if_neg hs]
    have hpure : (pure (c.withSection s entries) : Act σ Config).Ends (Scene.In W) none IsCut :=
      .of_pure (hc.withSection hs entries)
    cases s <;> first | exact absurd rfl hs | exact hpure

/-- **One section of a table** fails to be read where something is wrong with it. -/
theorem ends_readSection (W : σ → Prop) (data : Table) {c : Config} (hc : c.IsCut) (s : Section) :
    (readSection data c s : Act σ Config).Ends (Scene.In W) (sectionObstacle? data s) IsCut := by
  have hpassed : (data.find? s.name).bind Value.given? = none →
      (readSection data c s : Act σ Config).Ends (Scene.In W) none IsCut := fun hnone => by
    unfold readSection
    rw [hnone]
    exact .of_pure hc
  unfold sectionObstacle?
  rcases hdata : data.find? s.name with _ | value
  · exact hpassed (by rw [hdata]; rfl)
  by_cases htrue : value.isTruthy = true
  · have hgiven : (data.find? s.name).bind Value.given? = some value := by
      rw [hdata, Option.bind_some, Value.given?, if_pos htrue]
    cases value with
    | table entries => exact ends_readSection_of_given W hc hgiven
    | null | bool | int | float | string | list | moment =>
      unfold readSection
      rw [hgiven]
      simp only [htrue, if_true]
      exact .of_throw _ _
  · have hnone : (data.find? s.name).bind Value.given? = none := by
      rw [hdata, Option.bind_some, Value.given?, if_neg htrue]
    cases value with
    | table entries =>
      -- a table that does not count as given is empty
      obtain rfl : entries = [] := by simpa [Value.isTruthy] using htrue
      simpa [Table.find?] using hpassed hnone
    | null | bool | int | float | string | list | moment =>
      simp only [htrue]
      exact hpassed hnone

/-- **A table** fails to be read where something is wrong with one of its sections. -/
theorem ends_ofTable (W : σ → Prop) (data : Table) (root : Path) :
    (ofTable data root : Act σ Config).Ends (Scene.In W)
      (Section.all.findSome? (sectionObstacle? data)) IsCut :=
  .foldlM (fun _ hc s _ => ends_readSection W data hc s) (a := { root }) fun _ => nofun

/-! ## Files and variables -/

section Sources

variable {host : Host σ} {W : σ → Prop} {view : Surroundings} (h : host.Tells W view)

include h

/-- **A file** is given up while it is read where its document is. -/
theorem ends_readDocument (path : Path) :
    (readDocument host path).Ends (Scene.In W) (documentObstacle? (view.document path))
      fun data => view.document path = .ok data := by
  have hread := yields_readDocument h path
  rcases hdocument : view.document path with e | data
  all_goals rw [hdocument] at hread
  · exact hread
  · exact .of_yields hread rfl

/-- **The project file** is an obstacle by itself, by what should be the table of tools, or by a section
of the table in it. -/
theorem ends_ofProjectFile (root : Path) :
    (ofProjectFile host root).Ends (Scene.In W)
      ((documentObstacle? (view.document (root.joinText "pyproject.toml"))).or
        (projectObstacle? (view.document (root.joinText "pyproject.toml")).toOption.join))
      fun _ => True := by
  refine (ends_readDocument h _).bind fun data hdata => ?_
  rw [hdata]
  rcases data with _ | data
  · exact .of_pure trivial
  simp only [Except.toOption, Option.join_some, projectObstacle?, Option.bind_some, toolObstacle?,
    Layer.toolTable?]
  rcases data.find? "tool" with _ | tool
  · exact .of_pure trivial
  cases tool with
  | table tool =>
    dsimp only
    rcases Table.find? "serverlink" tool with _ | own
    · exact .of_pure trivial
    cases own with
    | table entries => exact (ends_ofTable W entries root).bind_answer fun _ _ => .of_pure trivial
    | null | bool | int | float | string | list | moment => exact .of_pure trivial
  | null | bool | int | float | string | list | moment => exact .of_throw _ _

/-- **The configuration file of its own** is an obstacle by itself or by a section. -/
theorem ends_ofOwnFile (root : Path) :
    (ofOwnFile host root).Ends (Scene.In W)
      ((documentObstacle? (view.document (root.joinText ".serverlink.toml"))).or
        (ownObstacle? (view.document (root.joinText ".serverlink.toml")).toOption.join))
      fun _ => True := by
  refine (ends_readDocument h _).bind fun data hdata => ?_
  rw [hdata]
  rcases data with _ | data
  · exact .of_pure trivial
  · exact (ends_ofTable W data root).bind_answer fun _ _ => .of_pure trivial

/-- **One variable** is an obstacle where it has the command of the server, which has no words. -/
theorem ends_readVariable (c : Config) (entry : String × Setting) :
    (readVariable host c entry).Ends (Scene.In W)
      (if entry.2 = .command then (view.environment entry.1).bind lineObstacle? else none)
      fun _ => True := by
  refine .yields_bind (h.environment entry.1) ?_
  rcases view.environment entry.1 with _ | text
  · rw [Option.bind_none, ite_self]
    exact .of_pure trivial
  dsimp only
  by_cases hempty : text.isEmpty = true
  · obtain rfl : text = "" := by simpa using hempty
    have hnone : lineObstacle? "" = none := rfl
    rw [if_pos hempty, Option.bind_some, hnone, ite_self]
    exact .of_pure trivial
  rw [if_neg hempty, Option.bind_some]
  refine .bind_answer (P := fun _ => True) (.of_ofExcept (fun e => ?_) fun _ _ => trivial)
    fun _ _ => .of_pure trivial
  by_cases hcommand : entry.2 = .command
  · rw [hcommand, if_pos rfl]
    exact commandValue_eq_error_iff (.string text)
  · rw [if_neg hcommand]
    constructor
    · intro hvalue
      unfold variableValue at hvalue
      split at hvalue
      · next heq => exact absurd heq hcommand
      · cases hvalue
      · cases hvalue
    · exact nofun

/-- **The variables** are an obstacle where the command of the server among them is. -/
theorem ends_ofVariables {here : Path} (hhere : view.resolve Path.here = .ok here) :
    (ofVariables host).Ends (Scene.In W)
      ((view.environment "SERVERLINK_SERVER_COMMAND").bind lineObstacle?) fun _ => True := by
  refine .yields_bind (hhere ▸ h.resolve Path.here) ?_
  have hall : (namedSettings.foldlM (readVariable host) { root := here }).Ends (Scene.In W)
      (namedSettings.findSome? fun entry =>
        if entry.2 = .command then (view.environment entry.1).bind lineObstacle? else none)
      fun _ => True :=
    .foldlM (fun c _ entry _ => ends_readVariable h c entry) trivial
  have honly : (namedSettings.findSome? fun entry =>
      if entry.2 = .command then (view.environment entry.1).bind lineObstacle? else none) =
        (view.environment "SERVERLINK_SERVER_COMMAND").bind lineObstacle? := by
    simp only [namedSettings, findSome?_cons_or, reduceCtorEq, if_false, if_true, Option.none_or,
      List.findSome?_nil, Option.or_none]
  rwa [honly] at hall

/-- **Laying a source over another one** never fails where the current directory leads somewhere. -/
theorem ends_overlay {here : Path} (hhere : view.resolve Path.here = .ok here) (base : Config)
    (source : Option Config) : (overlay host base source).Ends (Scene.In W) none fun _ => True := by
  cases source with
  | none => exact .of_pure trivial
  | some other => exact .yields_bind (hhere ▸ h.resolve Path.here) (.of_pure trivial)

/-- **Loading** ends with the fault of the first place where there is an obstacle. -/
theorem ends_load {root resolved here : Path} (hroot : view.resolve root = .ok resolved)
    (hhere : view.resolve Path.here = .ok here) :
    (load host root).Ends (Scene.In W)
      (Place.all.findSome? (obstacle? (view.document (resolved.joinText "pyproject.toml"))
        (view.document (resolved.joinText ".serverlink.toml")) view.environment))
      fun _ => True := by
  rw [findSome?_obstacle?]
  refine .yields_bind (hroot ▸ h.resolve root) ?_
  refine (ends_ofProjectFile h resolved).bind fun project _ => ?_
  obtain ⟨c, -, hc⟩ := ends_overlay h hhere { root := resolved } project
  refine .yields_bind hc ?_
  refine (ends_ofOwnFile h resolved).bind fun own _ => ?_
  obtain ⟨c, -, hc⟩ := ends_overlay h hhere c own
  refine .yields_bind hc ?_
  refine (ends_ofVariables h hhere).bind_answer fun fromVariables _ => ?_
  exact ends_overlay h hhere c (some fromVariables)

end Sources

/-- **Loading fails first things first.** Whatever the two documents and the variables hold, loading
fails just where there is an obstacle, and with the fault of the first one: the project file is given up
while it is read; its `tool` is there and is no table; a section of the table in it counts as given and
is no table, or is the one of the server and has a text for a command that has no words; the same of the
file of its own; the variable with the command of the server has no words. -/
theorem load_fails_first {host : Host σ} {W : σ → Prop} {view : Surroundings} (h : host.Tells W view)
    {root resolved here : Path} (hroot : view.resolve root = .ok resolved)
    (hhere : view.resolve Path.here = .ok here) {scene : Scene σ} (hscene : Scene.In W scene)
    (e : Fault) :
    (load host root).answer scene = .error e ↔
      Place.all.findSome? (obstacle? (view.document (resolved.joinText "pyproject.toml"))
        (view.document (resolved.joinText ".serverlink.toml")) view.environment) = some e :=
  (ends_load h hroot hhere).answer_eq_error_iff hscene

/-- A project with several obstacles: the command in its project file ends inside a quotation, a section
of its own file is a number, and the command among the variables ends with a backslash. -/
def obstructed : Surroundings :=
  .plain
    [(Path.ofText "/w/pyproject.toml",
        "[tool.serverlink]\npython = []\nui = 3\nserver.command = \"serve 'x\""),
      (Path.ofText "/w/.serverlink.toml", "analysis = 1")]
    [("SERVERLINK_SERVER_COMMAND", "serve \\")] (Path.ofText "/w") Path.isAbsolute_ofText_w

/-- The section of the server comes before that of the surface, and a section that is an empty list does
not count as given. -/
theorem load_fails_first_obstructed :
    obstructed.resolve (Path.ofText "/w") = .ok (Path.ofText "/w") ∧
      obstructed.resolve Path.here = .ok (Path.ofText "/w") ∧
      (load obstructed.host (Path.ofText "/w")).answer { world := () } =
        .error (.badText (.unfinished .quotation)) := by
  have hroot : obstructed.resolve (Path.ofText "/w") = .ok (Path.ofText "/w") := by
    have hjoin : (Path.ofText "/w").join (Path.ofText "/w") = Path.ofText "/w" := by decide +kernel
    exact congrArg Except.ok hjoin
  have hhere : obstructed.resolve Path.here = .ok (Path.ofText "/w") := by
    have hjoin : (Path.ofText "/w").join Path.here = Path.ofText "/w" := by decide +kernel
    exact congrArg Except.ok hjoin
  refine ⟨hroot, hhere, ?_⟩
  exact (load_fails_first obstructed.tells_host hroot hhere trivial _).mpr (by decide +kernel)

/-- **A project file that is given up** while it is read ends loading. -/
theorem load_of_document_eq_error {bytes : ByteArray} {e : Fault} (h : document bytes = .error e) :
    (load (Surroundings.ofProjectFile (some bytes)).host Path.here).answer { world := () } =
      .error e := by
  let view := Surroundings.ofProjectFile (some bytes)
  have hhere : (Path.ofText "/w").join Path.here = Path.ofText "/w" := by decide +kernel
  have hresolve : view.resolve Path.here = .ok (Path.ofText "/w") := congrArg Except.ok hhere
  have hdocument : view.document ((Path.ofText "/w").joinText "pyproject.toml") = .error e := by
    have hpath : (Path.ofText "/w").joinText "pyproject.toml" = Path.ofText "/w/pyproject.toml" := by
      decide +kernel
    simp only [view, Surroundings.document, Surroundings.ofProjectFile, hpath, decide_true,
      Option.isSome_some, Bool.and_self, h, Except.map]
  rw [(ends_load view.tells_host hresolve hresolve).answer_eq_error_iff trivial, hdocument]
  rfl

/-- A list of lists, and so on, under a key that names nothing. -/
def nestedLists (depth : Nat) : String :=
  String.ofList (Toml.firstKey ++ (List.replicate depth '[' ++ List.replicate depth ']'))

/-- **Lists within lists** are given up where they are too deep. -/
theorem document_nestedLists {depth : Nat} (h : 490 < depth) :
    document (Text.toBytes (nestedLists depth)) = .error .tooDeep := by
  have hdepth : Toml.depthLimit < Toml.arrayWeight * depth := by
    simp only [Toml.depthLimit, Toml.arrayWeight]
    omega
  have hparse : Toml.parse (nestedLists depth) = .error .tooDeep :=
    Toml.parse_eq_tooDeep hdepth fun hmem => absurd (List.eq_of_mem_replicate hmem) (by decide)
  simp only [document, Text.ofBytes?_toBytes, hparse]

/-- **A key that names nothing** can make loading fail: with lists within lists under it the document is
given up if they are too deep, and else loaded. -/
theorem load_of_nested_lists :
    (load (Surroundings.ofProjectFile (some (Text.toBytes (nestedLists 600)))).host
        Path.here).answer { world := () } = .error .tooDeep ∧
      ((load (Surroundings.ofProjectFile (some (Text.toBytes (nestedLists 6)))).host
        Path.here).answer { world := () }).isOk = true :=
  ⟨load_of_document_eq_error (document_nestedLists (by decide)), by decide +kernel⟩

end Config

end LspHost
