import LspHost.Config.Source
import LspHost.Proofs.Config.Marks
import LspHost.Proofs.Outcome

/-!
# Layers of configuration

A layer says which settings a source names, and the value that it gives to each. What a table and
what the environment variables name is written down here on its own (`Layer.ofTable`,
`Layer.ofVariables`), without the configurations that are made of them.

A configuration follows a layer (`Config.Follows`) when every setting has the value that the layer
names, or its default, and exactly the named settings are marked. Overlaying is then taking the
later layer first (`Config.Follows.merge`): a configuration that follows a layer decides the
settings that the layer names and no others, because a setting it does not name is at its default.
-/

namespace LspHost

/-- What a source says: the value of each setting that it names. -/
abbrev Layer := Setting → Option Value

namespace Layer

/-- The layer that names nothing. -/
def silent : Layer := fun _ => none

/-- One layer over another: where both name a setting, the upper one counts. -/
def above (upper lower : Layer) : Layer := fun setting => (upper setting).or (lower setting)

/-- What a layer names among some settings. -/
def only (among : Setting → Bool) (layer : Layer) : Layer := fun setting =>
  if among setting then layer setting else none

/-- The value that stands for a value that a source names: a command given as a text is the list of
its words, of which a text that cannot be cut has none. -/
def taken : Setting → Value → Value
  | .command, .string line =>
    match Text.Words.split line with
    | .ok words => .list (words.map .string)
    | .error _ => .list []
  | _, value => value

/-- What a table has under the name of a setting in the section of the setting. A section that is no
table has nothing. -/
def written (data : Table) : Layer := fun setting =>
  match data.find? setting.group.name with
  | some (.table entries) => Table.find? setting.name entries
  | _ => none

/-- What a table names: the known keys of its sections. -/
def ofTable (data : Table) : Layer := fun setting => (written data setting).map (taken setting)

/-- What a file names that holds a table: nothing, if there is none. -/
def ofTable? : Option Table → Layer
  | none => silent
  | some data => ofTable data

/-- The table `tool.serverlink` of a project file. -/
def toolTable? (data : Table) : Option Table :=
  match data.find? "tool" with
  | some (.table tool) =>
    match Table.find? "serverlink" tool with
    | some (.table entries) => some entries
    | _ => none
  | _ => none

/-- The environment variable of a setting. -/
def variableOf : Setting → Option String
  | .pythonCommand => some "SERVERLINK_PYTHON_COMMAND"
  | .venvPath => some "SERVERLINK_VENV_PATH"
  | .command => some "SERVERLINK_SERVER_COMMAND"
  | .progressIndicator => some "SERVERLINK_PROGRESS_INDICATOR"
  | _ => none

/-- The value that a text stands for as a value of a setting. -/
def ofText : Setting → String → Value
  | .progressIndicator, text => .bool (Config.isYes text)
  | setting, text => taken setting (.string text)

/-- What the environment variables name: the settings whose variables are not empty. -/
def ofVariables (environment : String → Option String) : Layer := fun setting =>
  match (variableOf setting).bind environment with
  | some text => if text.isEmpty then none else some (ofText setting text)
  | none => none

@[simp]
theorem silent_above (layer : Layer) : silent.above layer = layer := rfl

@[simp]
theorem above_silent (layer : Layer) : layer.above silent = layer := by
  funext setting
  simp [above, silent]

/-- What a layer names for one setting. -/
theorem only_beq (layer : Layer) (setting : Setting) :
    layer.only (· == setting) = fun other => if other = setting then layer setting else none := by
  funext other
  by_cases h : other = setting
  · subst h
    simp [only]
  · simp [only, h]

/-- Only a command is taken for something else than what is written. -/
theorem taken_of_ne {setting : Setting} (h : setting ≠ .command) (value : Value) :
    taken setting value = value := by
  cases setting
  case command => exact absurd rfl h
  all_goals rfl

/-- What a command is taken for is the value that reading it gives. -/
theorem eq_taken_of_commandValue {value taken' : Value}
    (h : Config.commandValue value = .ok taken') : taken' = taken .command value := by
  cases value with
  | string line =>
    simp only [Config.commandValue, Config.commandWords] at h
    rcases hsplit : Text.Words.split line with cause | words
    all_goals rw [hsplit] at h
    · cases h
    · cases h
      simp only [taken, hsplit]
  | _ =>
    cases h
    rfl

/-- What a text is taken for is the value that reading a variable gives. -/
theorem eq_ofText_of_variableValue {setting : Setting} {text : String} {value : Value}
    (h : Config.variableValue setting text = .ok value) : value = ofText setting text := by
  cases setting
  case command =>
    have hcommand : Config.commandValue (.string text) = .ok value := h
    exact eq_taken_of_commandValue hcommand
  all_goals
    cases h
    rfl

end Layer

/-- **A name belongs to one setting of a section.** -/
theorem Setting.eq_of_name {a b : Setting} (hgroup : a.group = b.group) (hname : a.name = b.name) :
    a = b := by
  have h := Setting.ofName?_name a
  rw [hgroup, hname, Setting.ofName?_name b] at h
  exact (Option.some.inj h).symm

theorem Setting.mem_ofSection (setting : Setting) (s : Section) :
    setting ∈ Setting.ofSection s ↔ setting.group = s := by
  simp [Setting.ofSection, Setting.mem_all]

theorem Section.name_injective {s t : Section} (h : s.name = t.name) : s = t := by
  revert h
  cases s <;> cases t <;> decide

namespace Config

/-- A configuration that says what a layer names, and nothing else. -/
structure Follows (c : Config) (layer : Layer) : Prop where
  /-- a setting has the value that is named, or its default -/
  value : ∀ setting, c.value setting = (layer setting).getD setting.default
  /-- the names of the named settings are marked -/
  marks : ∀ (s : Section) (name : String), name ∈ c.marks.names s.name ↔
    ∃ setting : Setting, setting.group = s ∧ setting.name = name ∧ (layer setting).isSome
  /-- the marks are proper -/
  proper : c.marks.IsProper

theorem follows_silent (root : Path) : Follows { root } Layer.silent where
  value := fun _ => rfl
  marks := fun s name => by simp [Marks.names, Layer.silent]
  proper := Marks.isProper_nil

namespace Follows

variable {c base other : Config} {layer lower upper : Layer}

/-- **Marked is named.** -/
theorem isMarked_iff (h : c.Follows layer) (setting : Setting) :
    c.isMarked setting = true ↔ (layer setting).isSome := by
  unfold isMarked
  rw [List.contains_iff_mem, h.marks]
  constructor
  · rintro ⟨named, hgroup, hname, hsome⟩
    rwa [← Setting.eq_of_name hgroup hname]
  · intro hsome
    exact ⟨setting, rfl, rfl, hsome⟩

/-- **What is not marked** is at its default. -/
theorem eq_default (h : c.Follows layer) {setting : Setting}
    (hmarked : c.isMarked setting = false) : c.value setting = setting.default := by
  rw [h.value]
  rcases hnamed : layer setting with _ | v
  · rfl
  · have hsome := (h.isMarked_iff setting).mpr (by rw [hnamed]; rfl)
    rw [hmarked] at hsome
    cases hsome

/-- Every default is equal to itself, so that a setting at its default says nothing. -/
theorem alike_default (setting : Setting) :
    setting.default.alike setting.default = true := by
  cases setting <;> decide +kernel

/-- **A configuration decides what its layer names**, and no other setting. -/
theorem decides_iff (h : c.Follows layer) (setting : Setting) :
    c.decides setting = true ↔ (layer setting).isSome := by
  rw [← h.isMarked_iff setting]
  unfold decides
  constructor
  · intro hdecides
    rcases hnamed : layer setting with _ | v
    · rw [h.value, hnamed, Option.getD_none, alike_default] at hdecides
      simpa using hdecides
    · rw [h.isMarked_iff, hnamed]
      rfl
  · intro hmarked
    rw [hmarked, Bool.true_or]

/-- **Overlaying takes the later layer first.** -/
theorem merge (hbase : base.Follows lower) (hother : other.Follows upper) (here : Path) :
    (Config.merge here base other).Follows (upper.above lower) where
  value := fun setting => by
    have hdecides := hother.decides_iff setting
    simp only [Config.merge, Layer.above]
    rcases hnamed : upper setting with _ | v
    · rw [hnamed] at hdecides
      rw [if_neg (by simpa using hdecides), hbase.value, Option.none_or]
    · rw [hnamed] at hdecides
      rw [if_pos (by simpa using hdecides), hother.value, hnamed, Option.some_or]
  marks := fun s name => by
    simp only [Config.merge]
    rw [Marks.mem_names_union _ hother.proper, Marks.mem_names_union _ hbase.proper, hbase.marks,
      hother.marks]
    simp only [Marks.names, List.not_mem_nil, false_or, Layer.above, Option.isSome_or]
    constructor
    · rintro (⟨setting, hgroup, hname, hsome⟩ | ⟨setting, hgroup, hname, hsome⟩)
      · exact ⟨setting, hgroup, hname, by simp [hsome]⟩
      · exact ⟨setting, hgroup, hname, by simp [hsome]⟩
    · rintro ⟨setting, hgroup, hname, hsome⟩
      rcases Bool.or_eq_true_iff.mp hsome with hsome | hsome
      · exact .inr ⟨setting, hgroup, hname, hsome⟩
      · exact .inl ⟨setting, hgroup, hname, hsome⟩
  proper := (Marks.isProper_nil.union base.marks).union other.marks

/-- **Giving a setting a value and marking it** names it over all else. -/
theorem set (h : c.Follows layer) (setting : Setting) (v : Value) :
    (c.set setting v).Follows
      (Layer.above (fun other => if other = setting then some v else none) layer) where
  value := fun other => by
    by_cases hother : other = setting
    · simp [Config.set, mark, assign, Layer.above, hother]
    · simp [Config.set, mark, assign, Layer.above, hother, h.value]
  marks := fun s name => by
    simp only [Config.set, mark, assign]
    rw [Marks.mem_names_mark, h.marks]
    simp only [Layer.above, Option.isSome_or, List.mem_singleton]
    constructor
    · rintro (⟨named, hgroup, hname, hsome⟩ | ⟨hs, rfl⟩)
      · exact ⟨named, hgroup, hname, by simp [hsome]⟩
      · exact ⟨setting, Section.name_injective hs, rfl, by simp⟩
    · rintro ⟨named, hgroup, hname, hsome⟩
      by_cases hnamed : named = setting
      · subst hnamed
        exact .inr ⟨congrArg Section.name hgroup, hname.symm⟩
      · exact .inl ⟨named, hgroup, hname, by simpa [hnamed] using hsome⟩
  proper := h.proper.mark _ _

/-- **A section of a table** names what is written there over all else. -/
theorem withSection (h : c.Follows layer) {data entries : Table} {s : Section}
    (hdata : data.find? s.name = some (.table entries)) :
    (c.withSection s entries).Follows
      (((Layer.written data).only (·.group == s)).above layer) where
  value := fun setting => by
    by_cases hgroup : setting.group = s
    · subst hgroup
      simp only [Config.withSection, mark, Layer.above, Layer.only, Layer.written, hdata, h.value,
        if_pos, beq_self_eq_true]
      cases Table.find? setting.name entries <;> simp
    · simp [Config.withSection, mark, Layer.above, Layer.only, hgroup, h.value]
  marks := fun t name => by
    simp only [Config.withSection, mark]
    rw [Marks.mem_names_mark, h.marks]
    simp only [knownSettings, List.mem_map, List.mem_filter, Setting.mem_ofSection]
    constructor
    · rintro (⟨setting, hgroup, hname, hsome⟩ | ⟨hs, setting, ⟨hgroup, hfound⟩, hname⟩)
      · exact ⟨setting, hgroup, hname, by simp [Layer.above, hsome]⟩
      · refine ⟨setting, hgroup.trans (Section.name_injective hs), hname, ?_⟩
        subst hgroup
        simp [Layer.above, Layer.only, Layer.written, hdata, hfound]
    · rintro ⟨setting, hgroup, hname, hsome⟩
      by_cases hs : setting.group = s
      · subst hs
        simp only [Layer.above, Layer.only, Layer.written, hdata, beq_self_eq_true, if_true,
          Option.isSome_or] at hsome
        rcases Bool.or_eq_true_iff.mp hsome with hsome | hsome
        · exact .inr ⟨congrArg Section.name hgroup, setting, ⟨rfl, hsome⟩, hname⟩
        · exact .inl ⟨setting, hgroup, hname, hsome⟩
      · refine .inl ⟨setting, hgroup, hname, ?_⟩
        simpa [Layer.above, Layer.only, hs] using hsome
  proper := h.proper.mark _ _

/-- **Cutting the command into words** takes every named setting for what it stands for. -/
theorem assign_command (h : c.Follows layer) :
    (c.assign .command (Layer.taken .command (c.value .command))).Follows fun setting =>
      (layer setting).map (Layer.taken setting) where
  value := fun setting => by
    by_cases hsetting : setting = .command
    · subst hsetting
      rw [value_assign_self, h.value]
      cases layer .command <;> rfl
    · rw [value_assign_of_ne hsetting, h.value]
      cases layer setting with
      | none => rfl
      | some v => exact (Layer.taken_of_ne hsetting v).symm
  marks := fun s name => by
    simp only [assign, Option.isSome_map]
    exact h.marks s name
  proper := h.proper

end Follows

end Config

end LspHost
