import LspHost.Proofs.Config.Layers

/-!
# What the sources amount to

The configuration that documents and variables amount to, apart from how they are read: the sections
of a table one after the other (`Config.inTable`), the variables one after the other
(`Config.inVariables`), and each source over what is there already (`Config.ofSources`). No step
looks at a root, so the root that a source is given does not matter.

It follows the layers of the sources, the later over the earlier (`Config.follows_ofSources`).
-/

namespace LspHost

namespace Config

variable {layer : Layer}

/-! ## Tables -/

/-- A configuration with one section of a table over it. -/
def withTable (data : Table) (c : Config) (s : Section) : Config :=
  match (data.find? s.name).bind Value.given? with
  | some (.table entries) =>
    let c := c.withSection s entries
    if s = .server then c.assign .command (Layer.taken .command (c.value .command)) else c
  | _ => c

/-- The configuration that a table amounts to. -/
def inTable (data : Table) (root : Path) : Config :=
  Section.all.foldl (withTable data) { root }

/-- A section that does not count as given has nothing under the name of a setting. -/
theorem written_of_not_given {data : Table} {s : Section}
    (h : ∀ entries, (data.find? s.name).bind Value.given? ≠ some (.table entries))
    {setting : Setting} (hgroup : setting.group = s) : Layer.written data setting = none := by
  unfold Layer.written
  split
  · next entries hdata =>
    rw [hgroup] at hdata
    cases entries with
    | nil => rfl
    | cons entry rest =>
      refine absurd ?_ (h (entry :: rest))
      rw [hdata]
      rfl
  · rfl

/-- A section that is given as a table is the table. -/
theorem find?_of_given {data entries : Table} {name : String}
    (h : (data.find? name).bind Value.given? = some (.table entries)) :
    data.find? name = some (.table entries) := by
  obtain ⟨value, hdata, hgiven⟩ := Option.bind_eq_some_iff.mp h
  unfold Value.given? at hgiven
  split at hgiven
  · rw [hdata, hgiven]
  · cases hgiven

/-- What is written in a section without a command is taken as it is. -/
theorem only_written {data : Table} {s : Section} (h : s ≠ .server) :
    (Layer.written data).only (·.group == s) = (Layer.ofTable data).only (·.group == s) := by
  funext setting
  unfold Layer.only
  split
  · next hgroup =>
    have hne : setting ≠ .command := by
      rintro rfl
      exact h (eq_of_beq hgroup).symm
    unfold Layer.ofTable
    cases Layer.written data setting with
    | none => rfl
    | some value => exact congrArg some (Layer.taken_of_ne hne value).symm
  · rfl

/-- What is written in the section of the server over a layer without a command, taken for what it
stands for. -/
theorem map_taken_above {data : Table} (hcommand : layer .command = none) :
    (fun setting => (((Layer.written data).only (·.group == .server)).above layer setting).map
      (Layer.taken setting)) = ((Layer.ofTable data).only (·.group == .server)).above layer := by
  funext setting
  simp only [Layer.above, Layer.only, Layer.ofTable]
  by_cases hsetting : setting = .command
  · subst hsetting
    simp [hcommand, Setting.group]
  · have htaken : Layer.taken setting = id := funext (Layer.taken_of_ne hsetting)
    simp only [htaken, Option.map_id, id]

/-- **One section of a table** names what is written there over all else. -/
theorem Follows.withTable {c : Config} (hc : c.Follows layer) (data : Table) {s : Section}
    (hcommand : s = .server → layer .command = none) :
    (c.withTable data s).Follows (((Layer.ofTable data).only (·.group == s)).above layer) := by
  unfold Config.withTable
  split
  · next entries hgiven =>
    have hsection := hc.withSection (find?_of_given hgiven)
    split
    · next hs =>
      subst hs
      have hcut := hsection.assign_command
      rw [map_taken_above (hcommand rfl)] at hcut
      exact hcut
    · next hs =>
      rw [only_written hs] at hsection
      exact hsection
  · next hgiven =>
    have hsilent : (Layer.ofTable data).only (·.group == s) = Layer.silent := by
      funext setting
      unfold Layer.only
      split
      · next hgroup =>
        rw [Layer.ofTable, written_of_not_given hgiven (eq_of_beq hgroup)]
        rfl
      · rfl
    rw [hsilent, Layer.silent_above]
    exact hc

/-- **A table** amounts to what it names. -/
theorem follows_inTable (data : Table) (root : Path) :
    (inTable data root).Follows (Layer.ofTable data) := by
  have h₁ := (follows_silent root).withTable data (s := .python) fun hs => by cases hs
  have h₂ := h₁.withTable data (s := .server) fun _ => rfl
  have h₃ := h₂.withTable data (s := .analysis) fun hs => by cases hs
  have h₄ := h₃.withTable data (s := .ui) fun hs => by cases hs
  have hall : (((Layer.ofTable data).only (·.group == .ui)).above
      (((Layer.ofTable data).only (·.group == .analysis)).above
        (((Layer.ofTable data).only (·.group == .server)).above
          (((Layer.ofTable data).only (·.group == .python)).above Layer.silent)))) =
      Layer.ofTable data := by
    funext setting
    rcases hgroup : setting.group <;> simp [Layer.above, Layer.only, Layer.silent, hgroup]
  rw [hall] at h₄
  exact h₄

@[simp]
theorem root_withTable (data : Table) (c : Config) (s : Section) :
    (c.withTable data s).root = c.root := by
  unfold withTable
  split
  · split <;> rfl
  · rfl

@[simp]
theorem root_inTable (data : Table) (root : Path) : (inTable data root).root = root := by
  simp [inTable, Section.all]

/-! ## Variables -/

/-- A configuration with one variable over it. -/
def withVariable (environment : String → Option String) (c : Config)
    (entry : String × Setting) : Config :=
  match environment entry.1 with
  | none => c
  | some text => if text.isEmpty then c else c.set entry.2 (Layer.ofText entry.2 text)

/-- The configuration that the variables amount to. -/
def inVariables (environment : String → Option String) (root : Path) : Config :=
  namedSettings.foldl (withVariable environment) { root }

/-- **One variable** names its setting over all else. -/
theorem Follows.withVariable {c : Config} (hc : c.Follows layer)
    (environment : String → Option String) (setting : Setting) {name : String}
    (hname : Layer.variableOf setting = some name) :
    (c.withVariable environment (name, setting)).Follows
      (((Layer.ofVariables environment).only (· == setting)).above layer) := by
  rw [Layer.only_beq]
  have hnone : (fun other : Setting => if other = setting then none else none) = Layer.silent := by
    funext other
    exact ite_self _
  simp only [Layer.ofVariables, hname, Option.bind_some, Config.withVariable]
  cases environment name with
  | none =>
    rw [hnone, Layer.silent_above]
    exact hc
  | some text =>
    dsimp only
    split
    · rw [hnone, Layer.silent_above]
      exact hc
    · exact hc.set setting _

/-- **The variables** amount to what they name. -/
theorem follows_inVariables (environment : String → Option String) (root : Path) :
    (inVariables environment root).Follows (Layer.ofVariables environment) := by
  have h₁ := (follows_silent root).withVariable environment .pythonCommand rfl
  have h₂ := h₁.withVariable environment .venvPath rfl
  have h₃ := h₂.withVariable environment .command rfl
  have h₄ := h₃.withVariable environment .progressIndicator rfl
  have hall : ∀ named : Layer, named = Layer.ofVariables environment →
      ((named.only (· == .progressIndicator)).above ((named.only (· == .command)).above
        ((named.only (· == .venvPath)).above
          ((named.only (· == .pythonCommand)).above Layer.silent)))) = named := by
    rintro named rfl
    funext setting
    cases setting <;>
      simp [Layer.above, Layer.only, Layer.silent, Layer.ofVariables, Layer.variableOf]
  rw [hall _ rfl] at h₄
  exact h₄

/-- The root of the variables is only kept along. -/
theorem withVariable_rooted (environment : String → Option String) (c : Config) (root : Path)
    (entry : String × Setting) :
    withVariable environment { c with root } entry =
      { withVariable environment c entry with root } := by
  unfold withVariable
  split
  · rfl
  · split <;> rfl

theorem inVariables_rooted (environment : String → Option String) (here root : Path) :
    inVariables environment here = { inVariables environment root with root := here } := by
  simp only [inVariables, namedSettings, List.foldl_cons, List.foldl_nil, ← withVariable_rooted]

@[simp]
theorem root_inVariables (environment : String → Option String) (root : Path) :
    (inVariables environment root).root = root := by
  rw [inVariables_rooted environment root root]

/-! ## All sources -/

/-- A configuration with a further source over it, if there is one, and the root that it had. -/
def overlaid (base : Config) : Option Config → Config
  | none => base
  | some other => { merge base.root base other with root := base.root }

@[simp]
theorem root_overlaid (base : Config) (source : Option Config) :
    (base.overlaid source).root = base.root := by
  cases source <;> rfl

/-- **The root of a source** is not looked at. -/
theorem overlaid_rooted (base other : Config) (root : Path) :
    base.overlaid (some { other with root }) = base.overlaid (some other) := rfl

/-- **Overlaying keeps the root** if the root of the source is the same, or stands for none. -/
theorem merge_eq_overlaid {here : Path} {base other : Config}
    (h : other.root = base.root ∨ other.root = here) :
    merge here base other = base.overlaid (some other) := by
  have hroot : (if other.root ≠ here then other.root else base.root) = base.root := by
    split
    · next hne =>
      rcases h with h | h
      · exact h
      · exact absurd h hne
    · rfl
  simp only [merge, overlaid, hroot]

/-- The configuration that the table of a project file, a file of its own and the variables amount
to. -/
def ofSources (environment : String → Option String) (root : Path) (project own : Option Table) :
    Config :=
  ((overlaid { root } (project.map (inTable · root))).overlaid (own.map (inTable · root))).overlaid
    (some (inVariables environment root))

@[simp]
theorem root_ofSources (environment : String → Option String) (root : Path)
    (project own : Option Table) : (ofSources environment root project own).root = root := by
  simp [ofSources]

/-- **One more source** counts over what is there already. -/
theorem Follows.overlaid {base other : Config} {lower upper : Layer} (hbase : base.Follows lower)
    (hother : other.Follows upper) : (base.overlaid (some other)).Follows (upper.above lower) := by
  have hmerge := hbase.merge hother base.root
  exact { value := hmerge.value, marks := hmerge.marks, proper := hmerge.proper }

/-- **A file** counts over what is there already. -/
theorem Follows.overlaid_table {base : Config} (hbase : base.Follows layer) (root : Path)
    (data : Option Table) :
    (base.overlaid (data.map (inTable · root))).Follows ((Layer.ofTable? data).above layer) := by
  cases data with
  | none => exact hbase
  | some data => exact hbase.overlaid (follows_inTable data root)

/-- **All sources** amount to what they name, the later over the earlier. -/
theorem follows_ofSources (environment : String → Option String) (root : Path)
    (project own : Option Table) :
    (ofSources environment root project own).Follows ((Layer.ofVariables environment).above
      ((Layer.ofTable? own).above (Layer.ofTable? project))) := by
  have hproject := (follows_silent root).overlaid_table root project
  rw [Layer.above_silent] at hproject
  exact (hproject.overlaid_table root own).overlaid (follows_inVariables environment root)

end Config

end LspHost
