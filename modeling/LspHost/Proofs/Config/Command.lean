import LspHost.Proofs.Config.Obstacles
import LspHost.Proofs.Config.Overlay
import LspHost.Proofs.Text.Quoting

/-!
# The command of the server

A source that has the command of the server as a line written of words gives a configuration with these
words, which it keeps over any other one (`Config.Orders`). For the variables that is all there is to say
(`Config.orders_ofVariables`). A table can only fail to be read for another section then, which counts as
given and is no table (`Config.delivers_ofOwnFile`, `Config.delivers_ofProjectFile`).
-/

namespace LspHost

variable {σ : Type} {argv : List String}

/-- **A line that is written of words** ends well. -/
theorem Text.Words.unfinished?_join (words : List String) : unfinished? (join words) = none := by
  refine Option.eq_none_iff_forall_ne_some.mpr fun cause hcause => ?_
  cases (split_join words).symm.trans (split_eq_error_iff.mpr hcause)

/-- **A line that is written of words** is taken for them. -/
theorem Layer.taken_join (argv : List String) :
    taken .command (.string (Text.Words.join argv)) = .list (argv.map .string) := by
  simp only [taken, Text.Words.split_join]

namespace Config

/-- A configuration has a command, and keeps it over any other one. -/
structure Orders (c : Config) (argv : List String) : Prop where
  /-- it has the command -/
  value : c.value .command = .list (argv.map .string)
  /-- it keeps the command -/
  merged : ∀ here base, (merge here base c).value .command = .list (argv.map .string)

/-- **A layer that names a command** is followed by what orders it. -/
theorem Follows.orders {c : Config} {layer : Layer} (h : c.Follows layer)
    (hcommand : layer .command = some (.list (argv.map .string))) : c.Orders argv := by
  have hvalue : c.value .command = .list (argv.map .string) := by
    rw [h.value, hcommand, Option.getD_some]
  have hdecides : c.decides .command = true := by
    rw [h.decides_iff, hcommand, Option.isSome_some]
  exact ⟨hvalue, fun here base => (value_merge_of_decides here hdecides base).trans hvalue⟩

/-! ## Tables -/

/-- A section of a table is a table, if it counts as given. -/
def IsTabled (data : Table) (s : Section) : Prop :=
  ∀ value, data.find? s.name = some value → value.isTruthy = true → ∃ entries, value = .table entries

section Line

variable {data : Table} (hline : Layer.written data .command = some (.string (Text.Words.join argv)))

include hline

/-- **A table** whose command is a line of words names these. -/
theorem ofTable_command : Layer.ofTable data .command = some (.list (argv.map .string)) := by
  rw [Layer.ofTable, hline, Option.map_some, Layer.taken_join]

/-- **A section that is a table** is read. -/
theorem sectionObstacle?_of_isTabled {s : Section} (htabled : IsTabled data s) :
    sectionObstacle? data s = none := by
  unfold sectionObstacle?
  split
  · rfl
  · next entries hdata =>
    split
    · next hs =>
      subst hs
      have hcommand : Table.find? "command" entries = some (.string (Text.Words.join argv)) := by
        rw [← hline, Layer.written, Setting.group, hdata]
        rfl
      rw [hcommand, Option.bind_some, commandObstacle?, lineObstacle?, Text.Words.unfinished?_join]
      rfl
    · rfl
  · next value hother hdata =>
    refine if_neg fun htruthy => ?_
    obtain ⟨entries, rfl⟩ := htabled value hdata htruthy
    exact hother entries rfl

end Line

/-- **A section that is no table** is not read. -/
theorem sectionObstacle?_of_not_isTabled {data : Table} {s : Section} (h : ¬ IsTabled data s) :
    sectionObstacle? data s = some .notTable := by
  simp only [IsTabled, not_forall] at h
  obtain ⟨value, hdata, htruthy, hother⟩ := h
  unfold sectionObstacle?
  rw [hdata]
  split
  · next hnone => cases hnone
  · next entries htable => exact absurd ⟨entries, Option.some.inj htable⟩ hother
  · next value' hnot hsame =>
    cases hsame
    exact if_pos htruthy

/-- **A table** whose command is a line of words is read unless a section is no table. -/
theorem findSome?_sectionObstacle? {data : Table}
    (hline : Layer.written data .command = some (.string (Text.Words.join argv))) :
    ((∀ s, IsTabled data s) → Section.all.findSome? (sectionObstacle? data) = none) ∧
      (¬ (∀ s, IsTabled data s) → Section.all.findSome? (sectionObstacle? data) = some .notTable) := by
  constructor
  · intro htabled
    exact List.findSome?_eq_none_iff.mpr fun s _ => sectionObstacle?_of_isTabled hline (htabled s)
  · intro hnot
    obtain ⟨s, hs⟩ := not_forall.mp hnot
    have hmem : s ∈ Section.all := by cases s <;> decide
    have hsome : Section.all.findSome? (sectionObstacle? data) ≠ none := fun hnone => by
      cases (List.findSome?_eq_none_iff.mp hnone s hmem).symm.trans (sectionObstacle?_of_not_isTabled hs)
    obtain ⟨e, he⟩ := Option.ne_none_iff_exists'.mp hsome
    obtain ⟨t, -, ht⟩ := List.exists_of_findSome?_eq_some he
    by_cases htabled : IsTabled data t
    · cases (sectionObstacle?_of_isTabled hline htabled).symm.trans ht
    · rw [he, ← ht, sectionObstacle?_of_not_isTabled htabled]

/-! ## Sources -/

/-- Reading a source gives a configuration with a command if its sections are tables, and else it ends with
the fault that one of them is not. -/
structure Delivers (act : Act σ (Option Config)) (scene : Scene σ) (data : Table) (argv : List String) :
    Prop where
  /-- with all sections tables, it gives one with the command -/
  of_tabled : (∀ s, IsTabled data s) → ∃ c, act.answer scene = .ok (some c) ∧ c.Orders argv
  /-- and else it gives none -/
  of_not_tabled : (¬ ∀ s, IsTabled data s) → act.answer scene = .error .notTable

/-- **A file** whose command is a line of words gives a configuration with these. -/
theorem delivers_of_ends {W : σ → Prop} {act : Act σ (Option Config)} {scene : Scene σ} {data : Table}
    {root : Path} (hline : Layer.written data .command = some (.string (Text.Words.join argv)))
    (hends : act.Ends (Scene.In W) (Section.all.findSome? (sectionObstacle? data)) fun _ => True)
    (hsource : ∀ source t, act scene = .ok source t → source = some (inTable data root))
    (hscene : Scene.In W scene) : Delivers act scene data argv := by
  obtain ⟨hread, hfails⟩ := findSome?_sectionObstacle? hline
  constructor
  · intro htabled
    rw [hread htabled] at hends
    obtain ⟨source, -, hyields⟩ := hends
    have hanswer := (hyields scene hscene).1
    obtain rfl := hsource source _ (Attempt.eq_ok_of_answer hanswer)
    exact ⟨_, hanswer, (follows_inTable data root).orders (ofTable_command hline)⟩
  · intro hnot
    exact (hends.answer_eq_error_iff hscene).mpr (hfails hnot)

section Sources

variable {host : Host σ} {W : σ → Prop} {view : Surroundings} (h : host.Tells W view) {scene : Scene σ}
  (hscene : Scene.In W scene)

include h hscene

/-- **The file of its own** with a line of words. -/
theorem delivers_ofOwnFile {root : Path} {data : Table}
    (hdocument : view.document (root.joinText ".serverlink.toml") = .ok (some data))
    (hline : Layer.written data .command = some (.string (Text.Words.join argv))) :
    Delivers (ofOwnFile host root) scene data argv := by
  have hends := ends_ofOwnFile h root
  rw [hdocument] at hends
  have hsource : ∀ source t, ofOwnFile host root scene = .ok source t →
      source = some (inTable data root) := fun source t hrun => by
    obtain ⟨-, data', hdata, hsource⟩ := ofOwnFile_eq_ok h hscene hrun
    cases hdocument.symm.trans hdata
    exact hsource
  exact delivers_of_ends hline hends hsource hscene

/-- **The project file** with a line of words in its table. -/
theorem delivers_ofProjectFile {root : Path} {document data : Table}
    (hdocument : view.document (root.joinText "pyproject.toml") = .ok (some document))
    (htable : Layer.toolTable? document = some data)
    (hline : Layer.written data .command = some (.string (Text.Words.join argv))) :
    Delivers (ofProjectFile host root) scene data argv := by
  have htool : toolObstacle? document = none := by
    unfold Layer.toolTable? at htable
    split at htable
    · next tool htool => rw [toolObstacle?, htool]
    · cases htable
  have hends := ends_ofProjectFile h root
  rw [hdocument] at hends
  simp only [Except.toOption, Option.join_some, documentObstacle?, projectObstacle?, Option.bind_some, htool,
    htable, Option.none_or] at hends
  have hsource : ∀ source t, ofProjectFile host root scene = .ok source t →
      source = some (inTable data root) := fun source t hrun => by
    obtain ⟨-, data', hdata, hsource⟩ := ofProjectFile_eq_ok h hscene hrun
    cases hdocument.symm.trans hdata
    rw [hsource, Option.bind_some, htable]
    rfl
  exact delivers_of_ends hline hends hsource hscene

/-- **The variables** with a line of words. -/
theorem orders_ofVariables (hargv : argv ≠ []) {here : Path} (hhere : view.resolve Path.here = .ok here)
    (hline : view.environment "SERVERLINK_SERVER_COMMAND" = some (Text.Words.join argv)) :
    ∃ c, (ofVariables host).answer scene = .ok c ∧ c.Orders argv := by
  have hends := ends_ofVariables h hhere
  rw [hline, Option.bind_some, lineObstacle?, Text.Words.unfinished?_join, Option.map_none] at hends
  obtain ⟨c, -, hyields⟩ := hends
  have hanswer := (hyields scene hscene).1
  obtain ⟨-, -, hc⟩ := ofVariables_eq_ok h hscene (Attempt.eq_ok_of_answer hanswer)
  have hcommand : Layer.ofVariables view.environment .command = some (.list (argv.map .string)) := by
    have hempty : ¬ (Text.Words.join argv).isEmpty = true := by
      simpa using Text.Words.join_ne_empty hargv
    simp only [Layer.ofVariables, Layer.variableOf, Option.bind_some, hline, if_neg hempty]
    exact congrArg some (Layer.taken_join argv)
  have hfollows := follows_inVariables view.environment c.root
  rw [← hc] at hfollows
  exact ⟨c, hanswer, hfollows.orders hcommand⟩

end Sources

end Config

end LspHost
