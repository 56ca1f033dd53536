import LspHost.Proofs.Config.Layers

/-!
# The laws of overlaying

Overlaying configurations is associative and idempotent, and a configuration that says nothing
changes nothing, over or under another one (`Config.merge_laws`). The marks are compared as sets, as
the order in which names were marked means nothing.

All of it rests on what the overlay of two configurations decides: what one of them decides
(`Config.decides_merge`). A value that is carried over stays decided, since either its mark is
carried over with it or it differs from the default still.
-/

namespace LspHost

namespace Marks

/-- The same sections are touched, and the same names are marked in each. -/
structure Same (a b : Marks) : Prop where
  /-- the same sections are touched -/
  touches : ∀ s, a.touches s = b.touches s
  /-- each section has the same names -/
  names : ∀ s name, name ∈ a.names s ↔ name ∈ b.names s

theorem touches_iff (marks : Marks) (s : String) :
    marks.touches s = true ↔ s ∈ marks.map Prod.fst := by
  simp [touches]

theorem touches_mark (marks : Marks) (s t : String) (more : List String) :
    (marks.mark s more).touches t = (marks.touches t || t == s) := by
  rw [Bool.eq_iff_iff, Bool.or_eq_true, touches_iff, touches_iff, mem_sections_mark, beq_iff_eq]

/-- **The union of two sources** touches the sections of both. -/
@[simp]
theorem touches_union (a b : Marks) (s : String) :
    (union a b).touches s = (a.touches s || b.touches s) := by
  unfold union
  induction b generalizing a with
  | nil => simp [touches]
  | cons entry rest ih =>
    obtain ⟨t, more⟩ := entry
    have hcons : Marks.touches ((t, more) :: rest) s = (s == t || Marks.touches rest s) := by
      simp [touches, Bool.beq_comm (a := t)]
    rw [List.foldl_cons, ih, touches_mark, hcons, Bool.or_assoc]

@[simp]
theorem touches_nil (s : String) : touches [] s = false := rfl

@[simp]
theorem names_nil (s : String) : names s [] = [] := rfl

end Marks

namespace Config

/-- Two configurations have the same root and the same marks, and each setting has values that are
related. -/
structure Agrees (R : Value → Value → Prop) (a b : Config) : Prop where
  /-- the roots are the same -/
  root : a.root = b.root
  /-- the values are related -/
  value : ∀ setting, R (a.value setting) (b.value setting)
  /-- the marks are the same -/
  marks : a.marks.Same b.marks

section Merge

variable (here : Path) {a b c : Config}

/-- **A name is marked** in an overlay if one of the two marks it. -/
theorem mem_names_merge (ha : a.marks.IsProper) (hb : b.marks.IsProper) (s name : String) :
    name ∈ (merge here a b).marks.names s ↔ name ∈ a.marks.names s ∨ name ∈ b.marks.names s := by
  simp [merge, Marks.mem_names_union _ hb, Marks.mem_names_union _ ha]

theorem isProper_merge (a b : Config) : (merge here a b).marks.IsProper :=
  (Marks.isProper_nil.union a.marks).union b.marks

theorem touches_merge (a b : Config) (s : String) :
    (merge here a b).marks.touches s = (a.marks.touches s || b.marks.touches s) := by
  simp [merge]

theorem isMarked_merge (ha : a.marks.IsProper) (hb : b.marks.IsProper) (setting : Setting) :
    (merge here a b).isMarked setting = (a.isMarked setting || b.isMarked setting) := by
  have hnames := mem_names_merge here ha hb setting.group.name setting.name
  rw [Bool.eq_iff_iff]
  simpa [isMarked] using hnames

theorem value_merge_of_decides {setting : Setting} (h : b.decides setting = true) (a : Config) :
    (merge here a b).value setting = b.value setting := by
  simp [merge, h]

theorem value_merge_of_not_decides {setting : Setting} (h : b.decides setting = false)
    (a : Config) : (merge here a b).value setting = a.value setting := by
  simp [merge, h]

/-- **An overlay decides** what one of the two decides. -/
theorem decides_merge (ha : a.marks.IsProper) (hb : b.marks.IsProper) (setting : Setting) :
    (merge here a b).decides setting = (a.decides setting || b.decides setting) := by
  by_cases h : b.decides setting = true
  · -- the value of `b` is there, and it is marked or no default, as it was in `b`
    rw [h, Bool.or_true, decides, value_merge_of_decides here h, isMarked_merge here ha hb,
      Bool.or_assoc]
    rw [decides] at h
    rw [h, Bool.or_true]
  · have h : b.decides setting = false := by simpa using h
    have hmarked : b.isMarked setting = false := by
      rw [decides, Bool.or_eq_false_iff] at h
      exact h.1
    rw [h, Bool.or_false, decides, value_merge_of_not_decides here h, isMarked_merge here ha hb,
      hmarked, Bool.or_false, decides]

/-- **Overlaying in one order or the other**: what comes last counts. -/
theorem agrees_merge_assoc (ha : a.marks.IsProper) (hb : b.marks.IsProper)
    (hc : c.marks.IsProper) :
    (merge here (merge here a b) c).Agrees Eq (merge here a (merge here b c)) where
  root := by
    by_cases hroot : c.root = here
    · simp [merge, hroot]
    · simp [merge, hroot]
  value := by
    intro setting
    have hdecides := decides_merge here hb hc setting
    by_cases h : c.decides setting = true
    · rw [h, Bool.or_true] at hdecides
      rw [value_merge_of_decides here h, value_merge_of_decides here hdecides,
        value_merge_of_decides here h]
    · have h : c.decides setting = false := by simpa using h
      rw [h, Bool.or_false] at hdecides
      rw [value_merge_of_not_decides here h]
      by_cases hb' : b.decides setting = true
      · rw [hb'] at hdecides
        rw [value_merge_of_decides here hb', value_merge_of_decides here hdecides,
          value_merge_of_not_decides here h]
      · have hb' : b.decides setting = false := by simpa using hb'
        rw [hb'] at hdecides
        rw [value_merge_of_not_decides here hb', value_merge_of_not_decides here hdecides]
  marks := by
    constructor
    · intro s
      simp only [touches_merge, Bool.or_assoc]
    · intro s name
      rw [mem_names_merge here (isProper_merge here a b) hc, mem_names_merge here ha hb,
        mem_names_merge here ha (isProper_merge here b c), mem_names_merge here hb hc, or_assoc]

/-- **Over itself** a configuration is what it is. -/
theorem agrees_merge_self (ha : a.marks.IsProper) : (merge here a a).Agrees Eq a where
  root := by simp [merge]
  value := by simp [merge]
  marks := by
    constructor
    · intro s
      rw [touches_merge, Bool.or_self]
    · intro s name
      rw [mem_names_merge here ha ha, or_self]

theorem not_decides_blank (root : Path) (setting : Setting) :
    decides { root } setting = false := by
  simp [decides, isMarked, Follows.alike_default]

/-- **A configuration that says nothing** changes nothing. -/
theorem agrees_merge_blank (ha : a.marks.IsProper) :
    (merge here a { root := here }).Agrees Eq a where
  root := by simp [merge]
  value := by
    intro setting
    exact value_merge_of_not_decides here (not_decides_blank here setting) a
  marks := by
    constructor
    · intro s
      rw [touches_merge, Marks.touches_nil, Bool.or_false]
    · intro s name
      rw [mem_names_merge here ha Marks.isProper_nil]
      simp

/-- **Over one that says nothing** a configuration keeps its values, except that a value which is
not marked and equal to the default gives way to the default. -/
theorem agrees_blank_merge (ha : a.marks.IsProper) :
    a.Agrees (fun v w => v = w ∨ v.alike w = true) (merge here { root := here } a) where
  root := by
    by_cases hroot : a.root = here
    · simp [merge, hroot]
    · simp [merge, hroot]
  value := by
    intro setting
    by_cases h : a.decides setting = true
    · rw [value_merge_of_decides here h]
      exact .inl rfl
    · have h : a.decides setting = false := by simpa using h
      rw [value_merge_of_not_decides here h]
      rw [decides, Bool.or_eq_false_iff] at h
      exact .inr (by simpa using h.2)
  marks := by
    constructor
    · intro s
      rw [touches_merge, Marks.touches_nil, Bool.false_or]
    · intro s name
      rw [mem_names_merge here Marks.isProper_nil ha]
      simp

/-- **The laws of overlaying.** It does not matter which of three configurations are overlaid first; a
configuration over itself is what it is; one that says nothing changes nothing over another one, and
under another one nothing but the form of values that are equal to their defaults. Values and roots
are arbitrary, and so are the marks, in which no section stands twice. -/
theorem merge_laws (a b c : Config) (ha : a.marks.IsProper) (hb : b.marks.IsProper)
    (hc : c.marks.IsProper) :
    (merge here (merge here a b) c).Agrees Eq (merge here a (merge here b c)) ∧
      (merge here a { root := here }).Agrees Eq a ∧
      (merge here a a).Agrees Eq a ∧
      a.Agrees (fun v w => v = w ∨ v.alike w = true) (merge here { root := here } a) :=
  ⟨agrees_merge_assoc here ha hb hc, agrees_merge_blank here ha, agrees_merge_self here ha,
    agrees_blank_merge here ha⟩

end Merge

/-- A configuration of a project in `/w` that has a value for the indicator, and marks of its own. -/
def ofIndicator (value : Value) (marks : Marks) : Config :=
  { assign { root := .ofText "/w" } .progressIndicator value with marks }

/-- The number `1` is as good as the default of the indicator: where it is marked it counts over what
is below it, and where it is not it gives way. -/
theorem merge_laws_indicator :
    let here := Path.ofText "/tmp"
    let off := ofIndicator (.bool false) []
    let marked := ofIndicator (.int 1) [("ui", ["progress_indicator", "theme"]), ("editor", [])]
    let unmarked := ofIndicator (.int 1) [("python", ["venv_path"])]
    (merge here (merge here off marked) unmarked).value .progressIndicator = .int 1 ∧
      (merge here { root := here } unmarked).value .progressIndicator = .bool true ∧
      (merge here (merge here off marked) unmarked).Agrees Eq
        (merge here off (merge here marked unmarked)) ∧
      unmarked.Agrees (fun v w => v = w ∨ v.alike w = true)
        (merge here { root := here } unmarked) := by
  intro here off marked unmarked
  have hoff : off.marks.IsProper := Marks.isProper_nil
  have hmarked : marked.marks.IsProper := by
    show ["ui", "editor"].Nodup
    decide
  have hunmarked : unmarked.marks.IsProper := by
    show ["python"].Nodup
    decide
  obtain ⟨hassoc, -, -, -⟩ := merge_laws here off marked unmarked hoff hmarked hunmarked
  obtain ⟨-, -, -, hblank⟩ := merge_laws here unmarked off off hunmarked hoff hoff
  exact ⟨by decide +kernel, by decide +kernel, hassoc, hblank⟩

end Config

end LspHost
