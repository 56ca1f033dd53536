import LspHost.Config

/-!
# Marks as sets

Marks are kept as lists of names under the names of their sections. Read as sets they obey simple
laws: marking adds names to one section (`Marks.mem_names_mark`), and the union of two sources has
the names of both (`Marks.mem_names_union`).
-/

namespace LspHost

namespace Marks

/-- No section is listed twice. -/
def IsProper (marks : Marks) : Prop := (marks.map Prod.fst).Nodup

theorem isProper_nil : IsProper [] := List.nodup_nil

/-! ## Names -/

theorem mem_addNames (marked more : List String) (name : String) :
    name ∈ addNames marked more ↔ name ∈ marked ∨ name ∈ more := by
  unfold addNames
  induction more generalizing marked with
  | nil => simp
  | cons first rest ih =>
    rw [List.foldl_cons, ih]
    split
    · next h =>
      have hfirst : first ∈ marked := by simpa using h
      constructor
      · rintro (h | h)
        · exact .inl h
        · exact .inr (List.mem_cons_of_mem _ h)
      · rintro (h | h)
        · exact .inl h
        · rcases List.mem_cons.mp h with rfl | h
          · exact .inl hfirst
          · exact .inr h
    · simp only [List.mem_append, List.mem_cons, List.not_mem_nil, or_false, or_assoc]

/-- A section that is not listed has no names. -/
theorem names_of_not_mem {marks : Marks} {s : String} (h : s ∉ marks.map Prod.fst) :
    marks.names s = [] := by
  induction marks with
  | nil => rfl
  | cons entry rest ih =>
    obtain ⟨t, marked⟩ := entry
    simp only [List.map_cons, List.mem_cons, not_or] at h
    rw [names, if_neg (Ne.symm h.1), ih h.2]

/-! ## Marking -/

/-- **Marking** adds names to one section and to no other. -/
theorem mem_names_mark (marks : Marks) (s t : String) (more : List String) (name : String) :
    name ∈ (marks.mark s more).names t ↔ name ∈ marks.names t ∨ s = t ∧ name ∈ more := by
  induction marks with
  | nil =>
    by_cases hst : s = t
    · simp [mark, names, hst, mem_addNames]
    · simp [mark, names, hst]
  | cons entry rest ih =>
    obtain ⟨u, marked⟩ := entry
    by_cases hus : u = s
    · subst hus
      by_cases hut : u = t
      · simp [mark, names, hut, mem_addNames]
      · simp [mark, names, hut]
    · by_cases hut : u = t
      · subst hut
        simp [mark, names, hus, Ne.symm hus]
      · simp only [mark, if_neg hus, names, if_neg hut, ih]

theorem mem_sections_mark (marks : Marks) (s t : String) (more : List String) :
    t ∈ (marks.mark s more).map Prod.fst ↔ t ∈ marks.map Prod.fst ∨ t = s := by
  induction marks with
  | nil => simp [mark]
  | cons entry rest ih =>
    obtain ⟨u, marked⟩ := entry
    by_cases hus : u = s
    · subst hus
      simp only [mark, if_pos, List.map_cons, List.mem_cons]
      constructor
      · exact .inl
      · rintro (h | rfl)
        · exact h
        · exact .inl rfl
    · simp only [mark, if_neg hus, List.map_cons, List.mem_cons, ih, or_assoc]

theorem IsProper.mark {marks : Marks} (h : marks.IsProper) (s : String) (more : List String) :
    (marks.mark s more).IsProper := by
  induction marks with
  | nil => simp [IsProper, Marks.mark]
  | cons entry rest ih =>
    obtain ⟨u, marked⟩ := entry
    obtain ⟨hfirst, hrest⟩ := List.nodup_cons.mp h
    by_cases hus : u = s
    · rw [Marks.mark, if_pos hus]
      subst hus
      exact List.nodup_cons.mpr ⟨hfirst, hrest⟩
    · rw [Marks.mark, if_neg hus]
      refine List.nodup_cons.mpr ⟨fun hmem => ?_, ih hrest⟩
      rcases (mem_sections_mark rest s u more).mp hmem with hmem | rfl
      · exact hfirst hmem
      · exact hus rfl

/-! ## Both of two sources -/

theorem IsProper.union {a : Marks} (ha : a.IsProper) (b : Marks) : (union a b).IsProper := by
  unfold Marks.union
  induction b generalizing a with
  | nil => exact ha
  | cons entry rest ih => exact ih (ha.mark entry.1 entry.2)

/-- **The union of two sources** has the names of both. -/
theorem mem_names_union (a : Marks) {b : Marks} (hb : b.IsProper) (s name : String) :
    name ∈ (union a b).names s ↔ name ∈ a.names s ∨ name ∈ b.names s := by
  induction b generalizing a with
  | nil => simp [union, names]
  | cons entry rest ih =>
    obtain ⟨t, more⟩ := entry
    obtain ⟨hfirst, hrest⟩ := List.nodup_cons.mp hb
    have hstep : union a ((t, more) :: rest) = union (a.mark t more) rest := rfl
    rw [hstep, ih (a.mark t more) hrest, mem_names_mark]
    by_cases hts : t = s
    · subst hts
      rw [names_of_not_mem hfirst]
      simp [names]
    · simp [names, hts]

end Marks

end LspHost
