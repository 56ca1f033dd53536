import LspHost.Json.Printer
import LspHost.Proofs.Settings.Nesting

/-!
# Which values have a JSON form

An object has a JSON form just where its entries have one a level further in, unless objects nest too
deep there (`Json.hasForm_table_iff`). So what is found within a value has a form where it is found
(`Json.HasForm.of_lookupAt`), and values that have one where they are put in place make a value that has
one (`Json.HasForm.of_nestRows`).
-/

namespace LspHost.Json

variable {α β : Type} {sorted : Bool} {level : Nat} {value : Value}

/-- **All steps in a row give something** just where each of them does. -/
theorem exists_mapM_eq_ok_iff {f : α → Except Fault β} {l : List α} :
    (∃ bs, l.mapM f = .ok bs) ↔ ∀ item ∈ l, ∃ b, f item = .ok b := by
  induction l with
  | nil => exact ⟨fun _ => nofun, fun _ => ⟨[], rfl⟩⟩
  | cons item rest ih =>
    rw [List.forall_mem_cons, ← ih, List.mapM_cons]
    constructor
    · rintro ⟨bs, h⟩
      obtain ⟨b, hb, h⟩ := exists_of_bind_eq_ok h
      obtain ⟨others, hothers, -⟩ := exists_of_bind_eq_ok h
      exact ⟨⟨b, hb⟩, others, hothers⟩
    · rintro ⟨⟨b, hb⟩, bs, hbs⟩
      exact ⟨b :: bs, by rw [hb, hbs]; rfl⟩

/-- **What is made of an answer** is there just where the answer is. -/
theorem exists_bind_pure_eq_ok_iff {x : Except Fault α} {f : α → β} :
    (∃ b, (do return f (← x) : Except Fault β) = .ok b) ↔ ∃ a, x = .ok a := by
  cases x with
  | error e => exact ⟨nofun, nofun⟩
  | ok a => exact ⟨fun _ => ⟨a, rfl⟩, fun _ => ⟨f a, rfl⟩⟩

/-! ## Values -/

/-- A value has a JSON form at a level of indentation. -/
def HasForm (sorted : Bool) (level : Nat) (value : Value) : Prop :=
  ∃ text, render sorted level value = .ok text

instance (sorted : Bool) (level : Nat) (value : Value) : Decidable (HasForm sorted level value) :=
  match h : render sorted level value with
  | .ok text => .isTrue ⟨text, h⟩
  | .error _ => .isFalse fun ⟨_, htext⟩ => nomatch h.symm.trans htext

theorem HasForm.of_string (sorted : Bool) (level : Nat) (text : String) :
    HasForm sorted level (.string text) :=
  ⟨_, rfl⟩

/-- **A date or a time** has no JSON form. -/
theorem not_hasForm_moment (sorted : Bool) (level : Nat) (moment : Moment) :
    ¬ HasForm sorted level (.moment moment) := by
  rintro ⟨text, h⟩
  rw [render] at h
  cases h

theorem renderEntries_eq_map (sorted : Bool) (level : Nat) (entries : List (String × Value)) :
    renderEntries sorted level entries =
      entries.map fun entry => (entry.1, render sorted level entry.2) := by
  induction entries with
  | nil => rfl
  | cons entry rest ih => rw [renderEntries, ih, List.map_cons]

/-- **An object** has a JSON form just where its entries have one a level further in. -/
theorem hasForm_table_iff {entries : List (String × Value)} :
    HasForm sorted level (.table entries) ↔
      level < Value.depthLimit ∧ ∀ entry ∈ entries, HasForm sorted (level + 1) entry.2 := by
  -- the order in which the entries are written does not matter
  have hparts : ∀ part, (part ∈ if sorted then byKey (renderEntries sorted (level + 1) entries)
      else renderEntries sorted (level + 1) entries) ↔
        ∃ entry ∈ entries, (entry.1, render sorted (level + 1) entry.2) = part := by
    intro part
    rw [renderEntries_eq_map, ← List.mem_map]
    cases sorted with
    | true => exact List.mem_mergeSort
    | false => exact Iff.rfl
  rw [HasForm, render]
  by_cases hdeep : Value.depthLimit ≤ level
  · rw [if_pos hdeep]
    exact ⟨nofun, fun h => absurd h.1 (Nat.not_lt.mpr hdeep)⟩
  rw [if_neg hdeep]
  refine exists_bind_pure_eq_ok_iff.trans (exists_mapM_eq_ok_iff.trans ?_)
  constructor
  · intro h
    refine ⟨Nat.not_le.mp hdeep, fun entry hentry => ?_⟩
    exact exists_bind_pure_eq_ok_iff.mp (h _ ((hparts _).mpr ⟨entry, hentry, rfl⟩))
  · rintro ⟨-, h⟩ part hpart
    obtain ⟨entry, hentry, rfl⟩ := (hparts part).mp hpart
    exact exists_bind_pure_eq_ok_iff.mpr (h entry hentry)

/-! ## Tables within tables -/

theorem mem_of_find? {t : Table} {key : String} (h : t.find? key = some value) : (key, value) ∈ t := by
  induction t with
  | nil => cases h
  | cons entry rest ih =>
    rw [Table.find?] at h
    split at h
    · next hkey =>
      cases h
      exact hkey ▸ List.mem_cons_self
    · exact .tail _ (ih h)

theorem eq_or_mem_of_mem_insert {t : Table} {key : String} {entry : String × Value}
    (h : entry ∈ t.insert key value) : entry = (key, value) ∨ entry ∈ t := by
  induction t with
  | nil => exact .inl (List.mem_singleton.mp h)
  | cons first rest ih =>
    rw [Table.insert] at h
    split at h
    · exact (List.mem_cons.mp h).imp_right (.tail _)
    · rcases List.mem_cons.mp h with rfl | hrest
      · exact .inr List.mem_cons_self
      · exact (ih hrest).imp_right (.tail _)

/-- **What is found within a value** has a JSON form where it is found. -/
theorem HasForm.of_lookupAt (h : HasForm sorted level value) {path : List String} {found : Value}
    (hfound : Settings.lookupAt path value = some found) :
    HasForm sorted (level + path.length) found := by
  induction path generalizing value level with
  | nil =>
    cases hfound
    exact h
  | cons part rest ih =>
    cases value with
    | table t =>
      obtain ⟨inner, hinner, hfound⟩ := Option.bind_eq_some_iff.mp hfound
      have hrest := ih ((hasForm_table_iff.mp h).2 _ (mem_of_find? hinner)) hfound
      rwa [Nat.add_assoc, Nat.add_comm 1] at hrest
    | null | bool | int | float | string | list | moment => cases hfound

/-- **Putting a value in place** keeps a JSON form, if the value has one there. -/
theorem HasForm.of_insertAt {path : List String} {nested grown : Value}
    (hgrown : Settings.insertAt path value nested = .ok grown) (hnested : HasForm sorted level nested)
    (hvalue : HasForm sorted (level + path.length) value)
    (hdeep : level + path.length < Value.depthLimit) : HasForm sorted level grown := by
  induction path generalizing nested grown level with
  | nil =>
    cases hgrown
    exact hvalue
  | cons part rest ih =>
    obtain ⟨t, inner, rfl, hinner, rfl⟩ := Settings.insertAt_cons_eq_ok hgrown
    have hlength : level + (part :: rest).length = level + 1 + rest.length := by
      rw [List.length_cons, Nat.add_assoc, Nat.add_comm 1]
    rw [hlength] at hvalue hdeep
    obtain ⟨hlevel, ht⟩ := hasForm_table_iff.mp hnested
    have hat : HasForm sorted (level + 1) ((Table.find? part t).getD (.table [])) := by
      rcases hfind : Table.find? part t with _ | found
      · exact hasForm_table_iff.mpr ⟨by omega, nofun⟩
      · exact ht _ (mem_of_find? hfind)
    refine hasForm_table_iff.mpr ⟨hlevel, fun entry hentry => ?_⟩
    rcases eq_or_mem_of_mem_insert hentry with rfl | hentry
    · exact ih hinner hat hvalue hdeep
    · exact ht entry hentry

/-- **Values that have a JSON form where they are put in place** make a value that has one. -/
theorem HasForm.of_nestRows {rows : Settings.Rows} {nested : Value}
    (h : Settings.nestRows rows = .ok nested)
    (hrows : ∀ row ∈ rows, row.1.length < Value.depthLimit ∧ HasForm sorted row.1.length row.2) :
    HasForm sorted 0 nested := by
  induction rows using List.reverseRecOn generalizing nested with
  | nil =>
    cases h
    exact hasForm_table_iff.mpr ⟨by decide, nofun⟩
  | append_singleton before row ih =>
    rw [Settings.nestRows_concat] at h
    obtain ⟨earlier, hearlier, hgrown⟩ := exists_of_bind_eq_ok h
    obtain ⟨hdeep, hvalue⟩ := hrows row (List.mem_append_right _ List.mem_cons_self)
    have hform := ih hearlier fun other hother => hrows other (List.mem_append_left _ hother)
    exact hform.of_insertAt hgrown (by rwa [Nat.zero_add]) (by rwa [Nat.zero_add])

end LspHost.Json
