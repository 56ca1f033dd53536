import LspHost.Proofs.Outcome
import LspHost.Settings.Nested
import Mathlib.Data.List.Induction
import Mathlib.Data.List.Pairwise

/-!
# What is where in nested settings

Nesting puts values at rows of parts, one after the other. A single value that is put in place is
found at its row and beyond it, grows what was in front of it, and changes nothing elsewhere
(`lookupAt_insertAt_append`, `lookupAt_insertAt_front`, `lookupAt_insertAt_of_apart`). Rows of which
none leads through another one can always be nested, and what is found then is read off the rows
alone (`nestRows_reads`). So their order does not matter (`sameMapping_of_perm`).
-/

namespace LspHost

/-- The same value, but for the order of the keys in tables within tables. -/
inductive Value.SameMapping : Value → Value → Prop where
  /-- a value is the same as itself -/
  | refl (value : Value) : SameMapping value value
  /-- tables are the same if they have the same keys, with the same values -/
  | table {t u : Table} :
    (∀ key, (t.find? key).isSome = (u.find? key).isSome) →
    (∀ key v w, t.find? key = some v → u.find? key = some w → SameMapping v w) →
      SameMapping (.table t) (.table u)

/-- **Tables are the same** if they have the same at each key. -/
theorem Value.SameMapping.of_find? {t u : Table}
    (h : ∀ key, Option.Rel SameMapping (t.find? key) (u.find? key)) :
    SameMapping (.table t) (.table u) := by
  refine .table (fun key => ?_) fun key v w hv hw => ?_
  · have hkey := h key
    generalize t.find? key = found at hkey
    generalize u.find? key = found' at hkey
    cases hkey <;> rfl
  · have hkey := h key
    rw [hv, hw] at hkey
    cases hkey with
    | some hvw => exact hvw

namespace Settings

/-! ## Looking up -/

@[simp]
theorem lookupAt_nil (value : Value) : lookupAt [] value = some value := by
  cases value <;> rfl

theorem lookupAt_cons_table (part : String) (rest : List String) (t : Table) :
    lookupAt (part :: rest) (.table t) = (Table.find? part t).bind (lookupAt rest) := rfl

theorem lookupAt_singleton (part : String) (t : Table) :
    lookupAt [part] (.table t) = Table.find? part t := by
  rw [lookupAt_cons_table]
  cases Table.find? part t <;> simp

/-- Beyond a value that is no table there is nothing. -/
theorem lookupAt_cons_of_not_table {value : Value} (h : ∀ t, value ≠ .table t) (part : String)
    (rest : List String) : lookupAt (part :: rest) value = none := by
  cases value with
  | table t => exact absurd rfl (h t)
  | null | bool | int | float | string | list | moment => rfl

/-- **Looking up in two steps** is looking up in one. -/
theorem lookupAt_append (front rest : List String) (value : Value) :
    lookupAt (front ++ rest) value = (lookupAt front value).bind (lookupAt rest) := by
  induction front generalizing value with
  | nil => simp
  | cons part front ih =>
    cases value with
    | table t =>
      rw [List.cons_append, lookupAt_cons_table, lookupAt_cons_table, Option.bind_assoc]
      exact Option.bind_congr fun inner _ => ih inner
    | null | bool | int | float | string | list | moment => rfl

/-! ## Putting one value in place -/

/-- **A value is put into a table** by putting it into what is at its first part. -/
theorem insertAt_cons_table (part : String) (rest : List String) (value : Value) (t : Table) :
    insertAt (part :: rest) value (.table t) =
      (insertAt rest value ((Table.find? part t).getD (.table []))).map fun inner =>
        .table (Table.insert part inner t) := by
  cases rest <;> rfl

/-- **A value that was put in place** went into a table, at its first part. -/
theorem insertAt_cons_eq_ok {part : String} {rest : List String} {value nested grown : Value}
    (h : insertAt (part :: rest) value nested = .ok grown) :
    ∃ t inner, nested = .table t ∧
      insertAt rest value ((Table.find? part t).getD (.table [])) = .ok inner ∧
      grown = .table (Table.insert part inner t) := by
  cases nested with
  | table t =>
    rw [insertAt_cons_table] at h
    rcases hinner : insertAt rest value ((Table.find? part t).getD (.table [])) with e | inner
    · rw [hinner] at h
      cases h
    · rw [hinner] at h
      cases h
      exact ⟨t, inner, rfl, hinner, rfl⟩
  | null | bool | int | float | string | list | moment => cases rest <;> cases h

/-- **A value can be put in place** if whatever is in front of it is a table. -/
theorem exists_insertAt {path : List String} {nested : Value} (value : Value)
    (h : ∀ front rest, path = front ++ rest → rest ≠ [] → ∀ found,
      lookupAt front nested = some found → ∃ t, found = .table t) :
    ∃ grown, insertAt path value nested = .ok grown := by
  induction path generalizing nested with
  | nil => exact ⟨value, rfl⟩
  | cons part rest ih =>
    obtain ⟨t, rfl⟩ := h [] (part :: rest) rfl nofun nested (lookupAt_nil nested)
    obtain ⟨inner, hinner⟩ : ∃ inner,
        insertAt rest value ((Table.find? part t).getD (.table [])) = .ok inner := by
      refine ih fun front more hrest hmore found hfound => ?_
      rcases hpart : Table.find? part t with _ | inner
      · rw [hpart, Option.getD_none] at hfound
        cases front with
        | nil => exact ⟨[], by simpa using hfound.symm⟩
        | cons next front => cases hfound
      · rw [hpart, Option.getD_some] at hfound
        refine h (part :: front) more (by rw [hrest, List.cons_append]) hmore found ?_
        rw [lookupAt_cons_table, hpart, Option.bind_some, hfound]
    exact ⟨_, by rw [insertAt_cons_table, hinner]; rfl⟩

/-- **At its row and beyond it** the value is found. -/
theorem lookupAt_insertAt_append {path : List String} {value nested grown : Value}
    (h : insertAt path value nested = .ok grown) (rest : List String) :
    lookupAt (path ++ rest) grown = lookupAt rest value := by
  induction path generalizing nested grown with
  | nil =>
    cases h
    rfl
  | cons part path ih =>
    obtain ⟨t, inner, -, hinner, rfl⟩ := insertAt_cons_eq_ok h
    rw [List.cons_append, lookupAt_cons_table, Table.find?_insert_self, Option.bind_some]
    exact ih hinner

/-- **In front of it** is what was there before, with the value put into it. -/
theorem lookupAt_insertAt_front {front rest : List String} {value nested grown : Value}
    (h : insertAt (front ++ rest) value nested = .ok grown) :
    ∃ found, lookupAt front grown = some found ∧
      insertAt rest value ((lookupAt front nested).getD (.table [])) = .ok found := by
  induction front generalizing nested grown with
  | nil => exact ⟨grown, lookupAt_nil grown, by simpa using h⟩
  | cons part front ih =>
    obtain ⟨t, inner, rfl, hinner, rfl⟩ := insertAt_cons_eq_ok h
    obtain ⟨found, hfound, hgrown⟩ := ih hinner
    refine ⟨found, ?_, ?_⟩
    · rw [lookupAt_cons_table, Table.find?_insert_self, Option.bind_some, hfound]
    · rw [lookupAt_cons_table]
      rcases hpart : Table.find? part t with _ | present
      · -- nothing was there, as nothing is in the empty table that is begun
        rw [hpart, Option.getD_none] at hgrown
        cases front with
        | nil => simpa using hgrown
        | cons next front => exact hgrown
      · rwa [hpart, Option.getD_some] at hgrown

/-- **Elsewhere** nothing changes. -/
theorem lookupAt_insertAt_of_apart {path other : List String} {value nested grown : Value}
    (h : insertAt path value nested = .ok grown) (hbeyond : ¬ path <+: other)
    (hfront : ¬ other <+: path) : lookupAt other grown = lookupAt other nested := by
  induction path generalizing nested grown other with
  | nil => exact absurd (List.nil_prefix) hbeyond
  | cons part path ih =>
    obtain ⟨t, inner, rfl, hinner, rfl⟩ := insertAt_cons_eq_ok h
    cases other with
    | nil => exact absurd (List.nil_prefix) hfront
    | cons first other =>
      rw [lookupAt_cons_table, lookupAt_cons_table]
      by_cases hpart : first = part
      · subst hpart
        rw [List.cons_prefix_cons] at hbeyond hfront
        rw [Table.find?_insert_self, Option.bind_some,
          ih hinner (fun hp => hbeyond ⟨rfl, hp⟩) (fun hp => hfront ⟨rfl, hp⟩)]
        cases Table.find? first t with
        | some present => rfl
        | none =>
          cases other with
          | nil => exact absurd ⟨rfl, List.nil_prefix⟩ hfront
          | cons next other => rfl
      · rw [Table.find?_insert_of_ne hpart]

/-! ## Rows of values -/

/-- Values with the rows of parts at which they are put in place. -/
abbrev Rows := List (List String × Value)

/-- The nested value of rows, put in place one after the other. -/
def nestRows (rows : Rows) : Except Fault Value :=
  rows.foldlM (fun nested row => insertAt row.1 row.2 nested) (.table [])

theorem nestRows_concat (rows : Rows) (path : List String) (value : Value) :
    nestRows (rows ++ [(path, value)]) = nestRows rows >>= insertAt path value := by
  rw [nestRows, List.foldlM_append]
  refine bind_congr fun nested => ?_
  rw [List.foldlM_cons]
  exact bind_pure _

/-- What follows a front in a row of parts, if anything does. -/
def beyond? : (front path : List String) → Option (List String)
  | [], [] => none
  | [], part :: rest => some (part :: rest)
  | _ :: _, [] => none
  | first :: front, part :: path => if first = part then beyond? front path else none

/-- **What follows a front** is never empty. -/
theorem beyond?_eq_some {front path rest : List String} :
    beyond? front path = some rest ↔ path = front ++ rest ∧ rest ≠ [] := by
  induction front, path using beyond?.induct with
  | case1 => simp [beyond?]
  | case2 part path =>
    rw [beyond?, Option.some_inj, List.nil_append]
    constructor
    · rintro rfl
      exact ⟨rfl, nofun⟩
    · exact fun h => h.1
  | case3 first front => simp [beyond?]
  | case4 front part path ih => simp [beyond?, ih]
  | case5 first front part path hne =>
    simp only [beyond?, hne, if_false, List.cons_append, List.cons.injEq, reduceCtorEq, false_iff]
    exact fun h => hne h.1.1.symm

/-- The rows that lead on from a front, with what follows it. -/
def within (front : List String) (rows : Rows) : Rows :=
  rows.filterMap fun row => (beyond? front row.1).map (·, row.2)

theorem mem_within {front rest : List String} {rows : Rows} {value : Value} :
    (rest, value) ∈ within front rows ↔ (front ++ rest, value) ∈ rows ∧ rest ≠ [] := by
  simp only [within, List.mem_filterMap, Option.map_eq_some_iff, Prod.mk.injEq]
  constructor
  · rintro ⟨⟨path, value'⟩, hrow, rest', hrest, rfl, rfl⟩
    obtain ⟨rfl, hne⟩ := beyond?_eq_some.mp hrest
    exact ⟨hrow, hne⟩
  · rintro ⟨hrow, hne⟩
    exact ⟨_, hrow, rest, beyond?_eq_some.mpr ⟨rfl, hne⟩, rfl, rfl⟩

theorem within_concat_of_front {front rest : List String} (rows : Rows) (value : Value)
    (h : rest ≠ []) :
    within front (rows ++ [(front ++ rest, value)]) = within front rows ++ [(rest, value)] := by
  have hbeyond : beyond? front (front ++ rest) = some rest := beyond?_eq_some.mpr ⟨rfl, h⟩
  simp [within, hbeyond]

theorem within_concat_of_not_front {front path : List String} (rows : Rows) (value : Value)
    (h : ¬ front <+: path) : within front (rows ++ [(path, value)]) = within front rows := by
  have hbeyond : beyond? front path = none := by
    rcases hrest : beyond? front path with _ | rest
    · rfl
    · exact absurd ⟨rest, (beyond?_eq_some.mp hrest).1.symm⟩ h
  simp [within, hbeyond]

/-! ## Rows that stay apart -/

/-- Every row has a part, and none leads to or through another one. -/
structure Apart (rows : Rows) : Prop where
  /-- every row has a part -/
  ne_nil : ∀ row ∈ rows, row.1 ≠ []
  /-- none leads to or through another one -/
  pairwise : rows.Pairwise fun a b => ¬ a.1 <+: b.1 ∧ ¬ b.1 <+: a.1

theorem Apart.of_concat {rows : Rows} {row : List String × Value} (h : Apart (rows ++ [row])) :
    Apart rows ∧ row.1 ≠ [] ∧ ∀ other ∈ rows, ¬ other.1 <+: row.1 ∧ ¬ row.1 <+: other.1 := by
  obtain ⟨hne, hpair⟩ := h
  rw [List.pairwise_append] at hpair
  refine ⟨⟨fun other hother => hne other (List.mem_append_left _ hother), hpair.1⟩,
    hne row (by simp), fun other hother => hpair.2.2 other hother row (by simp)⟩

/-- **Rows in another order** stay apart. -/
theorem Apart.perm {rows other : Rows} (h : Apart rows) (hperm : rows.Perm other) : Apart other :=
  ⟨fun row hrow => h.ne_nil row (hperm.mem_iff.mpr hrow),
    (hperm.pairwise_iff fun hab => hab.symm).mp h.pairwise⟩

/-- **Two rows of which one is in front of the other** are the same. -/
theorem Apart.eq_of_prefix {rows : Rows} (h : Apart rows) {a b : List String × Value}
    (ha : a ∈ rows) (hb : b ∈ rows) (hleads : a.1 <+: b.1) : a = b := by
  by_contra hne
  have : Std.Symm fun a b : List String × Value => ¬ a.1 <+: b.1 ∧ ¬ b.1 <+: a.1 :=
    ⟨fun _ _ hab => hab.symm⟩
  exact (h.pairwise.forall ha hb hne).1 hleads

/-- **What leads on from a front** stays apart. -/
theorem Apart.within {rows : Rows} (h : Apart rows) (front : List String) :
    Apart (within front rows) := by
  refine ⟨fun row hrow => (mem_within.mp hrow).2, ?_⟩
  rw [Settings.within, List.pairwise_filterMap]
  refine h.pairwise.imp fun {a b} hab a' ha b' hb => ?_
  obtain ⟨rest, hrest, rfl⟩ := Option.map_eq_some_iff.mp ha
  obtain ⟨rest', hrest', rfl⟩ := Option.map_eq_some_iff.mp hb
  rw [(beyond?_eq_some.mp hrest).1, (beyond?_eq_some.mp hrest').1,
    List.prefix_append_right_inj, List.prefix_append_right_inj] at hab
  exact hab

/-- **Where a row leads and beyond it**, no row leads on. -/
theorem Apart.within_eq_nil {rows : Rows} (h : Apart rows) {front rest : List String} {value : Value}
    (hrow : (front, value) ∈ rows) : Settings.within (front ++ rest) rows = [] := by
  refine List.eq_nil_iff_forall_not_mem.mpr fun ⟨more, value'⟩ hmore => ?_
  obtain ⟨hrow', hlong⟩ := mem_within.mp hmore
  rw [List.append_assoc] at hrow'
  have heq := h.eq_of_prefix hrow hrow' (List.prefix_append _ _)
  have hnil : rest ++ more = [] := List.append_right_eq_self.mp (congrArg Prod.fst heq).symm
  exact hlong (List.append_eq_nil_iff.mp hnil).2

/-! ## What rows say -/

/-- What rows say is at a row of parts: what the value of a row in front of it has there, the nested
value of the rows that lead on from it, or nothing. -/
inductive Reads (rows : Rows) (path : List String) : Option Value → Prop where
  /-- a row leads to it or to something in front of it -/
  | reached {front rest : List String} {value : Value} :
    (front, value) ∈ rows → path = front ++ rest → Reads rows path (lookupAt rest value)
  /-- rows lead on from it -/
  | above {nested : Value} :
    within path rows ≠ [] → nestRows (within path rows) = .ok nested →
      Reads rows path (some nested)
  /-- no row has anything to do with it -/
  | absent :
    (∀ row ∈ rows, ¬ row.1 <+: path) → within path rows = [] → Reads rows path none

/-- **A row that has nothing to do with it** changes nothing about what the others say. -/
theorem Reads.concat {rows : Rows} {path : List String} {found : Option Value}
    (h : Reads rows path found) {row : List String × Value} (hreached : ¬ row.1 <+: path)
    (habove : ¬ path <+: row.1) : Reads (rows ++ [row]) path found := by
  have hwithin := within_concat_of_not_front rows row.2 habove
  cases h with
  | reached hrow hpath => exact .reached (List.mem_append_left _ hrow) hpath
  | above hne hnest =>
    rw [← hwithin] at hne hnest
    exact .above hne hnest
  | absent hrows hnone =>
    refine .absent (fun other hother => ?_) (hwithin.trans hnone)
    rcases List.mem_append.mp hother with hother | hother
    · exact hrows other hother
    · rwa [List.mem_singleton.mp hother]

/-- **Rows that stay apart** say one thing. -/
theorem Reads.unique {rows : Rows} (h : Apart rows) {path : List String} {found other : Option Value}
    (hfound : Reads rows path found) (hother : Reads rows path other) : found = other := by
  cases hfound with
  | @reached front rest value hrow hpath =>
    cases hother with
    | @reached front' rest' value' hrow' hpath' =>
      -- both lead to the same place, so one of them is in front of the other
      have hcomparable := List.prefix_or_prefix_of_prefix
        (hpath ▸ List.prefix_append front rest) (hpath' ▸ List.prefix_append front' rest')
      have heq : (front, value) = (front', value') := by
        rcases hcomparable with hleads | hleads
        · exact h.eq_of_prefix hrow hrow' hleads
        · exact (h.eq_of_prefix hrow' hrow hleads).symm
      cases heq
      rw [List.append_cancel_left (hpath.symm.trans hpath')]
    | above hne _ => exact absurd (hpath ▸ h.within_eq_nil hrow) hne
    | absent hrows _ => exact absurd (hpath ▸ List.prefix_append _ _) (hrows _ hrow)
  | above hne hnest =>
    cases hother with
    | reached hrow hpath => exact absurd (hpath ▸ h.within_eq_nil hrow) hne
    | above _ hnest' => rw [Except.ok.inj (hnest.symm.trans hnest')]
    | absent _ hnone => exact absurd hnone hne
  | absent hrows hnone =>
    cases hother with
    | reached hrow hpath => exact absurd (hpath ▸ List.prefix_append _ _) (hrows _ hrow)
    | above hne _ => exact absurd hnone hne
    | absent => rfl

/-! ## Nesting rows -/

/-- **Rows that are nested** make a table. -/
theorem exists_table_of_nestRows {rows : Rows} (hrows : ∀ row ∈ rows, row.1 ≠ []) {nested : Value}
    (h : nestRows rows = .ok nested) : ∃ t, nested = .table t := by
  induction rows using List.reverseRecOn generalizing nested with
  | nil =>
    cases h
    exact ⟨[], rfl⟩
  | append_singleton rows row _ =>
    obtain ⟨path, value⟩ := row
    rw [nestRows_concat] at h
    obtain ⟨before, -, h⟩ := exists_of_bind_eq_ok h
    obtain ⟨part, rest, rfl⟩ := List.exists_cons_of_ne_nil (hrows (path, value) (by simp))
    obtain ⟨t, inner, -, -, rfl⟩ := insertAt_cons_eq_ok h
    exact ⟨_, rfl⟩

/-- What is at a row of parts, as something to put a value into, is the nested value of the rows
that lead on from there, if no row leads to it. -/
theorem nestRows_within_of_reads {rows : Rows} {front : List String} {found : Option Value}
    (h : Reads rows front found) (hrows : ∀ row ∈ rows, ¬ row.1 <+: front) :
    nestRows (within front rows) = .ok (found.getD (.table [])) := by
  cases h with
  | reached hrow hpath => exact absurd (hpath ▸ List.prefix_append _ _) (hrows _ hrow)
  | above _ hnest => exact hnest
  | absent _ hnone => rw [hnone]; rfl

section OneMore

variable {rows : Rows} {path : List String} {value : Value} (h : Apart (rows ++ [(path, value)]))

include h

/-- **In front of one row more** there is at most what other rows that lead on from there have made. -/
theorem nestRows_within_front {nested : Value}
    (hreads : ∀ path ≠ [], Reads rows path (lookupAt path nested)) {front rest : List String}
    (hsplit : path = front ++ rest) (hfront : front ≠ []) :
    nestRows (within front rows) = .ok ((lookupAt front nested).getD (.table [])) := by
  obtain ⟨-, -, hclear⟩ := h.of_concat
  refine nestRows_within_of_reads (hreads front hfront) fun other hother hleads => ?_
  exact (hclear other hother).1 (hleads.trans (hsplit ▸ List.prefix_append _ _))

/-- **One row more** can be put in place. -/
theorem exists_insertAt_of_apart {t : Table}
    (hreads : ∀ path ≠ [], Reads rows path (lookupAt path (.table t))) :
    ∃ grown, insertAt path value (.table t) = .ok grown := by
  refine exists_insertAt value fun front rest hsplit _ found hfound => ?_
  cases front with
  | nil => exact ⟨t, by simpa using hfound.symm⟩
  | cons part front =>
    have hmade := nestRows_within_front h hreads hsplit (List.cons_ne_nil part front)
    rw [hfound, Option.getD_some] at hmade
    exact exists_table_of_nestRows (h.of_concat.1.within _).ne_nil hmade

/-- **Once it is put in place**, what is found is what the rows say with it. -/
theorem reads_insertAt {nested grown : Value}
    (hreads : ∀ path ≠ [], Reads rows path (lookupAt path nested))
    (hgrown : insertAt path value nested = .ok grown) {other : List String} (hother : other ≠ []) :
    Reads (rows ++ [(path, value)]) other (lookupAt other grown) := by
  by_cases hreached : path <+: other
  · obtain ⟨rest, rfl⟩ := hreached
    rw [lookupAt_insertAt_append hgrown]
    exact .reached (by simp) rfl
  by_cases habove : other <+: path
  · obtain ⟨rest, rfl⟩ := habove
    have hrest : rest ≠ [] := by
      rintro rfl
      exact hreached (by simp)
    obtain ⟨found, hfound, hinner⟩ := lookupAt_insertAt_front hgrown
    have hwithin : within other (rows ++ [(other ++ rest, value)]) = _ :=
      within_concat_of_front rows value hrest
    rw [hfound]
    refine .above (by simp [hwithin]) ?_
    rw [hwithin, nestRows_concat, nestRows_within_front h hreads rfl hother]
    exact hinner
  · rw [lookupAt_insertAt_of_apart hgrown hreached habove]
    exact (hreads other hother).concat hreached habove

end OneMore

/-- **Rows that stay apart can be nested**, and what is found in the table that they make is what
they say. -/
theorem nestRows_reads {rows : Rows} (h : Apart rows) :
    ∃ t, nestRows rows = .ok (.table t) ∧
      ∀ path ≠ [], Reads rows path (lookupAt path (.table t)) := by
  induction rows using List.reverseRecOn with
  | nil =>
    refine ⟨[], rfl, fun path hpath => ?_⟩
    obtain ⟨part, rest, rfl⟩ := List.exists_cons_of_ne_nil hpath
    exact .absent (by simp) rfl
  | append_singleton rows row ih =>
    obtain ⟨path, value⟩ := row
    obtain ⟨t, hnest, hreads⟩ := ih h.of_concat.1
    obtain ⟨grown, hgrown⟩ := exists_insertAt_of_apart h hreads
    have hconcat : nestRows (rows ++ [(path, value)]) = .ok grown := by
      rw [nestRows_concat, hnest]
      exact hgrown
    obtain ⟨t', rfl⟩ := exists_table_of_nestRows h.ne_nil hconcat
    exact ⟨t', hconcat, fun other hother => reads_insertAt h hreads hgrown hother⟩

/-- What rows say at a row of parts, and what they say in another order, is the same, if that holds
of the nested values of the rows that lead on from there. -/
theorem rel_of_perm {rows other : Rows} (h : Apart rows) (hperm : rows.Perm other)
    {path : List String} {found found' : Option Value} (hfound : Reads rows path found)
    (hfound' : Reads other path found')
    (hwithin : ∀ nested nested', nestRows (within path rows) = .ok nested →
      nestRows (within path other) = .ok nested' → nested.SameMapping nested') :
    Option.Rel Value.SameMapping found found' := by
  have hother := h.perm hperm
  have hperm' : (within path rows).Perm (within path other) := hperm.filterMap _
  cases hfound with
  | @reached front rest value hrow hpath =>
    obtain rfl := (Reads.reached (hperm.mem_iff.mp hrow) hpath).unique hother hfound'
    cases lookupAt rest value with
    | none => exact .none
    | some inner => exact .some (.refl inner)
  | above hne hnest =>
    obtain ⟨t, hnest', -⟩ := nestRows_reads (hother.within path)
    have hne' : within path other ≠ [] := fun hnil => hne (hnil ▸ hperm').eq_nil
    obtain rfl := (Reads.above hne' hnest').unique hother hfound'
    exact .some (hwithin _ _ hnest hnest')
  | absent hrows hnone =>
    have habsent : Reads other path none :=
      .absent (fun row hrow => hrows row (hperm.mem_iff.mpr hrow)) (hnone ▸ hperm').nil_eq.symm
    obtain rfl := habsent.unique hother hfound'
    exact .none

/-- **In another order** the same rows make the same tables within tables. -/
theorem sameMapping_of_perm {rows other : Rows} (h : Apart rows) (hperm : rows.Perm other)
    {nested nested' : Value} (hnest : nestRows rows = .ok nested)
    (hnest' : nestRows other = .ok nested') : nested.SameMapping nested' := by
  -- what leads on from a part is shorter, so the induction is on a bound for the lengths
  obtain ⟨bound, hbound⟩ : ∃ bound, ∀ row ∈ rows, row.1.length ≤ bound :=
    ⟨(rows.map fun row => row.1.length).max?.getD 0, fun row hrow =>
      List.le_max?_getD_of_mem (List.mem_map_of_mem hrow)⟩
  induction bound generalizing rows other nested nested' with
  | zero =>
    have hnone : rows = [] := by
      refine List.eq_nil_iff_forall_not_mem.mpr fun row hrow => h.ne_nil row hrow ?_
      exact List.length_eq_zero_iff.mp (Nat.le_zero.mp (hbound row hrow))
    subst hnone
    obtain rfl := hperm.nil_eq
    cases hnest.symm.trans hnest'
    exact .refl _
  | succ bound ih =>
    obtain ⟨t, ht, hreads⟩ := nestRows_reads h
    obtain ⟨t', ht', hreads'⟩ := nestRows_reads (h.perm hperm)
    obtain rfl := Except.ok.inj (hnest.symm.trans ht)
    obtain rfl := Except.ok.inj (hnest'.symm.trans ht')
    refine .of_find? fun part => ?_
    have hpart := hreads [part] nofun
    have hpart' := hreads' [part] nofun
    rw [lookupAt_singleton] at hpart hpart'
    refine rel_of_perm h hperm hpart hpart' fun inner inner' hinner hinner' => ?_
    refine ih (h.within [part]) (hperm.filterMap _) hinner hinner' fun ⟨rest, value⟩ hrow => ?_
    have hlong := hbound _ (mem_within.mp hrow).1
    simpa using hlong

end Settings

end LspHost
