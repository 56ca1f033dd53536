import LspHost.Proofs.Settings.Sections
import Mathlib.Order.Minimal

/-!
# Settings keys that overlap

The keys of settings need not be apart: one can be another one with a dot and more after it. Then it
matters which of them is put in place first. A later key in front of an earlier one takes its place,
with everything that was there; a later key that leads on from an earlier one finds a value where it
needs a table.

What is found in nested rows is decided by the last row that leads to the place or to something in
front of it (`lastOn?`, `Reflects`). One step keeps this as long as the new row leads on from none
before it (`Reflects.insertAt`), and is refused where it does (`Reflects.insertAt_eq_error`). The law
for whole snapshots is `Snapshot.nest_of_overlapping`.
-/

namespace LspHost

namespace Settings

/-! ## Leading on -/

/-- A row of parts leads on from another one: it is that one with more parts after it. -/
def LeadsOn (front path : List String) : Prop := front <+: path ∧ front ≠ path

instance (front path : List String) : Decidable (LeadsOn front path) :=
  inferInstanceAs (Decidable (_ ∧ _))

theorem leadsOn_iff {front path : List String} :
    LeadsOn front path ↔ ∃ rest, path = front ++ rest ∧ rest ≠ [] := by
  constructor
  · rintro ⟨⟨rest, rfl⟩, hne⟩
    exact ⟨rest, rfl, fun hnil => hne (by simp [hnil])⟩
  · rintro ⟨rest, rfl, hne⟩
    exact ⟨List.prefix_append front rest, fun heq => hne (List.self_eq_append_right.mp heq)⟩

theorem LeadsOn.of_front {front middle path : List String} (h : LeadsOn middle path)
    (hfront : front <+: middle) : LeadsOn front path := by
  refine ⟨hfront.trans h.1, ?_⟩
  rintro rfl
  exact h.2 (h.1.eq_of_length (Nat.le_antisymm h.1.length_le hfront.length_le))

/-- The fault of a row that leads on from a value that is no table: of one kind where it would write
into the value, of another where it would lead on through it. -/
def blocked (front path : List String) : Fault :=
  if path.length = front.length + 1 then .wrongType else .notTable

/-- **Beyond a value that is no table** nothing can be put in place. -/
theorem insertAt_of_blocked {front path : List String} {value nested found : Value}
    (hfound : lookupAt front nested = some found) (hplain : ∀ t, found ≠ .table t)
    (h : LeadsOn front path) : insertAt path value nested = .error (blocked front path) := by
  obtain ⟨rest, rfl, hrest⟩ := leadsOn_iff.mp h
  clear h
  induction front generalizing nested with
  | nil =>
    obtain rfl : nested = found := by simpa using hfound
    obtain ⟨part, rest, rfl⟩ := List.exists_cons_of_ne_nil hrest
    cases nested with
    | table t => exact absurd rfl (hplain t)
    | null | bool | int | float | string | list | moment =>
      cases rest with
      | nil => rfl
      | cons next rest => simp [insertAt, blocked]
  | cons part front ih =>
    cases nested with
    | table t =>
      rw [lookupAt_cons_table] at hfound
      obtain ⟨inner, hinner, hfound⟩ := Option.bind_eq_some_iff.mp hfound
      rw [List.cons_append, insertAt_cons_table, hinner, Option.getD_some, ih hfound]
      simp [blocked, Except.map]
    | null | bool | int | float | string | list | moment => cases hfound

/-! ## The last word on a place -/

/-- The row that has the last word on a place: the last one that leads to it or to something in front
of it. -/
def lastOn? (path : List String) (rows : Rows) : Option (List String × Value) :=
  rows.reverse.find? fun row => decide (row.1 <+: path)

/-- **The last row** has the last word if it leads there, and else leaves it to those before it. -/
theorem lastOn?_concat (path : List String) (rows : Rows) (row : List String × Value) :
    lastOn? path (rows ++ [row]) = if row.1 <+: path then some row else lastOn? path rows := by
  rw [lastOn?, List.reverse_append, List.reverse_singleton, List.singleton_append, List.find?_cons]
  by_cases h : row.1 <+: path <;> simp [h, lastOn?]

theorem lastOn?_eq_none {path : List String} {rows : Rows} :
    lastOn? path rows = none ↔ ∀ row ∈ rows, ¬ row.1 <+: path := by
  simp only [lastOn?, List.find?_eq_none, List.mem_reverse, decide_eq_true_eq]

theorem mem_of_lastOn? {path : List String} {rows : Rows} {row : List String × Value}
    (h : lastOn? path rows = some row) : row ∈ rows ∧ row.1 <+: path := by
  rw [lastOn?] at h
  exact ⟨List.mem_reverse.mp (List.mem_of_find?_eq_some h),
    by simpa using List.find?_some h⟩

/-- **From a row on**, the last word is with a later one that leads there, or else with that row. -/
theorem lastOn?_of_split (before after : Rows) (row : List String × Value) {path : List String}
    (h : row.1 <+: path) :
    lastOn? path (before ++ row :: after) = (lastOn? path after).or (some row) := by
  induction after using List.reverseRecOn with
  | nil => simp [lastOn?, h]
  | append_singleton after last ih =>
    rw [← List.cons_append, ← List.append_assoc, lastOn?_concat, lastOn?_concat, ih]
    split <;> rfl

/-- Nested rows reflect the last word on each place: where that is with the row that leads there, its
value is there, where it is with one that leads to something in front, nothing is, and where no row
has a word on it there is at most a table. -/
structure Reflects (rows : Rows) (nested : Value) : Prop where
  /-- the last word on a place decides -/
  decided {path : List String} {row : List String × Value} : lastOn? path rows = some row →
    lookupAt path nested = if row.1 = path then some row.2 else none
  /-- where there is none, there is at most a table -/
  undecided {path : List String} {found : Value} : lastOn? path rows = none →
    lookupAt path nested = some found → ∃ t, found = .table t

/-- **Before any row** there is an empty table. -/
theorem Reflects.nil : Reflects [] (.table []) := by
  refine ⟨nofun, fun {path found} _ hfound => ?_⟩
  cases path with
  | nil => exact ⟨[], by simpa using hfound.symm⟩
  | cons part rest => cases hfound

section OneMore

variable {rows : Rows} {nested : Value} (h : Reflects rows nested) {path : List String}
  {value : Value}

include h

/-- **A row that leads on from none before it** can be put in place. -/
theorem Reflects.exists_insertAt (hclear : ∀ row ∈ rows, ¬ LeadsOn row.1 path) :
    ∃ grown, insertAt path value nested = .ok grown := by
  refine Settings.exists_insertAt value fun front rest hsplit hrest found hfound => ?_
  have hfront : LeadsOn front path := leadsOn_iff.mpr ⟨rest, hsplit, hrest⟩
  refine h.undecided (lastOn?_eq_none.mpr fun row hrow hleads => ?_) hfound
  exact hclear row hrow (hfront.of_front hleads)

/-- **Once it is in place**, it has the last word from there on. -/
theorem Reflects.insertAt (hclear : ∀ row ∈ rows, ¬ LeadsOn row.1 path)
    (hplain : ∀ t, value ≠ .table t) {grown : Value}
    (hgrown : Settings.insertAt path value nested = .ok grown) :
    Reflects (rows ++ [(path, value)]) grown := by
  refine ⟨fun {place row} hlast => ?_, fun {place found} hlast hfound => ?_⟩
  · rw [lastOn?_concat] at hlast
    by_cases hreached : path <+: place
    · obtain rfl := Option.some.inj ((if_pos hreached).symm.trans hlast)
      obtain ⟨rest, rfl⟩ := hreached
      rw [lookupAt_insertAt_append hgrown]
      cases rest with
      | nil => simp
      | cons part rest =>
        rw [lookupAt_cons_of_not_table hplain, if_neg (by simp)]
    · replace hlast := (if_neg hreached).symm.trans hlast
      obtain ⟨hrow, hleads⟩ := mem_of_lastOn? hlast
      have hfront : ¬ place <+: path := by
        intro hfront
        refine hclear row hrow (LeadsOn.of_front ⟨hfront, ?_⟩ hleads)
        rintro rfl
        exact hreached (List.prefix_refl _)
      rw [lookupAt_insertAt_of_apart hgrown hreached hfront]
      exact h.decided hlast
  · have hreached : ¬ path <+: place := lastOn?_eq_none.mp hlast (path, value) (by simp)
    rw [lastOn?_concat, if_neg hreached] at hlast
    by_cases hfront : place <+: path
    · -- the place is in front of the new row, which went into a table there
      obtain ⟨rest, rfl⟩ := hfront
      obtain ⟨found', hfound', hinner⟩ := lookupAt_insertAt_front hgrown
      obtain rfl := Option.some.inj (hfound.symm.trans hfound')
      obtain ⟨part, rest, rfl⟩ : ∃ part more, rest = part :: more := by
        refine List.exists_cons_of_ne_nil ?_
        rintro rfl
        exact hreached (by simp)
      obtain ⟨t, inner, -, -, rfl⟩ := insertAt_cons_eq_ok hinner
      exact ⟨_, rfl⟩
    · rw [lookupAt_insertAt_of_apart hgrown hreached hfront] at hfound
      exact h.undecided hlast hfound

/-- **A row that leads on from one before it** is refused, and the shortest of those tells how. -/
theorem Reflects.insertAt_eq_error (hplain : ∀ row ∈ rows, ∀ t, row.2 ≠ .table t)
    {shortest : List String × Value} (hshortest : shortest ∈ rows)
    (hleads : LeadsOn shortest.1 path)
    (hleast : ∀ row ∈ rows, LeadsOn row.1 path → shortest.1.length ≤ row.1.length) :
    Settings.insertAt path value nested = .error (blocked shortest.1 path) := by
  obtain ⟨row, hlast⟩ : ∃ row, lastOn? shortest.1 rows = some row := by
    rw [← Option.isSome_iff_exists, Option.isSome_iff_ne_none, ne_eq, lastOn?_eq_none]
    exact fun hnone => hnone shortest hshortest (List.prefix_refl _)
  obtain ⟨hrow, hfront⟩ := mem_of_lastOn? hlast
  -- nothing shorter leads there, so the last word is with a row that leads to the same place
  have hplace : row.1 = shortest.1 :=
    hfront.eq_of_length (Nat.le_antisymm hfront.length_le
      (hleast row hrow (hleads.of_front hfront)))
  have hfound := h.decided hlast
  rw [if_pos hplace] at hfound
  exact insertAt_of_blocked hfound (hplain row hrow) hleads

end OneMore

/-! ## Nesting rows -/

/-- No row leads on from an earlier one, and no value is a table. -/
structure Clear (rows : Rows) : Prop where
  /-- no row leads on from an earlier one -/
  pairwise : rows.Pairwise fun earlier later => ¬ LeadsOn earlier.1 later.1
  /-- no value is a table -/
  no_table : ∀ row ∈ rows, ∀ t, row.2 ≠ .table t

/-- **Rows of which none leads on from an earlier one** can be nested, and the last word on each place
is what is found there. -/
theorem Clear.nestRows {rows : Rows} (h : Clear rows) :
    ∃ nested, nestRows rows = .ok nested ∧ Reflects rows nested := by
  induction rows using List.reverseRecOn with
  | nil => exact ⟨.table [], rfl, .nil⟩
  | append_singleton rows row ih =>
    obtain ⟨path, value⟩ := row
    obtain ⟨hpairwise, -, hclear⟩ := List.pairwise_append.mp h.pairwise
    have hclear : ∀ row ∈ rows, ¬ LeadsOn row.1 path := fun row hrow =>
      hclear row hrow _ (List.mem_singleton_self _)
    obtain ⟨nested, hnest, hreflects⟩ :=
      ih ⟨hpairwise, fun row hrow => h.no_table row (List.mem_append_left _ hrow)⟩
    obtain ⟨grown, hgrown⟩ : ∃ grown, insertAt path value nested = .ok grown :=
      hreflects.exists_insertAt hclear
    refine ⟨grown, ?_, hreflects.insertAt hclear (h.no_table (path, value) (by simp)) hgrown⟩
    rw [nestRows_concat, hnest]
    exact hgrown

/-- **The first row that leads on from an earlier one** ends the nesting. -/
theorem Clear.nestRows_eq_error {before : Rows} (h : Clear before) {path : List String}
    {shortest : List String × Value} (hshortest : shortest ∈ before)
    (hleads : LeadsOn shortest.1 path)
    (hleast : ∀ row ∈ before, LeadsOn row.1 path → shortest.1.length ≤ row.1.length)
    (value : Value) (after : Rows) :
    Settings.nestRows (before ++ (path, value) :: after) = .error (blocked shortest.1 path) := by
  obtain ⟨nested, hnest, hreflects⟩ := h.nestRows
  have hrefused : Settings.nestRows (before ++ [(path, value)]) = .error (blocked shortest.1 path) := by
    rw [nestRows_concat, hnest]
    exact hreflects.insertAt_eq_error h.no_table hshortest hleads hleast
  rw [Settings.nestRows] at hrefused ⊢
  rw [List.append_cons, List.foldlM_append, hrefused]
  rfl

end Settings

/-! ## Snapshots -/

namespace Snapshot

open Settings

/-- A key leads on from another one: it is that one with a dot and any text after it. -/
def KeyLeadsOn (front key : String) : Prop := ∃ rest, key = front ++ "." ++ rest

/-- **A key leads on** where its parts do. -/
theorem keyLeadsOn_iff {front key : String} :
    KeyLeadsOn front key ↔ LeadsOn (parts front) (parts key) := by
  rw [leadsOn_iff]
  constructor
  · rintro ⟨rest, rfl⟩
    exact ⟨parts rest, parts_append front rest, parts_ne_nil rest⟩
  · rintro ⟨more, hparts, hmore⟩
    obtain ⟨rest, -, hkey⟩ := eq_of_parts_eq_append hparts hmore
    exact ⟨rest, hkey⟩

instance (front key : String) : Decidable (KeyLeadsOn front key) :=
  decidable_of_iff _ keyLeadsOn_iff.symm

/-- **Of two keys that a third one leads on from**, the one that is no longer has no more parts. -/
theorem length_parts_le {a b key : String} (ha : KeyLeadsOn a key) (hb : KeyLeadsOn b key)
    (h : a.length ≤ b.length) : (parts a).length ≤ (parts b).length := by
  rcases List.prefix_or_prefix_of_prefix (keyLeadsOn_iff.mp ha).1 (keyLeadsOn_iff.mp hb).1 with
    hab | hba
  · exact hab.length_le
  · by_cases heq : parts b = parts a
    · rw [heq]
    · obtain ⟨rest, rfl⟩ := keyLeadsOn_iff.mpr ⟨hba, heq⟩
      rw [String.length_append, String.length_append] at h
      have hdot : ".".length = 1 := rfl
      omega

/-- The keys of a snapshot are all different and none is empty, and no value is a table. -/
structure IsPlain (s : Snapshot) : Prop where
  /-- the keys are all different -/
  nodup : (s.map Prod.fst).Nodup
  /-- none is empty -/
  ne_empty : ∀ entry ∈ s, entry.1 ≠ ""
  /-- no value is a table -/
  no_table : ∀ entry ∈ s, ∀ t, entry.2.thaw ≠ .table t

/-- **The first part** of plain settings is plain. -/
theorem IsPlain.of_append {s other : Snapshot} (h : IsPlain (s ++ other)) : IsPlain s where
  nodup := by
    have hnodup := h.nodup
    rw [List.map_append] at hnodup
    exact (List.nodup_append.mp hnodup).1
  ne_empty entry hentry := h.ne_empty entry (List.mem_append_left _ hentry)
  no_table entry hentry := h.no_table entry (List.mem_append_left _ hentry)

/-- No key leads on from an earlier one. -/
def IsOrdered (s : Snapshot) : Prop :=
  s.Pairwise fun earlier later => ¬ KeyLeadsOn earlier.1 later.1

instance (s : Snapshot) : Decidable (IsOrdered s) := inferInstanceAs (Decidable (List.Pairwise _ _))

/-- A key is the first that leads on from an earlier one, and the shortest of the earlier keys that it
leads on from. -/
structure IsFirstClash (before : Snapshot) (shortest key : String) : Prop where
  /-- no key before it leads on from an earlier one -/
  ordered : IsOrdered before
  /-- the shortest is one of the keys before it -/
  mem : shortest ∈ before.map Prod.fst
  /-- the key leads on from it -/
  leadsOn : KeyLeadsOn shortest key
  /-- no shorter one is a key that it leads on from -/
  least : ∀ earlier ∈ before, KeyLeadsOn earlier.1 key → shortest.length ≤ earlier.1.length

theorem not_isOrdered_of_split {before after : Snapshot} {earlier entry : String × Frozen}
    (hearlier : earlier ∈ before) (h : KeyLeadsOn earlier.1 entry.1) :
    ¬ IsOrdered (before ++ entry :: after) := fun hordered =>
  (List.pairwise_append.mp hordered).2.2 earlier hearlier entry (by simp) h

/-- **Where some key leads on from an earlier one**, one is the first to do so. -/
theorem exists_first_of_not_isOrdered {s : Snapshot} (h : ¬ IsOrdered s) :
    ∃ before key value after, s = before ++ (key, value) :: after ∧ IsOrdered before ∧
      ∃ earlier ∈ before, KeyLeadsOn earlier.1 key := by
  induction s using List.reverseRecOn with
  | nil => exact absurd List.Pairwise.nil h
  | append_singleton s entry ih =>
    by_cases hs : IsOrdered s
    · simp only [IsOrdered, List.pairwise_append, List.pairwise_singleton, List.mem_singleton,
        forall_eq, true_and, not_and, not_forall, not_not] at h
      obtain ⟨earlier, hearlier, hleads⟩ := h hs
      exact ⟨s, entry.1, entry.2, [], rfl, hs, earlier, hearlier, hleads⟩
    · obtain ⟨before, key, value, after, rfl, hclash⟩ := ih hs
      exact ⟨before, key, value, after ++ [entry], by simp, hclash⟩

/-- **Of the keys that a key leads on from**, one is the shortest. -/
theorem exists_isFirstClash {before : Snapshot} (hordered : IsOrdered before) {key : String}
    (h : ∃ earlier ∈ before, KeyLeadsOn earlier.1 key) :
    ∃ shortest, IsFirstClash before shortest key := by
  obtain ⟨shortest, ⟨hmem, hleads⟩, hleast⟩ := exists_minimalFor_of_wellFoundedLT
    (fun earlier => earlier ∈ before ∧ KeyLeadsOn earlier.1 key) (fun earlier => earlier.1.length) h
  refine ⟨shortest.1, hordered, List.mem_map_of_mem hmem, hleads, fun earlier hearlier hleads' => ?_⟩
  rcases Nat.le_total shortest.1.length earlier.1.length with hle | hge
  · exact hle
  · exact hleast ⟨hearlier, hleads'⟩ hge

/-! ## Nesting them -/

/-- **Keys that are ordered** have rows that are clear. -/
theorem IsOrdered.clear {s : Snapshot} (h : IsOrdered s)
    (hplain : ∀ entry ∈ s, ∀ t, entry.2.thaw ≠ .table t) : Clear s.rows := by
  refine ⟨?_, fun row hrow => ?_⟩
  · rw [rows, List.pairwise_map]
    exact h.imp fun hclear hleads => hclear (keyLeadsOn_iff.mpr hleads)
  · obtain ⟨key, value, hentry, rfl⟩ := mem_rows.mp hrow
    exact hplain _ hentry

/-- **The first key that leads on from an earlier one** ends the nesting. -/
theorem IsFirstClash.nest_eq {before : Snapshot} {shortest key : String}
    (h : IsFirstClash before shortest key) (hplain : ∀ entry ∈ before, ∀ t, entry.2.thaw ≠ .table t)
    (value : Frozen) (after : Snapshot) :
    nest (before ++ (key, value) :: after) = .error (blocked (parts shortest) (parts key)) := by
  obtain ⟨⟨_, kept⟩, hmem, rfl⟩ := List.mem_map.mp h.mem
  have hrow := mem_rows.mpr ⟨_, kept, hmem, rfl⟩
  rw [Snapshot.nest_eq, rows, List.map_append, List.map_cons]
  refine (h.ordered.clear hplain).nestRows_eq_error hrow (keyLeadsOn_iff.mp h.leadsOn)
    (fun row hrow hleads => ?_) value.thaw _
  obtain ⟨earlier, value', hentry, rfl⟩ := mem_rows.mp hrow
  have hearlier := keyLeadsOn_iff.mpr hleads
  exact length_parts_le h.leadsOn hearlier (h.least _ hentry hearlier)

/-- **Settings that are not ordered** cannot be nested, and the first key that leads on from an earlier
one tells why. -/
theorem nest_eq_error_iff {s : Snapshot} (h : s.IsPlain) {e : Fault} :
    nest s = .error e ↔ ∃ before key value after shortest, s = before ++ (key, value) :: after ∧
      IsFirstClash before shortest key ∧ e = blocked (parts shortest) (parts key) := by
  constructor
  · intro he
    have hordered : ¬ IsOrdered s := by
      intro hordered
      obtain ⟨nested, hnest, -⟩ := (hordered.clear h.no_table).nestRows
      cases he.symm.trans ((Snapshot.nest_eq s).trans hnest)
    obtain ⟨before, key, value, after, rfl, hbefore, hearlier⟩ :=
      exists_first_of_not_isOrdered hordered
    obtain ⟨shortest, hclash⟩ := exists_isFirstClash hbefore hearlier
    refine ⟨before, key, value, after, shortest, rfl, hclash, ?_⟩
    exact Except.error.inj (he.symm.trans (hclash.nest_eq h.of_append.no_table value after))
  · rintro ⟨before, key, value, after, shortest, rfl, hclash, rfl⟩
    exact hclash.nest_eq h.of_append.no_table value after

theorem exists_nest_eq_error {s : Snapshot} (h : s.IsPlain) (hordered : ¬ IsOrdered s) :
    ∃ e, nest s = .error e := by
  obtain ⟨before, key, value, after, hsplit, hbefore, hearlier⟩ :=
    exists_first_of_not_isOrdered hordered
  obtain ⟨shortest, hclash⟩ := exists_isFirstClash hbefore hearlier
  exact ⟨_, (nest_eq_error_iff h).mpr ⟨before, key, value, after, shortest, hsplit, hclash, rfl⟩⟩

/-- **Where a key of nested settings leads**, its value is unless a later key that it leads on from
took its place. -/
theorem IsOrdered.lookup_of_split {before after : Snapshot} {key : String} {value : Frozen}
    (h : IsOrdered (before ++ (key, value) :: after))
    (hplain : IsPlain (before ++ (key, value) :: after)) {nested : Value}
    (hnest : nest (before ++ (key, value) :: after) = .ok nested) :
    lookup nested (some key) =
      if ∃ later ∈ after, KeyLeadsOn later.1 key then .null else value.thaw := by
  obtain ⟨nested', hnest', hreflects⟩ := (h.clear hplain.no_table).nestRows
  obtain rfl := Except.ok.inj (hnest'.symm.trans ((Snapshot.nest_eq _).symm.trans hnest))
  have hlast : lastOn? (parts key) (rows (before ++ (key, value) :: after)) =
      (lastOn? (parts key) (rows after)).or (some (parts key, value.thaw)) := by
    rw [rows, List.map_append, List.map_cons]
    exact lastOn?_of_split _ _ (parts key, value.thaw) (List.prefix_refl _)
  rw [lookup_of_ne_empty _ (hplain.ne_empty (key, value) (by simp))]
  rcases hlater : lastOn? (parts key) (rows after) with _ | row
  · have hnone : ¬ ∃ later ∈ after, KeyLeadsOn later.1 key := by
      rintro ⟨⟨later, kept⟩, hmem, hleads⟩
      exact lastOn?_eq_none.mp hlater _ (mem_rows.mpr ⟨later, kept, hmem, rfl⟩)
        (keyLeadsOn_iff.mp hleads).1
    rw [hlater, Option.none_or] at hlast
    rw [if_neg hnone, hreflects.decided hlast, if_pos rfl, Option.getD_some]
  · obtain ⟨hrow, hfront⟩ := mem_of_lastOn? hlater
    obtain ⟨later, kept, hmem, rfl⟩ := mem_rows.mp hrow
    -- the keys are all different, so the later one is in front of this one
    have hne : parts later ≠ parts key := by
      intro heq
      obtain rfl := parts_injective heq
      have hnodup := hplain.nodup
      rw [List.map_append, List.map_cons, List.nodup_append] at hnodup
      exact (List.nodup_cons.mp hnodup.2.1).1 (List.mem_map.mpr ⟨_, hmem, rfl⟩)
    have hsome : ∃ later ∈ after, KeyLeadsOn later.1 key :=
      ⟨_, hmem, keyLeadsOn_iff.mpr ⟨hfront, hne⟩⟩
    rw [hlater, Option.some_or] at hlast
    rw [if_pos hsome, hreflects.decided hlast, if_neg hne, Option.getD_none]

/-- **Overlapping keys.** Settings with keys that are all different and not empty, and with values that
are no tables, cannot be nested just where some key is an earlier one with a dot and any text after
it. The fault is that of the first such key: of one kind if the shortest earlier key that it leads on
from is one part shorter, of another kind if it is shorter by more. Where they can be nested, each key
has its value, unless a later key is in front of it: then it has none. -/
theorem nest_of_overlapping {s : Snapshot} (h : s.IsPlain) :
    ((∃ e, nest s = .error e) ↔ ∃ before entry after, s = before ++ entry :: after ∧
      ∃ earlier ∈ before, KeyLeadsOn earlier.1 entry.1) ∧
    (∀ e, nest s = .error e ↔ ∃ before key value after shortest,
      s = before ++ (key, value) :: after ∧ IsFirstClash before shortest key ∧
        e = if (parts key).length = (parts shortest).length + 1 then .wrongType else .notTable) ∧
    (∀ nested, nest s = .ok nested → ∀ before key value after,
      s = before ++ (key, value) :: after → lookup nested (some key) =
        if ∃ later ∈ after, KeyLeadsOn later.1 key then .null else value.thaw) := by
  refine ⟨⟨fun ⟨e, he⟩ => ?_, ?_⟩, fun e => nest_eq_error_iff h, ?_⟩
  · obtain ⟨before, key, value, after, shortest, rfl, hclash, -⟩ := (nest_eq_error_iff h).mp he
    obtain ⟨earlier, hearlier, rfl⟩ := List.mem_map.mp hclash.mem
    exact ⟨before, (key, value), after, rfl, earlier, hearlier, hclash.leadsOn⟩
  · rintro ⟨before, entry, after, rfl, earlier, hearlier, hleads⟩
    exact exists_nest_eq_error h (not_isOrdered_of_split hearlier hleads)
  · rintro nested hnest before key value after rfl
    refine IsOrdered.lookup_of_split (by_contra fun hordered => ?_) h hnest
    obtain ⟨e, he⟩ := exists_nest_eq_error h hordered
    cases hnest.symm.trans he

/-- Settings of which one takes the place of two earlier ones. -/
def overtaken : Snapshot :=
  [("python.analysis.errors", .sequence [.string "x"]), ("python.analysis.level", .plain (.int 1)),
    ("python.analysis", .plain (.string "off")), ("level.", .plain (.bool true))]

/-- Settings with a key that leads on from two earlier ones, by one part and by two. -/
def clashing : Snapshot :=
  [("python.analysis", .plain (.int 1)), ("python", .plain (.string "off")),
    ("python.analysis.", .sequence []), ("level", .plain .null)]

/-- What was overtaken is gone, and the shorter of two keys says how a third one fails. -/
theorem nest_of_overtaken_and_clashing :
    (overtaken.IsPlain ∧ ∃ nested, nest overtaken = .ok nested ∧
      lookup nested (some "python.analysis.errors") = .null ∧
      lookup nested (some "python.analysis") = .string "off" ∧
      lookup nested (some "level.") = .bool true) ∧
    clashing.IsPlain ∧ nest clashing = .error .notTable := by
  have hovertaken : overtaken.IsPlain := by
    refine ⟨by decide, by decide, fun entry hentry t => ?_⟩
    simp only [overtaken, List.mem_cons, List.not_mem_nil, or_false] at hentry
    rcases hentry with rfl | rfl | rfl | rfl <;> exact nofun
  have hclashing : clashing.IsPlain := by
    refine ⟨by decide, by decide, fun entry hentry t => ?_⟩
    simp only [clashing, List.mem_cons, List.not_mem_nil, or_false] at hentry
    rcases hentry with rfl | rfl | rfl | rfl <;> exact nofun
  have hnest : nest overtaken = .ok (.table [("python", .table [("analysis", .string "off")]),
      ("level", .table [("", .bool true)])]) := by decide +kernel
  have hfound := (nest_of_overlapping hovertaken).2.2 _ hnest
  refine ⟨⟨hovertaken, _, hnest, ?_, ?_, ?_⟩, hclashing, ?_⟩
  · rw [hfound [] _ _ _ rfl, if_pos (by decide +kernel)]
  · rw [hfound (List.take 2 overtaken) _ _ _ rfl, if_neg (by decide +kernel)]
    rfl
  · rw [hfound (List.take 3 overtaken) _ _ _ rfl, if_neg (by decide +kernel)]
    rfl
  · refine ((nest_of_overlapping hclashing).2.1 _).mpr
      ⟨List.take 2 clashing, "python.analysis.", .sequence [], [("level", .plain .null)], "python", rfl, ?_,
        by decide +kernel⟩
    refine ⟨by decide +kernel, by decide, by decide +kernel, ?_⟩
    decide +kernel

end Snapshot

end LspHost
