import LspHost.Proofs.Path.Text
import LspHost.Proofs.Settings.Nesting

/-!
# Sections of nested settings

A dotted key leads on from a section where the section with a dot is in front of it, and then its
parts are those of the section with those of the rest (`Settings.parts_append`,
`Settings.beyond?_parts`). So the rows that lead on from a section are those of the settings beneath
it (`Snapshot.rows_beneath`), and looking up a section of nested settings finds its value, or the
nested settings beneath it, or nothing (`Snapshot.lookup_nest`).
-/

namespace LspHost

namespace Text

/-- **No piece** of a list holds the separator. -/
theorem not_mem_of_mem_splitOn {sep : Char} {text piece : List Char}
    (h : piece ∈ text.splitOn sep) : sep ∉ piece := by
  induction text generalizing piece with
  | nil => simp_all
  | cons c rest ih =>
    obtain ⟨first, others, hcut⟩ := List.exists_cons_of_ne_nil (List.splitOn_ne_nil sep rest)
    rw [List.splitOn_cons_eq_if_modifyHead, hcut] at h
    rw [hcut] at ih
    by_cases hc : (c == sep) = true
    · rw [if_pos hc] at h
      rcases List.mem_cons.mp h with rfl | h
      · exact List.not_mem_nil
      · exact ih h
    · rw [if_neg hc, List.modifyHead_cons] at h
      rcases List.mem_cons.mp h with rfl | h
      · have hfirst := ih (List.mem_cons_self ..)
        have hne : sep ≠ c := fun heq => hc (by simp [heq])
        simp [hfirst, hne]
      · exact ih (List.mem_cons_of_mem _ h)

/-- **No piece** of a text holds the separator. -/
theorem not_mem_of_mem_cut {sep : Char} {text piece : String} (h : piece ∈ cut sep text) :
    sep ∉ piece.toList := by
  obtain ⟨chars, hchars, rfl⟩ := List.mem_map.mp h
  rw [String.toList_ofList]
  exact not_mem_of_mem_splitOn hchars

/-- **Two texts with the separator between them** are cut there. -/
theorem cut_append (sep : Char) (a b : String) :
    cut sep (a ++ String.singleton sep ++ b) = cut sep a ++ cut sep b := by
  have hsplit := List.splitOn_append_cons_self (a := sep) a.toList b.toList
  rw [cut, String.toList_append, String.toList_append, String.toList_singleton, List.append_assoc,
    List.singleton_append, hsplit, List.map_append]
  rfl

/-- **Nothing but its pieces** makes up a text. -/
theorem cut_injective (sep : Char) {a b : String} (h : cut sep a = cut sep b) : a = b := by
  rw [← intercalate_cut sep a, h, intercalate_cut]

end Text

namespace Settings

/-! ## The parts of dotted keys -/

theorem parts_ne_nil (key : String) : parts key ≠ [] := Text.cut_ne_nil '.' key

theorem parts_injective {a b : String} (h : parts a = parts b) : a = b := Text.cut_injective '.' h

/-- **A key with a dot in it** has the parts of both sides. -/
theorem parts_append (a b : String) : parts (a ++ "." ++ b) = parts a ++ parts b :=
  Text.cut_append '.' a b

/-- **Further parts of a key** are those of what follows a dot. -/
theorem eq_of_parts_eq_append {key front : String} {rest : List String}
    (h : parts key = parts front ++ rest) (hrest : rest ≠ []) :
    ∃ more, rest = parts more ∧ key = front ++ "." ++ more := by
  have hpieces : ∀ piece ∈ rest, '.' ∉ piece.toList := by
    intro piece hpiece
    have hmem : piece ∈ parts key := by
      rw [h]
      exact List.mem_append_right _ hpiece
    exact Text.not_mem_of_mem_cut hmem
  have hmore : parts (".".intercalate rest) = rest := Text.cut_intercalate hpieces hrest
  refine ⟨".".intercalate rest, hmore.symm, parts_injective ?_⟩
  rw [parts_append, hmore, h]

/-- What follows a section and a dot in a key. -/
def restAfter? (section_ key : String) : Option String :=
  if (section_ ++ ".").toList.isPrefixOf key.toList then
    some (String.ofList (key.toList.drop (section_ ++ ".").toList.length))
  else none

/-- **What follows** a section and a dot makes the key up with them. -/
theorem restAfter?_eq_some {section_ key rest : String} :
    restAfter? section_ key = some rest ↔ key = section_ ++ "." ++ rest := by
  unfold restAfter?
  constructor
  · intro h
    split at h
    · next hleads =>
      obtain ⟨more, hmore⟩ := List.isPrefixOf_iff_prefix.mp hleads
      obtain rfl := Option.some.inj h
      rw [← String.toList_inj, String.toList_append, ← hmore, List.drop_left,
        String.toList_ofList]
    · cases h
  · rintro rfl
    have hlist : (section_ ++ "." ++ rest).toList = (section_ ++ ".").toList ++ rest.toList :=
      String.toList_append
    rw [hlist, if_pos (List.isPrefixOf_iff_prefix.mpr (List.prefix_append _ _)), List.drop_left,
      String.ofList_toList]

/-- **The parts beyond a section** are those of what follows it and a dot. -/
theorem beyond?_parts (section_ key : String) :
    beyond? (parts section_) (parts key) = (restAfter? section_ key).map parts := by
  rcases hrest : restAfter? section_ key with _ | rest
  · rcases hbeyond : beyond? (parts section_) (parts key) with _ | more
    · rfl
    · obtain ⟨hparts, hne⟩ := beyond?_eq_some.mp hbeyond
      obtain ⟨rest, -, hkey⟩ := eq_of_parts_eq_append hparts hne
      cases hrest.symm.trans (restAfter?_eq_some.mpr hkey)
  · rw [restAfter?_eq_some.mp hrest, parts_append]
    exact beyond?_eq_some.mpr ⟨rfl, parts_ne_nil rest⟩

end Settings

/-! ## Snapshots -/

namespace Snapshot

open Settings

/-- The values of a snapshot with the parts of their keys. -/
def rows (s : Snapshot) : Rows := s.map fun entry => (parts entry.1, entry.2.thaw)

theorem nest_eq (s : Snapshot) : nest s = nestRows s.rows := by
  rw [nestRows, rows, List.foldlM_map]
  rfl

theorem mem_rows {s : Snapshot} {row : List String × Value} :
    row ∈ s.rows ↔ ∃ key value, (key, value) ∈ s ∧ row = (parts key, value.thaw) := by
  simp only [rows, List.mem_map, Prod.exists, eq_comm]

/-- The settings beneath a section, under what follows the section and a dot in their keys. -/
def beneath (section_ : String) (s : Snapshot) : Snapshot :=
  s.filterMap fun entry => (restAfter? section_ entry.1).map (·, entry.2)

/-- **The rows beneath a section** are those that lead on from its parts. -/
theorem rows_beneath (section_ : String) (s : Snapshot) :
    (s.beneath section_).rows = within (parts section_) s.rows := by
  rw [rows, beneath, within, rows, List.map_filterMap, List.filterMap_map]
  congr 1
  funext entry
  rw [Function.comp_apply, beyond?_parts, Option.map_map, Option.map_map]
  rfl

theorem beneath_eq_nil_iff {section_ : String} {s : Snapshot} :
    s.beneath section_ = [] ↔ within (parts section_) s.rows = [] := by
  rw [← rows_beneath, rows, List.map_eq_nil_iff]

/-- No key is there twice, and none is another one with a dot and more after it. -/
structure IsApart (s : Snapshot) : Prop where
  /-- no key is there twice -/
  nodup : (s.map Prod.fst).Nodup
  /-- none is another one with a dot and more after it -/
  apart : ∀ a ∈ s, ∀ b ∈ s, ∀ rest, b.1 ≠ a.1 ++ "." ++ rest

/-- **Whether keys are apart** is read off their list. -/
theorem isApart_of_keys {s : Snapshot} {keys : List String} (hkeys : s.map Prod.fst = keys)
    (hnodup : keys.Nodup) (h : ∀ a ∈ keys, ∀ b ∈ keys, restAfter? a b = none) : s.IsApart := by
  subst hkeys
  refine ⟨hnodup, fun a ha b hb rest hkey => ?_⟩
  have hnone := h a.1 (List.mem_map_of_mem ha) b.1 (List.mem_map_of_mem hb)
  cases hnone.symm.trans (restAfter?_eq_some.mpr hkey)

/-- **Keys that are apart** have rows that are. -/
theorem IsApart.rows {s : Snapshot} (h : s.IsApart) : Apart s.rows := by
  refine ⟨fun row hrow => ?_, ?_⟩
  · obtain ⟨key, value, -, rfl⟩ := mem_rows.mp hrow
    exact parts_ne_nil key
  · have hclear : ∀ a ∈ s, ∀ b ∈ s, a.1 ≠ b.1 → ¬ parts a.1 <+: parts b.1 := by
      rintro a ha b hb hne ⟨rest, hrest⟩
      by_cases hnil : rest = []
      · rw [hnil, List.append_nil] at hrest
        exact hne (parts_injective hrest)
      · obtain ⟨more, -, hkey⟩ := eq_of_parts_eq_append hrest.symm hnil
        exact h.apart a ha b hb more hkey
    rw [Snapshot.rows, List.pairwise_map]
    refine (List.pairwise_map.mp h.nodup).imp_of_mem fun {a b} ha hb hne => ?_
    exact ⟨hclear a ha b hb hne, hclear b hb a ha hne.symm⟩

theorem IsApart.perm {s other : Snapshot} (h : s.IsApart) (hperm : s.Perm other) :
    other.IsApart :=
  ⟨(hperm.map _).nodup_iff.mp h.nodup, fun a ha b hb =>
    h.apart a (hperm.mem_iff.mpr ha) b (hperm.mem_iff.mpr hb)⟩

theorem mem_of_find? {s : Snapshot} {key : String} {value : Frozen}
    (h : s.find? key = some value) : (key, value) ∈ s := by
  induction s with
  | nil => cases h
  | cons entry rest ih =>
    obtain ⟨k, v⟩ := entry
    by_cases hk : k = key
    · subst hk
      simp [find?] at h
      simp [h]
    · simp only [find?, hk, if_false] at h
      exact List.mem_cons_of_mem _ (ih h)

theorem find?_of_mem {s : Snapshot} (hnodup : (s.map Prod.fst).Nodup) {key : String}
    {value : Frozen} (h : (key, value) ∈ s) : s.find? key = some value := by
  induction s with
  | nil => cases h
  | cons entry rest ih =>
    obtain ⟨k, v⟩ := entry
    rw [List.map_cons, List.nodup_cons] at hnodup
    rcases List.mem_cons.mp h with heq | hrest
    · cases heq
      simp [find?]
    · have hk : k ≠ key := by
        rintro rfl
        exact hnodup.1 (List.mem_map.mpr ⟨_, hrest, rfl⟩)
      simp only [find?, hk, if_false]
      exact ih hnodup.2 hrest

/-! ## Looking up sections -/

theorem lookup_of_ne_empty (nested : Value) {section_ : String} (h : section_ ≠ "") :
    lookup nested (some section_) = (lookupAt (parts section_) nested).getD .null := by
  rw [lookup, if_neg (by simpa using h)]

/-- **Settings whose keys are apart can be nested**, and what is found at a section is what their rows
say there. -/
theorem IsApart.exists_nest {s : Snapshot} (h : s.IsApart) :
    ∃ nested, nest s = .ok nested ∧
      ∀ section_, Reads s.rows (parts section_) (lookupAt (parts section_) nested) := by
  obtain ⟨t, hnest, hreads⟩ := nestRows_reads h.rows
  exact ⟨.table t, s.nest_eq.trans hnest, fun section_ => hreads _ (parts_ne_nil section_)⟩

/-- **At the parts of a key** its value is found. -/
theorem lookupAt_key {s : Snapshot} (h : s.IsApart) {nested : Value} (hnest : nest s = .ok nested)
    {key : String} {value : Frozen} (hentry : (key, value) ∈ s) :
    lookupAt (parts key) nested = some value.thaw := by
  obtain ⟨nested', hnest', hreads⟩ := h.exists_nest
  obtain rfl := Except.ok.inj (hnest.symm.trans hnest')
  have hsaid : Reads s.rows (parts key) (lookupAt [] value.thaw) :=
    .reached (mem_rows.mpr ⟨key, value, hentry, rfl⟩) (List.append_nil _).symm
  rw [(hreads key).unique h.rows hsaid, lookupAt_nil]

/-- **At a key** its value is found. -/
theorem lookup_key {s : Snapshot} (h : s.IsApart) {nested : Value} (hnest : nest s = .ok nested)
    {key : String} {value : Frozen} (hentry : (key, value) ∈ s) (hkey : key ≠ "") :
    lookup nested (some key) = value.thaw := by
  rw [lookup_of_ne_empty nested hkey, lookupAt_key h hnest hentry, Option.getD_some]

/-- No key is there twice or leads through another one, and no value is a table. -/
structure IsFlat (s : Snapshot) : Prop extends s.IsApart where
  /-- no value is a table -/
  no_table : ∀ entry ∈ s, ∀ t, entry.2.thaw ≠ .table t

/-- **Where no key leads**, the nested settings beneath are found if there are any. -/
theorem lookup_beneath {s : Snapshot} (h : s.IsFlat) {nested : Value} (hnest : nest s = .ok nested)
    {section_ : String} (hsection : section_ ≠ "") (hkey : s.find? section_ = none) :
    if s.beneath section_ = [] then lookup nested (some section_) = .null
    else nest (s.beneath section_) = .ok (lookup nested (some section_)) := by
  obtain ⟨nested', hnest', hreads⟩ := h.exists_nest
  obtain rfl := Except.ok.inj (hnest.symm.trans hnest')
  have hsaid := hreads section_
  rw [lookup_of_ne_empty nested hsection]
  generalize lookupAt (parts section_) nested = found at hsaid
  cases hsaid with
  | @reached front rest _ hrow hpath =>
    obtain ⟨key, value, hentry, hsplit⟩ := mem_rows.mp hrow
    cases hsplit
    cases rest with
    | nil =>
      obtain rfl := parts_injective (hpath.trans (List.append_nil _))
      cases hkey.symm.trans (find?_of_mem h.nodup hentry)
    | cons part rest =>
      -- the section leads on from a key, so nothing can lead on from the section
      have hnone : within (parts section_) s.rows = [] := hpath ▸ h.rows.within_eq_nil hrow
      rw [if_pos (beneath_eq_nil_iff.mpr hnone),
        lookupAt_cons_of_not_table (h.no_table _ hentry), Option.getD_none]
  | above hne hinner =>
    rw [if_neg (hne ∘ beneath_eq_nil_iff.mp), nest_eq, rows_beneath]
    exact hinner
  | absent _ hnone => rw [if_pos (beneath_eq_nil_iff.mpr hnone), Option.getD_none]

/-- **Looking up sections undoes nesting.** Settings whose keys are all different, of which none is
another one with a dot and more after it, and whose values are no tables can be nested, in any order
to the same tables within tables. At a section that is a key there is its value; at any other one
there are the nested settings beneath it, in their order, or nothing if there are none. -/
theorem lookup_nest {s : Snapshot} (h : s.IsFlat) :
    ∃ nested, nest s = .ok nested ∧
      (∀ other : Snapshot, s.Perm other →
        ∃ nested', nest other = .ok nested' ∧ nested.SameMapping nested') ∧
      ∀ section_, section_ ≠ "" →
        match s.find? section_ with
        | some value => lookup nested (some section_) = value.thaw
        | none =>
          if s.beneath section_ = [] then lookup nested (some section_) = .null
          else nest (s.beneath section_) = .ok (lookup nested (some section_)) := by
  obtain ⟨nested, hnest, -⟩ := h.exists_nest
  refine ⟨nested, hnest, fun other hperm => ?_, fun section_ hsection => ?_⟩
  · obtain ⟨nested', hnest', -⟩ := (h.toIsApart.perm hperm).exists_nest
    refine ⟨nested', hnest', sameMapping_of_perm h.rows (hperm.map _) ?_ ?_⟩
    · rw [← hnest, nest_eq]
    · rw [← hnest', nest_eq]
      rfl
  · rcases hkey : s.find? section_ with _ | value
    · exact lookup_beneath h hnest hsection hkey
    · exact lookup_key h.toIsApart hnest (mem_of_find? hkey) hsection

/-- Settings under keys with empty parts in them. -/
def dotted : Snapshot :=
  [("a..b", .plain (.int 1)), ("python.errors", .sequence [.string "x"]), (".d", .plain .null),
    ("a.c", .plain (.bool true))]

/-- They are found at their keys, beneath a section that ends with a dot, and nowhere else. -/
theorem lookup_nest_dotted :
    dotted.IsFlat ∧ ∃ nested, nest dotted = .ok nested ∧
      (∃ nested', nest dotted.reverse = .ok nested' ∧ nested.SameMapping nested') ∧
      lookup nested (some "python.errors") = .list [.string "x"] ∧
      lookup nested (some "a.") = .table [("b", .int 1)] ∧
      lookup nested (some "python.errors.x") = .null := by
  have hflat : dotted.IsFlat := by
    refine ⟨isApart_of_keys rfl (by decide) (by decide +kernel), fun entry hentry t => ?_⟩
    simp only [dotted, List.mem_cons, List.not_mem_nil, or_false] at hentry
    rcases hentry with rfl | rfl | rfl | rfl <;> exact nofun
  obtain ⟨nested, hnest, hperm, hfound⟩ := lookup_nest hflat
  refine ⟨hflat, nested, hnest, hperm _ (List.reverse_perm _).symm, ?_, ?_, ?_⟩
  · have hkey : dotted.find? "python.errors" = some (.sequence [.string "x"]) := by decide +kernel
    have herrors := hfound "python.errors" (by decide)
    rwa [hkey] at herrors
  · have hkey : dotted.find? "a." = none := by decide +kernel
    have hbeneath : dotted.beneath "a." = [("b", .plain (.int 1))] := by decide +kernel
    have hsection := hfound "a." (by decide)
    rw [hkey, hbeneath] at hsection
    have hinner : nest [("b", .plain (.int 1))] = .ok (.table [("b", .int 1)]) := by decide +kernel
    exact Except.ok.inj (hsection.symm.trans hinner)
  · have hkey : dotted.find? "python.errors.x" = none := by decide +kernel
    have hbeneath : dotted.beneath "python.errors.x" = [] := by decide +kernel
    have hsection := hfound "python.errors.x" (by decide)
    rwa [hkey, hbeneath] at hsection

end Snapshot

end LspHost
