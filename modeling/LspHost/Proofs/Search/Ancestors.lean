import LspHost.Proofs.Machine.Directory
import LspHost.Proofs.Machine.Walking
import LspHost.Proofs.Search.Order

/-!
# What the search upward passes

The search goes through the beginnings of the path that it starts from. Where that path goes up by `..`, a
beginning of it may name a directory that is not above the start: one that the path leaves again later.
A directory that is found there has nothing to do with the start, and the search finds it all the same
(`Search.upward_through_left`). Otherwise what it finds is in the start or in a directory above it, and it is
the nearest (`Search.upward_nearest`).
-/

namespace LspHost

namespace Search

open Machine

/-! ## The beginnings of a path -/

theorem take_length (p : Path) : p.take p.segments.length = p :=
  Path.ext_iff'.mpr ⟨rfl, List.take_length⟩

theorem ascent_eq (p : Path) :
    ascent p = (List.range (p.segments.length + 1)).reverse.map p.take := by
  rw [List.range_succ, List.reverse_concat, List.map_cons, take_length]
  rfl

/-- **The search goes through** the beginnings of its start. -/
theorem mem_ascent_iff {p q : Path} :
    q ∈ ascent p ↔ q.anchor = p.anchor ∧ q.segments <+: p.segments := by
  rw [ascent_eq, List.mem_map]
  constructor
  · rintro ⟨count, -, rfl⟩
    exact ⟨rfl, List.take_prefix ..⟩
  · rintro ⟨hanchor, hsegments⟩
    refine ⟨q.segments.length, ?_, ?_⟩
    · simpa [Nat.lt_succ_iff] using hsegments.length_le
    · exact Path.ext_iff'.mpr ⟨hanchor.symm, (List.prefix_iff_eq_take.mp hsegments).symm⟩

theorem exists_mem_ascent {p : Path} {segments : List String} (h : segments <+: p.segments) :
    ∃ q ∈ ascent p, q.segments = segments :=
  ⟨p.take segments.length, mem_ascent_iff.mpr ⟨rfl, List.take_prefix ..⟩, (List.prefix_iff_eq_take.mp h).symm⟩

/-- **The longest beginning** comes first. -/
theorem pairwise_ascent (p : Path) :
    (ascent p).Pairwise fun q r => r.segments.length < q.segments.length := by
  rw [ascent_eq, List.pairwise_map, List.pairwise_reverse]
  refine List.pairwise_lt_range.imp_of_mem ?_
  intro i j hi hj hlt
  simp only [List.mem_range] at hi hj
  simp only [Path.segments_take, List.length_take]
  omega

/-! ## What was checked -/

/-- **What is found** among paths was said to be there, and what comes before it not to be. -/
theorem findM?_eq_ok_some {view : Path → Except Fault Bool} {paths : List Path} {found : Path}
    (h : paths.findM? view = .ok (some found)) :
    ∃ nearer farther, paths = nearer ++ found :: farther ∧ view found = .ok true ∧
      ∀ path ∈ nearer, view path = .ok false := by
  induction paths with
  | nil => cases h
  | cons path rest ih =>
    simp only [List.findM?, bind, Except.bind] at h
    split at h
    · cases h
    · next hview =>
      split at h
      · cases h
        exact ⟨[], rest, rfl, hview, nofun⟩
      · obtain ⟨nearer, farther, rfl, hfound, hnearer⟩ := ih h
        exact ⟨path :: nearer, farther, rfl, hfound, List.forall_mem_cons.mpr ⟨hview, hnearer⟩⟩

/-- **What the search finds** is in a beginning of its start, and there is none in the longer ones. -/
theorem of_upward {m : Machine} {limit : Option Nat} {start found : Path} {name : String}
    {s t : Scene Machine} (hworld : s.world = m)
    (h : upward (Machine.host limit) start name s = .ok (some found) t) :
    ∃ directory ∈ ascent start, found = directory.joinText name ∧ m.isDirectory found = .ok true ∧
      ∀ longer ∈ ascent start, directory.segments.length < longer.segments.length →
        m.isDirectory (longer.joinText name) = .ok false := by
  have hyields : (upward (Machine.host limit) start name).Yields (Scene.In (· = m))
      ((candidates start name).findM? m.isDirectory) :=
    yields_firstDirectory fun path _ => m.yields_tryOfWorld (·.isDirectory path)
  have hanswer := (hyields s hworld).1
  rw [Attempt.answer_of_ok h] at hanswer
  obtain ⟨nearer, farther, hsplit, hfound, hnearer⟩ := findM?_eq_ok_some hanswer.symm
  rw [candidates_eq, List.map_eq_append_iff] at hsplit
  obtain ⟨before, rest, hascent, rfl, hrest⟩ := hsplit
  obtain ⟨directory, after, rfl, rfl, rfl⟩ := List.map_eq_cons_iff.mp hrest
  have hpairwise := pairwise_ascent start
  rw [hascent] at hpairwise ⊢
  refine ⟨directory, by simp, rfl, hfound, fun longer hmem hlt => ?_⟩
  rcases List.mem_append.mp hmem with hbefore | hafter
  · exact hnearer _ (List.mem_map_of_mem hbefore)
  · -- the beginnings after the one where it is are not longer
    exfalso
    rcases List.mem_cons.mp hafter with rfl | hafter
    · omega
    · have hle := List.rel_of_pairwise_cons (List.pairwise_append.mp hpairwise).2.1 hafter
      omega

/-! ## What was passed -/

/-- **A name in a directory without links** is found by each path that leads to the directory. -/
theorem isDirectory_joinText_ne_false {m : Machine} (hplain : m.files.IsPlain) {p : Path} {name : String}
    (habsolute : p.isAbsolute = true) (hname : Files.LeadsDown name)
    (hreached : m.files.descend true [] p.segments = .found p.collapsed.segments)
    (hnul : p.hasNul = false) (h : m.isDirectory (p.collapsed.joinText name) = .ok true) :
    m.isDirectory (p.joinText name) ≠ .ok false := by
  obtain ⟨hnul', hfound, hdirectory⟩ :=
    Machine.descend_of_isDirectory hplain (Path.isAbsolute_joinText (p := p.collapsed) habsolute name) h
  rw [Path.segments_joinText _ hname.1] at hfound
  obtain ⟨mid, hmid, hlast⟩ := Files.descend_append_eq_found.mp hfound
  -- the last name is found from the directory, however that was reached
  have hmid : mid = p.collapsed.segments := by
    rw [Files.eq_walked_of_descend hmid, ← Path.segments_collapsed, Path.collapsed_collapsed]
  subst hmid
  refine Machine.isDirectory_ne_false (Path.isAbsolute_joinText habsolute name) ?_ ?_ hdirectory
  · rw [Path.hasNul_eq_false_iff, Path.segments_joinText _ hname.1] at hnul' ⊢
    rw [Path.hasNul_eq_false_iff] at hnul
    intro segment hsegment
    rcases List.mem_append.mp hsegment with hsegment | hsegment
    · exact hnul segment hsegment
    · exact hnul' segment (List.mem_append_right _ hsegment)
  · rw [Path.segments_joinText _ hname.1]
    exact Files.descend_append_eq_found.mpr ⟨_, hreached, hlast⟩

/-- **A beginning of a directory without links** leads to where it names. -/
theorem descend_of_mem_ascent {m : Machine} (hplain : m.files.IsPlain) {start q : Path}
    (habsolute : start.isAbsolute = true) (h : m.isDirectory start = .ok true) (hq : q ∈ ascent start) :
    q.hasNul = false ∧ m.files.descend true [] q.segments = .found q.collapsed.segments := by
  obtain ⟨hnul, hfound, -⟩ := Machine.descend_of_isDirectory hplain habsolute h
  obtain ⟨rest, hrest⟩ := (mem_ascent_iff.mp hq).2
  rw [Path.hasNul_eq_false_iff, ← hrest] at hnul
  rw [← hrest] at hfound
  obtain ⟨mid, hmid, -⟩ := Files.descend_append_eq_found.mp hfound
  obtain rfl := Files.eq_walked_of_descend hmid
  exact ⟨q.hasNul_eq_false_iff.mpr fun segment hsegment => hnul segment (List.mem_append_left _ hsegment),
    hmid⟩

/-- **More of a path** that leads elsewhere makes a longer beginning. -/
theorem exists_longer_of_prefix {start directory : Path} {rest part : List String}
    (hrest : directory.segments ++ rest = start.segments) (hpart : part <+: rest)
    (hmoved : Files.walked directory.collapsed.segments part ≠ directory.collapsed.segments) :
    ∃ longer ∈ ascent start, directory.segments.length < longer.segments.length ∧
      longer.collapsed.segments = Files.walked directory.collapsed.segments part := by
  have hbeginning : directory.segments ++ part <+: start.segments :=
    hrest ▸ (List.prefix_append_right_inj _).mpr hpart
  obtain ⟨longer, hlonger, hsegments⟩ := exists_mem_ascent hbeginning
  refine ⟨longer, hlonger, ?_, ?_⟩
  · have hsome : part ≠ [] := by
      rintro rfl
      exact hmoved rfl
    rw [hsegments, List.length_append]
    exact Nat.lt_add_of_pos_right (List.length_pos_iff.mpr hsome)
  · rw [Path.segments_collapsed, hsegments, Files.walked_append]
    rfl

/-- **A directory above the place that a path names**, and not above that of a beginning, is named by a
longer beginning. -/
theorem exists_longer {start directory nearer : Path} (hdirectory : directory ∈ ascent start)
    (hnearer : nearer ∈ ascent start.collapsed) (hfar : nearer ∉ ascent directory.collapsed) :
    ∃ longer ∈ ascent start, directory.segments.length < longer.segments.length ∧
      longer.collapsed = nearer := by
  rw [mem_ascent_iff] at hdirectory hnearer hfar
  obtain ⟨hanchor, rest, hrest⟩ := hdirectory
  have hfar : ¬nearer.segments <+: directory.collapsed.segments := fun habove =>
    hfar ⟨hnearer.1.trans hanchor.symm, habove⟩
  have habove := hnearer.2
  rw [Path.segments_collapsed, ← hrest, Files.walked_append] at habove
  obtain ⟨part, hpart, hwalked⟩ := Files.exists_walked_eq habove hfar
  have hmoved : Files.walked directory.collapsed.segments part ≠ directory.collapsed.segments := fun hstay =>
    hfar (hwalked ▸ hstay ▸ List.prefix_refl _)
  obtain ⟨longer, hlonger, hlt, hsegments⟩ := exists_longer_of_prefix hrest hpart hmoved
  refine ⟨longer, hlonger, hlt, Path.ext_iff'.mpr ⟨?_, hsegments.trans hwalked⟩⟩
  exact (mem_ascent_iff.mp hlonger).1.trans hnearer.1.symm

/-- **What a beginning of a path names** is above the place that the path names, unless the path goes up
from it. -/
theorem mem_ascent_collapsed_or {start directory : Path} (h : directory ∈ ascent start) :
    directory.collapsed ∈ ascent start.collapsed ∨
      ∃ longer ∈ ascent start, directory.segments.length < longer.segments.length ∧
        longer.collapsed ∈ directory.collapsed.parents := by
  obtain ⟨hanchor, rest, hrest⟩ := mem_ascent_iff.mp h
  rcases Files.isPrefix_walked_or directory.collapsed.segments rest with
    habove | ⟨part, hpart, hup, hmoved⟩
  · left
    rw [mem_ascent_iff, start.segments_collapsed, ← hrest, Files.walked_append]
    exact ⟨hanchor, habove⟩
  · right
    obtain ⟨longer, hlonger, hlt, hsegments⟩ := exists_longer_of_prefix hrest hpart hmoved
    refine ⟨longer, hlonger, hlt, ?_⟩
    have hmem : longer.collapsed ∈ ascent directory.collapsed :=
      mem_ascent_iff.mpr ⟨(mem_ascent_iff.mp hlonger).1.trans hanchor.symm, hsegments ▸ hup⟩
    rcases List.mem_cons.mp hmem with heq | hparents
    · exact absurd (hsegments ▸ congrArg Path.segments heq) hmoved
    · exact hparents

/-- **What the search finds.** Without links, the search upward from an absolute path finds the name in a
directory that is the start or above it, unless it is one that the start leaves again by going up. And if
the start is a directory, then there is none of the name in any directory from the start up to there. -/
theorem upward_nearest {m : Machine} (hplain : m.files.IsPlain) {limit : Option Nat} {start found : Path}
    {name : String} (habsolute : start.isAbsolute = true) (hname : Files.LeadsDown name)
    {s t : Scene Machine} (hworld : s.world = m)
    (h : upward (Machine.host limit) start name s = .ok (some found) t) :
    ∃ directory ∈ ascent start, found.collapsed = directory.collapsed.joinText name ∧
      m.isDirectory found = .ok true ∧
      (m.isDirectory start = .ok true →
        ∀ nearer ∈ ascent start.collapsed, nearer ∉ ascent directory.collapsed →
          m.isDirectory (nearer.joinText name) ≠ .ok true) ∧
      (directory.collapsed ∈ ascent start.collapsed ∨
        ∃ longer ∈ ascent start, directory.segments.length < longer.segments.length ∧
          longer.collapsed ∈ directory.collapsed.parents) := by
  obtain ⟨directory, hdirectory, rfl, hfound, hchecked⟩ := of_upward hworld h
  refine ⟨directory, hdirectory, directory.collapsed_joinText hname, hfound, ?_,
    mem_ascent_collapsed_or hdirectory⟩
  -- a beginning that names the nearer directory was checked before, so it cannot have the name either
  intro hstart nearer hnearer hfar hthere
  obtain ⟨longer, hlonger, hlt, rfl⟩ := exists_longer hdirectory hnearer hfar
  obtain ⟨hnul, hreached⟩ := descend_of_mem_ascent hplain habsolute hstart hlonger
  have hlongerAbsolute : longer.isAbsolute = true := by
    rw [Path.isAbsolute, (mem_ascent_iff.mp hlonger).1]
    exact habsolute
  exact isDirectory_joinText_ne_false hplain hlongerAbsolute hname hreached hnul hthere
    (hchecked longer hlonger hlt)

/-! ## A start that goes up -/

/-- A machine with the directories `/w/x` and `/w/y`, and `.venv` in the first. -/
def besides : Machine where
  files := { nodes := [["w"], ["w", "x"], ["w", "x", ".venv"], ["w", "y"]].map (·, .directory) }
  directory := ["w"]
  environment := []

theorem isPlain_besides : besides.files.IsPlain := by
  simp [Files.IsPlain, besides]

/-- The path of the second directory, by way of the first. -/
def throughTheFirst : Path := .ofText "/w/x/../y"

theorem exists_upward_throughTheFirst :
    ∃ t, upward (Machine.host none) throughTheFirst ".venv" { world := besides } =
      .ok (some (.ofText "/w/x/.venv")) t := by
  have hanswer : (upward (Machine.host none) throughTheFirst ".venv").answer { world := besides } =
      .ok (some (.ofText "/w/x/.venv")) := by
    decide +kernel
  exact ⟨_, Attempt.eq_ok_of_answer hanswer⟩

/-- What is found is in the first directory, which the start leaves again. -/
theorem upward_nearest_besides :
    ∃ directory ∈ ascent throughTheFirst,
      directory.collapsed.joinText ".venv" = (Path.ofText "/w/x/.venv").collapsed ∧
      ∃ longer ∈ ascent throughTheFirst, directory.segments.length < longer.segments.length ∧
        longer.collapsed ∈ directory.collapsed.parents := by
  obtain ⟨t, hfound⟩ := exists_upward_throughTheFirst
  obtain ⟨directory, hdirectory, heq, -, -, habove | hleft⟩ :=
    upward_nearest isPlain_besides (by decide +kernel) (by decide +kernel) rfl hfound
  · have hnone : ∀ above ∈ ascent throughTheFirst.collapsed,
        (Path.ofText "/w/x/.venv").collapsed ≠ above.joinText ".venv" := by
      decide +kernel
    exact absurd heq (hnone _ habove)
  · exact ⟨directory, hdirectory, heq.symm, hleft⟩

/-- **A directory that is not above the start** is found all the same, on the way that the start takes. -/
theorem upward_through_left :
    besides.files.IsPlain ∧ throughTheFirst.isAbsolute = true ∧
      besides.isDirectory throughTheFirst = .ok true ∧
      (∃ t, upward (Machine.host none) throughTheFirst ".venv" { world := besides } =
        .ok (some (.ofText "/w/x/.venv")) t) ∧
      ∀ above ∈ ascent throughTheFirst.collapsed,
        (Path.ofText "/w/x/.venv").collapsed ≠ above.joinText ".venv" :=
  ⟨isPlain_besides, by decide +kernel, by decide +kernel, exists_upward_throughTheFirst, by decide +kernel⟩

end Search

end LspHost
