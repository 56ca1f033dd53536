import LspHost.Machine
import LspHost.Proofs.Resolver.Precedence
import LspHost.Proofs.StillWorld
import Mathlib.Data.Prod.Lex
import Mathlib.Data.Set.Basic
import Mathlib.Order.Bounds.Defs

/-!
# The order of the search upward

Where no check of the search raises anything, what is found is a matter of the directories alone. Each pair
of a name and a directory on the way up is a place where the wanted directory may be; the search finds the
least place where one is (`Search.hits`), names counting before steps up. So the first name is looked for
all the way up before the second is (`Resolver.resolve_venv_least`).

The search is two loops, one inside the other. Each is first said to answer what a function of lists does,
`List.find?` for the steps up and `List.findSome?` for the names, and the least place is read off these.
-/

namespace LspHost

variable {σ : Type}

namespace Search

/-! ## Where the search goes -/

/-- The directories that the search goes through, the nearest first. -/
def ascent (start : Path) : List Path := start :: start.parents

/-- Where the search starts: in the root, in the file if that is a directory, and beside it otherwise. -/
def startBy (isDirectory : Path → Bool) (root : Path) : Option Path → Path
  | none => root
  | some file => if isDirectory (root.join file) then root.join file else (root.join file).parent

/-- The names to look for, with a configured one before the usual ones unless it is empty. -/
def namesWith (configured : Option String) : List String :=
  (configured.filter (· ≠ "")).toList ++ [".venv", "venv"]

/-- The paths that the search may check: that of the file, and each name in each directory. -/
def checked (root : Path) (file : Option Path) (directories : List Path) (names : List String) :
    List Path :=
  (file.map root.join).toList ++ names.flatMap fun name => directories.map (·.joinText name)

/-- The places where a directory of one of the names is, each by the number of its name and the number of
steps up. -/
def hits (isDirectory : Path → Bool) (directories : List Path) (names : List String) :
    Set (ℕ ×ₗ ℕ) :=
  {place | ∃ name ∈ names[(ofLex place).1]?, ∃ directory ∈ directories[(ofLex place).2]?,
    isDirectory (directory.joinText name) = true}

/-- The nearest directory of the first name that has one. -/
def first? (isDirectory : Path → Bool) (directories : List Path) (names : List String) :
    Option Path :=
  names.findSome? fun name => (directories.map (·.joinText name)).find? isDirectory

theorem candidates_eq (start : Path) (name : String) :
    candidates start name = (ascent start).map (·.joinText name) := rfl

/-- **The names to look for** are those with the one that the user fixed. -/
theorem wanted_eq_namesWith {o : Overrides} {configured : Option String}
    (h : o.venvDirectory = configured.elim .null .string) : wanted o = namesWith configured := by
  unfold wanted namesWith
  rw [h]
  congr 2
  cases configured with
  | none => rfl
  | some name =>
    by_cases hempty : name = "" <;>
      simp [Value.given?, Value.isTruthy, Value.string?, Option.filter, hempty]

theorem isTextual_elim (configured : Option String) :
    (configured.elim .null .string : Value).IsTextual := by
  cases configured with
  | none => exact .inl rfl
  | some name => exact .inr ⟨name, rfl⟩

/-! ## The least place -/

variable {isDirectory : Path → Bool} {directories : List Path} {names : List String}

/-- **Where nothing is found** no place has a directory. -/
theorem hits_eq_empty (h : first? isDirectory directories names = none) :
    hits isDirectory directories names = ∅ := by
  rw [first?, List.findSome?_eq_none_iff] at h
  rw [Set.eq_empty_iff_forall_notMem]
  rintro place ⟨name, hname, directory, hdirectory, hhit⟩
  have hnone := h name (List.mem_of_getElem? hname)
  rw [List.find?_eq_none] at hnone
  exact hnone _ (List.mem_map_of_mem (List.mem_of_getElem? hdirectory)) hhit

/-- **What is found** is at the least place that has a directory. -/
theorem isLeast_of_first? {found : Path} (h : first? isDirectory directories names = some found) :
    ∃ j i name directory, IsLeast (hits isDirectory directories names) (toLex (j, i)) ∧
      names[j]? = some name ∧ directories[i]? = some directory ∧ found = directory.joinText name := by
  obtain ⟨names₁, name, names₂, rfl, hfound, hnames⟩ := List.findSome?_eq_some_iff.mp h
  rw [List.find?_map, Option.map_eq_some_iff] at hfound
  obtain ⟨directory, hfound, rfl⟩ := hfound
  obtain ⟨hhit, nearer, farther, rfl, hnearer⟩ := List.find?_eq_some_iff_append.mp hfound
  refine ⟨names₁.length, nearer.length, name, directory, ⟨⟨name, by simp, directory, by simp, hhit⟩, ?_⟩,
    by simp, by simp, rfl⟩
  rintro place ⟨name', hname', directory', hdirectory', hhit'⟩
  rw [Prod.Lex.le_iff]
  rcases Nat.lt_trichotomy (ofLex place).1 names₁.length with hlt | heq | hgt
  · -- an earlier name has no directory at all
    rw [Option.mem_def, List.getElem?_append_left hlt] at hname'
    have hnone := hnames name' (List.mem_of_getElem? hname')
    rw [List.find?_eq_none] at hnone
    exact absurd hhit' (hnone _ (List.mem_map_of_mem (List.mem_of_getElem? hdirectory')))
  · refine .inr ⟨heq.symm, ?_⟩
    have hsame : name' = name := by
      rw [Option.mem_def, heq, List.getElem?_append_right (Nat.le_refl _)] at hname'
      simpa using hname'.symm
    subst hsame
    -- and of the same name there is none nearer
    by_contra hlt
    rw [Option.mem_def, List.getElem?_append_left (Nat.not_le.mp hlt)] at hdirectory'
    have hmissed := hnearer directory' (List.mem_of_getElem? hdirectory')
    simp only [Function.comp_apply, hhit', Bool.not_true, Bool.false_eq_true] at hmissed
  · exact .inl hgt

/-! ## What the search answers -/

variable {host : Host σ} {I : Scene σ → Prop}

/-- **Looking for a directory** among paths answers what the checks of them make in a row. -/
theorem yields_firstDirectory {view : Path → Except Fault Bool} {paths : List Path}
    (h : ∀ path ∈ paths, (host.isDirectory path).Yields I (view path)) :
    (firstDirectory host paths).Yields I (paths.findM? view) := by
  induction paths with
  | nil => exact .of_pure none
  | cons path rest ih =>
    obtain ⟨hpath, hrest⟩ := List.forall_mem_cons.mp h
    refine hpath.bind fun isThere _ => ?_
    cases isThere with
    | true => exact .of_pure (some path)
    | false => exact ih hrest

/-- **Looking upward** for names in turn answers the nearest directory of the first that has one. -/
theorem yields_upwardAmong {W : σ → Prop} {start : Path} {names : List String}
    (h : ∀ name ∈ names, ∀ path ∈ candidates start name,
      (host.isDirectory path).Yields (Scene.In W) (.ok (isDirectory path))) :
    (upwardAmong host start (names.map .string)).Yields (Scene.In W)
      (.ok (first? isDirectory (ascent start) names)) := by
  induction names with
  | nil => exact .of_pure none
  | cons name rest ih =>
    obtain ⟨hname, hrest⟩ := List.forall_mem_cons.mp h
    have hupward := yields_firstDirectory hname
    have hfind : (candidates start name).findM? (fun path => (.ok (isDirectory path) : Except Fault Bool)) =
        .ok ((candidates start name).find? isDirectory) := List.findM?_pure ..
    rw [hfind] at hupward
    rw [first?, List.findSome?_cons, ← candidates_eq]
    refine hupward.bind_ok ?_
    cases (candidates start name).find? isDirectory with
    | none => exact ih hrest
    | some found => exact (Act.yields_note W _ _ _).bind_ok (.of_pure (some found))

/-- **The start of the search** is the root, the file or the directory beside it. -/
theorem yields_start {root : Path} {file : Option Path}
    (h : ∀ file' ∈ file,
      (host.isDirectory (root.join file')).Yields I (.ok (isDirectory (root.join file')))) :
    (start host root file).Yields I (.ok (startBy isDirectory root file)) := by
  cases file with
  | none => exact .of_pure root
  | some file =>
    refine (h file rfl).bind_ok ?_
    rw [startBy]
    cases isDirectory (root.join file) with
    | true => exact .of_pure (root.join file)
    | false => exact .of_pure (root.join file).parent

/-- **The search** answers the nearest directory of the first name that has one. -/
theorem yields_venv {W : σ → Prop} {o : Overrides} {root : Path} {file : Option Path}
    {configured : Option String} (hconfigured : o.venvDirectory = configured.elim .null .string)
    (h : ∀ path ∈ checked root file (ascent (startBy isDirectory root file)) (namesWith configured),
      (host.isDirectory path).Yields (Scene.In W) (.ok (isDirectory path))) :
    (venv host o root file).Yields (Scene.In W)
      (.ok (first? isDirectory (ascent (startBy isDirectory root file)) (namesWith configured))) := by
  have hfile : ∀ file' ∈ file, root.join file' ∈
      checked root file (ascent (startBy isDirectory root file)) (namesWith configured) := by
    rintro file' rfl
    exact List.mem_append_left _ (List.mem_singleton_self _)
  refine (yields_start fun file' hmem => h _ (hfile file' hmem)).bind_ok ?_
  rw [names_eq (hconfigured ▸ isTextual_elim configured), wanted_eq_namesWith hconfigured]
  refine yields_upwardAmong fun name hname path hpath => h path (List.mem_append_right _ ?_)
  exact List.mem_flatMap.mpr ⟨name, hname, hpath⟩

end Search

namespace Resolver

/-- **The order of the search.** Where neither the user nor a tool has an answer, and the checks of the
search raise nothing, the virtual environment is the directory at the least place that has one, a place
being the number of a name and the number of steps up from the start; and it is none if no place has
one. -/
theorem resolve_venv_least (r : Resolver σ) (file : Option Path) {configured : Option String}
    (hconfigured : r.overrides.venvDirectory = configured.elim .null .string)
    {W : σ → Prop} {isDirectory : Path → Bool}
    (hchecks : ∀ path ∈ Search.checked r.root file
        (Search.ascent (Search.startBy isDirectory r.root file)) (Search.namesWith configured),
      (r.host.isDirectory path).Yields (Scene.In W) (.ok (isDirectory path)))
    {m t : Memory σ} (hfree : r.overrides.venvPath.isTruthy = false)
    (htool : r.viaTool m = .ok none t) (hworld : W t.scene.world) :
    let directories := Search.ascent (Search.startBy isDirectory r.root file)
    let names := Search.namesWith configured
    let hits := Search.hits isDirectory directories names
    ∃ answer left, r.resolve .venv file m = .ok answer left ∧
      (answer = none ∧ hits = ∅ ∨
        ∃ j i name directory, IsLeast hits (toLex (j, i)) ∧
          names[j]? = some name ∧ directories[i]? = some directory ∧
          answer = some (.string (directory.joinText name).text)) := by
  intro directories names hits
  obtain ⟨hanswer, -⟩ := Search.yields_venv hconfigured hchecks t.scene hworld
  have hresolve : ∃ left, r.resolve .venv file m = .ok
      ((Search.first? isDirectory directories names).map fun path => Value.string path.text) left := by
    rw [resolve, venv_of_no_override r file hfree, Attempt.bind_of_ok htool]
    exact ⟨_, Attempt.bind_of_ok (lift_of_ok (Attempt.eq_ok_of_answer hanswer)) _⟩
  obtain ⟨left, hresolve⟩ := hresolve
  refine ⟨_, left, hresolve, ?_⟩
  rcases hfirst : Search.first? isDirectory directories names with _ | found
  · exact .inl ⟨rfl, Search.hits_eq_empty hfirst⟩
  · obtain ⟨j, i, name, directory, hleast, hname, hdirectory, rfl⟩ := Search.isLeast_of_first? hfirst
    exact .inr ⟨j, i, name, directory, hleast, hname, hdirectory, rfl⟩

/-! ## Two names at different heights -/

/-- A machine with a directory `venv` in `/w/a`, and `.venv` one step up. -/
def twoHeights : Machine where
  files := { nodes := [["w"], ["w", ".venv"], ["w", "a"], ["w", "a", "venv"]].map (·, .directory) }
  directory := ["w", "a"]
  environment := []

/-- A resolver in `/w/a` of that machine, with no tool to ask. -/
def ofTwoHeights : Resolver Unit where
  host := { Host.bare with isDirectory := fun path => .ofExcept (twoHeights.isDirectory path) }
  overrides := {}
  root := .ofText "/w/a"

/-- A name that comes first is found one step up, though there is a directory of the other name nearer. -/
theorem resolve_venv_least_farther :
    let isDirectory (path : Path) : Bool := (twoHeights.isDirectory path).toOption.getD false
    let directories := Search.ascent (Search.startBy isDirectory ofTwoHeights.root none)
    let hits := Search.hits isDirectory directories (Search.namesWith none)
    (∀ path ∈ Search.checked ofTwoHeights.root none directories (Search.namesWith none),
        (ofTwoHeights.host.isDirectory path).Yields (Scene.In fun _ => True)
          (.ok (isDirectory path))) ∧
      toLex (1, 0) ∈ hits ∧
      ∃ left j i, IsLeast hits (toLex (j, i)) ∧
        ofTwoHeights.resolve .venv none (.fresh { world := () }) =
          .ok (some (.string "/w/.venv")) left := by
  intro isDirectory directories hits
  have hanswers : ∀ path ∈ Search.checked ofTwoHeights.root none directories (Search.namesWith none),
      twoHeights.isDirectory path = .ok (isDirectory path) := by
    decide +kernel
  have hchecks : ∀ path ∈ Search.checked ofTwoHeights.root none directories (Search.namesWith none),
      (ofTwoHeights.host.isDirectory path).Yields (Scene.In fun _ => True)
        (.ok (isDirectory path)) := by
    intro path hpath
    rw [← hanswers path hpath]
    exact .of_ofExcept _
  have hnear : isDirectory ((Path.ofText "/w/a").joinText "venv") = true := by decide +kernel
  refine ⟨hchecks, ⟨"venv", rfl, .ofText "/w/a", rfl, hnear⟩, ?_⟩
  obtain ⟨answer, left, hresolve, hanswer⟩ :=
    @resolve_venv_least Unit ofTwoHeights none none rfl (fun _ => True) isDirectory hchecks
      (.fresh { world := () }) _ rfl rfl trivial
  have hfound : (ofTwoHeights.resolve .venv none).answer (.fresh { world := () }) =
      .ok (some (.string "/w/.venv")) := by
    decide +kernel
  obtain rfl := Except.ok.inj ((Attempt.answer_of_ok hresolve).symm.trans hfound)
  obtain ⟨hnone, -⟩ | ⟨j, i, name, directory, hleast, -⟩ := hanswer
  · cases hnone
  · exact ⟨left, j, i, hleast, hresolve⟩

end Resolver

end LspHost
