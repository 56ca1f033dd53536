import LspHost.Machine
import LspHost.Proofs.Path.Text
import LspHost.Proofs.StillWorld

/-!
# The current directory of a machine

A machine stands still as long as nobody works on it, and tells of its files and variables
(`Machine.tells_host`). The current directory counts only for paths that are not absolute: with
another one the machine has the same surroundings, seen from elsewhere (`Machine.elsewhere`).
-/

namespace LspHost

namespace Machine

namespace Files

variable {fs : Files} {here there : Location}

/-- **A rest that is added** to a path from the root leaves it from the root. -/
theorem startsWith_joinRest {path : String} (h : path.startsWith "/" = true) (rest : String) :
    (joinRest path rest).startsWith "/" = true := by
  obtain ⟨more, hmore⟩ := String.startsWith_string_iff.mp h
  unfold joinRest
  split
  · assumption
  split
  all_goals
    rw [String.startsWith_string_iff]
    simp [← hmore]

namespace Trail

theorem startsWith_text {t : Trail} (h : t.rooted = true) : t.text.startsWith "/" = true := by
  rw [text, h, String.startsWith_string_iff]
  simp

/-- **A trail from the root** leads to the same place from every directory. -/
theorem location_rooted {t : Trail} (h : t.rooted = true) (here there : Location) :
    t.location here = t.location there := by
  simp only [location, h, if_true]

@[simp]
theorem rooted_up (t : Trail) : t.up.rooted = t.rooted := by
  unfold up
  split
  · split <;> rfl
  · rfl

end Trail

theorem linkTarget?_rooted {t : Trail} (h : t.rooted = true) (here there : Location) :
    fs.linkTarget? here t = fs.linkTarget? there t := by
  unfold linkTarget?
  rw [t.location_rooted h here there]

/-- Links that all stand for paths from the root. -/
def Met.IsRooted (met : Met) : Prop := ∀ entry ∈ met, ∀ known ∈ entry.2, known.rooted = true

/-- A path from the root, as far as it could be resolved. -/
def Resolved.IsRooted : Resolved → Prop
  | .whole trail => trail.rooted = true
  | .looping kept => kept.startsWith "/" = true

theorem Met.IsRooted.cons {met : Met} (h : met.IsRooted) (t : Trail) {known : Option Trail}
    (hknown : ∀ k ∈ known, k.rooted = true) : Met.IsRooted ((t, known) :: met) := by
  intro entry hentry
  rcases List.mem_cons.mp hentry with rfl | hentry
  · exact hknown
  · exact h entry hentry

/-- A link in a path from the root stands for a path from the root. -/
theorem rooted_start {trail : Trail} (h : trail.rooted = true) (target : String) :
    (if target.startsWith "/" then { rooted := true } else trail : Trail).rooted = true := by
  split
  · rfl
  · exact h

/-- Resolving comes to the same twice, and it leads to a path from the root where it leads anywhere. -/
structure SameFromRoot (x y : Except Fault (Resolved × Met)) : Prop where
  /-- it comes to the same -/
  eq : y = x
  /-- the path is one from the root, and so are those that the links met stand for -/
  rooted : ∀ {resolved met}, x = .ok (resolved, met) → resolved.IsRooted ∧ met.IsRooted

theorem SameFromRoot.error (e : Fault) : SameFromRoot (.error e) (.error e) where
  eq := rfl
  rooted := fun h => by cases h

theorem SameFromRoot.ok {resolved : Resolved} {met : Met} (hresolved : resolved.IsRooted)
    (hmet : met.IsRooted) : SameFromRoot (.ok (resolved, met)) (.ok (resolved, met)) where
  eq := rfl
  rooted := fun h => by
    cases h
    exact ⟨hresolved, hmet⟩

/-- **A row of names from the root** is resolved the same from every directory, if what the links stand
for is. -/
theorem sameFromRoot_resolveRow {follow follow' : Resolving}
    (hfollow : ∀ names {met trail}, trail.rooted = true → met.IsRooted →
      SameFromRoot (follow met trail names) (follow' met trail names))
    (names : List String) {met : Met} {trail : Trail} (htrail : trail.rooted = true)
    (hmet : met.IsRooted) :
    SameFromRoot (fs.resolveRow here follow met trail names)
      (fs.resolveRow there follow' met trail names) := by
  induction names generalizing met trail with
  | nil => exact .ok htrail hmet
  | cons name rest ih =>
    have hnext : (trail.down name).rooted = true := htrail
    rw [resolveRow, resolveRow]
    split
    · exact ih htrail hmet
    split
    · exact ih (trail.rooted_up.trans htrail) hmet
    split
    · exact .error _
    dsimp only
    rw [linkTarget?_rooted hnext there here]
    split
    · exact ih hnext hmet
    next target _ =>
    split
    · -- a link that was resolved before
      next hfound => exact ih (hmet _ (List.mem_of_find?_eq_some hfound) _ rfl) hmet
    · -- a link that leads back to itself
      exact .ok (startsWith_joinRest (Trail.startsWith_text hnext) _) hmet
    have hbegun := hmet.cons (trail.down name) (nofun : ∀ k ∈ (none : Option Trail), k.rooted = true)
    have hinner := hfollow (Text.cut '/' target) (rooted_start htrail target) hbegun
    rw [hinner.eq]
    split
    · exact .error _
    · next hlooping =>
      obtain ⟨hkept, hmet'⟩ := hinner.rooted hlooping
      exact .ok (startsWith_joinRest hkept _) hmet'
    · next hwhole =>
      obtain ⟨hknown, hmet'⟩ := hinner.rooted hwhole
      exact ih hknown (hmet'.cons _ fun k hk => by cases hk; exact hknown)

/-- **Names from the root** are resolved the same from every directory. -/
theorem sameFromRoot_resolveNames (fs : Files) (here there : Location) (depth : Nat) (names : List String)
    {met : Met} {trail : Trail} (htrail : trail.rooted = true) (hmet : met.IsRooted) :
    SameFromRoot (fs.resolveNames here depth met trail names)
      (fs.resolveNames there depth met trail names) := by
  induction depth generalizing met trail names with
  | zero => exact sameFromRoot_resolveRow (fun _ _ _ _ _ => .error .tooDeep) names htrail hmet
  | succ depth ih => exact sameFromRoot_resolveRow ih names htrail hmet

theorem isAbsolute_absolute (directory : Location) (text : String) :
    (absolute directory text).isAbsolute = true := by
  have hroot : ("/" ++ "/".intercalate directory).startsWith "/" = true := by
    rw [String.startsWith_string_iff]
    simp
  obtain ⟨more, hmore⟩ := String.startsWith_string_iff.mp (startsWith_joinRest hroot text)
  have hanchor := Path.anchorOf_slash more
  rw [show '/' :: more = (joinRest ("/" ++ "/".intercalate directory) text).toList from hmore]
    at hanchor
  exact decide_eq_true hanchor

/-- The path that was reached, in a directory. -/
def Resolved.path (directory : Location) : Resolved → Path
  | .whole trail => .ofSegments .root (trail.location directory)
  | .looping kept => absolute directory kept

theorem Resolved.isAbsolute_path (directory : Location) (resolved : Resolved) :
    (resolved.path directory).isAbsolute = true := by
  cases resolved with
  | whole trail => rfl
  | looping kept => exact isAbsolute_absolute directory kept

/-- **A path from the root** is the same from every directory. -/
theorem Resolved.IsRooted.path_congr {resolved : Resolved} (h : resolved.IsRooted)
    (here there : Location) : resolved.path there = resolved.path here := by
  cases resolved with
  | whole trail => exact congrArg (Path.ofSegments .root) (Trail.location_rooted h there here)
  | looping kept =>
    have hkept : kept.startsWith "/" = true := h
    simp only [path, absolute, joinRest, hkept, if_true]

/-- A path that was reached, unless it cannot be looked at. -/
def lookedAt (fs : Files) (path : Path) : Except Fault Path :=
  if path.hasNul then .error (.badText .nul)
  else
    match fs.stat [] path.text with
    | .error .loop => .error .linkLoop
    | _ => .ok path

theorem resolve_eq (fs : Files) (directory : Location) (path : String) :
    fs.resolve directory path =
      match fs.resolveNames directory nestingLimit [] { rooted := path.startsWith "/" }
        (Text.cut '/' path) with
      | .error fault => .error fault
      | .ok (resolved, _) => fs.lookedAt (resolved.path directory) := by
  simp only [resolve, bind, Except.bind]
  rcases fs.resolveNames directory nestingLimit [] { rooted := path.startsWith "/" }
    (Text.cut '/' path) with fault | ⟨resolved, met⟩
  · rfl
  · cases resolved <;> rfl

/-- **What a path stands for** is absolute. -/
theorem isAbsolute_of_resolve {path : String} {resolved : Path}
    (h : fs.resolve here path = .ok resolved) : resolved.isAbsolute = true := by
  rw [resolve_eq] at h
  split at h
  · cases h
  · next reached _ _ =>
    unfold lookedAt at h
    split at h
    · cases h
    split at h
    · cases h
    · cases h
      exact reached.isAbsolute_path here

/-- **A path from the root** stands for the same from every directory. -/
theorem resolve_congr (fs : Files) (here there : Location) {path : String}
    (h : path.startsWith "/" = true) :
    fs.resolve there path = fs.resolve here path := by
  have hstart : ({ rooted := path.startsWith "/" } : Trail).rooted = true := h
  have hmet : Met.IsRooted [] := fun _ hentry => by cases hentry
  have hsame := fs.sameFromRoot_resolveNames here there nestingLimit (Text.cut '/' path) hstart hmet
  rw [resolve_eq fs there, resolve_eq fs here, hsame.eq]
  split
  · rfl
  · next reached _ hreached =>
    rw [(hsame.rooted hreached).1.path_congr here there]

/-- **A path from the root** leads to the same from every directory. -/
theorem stat_congr (fs : Files) (here there : Location) {path : String}
    (h : path.startsWith "/" = true) :
    fs.stat there path = fs.stat here path := by
  simp only [stat, walk, place, h, if_true]

end Files

/-! ## Surroundings -/

/-- The files and the variables of a machine. -/
def view (m : Machine) : Surroundings where
  isPresent := m.isPresent
  resolve := m.resolve
  read := m.read
  environment := m.value?
  isAbsolute_of_resolve := fun _ _ => Files.isAbsolute_of_resolve

/-- Looking at the world leaves it where it is. -/
theorem yields_tryOfWorld {α : Type} (m : Machine) (f : Machine → Except Fault α) :
    (Act.tryOfWorld f).Yields (Scene.In (· = m)) (f m) := by
  intro s hs
  obtain rfl : s.world = m := hs
  unfold Attempt.answer Attempt.after Act.tryOfWorld
  cases f s.world <;> exact ⟨rfl, rfl⟩

/-- **A machine tells of its files and variables** as long as nobody works on it. -/
theorem tells_host (m : Machine) (limit : Option Nat) : (host limit).Tells (· = m) m.view where
  isPresent := fun path => yields_tryOfWorld m (·.isPresent path)
  resolve := fun path => yields_tryOfWorld m (·.resolve path)
  read := fun path => yields_tryOfWorld m (·.read path)
  environment := fun name s hs => by
    obtain rfl : s.world = m := hs
    exact ⟨rfl, rfl⟩

/-- **Another current directory** is the same machine, seen from elsewhere. -/
theorem elsewhere (m : Machine) (directory : Location) :
    m.view.Elsewhere { m with directory }.view where
  isPresent := fun path hpath => by
    have hstat := m.files.stat_congr m.directory directory (Path.startsWith_text hpath)
    simp only [view, isPresent, Files.isPresent, hstat]
  resolve := fun path hpath =>
    m.files.resolve_congr m.directory directory (Path.startsWith_text hpath)
  read := fun path hpath => by
    have hstat := m.files.stat_congr m.directory directory (Path.startsWith_text hpath)
    simp only [view, read, Files.read, hstat]
  environment := rfl

end Machine

end LspHost
