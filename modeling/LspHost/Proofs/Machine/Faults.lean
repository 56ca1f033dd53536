import LspHost.Proofs.Command
import LspHost.Proofs.Machine.Directory

/-!
# What a machine raises

Whatever is asked of a machine, it never says that a start failed (`Machine.raises_host`): that is
for those who start something on it to say.
-/

namespace LspHost

variable {σ α : Type}

/-! ## Reading and changing the world -/

theorem Act.raises_tryOfWorld {P : Fault → Prop} {f : σ → Except Fault α}
    (hf : ∀ w e, f w = .error e → P e) : (Act.tryOfWorld f).Raises P := by
  intro s t e h
  unfold Act.tryOfWorld at h
  split at h
  · cases h
  · next hworld =>
    cases h
    exact hf _ _ hworld

theorem Act.raises_onWorld {P : Fault → Prop} (f : σ → α × σ) : (Act.onWorld f).Raises P :=
  fun _ _ _ h => by cases h

theorem Act.raises_ofWorld {P : Fault → Prop} (f : σ → α) : (Act.ofWorld f).Raises P :=
  fun _ _ _ h => by cases h

namespace Machine

/-! ## Files -/

theorem isForeign_of_answer {path : Path} {x : Except Errno α} {e : Fault}
    (h : answer path x = .error e) : e.IsForeign := by
  cases x with
  | ok a => cases h
  | error errno =>
    cases h
    exact nofun

/-- A row of names fails on a name that none can have, or where following a link does. -/
theorem Files.isForeign_of_resolveRow {fs : Files} {here : Location} {follow : Files.Resolving}
    (hfollow : ∀ met trail names e, follow met trail names = .error e → e.IsForeign) {met : Files.Met}
    {trail : Files.Trail} {names : List String} {e : Fault}
    (h : fs.resolveRow here follow met trail names = .error e) : e.IsForeign := by
  fun_induction Files.resolveRow fs here follow met trail names
  case case1 | case7 | case9 => cases h
  case case4 =>
    cases h
    exact nofun
  case case8 hinner =>
    -- what a link stands for cannot be resolved
    cases h
    exact hfollow _ _ _ _ hinner
  case case2 ih | case3 ih | case5 ih | case6 ih | case10 ih => exact ih h

/-- **Resolving names** fails on a name that none can have, or on links that lie too deep. -/
theorem Files.isForeign_of_resolveNames {fs : Files} {here : Location} (depth : Nat)
    (met : Files.Met) (trail : Files.Trail) (names : List String) (e : Fault)
    (h : fs.resolveNames here depth met trail names = .error e) : e.IsForeign := by
  induction depth generalizing met trail names e with
  | zero =>
    refine isForeign_of_resolveRow (fun _ _ _ _ hdeep => ?_) h
    cases hdeep
    exact nofun
  | succ depth ih => exact isForeign_of_resolveRow ih h

theorem Files.isForeign_of_resolve {fs : Files} {here : Location} {path : String} {e : Fault}
    (h : fs.resolve here path = .error e) : e.IsForeign := by
  rw [Files.resolve_eq] at h
  split at h
  · next hnames =>
    cases h
    exact isForeign_of_resolveNames _ _ _ _ _ hnames
  · unfold Files.lookedAt at h
    split at h
    · cases h
      exact nofun
    split at h
    · cases h
      exact nofun
    · cases h

/-! ## The host -/

section Operations

variable {m : Machine} {e : Fault}

theorem isForeign_of_isDirectory {path : Path} (h : m.isDirectory path = .error e) :
    e.IsForeign := by
  unfold isDirectory at h
  split at h
  · cases h
  · exact isForeign_of_answer h

theorem isForeign_of_isPresent {path : Path} (h : m.isPresent path = .error e) : e.IsForeign := by
  unfold isPresent at h
  split at h
  · cases h
  · exact isForeign_of_answer h

theorem isForeign_of_read {path : Path} (h : m.read path = .error e) : e.IsForeign := by
  unfold read at h
  split at h
  · cases h
    exact nofun
  · exact isForeign_of_answer h

theorem isForeign_of_lookup {name : Value} (h : m.lookup name = .error e) : e.IsForeign := by
  unfold lookup at h
  split at h
  · cases h
  · cases h
    exact nofun

end Operations

/-- **A machine** raises no failed start. -/
theorem raises_host (limit : Option Nat) : (host limit).Raises Fault.IsForeign where
  isDirectory := fun path => by
    show (Act.tryOfWorld fun m : Machine => m.isDirectory path).Raises _
    exact Act.raises_tryOfWorld fun _ _ => isForeign_of_isDirectory
  isPresent := fun path => by
    show (Act.tryOfWorld fun m : Machine => m.isPresent path).Raises _
    exact Act.raises_tryOfWorld fun _ _ => isForeign_of_isPresent
  resolve := fun path => by
    show (Act.tryOfWorld fun m : Machine => m.resolve path).Raises _
    exact Act.raises_tryOfWorld fun _ _ => Files.isForeign_of_resolve
  read := fun path => by
    show (Act.tryOfWorld fun m : Machine => m.read path).Raises _
    exact Act.raises_tryOfWorld fun _ _ => isForeign_of_read
  lookup := fun name => by
    show (Act.tryOfWorld fun m : Machine => m.lookup name).Raises _
    exact Act.raises_tryOfWorld fun _ _ => isForeign_of_lookup
  remoteLookup := nofun
  run := fun command arguments directory => by
    show (Command.run (fun request => Act.onWorld fun m : Machine => m.launch request) limit
      command arguments directory).Raises _
    exact Command.raises_run (fun request => Act.raises_onWorld _) command arguments directory
  environment := fun name => by
    show (Act.ofWorld fun m : Machine => m.value? name).Raises _
    exact Act.raises_ofWorld _

end Machine

end LspHost
