import LspHost.Proofs.Path.Uri
import LspHost.Proofs.Session.Documents
import LspHost.Proofs.Session.Plan
import LspHost.Proofs.Workspace.Listing
import Mathlib.Data.List.Nodup

/-!
# What a start sends

A start launches the server's program, greets the server, pushes the settings and opens the live
documents (`Session.start_eq`). Each part carries out a plan of its own, and so the start carries out
the plan of all four (`Session.carries_start`): the documents of its last part are those that are
not open yet, each once, in the order of the workspace.
-/

namespace LspHost.Session

variable {σ α : Type}

/-! ## The parts of a start -/

/-- Finds the command and spawns the server's program. -/
def launch (s : Session σ) (given : List String) : Run σ Unit := do
  let argv ← Attempt.ofExcept (s.commandLine given)
  note .info ("starting " ++ " ".intercalate argv ++ " in " ++ s.root.text)
  s.spawn argv

/-- Resolves and inspects the interpreter and initialises the server; gives what the server says
about itself, and the settings for it. -/
def greet (s : Session σ) : Run σ (Option ServerInfo × Value) := do
  let (python, snapshot) ← s.settings
  let info ← lift (Interpreter.inspect s.host.run python (some s.root.text))
  note .info ("using interpreter " ++ orElseText python "(none)" ++ " (" ++
    orElseText info.version "unknown version" ++ ")")
  let options ← Attempt.ofExcept (Interpreter.options s.config python info)
  let answer ← s.send (.handshake s.process s.root options)
  note .info ("server initialised: " ++ describeInfo answer)
  let _ ← s.send .initialized
  let nested ← Attempt.ofExcept (Settings.nest snapshot)
  return (answer, nested)

/-- Pushes the settings, and from then on the session counts as started. -/
def push (s : Session σ) (nested : Value) : Run σ Unit := do
  let _ ← s.send (.configurationChanged nested)
  modify fun st => { st with started := true }

/-- **A start** has four parts. -/
theorem start_eq (s : Session σ) (given : List String) :
    s.start given = (do
      s.launch given
      let (answer, nested) ← s.greet
      s.push nested
      s.openAll
      return answer) := by
  unfold start launch greet push
  simp only [bind_assoc, pure_bind]

/-! ## What each part leaves alone -/

/-- The workspace and the handshake are as they were. -/
structure Steady (s t : State σ) : Prop where
  /-- the handshake is as it was -/
  started : t.started = s.started
  /-- the workspace is as it was -/
  workspace : t.workspace = s.workspace

theorem Steady.refl (s : State σ) : Steady s s := ⟨rfl, rfl⟩

theorem Steady.trans (s t u : State σ) (hst : Steady s t) (htu : Steady t u) : Steady s u :=
  ⟨htu.started.trans hst.started, htu.workspace.trans hst.workspace⟩

/-- The same documents are open, beside that. -/
structure Untouched (s t : State σ) : Prop extends Steady s t where
  /-- the same documents are open -/
  opened : t.opened = s.opened

theorem Untouched.refl (s : State σ) : Untouched s s := ⟨.refl s, rfl⟩

theorem Untouched.trans (s t u : State σ) (hst : Untouched s t) (htu : Untouched t u) :
    Untouched s u :=
  ⟨.trans s t u hst.toSteady htu.toSteady, htu.opened.trans hst.opened⟩

theorem untouched_of_unmoved {act : Run σ α} (h : act.Keeps Unmoved) : act.Keeps Untouched :=
  h.mono fun _ _ hst => ⟨⟨hst.started, hst.workspace⟩, hst.opened⟩

theorem untouched_send (s : Session σ) (message : Message) :
    (s.send message).Keeps Untouched := by
  intro st
  obtain ⟨scene, delivered, hafter⟩ := s.after_send message st
  rw [hafter]
  exact ⟨⟨rfl, rfl⟩, rfl⟩

theorem untouched_greet (s : Session σ) : s.greet.Keeps Untouched := by
  refine .bind Untouched.trans (untouched_of_unmoved s.unmoved_settings) fun answer => ?_
  refine .bind Untouched.trans (untouched_of_unmoved (unmoved_lift _)) fun info => ?_
  refine .bind Untouched.trans (untouched_of_unmoved (unmoved_note _ _)) fun _ => ?_
  refine .bind Untouched.trans (.ofExcept Untouched.refl _) fun options => ?_
  refine .bind Untouched.trans (s.untouched_send _) fun answer => ?_
  refine .bind Untouched.trans (untouched_of_unmoved (unmoved_note _ _)) fun _ => ?_
  refine .bind Untouched.trans (s.untouched_send _) fun _ => ?_
  exact .bind Untouched.trans (.ofExcept Untouched.refl _) fun nested => .pure Untouched.refl _

theorem steady_openDocument (s : Session σ) (path : Path) :
    (s.openDocument path).Keeps Steady := by
  intro st
  rcases s.openDocument_cases path st with ⟨-, hrun⟩ |
    ⟨-, ⟨e, scene, -, hrun⟩ | ⟨text, u, -, ⟨e, scene, -, hrun⟩ | ⟨info, scene, -, hrun⟩⟩⟩
  · rw [Attempt.after_of_ok hrun]
    exact .refl st
  · rw [Attempt.after_of_error hrun]
    exact ⟨rfl, rfl⟩
  · rw [Attempt.after_of_error hrun]
    exact ⟨rfl, rfl⟩
  · rw [Attempt.after_of_ok hrun]
    exact ⟨rfl, rfl⟩

theorem steady_closeDocument (s : Session σ) (path : Path) :
    (s.closeDocument path).Keeps Steady := by
  intro st
  rcases s.closeDocument_cases path st with ⟨-, hrun⟩ |
    ⟨-, ⟨e, scene, -, hrun⟩ | ⟨info, scene, -, hrun⟩⟩
  · rw [Attempt.after_of_ok hrun]
    exact .refl st
  · rw [Attempt.after_of_error hrun]
    exact ⟨rfl, rfl⟩
  · rw [Attempt.after_of_ok hrun]
    exact ⟨rfl, rfl⟩

theorem steady_openAll (s : Session σ) : s.openAll.Keeps Steady :=
  .bind Steady.trans (.get Steady.refl) fun _ =>
    .forM Steady.refl Steady.trans (fun _ => s.steady_openDocument _) _

/-! ## Launching -/

/-- **Spawning** sends one message; a refusal of it is a failed start. -/
theorem spawn_eq (s : Session σ) (argv : List String) (st : State σ) :
    s.spawn argv st = match s.link (.spawn argv s.root.text) st.scene with
      | .ok _ scene => .ok () (st.afterSending scene (.spawn argv s.root.text) true)
      | .error e scene =>
        .error (asLaunchFault argv e) (st.afterSending scene (.spawn argv s.root.text) false) := by
  unfold spawn
  rcases hlink : s.link (.spawn argv s.root.text) st.scene with ⟨info, scene⟩ | ⟨e, scene⟩
  · rw [s.send_of_ok hlink]
  · rw [s.send_of_error hlink]

/-- **A launch** without a command does nothing at all; otherwise all that it does beside noting a
record is to spawn the program. -/
theorem launch_cases (s : Session σ) (given : List String) (st : State σ) :
    (∃ e, s.commandLine given = .error e ∧ s.launch given st = .error e st) ∨
      ∃ argv u, s.commandLine given = .ok argv ∧
        ((∃ e scene, s.link (.spawn argv s.root.text) u = .error e scene ∧
            s.launch given st = .error (asLaunchFault argv e)
              (st.afterSending scene (.spawn argv s.root.text) false)) ∨
          ∃ info scene, s.link (.spawn argv s.root.text) u = .ok info scene ∧
            s.launch given st = .ok () (st.afterSending scene (.spawn argv s.root.text) true)) := by
  rcases hcommand : s.commandLine given with e | argv
  · refine .inl ⟨e, rfl, ?_⟩
    unfold launch
    rw [hcommand]
    rfl
  obtain ⟨u, hrun⟩ : ∃ u, s.launch given st = s.spawn argv { st with scene := u } := by
    unfold launch
    rw [hcommand]
    exact ⟨_, rfl⟩
  refine .inr ⟨argv, u, rfl, ?_⟩
  rw [s.spawn_eq] at hrun
  rcases hlink : s.link (.spawn argv s.root.text) u with ⟨info, scene⟩ | ⟨e, scene⟩
  all_goals rw [hlink] at hrun
  · exact .inr ⟨info, scene, rfl, hrun⟩
  · exact .inl ⟨e, scene, rfl, hrun⟩

theorem untouched_launch (s : Session σ) (given : List String) :
    (s.launch given).Keeps Untouched := by
  intro st
  rcases s.launch_cases given st with ⟨e, -, hrun⟩ |
    ⟨argv, u, -, ⟨e, scene, -, hrun⟩ | ⟨info, scene, -, hrun⟩⟩
  · rw [Attempt.after_of_error hrun]
    exact .refl st
  · rw [Attempt.after_of_error hrun]
    exact ⟨⟨rfl, rfl⟩, rfl⟩
  · rw [Attempt.after_of_ok hrun]
    exact ⟨⟨rfl, rfl⟩, rfl⟩

/-! ## Plans -/

theorem carries_launch (s : Session σ) {given argv : List String}
    (hcommand : s.commandLine given = .ok argv) (st : State σ) :
    Carries [.spawn argv s.root.text] (s.launch given) st := by
  rcases s.launch_cases given st with ⟨e, hnone, -⟩ |
    ⟨argv', u, hsome, ⟨e, scene, -, hrun⟩ | ⟨info, scene, -, hrun⟩⟩
  · rw [hcommand] at hnone
    cases hnone
  all_goals
    rw [hcommand] at hsome
    obtain rfl := Except.ok.inj hsome
  · exact carries_of_error hrun rfl (cutShort_lost rfl)
  · exact carries_of_ok hrun rfl (whole_delivered rfl)

theorem carries_greet (s : Session σ) (st : State σ) :
    Carries [.handshake, .initialized] s.greet st := by
  refine .after_quiet (quiet_of_unmoved s.unmoved_settings) fun answer t => ?_
  refine .after_quiet (quiet_of_unmoved (unmoved_lift _)) fun info t => ?_
  refine .after_quiet (quiet_of_unmoved (unmoved_note _ _)) fun _ t => ?_
  refine .after_quiet (.ofExcept Quiet.refl _) fun options t => ?_
  refine .after_send s rfl fun answer t => ?_
  refine .after_quiet (quiet_of_unmoved (unmoved_note _ _)) fun _ t => ?_
  refine .after_send s rfl fun _ t => ?_
  exact .after_quiet (.ofExcept Quiet.refl _) fun nested t => carries_nil (fun _ => rfl) t

/-- **A push** sends the settings; the session counts as started once they got through. -/
theorem push_cases (s : Session σ) (nested : Value) (st : State σ) :
    (∃ e scene, s.push nested st =
        .error e (st.afterSending scene (.configurationChanged nested) false)) ∨
      ∃ scene, s.push nested st =
        .ok () { st.afterSending scene (.configurationChanged nested) true with started := true } := by
  rcases hlink : s.link (.configurationChanged nested) st.scene with ⟨info, scene⟩ | ⟨e, scene⟩
  · exact .inr ⟨scene, Attempt.bind_of_ok (s.send_of_ok hlink) _⟩
  · exact .inl ⟨e, scene, Attempt.bind_of_error (s.send_of_error hlink) _⟩

theorem carries_push (s : Session σ) (nested : Value) (st : State σ) :
    Carries [.settings] (s.push nested) st :=
  .after_send s rfl fun _ t => carries_nil (fun _ => rfl) t

/-! ## Documents -/

/-- The URI of a document of the workspace. -/
def uriOf (s : Session σ) (d : Document) : String := (s.root.join d.path).uri

/-- Those of some URIs that are not open yet, each once, in order. -/
def unopened (opened uris : List String) : List String :=
  (uris.filter fun uri => !opened.contains uri).eraseDups

@[simp]
theorem unopened_nil (opened : List String) : unopened opened [] = [] := rfl

theorem unopened_cons_of_open {opened : List String} {uri : String} (rest : List String)
    (h : opened.contains uri = true) : unopened opened (uri :: rest) = unopened opened rest := by
  simp only [unopened, List.filter_cons, h, Bool.not_true, Bool.false_eq_true, if_false]

/-- **A URI that is opened** is not opened again. -/
theorem unopened_cons_of_closed {opened : List String} {uri : String} (rest : List String)
    (h : opened.contains uri = false) :
    unopened opened (uri :: rest) = uri :: unopened (opened ++ [uri]) rest := by
  simp only [unopened, List.filter_cons, h, Bool.not_false, if_true, List.eraseDups_cons,
    List.filter_filter]
  congr 3
  funext other
  rw [Bool.eq_iff_iff]
  simp [and_comm]

theorem eraseDups_of_nodup {uris : List String} (h : uris.Nodup) : uris.eraseDups = uris := by
  induction uris with
  | nil => rfl
  | cons uri rest ih =>
    obtain ⟨hnew, hrest⟩ := List.nodup_cons.mp h
    have hkept : rest.filter (fun other => !other == uri) = rest := by
      refine List.filter_eq_self.mpr fun other hother => ?_
      have hne : other ≠ uri := fun heq => hnew (heq ▸ hother)
      simpa using hne
    rw [List.eraseDups_cons, hkept, ih hrest]

/-- **URIs that are all different** are opened where they are not open. -/
theorem unopened_of_nodup {uris : List String} (h : uris.Nodup) (opened : List String) :
    unopened opened uris = uris.filter fun uri => !opened.contains uri :=
  eraseDups_of_nodup (h.filter _)

/-- **The first URI** is opened or not, and the others after it. -/
theorem unopened_cons (opened : List String) (uri : String) (rest : List String) :
    unopened opened (uri :: rest) =
      unopened opened [uri] ++ unopened (opened ++ unopened opened [uri]) rest := by
  by_cases h : opened.contains uri = true
  · rw [unopened_cons_of_open rest h, unopened_cons_of_open [] h, unopened_nil, List.append_nil,
      List.nil_append]
  · have hclosed := Bool.eq_false_iff.mpr h
    rw [unopened_cons_of_closed rest hclosed, unopened_cons_of_closed [] hclosed, unopened_nil]
    rfl

/-- **Opening a document** sends one message if it is not open yet. -/
theorem carries_openDocument (s : Session σ) (path : Path) (st : State σ) :
    Carries ((unopened st.opened [(s.root.join path).uri]).map .opened)
      (s.openDocument path) st := by
  rcases s.openDocument_cases path st with ⟨hopen, hrun⟩ | ⟨hclosed, hcases⟩
  · rw [unopened_cons_of_open [] hopen]
    exact carries_of_ok hrun (List.append_nil _).symm whole_nil
  rw [unopened_cons_of_closed [] hclosed]
  rcases hcases with ⟨e, scene, -, hrun⟩ | ⟨text, u, -, ⟨e, scene, -, hrun⟩ | ⟨info, scene, -, hrun⟩⟩
  · exact carries_of_error hrun (List.append_nil _).symm (cutShort_nil _)
  · exact carries_of_error hrun rfl (cutShort_lost rfl)
  · exact carries_of_ok hrun rfl (whole_delivered rfl)

/-- **A document that was opened** is open afterwards, and no other is beside those that were. -/
theorem opened_of_openDocument (s : Session σ) (path : Path) {st t : State σ}
    (h : s.openDocument path st = .ok () t) :
    t.opened = st.opened ++ unopened st.opened [(s.root.join path).uri] := by
  rcases s.openDocument_cases path st with ⟨hopen, hrun⟩ |
    ⟨hclosed, ⟨e, scene, -, hrun⟩ | ⟨text, u, -, ⟨e, scene, -, hrun⟩ | ⟨info, scene, -, hrun⟩⟩⟩
  all_goals rw [hrun] at h
  · cases h
    rw [unopened_cons_of_open [] hopen, unopened_nil, List.append_nil]
  · cases h
  · cases h
  · cases h
    rw [unopened_cons_of_closed [] hclosed, unopened_nil]

/-- **Opening documents** one after the other sends one message for each of their URIs that is not
open yet. -/
theorem carries_openEach (s : Session σ) (docs : List Document) (st : State σ) :
    Carries ((unopened st.opened (docs.map s.uriOf)).map .opened)
      (docs.forM fun d => s.openDocument d.path) st := by
  induction docs generalizing st with
  | nil => exact carries_nil (fun _ => rfl) st
  | cons d rest ih =>
    rw [List.map_cons, unopened_cons, List.map_append]
    refine .bind (s.carries_openDocument d.path st) fun _ t h => ?_
    -- the others are opened from what is open once the first one is
    have hrest := ih t
    rw [s.opened_of_openDocument d.path h] at hrest
    exact hrest

/-- **All documents that were opened** are open afterwards. -/
theorem opened_of_openEach (s : Session σ) (docs : List Document) {st t : State σ}
    (h : (docs.forM fun d => s.openDocument d.path : Run σ Unit) st = .ok () t) :
    t.opened = st.opened ++ unopened st.opened (docs.map s.uriOf) := by
  induction docs generalizing st with
  | nil =>
    cases h
    rw [List.map_nil, unopened_nil, List.append_nil]
  | cons d rest ih =>
    obtain ⟨_, u, hfirst, hrest⟩ := Attempt.bind_eq_ok h
    have hcons := unopened_cons st.opened (s.uriOf d) (rest.map s.uriOf)
    rw [ih hrest, s.opened_of_openDocument d.path hfirst, List.append_assoc, List.map_cons, hcons]
    rfl

/-! ## Whole starts -/

/-- The URIs that a start opens: those of the live documents that are not open yet. -/
def awaiting (s : Session σ) (st : State σ) : List String :=
  unopened st.opened (st.workspace.liveDocuments.map s.uriOf)

/-- **In an orderly workspace** no URI awaits being opened twice. -/
theorem nodup_uris (s : Session σ) {w : Workspace} (h : w.Orderly) :
    (w.liveDocuments.map s.uriOf).Nodup := by
  have huri : w.liveDocuments.map s.uriOf = (w.liveDocuments.map Document.path).map Path.uri := by
    rw [List.map_map]
    refine List.map_congr_left fun d hd => ?_
    rw [uriOf, Path.join_of_isAbsolute _ (h.isAbsolute_path hd), Function.comp]
  rw [huri]
  exact h.nodup_paths.map Path.uri_injective

/-- What a start with a command is going to send. -/
def startPlan (s : Session σ) (argv : List String) (st : State σ) : List Topic :=
  [.spawn argv s.root.text, .handshake, .initialized, .settings] ++ (s.awaiting st).map .opened

/-- **What comes before the documents** leaves them alone: the same ones await being opened. -/
theorem awaiting_of_parts (s : Session σ) {given : List String} {st t u v : State σ}
    {answer : Option ServerInfo × Value} (hlaunch : s.launch given st = .ok () t)
    (hgreet : s.greet t = .ok answer u) (hpush : s.push answer.2 u = .ok () v) :
    v.opened = st.opened ∧ s.awaiting v = s.awaiting st := by
  have ht := (s.untouched_launch given).of_ok hlaunch
  have hu := s.untouched_greet.of_ok hgreet
  obtain ⟨scene, rfl⟩ : ∃ scene, v =
      { u.afterSending scene (.configurationChanged answer.2) true with started := true } := by
    rcases s.push_cases answer.2 u with ⟨e, scene, hrun⟩ | ⟨scene, hrun⟩
    · rw [hrun] at hpush
      cases hpush
    · rw [hrun] at hpush
      cases hpush
      exact ⟨scene, rfl⟩
  have hopened : u.opened = st.opened := hu.opened.trans ht.opened
  have hworkspace : u.workspace = st.workspace := hu.workspace.trans ht.workspace
  refine ⟨hopened, ?_⟩
  unfold awaiting
  rw [← hopened, ← hworkspace]
  rfl

/-- **A start** carries out its plan. -/
theorem carries_start (s : Session σ) {given argv : List String}
    (hcommand : s.commandLine given = .ok argv) (st : State σ) :
    Carries (s.startPlan argv st) (s.start given) st := by
  rw [start_eq]
  refine .bind (p := [.spawn argv s.root.text]) (s.carries_launch hcommand st) fun _ t ht => ?_
  refine .bind (p := [.handshake, .initialized]) (s.carries_greet t) fun answer u hu => ?_
  refine .bind (p := [.settings]) (s.carries_push answer.2 u) fun _ v hv => ?_
  have hopen : Carries ((s.awaiting v).map .opened) s.openAll v :=
    .bind (p := []) (carries_nil (fun _ => rfl) v) fun w x hw => by
      cases hw
      exact s.carries_openEach _ _
  -- the plan of the last part is made from the state in which it begins
  have hend := hopen.bind (q := []) fun _ w _ =>
    (carries_nil (fun _ => rfl) w : Carries [] (pure answer.1) w)
  rwa [List.append_nil, (s.awaiting_of_parts ht hu hv).2] at hend

/-- **A start without a command** does nothing. -/
theorem start_of_no_command (s : Session σ) {given : List String} {e : Fault}
    (hcommand : s.commandLine given = .error e) (st : State σ) : s.start given st = .error e st := by
  rcases s.launch_cases given st with ⟨f, hnone, hrun⟩ | ⟨argv, u, hsome, -⟩
  · rw [hcommand] at hnone
    obtain rfl := Except.error.inj hnone
    rw [start_eq]
    exact Attempt.bind_of_error hrun _
  · rw [hcommand] at hsome
    cases hsome

/-- **What a start sends** carries out its plan, wherever it ends; without a command it is nothing. -/
theorem sent_start (s : Session σ) (given : List String) (st : State σ) :
    ∃ calls, ((s.start given).after st).sent = st.sent ++ calls ∧
      ((∃ e, s.commandLine given = .error e ∧ s.start given st = .error e st ∧ calls = []) ∨
        ∃ argv, s.commandLine given = .ok argv ∧ CutShort (s.startPlan argv st) calls ∧
          (((s.start given).answer st).isOk = true → Whole (s.startPlan argv st) calls)) := by
  rcases hcommand : s.commandLine given with e | argv
  · have hrun := s.start_of_no_command hcommand st
    exact ⟨[], by rw [Attempt.after_of_error hrun, List.append_nil], .inl ⟨e, rfl, hrun, rfl⟩⟩
  have hcarries := s.carries_start hcommand st
  obtain ⟨calls, hsent, hcut⟩ := hcarries.cutShort
  refine ⟨calls, hsent, .inr ⟨argv, rfl, hcut, fun hok => ?_⟩⟩
  obtain ⟨info, t, hrun⟩ := Attempt.exists_eq_ok hok
  obtain ⟨whole, hwhole, hall⟩ := hcarries.of_ok info t hrun
  rw [Attempt.after_of_ok hrun] at hsent
  obtain rfl := List.append_cancel_left (hsent.symm.trans hwhole)
  exact hall

/-- The parts of a start that returns. -/
theorem parts_of_start {s : Session σ} {given : List String} {st w : State σ}
    {info : Option ServerInfo} (h : s.start given st = .ok info w) :
    ∃ t answer u v, s.launch given st = .ok () t ∧ s.greet t = .ok answer u ∧
      s.push answer.2 u = .ok () v ∧ s.openAll v = .ok () w ∧ answer.1 = info := by
  rw [start_eq] at h
  obtain ⟨_, t, hlaunch, h⟩ := Attempt.bind_eq_ok h
  obtain ⟨answer, u, hgreet, h⟩ := Attempt.bind_eq_ok h
  obtain ⟨_, v, hpush, h⟩ := Attempt.bind_eq_ok h
  obtain ⟨_, x, hopen, h⟩ := Attempt.bind_eq_ok h
  cases h
  exact ⟨t, answer, u, v, hlaunch, hgreet, hpush, hopen, rfl⟩

/-- **After a start** the documents that awaited it are open too. -/
theorem opened_of_start {s : Session σ} {given : List String} {st w : State σ}
    {info : Option ServerInfo} (h : s.start given st = .ok info w) :
    w.opened = st.opened ++ s.awaiting st := by
  obtain ⟨t, answer, u, v, hlaunch, hgreet, hpush, hopen, -⟩ := parts_of_start h
  obtain ⟨hopened, hawaiting⟩ := s.awaiting_of_parts hlaunch hgreet hpush
  obtain ⟨x, y, hget, heach⟩ := Attempt.bind_eq_ok hopen
  cases hget
  rw [s.opened_of_openEach _ heach, ← hawaiting, ← hopened]
  rfl

end LspHost.Session
