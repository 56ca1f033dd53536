import LspHost.Proofs.Resolver.Mirroring
import LspHost.Proofs.Session.Calls

/-!
# Sessions that mirror one another

A session sees its surroundings, its server and its indicator through operations alone, and of its own
state it reads neither what it sent nor the diagnostics that it keeps nor whether the server has
exited (`Session.State.Mirrors`). So sessions with mirrored surroundings mirror one another in every
call (`Session.mirrors_perform`) and in every run.
-/

namespace LspHost

variable {σ σ' α : Type} {R : Scene σ → Scene σ' → Prop}

/-! ## The interpreter -/

theorem Interpreter.mirrors_inspect {host : Host σ} {host' : Host σ'} (h : host.Mirrors R host')
    (python : String) (directory : Option String) :
    Attempt.Mirrors R (inspect host.run python directory) (inspect host'.run python directory) := by
  unfold inspect
  split
  · exact .of_pure _
  refine .bind (Act.mirrors_settle (h.run _ _ _)) fun reply => ?_
  cases reply with
  | error query => exact .bind (h.note _ _ _) fun _ => .of_pure _
  | ok output =>
    change Attempt.Mirrors R (ofOutput python output) (ofOutput python output)
    unfold ofOutput
    split
    · exact .of_pure _
    · exact .bind (h.note _ _ _) fun _ => .of_pure _
    · exact .of_throw _
    · exact .of_throw _

/-! ## Relays -/

namespace Relay

/-- Related scenes, with the same names marked as busy. -/
structure State.Mirrors (R : Scene σ → Scene σ' → Prop) (s : State σ) (s' : State σ') : Prop where
  /-- the scenes are related -/
  scene : R s.scene s'.scene
  /-- the same names are marked -/
  busy : s.busy = s'.busy

/-- Two indicators that mirror one another, if there are any. -/
abbrev MirrorIndicators (R : Scene σ → Scene σ' → Prop) :
    Option (Indicator σ) → Option (Indicator σ') → Prop :=
  Option.Rel fun show_ show_' => ∀ toggle name,
    Attempt.Mirrors (State.Mirrors R) (show_ toggle name) (show_' toggle name)

theorem mirrors_lift {act : Act σ α} {act' : Act σ' α} (h : Attempt.Mirrors R act act') :
    Attempt.Mirrors (State.Mirrors R) (lift act) (lift act') :=
  .lift (l := State.sceneLens) (k := State.sceneLens) (fun _ _ hs => hs.scene)
    (fun _ _ _ _ hs hscene => ⟨hscene, hs.busy⟩) h

/-- A relay with another indicator. -/
def Setup.on (r : Setup σ) (indicator : Option (Indicator σ')) : Setup σ' :=
  { indicator, enabled := r.enabled }

variable {r : Setup σ} {indicator' : Option (Indicator σ')}

theorem mirrors_showAll (h : MirrorIndicators R r.indicator indicator') (toggle : Toggle)
    (w : Workspace) :
    Attempt.Mirrors (State.Mirrors R) (showAll r toggle w) (showAll (r.on indicator') toggle w) := by
  obtain ⟨indicator, enabled⟩ := r
  unfold showAll Setup.on
  cases h with
  | none => cases enabled <;> exact .of_pure ()
  | some hshow =>
    cases enabled
    · exact .of_pure ()
    · exact .forM (fun d : Document => hshow toggle d.name) _

/-- **Relaying an event** notes the same record and tells the indicator the same. -/
theorem mirrors_handle
    (hnote : ∀ source level message, Attempt.Mirrors R (Act.note source level message : Act σ Unit)
      (Act.note source level message : Act σ' Unit))
    (h : MirrorIndicators R r.indicator indicator') (w : Workspace) (event : Progress) :
    Attempt.Mirrors (State.Mirrors R) (handle r w event) (handle (r.on indicator') w event) := by
  cases event with
  | begin => exact .bind (mirrors_lift (hnote _ _ _)) fun _ => mirrors_showAll h .start w
  | report message =>
    cases message with
    | none => exact .of_pure ()
    | some text =>
      simp only [handle]
      split
      · exact .of_pure ()
      · exact mirrors_lift (hnote _ _ _)
  | done => exact .bind (mirrors_lift (hnote _ _ _)) fun _ => mirrors_showAll h .stop w

end Relay

/-! ## Sessions -/

namespace Session

/-- A session with other surroundings, another way to its server and another indicator; its resolver is set
up alike. -/
def on (s : Session σ) (host : Host σ') (link : Link σ')
    (indicator : Option (Relay.Indicator σ')) : Session σ' :=
  { config := s.config, host, link, root := s.root, indicator, process := s.process,
    overrides := s.overrides, project := s.project }

@[simp]
theorem on_root (s : Session σ) (host : Host σ') (link : Link σ')
    (indicator : Option (Relay.Indicator σ')) : (s.on host link indicator).root = s.root := rfl

/-- A session whose surroundings, way to the server and indicator are mirrored. -/
structure Mirrors (R : Scene σ → Scene σ' → Prop) (s : Session σ) (host' : Host σ') (link' : Link σ')
    (indicator' : Option (Relay.Indicator σ')) : Prop where
  /-- the surroundings -/
  host : s.host.Mirrors R host'
  /-- the way to the server -/
  link : ∀ message, Attempt.Mirrors R (s.link message) (link' message)
  /-- the indicator -/
  indicator : Relay.MirrorIndicators R s.indicator indicator'

/-- Related scenes, with everything else the same that a session reads; the first one has sent some
messages before. -/
structure State.Mirrors (R : Scene σ → Scene σ' → Prop) (before : List Sending) (st : State σ)
    (st' : State σ') : Prop where
  /-- the scenes are related -/
  scene : R st.scene st'.scene
  /-- the documents are the same -/
  workspace : st.workspace = st'.workspace
  /-- the same is remembered -/
  cache : st.cache = st'.cache
  /-- the same names are marked as busy -/
  busy : st.busy = st'.busy
  /-- the handshake is done in both or in none -/
  started : st.started = st'.started
  /-- the same documents are open -/
  opened : st.opened = st'.opened
  /-- the same was sent since -/
  sent : st.sent = before ++ st'.sent

variable {before : List Sending}

theorem mirrors_lift {act : Act σ α} {act' : Act σ' α} (h : Attempt.Mirrors R act act') :
    Attempt.Mirrors (State.Mirrors R before) (lift act) (lift act') :=
  .lift (l := State.sceneLens) (k := State.sceneLens) (fun _ _ hs => hs.scene)
    (fun _ _ _ _ hs hscene => { hs with scene := hscene }) h

theorem mirrors_resolving {run : Resolver.Run σ α} {run' : Resolver.Run σ' α}
    (h : Attempt.Mirrors (Resolver.Memory.Mirrors R) run run') :
    Attempt.Mirrors (State.Mirrors R before) (resolving run) (resolving run') :=
  .lift (l := State.memoryLens) (k := State.memoryLens) (fun _ _ hs => ⟨hs.scene, hs.cache⟩)
    (fun _ _ _ _ hs hm => { hs with scene := hm.scene, cache := hm.cache }) h

theorem mirrors_relaying {run : Relay.Run σ α} {run' : Relay.Run σ' α}
    (h : Attempt.Mirrors (Relay.State.Mirrors R) run run') :
    Attempt.Mirrors (State.Mirrors R before) (relaying run) (relaying run') :=
  .lift (l := State.relayLens) (k := State.relayLens) (fun _ _ hs => ⟨hs.scene, hs.busy⟩)
    (fun _ _ _ _ hs hr => { hs with scene := hr.scene, busy := hr.busy }) h

variable {s : Session σ} {host' : Host σ'} {link' : Link σ'}
  {indicator' : Option (Relay.Indicator σ')} (h : s.Mirrors R host' link' indicator')

include h

theorem mirrors_note (level : Level) (message : String) :
    Attempt.Mirrors (State.Mirrors R before) (note level message) (note level message) :=
  mirrors_lift (h.host.note _ _ _)

/-- **Sending** is mirrored, and the same is recorded. -/
theorem mirrors_send (message : Message) :
    Attempt.Mirrors (State.Mirrors R before) (s.send message)
      ((s.on host' link' indicator').send message) := by
  refine .of_outcome fun st st' hst => ?_
  have hsent : ∀ x : Sending, st.sent ++ [x] = before ++ (st'.sent ++ [x]) := fun x => by
    rw [hst.sent, List.append_assoc]
  rcases (h.link message).outcome hst.scene with
    ⟨info, t, t', hok, hok', ht⟩ | ⟨e, t, t', herror, herror', ht⟩
  · exact .inl ⟨info, _, _, s.send_of_ok hok, (s.on host' link' indicator').send_of_ok hok',
      { hst with scene := ht, sent := hsent _ }⟩
  · exact .inr ⟨e, _, _, s.send_of_error herror,
      (s.on host' link' indicator').send_of_error herror', { hst with scene := ht, sent := hsent _ }⟩

/-! ## Settings and documents -/

theorem mirrors_settings :
    Attempt.Mirrors (State.Mirrors R before) s.settings
      (s.on host' link' indicator').settings := by
  refine .get_bind fun st st' hst => ?_
  rw [← hst.workspace]
  exact mirrors_resolving (Resolver.mirrors_take h.host _ _)

theorem mirrors_answerConfiguration (sections : List (Option String)) :
    Attempt.Mirrors (State.Mirrors R before) (s.answerConfiguration sections)
      ((s.on host' link' indicator').answerConfiguration sections) :=
  .bind (mirrors_settings h) fun _ => .bind (.of_ofExcept _) fun _ => .of_pure _

theorem mirrors_documentText (path : Path) :
    Attempt.Mirrors R (s.documentText path) ((s.on host' link' indicator').documentText path) := by
  refine .of_outcome fun scene scene' hscene => ?_
  unfold documentText
  rcases (h.host.read path).outcome hscene with
    ⟨bytes, t, t', hok, hok', ht⟩ | ⟨e, t, t', herror, herror', ht⟩
  · rw [hok, show (s.on host' link' indicator').host.read path scene' = .ok bytes t' from hok']
    dsimp only
    cases Text.ofBytes? bytes with
    | none => exact .inr ⟨_, t, t', rfl, rfl, ht⟩
    | some text => exact .inl ⟨_, t, t', rfl, rfl, ht⟩
  · rw [herror, show (s.on host' link' indicator').host.read path scene' = .error e t' from herror']
    cases e with
    | refused refusal => exact .inl ⟨_, t, t', rfl, rfl, ht⟩
    | _ => exact .inr ⟨_, t, t', rfl, rfl, ht⟩

theorem mirrors_openDocument (path : Path) :
    Attempt.Mirrors (State.Mirrors R before) (s.openDocument path)
      ((s.on host' link' indicator').openDocument path) := by
  refine .get_bind fun st st' hst => ?_
  rw [← hst.opened]
  change Attempt.Mirrors _ _ (if st.opened.contains (s.root.join path).uri then _ else _)
  split
  · exact .of_pure _
  refine .bind (mirrors_lift (mirrors_documentText h _)) fun text => ?_
  refine .bind (mirrors_send h _) fun _ => .of_modify fun t t' ht => ?_
  exact { ht with opened := congrArg (· ++ [(s.root.join path).uri]) ht.opened }

theorem mirrors_closeDocument (path : Path) :
    Attempt.Mirrors (State.Mirrors R before) (s.closeDocument path)
      ((s.on host' link' indicator').closeDocument path) := by
  refine .get_bind fun st st' hst => ?_
  rw [← hst.opened]
  change Attempt.Mirrors _ _ (if st.opened.contains (s.root.join path).uri then _ else _)
  split
  · refine .bind (mirrors_send h _) fun _ => .of_modify fun t t' ht => ?_
    exact { ht with opened := congrArg (List.filter (· != (s.root.join path).uri)) ht.opened }
  · exact .of_pure _

theorem mirrors_openInWorkspace (path : Path) :
    Attempt.Mirrors (State.Mirrors R before) (s.openInWorkspace path)
      ((s.on host' link' indicator').openInWorkspace path) := by
  refine .get_bind fun st st' hst => ?_
  rw [← hst.workspace]
  refine .bind (mirrors_lift (h.host.resolve _)) fun located => .of_modifyGet fun t t' ht => ?_
  have hopened : t.workspace.openAt located = t'.workspace.openAt located := by rw [ht.workspace]
  exact ⟨congrArg Prod.fst hopened, { ht with workspace := congrArg Prod.snd hopened }⟩

theorem mirrors_closeInWorkspace (path : Path) :
    Attempt.Mirrors (State.Mirrors R before) (s.closeInWorkspace path)
      ((s.on host' link' indicator').closeInWorkspace path) := by
  refine .get_bind fun st st' hst => ?_
  rw [← hst.workspace]
  refine .bind (mirrors_lift (h.host.resolve _)) fun located => .of_modify fun t t' ht => ?_
  exact { ht with workspace := congrArg (Workspace.closeAt · located) ht.workspace }

/-! ## Starting and stopping -/

theorem mirrors_spawn (argv : List String) :
    Attempt.Mirrors (State.Mirrors R before) (s.spawn argv)
      ((s.on host' link' indicator').spawn argv) := by
  refine .of_outcome fun st st' hst => ?_
  simp only [spawn, on_root]
  rcases (mirrors_send h (.spawn argv s.root.text)).outcome hst with
    ⟨info, t, t', hok, hok', ht⟩ | ⟨e, t, t', herror, herror', ht⟩
  · rw [hok, hok']
    exact .inl ⟨(), t, t', rfl, rfl, ht⟩
  · rw [herror, herror']
    exact .inr ⟨_, t, t', rfl, rfl, ht⟩

theorem mirrors_openAll :
    Attempt.Mirrors (State.Mirrors R before) s.openAll (s.on host' link' indicator').openAll := by
  refine .get_bind fun st st' hst => ?_
  rw [← hst.workspace]
  exact .forM (fun d : Document => mirrors_openDocument h d.path) _

theorem mirrors_start (given : List String) :
    Attempt.Mirrors (State.Mirrors R before) (s.start given)
      ((s.on host' link' indicator').start given) := by
  refine .bind (.of_ofExcept (s.commandLine given)) fun argv => ?_
  refine .bind (mirrors_note h _ _) fun _ => ?_
  refine .bind (mirrors_spawn h _) fun _ => ?_
  refine .bind (mirrors_settings h) fun (python, snapshot) => ?_
  refine .bind (mirrors_lift (Interpreter.mirrors_inspect h.host _ _)) fun info => ?_
  refine .bind (mirrors_note h _ _) fun _ => ?_
  refine .bind (.of_ofExcept (Interpreter.options s.config python info)) fun options => ?_
  refine .bind (mirrors_send h _) fun answer => ?_
  refine .bind (mirrors_note h _ _) fun _ => ?_
  refine .bind (mirrors_send h _) fun _ => ?_
  refine .bind (.of_ofExcept _) fun nested => ?_
  refine .bind (mirrors_send h _) fun _ => ?_
  refine .bind (.of_modify fun _ _ ht => { ht with started := rfl }) fun _ => ?_
  exact .bind (mirrors_openAll h) fun _ => .of_pure _

/-- **Asking the server to shut down** is mirrored, with the same faults put aside. -/
theorem mirrors_shutDown :
    Attempt.Mirrors (State.Mirrors R before) s.shutDown (s.on host' link' indicator').shutDown := by
  have hfarewell : Attempt.Mirrors (State.Mirrors R before) s.farewell
      (s.on host' link' indicator').farewell :=
    .bind (mirrors_send h _) fun _ => .bind (mirrors_send h _) fun _ => .of_pure _
  refine .of_outcome fun st st' hst => ?_
  unfold shutDown
  rcases hfarewell.outcome hst with ⟨_, t, t', hok, hok', ht⟩ | ⟨e, t, t', herror, herror', ht⟩
  · rw [hok, hok']
    exact .inl ⟨(), t, t', rfl, rfl, ht⟩
  · rw [herror, herror']
    dsimp only
    split
    · exact (mirrors_note h _ _).outcome ht
    · exact .inr ⟨e, t, t', rfl, rfl, ht⟩

theorem mirrors_stop :
    Attempt.Mirrors (State.Mirrors R before) s.stop (s.on host' link' indicator').stop := by
  have hhalt : Attempt.Mirrors (State.Mirrors R before) s.halt
      (s.on host' link' indicator').halt :=
    .bind (mirrors_send h _) fun _ => .of_modify fun _ _ ht =>
      { ht with started := rfl, opened := rfl, cache := rfl }
  refine .of_outcome fun st st' hst => ?_
  rw [stop_eq, stop_eq, ← hst.started]
  split
  · exact (Attempt.Mirrors.bind (mirrors_shutDown h) fun _ => hhalt).outcome hst
  · exact hhalt.outcome hst

/-! ## Calls -/

theorem mirrors_handle (event : Progress) :
    Attempt.Mirrors (State.Mirrors R before)
      (do relaying (Relay.handle s.relay (← get).workspace event))
      (do relaying (Relay.handle (s.on host' link' indicator').relay (← get).workspace event)) := by
  refine .get_bind fun st st' hst => ?_
  rw [← hst.workspace]
  exact mirrors_relaying (Relay.mirrors_handle (r := s.relay) h.host.note h.indicator _ event)

theorem mirrors_onNotification (method : String) (payload : Value) :
    Attempt.Mirrors (State.Mirrors R before) (s.onNotification method payload)
      ((s.on host' link' indicator').onNotification method payload) := by
  unfold onNotification
  split
  · exact mirrors_handle h _
  · exact .of_pure _

theorem mirrors_onProgress (token : Value) (value : WorkDone) :
    Attempt.Mirrors (State.Mirrors R before) (s.onProgress token value)
      ((s.on host' link' indicator').onProgress token value) := by
  unfold onProgress
  split
  · exact mirrors_handle h _
  · exact mirrors_note h _ _

/-- **Every call** is mirrored. -/
theorem mirrors_perform (call : Call) :
    Attempt.Mirrors (State.Mirrors R before) (s.perform call)
      ((s.on host' link' indicator').perform call) := by
  cases call with
  | start given => exact .bind (mirrors_start h given) fun _ => .of_pure _
  | stop => exact .bind (mirrors_stop h) fun _ => .of_pure _
  | openDocument path => exact .bind (mirrors_openDocument h path) fun _ => .of_pure _
  | closeDocument path => exact .bind (mirrors_closeDocument h path) fun _ => .of_pure _
  | openInWorkspace path => exact .bind (mirrors_openInWorkspace h path) fun _ => .of_pure _
  | closeInWorkspace path => exact .bind (mirrors_closeInWorkspace h path) fun _ => .of_pure _
  | settings => exact .bind (mirrors_settings h) fun _ => .of_pure _
  | configuration sections =>
    exact .bind (mirrors_answerConfiguration h sections) fun _ => .of_pure _
  | notification method payload =>
    exact .bind (mirrors_onNotification h method payload) fun _ => .of_pure _
  | progress token value => exact .bind (mirrors_onProgress h token value) fun _ => .of_pure _
  | progressToken token => exact .bind (mirrors_note h _ _) fun _ => .of_pure _
  | logMessage type message => exact .bind (mirrors_note h _ _) fun _ => .of_pure _
  | diagnostics uri diagnostics =>
    -- what is kept of them is read by no call
    refine .bind (.bind (.of_modify fun _ _ ht => { ht with }) fun _ => ?_) fun _ => .of_pure _
    exact mirrors_note h _ _
  | exit status =>
    refine .bind (.bind (mirrors_note h _ _) fun _ => ?_) fun _ => .of_pure _
    exact .of_modify fun _ _ ht => { ht with }

end Session

end LspHost
