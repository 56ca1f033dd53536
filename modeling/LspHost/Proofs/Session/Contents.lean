import LspHost.Machine
import LspHost.Proofs.Session.Start

/-!
# What the server is told of a document

A document is opened with the text that its file encodes, and with the empty text if reading the file is
refused. Bytes that encode no text are another matter: they end the opening with a fault, before anything is
sent (`Session.Content`, `Session.openDocument_of_content`). So a start whose messages get through tells
the server about its live documents one after the other, up to the first whose bytes encode no text; that
one ends it, and the documents after it are left out (`Session.contents_of_documents`).
-/

namespace LspHost

namespace Machine

/-- **Reading a file** whose path can be given is refused if it fails. -/
theorem refused_of_read {limit : Option Nat} {path : Path} (hnul : path.hasNul = false)
    {scene t : Scene Machine} {e : Fault} (h : (host limit).read path scene = .error e t) :
    ∃ refusal, e = .refused refusal := by
  have hread : scene.world.read path = .error e := by
    simp only [host, Act.tryOfWorld] at h
    split at h
    · cases h
    · next hread =>
      cases h
      exact hread
  rw [read, hnul, if_neg Bool.false_ne_true] at hread
  unfold answer at hread
  split at hread
  · cases hread
  · cases hread
    exact ⟨_, rfl⟩

end Machine

namespace Session

variable {σ : Type} {s : Session σ}

/-! ## Contents -/

/-- What reading a document gives, and the scene after it; none if its bytes encode no text. -/
inductive Content (s : Session σ) (file : Path) (scene : Scene σ) : Option String → Scene σ → Prop
  /-- the text that the bytes encode, its line ends as line feeds -/
  | encoded {bytes : ByteArray} {text : String} {after : Scene σ}
      (hread : s.host.read file scene = .ok bytes after) (htext : Text.ofBytes? bytes = some text) :
      Content s file scene (some (Text.withLineFeeds text)) after
  /-- the empty text, where reading is refused -/
  | refused {refusal : Refusal} {after : Scene σ}
      (hread : s.host.read file scene = .error (.refused refusal) after) :
      Content s file scene (some "") after
  /-- nothing, where the bytes encode no text -/
  | undecodable {bytes : ByteArray} {after : Scene σ}
      (hread : s.host.read file scene = .ok bytes after) (htext : Text.ofBytes? bytes = none) :
      Content s file scene none after

/-- Whether reading a file gives bytes or is refused. -/
def IsReadable (s : Session σ) (file : Path) (scene : Scene σ) : Prop :=
  ∀ e after, s.host.read file scene = .error e after → ∃ refusal, e = .refused refusal

/-- **A file that is readable** has a content, or its bytes encode no text. -/
theorem exists_content {file : Path} {scene : Scene σ} (h : s.IsReadable file scene) :
    ∃ text? after, Content s file scene text? after := by
  rcases hread : s.host.read file scene with ⟨bytes, after⟩ | ⟨e, after⟩
  · rcases htext : Text.ofBytes? bytes with _ | text
    · exact ⟨none, after, .undecodable hread htext⟩
    · exact ⟨_, after, .encoded hread htext⟩
  · obtain ⟨refusal, rfl⟩ := h e after hread
    exact ⟨_, after, .refused hread⟩

theorem Content.documentText_eq {file : Path} {scene after : Scene σ} {text? : Option String}
    (h : Content s file scene text? after) :
    s.documentText file scene = match text? with
      | some text => .ok text after
      | none => .error .undecodable after := by
  unfold documentText
  cases h with
  | encoded hread htext => simp only [hread, htext]
  | refused hread => simp only [hread]
  | undecodable hread htext => simp only [hread, htext]

/-- A session that has told the server of a document that it is open, with a text. -/
def State.announcing (st : State σ) (scene : Scene σ) (uri text : String) : State σ :=
  { st with
    scene
    sent := st.sent ++ [{ message := .opened uri text, delivered := true }]
    opened := st.opened ++ [uri] }

section Opening

variable {path : Path} {st : State σ} {after : Scene σ}
  (hclosed : st.opened.contains (s.root.join path).uri = false)

include hclosed

/-- **A document that is opened** is sent with its content. -/
theorem openDocument_of_content {text : String} (h : Content s (s.root.join path) st.scene (some text) after)
    {info : Option ServerInfo} {scene : Scene σ}
    (hsend : s.link (.opened (s.root.join path).uri text) after = .ok info scene) :
    s.openDocument path st = .ok () (st.announcing scene (s.root.join path).uri text) := by
  have htext := h.documentText_eq
  rcases s.openDocument_cases path st with ⟨hopen, -⟩ |
    ⟨-, ⟨e, scene', herror, -⟩ | ⟨text', u, hok, ⟨e, scene', hlost, -⟩ | ⟨info', scene', hlink, hrun⟩⟩⟩
  · rw [hclosed] at hopen
    cases hopen
  · cases herror.symm.trans htext
  · cases hok.symm.trans htext
    cases hlost.symm.trans hsend
  · cases hok.symm.trans htext
    cases hlink.symm.trans hsend
    exact hrun

/-- **A document whose bytes encode no text** is not opened: nothing is sent. -/
theorem openDocument_of_undecodable (h : Content s (s.root.join path) st.scene none after) :
    s.openDocument path st = .error .undecodable { st with scene := after } := by
  have htext := h.documentText_eq
  rcases s.openDocument_cases path st with ⟨hopen, -⟩ |
    ⟨-, ⟨e, scene', herror, hrun⟩ | ⟨text', u, hok, -⟩⟩
  · rw [hclosed] at hopen
    cases hopen
  · cases herror.symm.trans htext
    exact hrun
  · cases hok.symm.trans htext

end Opening

/-! ## Documents in turn -/

/-- A message, which got through, that one of some documents is open, with what was read of it. -/
def Presents (s : Session σ) (docs : List Document) (x : Sending) : Prop :=
  ∃ d ∈ docs, ∃ before text after, Content s (s.root.join d.path) before (some text) after ∧
    x = { message := .opened (s.uriOf d) text, delivered := true }

/-- The server was told that documents are open: those that were not open before, each once, in order and
with its content. -/
structure Announced (s : Session σ) (docs : List Document) (st t : State σ) (openings : List Sending) :
    Prop extends Steady st t where
  /-- nothing else was sent -/
  sent : t.sent = st.sent ++ openings
  /-- the messages are about those that were not open -/
  topics : openings.map Sending.topic = (unopened st.opened (docs.map s.uriOf)).map .opened
  /-- they have the contents -/
  presents : ∀ x ∈ openings, Presents s docs x
  /-- all of them are open then -/
  opened : t.opened = st.opened ++ unopened st.opened (docs.map s.uriOf)

theorem announced_nil (st : State σ) : Announced s [] st st [] where
  toSteady := .refl st
  sent := (List.append_nil _).symm
  topics := rfl
  presents := nofun
  opened := (List.append_nil _).symm

/-- **Documents after the first** are told about after it. -/
theorem Announced.cons {d : Document} {docs : List Document} {st t u : State σ}
    {openings more : List Sending} (hfirst : Announced s [d] st t openings)
    (hrest : Announced s docs t u more) : Announced s (d :: docs) st u (openings ++ more) where
  toSteady := .trans st t u hfirst.toSteady hrest.toSteady
  sent := by rw [hrest.sent, hfirst.sent, List.append_assoc]
  topics := by
    rw [List.map_append, hfirst.topics, hrest.topics, hfirst.opened, ← List.map_append, List.map_cons,
      List.map_nil, List.map_cons, ← unopened_cons]
  presents := fun x hx => by
    rcases List.mem_append.mp hx with hx | hx
    · obtain ⟨d', hd', hcontent⟩ := hfirst.presents x hx
      exact ⟨d', List.mem_cons.mpr (.inl (List.mem_singleton.mp hd')), hcontent⟩
    · obtain ⟨d', hd', hcontent⟩ := hrest.presents x hx
      exact ⟨d', List.mem_cons_of_mem d hd', hcontent⟩
  opened := by
    rw [hrest.opened, hfirst.opened, List.append_assoc, List.map_cons, List.map_nil, List.map_cons,
      ← unopened_cons]

/-- A document can be read, and a message about it gets through. -/
structure IsReachable (s : Session σ) (d : Document) : Prop where
  /-- reading it gives bytes or is refused -/
  readable : ∀ scene, s.IsReadable (s.root.join d.path) scene
  /-- the server can be told that it is open -/
  link : ∀ text scene, ∃ info scene', s.link (.opened (s.uriOf d) text) scene = .ok info scene'

/-- **One document** is told about, unless its bytes encode no text. -/
theorem openDocument_of_isReachable {d : Document} (h : s.IsReachable d) (st : State σ) :
    (∃ t openings, s.openDocument d.path st = .ok () t ∧ Announced s [d] st t openings) ∨
      ∃ after, st.opened.contains (s.uriOf d) = false ∧
        Content s (s.root.join d.path) st.scene none after ∧
        s.openDocument d.path st = .error .undecodable { st with scene := after } := by
  by_cases hopen : st.opened.contains (s.uriOf d) = true
  · left
    have hrun : s.openDocument d.path st = .ok () st := by
      rcases s.openDocument_cases d.path st with ⟨-, hrun⟩ | ⟨hclosed, -⟩
      · exact hrun
      · exact absurd hopen (Bool.eq_false_iff.mp hclosed)
    have hnone : unopened st.opened ([d].map s.uriOf) = [] := unopened_cons_of_open [] hopen
    refine ⟨st, [], hrun, .refl st, (List.append_nil _).symm, ?_, nofun, ?_⟩
    · rw [hnone]
      rfl
    · rw [hnone, List.append_nil]
  have hclosed : st.opened.contains (s.uriOf d) = false := Bool.eq_false_iff.mpr hopen
  have hone : unopened st.opened ([d].map s.uriOf) = [s.uriOf d] := unopened_cons_of_closed [] hclosed
  obtain ⟨_ | text, after, hcontent⟩ := exists_content (h.readable st.scene)
  · exact .inr ⟨after, hclosed, hcontent, openDocument_of_undecodable hclosed hcontent⟩
  · obtain ⟨info, scene, hsend⟩ := h.link text after
    refine .inl ⟨_, [_], openDocument_of_content hclosed hcontent hsend, ⟨rfl, rfl⟩, rfl, ?_, ?_, ?_⟩
    · rw [hone]
      rfl
    · intro x hx
      obtain rfl := List.mem_singleton.mp hx
      exact ⟨d, List.mem_singleton_self d, st.scene, text, after, hcontent, rfl⟩
    · rw [hone]
      rfl

/-- **Documents in turn** are told about up to the first whose bytes encode no text. -/
theorem openEach_of_isReachable {docs : List Document} (h : ∀ d ∈ docs, s.IsReachable d) (st : State σ) :
    ∃ reached left t openings, docs = reached ++ left ∧ Announced s reached st t openings ∧
      (left = [] ∧ (docs.forM fun d => s.openDocument d.path : Run σ Unit) st = .ok () t ∨
        ∃ d rest after, left = d :: rest ∧ t.opened.contains (s.uriOf d) = false ∧
          Content s (s.root.join d.path) t.scene none after ∧
          (docs.forM fun d => s.openDocument d.path : Run σ Unit) st =
            .error .undecodable { t with scene := after }) := by
  induction docs generalizing st with
  | nil => exact ⟨[], [], st, [], rfl, announced_nil st, .inl ⟨rfl, rfl⟩⟩
  | cons d rest ih =>
    obtain ⟨hd, hrest⟩ := List.forall_mem_cons.mp h
    rcases openDocument_of_isReachable hd st with ⟨t, openings, hrun, hfirst⟩ | ⟨after, hclosed, hcontent, hrun⟩
    · -- the others are opened from what is open once the first one is
      obtain ⟨reached, left, u, more, hsplit, hannounced, hend⟩ := ih hrest t
      have hforM : ((d :: rest).forM fun d => s.openDocument d.path : Run σ Unit) st =
          (rest.forM fun d => s.openDocument d.path : Run σ Unit) t :=
        Attempt.bind_of_ok hrun _
      refine ⟨d :: reached, left, u, openings ++ more, by rw [hsplit, List.cons_append],
        hfirst.cons hannounced, ?_⟩
      rw [hforM]
      exact hend
    · exact ⟨[], d :: rest, st, [], rfl, announced_nil st,
        .inr ⟨d, rest, after, rfl, hclosed, hcontent, Attempt.bind_of_error hrun _⟩⟩

/-! ## Starts -/

/-- A start has launched the server's program, greeted the server and pushed the settings. -/
def Introduced (s : Session σ) (given : List String) (st : State σ) (answer : Option ServerInfo)
    (v : State σ) : Prop :=
  ∃ nested t u, s.launch given st = .ok () t ∧ s.greet t = .ok (answer, nested) u ∧ s.push nested u = .ok () v

/-- **Once the server is introduced** the session is started, with the documents as they were. -/
theorem Introduced.started {given : List String} {st v : State σ} {answer : Option ServerInfo}
    (h : Introduced s given st answer v) :
    v.started = true ∧ v.workspace = st.workspace ∧ v.opened = st.opened := by
  obtain ⟨nested, t, u, hlaunch, hgreet, hpush⟩ := h
  have ht := (s.untouched_launch given).of_ok hlaunch
  have hu := s.untouched_greet.of_ok hgreet
  rcases s.push_cases nested u with ⟨e, scene, hrun⟩ | ⟨scene, hrun⟩
  · cases hrun.symm.trans hpush
  · cases hrun.symm.trans hpush
    exact ⟨rfl, hu.workspace.trans ht.workspace, hu.opened.trans ht.opened⟩

/-- **Once the server is introduced** the live documents are opened. -/
theorem Introduced.start_eq {given : List String} {st v : State σ} {answer : Option ServerInfo}
    (h : Introduced s given st answer v) :
    s.start given st = (do
      st.workspace.liveDocuments.forM fun d => s.openDocument d.path
      return answer : Run σ (Option ServerInfo)) v := by
  have hworkspace := h.started.2.1
  obtain ⟨nested, t, u, hlaunch, hgreet, hpush⟩ := h
  rw [Session.start_eq, Attempt.bind_of_ok hlaunch, Attempt.bind_of_ok hgreet, ← hworkspace]
  exact Attempt.bind_of_ok hpush _

/-- **What the server is told of documents.** A document that is not open and that can be read is sent once
with its content, and open then, if the message gets through; but if its bytes encode no text, opening it ends
with a fault and nothing is sent. So a start that has introduced the server tells it about the live documents
in turn up to the first whose bytes encode no text: with none it returns, and else it ends with that fault. -/
theorem contents_of_documents (s : Session σ) :
    (∀ path st, st.opened.contains (s.root.join path).uri = false →
      s.IsReadable (s.root.join path) st.scene →
      (∃ text after, Content s (s.root.join path) st.scene (some text) after ∧
        ∀ info scene, s.link (.opened (s.root.join path).uri text) after = .ok info scene →
          s.openDocument path st = .ok () (st.announcing scene (s.root.join path).uri text)) ∨
      ∃ after, Content s (s.root.join path) st.scene none after ∧
        s.openDocument path st = .error .undecodable { st with scene := after }) ∧
    ∀ given st answer v, Introduced s given st answer v →
      (∀ d ∈ st.workspace.liveDocuments, s.IsReachable d) →
      ∃ reached left t openings, st.workspace.liveDocuments = reached ++ left ∧
        Announced s reached v t openings ∧ t.started = true ∧
        (left = [] ∧ s.start given st = .ok answer t ∨
          ∃ d rest after, left = d :: rest ∧ t.opened.contains (s.uriOf d) = false ∧
            Content s (s.root.join d.path) t.scene none after ∧
            s.start given st = .error .undecodable { t with scene := after }) := by
  refine ⟨fun path st hclosed hreadable => ?_, fun given st answer v hintroduced hreachable => ?_⟩
  · obtain ⟨_ | text, after, hcontent⟩ := exists_content hreadable
    · exact .inr ⟨after, hcontent, openDocument_of_undecodable hclosed hcontent⟩
    · exact .inl ⟨text, after, hcontent, fun info scene => openDocument_of_content hclosed hcontent⟩
  · obtain ⟨reached, left, t, openings, hsplit, hannounced, hend⟩ := openEach_of_isReachable hreachable v
    refine ⟨reached, left, t, openings, hsplit, hannounced, hannounced.started.trans hintroduced.started.1, ?_⟩
    rw [hintroduced.start_eq]
    rcases hend with ⟨hnone, hrun⟩ | ⟨d, rest, after, hleft, hclosed, hcontent, hrun⟩
    · exact .inl ⟨hnone, Attempt.bind_of_ok hrun _⟩
    · exact .inr ⟨d, rest, after, hleft, hclosed, hcontent, Attempt.bind_of_error hrun _⟩

/-! ## A file that is no text -/

/-- A machine with the files `/w/b.py`, one byte that encodes no text, and `/w/c.py`. -/
def unlikeFiles : Machine where
  files := { nodes := [(["w"], .directory), (["w", "b.py"], .file ⟨#[0xff]⟩ false),
    (["w", "c.py"], .file ⟨#[0x78, 0x0d, 0x0a]⟩ false)] }
  directory := ["w"]
  environment := [("PATH", "/w")]

/-- A session in `/w` of that machine, all of whose messages get through. -/
def amongFiles : Session Machine := facing (Machine.host none) (losing fun _ => none)

/-- It has a document that has no file, and one for each file. -/
def withDocuments : State Machine where
  scene := { world := unlikeFiles }
  workspace :=
    { root := .ofText "/w"
      made := ["/w/a.py", "/w/b.py", "/w/c.py"].map fun text => { path := .ofText text }
      listing := ["/w/a.py", "/w/b.py", "/w/c.py"].zipIdx.map fun (text, number) =>
        (.ofText text, number) }

theorem isReadable_amongFiles {path : Path} (hnul : path.hasNul = false) (scene : Scene Machine) :
    amongFiles.IsReadable path scene :=
  fun _ _ => Machine.refused_of_read hnul

theorem isReachable_amongFiles : ∀ d ∈ withDocuments.workspace.liveDocuments, amongFiles.IsReachable d := by
  have hnul : ∀ d ∈ withDocuments.workspace.liveDocuments, (amongFiles.root.join d.path).hasNul = false := by
    decide +kernel
  exact fun d hd => ⟨isReadable_amongFiles (hnul d hd), fun _ scene => ⟨none, scene, rfl⟩⟩

theorem exists_introduced_amongFiles :
    ∃ answer v, Introduced amongFiles ["serve"] withDocuments answer v := by
  have hlaunch : (amongFiles.launch ["serve"]).answer withDocuments = .ok () := by decide +kernel
  have hgreet : (amongFiles.greet.answer ((amongFiles.launch ["serve"]).after withDocuments)).isOk = true := by
    decide +kernel
  obtain ⟨⟨answer, nested⟩, u, hgreet⟩ := Attempt.exists_eq_ok hgreet
  exact ⟨answer, _, nested, _, u, Attempt.eq_ok_of_answer hlaunch, hgreet, rfl⟩

theorem start_amongFiles :
    (amongFiles.start ["serve"]).answer withDocuments = .error .undecodable ∧
      ((amongFiles.start ["serve"]).after withDocuments).started = true ∧
      ((amongFiles.start ["serve"]).after withDocuments).opened = ["file:///w/a.py"] := by
  decide +kernel

/-- A file that is a text is opened with it, and a start among such files stops at one that is none. -/
theorem contents_of_documents_unlike :
    (∃ text after scene, Content amongFiles (.ofText "/w/c.py") withDocuments.scene (some text) after ∧
      amongFiles.openDocument (.ofText "c.py") withDocuments =
        .ok () (withDocuments.announcing scene (Path.ofText "/w/c.py").uri text)) ∧
    ∃ reached d rest v t openings after, withDocuments.workspace.liveDocuments = reached ++ d :: rest ∧
      Announced amongFiles reached v t openings ∧ t.started = true ∧
      Content amongFiles (amongFiles.root.join d.path) t.scene none after ∧
      amongFiles.start ["serve"] withDocuments = .error .undecodable { t with scene := after } := by
  constructor
  · have hfile : amongFiles.root.join (.ofText "c.py") = .ofText "/w/c.py" := by decide +kernel
    have hnul : (Path.ofText "/w/c.py").hasNul = false := by decide +kernel
    have hrun : (amongFiles.openDocument (.ofText "c.py")).answer withDocuments = .ok () := by decide +kernel
    rw [← hfile] at hnul ⊢
    rcases (contents_of_documents amongFiles).1 (.ofText "c.py") withDocuments rfl
        (isReadable_amongFiles hnul _) with ⟨text, after, hcontent, hsend⟩ | ⟨after, -, herror⟩
    · exact ⟨text, after, after, hcontent, hsend none after rfl⟩
    · cases (Attempt.answer_of_error herror).symm.trans hrun
  · obtain ⟨answer, v, hintroduced⟩ := exists_introduced_amongFiles
    have hstart := start_amongFiles.1
    obtain ⟨reached, left, t, openings, hsplit, hannounced, hstarted, ⟨-, hrun⟩ |
        ⟨d, rest, after, rfl, -, hcontent, hrun⟩⟩ :=
      (contents_of_documents amongFiles).2 ["serve"] withDocuments answer v hintroduced isReachable_amongFiles
    · cases (Attempt.answer_of_ok hrun).symm.trans hstart
    · exact ⟨reached, d, rest, v, t, openings, after, hsplit, hannounced, hstarted, hcontent, hrun⟩

/-- **A start among such files** ends at the first that is no text: the session is started, the document
without a file is open, and the last one is not, though its file is a text. -/
theorem start_of_undecodable_document :
    (amongFiles.openDocument (.ofText "b.py")).answer withDocuments = .error .undecodable ∧
      (amongFiles.start ["serve"]).answer withDocuments = .error .undecodable ∧
      ((amongFiles.start ["serve"]).after withDocuments).started = true ∧
      ((amongFiles.start ["serve"]).after withDocuments).opened = ["file:///w/a.py"] ∧
      withDocuments.workspace.liveDocuments.map amongFiles.uriOf =
        ["file:///w/a.py", "file:///w/b.py", "file:///w/c.py"] := by
  obtain ⟨hanswer, hstarted, hopened⟩ := start_amongFiles
  exact ⟨by decide +kernel, hanswer, hstarted, hopened, by decide +kernel⟩

end Session

end LspHost
