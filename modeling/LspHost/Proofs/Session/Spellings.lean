import LspHost.Proofs.Path.Uri
import LspHost.Proofs.Session.Contents

/-!
# Spellings of documents

A session knows an open document by the URI of its path taken from the root. That URI belongs to one path
only, and a path has many spellings: with slashes repeated, with `.` between them, from the root or from the
session's. So two spellings are one document exactly if they lead to one path, whatever else is in them
(`Session.spellings_of_path`).
-/

namespace LspHost.Session

variable {σ : Type} {s : Session σ} {path : Path} {st : State σ}

/-- A document has a text, and the message that it is open gets through with it. -/
def Opens (s : Session σ) (file : Path) (scene : Scene σ) (text : String) (after : Scene σ) : Prop :=
  ∃ (unsent : Scene σ) (info : Option ServerInfo), Content s file scene (some text) unsent ∧
    s.link (.opened file.uri text) unsent = .ok info after

/-- A session that has told the server of a document that it is closed. -/
def State.retracting (st : State σ) (scene : Scene σ) (uri : String) : State σ :=
  { st.afterSending scene (.closed uri) true with opened := st.opened.filter (· != uri) }

/-! ## Open documents -/

section Open

variable (hopen : st.opened.contains (s.root.join path).uri = true)

include hopen

/-- **An open document** is not opened again. -/
theorem openDocument_of_open : s.openDocument path st = .ok () st := by
  rcases s.openDocument_cases path st with ⟨-, hrun⟩ | ⟨hclosed, -⟩
  · exact hrun
  · exact absurd hopen (Bool.eq_false_iff.mp hclosed)

/-- **An open document** is closed if the message gets through. -/
theorem closeDocument_of_open {info : Option ServerInfo} {scene : Scene σ}
    (hlink : s.link (.closed (s.root.join path).uri) st.scene = .ok info scene) :
    s.closeDocument path st = .ok () (st.retracting scene (s.root.join path).uri) := by
  rcases s.closeDocument_cases path st with ⟨hclosed, -⟩ |
    ⟨-, ⟨e, scene', hlost, -⟩ | ⟨info', scene', hsent, hrun⟩⟩
  · exact absurd hopen (Bool.eq_false_iff.mp hclosed)
  · cases hlost.symm.trans hlink
  · cases hsent.symm.trans hlink
    exact hrun

end Open

/-! ## Closed documents -/

section Closed

variable (hclosed : st.opened.contains (s.root.join path).uri = false)

include hclosed

/-- **A document that can be opened** is. -/
theorem openDocument_of_opens {text : String} {after : Scene σ}
    (h : Opens s (s.root.join path) st.scene text after) :
    s.openDocument path st = .ok () (st.announcing after (s.root.join path).uri text) := by
  obtain ⟨unsent, info, hcontent, hlink⟩ := h
  exact openDocument_of_content hclosed hcontent hlink

/-- **A closed document** is not closed again. -/
theorem closeDocument_of_closed : s.closeDocument path st = .ok () st := by
  rcases s.closeDocument_cases path st with ⟨-, hrun⟩ | ⟨hopen, -⟩
  · exact hrun
  · exact absurd hopen (Bool.eq_false_iff.mp hclosed)

end Closed

/-! ## Two spellings -/

/-- **The only open document** is the one of its path. -/
theorem contains_singleton_uri (file other : Path) :
    [file.uri].contains other.uri = decide (file = other) := by
  rw [List.contains_eq_mem, decide_eq_decide, List.mem_singleton]
  exact ⟨fun h => (Path.uri_injective h).symm, fun h => h ▸ rfl⟩

/-- **Something more** was sent. -/
theorem sent_ne_append (sent : List Sending) (x : Sending) : sent ≠ sent ++ [x] := by
  simp

/-- **Two spellings of documents** in a session without open ones. Once the first is open, opening the
second sends nothing exactly if they lead to one path, and tells the server about it exactly if not; closing
the second tells the server exactly if they lead to one path, and sends nothing exactly if not. -/
theorem spellings_of_path {p q text text' : String} {scene scene' scene'' : Scene σ}
    {info : Option ServerInfo} (hroot : s.root.isAbsolute = true) (hnone : st.opened = [])
    (hfirst : Opens s (s.root.joinText p) st.scene text scene)
    (hsecond : Opens s (s.root.joinText q) scene text' scene')
    (hclosing : s.link (.closed (s.root.joinText q).uri) scene = .ok info scene'') :
    (s.root.joinText p).isAbsolute = true ∧ (s.root.joinText q).isAbsolute = true ∧
    ((s.root.joinText p).uri = (s.root.joinText q).uri ↔ s.root.joinText p = s.root.joinText q) ∧
    ∃ t u v, s.openDocument (.ofText p) st = .ok () t ∧
      t.sent = st.sent ++ [{ message := .opened (s.root.joinText p).uri text, delivered := true }] ∧
      s.openDocument (.ofText q) t = .ok () u ∧
      (u.sent = t.sent ↔ s.root.joinText p = s.root.joinText q) ∧
      (u.sent = t.sent ++ [{ message := .opened (s.root.joinText q).uri text', delivered := true }] ↔
        s.root.joinText p ≠ s.root.joinText q) ∧
      s.closeDocument (.ofText q) t = .ok () v ∧
      (v.sent = t.sent ++ [{ message := .closed (s.root.joinText q).uri, delivered := true }] ↔
        s.root.joinText p = s.root.joinText q) ∧
      (v.sent = t.sent ↔ s.root.joinText p ≠ s.root.joinText q) := by
  refine ⟨Path.isAbsolute_join hroot _, Path.isAbsolute_join hroot _, Path.uri_injective.eq_iff, ?_⟩
  have hclosed : st.opened.contains (s.root.joinText p).uri = false := by
    rw [hnone]
    rfl
  let t := st.announcing scene (s.root.joinText p).uri text
  have hopened : t.opened = [(s.root.joinText p).uri] := by
    show st.opened ++ [(s.root.joinText p).uri] = _
    rw [hnone, List.nil_append]
  have hcontains : t.opened.contains (s.root.joinText q).uri =
      decide (s.root.joinText p = s.root.joinText q) := by
    rw [hopened, contains_singleton_uri]
  by_cases hsame : s.root.joinText p = s.root.joinText q
  · have hopen : t.opened.contains (s.root.joinText q).uri = true := by
      rw [hcontains, decide_eq_true hsame]
    have hclose := closeDocument_of_open hopen hclosing
    exact ⟨t, t, _, openDocument_of_opens hclosed hfirst, rfl, openDocument_of_open hopen,
      iff_of_true rfl hsame, iff_of_false (sent_ne_append _ _) (not_not_intro hsame), hclose,
      iff_of_true rfl hsame, iff_of_false (sent_ne_append _ _).symm (not_not_intro hsame)⟩
  · have hother : t.opened.contains (s.root.joinText q).uri = false := by
      rw [hcontains, decide_eq_false hsame]
    exact ⟨t, _, t, openDocument_of_opens hclosed hfirst, rfl, openDocument_of_opens hother hsecond,
      iff_of_false (sent_ne_append _ _).symm hsame, iff_of_true rfl hsame, closeDocument_of_closed hother,
      iff_of_false (sent_ne_append _ _) hsame, iff_of_true rfl hsame⟩

/-! ## A name with a blank -/

/-- A state on a machine with the files `/w/a b.py` and `/w/a%20b.py`, with nothing opened. -/
def withBlanks : State Machine where
  scene :=
    { world :=
        { files := { nodes := [(["w"], .directory), (["w", "a b.py"], .file ⟨#[0x78]⟩ false),
            (["w", "a%20b.py"], .file ⟨#[0x79]⟩ false)] }
          directory := ["w"]
          environment := [] } }
  workspace := { root := .ofText "/w" }

theorem opens_amongFiles {file : Path} {scene : Scene Machine} (bytes : ByteArray) (text : String)
    (hread : scene.world.read file = .ok bytes) (htext : Text.ofBytes? bytes = some text) :
    Opens amongFiles file scene (Text.withLineFeeds text) scene := by
  have hhost : amongFiles.host.read file scene = .ok bytes scene := by
    show Act.tryOfWorld (·.read file) scene = _
    simp only [Act.tryOfWorld, hread]
  exact ⟨scene, none, .encoded hhost htext, rfl⟩

/-- Spellings of the first file are one document; its name as it is encoded is that of the other one. -/
theorem spellings_of_path_blank :
    (∃ t u v, amongFiles.openDocument (.ofText "./a b.py") withBlanks = .ok () t ∧
      amongFiles.openDocument (.ofText "/w//a b.py") t = .ok () u ∧ u.sent = t.sent ∧
      amongFiles.closeDocument (.ofText "/w//a b.py") t = .ok () v ∧
      v.sent = t.sent ++ [{ message := .closed "file:///w/a%20b.py", delivered := true }]) ∧
    ∃ t u v, amongFiles.openDocument (.ofText "./a b.py") withBlanks = .ok () t ∧
      amongFiles.openDocument (.ofText "a%20b.py") t = .ok () u ∧
      u.sent = t.sent ++ [{ message := .opened "file:///w/a%2520b.py" "y", delivered := true }] ∧
      amongFiles.closeDocument (.ofText "a%20b.py") t = .ok () v ∧ v.sent = t.sent := by
  have hroot : amongFiles.root.isAbsolute = true := by decide +kernel
  have hfile : Opens amongFiles (amongFiles.root.joinText "./a b.py") withBlanks.scene "x" withBlanks.scene :=
    opens_amongFiles ⟨#[0x78]⟩ "x" (by decide +kernel) (by decide +kernel)
  have hlink (message : Message) : amongFiles.link message withBlanks.scene = .ok none withBlanks.scene := rfl
  have hsame : amongFiles.root.joinText "./a b.py" = amongFiles.root.joinText "/w//a b.py" := by
    decide +kernel
  have hother : amongFiles.root.joinText "./a b.py" ≠ amongFiles.root.joinText "a%20b.py" := by
    decide +kernel
  constructor
  · have huri : (amongFiles.root.joinText "/w//a b.py").uri = "file:///w/a%20b.py" := by decide +kernel
    obtain ⟨-, -, -, t, u, v, hopen, -, hagain, hsilent, -, hclose, htold, -⟩ :=
      spellings_of_path hroot rfl hfile (hsame ▸ hfile) (hlink _)
    rw [huri] at htold
    exact ⟨t, u, v, hopen, hagain, hsilent.mpr hsame, hclose, htold.mpr hsame⟩
  · have huri : (amongFiles.root.joinText "a%20b.py").uri = "file:///w/a%2520b.py" := by decide +kernel
    have hencoded : Opens amongFiles (amongFiles.root.joinText "a%20b.py") withBlanks.scene "y"
        withBlanks.scene :=
      opens_amongFiles ⟨#[0x79]⟩ "y" (by decide +kernel) (by decide +kernel)
    obtain ⟨-, -, -, t, u, v, hopen, -, hagain, -, htold, hclose, -, hsilent⟩ :=
      spellings_of_path hroot rfl hfile hencoded (hlink _)
    rw [huri] at htold
    exact ⟨t, u, v, hopen, hagain, htold.mpr hother, hclose, hsilent.mpr hother⟩

end LspHost.Session
