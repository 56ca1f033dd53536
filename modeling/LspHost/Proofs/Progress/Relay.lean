import LspHost.Progress.Relay
import LspHost.Proofs.Outcome
import Mathlib.Data.List.Basic

/-!
# What a relay puts out

An event of progress is put out as a line, and at its two ends as what the indicator is told about
each live document (`Progress.outputs`). `Relay.handle_shows`: whatever is observed of the scene, if a
line and a telling each add to it what they are seen as, then so does an event with all that is put
out for it, in order.
-/

namespace LspHost

variable {σ β : Type}

/-- Something that a relay puts out. -/
inductive Output where
  /-- a line of progress -/
  | line (message : String)
  /-- the indicator is told about a document -/
  | telling (toggle : Toggle) (name : String)
  deriving DecidableEq

/-- What is put out for an event, with or without an indicator that is to be told about the live
documents. -/
def Progress.outputs (indicating : Bool) (live : List Document) : Progress → List Output
  | .begin => .line "analysis started" :: if indicating then live.map (.telling .start ·.name) else []
  | .report message => (message.filter (· ≠ "")).toList.map .line
  | .done => .line "analysis finished" :: if indicating then live.map (.telling .stop ·.name) else []

namespace Relay

/-- A line, and what the indicator is told, each add to what is observed of a scene what they are seen
as, if anything; the indicator can always be told. -/
structure Shows (indicator : Option (Indicator σ)) (observed : Scene σ → List β)
    (seen : Output → Option β) : Prop where
  /-- noting a line -/
  line : ∀ message scene, observed ((Act.note .progress .info message).after scene) =
    observed scene ++ (seen (.line message)).toList
  /-- telling the indicator -/
  telling : ∀ show_ ∈ indicator, ∀ toggle name p, ∃ q, show_ toggle name p = .ok () q ∧
    observed q.scene = observed p.scene ++ (seen (.telling toggle name)).toList

variable {r : Setup σ} {observed : Scene σ → List β} {seen : Output → Option β}

/-- Whether the indicator is told anything. -/
def Setup.indicating (r : Setup σ) : Bool := r.enabled && r.indicator.isSome

/-- **Telling the indicator** about the live documents is seen document by document, if it is told
anything. -/
theorem showAll_shows (h : Shows r.indicator observed seen) (toggle : Toggle) (w : Workspace)
    (p : State σ) :
    ∃ q, showAll r toggle w p = .ok () q ∧ observed q.scene = observed p.scene ++
      (if r.indicating then w.liveDocuments.map (.telling toggle ·.name) else []).filterMap seen := by
  obtain ⟨indicator, enabled⟩ := r
  have hsilent : observed p.scene = observed p.scene ++ ([] : List Output).filterMap seen :=
    (List.append_nil _).symm
  cases enabled with
  | false => exact ⟨p, rfl, hsilent⟩
  | true =>
    cases indicator with
    | none => exact ⟨p, rfl, hsilent⟩
    | some show_ =>
      obtain ⟨q, hloop, hq⟩ := Attempt.forM_adds (fun q : State σ => observed q.scene)
        (fun (d : Document) p => h.telling show_ rfl toggle d.name p) w.liveDocuments p
      have htold : (Setup.mk (some show_) true).indicating = true := rfl
      refine ⟨q, hloop, ?_⟩
      rw [hq, if_pos htold, List.filterMap_map, List.filterMap_eq_flatMap_toList]
      rfl

/-- **Relaying an event** is seen as what is put out for it. -/
theorem handle_shows (h : Shows r.indicator observed seen) (w : Workspace) (event : Progress)
    (p : State σ) :
    ∃ q, handle r w event p = .ok () q ∧ observed q.scene = observed p.scene ++
      (event.outputs r.indicating w.liveDocuments).filterMap seen := by
  -- a line is noted first, and the indicator told then
  have hline : ∀ message, ∃ q, lift (Act.note .progress .info message) p = .ok () q ∧
      observed q.scene = observed p.scene ++ (seen (.line message)).toList := by
    intro message
    exact ⟨_, rfl, h.line message p.scene⟩
  have hends : ∀ message toggle, ∃ q,
      (do lift (Act.note .progress .info message); showAll r toggle w) p = .ok () q ∧
      observed q.scene = observed p.scene ++ (Output.line message ::
        if r.indicating then w.liveDocuments.map (.telling toggle ·.name) else []).filterMap seen := by
    intro message toggle
    obtain ⟨u, hnote, hu⟩ := hline message
    obtain ⟨q, hshow, hq⟩ := showAll_shows h toggle w u
    refine ⟨q, (Attempt.bind_of_ok hnote _).trans hshow, ?_⟩
    rw [hq, hu, List.append_assoc, List.filterMap_cons]
    cases seen (.line message) <;> rfl
  cases event with
  | begin => exact hends "analysis started" .start
  | report message =>
    cases message with
    | none => exact ⟨p, rfl, (List.append_nil _).symm⟩
    | some text =>
      by_cases hempty : text = ""
      · subst hempty
        exact ⟨p, rfl, (List.append_nil _).symm⟩
      · obtain ⟨q, hnote, hq⟩ := hline text
        refine ⟨q, ?_, ?_⟩
        · simpa [handle, hempty] using hnote
        · rw [hq]
          cases hseen : seen (.line text) <;> simp [Progress.outputs, Option.filter, hempty, hseen]
  | done => exact hends "analysis finished" .stop

end Relay

end LspHost
