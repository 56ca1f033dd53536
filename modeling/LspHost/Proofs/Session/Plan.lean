import LspHost.Proofs.Session.Calls

/-!
# Plans of messages

What a session is going to send is a plan: a row of messages, each known by its topic, which is all
that can be said of it beforehand. A computation that answers has sent the whole plan, every message
of it delivered; one that ends with a fault has cut the plan short, and only the last message that
it sent may have been lost (`Session.Carries`). Computations in a row carry out their plans in a row
(`Session.Carries.bind`).
-/

namespace LspHost

/-- What a message is about, whatever else it carries. -/
inductive Topic where
  /-- the server's program is spawned in a directory -/
  | spawn (argv : List String) (directory : String)
  /-- the handshake begins -/
  | handshake
  /-- the handshake ends -/
  | initialized
  /-- the settings are pushed -/
  | settings
  /-- a document is open -/
  | opened (uri : String)
  /-- a document is closed -/
  | closed (uri : String)
  /-- the server shall shut down -/
  | shutdown
  /-- the server shall exit -/
  | exit
  /-- the transport is halted -/
  | halt
  deriving DecidableEq, Repr

/-- The topic of a message. -/
def Message.topic : Message → Topic
  | .spawn argv directory => .spawn argv directory
  | .handshake .. => .handshake
  | .initialized => .initialized
  | .configurationChanged _ => .settings
  | .opened uri _ => .opened uri
  | .closed uri => .closed uri
  | .shutdown => .shutdown
  | .exit => .exit
  | .halt => .halt

/-- The topic of a message that was sent. -/
def Sending.topic (x : Sending) : Topic := x.message.topic

namespace Session

variable {σ α β : Type}

/-! ## Whole plans and plans cut short -/

/-- All messages of a plan were sent in order and got through. -/
structure Whole (plan : List Topic) (sent : List Sending) : Prop where
  /-- the messages are those of the plan -/
  topics : sent.map Sending.topic = plan
  /-- they got through -/
  delivered : ∀ x ∈ sent, x.delivered = true

/-- Messages from the beginning of a plan were sent in order, and all but the last got through. -/
structure CutShort (plan : List Topic) (sent : List Sending) : Prop where
  /-- the messages are the first ones of the plan -/
  topics : sent.map Sending.topic <+: plan
  /-- all but the last got through -/
  delivered : ∀ x ∈ sent.dropLast, x.delivered = true

theorem whole_nil : Whole [] [] := ⟨rfl, by simp⟩

theorem Whole.append {plan more : List Topic} {sent added : List Sending} (h : Whole plan sent)
    (hmore : Whole more added) : Whole (plan ++ more) (sent ++ added) := by
  refine ⟨by rw [List.map_append, h.topics, hmore.topics], fun x hx => ?_⟩
  rcases List.mem_append.mp hx with hx | hx
  · exact h.delivered x hx
  · exact hmore.delivered x hx

/-- A whole plan is a plan cut short at its end. -/
theorem Whole.cutShort {plan : List Topic} {sent : List Sending} (h : Whole plan sent) :
    CutShort plan sent :=
  ⟨h.topics ▸ List.prefix_refl _, fun x hx => h.delivered x (List.dropLast_subset _ hx)⟩

theorem cutShort_nil (plan : List Topic) : CutShort plan [] := ⟨List.nil_prefix, by simp⟩

/-- **A plan that goes on** is cut short where its first part is. -/
theorem CutShort.append_right {plan : List Topic} {sent : List Sending} (h : CutShort plan sent)
    (more : List Topic) : CutShort (plan ++ more) sent :=
  ⟨h.topics.trans (List.prefix_append _ _), h.delivered⟩

/-- **After a whole plan** the next one may be cut short. -/
theorem CutShort.append_left {plan more : List Topic} {sent added : List Sending}
    (h : Whole plan sent) (hmore : CutShort more added) :
    CutShort (plan ++ more) (sent ++ added) := by
  refine ⟨?_, fun x hx => ?_⟩
  · rw [List.map_append, h.topics]
    exact (List.prefix_append_right_inj plan).mpr hmore.topics
  · rcases added.eq_nil_or_concat with rfl | ⟨init, last, rfl⟩
    · rw [List.append_nil] at hx
      exact h.delivered x (List.dropLast_subset _ hx)
    · rw [List.concat_eq_append, ← List.append_assoc, List.dropLast_concat] at hx
      rcases List.mem_append.mp hx with hx | hx
      · exact h.delivered x hx
      · exact hmore.delivered x (by rwa [List.concat_eq_append, List.dropLast_concat])

/-- What was sent is about something in the plan. -/
theorem CutShort.mem {plan : List Topic} {sent : List Sending} (h : CutShort plan sent)
    {x : Sending} (hx : x ∈ sent) : x.topic ∈ plan :=
  h.topics.subset (List.mem_map_of_mem hx)

/-! ## Carrying out a plan -/

/-- A computation sends all of a plan if it answers, and cuts it short if it ends with a fault. -/
structure Carries (plan : List Topic) (act : Run σ α) (st : State σ) : Prop where
  /-- with an answer, all of the plan was sent -/
  of_ok : ∀ a t, act st = .ok a t → ∃ more, t.sent = st.sent ++ more ∧ Whole plan more
  /-- with a fault, the plan was cut short -/
  of_error : ∀ e t, act st = .error e t → ∃ more, t.sent = st.sent ++ more ∧ CutShort plan more

/-- However a computation that carries out a plan ends, it sends messages from the beginning of the
plan. -/
theorem Carries.cutShort {plan : List Topic} {act : Run σ α} {st : State σ}
    (h : Carries plan act st) :
    ∃ more, (act.after st).sent = st.sent ++ more ∧ CutShort plan more := by
  rcases hrun : act st with ⟨a, t⟩ | ⟨e, t⟩
  · obtain ⟨more, hsent, hwhole⟩ := h.of_ok a t hrun
    exact ⟨more, by rw [Attempt.after_of_ok hrun, hsent], hwhole.cutShort⟩
  · obtain ⟨more, hsent, hcut⟩ := h.of_error e t hrun
    exact ⟨more, by rw [Attempt.after_of_error hrun, hsent], hcut⟩

/-- **What sends nothing** carries out the empty plan. -/
theorem carries_nil {act : Run σ α} (h : act.Keeps fun s t => t.sent = s.sent) (st : State σ) :
    Carries [] act st where
  of_ok a t hrun := ⟨[], by rw [h.of_ok hrun, List.append_nil], whole_nil⟩
  of_error e t hrun := ⟨[], by rw [h.of_error hrun, List.append_nil], cutShort_nil []⟩

/-- A computation that answers carries out the plan of what it sent, if all of that got through. -/
theorem carries_of_ok {plan : List Topic} {act : Run σ α} {st t : State σ} {a : α}
    {more : List Sending} (h : act st = .ok a t) (hsent : t.sent = st.sent ++ more)
    (hwhole : Whole plan more) : Carries plan act st where
  of_ok b u hrun := by
    rw [h] at hrun
    cases hrun
    exact ⟨more, hsent, hwhole⟩
  of_error e u hrun := by
    rw [h] at hrun
    cases hrun

/-- A computation that ends with a fault carries out the plans that what it sent cuts short. -/
theorem carries_of_error {plan : List Topic} {act : Run σ α} {st t : State σ} {e : Fault}
    {more : List Sending} (h : act st = .error e t) (hsent : t.sent = st.sent ++ more)
    (hcut : CutShort plan more) : Carries plan act st where
  of_ok b u hrun := by
    rw [h] at hrun
    cases hrun
  of_error f u hrun := by
    rw [h] at hrun
    cases hrun
    exact ⟨more, hsent, hcut⟩

/-- One message is the plan of its topic, delivered or lost. -/
theorem whole_delivered {message : Message} {topic : Topic} (h : message.topic = topic) :
    Whole [topic] [{ message, delivered := true }] :=
  ⟨by rw [← h]; rfl, by simp⟩

theorem cutShort_lost {message : Message} {topic : Topic} (h : message.topic = topic) :
    CutShort [topic] [{ message, delivered := false }] :=
  ⟨h ▸ List.prefix_refl _, by simp⟩

/-- **Sending a message** is the plan of its topic. -/
theorem carries_send (s : Session σ) (message : Message) (st : State σ) :
    Carries [message.topic] (s.send message) st := by
  rcases hlink : s.link message st.scene with ⟨info, scene⟩ | ⟨e, scene⟩
  · exact carries_of_ok (s.send_of_ok hlink) rfl (whole_delivered rfl)
  · exact carries_of_error (s.send_of_error hlink) rfl (cutShort_lost rfl)

/-- **Computations in a row** carry out their plans in a row. -/
theorem Carries.bind {p q : List Topic} {act : Run σ α} {next : α → Run σ β} {st : State σ}
    (h : Carries p act st) (hnext : ∀ a t, act st = .ok a t → Carries q (next a) t) :
    Carries (p ++ q) (act >>= next) st where
  of_ok b u hrun := by
    obtain ⟨a, t, hact, hrest⟩ := Attempt.bind_eq_ok hrun
    obtain ⟨first, hfirst, hwhole⟩ := h.of_ok a t hact
    obtain ⟨second, hsecond, hwhole'⟩ := (hnext a t hact).of_ok b u hrest
    exact ⟨first ++ second, by rw [hsecond, hfirst, List.append_assoc], hwhole.append hwhole'⟩
  of_error e u hrun := by
    rcases Attempt.bind_eq_error hrun with hact | ⟨a, t, hact, hrest⟩
    · obtain ⟨first, hfirst, hcut⟩ := h.of_error e u hact
      exact ⟨first, hfirst, hcut.append_right q⟩
    · obtain ⟨first, hfirst, hwhole⟩ := h.of_ok a t hact
      obtain ⟨second, hsecond, hcut⟩ := (hnext a t hact).of_error e u hrest
      exact ⟨first ++ second, by rw [hsecond, hfirst, List.append_assoc], .append_left hwhole hcut⟩

/-- What is quiet adds nothing to the plan of what follows. -/
theorem Carries.after_quiet {plan : List Topic} {act : Run σ α} {next : α → Run σ β} {st : State σ}
    (h : act.Keeps Quiet) (hnext : ∀ a t, Carries plan (next a) t) :
    Carries plan (act >>= next) st :=
  .bind (p := []) (carries_nil (h.mono fun _ _ => Quiet.sent) st) fun a t _ => hnext a t

/-- A message comes first in the plan of it and what follows. -/
theorem Carries.after_send {plan : List Topic} {topic : Topic} (s : Session σ) {message : Message}
    {next : Option ServerInfo → Run σ β} {st : State σ} (htopic : message.topic = topic)
    (hnext : ∀ a t, Carries plan (next a) t) :
    Carries (topic :: plan) (s.send message >>= next) st :=
  htopic ▸ .bind (p := [message.topic]) (s.carries_send message st) fun a t _ => hnext a t

end Session

end LspHost
