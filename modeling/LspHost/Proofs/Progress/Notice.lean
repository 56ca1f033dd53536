import LspHost.Progress

/-!
# Notices of progress

What the server says about its work arrives in four forms: under a method of its own with either of
two prefixes, and as a standard value, typed or raw. `Progress.Notice.Tells` says form by form which
notices tell an event, with no regard to how they are read. Reading a notice finds the event that it
tells, and none if it tells none (`Progress.Notice.tells_iff`), so that notices of the same event are
read alike.
-/

namespace LspHost.Progress

/-- Something that the server says about its work. -/
inductive Notice where
  /-- a notification of its own -/
  | own (method : String) (payload : Value)
  /-- a standard progress value -/
  | standard (token : Value) (value : WorkDone)

namespace Notice

/-- The event that a notice is read as, if it is one. -/
def event? : Notice → Option Progress
  | .own method payload => ofNotification method payload
  | .standard _ value => ofWorkDone value

/-! ## What notices tell -/

/-- A message is the one text that has a property, unless there is none or it is empty. -/
def IsMessage (isText : String → Prop) (message : Option String) : Prop :=
  ∀ text, message = some text ↔ text ≠ "" ∧ isText text

/-- A payload has a text: it is one, or a list that starts with it. -/
def HasText (payload : Value) (text : String) : Prop :=
  payload = .string text ∨ ∃ rest, payload = .list (.string text :: rest)

/-- A notice tells an event. -/
inductive Tells : Notice → Progress → Prop where
  /-- a beginning under a method of the server's own, whatever comes with it -/
  | ownBegin {method : String} (payload : Value)
      (hmethod : method = "python/beginProgress" ∨ method = "pyright/beginProgress") :
      Tells (.own method payload) .begin
  /-- a report under a method of the server's own, with the text of its payload -/
  | ownReport {method : String} {payload : Value} {message : Option String}
      (hmethod : method = "python/reportProgress" ∨ method = "pyright/reportProgress")
      (hmessage : IsMessage (HasText payload) message) :
      Tells (.own method payload) (.report message)
  /-- an end under a method of the server's own, whatever comes with it -/
  | ownDone {method : String} (payload : Value)
      (hmethod : method = "python/endProgress" ∨ method = "pyright/endProgress") :
      Tells (.own method payload) .done
  /-- a typed beginning -/
  | typedBegin (token : Value) : Tells (.standard token .begin) .begin
  /-- a typed report, with the message that it has -/
  | typedReport (token : Value) {given message : Option String}
      (hmessage : IsMessage (given = some ·) message) :
      Tells (.standard token (.report given)) (.report message)
  /-- a typed end -/
  | typedDone (token : Value) : Tells (.standard token .done) .done
  /-- a raw beginning -/
  | rawBegin (token : Value) {fields : Table}
      (hkind : Table.find? "kind" fields = some (.string "begin")) :
      Tells (.standard token (.raw (.table fields))) .begin
  /-- a raw report, with the text in its message field -/
  | rawReport (token : Value) {fields : Table} {message : Option String}
      (hkind : Table.find? "kind" fields = some (.string "report"))
      (hmessage : IsMessage (fun text => Table.find? "message" fields = some (.string text)) message) :
      Tells (.standard token (.raw (.table fields))) (.report message)
  /-- a raw end -/
  | rawDone (token : Value) {fields : Table}
      (hkind : Table.find? "kind" fields = some (.string "end")) :
      Tells (.standard token (.raw (.table fields))) .done

/-! ## The message of a report -/

/-- There is one message at most. -/
theorem IsMessage.unique {isText : String → Prop} {m m' : Option String}
    (h : IsMessage isText m) (h' : IsMessage isText m') : m = m' :=
  Option.ext fun text => (h text).trans (h' text).symm

theorem nonEmpty_eq_some_iff {given text : String} :
    nonEmpty given = some text ↔ text ≠ "" ∧ given = text := by
  unfold nonEmpty
  split
  · next hempty =>
    obtain rfl : given = "" := by simpa using hempty
    constructor
    · exact nofun
    · rintro ⟨hne, rfl⟩
      exact absurd rfl hne
  · next hgiven =>
    rw [Option.some.injEq]
    constructor
    · rintro rfl
      exact ⟨by simpa using hgiven, rfl⟩
    · exact And.right

/-- **The message of a payload** is its text. -/
theorem isMessage_firstMessage (payload : Value) :
    IsMessage (HasText payload) (firstMessage payload) := by
  intro text
  unfold firstMessage HasText
  split
  · simp [nonEmpty_eq_some_iff]
  · simp [nonEmpty_eq_some_iff]
  · next hstring hlist =>
    constructor
    · exact nofun
    · rintro ⟨-, htext | ⟨rest, hrest⟩⟩
      · exact absurd htext (hstring text)
      · exact absurd hrest (hlist text rest)

/-- **The message of a typed report** is the one that it has. -/
theorem isMessage_given (given : Option String) :
    IsMessage (given = some ·) (given.bind nonEmpty) := by
  intro text
  cases given with
  | none => simp
  | some given => simp [nonEmpty_eq_some_iff]

/-- **The message of a raw report** is the text in its message field: what stands there is looked at
as if it were the first item of a list. -/
theorem isMessage_field (fields : Table) :
    IsMessage (fun text => Table.find? "message" fields = some (.string text))
      (firstMessage (.list [(Table.find? "message" fields).getD .null])) := by
  intro text
  rw [isMessage_firstMessage _ text]
  cases Table.find? "message" fields with
  | none => simp [HasText]
  | some value => simp [HasText]

/-! ## Reading -/

/-- A method is among those of one kind if it is the one of either prefix. -/
theorem any_methods_iff {kind : String × String × String → String} {method : String} :
    methods.any (kind · == method) = true ↔
      method = kind ("python/beginProgress", "python/reportProgress", "python/endProgress") ∨
      method = kind ("pyright/beginProgress", "pyright/reportProgress", "pyright/endProgress") := by
  simp only [methods, List.any_cons, List.any_nil, Bool.or_false, Bool.or_eq_true,
    beq_iff_eq, eq_comm (b := method)]

/-- A notice is read as every event that it tells. -/
theorem Tells.event? {notice : Notice} {event : Progress} (h : notice.Tells event) :
    notice.event? = some event := by
  cases h with
  | ownBegin payload hmethod => rcases hmethod with rfl | rfl <;> rfl
  | @ownReport method payload message hmethod hmessage =>
    rw [hmessage.unique (isMessage_firstMessage payload)]
    rcases hmethod with rfl | rfl <;> rfl
  | ownDone payload hmethod => rcases hmethod with rfl | rfl <;> rfl
  | typedBegin token => rfl
  | @typedReport token given message hmessage =>
    rw [hmessage.unique (isMessage_given given)]
    rfl
  | typedDone token => rfl
  | rawBegin token hkind =>
    simp [Notice.event?, ofWorkDone, ofRaw, hkind, Value.string?]
  | @rawReport token fields message hkind hmessage =>
    rw [hmessage.unique (isMessage_field fields)]
    simp [Notice.event?, ofWorkDone, ofRaw, hkind, Value.string?]
  | rawDone token hkind =>
    simp [Notice.event?, ofWorkDone, ofRaw, hkind, Value.string?]

theorem tells_of_ofNotification {method : String} {payload : Value} {event : Progress}
    (h : ofNotification method payload = some event) :
    Tells (.own method payload) event := by
  unfold ofNotification at h
  split at h
  · next hmethod =>
    obtain rfl := Option.some.inj h
    exact .ownBegin payload (any_methods_iff.mp hmethod)
  · split at h
    · next hmethod =>
      obtain rfl := Option.some.inj h
      exact .ownReport (any_methods_iff.mp hmethod) (isMessage_firstMessage payload)
    · split at h
      · next hmethod =>
        obtain rfl := Option.some.inj h
        exact .ownDone payload (any_methods_iff.mp hmethod)
      · cases h

theorem tells_of_ofRaw {token value : Value} {event : Progress}
    (h : ofRaw value = some event) : Tells (.standard token (.raw value)) event := by
  unfold ofRaw at h
  split at h
  · next fields =>
    have hkind : ∀ kind, (Table.find? "kind" fields).bind Value.string? = some kind →
        Table.find? "kind" fields = some (.string kind) := by
      intro kind hfound
      obtain ⟨found, hfound, htext⟩ := Option.bind_eq_some_iff.mp hfound
      cases found <;> cases htext
      exact hfound
    split at h
    · next hbegin =>
      obtain rfl := Option.some.inj h
      exact .rawBegin token (hkind _ hbegin)
    · next hreport =>
      obtain rfl := Option.some.inj h
      exact .rawReport token (hkind _ hreport) (isMessage_field fields)
    · next hdone =>
      obtain rfl := Option.some.inj h
      exact .rawDone token (hkind _ hdone)
    · cases h
  · cases h

/-- **A notice is read as the event that it tells**, and as none if it tells none. -/
theorem tells_iff {notice : Notice} {event : Progress} :
    notice.Tells event ↔ notice.event? = some event := by
  refine ⟨Tells.event?, ?_⟩
  intro h
  cases notice with
  | own method payload => exact tells_of_ofNotification h
  | standard token value =>
    cases value with
    | raw value => exact tells_of_ofRaw h
    | begin =>
      obtain rfl := Option.some.inj h
      exact .typedBegin token
    | report given =>
      obtain rfl := Option.some.inj h
      exact .typedReport token (isMessage_given given)
    | done =>
      obtain rfl := Option.some.inj h
      exact .typedDone token

end Notice

end LspHost.Progress
