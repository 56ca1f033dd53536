import LspHost.Value

/-!
# Progress

The server tells about long running work in three ways: by notifications of its own under two
prefixes, and by standard progress values, which arrive typed or raw. All of them are one of three
events.
-/

namespace LspHost

/-- Something that happens to a long running piece of work. -/
inductive Progress where
  /-- it begins -/
  | begin
  /-- it goes on, with a message if there is one -/
  | report (message : Option String)
  /-- it is over -/
  | done
  deriving DecidableEq, Repr

/-- A standard progress value. -/
inductive WorkDone where
  /-- a value that was not recognised when it was received -/
  | raw (value : Value)
  /-- a typed beginning -/
  | begin
  /-- a typed report with its message, if any -/
  | report (message : Option String)
  /-- a typed end -/
  | done

namespace Progress

/-- The methods of the server's own notifications that begin, report and end work. -/
def methods : List (String × String × String) :=
  [("python/beginProgress", "python/reportProgress", "python/endProgress"),
    ("pyright/beginProgress", "pyright/reportProgress", "pyright/endProgress")]

/-- A message, unless it is empty. -/
def nonEmpty (message : String) : Option String :=
  if message.isEmpty then none else some message

/-- The message that a payload carries: a text, or a text at the front of a list. -/
def firstMessage : Value → Option String
  | .string message => nonEmpty message
  | .list (.string message :: _) => nonEmpty message
  | _ => none

/-- The event that a notification of the server stands for. -/
def ofNotification (method : String) (payload : Value) : Option Progress :=
  if methods.any (·.1 == method) then some .begin
  else if methods.any (·.2.1 == method) then some (.report (firstMessage payload))
  else if methods.any (·.2.2 == method) then some .done
  else none

/-- Whether a method is one of the server's own progress notifications. -/
def isMethod (method : String) : Bool :=
  methods.any fun (first, second, third) => [first, second, third].contains method

/-- The event that a raw progress value stands for. -/
def ofRaw : Value → Option Progress
  | .table fields =>
    match (Table.find? "kind" fields).bind Value.string? with
    | some "begin" => some .begin
    | some "report" =>
      some (.report (firstMessage (.list [(Table.find? "message" fields).getD .null])))
    | some "end" => some .done
    | _ => none
  | _ => none

/-- The event that a standard progress value stands for. -/
def ofWorkDone : WorkDone → Option Progress
  | .raw value => ofRaw value
  | .begin => some .begin
  | .report message => some (.report (message.bind nonEmpty))
  | .done => some .done

end Progress

end LspHost
