import LspHost.Machine.Shell.Script

/-!
# Shell scripts: redirections

Streams are sent elsewhere before a command is run, from the left to the right, and put back behind
it. A redirection that is not possible keeps the command from being run.
-/

namespace LspHost.Machine.Shell

/-- Opens a file for a stream; tells whether that was possible. -/
def openFile (line stream : Nat) (access : Access) (path : Octets) : Run Bool := do
  let s ← get
  let text := textOf path
  let refuse (verb : String) (errno : Errno) : Run Bool := do
    let reason := match errno, access with
      | .missing, .read | .notDirectory, .read => "No such file"
      | .missing, _ | .notDirectory, _ => "Directory nonexistent"
      | errno, _ => errno.explanation
    complain line ("cannot " ++ verb ++ " " ++ text ++ ": " ++ reason)
    return false
  match access with
  | .read =>
    match s.files.stat s.directory text with
    | .error errno => refuse "open" errno
    | .ok node =>
      let content := match node with
        | .file content _ => octetsOfBytes content
        | _ => []
      set (if stream = 0 then { s with input := content } else s.redirect stream none)
      return true
  | access =>
    let isThere := match s.files.walk true s.directory text with
      | .ok at_ => !s.files.isDirectoryAt at_ && at_ != voidLocation
      | .error _ => false
    if access == .write && isThere && s.hasOption 'C' then refuse "create" .present
    else
      match s.files.openForWriting s.directory text with
      | .error errno => refuse "create" errno
      | .ok (at_, files) =>
        let isNew := access == .write || access == .overwrite
        let files := if isNew && at_ != voidLocation then files.setContent at_ .empty else files
        if stream = 0 then
          set { s with files, input := octetsOfBytes (files.contentAt at_) }
        else set ({ s with files }.redirect stream (some (.ofLocation at_)))
        return true

/-- Redirects a stream; tells whether that was possible. -/
def redirectOne (e : Expander) (stream : Nat) : Target → Run Bool
  | .file access name => do openFile e.line stream access (← e.one (← Expander.atHome name))
  | .document content => do
    let input ← e.one content
    if stream = 0 then modify fun s => { s with input }
    return true
  | .stream number => do
    match ← e.one number with
    | ['-'] =>
      modify fun s => if stream = 0 then { s with input := [] } else s.redirect stream none
      return true
    | [digit] =>
      unless digit.isDigit do Shell.fail e.line "Syntax error: Bad fd number"
      let other := digit.toNat - '0'.toNat
      if other = stream || other = 0 then return true
      match (← get).sinks.find? (·.1 == other) with
      | some (_, sink) =>
        modify fun s => s.redirect stream (some sink)
        return true
      | none =>
        complain e.line (toString other ++ ": Bad file descriptor")
        return false
    | _ => Shell.fail e.line "Syntax error: Bad fd number"

/-- Redirects streams up to the first one with which that is not possible; tells whether there was
none. -/
def redirectAll (e : Expander) : Redirections → Run Bool
  | [] => return true
  | (stream, target) :: rest => do
    if ← redirectOne e stream target then redirectAll e rest else return false

/-- Puts the streams back where redirections changed them. -/
def restoreStreams (redirections : Redirections) (before : State) : Run Unit :=
  modify fun s =>
    { s with
      sinks := before.sinks
      input := if redirections.any (·.1 == 0) then before.input else s.input }

/-- Runs commands with streams redirected, which are put back behind them. -/
def withStreams (redirections : Redirections) (before : State) (body : Run Unit) : Run Unit := do
  try body
  catch stop =>
    restoreStreams redirections before
    throw stop
  restoreStreams redirections before

end LspHost.Machine.Shell
