import LspHost.Machine.Shell.Program
import LspHost.Machine.Shell.Redirection

/-!
# Shell scripts: running

Runs commands on the files of a machine. A run ends by itself, by `exit`, by a signal, or not at
all: commands may be nested without end and scripts may loop, so a run has a greatest depth and a
loop a greatest number of rounds, and a script that exceeds them counts as one that never ends. How
commands inside a command are run is a parameter of all but `run`, which counts the depth down.
-/

namespace LspHost.Machine.Shell

/-! ## Commands that run others -/

/-- Runs the commands of a file in the present shell. -/
def runFile (go : Runner) (call : Call) : Run Nat := do
  match call.arguments with
  | [] => return 0
  | name :: _ =>
    let s ← get
    let text := textOf name
    let path :=
      if text.toList.contains '/' then some text
      else ((Files.searchDirectories s.searchPath).map (Files.inDirectory · text)).find? fun path =>
        match s.files.stat s.directory path with
        | .ok (.file _ _) => true
        | _ => false
    match path with
    | none => call.refuse (text ++ ": not found")
    | some path =>
      match s.files.read s.directory path with
      | .ok content =>
        setStatus 0
        try runText go "" (octetsOfBytes content)
        catch
          | .back status => setStatus status
          | stop => throw stop
        return (← get).status
      | .error _ => call.refuse ("cannot open " ++ text ++ ": No such file")

/-- The greatest number of functions that may call each other. -/
def callLimit : Nat := 1000

/-- Runs a function, called on a line, and gives its status. -/
def callFunction (go : Runner) (tested : Bool) (line : Nat) (body : Command)
    (arguments : List Octets) : Run Nat := do
  let before ← get
  if before.calls = callLimit then
    Shell.fail line ("Maximum function recursion depth (" ++ toString callLimit ++ ") reached")
  set { before with arguments, replaced := some [], loops := 0, calls := before.calls + 1 }
  let restore : Run Unit := modify fun s =>
    let s := (s.replaced.getD []).foldl (fun s (name, v) => s.restore name v) s
    { s with
      arguments := before.arguments
      replaced := before.replaced
      loops := before.loops
      calls := before.calls }
  try go tested body
  catch
    | .back status => setStatus status
    | stop =>
      restore
      throw stop
  restore
  return (← get).status

/-- Tells what a name stands for as a command. -/
def describeCommand (call : Call) (isShort : Bool) (name : Octets) : Run Nat := do
  let s ← get
  let text := textOf name
  let print (short long : String) : Run Nat :=
    call.print (octetsOf ((if isShort then short else text ++ long) ++ "\n"))
  if keywords.contains text then print text " is a shell keyword"
  else if specialNames.contains text then print text " is a special shell builtin"
  else if s.functions.any (·.1 == text) then print text " is a shell function"
  else if isBuiltin text then print text " is a shell builtin"
  else
    let path := if text.toList.contains '/' then
        match s.files.stat s.directory text with
        | .ok node => if Files.mayExecute node then some text else none
        | .error _ => none
      else (pathOf s text).toOption
    match path with
    | some path => print path (" is " ++ path)
    | none =>
      unless isShort do
        let _ ← call.print (octetsOf (text ++ ": not found\n"))
      return 127

/-- Tells what names stand for as commands. -/
def describeCommands (call : Call) (isShort : Bool) (names : List Octets) : Run Nat :=
  names.foldlM (fun status name => do
    let next ← describeCommand call isShort name
    return if next = 0 then status else next) 0

/-- Runs a built-in command that is no `exec`, and gives its status. -/
def runBuiltin (go : Runner) (tested : Bool) (call : Call) : Run Nat := do
  match call.name with
  | "eval" =>
    setStatus 0
    let text := [' '].intercalate call.arguments
    runText (fun inner => go (inner || tested)) "eval: " text
    return (← get).status
  | "." => runFile go call
  | "kill" => kill go call
  | "type" => describeCommands call false call.arguments
  | "command" =>
    match call.arguments with
    | [] => return 0
    | ['-', 'v'] :: names => describeCommands call true (names.take 1)
    | ['-', 'V'] :: names => describeCommands call false (names.take 1)
    | ['-', 'p'] :: name :: arguments | name :: arguments =>
      -- what is called by way of `command` has lost what makes it special
      if isBuiltin (textOf name) then Call.run { call with name := textOf name, arguments }
      else runNamed go call.line name arguments
  | _ => call.run

/-- Replaces the shell by a program. -/
def exec (go : Runner) (line : Nat) (name : Octets) (arguments : List Octets) : Run Nat := do
  match findImage (← get) name arguments with
  | .ok image =>
    let s ← get
    set { s.forProgram with process := s.process }
    let status ← runImage go image
    modify fun s => { s with traps := [] }
    throw (.exit status)
  | .error (status, errno) =>
    complain line ("exec: " ++ textOf name ++ ": " ++ refusalText errno)
    throw (.exit status)

/-! ## Simple commands -/

/-- The words of a command as they are passed to it. The arguments of some are assignments, the
values of which are not cut into fields. -/
def fieldsOf (e : Expander) (words : List Word) : Run (List Octets) := do
  match words with
  | [] => return []
  | first :: rest =>
    let declares := ((plain? first).map String.ofList).any declaringNames.contains
    if !declares then e.all words
    else
      let fields ← rest.mapM fun word => do
        match assignment? word with
        | some (name, value) =>
          return [name ++ '=' :: (← e.one (← Expander.atHome value))]
        | none => e.all [word]
      return (← e.one first) :: fields.flatten

/-- Assigns the values of words to variables. -/
def assignAll (e : Expander) (isExported : Bool) (pairs : List (Octets × Word)) :
    Run (List (Octets × Octets)) :=
  pairs.mapM fun (name, word) => do
    let value ← e.one (← Expander.atHome word)
    assign e.line (String.ofList name) value (isExported || (← get).hasOption 'a')
    return (name, value)

/-- Writes a command to the standard error before it is run, if an option asks for it. -/
def trace (assigned : List (Octets × Octets)) (fields : List Octets) : Run Unit := do
  if (← get).hasOption 'x' then
    let words := assigned.map (fun (name, value) => name ++ '=' :: value) ++ fields
    let line := "+ ".toList ++ [' '].intercalate words ++ ['\n']
    modify fun s => (s.write 2 line).1

/-- Runs a command by its name and gives its status. -/
def dispatch (go : Runner) (tested : Bool) (line : Nat) (name : Octets)
    (arguments : List Octets) : Run Nat := do
  let text := textOf name
  let call : Call := { line, name := text, arguments }
  if specialNames.contains text then runBuiltin go tested call
  else
    match (← get).functions.find? (·.1 == text) with
    | some (_, body) => callFunction go tested line body arguments
    | none =>
      if isBuiltin text then runBuiltin go tested call else runNamed go line name arguments

/-- Runs a simple command. -/
def runSimple (go : Runner) (tested : Bool) (line : Nat) (assignments : List (Octets × Word))
    (words : List Word) (redirections : Redirections) : Run Unit := do
  let e := expander go line
  modify fun s => { s with substituted := 0 }
  let before ← get
  let fields ← fieldsOf e words
  let name := (fields.head?.map textOf).getD ""
  let isSpecial := specialNames.contains name
  unless ← redirectAll e redirections do
    restoreStreams redirections before
    if isSpecial then throw (.exit 2)
    return ← setStatus 2
  let variables_ := (← get).bindings
  match fields with
  | [] =>
    withStreams redirections before do
      trace (← assignAll e false assignments) []
      setStatus (← get).substituted
  | first :: arguments =>
    if name == "exec" && arguments.isEmpty then
      -- without a command, `exec` is there for its redirections, which stay
      let _ ← assignAll e false assignments
      setStatus 0
    else
      withStreams redirections before do
        let assigned ← assignAll e (!isSpecial) assignments
        trace assigned fields
        let status ← match name, arguments with
          | "exec", name :: arguments => exec go line name arguments
          | _, _ => dispatch go tested line first arguments
        unless isSpecial do
          modify fun s => assignments.foldl (fun s (name, _) =>
            let name := String.ofList name
            s.restore name (variables_.find? (·.name == name))) s
        setStatus status

/-! ## Compound commands -/

/-- Ends the script if the last command failed, its outcome is not tested, and an option asks for
it. -/
def checkStatus (tested : Bool) : Run Unit := do
  let s ← get
  if s.status ≠ 0 && !tested && s.hasOption 'e' then throw (.exit s.status)

/-- Runs commands of which each reads what the one before it writes. -/
def runStages (go : Runner) (tested : Bool) : List Command → Run Unit
  | [] => return
  | [stage] => do setStatus (← runApart go (go tested stage))
  | stage :: rest => do
    let (input, _) ← capture go (go tested stage)
    modify fun s => { s with input }
    runStages go tested rest

/-- Runs a round of a loop; tells whether the loop goes on. -/
def runRound (round : Run Unit) : Run Bool := do
  try
    round
    return true
  catch
    | .leave n => if n ≤ 1 then return false else throw (.leave (n - 1))
    | .again n => if n ≤ 1 then return true else throw (.again (n - 1))
    | stop => throw stop

/-- Runs a loop, inside of which there is one loop more to be left. -/
def inLoop (loop : Run Unit) : Run Unit := do
  let count (change : Nat → Nat) : Run Unit := modify fun s => { s with loops := change s.loops }
  count (· + 1)
  try loop
  catch stop =>
    count (· - 1)
    throw stop
  count (· - 1)

/-- Runs a command once for each of several values of a variable. -/
def runEach (go : Runner) (tested : Bool) (line : Nat) (name : String) (body : Command) :
    List Octets → Run Unit
  | [] => return
  | value :: rest => do
    assign line name value
    if ← runRound (go tested body) then runEach go tested line name body rest

/-- Runs a command as long as a condition succeeds or, if `negated`, fails. The status is that of
the last round. `fuel` bounds the number of rounds. -/
def runWhile (go : Runner) (tested negated : Bool) (condition body : Command) :
    (fuel : Nat) → (status : Nat) → Run Unit
  | 0, _ => throw .never
  | fuel + 1, status => do
    let mut isOver := false
    let goesOn ← runRound (go true condition)
    if goesOn then isOver := ((← get).status == 0) == negated
    if isOver then setStatus status
    else if goesOn then
      if ← runRound (go tested body) then
        runWhile go tested negated condition body fuel (← get).status

/-- Runs the first case with a pattern that fits a text. -/
def runCases (go : Runner) (tested : Bool) (e : Expander) (subject : Octets) :
    List (List Word × Command) → Run Unit
  | [] => setStatus 0
  | (patterns, body) :: rest => do
    let isFound ← patterns.anyM fun pattern => do return fits (← e.pattern pattern) subject
    if isFound then
      setStatus 0
      go tested body
    else runCases go tested e subject rest

/-- The greatest number of rounds of a loop. -/
def roundLimit : Nat := 200000

/-- Runs a command, unless an option keeps commands from being run; `depth` bounds the depth of the
run. -/
def run : (depth : Nat) → Runner
  | 0, _, _ => throw .never
  | depth + 1, tested, command => do
    if (← get).hasOption 'n' then return
    let go := run depth
    match command with
    | .nothing => return
    | .simple line assignments words redirections => do
      runSimple go tested line assignments words redirections
      checkStatus tested
    | .sequence commands => commands.forM (go tested)
    | .pipeline stages => do
      let input := (← get).input
      runStages go tested stages
      modify fun s => { s with input }
      checkStatus tested
    | .background command => do
      let input := (← get).input
      modify fun s => { s with input := [] }
      let status ← runApart go (go tested command)
      modify fun s =>
        let number := (s.jobs.head?.map Prod.fst).getD s.process + 1
        { s with input, jobs := (number, status) :: s.jobs, status := 0 }
    | .negate command => do
      go true command
      modify fun s => { s with status := if s.status = 0 then 1 else 0 }
    | .both first second => do
      go true first
      if (← get).status = 0 then go tested second
    | .either first second => do
      go true first
      if (← get).status ≠ 0 then go tested second
    | .branch condition success failure => do
      go true condition
      if (← get).status = 0 then go tested success
      else
        setStatus 0
        go tested failure
    | .choice line subject cases => do
      let e := expander go line
      runCases go tested e (← e.one subject) cases
    | .each line name words body => do
      let values ← match words with
        | some words => (expander go line).all words
        | none => pure (← get).arguments
      setStatus 0
      inLoop (runEach go tested line (String.ofList name) body values)
    | .loop negated condition body =>
      inLoop (runWhile go tested negated condition body roundLimit 0)
    | .redirected line body redirections => do
      let before ← get
      withStreams redirections before do
        if ← redirectAll (expander go line) redirections then go tested body else setStatus 2
    | .apart line body redirections => do
      let status ← runApart go do
        if ← redirectAll (expander go line) redirections then go tested body else setStatus 2
      setStatus status
      checkStatus tested
    | .function _ name body =>
      modify fun s =>
        let name := String.ofList name
        { s with functions := (name, body) :: s.functions.filter (·.1 != name), status := 0 }

/-! ## Runs -/

/-- The greatest depth of a run. -/
def depthLimit : Nat := 8000

/-- How a run ends. -/
inductive Outcome where
  /-- with a status -/
  | ended (status : Nat)
  /-- by a signal -/
  | killed (signal : Nat)
  /-- not at all -/
  | never
  deriving DecidableEq, Repr

/-- Runs a program from a state on. -/
def execute (image : Image) (s : State) : Outcome × State :=
  match runImage (run depthLimit) image s with
  | .ok status s | .error (.exit status) s | .error (.back status) s => (.ended status, s)
  | .error (.killed signal) s => (.killed signal, s)
  | .error .never s => (.never, s)
  | .error _ s => (.ended s.status, s)

end LspHost.Machine.Shell
