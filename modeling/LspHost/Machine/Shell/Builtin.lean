import LspHost.Machine.Shell.Condition
import LspHost.Machine.Shell.Pattern
import LspHost.Machine.Shell.State

/-!
# Shell scripts: built-in commands

The commands that the shell runs itself and that run no other command. A command that is special
ends the script when it fails.
-/

namespace LspHost.Machine.Shell

/-! ## Names -/

/-- The special built-in commands, besides `exec`, `eval` and the dot. -/
def specialNames : List String :=
  [".", ":", "break", "continue", "eval", "exec", "exit", "export", "readonly", "return", "set",
    "shift", "times", "trap", "unset"]

/-- The other built-in commands. -/
def regularNames : List String :=
  ["[", "cd", "command", "echo", "false", "hash", "jobs", "kill", "local", "printf", "pwd", "read",
    "test", "true", "type", "umask", "wait"]

/-- The commands whose arguments may be assignments, the values of which are not cut. -/
def declaringNames : List String := ["export", "local", "readonly"]

/-- Whether a name is that of a built-in command. -/
def isBuiltin (name : String) : Bool := specialNames.contains name || regularNames.contains name

/-! ## Texts and names -/

/-- Octets in single quotes. -/
def inSingleQuotes (octets : Octets) : Octets :=
  let pieces := octets.flatMap fun c => if c = '\'' then "'\"'\"'".toList else [c]
  '\'' :: pieces ++ ['\'']

/-- The names and the values of arguments that may be assignments. -/
def declared (argument : Octets) : Octets × Option Octets :=
  match argument.span (· != '=') with
  | (name, '=' :: value) => (name, some value)
  | (name, _) => (name, none)

/-! ## Directories -/

/-- A location with the names of a path behind it, of which `..` takes one away. -/
def stepInto (at_ : Location) (path : String) : Location :=
  (Text.cut '/' path).foldl (fun at_ name =>
    if name.isEmpty || name == "." then at_ else if name == ".." then at_.dropLast
    else at_ ++ [name]) (if path.startsWith "/" then [] else at_)

/-! ## Options -/

/-- The options by their names. -/
def optionNames : List (String × Char) :=
  [("allexport", 'a'), ("errexit", 'e'), ("ignoreeof", 'I'), ("interactive", 'i'), ("monitor", 'm'),
    ("noclobber", 'C'), ("noexec", 'n'), ("noglob", 'f'), ("notify", 'b'), ("nounset", 'u'),
    ("stdin", 's'), ("verbose", 'v'), ("vi", 'V'), ("emacs", 'E'), ("xtrace", 'x')]

/-- Sets an option or takes it back. -/
def setOption (isSet : Bool) (letter : Char) : Run Unit :=
  modify fun s =>
    let others := s.options.filter (· != letter)
    { s with options := if isSet then others ++ [letter] else others }

/-! ## Lines -/

/-- Takes a line from octets, in which a backslash may take the meaning of what follows away; tells
whether a line feed ended it. `fuel` bounds the length. -/
def takeLine (isRaw : Bool) : (fuel : Nat) → Octets → Marked × Octets × Bool
  | 0, rest => ([], rest, false)
  | _, [] => ([], [], false)
  | _, '\n' :: rest => ([], rest, true)
  | fuel + 1, c :: rest =>
    let plain : Marked × Octets × Bool :=
      let (line, rest, isEnded) := takeLine isRaw fuel rest
      ((c, false) :: line, rest, isEnded)
    if c = '\\' && !isRaw then
      match rest with
      | '\n' :: rest => takeLine isRaw fuel rest
      | c :: rest =>
        let (line, rest, isEnded) := takeLine isRaw fuel rest
        ((c, true) :: line, rest, isEnded)
      | [] => ([], [], false)
    else plain

/-- Shares a line out to names, the last of which gets what is left. -/
def shareOut (separators : Octets) : List Octets → Marked → List (Octets × Octets)
  | [], _ => []
  | name :: names, line =>
    let isSeparator (c : Char × Bool) : Bool := !c.2 && separators.contains c.1
    let isBlank (c : Char × Bool) : Bool :=
      isSeparator c && (c.1 == ' ' || c.1 == '\t' || c.1 == '\n')
    let line := line.dropWhile isBlank
    if names.isEmpty then
      [(name, Marked.octets (line.reverse.dropWhile isBlank).reverse)]
    else
      let field := line.takeWhile (!isSeparator ·)
      let rest := (line.drop field.length).dropWhile isBlank
      let rest := match rest with
        | c :: after => if isSeparator c then after else c :: after
        | [] => []
      (name, Marked.octets field) :: shareOut separators names rest

/-! ## Signals -/

/-- The names of signals by their numbers, beginning with 1. -/
def signalNames : List String :=
  ["HUP", "INT", "QUIT", "ILL", "TRAP", "ABRT", "BUS", "FPE", "KILL", "USR1", "SEGV", "USR2",
    "PIPE", "ALRM", "TERM", "STKFLT", "CHLD", "CONT", "STOP", "TSTP", "TTIN", "TTOU", "URG", "XCPU",
    "XFSZ", "VTALRM", "PROF", "WINCH", "IO", "PWR", "SYS"]

/-- The number of the signal with a name or a number. -/
def signal? (text : Octets) : Option Nat :=
  if !text.isEmpty && text.all Char.isDigit then
    let n := (takeDigits 10 0 text).1
    if n < 65 then some n else none
  else
    let name := String.ofList (text.map Char.toUpper)
    (signalNames.findIdx? (· == name)).map (· + 1)

/-- Whether a signal does nothing to a process that does not care for it. -/
def isHarmless (signal : Nat) : Bool := [0, 17, 18, 23, 28].contains signal

/-- The traps with the command for a signal; no command takes it back. -/
def trapped (traps : List (Nat × Octets)) (signal : Nat) (action : Option Octets) :
    List (Nat × Octets) :=
  action.toList.map (signal, ·) ++ traps.filter (·.1 != signal)

/-! ## Calls -/

/-- A call of a built-in command. -/
structure Call where
  /-- the line of the command -/
  line : Nat
  /-- the name of the command -/
  name : String
  /-- its arguments -/
  arguments : List Octets

namespace Call

/-- Complains that a call failed. A failing special command ends the script. -/
def refuse (call : Call) (message : String) : Run Nat := do
  complain call.line (call.name ++ ": " ++ message)
  if specialNames.contains call.name then throw (.exit 2) else return 2

/-- Writes to the standard output. -/
def print (call : Call) (octets : Octets) : Run Nat := do
  let (s, isOpen) := (← get).write 1 octets
  set s
  if isOpen then return 0
  else
    complain call.line (call.name ++ ": " ++ call.name ++ ": I/O error")
    return 1

/-- The number that an argument must be; if it is none, the call is refused. -/
def number? (call : Call) (text : Octets) : Run (Option Nat) := do
  let n := (takeDigits 10 0 text).1
  if text.isEmpty || !text.all Char.isDigit || 2147483647 < n then
    let _ ← call.refuse ("Illegal number: " ++ textOf text)
    return none
  return some n

/-- The number that the first argument of a special command is, if it has one. -/
def firstNumber (call : Call) (usual : Nat) : Run Nat := do
  match call.arguments with
  | [] => return usual
  | text :: _ => return (← call.number? text).getD usual

/-! ### Texts -/

/-- Writes what `printf` makes of its arguments. -/
def printf (call : Call) : Run Nat := do
  let arguments := match call.arguments with
    | ['-', '-'] :: rest => rest
    | arguments => arguments
  match arguments with
  | [] => call.refuse "usage: printf format [arg ...]"
  | format :: arguments =>
    let p := formatAll format (arguments.length + 1) { arguments }
    for message in p.complaints.reverse do complain call.line ("printf: " ++ message)
    let status ← call.print p.written.reverse
    return if p.isBad then 2 else if p.complaints.isEmpty then status else 1

/-- Checks a condition, which stands between brackets if the name of the command is a bracket. -/
def test (call : Call) : Run Nat := do
  let s ← get
  let check (arguments : List Octets) : Run Nat :=
    match Surroundings.holds { files := s.files, directory := s.directory } arguments with
    | .ok true => return 0
    | .ok false => return 1
    | .error message => call.refuse message
  if call.name != "[" then check call.arguments
  else if call.arguments.getLast? == some [']'] then check call.arguments.dropLast
  else call.refuse "missing ]"

/-! ### Directories -/

/-- Changes the directory. -/
def changeDirectory (call : Call) (isPhysical : Bool) (path : Octets) : Run Nat := do
  let s ← get
  let text := textOf path
  let target := if isPhysical then text else locationText (stepInto s.logical text)
  match s.files.walk true s.directory target with
  | .ok at_ =>
    if s.files.isDirectoryAt at_ then
      let logical := if isPhysical then at_ else stepInto s.logical text
      let s := s.assign "OLDPWD" (octetsOf (locationText s.logical)) true
      set { s.assign "PWD" (octetsOf (locationText logical)) true with directory := at_, logical }
      return 0
    else call.refuse ("can't cd to " ++ text)
  | .error _ => call.refuse ("can't cd to " ++ text)

/-- Changes the directory to the one that the arguments name, the home or the one before. -/
def cd (call : Call) : Run Nat := do
  let s ← get
  let (isPhysical, arguments) := match call.arguments with
    | ['-', 'P'] :: rest => (true, rest)
    | ['-', 'L'] :: rest => (false, rest)
    | arguments => (false, arguments)
  match arguments with
  | [] =>
    match s.value? "HOME" with
    | some home => call.changeDirectory isPhysical home
    | none => return 0
  | ['-'] :: _ =>
    let status ← call.changeDirectory isPhysical
      ((s.value? "OLDPWD").getD (octetsOf (locationText s.logical)))
    if status = 0 then call.print (octetsOf (locationText (← get).logical ++ "\n"))
    else return status
  | [] :: _ => return 0
  | path :: _ => call.changeDirectory isPhysical path

/-- Writes the directory. -/
def pwd (call : Call) : Run Nat := do
  let s ← get
  let at_ := if call.arguments.contains ['-', 'P'] then s.directory else s.logical
  call.print (octetsOf (locationText at_ ++ "\n"))

/-! ### The end of scripts, functions and loops -/

/-- The status that a call asks for, else the last one. -/
def statusAsked (call : Call) : Run Nat := do
  return (← call.firstNumber (← get).status) % 256

/-- Ends some of the loops around the command, or all if there are not so many. -/
def leaveLoops (call : Call) (stop : Nat → Stop) : Run Nat := do
  let levels ← call.firstNumber 1
  if levels = 0 then call.refuse ("Illegal number: " ++ textOf (call.arguments.headD []))
  else
    let loops := (← get).loops
    if loops = 0 then return 0
    modify fun s => { s with status := 0 }
    throw (stop (min levels loops))

/-! ### Variables and arguments -/

/-- Changes variables, which arguments name with or without new values. -/
def declare (call : Call) (arguments : List Octets) (change : Variable → Variable) : Run Nat := do
  for argument in arguments do
    let (name, value) := declared argument
    unless isName name do
      let _ ← call.refuse (textOf name ++ ": bad variable name")
      throw (.exit 2)
    let name := String.ofList name
    match value with
    | some value => assign call.line name value
    | none => pure ()
    modify fun s => s.bind (change ((s.binding? name).getD { name, value := none }))
  return 0

/-- Writes variables, each behind a word. -/
def printVariables (call : Call) (word : String) (variables_ : List Variable) : Run Nat := do
  let sorted := variables_.mergeSort fun a b => !(b.name < a.name)
  call.print (sorted.flatMap fun v =>
    octetsOf (word ++ v.name) ++ (match v.value with
      | some value => '=' :: inSingleQuotes value
      | none => []) ++ ['\n'])

/-- Shows variables to other programs, or lists those that they see. -/
def export_ (call : Call) : Run Nat := do
  match call.arguments with
  | [] | ['-', 'p'] :: _ =>
    call.printVariables "export " ((← get).bindings.filter Variable.isExported)
  | arguments => call.declare arguments fun v => { v with isExported := true }

/-- Fixes the values of variables, or lists those with fixed values. -/
def readonly (call : Call) : Run Nat := do
  match call.arguments with
  | [] | ['-', 'p'] :: _ =>
    call.printVariables "readonly " ((← get).bindings.filter Variable.isFixed)
  | arguments => call.declare arguments fun v => { v with isFixed := true }

/-- Makes variables local to the function. -/
def local_ (call : Call) : Run Nat := do
  let some replaced := (← get).replaced |
    complain call.line "local: not in a function"
    throw (.exit 2)
  let names := call.arguments.map fun argument => String.ofList (declared argument).1
  modify fun s =>
    let fresh := names.filter fun name => !replaced.any (·.1 == name)
    { s with replaced := some (replaced ++ fresh.map fun name => (name, s.binding? name)) }
  call.declare call.arguments id

/-- Removes variables or functions. -/
def unset (call : Call) : Run Nat := do
  let (functions, arguments) := match call.arguments with
    | ['-', 'f'] :: rest => (true, rest)
    | ['-', 'v'] :: rest => (false, rest)
    | arguments => (false, arguments)
  for argument in arguments do
    let name := String.ofList argument
    if functions then
      modify fun s => { s with functions := s.functions.filter (·.1 != name) }
    else if !isName argument then
      let _ ← call.refuse (textOf argument ++ ": bad variable name")
    else if (← get).isFixed name then
      let _ ← call.refuse (name ++ ": is read only")
    else modify (·.unbind name)
  return 0

/-- Drops arguments of the script. -/
def shift (call : Call) : Run Nat := do
  let n ← call.firstNumber 1
  if (← get).arguments.length < n then call.refuse "can't shift that many"
  else
    modify fun s => { s with arguments := s.arguments.drop n }
    return 0

/-- Sets options and the arguments of the script. -/
def set_ (call : Call) : List Octets → Run Nat
  | [] => return 0
  | ['-', '-'] :: rest => do
    modify fun s => { s with arguments := rest }
    return 0
  | ['-'] :: rest => do
    setOption false 'x'
    setOption false 'v'
    unless rest.isEmpty do modify fun s => { s with arguments := rest }
    return 0
  | [sign, 'o'] :: name :: rest => do
    if sign != '-' && sign != '+' then
      modify fun s => { s with arguments := [sign, 'o'] :: name :: rest }
      return 0
    match optionNames.find? (·.1 == String.ofList name) with
    | some (_, letter) =>
      setOption (sign == '-') letter
      call.set_ rest
    | none => call.refuse ("Illegal option " ++ textOf (sign :: 'o' :: ' ' :: name))
  | (sign :: letters) :: rest => do
    if (sign != '-' && sign != '+') || letters.isEmpty then
      modify fun s => { s with arguments := (sign :: letters) :: rest }
      return 0
    for letter in letters do
      if optionNames.any (·.2 == letter) then setOption (sign == '-') letter
      else
        let _ ← call.refuse ("Illegal option " ++ textOf [sign, letter])
    call.set_ rest
  | arguments => do
    modify fun s => { s with arguments }
    return 0

/-! ### Reading -/

/-- Reads a line and shares it out to variables. -/
def read (call : Call) : Run Nat := do
  let (isRaw, names) := match call.arguments with
    | ['-', 'r'] :: rest => (true, rest)
    | names => (false, names)
  if names.isEmpty then return ← call.refuse "arg count"
  match names.find? (!isName ·) with
  | some name => call.refuse (textOf name ++ ": bad variable name")
  | none =>
    let s ← get
    let (line, rest, isEnded) := takeLine isRaw (s.input.length + 1) s.input
    set { s with input := rest }
    for (name, value) in shareOut s.separators names line do
      assign call.line (String.ofList name) value
    return if isEnded then 0 else 1

/-! ### Signals -/

/-- Writes the names of all signals, or that of the signal with a number, which may be the status of
a program that it ended. -/
def listSignals (call : Call) : List Octets → Run Nat
  | [] => call.print ("0\n".toList ++ signalNames.flatMap fun name => name.toList ++ ['\n'])
  | text :: _ => do
    match ← call.number? text with
    | none => return 2
    | some n =>
      let n := if 128 < n then n - 128 else n
      match signalNames[n - 1]?, n with
      | some name, _ + 1 => call.print (name.toList ++ ['\n'])
      | _, _ => call.refuse ("invalid signal number or exit status: " ++ textOf text)

/-- The signal and the processes that the arguments of `kill` name. -/
def killTarget (call : Call) : Except String (Nat × List Octets) :=
  let usage := "Usage: kill [-s sigspec | -signum | -sigspec] [pid | job]... or\n" ++
    "kill -l [exitstatus]"
  let named (name : Octets) (rest : List Octets) : Except String (Nat × List Octets) :=
    match signal? name with
    | some signal => if rest.isEmpty then .error usage else .ok (signal, rest)
    | none => .error ("invalid signal number or name: " ++ textOf name)
  match call.arguments with
  | ('-' :: text) :: rest =>
    match signal? text, text with
    | some signal, _ => if rest.isEmpty then .error usage else .ok (signal, rest)
    | none, ['s'] =>
      match rest with
      | name :: rest => named name rest
      | [] => .error "No arg for -s option"
    | none, 's' :: name => named name rest
    | none, letter :: _ => .error ("Illegal option " ++ textOf ['-', letter])
    | none, [] => .error usage
  | [] => .error usage
  | arguments => .ok (15, arguments)

/-- Sets the commands to be run when signals arrive, or lists them. -/
def trap (call : Call) : Run Nat := do
  let signalOf (text : Octets) : Option Nat :=
    if String.ofList (text.map Char.toUpper) == "EXIT" then some 0 else signal? text
  let arguments := match call.arguments with
    | ['-', '-'] :: rest => rest
    | arguments => arguments
  match arguments with
  | [] =>
    let sorted := (← get).traps.mergeSort fun a b => a.1 ≤ b.1
    call.print (sorted.flatMap fun (signal, action) =>
      octetsOf "trap -- " ++ inSingleQuotes action ++
        octetsOf (" " ++ (if signal = 0 then "EXIT" else signalNames.getD (signal - 1) "") ++ "\n"))
  | first :: rest =>
    let (action, names) :=
      if rest.isEmpty || (signalOf first).isSome then (none, first :: rest)
      else (if first == ['-'] then none else some first, rest)
    for name in names do
      match signalOf name with
      | some signal => modify fun s => { s with traps := trapped s.traps signal action }
      | none =>
        modify fun s => (s.write 2 (octetsOf ("trap: " ++ textOf name ++ ": bad trap\n"))).1
        return 1
    return 0

/-- Waits for processes, which have all ended before, and gives the status of the last one. -/
def wait (call : Call) : Run Nat := do
  match call.arguments.getLast? with
  | none => return 0
  | some text =>
    match ← call.number? text with
    | none => return 2
    | some n => return (((← get).jobs.find? (·.1 == n)).map Prod.snd).getD 127

/-! ### All of them -/

/-- Runs a built-in command that runs no other command, and gives its status. -/
def run (call : Call) : Run Nat := do
  match call.name with
  | "false" => return 1
  | "echo" => call.print (echoText call.arguments)
  | "printf" => call.printf
  | "pwd" => call.pwd
  | "cd" => call.cd
  | "exit" => throw (.exit (← call.statusAsked))
  | "return" => throw (.back (← call.statusAsked))
  | "break" => call.leaveLoops .leave
  | "continue" => call.leaveLoops .again
  | "shift" => call.shift
  | "set" =>
    if call.arguments.isEmpty then
      call.printVariables "" ((← get).bindings.filter (·.value.isSome))
    else call.set_ call.arguments
  | "test" | "[" => call.test
  | "export" => call.export_
  | "readonly" => call.readonly
  | "local" => call.local_
  | "unset" => call.unset
  | "read" => call.read
  | "trap" => call.trap
  | "wait" => call.wait
  | "umask" => if call.arguments.isEmpty then call.print "0022\n".toList else return 0
  | "times" => call.print "0m0.000000s 0m0.000000s\n0m0.000000s 0m0.000000s\n".toList
  | _ => return 0

end Call

end LspHost.Machine.Shell
