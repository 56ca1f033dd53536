import LspHost.Machine.Shell.Script

/-!
# Shell scripts: programs

The programs of a machine: the shell, which runs scripts, and `sleep`, which lets time go by. A
script finds them along the search path, and signals end them.
-/

namespace LspHost.Machine.Shell

/-- The microseconds that an argument of `sleep` asks for. -/
def micros? (text : String) : Option Nat := do
  let (whole, rest) := text.toList.span Char.isDigit
  let (part, rest) := match rest with
    | '.' :: rest => rest.span Char.isDigit
    | rest => ([], rest)
  let unit ← match rest with
    | [] | ['s'] => some 1
    | ['m'] => some 60
    | ['h'] => some 3600
    | ['d'] => some 86400
    | _ => none
  if whole.isEmpty && part.isEmpty then none
  else
    let digits := (part ++ List.replicate 6 '0').take 6
    return ((takeDigits 10 0 whole).1 * 1000000 + (takeDigits 10 0 digits).1) * unit

/-- Lets the time go by that the arguments of `sleep` ask for. -/
def sleep (name : String) (arguments : List String) : Run Nat := do
  let refuse (message : String) : Run Nat := do
    let hint := "Try '" ++ name ++ " --help' for more information.\n"
    modify fun s => (s.write 2 (octetsOf (name ++ ": " ++ message ++ "\n" ++ hint))).1
    return 1
  match arguments.find? fun text => (micros? text).isNone with
  | some text => refuse ("invalid time interval '" ++ text ++ "'")
  | none =>
    if arguments.isEmpty then refuse "missing operand"
    else
      let time := (arguments.filterMap micros?).foldl (· + ·) 0
      modify fun s => { s with elapsed := s.elapsed + time }
      return 0

/-- Runs a script in the shell of a program, and gives its status. -/
def runScript (go : Runner) (options : List Char) (script name : Octets)
    (arguments : List Octets) : Run Nat := do
  let s ← get
  let logical := match s.value? "PWD" with
    | some ('/' :: path) =>
      let at_ := stepInto [] (textOf ('/' :: path))
      if (s.files.walk true [] (locationText at_)).toOption == some s.directory then at_
      else s.directory
    | _ => s.directory
  set { (s.assign "PWD" (octetsOf (locationText logical)) true) with
    name, arguments, options, logical, status := 0 }
  runShell go (runText go "" script)

/-- Runs the shell with arguments; the options are those that were read before. -/
def shell (go : Runner) (name : String) (options : List Char) : List String → Run Nat
  | [] => return 0
  | argument :: rest => do
    let refuse (message : String) : Run Nat := do
      modify fun s => (s.write 2 (octetsOf (name ++ ": 0: " ++ message ++ "\n"))).1
      return 2
    match argument.toList with
    | '-' :: letter :: letters =>
      let letters := letter :: letters
      match letters.find? fun letter => letter != 'c' && !optionNames.any (·.2 == letter) with
      | some letter => refuse ("Illegal option -" ++ String.singleton letter)
      | none =>
        let options := options ++ letters.filter (· != 'c')
        if letters.contains 'c' then
          match rest with
          | [] => refuse "-c requires an argument"
          | script :: rest =>
            runScript go options (octetsOf script) (octetsOf (rest.headD name))
              ((rest.drop 1).map octetsOf)
        else shell go name options rest
    | _ =>
      let s ← get
      match s.files.stat s.directory argument with
      | .ok (.file content _) =>
        runScript go options (octetsOfBytes content) (octetsOf argument) (rest.map octetsOf)
      | .ok _ => return 0
      | .error _ => refuse ("cannot open " ++ argument ++ ": No such file")

/-- Runs a program of the machine and gives its status. -/
def runImage (go : Runner) (image : Image) : Run Nat :=
  match image.program, image.argv with
  | .sleep, name :: arguments => sleep name arguments
  | .shell, name :: arguments => shell go name [] arguments
  | _, [] => return 0

/-- How a shell calls the end of a program by a signal; some it does not mention. -/
def describedSignal (signal : Nat) : Option String :=
  match signal with
  | 1 => some "Hangup"
  | 3 => some "Quit"
  | 4 => some "Illegal instruction"
  | 5 => some "Trace/breakpoint trap"
  | 6 => some "Aborted"
  | 7 => some "Bus error"
  | 8 => some "Floating point exception"
  | 9 => some "Killed"
  | 10 => some "User defined signal 1"
  | 11 => some "Segmentation fault"
  | 12 => some "User defined signal 2"
  | 14 => some "Alarm clock"
  | 15 => some "Terminated"
  | _ => none

/-- Runs a program and gives its status, which tells a signal by a great number. -/
def runProgram (go : Runner) (image : Image) : Run Nat := do
  let outer ← get
  set outer.forProgram
  let end_ ← try pure (Except.ok (← runImage go image))
    catch
      | .killed signal => pure (.error signal)
      | stop => throw stop
  let inner ← get
  set (outer.behind inner)
  match end_ with
  | .ok status => return status
  | .error signal =>
    match describedSignal signal with
    | some text => modify fun s => (s.write 2 (octetsOf (text ++ "\n"))).1
    | none => pure ()
    return 128 + signal

/-- What is run for a file; a file that is no program is a script of the shell. -/
def imageOf (s : State) (path : String) (argv : List String) : Except Errno Image :=
  match s.files.image Files.scriptLimit s.directory path argv with
  | .error .notProgram => .ok { program := .shell, argv := "sh" :: path :: argv.drop 1 }
  | answer => answer

/-- The path of a program by its name along the search path. -/
def pathOf (s : State) (name : String) : Except Errno String :=
  (Files.searchDirectories s.searchPath).foldl (fun found directory =>
    match found with
    | .ok path => .ok path
    | .error errno =>
      let path := Files.inDirectory directory name
      match s.files.stat s.directory path with
      | .ok .directory => .error .denied
      | .ok node => if Files.mayExecute node then .ok path else .error .denied
      | .error .missing | .error .notDirectory => .error errno
      | .error errno => .error errno) (.error .missing)

/-- Why a program cannot be run, in messages. -/
def refusalText (errno : Errno) : String :=
  match errno with
  | .missing | .notDirectory => "not found"
  | errno => errno.explanation

/-- What is run for the name of a program, or the status of the refusal and its reason. -/
def findImage (s : State) (name : Octets) (arguments : List Octets) :
    Except (Nat × Errno) Image := do
  let name := textOf name
  let argv := name :: arguments.map textOf
  let path ←
    if name.toList.contains '/' then pure name else (pathOf s name).mapError (127, ·)
  (imageOf s path argv).mapError fun errno =>
    ((if [.missing, .notDirectory, .loop, .nameTooLong].contains errno then 127 else 126), errno)

/-- Runs a program by its name and gives its status. Messages call it by a name. -/
def runNamed (go : Runner) (line : Nat) (name : Octets) (arguments : List Octets) : Run Nat := do
  match findImage (← get) name arguments with
  | .ok image => runProgram go image
  | .error (status, errno) =>
    complain line (textOf name ++ ": " ++ refusalText errno)
    return status

/-! ## Signals -/

/-- Sends a signal to the shell. -/
def receive (go : Runner) (signal : Nat) : Run Unit := do
  let s ← get
  match s.traps.find? (·.1 == signal), signal == 9 with
  | some (_, action), false =>
    unless action.isEmpty do
      runText go "" action
      setStatus s.status
  | _, _ => unless isHarmless signal do throw (.killed signal)

/-- Sends a signal to processes, of which the shell itself is the only one that is there. -/
def sendAll (go : Runner) (call : Call) (signal status : Nat) : List Octets → Run Nat
  | [] => return status
  | process :: rest => do
    let digits := if process.head? == some '-' then process.tail else process
    match ← call.number? digits with
    | none => return 2
    | some n =>
      if n = (← get).process || n = 0 then
        receive go signal
        sendAll go call signal status rest
      else
        complain call.line "kill: No such process\n"
        sendAll go call signal 1 rest

/-- Sends signals to processes, or lists their names. -/
def kill (go : Runner) (call : Call) : Run Nat := do
  if call.arguments.head? == some ['-', 'l'] then call.listSignals call.arguments.tail
  else
    match call.killTarget with
    | .error message => call.refuse message
    | .ok (signal, processes) => sendAll go call signal 0 processes

end LspHost.Machine.Shell
