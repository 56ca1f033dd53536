import LspHost.CommandLine.Forms
import LspHost.CommandLine.Help
import LspHost.Json.Printer
import LspHost.Session

/-!
# What a program prints

A program ends with a status or a fault, and has printed something by then. Its journal is shown on
the standard error or goes to a log file: before logging is set up only what was put aside is shown,
and by its message alone; afterwards everything from a level on, with the name of the part that
noted it.
-/

namespace LspHost.CommandLine

/-- What a program needs from its surroundings. -/
structure Surroundings (σ : Type) where
  /-- the host -/
  host : Host σ
  /-- the way to a language server -/
  link : Link σ
  /-- waits until the language server has exited -/
  awaitExit : Act σ Unit
  /-- opens a log file, which is made if it is missing -/
  openLog : (name : String) → Act σ Unit
  /-- writes to the end of a log file -/
  writeLog : (name text : String) → Act σ Unit
  /-- the number of the own process -/
  process : Nat := 0

/-- How a program ended, and what it printed. While a program is at work its journal is not among
what it printed yet. -/
structure Report where
  /-- the exit status, or the fault that ended it -/
  ending : Except Fault Nat
  /-- what went to the standard output -/
  output : String := ""
  /-- what went to the standard error -/
  errors : String := ""

/-- The report of a program that does something instead of its work. -/
def Report.ofReply (r : Reply) : Report where
  ending := .ok r.status
  output := r.output
  errors := r.errors

/-- The report of a command line that leads to no work, on the terminal that the surroundings have.
-/
def reportStop {σ : Type} (s : Surroundings σ) (stop : Stop) (world : σ) : Report × σ :=
  match s.host.environment "COLUMNS" { world } with
  | .ok columns t => (.ofReply (stop.reply (columnsOf columns)), t.world)
  | .error fault t => ({ ending := .error fault }, t.world)

/-! ## The journal -/

/-- How the journal is shown. -/
inductive Display where
  /-- by the messages alone, and only what was put aside or went wrong -/
  | bare
  /-- from a level on, with the names of the parts -/
  | named (least : Level)
  deriving DecidableEq, Repr

/-- One record as it is shown, none if it is not. -/
def Display.line? (display : Display) (r : Record) : Option String :=
  match display with
  | .bare => if r.level.atLeast .warning then some (r.message ++ "\n") else none
  | .named least =>
    if r.level.atLeast least then some ("[" ++ r.source.name ++ "] " ++ r.message ++ "\n") else none

/-- Records as they are shown. -/
def Display.text (display : Display) (records : List Record) : String :=
  String.join (records.filterMap display.line?)

/-! ## Answers -/

/-- What was found for each of several targets. -/
abbrev Answers := List (Target × Option Value)

/-- One answer for a reader. -/
def foundText (found : Option Value) : Except Fault String :=
  match found.bind Value.given? with
  | some value => value.write
  | none => .ok "(not found)"

/-- The answers for a reader, one a line, up to the first that cannot be written; with the fault
that stands in its way. -/
def Answers.lines : Answers → List String × Option Fault
  | [] => ([], none)
  | (target, found) :: rest =>
    match foundText found with
    | .error fault => ([], some fault)
    | .ok text =>
      let (after, fault) := Answers.lines rest
      ((target.name ++ ": " ++ text) :: after, fault)

/-- The answers as a JSON text. -/
def Answers.json (answers : Answers) : Except Fault String :=
  Json.pretty (.table (answers.map fun (target, found) => (target.name, found.getD .null)))

/-- The answers in the form that is asked for; a fault if they do not have it. -/
def Answers.text (json : Bool) (answers : Answers) : Except Fault String :=
  if json then answers.json
  else
    match answers.lines with
    | (_, some fault) => .error fault
    | (lines, none) => .ok ("\n".intercalate lines)

end LspHost.CommandLine
