import LspHost.Fault
import LspHost.Number.Shortest
import LspHost.Text.Quoted
import LspHost.Value

/-!
# The text of a value

Log lines and terminal output show values in two forms. `Value.described` shows what a value is,
with texts quoted; `Value.display` is the same except that a text stands for itself and a date or
time is written plainly. Not every value is written where its text is wanted: `Value.write` ends
with a fault if an integer in the value has more than 4300 digits, or if lists and tables are nested
too deep.
-/

namespace LspHost.Value

mutual

/-- A value with its texts quoted and its dates and times described. -/
def described : Value → String
  | .null => "None"
  | .bool b => if b then "True" else "False"
  | .int n => toString n
  | .float x => x.text
  | .string s => Text.quoted s
  | .list items => "[" ++ describedItems items ++ "]"
  | .table entries => "\x7b" ++ describedEntries entries ++ "\x7d"
  | .moment m => m.described

/-- Values with commas between them. -/
def describedItems : List Value → String
  | [] => ""
  | [item] => item.described
  | item :: rest => item.described ++ ", " ++ describedItems rest

/-- Keys and values with commas between the entries. -/
def describedEntries : List (String × Value) → String
  | [] => ""
  | [(key, value)] => Text.quoted key ++ ": " ++ value.described
  | (key, value) :: rest =>
    Text.quoted key ++ ": " ++ value.described ++ ", " ++ describedEntries rest

end

/-- A value as it is shown. -/
def display : Value → String
  | .string s => s
  | .moment m => m.iso " "
  | value => value.described

/-! ## What can be written -/

/-- The greatest number of digits of an integer that is written. -/
def digitLimit : Nat := 4300

/-- The greatest depth of lists and tables that is written. It depends on the room that the callers leave
on the stack, and is fixed at what is left a few calls below the start of a program. -/
def depthLimit : Nat := 985

/-- An integer with no more digits than are written. -/
def writeInt (n : Int) : Except Fault String :=
  if n.natAbs < Nat.pow 10 digitLimit then .ok (toString n) else .error (.badText .tooLong)

mutual

/-- What keeps a value from being written, the first thing in the order of its text; lists and
tables may be nested in it as deep as `room` allows. -/
def checkWritable (room : Nat) : Value → Except Fault Unit
  | .int n => do let _ ← writeInt n
  | .list items =>
    match room with
    | 0 => .error .tooDeep
    | room + 1 => checkItems room items
  | .table entries =>
    match room with
    | 0 => .error .tooDeep
    | room + 1 => checkEntries room entries
  | _ => .ok ()

/-- What keeps one of several values from being written. -/
def checkItems (room : Nat) : List Value → Except Fault Unit
  | [] => .ok ()
  | item :: rest => do
    checkWritable room item
    checkItems room rest

/-- What keeps a value of a table from being written. -/
def checkEntries (room : Nat) : List (String × Value) → Except Fault Unit
  | [] => .ok ()
  | (_, value) :: rest => do
    checkWritable room value
    checkEntries room rest

end

/-- A value as it is shown, if it can be written. -/
def write (value : Value) : Except Fault String := do
  value.checkWritable depthLimit
  return value.display

/-- **A text** can always be written, and stands for itself. -/
theorem write_string (s : String) : write (.string s) = .ok s := rfl

end LspHost.Value
