import LspHost.CommandLine.Arguments
import LspHost.Text.Filled
import LspHost.Text.Integer

/-!
# Usage and help texts

What a program says about its command line. The usage line names the switches and the operand; if it
is too wide its parts go on several lines. The help text describes each of them beside its name, the
descriptions filled into the column on the right. All of it depends on the width of the terminal, of
which two columns stay free.
-/

namespace LspHost.CommandLine

/-- The number of columns of a terminal whose width is not known. -/
def usualColumns : Nat := 80

/-- The number of columns that a variable of the environment states, the usual number if it states
none. -/
def columnsOf (stated : Option String) : Nat :=
  match stated.bind Text.integer? with
  | some (.ofNat (n + 1)) => n + 1
  | _ => usualColumns

/-- The number of columns that texts may take. -/
def textWidth (columns : Nat) : Int := (columns : Int) - 2

/-- Blanks. -/
def blanks (count : Nat) : String := String.ofList (List.replicate count ' ')

/-! ## Names -/

/-- What the help text calls the arguments of a switch. -/
def Switch.argumentText (switch : Switch) : String :=
  if switch.choices.isEmpty then switch.argumentName
  else "\x7b" ++ ",".intercalate switch.choices ++ "\x7d"

/-- One spelling of a switch with its arguments. -/
def Switch.spelled (switch : Switch) (name : String) : String :=
  match switch.arity with
  | .none => name
  | .one => name ++ " " ++ switch.argumentText
  | .many => name ++ " [" ++ switch.argumentText ++ " ...]"

/-- The part of the usage line about a switch. -/
def Switch.usage (switch : Switch) : String :=
  "[" ++ switch.spelled (switch.names.headD "") ++ "]"

/-- The names of commands. -/
def commandsText (commands : List (String × String)) : String :=
  "\x7b" ++ ",".intercalate (commands.map Prod.fst) ++ "\x7d"

/-- The parts of the usage line about an operand. -/
def Operand.usage : Operand → List String
  | .value name _ => ["[" ++ name ++ "]"]
  | .command _ commands => [commandsText commands, "..."]

/-! ## The usage line -/

/-- Parts in lines of a width, each as full as possible; the first line has `used` columns before
its first part. -/
def fillParts (width used indent : Int) (parts : List String) : List (List String) :=
  let (done, line, _) := parts.foldl (fun (done, line, filled) part =>
    if width < filled + 1 + part.length ∧ line ≠ [] then
      (done ++ [line], [part], indent + part.length)
    else (done, line ++ [part], filled + 1 + part.length))
    (([], [], used - 1) : List (List String) × List String × Int)
  if line.isEmpty then done else done ++ [line]

namespace Form

/-- What the usage line begins with. -/
def usageLead : String := "usage: "

/-- The usage line at a width, perhaps on several lines. Behind a short name the parts begin on its
line, with those about the operand on lines of their own. -/
def usage (form : Form) (width : Int) : String :=
  let switches := form.switches.map Switch.usage
  let operand := form.operand.usage
  let whole := " ".intercalate (form.name :: switches ++ operand)
  let indented (indent : Nat) (rows : List (List String)) : List String :=
    rows.map fun row => blanks indent ++ " ".intercalate row
  let lead := usageLead.length
  let text :=
    if (lead + whole.length : Int) ≤ width then whole
    else if 4 * (lead + form.name.length : Int) ≤ 3 * width then
      let indent := lead + form.name.length + 1
      let rows :=
        match fillParts width lead indent (form.name :: switches) with
        | first :: rest => " ".intercalate first :: indented indent rest
        | [] => []
      "\n".intercalate (rows ++ indented indent (fillParts width indent indent operand))
    else
      -- behind a long name all parts begin on a new line, together if one line is enough
      let together := fillParts width lead lead (switches ++ operand)
      let rows :=
        if together.length ≤ 1 then together
        else fillParts width lead lead switches ++ fillParts width lead lead operand
      "\n".intercalate (form.name :: indented lead rows)
  usageLead ++ text ++ "\n"

/-! ## The help text -/

/-- An item of the help text. -/
structure Item where
  /-- how far it is indented -/
  indent : Nat
  /-- what it is about -/
  name : String
  /-- what it says -/
  help : String

/-- The item about a switch. -/
def switchItem (switch : Switch) : Item where
  indent := 2
  name := ", ".intercalate (switch.names.map switch.spelled)
  help := switch.help

/-- The items about the operand. -/
def operandItems (form : Form) : List Item :=
  match form.operand with
  | .value name help => [{ indent := 2, name, help }]
  | .command help commands =>
    { indent := 2, name := commandsText commands, help } ::
      commands.map fun (name, help) => { indent := 4, name, help }

/-- The column in which the descriptions of all items begin. -/
def helpColumn (form : Form) (width : Int) : Nat :=
  let items := form.operandItems ++ form.switches.map switchItem
  let longest := (items.map fun item => item.name.length).foldl max 0
  -- two columns before the names and two behind them
  min (longest + 4) (min 24 (max (width - 20) 4).toNat)

/-- An item: its description begins beside its name if there is room, else on the next line. -/
def itemText (width : Int) (column : Nat) (item : Item) : String :=
  let lines := Text.fill (max (width - column) 11).toNat (item.help.splitOn " ")
  let name := blanks item.indent ++ item.name
  let rest := "\n" ++ blanks column
  if item.indent + item.name.length + 2 ≤ column then
    name ++ blanks (column - name.length) ++ rest.intercalate lines ++ "\n"
  else name ++ rest ++ rest.intercalate lines ++ "\n"

/-- The help text at a width. -/
def help (form : Form) (width : Int) : String :=
  let column := form.helpColumn width
  let items (items : List Item) : String := String.join (items.map (itemText width column))
  let description := if form.description.isEmpty then "" else form.description ++ "\n\n"
  let epilogue := if form.epilogue.isEmpty then "" else "\n" ++ form.epilogue ++ "\n"
  form.usage width ++ "\n" ++ description ++
    "positional arguments:\n" ++ items form.operandItems ++
    "\noptions:\n" ++ items (form.switches.map switchItem) ++ epilogue

end Form

/-! ## Command lines that lead to no work -/

/-- What a program does instead of its work. -/
structure Reply where
  /-- the exit status -/
  status : Nat
  /-- what goes to the standard output -/
  output : String := ""
  /-- what goes to the standard error -/
  errors : String := ""
  deriving DecidableEq, Repr

/-- What a program does with a command line that leads to no work, on a terminal of some columns. -/
def Stop.reply (columns : Nat) : Stop → Reply
  | .help form => { status := 0, output := form.help (textWidth columns) }
  | .version form => { status := 0, output := form.version ++ "\n" }
  | .misuse form cause =>
    let message := form.name ++ ": error: " ++ cause.message ++ "\n"
    { status := 2, errors := form.usage (textWidth columns) ++ message }

end LspHost.CommandLine
