import LspHost.Text.Digits
import LspHost.Text.Quoted

/-!
# Command line arguments

A command line is a row of switches with their arguments, of operands, and of the marker `--`, after
which everything is an operand. A long switch may be cut short as long as no other one begins in the
same way, and its argument may follow an equals sign; what follows a short switch in the same text
is its argument, or more short switches if it takes none. `Form.scan` reads the switches and the
operand of one form; `Program.parse` also reads the command that a program's operand names, with the
rest of the line as its arguments.
-/

namespace LspHost.CommandLine

/-- How many arguments a switch takes. -/
inductive Arity where
  /-- none -/
  | none
  /-- exactly one -/
  | one
  /-- any number -/
  | many
  deriving DecidableEq, Repr

/-- What a switch is for. -/
inductive Role where
  /-- to be asked for later -/
  | value
  /-- to print the help text and stop -/
  | help
  /-- to print the version and stop -/
  | version
  deriving DecidableEq, Repr

/-- A switch. -/
structure Switch where
  /-- its spellings -/
  names : List String
  /-- how many arguments it takes -/
  arity : Arity := .none
  /-- what its arguments are called -/
  argumentName : String := ""
  /-- what it is for -/
  role : Role := .value
  /-- the arguments that it takes; empty if it takes any -/
  choices : List String := []
  /-- what the help text says about it -/
  help : String
  deriving DecidableEq, Repr

/-- What a program or a command works on. -/
inductive Operand where
  /-- something that may be named -/
  | value (name help : String)
  /-- a command with the rest of the line, named by one of several names -/
  | command (help : String) (commands : List (String × String))
  deriving DecidableEq, Repr

/-- The switches and texts of a program or of one of its commands. -/
structure Form where
  /-- its name in messages -/
  name : String
  /-- what the help text says about it at the beginning -/
  description : String := ""
  /-- what it works on -/
  operand : Operand
  /-- its switches -/
  switches : List Switch
  /-- what the help text says at the end -/
  epilogue : String := ""
  /-- what the version switch prints -/
  version : String := ""
  deriving DecidableEq, Repr

/-- What is wrong with a command line. -/
inductive Misuse where
  /-- a text is attached to a switch that takes none -/
  | attached (switch : Switch) (text : String)
  /-- a switch lacks its argument -/
  | noArgument (switch : Switch)
  /-- an argument of a switch is none of those that it takes -/
  | badChoice (switch : Switch) (text : String)
  /-- there is no command of this name among these -/
  | noCommand (text : String) (commands : List String)
  /-- a switch is cut so short that it could be several ones -/
  | ambiguous (text : String) (candidates : List String)
  /-- some pieces were not understood -/
  | notUnderstood (texts : List String)
  deriving DecidableEq, Repr

/-- A message about a switch. -/
def Switch.complaint (switch : Switch) (message : String) : String :=
  "argument " ++ "/".intercalate switch.names ++ ": " ++ message

/-- A message about a text that is none of those there are. -/
def choiceMessage (text : String) (choices : List String) : String :=
  "invalid choice: " ++ Text.quoted text ++ " (choose from " ++
    ", ".intercalate (choices.map Text.quoted) ++ ")"

/-- The wording of what is wrong with a command line. -/
def Misuse.message : Misuse → String
  | .attached switch text =>
    switch.complaint ("ignored explicit argument " ++ Text.quoted text)
  | .noArgument switch => switch.complaint "expected one argument"
  | .badChoice switch text => switch.complaint (choiceMessage text switch.choices)
  | .noCommand text commands => "argument command: " ++ choiceMessage text commands
  | .ambiguous text candidates =>
    "ambiguous option: " ++ text ++ " could match " ++ ", ".intercalate candidates
  | .notUnderstood texts => "unrecognized arguments: " ++ " ".intercalate texts

/-- Why a command line leads to no work. -/
inductive Stop where
  /-- the help text of a form is asked for -/
  | help (form : Form)
  /-- the version is asked for -/
  | version (form : Form)
  /-- the line is refused by a form -/
  | misuse (form : Form) (cause : Misuse)
  deriving DecidableEq, Repr

/-- A switch as it was given, with its arguments. -/
structure Given where
  /-- the switch -/
  switch : Switch
  /-- its arguments -/
  arguments : List String
  deriving DecidableEq, Repr

/-- A switch with the arguments that were read for it, of which the first `--` does not count. -/
def Given.ofArguments (switch : Switch) (arguments : List String) : Given where
  switch := switch
  arguments := arguments.erase "--"

/-- What a form finds on a command line. -/
structure Found where
  /-- the switches in order -/
  given : List Given := []
  /-- the operand, with everything after it if the operand is a command -/
  operand : List String := []
  /-- what was not understood -/
  extras : List String := []
  deriving DecidableEq, Repr

/-- The arguments of a switch, those given last. -/
def Found.arguments? (f : Found) (name : String) : Option (List String) :=
  (f.given.reverse.find? (·.switch.names.contains name)).map Given.arguments

/-- What stands for the one argument of a switch that is given without it. -/
def noArgument : String := "[]"

/-- The one argument of a switch, if the switch is given. -/
def Found.argument? (f : Found) (name : String) : Option String :=
  (f.arguments? name).map fun arguments => arguments.headD noArgument

/-- Whether a switch is given. -/
def Found.has (f : Found) (name : String) : Bool := (f.arguments? name).isSome

namespace Form

/-- Every spelling with its switch, in order. -/
def spellings (form : Form) : List (String × Switch) :=
  form.switches.flatMap fun switch => switch.names.map fun name => (name, switch)

/-- The switch of a spelling. -/
def switch? (form : Form) (name : String) : Option Switch :=
  (form.spellings.find? (·.1 == name)).map Prod.snd

/-- What a switch on the command line is: a switch of the form, by one of its spellings and
perhaps with a text attached, or unknown. -/
inductive Reading where
  /-- a switch of the form -/
  | known (name : String) (switch : Switch) (attached : Option String)
  /-- no switch of the form -/
  | unknown
  deriving DecidableEq, Repr

/-- A piece of a command line. -/
inductive Token where
  /-- what is no switch -/
  | plain (text : String)
  /-- the marker after which there are no switches -/
  | marker
  /-- a switch as it is written -/
  | switch (text : String) (reading : Reading)
  deriving DecidableEq, Repr

/-- The text of a piece. -/
def Token.text : Token → String
  | .plain text => text
  | .marker => "--"
  | .switch text _ => text

/-- Whether a piece is a switch. -/
def Token.isSwitch : Token → Bool
  | .switch .. => true
  | _ => false

/-- A text cut at its first equals sign. -/
def cutAtEquals (text : String) : String × Option String :=
  let (name, rest) := text.toList.span (· != '=')
  (String.ofList name, match rest with
    | _ :: value => some (String.ofList value)
    | [] => none)

/-- The ways to read a text as a switch that is cut short, or as a short switch with its argument.
-/
def abbreviated (form : Form) (text : String) : List (String × Reading) :=
  match text.toList with
  | '-' :: '-' :: _ =>
    let (start, value) := cutAtEquals text
    form.spellings.filterMap fun (name, switch) =>
      if start.toList.isPrefixOf name.toList then some (name, .known name switch value) else none
  | '-' :: letter :: rest =>
    let short := String.ofList ['-', letter]
    form.spellings.filterMap fun (name, switch) =>
      if name == short then some (name, .known name switch (some (String.ofList rest)))
      else if text.toList.isPrefixOf name.toList then some (name, .known name switch none)
      else none
  | _ => []

/-- Whether a text is a negative number, which is no switch: digits of any script, with a point
before the last of them if there is one, and perhaps a line feed at the end. -/
def isNegative (text : String) : Bool :=
  match text.toList with
  | '-' :: rest =>
    let (whole, part) := rest.span Text.isDecimal
    match part with
    | [] | ['\n'] => !whole.isEmpty
    | '.' :: rest =>
      let (digits, after) := rest.span Text.isDecimal
      !digits.isEmpty && (after == [] || after == ['\n'])
    | _ => false
  | _ => false

/-- Reads a text that begins with a hyphen and is longer. -/
def readSwitch (form : Form) (text : String) : Except Stop Token :=
  match form.switch? text with
  | some switch => .ok (.switch text (.known text switch none))
  | none =>
    -- a whole spelling before an equals sign wins over the same text cut short
    let (name, value) := cutAtEquals text
    match value, form.switch? name with
    | some value, some switch =>
      .ok (.switch text (.known name switch (some value)))
    | _, _ =>
      match form.abbreviated text with
      | [] =>
        if isNegative text || text.toList.contains ' ' then .ok (.plain text)
        else .ok (.switch text .unknown)
      | [(_, reading)] => .ok (.switch text reading)
      | several => .error (.misuse form (.ambiguous text (several.map Prod.fst)))

/-- The pieces of a command line. -/
def tokens (form : Form) : List String → Except Stop (List Token)
  | [] => .ok []
  | text :: rest =>
    if text == "--" then .ok (.marker :: rest.map .plain)
    else do
      let token ← match text.toList with
        | '-' :: _ :: _ => form.readSwitch text
        | _ => pure (.plain text)
      return token :: (← form.tokens rest)

/-- What reading a switch gives: the switches that it stands for, what was not understood, and the
pieces after it. -/
structure Taken where
  /-- the switches -/
  given : List Given
  /-- what was not understood -/
  extras : List String := []
  /-- the pieces after it -/
  rest : List Token

/-- Reads a switch without a text attached. -/
def takeApart (form : Form) (switch : Switch) (rest : List Token) : Except Stop Taken :=
  match switch.arity, rest with
  | .none, rest => .ok { given := [.ofArguments switch []], rest }
  | .one, .plain text :: rest => .ok { given := [.ofArguments switch [text]], rest }
  | .one, _ => .error (.misuse form (.noArgument switch))
  | .many, rest =>
    let isPlain : Token → Bool
      | .plain _ => true
      | _ => false
    .ok
      { given := [.ofArguments switch ((rest.takeWhile isPlain).map Token.text)]
        rest := rest.dropWhile isPlain }

/-- Whether a spelling is that of a short switch: one hyphen and a letter. -/
def isShort (name : String) : Bool :=
  match name.toList with
  | '-' :: letter :: _ => letter != '-'
  | _ => false

/-- Reads a switch with the text that is attached to it. If the switch takes an argument, the text
is the argument. After a short switch that takes none it must be further short switches; the last
of them may have an argument of its own, attached or in the pieces that follow. -/
def takeAttached (form : Form) (name : String) (switch : Switch) (attached : List Char)
    (rest : List Token) : Except Stop Taken :=
  let ignored : Stop := .misuse form (.attached switch (String.ofList attached))
  match switch.arity with
  | .one | .many => .ok { given := [.ofArguments switch [String.ofList attached]], rest }
  | .none =>
    match attached with
    | [] => .error ignored
    | letter :: letters =>
      if isShort name then
        let next := String.ofList ['-', letter]
        match form.switch? next with
        | none => .error ignored
        | some other => do
          let taken ←
            if letters.isEmpty then form.takeApart other rest
            else form.takeAttached next other letters rest
          return { taken with given := .ofArguments switch [] :: taken.given }
      else .error ignored
termination_by attached.length

/-- Reads a switch with its arguments. -/
def takeSwitch (form : Form) (text : String) (reading : Reading) (rest : List Token) :
    Except Stop Taken :=
  match reading with
  | .unknown => .ok { given := [], extras := [text], rest }
  | .known _ switch none => form.takeApart switch rest
  | .known name switch (some attached) => form.takeAttached name switch attached.toList rest

/-- What a switch does at once: it may end the reading, or refuse its arguments. -/
def act (form : Form) (given : Given) : Except Stop Unit :=
  match given.switch.role with
  | .help => .error (.help form)
  | .version => .error (.version form)
  | .value =>
    let choices := given.switch.choices
    match given.arguments.find? fun argument => !choices.isEmpty && !choices.contains argument with
    | none => .ok ()
    | some argument => .error (.misuse form (.badChoice given.switch argument))

/-- The number of pieces at the front that the operand takes. A command takes everything after it;
another operand takes one piece and the marker on either side of it. -/
def operandLength (takesRest : Bool) (pieces : List Token) : Nat :=
  let markers (pieces : List Token) : Nat := (pieces.takeWhile (· == .marker)).length
  let before := markers pieces
  match pieces.drop before with
  | .plain _ :: rest => if takesRest then pieces.length else before + 1 + markers rest
  | _ => if takesRest then 0 else before

/-- The operand in the pieces that it takes. -/
def operandOf (takesRest : Bool) (pieces : List Token) : List String :=
  let texts := pieces.map Token.text
  if takesRest then texts else texts.erase "--"

/-- Reads the pieces of a command line; `wanted` says whether the operand is still to come, and
`fuel` bounds the number of pieces. -/
def scanTokens (form : Form) (takesRest : Bool) (fuel : Nat) (wanted : Bool)
    (pieces : List Token) : Except Stop Found :=
  match fuel with
  | 0 => .ok { extras := pieces.map Token.text }
  | fuel + 1 =>
    match pieces with
    | .switch text reading :: rest => do
      let taken ← form.takeSwitch text reading rest
      taken.given.forM form.act
      let found ← form.scanTokens takesRest fuel wanted taken.rest
      return { found with
        given := taken.given ++ found.given
        extras := taken.extras ++ found.extras }
    | pieces =>
      let count := if wanted then operandLength takesRest pieces else 0
      if count = 0 then
        -- what the operand does not take is passed over up to the next switch
        let passed := pieces.takeWhile fun token => !token.isSwitch
        let rest := pieces.dropWhile fun token => !token.isSwitch
        if rest.isEmpty then .ok { extras := passed.map Token.text }
        else do
          let found ← form.scanTokens takesRest fuel wanted rest
          return { found with extras := passed.map Token.text ++ found.extras }
      else do
        let found ← form.scanTokens takesRest fuel false (pieces.drop count)
        return { found with operand := operandOf takesRest (pieces.take count) }

/-- Whether the operand takes the rest of the line. -/
def takesRest (form : Form) : Bool :=
  match form.operand with
  | .value .. => false
  | .command .. => true

/-- Reads the switches and the operand of a command line. -/
def scan (form : Form) (arguments : List String) : Except Stop Found := do
  let pieces ← form.tokens arguments
  form.scanTokens form.takesRest (2 * pieces.length + 2) true pieces

end Form

/-- A program with its commands, if it has any. -/
structure Program where
  /-- its own form -/
  form : Form
  /-- the forms of its commands by their names -/
  commands : List (String × Form) := []

/-- What a command line asks for. -/
structure Request where
  /-- the command, if one is named -/
  command : Option String
  /-- the switches and the operand -/
  found : Found

namespace Program

/-- What was not understood makes a command line be refused. -/
def finish (p : Program) (command : Option String) (found : Found) (extras : List String) :
    Except Stop Request :=
  if extras.isEmpty then .ok { command, found }
  else .error (.misuse p.form (.notUnderstood extras))

/-- Reads a command line. -/
def parse (p : Program) (arguments : List String) : Except Stop Request := do
  let own ← p.form.scan arguments
  if p.commands.isEmpty then p.finish none own own.extras
  else
    match own.operand with
    | [] => p.finish none own own.extras
    | name :: rest =>
      match p.commands.find? (·.1 == name) with
      | some (_, form) =>
        let found ← form.scan rest
        p.finish (some name) found (own.extras ++ found.extras)
      | none => throw (.misuse p.form (.noCommand name (p.commands.map Prod.fst)))

end Program

end LspHost.CommandLine
