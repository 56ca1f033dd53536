import LspHost.Machine.Shell.Token

/-!
# Shell scripts: grammar

How tokens make up commands. A script is read line by line, and a line is run before the next one is
read, so that a flaw in a script keeps only the commands from its own line on from being run.
`Reading.nextLine` reads the commands of the next line, which may go on over several lines if a
compound command does.
-/

namespace LspHost.Machine.Shell

/-! ## Keywords -/

/-- The words that have a meaning of their own at the beginning of a command. -/
def keywords : List String :=
  ["!", "\x7b", "\x7d", "case", "do", "done", "elif", "else", "esac", "fi", "for", "if", "in",
    "then", "until", "while"]

/-- The keyword that a token is. -/
def keyword? : Token → Option String
  | .word word =>
    match plain? word with
    | some octets => keywords.find? (· == String.ofList octets)
    | none => none
  | _ => none

/-- A keyword or an operator in messages. -/
def inQuotes (text : String) : String := "\"" ++ text ++ "\""

/-- A token as messages name it where no keyword can be. -/
def Token.describedPlainly : Token → String
  | .word _ => "word"
  | .redirection _ _ => "redirection"
  | .operator text => inQuotes text
  | .newline => "newline"
  | .done => "end of file"

/-- A token as messages name it, words being keywords if they can be. -/
def Token.described (token : Token) : String :=
  match keyword? token with
  | some text => inQuotes text
  | none => token.describedPlainly

/-- Refuses a token, telling perhaps which one was wanted. -/
def unexpected {α : Type} (described : String) (wanted : Option String := none) : Reader α :=
  Reader.refuse (described ++ " unexpected" ++
    match wanted with
    | some wanted => " (expecting " ++ wanted ++ ")"
    | none => "")

/-- Whether a token ends a row of commands. -/
def endsList (token : Token) : Bool :=
  match token with
  | .operator text => text == ")" || text == ";;"
  | .done => true
  | token =>
    match keyword? token with
    | some text => ["\x7d", "do", "done", "elif", "else", "esac", "fi", "then"].contains text
    | none => false

/-! ## Readings -/

/-- What kind of row of commands is read. -/
inductive Extent where
  /-- one that has a command at least -/
  | body
  /-- one that may be empty -/
  | loose
  /-- one that ends with the line -/
  | line
  deriving DecidableEq, Repr

/-- How what a command may hold is read. -/
structure Reading where
  /-- reads a row of commands -/
  list : Extent → Reader Command
  /-- reads a command that is the given one's body -/
  command : Token → Reader Command
  /-- a bound on the number of steps -/
  steps : Nat

namespace Reading

/-- How commands inside words are read. The token that ends them is put back by the reader of rows.
-/
def nested (r : Reading) : Nested where
  loose := r.list .loose
  enclosed := do
    let command ← r.list .loose
    match (← get).pushed with
    | some (.operator ")") =>
      modify fun s => { s with pushed := none }
      return command
    | some token => unexpected token.described (some (inQuotes ")"))
    | none => return command

/-- Reads a token. -/
def next (r : Reading) : Reader Token := nextToken r.nested r.steps

/-- Passes over ends of lines and gives the token behind them; the bound is on their number. -/
def nextBeyondLines (r : Reading) : Nat → Reader Token
  | 0 => return .done
  | steps + 1 => do
    match ← r.next with
    | .newline => r.nextBeyondLines steps
    | token => return token

/-- Reads a given keyword. -/
def expect (r : Reading) (keyword : String) : Reader Unit := do
  let token ← r.next
  unless keyword? token == some keyword do unexpected token.described (some (inQuotes keyword))

/-! ## Parts of commands -/

/-- Reads what a redirection leads to. -/
def readTarget (r : Reading) (detour : Detour) : Reader Target := do
  let isDelimiter := match detour with
    | .document _ => true
    | _ => false
  match ← nextToken r.nested r.steps isDelimiter with
  | .word word =>
    match detour with
    | .file access => return .file access word
    | .stream => return .stream word
    | .document withTabs => return .document (← readDocument r.nested r.steps withTabs word)
  | token => unexpected token.describedPlainly

/-- Reads the redirections behind a compound command; the bound is on their number. -/
def readRedirections (r : Reading) : Nat → Reader Redirections
  | 0 => return []
  | steps + 1 => do
    match ← r.next with
    | .redirection stream detour =>
      let target ← r.readTarget detour
      return (stream, target) :: (← r.readRedirections steps)
    | token =>
      pushToken token
      return []

/-- Reads words up to another token, which is passed over; the bound is on their number. -/
def readWords (r : Reading) : Nat → Reader (List Word × Token)
  | 0 => return ([], .done)
  | steps + 1 => do
    match ← r.next with
    | .word word =>
      let (words, token) ← r.readWords steps
      return (word :: words, token)
    | token => return ([], token)

/-- Reads the patterns of a case from the first one on, up to the closing parenthesis. A token that
is no word counts as an empty one. The bound is on their number. -/
def readPatterns (r : Reading) (token : Token) : Nat → Reader (List Word)
  | 0 => return []
  | steps + 1 => do
    let pattern := match token with
      | .word pattern => pattern
      | _ => []
    match ← r.next with
    | .operator "|" => return pattern :: (← r.readPatterns (← r.next) steps)
    | .operator ")" => return [pattern]
    | token => unexpected token.describedPlainly (some (inQuotes ")"))

/-- The assignments, the words and the redirections of a command. -/
structure Pieces where
  /-- the assignments, the last one first -/
  assignments : List (Octets × Word) := []
  /-- the words, the last one first -/
  words : List Word := []
  /-- the redirections, the last one first -/
  redirections : Redirections := []

/-- Reads the pieces of a simple command. The answer is a name if the command turns out to be a
function. The bound is on the number of pieces. -/
def readPieces (r : Reading) (p : Pieces) : Nat → Reader (Pieces × Option Octets)
  | 0 => return (p, none)
  | steps + 1 => do
    match ← r.next with
    | .word word =>
      match assignment? word, p.words with
      | some assignment, [] =>
        r.readPieces { p with assignments := assignment :: p.assignments } steps
      | _, words => r.readPieces { p with words := word :: words } steps
    | .redirection stream detour =>
      let target ← r.readTarget detour
      r.readPieces { p with redirections := (stream, target) :: p.redirections } steps
    | .operator "(" =>
      match p.words, p.assignments, p.redirections with
      | [word], [], [] =>
        match ← r.next with
        | .operator ")" =>
          match plain? word with
          | some name => if isName name then return (p, some name)
          | none => pure ()
          Reader.refuse "Bad function name"
        | token => unexpected token.describedPlainly (some (inQuotes ")"))
      | _, _, _ =>
        pushToken (.operator "(")
        return (p, none)
    | token =>
      pushToken token
      return (p, none)

/-! ## Commands -/

/-- Reads a simple command or a function that begins on a line. -/
def readSimple (r : Reading) (line : Nat) : Reader Command := do
  match ← r.readPieces {} r.steps with
  | (_, some name) => return .function line name (← r.command (← r.nextBeyondLines r.steps))
  | (p, none) =>
    return .simple line p.assignments.reverse p.words.reverse p.redirections.reverse

/-- Reads what follows `if` or `elif`; the bound is on the number of branches. -/
def readBranch (r : Reading) : Nat → Reader Command
  | 0 => return .nothing
  | steps + 1 => do
    let condition ← r.list .body
    r.expect "then"
    let success ← r.list .body
    let token ← r.next
    match keyword? token with
    | some "elif" => return .branch condition success (← r.readBranch steps)
    | some "else" =>
      let failure ← r.list .body
      r.expect "fi"
      return .branch condition success failure
    | some "fi" => return .branch condition success .nothing
    | _ => unexpected token.described (some (inQuotes "fi"))

/-- Reads the body of a loop. -/
def readBody (r : Reading) : Reader Command := do
  let body ← r.list .body
  r.expect "done"
  return body

/-- Reads what follows `while` or `until`. -/
def readLoop (r : Reading) (negated : Bool) : Reader Command := do
  let condition ← r.list .body
  r.expect "do"
  return .loop negated condition (← r.readBody)

/-- Reads what follows `for` on a line. -/
def readEach (r : Reading) (line : Nat) : Reader Command := do
  let name ← match ← r.next with
    | .word word => pure (plain? word)
    | _ => pure none
  let some name := name.filter isName | Reader.refuse "Bad for loop variable"
  let token ← r.nextBeyondLines r.steps
  let words ←
    if keyword? token == some "in" then
      let (words, token) ← r.readWords r.steps
      match token with
      | .newline | .operator ";" => pure (some words)
      | token => unexpected token.describedPlainly
    else
      match token with
      | .operator ";" => pure none
      | token =>
        pushToken token
        pure none
  let token ← r.nextBeyondLines r.steps
  unless keyword? token == some "do" do unexpected token.described (some (inQuotes "do"))
  return .each line name words (← r.readBody)

/-- Reads the cases up to `esac`; the bound is on their number. -/
def readCases (r : Reading) : Nat → Reader (List (List Word × Command))
  | 0 => return []
  | steps + 1 => do
    let token ← r.nextBeyondLines r.steps
    if keyword? token == some "esac" then return []
    let token ← match token with
      | .operator "(" => r.next
      | token => pure token
    let patterns ← r.readPatterns token r.steps
    let body ← r.list .loose
    let token ← r.nextBeyondLines r.steps
    if keyword? token == some "esac" then return [(patterns, body)]
    match token with
    | .operator ";;" => return (patterns, body) :: (← r.readCases steps)
    | token => unexpected token.described (some (inQuotes ";;"))

/-- Reads what follows `case` on a line. -/
def readChoice (r : Reading) (line : Nat) : Reader Command := do
  match ← r.next with
  | .word subject =>
    let token ← r.nextBeyondLines r.steps
    unless keyword? token == some "in" do unexpected token.described (some (inQuotes "in"))
    return .choice line subject (← r.readCases r.steps)
  | token => unexpected token.describedPlainly (some "word")

/-- A command with the redirections behind it. -/
def redirected (r : Reading) (line : Nat) (body : Command) : Reader Command := do
  match ← r.readRedirections r.steps with
  | [] => return body
  | redirections => return .redirected line body redirections

/-- Reads the command that begins with a token. -/
def readCommand (r : Reading) (token : Token) : Reader Command := do
  let line := (← get).line
  let simple : Reader Command := do
    pushToken token
    r.readSimple line
  match token, keyword? token with
  | .operator "(", _ =>
    let body ← r.list .body
    match ← r.next with
    | .operator ")" => return .apart line body (← r.readRedirections r.steps)
    | token => unexpected token.described (some (inQuotes ")"))
  | _, some "if" => r.redirected line (← r.readBranch r.steps)
  | _, some "while" => r.redirected line (← r.readLoop false)
  | _, some "until" => r.redirected line (← r.readLoop true)
  | _, some "for" => r.redirected line (← r.readEach line)
  | _, some "case" => r.redirected line (← r.readChoice line)
  | _, some "\x7b" =>
    let body ← r.list .body
    r.expect "\x7d"
    r.redirected line body
  | .word _, none | .redirection _ _, _ => simple
  | token, _ => unexpected token.described

/-- Reads commands of which each reads what the one before it writes; the bound is on their number.
-/
def readStages (r : Reading) : Nat → Reader (List Command)
  | 0 => return []
  | steps + 1 => do
    match ← r.next with
    | .operator "|" =>
      let stage ← r.readCommand (← r.nextBeyondLines r.steps)
      return stage :: (← r.readStages steps)
    | token =>
      pushToken token
      return []

/-- Reads the pipeline that begins with a token. -/
def readPipeline (r : Reading) (token : Token) : Reader Command := do
  let negated := keyword? token == some "!"
  let first ← r.readCommand (← if negated then r.next else pure token)
  let command ← match ← r.readStages r.steps with
    | [] => pure first
    | rest => pure (.pipeline (first :: rest))
  return if negated then .negate command else command

/-- Reads what depends on the outcome of a command; the bound is on the number of pipelines. -/
def readChain (r : Reading) (first : Command) : Nat → Reader Command
  | 0 => return first
  | steps + 1 => do
    match ← r.next with
    | .operator "&&" =>
      let second ← r.readPipeline (← r.nextBeyondLines r.steps)
      r.readChain (.both first second) steps
    | .operator "||" =>
      let second ← r.readPipeline (← r.nextBeyondLines r.steps)
      r.readChain (.either first second) steps
    | token =>
      pushToken token
      return first

/-- The commands of a row, the last one first, as one command. -/
def joined : List Command → Command
  | [] => .nothing
  | [command] => command
  | commands => .sequence commands.reverse

/-- Reads a row of commands behind those that are read, the last of which comes first. What ends the
row is put back unless it is the end of a line. The bound is on the number of commands. -/
def readList (r : Reading) (extent : Extent) (before : List Command) : Nat → Reader Command
  | 0 => return joined before
  | steps + 1 => do
    let token ← if extent == .line then r.next else r.nextBeyondLines r.steps
    match token with
    | .newline => return joined before
    | .done =>
      pushToken .done
      return joined before
    | token =>
      -- a row that must not be empty takes its first token for that of a command
      if extent != .line && endsList token && (extent == .loose || !before.isEmpty) then
        pushToken token
        return joined before
      let command ← r.readChain (← r.readPipeline token) r.steps
      match ← r.next with
      | .operator "&" => r.readList extent (.background command :: before) steps
      | .operator ";" => r.readList extent (command :: before) steps
      | .newline =>
        pushToken .newline
        r.readList extent (command :: before) steps
      | token =>
        pushToken token
        match token, extent with
        | .done, _ | _, .body | _, .loose => return joined (command :: before)
        | token, .line => unexpected token.describedPlainly

/-- How scripts are read whose commands hold others at most so deep. -/
def ofDepth (steps : Nat) : Nat → Reading
  | 0 =>
    let tooDeep : Reader Command := Reader.refuse "too deep"
    { list := fun _ => tooDeep, command := fun _ => tooDeep, steps }
  | depth + 1 =>
    let r := ofDepth steps depth
    { list := fun extent => r.readList extent [] steps, command := r.readCommand, steps }

/-- The greatest depth of commands within commands. -/
def depthLimit : Nat := 1000

/-- How a script is read. -/
def ofScript (script : Octets) : Reading := ofDepth (2 * script.length + 16) depthLimit

/-- Reads the commands of the next line; no answer at the end of the script. -/
def nextLine (r : Reading) : Reader (Option Command) := do
  match ← r.next with
  | .done => return none
  | .newline => return some .nothing
  | token =>
    pushToken token
    return some (← r.list .line)

end Reading

end LspHost.Machine.Shell
