import LspHost.Machine.Shell.Syntax

/-!
# Shell scripts: tokens

A script is read token by token, since what a token is depends on the commands before it: a here
document follows the line that announces it, and what stands between `$(` and `)` is a row of
commands in the middle of a word. Readers of commands are therefore parameters of the readers of
words here.
-/

namespace LspHost.Machine.Shell

/-- What is wrong with a script, and on which line. -/
structure Flaw where
  /-- the line -/
  line : Nat
  /-- what is wrong -/
  message : String
  deriving DecidableEq, Repr

/-- A redirection operator. -/
inductive Detour where
  /-- a stream is opened on a file -/
  | file (access : Access)
  /-- a stream leads where another one leads -/
  | stream
  /-- a stream reads a here document, with or without the tabs at the beginning of its lines -/
  | document (withTabs : Bool)
  deriving DecidableEq, Repr

/-- A token of a script. -/
inductive Token where
  /-- a word -/
  | word (parts : Word)
  /-- a redirection of a stream -/
  | redirection (stream : Nat) (detour : Detour)
  /-- an operator -/
  | operator (text : String)
  /-- the end of a line -/
  | newline
  /-- the end of the script -/
  | done

/-- What is left of a script to be read. -/
structure Source where
  /-- the octets -/
  text : Octets
  /-- the number of the present line -/
  line : Nat := 1
  /-- the number of lines that were taken out of the text behind the present line -/
  held : Nat := 0
  /-- a token that was read too early -/
  pushed : Option Token := none

/-- Reading a script. -/
abbrev Reader : Type → Type := EStateM Flaw Source

namespace Reader

/-- Refuses the script. -/
def refuse {α : Type} (message : String) : Reader α := do
  throw { line := (← get).line, message }

/-! ## Octets -/

/-- Octets without the line continuations at their front, and the number of these. -/
def skipJoins : Octets → Octets × Nat
  | '\\' :: '\n' :: rest =>
    let (rest, count) := skipJoins rest
    (rest, count + 1)
  | text => (text, 0)

/-- The next octet, which is left in its place; line continuations before it are dropped. -/
def peek : Reader (Option Char) := do
  let s ← get
  let (text, count) := skipJoins s.text
  unless count = 0 do set { s with text, line := s.line + count }
  return text.head?

/-- Passes over the next octet. -/
def drop : Reader Unit :=
  modify fun s =>
    match s.text with
    | '\n' :: rest => { s with text := rest, line := s.line + 1 }
    | _ :: rest => { s with text := rest }
    | [] => s

/-- Passes over the next octet if it is a given one; tells whether it was. -/
def accept (c : Char) : Reader Bool := do
  if (← peek) == some c then
    drop
    return true
  else return false

/-- Reads octets as long as they pass a check; `fuel` bounds their number. -/
def readWhile (check : Char → Bool) : Nat → Reader Octets
  | 0 => return []
  | fuel + 1 => do
    match ← peek with
    | some c =>
      if check c then
        drop
        return c :: (← readWhile check fuel)
      else return []
    | none => return []

end Reader

/-! ## Parts -/

/-- The parts of a word as far as they are read. -/
structure Gathered where
  /-- the parts that are complete, the last one first -/
  parts : List Part := []
  /-- the octets of the last part, the last one first -/
  run : Octets := []
  /-- whether these are quoted -/
  isQuoted : Bool := false

namespace Gathered

/-- Completes the last part. -/
def flush (g : Gathered) : Gathered :=
  if g.run.isEmpty then g
  else { g with parts := .literal g.run.reverse g.isQuoted :: g.parts, run := [] }

/-- Adds an octet. -/
def add (g : Gathered) (c : Char) (isQuoted : Bool) : Gathered :=
  if g.isQuoted == isQuoted then { g with run := c :: g.run }
  else { g.flush with run := [c], isQuoted }

/-- Adds octets. -/
def addAll (g : Gathered) (octets : Octets) (isQuoted : Bool) : Gathered :=
  octets.foldl (fun g c => g.add c isQuoted) g

/-- Adds a part. -/
def addPart (g : Gathered) (part : Part) : Gathered :=
  let g := g.flush
  { g with parts := part :: g.parts }

/-- Notes that there are quotes, even if there is nothing between them. -/
def addQuotes (g : Gathered) : Gathered := g.addPart (.literal [] true)

/-- Adds parts. -/
def addParts (g : Gathered) (parts : Word) : Gathered := parts.foldl addPart g

/-- The word. -/
def word (g : Gathered) : Word := g.flush.parts.reverse

end Gathered

/-- Where a row of parts ends. -/
inductive Limit where
  /-- before a character that no word holds without quotes -/
  | word
  /-- at a double quote -/
  | quote
  /-- at a closing brace -/
  | brace
  /-- at two closing parentheses -/
  | sum
  /-- at the end of the text -/
  | text
  deriving DecidableEq, Repr

/-- Whether a character ends a word that is not quoted. -/
def endsWord (c : Char) : Bool := " \t\n;&|<>()".toList.contains c

/-- Whether a character is the name of a parameter that is no variable. -/
def isSpecial (c : Char) : Bool := "@*#?-$!".toList.contains c || c.isDigit

/-- Whether a backslash between double quotes takes the meaning of a character away. -/
def isEscapable (limit : Limit) (c : Char) : Bool :=
  "\\$`".toList.contains c || (c == '"' && limit != .text) || (c == '}' && limit == .brace)

/-- The commands between backquotes: up to the next backquote, and what comes after it. Backslashes
keep backslashes, dollar signs, backquotes and, between double quotes, these. -/
def takeBackquoted (isDouble : Bool) : Octets → Option (Octets × Octets)
  | [] => none
  | '`' :: rest => some ([], rest)
  | '\\' :: c :: rest => do
    let (inner, after) ← takeBackquoted isDouble rest
    if c = '\n' then return (inner, after)
    else if "\\`$".toList.contains c || (isDouble && c == '"') then return (c :: inner, after)
    else return ('\\' :: c :: inner, after)
  | c :: rest => do
    let (inner, after) ← takeBackquoted isDouble rest
    return (c :: inner, after)

/-- What follows the name of a parameter between braces. -/
inductive Operator where
  /-- nothing -/
  | none
  /-- a word in place of its value -/
  | word (build : Word → Use)
  /-- a pattern -/
  | pattern (atEnd longest : Bool)
  /-- something that means nothing -/
  | unknown

/-- Reads the operator after the name of a parameter. -/
def readOperator : Reader Operator := do
  let isColon ← Reader.accept ':'
  let c ← Reader.peek
  if c.isSome && !(isColon && c == some '}') then Reader.drop
  match c with
  | some '}' => return if isColon then .unknown else .none
  | some '-' => return .word (.orElse isColon)
  | some '=' => return .word (.orAssign isColon)
  | some '?' => return .word (.orFail isColon)
  | some '+' => return .word (.andThen isColon)
  | some '#' => if isColon then return .unknown else return .pattern false (← Reader.accept '#')
  | some '%' => if isColon then return .unknown else return .pattern true (← Reader.accept '%')
  | _ => return .unknown

/-- Reads the name of a parameter between braces; the second answer tells whether its length is
meant. There is no answer if there is no such name. -/
def readBracedName (fuel : Nat) : Reader (Option (Octets × Bool)) := do
  let name : Reader (Option Octets) := do
    match ← Reader.peek with
    | some c =>
      if beginsName c then return some (← Reader.readWhile inName fuel)
      else if c.isDigit then return some (← Reader.readWhile Char.isDigit fuel)
      else if isSpecial c then
        Reader.drop
        return some [c]
      else return none
    | none => return none
  if (← Reader.peek) != some '#' then return (← name).map (·, false)
  else
    Reader.drop
    match ← Reader.peek with
    | some c =>
      if inName c then return (← name).map (·, true)
      else if isSpecial c then
        -- `${#-}` is the length of a parameter, `${#-word}` the number of arguments or a word
        let before ← get
        Reader.drop
        if (← Reader.peek) == some '}' then return some ([c], true)
        set before
        return some (['#'], false)
      else return some (['#'], false)
    | none => return some (['#'], false)

/-- How commands inside words are read. -/
structure Nested where
  /-- reads commands up to the end of the text -/
  loose : Reader Command
  /-- reads commands up to a closing parenthesis, which is passed over -/
  enclosed : Reader Command

mutual

/-- Reads parts up to a limit, which is passed over unless it is that of a word. `isDelimiter` tells
whether they are the delimiter of a here document, where dollar signs and backquotes stand for
themselves, `isDouble` whether they stand between double quotes, `inner` whether quotes are open
within these, and `depth` counts open parentheses. `fuel` bounds the number of steps. -/
def readParts (nested : Nested) (isDelimiter : Bool) (fuel : Nat) (limit : Limit)
    (isDouble inner : Bool) (depth : Nat) (g : Gathered) : Reader Word :=
  match fuel with
  | 0 => return g.word
  | fuel + 1 => do
    let continue_ (g : Gathered) : Reader Word :=
      readParts nested isDelimiter fuel limit isDouble inner depth g
    let some c ← Reader.peek |
      match limit with
      | .word | .text => return g.word
      | .sum => Reader.refuse "Missing '))'"
      | .quote => Reader.refuse "Unterminated quoted string"
      | .brace =>
        Reader.refuse (if isDouble then "Unterminated quoted string" else "Missing '\x7d'")
    if limit == .word && endsWord c then return g.word
    Reader.drop
    match c with
    | '\\' => do
      -- the octet after a backslash is taken as it is
      match (← get).text with
      | [] => continue_ (g.add '\\' isDouble)
      | c :: _ =>
        Reader.drop
        if isDouble && !isEscapable limit c then continue_ ((g.add '\\' true).add c true)
        else continue_ (g.add c true)
    | '\'' =>
      if isDouble then continue_ (g.add c true)
      else
        let text := (← get).text
        let quoted := text.takeWhile (· != '\'')
        modify fun s =>
          { s with
            text := text.drop quoted.length
            line := s.line + quoted.countP (· == '\n') }
        if (← get).text.isEmpty then Reader.refuse "Unterminated quoted string"
        Reader.drop
        continue_ (g.addQuotes.addAll quoted true)
    | '"' =>
      match limit with
      | .quote => return g.word
      | .text | .sum => continue_ (g.add c true)
      | .word | .brace =>
        if isDouble then readParts nested isDelimiter fuel limit isDouble (!inner) depth g
        else
          let parts ← readParts nested isDelimiter fuel .quote true false 0 {}
          continue_ (g.addQuotes.addParts parts)
    | '\x7d' =>
      if limit == .brace && !inner then return g.word else continue_ (g.add c isDouble)
    | '(' =>
      readParts nested isDelimiter fuel limit isDouble inner (depth + 1) (g.add c isDouble)
    | ')' =>
      let mayEnd := limit == .sum && depth = 0
      if ← (if mayEnd then Reader.accept ')' else pure false) then return g.word
      else readParts nested isDelimiter fuel limit isDouble inner (depth - 1) (g.add c isDouble)
    | '`' =>
      if isDelimiter then continue_ (g.add c isDouble)
      else
        let some (script, after) := takeBackquoted isDouble (← get).text |
          modify fun s => { s with text := [], line := s.line + s.text.countP (· == '\n') }
          Reader.refuse "EOF in backquote substitution"
        let before ← get
        set ({ text := script } : Source)
        let command ← nested.loose
        let passed := before.text.length - after.length
        set
          { before with
            text := after
            line := before.line + (before.text.take passed).countP (· == '\n') }
        continue_ (g.addPart (.output command isDouble))
    | '$' =>
      if isDelimiter then continue_ (g.add c isDouble)
      else
        match ← readDollar nested fuel isDouble with
        | some part => continue_ (g.addPart part)
        | none => continue_ (g.add c isDouble)
    | c => continue_ (g.add c isDouble)

/-- Reads what follows a dollar sign; no answer if this stands for itself. -/
def readDollar (nested : Nested) (fuel : Nat) (isDouble : Bool) :
    Reader (Option Part) :=
  match fuel with
  | 0 => return none
  | fuel + 1 => do
    let some c ← Reader.peek | return none
    if c = '(' then
      Reader.drop
      if ← Reader.accept '(' then
        return some (.arithmetic (← readParts nested false fuel .sum true false 0 {}) isDouble)
      else return some (.output (← nested.enclosed) isDouble)
    else if c = '\x7b' then
      Reader.drop
      return some (← readBraced nested fuel isDouble)
    else if beginsName c then
      return some (.parameter (← Reader.readWhile inName fuel) .value isDouble)
    else if isSpecial c then
      Reader.drop
      return some (.parameter [c] .value isDouble)
    else return none

/-- Reads what follows `${`. -/
def readBraced (nested : Nested) (fuel : Nat) (isDouble : Bool) : Reader Part :=
  match fuel with
  | 0 => return .literal [] isDouble
  | fuel + 1 => do
    let rest (isDouble : Bool) : Reader Word :=
      readParts nested false fuel .brace isDouble false 0 {}
    let bad (name : Octets) : Reader Part := do
      let _ ← rest isDouble
      return .parameter name .unknown isDouble
    match ← readBracedName fuel with
    | none => bad []
    | some (name, true) =>
      if ← Reader.accept '\x7d' then return .parameter name .length isDouble else bad name
    | some (name, false) =>
      match ← readOperator with
      | .none => return .parameter name .value isDouble
      | .word build => return .parameter name (build (← rest isDouble)) isDouble
      | .pattern atEnd longest =>
        return .parameter name (.trim atEnd longest (← rest false)) isDouble
      | .unknown => bad name

end

/-! ## Tokens -/

/-- Whether a part has quotes. -/
def Part.hasQuotes : Part → Bool
  | .literal _ isQuoted | .parameter _ _ isQuoted | .output _ isQuoted | .arithmetic _ isQuoted =>
    isQuoted

/-- The octets of the parts that stand for themselves. -/
def literals (word : Word) : Octets :=
  word.flatMap fun
    | .literal octets _ => octets
    | _ => []

/-- Reads the redirection operator after its first character. -/
def readDetour (first : Char) : Reader Detour := do
  if first = '>' then
    if ← Reader.accept '>' then return .file .append
    else if ← Reader.accept '|' then return .file .overwrite
    else if ← Reader.accept '&' then return .stream
    else return .file .write
  else if ← Reader.accept '<' then return .document (!(← Reader.accept '-'))
  else if ← Reader.accept '&' then return .stream
  else if ← Reader.accept '>' then return .file .both
  else return .file .read

/-- Reads a redirection or a word. A single digit right before a redirection operator is the number
of its stream. -/
def readWord (nested : Nested) (isDelimiter : Bool) (fuel : Nat) : Reader Token := do
  let word ← readParts nested isDelimiter fuel .word false false 0 {}
  let next ← Reader.peek
  let redirection (usual : Nat) (first : Char) : Reader Token := do
    Reader.drop
    let detour ← readDetour first
    return .redirection usual detour
  match next, word with
  | some '>', [] => redirection 1 '>'
  | some '<', [] => redirection 0 '<'
  | some c, [.literal [digit] false] =>
    if (c == '>' || c == '<') && digit.isDigit then redirection (digit.toNat - '0'.toNat) c
    else return .word word
  | _, _ => return .word word

/-- Reads a token that was not read before. -/
def readToken (nested : Nested) (isDelimiter : Bool) : Nat → Reader Token
  | 0 => return .done
  | fuel + 1 => do
    let some c ← Reader.peek | return .done
    let operator (c : Char) : Reader Token := do
      Reader.drop
      let isAlone := c == '(' || c == ')'
      if ← (if isAlone then pure false else Reader.accept c) then
        return .operator (String.ofList [c, c])
      else return .operator (String.singleton c)
    match c with
    | ' ' | '\t' =>
      Reader.drop
      readToken nested isDelimiter fuel
    | '#' =>
      modify fun s => { s with text := s.text.dropWhile (· != '\n') }
      readToken nested isDelimiter fuel
    | '\n' =>
      Reader.drop
      modify fun s => { s with line := s.line + s.held, held := 0 }
      return .newline
    | '&' | '|' | ';' | '(' | ')' => operator c
    | _ => readWord nested isDelimiter fuel

/-- Reads a token. -/
def nextToken (nested : Nested) (fuel : Nat) (isDelimiter : Bool := false) : Reader Token := do
  match (← get).pushed with
  | some token =>
    modify fun s => { s with pushed := none }
    return token
  | none => readToken nested isDelimiter fuel

/-- Puts a token back. -/
def pushToken (token : Token) : Reader Unit := modify fun s => { s with pushed := some token }

/-! ## Here documents -/

/-- Whether a line goes on in the next one. -/
def isContinued (line : Octets) : Bool :=
  (line.reverse.takeWhile (· == '\\')).length % 2 = 1

/-- The lines of a here document, each with its line feed, and what comes after the line that ends
it; if `joins` holds, lines may go on in the next one. `fuel` bounds the number of lines, `isFirst`
tells whether a line could be the last one. -/
def takeDocument (joins withTabs : Bool) (delimiter : Octets) :
    (fuel : Nat) → (isFirst : Bool) → Octets → Octets × Octets × Nat
  | 0, _, text => (text, [], 0)
  | _, _, [] => ([], [], 0)
  | fuel + 1, isFirst, text =>
    let (line, after) := text.span (· != '\n')
    let line := if withTabs || !isFirst then line else line.dropWhile (· == '\t')
    let rest := after.drop 1
    if isFirst && line == delimiter then ([], rest, 1)
    else
      let isWhole := !(joins && isContinued line)
      let (body, rest, count) := takeDocument joins withTabs delimiter fuel isWhole rest
      (line ++ after.take 1 ++ body, rest, count + 1)

/-- Passes over the rest of a line. -/
def skipLine (nested : Nested) : Nat → Reader Unit
  | 0 => return
  | fuel + 1 => do
    match ← nextToken nested fuel with
    | .newline | .done => return
    | _ => skipLine nested fuel

/-- Takes the here document with a delimiter out of the text behind the present line. -/
def readDocument (nested : Nested) (fuel : Nat) (withTabs : Bool) (delimiter : Word) :
    Reader Word := do
  let here ← get
  skipLine nested fuel
  let behind := (← get).text
  let isQuoted := delimiter.any Part.hasQuotes
  let (body, after, count) :=
    takeDocument (!isQuoted) withTabs (literals delimiter) (behind.length + 1) true behind
  let before := here.text.take (here.text.length - behind.length)
  if isQuoted then
    set { here with text := before ++ after, held := here.held + count }
    return [.literal body true]
  else
    set ({ text := body, line := here.line } : Source)
    let word ← readParts nested false fuel .text true false 0 {}
    set { here with text := before ++ after, held := here.held + count }
    return word

end LspHost.Machine.Shell
