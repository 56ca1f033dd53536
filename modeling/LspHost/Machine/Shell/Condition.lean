import LspHost.Machine.Files
import LspHost.Machine.Shell.Format

/-!
# Shell scripts: conditions

The conditions that the arguments of `test` state. They are read from left to right, and what an
argument means depends on those behind it: an operator that is followed by one with two operands is
such an operand itself.
-/

namespace LspHost.Machine.Shell

/-- The operators with one operand. -/
def unaryOperators : List String :=
  ["-b", "-c", "-d", "-e", "-f", "-g", "-h", "-k", "-L", "-n", "-p", "-r", "-s", "-S", "-t", "-u",
    "-w", "-x", "-z", "-O", "-G"]

/-- The operators with two operands. -/
def binaryOperators : List String :=
  ["=", "!=", "<", ">", "-eq", "-ne", "-lt", "-le", "-gt", "-ge", "-nt", "-ot", "-ef"]

/-- What an argument of a condition means. -/
inductive Meaning where
  /-- there is none -/
  | nothing
  /-- a text -/
  | operand
  /-- an operator with one operand -/
  | unary
  /-- an operator with two operands -/
  | binary
  /-- an opening parenthesis -/
  | opening
  /-- a closing parenthesis -/
  | closing
  /-- the opposite -/
  | negation
  /-- both conditions -/
  | conjunction
  /-- one of two conditions -/
  | disjunction
  deriving DecidableEq, Repr

/-- What an argument means where its neighbours do not matter. -/
def meaningOf (argument : Octets) : Meaning :=
  let text := String.ofList argument
  match text with
  | "(" => .opening
  | ")" => .closing
  | "!" => .negation
  | "-a" => .conjunction
  | "-o" => .disjunction
  | _ =>
    if unaryOperators.contains text then .unary
    else if binaryOperators.contains text then .binary
    else .operand

/-- What the first of several arguments means. -/
def meaning : List Octets → Meaning
  | [] => .nothing
  | argument :: rest =>
    match meaningOf argument, rest with
    | .unary, [] | .opening, [] => .operand
    | .unary, second :: _ :: _ => if meaningOf second = .binary then .operand else .unary
    | found, _ => found

/-- Where conditions are checked. -/
structure Surroundings where
  /-- the files -/
  files : Files
  /-- the directory from which paths are seen -/
  directory : Location

/-- The number that an operand is. -/
def operandNumber (text : Octets) : Except String Int :=
  let isBlank (c : Char) : Bool := c == ' ' || ('\t' ≤ c && c ≤ '\x0d')
  let (isNegative, digits) := match text.dropWhile isBlank with
    | '-' :: rest => (true, rest)
    | '+' :: rest => (false, rest)
    | rest => (false, rest)
  let (n, rest) := takeDigits 10 0 digits
  if (digits.head?.any Char.isDigit) && rest.all isBlank && n ≤ 9223372036854775807 then
    .ok (if isNegative then -n else n)
  else .error ("Illegal number: " ++ textOf text)

/-- Whether an operator with one operand holds. -/
def Surroundings.holdsOne (w : Surroundings) (operator : String) (text : Octets) :
    Except String Bool :=
  let path := textOf text
  let node := w.files.stat w.directory path
  match operator with
  | "-n" => .ok !text.isEmpty
  | "-z" => .ok text.isEmpty
  | "-e" | "-r" | "-w" | "-O" | "-G" => .ok node.isOk
  | "-d" => .ok (match node with | .ok .directory => true | _ => false)
  | "-f" => .ok (match node with | .ok (.file _ _) | .ok (.program _) => true | _ => false)
  | "-x" => .ok (match node with | .ok node => Files.mayExecute node | _ => false)
  | "-s" =>
    .ok (match node with
      | .ok (.file content _) => content.size != 0
      | .ok _ => true
      | .error _ => false)
  | "-h" | "-L" =>
    .ok (match (w.files.walk false w.directory path).map w.files.get? with
      | .ok (some (.link _)) => true
      | _ => false)
  | "-t" => (operandNumber text).map fun _ => false
  | _ => .ok false

/-- Whether an operator with two operands holds. Files have no times here, so that none is newer
than another one. -/
def Surroundings.holdsTwo (w : Surroundings) (operator : String) (left right : Octets) :
    Except String Bool :=
  let compare (holds : Int → Int → Bool) : Except String Bool := do
    return holds (← operandNumber left) (← operandNumber right)
  match operator with
  | "=" => .ok (left == right)
  | "!=" => .ok (left != right)
  | "<" => .ok (left < right)
  | ">" => .ok (right < left)
  | "-eq" => compare fun a b => a == b
  | "-ne" => compare fun a b => a != b
  | "-lt" => compare fun a b => a < b
  | "-le" => compare fun a b => a ≤ b
  | "-gt" => compare fun a b => b < a
  | "-ge" => compare fun a b => b ≤ a
  | "-nt" => .ok ((w.files.stat w.directory (textOf left)).isOk &&
      !(w.files.stat w.directory (textOf right)).isOk)
  | "-ot" => .ok (!(w.files.stat w.directory (textOf left)).isOk &&
      (w.files.stat w.directory (textOf right)).isOk)
  | _ =>
    .ok (match w.files.walk true w.directory (textOf left),
        w.files.walk true w.directory (textOf right) with
      | .ok left, .ok right => left == right
      | _, _ => false)

mutual

/-- Whether conditions between which there is `-o` hold, given the meaning of the first argument;
gives also the arguments from the last one on that was needed. `fuel` bounds the depth. -/
def holdsAny (w : Surroundings) (fuel : Nat) (found : Meaning) (arguments : List Octets) :
    Except String (Bool × List Octets) :=
  match fuel with
  | 0 => .ok (false, [])
  | fuel + 1 => do
    let (first, at_) ← holdsAll w fuel found arguments
    if meaning at_.tail ≠ .disjunction then return (first, at_)
    let rest := at_.drop 2
    let (others, at_) ← holdsAny w fuel (meaning rest) rest
    return (first || others, at_)

/-- Whether conditions between which there is `-a` hold. -/
def holdsAll (w : Surroundings) (fuel : Nat) (found : Meaning) (arguments : List Octets) :
    Except String (Bool × List Octets) :=
  match fuel with
  | 0 => .ok (false, [])
  | fuel + 1 => do
    let (first, at_) ← holdsNot w fuel found arguments
    if meaning at_.tail ≠ .conjunction then return (first, at_)
    let rest := at_.drop 2
    let (others, at_) ← holdsAll w fuel (meaning rest) rest
    return (first && others, at_)

/-- Whether a condition holds that may be the opposite of another one. -/
def holdsNot (w : Surroundings) (fuel : Nat) (found : Meaning) (arguments : List Octets) :
    Except String (Bool × List Octets) :=
  match fuel with
  | 0 => .ok (false, [])
  | fuel + 1 => do
    if found ≠ .negation then holdsPlain w fuel found arguments
    else
      let next := meaning arguments.tail
      let (holds, at_) ←
        holdsNot w fuel next (if next = .nothing then arguments else arguments.tail)
      return (!holds, at_)

/-- Whether a condition holds that is no opposite. -/
def holdsPlain (w : Surroundings) (fuel : Nat) (found : Meaning) (arguments : List Octets) :
    Except String (Bool × List Octets) :=
  match fuel, found, arguments with
  | 0, _, _ | _, .nothing, _ | _, _, [] => .ok (false, arguments)
  | fuel + 1, .opening, _ :: rest => do
    if meaning rest = .closing then return (false, rest)
    let (holds, at_) ← holdsAny w fuel (meaning rest) rest
    if meaning at_.tail ≠ .closing then throw "closing paren expected"
    return (holds, at_.tail)
  | _, .unary, operator :: rest =>
    match rest with
    | [] => throw (textOf operator ++ ": argument expected")
    | text :: _ => return (← w.holdsOne (String.ofList operator) text, rest)
  | _, _, text :: rest =>
    if meaning rest = .binary then
      match rest with
      | operator :: right :: _ =>
        return (← w.holdsTwo (String.ofList operator) text right, rest.tail)
      | operator :: _ => throw (textOf operator ++ ": argument expected")
      | [] => return (false, [])
    else return (!text.isEmpty, arguments)

end

/-- Whether the condition holds that all of several arguments state, given the meaning of the first
one. -/
def Surroundings.holdsWhole (w : Surroundings) (found : Meaning) (arguments : List Octets) :
    Except String Bool := do
  let (holds, at_) ← holdsAny w (8 * arguments.length + 8) found arguments
  match at_ with
  | text :: _ :: _ => throw (textOf text ++ ": unexpected operator")
  | _ => return holds

/-- Whether the condition holds that arguments state, or what is wrong with them. Of three or four
arguments the first one may be a parenthesis or negate the others whatever it means otherwise. -/
def Surroundings.holds (w : Surroundings) : List Octets → Except String Bool
  | [] => .ok false
  | first :: rest =>
    let arguments := first :: rest
    let inside := rest.dropLast
    if rest.length = 2 && rest.head?.map meaningOf == some .binary then
      w.holdsWhole .operand arguments
    else if rest.length = 2 || rest.length = 3 then
      if meaningOf first = .opening && rest.getLast?.map meaningOf == some .closing then
        w.holdsWhole (meaning inside) inside
      else if meaningOf first = .negation then (w.holds rest).map not
      else w.holdsWhole (meaning arguments) arguments
    else w.holdsWhole (meaning arguments) arguments

end LspHost.Machine.Shell
