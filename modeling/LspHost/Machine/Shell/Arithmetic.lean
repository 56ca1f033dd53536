import LspHost.Machine.Shell.Format
import LspHost.Machine.Shell.Syntax

/-!
# Shell scripts: arithmetic

The values of arithmetic expressions: numbers of 64 bits, variables and the operators of C without
steps up and down. What is assigned on the way is part of the answer.
-/

namespace LspHost.Machine.Shell

/-- A token of an expression. -/
inductive Symbol where
  /-- a number -/
  | number (value : Int64)
  /-- a variable -/
  | variable (name : Octets)
  /-- an operator or a parenthesis -/
  | operator (text : String)
  /-- anything else -/
  | unknown
  deriving DecidableEq

/-- The operators, of which the first that fits is taken. -/
def operators : List String :=
  ["<<=", ">>=", "<<", ">>", "<=", ">=", "==", "!=", "&&", "||", "+=", "-=", "*=", "/=", "%=", "&=",
    "^=", "|=", "+", "-", "*", "/", "%", "<", ">", "&", "^", "|", "!", "~", "(", ")", "?", ":", "="]

/-- A magnitude as a number, the greatest one if it is too great. -/
def saturated (n : Nat) : Int64 := Int64.ofNat (min n 9223372036854775807)

/-- The tokens of an expression; `fuel` bounds their number. -/
def symbols : (fuel : Nat) → Octets → List Symbol
  | 0, _ | _, [] => []
  | fuel + 1, c :: rest =>
    let text := c :: rest
    if " \t\n".toList.contains c then symbols fuel rest
    else if beginsName c then
      let (name, rest) := text.span inName
      .variable name :: symbols fuel rest
    else
      match takeMagnitude text with
      | some (n, rest) => .number (saturated n) :: symbols fuel rest
      | none =>
        match operators.find? (·.toList.isPrefixOf text) with
        | some operator => .operator operator :: symbols fuel (text.drop operator.length)
        | none => .unknown :: symbols fuel rest

/-- A calculation as far as it is done. -/
structure Calculation where
  /-- the tokens that are left -/
  rest : List Symbol
  /-- the values of variables before it -/
  value? : String → Option Octets
  /-- the variables with the values that they got, the last one first -/
  assigned : List (String × Int64) := []

/-- A part of a calculation. -/
abbrev Calculate : Type → Type := EStateM String Calculation

namespace Calculate

/-- Passes over the next token and gives it. -/
def next : Calculate (Option Symbol) := do
  let s ← get
  set { s with rest := s.rest.tail }
  return s.rest.head?

/-- Passes over an operator if it comes next; tells whether it did. -/
def accept (text : String) : Calculate Bool := do
  let s ← get
  if s.rest.head? = some (.operator text) then
    set { s with rest := s.rest.tail }
    return true
  else return false

/-- The number that the value of a variable is. -/
def integerOf (text : Octets) : Calculate Int64 := do
  let isBlank (c : Char) : Bool := c == ' ' || ('\t' ≤ c && c ≤ '\x0d')
  let (isNegative, digits) := match text.dropWhile isBlank with
    | '-' :: rest => (true, rest)
    | '+' :: rest => (false, rest)
    | rest => (false, rest)
  match takeMagnitude digits with
  | some (n, rest) =>
    if rest.all isBlank then return if isNegative then -saturated n else saturated n
  | none => if text.isEmpty then return 0
  throw ("Illegal number: " ++ textOf text)

/-- The value of a variable. -/
def valueOf (name : Octets) : Calculate Int64 := do
  let s ← get
  let name := String.ofList name
  match s.assigned.find? (·.1 == name) with
  | some (_, value) => return value
  | none => integerOf ((s.value? name).getD [])

/-- What an operator makes of two numbers. -/
def combine (operator : String) (a b : Int64) : Calculate Int64 := do
  let ofBool (holds : Bool) : Int64 := if holds then 1 else 0
  match operator with
  | "*" => return a * b
  | "/" => if b = 0 then throw "division by zero" else return a / b
  | "%" => if b = 0 then throw "division by zero" else return a % b
  | "+" => return a + b
  | "-" => return a - b
  | "<<" => return a <<< b
  | ">>" => return a >>> b
  | "<" => return ofBool (a < b)
  | "<=" => return ofBool (a ≤ b)
  | ">" => return ofBool (b < a)
  | ">=" => return ofBool (b ≤ a)
  | "==" => return ofBool (a == b)
  | "!=" => return ofBool (a != b)
  | "&" => return a &&& b
  | "^" => return a ^^^ b
  | "|" => return a ||| b
  | "&&" => return ofBool (a != 0 && b != 0)
  | _ => return ofBool (a != 0 || b != 0)

/-- The operators between two operands, the ones that bind most closely first. -/
def ranks : List (List String) :=
  [["*", "/", "%"], ["+", "-"], ["<<", ">>"], ["<", "<=", ">", ">="], ["==", "!="], ["&"], ["^"],
    ["|"], ["&&"], ["||"]]

/-- The operators that assign a value, with the operator that they apply first. -/
def assigning : List (String × Option String) :=
  [("=", none), ("+=", some "+"), ("-=", some "-"), ("*=", some "*"), ("/=", some "/"),
    ("%=", some "%"), ("&=", some "&"), ("^=", some "^"), ("|=", some "|"), ("<<=", some "<<"),
    (">>=", some ">>")]

/-- Whether the right operand counts, given the left one. -/
def needsRight (operator : String) (left : Int64) : Bool :=
  match operator with
  | "&&" => left != 0
  | "||" => left == 0
  | _ => true

mutual

/-- The value of a whole expression. If `active` does not hold, nothing is assigned, and no variable
is asked for its value. `fuel` bounds the depth. -/
def expression (fuel : Nat) (active : Bool) : Calculate Int64 :=
  match fuel with
  | 0 => throw "expecting primary"
  | fuel + 1 => do
    match (← get).rest with
    | .variable name :: .operator text :: rest =>
      match assigning.find? (·.1 == text) with
      | some (_, first) =>
        modify fun s => { s with rest }
        let value ← expression fuel active
        if !active then return value
        let value ← match first with
          | some operator => combine operator (← valueOf name) value
          | none => pure value
        modify fun s => { s with assigned := (String.ofList name, value) :: s.assigned }
        return value
      | none => conditional fuel active
    | _ => conditional fuel active

/-- The value of a choice between two expressions, or of one without assignments. -/
def conditional (fuel : Nat) (active : Bool) : Calculate Int64 :=
  match fuel with
  | 0 => throw "expecting primary"
  | fuel + 1 => do
    let condition ← binary fuel active ranks.length
    if ← accept "?" then
      let success ← expression fuel (active && condition != 0)
      unless ← accept ":" do throw "expecting ':'"
      let failure ← conditional fuel (active && condition == 0)
      return if condition != 0 then success else failure
    else return condition

/-- The value of operands between operators up to a rank. -/
def binary (fuel : Nat) (active : Bool) (rank : Nat) : Calculate Int64 :=
  match fuel, rank with
  | 0, _ => throw "expecting primary"
  | fuel + 1, 0 => primary fuel active
  | fuel + 1, rank + 1 => do operations fuel active rank (← binary fuel active rank)

/-- The value of operators of a rank with their right operands, behind a left one. -/
def operations (fuel : Nat) (active : Bool) (rank : Nat) (left : Int64) : Calculate Int64 :=
  match fuel with
  | 0 => throw "expecting primary"
  | fuel + 1 => do
    match (← get).rest with
    | .operator text :: rest =>
      if (ranks[rank]?.getD []).contains text then
        modify fun s => { s with rest }
        let counts := active && needsRight text left
        let right ← binary fuel counts rank
        -- what does not count may not fail either
        let value ← if counts then combine text left right else pure (if left = 0 then 0 else 1)
        operations fuel active rank value
      else return left
    | _ => return left

/-- The value of an operand. -/
def primary (fuel : Nat) (active : Bool) : Calculate Int64 :=
  match fuel with
  | 0 => throw "expecting primary"
  | fuel + 1 => do
    match ← next with
    | some (.number value) => return value
    | some (.variable name) => if active then valueOf name else return 0
    | some (.operator "(") =>
      let value ← expression fuel active
      unless ← accept ")" do throw "expecting ')'"
      return value
    | some (.operator "+") => primary fuel active
    | some (.operator "-") => return -(← primary fuel active)
    | some (.operator "!") => return if (← primary fuel active) = 0 then 1 else 0
    | some (.operator "~") => return ~~~(← primary fuel active)
    | _ => throw "expecting primary"

end

end Calculate

/-- The value of an expression and the variables that get values, or why there is none. -/
def calculate (value? : String → Option Octets) (text : Octets) :
    Except String (Int64 × List (String × Octets)) :=
  let row := symbols (text.length + 1) text
  let whole : Calculate Int64 := do
    let value ← Calculate.expression (16 * row.length + 16) true
    unless (← get).rest.isEmpty do throw "expecting EOF"
    return value
  match whole { rest := row, value? } with
  | .ok value s =>
    .ok (value, s.assigned.reverse.map fun (name, value) =>
      (name, octetsOf (toString value.toInt)))
  | .error message _ =>
    .error (if message.startsWith "Illegal" then message
      else "arithmetic expression: " ++ message ++ ": \"" ++ textOf text ++ "\"")

end LspHost.Machine.Shell
