import LspHost.Machine.Octets

/-!
# Shell scripts: patterns

Patterns stand for the texts that fit them. In a pattern a question mark stands for any character, a
star for any characters, and brackets for one character among some, unless they are quoted.
-/

namespace LspHost.Machine.Shell

/-- Octets, each with whether it is quoted. -/
abbrev Marked := List (Char × Bool)

/-- The octets alone. -/
def Marked.octets (text : Marked) : Octets := text.map Prod.fst

/-- A piece of a pattern. -/
inductive Wildcard where
  /-- one given character -/
  | exactly (c : Char)
  /-- any one character -/
  | one
  /-- any characters -/
  | many
  /-- one character in one of several ranges, or in none of them -/
  | among (isNegated : Bool) (ranges : List (Char × Char))
  deriving DecidableEq, Repr

/-- The characters of a class. -/
def classRanges : String → List (Char × Char)
  | "alpha" => [('a', 'z'), ('A', 'Z')]
  | "lower" => [('a', 'z')]
  | "upper" => [('A', 'Z')]
  | "digit" => [('0', '9')]
  | "alnum" => [('a', 'z'), ('A', 'Z'), ('0', '9')]
  | "xdigit" => [('a', 'f'), ('A', 'F'), ('0', '9')]
  | "space" => [(' ', ' '), ('\t', '\x0d')]
  | "blank" => [(' ', ' '), ('\t', '\t')]
  | "punct" => [('!', '/'), (':', '@'), ('[', '\x60'), ('\x7b', '~')]
  | "print" => [(' ', '~')]
  | "graph" => [('!', '~')]
  | "cntrl" => [('\x00', '\x1f'), ('\x7f', '\x7f')]
  | _ => []

/-- The class whose name follows `[:`. -/
def takeClass (text : Marked) : Option (List (Char × Char) × Marked) :=
  let name := text.takeWhile (·.1.isAlpha)
  match text.drop name.length with
  | (':', _) :: (']', _) :: rest => some (classRanges (String.ofList (Marked.octets name)), rest)
  | _ => none

/-- The ranges up to the closing bracket; one that comes first is a character of the set. No answer
if the set is not closed. `fuel` bounds the number of ranges. -/
def takeRanges (fuel : Nat) (isFirst : Bool) (text : Marked) :
    Option (List (Char × Char) × Marked) :=
  match fuel with
  | 0 => none
  | fuel + 1 => do
    let single (range : Char × Char) (rest : Marked) := do
      let (ranges, rest) ← takeRanges fuel false rest
      return (range :: ranges, rest)
    match text with
    | [] => none
    | (']', false) :: rest => if isFirst then single (']', ']') rest else return ([], rest)
    | ('[', false) :: (':', false) :: rest =>
      match takeClass rest with
      | some (named, rest) =>
        let (ranges, rest) ← takeRanges fuel false rest
        return (named ++ ranges, rest)
      | none => single ('[', '[') ((':', false) :: rest)
    | (low, _) :: ('-', false) :: (high, isQuoted) :: rest =>
      if high == ']' && !isQuoted then single (low, low) (('-', false) :: (high, false) :: rest)
      else single (low, high) rest
    | (c, _) :: rest => single (c, c) rest

/-- The pieces of a pattern; `fuel` bounds their number. -/
def wildcards : (fuel : Nat) → Marked → List Wildcard
  | 0, _ | _, [] => []
  | fuel + 1, ('*', false) :: rest => .many :: wildcards fuel rest
  | fuel + 1, ('?', false) :: rest => .one :: wildcards fuel rest
  | fuel + 1, ('[', false) :: rest =>
    let (isNegated, inside) := match rest with
      | ('!', false) :: inside | ('^', false) :: inside => (true, inside)
      | inside => (false, inside)
    match takeRanges (inside.length + 1) true inside with
    | some (ranges, after) => .among isNegated ranges :: wildcards fuel after
    | none => .exactly '[' :: wildcards fuel rest
  | fuel + 1, (c, _) :: rest => .exactly c :: wildcards fuel rest

/-- A pattern in pieces. -/
def patternOf (text : Marked) : List Wildcard := wildcards (text.length + 1) text

/-- Whether a text or what is left of it after dropping characters from its front passes a check. -/
def anyEnd (check : Octets → Bool) : Octets → Bool
  | [] => check []
  | c :: rest => check (c :: rest) || anyEnd check rest

/-- Whether a character is in one of several ranges. -/
def isAmong (ranges : List (Char × Char)) (c : Char) : Bool :=
  ranges.any fun (low, high) => low ≤ c && c ≤ high

/-- Whether a whole text fits a pattern. -/
def fits : List Wildcard → Octets → Bool
  | [], text => text.isEmpty
  | .many :: pattern, text => anyEnd (fits pattern) text
  | _ :: _, [] => false
  | .exactly c :: pattern, d :: text => c == d && fits pattern text
  | .one :: pattern, _ :: text => fits pattern text
  | .among isNegated ranges :: pattern, c :: text =>
    (isAmong ranges c != isNegated) && fits pattern text

/-- A text without the shortest or longest piece at one end that fits a pattern. -/
def trimmed (atEnd longest : Bool) (pattern : List Wildcard) (text : Octets) : Octets :=
  let lengths := List.range (text.length + 1)
  let lengths := if longest then lengths.reverse else lengths
  let kept (n : Nat) := if atEnd then text.take (text.length - n) else text.drop n
  let piece (n : Nat) := if atEnd then text.drop (text.length - n) else text.take n
  match lengths.find? fun n => fits pattern (piece n) with
  | some n => kept n
  | none => text

end LspHost.Machine.Shell
