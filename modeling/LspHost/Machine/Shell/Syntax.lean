import LspHost.Machine.Octets

/-!
# Shell scripts: syntax

A script is a row of commands, and a command is made of words. A word is not yet what it stands for:
it has parts that are replaced when the command is run, such as the value of a parameter or what
another command writes.
-/

namespace LspHost.Machine.Shell

/-- How a file is opened. -/
inductive Access where
  /-- to read it -/
  | read
  /-- to write it anew -/
  | write
  /-- to write it anew even if files are protected -/
  | overwrite
  /-- to write at its end -/
  | append
  /-- to read and write it -/
  | both
  deriving DecidableEq, Repr

mutual

/-- A part of a word. Parts in double quotes are quoted: what they stand for is neither cut into
fields nor taken for a pattern. -/
inductive Part where
  /-- octets that stand for themselves -/
  | literal (octets : Octets) (isQuoted : Bool)
  /-- something made of a parameter -/
  | parameter (name : Octets) (use : Use) (isQuoted : Bool)
  /-- what a command writes -/
  | output (script : Command) (isQuoted : Bool)
  /-- the value of an arithmetic expression -/
  | arithmetic (expression : List Part) (isQuoted : Bool)

/-- What is made of a parameter. Where a word takes its place if it is not set, an empty parameter
may count as one that is not set. -/
inductive Use where
  /-- its value -/
  | value
  /-- the length of its value -/
  | length
  /-- its value, or a word -/
  | orElse (ifEmpty : Bool) (word : List Part)
  /-- its value, or a word that becomes its value -/
  | orAssign (ifEmpty : Bool) (word : List Part)
  /-- its value, or a word as a message that ends the script -/
  | orFail (ifEmpty : Bool) (word : List Part)
  /-- a word, or nothing if it is not set -/
  | andThen (ifEmpty : Bool) (word : List Part)
  /-- its value without what fits a pattern at one end -/
  | trim (atEnd longest : Bool) (pattern : List Part)
  /-- nothing that is known -/
  | unknown

/-- Where a redirected stream leads. -/
inductive Target where
  /-- to a file -/
  | file (access : Access) (name : List Part)
  /-- where another stream leads, or nowhere -/
  | stream (number : List Part)
  /-- to a text in the script itself -/
  | document (content : List Part)

/-- A command; the lines are those of the script that messages name. -/
inductive Command where
  /-- nothing -/
  | nothing
  /-- assignments and words -/
  | simple (line : Nat) (assignments : List (Octets × List Part)) (words : List (List Part))
      (redirections : List (Nat × Target))
  /-- commands of which each reads what the one before it writes -/
  | pipeline (stages : List Command)
  /-- a command that is not waited for -/
  | background (command : Command)
  /-- the opposite outcome -/
  | negate (command : Command)
  /-- one after the other -/
  | sequence (commands : List Command)
  /-- the second if the first succeeds -/
  | both (first second : Command)
  /-- the second if the first fails -/
  | either (first second : Command)
  /-- one of two -/
  | branch (condition success failure : Command)
  /-- the first whose pattern fits a word -/
  | choice (line : Nat) (subject : List Part) (cases : List (List (List Part) × Command))
  /-- once for each field of some words, or for each argument -/
  | each (line : Nat) (name : Octets) (words : Option (List (List Part))) (body : Command)
  /-- as long as a condition succeeds or, if `negated`, fails -/
  | loop (negated : Bool) (condition body : Command)
  /-- a command with streams redirected -/
  | redirected (line : Nat) (body : Command) (redirections : List (Nat × Target))
  /-- a command in a shell of its own -/
  | apart (line : Nat) (body : Command) (redirections : List (Nat × Target))
  /-- a function -/
  | function (line : Nat) (name : Octets) (body : Command)

end

instance : Inhabited Command := ⟨.nothing⟩

/-- A word before its parts are replaced by what they stand for. -/
abbrev Word := List Part

/-- Redirections of streams by their numbers. -/
abbrev Redirections := List (Nat × Target)

/-! ## Names -/

/-- Whether a character may begin the name of a variable. -/
def beginsName (c : Char) : Bool := c.isAlpha || c == '_'

/-- Whether a character may occur in the name of a variable. -/
def inName (c : Char) : Bool := c.isAlphanum || c == '_'

/-- Whether octets are the name of a variable. -/
def isName (octets : Octets) : Bool :=
  match octets with
  | c :: rest => beginsName c && rest.all inName
  | [] => false

/-- The octets of a word that is a single part without quotes. -/
def plain? : Word → Option Octets
  | [.literal octets false] => some octets
  | _ => none

/-- The name and the value of a word that is an assignment. -/
def assignment? : Word → Option (Octets × Word)
  | .literal octets false :: rest =>
    match octets.span (· != '=') with
    | (name, '=' :: value) =>
      if isName name then
        some (name, if value.isEmpty then rest else .literal value false :: rest)
      else none
    | _ => none
  | _ => none

end LspHost.Machine.Shell
