/-!
# Command lines in words

A command line is cut into words as a POSIX shell does it: blanks separate words, single quotes keep
everything, double quotes keep everything but a backslash before a double quote or a backslash, and
a backslash elsewhere keeps the next character. Nothing else is special. `quoteWord` is the way
back: it writes a word so that cutting gives it again.
-/

namespace LspHost.Text.Words

/-- Why a command line has no words. -/
inductive Unfinished where
  /-- the line ends inside a quotation -/
  | quotation
  /-- the line ends right after a backslash that keeps the next character -/
  | escape
  deriving DecidableEq, Repr

/-- Where the reader stands within a line. -/
inductive Mode where
  /-- outside quotations -/
  | bare
  /-- after a backslash outside quotations -/
  | bareEscape
  /-- between single quotes -/
  | single
  /-- between double quotes -/
  | double
  /-- after a backslash between double quotes -/
  | doubleEscape
  deriving DecidableEq, Repr

/-- Whether a character separates words. -/
def isGap (c : Char) : Bool :=
  c == ' ' || c == '\t' || c == '\r' || c == '\n'

/-- A word that is being read, its characters in reverse; none if no word has begun. -/
abbrev Open := Option (List Char)

/-- Adds characters, the last one first, to the word being read, which begins with them if there is
none yet. -/
def Open.extend (word : Open) (more : List Char) : Open := some (more ++ word.getD [])

/-- The word that was being read, if one has begun. -/
def Open.finish (word : Open) : List (List Char) := (word.map List.reverse).toList

/-- Reads the rest of a line, with what has been read of the present word. -/
def read : Mode → Open → List Char → Except Unfinished (List (List Char))
  | .bare, word, [] => .ok word.finish
  | .bareEscape, _, [] => .error .escape
  | .doubleEscape, _, [] => .error .escape
  | .single, _, [] => .error .quotation
  | .double, _, [] => .error .quotation
  | .bare, word, c :: rest =>
    if isGap c then (read .bare none rest).map (word.finish ++ ·)
    else if c = '\'' then read .single (word.extend []) rest
    else if c = '"' then read .double (word.extend []) rest
    else if c = '\\' then read .bareEscape (word.extend []) rest
    else read .bare (word.extend [c]) rest
  | .bareEscape, word, c :: rest => read .bare (word.extend [c]) rest
  | .single, word, c :: rest =>
    if c = '\'' then read .bare word rest else read .single (word.extend [c]) rest
  | .double, word, c :: rest =>
    if c = '"' then read .bare word rest
    else if c = '\\' then read .doubleEscape word rest
    else read .double (word.extend [c]) rest
  | .doubleEscape, word, c :: rest =>
    if c = '"' ∨ c = '\\' then read .double (word.extend [c]) rest
    else read .double (word.extend [c, '\\']) rest

/-- The words of a command line. -/
def split (line : String) : Except Unfinished (List String) :=
  (read .bare none line.toList).map (·.map String.ofList)

/-- Whether a character needs no quotation. -/
def isSafe (c : Char) : Bool :=
  c.isAlphanum || "_@%+=:,./-".toList.contains c

/-- A word in single quotes; a single quote itself is written between double quotes. -/
def quoteAlways (word : List Char) : List Char :=
  '\'' :: word.flatMap (fun c => if c = '\'' then "'\"'\"'".toList else [c]) ++ ['\'']

/-- A word as it is written in a command line: bare if it is not empty and all its characters are
safe, in quotes otherwise. -/
def quoteWord (word : String) : String :=
  if word.isEmpty then "''"
  else if word.toList.all isSafe then word
  else String.ofList (quoteAlways word.toList)

/-- The command line of a list of words. -/
def join (words : List String) : String :=
  " ".intercalate (words.map quoteWord)

end LspHost.Text.Words
