import LspHost.Machine.Shell.Arithmetic
import LspHost.Machine.Shell.Pattern
import LspHost.Machine.Shell.State

/-!
# Shell scripts: expansion

What the parts of words stand for. Values that are not quoted are cut into fields, and fields that
are patterns give way to the paths that fit them. What a command writes is a parameter here, since
commands are run elsewhere.
-/

namespace LspHost.Machine.Shell

/-! ## Fields -/

/-- The fields of a word as far as they are read: those that are closed, and the one that is open.
-/
structure Fields where
  /-- the closed fields, the last one first -/
  closed : List Marked := []
  /-- the octets of the open field, if one is open, the last one first -/
  current : Option Marked := none
  /-- whether the last field was closed by a blank, behind which a separator may follow -/
  isBehindBlank : Bool := false

namespace Fields

/-- Adds an octet to the open field, opening one if none is. -/
def addOne (fields : Fields) (c : Char) (isQuoted : Bool) : Fields :=
  { fields with current := some ((c, isQuoted) :: fields.current.getD []), isBehindBlank := false }

/-- Adds octets to the open field, opening one if none is. -/
def add (fields : Fields) (octets : Octets) (isQuoted : Bool) : Fields :=
  octets.foldl (fun fields c => fields.addOne c isQuoted)
    { fields with current := some (fields.current.getD []) }

/-- Closes the open field. -/
def close (fields : Fields) : Fields :=
  { closed := (fields.current.map List.reverse).toList ++ fields.closed }

/-- Adds an octet of a value that is cut at separators. Blanks in a row are one separator, with one
that is no blank among them. -/
def addCutting (separators : Octets) (fields : Fields) (c : Char) : Fields :=
  if !separators.contains c then fields.addOne c false
  else if c == ' ' || c == '\t' || c == '\n' then
    if fields.current.isSome then { fields.close with isBehindBlank := true } else fields
  else if fields.current.isNone && fields.isBehindBlank then { fields with isBehindBlank := false }
  else { fields with current := some (fields.current.getD []) }.close

/-- All fields. -/
def all (fields : Fields) : List Marked := fields.close.closed.reverse

end Fields

/-- How a word is expanded. -/
structure Expander where
  /-- the line of the command -/
  line : Nat
  /-- gives what a command writes -/
  outputOf : Command → Run Octets
  /-- whether values are cut into fields -/
  cuts : Bool

namespace Expander

/-- Adds a value to the fields of a word. -/
def addValue (e : Expander) (isQuoted : Bool) (fields : Fields) (value : Octets) : Run Fields := do
  if isQuoted then return fields.add value true
  else if e.cuts then return value.foldl (Fields.addCutting (← get).separators) fields
  else if value.isEmpty then return fields
  else return fields.add value false

/-- Adds values as fields of their own, the first one to the open field. -/
def addEach (e : Expander) (isQuoted : Bool) (fields : Fields) : List Octets → Run Fields
  | [] => return fields
  | [value] => e.addValue isQuoted fields value
  | value :: rest => do e.addEach isQuoted (← e.addValue isQuoted fields value).close rest

/-- Whether octets are a number. -/
def isNumber (octets : Octets) : Bool := !octets.isEmpty && octets.all Char.isDigit

/-- What stands between the arguments when they are one value. -/
def joint (s : State) : Octets :=
  match s.value? "IFS" with
  | none => [' ']
  | some separators => separators.take 1

/-- The value of a parameter, if it is set; that of all arguments is a single one. -/
def parameter? (s : State) (name : Octets) : Option Octets :=
  match name with
  | ['#'] => some (octetsOf (toString s.arguments.length))
  | ['?'] => some (octetsOf (toString s.status))
  | ['$'] => some (octetsOf (toString s.process))
  | ['-'] => some s.options
  | ['!'] => s.jobs.head?.map fun job => octetsOf (toString job.1)
  | ['@'] | ['*'] => if s.arguments.isEmpty then none else some ((joint s).intercalate s.arguments)
  | _ =>
    if isNumber name then
      match (takeDigits 10 0 name).1 with
      | 0 => some s.name
      | n + 1 => s.arguments[n]?
    else s.value? (String.ofList name)

/-- Adds the value of a parameter, which must be set if a certain option is. -/
def addParameter (e : Expander) (isQuoted : Bool) (fields : Fields) (name : Octets) :
    Run Fields := do
  let s ← get
  let isAll := name == ['@'] || name == ['*']
  if isAll && e.cuts && (name == ['@'] || !isQuoted) then
    e.addEach isQuoted fields s.arguments
  else
    let value := parameter? s name
    if value.isNone && s.hasOption 'u' && !isAll then
      fail e.line (textOf name ++ ": parameter not set")
    e.addValue isQuoted fields (value.getD [])

/-- Whether a parameter counts as one that is set. -/
def isSet (ifEmpty : Bool) (value : Option Octets) : Bool :=
  match value with
  | none => false
  | some value => !ifEmpty || !value.isEmpty

/-- The octets of all fields, which blanks hold apart. -/
def octetsOfAll (fields : Fields) : Octets := [' '].intercalate (fields.all.map Marked.octets)

/-- The pieces of the pattern that all fields make up. -/
def patternOfAll (fields : Fields) : List Wildcard := patternOf fields.all.flatten

mutual

/-- Adds the parts of a word; `isInner` tells whether it stands in the place of a value. -/
def addParts (e : Expander) (isInner : Bool) (fields : Fields) : Word → Run Fields
  | [] => return fields
  | part :: rest => do e.addParts isInner (← e.addPart isInner fields part) rest

/-- Adds a part of a word. -/
def addPart (e : Expander) (isInner : Bool) (fields : Fields) : Part → Run Fields
  | .literal octets isQuoted =>
    if isInner && !isQuoted then e.addValue false fields octets
    else return fields.add octets isQuoted
  | .parameter name use isQuoted => e.addUse name isQuoted fields use
  | .output script isQuoted => do e.addValue isQuoted fields (← e.outputOf script)
  | .arithmetic expression isQuoted => do
    let text := octetsOfAll (← { e with cuts := false }.addParts false {} expression)
    match calculate (← get).value? text with
    | .ok (value, assigned) =>
      for (name, value) in assigned do assign e.line name value
      e.addValue isQuoted fields (octetsOf (toString value.toInt))
    | .error message => fail e.line message

/-- Adds what is made of a parameter. -/
def addUse (e : Expander) (name : Octets) (isQuoted : Bool) (fields : Fields) :
    Use → Run Fields
  | .value => e.addParameter isQuoted fields name
  | .length => do
    let s ← get
    let value := parameter? s name
    if value.isNone && s.hasOption 'u' then fail e.line (textOf name ++ ": parameter not set")
    e.addValue isQuoted fields (octetsOf (toString (value.getD []).length))
  | .orElse ifEmpty word => do
    if isSet ifEmpty (parameter? (← get) name) then e.addParameter isQuoted fields name
    else e.addParts true fields word
  | .orAssign ifEmpty word => do
    if isSet ifEmpty (parameter? (← get) name) then e.addParameter isQuoted fields name
    else
      let value := octetsOfAll (← { e with cuts := false }.addParts false {} word)
      unless isName name do fail e.line (textOf name ++ ": bad variable name")
      assign e.line (String.ofList name) value
      e.addValue isQuoted fields value
  | .orFail ifEmpty word => do
    if isSet ifEmpty (parameter? (← get) name) then e.addParameter isQuoted fields name
    else
      let message := octetsOfAll (← { e with cuts := false }.addParts false {} word)
      let usual := if ifEmpty then "parameter not set or null" else "parameter not set"
      fail e.line (textOf name ++ ": " ++ (if word.isEmpty then usual else textOf message))
  | .andThen ifEmpty word => do
    if isSet ifEmpty (parameter? (← get) name) then e.addParts true fields word
    else return fields
  | .trim atEnd longest word => do
    let pattern := patternOfAll (← { e with cuts := false }.addParts false {} word)
    let s ← get
    let value := parameter? s name
    if value.isNone && s.hasOption 'u' then fail e.line (textOf name ++ ": parameter not set")
    e.addValue isQuoted fields (trimmed atEnd longest pattern (value.getD []))
  | .unknown => fail e.line "Bad substitution"

end

/-- Whether a word is nothing but the quoted arguments, of which there may be none. -/
def isArgumentsOnly (word : Word) : Bool :=
  word.all fun
    | .literal octets isQuoted => octets.isEmpty && isQuoted
    | .parameter name .value isQuoted => name == ['@'] && isQuoted
    | _ => false

end Expander

/-! ## Paths -/

/-- The names in a directory. -/
def namesIn (fs : Files) (at_ : Location) : List String :=
  fs.nodes.filterMap fun (location, _) =>
    if location.dropLast == at_ then location.getLast? else none

/-- A piece of a path between slashes, with the slashes before it. -/
structure Step where
  /-- the slashes -/
  slashes : Octets
  /-- the piece -/
  name : Marked

/-- The pieces of a path; `fuel` bounds their number. -/
def stepsOf : (fuel : Nat) → Marked → List Step
  | 0, _ | _, [] => []
  | fuel + 1, text =>
    let slashes := text.takeWhile (·.1 == '/')
    let rest := text.drop slashes.length
    let name := rest.takeWhile (·.1 != '/')
    { slashes := Marked.octets slashes, name } :: stepsOf fuel (rest.drop name.length)

/-- Whether a piece of a pattern stands for anything but itself. -/
def Wildcard.isOpen : Wildcard → Bool
  | .exactly _ => false
  | _ => true

/-- The paths that fit the pieces of a pattern behind a prefix. A leading dot must be there in the
pattern as well. -/
def pathsOf (fs : Files) (directory : Location) (before : Octets) : List Step → List Octets
  | [] => [before]
  | step :: rest =>
    let pattern := patternOf step.name
    let before := before ++ step.slashes
    let isThere (path : Octets) : Bool :=
      match fs.walk false directory (textOf path) with
      | .ok _ => true
      | .error _ => false
    if !pattern.any Wildcard.isOpen then
      let path := before ++ Marked.octets step.name
      if rest.isEmpty && !isThere path then [] else pathsOf fs directory path rest
    else
      let names := match fs.walk true directory (if before.isEmpty then "." else textOf before) with
        | .ok at_ => if fs.isDirectoryAt at_ then (namesIn fs at_).map octetsOf else []
        | .error _ => []
      let isHidden := step.name.head?.map Prod.fst == some '.'
      (names.filter fun name =>
        (name.head? == some '.') == isHidden && fits pattern name).flatMap fun name =>
          pathsOf fs directory (before ++ name) rest

/-- Sorts octets in ascending order. -/
def inOrder (paths : List Octets) : List Octets :=
  paths.mergeSort fun a b => !(b < a)

/-- The paths that fit a field, or the field itself if it is no pattern or none fits it. -/
def pathsFor (s : State) (field : Marked) : List Octets :=
  let isOpen := field.any fun (c, isQuoted) => !isQuoted && (c == '*' || c == '?' || c == '[')
  if !isOpen || s.hasOption 'f' then [Marked.octets field]
  else
    match inOrder (pathsOf s.files s.directory [] (stepsOf (field.length + 1) field)) with
    | [] => [Marked.octets field]
    | paths => paths

/-! ## Words -/

namespace Expander

/-- The value of a word that is not cut into fields. -/
def one (e : Expander) (word : Word) : Run Octets := do
  return octetsOfAll (← { e with cuts := false }.addParts false {} word)

/-- The pieces of a word that is a pattern. -/
def pattern (e : Expander) (word : Word) : Run (List Wildcard) := do
  return patternOfAll (← { e with cuts := false }.addParts false {} word)

/-- The home directory for a tilde at the beginning of a word. -/
def atHome (word : Word) : Run Word := do
  match word, (← get).value? "HOME" with
  | .literal ('~' :: rest) false :: parts, some home =>
    if rest.isEmpty && !parts.isEmpty then return word
    else if rest.isEmpty || rest.head? == some '/' then
      return .literal home true :: .literal rest false :: parts
    else return word
  | word, _ => return word

/-- The values of several words, cut into fields. -/
def all (e : Expander) (words : List Word) : Run (List Octets) := do
  let fields ← words.mapM fun word => do
    let fields ← { e with cuts := true }.addParts false {} (← atHome word)
    let s ← get
    -- an empty text in quotes is a field, but quoted arguments that are not there are none
    if isArgumentsOnly word && s.arguments.isEmpty && word.any (!isEmptyQuote ·) then return []
    return fields.all.flatMap (pathsFor s)
  return fields.flatten
where
  /-- Whether a part is quotes with nothing between them. -/
  isEmptyQuote : Part → Bool
    | .literal _ _ => true
    | _ => false

end Expander

end LspHost.Machine.Shell
