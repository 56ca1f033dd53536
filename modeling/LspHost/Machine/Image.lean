import LspHost.Machine.Files

/-!
# Programs to run

What becomes of a file when it is run: a program of the machine itself, or the interpreter that the
first line of a script names, with the script as an argument. `Files.imageOnPath` looks for a
program along the directories of a search path and says which error counts when there is none.
-/

namespace LspHost.Machine

/-- A program of the machine with its arguments, its own name first. -/
structure Image where
  /-- the program -/
  program : Program
  /-- its arguments -/
  argv : List String
  deriving DecidableEq, Repr

namespace Files

/-- The interpreter that the first line of a script names, with the one argument it may give. -/
def interpreter? (content : ByteArray) : Option (String × Option String) :=
  let line := (content.toList.take 256).takeWhile (· != 10)
  match line with
  | 35 :: 33 :: rest =>
    let isSpace (byte : UInt8) : Bool := byte == 32 || byte == 9
    let rest := ((rest.dropWhile isSpace).reverse.dropWhile isSpace).reverse
    let text (bytes : List UInt8) : String := (Text.ofBytes? ⟨bytes.toArray⟩).getD ""
    let name := rest.takeWhile (!isSpace ·)
    let argument := (rest.dropWhile (!isSpace ·)).dropWhile isSpace
    if name.isEmpty then none
    else some (text name, if argument.isEmpty then none else some (text argument))
  | _ => none

/-- The number of bytes from which on an argument of a program is too long. -/
def argumentLimit : Nat := 131072

/-- What is run for the file at a path; `depth` bounds the number of scripts that interpret scripts.
-/
def image (fs : Files) (depth : Nat) (directory : Location) (path : String)
    (argv : List String) : Except Errno Image := do
  match ← fs.stat directory path with
  | .program program =>
    if argv.any (argumentLimit ≤ Text.byteCount ·) then throw .tooLong
    return { program, argv }
  | .directory | .link _ => throw .denied
  | .file content executable =>
    if !executable then throw .denied
    else if argv.any (argumentLimit ≤ Text.byteCount ·) then throw .tooLong
    else
      match interpreter? content, depth with
      | none, _ => throw .notProgram
      | some _, 0 => throw .loop
      | some (name, argument), depth + 1 =>
        fs.image depth directory name (name :: argument.toList ++ path :: argv.drop 1)

/-- The greatest number of scripts that interpret scripts. -/
def scriptLimit : Nat := 5

/-- The directories of a search path, those that are usual if there is none. -/
def searchDirectories (searchPath : Option String) : List String :=
  Text.cut ':' (searchPath.getD "/bin:/usr/bin")

/-- A name in a directory of a search path. -/
def inDirectory (directory name : String) : String :=
  if directory.isEmpty then name
  else if directory.endsWith "/" then directory ++ name
  else directory ++ "/" ++ name

/-- The first image along a row of paths. When there is none, the first error that is more than
absence counts, else the last. -/
def firstImage (fs : Files) (directory : Location) (argv : List String)
    (seen : Option Errno) (last : Errno) : List String → Except Errno Image
  | [] => .error (seen.getD last)
  | path :: rest =>
    match fs.image scriptLimit directory path argv with
    | .ok image => .ok image
    | .error errno =>
      let counts := errno != .missing && errno != .notDirectory
      fs.firstImage directory argv (seen <|> if counts then some errno else none) errno rest

/-- What is run for a program by its name: a name with a slash is a path, any other is looked for
along the search path. Both are seen from the directory the program starts in. -/
def imageOnPath (fs : Files) (directory : Location) (searchPath : Option String)
    (argv : List String) : Except Errno Image :=
  let name := argv.headD ""
  let paths :=
    if name.toList.contains '/' then [name]
    else (searchDirectories searchPath).map (inDirectory · name)
  fs.firstImage directory argv none .missing paths

end Files

end LspHost.Machine
