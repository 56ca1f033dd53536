import LspHost.Machine.Errno
import LspHost.Text.Cut
import LspHost.Text.Utf8

/-!
# Files

A file system of directories, files and symbolic links, and the way from the text of a path to what
is there. A location is the row of names from the root down, with no link and no `..` in it; `walk`
finds the location that a path leads to, following links as a kernel does: `..` leaves the directory
that was really entered, at most forty links are followed, and names and paths have a greatest
length.
-/

namespace LspHost.Machine

/-- A program that the machine runs itself. -/
inductive Program where
  /-- the shell -/
  | shell
  /-- lets time pass -/
  | sleep
  deriving DecidableEq, Repr

/-- What is at a location. -/
inductive Node where
  /-- a directory -/
  | directory
  /-- a file -/
  | file (content : ByteArray) (executable : Bool)
  /-- a symbolic link -/
  | link (target : String)
  /-- a program of the machine -/
  | program (kind : Program)

/-- The names from the root down. -/
abbrev Location := List String

/-- A file system: what is at each location. The root is always a directory. -/
structure Files where
  /-- the nodes of all locations but the root -/
  nodes : List (Location × Node) := []

namespace Files

/-- What is at a location. -/
def get? (fs : Files) (at_ : Location) : Option Node :=
  if at_.isEmpty then some .directory
  else (fs.nodes.find? (·.1 == at_)).map Prod.snd

/-- Puts a node at a location. -/
def put (fs : Files) (at_ : Location) (node : Node) : Files :=
  { nodes := fs.nodes.filter (·.1 != at_) ++ [(at_, node)] }

/-- Removes what is at a location and below it. -/
def remove (fs : Files) (at_ : Location) : Files :=
  { nodes := fs.nodes.filter fun entry => !at_.isPrefixOf entry.1 }

/-- Whether a directory is at a location. -/
def isDirectoryAt (fs : Files) (at_ : Location) : Bool :=
  match fs.get? at_ with
  | some .directory => true
  | _ => false

/-! ## Walking -/

/-- The greatest number of bytes of a name. -/
def nameLimit : Nat := 255

/-- The number of bytes from which on a path is too long. -/
def pathLimit : Nat := 4096

/-- The greatest number of links that are followed. -/
def linkLimit : Nat := 40

/-- How far a row of names leads without following a link. -/
inductive Reach where
  /-- to a location where something is -/
  | found (at_ : Location)
  /-- to a name that is not there, in a directory, as the last of the row -/
  | vacant (at_ : Location)
  /-- to a link inside a directory, with names still to go -/
  | link (directory : Location) (target : String) (rest : List String)
  /-- to an error -/
  | failed (errno : Errno)

/-- Follows a row of names from a location up to its end or the first link to follow; a link at the
very end is followed if `followLast` says so. -/
def descend (fs : Files) (followLast : Bool) (from_ : Location) : List String → Reach
  | [] => .found from_
  | name :: rest =>
    if !fs.isDirectoryAt from_ then .failed .notDirectory
    else if name.isEmpty || name == "." then descend fs followLast from_ rest
    else if name == ".." then descend fs followLast from_.dropLast rest
    else if nameLimit < Text.byteCount name then .failed .nameTooLong
    else
      match fs.get? (from_ ++ [name]) with
      | none => if rest.isEmpty then .vacant (from_ ++ [name]) else .failed .missing
      | some (.link target) =>
        -- at the very end the link itself may be what is looked for
        if rest.isEmpty && !followLast then .found (from_ ++ [name])
        else .link from_ target rest
      | some _ => descend fs followLast (from_ ++ [name]) rest

/-- Where a path leads: to something, or to a free name in a directory. -/
inductive Place where
  /-- something is there -/
  | found (at_ : Location)
  /-- nothing is there yet -/
  | vacant (at_ : Location)
  deriving DecidableEq

/-- Follows a row of names with all links on the way, `links` at most. -/
def follow (fs : Files) (followLast : Bool) (links : Nat) (from_ : Location)
    (names : List String) : Except Errno Place :=
  match descend fs followLast from_ names with
  | .found at_ => .ok (.found at_)
  | .vacant at_ => .ok (.vacant at_)
  | .failed errno => .error errno
  | .link directory target rest =>
    match links with
    | 0 => .error .loop
    | links + 1 =>
      let start := if target.startsWith "/" then [] else directory
      follow fs followLast links start (Text.cut '/' target ++ rest)

/-- Where the text of a path leads from a directory. -/
def place (fs : Files) (followLast : Bool) (from_ : Location) (path : String) :
    Except Errno Place :=
  if path.isEmpty then .error .missing
  else if pathLimit ≤ Text.byteCount path then .error .nameTooLong
  else
    let start := if path.startsWith "/" then [] else from_
    follow fs followLast linkLimit start (Text.cut '/' path)

/-- The location of what is at a path. -/
def walk (fs : Files) (followLast : Bool) (from_ : Location) (path : String) :
    Except Errno Location := do
  match ← fs.place followLast from_ path with
  | .found at_ => return at_
  | .vacant _ => throw .missing

/-- What is at a path, links followed. -/
def stat (fs : Files) (from_ : Location) (path : String) : Except Errno Node := do
  let at_ ← fs.walk true from_ path
  match fs.get? at_ with
  | some node => return node
  | none => throw .missing

/-- Whether a directory is at a path; errors that mean that nothing is there are answers. -/
def isDirectory (fs : Files) (from_ : Location) (path : String) : Except Errno Bool :=
  match fs.stat from_ path with
  | .ok .directory => .ok true
  | .ok _ => .ok false
  | .error errno => if errno.meansAbsent then .ok false else .error errno

/-- Whether anything is at a path; errors that mean that nothing is there are answers. -/
def isPresent (fs : Files) (from_ : Location) (path : String) : Except Errno Bool :=
  match fs.stat from_ path with
  | .ok _ => .ok true
  | .error errno => if errno.meansAbsent then .ok false else .error errno

/-- The content of the file at a path. -/
def read (fs : Files) (from_ : Location) (path : String) : Except Errno ByteArray := do
  match ← fs.stat from_ path with
  | .file content _ => return content
  | .program _ => return .empty
  | .directory | .link _ => throw .isDirectory

/-- Whether a file at a path may be run, or a directory entered. -/
def mayExecute (node : Node) : Bool :=
  match node with
  | .directory => true
  | .file _ executable => executable
  | .program _ => true
  | .link _ => false

/-! ## Changing -/

/-- Opens a file for writing, which makes it if only it is missing; gives its location. -/
def openForWriting (fs : Files) (from_ : Location) (path : String) :
    Except Errno (Location × Files) := do
  match ← fs.place true from_ path with
  | .vacant at_ => return (at_, fs.put at_ (.file .empty false))
  | .found at_ =>
    match fs.get? at_ with
    | some (.file _ _) => return (at_, fs)
    | _ => throw .isDirectory

/-- Replaces the content of the file at a location. -/
def setContent (fs : Files) (at_ : Location) (content : ByteArray) : Files :=
  let executable :=
    match fs.get? at_ with
    | some (.file _ executable) => executable
    | _ => false
  fs.put at_ (.file content executable)

/-- The content of the file at a location, empty if no file is there. -/
def contentAt (fs : Files) (at_ : Location) : ByteArray :=
  match fs.get? at_ with
  | some (.file content _) => content
  | _ => .empty

/-- Makes a directory with all that are missing above it. -/
def makeDirectories (fs : Files) (at_ : Location) : Files :=
  (List.range at_.length).foldl (fun fs i =>
    let above := at_.take (i + 1)
    match fs.get? above with
    | some _ => fs
    | none => fs.put above .directory) fs

end Files

end LspHost.Machine
