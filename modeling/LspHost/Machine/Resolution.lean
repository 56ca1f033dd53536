import LspHost.Fault
import LspHost.Machine.Files
import LspHost.Path

/-!
# Resolving paths

The absolute path without links that a path stands for. Unlike in a walk, names need not be there:
what cannot be found is taken as it is written, and `..` drops the name before it. A link that leads
back to itself cannot be resolved; the path is then kept as it is written from that link on, and it
depends on what is there whether that is an error.
-/

namespace LspHost.Machine.Files

/-! ## Trails -/

/-- How far a path has been resolved: from the root down, or from the current directory some levels
up and then down. -/
structure Trail where
  /-- whether it begins at the root -/
  rooted : Bool
  /-- the number of levels up, none if it begins at the root -/
  ups : Nat := 0
  /-- the names from there down -/
  names : List String := []
  deriving DecidableEq

namespace Trail

/-- The text of a trail. -/
def text (t : Trail) : String :=
  (if t.rooted then "/" else "") ++ "/".intercalate (List.replicate t.ups ".." ++ t.names)

/-- The location that a trail leads to from the current directory. -/
def location (t : Trail) (directory : Location) : Location :=
  if t.rooted then t.names else directory.take (directory.length - t.ups) ++ t.names

/-- The trail to a name in the directory that a trail leads to. -/
def down (t : Trail) (name : String) : Trail := { t with names := t.names ++ [name] }

/-- The trail without its last name, or one level further up; there is nothing above the root. -/
def up (t : Trail) : Trail :=
  if t.names.isEmpty then if t.rooted then t else { t with ups := t.ups + 1 }
  else { t with names := t.names.dropLast }

end Trail

/-! ## Following links -/

/-- Whether a path could be resolved to its end. -/
inductive Resolved where
  /-- it was -/
  | whole (trail : Trail)
  /-- it was up to a link that leads back to itself, from which on it is kept as it is written -/
  | looping (kept : String)

/-- Links that were met, each with what it stands for; none for one that is still being resolved. -/
abbrev Met := List (Trail × Option Trail)

/-- A way to resolve a row of names from the end of a trail, which knows the links that were met before and
tells which have been met then. -/
abbrev Resolving := Met → Trail → List String → Except Fault (Resolved × Met)

/-- The greatest depth of links within links. Each takes a call within a call, so the depth is limited by
the room that the callers leave on the stack; it is fixed at what is left a few calls below the start of
a program. -/
def nestingLimit : Nat := 985

/-- A path followed by the rest of one, which takes its place if it begins with a slash. -/
def joinRest (path rest : String) : String :=
  if rest.startsWith "/" then rest
  else if path.isEmpty || path.endsWith "/" then path ++ rest
  else path ++ "/" ++ rest

/-- The target of the link that a trail leads to, if it leads to one and is not too long. -/
def linkTarget? (fs : Files) (directory : Location) (t : Trail) : Option String :=
  if pathLimit ≤ Text.byteCount t.text then none
  else
    match fs.get? (t.location directory) with
    | some (.link target) => some target
    | _ => none

/-- Resolves a row of names from the end of a trail; `follow` resolves what a link stands for that has
not been met before. -/
def resolveRow (fs : Files) (directory : Location) (follow : Resolving) (met : Met) (trail : Trail)
    (names : List String) : Except Fault (Resolved × Met) :=
  match names with
  | [] => .ok (.whole trail, met)
  | name :: rest =>
    if name.isEmpty || name == "." then resolveRow fs directory follow met trail rest
    else if name == ".." then resolveRow fs directory follow met trail.up rest
    else if name.toList.contains '\x00' then .error (.badText .nul)
    else
      let next := trail.down name
      match fs.linkTarget? directory next with
      | none => resolveRow fs directory follow met next rest
      | some target =>
        match met.find? (·.1 == next) with
        | some (_, some known) => resolveRow fs directory follow met known rest
        -- met again while it is being resolved, so it leads back to itself
        | some (_, none) => .ok (.looping (joinRest next.text ("/".intercalate rest)), met)
        | none =>
          let start : Trail := if target.startsWith "/" then { rooted := true } else trail
          match follow ((next, none) :: met) start (Text.cut '/' target) with
          | .error fault => .error fault
          | .ok (.looping kept, met) => .ok (.looping (joinRest kept ("/".intercalate rest)), met)
          | .ok (.whole known, met) =>
            resolveRow fs directory follow ((next, some known) :: met) known rest

/-- Resolves a row of names from the end of a trail; `depth` bounds the depth of links within links. -/
def resolveNames (fs : Files) (directory : Location) (depth : Nat) : Resolving :=
  match depth with
  | 0 => fs.resolveRow directory fun _ _ _ => .error .tooDeep
  | depth + 1 => fs.resolveRow directory (resolveNames fs directory depth)

/-- Names with those that say nothing left out and `..` dropping the name before it. -/
def normalise (names : List String) : List String :=
  names.foldl (fun done name =>
    if name.isEmpty || name == "." then done
    else if name == ".." then done.dropLast
    else done ++ [name]) []

/-- The absolute path that a text spells in a directory, `..` dropping the name before it. -/
def absolute (directory : Location) (text : String) : Path :=
  let text := joinRest ("/" ++ "/".intercalate directory) text
  .ofSegments (Path.anchorOf text.toList) (normalise (Text.cut '/' text))

/-- The absolute path without links that a path stands for in a directory; a fault if it leads
through links that lead back to themselves and cannot be looked at as it is kept. -/
def resolve (fs : Files) (directory : Location) (path : String) : Except Fault Path := do
  let start : Trail := { rooted := path.startsWith "/" }
  let (resolved, _) ← fs.resolveNames directory nestingLimit [] start (Text.cut '/' path)
  let path :=
    match resolved with
    | .whole trail => .ofSegments .root (trail.location directory)
    | .looping kept => absolute directory kept
  if path.hasNul then throw (.badText .nul)
  match fs.stat [] path.text with
  | .error .loop => throw .linkLoop
  | _ => return path

end LspHost.Machine.Files
