import LspHost.Host

/-!
# Workspaces

A workspace keeps the documents opened in a project. A closed document stays listed but is no longer
live; opening it again makes a new document in its place. Every document that was ever made keeps
its number, so that documents can be told apart even where one took the place of another.
-/

namespace LspHost

/-- A document of a workspace. -/
structure Document where
  /-- its absolute path -/
  path : Path
  /-- whether it is still open -/
  live : Bool := true
  deriving DecidableEq

/-- The name of a document. -/
def Document.name (d : Document) : String := d.path.text

/-- The documents of a project. -/
structure Workspace where
  /-- the root of the project -/
  root : Path
  /-- every document ever made; its position is its number -/
  made : List Document := []
  /-- for each path the number of its present document, in the order of first opening -/
  listing : List (Path × Nat) := []

namespace Workspace

/-- The number of the document listed for a path. -/
def listed? (w : Workspace) (path : Path) : Option Nat :=
  (w.listing.find? (·.1 == path)).map Prod.snd

/-- Whether the document of a number is live. -/
def isLive (w : Workspace) (number : Nat) : Bool :=
  (w.made[number]?.map Document.live).getD false

/-- Lists a document for a path: in the place of the one before, at the end if there is none. -/
def list (path : Path) (number : Nat) : List (Path × Nat) → List (Path × Nat)
  | [] => [(path, number)]
  | (p, n) :: rest => if p = path then (p, number) :: rest else (p, n) :: list path number rest

/-- Makes a new document and lists it. -/
def add (w : Workspace) (path : Path) : Workspace :=
  { w with made := w.made ++ [{ path }], listing := list path w.made.length w.listing }

/-- Opens the document of an absolute path: gives the number of the live one, which is made if there
is none. -/
def openAt (w : Workspace) (path : Path) : Nat × Workspace :=
  match w.listed? path with
  | some number => if w.isLive number then (number, w) else (w.made.length, w.add path)
  | none => (w.made.length, w.add path)

/-- Closes the document of an absolute path, if there is one. -/
def closeAt (w : Workspace) (path : Path) : Workspace :=
  match w.listed? path with
  | some number => { w with made := w.made.modify number fun d => { d with live := false } }
  | none => w

/-- The listed documents, live or not, in the order of first opening. -/
def documents (w : Workspace) : List Document :=
  w.listing.filterMap fun entry => w.made[entry.2]?

/-- The listed documents that are live. -/
def liveDocuments (w : Workspace) : List Document := w.documents.filter Document.live

/-- The path of the last live document of the listing. -/
def currentFile (w : Workspace) : Option Path := w.liveDocuments.getLast?.map Document.path

variable {σ : Type}

/-- A workspace without documents. -/
def new (host : Host σ) (root : Path) : Act σ Workspace := do
  return { root := ← host.resolve root }

/-- The absolute path that a document is known by. -/
def locate (w : Workspace) (host : Host σ) (path : Path) : Act σ Path :=
  host.resolve (w.root.join path)

end Workspace

end LspHost
