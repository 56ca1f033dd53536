import LspHost.Text.Lines
import LspHost.Toml.Number
import LspHost.Toml.Text

/-!
# TOML: values and documents

`Toml.parse` reads a document into a table. Whether a header or a key may add to a table depends on
how that table came about: a table may be opened by a header once, a table that a dotted key made
may not be opened by a later header, and what is written inline is closed for good.
-/

namespace LspHost.Toml

open Text (Front)

/-! ## Tables within tables -/

/-- Replaces the last table of a list. -/
def onLast (f : Table → Except Problem Table) (items : List Value) :
    Except Problem (List Value) :=
  match items.getLast? with
  | some (.table inner) => do
    let inner ← f inner
    return items.dropLast ++ [.table inner]
  | _ => .error .malformed

/-- Changes the table at a key, making the tables on the way; `lists` says that a list on the way
stands for its last table. -/
def onNest (lists : Bool) (f : Table → Except Problem Table) : Key → Table → Except Problem Table
  | [], t => f t
  | part :: parts, t =>
    match t.find? part with
    | none => do
      let inner ← onNest lists f parts []
      return t.insert part (.table inner)
    | some (.table inner) => do
      let inner ← onNest lists f parts inner
      return t.insert part (.table inner)
    | some (.list items) =>
      if lists then do
        let items ← onLast (onNest lists f parts) items
        return t.insert part (.list items)
      else .error .malformed
    | some _ => .error .malformed

/-- Adds an entry to a table that does not have its key yet. -/
def addEntry (name : String) (value : Value) (t : Table) : Except Problem Table :=
  match t.find? name with
  | some _ => .error .malformed
  | none => .ok (t.insert name value)

/-- Adds an empty table to the list of a name, which is made if it is not there. -/
def addToList (name : String) (t : Table) : Except Problem Table :=
  match t.find? name with
  | none => .ok (t.insert name (.list [.table []]))
  | some (.list items) => .ok (t.insert name (.list (items ++ [.table []])))
  | some _ => .error .malformed

/-- Whether a key leads to or into something that is closed. -/
def isClosed (closed : List Key) (key : Key) : Bool :=
  !key.isEmpty && closed.any (·.isPrefixOf key)

/-- Whether a value is written inline, so that nothing can be added to it. -/
def isInline : Value → Bool
  | .list _ | .table _ => true
  | _ => false

/-! ## Values -/

/-- How much of the permitted depth an array takes. -/
def arrayWeight : Nat := 2

/-- How much of the permitted depth an inline table takes. -/
def tableWeight : Nat := 3

/-- The permitted depth. As for JSON it depends on the room that the callers leave on the stack, and is
fixed at what is left a few calls below the start of a program. -/
def depthLimit : Nat := 980

mutual

/-- Reads a value; `room` is the depth that is left and `fuel` bounds the number of values. -/
def readValue (fuel room : Nat) (text : List Char) : Except Problem (Front Value) :=
  match fuel with
  | 0 => .error .malformed
  | fuel + 1 =>
    match text with
    | '[' :: rest =>
      if room < arrayWeight then .error .tooDeep
      else do
        let (items, rest) ← readItems fuel (room - arrayWeight) rest
        return (.list items, rest)
    | '\x7b' :: rest =>
      if room < tableWeight then .error .tooDeep
      else
        match skipBlank rest with
        | '\x7d' :: rest => .ok (.table [], rest)
        | rest => do
          let (entries, rest) ← readEntries fuel (room - tableWeight) [] [] rest
          return (.table entries, rest)
    | '"' :: _ | '\'' :: _ => do
      let (chars, rest) ← readAnyText text
      return (.string chars, rest)
    | text =>
      match Text.afterWord? "true" text, Text.afterWord? "false" text with
      | some rest, _ => .ok (.bool true, rest)
      | none, some rest => .ok (.bool false, rest)
      | none, none => readScalar text

/-- Reads the values of an array up to its closing bracket. -/
def readItems (fuel room : Nat) (text : List Char) : Except Problem (Front (List Value)) :=
  match fuel with
  | 0 => .error .malformed
  | fuel + 1 => do
    match ← skipFiller false text with
    | ']' :: rest => return ([], rest)
    | rest =>
      let (item, rest) ← readValue fuel room rest
      match ← skipFiller false rest with
      | ']' :: rest => return ([item], rest)
      | ',' :: rest =>
        let (items, rest) ← readItems fuel room rest
        return (item :: items, rest)
      | _ => .error .malformed

/-- Reads the entries of an inline table up to its closing brace; `entries` and `closed` are what
has been read and what of it is inline. -/
def readEntries (fuel room : Nat) (entries : Table) (closed : List Key) (text : List Char) :
    Except Problem (Front Table) :=
  match fuel with
  | 0 => .error .malformed
  | fuel + 1 => do
    let (key, rest) ← readKey text
    let '=' :: rest := rest | .error .malformed
    let (value, rest) ← readValue fuel room (skipBlank rest)
    -- the value is read first, so that a fault inside it counts before a key that is closed
    if isClosed closed key then .error .malformed
    let entries ← onNest false (addEntry (key.getLastD "") value) key.dropLast entries
    match skipBlank rest with
    | '\x7d' :: rest => return (entries, rest)
    | ',' :: rest =>
      let closed := if isInline value then key :: closed else closed
      readEntries fuel room entries closed (skipBlank rest)
    | _ => .error .malformed

end

/-! ## Documents -/

/-- What has been read of a document. -/
structure Draft where
  /-- the table so far -/
  table : Table := []
  /-- the key of the last header -/
  header : Key := []
  /-- the tables that no header may open any more -/
  opened : List Key := []
  /-- what is closed for good -/
  closed : List Key := []
  /-- the tables that count as opened once the next header comes -/
  pending : List Key := []

namespace Draft

/-- The draft with the tables that dotted keys made counted as opened. -/
def settle (d : Draft) : Draft :=
  { d with opened := d.pending ++ d.opened, pending := [] }

/-- Opens the table of a header. -/
def openTable (d : Draft) (key : Key) : Except Problem Draft :=
  if d.opened.contains key || isClosed d.closed key then .error .malformed
  else do
    let table ← onNest true .ok key d.table
    return { d with table, header := key, opened := key :: d.opened }

/-- Adds a table to the list of a header; everything known about the earlier tables of the list is
forgotten. -/
def openItem (d : Draft) (key : Key) : Except Problem Draft :=
  if isClosed d.closed key then .error .malformed
  else do
    -- the new table has not been written to, whatever was written to the ones before it
    let apart (other : Key) : Bool := !key.isPrefixOf other
    let table ← onNest true (addToList (key.getLastD "")) key.dropLast d.table
    return { d with
      table
      header := key
      opened := key :: d.opened.filter apart
      closed := d.closed.filter apart }

/-- The tables that a dotted key passes through, from the header on. -/
def passed (d : Draft) (key : Key) : List Key :=
  (List.range (key.length - 1)).map fun i => d.header ++ key.take (i + 1)

/-- Adds an entry under the last header. -/
def add (d : Draft) (key : Key) (value : Value) : Except Problem Draft :=
  let passed := d.passed key
  let place := d.header ++ key.dropLast
  if passed.any d.opened.contains || isClosed d.closed place then .error .malformed
  else do
    let table ← onNest true (addEntry (key.getLastD "") value) place d.table
    return { d with
      table
      pending := d.pending ++ passed
      closed := if isInline value then (d.header ++ key) :: d.closed else d.closed }

end Draft

/-- Reads one statement that is not blank. -/
def readStatement (d : Draft) (text : List Char) : Except Problem (Front Draft) :=
  match text with
  | '[' :: '[' :: rest => do
    let (key, rest) ← readKey (skipBlank rest)
    let d ← d.settle.openItem key
    let ']' :: ']' :: rest := rest | .error .malformed
    return (d, rest)
  | '[' :: rest => do
    let (key, rest) ← readKey (skipBlank rest)
    let d ← d.settle.openTable key
    let ']' :: rest := rest | .error .malformed
    return (d, rest)
  | '#' :: _ => .ok (d, text)
  | [] => .ok (d, [])
  | c :: _ =>
    if beginsKey c then do
      let (key, rest) ← readKey text
      let '=' :: rest := rest | .error .malformed
      let (value, rest) ← readValue (2 * rest.length + 2) depthLimit (skipBlank rest)
      return (← d.add key value, rest)
    else .error .malformed

/-- Reads statements, one a line; `fuel` bounds the number of lines. -/
def readStatements (fuel : Nat) (d : Draft) (text : List Char) : Except Problem Draft :=
  match fuel with
  | 0 => .error .malformed
  | fuel + 1 =>
    match skipBlank text with
    | [] => .ok d
    | '\n' :: rest => readStatements fuel d rest
    | text => do
      let (d, rest) ← readStatement d text
      match ← skipComment (skipBlank rest) with
      | [] => return d
      | '\n' :: rest => readStatements fuel d rest
      | _ => .error .malformed

/-- The table of a document. -/
def parse (text : String) : Except Problem Table := do
  let chars := Text.foldLineEndPairs text.toList
  let d ← readStatements (chars.length + 1) {} chars
  return d.table

end LspHost.Toml
