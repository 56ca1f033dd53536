import LspHost.Fault
import LspHost.Settings.Snapshot
import LspHost.Text.Cut

/-!
# Nested settings

Settings travel to the server as tables within tables, one level for each part of a dotted key.
`nest` builds them and `lookup` finds what is at a dotted section.

A key can lead through or to a value that an earlier key put there. If that value is a table the two
grow together; if it is not, there is a fault, of one kind where the key would write into it and of
another where it would lead on through it.
-/

namespace LspHost.Settings

/-- The parts of a dotted key. -/
def parts (key : String) : List String := Text.cut '.' key

/-- Puts a value at a row of parts into a value that should be a table. -/
def insertAt : List String → Value → Value → Except Fault Value
  | [], value, _ => .ok value
  | [leaf], value, .table t => .ok (.table (Table.insert leaf value t))
  | [_], _, _ => .error .wrongType
  | part :: next :: rest, value, .table t => do
    let inner ← insertAt (next :: rest) value ((Table.find? part t).getD (.table []))
    return .table (Table.insert part inner t)
  | _ :: _ :: _, _, _ => .error .notTable

/-- Puts the value of one key into nested settings. -/
def insertEntry (nested : Value) (entry : String × Frozen) : Except Fault Value :=
  insertAt (parts entry.1) entry.2.thaw nested

/-- The nested settings of a snapshot. -/
def nest (s : Snapshot) : Except Fault Value :=
  s.foldlM insertEntry (.table [])

/-- What is at a row of parts. -/
def lookupAt : List String → Value → Option Value
  | [], value => some value
  | part :: rest, .table t => (Table.find? part t).bind (lookupAt rest)
  | _ :: _, _ => none

/-- What is at a section: everything if none is named, no value if there is nothing. -/
def lookup (nested : Value) (named : Option String) : Value :=
  match named with
  | none => nested
  | some name => if name.isEmpty then nested else (lookupAt (parts name) nested).getD .null

end LspHost.Settings
