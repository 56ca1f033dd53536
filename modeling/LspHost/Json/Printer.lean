import LspHost.Text.Digits
import LspHost.Value.Text

/-!
# Writing JSON

JSON output is indented by two spaces a level, one item or entry a line, and holds ASCII characters
only. A date or a time has no JSON form, and integers that are too long and lists and objects that
are nested too deep are not written; the first of these in the order of the output is the fault.
-/

namespace LspHost.Json

/-- A UTF-16 unit as an escape. -/
def unitEscape (unit : Nat) : List Char :=
  '\\' :: 'u' :: Text.hexDigits 4 unit

/-- One character of a JSON text. -/
def escapeChar (c : Char) : List Char :=
  match c with
  | '"' => ['\\', '"']
  | '\\' => ['\\', '\\']
  | '\n' => ['\\', 'n']
  | '\r' => ['\\', 'r']
  | '\t' => ['\\', 't']
  | '\x0c' => ['\\', 'f']
  | '\x08' => ['\\', 'b']
  | c =>
    let point := c.toNat
    if 0x20 ≤ point ∧ point ≤ 0x7e then [c]
    else if point < 0x10000 then unitEscape point
    else
      let offset := point - 0x10000
      unitEscape (0xd800 + offset / 0x400) ++ unitEscape (0xdc00 + offset % 0x400)

/-- A text between quotes. -/
def textLiteral (text : String) : String :=
  String.ofList ('"' :: text.toList.flatMap escapeChar ++ ['"'])

/-- A line break and the indentation of a level. -/
def newLine (level : Nat) : String :=
  String.ofList ('\n' :: List.replicate (2 * level) ' ')

/-- Entries in the order of their keys. -/
def byKey {α : Type} (entries : List (String × α)) : List (String × α) :=
  entries.mergeSort fun a b => decide (a.1 ≤ b.1)

/-- Parts of a list or an object, one a line. -/
def block (opening closing : String) (level : Nat) (parts : List String) : String :=
  if parts.isEmpty then opening ++ closing
  else
    opening ++ newLine (level + 1) ++ ("," ++ newLine (level + 1)).intercalate parts ++
      newLine level ++ closing

/-- How the numbers that are not finite are spelled. -/
def spelling : Binary64.Spelling := { infinity := "Infinity", nan := "NaN" }

mutual

/-- The JSON form of a value at a level of indentation; `sorted` puts the keys of objects in
order. -/
def render (sorted : Bool) (level : Nat) : Value → Except Fault String
  | .null => .ok "null"
  | .bool b => .ok (if b then "true" else "false")
  | .int n => Value.writeInt n
  | .float x => .ok (x.textWith spelling)
  | .string s => .ok (textLiteral s)
  | .list items =>
    if Value.depthLimit ≤ level then .error .tooDeep
    else do return block "[" "]" level (← renderItems sorted (level + 1) items)
  | .table entries =>
    if Value.depthLimit ≤ level then .error .tooDeep
    else do
      let parts := renderEntries sorted (level + 1) entries
      let parts := if sorted then byKey parts else parts
      let parts ← parts.mapM fun (key, value) => return textLiteral key ++ ": " ++ (← value)
      return block "\x7b" "\x7d" level parts
  | .moment _ => .error .wrongType

/-- The JSON forms of the values of a list. -/
def renderItems (sorted : Bool) (level : Nat) : List Value → Except Fault (List String)
  | [] => .ok []
  | item :: rest => do
    let item ← render sorted level item
    let rest ← renderItems sorted level rest
    return item :: rest

/-- The keys of an object, each with the JSON form of its value. -/
def renderEntries (sorted : Bool) (level : Nat) :
    List (String × Value) → List (String × Except Fault String)
  | [] => []
  | (key, value) :: rest => (key, render sorted level value) :: renderEntries sorted level rest

end

/-- The JSON text of a value, its keys in their own order. -/
def pretty (value : Value) : Except Fault String := render false 0 value

/-- The JSON text of a value with the keys of every object in order. -/
def prettySorted (value : Value) : Except Fault String := render true 0 value

end LspHost.Json
