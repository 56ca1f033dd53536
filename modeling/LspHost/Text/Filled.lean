/-!
# Filled lines

A text cut into lines of limited width at its blanks. A word that is wider than a whole line is cut
where the line ends.
-/

namespace LspHost.Text

/-- A piece of a text that is filled into lines: a word or the blank between two words. -/
abbrev Chunk := List Char

/-- Whether a chunk shows nothing. -/
def isVoid (chunk : Chunk) : Bool := chunk.all (· == ' ')

/-- The words of a text with the blanks between them. -/
def chunks (words : List String) : List Chunk := (words.map String.toList).intersperse [' ']

/-- The chunks that fit into what is left of a line, and the others. -/
def takeFitting (room : Nat) : List Chunk → List Chunk × List Chunk
  | [] => ([], [])
  | chunk :: rest =>
    if chunk.length ≤ room then
      let (line, rest) := takeFitting (room - chunk.length) rest
      (chunk :: line, rest)
    else ([], chunk :: rest)

/-- Chunks that begin a new line, which begins with no blank. -/
def dropVoid : List Chunk → List Chunk
  | [] => []
  | chunk :: rest => if isVoid chunk then rest else chunk :: rest

/-- The first line of a row of chunks, and the chunks for the other lines. -/
def fillLine (width : Nat) (row : List Chunk) : List Chunk × List Chunk :=
  let (line, rest) := takeFitting width row
  match rest with
  | [] => (line, [])
  | chunk :: after =>
    if chunk.length ≤ width then (line, rest)
    else
      let room := width - line.flatten.length
      (line ++ [chunk.take room], chunk.drop room :: after)

/-- The lines of a row of chunks; `fuel` bounds their number. -/
def fillChunks (width fuel : Nat) (row : List Chunk) : List String :=
  match fuel, row with
  | 0, _ | _, [] => []
  | fuel + 1, row =>
    let (line, rest) := fillLine width row
    let line := if line.getLast?.any isVoid then line.dropLast else line
    let after := fillChunks width fuel (dropVoid rest)
    if line.isEmpty then after else String.ofList line.flatten :: after

/-- Words in lines of limited width, blanks between them. -/
def fill (width : Nat) (words : List String) : List String :=
  let row := chunks words
  fillChunks width (row.flatten.length + 1) row

example : fill 11 ["for", "troubleshooting", "it"] = ["for trouble", "shooting it"] := by
  decide +kernel

end LspHost.Text
