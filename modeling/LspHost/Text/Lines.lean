/-!
# Line endings

A text read from a file or from a command uses one line feed per line end: a carriage return, alone
or before a line feed, is read as one line feed.
-/

namespace LspHost.Text

/-- Reads each of `\r\n`, `\r` and `\n` as one line feed. -/
def unifyLineEnds : List Char → List Char
  | [] => []
  | ['\r'] => ['\n']
  | '\r' :: '\n' :: rest => '\n' :: unifyLineEnds rest
  | '\r' :: rest => '\n' :: unifyLineEnds rest
  | c :: rest => c :: unifyLineEnds rest

/-- A text with all line ends read as line feeds. -/
def withLineFeeds (text : String) : String :=
  String.ofList (unifyLineEnds text.toList)

/-- Reads `\r\n` as one line feed and leaves a lone carriage return alone. -/
def foldLineEndPairs : List Char → List Char
  | [] => []
  | '\r' :: '\n' :: rest => '\n' :: foldLineEndPairs rest
  | c :: rest => c :: foldLineEndPairs rest

end LspHost.Text
