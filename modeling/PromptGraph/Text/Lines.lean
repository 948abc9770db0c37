/-!
# `PromptGraph.Text.Lines` — the lines of a text

A line ends at any line boundary of the character standard, a carriage return with a following line feed being
one boundary. A boundary at the end of a text begins no further line.
-/

namespace PromptGraph.Text

/-- The characters that end a line. -/
def isLineEnd (c : Char) : Bool :=
  let n := c.toNat
  (0xA ≤ n && n ≤ 0xD) || (0x1C ≤ n && n ≤ 0x1E) || n == 0x85 || n == 0x2028 || n == 0x2029

/-- The lines of a text, `line` being the reversed beginning of the present one. -/
def splitLines (line : List Char) : List Char → List (List Char)
  | [] => if line.isEmpty then [] else [line.reverse]
  | '\r' :: '\n' :: rest => line.reverse :: splitLines [] rest
  | c :: rest => if isLineEnd c then line.reverse :: splitLines [] rest else splitLines (c :: line) rest

/-- The lines of a text. -/
def lines (s : String) : List String := (splitLines [] s.toList).map String.ofList

/-- A text on a single line, its lines joined by spaces. -/
def oneLine (s : String) : String := String.intercalate " " (lines s)

/-- Every carriage return, alone or before a line feed, read as a line feed. -/
def unifyLineEnds : List Char → List Char
  | [] => []
  | '\r' :: '\n' :: rest => '\n' :: unifyLineEnds rest
  | c :: rest => (if c = '\r' then '\n' else c) :: unifyLineEnds rest

end PromptGraph.Text
