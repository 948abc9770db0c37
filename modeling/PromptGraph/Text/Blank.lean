/-!
# `PromptGraph.Text.Blank` — blank characters and trimming

Two sets of blanks are in use: `isBlank` of free texts, and the smaller `isWhite` of numerals, which lacks the
four separator controls.

## Contents
- `isBlank`, `isWhite`.
- `trim`: a list without its leading and trailing characters of a class; `strip` on strings.
-/

namespace PromptGraph.Text

/-- The white space of numerals. -/
def isWhite (c : Char) : Bool :=
  let n := c.toNat
  (0x9 ≤ n && n ≤ 0xD) || n == 0x20 || n == 0x85 || n == 0xA0 || n == 0x1680 || (0x2000 ≤ n && n ≤ 0x200A)
    || n == 0x2028 || n == 0x2029 || n == 0x202F || n == 0x205F || n == 0x3000

/-- The white space of free texts: also the information separators. -/
def isBlank (c : Char) : Bool := isWhite c || (0x1C ≤ c.toNat && c.toNat ≤ 0x1F)

/-- A list without its trailing characters of a class. -/
def trimEnd (drop : Char → Bool) (cs : List Char) : List Char := (cs.reverse.dropWhile drop).reverse

/-- A list without its leading and trailing characters of a class. -/
def trim (drop : Char → Bool) (cs : List Char) : List Char := trimEnd drop (cs.dropWhile drop)

/-- A text without the blanks around it. -/
def strip (s : String) : String := String.ofList (trim isBlank s.toList)

/-- A text without its trailing slashes. -/
def stripSlashes (s : String) : String := String.ofList (trimEnd (· == '/') s.toList)

end PromptGraph.Text
