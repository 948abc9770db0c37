import PromptGraph.Json.Strict

/-!
# `PromptGraph.Json.Writer` — data texts

## Contents
- **Texts.** `Json.escape`: a text inside double quotes, all of it escaped to ASCII or only what must be.
- **Style.** `JsonStyle`: the separators, the indentation, the order of members; the styles in use.
- **Layout.** `Json.write`: the text of a value whose numbers all have one.
- **Encoding.** `Json.writeFault?`: the first number without a text; `Json.encode`.
-/

namespace PromptGraph

namespace Json

/-! ## Texts -/

/-- A code unit of sixteen bits as an escape. -/
def unitEscape (n : Nat) : List Char := '\\' :: 'u' :: Text.hexPadded 4 n

/-- A character outside ASCII as escapes: two, of the surrogate code units, beyond the first plane. -/
def wideEscape (c : Char) : List Char :=
  if c.toNat < 0x10000 then unitEscape c.toNat
  else
    let v := c.toNat - 0x10000
    unitEscape (0xD800 + v / 0x400) ++ unitEscape (0xDC00 + v % 0x400)

/-- One character of a data text. -/
def escapeChar (ascii : Bool) (c : Char) : List Char :=
  if c = '"' then ['\\', '"']
  else if c = '\\' then ['\\', '\\']
  else if c = '\n' then ['\\', 'n']
  else if c = '\r' then ['\\', 'r']
  else if c = '\t' then ['\\', 't']
  else if c.toNat = 8 then ['\\', 'b']
  else if c.toNat = 12 then ['\\', 'f']
  else if c.toNat < 0x20 then unitEscape c.toNat
  else if ascii ∧ 0x7F ≤ c.toNat then wideEscape c
  else [c]

/-- The characters of a data text, with its quotes. -/
def escape (ascii : Bool) (cs : List Char) : List Char := '"' :: (cs.flatMap (escapeChar ascii) ++ ['"'])

end Json

/-! ## Style -/

/-- How values are laid out. -/
structure JsonStyle where
  /-- Escape every character outside ASCII. -/
  ascii : Bool
  /-- Between items on one line. -/
  comma : String
  /-- Between a name and its value. -/
  colon : String
  /-- Blanks per level, each item on a line of its own; all on one line when absent. -/
  indent : Option Nat
  /-- Members in the order of their names. -/
  sorted : Bool

namespace JsonStyle

/-- One line, a blank after each separator, pure ASCII. -/
def line : JsonStyle := ⟨true, ", ", ": ", none, false⟩

/-- Indented by two, pure ASCII. -/
def indented : JsonStyle := ⟨true, ",", ": ", some 2, false⟩

/-- Indented by two with sorted names, pure ASCII. -/
def sortedIndented : JsonStyle := ⟨true, ",", ": ", some 2, true⟩

end JsonStyle

namespace Json

/-- The line break before an item at a level of nesting. -/
def lineBreak (s : JsonStyle) (level : Nat) : String :=
  match s.indent with
  | none => ""
  | some n => "\n" ++ String.ofList (List.replicate (n * level) ' ')

/-- A text with its quotes. -/
def writeText (s : JsonStyle) (t : String) : String := String.ofList (escape s.ascii t.toList)

/-- Written items in brackets. -/
def enclose (s : JsonStyle) (level : Nat) (opening closing : String) (items : List String) : String :=
  if items.isEmpty then opening ++ closing
  else
    opening ++ lineBreak s (level + 1) ++ String.intercalate (s.comma ++ lineBreak s (level + 1)) items
      ++ lineBreak s level ++ closing

/-- Written members, sorted where the style asks for it. -/
def arrange (s : JsonStyle) (members : List (String × String)) : List String :=
  let ordered := if s.sorted then members.mergeSort fun a b => a.1 ≤ b.1 else members
  ordered.map fun m => writeText s m.1 ++ s.colon ++ m.2

mutual

/-- A value as a text, `level` being the depth of nesting. -/
def writeAt (s : JsonStyle) (level : Nat) : Json → String
  | .null => "null"
  | .bool b => if b then "true" else "false"
  | .num n => NumberLayout.json.number n
  | .str t => writeText s t
  | .arr xs => enclose s level "[" "]" (writeItems s (level + 1) xs)
  | .obj ms => enclose s level "\x7b" "\x7d" (arrange s (writeMembers s (level + 1) ms))

/-- Each item as a text. -/
def writeItems (s : JsonStyle) (level : Nat) : List Json → List String
  | [] => []
  | x :: rest => writeAt s level x :: writeItems s level rest

/-- Each member as its name and the text of its value. -/
def writeMembers (s : JsonStyle) (level : Nat) : List (String × Json) → List (String × String)
  | [] => []
  | (k, v) :: rest => (k, writeAt s level v) :: writeMembers s level rest

end

/-- A value laid out as a text, its integers being written however long they are. -/
def write (s : JsonStyle) (v : Json) : String := writeAt s 0 v

/-! ## Encoding -/

/-- Why a number is not written; a strict text has only finite ones. -/
def numberFault? (strict : Bool) : Number → Option TextFault
  | .int n => if isLongInteger n then some .longInteger else none
  | x => if strict && !isStrictNumber x then some .notFinite else none

mutual

/-- Why a value has no data text: the fault of its first number that has one. -/
def writeFault? (strict : Bool) : Json → Option TextFault
  | .num n => numberFault? strict n
  | .arr xs => writeFaultOfItems? strict xs
  | .obj ms => writeFaultOfMembers? strict ms
  | _ => none

def writeFaultOfItems? (strict : Bool) : List Json → Option TextFault
  | [] => none
  | x :: rest => (writeFault? strict x).or (writeFaultOfItems? strict rest)

def writeFaultOfMembers? (strict : Bool) : List (String × Json) → Option TextFault
  | [] => none
  | (_, v) :: rest => (writeFault? strict v).or (writeFaultOfMembers? strict rest)

end

/-- The data text of a value, unless an integer in it has too many digits. -/
def encode (s : JsonStyle) (v : Json) : Except TextFault String :=
  match writeFault? false v with
  | some fault => .error fault
  | none => .ok (write s v)

end Json

end PromptGraph
