import PromptGraph.Text.Blank
import PromptGraph.Text.Lines
import PromptGraph.Text.Replace

/-!
# `PromptGraph.Config.EnvFile` — files of variables

A file of variables holds one assignment a line, such as `NAME=value`. The value may stand in quotes, may go over
several lines there, and may refer to other variables as `$` and a name in braces. A line that is no assignment is
passed over.

## Contents
- **Tokens.** `quotedSpan`, `unescape`, `beforeComment`.
- **Assignments.** `assignment`: the first assignment of a text; `assignments`: all of them.
- **References.** `Variables`, `expand`: a value with its references resolved; `resolve`: the values of all names.
-/

namespace PromptGraph.EnvFile

open Text

/-! ## Tokens -/

def isLineBreak (c : Char) : Bool := c == '\n' || c == '\r'

/-- The blanks within a line. -/
def isInlineBlank (c : Char) : Bool := isBlank c && !isLineBreak c

/-- The text up to the closing quote, and the rest. A backslash takes the character after it along. -/
def quotedSpan (quote : Char) : List Char → Option (List Char × List Char)
  | [] => none
  | ['\\'] => none
  | '\\' :: c :: rest => (quotedSpan quote rest).map fun found => ('\\' :: c :: found.1, found.2)
  | c :: rest =>
    if c = quote then some ([], rest) else (quotedSpan quote rest).map fun found => (c :: found.1, found.2)

/-- The character of an escape between single quotes. -/
def singleEscape? (c : Char) : Option Char := if c = '\\' ∨ c = '\'' then some c else none

/-- The character of an escape between double quotes. -/
def doubleEscape? (c : Char) : Option Char :=
  match c with
  | '\\' | '\'' | '"' => some c
  | 'a' => some (Char.ofNat 7)
  | 'b' => some (Char.ofNat 8)
  | 'f' => some (Char.ofNat 12)
  | 'n' => some '\n'
  | 'r' => some '\r'
  | 't' => some '\t'
  | 'v' => some (Char.ofNat 11)
  | _ => none

/-- A quoted text with its escapes resolved; other backslashes stand for themselves. -/
def unescape (escape? : Char → Option Char) : List Char → List Char
  | [] => []
  | ['\\'] => ['\\']
  | '\\' :: c :: rest =>
    match escape? c with
    | some d => d :: unescape escape? rest
    | none => '\\' :: unescape escape? (c :: rest)
  | c :: rest => c :: unescape escape? rest

/-- A line up to a number sign after a blank. -/
def beforeComment (afterBlank : Bool) : List Char → List Char
  | [] => []
  | c :: rest => if afterBlank && c == '#' then [] else c :: beforeComment (isBlank c) rest

/-! ## Assignments -/

/-- What is read, with the rest of the text, or the place where no reading is possible. -/
abbrev Reading (α : Type) := Except (List Char) (α × List Char)

/-- The rest after a text in quotes, and the text. -/
def quotedText (quote : Char) (escape? : Char → Option Char) (cs : List Char) : Reading String :=
  match quotedSpan quote (cs.drop 1) with
  | some (inside, rest) => .ok (String.ofList (unescape escape? inside), rest)
  | none => .error cs

/-- A text without the word that may introduce an assignment. -/
def dropExport (cs : List Char) : List Char :=
  match dropStart? "export".toList cs with
  | some (c :: rest) => if isInlineBlank c then rest.dropWhile isInlineBlank else cs
  | _ => cs

/-- A name; before a comment there is none. -/
def name (cs : List Char) : Reading (Option String) :=
  match cs with
  | '#' :: _ => .ok (none, cs)
  | '\'' :: rest =>
    match rest.takeWhile (· ≠ '\''), rest.dropWhile (· ≠ '\'') with
    | [], _ => .error cs
    | _, [] => .error cs
    | inside, _ :: after => .ok (some (String.ofList inside), after)
  | _ =>
    let isNameChar := fun c => c ≠ '=' && c ≠ '#' && !isBlank c
    match cs.takeWhile isNameChar with
    | [] => .error cs
    | inside => .ok (some (String.ofList inside), cs.dropWhile isNameChar)

/-- A value, in quotes or up to the end of its line or a comment. -/
def value (afterBlank : Bool) (cs : List Char) : Reading String :=
  match cs with
  | '\'' :: _ => quotedText '\'' singleEscape? cs
  | '"' :: _ => quotedText '"' doubleEscape? cs
  | _ =>
    let line := cs.takeWhile fun c => !isLineBreak c
    .ok (String.ofList (trimEnd isBlank (beforeComment afterBlank line)), cs.dropWhile fun c => !isLineBreak c)

/-- The value after an equals sign, if there is one. -/
def valueAfterSign (cs : List Char) : Except (List Char) (Option String × List Char) :=
  match cs.dropWhile isInlineBlank with
  | '=' :: rest => do
    let (v, rest) ← value (rest.head?.any isInlineBlank) (rest.dropWhile isInlineBlank)
    pure (some v, rest)
  | rest => .ok (none, rest)

/-- A text without the comment at its beginning. -/
def dropComment (cs : List Char) : List Char :=
  match cs.dropWhile isInlineBlank with
  | '#' :: rest => rest.dropWhile fun c => !isLineBreak c
  | _ => cs

/-- A text after the end of its line, where nothing but blanks stands before that. -/
def dropLineEnd (cs : List Char) : Except (List Char) (List Char) :=
  match cs.dropWhile isInlineBlank with
  | [] => .ok []
  | '\r' :: '\n' :: rest => .ok rest
  | c :: rest => if isLineBreak c then .ok rest else .error cs

/-- The rest of a text after its first line. -/
def dropLine (cs : List Char) : List Char := (cs.dropWhile fun c => !isLineBreak c).drop 1

/-- A name with its value. A name without an equals sign has none. -/
abbrev Assignment := String × Option String

/-- The assignment at the beginning of a text. -/
def tryAssignment (cs : List Char) : Except (List Char) (Option Assignment × List Char) := do
  let (n, rest) ← name (dropExport cs)
  let (v, rest) ← valueAfterSign rest
  let rest ← dropLineEnd (dropComment rest)
  pure (n.map fun n => (n, v), rest)

/-- The first assignment of a text, if its first line that is not blank is one, and the rest. -/
def assignment (cs : List Char) : Option Assignment × List Char :=
  match cs.dropWhile isBlank with
  | [] => (none, [])
  | start =>
    match tryAssignment start with
    | .ok found => found
    | .error rest => (none, dropLine rest)

/-- The assignments of a text; each takes at least one character. -/
def assignmentsFrom : (fuel : Nat) → List Char → List Assignment
  | 0, _ => []
  | _, [] => []
  | fuel + 1, cs =>
    let (found, rest) := assignment cs
    found.toList ++ assignmentsFrom fuel rest

/-- The byte order mark that a text may begin with. -/
def byteOrderMark : Char := Char.ofNat 0xFEFF

/-- The assignments of a text in order. -/
def assignments (text : String) : List Assignment :=
  let cs := text.toList
  let unmarked := if cs.head? = some byteOrderMark then cs.drop 1 else cs
  let lines := unifyLineEnds unmarked
  assignmentsFrom lines.length lines

/-! ## References -/

/-- Variables of the surroundings. -/
abbrev Variables := List (String × String)

/-- The last value of a name in a list of values. -/
def lastValue? {α : Type} (name : String) (values : List (String × α)) : Option α :=
  (values.reverse.find? fun v => v.1 == name).map Prod.snd

/-- A reference after its `$` and opening brace: the name, the words to use instead of a missing value, the rest. -/
def reference? (cs : List Char) : Option (String × String × List Char) :=
  let closes := '\x7d'
  let name := String.ofList (cs.takeWhile fun c => c ≠ closes && c ≠ ':')
  match cs.dropWhile fun c => c ≠ closes && c ≠ ':' with
  | ':' :: '-' :: after =>
    match after.dropWhile (· ≠ closes) with
    | _ :: rest => some (name, String.ofList (after.takeWhile (· ≠ closes)), rest)
    | [] => none
  | ':' :: _ => none
  | _ :: rest => some (name, "", rest)
  | [] => none

/-- A value with its references resolved. -/
def expandFrom (lookup : String → Option (Option String)) : (fuel : Nat) → List Char → List Char
  | 0, cs => cs
  | _, [] => []
  | fuel + 1, c :: rest =>
    match c, rest with
    | '$', '\x7b' :: body =>
      match reference? body with
      | some (name, instead, after) =>
        (((lookup name).getD (some instead)).getD "").toList ++ expandFrom lookup fuel after
      | none => '$' :: expandFrom lookup fuel rest
    | _, _ => c :: expandFrom lookup fuel rest

/-- A value with its references resolved. -/
def expand (lookup : String → Option (Option String)) (text : String) : String :=
  String.ofList (expandFrom lookup text.length text.toList)

/-- The value of a name for a reference, the file's own before that of the surroundings; `none` inside stands for a
    name without a value. -/
def lookup (env : Variables) (assigned : List Assignment) (name : String) : Option (Option String) :=
  lastValue? name assigned <|> (lastValue? name env).map some

/-- Sets the value of a name, which keeps the place of its first assignment. -/
def assign (name : String) (value : Option String) : List Assignment → List Assignment
  | [] => [(name, value)]
  | (n, v) :: rest => if n = name then (n, value) :: rest else (n, v) :: assign name value rest

/-- The values of all names after further assignments, each resolved against those before it. -/
def resolveFrom (env : Variables) : (assigned : List Assignment) → List Assignment → List Assignment
  | assigned, [] => assigned
  | assigned, (n, v) :: rest => resolveFrom env (assign n (v.map (expand (lookup env assigned))) assigned) rest

/-- The value that a file assigns to each name, in the order of first assignment. -/
def resolve (env : Variables) (text : String) : List Assignment := resolveFrom env [] (assignments text)

end PromptGraph.EnvFile
