import PromptGraph.Json.Value

/-!
# `PromptGraph.Json.Reader` — reading data texts

The grammar is the usual one, with the words `NaN`, `Infinity` and `-Infinity` for the non-finite numbers. A
repeated member name keeps its last value. A refused text is answered with the problem and its position.

## Contents
- **Faults.** `JsonProblem`, `JsonFault` and their messages.
- **Tokens.** `skipBlanks`, `scanText`, `scanNumber`.
- **Values.** `Json.readValue`; `Json.readWithin`, and `Json.read` as deep as the surroundings read.
-/

namespace PromptGraph

/-! ## Faults -/

/-- Why a text is no data text. -/
inductive JsonProblem where
  | value
  | propertyName
  | colon
  | comma
  | extraData
  | unterminated
  | badEscape
  | badUnitEscape
  | controlCharacter
  | byteOrderMark
  deriving DecidableEq, Repr

namespace JsonProblem

def message : JsonProblem → String
  | .value => "Expecting value"
  | .propertyName => "Expecting property name enclosed in double quotes"
  | .colon => "Expecting ':' delimiter"
  | .comma => "Expecting ',' delimiter"
  | .extraData => "Extra data"
  | .unterminated => "Unterminated string starting at"
  | .badEscape => "Invalid \\escape"
  | .badUnitEscape => "Invalid \\uXXXX escape"
  | .controlCharacter => "Invalid control character at"
  | .byteOrderMark => "Unexpected UTF-8 BOM (decode using utf-8-sig)"

end JsonProblem

/-- A refused data text. -/
inductive JsonFault where
  /-- The problem, with the line, the column and the number of characters before it. -/
  | syntaxAt (problem : JsonProblem) (line column offset : Nat)
  /-- An integer with more digits than are read. -/
  | tooManyDigits (count : Nat)
  /-- More levels than are read. -/
  | tooDeep
  deriving DecidableEq, Repr

/-- The message on an integer text that is too long. -/
def tooManyDigitsMessage (count : Nat) : String :=
  "Exceeds the limit (" ++ toString integerDigitLimit ++ " digits) for integer string conversion: value has "
    ++ toString count ++ " digits; use sys.set_int_max_str_digits() to increase the limit"

namespace JsonFault

def message : JsonFault → String
  | .syntaxAt p line column offset =>
    p.message ++ ": line " ++ toString line ++ " column " ++ toString column
      ++ " (char " ++ toString offset ++ ")"
  | .tooManyDigits count => tooManyDigitsMessage count
  | .tooDeep => "nested too deeply"

end JsonFault

namespace Json

/-- A fault while scanning: the position is kept as the text from there on. -/
inductive ScanFault where
  | at (problem : JsonProblem) (rest : List Char)
  | tooManyDigits (count : Nat)
  | tooDeep

/-- The line, the column and the offset of the position at which `rest` begins. -/
def locate (text rest : List Char) : Nat × Nat × Nat :=
  let offset := text.length - rest.length
  let before := text.take offset
  let lastLine := before.reverse.takeWhile (· ≠ '\n')
  (before.count '\n' + 1, lastLine.length + 1, offset)

/-! ## Tokens -/

def isJsonBlank (c : Char) : Bool := c = ' ' || c = '\t' || c = '\n' || c = '\r'

def skipBlanks (cs : List Char) : List Char := cs.dropWhile isJsonBlank

/-- The four hexadecimal digits of an escape; `none` when one is missing or wrong. -/
def hexUnit? : List Char → Option (Nat × List Char)
  | a :: b :: c :: d :: rest => do
    let a ← Text.hexValue? a
    let b ← Text.hexValue? b
    let c ← Text.hexValue? c
    let d ← Text.hexValue? d
    pure (((a * 16 + b) * 16 + c) * 16 + d, rest)
  | _ => none

/-- The character of a short escape. -/
def shortEscape? (c : Char) : Option Char :=
  if c = '"' ∨ c = '\\' ∨ c = '/' then some c
  else if c = 'b' then some (Char.ofNat 8)
  else if c = 'f' then some (Char.ofNat 12)
  else if c = 'n' then some '\n'
  else if c = 'r' then some '\r'
  else if c = 't' then some '\t'
  else none

def isHighSurrogate (n : Nat) : Bool := 0xD800 ≤ n && n < 0xDC00

def isLowSurrogate (n : Nat) : Bool := 0xDC00 ≤ n && n < 0xE000

/-- A code unit as a character; a lone surrogate becomes the replacement character. -/
def unitChar (n : Nat) : Char := if isHighSurrogate n || isLowSurrogate n then Char.ofNat 0xFFFD else Char.ofNat n

/-- The character of an escape that begins with `u`, `rest` following that letter; two escapes of surrogate code
    units are one character. Something must follow the escape. -/
def escapedUnit (rest : List Char) : Except ScanFault (Char × List Char) :=
  match hexUnit? rest with
  | none => .error (.at .badUnitEscape ('u' :: rest))
  | some (_, []) => .error (.at .badUnitEscape ('u' :: rest))
  | some (n, after) =>
    match isHighSurrogate n, after with
    | true, '\\' :: 'u' :: second =>
      if second.length ≤ 4 then .ok (unitChar n, after)
      else
        match hexUnit? second with
        | none => .error (.at .badUnitEscape ('u' :: second))
        | some (m, after') =>
          if isLowSurrogate m then .ok (Char.ofNat (0x10000 + (n - 0xD800) * 0x400 + (m - 0xDC00)), after')
          else .ok (unitChar n, after)
    | _, _ => .ok (unitChar n, after)

/-- The rest of a text after its opening quote, `opening` being the data text from that quote on. -/
def scanText (opening : List Char) : Nat → List Char → Except ScanFault (List Char × List Char)
  | 0, _ => .error (.at .unterminated opening)
  | _ + 1, [] => .error (.at .unterminated opening)
  | _ + 1, '"' :: rest => .ok ([], rest)
  | _ + 1, ['\\'] => .error (.at .unterminated opening)
  | fuel + 1, '\\' :: 'u' :: rest => do
    let (c, after) ← escapedUnit rest
    let (cs, after) ← scanText opening fuel after
    pure (c :: cs, after)
  | fuel + 1, '\\' :: e :: rest =>
    match shortEscape? e with
    | none => .error (.at .badEscape ('\\' :: e :: rest))
    | some c => do
      let (cs, after) ← scanText opening fuel rest
      pure (c :: cs, after)
  | fuel + 1, c :: rest =>
    if c.toNat < 0x20 then .error (.at .controlCharacter (c :: rest))
    else do
      let (cs, after) ← scanText opening fuel rest
      pure (c :: cs, after)

def isAsciiDigit (c : Char) : Bool := '0' ≤ c && c ≤ '9'

/-- The number spelled by ASCII digits. -/
def asciiNat (cs : List Char) : Nat := cs.foldl (fun n c => 10 * n + (c.toNat - 48)) 0

/-- The digits after a point, if a point with a digit follows. -/
def scanFraction : List Char → List Char × List Char
  | '.' :: c :: rest =>
    if isAsciiDigit c then ((c :: rest).takeWhile isAsciiDigit, (c :: rest).dropWhile isAsciiDigit)
    else ([], '.' :: c :: rest)
  | rest => ([], rest)

/-- The exponent, if one with a digit follows. -/
def scanExponent (cs : List Char) : Option Int × List Char :=
  match cs with
  | e :: rest =>
    if e = 'e' ∨ e = 'E' then
      let (negative, digits) := match rest with
        | '-' :: ds => (true, ds)
        | '+' :: ds => (false, ds)
        | ds => (false, ds)
      let spelled := digits.takeWhile isAsciiDigit
      if spelled.isEmpty then (none, cs)
      else (some (if negative then -(asciiNat spelled : Int) else asciiNat spelled), digits.dropWhile isAsciiDigit)
    else (none, cs)
  | [] => (none, [])

/-- A number after its sign; `none` when no number begins here. -/
def scanNumber (negative : Bool) (cs : List Char) : Option (Except ScanFault (Number × List Char)) :=
  let whole := match cs with
    | '0' :: _ => ['0']
    | _ => cs.takeWhile isAsciiDigit
  if whole.isEmpty then none
  else
    let rest := cs.drop whole.length
    let (fraction, rest) := scanFraction rest
    let (exponent, rest) := scanExponent rest
    if fraction.isEmpty && exponent.isNone then
      if integerDigitLimit < whole.length then some (.error (.tooManyDigits whole.length))
      else
        let n : Int := asciiNat whole
        some (.ok (.int (if negative then -n else n), rest))
    else
      let d : Decimal := ⟨negative, asciiNat (whole ++ fraction), exponent.getD 0 - (fraction.length : Int)⟩
      some (.ok (.float d.toDouble, rest))

/-- A word or a number. -/
def scanAtom (cs : List Char) : Except ScanFault (Json × List Char) :=
  let number (negative : Bool) (digits : List Char) : Except ScanFault (Json × List Char) :=
    match scanNumber negative digits with
    | none => .error (.at .value cs)
    | some (.error e) => .error e
    | some (.ok (n, rest)) => .ok (.num n, rest)
  match cs with
  | 'n' :: 'u' :: 'l' :: 'l' :: rest => .ok (.null, rest)
  | 't' :: 'r' :: 'u' :: 'e' :: rest => .ok (.bool true, rest)
  | 'f' :: 'a' :: 'l' :: 's' :: 'e' :: rest => .ok (.bool false, rest)
  | 'N' :: 'a' :: 'N' :: rest => .ok (.float .nan, rest)
  | 'I' :: 'n' :: 'f' :: 'i' :: 'n' :: 'i' :: 't' :: 'y' :: rest => .ok (.float (.infinite false), rest)
  | '-' :: 'I' :: 'n' :: 'f' :: 'i' :: 'n' :: 'i' :: 't' :: 'y' :: rest => .ok (.float (.infinite true), rest)
  | '-' :: rest => number true rest
  | _ => number false cs

/-! ## Values -/

mutual

/-- The value at the beginning of a text; `size` bounds the length of a member text, and `room` is the number of
    levels that are left. -/
def readValue (size : Nat) : (room fuel : Nat) → List Char → Except ScanFault (Json × List Char)
  | _, 0, cs => .error (.at .value cs)
  | _, _ + 1, '"' :: rest => do
    let (cs, after) ← scanText ('"' :: rest) size rest
    pure (.str (String.ofList cs), after)
  | 0, _ + 1, '\x7b' :: _ => .error .tooDeep
  | room + 1, fuel + 1, '\x7b' :: rest =>
    match skipBlanks rest with
    | '\x7d' :: after => .ok (.obj [], after)
    | start => do
      let (ms, after) ← readMembers size room fuel start
      pure (.obj (Members.ofPairs ms), after)
  | 0, _ + 1, '[' :: _ => .error .tooDeep
  | room + 1, fuel + 1, '[' :: rest =>
    match skipBlanks rest with
    | ']' :: after => .ok (.arr [], after)
    | start => do
      let (xs, after) ← readItems size room fuel start
      pure (.arr xs, after)
  | _, _ + 1, cs => scanAtom cs

/-- The items up to the closing bracket. -/
def readItems (size : Nat) : (room fuel : Nat) → List Char → Except ScanFault (List Json × List Char)
  | _, 0, cs => .error (.at .value cs)
  | room, fuel + 1, cs => do
    let (x, after) ← readValue size room fuel cs
    match skipBlanks after with
    | ']' :: rest => pure ([x], rest)
    | ',' :: rest => do
      let (xs, after) ← readItems size room fuel (skipBlanks rest)
      pure (x :: xs, after)
    | rest => .error (.at .comma rest)

/-- The members up to the closing brace, in the order of the text. -/
def readMembers (size : Nat) : (room fuel : Nat) → List Char → Except ScanFault (List (String × Json) × List Char)
  | _, 0, cs => .error (.at .value cs)
  | room, fuel + 1, '"' :: rest => do
    let (name, after) ← scanText ('"' :: rest) size rest
    match skipBlanks after with
    | ':' :: rest => do
      let (v, after) ← readValue size room fuel (skipBlanks rest)
      match skipBlanks after with
      | '\x7d' :: rest => pure ([(String.ofList name, v)], rest)
      | ',' :: rest => do
        let (ms, after) ← readMembers size room fuel (skipBlanks rest)
        pure ((String.ofList name, v) :: ms, after)
      | rest => .error (.at .comma rest)
    | rest => .error (.at .colon rest)
  | _, _ + 1, cs => .error (.at .propertyName cs)

end

/-- The value of a whole text of at most `levels` levels, blanks around it being skipped. A character takes at most
    two steps: one for a value that it opens and one for the first item in it. -/
def readAll (levels : Nat) (text : List Char) : Except ScanFault Json :=
  if text.head? = some (Char.ofNat 0xFEFF) then .error (.at .byteOrderMark text)
  else do
    let size := text.length + 1
    let (v, after) ← readValue size levels (2 * size) (skipBlanks text)
    match skipBlanks after with
    | [] => pure v
    | rest => .error (.at .extraData rest)

/-- The value of a data text in which at most `levels` lists and objects are nested. -/
def readWithin (levels : Nat) (text : String) : Except JsonFault Json :=
  let cs := text.toList
  match readAll levels cs with
  | .ok v => .ok v
  | .error (.tooManyDigits n) => .error (.tooManyDigits n)
  | .error .tooDeep => .error .tooDeep
  | .error (.at p rest) =>
    let (line, column, offset) := locate cs rest
    .error (.syntaxAt p line column offset)

/-- The value of a data text. -/
def read [Depth] (text : String) : Except JsonFault Json := readWithin Depth.read text

end Json

end PromptGraph
