import PromptGraph.Json.Reader
import PromptGraph.Text.Blank
import PromptGraph.Text.Digit
import PromptGraph.Text.Letter

/-!
# `PromptGraph.Schema.Numeral` — numbers given as texts

A numeral may stand in blanks and carry a sign; single underscores may part its digits.

## Contents
- `spelledInteger?`: digits of any script.
- `plainInteger?`, `integerOfPlain?`: digits, and after a point zeros only.
- `floatNumeral?`: digits with a point and an exponent, or a word for a non-finite number.
-/

namespace PromptGraph.Schema

/-- A text without its underscores, each of which parts two characters. -/
def dropUnderscores? (cs : List Char) : Option (List Char) :=
  let rec inner : List Char → Bool
    | '_' :: '_' :: _ => false
    | ['_'] => false
    | [] => true
    | _ :: rest => inner rest
  if cs.head? = some '_' ∨ !inner cs then none else some (cs.filter (· ≠ '_'))

/-- A leading sign, and the rest. -/
def takeSign : List Char → Bool × List Char
  | '-' :: rest => (true, rest)
  | '+' :: rest => (false, rest)
  | rest => (false, rest)

/-- The integer that a text spells: white space around it, a sign, and digits of any script that single underscores
    may part. -/
def spelledInteger? (s : String) : Option Int := do
  let (negative, body) := takeSign (Text.trim Text.isWhite s.toList)
  let digits ← dropUnderscores? body
  if digits.isEmpty || !digits.all Text.isDigit || integerDigitLimit < digits.length then none
  else
    let n : Int := Text.readDigits digits
    some (if negative then -n else n)

/-- The numeral in what stands after a leading zero, of which `last` is the last character read: zeros and
    underscores are passed over up to a digit, a sign or a point. -/
def afterZero? (last : Char) : List Char → Option (List Char)
  | [] => some [last]
  | c :: rest =>
    if c = '0' ∨ c = '_' then afterZero? c rest
    else if c = '-' ∨ Json.isAsciiDigit c then some (c :: rest)
    else if c = '.' then some (last :: c :: rest)
    else none

/-- A numeral without its plus sign and its leading zeros. -/
def dropLeadingZeros? (cs : List Char) : Option (List Char) :=
  let afterPlus : Option (List Char) := match cs with
    | '+' :: '-' :: _ => none
    | '+' :: rest => some rest
    | rest => some rest
  afterPlus.bind fun
    | '0' :: rest => afterZero? '0' rest
    | c :: rest => if c = '-' ∨ Json.isAsciiDigit c then some (c :: rest) else none
    | [] => none

/-- A numeral without a point that zeros, and nothing else, follow. -/
def dropZeroFraction (cs : List Char) : List Char :=
  match cs.dropWhile (· ≠ '.') with
  | _ :: '0' :: zeros => if zeros.all (· = '0') then cs.takeWhile (· ≠ '.') else cs
  | _ => cs

/-- An integer numeral brought to its plain form: no blanks around it, no plus sign, no leading or fractional zeros,
    no underscores. What cannot be brought there, and would be no numeral, may be left as it is. -/
def plainInteger? (s : String) : Option (List Char) :=
  (dropLeadingZeros? (Text.trim Text.isWhite s.toList)).map fun cs =>
    let whole := dropZeroFraction cs
    (dropUnderscores? whole).getD whole

/-- The integer of a plain numeral: an optional minus sign, then digits without a leading zero. -/
def integerOfPlain? (cs : List Char) : Option Int :=
  let (negative, digits) := match cs with
    | '-' :: rest => (true, rest)
    | rest => (false, rest)
  let isPadded := match digits with
    | '0' :: _ :: _ => true
    | _ => false
  if digits.isEmpty ∨ isPadded ∨ !digits.all Json.isAsciiDigit then none
  else some (if negative then -(Json.asciiNat digits : Int) else Json.asciiNat digits)

/-- The number of a decimal numeral with optional point and exponent. -/
def decimalChars? (cs : List Char) : Option Double :=
  let (negative, body) := takeSign cs
  let word := Text.lowerAscii (String.ofList body)
  if word = "inf" ∨ word = "infinity" then some (.infinite negative)
  else if word = "nan" then some .nan
  else
    let whole := body.takeWhile Json.isAsciiDigit
    let rest := body.dropWhile Json.isAsciiDigit
    let (fraction, rest) := match rest with
      | '.' :: after => (after.takeWhile Json.isAsciiDigit, after.dropWhile Json.isAsciiDigit)
      | rest => ([], rest)
    if whole.isEmpty && fraction.isEmpty then none
    else
      let number (exponent : Int) : Double :=
        Decimal.toDouble ⟨negative, Json.asciiNat (whole ++ fraction), exponent - (fraction.length : Int)⟩
      match rest with
      | [] => some (number 0)
      | _ =>
        match Json.scanExponent rest with
        | (some e, []) => some (number e)
        | _ => none

/-- The number of a numeral. -/
def floatNumeral? (s : String) : Option Double :=
  decimalChars? (Text.trim Text.isWhite s.toList) <|> ((dropUnderscores? s.toList).bind decimalChars?)

/-- The truth value of a word. -/
def boolWord? (s : String) : Option Bool :=
  let word := Text.lowerAscii s
  if ["0", "off", "f", "false", "n", "no"].contains word then some false
  else if ["1", "on", "t", "true", "y", "yes"].contains word then some true
  else none

end PromptGraph.Schema
