import PromptGraph.Schema.Numeral
import PromptGraph.Text.Replace
import PromptGraph.Time.Timestamp

/-!
# `PromptGraph.Time.Iso` — written timestamps

## Contents
- **Writing.** `Timestamp.iso`, and `Timestamp.isoZ`, which writes universal time as `Z`.
- **Reading.** `Timestamp.ofIso?`: a date, a separator, a time of day and an optional offset; or a bare date.
- **Counted time.** `Timestamp.ofCount?`, `Timestamp.ofDouble?`: seconds, or milliseconds beyond a watershed, since
  1970.
- **Lenient reading.** `Timestamp.ofText?`: a written timestamp, a numeral of counted time, or a bare date.
-/

namespace PromptGraph

namespace Timestamp

/-! ## Writing -/

/-- A natural with at least `width` digits. -/
def padded (width n : Nat) : String :=
  let digits := Decimal.digitChars n
  String.ofList (List.replicate (width - digits.length) '0' ++ digits)

/-- Date and time of day, with six digits of a fraction unless that is zero. -/
def isoWall (t : Timestamp) : String :=
  let day := Int.fdiv t.wall microsPerDay
  let rest := (t.wall - day * microsPerDay).toNat
  let (year, month, dayOfMonth) := Calendar.civilDate day
  let seconds := rest / 1000000
  let micros := rest % 1000000
  padded 4 year.toNat ++ "-" ++ padded 2 month ++ "-" ++ padded 2 dayOfMonth ++ "T" ++ padded 2 (seconds / 3600)
    ++ ":" ++ padded 2 (seconds / 60 % 60) ++ ":" ++ padded 2 (seconds % 60)
    ++ (if micros = 0 then "" else "." ++ padded 6 micros)

/-- An offset as sign, hours and minutes, and seconds unless they are zero. -/
def isoOffset (seconds : Int) : String :=
  let n := seconds.natAbs
  (if seconds < 0 then "-" else "+") ++ padded 2 (n / 3600) ++ ":" ++ padded 2 (n / 60 % 60)
    ++ (if n % 60 = 0 then "" else ":" ++ padded 2 (n % 60))

/-- The timestamp with its offset, if any. -/
def iso (t : Timestamp) : String :=
  t.isoWall ++ (match t.offset with | none => "" | some o => isoOffset o)

/-- An offset as hours and minutes, `Z` standing for universal time. The sign is that of the whole hours, and
    seconds are left out. -/
def isoOffsetZ (seconds : Int) : String :=
  let hours := Int.tdiv seconds 3600
  if seconds = 0 then "Z"
  else
    (if hours < 0 then "-" else "+") ++ padded 2 hours.natAbs ++ ":" ++ padded 2 (seconds.natAbs / 60 % 60)

/-- The timestamp with its offset to the minute, universal time being `Z`. -/
def isoZ (t : Timestamp) : String :=
  t.isoWall ++ (match t.offset with | none => "" | some o => isoOffsetZ o)

/-! ## Reading -/

/-- The number of exactly `width` ASCII digits, and the rest. -/
def digits? (width : Nat) (cs : List Char) : Option (Nat × List Char) :=
  let ds := cs.take width
  if ds.length = width && ds.all Json.isAsciiDigit then some (Json.asciiNat ds, cs.drop width) else none

/-- The year, the month and the day of a date that exists. -/
def date? (cs : List Char) : Option ((Nat × Nat × Nat) × List Char) := do
  let (year, rest) ← digits? 4 cs
  let rest ← Text.dropStart? ['-'] rest
  let (month, rest) ← digits? 2 rest
  let rest ← Text.dropStart? ['-'] rest
  let (day, rest) ← digits? 2 rest
  if 1 ≤ day ∧ day ≤ Calendar.monthLength year month then some ((year, month, day), rest) else none

/-- A fraction of a second in microseconds, further digits being dropped; at least one digit follows the mark. -/
def fraction? : List Char → Option (Nat × List Char)
  | c :: rest =>
    if c = '.' ∨ c = ',' then
      let ds := rest.takeWhile Json.isAsciiDigit
      if ds.isEmpty then none
      else
        let six := (ds ++ List.replicate 6 '0').take 6
        some (Json.asciiNat six, rest.dropWhile Json.isAsciiDigit)
    else some (0, c :: rest)
  | [] => some (0, [])

/-- Seconds and their fraction, both of which may be missing. -/
def seconds? : List Char → Option ((Nat × Nat) × List Char)
  | ':' :: rest => do
    let (second, rest) ← digits? 2 rest
    let (micro, rest) ← fraction? rest
    if second < 60 then some ((second, micro), rest) else none
  | rest => some ((0, 0), rest)

/-- An offset: none, `Z`, or sign, hours and minutes; after a further colon also seconds, where they are allowed. -/
def offset? (withSeconds : Bool) : List Char → Option (Option Int)
  | [] => some none
  | ['Z'] => some (some 0)
  | ['z'] => some (some 0)
  | sign :: rest =>
    if sign = '+' ∨ sign = '-' ∨ sign = Char.ofNat 0x2212 then do
      let (hours, rest) ← digits? 2 rest
      let (minutes, rest) ← digits? 2 ((Text.dropStart? [':'] rest).getD rest)
      let (seconds, rest) ← match rest with
        | ':' :: rest => if withSeconds then digits? 2 rest else none
        | rest => some (0, rest)
      let n : Int := (((hours * 60 + minutes) * 60 + seconds : Nat) : Int)
      if rest.isEmpty ∧ hours < 24 ∧ minutes < 60 then some (some (if sign = '+' then n else -n)) else none
    else none

def isSeparator (c : Char) : Bool := c = 'T' || c = 't' || c = ' ' || c = '_'

/-- A written timestamp. -/
def ofIsoChars? (withSeconds : Bool) (cs : List Char) : Option Timestamp := do
  let ((year, month, day), rest) ← date? cs
  match rest with
  | [] => none
  | sep :: rest =>
    if isSeparator sep then
      let (hour, rest) ← digits? 2 rest
      let rest ← Text.dropStart? [':'] rest
      let (minute, rest) ← digits? 2 rest
      let ((second, micro), rest) ← seconds? rest
      let offset ← offset? withSeconds rest
      if hour < 24 ∧ minute < 60 then some (ofFields year month day hour minute second micro offset) else none
    else none

/-- A bare date is its midnight. -/
def ofDate? (cs : List Char) : Option Timestamp := do
  let ((year, month, day), rest) ← date? cs
  if rest.isEmpty then some (ofFields year month day 0 0 0 0 none) else none

/-- A written timestamp, or a bare date. -/
def ofIso? (s : String) : Option Timestamp := ofIsoChars? true s.toList <|> ofDate? s.toList

/-! ## Counted time -/

/-- Beyond this many, counted time is in milliseconds. -/
def watershed : Nat := 20000000000

/-- The first and the last second that counted time may name: the years 0 to 9999. -/
def firstSecond : Int := -62167219200

def lastSecond : Int := 253402300799

/-- The universal time of a count of microseconds. -/
def ofMicros? (total : Int) : Option Timestamp :=
  let second := Int.fdiv total microsPerSecond
  if firstSecond ≤ second ∧ second ≤ lastSecond then some ⟨total, some 0⟩ else none

/-- Counted time in whole seconds, or milliseconds beyond the watershed. -/
def ofCount? (count : Int) : Option Timestamp :=
  ofMicros? (count * (if count.natAbs ≤ watershed then 1000000 else 1000))

/-- Whether counted time is beyond the watershed. -/
def isBeyond (x : Double) : Bool :=
  let limit := Double.ofNat watershed
  limit.lt x || x.lt limit.neg

/-- Counted time from a number: the whole units below it, and what it is beyond them in microseconds, rounded. -/
def ofDouble? (x : Double) : Option Timestamp := do
  let unit := if isBeyond x then 1000 else 1000000
  let whole ← x.floor
  let below ← Double.ofInt? whole
  let micros ← ((x.add below.neg).mul (.ofNat unit)).nearest
  ofMicros? (whole * unit + micros)

/-! ## Lenient reading -/

/-- A numeral of counted time: a sign and digits, or a decimal numeral without an exponent before its point. -/
def ofNumeral? (cs : List Char) : Option Timestamp :=
  let (negative, body) := Schema.takeSign cs
  let whole := body.takeWhile Json.isAsciiDigit
  match body.dropWhile Json.isAsciiDigit with
  | [] =>
    let n : Int := Json.asciiNat whole
    if whole.isEmpty then none else ofCount? (if negative then -n else n)
  | '.' :: _ => (Schema.decimalChars? cs).bind ofDouble?
  | _ => none

/-- A written timestamp without seconds in its offset, a numeral of counted time, or a bare date. -/
def ofText? (s : String) : Option Timestamp :=
  let cs := s.toList
  ofIsoChars? false cs <|> ofNumeral? cs <|> ofDate? cs

end Timestamp

end PromptGraph
