import PromptGraph.Number.Double

/-!
# `PromptGraph.Number.Decimal` — decimal texts of binary64 numbers

## Contents
- **Reading.** `Decimal.toDouble`: the number nearest to `± digits · 10 ^ exponent`.
- **Shortest digits.** `Decimal.shortest`: the fewest digits that read back as the number, the nearest of those.
- **Length.** `integerDigitLimit`, `isLongInteger`: integers of more digits are neither read nor written.
- **Layout.** `NumberLayout` holds the choices of a written form; `NumberLayout.value` and `NumberLayout.json`
  are the two in use, which differ in the words for the non-finite numbers.
-/

namespace PromptGraph

/-- A decimal number `± digits · 10 ^ exponent`. -/
structure Decimal where
  negative : Bool
  digits : Nat
  exponent : Int
  deriving DecidableEq, Repr

namespace Decimal

/-- The digits of a natural, most significant first. -/
def digitChars (n : Nat) : List Char := Nat.toDigits 10 n

/-- The number of decimal digits; zero has one. -/
def width (n : Nat) : Nat := (digitChars n).length

/-! ## Reading -/

/-- The nearest binary64 number. Decimals beyond the range are decided by their magnitude alone, so that a huge
    exponent costs nothing. -/
def toDouble (d : Decimal) : Double :=
  if d.digits = 0 then .zero d.negative
  else
    let magnitude : Int := (width d.digits : Int) + d.exponent
    if 310 < magnitude then .infinite d.negative
    else if magnitude < -330 then .zero d.negative
    else if 0 ≤ d.exponent then .ofRatio d.negative (d.digits * Nat.pow 10 d.exponent.toNat) 1
    else .ofRatio d.negative d.digits (Nat.pow 10 (-d.exponent).toNat)

/-! ## Shortest digits -/

/-- A trailing zero moves into the exponent. -/
def dropZeros : Nat → Nat → Int → Nat × Int
  | 0, digits, e => (digits, e)
  | fuel + 1, digits, e =>
    if digits ≠ 0 ∧ digits % 10 = 0 then dropZeros fuel (digits / 10) (e + 1) else (digits, e)

/-- The exponent `k` with `10 ^ k ≤ n / d < 10 ^ (k + 1)`, from an estimate that is off by at most one. -/
def leadingExponent (n d : Nat) : Int :=
  let binary : Int := (n.log2 : Int) - (d.log2 : Int)
  let guess : Int := Int.fdiv (binary * 30103) 100000
  let below (k : Int) : Bool :=
    if 0 ≤ k then n < d * Nat.pow 10 k.toNat else n * Nat.pow 10 (-k).toNat < d
  if below guess then (if below (guess - 1) then guess - 2 else guess - 1)
  else if below (guess + 1) then guess
  else if below (guess + 2) then guess + 1
  else guess + 2

/-- The exact decimal form of `m · 2 ^ e`: five to the power of the missing halvings, shifted. -/
def exact (m : Nat) (e : Int) : Nat × Int :=
  if 0 ≤ e then (m <<< e.toNat, 0) else (m * Nat.pow 5 (-e).toNat, e)

/-- Whether the decimal `c · 10 ^ unit` is read as `m · 2 ^ e`. -/
def readsBack (m : Nat) (e : Int) (c : Nat) (unit : Int) : Bool :=
  match toDouble ⟨false, c, unit⟩ with
  | .finite _ m' e' _ => m' == m && e' == e
  | _ => false

/-- Tries `count`, `count + 1`, … digits: of the two neighbours of `n / d` on the decimal grid the nearer one
    that reads back as `m · 2 ^ e` is taken, on a tie the even one. -/
def search (m : Nat) (e : Int) (n d : Nat) (leading : Int) : Nat → Nat → Nat × Int
  | 0, _ => exact m e
  | fuel + 1, count =>
    let unit : Int := leading - (count : Int) + 1
    let num := if 0 ≤ unit then n else n * Nat.pow 10 (-unit).toNat
    let den := if 0 ≤ unit then d * Nat.pow 10 unit.toNat else d
    let low := num / den
    let rest := 2 * (num % den)
    let preferLow : Bool := rest < den || (rest == den && low % 2 == 0)
    match readsBack m e low unit, readsBack m e (low + 1) unit with
    | true, true => (if preferLow then low else low + 1, unit)
    | true, false => (low, unit)
    | false, true => (low + 1, unit)
    | false, false => search m e n d leading fuel (count + 1)

/-- The shortest decimal that reads back as the positive number `m · 2 ^ e`. -/
def shortest (m : Nat) (e : Int) : Nat × Int :=
  let n := if 0 ≤ e then m <<< e.toNat else m
  let d := if 0 ≤ e then 1 else 1 <<< (-e).toNat
  let (digits, unit) := search m e n d (leadingExponent n d) 17 1
  dropZeros 400 digits unit

end Decimal

/-! ## Length -/

/-- The largest number of digits that an integer has where it is read or written. -/
def integerDigitLimit : Nat := 4300

/-- Whether an integer has more digits than are written. -/
def isLongInteger (n : Int) : Bool := integerDigitLimit < Decimal.width n.natAbs

/-! ## Layout -/

/-- The choices of a written form of numbers. -/
structure NumberLayout where
  /-- Exponents of the leading digit that are written positionally: from here … -/
  positionalFrom : Int
  /-- … to below here. -/
  positionalBelow : Int
  /-- The least number of digits of a written exponent. -/
  exponentWidth : Nat
  nan : String
  infinity : String

namespace NumberLayout

/-- Positional from `1e-4` to below `1e16`, two exponent digits, lower-case words. -/
def value : NumberLayout := ⟨-4, 16, 2, "nan", "inf"⟩

/-- The same digits inside a data text, with that format's words. -/
def json : NumberLayout := ⟨-4, 16, 2, "NaN", "Infinity"⟩

/-- A run of zeros. -/
def zeros (n : Nat) : List Char := List.replicate n '0'

/-- The digits with a point, the leading one standing for `10 ^ leading`; whole numbers end in `.0`. -/
def positional (digits : List Char) (leading : Int) : List Char :=
  if leading < 0 then '0' :: '.' :: (zeros (-leading - 1).toNat ++ digits)
  else
    let before := leading.toNat + 1
    if digits.length ≤ before then digits ++ zeros (before - digits.length) ++ ['.', '0']
    else digits.take before ++ '.' :: digits.drop before

/-- One digit before the point, and a signed exponent. -/
def scientific (l : NumberLayout) (digits : List Char) (leading : Int) : List Char :=
  let fraction := match digits with
    | [] => []
    | [d] => [d]
    | d :: rest => d :: '.' :: rest
  let power := Decimal.digitChars leading.natAbs
  fraction ++ 'e' :: (if leading < 0 then '-' else '+') :: (zeros (l.exponentWidth - power.length) ++ power)

/-- The written form of a positive number. -/
def magnitude (l : NumberLayout) (m : Nat) (e : Int) : List Char :=
  let (digits, unit) := Decimal.shortest m e
  let chars := Decimal.digitChars digits
  let leading : Int := unit + (chars.length : Int) - 1
  if l.positionalFrom ≤ leading ∧ leading < l.positionalBelow then positional chars leading
  else l.scientific chars leading

/-- The written form of a number. -/
def double (l : NumberLayout) : Double → String
  | .nan => l.nan
  | .infinite s => (if s then "-" else "") ++ l.infinity
  | .finite s m e _ =>
    (if s then "-" else "") ++ (if m = 0 then "0.0" else String.ofList (l.magnitude m e))

/-- An integer in decimal digits. -/
def integer (n : Int) : String :=
  (if n < 0 then "-" else "") ++ String.ofList (Decimal.digitChars n.natAbs)

def number (l : NumberLayout) : Number → String
  | .int n => integer n
  | .float x => l.double x

end NumberLayout

end PromptGraph
