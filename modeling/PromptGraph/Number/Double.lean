/-!
# `PromptGraph.Number.Double` — binary64 numbers in exact arithmetic

Costs, temperatures, coordinates and elapsed seconds are binary64 numbers. They are kept here as exact
signed dyadics, so that every operation is an integer computation followed by one rounding.

## Contents
- **The type.** `Double`: not a number, a signed infinity, or `± mantissa · 2 ^ exponent` in canonical form,
  so that equal finite numbers of one sign are equal values.
- **Rounding.** `Double.ofRatio` rounds a quotient of naturals to the nearest number, ties to even.
- **Arithmetic.** `add`, `neg`, `mul`, `ofInt?`, each the exact result rounded once; `trunc`, `floor` and
  `nearest` take a number to a whole one.
- **Order.** `lt`, `le`, `same`: not a number is comparable with nothing, and both zeros are the same.
-/

namespace PromptGraph

namespace Double

/-- The mantissa has at most 53 bits, and fewer only where the exponent is the least one. -/
def Canonical (mantissa : Nat) (exponent : Int) : Prop :=
  mantissa < 0x20000000000000 ∧ -1074 ≤ exponent ∧ exponent ≤ 971
    ∧ (exponent = -1074 ∨ 0x10000000000000 ≤ mantissa)

instance (mantissa : Nat) (exponent : Int) : Decidable (Canonical mantissa exponent) := by
  unfold Canonical; infer_instance

end Double

/-- A binary64 number. The two zeros are distinct values, as their texts differ. -/
inductive Double where
  | nan
  | infinite (negative : Bool)
  | finite (negative : Bool) (mantissa : Nat) (exponent : Int)
      (canonical : Double.Canonical mantissa exponent)
  deriving DecidableEq

namespace Double

/-- Zero with the given sign. -/
def zero (negative : Bool) : Double := .finite negative 0 (-1074) (by decide)

instance : Inhabited Double := ⟨zero false⟩

/-- A rounded mantissa and exponent as a number; what is too large becomes an infinity. -/
def ofScaled (negative : Bool) (mantissa : Nat) (exponent : Int) : Double :=
  if h : Canonical mantissa exponent then .finite negative mantissa exponent h else .infinite negative

/-! ## Rounding a quotient -/

/-- The exponent of the grid on which the positive quotient `n / d` is rounded: the one that leaves a mantissa of
    53 bits, but never below the least exponent. -/
def gridExponent (n d : Nat) : Int :=
  let guess : Int := (n.log2 : Int) - (d.log2 : Int) - 52
  let tooCoarse : Bool :=
    if 0 ≤ guess then n < (d <<< guess.toNat) <<< 52 else n <<< (-guess).toNat < d <<< 52
  max (if tooCoarse then guess - 1 else guess) (-1074)

/-- The natural nearest to `n / d`, a half going to the even neighbour. -/
def roundToEven (n d : Nat) : Nat :=
  let q := n / d
  let twice := 2 * (n % d)
  if twice < d then q else if d < twice then q + 1 else if q % 2 = 0 then q else q + 1

/-- The number nearest to `± n / d`, ties to even. The denominator is positive. -/
def ofRatio (negative : Bool) (n d : Nat) : Double :=
  if n = 0 then zero negative
  else
    let e := gridExponent n d
    let m := if 0 ≤ e then roundToEven n (d <<< e.toNat) else roundToEven (n <<< (-e).toNat) d
    if m = 0x20000000000000 then ofScaled negative 0x10000000000000 (e + 1) else ofScaled negative m e

/-- The number nearest to `± m · 2 ^ e`. -/
def ofDyadic (negative : Bool) (m : Nat) (e : Int) : Double :=
  if 0 ≤ e then ofRatio negative (m <<< e.toNat) 1 else ofRatio negative m (1 <<< (-e).toNat)

/-- The number nearest to an integer, or `none` when the integer is beyond the largest number. -/
def ofInt? (n : Int) : Option Double :=
  match ofRatio (n < 0) n.natAbs 1 with
  | .finite s m e h => some (.finite s m e h)
  | _ => none

/-- The number nearest to a quotient of an integer by a positive natural. -/
def ofQuotient (n : Int) (d : Nat) : Double := ofRatio (n < 0) n.natAbs d

/-! ## Arithmetic -/

def isNegative : Double → Bool
  | .nan => false
  | .infinite s => s
  | .finite s _ _ _ => s

def isFinite : Double → Bool
  | .finite .. => true
  | _ => false

/-- The signed mantissa. -/
def signed (negative : Bool) (m : Nat) : Int := if negative then -(m : Int) else m

/-- The exact sum, rounded; an exact zero is negative only as a sum of two negative zeros. -/
def add : Double → Double → Double
  | .nan, _ => .nan
  | _, .nan => .nan
  | .infinite s, .infinite t => if s = t then .infinite s else .nan
  | .infinite s, .finite .. => .infinite s
  | .finite .., .infinite t => .infinite t
  | .finite s m e _, .finite t n f _ =>
    let low := min e f
    let total := signed s (m <<< (e - low).toNat) + signed t (n <<< (f - low).toNat)
    if total = 0 then zero (s && t) else ofDyadic (total < 0) total.natAbs low

/-- The exact product, rounded. -/
def mul : Double → Double → Double
  | .nan, _ => .nan
  | _, .nan => .nan
  | .infinite s, .infinite t => .infinite (s != t)
  | .infinite s, .finite t n _ _ => if n = 0 then .nan else .infinite (s != t)
  | .finite s m _ _, .infinite t => if m = 0 then .nan else .infinite (s != t)
  | .finite s m e _, .finite t n f _ => ofDyadic (s != t) (m * n) (e + f)

/-- The number of the other sign. -/
def neg : Double → Double
  | .nan => .nan
  | .infinite s => .infinite !s
  | .finite s m e h => .finite (!s) m e h

/-- The greatest whole number that a finite number is not below. -/
def floor : Double → Option Int
  | .finite s m e _ => some (if 0 ≤ e then signed s (m <<< e.toNat) else Int.fdiv (signed s m) (1 <<< (-e).toNat : Nat))
  | _ => none

/-- The whole number nearest to a finite number, a half going away from zero. -/
def nearest : Double → Option Int
  | .finite s m e _ =>
    let half : Nat := 1 <<< (-e).toNat
    some (signed s (if 0 ≤ e then m <<< e.toNat else (2 * m + half) / (2 * half)))
  | _ => none

/-- The whole part of a finite number, toward zero. -/
def trunc : Double → Option Int
  | .finite s m e _ => some (signed s (if 0 ≤ e then m <<< e.toNat else m >>> (-e).toNat))
  | _ => none

/-- Whether a finite number is a whole number. -/
def isWhole : Double → Bool
  | .finite _ m e _ => 0 ≤ e || m % (1 <<< (-e).toNat) = 0
  | _ => false

/-! ## Order -/

/-- The sign of the difference of two finite numbers, or of the infinities. -/
def compare? : Double → Double → Option Ordering
  | .nan, _ => none
  | _, .nan => none
  | .infinite s, .infinite t => some (compare t.toNat s.toNat)
  | .infinite s, .finite .. => some (if s then .lt else .gt)
  | .finite .., .infinite t => some (if t then .gt else .lt)
  | .finite s m e _, .finite t n f _ =>
    let low := min e f
    some (compare (signed s (m <<< (e - low).toNat)) (signed t (n <<< (f - low).toNat)))

/-- `x < y`; false when either is not a number. -/
def lt (x y : Double) : Bool := x.compare? y == some .lt

/-- `x ≤ y`; false when either is not a number. -/
def le (x y : Double) : Bool :=
  match x.compare? y with
  | some .gt => false
  | some _ => true
  | none => false

/-- Numerical equality: both zeros are the same, and not a number equals nothing. -/
def same (x y : Double) : Bool := x.compare? y == some .eq

/-- A small whole number. -/
def ofNat (n : Nat) : Double := ofRatio false n 1

end Double

/-- A number as texts distinguish it: `1` is an integer, `1.0` is not. -/
inductive Number where
  | int (value : Int)
  | float (value : Double)
  deriving DecidableEq

instance : Inhabited Number := ⟨.int 0⟩

namespace Number

/-- The nearest binary64 number, or `none` for an integer that is too large. -/
def toDouble? : Number → Option Double
  | .int n => Double.ofInt? n
  | .float x => some x

end Number

end PromptGraph
