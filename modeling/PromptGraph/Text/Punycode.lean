import PromptGraph.Text.Encoding

/-!
# `PromptGraph.Text.Punycode` — characters of every script as ASCII letters and digits

The ASCII characters of a text come first, then a hyphen if there are any, then the insertions of the other
characters: by rising code point and, within one, by place. An insertion is the number of places passed since the
last one, over all code points between, in digits of thirty-six values whose thresholds adapt to the numbers seen.

## Contents
- **Numbers.** `digit`, `threshold`, `digits`, `adapt`.
- **Insertions.** `Insertion`, `Insertion.pass`, `Insertion.round`.
- **Reading.** `Extraction`, `Extraction.feed`: the same insertions from their digits.
- `encode`, `decode?`.
-/

namespace PromptGraph.Text.Punycode

/-! ## Numbers -/

/-- A digit: the letters are 0 to 25, the decimal digits 26 to 35. -/
def digit (n : Nat) : Char := Char.ofNat (if n < 26 then 97 + n else 22 + n)

/-- The value of a digit in lower case. -/
def digitValue? (c : Char) : Option Nat :=
  if 'a' ≤ c ∧ c ≤ 'z' then some (c.toNat - 97)
  else if '0' ≤ c ∧ c ≤ '9' then some (c.toNat - 22)
  else none

/-- The least value that is not the last digit of a number at a position, from 1 to 26. -/
def threshold (bias position : Nat) : Nat := min 26 (max 1 (position - bias))

theorem one_le_threshold (bias position : Nat) : 1 ≤ threshold bias position := by
  unfold threshold; omega

/-- A number in digits, the lowest first; the last digit is below its threshold and no other is. -/
def digits (bias position n : Nat) : List Char :=
  let t := threshold bias position
  if n < t then [digit n] else digit (t + (n - t) % (36 - t)) :: digits bias (position + 36) ((n - t) / (36 - t))
termination_by n
decreasing_by
  have := one_le_threshold bias position
  have := Nat.div_le_self (n - threshold bias position) (36 - threshold bias position)
  omega

/-- Divides by 35 until at most 455 is left; each division counts 36. -/
def shrink (delta count : Nat) : Nat × Nat := if 455 < delta then shrink (delta / 35) (count + 36) else (delta, count)
termination_by delta
decreasing_by omega

/-- The bias after a number, given the count of characters that are then in place. -/
def adapt (delta placed : Nat) (isFirst : Bool) : Nat :=
  let halved := if isFirst then delta / 700 else delta / 2
  let (rest, count) := shrink (halved + halved / placed) 0
  count + 36 * rest / (rest + 38)

/-! ## Insertions -/

/-- How far the insertions have come. -/
structure Insertion where
  written : List Char
  /-- The places passed since the last insertion. -/
  passed : Nat
  bias : Nat
  /-- The characters in place. -/
  placed : Nat

namespace Insertion

/-- Passes a character of the text while those of one code point are inserted; `basic` is the number of ASCII
    characters. -/
def pass (basic codePoint : Nat) (s : Insertion) (c : Char) : Insertion :=
  if c.toNat < codePoint then { s with passed := s.passed + 1 }
  else if c.toNat = codePoint then
    { written := s.written ++ digits s.bias 36 s.passed
      passed := 0
      bias := adapt s.passed (s.placed + 1) (s.placed == basic)
      placed := s.placed + 1 }
  else s

/-- Inserts the characters of rising code points, `reached` being the next code point not yet passed. -/
def round (basic : Nat) (text : List Char) : (reached : Nat) → List Nat → Insertion → Insertion
  | _, [], s => s
  | reached, codePoint :: rest, s =>
    let skipped := { s with passed := s.passed + (codePoint - reached) * (s.placed + 1) }
    let after := text.foldl (pass basic codePoint) skipped
    round basic text (codePoint + 1) rest { after with passed := after.passed + 1 }

end Insertion

/-- A text in ASCII. -/
def encode (text : List Char) : List Char :=
  let basic := text.filter fun c => c.toNat < 128
  let others := (((text.map Char.toNat).filter (128 ≤ ·)).mergeSort (· ≤ ·)).eraseDups
  let start : Insertion := ⟨[], 0, 72, basic.length⟩
  basic ++ (if basic.isEmpty then [] else ['-']) ++ (Insertion.round basic.length text 128 others start).written

/-! ## Reading -/

/-- How far the insertions have been read. -/
structure Extraction where
  text : List Char
  codePoint : Nat
  /-- The place after the last insertion. -/
  place : Nat
  bias : Nat
  isFirst : Bool
  /-- The position of the next digit; 36 before the first digit of a number. -/
  position : Nat
  weight : Nat
  /-- The value of the digits that were read of a number. -/
  value : Nat

namespace Extraction

/-- Before any digit, with the ASCII characters in place. -/
def start (basic : List Char) : Extraction := ⟨basic, 128, 0, 72, true, 36, 1, 0⟩

/-- Carries out the insertion of a complete number. -/
def insert? (s : Extraction) (value : Nat) : Option Extraction := do
  let slots := s.text.length + 1
  let codePoint := s.codePoint + (s.place + value) / slots
  let place := (s.place + value) % slots
  let c ← scalar? codePoint
  pure (⟨s.text.take place ++ c :: s.text.drop place, codePoint, place + 1, adapt value slots s.isFirst, false, 36, 1, 0⟩)

/-- Reads a digit, which goes on with a number or is its last one. -/
def feed (s : Extraction) (c : Char) : Option Extraction := do
  let d ← digitValue? c
  let value := s.value + d * s.weight
  let t := threshold s.bias s.position
  if d < t then s.insert? value
  else pure { s with position := s.position + 36, weight := s.weight * (36 - t), value := value }

end Extraction

/-- The text of its form in ASCII, if all digits are sound and the last number is complete. -/
def decode? (encoded : List Char) : Option (List Char) := do
  let digits := (encoded.reverse.takeWhile (· ≠ '-')).reverse
  let basic := (encoded.take (encoded.length - digits.length)).dropLast
  let read ← digits.foldlM Extraction.feed (Extraction.start basic)
  if read.position = 36 then some read.text else none

end PromptGraph.Text.Punycode
