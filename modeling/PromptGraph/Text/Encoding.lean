/-!
# `PromptGraph.Text.Encoding` — texts in bytes

## Contents
- `utf8Bytes`, `ofUtf8?`: the bytes of a text and back.
- `ofUtf8Lossy`: the text of bytes that need not be one; what is no character is a replacement character.
- `ofUtf16?`, `ofUtf32?`: texts in wider units, of either byte order.
- `detect?`: the text of bytes whose encoding shows in their first four; a byte order mark is dropped.
-/

namespace PromptGraph.Text

def utf8Bytes (s : String) : List UInt8 := s.toUTF8.toList

/-- The text of UTF-8 bytes. -/
def ofUtf8? (bs : List UInt8) : Option String := String.fromUTF8? (ByteArray.mk bs.toArray)

/-- How a character of more than one byte goes on after its first byte: the count of further bytes, the bounds of
    the next one, and the bits of the code point so far. -/
def leadShape? (b : Nat) : Option (Nat × Nat × Nat × Nat) :=
  if 0xC2 ≤ b ∧ b ≤ 0xDF then some (1, 0x80, 0xBF, b % 32)
  else if 0xE0 ≤ b ∧ b ≤ 0xEF then
    some (2, if b = 0xE0 then 0xA0 else 0x80, if b = 0xED then 0x9F else 0xBF, b % 16)
  else if 0xF0 ≤ b ∧ b ≤ 0xF4 then
    some (3, if b = 0xF0 then 0x90 else 0x80, if b = 0xF4 then 0x8F else 0xBF, b % 8)
  else none

/-- Reads `count` further bytes of a character, the next of them within bounds. Where one does not fit the rest
    begins with it. -/
def continuation : (count low high code : Nat) → List UInt8 → Option Nat × List UInt8
  | 0, _, _, code, bs => (some code, bs)
  | _ + 1, _, _, _, [] => (none, [])
  | count + 1, low, high, code, b :: rest =>
    if low ≤ b.toNat ∧ b.toNat ≤ high then continuation count 0x80 0xBF (64 * code + b.toNat % 64) rest
    else (none, b :: rest)

/-- The character that stands for bytes that are none. -/
def replacementChar : Char := Char.ofNat 0xFFFD

/-- The characters of bytes, of which each step takes at least one. -/
def lossyChars : (fuel : Nat) → List UInt8 → List Char
  | 0, _ => []
  | _, [] => []
  | fuel + 1, b :: rest =>
    if b.toNat < 0x80 then Char.ofNat b.toNat :: lossyChars fuel rest
    else match leadShape? b.toNat with
      | none => replacementChar :: lossyChars fuel rest
      | some (count, low, high, code) =>
        let (found, after) := continuation count low high code rest
        (found.map Char.ofNat).getD replacementChar :: lossyChars fuel after

/-- The text of bytes. The longest beginning of a character that does not go on is one replacement character. -/
def ofUtf8Lossy (bs : List UInt8) : String := String.ofList (lossyChars bs.length bs)

/-- Numbers of a given count of bytes, most significant first or last; `none` when bytes are left over. -/
def units? (width : Nat) (bigEndian : Bool) : Nat → List UInt8 → Option (List Nat)
  | _, [] => some []
  | 0, _ :: _ => none
  | fuel + 1, bs =>
    let unit := bs.take width
    if unit.length < width then none
    else
      let ordered := if bigEndian then unit else unit.reverse
      (units? width bigEndian fuel (bs.drop width)).map ((ordered.foldl (fun n b => 256 * n + b.toNat) 0) :: ·)

/-- The characters of code units of sixteen bits. -/
def joinUnits? : List Nat → Option (List Char)
  | [] => some []
  | [n] => if 0xD800 ≤ n ∧ n < 0xE000 then none else some [Char.ofNat n]
  | n :: m :: rest =>
    if 0xD800 ≤ n ∧ n < 0xDC00 then
      if 0xDC00 ≤ m ∧ m < 0xE000 then
        (joinUnits? rest).map (Char.ofNat (0x10000 + (n - 0xD800) * 0x400 + (m - 0xDC00)) :: ·)
      else none
    else if 0xDC00 ≤ n ∧ n < 0xE000 then none
    else (joinUnits? (m :: rest)).map (Char.ofNat n :: ·)

def ofUtf16? (bigEndian : Bool) (bs : List UInt8) : Option String :=
  ((units? 2 bigEndian bs.length bs).bind joinUnits?).map String.ofList

/-- A code point as a character. -/
def scalar? (n : Nat) : Option Char := if h : n.isValidChar then some (Char.ofNatAux n h) else none

def ofUtf32? (bigEndian : Bool) (bs : List UInt8) : Option String :=
  ((units? 4 bigEndian bs.length bs).bind fun ns => ns.mapM scalar?).map String.ofList

/-- The text of bytes, their encoding being told by a mark or by where the first bytes are zero. -/
def detect? (bs : List UInt8) : Option String :=
  match bs with
  | 0xEF :: 0xBB :: 0xBF :: rest => ofUtf8? rest
  | a :: b :: c :: d :: _ =>
    if a = 0 then (if b = 0 then ofUtf32? true bs else ofUtf16? true bs)
    else if b = 0 then (if c = 0 ∧ d = 0 then ofUtf32? false bs else ofUtf16? false bs)
    else ofUtf8? bs
  | [a, b] =>
    if a = 0 then ofUtf16? true bs
    else if b = 0 then ofUtf16? false bs
    else ofUtf8? bs
  | _ => ofUtf8? bs

end PromptGraph.Text
