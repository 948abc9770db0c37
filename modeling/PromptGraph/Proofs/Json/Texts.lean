import Mathlib.Data.List.Basic
import PromptGraph.Json.Reader
import PromptGraph.Json.Writer

/-!
# `Proofs.Json.Texts` — a written text is read back

Each character of a text is written as itself, as a short escape, as one escape of a code unit, or as the two of its
surrogate code units. Whichever it is, the reader takes it in one step; `scanText_escape` is the induction over the
characters.

## Contents
- **Code units.** `hexUnit?_hexPadded`, `escapedUnit_unit`, `escapedUnit_pair`.
- **Characters.** `scanText_escapeChar`.
- **Texts.** `scanText_escape`: for every text, in either style, and whatever follows it.
-/

namespace PromptGraph

namespace Text

theorem hexValue?_hexDigit {n : Nat} (h : n < 16) : hexValue? (hexDigit n) = some n := by
  have hall : ∀ m : Fin 16, hexValue? (hexDigit m) = some m.val := by decide
  exact hall ⟨n, h⟩

end Text

namespace Json

open Text

/-! ## Code units -/

theorem hexPadded_four (n : Nat) : hexPadded 4 n
    = [hexDigit (n / 16 / 16 / 16 % 16), hexDigit (n / 16 / 16 % 16), hexDigit (n / 16 % 16), hexDigit (n % 16)] := rfl

/-- The digits of a code unit are read as the code unit. -/
theorem hexUnit?_hexPadded {n : Nat} (h : n < 0x10000) (rest : List Char) :
    hexUnit? (hexPadded 4 n ++ rest) = some (n, rest) := by
  have hmod : ∀ m : Nat, m % 16 < 16 := fun m => Nat.mod_lt m (by decide)
  rw [hexPadded_four]
  show hexUnit? (_ :: _ :: _ :: _ :: rest) = _
  dsimp only [hexUnit?]
  rw [hexValue?_hexDigit (hmod _), hexValue?_hexDigit (hmod _), hexValue?_hexDigit (hmod _),
    hexValue?_hexDigit (hmod _)]
  have hvalue : ((n / 16 / 16 / 16 % 16 * 16 + n / 16 / 16 % 16) * 16 + n / 16 % 16) * 16 + n % 16 = n := by omega
  show some (_, rest) = _
  rw [hvalue]

/-- A code unit that is no surrogate is a character by itself. -/
theorem escapedUnit_unit {n : Nat} (h : n < 0x10000) (hhigh : isHighSurrogate n = false)
    (hlow : isLowSurrogate n = false) {rest : List Char} (hrest : rest ≠ []) :
    escapedUnit (hexPadded 4 n ++ rest) = .ok (Char.ofNat n, rest) := by
  have hchar : unitChar n = Char.ofNat n := by rw [unitChar, hhigh, hlow]; rfl
  unfold escapedUnit
  rw [hexUnit?_hexPadded h]
  cases rest with
  | nil => exact absurd rfl hrest
  | cons c rest =>
      dsimp only
      rw [hhigh, hchar]

/-- Two surrogate code units are one character. -/
theorem escapedUnit_pair {n m : Nat} (hn : n < 0x10000) (hm : m < 0x10000) (hhigh : isHighSurrogate n = true)
    (hlow : isLowSurrogate m = true) {rest : List Char} (hrest : rest ≠ []) :
    escapedUnit (hexPadded 4 n ++ (unitEscape m ++ rest))
      = .ok (Char.ofNat (0x10000 + (n - 0xD800) * 0x400 + (m - 0xDC00)), rest) := by
  -- the reader takes a second unit only where more than its digits is left
  have hlength : ¬ (hexPadded 4 m ++ rest).length ≤ 4 := by
    have hpos := List.length_pos_iff.mpr hrest
    rw [hexPadded_four, List.length_append]
    show ¬ 4 + rest.length ≤ 4
    omega
  unfold escapedUnit unitEscape
  rw [hexUnit?_hexPadded hn, List.cons_append, List.cons_append]
  simp only [hhigh]
  rw [if_neg hlength, hexUnit?_hexPadded hm]
  dsimp only
  rw [if_pos hlow]

/-! ## Characters -/

/-- A character is no surrogate. -/
theorem not_surrogate (c : Char) : isHighSurrogate c.toNat = false ∧ isLowSurrogate c.toNat = false := by
  have hvalid : c.toNat < 0xD800 ∨ 0xDFFF < c.toNat ∧ c.toNat < 0x110000 := c.valid
  rw [isHighSurrogate, isLowSurrogate]
  simp only [Bool.and_eq_false_iff, decide_eq_false_iff_not]
  omega

theorem scanText_unitEscape (opening : List Char) (fuel : Nat) {c : Char} (h : c.toNat < 0x10000) {rest : List Char}
    (hrest : rest ≠ []) : scanText opening (fuel + 1) (unitEscape c.toNat ++ rest)
      = (scanText opening fuel rest).map fun x => (c :: x.1, x.2) := by
  rw [unitEscape, List.cons_append, List.cons_append, scanText,
    escapedUnit_unit h (not_surrogate c).1 (not_surrogate c).2 hrest, Char.ofNat_toNat]
  show (scanText opening fuel rest >>= fun x => pure (c :: x.1, x.2)) = _
  cases scanText opening fuel rest <;> rfl

/-- A character beyond the first plane is read from the escapes of its two code units. -/
theorem scanText_wideEscape (opening : List Char) (fuel : Nat) (c : Char) {rest : List Char} (hrest : rest ≠ []) :
    scanText opening (fuel + 1) (wideEscape c ++ rest)
      = (scanText opening fuel rest).map fun x => (c :: x.1, x.2) := by
  unfold wideEscape
  by_cases h : c.toNat < 0x10000
  · rw [if_pos h]
    exact scanText_unitEscape opening fuel h hrest
  · rw [if_neg h]
    have hvalid : c.toNat < 0xD800 ∨ 0xDFFF < c.toNat ∧ c.toNat < 0x110000 := c.valid
    have hlow : isLowSurrogate (0xDC00 + (c.toNat - 0x10000) % 0x400) = true := by
      rw [isLowSurrogate, Bool.and_eq_true, decide_eq_true_eq, decide_eq_true_eq]
      omega
    have hhigh : isHighSurrogate (0xD800 + (c.toNat - 0x10000) / 0x400) = true := by
      rw [isHighSurrogate, Bool.and_eq_true, decide_eq_true_eq, decide_eq_true_eq]
      omega
    have hcode : 0x10000 + (0xD800 + (c.toNat - 0x10000) / 0x400 - 0xD800) * 0x400
        + (0xDC00 + (c.toNat - 0x10000) % 0x400 - 0xDC00) = c.toNat := by omega
    rw [List.append_assoc]
    conv_lhs => rw [unitEscape, List.cons_append, List.cons_append, scanText]
    rw [escapedUnit_pair (by omega) (by omega) hhigh hlow hrest, hcode, Char.ofNat_toNat]
    show (scanText opening fuel rest >>= fun x => pure (c :: x.1, x.2)) = _
    cases scanText opening fuel rest <;> rfl

theorem scanText_plain (opening : List Char) (fuel : Nat) {c : Char} (hquote : c ≠ '"') (hslash : c ≠ '\\')
    (hcontrol : ¬ c.toNat < 0x20) (rest : List Char) :
    scanText opening (fuel + 1) (c :: rest) = (scanText opening fuel rest).map fun x => (c :: x.1, x.2) := by
  -- the other three equations of the scanner are excluded
  rw [scanText, if_neg hcontrol]
  · show (scanText opening fuel rest >>= fun x => pure (c :: x.1, x.2)) = _
    cases scanText opening fuel rest <;> rfl
  · exact hquote
  · exact fun h _ => hslash h
  · exact fun _ h _ => hslash h
  · exact fun _ _ h _ => hslash h

theorem scanText_short (opening : List Char) (fuel : Nat) {e c : Char} (he : shortEscape? e = some c)
    (rest : List Char) :
    scanText opening (fuel + 1) ('\\' :: e :: rest) = (scanText opening fuel rest).map fun x => (c :: x.1, x.2) := by
  rw [scanText, he]
  · show (scanText opening fuel rest >>= fun x => pure (c :: x.1, x.2)) = _
    cases scanText opening fuel rest <;> rfl
  · rintro rfl
    cases he

/-- **A written character is read in one step**, whichever of its forms it was written in. -/
theorem scanText_escapeChar (opening : List Char) (fuel : Nat) (ascii : Bool) (c : Char) {rest : List Char}
    (hrest : rest ≠ []) : scanText opening (fuel + 1) (escapeChar ascii c ++ rest)
      = (scanText opening fuel rest).map fun x => (c :: x.1, x.2) := by
  unfold escapeChar
  by_cases hquote : c = '"'
  · subst hquote
    exact scanText_short opening fuel rfl rest
  rw [if_neg hquote]
  by_cases hslash : c = '\\'
  · subst hslash
    exact scanText_short opening fuel rfl rest
  rw [if_neg hslash]
  by_cases hn : c = '\n'
  · subst hn
    exact scanText_short opening fuel rfl rest
  rw [if_neg hn]
  by_cases hr : c = '\r'
  · subst hr
    exact scanText_short opening fuel rfl rest
  rw [if_neg hr]
  by_cases ht : c = '\t'
  · subst ht
    exact scanText_short opening fuel rfl rest
  rw [if_neg ht]
  by_cases hb : c.toNat = 8
  · rw [if_pos hb, ← Char.ofNat_toNat c, hb]
    exact scanText_short opening fuel rfl rest
  rw [if_neg hb]
  by_cases hf : c.toNat = 12
  · rw [if_pos hf, ← Char.ofNat_toNat c, hf]
    exact scanText_short opening fuel rfl rest
  rw [if_neg hf]
  by_cases hcontrol : c.toNat < 0x20
  · rw [if_pos hcontrol]
    exact scanText_unitEscape opening fuel (by omega) hrest
  rw [if_neg hcontrol]
  by_cases hwide : ascii ∧ 0x7F ≤ c.toNat
  · rw [if_pos hwide]
    exact scanText_wideEscape opening fuel c hrest
  · rw [if_neg hwide]
    exact scanText_plain opening fuel hquote hslash hcontrol rest

/-! ## Texts -/

/-- **A written text is read back**, whatever follows its closing quote. -/
theorem scanText_escape (opening : List Char) (ascii : Bool) {cs : List Char} {fuel : Nat} (hfuel : cs.length < fuel)
    (rest : List Char) : scanText opening fuel (cs.flatMap (escapeChar ascii) ++ '"' :: rest) = .ok (cs, rest) := by
  induction cs generalizing fuel with
  | nil =>
      cases fuel with
      | zero => cases hfuel
      | succ fuel => rfl
  | cons c cs ih =>
      cases fuel with
      | zero => cases hfuel
      | succ fuel =>
          have hlength : cs.length < fuel := Nat.lt_of_succ_lt_succ hfuel
          rw [List.flatMap_cons, List.append_assoc, scanText_escapeChar opening fuel ascii c (by simp), ih hlength]
          rfl

end Json

end PromptGraph
