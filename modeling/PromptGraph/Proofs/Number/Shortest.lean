import PromptGraph.Number.Decimal
import PromptGraph.Proofs.Number.Rounding

/-!
# `Proofs.Number.Shortest` — the digits that are written stand for the number

The search for few digits keeps a candidate only if it is read back as the number, and gives the exact decimal form
where it finds none. Zeros at the end of the digits may move into the exponent. In each case what is read is the number.

## Contents
- **Widths.** `width_le_iff`, `width_mul_ten`.
- **Signs and zeros.** `toDouble_sign`, `toDouble_mul_pow`; `toDouble_dropZeros` by induction on the zeros.
- **Exact forms.** `toDouble_exact`.
- **Shortest forms.** `search_cases` by induction on the number of digits; `toDouble_shortest`.
- **Length.** `isLongInteger_iff`.
-/

namespace PromptGraph

namespace Double

/-- The sign of a rounded quotient is the given one, and decides nothing else. -/
theorem ofRatio_sign (negative : Bool) {n d m : Nat} {e : Int} {s : Bool} {h : Canonical m e} (hd : 0 < d)
    (hratio : ofRatio false n d = .finite s m e h) : ofRatio negative n d = .finite negative m e h := by
  have hscaled : ∀ k f, ofScaled false k f = .finite s m e h → ofScaled negative k f = .finite negative m e h := by
    intro k f heq
    unfold ofScaled at heq ⊢
    split at heq
    next hcanonical =>
      cases heq
      rw [dif_pos hcanonical]
    next => cases heq
  by_cases hn : n = 0
  · subst hn
    cases hratio
    rfl
  · obtain ⟨k, f, hrounds, heq⟩ := exists_ofRatio false hn hd
    rw [heq] at hratio
    rw [ofRatio_of_rounds negative hn hd hrounds]
    unfold ofRounded at hratio ⊢
    split at hratio
    next hk => rw [if_pos hk, hscaled _ _ hratio]
    next hk => rw [if_neg hk, hscaled _ _ hratio]

end Double

namespace Decimal

open Double

/-! ## Widths -/

theorem width_le_iff {n k : Nat} (hk : 0 < k) : width n ≤ k ↔ n < 10 ^ k := Nat.length_toDigits_le_iff (by decide) hk

theorem width_mul_ten {n : Nat} (hn : n ≠ 0) : width (10 * n) = width n + 1 := by
  have hdigits : Nat.toDigits 10 n ++ Nat.toDigits 10 0 = Nat.toDigits 10 (10 * n + 0) :=
    Nat.toDigits_append_toDigits (by decide) (Nat.pos_of_ne_zero hn) (by decide)
  show (Nat.toDigits 10 (10 * n + 0)).length = (Nat.toDigits 10 n).length + 1
  rw [← hdigits, List.length_append]
  rfl

/-! ## Signs and zeros -/

theorem toDouble_sign (negative : Bool) {c : Nat} {unit : Int} {m : Nat} {e : Int} {s : Bool} {h : Canonical m e}
    (hread : toDouble ⟨false, c, unit⟩ = .finite s m e h) : toDouble ⟨negative, c, unit⟩ = .finite negative m e h := by
  have hzero {x : Double} (hx : x = .zero false) (heq : x = .finite s m e h) :
      Double.zero negative = .finite negative m e h := by
    subst hx
    cases heq
    rfl
  unfold toDouble at hread ⊢
  dsimp only at hread ⊢
  split at hread
  next hc =>
    rw [if_pos hc]
    exact hzero rfl hread
  next hc =>
    rw [if_neg hc]
    split at hread
    next => cases hread
    next hlarge =>
      rw [if_neg hlarge]
      split at hread
      next hsmall =>
        rw [if_pos hsmall]
        exact hzero rfl hread
      next hsmall =>
        rw [if_neg hsmall]
        split at hread
        next hunit =>
          rw [if_pos hunit]
          exact ofRatio_sign negative Nat.one_pos hread
        next hunit =>
          rw [if_neg hunit]
          exact ofRatio_sign negative (Nat.pow_pos (by decide)) hread

/-- A zero at the end of the digits is a step of the exponent. -/
theorem toDouble_mul_ten (negative : Bool) {c : Nat} (hc : c ≠ 0) (unit : Int) :
    toDouble ⟨negative, 10 * c, unit⟩ = toDouble ⟨negative, c, unit + 1⟩ := by
  have hten : 10 * c ≠ 0 := by omega
  have hmagnitude : ((width c + 1 : Nat) : Int) + unit = (width c : Int) + (unit + 1) := by
    push_cast
    omega
  have hpow : ∀ k : Nat, Nat.pow 10 (k + 1) = 10 * Nat.pow 10 k := fun k => Nat.pow_succ'
  unfold toDouble
  simp only [if_neg hten, if_neg hc, width_mul_ten hc, hmagnitude]
  -- what is left is one quotient in two forms
  rcases lt_trichotomy unit (-1) with hlt | rfl | hgt
  · rw [if_neg (show ¬ 0 ≤ unit by omega), if_neg (show ¬ 0 ≤ unit + 1 by omega)]
    obtain ⟨k, hk⟩ : ∃ k : Nat, -(unit + 1) = k := ⟨(-(unit + 1)).toNat, by omega⟩
    have hk' : -unit = ((k + 1 : Nat) : Int) := by
      push_cast
      omega
    have hratio : ofRatio negative (10 * c) (Nat.pow 10 (-unit).toNat)
        = ofRatio negative c (Nat.pow 10 (-(unit + 1)).toNat) := by
      refine ofRatio_congr negative (Nat.pow_pos (by decide)) (Nat.pow_pos (by decide)) ?_
      rw [hk, hk', Int.toNat_natCast, Int.toNat_natCast, hpow]
      ring
    rw [hratio]
  · have hratio : ofRatio negative (10 * c) (Nat.pow 10 1) = ofRatio negative (c * Nat.pow 10 0) 1 := by
      refine ofRatio_congr negative (by decide) (by decide) ?_
      show 10 * c * 1 = c * 1 * 10
      omega
    exact if_congr Iff.rfl rfl (if_congr Iff.rfl rfl hratio)
  · rw [if_pos (show 0 ≤ unit by omega), if_pos (show 0 ≤ unit + 1 by omega)]
    obtain ⟨k, rfl⟩ : ∃ k : Nat, unit = k := ⟨unit.toNat, by omega⟩
    rw [show ((k : Int) + 1).toNat = k + 1 by omega, Int.toNat_natCast, hpow]
    rw [show 10 * c * Nat.pow 10 k = c * (10 * Nat.pow 10 k) by ring]

/-- **Zeros at the end of the digits are steps of the exponent.** -/
theorem toDouble_mul_pow (negative : Bool) {c : Nat} (hc : c ≠ 0) (k : Nat) (unit : Int) :
    toDouble ⟨negative, c * 10 ^ k, unit⟩ = toDouble ⟨negative, c, unit + k⟩ := by
  induction k generalizing unit with
  | zero => simp
  | succ k ih =>
      have hne : c * 10 ^ k ≠ 0 := Nat.mul_ne_zero hc (Nat.ne_of_gt (Nat.pow_pos (by decide)))
      rw [show c * 10 ^ (k + 1) = 10 * (c * 10 ^ k) by ring, toDouble_mul_ten negative hne, ih]
      congr 2
      push_cast
      omega

theorem toDouble_dropZeros (negative : Bool) (fuel : Nat) {c : Nat} (hc : c ≠ 0) (unit : Int) :
    (dropZeros fuel c unit).1 ≠ 0
      ∧ toDouble ⟨negative, (dropZeros fuel c unit).1, (dropZeros fuel c unit).2⟩ = toDouble ⟨negative, c, unit⟩ := by
  induction fuel generalizing c unit with
  | zero => exact ⟨hc, rfl⟩
  | succ fuel ih =>
      unfold dropZeros
      split
      next h =>
        have hten : 10 * (c / 10) = c := by omega
        obtain ⟨hne, hread⟩ := ih (show c / 10 ≠ 0 by omega) (unit + 1)
        refine ⟨hne, hread.trans ?_⟩
        rw [← toDouble_mul_ten negative (by omega), hten]
      next => exact ⟨hc, rfl⟩

/-! ## Exact forms -/

/-- The exact decimal form of a number is within the range in which decimals are compared. -/
theorem magnitude_exact {m : Nat} {e : Int} (h : Canonical m e) (hm : m ≠ 0) :
    (width (exact m e).1 : Int) + (exact m e).2 ≤ 310 ∧ -330 ≤ (width (exact m e).1 : Int) + (exact m e).2 := by
  obtain ⟨hbits, hleast, hmost, -⟩ := h
  unfold exact
  split
  next he =>
    have hlt : m <<< e.toNat < 10 ^ 310 := by
      rw [Nat.shiftLeft_eq]
      calc m * 2 ^ e.toNat < 2 ^ 53 * 2 ^ e.toNat := Nat.mul_lt_mul_of_pos_right hbits (Nat.two_pow_pos _)
        _ ≤ 2 ^ 53 * 2 ^ 971 := Nat.mul_le_mul_left _ (Nat.pow_le_pow_right (by decide) (by omega))
        _ ≤ 10 ^ 310 := by decide +kernel
    have hwidth := (width_le_iff (by decide)).mpr hlt
    dsimp only
    omega
  next he =>
    obtain ⟨k, hk, hkle⟩ : ∃ k : Nat, e = -(k : Int) ∧ k ≤ 1074 := ⟨(-e).toNat, by omega, by omega⟩
    subst hk
    rw [neg_neg, Int.toNat_natCast]
    show (width (m * 5 ^ k) : Int) + -(k : Int) ≤ 310 ∧ -330 ≤ (width (m * 5 ^ k) : Int) + -(k : Int)
    have hupper : m * 5 ^ k < 10 ^ (16 + k) := by
      calc m * 5 ^ k < 2 ^ 53 * 5 ^ k := Nat.mul_lt_mul_of_pos_right hbits (Nat.pow_pos (by decide))
        _ ≤ 10 ^ 16 * 10 ^ k := Nat.mul_le_mul (by decide) (Nat.pow_le_pow_left (by decide) k)
        _ = 10 ^ (16 + k) := (Nat.pow_add ..).symm
    have hwidth := (width_le_iff (by omega)).mpr hupper
    refine ⟨by omega, ?_⟩
    by_contra hsmall
    -- too few digits for a power of five of this size
    obtain ⟨v, w, hv, hw, hrange⟩ : ∃ v w : Nat, v = 1074 ∧ w = 330 ∧ 2 ^ v ≤ 10 ^ w :=
      ⟨1074, 330, rfl, rfl, by decide +kernel⟩
    have hlower : m * 5 ^ k < 10 ^ (k - w) := (width_le_iff (by omega)).mp (by omega)
    have hfive : 5 ^ k ≤ m * 5 ^ k := Nat.le_mul_of_pos_left _ (Nat.pos_of_ne_zero hm)
    have hscaled : 5 ^ k * 10 ^ w < 5 ^ k * 2 ^ k := by
      calc 5 ^ k * 10 ^ w < 10 ^ (k - w) * 10 ^ w :=
            Nat.mul_lt_mul_of_pos_right (Nat.lt_of_le_of_lt hfive hlower) (Nat.pow_pos (by decide))
        _ = 5 ^ k * 2 ^ k := by rw [← Nat.pow_add, Nat.sub_add_cancel (by omega), ← Nat.mul_pow]
    have hten : 10 ^ w < 2 ^ k := Nat.lt_of_mul_lt_mul_left hscaled
    have htwo : 2 ^ k ≤ 2 ^ v := Nat.pow_le_pow_right (by decide) (by omega)
    omega

/-- **The exact decimal form is read as the number.** -/
theorem toDouble_exact (negative : Bool) {m : Nat} {e : Int} (h : Canonical m e) (hm : m ≠ 0) :
    toDouble ⟨negative, (exact m e).1, (exact m e).2⟩ = .finite negative m e h := by
  obtain ⟨hmost, hleast⟩ := magnitude_exact h hm
  have hmost' : ¬ 310 < (width (exact m e).1 : Int) + (exact m e).2 := by omega
  have hleast' : ¬ (width (exact m e).1 : Int) + (exact m e).2 < -330 := by omega
  unfold toDouble
  simp only [if_neg hmost', if_neg hleast']
  unfold exact
  split
  next he =>
    have hne : m <<< e.toNat ≠ 0 := by
      rw [Nat.shiftLeft_eq]
      exact Nat.mul_ne_zero hm (Nat.ne_of_gt (Nat.two_pow_pos _))
    have hone : m <<< e.toNat * Nat.pow 10 (0 : Int).toNat = m <<< e.toNat := Nat.mul_one _
    simp only [if_neg hne, le_refl, if_true, hone]
    refine ofRatio_of_canonical negative hne Nat.one_pos h ?_
    rw [Nat.shiftLeft_eq, Nat.cast_mul, Nat.cast_one, div_one, ← two_zpow_of_nonneg he]
  next he =>
    have hne : m * Nat.pow 5 (-e).toNat ≠ 0 := Nat.mul_ne_zero hm (Nat.ne_of_gt (Nat.pow_pos (by decide)))
    simp only [if_neg hne]
    refine ofRatio_of_canonical negative hne (Nat.pow_pos (by decide)) h ?_
    have hfive : ((5 : ℚ) ^ (-e).toNat) ≠ 0 := by positivity
    show ((m * 5 ^ (-e).toNat : ℕ) : ℚ) / (10 ^ (-e).toNat : ℕ) = m * 2 ^ e
    rw [two_zpow_of_neg he, show (10 : ℕ) = 5 * 2 from rfl, Nat.mul_pow]
    push_cast
    field_simp

/-! ## Shortest forms -/

/-- What is found is read back as the number, or it is the exact form, by induction on the number of digits. -/
theorem search_cases (m : Nat) (e : Int) (n d : Nat) (leading : Int) (fuel count : Nat) :
    readsBack m e (search m e n d leading fuel count).1 (search m e n d leading fuel count).2 = true
      ∨ search m e n d leading fuel count = exact m e := by
  have hchosen : ∀ (first : Bool) (low : Nat) (unit : Int), readsBack m e low unit = true →
      readsBack m e (low + 1) unit = true →
        readsBack m e (if first then low else low + 1, unit).1 (if first then low else low + 1, unit).2 = true := by
    intro first low unit hlow hhigh
    cases first
    · exact hhigh
    · exact hlow
  induction fuel generalizing count with
  | zero => exact .inr rfl
  | succ fuel ih =>
      unfold search
      dsimp only
      split
      next hlow hhigh => exact .inl (hchosen _ _ _ hlow hhigh)
      next hlow _ => exact .inl hlow
      next _ hhigh => exact .inl hhigh
      next => exact ih (count + 1)

theorem toDouble_of_readsBack {m : Nat} {e : Int} {c : Nat} {unit : Int} (hm : m ≠ 0)
    (h : readsBack m e c unit = true) :
    c ≠ 0 ∧ ∃ s hcanonical, toDouble ⟨false, c, unit⟩ = .finite s m e hcanonical := by
  unfold readsBack at h
  split at h
  next s k f hcanonical hread =>
    rw [Bool.and_eq_true, beq_iff_eq, beq_iff_eq] at h
    obtain ⟨rfl, rfl⟩ := h
    refine ⟨?_, s, hcanonical, hread⟩
    rintro rfl
    cases hread
    exact hm rfl
  next => cases h

/-- **The shortest digits are read as the number**, under either sign. -/
theorem toDouble_shortest (negative : Bool) {m : Nat} {e : Int} (h : Canonical m e) (hm : m ≠ 0) :
    (shortest m e).1 ≠ 0
      ∧ toDouble ⟨negative, (shortest m e).1, (shortest m e).2⟩ = .finite negative m e h := by
  unfold shortest
  dsimp only
  generalize hfound : search m e _ _ _ 17 1 = found
  obtain ⟨hne, hread⟩ : found.1 ≠ 0 ∧ toDouble ⟨negative, found.1, found.2⟩ = .finite negative m e h := by
    rcases hfound ▸ search_cases m e _ _ _ 17 1 with hback | hexact
    · obtain ⟨hne, s, hcanonical, hread⟩ := toDouble_of_readsBack hm hback
      exact ⟨hne, toDouble_sign negative hread⟩
    · have hread := toDouble_exact negative h hm
      rw [← hexact] at hread
      refine ⟨fun hzero => ?_, hread⟩
      rw [hzero] at hread
      cases hread
      exact hm rfl
  obtain ⟨hne', hdropped⟩ := toDouble_dropZeros negative 400 hne found.2
  exact ⟨hne', hdropped.trans hread⟩

end Decimal

/-! ## Length -/

/-- An integer is written unless it has more digits than the limit allows. -/
theorem isLongInteger_iff {n : Int} : isLongInteger n = true ↔ 10 ^ integerDigitLimit ≤ n.natAbs := by
  have hwidth := Decimal.width_le_iff (n := n.natAbs) (show 0 < integerDigitLimit by decide)
  rw [isLongInteger, decide_eq_true_eq, ← not_le, hwidth, not_lt]

end PromptGraph
