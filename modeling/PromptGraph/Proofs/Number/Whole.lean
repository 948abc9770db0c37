import Mathlib.Data.Nat.Log
import PromptGraph.Proofs.Number.Shortest

/-!
# `Proofs.Number.Whole` — when a rounded number reaches a whole one

A whole number of at most 52 bits is on the grid of the numbers below it, and an even number of steps on it. So a number
is rounded to the whole one or beyond it from half a step below it on, the half-way point included.

## Contents
- **Reach.** `reach`; `clog_bounds`, `reach_le`, `le_reach`, `reach_eq`.
- **Rounding.** `le_rounded_iff`: what is rounded to a whole number or beyond it.
- **Whole parts.** `le_trunc_iff`; `le_trunc_mul_iff`: the whole part of a product.
- **Signs.** `isNegative_ofRatio`, `isNegative_mul`; `trunc_nonpos`.
-/

namespace PromptGraph.Double

/-! ## Reach -/

/-- Half a step below a whole number, on the grid of the numbers just below it. -/
def reach (k : Nat) : ℚ := k - 2 ^ ((Nat.clog 2 k : Int) - 54)

theorem clog_bounds {k : Nat} (hk : k ≠ 0) :
    (2 : ℚ) ^ ((Nat.clog 2 k : Int) - 1) < k ∧ (k : ℚ) ≤ 2 ^ (Nat.clog 2 k : Int) := by
  constructor
  · rcases Nat.lt_or_ge 1 k with hone | hone
    · have hlt : 2 ^ (Nat.clog 2 k).pred < k := Nat.pow_pred_clog_lt_self (by decide) hone
      have hpos : 0 < Nat.clog 2 k := Nat.clog_pos (by decide) hone
      have hpred : (Nat.clog 2 k : Int) - 1 = ((Nat.clog 2 k).pred : Nat) := by rw [Nat.pred_eq_sub_one]; omega
      rw [hpred, zpow_natCast]
      exact_mod_cast hlt
    · obtain rfl : k = 1 := by omega
      rw [Nat.clog_one_right]
      norm_num
  · rw [zpow_natCast]
    exact_mod_cast Nat.le_pow_clog (by decide) k

theorem reach_le (k : Nat) : reach k ≤ k := by
  have hpos := two_zpow_pos ((Nat.clog 2 k : Int) - 54)
  rw [reach]
  linarith

/-- The fewer bits, the nearer to the whole number. -/
theorem le_reach {k c : Nat} (h : k ≤ 2 ^ c) : (k : ℚ) - 2 ^ ((c : Int) - 54) ≤ reach k := by
  have hle : Nat.clog 2 k ≤ c := Nat.clog_le_of_le_pow h
  have hstep := two_zpow_le (show (Nat.clog 2 k : Int) - 54 ≤ (c : Int) - 54 by omega)
  rw [reach]
  linarith

/-- Between two powers of two half a step is the same. -/
theorem reach_eq {k a : Nat} (hlow : 2 ^ a < k) (hhigh : k ≤ 2 ^ (a + 1)) : reach k = k - 2 ^ ((a : Int) - 53) := by
  have hlt : a < Nat.clog 2 k := (Nat.lt_clog_iff_pow_lt (by decide)).mpr hlow
  have hle : Nat.clog 2 k ≤ a + 1 := Nat.clog_le_of_le_pow hhigh
  rw [reach, show (Nat.clog 2 k : Int) - 54 = (a : Int) - 53 by omega]

/-! ## Rounding -/

/-- A whole number is an even number of steps on the grid of the numbers just below it. -/
theorem exists_even_steps {k c : Nat} (hc : c ≤ 52) :
    ∃ steps : Nat, steps % 2 = 0 ∧ (k : ℚ) = steps * 2 ^ ((c : Int) - 53) := by
  refine ⟨k * 2 ^ (53 - c), ?_, ?_⟩
  · rw [show 53 - c = (52 - c) + 1 by omega, pow_succ, ← mul_assoc]
    omega
  · have hinverse : ((2 ^ (53 - c) : ℕ) : ℚ) * 2 ^ ((c : Int) - 53) = 1 := by
      rw [Nat.cast_pow, Nat.cast_ofNat, ← zpow_natCast, ← two_zpow_add,
        show ((53 - c : Nat) : Int) + ((c : Int) - 53) = 0 by omega, zpow_zero]
    rw [Nat.cast_mul, mul_assoc, hinverse, mul_one]

/-- **A number is rounded to a whole one or beyond it exactly from half a step below it on.** -/
theorem le_rounded_iff {x : ℚ} {m k : Nat} {e : Int} (h : Rounds x m e) (hk : k ≠ 0) (hk52 : k ≤ 2 ^ 52) :
    (k : ℚ) ≤ m * 2 ^ e ↔ reach k ≤ x := by
  obtain ⟨hlow, hhigh⟩ := clog_bounds hk
  have hc : Nat.clog 2 k ≤ 52 := Nat.clog_le_of_le_pow hk52
  rw [reach]
  generalize Nat.clog 2 k = c at hlow hhigh hc ⊢
  obtain ⟨steps, heven, hsteps⟩ := exists_even_steps (k := k) hc
  have hhalf : (2 : ℚ) ^ ((c : Int) - 54) = 2 ^ ((c : Int) - 53) / 2 := by
    rw [show (c : Int) - 53 = ((c : Int) - 54) + 1 by omega, two_zpow_add]
    norm_num
  have hstep := two_zpow_pos ((c : Int) - 53)
  have hpos := two_zpow_pos e
  rw [hhalf]
  rcases lt_trichotomy e ((c : Int) - 53) with hlt | heq | hgt
  · -- a finer grid ends a step below the whole number or before
    have hend : (2 : ℚ) ^ (e + 53) ≤ 2 ^ 52 * 2 ^ ((c : Int) - 53) := by
      calc (2 : ℚ) ^ (e + 53) ≤ 2 ^ (52 + ((c : Int) - 53)) := two_zpow_le (by omega)
        _ = 2 ^ 52 * 2 ^ ((c : Int) - 53) := by rw [two_zpow_add]; rfl
    have hbelow : (2 : ℚ) ^ 52 * 2 ^ ((c : Int) - 53) < steps * 2 ^ ((c : Int) - 53) := by
      calc (2 : ℚ) ^ 52 * 2 ^ ((c : Int) - 53) = 2 ^ ((c : Int) - 1) := by
            rw [show (c : Int) - 1 = 52 + ((c : Int) - 53) by omega, two_zpow_add]; rfl
        _ < k := hlow
        _ = steps * 2 ^ ((c : Int) - 53) := hsteps
    have hnext : (2 : ℚ) ^ 52 + 1 ≤ steps := by
      have hlt' : (2 ^ 52 : ℕ) < steps := by exact_mod_cast lt_of_mul_lt_mul_right hbelow hstep.le
      exact_mod_cast hlt'
    have hmul : ((2 : ℚ) ^ 52 + 1) * 2 ^ ((c : Int) - 53) ≤ steps * 2 ^ ((c : Int) - 53) :=
      mul_le_mul_of_nonneg_right hnext hstep.le
    have hrounded : (m : ℚ) * 2 ^ e ≤ 2 ^ (e + 53) := by
      have hm : (m : ℚ) ≤ 2 ^ 53 := by exact_mod_cast h.le_pow
      calc (m : ℚ) * 2 ^ e ≤ 2 ^ 53 * 2 ^ e := mul_le_mul_of_nonneg_right hm hpos.le
        _ = 2 ^ (e + 53) := by rw [two_zpow_add, mul_comm]; rfl
    have hx := h.grid.below
    refine iff_of_false (fun hle => ?_) fun hle => ?_ <;> linarith
  · -- on the grid itself the number of steps decides
    subst heq
    rw [hsteps, mul_le_mul_iff_left₀ hpos, Nat.cast_le, h.nearest.le_iff heven, le_div_iff₀ hpos]
    constructor <;> intro hle <;> linarith
  · -- a coarser grid begins at the whole number or beyond it
    have hbegin : (2 : ℚ) ^ (c : Int) ≤ 2 ^ (e + 52) := two_zpow_le (by omega)
    have hx : (2 : ℚ) ^ (e + 52) ≤ x := h.grid.above.resolve_left (by omega)
    have hm : (2 : ℚ) ^ 52 ≤ m := by exact_mod_cast h.pow_le (by omega)
    have hrounded : (2 : ℚ) ^ (e + 52) ≤ m * 2 ^ e := by
      calc (2 : ℚ) ^ (e + 52) = 2 ^ 52 * 2 ^ e := by rw [two_zpow_add, mul_comm]; rfl
        _ ≤ m * 2 ^ e := mul_le_mul_of_nonneg_right hm hpos.le
    exact iff_of_true (by linarith) (by linarith)

/-! ## Whole parts -/

/-- The whole part of a number is the greatest natural that does not exceed it. -/
theorem le_trunc_iff {m : Nat} {e : Int} (h : Canonical m e) :
    ∃ t : Nat, (finite false m e h).trunc = some (t : Int) ∧ ∀ k : Nat, k ≤ t ↔ (k : ℚ) ≤ m * 2 ^ e := by
  refine ⟨if 0 ≤ e then m <<< e.toNat else m >>> (-e).toNat, rfl, fun k => ?_⟩
  split
  next he =>
    rw [Nat.shiftLeft_eq, two_zpow_of_nonneg he]
    exact_mod_cast Iff.rfl
  next he =>
    have hpos : 0 < 2 ^ (-e).toNat := Nat.two_pow_pos _
    have hpos' : (0 : ℚ) < ((2 ^ (-e).toNat : ℕ) : ℚ) := by exact_mod_cast hpos
    rw [Nat.shiftRight_eq_div_pow, Nat.le_div_iff_mul_le hpos, two_zpow_of_neg he, ← div_eq_mul_inv,
      le_div_iff₀ hpos']
    exact_mod_cast Iff.rfl

/-- **The whole part of a product** has reached a whole number when the exact product is half a step below it. -/
theorem le_trunc_mul_iff {m n : Nat} {e f : Int} (hm : Canonical m e) (hn : Canonical n f)
    (hpos : 0 < (m * 2 ^ e : ℚ) * (n * 2 ^ f)) (hsmall : (m * 2 ^ e : ℚ) * (n * 2 ^ f) < 2 ^ 100) :
    ∃ t : Nat, ((finite false m e hm).mul (finite false n f hn)).trunc = some (t : Int)
      ∧ ∀ k : Nat, k ≠ 0 → k ≤ 2 ^ 52 → (k ≤ t ↔ reach k ≤ (m * 2 ^ e) * (n * 2 ^ f)) := by
  obtain ⟨a, d, hd, hvalue, hdyadic⟩ := ofDyadic_eq false (m * n) (e + f)
  have hproduct : (a : ℚ) / d = (m * 2 ^ e) * (n * 2 ^ f) := by
    rw [hvalue, two_zpow_add, Nat.cast_mul]
    ring
  have ha : a ≠ 0 := by
    rintro rfl
    rw [Nat.cast_zero, zero_div] at hproduct
    exact hpos.ne hproduct
  obtain ⟨k, g, hrounds, hratio⟩ := exists_ofRatio false ha hd
  rw [hproduct] at hrounds
  have hg : g ≤ 970 := by
    rcases hrounds.grid.above with hleast | habove
    · omega
    · have hlt : (2 : ℚ) ^ (g + 52) < 2 ^ (100 : Int) := lt_of_le_of_lt habove hsmall
      have hexponents := two_zpow_lt_iff.mp hlt
      omega
  obtain ⟨j, i, hcanonical, hfinite, hsame⟩ := ofRounded_of_rounds false hrounds hg
  obtain ⟨t, htrunc, ht⟩ := le_trunc_iff hcanonical
  refine ⟨t, ?_, fun l hl hl52 => ?_⟩
  · show (ofDyadic false (m * n) (e + f)).trunc = _
    rw [hdyadic, hratio, hfinite, htrunc]
  · rw [ht, hsame, le_rounded_iff hrounds hl hl52]

/-! ## Signs -/

theorem isNegative_ofScaled (negative : Bool) (m : Nat) (e : Int) : (ofScaled negative m e).isNegative = negative := by
  unfold ofScaled
  split <;> rfl

theorem isNegative_ofRatio (negative : Bool) (n d : Nat) : (ofRatio negative n d).isNegative = negative := by
  unfold ofRatio
  dsimp only
  generalize gridExponent n d = e
  split
  next => rfl
  next =>
    generalize (if 0 ≤ e then _ else _ : Nat) = m
    split <;> exact isNegative_ofScaled ..

/-- The product of a negative number and a positive one is negative, or a negative zero. -/
theorem isNegative_mul {x : Double} {m : Nat} {e : Int} {h : Canonical m e} (hx : x.isNegative = true) (hm : m ≠ 0) :
    (x.mul (finite false m e h)).isNegative = true := by
  cases x with
  | nan => cases hx
  | infinite negative =>
      cases hx
      rw [mul, if_neg hm]
      rfl
  | finite negative k f hk =>
      cases hx
      rw [mul, ofDyadic]
      split <;> exact isNegative_ofRatio ..

theorem trunc_nonpos {x : Double} (hx : x.isNegative = true) : x.trunc.getD 0 ≤ 0 := by
  cases x with
  | nan => exact le_refl _
  | infinite negative => exact le_refl _
  | finite negative m e h =>
      cases hx
      simp only [trunc, signed, if_true, Option.getD_some]
      omega

end PromptGraph.Double
