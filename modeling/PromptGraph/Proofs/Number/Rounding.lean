import Mathlib.Algebra.Order.Field.Power
import Mathlib.Data.Rat.Cast.Order
import Mathlib.Tactic.FieldSimp
import Mathlib.Tactic.Linarith
import Mathlib.Tactic.NormNum
import Mathlib.Tactic.Ring
import PromptGraph.Number.Double

/-!
# `Proofs.Number.Rounding` — the nearest binary64 number of a quotient

A positive rational number lies on one grid, that of the mantissas of 53 bits or the least one, and one natural number
of steps on this grid is nearest to it. Both are determined by the number alone, so quotients that are equal are
rounded alike, and what is on its grid is kept.

## Contents
- **Powers of two.** `two_zpow_of_nonneg`, `two_zpow_of_neg`.
- **Grids.** `OnGrid`, unique; `onGrid_gridExponent`.
- **Nearest naturals.** `IsNearest`, unique; `le_iff`, `isNearest_roundToEven`.
- **Rounding.** `Rounds`, unique; `ofRatio_of_rounds`, `ofRatio_congr`, `ofRatio_of_canonical`.
- **Range.** `ofRounded_of_rounds`: what is rounded within the range; `ofDyadic_eq`: a product as a quotient.
-/

namespace PromptGraph.Double

/-! ## Powers of two -/

theorem two_zpow_of_nonneg {e : Int} (h : 0 ≤ e) : (2 : ℚ) ^ e = (2 ^ e.toNat : ℕ) := by
  have hcast : e = (e.toNat : Int) := (Int.toNat_of_nonneg h).symm
  conv_lhs => rw [hcast, zpow_natCast]
  push_cast
  rfl

theorem two_zpow_of_neg {e : Int} (h : ¬ 0 ≤ e) : (2 : ℚ) ^ e = ((2 ^ (-e).toNat : ℕ) : ℚ)⁻¹ := by
  rw [← two_zpow_of_nonneg (show 0 ≤ -e by omega), zpow_neg, inv_inv]

theorem two_zpow_pos (e : Int) : (0 : ℚ) < 2 ^ e := zpow_pos (by norm_num) e

theorem two_zpow_le {e f : Int} (h : e ≤ f) : (2 : ℚ) ^ e ≤ 2 ^ f := zpow_le_zpow_right₀ (by norm_num) h

theorem two_zpow_lt_iff {e f : Int} : (2 : ℚ) ^ e < 2 ^ f ↔ e < f := zpow_lt_zpow_iff_right₀ (by norm_num)

theorem two_zpow_add (e f : Int) : (2 : ℚ) ^ (e + f) = 2 ^ e * 2 ^ f := zpow_add₀ (by norm_num) e f

theorem two_pow_log2_le {n : Nat} (hn : n ≠ 0) : (2 : ℚ) ^ (n.log2 : Int) ≤ n := by
  rw [zpow_natCast]
  exact_mod_cast Nat.log2_self_le hn

theorem lt_two_pow_log2 (n : Nat) : (n : ℚ) < 2 ^ ((n.log2 : Int) + 1) := by
  have hlt : n < 2 ^ (n.log2 + 1) := Nat.lt_log2_self
  rw [show (n.log2 : Int) + 1 = ((n.log2 + 1 : Nat) : Int) by push_cast; rfl, zpow_natCast]
  exact_mod_cast hlt

/-! ## Grids -/

/-- The grid of a positive number has the steps `2 ^ e`: the number has a mantissa of 53 bits, or the steps are the
    least ones. -/
structure OnGrid (x : ℚ) (e : Int) : Prop where
  least : -1074 ≤ e
  below : x < 2 ^ (e + 53)
  above : e = -1074 ∨ (2 : ℚ) ^ (e + 52) ≤ x

/-- A coarser grid has no room for the number below its mantissas of 53 bits. -/
theorem OnGrid.le {x : ℚ} {e f : Int} (h : OnGrid x e) (hleast : -1074 ≤ f) (hlt : x < 2 ^ (f + 53)) : e ≤ f := by
  rcases h.above with heq | habove
  · omega
  · have hexponents := two_zpow_lt_iff.mp (lt_of_le_of_lt habove hlt)
    omega

theorem OnGrid.unique {x : ℚ} {e f : Int} (he : OnGrid x e) (hf : OnGrid x f) : e = f :=
  le_antisymm (he.le hf.least hf.below) (hf.le he.least he.below)

/-- The quotient of two naturals by their numbers of bits. -/
theorem quotient_bounds {n d : Nat} (hn : n ≠ 0) (hd : 0 < d) :
    (2 : ℚ) ^ ((n.log2 : Int) - d.log2 - 1) ≤ (n : ℚ) / d ∧ (n : ℚ) / d < 2 ^ ((n.log2 : Int) - d.log2 + 1) := by
  have hd' : (0 : ℚ) < d := by exact_mod_cast hd
  have hnlow := two_pow_log2_le hn
  have hnhigh := lt_two_pow_log2 n
  have hdlow := two_pow_log2_le (Nat.ne_of_gt hd)
  have hdhigh := lt_two_pow_log2 d
  constructor
  · rw [le_div_iff₀ hd']
    calc (2 : ℚ) ^ ((n.log2 : Int) - d.log2 - 1) * d
        ≤ 2 ^ ((n.log2 : Int) - d.log2 - 1) * 2 ^ ((d.log2 : Int) + 1) :=
          mul_le_mul_of_nonneg_left hdhigh.le (two_zpow_pos _).le
      _ = 2 ^ (n.log2 : Int) := by rw [← two_zpow_add]; congr 1; omega
      _ ≤ n := hnlow
  · rw [div_lt_iff₀ hd']
    calc (n : ℚ) < 2 ^ ((n.log2 : Int) + 1) := hnhigh
      _ = 2 ^ ((n.log2 : Int) - d.log2 + 1) * 2 ^ (d.log2 : Int) := by rw [← two_zpow_add]; congr 1; omega
      _ ≤ 2 ^ ((n.log2 : Int) - d.log2 + 1) * d := mul_le_mul_of_nonneg_left hdlow (two_zpow_pos _).le

/-- Whether a guessed grid is too coarse is decided on naturals. -/
theorem tooCoarse_iff {n d : Nat} (hd : 0 < d) (g : Int) :
    (if 0 ≤ g then decide (n < (d <<< g.toNat) <<< 52) else decide (n <<< (-g).toNat < d <<< 52)) = true
      ↔ (n : ℚ) / d < 2 ^ (g + 52) := by
  have hd' : (0 : ℚ) < d := by exact_mod_cast hd
  have hfifty : (2 : ℚ) ^ (52 : Int) = ((2 ^ 52 : ℕ) : ℚ) := two_zpow_of_nonneg (by decide)
  rw [div_lt_iff₀ hd', two_zpow_add, hfifty]
  split
  next h =>
    rw [decide_eq_true_eq, Nat.shiftLeft_eq, Nat.shiftLeft_eq, two_zpow_of_nonneg h, ← Nat.cast_lt (α := ℚ)]
    push_cast
    rw [mul_comm ((2 : ℚ) ^ g.toNat * _), mul_assoc]
  next h =>
    have hpos : (0 : ℚ) < ((2 ^ (-g).toNat : ℕ) : ℚ) := by exact_mod_cast Nat.two_pow_pos _
    rw [decide_eq_true_eq, Nat.shiftLeft_eq, Nat.shiftLeft_eq, two_zpow_of_neg h, mul_assoc, inv_mul_eq_div,
      lt_div_iff₀ hpos, ← Nat.cast_lt (α := ℚ)]
    push_cast
    rw [mul_comm (d : ℚ)]

/-- **The exponent that is computed is that of the grid.** -/
theorem onGrid_gridExponent {n d : Nat} (hn : n ≠ 0) (hd : 0 < d) : OnGrid ((n : ℚ) / d) (gridExponent n d) := by
  obtain ⟨hlow, hhigh⟩ := quotient_bounds hn hd
  -- the guess, made finer by one where it is too coarse, and the least grid below that
  obtain ⟨e, he, hbelow, habove⟩ : ∃ e, gridExponent n d = max e (-1074) ∧ (n : ℚ) / d < 2 ^ (e + 53)
      ∧ (2 : ℚ) ^ (e + 52) ≤ (n : ℚ) / d := by
    unfold gridExponent
    simp only [tooCoarse_iff hd]
    generalize hg : (n.log2 : Int) - d.log2 - 52 = g at *
    split
    next h => exact ⟨_, rfl, lt_of_lt_of_le h (two_zpow_le (by omega)), le_trans (two_zpow_le (by omega)) hlow⟩
    next h => exact ⟨_, rfl, lt_of_lt_of_le hhigh (two_zpow_le (by omega)), not_lt.mp h⟩
  rw [he]
  rcases le_total e (-1074) with hle | hle
  · rw [max_eq_right hle]
    exact ⟨le_refl _, lt_of_lt_of_le hbelow (two_zpow_le (by omega)), .inl rfl⟩
  · rw [max_eq_left hle]
    exact ⟨hle, hbelow, .inr habove⟩

/-! ## Nearest naturals -/

/-- The natural nearest to a number; half-way it is the even one. -/
structure IsNearest (x : ℚ) (m : Nat) : Prop where
  low : (m : ℚ) - 1 / 2 ≤ x
  high : x ≤ m + 1 / 2
  low_even : x = (m : ℚ) - 1 / 2 → m % 2 = 0
  high_even : x = (m : ℚ) + 1 / 2 → m % 2 = 0

/-- **An even number is reached exactly from half a step below it.** -/
theorem IsNearest.le_iff {x : ℚ} {m k : Nat} (h : IsNearest x m) (hk : k % 2 = 0) : k ≤ m ↔ (k : ℚ) - 1 / 2 ≤ x := by
  constructor
  · intro hle
    have hcast : (k : ℚ) ≤ m := by exact_mod_cast hle
    linarith [h.low]
  · intro hx
    by_contra hlt
    have hcast : (m : ℚ) + 1 ≤ k := by exact_mod_cast Nat.lt_of_not_le hlt
    have heq : (m : ℚ) + 1 = k := by linarith [h.high]
    have hnext : m + 1 = k := by exact_mod_cast heq
    have heven := h.high_even (by linarith [h.high])
    omega

theorem IsNearest.le {x : ℚ} {m k : Nat} (hm : IsNearest x m) (hk : IsNearest x k) : m ≤ k := by
  by_contra hlt
  have hcast : (k : ℚ) + 1 ≤ m := by exact_mod_cast Nat.lt_of_not_le hlt
  have heq : (k : ℚ) + 1 = m := by linarith [hm.low, hk.high]
  have hnext : k + 1 = m := by exact_mod_cast heq
  have hmeven := hm.low_even (by linarith [hm.low, hk.high])
  have hkeven := hk.high_even (by linarith [hm.low, hk.high])
  omega

theorem IsNearest.unique {x : ℚ} {m k : Nat} (hm : IsNearest x m) (hk : IsNearest x k) : m = k :=
  Nat.le_antisymm (hm.le hk) (hk.le hm)

theorem isNearest_self (m : Nat) : IsNearest m m := by
  refine ⟨by linarith, by linarith, fun h => ?_, fun h => ?_⟩ <;> linarith

theorem isNearest_roundToEven (n : Nat) {d : Nat} (hd : 0 < d) : IsNearest ((n : ℚ) / d) (roundToEven n d) := by
  have hd' : (0 : ℚ) < d := by exact_mod_cast hd
  have hdiv : (d : ℚ) * (n / d : ℕ) + (n % d : ℕ) = n := by exact_mod_cast Nat.div_add_mod n d
  have hmod : ((n % d : ℕ) : ℚ) < d := by exact_mod_cast Nat.mod_lt n hd
  have hquotient : (n : ℚ) / d = (n / d : ℕ) + ((n % d : ℕ) : ℚ) / d := by
    field_simp
    linarith
  -- the part beyond the quotient that is rounded
  generalize hrest : ((n % d : ℕ) : ℚ) / d = rest at hquotient
  have hnonneg : 0 ≤ rest := hrest ▸ div_nonneg (Nat.cast_nonneg _) hd'.le
  have hlt : rest < 1 := hrest ▸ (div_lt_one₀ hd').mpr hmod
  have htwice : ((2 * (n % d) : ℕ) : ℚ) = 2 * rest * d := by
    rw [← hrest]
    push_cast
    field_simp
  have hbelow : 2 * (n % d) < d ↔ rest < 1 / 2 := by
    rw [← Nat.cast_lt (α := ℚ), htwice]
    constructor <;> intro h <;> nlinarith
  have habove : d < 2 * (n % d) ↔ 1 / 2 < rest := by
    rw [← Nat.cast_lt (α := ℚ), htwice]
    constructor <;> intro h <;> nlinarith
  rw [hquotient]
  unfold roundToEven
  dsimp only
  split
  next h =>
    have hrest := hbelow.mp h
    exact ⟨by linarith, by linarith, fun heq => by linarith, fun heq => by linarith⟩
  next h =>
    have hrest : 1 / 2 ≤ rest := not_lt.mp fun hlt => h (hbelow.mpr hlt)
    split
    next h' =>
      have hrest' := habove.mp h'
      have hcast : ((n / d + 1 : ℕ) : ℚ) = (n / d : ℕ) + 1 := Nat.cast_succ _
      exact ⟨by linarith, by linarith, fun heq => by linarith, fun heq => by linarith⟩
    next h' =>
      -- half-way
      have hhalf : rest = 1 / 2 := le_antisymm (not_lt.mp fun hlt => h' (habove.mpr hlt)) hrest
      split
      next heven => exact ⟨by linarith, by linarith, fun _ => heven, fun _ => heven⟩
      next hodd =>
        have heven : (n / d + 1) % 2 = 0 := by omega
        have hcast : ((n / d + 1 : ℕ) : ℚ) = (n / d : ℕ) + 1 := Nat.cast_succ _
        exact ⟨by linarith, by linarith, fun _ => heven, fun _ => heven⟩

/-! ## Rounding -/

/-- A positive number has the grid `2 ^ e`, and `m` steps on it are nearest to the number. -/
structure Rounds (x : ℚ) (m : Nat) (e : Int) : Prop where
  grid : OnGrid x e
  nearest : IsNearest (x / 2 ^ e) m

namespace Rounds

variable {x : ℚ} {m k : Nat} {e f : Int}

theorem unique (hm : Rounds x m e) (hk : Rounds x k f) : m = k ∧ e = f := by
  obtain rfl := hm.grid.unique hk.grid
  exact ⟨hm.nearest.unique hk.nearest, rfl⟩

/-- Rounding up leads at most to the next power of two. -/
theorem le_pow (h : Rounds x m e) : m ≤ 2 ^ 53 := by
  have hlt : x / 2 ^ e < 2 ^ 53 := by
    rw [div_lt_iff₀ (two_zpow_pos e)]
    calc x < 2 ^ (e + 53) := h.grid.below
      _ = 2 ^ 53 * 2 ^ e := by rw [two_zpow_add, mul_comm]; rfl
  by_contra hgt
  have hcast : ((2 ^ 53 : ℕ) : ℚ) + 1 ≤ m := by exact_mod_cast Nat.lt_of_not_le hgt
  push_cast at hcast
  linarith [h.nearest.low]

/-- A mantissa with fewer bits is on the least grid. -/
theorem pow_le (h : Rounds x m e) (he : e ≠ -1074) : 2 ^ 52 ≤ m := by
  refine (h.nearest.le_iff (by decide)).mpr ?_
  have hle : (2 : ℚ) ^ 52 ≤ x / 2 ^ e := by
    rw [le_div_iff₀ (two_zpow_pos e)]
    calc (2 : ℚ) ^ 52 * 2 ^ e = 2 ^ (e + 52) := by rw [two_zpow_add, mul_comm]; rfl
      _ ≤ x := h.grid.above.resolve_left he
  push_cast
  linarith

/-- The error is at most half a step. -/
theorem error (h : Rounds x m e) : (m : ℚ) * 2 ^ e - 2 ^ e / 2 ≤ x ∧ x ≤ m * 2 ^ e + 2 ^ e / 2 := by
  have hpos := two_zpow_pos e
  have hlow := (le_div_iff₀ hpos).mp h.nearest.low
  have hhigh := (div_le_iff₀ hpos).mp h.nearest.high
  constructor <;> linarith

end Rounds

/-- What is on its grid is nearest to itself. -/
theorem rounds_of_canonical {m : Nat} {e : Int} (h : Canonical m e) : Rounds ((m : ℚ) * 2 ^ e) m e := by
  obtain ⟨hm, hleast, -, hnormal⟩ := h
  have hpos := two_zpow_pos e
  have hmlt : (m : ℚ) < 2 ^ 53 := by exact_mod_cast hm
  refine ⟨⟨hleast, ?_, hnormal.imp_right fun hle => ?_⟩, ?_⟩
  · calc (m : ℚ) * 2 ^ e < 2 ^ 53 * 2 ^ e := mul_lt_mul_of_pos_right hmlt hpos
      _ = 2 ^ (e + 53) := by rw [two_zpow_add, mul_comm]; rfl
  · have hle' : (2 : ℚ) ^ 52 ≤ m := by exact_mod_cast hle
    calc (2 : ℚ) ^ (e + 52) = 2 ^ 52 * 2 ^ e := by rw [two_zpow_add, mul_comm]; rfl
      _ ≤ m * 2 ^ e := mul_le_mul_of_nonneg_right hle' hpos.le
  · rw [mul_div_assoc, div_self hpos.ne', mul_one]
    exact isNearest_self m

/-- A rounded mantissa that has reached the next power of two is halved. -/
def ofRounded (negative : Bool) (m : Nat) (e : Int) : Double :=
  if m = 2 ^ 53 then ofScaled negative (2 ^ 52) (e + 1) else ofScaled negative m e

theorem exists_ofRatio (negative : Bool) {n d : Nat} (hn : n ≠ 0) (hd : 0 < d) :
    ∃ m e, Rounds ((n : ℚ) / d) m e ∧ ofRatio negative n d = ofRounded negative m e := by
  have hgrid := onGrid_gridExponent hn hd
  have hd' : (d : ℚ) ≠ 0 := by exact_mod_cast Nat.ne_of_gt hd
  unfold ofRatio
  simp only [if_neg hn]
  generalize gridExponent n d = e at hgrid ⊢
  refine ⟨_, e, ⟨hgrid, ?_⟩, rfl⟩
  split
  next h =>
    have hscaled : 0 < d <<< e.toNat := by
      rw [Nat.shiftLeft_eq]
      exact Nat.mul_pos hd (Nat.two_pow_pos _)
    have hvalue : (n : ℚ) / d / 2 ^ e = (n : ℚ) / (d <<< e.toNat : ℕ) := by
      rw [two_zpow_of_nonneg h, Nat.shiftLeft_eq, div_div, ← Nat.cast_mul]
    rw [hvalue]
    exact isNearest_roundToEven n hscaled
  next h =>
    have hvalue : (n : ℚ) / d / 2 ^ e = ((n <<< (-e).toNat : ℕ) : ℚ) / d := by
      rw [two_zpow_of_neg h, Nat.shiftLeft_eq, div_inv_eq_mul, Nat.cast_mul, div_mul_eq_mul_div]
    rw [hvalue]
    exact isNearest_roundToEven _ hd

/-- **A quotient is rounded to the nearest number of its grid.** -/
theorem ofRatio_of_rounds (negative : Bool) {n d : Nat} (hn : n ≠ 0) (hd : 0 < d) {m : Nat} {e : Int}
    (h : Rounds ((n : ℚ) / d) m e) : ofRatio negative n d = ofRounded negative m e := by
  obtain ⟨k, f, hrounds, heq⟩ := exists_ofRatio negative hn hd
  obtain ⟨rfl, rfl⟩ := h.unique hrounds
  exact heq

/-- **Equal quotients are rounded alike.** -/
theorem ofRatio_congr (negative : Bool) {n d k c : Nat} (hd : 0 < d) (hc : 0 < c) (h : n * c = k * d) :
    ofRatio negative n d = ofRatio negative k c := by
  by_cases hn : n = 0
  · subst hn
    have hk : k = 0 := by
      rw [Nat.zero_mul] at h
      exact (Nat.mul_eq_zero.mp h.symm).resolve_right (Nat.ne_of_gt hd)
    rw [hk]
    rfl
  · have hk : k ≠ 0 := by
      rintro rfl
      rw [Nat.zero_mul] at h
      exact hn ((Nat.mul_eq_zero.mp h).resolve_right (Nat.ne_of_gt hc))
    have hd' : (d : ℚ) ≠ 0 := by exact_mod_cast Nat.ne_of_gt hd
    have hc' : (c : ℚ) ≠ 0 := by exact_mod_cast Nat.ne_of_gt hc
    have hvalue : (n : ℚ) / d = (k : ℚ) / c := by
      rw [div_eq_div_iff hd' hc']
      exact_mod_cast h
    obtain ⟨m, e, hrounds, heq⟩ := exists_ofRatio negative hn hd
    rw [heq, ofRatio_of_rounds negative hk hc (hvalue ▸ hrounds)]

/-- **A number is its own nearest number.** -/
theorem ofRatio_of_canonical (negative : Bool) {n d m : Nat} {e : Int} (hn : n ≠ 0) (hd : 0 < d)
    (hcanonical : Canonical m e) (h : (n : ℚ) / d = m * 2 ^ e) :
    ofRatio negative n d = .finite negative m e hcanonical := by
  have hm : m ≠ 2 ^ 53 := Nat.ne_of_lt hcanonical.1
  rw [ofRatio_of_rounds negative hn hd (h ▸ rounds_of_canonical hcanonical), ofRounded, if_neg hm, ofScaled,
    dif_pos hcanonical]

/-! ## Range -/

/-- Within the range a rounded number is the number of its mantissa and exponent. -/
theorem ofRounded_of_rounds (negative : Bool) {x : ℚ} {m : Nat} {e : Int} (h : Rounds x m e) (he : e ≤ 970) :
    ∃ k f, ∃ hcanonical : Canonical k f,
      ofRounded negative m e = .finite negative k f hcanonical ∧ (k : ℚ) * 2 ^ f = m * 2 ^ e := by
  have hleast := h.grid.least
  unfold ofRounded
  split
  next hm =>
    have hcanonical : Canonical (2 ^ 52) (e + 1) := ⟨by decide, by omega, by omega, .inr (by decide)⟩
    refine ⟨_, _, hcanonical, dif_pos hcanonical, ?_⟩
    rw [two_zpow_add, hm]
    push_cast
    ring
  next hm =>
    have hlt : m < 2 ^ 53 := lt_of_le_of_ne h.le_pow hm
    have hcanonical : Canonical m e := ⟨hlt, hleast, by omega, (em _).imp_right h.pow_le⟩
    exact ⟨_, _, hcanonical, dif_pos hcanonical, rfl⟩

/-- The exact product of a mantissa and a power of two is a quotient. -/
theorem ofDyadic_eq (negative : Bool) (m : Nat) (e : Int) :
    ∃ n d : Nat, 0 < d ∧ (n : ℚ) / d = m * 2 ^ e ∧ ofDyadic negative m e = ofRatio negative n d := by
  unfold ofDyadic
  split
  next h =>
    refine ⟨_, 1, Nat.one_pos, ?_, rfl⟩
    rw [two_zpow_of_nonneg h, Nat.shiftLeft_eq, Nat.cast_one, div_one, Nat.cast_mul]
  next h =>
    refine ⟨m, _, ?_, ?_, rfl⟩
    · rw [Nat.shiftLeft_eq, Nat.one_mul]
      exact Nat.two_pow_pos _
    · rw [two_zpow_of_neg h, Nat.shiftLeft_eq, Nat.one_mul, div_eq_mul_inv]

end PromptGraph.Double
