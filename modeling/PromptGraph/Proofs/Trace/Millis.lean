import PromptGraph.Proofs.Number.Whole
import PromptGraph.Trace.Metrics

/-!
# `Proofs.Trace.Millis` — elapsed milliseconds by way of seconds

The microseconds of a span are divided by a million, the quotient is rounded, a thousand times the rounded seconds are
rounded again, and the whole part is taken. A whole number of milliseconds is kept by this where the first rounding goes
up, or goes down by less than the second one makes good; otherwise the last millisecond is lost.

## Contents
- **Reach.** `Attains`: the rounded seconds of a span reach a number of milliseconds; `le_elapsedMillis_iff`,
  `elapsedMillis_nonpos`.
- **Steps.** `attains_of_le`, `not_attains_of_lt`: decided by the error of the seconds; `elapsedMillis_near`,
  `elapsedMillis_eq_iff`.
- **Whole milliseconds.** `FallsShort`; `attains_whole_iff` from one lemma for each of the two grids;
  `elapsedMillis_whole`.
- **Parts of milliseconds.** `elapsedMillis_part`.
-/

namespace PromptGraph

open Double

/-! ## Reach -/

/-- The seconds nearest to a span of microseconds, times a thousand, are rounded to a number of milliseconds or beyond
    it. -/
def Attains (micros millis : Nat) : Prop :=
  ∃ m e, Rounds ((micros : ℚ) / 1000000) m e ∧ reach millis ≤ 1000 * (m * 2 ^ e)

theorem attains_iff {micros millis m : Nat} {e : Int} (h : Rounds ((micros : ℚ) / 1000000) m e) :
    Attains micros millis ↔ reach millis ≤ 1000 * (m * 2 ^ e) := by
  refine ⟨fun ⟨k, f, hrounds, hreach⟩ => ?_, fun hreach => ⟨m, e, h, hreach⟩⟩
  obtain ⟨rfl, rfl⟩ := h.unique hrounds
  exact hreach

/-- The seconds of a span are rounded. -/
theorem exists_seconds {micros : Nat} (hpos : micros ≠ 0) :
    ∃ m e, Rounds ((micros : ℚ) / 1000000) m e ∧ ofRatio false micros 1000000 = ofRounded false m e :=
  exists_ofRatio (d := 1000000) false hpos (by decide)

/-- A span of a microsecond or more has a mantissa of 53 bits. -/
theorem seconds_bounds {micros : Nat} (hpos : micros ≠ 0) (hlt : micros < 2 ^ 60) {e : Int}
    (h : OnGrid ((micros : ℚ) / 1000000) e) : -74 < e ∧ e ≤ -12 := by
  have hone : (1 : ℚ) ≤ micros := by exact_mod_cast Nat.one_le_iff_ne_zero.mpr hpos
  have hupper : (micros : ℚ) < 2 ^ 60 := by exact_mod_cast hlt
  constructor
  · have hbelow : (2 : ℚ) ^ (-20 : Int) < 2 ^ (e + 53) := by
      refine lt_of_le_of_lt ?_ h.below
      rw [le_div_iff₀ (by norm_num)]
      norm_num
      linarith
    have hexponents := two_zpow_lt_iff.mp hbelow
    omega
  · refine h.le (by decide) ?_
    rw [div_lt_iff₀ (by norm_num)]
    norm_num
    linarith

/-- **A span lasts a number of milliseconds exactly when it attains it.** -/
theorem le_elapsedMillis_iff {micros : Nat} (hpos : micros ≠ 0) (hlt : micros < 2 ^ 60) :
    ∃ t : Nat, elapsedMillis micros = t ∧ ∀ k : Nat, k ≠ 0 → k ≤ 2 ^ 52 → (k ≤ t ↔ Attains micros k) := by
  obtain ⟨m, e, hrounds, hratio⟩ := exists_seconds hpos
  obtain ⟨hlow, hhigh⟩ := seconds_bounds hpos hlt hrounds.grid
  obtain ⟨k, f, hcanonical, hfinite, hsame⟩ := ofRounded_of_rounds false hrounds (show e ≤ 970 by omega)
  have hthousand : Double.ofNat 1000 = .finite false 8796093022208000 (-43) (by decide) := by decide
  have hvalue : ((8796093022208000 : ℕ) : ℚ) * 2 ^ (-43 : Int) = 1000 := by norm_num
  have hstep := two_zpow_pos e
  have hpositive : (0 : ℚ) < m * 2 ^ e := by
    have hm : 2 ^ 52 ≤ m := hrounds.pow_le (by omega)
    have hm' : (0 : ℚ) < m := by exact_mod_cast lt_of_lt_of_le (by decide : 0 < 2 ^ 52) hm
    exact mul_pos hm' hstep
  have hsmall : (m : ℚ) * 2 ^ e ≤ 2 ^ 53 := by
    have hm : (m : ℚ) ≤ 2 ^ 53 := by exact_mod_cast hrounds.le_pow
    have hone : (2 : ℚ) ^ e ≤ 1 := (two_zpow_le (show e ≤ 0 by omega)).trans_eq (zpow_zero 2)
    nlinarith
  obtain ⟨t, htrunc, ht⟩ := le_trunc_mul_iff hcanonical (show Canonical 8796093022208000 (-43) by decide)
    (by rw [hvalue, hsame]; linarith) (by
      rw [hvalue, hsame]
      have hbound : (2 : ℚ) ^ 53 * 1000 < 2 ^ 100 := by norm_num
      linarith)
  refine ⟨t, ?_, fun l hl hl52 => ?_⟩
  · have hquotient : Double.ofQuotient (micros : Int) 1000000 = ofRatio false micros 1000000 := by
      rw [Double.ofQuotient, Int.natAbs_natCast, decide_eq_false (by omega)]
    rw [elapsedMillis, hquotient, hratio, hfinite, hthousand, htrunc]
    rfl
  · rw [ht l hl hl52, hvalue, hsame, attains_iff hrounds, mul_comm (_ * _)]

/-- A span that goes back in time lasts no millisecond. -/
theorem elapsedMillis_nonpos {micros : Int} (h : micros ≤ 0) : elapsedMillis micros ≤ 0 := by
  rcases h.lt_or_eq with hlt | rfl
  · have hnegative : (Double.ofQuotient micros 1000000).isNegative = true := by
      rw [Double.ofQuotient, isNegative_ofRatio]
      exact decide_eq_true hlt
    exact trunc_nonpos (isNegative_mul hnegative (by decide))
  · decide

/-! ## Steps -/

section Steps

variable {micros m : Nat} {e : Int}

/-- The rounded seconds are off by at most half a step, a thousand times that in milliseconds. -/
theorem millis_error (h : Rounds ((micros : ℚ) / 1000000) m e) :
    (micros : ℚ) / 1000 - 500 * 2 ^ e ≤ 1000 * (m * 2 ^ e)
      ∧ (1000 : ℚ) * (m * 2 ^ e) ≤ micros / 1000 + 500 * 2 ^ e := by
  obtain ⟨hlow, hhigh⟩ := h.error
  constructor <;> linarith

theorem attains_of_le (h : Rounds ((micros : ℚ) / 1000000) m e) {k : Nat} (hk : (k : ℚ) + 500 * 2 ^ e ≤ micros / 1000) :
    Attains micros k := by
  have herror := (millis_error h).1
  refine (attains_iff h).mpr ((reach_le k).trans ?_)
  linarith

theorem not_attains_of_lt (h : Rounds ((micros : ℚ) / 1000000) m e) {k c : Nat} (hc : k ≤ 2 ^ c)
    (hk : (micros : ℚ) / 1000 + 500 * 2 ^ e + 2 ^ ((c : Int) - 54) < k) : ¬ Attains micros k := by
  rw [attains_iff h, not_le]
  have herror := (millis_error h).2
  have hreach := le_reach hc
  linarith

end Steps

/-- A span between a number of milliseconds and the next. -/
theorem millis_bounds (micros : Nat) :
    ((micros / 1000 : ℕ) : ℚ) ≤ (micros : ℚ) / 1000 ∧ (micros : ℚ) / 1000 < (micros / 1000 : ℕ) + 1 := by
  have hlow : 1000 * (micros / 1000) ≤ micros := Nat.mul_div_le micros 1000
  have hhigh : micros < 1000 * (micros / 1000 + 1) := by omega
  constructor
  · rw [le_div_iff₀ (by norm_num), mul_comm]
    exact_mod_cast hlow
  · rw [div_lt_iff₀ (by norm_num), mul_comm]
    exact_mod_cast hhigh

/-- **A span is reported with an error of at most a millisecond.** -/
theorem elapsedMillis_near {micros : Nat} (hpos : micros ≠ 0) (hlt : micros < 2 ^ 60) :
    ∃ t : Nat, elapsedMillis micros = t ∧ micros / 1000 ≤ t + 1 ∧ t ≤ micros / 1000 + 1 := by
  obtain ⟨t, helapsed, ht⟩ := le_elapsedMillis_iff hpos hlt
  refine ⟨t, helapsed, ?_⟩
  obtain ⟨m, e, hrounds, -⟩ := exists_seconds hpos
  have hstep : (2 : ℚ) ^ e ≤ 2 ^ (-12 : Int) := two_zpow_le (seconds_bounds hpos hlt hrounds.grid).2
  obtain ⟨hlow, hhigh⟩ := millis_bounds micros
  have hsmall : micros / 1000 < 2 ^ 51 := by omega
  generalize micros / 1000 = q at *
  norm_num at hstep
  constructor
  · rcases Nat.lt_or_ge 1 q with hq | hq
    · obtain ⟨k, rfl⟩ : ∃ k, q = k + 1 := ⟨q - 1, by omega⟩
      push_cast at hlow
      have hattains : Attains micros k := attains_of_le hrounds (by linarith)
      have hle := (ht k (by omega) (by omega)).mpr hattains
      omega
    · omega
  · have hnot : ¬ Attains micros (q + 2) := by
      refine not_attains_of_lt hrounds (show q + 2 ≤ 2 ^ 52 by omega) ?_
      norm_num
      linarith
    have hgt := (ht (q + 2) (by omega) (by omega)).not.mpr hnot
    omega

/-- **A span is reported exactly if and only if it attains its milliseconds and not the next.** -/
theorem elapsedMillis_eq_iff {micros : Nat} (hpos : micros ≠ 0) (hlt : micros < 2 ^ 60) :
    elapsedMillis micros = (micros / 1000 : ℕ)
      ↔ (micros / 1000 = 0 ∨ Attains micros (micros / 1000)) ∧ ¬ Attains micros (micros / 1000 + 1) := by
  obtain ⟨t, helapsed, ht⟩ := le_elapsedMillis_iff hpos hlt
  have hsmall : micros / 1000 < 2 ^ 51 := by omega
  rw [helapsed, Nat.cast_inj, ← ht _ (Nat.succ_ne_zero _) (by omega)]
  by_cases hq : micros / 1000 = 0
  · have hor : micros / 1000 = 0 ∨ Attains micros (micros / 1000) := .inl hq
    rw [and_iff_right hor]
    omega
  · rw [or_iff_right hq, ← ht _ hq (by omega)]
    omega

/-! ## Whole milliseconds -/

/-- A whole number of milliseconds loses its last one: its seconds have the coarser one of the two grids they may have,
    and are rounded down by 33 to 62 of the 125 parts of a step. -/
def FallsShort (millis : Nat) : Prop :=
  125 * 2 ^ millis.log2 ≤ 64 * millis
    ∧ 33 ≤ millis * 2 ^ (58 - millis.log2) % 125 ∧ millis * 2 ^ (58 - millis.log2) % 125 ≤ 62

instance (millis : Nat) : Decidable (FallsShort millis) := by unfold FallsShort; infer_instance

/-- The grid of the seconds of a whole number of milliseconds. -/
theorem onGrid_whole {millis : Nat} (hpos : millis ≠ 0) :
    OnGrid (((1000 * millis : ℕ) : ℚ) / 1000000)
      (if 125 * 2 ^ millis.log2 ≤ 64 * millis then (millis.log2 : Int) - 61 else millis.log2 - 62) := by
  have hlow := two_pow_log2_le hpos
  have hhigh := lt_two_pow_log2 millis
  have hseconds : ((1000 * millis : ℕ) : ℚ) / 1000000 = millis / 1000 := by
    push_cast
    ring
  generalize millis.log2 = a at hlow hhigh ⊢
  have hstep (b : Int) (c : Int) : (2 : ℚ) ^ (a - b + c) = 2 ^ (a : Int) * 2 ^ (c - b) := by
    rw [← two_zpow_add]
    congr 1
    omega
  have hpower : (2 : ℚ) ^ (a : Int) = ((2 ^ a : ℕ) : ℚ) := by rw [zpow_natCast]; norm_cast
  have hpowerPos := two_zpow_pos a
  rw [two_zpow_add] at hhigh
  rw [hseconds]
  split
  next hcoarse =>
    have hcast : (125 : ℚ) * 2 ^ (a : Int) ≤ 64 * millis := by rw [hpower]; exact_mod_cast hcoarse
    refine ⟨by omega, ?_, .inr ?_⟩
    · rw [hstep]
      norm_num at hhigh ⊢
      linarith
    · rw [hstep]
      norm_num at hcast ⊢
      linarith
  next hfine =>
    have hcast : (64 : ℚ) * millis < 125 * 2 ^ (a : Int) := by rw [hpower]; exact_mod_cast not_le.mp hfine
    refine ⟨by omega, ?_, .inr ?_⟩
    · rw [hstep]
      norm_num at hcast ⊢
      linarith
    · rw [hstep]
      norm_num at hlow ⊢
      linarith

/-- A whole number of milliseconds in the steps of the coarser grid of its seconds. -/
theorem millis_eq_steps {a : Nat} (ha : a ≤ 58) (millis : Nat) :
    (millis : ℚ) = 8 * (millis * 2 ^ (58 - a) : ℕ) * 2 ^ ((a : Int) - 61) := by
  have hinverse : ((2 ^ (58 - a) : ℕ) : ℚ) * 8 * 2 ^ ((a : Int) - 61) = 1 := by
    rw [Nat.cast_pow, Nat.cast_ofNat, ← zpow_natCast, show (8 : ℚ) = 2 ^ (3 : Int) by norm_num, ← two_zpow_add,
      ← two_zpow_add, show ((58 - a : ℕ) : Int) + 3 + ((a : Int) - 61) = 0 by omega, zpow_zero]
  calc (millis : ℚ) = millis * ((2 ^ (58 - a) : ℕ) * 8 * 2 ^ ((a : Int) - 61)) := by rw [hinverse, mul_one]
    _ = 8 * (millis * 2 ^ (58 - a) : ℕ) * 2 ^ ((a : Int) - 61) := by
      rw [Nat.cast_mul]
      ring

theorem nearest_parts {parts m : Nat} (h : IsNearest ((parts : ℚ) / 125) m) :
    250 * m ≤ 2 * parts + 125 ∧ 2 * parts ≤ 250 * m + 125 := by
  have hlow : (250 : ℚ) * m ≤ 2 * parts + 125 := by linarith [h.low]
  have hhigh : (2 : ℚ) * parts ≤ 250 * m + 125 := by linarith [h.high]
  exact ⟨by exact_mod_cast hlow, by exact_mod_cast hhigh⟩

/-- On the coarser grid the parts of a step by which the seconds are rounded down decide. -/
theorem attains_coarse {millis m : Nat} (hlt : millis < 2 ^ 51) (hcoarse : 125 * 2 ^ millis.log2 ≤ 64 * millis)
    (h : Rounds (((1000 * millis : ℕ) : ℚ) / 1000000) m ((millis.log2 : Int) - 61)) :
    Attains (1000 * millis) millis
      ↔ ¬ (33 ≤ millis * 2 ^ (58 - millis.log2) % 125 ∧ millis * 2 ^ (58 - millis.log2) % 125 ≤ 62) := by
  have hhigh : millis < 2 ^ (millis.log2 + 1) := Nat.lt_log2_self
  have hlog : millis.log2 < 51 := (Nat.log2_lt (by omega)).mpr hlt
  rw [attains_iff h, reach_eq (a := millis.log2) (by omega) hhigh.le]
  generalize millis.log2 = a at *
  have hnearest := h.nearest
  have hmillis := millis_eq_steps (a := a) (by omega) millis
  generalize millis * 2 ^ (58 - a) = parts at *
  have hstep := two_zpow_pos ((a : Int) - 61)
  have hquotient : ((1000 * millis : ℕ) : ℚ) / 1000000 / 2 ^ ((a : Int) - 61) = parts / 125 := by
    rw [Nat.cast_mul, hmillis]
    field_simp
    ring
  rw [hquotient] at hnearest
  obtain ⟨hlow, hup⟩ := nearest_parts hnearest
  have hreach : (millis : ℚ) - 2 ^ ((a : Int) - 53) ≤ 1000 * (m * 2 ^ ((a : Int) - 61)) ↔ parts ≤ 125 * m + 32 := by
    have hhalf : (2 : ℚ) ^ ((a : Int) - 53) = 256 * 2 ^ ((a : Int) - 61) := by
      rw [show (a : Int) - 53 = 8 + ((a : Int) - 61) by omega, two_zpow_add]
      norm_num
    rw [hmillis, hhalf, ← mul_assoc, ← sub_mul, mul_le_mul_iff_left₀ hstep, ← Nat.cast_le (α := ℚ)]
    push_cast
    constructor <;> intro hle <;> linarith
  rw [hreach]
  omega

/-- On the finer grid the error is less than half a step of the milliseconds; a power of two is rounded up. -/
theorem attains_fine {millis m : Nat} (hpos : millis ≠ 0)
    (h : Rounds (((1000 * millis : ℕ) : ℚ) / 1000000) m ((millis.log2 : Int) - 62)) :
    Attains (1000 * millis) millis := by
  have hstep := two_zpow_pos ((millis.log2 : Int) - 62)
  rw [attains_iff h]
  rcases (Nat.log2_self_le hpos).eq_or_lt with heq | hlt
  · have hmillis : (millis : ℚ) = 2 ^ (62 : Int) * 2 ^ ((millis.log2 : Int) - 62) := by
      have hcast : (millis : ℚ) = 2 ^ (millis.log2 : Int) := by
        rw [zpow_natCast]
        exact_mod_cast heq.symm
      rw [← two_zpow_add, hcast]
      congr 1
      omega
    norm_num at hmillis
    -- the seconds are 4611686018427387.904 steps
    have hm : 4611686018427388 ≤ m := by
      refine (h.nearest.le_iff (by decide)).mpr ?_
      rw [le_div_iff₀ hstep, Nat.cast_mul, hmillis]
      norm_num
      linarith
    have hrounded : (4611686018427388 : ℚ) * 2 ^ ((millis.log2 : Int) - 62) ≤ m * 2 ^ ((millis.log2 : Int) - 62) :=
      mul_le_mul_of_nonneg_right (by exact_mod_cast hm) hstep.le
    refine (reach_le millis).trans ?_
    linarith
  · have hhalf : (2 : ℚ) ^ ((millis.log2 : Int) - 53) = 512 * 2 ^ ((millis.log2 : Int) - 62) := by
      rw [show (millis.log2 : Int) - 53 = 9 + ((millis.log2 : Int) - 62) by omega, two_zpow_add]
      norm_num
    have herror := (millis_error h).1
    push_cast at herror
    rw [reach_eq hlt Nat.lt_log2_self.le]
    linarith

/-- **A whole number of milliseconds is attained unless it falls short.** -/
theorem attains_whole_iff {millis : Nat} (hpos : millis ≠ 0) (hlt : millis < 2 ^ 51) :
    Attains (1000 * millis) millis ↔ ¬ FallsShort millis := by
  have hmicros : 1000 * millis ≠ 0 := by omega
  obtain ⟨m, e, hrounds, -⟩ := exists_seconds hmicros
  obtain rfl := hrounds.grid.unique (onGrid_whole hpos)
  rw [FallsShort]
  split at hrounds
  next hcoarse => rw [and_iff_right hcoarse, attains_coarse hlt hcoarse hrounds]
  next hfine => exact iff_of_true (attains_fine hpos hrounds) fun h => hfine h.1

/-- A whole number of milliseconds is not rounded up to the next. -/
theorem not_attains_next {millis : Nat} (hpos : millis ≠ 0) (hlt : 1000 * millis < 2 ^ 60) :
    ¬ Attains (1000 * millis) (millis + 1) := by
  have hmicros : 1000 * millis ≠ 0 := by omega
  obtain ⟨m, e, hrounds, -⟩ := exists_seconds hmicros
  have hstep : (2 : ℚ) ^ e ≤ 2 ^ (-12 : Int) := two_zpow_le (seconds_bounds hmicros hlt hrounds.grid).2
  refine not_attains_of_lt hrounds (show millis + 1 ≤ 2 ^ 51 by omega) ?_
  push_cast
  norm_num at hstep ⊢
  linarith

/-- **A whole number of milliseconds is reported as it is, or as one less where it falls short.** -/
theorem elapsedMillis_whole {millis : Nat} (hlt : 1000 * millis < 2 ^ 60) :
    elapsedMillis (1000 * millis : ℕ) = if FallsShort millis then (millis : Int) - 1 else millis := by
  by_cases hpos : millis = 0
  · subst hpos
    decide
  have hmicros : 1000 * millis ≠ 0 := by omega
  obtain ⟨t, helapsed, ht⟩ := le_elapsedMillis_iff hmicros hlt
  obtain ⟨t', helapsed', hnear, -⟩ := elapsedMillis_near hmicros hlt
  obtain rfl : t = t' := Int.ofNat_inj.mp (helapsed.symm.trans helapsed')
  rw [Nat.mul_div_cancel_left _ (by decide)] at hnear
  have hreached := (ht millis hpos (by omega)).trans (attains_whole_iff hpos (by omega))
  have hnext := (ht (millis + 1) (Nat.succ_ne_zero _) (by omega)).not.mpr (not_attains_next hpos hlt)
  rw [helapsed]
  split
  next hshort =>
    have hnot := mt hreached.mp (not_not_intro hshort)
    omega
  next hkept =>
    have hle := hreached.mpr hkept
    omega

/-! ## Parts of milliseconds -/

/-- **A span that is no whole number of milliseconds is reported exactly** for more than two centuries and a half. -/
theorem elapsedMillis_part {micros : Nat} (hpart : micros % 1000 ≠ 0) (hlt : micros < 2 ^ 33 * 1000000) :
    elapsedMillis micros = (micros / 1000 : ℕ) := by
  have hpos : micros ≠ 0 := by rintro rfl; exact hpart rfl
  obtain ⟨m, e, hrounds, -⟩ := exists_seconds hpos
  have hcast : (micros : ℚ) < 2 ^ 33 * 1000000 := by exact_mod_cast hlt
  have hexponent : e ≤ -20 := by
    refine hrounds.grid.le (by decide) ?_
    rw [div_lt_iff₀ (by norm_num)]
    exact hcast
  have hstep : (2 : ℚ) ^ e ≤ 2 ^ (-20 : Int) := two_zpow_le hexponent
  norm_num at hstep
  -- a microsecond or more lies between the span and either whole number of milliseconds
  have hlow : ((micros / 1000 : ℕ) : ℚ) + 1 / 1000 ≤ micros / 1000 := by
    have hle : 1000 * (micros / 1000) + 1 ≤ micros := by omega
    have hle' : (1000 : ℚ) * (micros / 1000 : ℕ) + 1 ≤ micros := by exact_mod_cast hle
    linarith
  have hhigh : (micros : ℚ) / 1000 + 1 / 1000 ≤ (micros / 1000 : ℕ) + 1 := by
    have hle : micros + 1 ≤ 1000 * (micros / 1000 + 1) := by omega
    have hle' : (micros : ℚ) + 1 ≤ 1000 * ((micros / 1000 : ℕ) + 1) := by exact_mod_cast hle
    linarith
  refine (elapsedMillis_eq_iff hpos (by omega)).mpr ⟨.inr (attains_of_le hrounds (by linarith)), ?_⟩
  refine not_attains_of_lt hrounds (show micros / 1000 + 1 ≤ 2 ^ 43 by omega) ?_
  rw [Nat.cast_succ]
  norm_num
  linarith

end PromptGraph
