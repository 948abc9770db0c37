import Mathlib.Algebra.Group.Nat.Even
import PromptGraph.Number.Double

/-!
# `Proofs.Number.Range` — which integers have a nearest binary64 number

An integer is rounded to 53 bits. Rounding may carry it to the next power of two, so the integers without a nearest
number do not begin at `2 ^ 1024` but half a unit in the last place below it: the tie goes to the even neighbour, which
is beyond the largest number.

## Contents
- **Rounding.** `le_roundToEven_iff`: when a quotient is rounded to an even number or beyond.
- **Grids.** `gridExponent_one`, `ofRatio_one`: an integer has a mantissa of 53 bits.
- **Range.** `Double.bound`, `ofInt?_eq_none_iff`, `ofInt?_isSome_iff`.
-/

namespace PromptGraph.Double

/-! ## Rounding -/

theorem roundToEven_cases (n d : Nat) : roundToEven n d = n / d ∨ roundToEven n d = n / d + 1 := by
  unfold roundToEven
  dsimp only
  split
  · exact Or.inl rfl
  · split
    · exact Or.inr rfl
    · split
      · exact Or.inl rfl
      · exact Or.inr rfl

/-- **A quotient is rounded to an even number or beyond exactly when it is at most half a unit below it.** -/
theorem le_roundToEven_iff {n d k : Nat} (hd : 0 < d) (hk : k % 2 = 0) :
    k ≤ roundToEven n d ↔ 2 * k * d ≤ 2 * n + d := by
  have hdiv : d * (n / d) + n % d = n := Nat.div_add_mod n d
  have hmod : n % d < d := Nat.mod_lt n hd
  rcases Nat.lt_trichotomy k (n / d + 1) with hlt | heq | hgt
  · -- the quotient is not below `k`
    have hround : k ≤ roundToEven n d := by
      rcases roundToEven_cases n d with h | h <;> omega
    have hmul : d * k ≤ d * (n / d) := Nat.mul_le_mul_left d (by omega)
    have hcomm : 2 * k * d = 2 * (d * k) := by rw [Nat.mul_assoc, Nat.mul_comm k d]
    exact ⟨fun _ => by omega, fun _ => hround⟩
  · -- `k` is the upper neighbour, and the lower one is odd
    have hodd : ¬ n / d % 2 = 0 := by omega
    have hcomm : 2 * k * d = 2 * (d * (n / d)) + 2 * d := by
      rw [heq, Nat.mul_assoc, Nat.add_mul, Nat.one_mul, Nat.mul_comm (n / d) d]
      omega
    unfold roundToEven
    dsimp only
    split
    · omega
    · split
      · omega
      · omega
  · -- `k` is beyond both neighbours
    have hround : ¬ k ≤ roundToEven n d := by
      rcases roundToEven_cases n d with h | h <;> omega
    have hmul : d * (n / d + 2) ≤ d * k := Nat.mul_le_mul_left d (by omega)
    have hcomm : 2 * k * d = 2 * (d * k) := by rw [Nat.mul_assoc, Nat.mul_comm k d]
    rw [Nat.mul_add] at hmul
    exact ⟨fun h => absurd h hround, fun h => by omega⟩

/-! ## Grids -/

theorem gridExponent_one {n : Nat} (hn : n ≠ 0) : gridExponent n 1 = (n.log2 : Int) - 52 := by
  have hlow : 2 ^ n.log2 ≤ n := Nat.log2_self_le hn
  have hguess : ((n.log2 : Int) - (Nat.log2 1 : Int) - 52) = (n.log2 : Int) - 52 := by
    have hone : Nat.log2 1 = 0 := by decide
    rw [hone]
    omega
  unfold gridExponent
  dsimp only
  rw [hguess]
  have hfine : (if 0 ≤ (n.log2 : Int) - 52 then decide (n < (1 <<< ((n.log2 : Int) - 52).toNat) <<< 52)
      else decide (n <<< (-((n.log2 : Int) - 52)).toNat < 1 <<< 52)) = false := by
    split
    · rename_i hle
      have hsum : ((n.log2 : Int) - 52).toNat + 52 = n.log2 := by omega
      rw [decide_eq_false_iff_not, Nat.shiftLeft_eq, Nat.shiftLeft_eq, Nat.one_mul, ← Nat.pow_add, hsum]
      omega
    · rename_i hlt
      have hsum : n.log2 + (-((n.log2 : Int) - 52)).toNat = 52 := by omega
      rw [decide_eq_false_iff_not, Nat.shiftLeft_eq, Nat.shiftLeft_eq, Nat.one_mul, Nat.not_lt, ← hsum, Nat.pow_add]
      exact Nat.mul_le_mul_right _ hlow
  rw [hfine]
  simp only [Bool.false_eq_true, if_false]
  omega

/-- **An integer keeps a mantissa of 53 bits**, and the mantissa of one that rounds up to the next power of two is
    halved. -/
theorem ofRatio_one (negative : Bool) {n : Nat} (hn : n ≠ 0) :
    ∃ m, 2 ^ 52 ≤ m ∧ m ≤ 2 ^ 53 ∧ (52 ≤ n.log2 → m = roundToEven n (2 ^ (n.log2 - 52)))
      ∧ ofRatio negative n 1 =
        if m = 2 ^ 53 then ofScaled negative (2 ^ 52) ((n.log2 : Int) - 51) else ofScaled negative m (n.log2 - 52) := by
  have hlow : 2 ^ n.log2 ≤ n := Nat.log2_self_le hn
  have hhigh : n < 2 ^ (n.log2 + 1) := Nat.lt_log2_self
  have hnext : (n.log2 : Int) - 52 + 1 = n.log2 - 51 := by omega
  by_cases hle : 52 ≤ n.log2
  · have hlow' : 2 ^ 52 * 2 ^ (n.log2 - 52) ≤ n := by
      rw [← Nat.pow_add, Nat.add_sub_cancel' hle]
      exact hlow
    have hhigh' : n < 2 ^ 53 * 2 ^ (n.log2 - 52) := by
      rw [← Nat.pow_add, show 53 + (n.log2 - 52) = n.log2 + 1 by omega]
      exact hhigh
    have hpos : 0 < 2 ^ (n.log2 - 52) := Nat.two_pow_pos _
    have hleast : 2 ^ 52 ≤ n / 2 ^ (n.log2 - 52) := (Nat.le_div_iff_mul_le hpos).2 hlow'
    have hmost : n / 2 ^ (n.log2 - 52) < 2 ^ 53 := (Nat.div_lt_iff_lt_mul hpos).2 hhigh'
    have hround := roundToEven_cases n (2 ^ (n.log2 - 52))
    refine ⟨roundToEven n (2 ^ (n.log2 - 52)), by omega, by omega, fun _ => rfl, ?_⟩
    have hexponent : ((n.log2 : Int) - 52).toNat = n.log2 - 52 := by omega
    unfold ofRatio
    simp only [if_neg hn, gridExponent_one hn, if_pos (show (0 : Int) ≤ (n.log2 : Int) - 52 by omega), hexponent,
      Nat.shiftLeft_eq, Nat.one_mul, hnext]
    rfl
  · have hexponent : (-((n.log2 : Int) - 52)).toNat = 52 - n.log2 := by omega
    have hlow' : 2 ^ 52 ≤ n * 2 ^ (52 - n.log2) := by
      calc 2 ^ 52 = 2 ^ n.log2 * 2 ^ (52 - n.log2) := by rw [← Nat.pow_add, Nat.add_sub_cancel' (by omega)]
        _ ≤ n * 2 ^ (52 - n.log2) := Nat.mul_le_mul_right _ hlow
    have hhigh' : n * 2 ^ (52 - n.log2) < 2 ^ 53 := by
      calc n * 2 ^ (52 - n.log2) < 2 ^ (n.log2 + 1) * 2 ^ (52 - n.log2) :=
            Nat.mul_lt_mul_of_pos_right hhigh (Nat.two_pow_pos _)
        _ = 2 ^ 53 := by rw [← Nat.pow_add, show n.log2 + 1 + (52 - n.log2) = 53 by omega]
    have hround := roundToEven_cases (n * 2 ^ (52 - n.log2)) 1
    rw [Nat.div_one] at hround
    refine ⟨roundToEven (n * 2 ^ (52 - n.log2)) 1, by omega, by omega, fun h => absurd h hle, ?_⟩
    unfold ofRatio
    simp only [if_neg hn, gridExponent_one hn, if_neg (show ¬ (0 : Int) ≤ (n.log2 : Int) - 52 by omega), hexponent,
      Nat.shiftLeft_eq, hnext]
    rfl

/-! ## Range -/

/-- The least natural number without a nearest binary64 number: it lies half a unit in the last place below
    `2 ^ 1024`. -/
def bound : Nat := 2 ^ 1024 - 2 ^ 970

theorem ofScaled_isFinite (negative : Bool) (m : Nat) (e : Int) :
    (ofScaled negative m e).isFinite = true ↔ Canonical m e := by
  unfold ofScaled
  split
  · rename_i h
    exact ⟨fun _ => h, fun _ => rfl⟩
  · rename_i h
    exact ⟨fun hfinite => (nomatch hfinite), fun hcanonical => absurd hcanonical h⟩

theorem ofInt?_isSome (n : Int) : (ofInt? n).isSome = (ofRatio (n < 0) n.natAbs 1).isFinite := by
  unfold ofInt?
  split
  · rename_i heq
    rw [heq]
    rfl
  · rename_i hother
    cases hratio : ofRatio (n < 0) n.natAbs 1 with
    | finite s m e h => exact absurd hratio (hother s m e h)
    | nan => rfl
    | infinite s => rfl

/-- **An integer has a nearest number exactly when it is closer to zero than the bound.** -/
theorem ofInt?_isSome_iff (n : Int) : (ofInt? n).isSome = true ↔ n.natAbs < bound := by
  rw [ofInt?_isSome]
  generalize hk : n.natAbs = k
  by_cases hzero : k = 0
  · subst hzero
    exact ⟨fun _ => by decide +kernel, fun _ => rfl⟩
  obtain ⟨m, hleast, hmost, hround, heq⟩ := ofRatio_one (decide (n < 0)) hzero
  have hlow : 2 ^ k.log2 ≤ k := Nat.log2_self_le hzero
  have hhigh : k < 2 ^ (k.log2 + 1) := Nat.lt_log2_self
  rw [heq]
  rcases Nat.lt_trichotomy k.log2 1023 with hlt | heq1023 | hgt
  · have hbound : 2 ^ (k.log2 + 1) ≤ bound :=
      Nat.le_trans (Nat.pow_le_pow_right (by decide) (show k.log2 + 1 ≤ 1023 by omega)) (by decide +kernel)
    refine ⟨fun _ => Nat.lt_of_lt_of_le hhigh hbound, fun _ => ?_⟩
    split
    · exact (ofScaled_isFinite ..).2 ⟨by decide, by omega, by omega, Or.inr (by decide)⟩
    · exact (ofScaled_isFinite ..).2 ⟨by omega, by omega, by omega, Or.inr hleast⟩
  · -- the last power of two: what is left is whether the mantissa is carried over
    have hcarry : m = 2 ^ 53 ↔ bound ≤ k := by
      have hunit : k.log2 - 52 = 971 := by omega
      have hm := hround (by omega)
      rw [hunit] at hm
      have hpos : ∀ w : Nat, 0 < 2 ^ w := fun w => Nat.two_pow_pos w
      have hat : 2 ^ 53 ≤ m ↔ 2 * 2 ^ 53 * 2 ^ 971 ≤ 2 * k + 2 ^ 971 := by
        rw [hm]
        exact le_roundToEven_iff (hpos 971) (by decide)
      have hbound : bound + bound + 2 ^ 971 = 2 * 2 ^ 53 * 2 ^ 971 := by decide +kernel
      generalize 2 * 2 ^ 53 * 2 ^ 971 = top at hat hbound
      generalize (2 : Nat) ^ 971 = unit at hat hbound
      omega
    split
    · rename_i hm
      rw [ofScaled_isFinite]
      refine ⟨fun hcanonical => ?_, fun hlt => absurd (hcarry.1 hm) (Nat.not_le.2 hlt)⟩
      have htop := hcanonical.2.2.1
      omega
    · rename_i hm
      rw [ofScaled_isFinite]
      exact ⟨fun _ => Nat.lt_of_not_le fun hle => hm (hcarry.2 hle),
        fun _ => ⟨by omega, by omega, by omega, Or.inr hleast⟩⟩
  · have hbound : bound ≤ 2 ^ k.log2 :=
      Nat.le_trans (by decide +kernel) (Nat.pow_le_pow_right (by decide) (show 1024 ≤ k.log2 by omega))
    refine ⟨fun hfinite => ?_, fun hlt => absurd hlt (Nat.not_lt.2 (Nat.le_trans hbound hlow))⟩
    split at hfinite
    · have htop := ((ofScaled_isFinite ..).1 hfinite).2.2.1
      omega
    · have htop := ((ofScaled_isFinite ..).1 hfinite).2.2.1
      omega

/-- **An integer without a nearest number lies at the bound or beyond.** -/
theorem ofInt?_eq_none_iff (n : Int) : ofInt? n = none ↔ bound ≤ n.natAbs := by
  rw [← Nat.not_lt, ← ofInt?_isSome_iff, ← Option.isNone_iff_eq_none, ← Option.not_isSome]
  cases (ofInt? n).isSome <;> simp

end PromptGraph.Double
