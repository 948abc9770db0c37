import PromptGraph.Proofs.Json.Numbers

/-!
# `Proofs.Number.Integers` — integers as texts

An integer is written in decimal digits, with a minus sign before them where it is negative, and no two integers are
written alike.

## Contents
- `integer_eq_toString`.
- `not_mem_integer`: the characters of a written integer; `integer_injective`.
-/

namespace PromptGraph

open Decimal

theorem toList_integer (n : Int) :
    (NumberLayout.integer n).toList = (if n < 0 then ['-'] else []) ++ digitChars n.natAbs := by
  by_cases hn : n < 0 <;> simp [NumberLayout.integer, hn]

theorem toList_integer_natCast (n : Nat) : (NumberLayout.integer n).toList = digitChars n := by
  simp [toList_integer]

theorem toList_integer_of_neg {n : Int} (h : n < 0) :
    (NumberLayout.integer n).toList = '-' :: digitChars n.natAbs := by
  simp [toList_integer, h]

/-- An integer is written as usual. -/
theorem integer_eq_toString (n : Int) : NumberLayout.integer n = toString n := by
  apply String.toList_injective
  rw [Int.toString_eq_repr, Int.repr_eq_if]
  by_cases hn : 0 ≤ n
  · obtain ⟨m, rfl⟩ := Int.eq_ofNat_of_zero_le hn
    simp [toList_integer_natCast, digitChars, Nat.repr_eq_ofList_toDigits]
  · have habs : n.natAbs = (-n).toNat := by omega
    simp [toList_integer_of_neg (not_le.mp hn), hn, habs, digitChars, Nat.repr_eq_ofList_toDigits]

theorem isDigit_of_mem_digitChars {c : Char} {n : Nat} (h : c ∈ digitChars n) : c.isDigit = true :=
  Nat.isDigit_of_mem_toDigits (by decide) (by decide) h

/-- A written integer has a minus sign and digits, and no other characters. -/
theorem not_mem_integer {c : Char} (hminus : c ≠ '-') (hdigit : c.isDigit = false) (n : Int) :
    c ∉ (NumberLayout.integer n).toList := by
  have hdigits : c ∉ digitChars n.natAbs := by
    intro hmem
    simp [isDigit_of_mem_digitChars hmem] at hdigit
  rw [toList_integer]
  split <;> simp [hminus, hdigits]

theorem digitChars_injective : Function.Injective digitChars := by
  intro m n h
  rw [← Json.asciiNat_digitChars m, h, Json.asciiNat_digitChars]

/-- **No two integers are written alike.** -/
theorem integer_injective : Function.Injective NumberLayout.integer := by
  -- a sign tells the integers below zero from the others
  have hsign : ∀ {k m : Nat}, '-' :: digitChars k ≠ digitChars m := by
    intro k m h
    have hminus : '-' ∈ digitChars m := h ▸ List.mem_cons_self
    exact absurd (isDigit_of_mem_digitChars hminus) (by decide)
  intro m n h
  have hlists := congrArg String.toList h
  rw [toList_integer, toList_integer] at hlists
  by_cases hm : m < 0 <;> by_cases hn : n < 0
  · simp only [hm, hn, if_true, List.append_right_inj] at hlists
    have habs := digitChars_injective hlists
    omega
  · simp [hm, hn, hsign] at hlists
  · simp [hm, hn, hsign.symm] at hlists
  · simp only [hm, hn, if_false, List.append_right_inj] at hlists
    have habs := digitChars_injective hlists
    omega

end PromptGraph
