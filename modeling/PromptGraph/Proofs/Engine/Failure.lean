import Mathlib.Data.List.Forall2
import PromptGraph.Engine.Execution

/-!
# `Proofs.Engine.Failure` — which executions have failed

An execution has failed if it carries an error, or if its status spells one of three words in small letters and
capitals. The lower-case map does not lead to a letter of these words from anything but that letter and its capital.

## Contents
- **Letters.** `toNat_toUpper`, `lowerChar_eq_iff`.
- **Words.** `Text.Spells`, `lower_eq_iff_spells`.
- **Executions.** `EngineExecution.failed_iff`.
-/

namespace PromptGraph

namespace Text

/-! ## Letters -/

/-- A small letter. -/
def IsSmall (l : Char) : Prop := 'a' ≤ l ∧ l ≤ 'z'

instance (l : Char) : Decidable (IsSmall l) := inferInstanceAs (Decidable ('a' ≤ l ∧ l ≤ 'z'))

theorem toNat_toUpper {l : Char} (hl : IsSmall l) : l.toUpper.toNat + 32 = l.toNat := by
  have hlow : 97 ≤ l.toNat := hl.1
  have hhigh : l.toNat ≤ 122 := hl.2
  have hupper : l.toUpper.val = l.val + ('A'.val - 'a'.val) := by
    unfold Char.toUpper
    rw [dif_pos ⟨hl.1, hl.2⟩]
  have hvalue : l.toUpper.toNat = (l.toNat + 4294967264) % 4294967296 := by
    show l.toUpper.val.toNat = _
    rw [hupper, UInt32.toNat_add]
    rfl
  omega

/-- A character has a small letter other than `k` as its lower-case form if it is that letter or its capital. -/
theorem lowerChar_eq_iff {c l : Char} (hl : IsSmall l) (hk : l ≠ 'k') : lowerChar c = l ↔ c = l ∨ c = l.toUpper := by
  have hlow : 97 ≤ l.toNat := hl.1
  have hhigh : l.toNat ≤ 122 := hl.2
  have hupper := toNat_toUpper hl
  have hsame : ∀ d : Char, c = d ↔ c.toNat = d.toNat := fun d => Char.toNat_inj.symm
  unfold lowerChar
  by_cases hcapital : 'A' ≤ c ∧ c ≤ 'Z'
  · have hfrom : 65 ≤ c.toNat := hcapital.1
    have hto : c.toNat ≤ 90 := hcapital.2
    have hsmall : (Char.ofNat (c.toNat + 32)).toNat = c.toNat + 32 := by
      have hvalid : (c.toNat + 32).isValidChar := Or.inl (by omega)
      rw [Char.ofNat, dif_pos hvalid]
      rfl
    rw [if_pos hcapital, ← Char.toNat_inj, hsmall, hsame, hsame]
    omega
  · have hnot : ¬ (65 ≤ c.toNat ∧ c.toNat ≤ 90) := hcapital
    rw [if_neg hcapital]
    by_cases hkelvin : c.toNat = 0x212A
    · -- the Kelvin sign leads to `k` alone
      rw [if_pos hkelvin, hsame, hsame]
      constructor
      · intro h
        exact absurd h.symm hk
      · intro h
        omega
    · rw [if_neg hkelvin, hsame, hsame]
      omega

/-! ## Words -/

/-- A text spells a word: letter by letter it has the letter of the word, or its capital. -/
def Spells (text word : String) : Prop := List.Forall₂ (fun c l => c = l ∨ c = l.toUpper) text.toList word.toList

theorem map_lowerChar_eq_iff {cs ls : List Char} (hls : ∀ l ∈ ls, IsSmall l ∧ l ≠ 'k') :
    cs.map lowerChar = ls ↔ List.Forall₂ (fun c l => c = l ∨ c = l.toUpper) cs ls := by
  induction ls generalizing cs with
  | nil => simp
  | cons l rest ih =>
      obtain ⟨⟨hsmall, hk⟩, hrest⟩ := List.forall_mem_cons.mp hls
      cases cs with
      | nil => simp
      | cons c more => rw [List.map_cons, List.cons.injEq, List.forall₂_cons, lowerChar_eq_iff hsmall hk, ih hrest]

theorem lower_eq_iff_spells {text word : String} (hword : ∀ l ∈ word.toList, IsSmall l ∧ l ≠ 'k') :
    lower text = word ↔ Spells text word := by
  have htext : lower text = word ↔ text.toList.map lowerChar = word.toList := by
    rw [lower, ← String.toList_inj, String.toList_ofList]
  rw [htext, map_lowerChar_eq_iff hword]
  rfl

end Text

/-! ## Executions -/

namespace EngineExecution

/-- The status of an execution tells of its failure, in letters of any case. -/
def TellsFailure (e : EngineExecution) : Prop :=
  ∃ status word, e.status = some status ∧ word ∈ failedStates ∧ Text.Spells status word

theorem letters_of_failedStates : ∀ word ∈ failedStates, ∀ l ∈ word.toList, Text.IsSmall l ∧ l ≠ 'k' := by
  have hall : failedStates.all (fun word => word.toList.all fun l => decide (Text.IsSmall l ∧ l ≠ 'k')) = true := by
    decide
  intro word hword l hl
  have hletters := List.all_eq_true.mp hall word hword
  exact of_decide_eq_true (List.all_eq_true.mp hletters l hl)

/-- **An execution has failed if it carries an error, or if its status tells of its failure.** -/
theorem failed_iff (e : EngineExecution) : e.failed = true ↔ e.error ≠ none ∨ e.TellsFailure := by
  unfold failed TellsFailure
  rw [Bool.or_eq_true, List.contains_iff_mem, Option.isSome_iff_ne_none]
  apply or_congr Iff.rfl
  constructor
  · intro hmem
    cases hstatus : e.status with
    | none =>
        rw [hstatus] at hmem
        exact absurd hmem (by decide)
    | some status =>
        rw [hstatus] at hmem
        exact ⟨status, _, rfl, hmem, (Text.lower_eq_iff_spells (letters_of_failedStates _ hmem)).mp rfl⟩
  · rintro ⟨status, word, hstatus, hword, hspells⟩
    have hlower := (Text.lower_eq_iff_spells (letters_of_failedStates word hword)).mpr hspells
    rw [hstatus]
    show Text.lower status ∈ failedStates
    rw [hlower]
    exact hword

end EngineExecution

end PromptGraph
