import PromptGraph.Json.Writer
import PromptGraph.Proofs.Number.Shortest

/-!
# `Proofs.Json.Faults` — which values have a text

A value is put into a text number by number, and fails at its first number that has no text. In the words of a message
each level of the value is also counted, so the depth and the numbers together decide there.

## Contents
- **Numbers.** `numbers`: the numbers of a value in the order of its text; `HasLongInteger`.
- **Data texts.** `writeFault?_eq`, by induction on the value: the first number that is not written.
- **Words.** `showFault?_eq_none_iff` and `showFault?_eq_some`, by induction on the value; the same of
  `displayFault?`.
-/

namespace PromptGraph.Json

/-! ## Numbers -/

mutual

/-- The numbers of a value, in the order of its text. -/
def numbers : Json → List Number
  | .num n => [n]
  | .arr xs => numbersOfItems xs
  | .obj ms => numbersOfMembers ms
  | _ => []

def numbersOfItems : List Json → List Number
  | [] => []
  | x :: rest => numbers x ++ numbersOfItems rest

def numbersOfMembers : List (String × Json) → List Number
  | [] => []
  | (_, v) :: rest => numbers v ++ numbersOfMembers rest

end

/-- A list of numbers has an integer of more digits than are written. -/
def AnyLong (ns : List Number) : Prop := ∃ n : Int, .int n ∈ ns ∧ 10 ^ integerDigitLimit ≤ n.natAbs

/-- A value has an integer of more digits than are written. -/
def HasLongInteger (v : Json) : Prop := AnyLong (numbers v)

theorem anyLong_append {ns ms : List Number} : AnyLong (ns ++ ms) ↔ AnyLong ns ∨ AnyLong ms := by
  simp only [AnyLong, List.mem_append, or_and_right, exists_or]

theorem not_anyLong_nil : ¬ AnyLong [] := fun ⟨_, hn, _⟩ => List.not_mem_nil hn

theorem anyLong_int {n : Int} : AnyLong [.int n] ↔ isLongInteger n = true := by
  rw [isLongInteger_iff]
  constructor
  · rintro ⟨m, hm, hlong⟩
    cases List.mem_singleton.mp hm
    exact hlong
  · exact fun hlong => ⟨n, List.mem_singleton_self _, hlong⟩

theorem not_anyLong_float {x : Double} : ¬ AnyLong [.float x] := by
  rintro ⟨n, hn, -⟩
  cases List.mem_singleton.mp hn

/-! ## Data texts -/

variable {strict : Bool}

mutual

/-- **A value has a data text unless a number in it has none**; the first such number decides. -/
theorem writeFault?_eq : (v : Json) → writeFault? strict v = (numbers v).findSome? (numberFault? strict)
  | .null => rfl
  | .bool _ => rfl
  | .str _ => rfl
  | .num n => by simp [writeFault?, numbers]
  | .arr xs => by rw [writeFault?, numbers, writeFaultOfItems?_eq xs]
  | .obj ms => by rw [writeFault?, numbers, writeFaultOfMembers?_eq ms]

theorem writeFaultOfItems?_eq : (xs : List Json) →
    writeFaultOfItems? strict xs = (numbersOfItems xs).findSome? (numberFault? strict)
  | [] => rfl
  | x :: rest => by
    rw [writeFaultOfItems?, numbersOfItems, List.findSome?_append, writeFault?_eq x, writeFaultOfItems?_eq rest]

theorem writeFaultOfMembers?_eq : (ms : List (String × Json)) →
    writeFaultOfMembers? strict ms = (numbersOfMembers ms).findSome? (numberFault? strict)
  | [] => rfl
  | (_, v) :: rest => by
    rw [writeFaultOfMembers?, numbersOfMembers, List.findSome?_append, writeFault?_eq v, writeFaultOfMembers?_eq rest]

end

/-! ## Words -/

mutual

/-- **A value has words within some levels exactly if it has no more of them and no integer that is too long.** -/
theorem showFault?_eq_none_iff : {levels : Nat} → (v : Json) →
    (showFault? levels v = none ↔ height v ≤ levels ∧ ¬ HasLongInteger v)
  | 0, v => by cases v <;> simp [showFault?, height]
  | levels + 1, .arr xs => by
    rw [showFault?, height, Nat.add_le_add_iff_right]
    exact showFaultOfItems?_eq_none_iff xs
  | levels + 1, .obj ms => by
    rw [showFault?, height, Nat.add_le_add_iff_right]
    exact showFaultOfMembers?_eq_none_iff ms
  | _ + 1, .num (.int n) => by simp [showFault?, height, HasLongInteger, numbers, anyLong_int]
  | _ + 1, .num (.float _) => by simp [showFault?, height, HasLongInteger, numbers, not_anyLong_float]
  | _ + 1, .null => by simp [showFault?, height, HasLongInteger, numbers, not_anyLong_nil]
  | _ + 1, .bool _ => by simp [showFault?, height, HasLongInteger, numbers, not_anyLong_nil]
  | _ + 1, .str _ => by simp [showFault?, height, HasLongInteger, numbers, not_anyLong_nil]

theorem showFaultOfItems?_eq_none_iff : {levels : Nat} → (xs : List Json) →
    (showFaultOfItems? levels xs = none ↔ heightOfItems xs ≤ levels ∧ ¬ AnyLong (numbersOfItems xs))
  | _, [] => by simp [showFaultOfItems?, heightOfItems, numbersOfItems, not_anyLong_nil]
  | _, x :: rest => by
    rw [showFaultOfItems?, Option.or_eq_none_iff, showFault?_eq_none_iff x, showFaultOfItems?_eq_none_iff rest,
      heightOfItems, numbersOfItems, anyLong_append, HasLongInteger, max_le_iff, not_or]
    exact and_and_and_comm

theorem showFaultOfMembers?_eq_none_iff : {levels : Nat} → (ms : List (String × Json)) →
    (showFaultOfMembers? levels ms = none ↔ heightOfMembers ms ≤ levels ∧ ¬ AnyLong (numbersOfMembers ms))
  | _, [] => by simp [showFaultOfMembers?, heightOfMembers, numbersOfMembers, not_anyLong_nil]
  | _, (_, v) :: rest => by
    rw [showFaultOfMembers?, Option.or_eq_none_iff, showFault?_eq_none_iff v, showFaultOfMembers?_eq_none_iff rest,
      heightOfMembers, numbersOfMembers, anyLong_append, HasLongInteger, max_le_iff, not_or]
    exact and_and_and_comm

end

/-- A text always has words of its own. -/
theorem displayFault?_eq_none_iff {levels : Nat} (v : Json) :
    displayFault? levels v = none ↔ (∃ s, v = .str s) ∨ height v ≤ levels ∧ ¬ HasLongInteger v := by
  rw [← showFault?_eq_none_iff]
  cases v <;> simp [displayFault?]

/-- What keeps a value of some height and with some numbers from being put into words. -/
inductive Wordless (levels height : Nat) (ns : List Number) : TextFault → Prop where
  | high (h : levels < height) : Wordless levels height ns .tooDeep
  | long (h : AnyLong ns) : Wordless levels height ns .longInteger

theorem Wordless.mono {levels height height' : Nat} {ns ns' : List Number} {fault : TextFault}
    (hheight : height ≤ height') (hnumbers : AnyLong ns → AnyLong ns') :
    Wordless levels height ns fault → Wordless levels height' ns' fault
  | .high h => .high (h.trans_le hheight)
  | .long h => .long (hnumbers h)

theorem Wordless.succ {levels height : Nat} {ns : List Number} {fault : TextFault} :
    Wordless levels height ns fault → Wordless (levels + 1) (height + 1) ns fault
  | .high h => .high (Nat.add_lt_add_right h 1)
  | .long h => .long h

mutual

/-- A value that has no words has more levels, or an integer that is too long, as the fault says. -/
theorem showFault?_eq_some : {levels : Nat} → (v : Json) → {fault : TextFault} →
    showFault? levels v = some fault → Wordless levels (height v) (numbers v) fault
  | 0, v, fault, h => by
    have hpos : 0 < height v := by cases v <;> simp [height]
    rw [showFault?] at h
    cases h
    exact .high hpos
  | _ + 1, .arr xs, _, h => (showFaultOfItems?_eq_some xs h).succ
  | _ + 1, .obj ms, _, h => (showFaultOfMembers?_eq_some ms h).succ
  | _ + 1, .num (.int n), fault, h => by
    by_cases hlong : isLongInteger n = true
    · rw [showFault?, if_pos hlong] at h
      cases h
      exact .long (anyLong_int.mpr hlong)
    · rw [showFault?, if_neg hlong] at h
      cases h
  | _ + 1, .num (.float _), _, h => nomatch h
  | _ + 1, .null, _, h => nomatch h
  | _ + 1, .bool _, _, h => nomatch h
  | _ + 1, .str _, _, h => nomatch h

theorem showFaultOfItems?_eq_some : {levels : Nat} → (xs : List Json) → {fault : TextFault} →
    showFaultOfItems? levels xs = some fault → Wordless levels (heightOfItems xs) (numbersOfItems xs) fault
  | _, [], _, h => nomatch h
  | _, x :: rest, _, h => by
    rcases Option.or_eq_some_iff.mp h with hfirst | ⟨-, hmore⟩
    · exact (showFault?_eq_some x hfirst).mono (le_max_left _ _) fun hlong => anyLong_append.mpr (.inl hlong)
    · exact (showFaultOfItems?_eq_some rest hmore).mono (le_max_right _ _) fun hlong => anyLong_append.mpr (.inr hlong)

theorem showFaultOfMembers?_eq_some : {levels : Nat} → (ms : List (String × Json)) → {fault : TextFault} →
    showFaultOfMembers? levels ms = some fault → Wordless levels (heightOfMembers ms) (numbersOfMembers ms) fault
  | _, [], _, h => nomatch h
  | _, (_, v) :: rest, _, h => by
    rcases Option.or_eq_some_iff.mp h with hfirst | ⟨-, hmore⟩
    · exact (showFault?_eq_some v hfirst).mono (le_max_left _ _) fun hlong => anyLong_append.mpr (.inl hlong)
    · exact (showFaultOfMembers?_eq_some rest hmore).mono (le_max_right _ _)
        fun hlong => anyLong_append.mpr (.inr hlong)

end

theorem displayFault?_eq_some {levels : Nat} {v : Json} {fault : TextFault} (h : displayFault? levels v = some fault) :
    Wordless levels (height v) (numbers v) fault := by
  cases v with
  | str s => cases h
  | _ => exact showFault?_eq_some _ h

end PromptGraph.Json
