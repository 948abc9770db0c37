import Mathlib.Data.Nat.Digits.Defs
import PromptGraph.Chain.Reading
import PromptGraph.Proofs.Compile.Ports
import PromptGraph.Proofs.Number.Integers

/-!
# `Proofs.Compile.Handles` — which port a handle selects

A handle that begins with a number selects the port of this number: blanks may stand before its digits, which may be of
any script and have zeros before them, and anything else may follow. Every other handle selects the first port. A number
in the place of a handle is read as its text, so that both select the same port. What is not selected is a port whose
number is spelled with more digits than are read, be they zeros.

## Contents
- **Digits.** `Spells`; `readDigits_of_spells`, `spells_readDigits`, and `spells_digitChars`.
- **Handles.** `BeginsWith`; `handleDigits_of_beginsWith`, `beginsWith_handleDigits`.
- **Ports.** `outputPort_of_spells`, `outputPort_of_not_spells`.
- **Integers.** `HandleAsText`; `handle_selects_port`, and `zeros_select_no_port`.
-/

namespace PromptGraph

open Text
open Decimal (digitChars)

/-! ## Digits -/

/-- Decimal digits, of any scripts, spell a number, the most significant one first. -/
structure Spells (digits : List Char) (n : Nat) : Prop where
  nonempty : digits ≠ []
  value : ∃ values : List Nat, digits.map digitValue? = values.map some ∧ Nat.ofDigits 10 values.reverse = n

theorem foldl_digits {digits : List Char} {values : List Nat} (h : digits.map digitValue? = values.map some) (n : Nat) :
    digits.foldl (fun n c => 10 * n + (digitValue? c).getD 0) n
      = Nat.ofDigits 10 values.reverse + 10 ^ values.length * n := by
  induction digits generalizing values n with
  | nil =>
      obtain rfl : values = [] := by simpa using h.symm
      simp
  | cons c digits ih =>
      cases values with
      | nil => simp at h
      | cons v values =>
          obtain ⟨hc, hrest⟩ := List.cons.inj h
          rw [List.foldl_cons, ih hrest, hc]
          simp only [Option.getD_some, List.reverse_cons, Nat.ofDigits_append, Nat.ofDigits_singleton,
            List.length_reverse, List.length_cons, pow_succ]
          ring

theorem readDigits_eq {digits : List Char} {values : List Nat} (h : digits.map digitValue? = values.map some) :
    readDigits digits = Nat.ofDigits 10 values.reverse := by
  rw [readDigits, foldl_digits h 0, Nat.mul_zero, Nat.add_zero]

/-- **Digits are read as the number that they spell.** -/
theorem readDigits_of_spells {digits : List Char} {n : Nat} (h : Spells digits n) : readDigits digits = n := by
  obtain ⟨values, hvalues, rfl⟩ := h.value
  exact readDigits_eq hvalues

theorem spells_readDigits {digits : List Char} (hne : digits ≠ []) (hdigits : ∀ c ∈ digits, isDigit c = true) :
    Spells digits (readDigits digits) := by
  refine ⟨hne, digits.map fun c => (digitValue? c).getD 0, ?_⟩
  have hvalues : digits.map digitValue? = (digits.map fun c => (digitValue? c).getD 0).map some := by
    rw [List.map_map]
    apply List.map_congr_left
    intro c hc
    obtain ⟨v, hv⟩ := Option.isSome_iff_exists.mp (hdigits c hc)
    simp [hv]
  exact ⟨hvalues, (readDigits_eq hvalues).symm⟩

theorem isDigit_of_mem_spelled {digits : List Char} {n : Nat} (h : Spells digits n) {c : Char} (hc : c ∈ digits) :
    isDigit c = true := by
  obtain ⟨values, hvalues, -⟩ := h.value
  have hmem : digitValue? c ∈ values.map some := hvalues ▸ List.mem_map_of_mem hc
  obtain ⟨v, -, hv⟩ := List.mem_map.mp hmem
  rw [isDigit, ← hv]
  rfl

theorem digitValue?_of_isDigit {c : Char} (h : c.isDigit = true) : digitValue? c = some (c.toNat - 48) := by
  obtain ⟨hlow, hhigh⟩ : 48 ≤ c.toNat ∧ c.toNat ≤ 57 := Char.isDigit_iff_toNat.mp h
  rw [digitValue?, digitZeros, List.find?_cons_of_pos (by simpa using ⟨hlow, Nat.lt_succ_of_le hhigh⟩)]
  rfl

/-- A number is spelled by the digits in which it is written. -/
theorem spells_digitChars (n : Nat) : Spells (digitChars n) n := by
  have hvalue : ∀ c ∈ digitChars n, digitValue? c = some (c.toNat - 48) :=
    fun c hc => digitValue?_of_isDigit (isDigit_of_mem_digitChars hc)
  have hread : readDigits (digitChars n) = n := by
    refine Eq.trans ?_ (Json.asciiNat_digitChars n)
    apply List.foldl_ext
    intro k c hc
    rw [hvalue c hc, Option.getD_some]
  have hdigits : ∀ c ∈ digitChars n, isDigit c = true := by
    intro c hc
    rw [isDigit, hvalue c hc]
    rfl
  have hspells : Spells (digitChars n) (readDigits (digitChars n)) := spells_readDigits Nat.toDigits_ne_nil hdigits
  rwa [hread] at hspells

/-- No digit is blank. -/
theorem isBlank_of_isDigit {c : Char} (h : isDigit c = true) : isBlank c = false := by
  have hscripts : ∀ z ∈ digitZeros, ∀ i < 10, isBlank (Char.ofNat (z + i)) = false := by decide +kernel
  rw [isDigit, digitValue?, Option.isSome_map, List.find?_isSome] at h
  obtain ⟨z, hz, hin⟩ := h
  rw [Bool.and_eq_true, decide_eq_true_eq, decide_eq_true_eq] at hin
  have hcode : z + (c.toNat - z) = c.toNat := by omega
  have hblank := hscripts z hz (c.toNat - z) (by omega)
  rwa [hcode, Char.ofNat_toNat] at hblank

/-! ## Handles -/

/-- A handle begins with some digits: blanks may stand before them, and no digit stands behind them. -/
def BeginsWith (handle : String) (digits : List Char) : Prop :=
  ∃ blanks rest, handle.toList = blanks ++ (digits ++ rest) ∧ (∀ c ∈ blanks, isBlank c = true)
    ∧ ∀ c ∈ rest.head?, isDigit c = false

theorem handleDigits_of_beginsWith {handle : String} {digits : List Char} {n : Nat} (h : BeginsWith handle digits)
    (hspells : Spells digits n) : handleDigits (some handle) = digits := by
  obtain ⟨blanks, rest, hhandle, hblanks, hrest⟩ := h
  have hblank : (digits ++ rest).dropWhile isBlank = digits ++ rest := by
    obtain ⟨c, cs, rfl⟩ := List.exists_cons_of_ne_nil hspells.nonempty
    have hc := isBlank_of_isDigit (isDigit_of_mem_spelled hspells List.mem_cons_self)
    simp [hc]
  have hdigit : rest.takeWhile isDigit = [] := by
    cases rest with
    | nil => rfl
    | cons c cs => simp [hrest c rfl]
  rw [handleDigits, hhandle, List.dropWhile_append_of_pos hblanks, hblank,
    List.takeWhile_append_of_pos fun c hc => isDigit_of_mem_spelled hspells hc, hdigit, List.append_nil]

/-- Every handle begins with its digits, if only with none. -/
theorem beginsWith_handleDigits (handle : String) : BeginsWith handle (handleDigits (some handle)) := by
  refine ⟨handle.toList.takeWhile isBlank, (handle.toList.dropWhile isBlank).dropWhile isDigit, ?_, ?_, ?_⟩
  · rw [handleDigits, List.takeWhile_append_dropWhile, List.takeWhile_append_dropWhile]
  · exact fun c hc => List.mem_takeWhile_imp hc
  · intro c hc
    have hnot := List.head?_dropWhile_not isDigit (handle.toList.dropWhile isBlank)
    rw [Option.mem_def.mp hc] at hnot
    simpa using hnot

/-! ## Ports -/

/-- **A handle that begins with a number selects its port**, unless it has too many digits. -/
theorem outputPort_of_spells {handle : String} {digits : List Char} {n : Nat} (h : BeginsWith handle digits)
    (hspells : Spells digits n) : outputPort (some handle)
      = if digits.length ≤ integerDigitLimit then .ok n else .error (.value (.tooManyDigits digits.length)) := by
  rw [outputPort_eq, handleDigits_of_beginsWith h hspells, readDigits_of_spells hspells]
  by_cases hlong : integerDigitLimit < digits.length
  · rw [if_pos hlong, if_neg (Nat.not_le_of_lt hlong)]
  · rw [if_neg hlong, if_pos (Nat.le_of_not_lt hlong)]

theorem outputPort_of_no_digits {handle : String} (h : handleDigits (some handle) = []) :
    outputPort (some handle) = .ok 0 := by
  rw [outputPort_eq, h]
  rfl

/-- **Every other handle selects the first port.** -/
theorem outputPort_of_not_spells {handle : String}
    (h : ∀ digits n, BeginsWith handle digits → ¬ Spells digits n) : outputPort (some handle) = .ok 0 := by
  apply outputPort_of_no_digits
  by_contra hne
  apply h _ _ (beginsWith_handleDigits handle)
  exact spells_readDigits hne fun c hc => List.mem_takeWhile_imp hc

/-! ## Integers -/

theorem outputPort_toString_natCast (n : Nat) (hshort : n < 10 ^ integerDigitLimit) :
    outputPort (some (toString (n : Int))) = .ok n := by
  have htext : (toString (n : Int)).toList = digitChars n := by
    rw [← integer_eq_toString, toList_integer_natCast]
  have hbegins : BeginsWith (toString (n : Int)) (digitChars n) := by
    refine ⟨[], [], ?_, nofun, nofun⟩
    rw [htext, List.append_nil, List.nil_append]
  have hlength : (digitChars n).length ≤ integerDigitLimit := (Decimal.width_le_iff (by decide)).mpr hshort
  rw [outputPort_of_spells hbegins (spells_digitChars n), if_pos hlength]

theorem outputPort_toString_of_neg {k : Int} (hk : k < 0) : outputPort (some (toString k)) = .ok 0 := by
  have htext : (toString k).toList = '-' :: digitChars k.natAbs := by
    rw [← integer_eq_toString, toList_integer_of_neg hk]
  have hblank : isBlank '-' = false := by decide
  have hdigit : isDigit '-' = false := by decide
  apply outputPort_of_no_digits
  rw [handleDigits, htext]
  simp [hblank, hdigit]

section Edges

variable [Depth] {k : Int} {ms ms' : Members}

/-- The members of two edges that differ in the handle alone: a number in the one, and its text in the other. -/
structure HandleAsText (k : Int) (ms ms' : Members) : Prop where
  number : Members.get? "sourceHandle" ms = some (.int k)
  text : Members.get? "sourceHandle" ms' = some (.str (toString k))
  others : ∀ name, name ≠ "sourceHandle" → Members.get? name ms = Members.get? name ms'

/-- **An integer is kept as its text** unless it has too many digits, and then it is no handle. -/
theorem readHandle_int (k : Int) : readHandle (.int k) =
    if k.natAbs < 10 ^ integerDigitLimit then .ok (some (toString k)) else .fail (.rule longIntegerMessage) := by
  obtain ⟨levels, hlevels⟩ := Nat.exists_eq_add_one.mpr Depth.kept_pos
  have hfault : (Json.int k).displayFault? Depth.kept = if isLongInteger k then some .longInteger else none := by
    rw [hlevels]
    rfl
  rw [← integer_eq_toString]
  unfold readHandle
  split
  next hnull => cases hnull
  rw [hfault]
  by_cases hlong : 10 ^ integerDigitLimit ≤ k.natAbs
  · rw [if_pos (isLongInteger_iff.mpr hlong), if_neg (Nat.not_lt_of_le hlong)]
  · rw [if_neg (mt isLongInteger_iff.mp hlong), if_pos (Nat.lt_of_not_le hlong)]
    rfl

/-- A number in the place of a handle is read as its text. -/
theorem readEdge_of_handleAsText (h : HandleAsText k ms ms') (hshort : k.natAbs < 10 ^ integerDigitLimit) :
    readEdge (.obj ms) = readEdge (.obj ms') := by
  simp only [readEdge, Schema.record, Checked.andThen, Schema.required, Schema.withDefault, h.number, h.text,
    h.others "id" (by decide), h.others "source" (by decide), h.others "target" (by decide),
    h.others "targetHandle" (by decide), readHandle_int, if_pos hshort]
  rfl

/-- The handle of an edge that is read with a number in its place: the number is not too long, and the handle is its
    text. -/
theorem sourceHandle_of_int {e : Edge} (hms : Members.get? "sourceHandle" ms = some (.int k))
    (he : readEdge (.obj ms) = .ok e) : k.natAbs < 10 ^ integerDigitLimit ∧ e.sourceHandle = some (toString k) := by
  obtain ⟨_, hrecord, he⟩ := Checked.andThen_eq_ok.mp he
  obtain rfl := Json.obj.inj (Schema.record_eq_ok.mp hrecord)
  obtain ⟨_, _, hhandles, -, rfl⟩ := Checked.seq_eq_ok.mp he
  obtain ⟨_, handle, hends, hhandle, rfl⟩ := Checked.seq_eq_ok.mp hhandles
  obtain ⟨_, _, hsource, -, rfl⟩ := Checked.seq_eq_ok.mp hends
  obtain ⟨_, _, hid, -, rfl⟩ := Checked.seq_eq_ok.mp hsource
  obtain ⟨_, -, rfl⟩ := Checked.map_eq_ok.mp hid
  have hread := (Schema.withDefault_of_some hms).mp hhandle
  rw [readHandle_int] at hread
  split at hread
  next hshort => exact ⟨hshort, (Checked.ok.inj hread).symm⟩
  next => cases hread

/-- **A handle selects the port of the number that it begins with, and the first port where it begins with none.** A
    number of too many digits selects none. An edge with an integer in the place of its handle is the edge with the text
    of this integer: its port is the integer, or the first one where it is negative. Where the integer has too many
    digits to be a text, there is no edge. -/
theorem handle_selects_port (handle : String) :
    (∀ digits n, BeginsWith handle digits → Spells digits n → outputPort (some handle)
        = if digits.length ≤ integerDigitLimit then .ok n else .error (.value (.tooManyDigits digits.length)))
      ∧ ((∀ digits n, BeginsWith handle digits → ¬ Spells digits n) → outputPort (some handle) = .ok 0)
      ∧ ∀ k ms ms', HandleAsText k ms ms' →
        (k.natAbs < 10 ^ integerDigitLimit → readEdge (.obj ms) = readEdge (.obj ms'))
        ∧ (10 ^ integerDigitLimit ≤ k.natAbs → ∀ e, readEdge (.obj ms) ≠ .ok e)
        ∧ ∀ e, readEdge (.obj ms) = .ok e →
          (k < 0 → outputPort e.sourceHandle = .ok 0) ∧ ∀ n : Nat, k = n → outputPort e.sourceHandle = .ok n := by
  refine ⟨fun _ _ => outputPort_of_spells, outputPort_of_not_spells, ?_⟩
  intro k ms ms' halike
  refine ⟨readEdge_of_handleAsText halike, fun hlong e he => ?_, fun e he => ?_⟩
  · exact absurd (sourceHandle_of_int halike.number he).1 (Nat.not_lt_of_le hlong)
  · obtain ⟨hshort, hhandle⟩ := sourceHandle_of_int halike.number he
    rw [hhandle]
    refine ⟨outputPort_toString_of_neg, ?_⟩
    rintro n rfl
    exact outputPort_toString_natCast n hshort

end Edges

/-- The members of an edge with a handle. -/
def handleMembers (handle : Json) : Members :=
  [("sourceHandle", handle), ("id", .str "e"), ("source", .str "r"), ("target", .str "a")]

theorem handleAsText_handleMembers (k : Int) :
    HandleAsText k (handleMembers (.int k)) (handleMembers (.str (toString k))) where
  number := rfl
  text := rfl
  others name hname := by
    show (if "sourceHandle" = name then _ else _) = if "sourceHandle" = name then _ else _
    rw [if_neg hname.symm, if_neg hname.symm]

/-- Blanks before the digits of another script, a zero among them, and words after the number do not matter. -/
theorem handle_selects_port_examples :
    outputPort (some " \t\u0660\u0667-out") = .ok 7 ∧ outputPort (some "a1") = .ok 0
      ∧ readEdge (.obj (handleMembers (.int 2))) = readEdge (.obj (handleMembers (.str (toString (2 : Int)))))
      ∧ outputPort (Edge.mk "e" "r" "a" (some (toString (2 : Int))) none).sourceHandle = .ok 2
      ∧ outputPort (Edge.mk "e" "r" "a" (some (toString (-3 : Int))) none).sourceHandle = .ok 0 := by
  obtain ⟨hnumber, -, hinteger⟩ := handle_selects_port " \t\u0660\u0667-out"
  have htwo : (2 : Int).natAbs < 10 ^ integerDigitLimit :=
    (show 2 < 10 ^ 1 by decide).trans_le (Nat.pow_le_pow_right (by decide) (by decide))
  refine ⟨?_, ?_, ?_, ?_, ?_⟩
  · have hbegins : BeginsWith " \t\u0660\u0667-out" ['\u0660', '\u0667'] := by
      refine ⟨[' ', '\t'], ['-', 'o', 'u', 't'], rfl, List.all_eq_true.mp (by decide), ?_⟩
      rintro c ⟨⟩
      decide
    exact hnumber _ 7 hbegins ⟨List.cons_ne_nil _ _, [0, 7], rfl, rfl⟩
  · apply (handle_selects_port "a1").2.1
    intro digits n hbegins hspells
    exact hspells.nonempty (handleDigits_of_beginsWith hbegins hspells).symm
  · exact (hinteger 2 _ _ (handleAsText_handleMembers 2)).1 htwo
  · exact ((hinteger 2 _ _ (handleAsText_handleMembers 2)).2.2 _ rfl).2 2 rfl
  · exact ((hinteger (-3) _ _ (handleAsText_handleMembers (-3))).2.2 _ rfl).1 (by decide)

/-- More zeros than are read spell zero, but select no port. -/
theorem zeros_select_no_port : BeginsWith (zeros 4301) (List.replicate 4301 '0')
    ∧ Spells (List.replicate 4301 '0') 0
    ∧ outputPort (some (zeros 4301)) = .error (.value (.tooManyDigits 4301)) := by
  have hbegins : BeginsWith (zeros 4301) (List.replicate 4301 '0') :=
    handleDigits_zeros 4301 ▸ beginsWith_handleDigits _
  have hdigits : ∀ c ∈ List.replicate 4301 '0', isDigit c = true := by
    intro c hc
    obtain rfl := List.eq_of_mem_replicate hc
    decide
  have hne : List.replicate 4301 '0' ≠ [] := List.length_pos_iff.mp (by rw [List.length_replicate]; decide)
  have hspells := spells_readDigits hne hdigits
  rw [readDigits_zeros] at hspells
  refine ⟨hbegins, hspells, ?_⟩
  have hlong : ¬ 4301 ≤ integerDigitLimit := by decide
  rw [outputPort_of_spells hbegins hspells, List.length_replicate, if_neg hlong]

end PromptGraph
