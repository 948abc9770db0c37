import Mathlib.Data.List.TakeWhile
import PromptGraph.Json.Reader
import PromptGraph.Json.Strict
import PromptGraph.Json.Writer
import PromptGraph.Proofs.Number.Shortest

/-!
# `Proofs.Json.Numbers` — a written number is read back

A number is written positionally or with an exponent, with a point or without one. Whichever it is, the reader takes the
same digits and the same power of ten, and these stand for the number. The text after a number must not go on with it.

## Contents
- **Digits.** `asciiNat_digitChars` and the digits with zeros before or after them; `exists_digitChars`.
- **Parts.** `IsWhole`, `EndsNumber`; `scanFraction_point`, `scanExponent_power`.
- **Scanning.** `wholeDigits`, `afterWhole`: the two halves of the scanner, `scanNumber_eq`; `scanNumber_int` and
  `scanNumber_float`.
- **Layouts.** `scanNumber_positional`, `scanNumber_scientific`, `scanNumber_magnitude`.
- **Numbers.** `IsSpelled`; `scanAtom_number`.
-/

namespace PromptGraph.Json

open Decimal NumberLayout

/-! ## Digits -/

def Digits (cs : List Char) : Prop := ∀ c ∈ cs, isAsciiDigit c = true

/-- A digit is no other character. -/
theorem ne_of_isAsciiDigit {c d : Char} (hc : isAsciiDigit c = true) (hd : isAsciiDigit d = false) : c ≠ d := by
  rintro rfl
  rw [hd] at hc
  cases hc

theorem digits_append {cs ds : List Char} : Digits (cs ++ ds) ↔ Digits cs ∧ Digits ds := List.forall_mem_append

theorem digits_digitChars (n : Nat) : Digits (digitChars n) := by
  intro c hc
  have hdigit : c.isDigit = true := Nat.isDigit_of_mem_toDigits (by decide) (by decide) hc
  simp only [Char.isDigit, Bool.and_eq_true, decide_eq_true_eq] at hdigit
  rw [isAsciiDigit, Bool.and_eq_true, decide_eq_true_eq, decide_eq_true_eq]
  exact hdigit

theorem digits_zeros (n : Nat) : Digits (zeros n) := fun _ hc => List.eq_of_mem_replicate hc ▸ rfl

theorem digits_zero : Digits ['0'] := digits_zeros 1

theorem asciiNat_eq (cs : List Char) : asciiNat cs = Nat.ofDigitChars 10 cs 0 := Nat.ofDigitChars_eq_foldl.symm

theorem asciiNat_digitChars (n : Nat) : asciiNat (digitChars n) = n := by
  rw [asciiNat_eq]
  exact Nat.ofDigitChars_ten_toDigits

theorem asciiNat_append_zeros (cs : List Char) (k : Nat) : asciiNat (cs ++ zeros k) = asciiNat cs * 10 ^ k := by
  rw [asciiNat_eq, Nat.ofDigitChars_append, zeros, Nat.ofDigitChars_replicate_zero, asciiNat_eq, Nat.mul_comm]

theorem asciiNat_zeros_append (k : Nat) (cs : List Char) : asciiNat (zeros k ++ cs) = asciiNat cs := by
  rw [asciiNat_eq, Nat.ofDigitChars_append, zeros, Nat.ofDigitChars_replicate_zero, asciiNat_eq, Nat.mul_zero]

/-- A positive number does not begin with a zero. -/
theorem exists_digitChars {n : Nat} (hn : n ≠ 0) : ∃ c rest, digitChars n = c :: rest ∧ c ≠ '0' := by
  induction n using Nat.strongRecOn with
  | ind n ih =>
      by_cases hlt : n < 10
      · have hall : ∀ k : Fin 10, k.val ≠ 0 → k.val.digitChar ≠ '0' := by decide
        exact ⟨n.digitChar, [], Nat.toDigits_of_lt_base hlt, hall ⟨n, hlt⟩ hn⟩
      · obtain ⟨c, rest, hdigits, hc⟩ := ih (n / 10) (by omega) (by omega)
        refine ⟨c, rest ++ [(n % 10).digitChar], ?_, hc⟩
        show Nat.toDigits 10 n = _
        rw [Nat.toDigits_of_base_le (by decide) (by omega)]
        exact congrArg (· ++ [(n % 10).digitChar]) hdigits

/-! ## Parts -/

/-- The digits of a whole number: a zero by itself, or digits that do not begin with one. -/
structure IsWhole (ds : List Char) : Prop where
  digits : Digits ds
  head : ds = ['0'] ∨ ∃ c rest, ds = c :: rest ∧ c ≠ '0'

theorem isWhole_zero : IsWhole ['0'] := ⟨List.forall_mem_singleton.mpr rfl, .inl rfl⟩

theorem isWhole_digitChars (n : Nat) : IsWhole (digitChars n) := by
  refine ⟨digits_digitChars n, ?_⟩
  by_cases hn : n = 0
  · exact .inl (hn ▸ rfl)
  · exact .inr (exists_digitChars hn)

/-- What follows does not go on with digits. -/
def EndsDigits (rest : List Char) : Prop := ∀ c ∈ rest.head?, isAsciiDigit c = false

/-- What follows does not go on with a number. -/
def EndsNumber (rest : List Char) : Prop :=
  ∀ c ∈ rest.head?, isAsciiDigit c = false ∧ c ≠ '.' ∧ c ≠ 'e' ∧ c ≠ 'E'

theorem endsNumber_nil : EndsNumber [] := nofun

theorem EndsNumber.endsDigits {rest : List Char} (h : EndsNumber rest) : EndsDigits rest := fun c hc => (h c hc).1

theorem takeWhile_digits {ds rest : List Char} (hds : Digits ds) (hrest : EndsDigits rest) :
    (ds ++ rest).takeWhile isAsciiDigit = ds ∧ (ds ++ rest).dropWhile isAsciiDigit = rest := by
  rw [List.takeWhile_append_of_pos hds, List.dropWhile_append_of_pos hds]
  cases rest with
  | nil => exact ⟨List.append_nil ds, rfl⟩
  | cons c rest =>
      have hc : ¬ isAsciiDigit c = true := by simp [hrest c rfl]
      rw [List.takeWhile_cons_of_neg hc, List.dropWhile_cons_of_neg hc]
      exact ⟨List.append_nil ds, rfl⟩

/-- Digits after a point; without digits there is no point. -/
def point : List Char → List Char
  | [] => []
  | c :: cs => '.' :: c :: cs

theorem scanFraction_point {fs rest : List Char} (hfs : Digits fs) (hrest : EndsDigits rest)
    (hpoint : rest.head? ≠ some '.') : scanFraction (point fs ++ rest) = (fs, rest) := by
  cases fs with
  | nil =>
      rw [point, List.nil_append]
      unfold scanFraction
      split
      next => exact absurd rfl hpoint
      next => rfl
  | cons c cs =>
      have hc : isAsciiDigit c = true := hfs c List.mem_cons_self
      obtain ⟨htake, hdrop⟩ := takeWhile_digits hfs hrest
      show scanFraction ('.' :: c :: (cs ++ rest)) = _
      rw [scanFraction, if_pos hc]
      exact Prod.ext htake hdrop

theorem scanExponent_none {rest : List Char} (h : EndsNumber rest) : scanExponent rest = (none, rest) := by
  cases rest with
  | nil => rfl
  | cons c rest =>
      obtain ⟨-, -, he, hE⟩ := h c rfl
      have hmark : ¬ (c = 'e' ∨ c = 'E') := by simp [he, hE]
      exact if_neg hmark

/-- The exponent with its mark and its sign. -/
theorem scanExponent_power (below : Bool) {es rest : List Char} (hes : Digits es) (hne : es ≠ [])
    (hrest : EndsDigits rest) : scanExponent ('e' :: (if below then '-' else '+') :: (es ++ rest))
      = (some (if below then -(asciiNat es : Int) else asciiNat es), rest) := by
  obtain ⟨htake, hdrop⟩ := takeWhile_digits hes hrest
  have hempty : ¬ es.isEmpty = true := by simpa using hne
  cases below with
  | true =>
      show scanExponent ('e' :: '-' :: (es ++ rest)) = _
      rw [scanExponent]
      simp only [true_or, if_true, htake, hdrop, if_neg hempty]
  | false =>
      show scanExponent ('e' :: '+' :: (es ++ rest)) = _
      rw [scanExponent]
      simp only [true_or, if_true, htake, hdrop, if_neg hempty, Bool.false_eq_true, if_false]

/-! ## Scanning -/

/-- The digits before a point or an exponent: a zero, or all that stand there. -/
def wholeDigits (cs : List Char) : List Char :=
  match cs with
  | '0' :: _ => ['0']
  | _ => cs.takeWhile isAsciiDigit

theorem digits_wholeDigits (cs : List Char) : Digits (wholeDigits cs) := by
  unfold wholeDigits
  split
  · exact digits_zero
  · exact fun c hc => List.mem_takeWhile_imp hc

theorem wholeDigits_cons {c : Char} (hc : c ≠ '0') (cs : List Char) :
    wholeDigits (c :: cs) = (c :: cs).takeWhile isAsciiDigit := by
  unfold wholeDigits
  split
  next heq =>
    cases heq
    exact absurd rfl hc
  next => rfl

theorem wholeDigits_append {ds rest : List Char} (hds : IsWhole ds) (hrest : EndsDigits rest) :
    wholeDigits (ds ++ rest) = ds := by
  rcases hds.head with rfl | ⟨c, cs, rfl, hc⟩
  · rfl
  · rw [List.cons_append, wholeDigits_cons hc, ← List.cons_append]
    exact (takeWhile_digits hds.digits hrest).1

/-- What comes of the text after the digits of a whole number. -/
def afterWhole (negative : Bool) (whole : List Char) (rest : List Char) :
    Option (Except ScanFault (Number × List Char)) :=
  let (fraction, rest) := scanFraction rest
  let (exponent, rest) := scanExponent rest
  if fraction.isEmpty && exponent.isNone then
    if integerDigitLimit < whole.length then some (.error (.tooManyDigits whole.length))
    else
      let n : Int := asciiNat whole
      some (.ok (.int (if negative then -n else n), rest))
  else
    let d : Decimal := ⟨negative, asciiNat (whole ++ fraction), exponent.getD 0 - (fraction.length : Int)⟩
    some (.ok (.float d.toDouble, rest))

theorem scanNumber_eq (negative : Bool) (cs : List Char) :
    scanNumber negative cs = if (wholeDigits cs).isEmpty then none
      else afterWhole negative (wholeDigits cs) (cs.drop (wholeDigits cs).length) := rfl

theorem scanNumber_whole (negative : Bool) {ds rest : List Char} (hds : IsWhole ds) (hrest : EndsDigits rest) :
    scanNumber negative (ds ++ rest) = afterWhole negative ds rest := by
  have hne : ¬ ds.isEmpty = true := by
    rcases hds.head with rfl | ⟨c, cs, rfl, -⟩ <;> simp
  rw [scanNumber_eq, wholeDigits_append hds hrest, if_neg hne, List.drop_left]

theorem scanNumber_int (negative : Bool) {ds rest : List Char} (hds : IsWhole ds)
    (hlimit : ds.length ≤ integerDigitLimit) (hrest : EndsNumber rest) :
    scanNumber negative (ds ++ rest)
      = some (.ok (.int (if negative then -(asciiNat ds : Int) else asciiNat ds), rest)) := by
  have hpoint : rest.head? ≠ some '.' := fun h => (hrest '.' h).2.1 rfl
  have hnone : Digits [] := nofun
  have hfraction : scanFraction rest = ([], rest) := scanFraction_point hnone hrest.endsDigits hpoint
  rw [scanNumber_whole negative hds hrest.endsDigits, afterWhole, hfraction]
  dsimp only
  rw [scanExponent_none hrest]
  exact if_neg (Nat.not_lt.mpr hlimit)

/-- A number with digits after a point or with an exponent is a float. -/
theorem scanNumber_float (negative : Bool) {ds fs power rest : List Char} {exponent : Option Int} (hds : IsWhole ds)
    (hfs : Digits fs) (hpower : scanExponent power = (exponent, rest)) (hdigits : EndsDigits power)
    (hpoint : power.head? ≠ some '.') (hfloat : (fs.isEmpty && exponent.isNone) = false) :
    scanNumber negative (ds ++ (point fs ++ power))
      = some (.ok (.float (toDouble ⟨negative, asciiNat (ds ++ fs), exponent.getD 0 - (fs.length : Int)⟩), rest)) := by
  have hrest : EndsDigits (point fs ++ power) := by
    cases fs with
    | nil => exact hdigits
    | cons c cs =>
        intro d hd
        cases hd
        rfl
  rw [scanNumber_whole negative hds hrest, afterWhole, scanFraction_point hfs hdigits hpoint]
  dsimp only
  rw [hpower]
  dsimp only
  rw [hfloat]
  rfl

/-- A number with digits after a point and without an exponent. -/
theorem scanNumber_fraction (negative : Bool) {ds fs rest : List Char} (hds : IsWhole ds) (hfs : Digits fs)
    (hne : fs ≠ []) (hrest : EndsNumber rest) : scanNumber negative (ds ++ ('.' :: (fs ++ rest)))
      = some (.ok (.float (toDouble ⟨negative, asciiNat (ds ++ fs), -(fs.length : Int)⟩), rest)) := by
  obtain ⟨c, cs, rfl⟩ := List.exists_cons_of_ne_nil hne
  have hpoint : rest.head? ≠ some '.' := fun h => (hrest '.' h).2.1 rfl
  have hscan := scanNumber_float negative hds hfs (scanExponent_none hrest) hrest.endsDigits hpoint rfl
  rw [Option.getD_none, Int.zero_sub] at hscan
  exact hscan

/-! ## Layouts -/

section Layouts

variable {rest : List Char} {digits : Nat} (negative : Bool) (hne : digits ≠ 0) (unit : Int) (hrest : EndsNumber rest)

include hne hrest

theorem scanNumber_positional :
    scanNumber negative (positional (digitChars digits) (unit + ((digitChars digits).length : Int) - 1) ++ rest)
      = some (.ok (.float (toDouble ⟨negative, digits, unit⟩), rest)) := by
  have hdigits := digits_digitChars digits
  have hvalue := asciiNat_digitChars digits
  obtain ⟨c, cs, hhead, hc⟩ := exists_digitChars hne
  have hlength : (digitChars digits).length ≠ 0 := by simp [hhead]
  generalize digitChars digits = chars at *
  unfold positional
  split
  next hbelow =>
    -- zeros between the point and the digits
    generalize hk : (-(unit + (chars.length : Int) - 1) - 1).toNat = k
    have hfs : Digits (zeros k ++ chars) := digits_append.mpr ⟨digits_zeros k, hdigits⟩
    have hnil : zeros k ++ chars ≠ [] := by simp [hhead]
    have hexponent : -((zeros k ++ chars).length : Int) = unit := by
      rw [List.length_append, zeros, List.length_replicate]
      push_cast
      omega
    have hzero : asciiNat (['0'] ++ (zeros k ++ chars)) = digits := by
      rw [show ['0'] ++ (zeros k ++ chars) = zeros (k + 1) ++ chars by simp [zeros, List.replicate_succ],
        asciiNat_zeros_append, hvalue]
    have hscan := scanNumber_fraction negative isWhole_zero hfs hnil hrest
    rw [hzero, hexponent] at hscan
    exact hscan
  next hbelow =>
    dsimp only
    generalize hbefore : (unit + (chars.length : Int) - 1).toNat + 1 = before
    split
    next hle =>
      -- zeros between the digits and the point
      have hds : IsWhole (chars ++ zeros (before - chars.length)) :=
        ⟨digits_append.mpr ⟨hdigits, digits_zeros _⟩, .inr ⟨c, _, by rw [hhead]; rfl, hc⟩⟩
      have hscan := scanNumber_fraction negative hds digits_zero (by simp) hrest
      have hread : toDouble ⟨negative, asciiNat (chars ++ zeros (before - chars.length) ++ ['0']), -1⟩
          = toDouble ⟨negative, digits, unit⟩ := by
        rw [List.append_assoc, show zeros (before - chars.length) ++ ['0'] = zeros (before - chars.length + 1) by
          simp [zeros, List.replicate_succ'], asciiNat_append_zeros, hvalue, toDouble_mul_pow negative hne]
        congr 2
        push_cast
        omega
      rw [List.append_assoc _ ['.', '0'], ← hread]
      exact hscan
    next hlt =>
      -- the point between the digits
      have hds : IsWhole (chars.take before) := by
        refine ⟨fun d hd => hdigits d (List.mem_of_mem_take hd), .inr ⟨c, cs.take (before - 1), ?_, hc⟩⟩
        rw [hhead, show before = before - 1 + 1 by omega, List.take_succ_cons]
        rfl
      have hfs : Digits (chars.drop before) := fun d hd => hdigits d (List.mem_of_mem_drop hd)
      have hnil : chars.drop before ≠ [] := by
        rw [ne_eq, List.drop_eq_nil_iff]
        omega
      have hexponent : -((chars.drop before).length : Int) = unit := by
        rw [List.length_drop]
        omega
      have hscan := scanNumber_fraction negative hds hfs hnil hrest
      rw [List.take_append_drop, hvalue, hexponent] at hscan
      rw [List.append_assoc]
      exact hscan

theorem scanNumber_scientific (l : NumberLayout) :
    scanNumber negative (l.scientific (digitChars digits) (unit + ((digitChars digits).length : Int) - 1) ++ rest)
      = some (.ok (.float (toDouble ⟨negative, digits, unit⟩), rest)) := by
  have hdigits := digits_digitChars digits
  have hvalue := asciiNat_digitChars digits
  obtain ⟨c, cs, hhead, hc⟩ := exists_digitChars hne
  rw [hhead] at hdigits hvalue ⊢
  generalize hleading : unit + ((c :: cs).length : Int) - 1 = leading
  -- the digits of the exponent, with zeros before them
  let es := zeros (l.exponentWidth - (digitChars leading.natAbs).length) ++ digitChars leading.natAbs
  have hes : Digits es := digits_append.mpr ⟨digits_zeros _, digits_digitChars _⟩
  have hesne : es ≠ [] := by
    intro hnil
    exact Nat.toDigits_ne_nil (List.append_eq_nil_iff.mp hnil).2
  have hesvalue : asciiNat es = leading.natAbs := by rw [asciiNat_zeros_append, asciiNat_digitChars]
  have hpower : scanExponent ('e' :: (if decide (leading < 0) then '-' else '+') :: (es ++ rest))
      = (some leading, rest) := by
    rw [scanExponent_power _ hes hesne hrest.endsDigits, hesvalue]
    congr 2
    split
    next hbelow =>
      have hlt := of_decide_eq_true hbelow
      omega
    next habove =>
      have hle := of_decide_eq_false (Bool.eq_false_iff.mpr habove)
      omega
  have hds : IsWhole [c] := ⟨fun d hd => hdigits d (List.mem_cons.mpr (.inl (List.mem_singleton.mp hd))),
    .inr ⟨c, [], rfl, hc⟩⟩
  have hfs : Digits cs := fun d hd => hdigits d (List.mem_cons_of_mem c hd)
  have hmark : EndsDigits ('e' :: (if decide (leading < 0) then '-' else '+') :: (es ++ rest)) := by
    intro d hd
    cases hd
    rfl
  have hscan := scanNumber_float negative hds hfs hpower hmark (by simp) (by simp)
  have hunit : (some leading).getD 0 - (cs.length : Int) = unit := by
    rw [Option.getD_some, ← hleading, List.length_cons]
    push_cast
    omega
  rw [show [c] ++ cs = c :: cs from rfl, hvalue, hunit] at hscan
  rw [← hscan]
  congr 1
  simp only [scientific, decide_eq_true_eq]
  cases cs <;> simp [point, es]

end Layouts

/-- **A written positive number is read as the number**, under either sign. -/
theorem scanNumber_magnitude (l : NumberLayout) (negative : Bool) {m : Nat} {e : Int} (h : Double.Canonical m e)
    (hm : m ≠ 0) {rest : List Char} (hrest : EndsNumber rest) :
    scanNumber negative (l.magnitude m e ++ rest) = some (.ok (.float (.finite negative m e h), rest)) := by
  obtain ⟨hne, hread⟩ := toDouble_shortest negative h hm
  rw [← hread]
  unfold magnitude
  dsimp only
  split
  · exact scanNumber_positional negative hne _ hrest
  · exact scanNumber_scientific negative hne _ hrest l

/-! ## Numbers -/

/-- A number that data texts can spell: an integer of at most so many digits as are read, or a finite float. -/
def IsSpelled : Number → Prop
  | .int n => n.natAbs < 10 ^ integerDigitLimit
  | .float x => x.isFinite = true

theorem scanNumber_integer (n : Int) (h : n.natAbs < 10 ^ integerDigitLimit) {rest : List Char}
    (hrest : EndsNumber rest) :
    scanNumber (decide (n < 0)) (digitChars n.natAbs ++ rest) = some (.ok (.int n, rest)) := by
  have hlimit : (digitChars n.natAbs).length ≤ integerDigitLimit := (width_le_iff (by decide)).mpr h
  rw [scanNumber_int _ (isWhole_digitChars _) hlimit hrest, asciiNat_digitChars]
  congr 4
  split
  next hn =>
    have hlt := of_decide_eq_true hn
    omega
  next hn =>
    have hle := of_decide_eq_false (Bool.eq_false_iff.mpr hn)
    omega

/-- A number begins with a digit. -/
theorem head_of_scanNumber {negative : Bool} {cs : List Char} {x : Except ScanFault (Number × List Char)}
    (h : scanNumber negative cs = some x) : ∃ c more, cs = c :: more ∧ isAsciiDigit c = true := by
  cases cs with
  | nil => cases h
  | cons c more =>
      refine ⟨c, more, rfl, ?_⟩
      by_contra hc
      have hzero : c ≠ '0' := by
        rintro rfl
        exact hc rfl
      rw [scanNumber_eq, wholeDigits_cons hzero, List.takeWhile_cons_of_neg hc] at h
      cases h

/-- The sign of a number and its digits. -/
theorem exists_number {n : Number} (h : IsSpelled n) : ∃ negative cs,
    (NumberLayout.json.number n).toList = (if negative then ['-'] else []) ++ cs
      ∧ ∀ {rest}, EndsNumber rest → scanNumber negative (cs ++ rest) = some (.ok (n, rest)) := by
  have hsign (p : Prop) [Decidable p] : (if p then "-" else "").toList = if decide p then ['-'] else [] := by
    by_cases hp : p <;> simp [hp]
  cases n with
  | int n =>
      refine ⟨decide (n < 0), digitChars n.natAbs, ?_, scanNumber_integer n h⟩
      rw [NumberLayout.number, NumberLayout.integer, String.toList_append, String.toList_ofList, hsign]
  | float x =>
      cases x with
      | nan => cases h
      | infinite s => cases h
      | finite s m e hcanonical =>
          by_cases hm : m = 0
          · subst hm
            refine ⟨s, ['0', '.', '0'], ?_, fun {rest} hrest => ?_⟩
            · rw [NumberLayout.number, NumberLayout.double, if_pos rfl]
              cases s <;> rfl
            · -- a mantissa of zero is on the least grid
              have he : e = -1074 := hcanonical.2.2.2.resolve_right (by decide)
              subst he
              exact scanNumber_fraction s isWhole_zero digits_zero (by simp) hrest
          · refine ⟨s, NumberLayout.json.magnitude m e, ?_, scanNumber_magnitude _ s hcanonical hm⟩
            rw [NumberLayout.number, NumberLayout.double, if_neg hm, String.toList_append, String.toList_ofList]
            cases s <;> rfl

/-- A written number begins with a sign or a digit. -/
theorem exists_cons_number {n : Number} (h : IsSpelled n) :
    ∃ c more, (NumberLayout.json.number n).toList = c :: more ∧ (c = '-' ∨ isAsciiDigit c = true) := by
  obtain ⟨negative, cs, hchars, hscan⟩ := exists_number h
  obtain ⟨c, more, hcons, hc⟩ := head_of_scanNumber (hscan endsNumber_nil)
  rw [List.append_nil] at hcons
  rw [hchars, hcons]
  cases negative with
  | true => exact ⟨'-', c :: more, rfl, .inl rfl⟩
  | false => exact ⟨c, more, rfl, .inr hc⟩

/-- **A written number is read back**, whatever follows that does not go on with it. -/
theorem scanAtom_number {n : Number} (h : IsSpelled n) {rest : List Char} (hrest : EndsNumber rest) :
    scanAtom ((NumberLayout.json.number n).toList ++ rest) = .ok (.num n, rest) := by
  obtain ⟨negative, cs, hchars, hscan⟩ := exists_number h
  have hnumber := hscan hrest
  obtain ⟨c, more, hcons, hc⟩ := head_of_scanNumber hnumber
  rw [hcons] at hnumber
  rw [hchars, List.append_assoc, hcons]
  -- a digit begins none of the words, with or without a sign before it
  cases negative with
  | true =>
      show scanAtom ('-' :: c :: more) = _
      unfold scanAtom
      split
      next heq => cases heq
      next heq => cases heq
      next heq => cases heq
      next heq => cases heq
      next heq => cases heq
      next heq =>
        cases heq
        exact absurd rfl (ne_of_isAsciiDigit hc rfl)
      next heq =>
        cases heq
        dsimp only
        rw [hnumber]
      next hminus => exact absurd rfl (hminus _)
  | false =>
      show scanAtom (c :: more) = _
      unfold scanAtom
      split
      next heq =>
        cases heq
        exact absurd rfl (ne_of_isAsciiDigit hc rfl)
      next heq =>
        cases heq
        exact absurd rfl (ne_of_isAsciiDigit hc rfl)
      next heq =>
        cases heq
        exact absurd rfl (ne_of_isAsciiDigit hc rfl)
      next heq =>
        cases heq
        exact absurd rfl (ne_of_isAsciiDigit hc rfl)
      next heq =>
        cases heq
        exact absurd rfl (ne_of_isAsciiDigit hc rfl)
      next heq =>
        cases heq
        exact absurd rfl (ne_of_isAsciiDigit hc rfl)
      next heq =>
        cases heq
        exact absurd rfl (ne_of_isAsciiDigit hc rfl)
      next =>
        dsimp only
        rw [hnumber]

end PromptGraph.Json
