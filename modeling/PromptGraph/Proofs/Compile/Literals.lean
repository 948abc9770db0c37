import PromptGraph.Proofs.Json.TextMembers
import PromptGraph.Proofs.Text.Lines
import PromptGraph.Rule.Validation

/-!
# `Proofs.Compile.Literals` — authored text inside string literals

A literal is read in the language of the generated code: it ends at the first double quote that no backslash escapes.
Every character that could end it, or the line that it is on, is escaped, so the literal of a text ends where it was
meant to end, whatever follows it, and it is read as the text.

## Contents
- **Scanning.** `afterQuote?`, `afterLiteral?`; `afterQuote?_escapeChar` and, by induction over the characters,
  `afterLiteral?_literal`.
- **Reading.** `read_literal`.
- **Lines.** `Unbroken`, `unbroken_literal`.
- **Literals.** `IsLiteral`, `isLiteral_literal`; `RuleExpression`, `ruleExpression_translateRule`.
-/

namespace PromptGraph

open Json Text

/-! ## Scanning -/

/-- The letters of the escapes of one character. -/
def escapeLetters : List Char := ['"', '\\', '/', 'b', 'f', 'n', 'r', 't']

/-- The rest of a text after the double quote that ends a string literal. There is none where the text or the line ends
    first, or where a backslash begins no escape. -/
def afterQuote? : List Char → Option (List Char)
  | [] => none
  | '"' :: rest => some rest
  | '\\' :: 'u' :: a :: b :: c :: d :: rest =>
    if (hexUnit? [a, b, c, d]).isSome then afterQuote? rest else none
  | '\\' :: e :: rest => if escapeLetters.contains e then afterQuote? rest else none
  | c :: rest => if c = '\n' ∨ c = '\r' ∨ c = '\\' then none else afterQuote? rest

/-- The rest of a text after the string literal at its beginning. -/
def afterLiteral? : List Char → Option (List Char)
  | '"' :: rest => afterQuote? rest
  | _ => none

theorem afterQuote?_unitEscape {n : Nat} (h : n < 0x10000) (rest : List Char) :
    afterQuote? (unitEscape n ++ rest) = afterQuote? rest := by
  have hunit := hexUnit?_hexPadded h []
  rw [List.append_nil, hexPadded_four] at hunit
  rw [unitEscape, hexPadded_four]
  show afterQuote? ('\\' :: 'u' :: _ :: _ :: _ :: _ :: rest) = _
  rw [afterQuote?, hunit]
  rfl

theorem afterQuote?_short {e : Char} (he : e ≠ 'u') (hletter : escapeLetters.contains e = true) (rest : List Char) :
    afterQuote? ('\\' :: e :: rest) = afterQuote? rest := by
  rw [afterQuote?, if_pos hletter]
  exact fun _ _ _ _ _ heq _ => he heq

theorem afterQuote?_plain {c : Char} (hquote : c ≠ '"') (hslash : c ≠ '\\') (hcontrol : ¬ c.toNat < 0x20)
    (rest : List Char) : afterQuote? (c :: rest) = afterQuote? rest := by
  have hline : ¬ (c = '\n' ∨ c = '\r' ∨ c = '\\') := by
    rintro (rfl | rfl | rfl)
    · exact hcontrol (by decide)
    · exact hcontrol (by decide)
    · exact hslash rfl
  rw [afterQuote?, if_neg hline]
  · exact hquote
  · exact fun _ _ _ _ _ heq _ => hslash heq
  · exact fun _ _ heq _ => hslash heq

/-- A written character does not end the literal, whichever of its forms it was written in. -/
theorem afterQuote?_escapeChar (c : Char) (rest : List Char) :
    afterQuote? (escapeChar false c ++ rest) = afterQuote? rest := by
  unfold escapeChar
  -- the short escapes
  iterate 7
    split
    · exact afterQuote?_short (by decide) (by decide) rest
  split
  next hcontrol => exact afterQuote?_unitEscape (by omega) rest
  next hcontrol =>
    rw [if_neg (by simp)]
    apply afterQuote?_plain
    all_goals assumption

/-- **A literal ends at its last quote**, whatever text it is of and whatever follows. -/
theorem afterLiteral?_literal (s : String) (rest : List Char) :
    afterLiteral? ((literal s).toList ++ rest) = some rest := by
  have hbody : ∀ cs : List Char, afterQuote? (cs.flatMap (escapeChar false) ++ '"' :: rest) = some rest := by
    intro cs
    induction cs with
    | nil => rfl
    | cons c cs ih => rw [List.flatMap_cons, List.append_assoc, afterQuote?_escapeChar, ih]
  rw [literal, String.toList_ofList, escape, List.cons_append, List.append_assoc]
  exact hbody s.toList

/-! ## Reading -/

/-- **A literal is read as its text**: nothing is nested in it. -/
theorem read_literal (levels : Nat) (s : String) : readWithin levels (literal s) = .ok (.str s) := by
  have hlength := length_escape false s.toList
  have hfirst : (escape false s.toList).head? = some '"' := rfl
  have hskip : skipBlanks (escape false s.toList) = escape false s.toList := rfl
  rw [readWithin, literal, String.toList_ofList, readAll, hfirst, if_neg (by decide), hskip]
  generalize hsize : (escape false s.toList).length + 1 = size
  have hroom : s.length < size := by
    rw [← String.length_toList]
    omega
  obtain ⟨fuel, hfuel⟩ : ∃ fuel, 2 * size = fuel + 1 := ⟨2 * size - 1, by omega⟩
  have hvalue := readValue_text false levels fuel hroom []
  rw [List.append_nil] at hvalue
  dsimp only
  rw [hfuel, hvalue]
  rfl

/-! ## Lines -/

/-- No line of a file ends in a text. -/
def Unbroken (s : String) : Prop := ∀ c ∈ s.toList, c ≠ '\n' ∧ c ≠ '\r'

instance : DecidablePred Unbroken := fun s => List.decidableBAll _ s.toList

@[simp] theorem unbroken_append {s t : String} : Unbroken (s ++ t) ↔ Unbroken s ∧ Unbroken t := by
  unfold Unbroken
  rw [String.toList_append, List.forall_mem_append]

/-- A character that ends a line is written as an escape. -/
theorem unbroken_escapeChar (c : Char) : ∀ d ∈ escapeChar false c, d ≠ '\n' ∧ d ≠ '\r' := by
  have hhex : ∀ n : Nat, hexDigit (n % 16) ≠ '\n' ∧ hexDigit (n % 16) ≠ '\r' := by
    intro n
    have hall : ∀ m : Fin 16, hexDigit m ≠ '\n' ∧ hexDigit m ≠ '\r' := by decide
    exact hall ⟨n % 16, Nat.mod_lt n (by decide)⟩
  unfold escapeChar
  -- the short escapes
  iterate 7
    split
    · exact List.forall_mem_cons.mpr ⟨by decide, List.forall_mem_singleton.mpr (by decide)⟩
  split
  · intro d hd
    rw [unitEscape, hexPadded_four] at hd
    simp only [List.mem_cons, List.not_mem_nil, or_false] at hd
    rcases hd with rfl | rfl | rfl | rfl | rfl | rfl
    · decide
    · decide
    all_goals exact hhex _
  · rw [if_neg (by simp)]
    exact List.forall_mem_singleton.mpr ⟨by assumption, by assumption⟩

/-- **A literal is on one line**, whatever text it is of. -/
theorem unbroken_literal (s : String) : Unbroken (literal s) := by
  intro c hc
  rw [literal, String.toList_ofList, escape, List.mem_cons, List.mem_append, List.mem_singleton] at hc
  rcases hc with rfl | hc | rfl
  · decide
  · obtain ⟨d, -, hd⟩ := List.mem_flatMap.mp hc
    exact unbroken_escapeChar d c hd
  · decide

/-! ## Literals -/

/-- A string literal for a text: it ends where it ends, whatever follows it, and is read as the text. -/
structure IsLiteral (l s : String) : Prop where
  closes : ∀ rest, afterLiteral? (l.toList ++ rest) = some rest
  read : ∀ levels, readWithin levels l = .ok (.str s)

theorem isLiteral_literal (s : String) : IsLiteral (literal s) s :=
  ⟨afterLiteral?_literal s, fun levels => read_literal levels s⟩

/-- The expressions of rules: three fixed ones, and a search for a literal. -/
inductive RuleExpression : String → Prop where
  | content : RuleExpression "input.content && input.content.length > 0"
  | trimmed : RuleExpression "input.content && input.content.trim().length > 0"
  | always : RuleExpression "true"
  | includes {l term : String} (h : IsLiteral l term) :
      RuleExpression ("input.content && input.content.includes(" ++ l ++ ")")

theorem ruleExpression_translateRule (rule : String) : RuleExpression (translateRule rule) := by
  unfold translateRule
  split
  · exact .content
  split
  · exact .includes (isLiteral_literal _)
  split
  · exact .trimmed
  · exact .always

theorem unbroken_translateRule (rule : String) : Unbroken (translateRule rule) := by
  unfold translateRule
  split
  · decide
  split
  · simp only [unbroken_append, unbroken_literal, and_true]
    decide
  split <;> decide

end PromptGraph
