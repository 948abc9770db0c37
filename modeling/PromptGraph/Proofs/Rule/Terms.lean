import PromptGraph.Proofs.Compile.Literals
import PromptGraph.Proofs.Text.Exchange

/-!
# `Proofs.Rule.Terms` — the term that a rule searches for

A rule with the word `contains` searches for the first quoted term behind that word. Two quotes with nothing between
them, and a quote that is never closed, are passed over: a term stands only where the word, a blank, a quote, a term
and a quote follow one another. A rule in which there is no such place searches for the empty text.

## Contents
- **Terms.** `TermAt`: a term stands at a place of a text; `quotedTerm?_eq_some_iff`, `termAt_nil_iff` and
  `termAt_cons_iff`, by which a place is found character by character.
- **First terms.** `Searched`: the term at the leftmost place, if there is a place; `Searched.unique`, `Searched.cons`,
  and `searched_containsTerm?` by induction over the text.
- **Rules.** `translateRule_contains`.
-/

namespace PromptGraph

open Text

/-! ## Terms -/

/-- In a text, behind `before`, stand the word, a blank and a term in double quotes. -/
structure TermAt (text before term : List Char) : Prop where
  filled : term ≠ []
  unquoted : '"' ∉ term
  placed : ∃ after, text = before ++ ("contains \"".toList ++ (term ++ '"' :: after))

variable {text before term : List Char}

/-- The characters up to a double quote are a term if there are any and the quote is there. -/
theorem quotedTerm?_eq_some_iff {cs : List Char} :
    quotedTerm? cs = some term ↔ term ≠ [] ∧ '"' ∉ term ∧ ∃ after, cs = term ++ '"' :: after := by
  constructor
  · intro h
    simp only [quotedTerm?, Bool.or_eq_true, List.isEmpty_iff, Option.ite_none_left_eq_some, not_or,
      Option.some.injEq] at h
    obtain ⟨⟨hfilled, hclosed⟩, rfl⟩ := h
    have hunquoted : '"' ∉ cs.takeWhile (· ≠ '"') := by
      intro hmem
      simpa using List.mem_takeWhile_imp hmem
    refine ⟨hfilled, hunquoted, ?_⟩
    have hsplit := List.takeWhile_append_dropWhile (p := (· ≠ '"')) (l := cs)
    have hfirst := List.head?_dropWhile_not (· ≠ '"') cs
    -- the characters after the term begin with the one that ended it
    cases hrest : cs.dropWhile (· ≠ '"') with
    | nil =>
        rw [hrest, List.append_nil] at hsplit
        rw [hsplit] at hclosed
        simp at hclosed
    | cons c after =>
        rw [hrest] at hsplit hfirst
        obtain rfl : c = '"' := by simpa using hfirst
        exact ⟨after, hsplit.symm⟩
  · rintro ⟨hfilled, hunquoted, after, rfl⟩
    have hkept : ∀ c ∈ term, decide (c ≠ '"') = true := by
      intro c hc
      simpa using ne_of_mem_of_not_mem hc hunquoted
    have htaken : (term ++ '"' :: after).takeWhile (· ≠ '"') = term := by
      rw [List.takeWhile_append_of_pos hkept]
      simp
    rw [quotedTerm?, htaken]
    simp [hfilled]

theorem not_termAt_nil : ¬ TermAt [] before term := by
  rintro ⟨-, -, after, htext⟩
  simp at htext

/-- A term at the beginning of a text is the one that is found there. -/
theorem termAt_nil_iff :
    TermAt text [] term ↔ (dropStart? containsWords text).bind quotedTerm? = some term := by
  have hwords : "contains \"".toList = containsWords := rfl
  simp only [Option.bind_eq_some_iff, dropStart?_eq_some_iff, quotedTerm?_eq_some_iff]
  constructor
  · rintro ⟨hfilled, hunquoted, after, htext⟩
    rw [hwords, List.nil_append] at htext
    exact ⟨_, htext, hfilled, hunquoted, after, rfl⟩
  · rintro ⟨_, htext, hfilled, hunquoted, after, rfl⟩
    rw [← hwords] at htext
    exact ⟨hfilled, hunquoted, after, htext⟩

/-- A term further on stands in the rest of the text. -/
theorem termAt_cons_iff {c d : Char} : TermAt (c :: text) (d :: before) term ↔ c = d ∧ TermAt text before term := by
  constructor
  · rintro ⟨hfilled, hunquoted, after, htext⟩
    obtain ⟨hc, hrest⟩ := List.cons.inj htext
    exact ⟨hc, hfilled, hunquoted, after, hrest⟩
  · rintro ⟨rfl, hfilled, hunquoted, after, rfl⟩
    exact ⟨hfilled, hunquoted, after, rfl⟩

namespace TermAt

variable {before' term' : List Char}

/-- At one place stands one term. -/
protected theorem unique (h : TermAt text before term) (h' : TermAt text before term') : term = term' := by
  induction before generalizing text with
  | nil =>
      rw [termAt_nil_iff] at h h'
      exact Option.some.inj (h.symm.trans h')
  | cons d before ih =>
      cases text with
      | nil => exact absurd h not_termAt_nil
      | cons c text => exact ih (termAt_cons_iff.mp h).2 (termAt_cons_iff.mp h').2

theorem before_eq (h : TermAt text before term) (h' : TermAt text before' term')
    (hlength : before.length = before'.length) : before = before' := by
  obtain ⟨after, htext⟩ := h.placed
  obtain ⟨after', htext'⟩ := h'.placed
  exact (List.append_inj (htext.symm.trans htext') hlength).1

end TermAt

/-! ## First terms -/

/-- The term at the leftmost place of a text, and the empty term where a text has no place. -/
inductive Searched (text : List Char) : List Char → Prop where
  | first {before term : List Char} (hplace : TermAt text before term)
      (hleast : ∀ before' term', TermAt text before' term' → before.length ≤ before'.length) : Searched text term
  | nowhere (h : ∀ before term, ¬ TermAt text before term) : Searched text []

namespace Searched

protected theorem unique {term' : List Char} (h : Searched text term) (h' : Searched text term') : term = term' := by
  cases h with
  | first hplace hleast =>
      cases h' with
      | first hplace' hleast' =>
          have hlength := Nat.le_antisymm (hleast _ _ hplace') (hleast' _ _ hplace)
          obtain rfl := hplace.before_eq hplace' hlength
          exact hplace.unique hplace'
      | nowhere hnowhere => exact absurd hplace (hnowhere _ _)
  | nowhere hnowhere =>
      cases h' with
      | first hplace' _ => exact absurd hplace' (hnowhere _ _)
      | nowhere _ => rfl

/-- The searched term is empty exactly if there is no place. -/
theorem eq_nil_iff (h : Searched text term) : term = [] ↔ ∀ before t, ¬ TermAt text before t := by
  cases h with
  | first hplace _ =>
      simp only [hplace.filled, false_iff]
      intro hnowhere
      exact hnowhere _ _ hplace
  | nowhere hnowhere => simpa using hnowhere

/-- Where no term stands at the beginning, the term of the rest is searched for. -/
theorem cons {c : Char} (hnone : ∀ t, ¬ TermAt (c :: text) [] t) (h : Searched text term) :
    Searched (c :: text) term := by
  have hlater : ∀ {before t}, TermAt (c :: text) before t → ∃ before', before = c :: before' ∧ TermAt text before' t := by
    intro before t hplace
    cases before with
    | nil => exact absurd hplace (hnone t)
    | cons d before =>
        obtain ⟨rfl, hrest⟩ := termAt_cons_iff.mp hplace
        exact ⟨before, rfl, hrest⟩
  cases h with
  | first hplace hleast =>
      apply Searched.first (termAt_cons_iff.mpr ⟨rfl, hplace⟩)
      intro before' t hplace'
      obtain ⟨before', rfl, hrest⟩ := hlater hplace'
      simpa using hleast before' t hrest
  | nowhere hnowhere =>
      apply Searched.nowhere
      intro before t hplace
      obtain ⟨before', -, hrest⟩ := hlater hplace
      exact hnowhere before' t hrest

end Searched

/-- **The term that is found is the first one**, by induction over the text. -/
theorem searched_containsTerm? (text : List Char) : Searched text ((containsTerm? text).getD []) := by
  induction text with
  | nil =>
      apply Searched.nowhere
      intro before term
      exact not_termAt_nil
  | cons c text ih =>
      rw [containsTerm?]
      split
      next term hfirst =>
        apply Searched.first (termAt_nil_iff.mpr hfirst)
        intro before' term' _
        exact Nat.zero_le _
      next hnone =>
        apply ih.cons
        intro t hplace
        rw [termAt_nil_iff, hnone] at hplace
        cases hplace

/-! ## Rules -/

/-- **A rule with the word `contains` searches for its first quoted term.** Unless it has the word `length`, its
    expression searches the content for a literal that is read as that term, whatever characters the term has, and as
    the empty text exactly if no term stands in the rule. -/
theorem translateRule_contains {rule : String} (hcontains : "contains".toList <:+: rule.toList)
    (hlength : ¬ "length".toList <:+: rule.toList) :
    ∃ l term, translateRule rule = "input.content && input.content.includes(" ++ l ++ ")" ∧ IsLiteral l term
      ∧ (∀ t, Searched rule.toList t ↔ t = term.toList)
      ∧ (term = "" ↔ ∀ before t, ¬ TermAt rule.toList before t) := by
  have hsearched := searched_containsTerm? rule.toList
  refine ⟨_, String.ofList ((containsTerm? rule.toList).getD []), ?_, isLiteral_literal _, ?_, ?_⟩
  · have hfound := (isInfix_iff _ _).mpr hcontains
    have hfree := mt (isInfix_iff _ _).mp hlength
    rw [translateRule, occurs, if_neg hfree, occurs, if_pos hfound]
  · intro t
    rw [String.toList_ofList]
    constructor
    · intro h
      exact h.unique hsearched
    · rintro rfl
      exact hsearched
  · rw [← hsearched.eq_nil_iff]
    simp

/-- An empty term, a term with a backslash and a line break, and a further term. -/
def nearMissRule : String := "contains \"\" or contains \"caf\u00e9\\\n\" or contains \"tea\""

/-- The empty term of the rule is passed over, and the next one is searched for. -/
theorem translateRule_contains_nearMissRule :
    "contains".toList <:+: nearMissRule.toList ∧ ¬ "length".toList <:+: nearMissRule.toList
      ∧ ∃ l, translateRule nearMissRule = "input.content && input.content.includes(" ++ l ++ ")"
        ∧ IsLiteral l "caf\u00e9\\\n" := by
  have hcontains : "contains".toList <:+: nearMissRule.toList := by decide +kernel
  have hlength : ¬ "length".toList <:+: nearMissRule.toList := by decide +kernel
  obtain ⟨l, term, hrule, hliteral, hterm, -⟩ := translateRule_contains hcontains hlength
  have hfound : (containsTerm? nearMissRule.toList).getD [] = "caf\u00e9\\\n".toList := by decide +kernel
  have hsearched := searched_containsTerm? nearMissRule.toList
  rw [hfound, hterm, String.toList_inj] at hsearched
  rw [← hsearched] at hliteral
  exact ⟨hcontains, hlength, l, hrule, hliteral⟩

example : translateRule "contains \"a contains \"b\"" = "input.content && input.content.includes(\"a contains \")" := by
  decide +kernel

end PromptGraph
