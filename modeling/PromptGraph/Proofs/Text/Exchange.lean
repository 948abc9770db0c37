import Mathlib.Data.List.Infix
import PromptGraph.Text.Replace

/-!
# `Proofs.Text.Exchange` — what replacing every occurrence of a text does

A replacement exchanges pieces of a text and keeps the characters between them. Where a text occurs in the result it
occurred before, or it meets a piece that was put in; the second is ruled out by comparing the ends of the two texts.

## Contents
- **Beginnings.** `dropStart?_eq_some_iff`, `isInfix_iff`: where a text begins with another, and where it holds another.
- **Relations.** `Exchanged`: some pieces were exchanged; `Replaced`: every occurrence was. `replaced_replaceAll`.
- **Ends.** `Apart`: no end of a text meets the beginning of another; `Exchanged.kept` and `Exchanged.came`.
- **Occurrences.** `Exchanged.cut`, `Exchanged.occurrence`, `Replaced.occurrence`; `Exchanged.not_infix` and
  `Replaced.not_infix`.
- **Guards.** `Guarded`: a text occurs after another one only; `Exchanged.guarded` and `Replaced.guarded`.
- **Steps.** `Exchanged.trans_replacement`: one exchange after others.
-/

namespace PromptGraph.Text

/-! ## Beginnings -/

/-- What is left of a text is what follows its beginning. -/
theorem dropStart?_eq_some_iff {p text rest : List Char} : dropStart? p text = some rest ↔ text = p ++ rest := by
  induction p generalizing text with
  | nil => simp [dropStart?]
  | cons s p ih =>
      cases text with
      | nil => simp [dropStart?]
      | cons c text =>
          by_cases hc : s = c
          · simp [dropStart?, hc, ih]
          · simp [dropStart?, hc, Ne.symm hc]

theorem isSome_dropStart? (p text : List Char) : (dropStart? p text).isSome = true ↔ p <+: text := by
  rw [Option.isSome_iff_exists]
  apply exists_congr
  intro rest
  rw [dropStart?_eq_some_iff, eq_comm]

theorem isInfix_iff (needle text : List Char) : isInfix needle text = true ↔ needle <:+: text := by
  induction text with
  | nil => simp [isInfix]
  | cons c text ih => simp [isInfix, ih, isSome_dropStart?, List.infix_cons_iff]

/-! ## Relations -/

/-- Pairs of texts, the first of which gives way to the second. -/
abbrev Pairs := List (List Char × List Char)

/-- The second text is the first one with pieces of it exchanged. -/
inductive Exchanged (pairs : Pairs) : List Char → List Char → Prop where
  | nil : Exchanged pairs [] []
  | keep {before after : List Char} (c : Char) (h : Exchanged pairs before after) :
      Exchanged pairs (c :: before) (c :: after)
  | swap {n r before after : List Char} (hpair : (n, r) ∈ pairs) (h : Exchanged pairs before after) :
      Exchanged pairs (n ++ before) (r ++ after)

/-- The second text is the first one with every occurrence of a text replaced, found from the left. -/
inductive Replaced (n r : List Char) : List Char → List Char → Prop where
  | nil : Replaced n r [] []
  | keep {before after : List Char} (c : Char) (hfree : ¬ n <+: c :: before) (h : Replaced n r before after) :
      Replaced n r (c :: before) (c :: after)
  | swap {before after : List Char} (h : Replaced n r before after) : Replaced n r (n ++ before) (r ++ after)

variable {n r p g before after pre post : List Char} {pairs : Pairs}

theorem Replaced.exchanged (h : Replaced n r before after) : Exchanged [(n, r)] before after := by
  induction h with
  | nil => exact .nil
  | keep c _ _ ih => exact .keep c ih
  | swap _ ih => exact .swap (List.mem_singleton.mpr rfl) ih

theorem replaceFrom_skip (n r : List Char) (skip : Nat) (text : List Char) :
    replaceFrom n r skip text = replaceFrom n r 0 (text.drop skip) := by
  induction text generalizing skip with
  | nil => cases skip <;> rfl
  | cons c text ih =>
      cases skip with
      | zero => rfl
      | succ skip => exact ih skip

/-- **A replacement replaces every occurrence**, by induction on the length of what is left of the text. -/
theorem replaced_replaceAll (hn : n ≠ []) (r text : List Char) : Replaced n r text (replaceAll n r text) := by
  have hempty : n.isEmpty = false := by simpa using hn
  rw [replaceAll, hempty, if_neg Bool.false_ne_true]
  induction hlength : text.length using Nat.strong_induction_on generalizing text with
  | _ length ih =>
      cases text with
      | nil => exact .nil
      | cons c text =>
          rw [replaceFrom]
          split
          next hfound =>
            obtain ⟨rest, hrest⟩ := (isSome_dropStart? n (c :: text)).mp hfound
            have hdrop : text.drop (n.length - 1) = rest := by
              obtain ⟨d, n, rfl⟩ := List.exists_cons_of_ne_nil hn
              rw [← (List.cons.inj hrest).2]
              simp
            have hshorter : rest.length < length := by
              have hsum := congrArg List.length hrest
              have hpos := List.length_pos_iff.mpr hn
              rw [List.length_append] at hsum
              omega
            rw [replaceFrom_skip, hdrop, ← hrest]
            exact .swap (ih rest.length hshorter rest rfl)
          next hfree =>
            refine .keep c (fun hprefix => hfree ((isSome_dropStart? n (c :: text)).mpr hprefix)) ?_
            refine ih text.length ?_ text rfl
            rw [← hlength]
            exact Nat.lt_succ_self _

/-- A text without an occurrence is left as it is. -/
theorem Replaced.eq_of_free (h : Replaced n r before after) (hfree : ¬ n <:+: before) : after = before := by
  induction h with
  | nil => rfl
  | keep c _ _ ih => rw [ih fun hinfix => hfree (List.infix_cons hinfix)]
  | swap _ => exact absurd (List.prefix_append _ _).isInfix hfree

namespace Exchanged

protected theorem refl (pairs : Pairs) (text : List Char) : Exchanged pairs text text := by
  induction text with
  | nil => exact .nil
  | cons c text ih => exact .keep c ih

theorem append {before' after' : List Char} (h : Exchanged pairs before after) (h' : Exchanged pairs before' after') :
    Exchanged pairs (before ++ before') (after ++ after') := by
  induction h with
  | nil => exact h'
  | keep c _ ih => exact .keep c ih
  | swap hpair _ ih =>
      rw [List.append_assoc, List.append_assoc]
      exact .swap hpair ih

/-- Nothing is exchanged in the empty text. -/
theorem eq_nil (h : Exchanged [(n, r)] before after) (hn : n ≠ []) (hempty : before = []) : after = [] := by
  cases h with
  | nil => rfl
  | keep c h => cases hempty
  | swap hpair h =>
      obtain ⟨rfl, -⟩ := Prod.mk.inj (List.mem_singleton.mp hpair)
      exact absurd (List.append_eq_nil_iff.mp hempty).1 hn

/-- What was exchanged can be exchanged back. -/
theorem symm (h : Exchanged pairs before after) : Exchanged (pairs.map Prod.swap) after before := by
  induction h with
  | nil => exact .nil
  | keep c _ ih => exact .keep c ih
  | swap hpair _ ih => exact .swap (List.mem_map.mpr ⟨_, hpair, rfl⟩) ih

/-- What was exchanged in a text was exchanged in the text from its end. -/
theorem reverse (h : Exchanged pairs before after) :
    Exchanged (pairs.map fun pair => (pair.1.reverse, pair.2.reverse)) before.reverse after.reverse := by
  induction h with
  | nil => exact .nil
  | keep c _ ih =>
      rw [List.reverse_cons, List.reverse_cons]
      exact ih.append (.keep c .nil)
  | @swap n r before after hpair _ ih =>
      have hlast : Exchanged (pairs.map fun pair => (pair.1.reverse, pair.2.reverse)) (n.reverse ++ [])
          (r.reverse ++ []) := .swap (List.mem_map.mpr ⟨_, hpair, rfl⟩) .nil
      rw [List.append_nil, List.append_nil] at hlast
      rw [List.reverse_append, List.reverse_append]
      exact ih.append hlast

end Exchanged

/-! ## Ends -/

/-- Neither of two texts begins with the other. -/
def Differs (p q : List Char) : Prop := ¬ p <+: q ∧ ¬ q <+: p

/-- No end of the first text begins like the second one. -/
def Apart (p q : List Char) : Prop := ∀ rest ∈ p.tails, rest ≠ [] → Differs rest q

instance (p q : List Char) : Decidable (Differs p q) := by
  unfold Differs; infer_instance

instance (p q : List Char) : Decidable (Apart p q) := by
  unfold Apart; infer_instance

theorem Apart.tail {c : Char} {q : List Char} (h : Apart (c :: p) q) : Apart p q := fun rest hrest =>
  h rest ((List.mem_tails _ _).mpr (((List.mem_tails _ _).mp hrest).trans (List.suffix_cons c p)))

theorem Apart.differs {q : List Char} (h : Apart p q) (hp : p ≠ []) : Differs p q :=
  h p ((List.mem_tails _ _).mpr List.suffix_rfl) hp

theorem Differs.false_of_prefix {q text : List Char} (h : Differs p q) (hp : p <+: text) (hq : q <+: text) : False := by
  rcases List.prefix_or_prefix_of_prefix hp hq with hpq | hqp
  · exact h.1 hpq
  · exact h.2 hqp

theorem Differs.append_ne {q rest rest' : List Char} (h : Differs p q) : p ++ rest ≠ q ++ rest' := fun heq =>
  h.false_of_prefix (List.prefix_append p rest) (heq ▸ List.prefix_append q rest')

theorem mem_tails_append (a b : List Char) : b ∈ (a ++ b).tails := (List.mem_tails _ _).mpr (List.suffix_append a b)

namespace Exchanged

/-- The beginning of a text that no exchanged piece meets is kept. -/
theorem kept (h : Exchanged pairs (p ++ before) after) (hapart : ∀ pair ∈ pairs, Apart p pair.1) :
    ∃ rest, after = p ++ rest ∧ Exchanged pairs before rest := by
  induction p generalizing after with
  | nil => exact ⟨after, rfl, h⟩
  | cons c p ih =>
      generalize htext : c :: p ++ before = text at h
      cases h with
      | nil => cases htext
      | keep d h =>
          obtain ⟨rfl, rfl⟩ := List.cons.inj htext
          obtain ⟨rest, rfl, hrest⟩ := ih h fun pair hpair => (hapart pair hpair).tail
          exact ⟨rest, rfl, hrest⟩
      | @swap n r _ _ hpair _ =>
          have hdiffers := (hapart _ hpair).differs (List.cons_ne_nil c p)
          exact absurd htext hdiffers.append_ne

/-- The beginning of a result that no piece put in meets was there. -/
theorem came (h : Exchanged pairs before (p ++ after)) (hapart : ∀ pair ∈ pairs, Apart p pair.2) :
    ∃ rest, before = p ++ rest ∧ Exchanged pairs rest after := by
  have hback : ∀ pair ∈ pairs.map Prod.swap, Apart p pair.1 := by
    intro pair hpair
    obtain ⟨original, horiginal, rfl⟩ := List.mem_map.mp hpair
    exact hapart original horiginal
  obtain ⟨rest, hrest, hexchanged⟩ := h.symm.kept hback
  have hforth := hexchanged.symm
  rw [List.map_map, Prod.swap_swap_eq, List.map_id] at hforth
  exact ⟨rest, hrest, hforth⟩

/-- The end of a text that no exchanged piece meets is kept. -/
theorem kept_end (h : Exchanged pairs (before ++ g) after) (hapart : ∀ pair ∈ pairs, Apart g.reverse pair.1.reverse) :
    g <:+ after := by
  have hreverse := h.reverse
  rw [List.reverse_append] at hreverse
  obtain ⟨rest, hrest, -⟩ := hreverse.kept (List.forall_mem_map.mpr hapart)
  rw [← List.reverse_prefix, hrest]
  exact List.prefix_append _ _

/-! ## Occurrences -/

/-- A result is cut between pieces, or at a piece that was put in. -/
theorem cut_at (h : Exchanged pairs before (pre ++ post)) :
    (∃ first rest, before = first ++ rest ∧ Exchanged pairs first pre ∧ Exchanged pairs rest post)
      ∨ ∃ n a b first rest pre' post', (n, a ++ b) ∈ pairs ∧ pre = pre' ++ a ∧ post = b ++ post'
        ∧ before = first ++ (n ++ rest) ∧ Exchanged pairs first pre' ∧ Exchanged pairs rest post' := by
  generalize hafter : pre ++ post = after at h
  induction h generalizing pre with
  | nil =>
      obtain ⟨rfl, rfl⟩ := List.append_eq_nil_iff.mp hafter
      exact .inl ⟨[], [], rfl, .nil, .nil⟩
  | @keep before after c h ih =>
      cases pre with
      | nil =>
          rw [List.nil_append] at hafter
          exact .inl ⟨[], c :: before, rfl, .nil, hafter ▸ .keep c h⟩
      | cons d pre =>
          obtain ⟨rfl, hmore⟩ := List.cons.inj hafter
          rcases ih hmore with ⟨first, rest, rfl, hfirst, hrest⟩ |
            ⟨n, a, b, first, rest, pre', post', hpair, rfl, hpost, rfl, hfirst, hrest⟩
          · exact .inl ⟨d :: first, rest, rfl, .keep d hfirst, hrest⟩
          · exact .inr ⟨n, a, b, d :: first, rest, d :: pre', post', hpair, rfl, hpost, rfl, .keep d hfirst, hrest⟩
  | @swap n r before after hpair h ih =>
      rcases List.append_eq_append_iff.mp hafter with ⟨b, rfl, hpost⟩ | ⟨more, rfl, hmore⟩
      · exact .inr ⟨n, pre, b, [], before, [], after, hpair, rfl, hpost, rfl, .nil, h⟩
      · rcases ih hmore.symm with ⟨first, rest, rfl, hfirst, hrest⟩ |
          ⟨n', a, b, first, rest, pre', post', hpair', rfl, hpost, rfl, hfirst, hrest⟩
        · exact .inl ⟨n ++ first, rest, (List.append_assoc ..).symm, .swap hpair hfirst, hrest⟩
        · exact .inr ⟨n', a, b, n ++ first, rest, r ++ pre', post', hpair', (List.append_assoc ..).symm, hpost,
            (List.append_assoc ..).symm, .swap hpair hfirst, hrest⟩

/-- A result is cut between pieces, or strictly within a piece that was put in. -/
theorem cut (h : Exchanged pairs before (pre ++ post)) :
    (∃ first rest, before = first ++ rest ∧ Exchanged pairs first pre ∧ Exchanged pairs rest post)
      ∨ ∃ n a b first rest post', (n, a ++ b) ∈ pairs ∧ a ≠ [] ∧ b ≠ [] ∧ post = b ++ post'
        ∧ before = first ++ (n ++ rest) ∧ Exchanged pairs rest post' := by
  rcases h.cut_at with hbetween | ⟨n, a, b, first, rest, pre', post', hpair, rfl, rfl, rfl, hfirst, hrest⟩
  · exact .inl hbetween
  by_cases ha : a = []
  · subst ha
    refine .inl ⟨first, n ++ rest, rfl, ?_, .swap hpair hrest⟩
    rwa [List.append_nil]
  by_cases hb : b = []
  · subst hb
    rw [List.append_nil] at hpair
    have hpiece : Exchanged pairs (n ++ []) (a ++ []) := .swap hpair .nil
    rw [List.append_nil, List.append_nil] at hpiece
    exact .inl ⟨first ++ n, rest, (List.append_assoc ..).symm, hfirst.append hpiece, hrest⟩
  · exact .inr ⟨n, a, b, first, rest, post', hpair, ha, hb, rfl, rfl, hrest⟩

/-- Where a text occurs in a result that no piece put in is an end of, it occurred before, or it begins within a piece
    that was put in. -/
theorem occurrence (h : Exchanged pairs before (pre ++ (p ++ post))) (hapart : ∀ pair ∈ pairs, Apart p pair.2) :
    (∃ first rest, before = first ++ (p ++ rest) ∧ Exchanged pairs first pre)
      ∨ ∃ n a b first rest post', (n, a ++ b) ∈ pairs ∧ a ≠ [] ∧ b ≠ [] ∧ p ++ post = b ++ post'
        ∧ before = first ++ (n ++ rest) ∧ Exchanged pairs rest post' := by
  rcases h.cut with ⟨first, rest, rfl, hfirst, hrest⟩ |
    ⟨n, a, b, first, rest, post', hpair, ha, hb, hpost, hbefore, hrest⟩
  · obtain ⟨more, rfl, -⟩ := hrest.came hapart
    exact .inl ⟨first, more, rfl, hfirst⟩
  · exact .inr ⟨n, a, b, first, rest, post', hpair, ha, hb, hpost, hbefore, hrest⟩

/-- **No occurrence comes into being** of a text that no piece put in meets. -/
theorem not_infix (h : Exchanged pairs before after) (hapart : ∀ pair ∈ pairs, Apart p pair.2 ∧ Apart pair.2 p)
    (hfree : ¬ p <:+: before) : ¬ p <:+: after := by
  rintro ⟨pre, post, rfl⟩
  rw [List.append_assoc] at h
  rcases h.occurrence fun pair hpair => (hapart pair hpair).1 with ⟨first, rest, rfl, -⟩ |
    ⟨n, a, b, first, rest, post', hpair, -, hb, hpost, -, -⟩
  · exact hfree ⟨first, rest, List.append_assoc ..⟩
  · have hdiffers := (hapart _ hpair).2 b (mem_tails_append a b) hb
    exact hdiffers.append_ne hpost.symm

end Exchanged

/-- Where a replaced text still occurs, it begins within a piece that was put in. -/
theorem Replaced.occurrence (h : Replaced n r before (pre ++ (n ++ post))) (hn : n ≠ []) (hapart : Apart n r) :
    ∃ a b post', r = a ++ b ∧ a ≠ [] ∧ b ≠ [] ∧ n ++ post = b ++ post' ∧ a <:+ pre := by
  generalize hafter : pre ++ (n ++ post) = after at h
  induction h generalizing pre with
  | nil =>
      rw [List.append_eq_nil_iff, List.append_eq_nil_iff] at hafter
      exact absurd hafter.2.1 hn
  | @keep before after c hfree h ih =>
      cases pre with
      | nil =>
          -- the text begins the result, so it began the text before, where it was found
          have hkept : Exchanged [(n, r)] (c :: before) (n ++ post) := by
            have hafter : n ++ post = c :: after := hafter
            rw [hafter]
            exact .keep c h.exchanged
          obtain ⟨rest, hrest, -⟩ := hkept.came fun pair hpair => by rwa [List.mem_singleton.mp hpair]
          exact absurd (hrest ▸ List.prefix_append n rest) hfree
      | cons d pre =>
          obtain ⟨rfl, hmore⟩ := List.cons.inj hafter
          obtain ⟨a, b, post', hr, ha, hb, hpost, hend⟩ := ih hmore
          exact ⟨a, b, post', hr, ha, hb, hpost, hend.trans (List.suffix_cons d pre)⟩
  | @swap before after h ih =>
      rcases List.append_eq_append_iff.mp hafter with ⟨b, hr, hpost⟩ | ⟨more, rfl, hmore⟩
      · have hdiffers := hapart.differs hn
        by_cases ha : pre = []
        · subst ha
          rw [List.nil_append] at hr hafter
          exact absurd hafter hdiffers.append_ne
        by_cases hb : b = []
        · subst hb
          rw [List.append_nil] at hr
          subst hr
          have hnext : [] ++ (n ++ post) = after := hpost
          obtain ⟨a, b, post', hr, ha, hb, hpost', hend⟩ := ih hnext
          exact absurd (List.suffix_nil.mp hend) ha
        · exact ⟨pre, b, after, hr, ha, hb, hpost, List.suffix_rfl⟩
      · obtain ⟨a, b, post', hr, ha, hb, hpost, hend⟩ := ih hmore.symm
        exact ⟨a, b, post', hr, ha, hb, hpost, hend.trans (List.suffix_append r more)⟩

/-- **No occurrence of a replaced text is left**, if no piece put in meets it. -/
theorem Replaced.not_infix (h : Replaced n r before after) (hn : n ≠ []) (hapart : Apart n r ∧ Apart r n) :
    ¬ n <:+: after := by
  rintro ⟨pre, post, rfl⟩
  rw [List.append_assoc] at h
  obtain ⟨a, b, post', rfl, -, hb, hpost, -⟩ := h.occurrence hn hapart.1
  have hdiffers := hapart.2 b (mem_tails_append a b) hb
  exact hdiffers.append_ne hpost.symm

/-! ## Guards -/

/-- Wherever the second text occurs, the first one stands directly before it. -/
def Guarded (g p text : List Char) : Prop := ∀ pre post, text = pre ++ (p ++ post) → g <:+ pre

/-- What was replaced by itself behind a guard is guarded. -/
theorem Replaced.guarded (h : Replaced n (g ++ n) before after) (hn : n ≠ []) (hapart : Apart n (g ++ n))
    (hends : ∀ b ∈ (g ++ n).tails, b ≠ [] → b ≠ n → b ≠ g ++ n → Differs b n) : Guarded g n after := by
  rintro pre post rfl
  obtain ⟨a, b, post', hr, ha, hb, hpost, hend⟩ := h.occurrence hn hapart
  by_cases hbn : b = n
  · rw [hbn] at hr
    rw [List.append_cancel_right hr]
    exact hend
  · have hproper : b ≠ g ++ n := by
      rintro rfl
      exact ha (List.append_left_eq_self.mp hr.symm)
    have hdiffers := hends b (hr ▸ mem_tails_append a b) hb hbn hproper
    exact absurd hpost.symm hdiffers.append_ne

/-- Where an end of a piece that is put in begins a text, the exchanged piece had the same end, so the text was there
    before; and what stood before that end was not the guard of the text. -/
def Shields (g p n r : List Char) : Prop :=
  ∀ b ∈ r.tails, b ≠ [] → Differs b p
    ∨ (b ++ p.drop b.length = p ∧ Apart (p.drop b.length) r
      ∧ n.take (n.length - b.length) ++ b = n ∧ Differs (n.take (n.length - b.length)).reverse g.reverse)

instance (g p n r : List Char) : Decidable (Shields g p n r) := by
  unfold Shields; infer_instance

/-- **A guard stays**, if no exchanged piece meets it and no piece put in meets the text behind it. -/
theorem Exchanged.guarded (h : Exchanged [(n, r)] before after) (hguarded : Guarded g p before) (hapart : Apart p r)
    (hguard : Apart g.reverse n.reverse) (hshields : Shields g p n r) : Guarded g p after := by
  rintro pre post rfl
  rcases h.occurrence (by simpa using hapart) with ⟨first, rest, rfl, hfirst⟩ |
    ⟨n', a, b, first, rest, post', hpair, -, hb, hpost, rfl, hrest⟩
  · obtain ⟨more, rfl⟩ := hguarded first rest rfl
    exact hfirst.kept_end (by simpa using hguard)
  · obtain ⟨rfl, rfl⟩ := Prod.mk.inj (List.mem_singleton.mp hpair)
    rcases hshields b (mem_tails_append a b) hb with hdiffers | ⟨hp, hq, hn, hdiffers⟩
    · exact absurd hpost.symm hdiffers.append_ne
    · -- the piece ends as the exchanged one did, so the text occurred before, and without its guard
      generalize n'.take (n'.length - b.length) = m at hn hdiffers
      generalize p.drop b.length = q at hp hq
      subst hp hn
      rw [List.append_assoc, List.append_cancel_left_eq] at hpost
      subst hpost
      obtain ⟨more, rfl, -⟩ := hrest.came (by simpa using hq)
      have hbefore : g <:+ first ++ m := hguarded (first ++ m) more (by simp)
      exact (hdiffers.false_of_prefix (List.reverse_prefix.mpr (List.suffix_append first m))
        (List.reverse_prefix.mpr hbefore)).elim

/-! ## Steps -/

/-- What a further exchange makes of a kept character: it is kept again, or the piece that begins with it is taken. -/
theorem Exchanged.of_keep {middle : List Char} {c : Char} (h : Exchanged pairs before middle)
    (h' : Exchanged [(n, r)] (c :: middle) after) (hn : n ≠ []) (hapart : ∀ pair ∈ pairs, Apart n pair.2) :
    (∃ rest, after = c :: rest ∧ Exchanged [(n, r)] middle rest)
      ∨ ∃ rest middle' rest', c :: before = n ++ rest ∧ after = r ++ rest' ∧ Exchanged pairs rest middle'
        ∧ Exchanged [(n, r)] middle' rest' := by
  generalize htext : c :: middle = text at h'
  cases h' with
  | nil => cases htext
  | keep d h' =>
      obtain ⟨rfl, rfl⟩ := List.cons.inj htext
      exact .inl ⟨_, rfl, h'⟩
  | @swap _ _ middle' rest' hpair h' =>
      obtain ⟨rfl, rfl⟩ := Prod.mk.inj (List.mem_singleton.mp hpair)
      obtain ⟨rest, hbefore, hrest⟩ := Exchanged.came (htext ▸ Exchanged.keep c h) hapart
      exact .inr ⟨rest, middle', rest', hbefore, rfl, hrest, h'⟩

/-- **One exchange after others is one more exchange**, if what it looks for meets no piece that they put in; by
    induction on the length of what is left of the text. -/
theorem Exchanged.trans_replacement {middle : List Char} (h : Exchanged pairs before middle)
    (h' : Exchanged [(n, r)] middle after) (hn : n ≠ []) (hpairs : ∀ pair ∈ pairs, pair.1 ≠ [])
    (hapart : ∀ pair ∈ pairs, Apart n pair.2 ∧ Apart pair.2 n) : Exchanged (pairs ++ [(n, r)]) before after := by
  induction hlength : before.length using Nat.strong_induction_on generalizing before middle after with
  | _ length ih =>
      cases h with
      | nil =>
          obtain rfl : after = [] := h'.eq_nil hn rfl
          exact .nil
      | @keep before middle c h =>
          rcases h.of_keep h' hn fun pair hpair => (hapart pair hpair).1 with
            ⟨rest, rfl, hrest⟩ | ⟨rest, middle', rest', hbefore, rfl, hmiddle, hrest⟩
          · exact .keep c (ih before.length (by simp [← hlength]) h hrest rfl)
          · have hshorter : rest.length < length := by
              have hpos := List.length_pos_iff.mpr hn
              rw [hbefore, List.length_append] at hlength
              omega
            rw [hbefore]
            exact .swap List.mem_concat_self (ih _ hshorter hmiddle hrest rfl)
      | @swap n₀ r₀ before middle hpair h =>
          obtain ⟨rest, rfl, hrest⟩ := h'.kept (by simpa using (hapart _ hpair).2)
          have hshorter : before.length < length := by
            have hpos : 0 < n₀.length := List.length_pos_iff.mpr (hpairs _ hpair)
            rw [List.length_append] at hlength
            omega
          exact .swap (List.mem_append_left _ hpair) (ih _ hshorter h hrest rfl)

end PromptGraph.Text
