import Mathlib.Data.List.Basic
import PromptGraph.Text.Lines

/-!
# `Proofs.Text.Lines` — a text on a single line

## Contents
- **Joining.** `forall_mem_intercalate`: what holds of the parts and of the separator holds of the whole.
- **Lines.** `isLineEnd_of_splitLines`: no line has an end of line in it; `isLineEnd_of_oneLine`: nor has a text on a
  single line.
-/

namespace PromptGraph

theorem forall_mem_intercalate {α : Type} {P : α → Prop} {sep : List α} (hsep : ∀ a ∈ sep, P a) {items : List (List α)}
    (hitems : ∀ as ∈ items, ∀ a ∈ as, P a) : ∀ a ∈ sep.intercalate items, P a := by
  induction items with
  | nil => exact fun a ha => absurd ha List.not_mem_nil
  | cons as items ih =>
      have hmore := ih fun bs hbs => hitems bs (List.mem_cons_of_mem _ hbs)
      have hfirst := hitems as List.mem_cons_self
      cases items with
      | nil => simpa using hfirst
      | cons bs items =>
          rw [List.intercalate_cons_cons, List.forall_mem_append, List.forall_mem_append]
          exact ⟨⟨hfirst, hsep⟩, hmore⟩

namespace Text

/-- No line has an end of line in it, by induction along the text. -/
theorem isLineEnd_of_splitLines (line cs : List Char) (hline : ∀ c ∈ line, isLineEnd c = false) :
    ∀ l ∈ splitLines line cs, ∀ c ∈ l, isLineEnd c = false := by
  have hended : ∀ {line : List Char}, (∀ c ∈ line, isLineEnd c = false) → ∀ c ∈ line.reverse, isLineEnd c = false :=
    fun h c hc => h c (List.mem_reverse.mp hc)
  fun_induction splitLines line cs with
  | case1 => exact List.forall_mem_nil _
  | case2 line hrest => exact List.forall_mem_cons.mpr ⟨hended hline, List.forall_mem_nil _⟩
  | case3 line rest ih => exact List.forall_mem_cons.mpr ⟨hended hline, ih (List.forall_mem_nil _)⟩
  | case4 line c rest hpair hend ih => exact List.forall_mem_cons.mpr ⟨hended hline, ih (List.forall_mem_nil _)⟩
  | case5 line c rest hpair hend ih => exact ih (List.forall_mem_cons.mpr ⟨Bool.eq_false_iff.mpr hend, hline⟩)

/-- **A text on a single line has no end of line in it.** -/
theorem isLineEnd_of_oneLine (s : String) : ∀ c ∈ (oneLine s).toList, isLineEnd c = false := by
  rw [oneLine, String.toList_intercalate]
  have hspace : ∀ c ∈ " ".toList, isLineEnd c = false := List.forall_mem_singleton.mpr rfl
  refine forall_mem_intercalate hspace fun l hl => ?_
  rw [lines, List.map_map, List.mem_map] at hl
  obtain ⟨cs, hcs, rfl⟩ := hl
  rw [Function.comp_apply, String.toList_ofList]
  exact isLineEnd_of_splitLines [] s.toList (List.forall_mem_nil _) cs hcs

end Text

end PromptGraph
