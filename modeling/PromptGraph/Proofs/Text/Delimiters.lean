import Mathlib.Data.List.Basic

/-!
# `Proofs.Text.Delimiters` — when two texts with a delimiter inside are the same

A text is joined from two parts with a delimiter between them. Where the parts may hold the delimiter themselves, the
joined text does not tell them: the delimiter of one reading stands inside a part of the other.

## Contents
- **Lists.** `append_cons_eq_append_cons_iff`, and with a character that a part does not have `append_cons_eq_iff` and
  `append_cons_eq_iff_of_ne`.
- **Texts.** `Moves`: the delimiter comes further on in the second reading; `joined_eq_iff` and `joined_eq_iff_of_ne`.
-/

namespace PromptGraph

/-! ## Lists -/

section Lists

variable {α : Type} {c d : α} {as bs xs ys : List α}

/-- Two joined lists are the same when their parts are, or when the separator of one stands inside the first part of
    the other. -/
theorem append_cons_eq_append_cons_iff :
    as ++ c :: xs = bs ++ c :: ys ↔ (as = bs ∧ xs = ys) ∨ (∃ us, bs = as ++ c :: us ∧ xs = us ++ c :: ys)
      ∨ ∃ us, as = bs ++ c :: us ∧ ys = us ++ c :: xs := by
  constructor
  · intro h
    rcases List.append_eq_append_iff.mp h with ⟨us, rfl, hxs⟩ | ⟨us, rfl, hys⟩
    · cases us with
      | nil => simpa using hxs
      | cons u us =>
          cases hxs
          exact Or.inr (Or.inl ⟨us, rfl, rfl⟩)
    · cases us with
      | nil => simpa [eq_comm] using hys
      | cons u us =>
          cases hys
          exact Or.inr (Or.inr ⟨us, rfl, rfl⟩)
  · rintro (⟨rfl, rfl⟩ | ⟨us, rfl, rfl⟩ | ⟨us, rfl, rfl⟩)
    all_goals simp

/-- The separator of the first list cannot stand further on where the second part of the second one lacks it. -/
theorem append_cons_eq_iff (hc : c ∉ ys) :
    as ++ c :: xs = bs ++ c :: ys ↔ (as = bs ∧ xs = ys) ∨ ∃ us, xs = us ++ c :: ys ∧ bs = as ++ c :: us := by
  rw [append_cons_eq_append_cons_iff]
  apply or_congr_right
  constructor
  · rintro (⟨us, hbs, hxs⟩ | ⟨us, -, rfl⟩)
    · exact ⟨us, hxs, hbs⟩
    · simp at hc
  · rintro ⟨us, hxs, hbs⟩
    exact Or.inl ⟨us, hbs, hxs⟩

/-- Of two different separators, the one that the first part lacks comes later. -/
theorem append_cons_eq_iff_of_ne (hne : c ≠ d) (hd : d ∉ as) :
    as ++ c :: xs = bs ++ d :: ys ↔ ∃ us, bs = as ++ c :: us ∧ xs = us ++ d :: ys := by
  constructor
  · intro h
    rcases List.append_eq_append_iff.mp h with ⟨us, rfl, hxs⟩ | ⟨us, rfl, hys⟩
    · cases us with
      | nil =>
          cases hxs
          exact absurd rfl hne
      | cons u us =>
          cases hxs
          exact ⟨us, rfl, rfl⟩
    · cases us with
      | nil =>
          cases hys
          exact absurd rfl hne
      | cons u us =>
          cases hys
          simp at hd
  · rintro ⟨us, rfl, rfl⟩
    simp

end Lists

/-! ## Texts -/

/-- Read as `b` and `y`, a text joined from `a` and `x` has its delimiter further on. -/
def Moves (delimiter a x b y : String) : Prop := ∃ m, b = a ++ delimiter ++ m ∧ x = m ++ delimiter ++ y

variable {a b x y d d' : String} {c c' : Char}

theorem toList_joined (hd : d.toList = [c]) (a x : String) : (a ++ d ++ x).toList = a.toList ++ c :: x.toList := by
  simp [hd]

theorem exists_joined_iff (hd : d.toList = [c]) (hd' : d'.toList = [c']) :
    (∃ m, b = a ++ d ++ m ∧ x = m ++ d' ++ y)
      ↔ ∃ us, b.toList = a.toList ++ c :: us ∧ x.toList = us ++ c' :: y.toList := by
  constructor
  · rintro ⟨m, rfl, rfl⟩
    exact ⟨m.toList, toList_joined hd a m, toList_joined hd' m y⟩
  · rintro ⟨us, hb, hx⟩
    refine ⟨String.ofList us, String.toList_injective ?_, String.toList_injective ?_⟩
    · rw [toList_joined hd, hb, String.toList_ofList]
    · rw [toList_joined hd', hx, String.toList_ofList]

/-- **Two joined texts are the same** when their parts are, or when the delimiter moves. -/
theorem joined_eq_iff (hd : d.toList = [c]) :
    a ++ d ++ x = b ++ d ++ y ↔ (a = b ∧ x = y) ∨ Moves d a x b y ∨ Moves d b y a x := by
  rw [← String.toList_inj, toList_joined hd, toList_joined hd, append_cons_eq_append_cons_iff, String.toList_inj,
    String.toList_inj, Moves, Moves, exists_joined_iff hd hd, exists_joined_iff hd hd]

theorem joined_eq_iff_of_ne (hd : d.toList = [c]) (hd' : d'.toList = [c']) (hne : c ≠ c') (ha : c' ∉ a.toList) :
    a ++ d ++ x = b ++ d' ++ y ↔ ∃ m, b = a ++ d ++ m ∧ x = m ++ d' ++ y := by
  rw [exists_joined_iff hd hd', ← append_cons_eq_iff_of_ne hne ha, ← String.toList_inj, toList_joined hd,
    toList_joined hd']

end PromptGraph
