import PromptGraph.Effect.Rehearsal
import PromptGraph.Proofs.Engine.Footprint

/-!
# `Proofs.Engine.Budget` — a listing ends within its budget

Answers given in advance are used up: a page of a listing that is followed by another takes one of them, and no
program gets any back. A listing whose budget exceeds the answers that are left therefore comes to an end, and so does
whatever is composed of such listings and of programs that always end.

## Contents
- **Answers left.** `run_replies_le`, and `run_send_replies_lt`.
- **Endings.** `EndsWithin n`: never cut while fewer than `n` answers are left; `endsWithin_listWorkflows`.
-/

namespace PromptGraph

open Act Engine Http

variable {α β : Type}

/-! ## Answers left -/

/-- A request without an address changes nothing; any other is noted and takes the next reply. -/
theorem answer_exchange (r : Request) (w : Rehearsal) :
    Rehearsal.answer (.exchange r) w = (.unaddressed, w)
      ∨ ∃ address, Rehearsal.answer (.exchange r) w =
          (Rehearsal.replyFrom address (w.replies.headD Rehearsal.exhausted),
            { w with replies := w.replies.tail, requests := w.requests ++ [r] }) := by
  simp only [Rehearsal.answer]
  cases w.base.address? r with
  | none => exact Or.inl rfl
  | some address => exact Or.inr ⟨address, rfl⟩

theorem answer_replies_le (q : Effect) (w : Rehearsal) :
    (Rehearsal.answer q w).2.replies.length ≤ w.replies.length := by
  cases q with
  | exchange request =>
      rcases answer_exchange request w with h | ⟨address, h⟩
      · exact Nat.le_of_eq (congrArg (fun x => x.2.replies.length) h)
      · rw [h]
        exact List.length_tail ▸ Nat.sub_le _ _
  | forget chain => cases chain <;> exact Nat.le_refl _
  | _ => exact Nat.le_refl _

/-- No program is given answers back. -/
theorem run_replies_le (p : Act α) (w : Rehearsal) :
    (p.run Rehearsal.answer w).2.replies.length ≤ w.replies.length := by
  induction p generalizing w with
  | done a => exact Nat.le_refl _
  | failed e => exact Nat.le_refl _
  | unfinished => exact Nat.le_refl _
  | ask q k ih => exact Nat.le_trans (ih _ _) (answer_replies_le q w)

/-- A request that brings a value has used an answer up. -/
theorem run_send_replies_lt [Depth] {r : Request} {w w' : Rehearsal} {v : Json}
    (hrun : (send r).run Rehearsal.answer w = (.value v, w')) : w'.replies.length < w.replies.length := by
  rcases run_send Rehearsal.answer r w with ⟨e, hr⟩ | hr
  · rw [hr] at hrun
    cases hrun
  · rw [hr] at hrun
    obtain ⟨hvalue, rfl⟩ := Prod.mk.inj hrun
    have hok := endOf_eq_value.mp hvalue
    rcases answer_exchange r w with h | ⟨address, h⟩
    · rw [h] at hok
      cases hok
    · rw [h] at hok ⊢
      cases hl : w.replies with
      | nil =>
          rw [hl] at hok
          cases hok
      | cons first rest => exact Nat.lt_succ_self _

/-! ## Endings -/

/-- A program that is never cut while fewer than `n` answers are left. -/
def EndsWithin (n : Nat) (p : Act α) : Prop :=
  ∀ w : Rehearsal, w.replies.length < n → (p.run Rehearsal.answer w).1 ≠ .cut

theorem endsWithin_of_asks {n : Nat} {P : Effect → Prop} {p : Act α} (hp : p.Asks P False) : EndsWithin n p :=
  fun w _ => run_ne_cut hp Rehearsal.answer w

theorem endsWithin_done {n : Nat} (a : α) : EndsWithin n (done a) := fun _ _ => nofun

theorem endsWithin_ofExcept {n : Nat} (x : Except Failure α) : EndsWithin n (ofExcept x) :=
  endsWithin_of_asks (P := fun _ => True) (asks_ofExcept x)

theorem endsWithin_bind {n : Nat} {p : Act α} {f : α → Act β} (hp : EndsWithin n p)
    (hf : ∀ a, EndsWithin n (f a)) : EndsWithin n (p >>= f) := by
  intro w hw hcut
  obtain ⟨t, hrun⟩ : ∃ t, (p >>= f).run Rehearsal.answer w = (.cut, t) := ⟨_, Prod.ext hcut rfl⟩
  rcases run_bind_cases hrun with ⟨a, m, hfirst, hrest⟩ | ⟨e, -, hend⟩ | ⟨hfirst, -⟩
  · have hm : m.replies.length < n := by
      have hle := run_replies_le p w
      rw [hfirst] at hle
      exact Nat.lt_of_le_of_lt hle hw
    exact hf a m hm (by rw [hrest])
  · cases hend
  · exact hp w hw (by rw [hfirst])

/-- **A listing is not cut while fewer answers are left than its budget.** Induction on the budget: the page before
    each further one has used an answer up. -/
theorem endsWithin_listFrom [Depth] (e : Endpoint) (budget : Nat) (cursor : Option Json) :
    EndsWithin budget (listFrom e budget cursor) := by
  induction budget generalizing cursor with
  | zero => exact fun w hw => absurd hw (Nat.not_lt_zero _)
  | succ budget ih =>
      intro w hw hcut
      obtain ⟨t, hrun⟩ : ∃ t, (listFrom e (budget + 1) cursor).run Rehearsal.answer w = (.cut, t) :=
        ⟨_, Prod.ext hcut rfl⟩
      rcases run_bind_cases hrun with ⟨page, m, hpage, hrest⟩ | ⟨f, -, hend⟩ | ⟨hpage, -⟩
      · -- the page has used an answer up, so the further ones fit the smaller budget
        have hm : m.replies.length < budget := by
          have hlt := run_send_replies_lt hpage
          omega
        refine endsWithin_bind (endsWithin_ofExcept (readPage page)) ?_ m hm (by rw [hrest])
        rintro ⟨items, next⟩
        cases next with
        | none => exact endsWithin_done _
        | some c => exact endsWithin_bind (ih (some c)) (fun more => endsWithin_done _)
      · cases hend
      · exact run_ne_cut (asks_send (P := fun _ => True) trivial) Rehearsal.answer w (congrArg Prod.fst hpage)

theorem endsWithin_listWorkflows [Depth] (budget : Nat) : EndsWithin budget (listWorkflows budget) :=
  endsWithin_bind (endsWithin_listFrom .workflows budget none) (fun _ => endsWithin_ofExcept _)

end PromptGraph
