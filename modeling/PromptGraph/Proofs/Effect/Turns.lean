import PromptGraph.Proofs.Effect.Programs

/-!
# `Proofs.Effect.Turns` — programs that take turns

A program that waits for the answer to a request lets others go on. Between two requests it is not interrupted: in its
turn it gets the answer that it waits for and goes on to its next request, or to its end.

## Contents
- **Turns.** `settle`: up to the next request; `turn`. Turns do not change what a program comes to (`run_turn`).
- **Composed programs.** `settle_bind`: without requests the first part runs to its end at once.
- **Two programs.** `interleave`: the turns of two programs in an arbitrary order.
-/

namespace PromptGraph

/-- Whether an effect is a request. -/
def Effect.isExchange : Effect → Bool
  | .exchange _ => true
  | _ => false

namespace Act

variable {σ α β : Type}

/-! ## Turns -/

/-- Carries a program on to its next request. -/
def settle (h : Handler σ) : Act α → σ → Act α × σ
  | .ask q k, s => if q.isExchange then (.ask q k, s) else settle h (k (h q s).1) (h q s).2
  | p, s => (p, s)

/-- Answers what a program asks for, and carries it on to its next request. -/
def turn (h : Handler σ) : Act α → σ → Act α × σ
  | .ask q k, s => settle h (k (h q s).1) (h q s).2
  | p, s => (p, s)

theorem run_settle (h : Handler σ) (p : Act α) (s : σ) :
    (settle h p s).1.run h (settle h p s).2 = p.run h s := by
  induction p generalizing s with
  | done a => rfl
  | failed e => rfl
  | unfinished => rfl
  | ask q k ih =>
      rw [settle]
      split
      · rfl
      · rw [ih, run_ask]

/-- **A program comes to the same whether it is run at once or by turns.** -/
theorem run_turn (h : Handler σ) (p : Act α) (s : σ) : (turn h p s).1.run h (turn h p s).2 = p.run h s := by
  cases p with
  | ask q k => exact run_settle h (k (h q s).1) (h q s).2
  | _ => rfl

/-! ## Composed programs -/

/-- Goes on with the value of an ended first part, and else ends as it did. -/
def resume (h : Handler σ) (f : α → Act β) : End α × σ → Act β × σ
  | (.value a, t) => settle h (f a) t
  | (.failure e, t) => (failed e, t)
  | (.cut, t) => (unfinished, t)

/-- **A part that sends no request runs to its end within the turn.** -/
theorem settle_bind {h : Handler σ} {C : Prop} {p : Act α} (hp : p.Asks (fun q => q.isExchange = false) C)
    (f : α → Act β) (s : σ) : settle h (p >>= f) s = resume h f (p.run h s) := by
  induction p generalizing s with
  | done a => rfl
  | failed e => rfl
  | unfinished => rfl
  | ask q k ih =>
      have hq : q.isExchange = false := hp.1
      rw [ask_bind, settle, hq]
      exact ih _ (hp.2 _) _

/-! ## Two programs -/

/-- Two programs take turns: the first where the schedule says `true`, the second where it says `false`. -/
def interleave (h : Handler σ) : (schedule : List Bool) → Act α → Act β → σ → Act α × Act β × σ
  | [], p, q, s => (p, q, s)
  | true :: rest, p, q, s => interleave h rest (turn h p s).1 q (turn h p s).2
  | false :: rest, p, q, s => interleave h rest p (turn h q s).1 (turn h q s).2

/-- The value of a program that is done. -/
def value? : Act α → Option α
  | .done a => some a
  | _ => none

theorem eq_of_value? {x : Act α × Act β × σ} {a : α} {b : β} (ha : x.1.value? = some a)
    (hb : x.2.1.value? = some b) : x = (done a, done b, x.2.2) := by
  obtain ⟨p, q, s⟩ := x
  cases p with
  | done v =>
      cases q with
      | done w =>
          cases ha
          cases hb
          rfl
      | _ => cases hb
  | _ => cases ha

end Act

end PromptGraph
