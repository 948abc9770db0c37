import PromptGraph.Proofs.Effect.Courses

/-!
# `Proofs.Effect.Trials` — a piece of work that is tried again

A loop tries one piece of work, and where the end of a trial asks for it waits and tries again, a bounded number of
times. Polling is such a loop, and so is an attempt that is repeated. The trials are runs of the work alone, each from
the state that the trial and the wait before it lead to, and `Repeats.run` says which of them decides how the loop
ends.

## Contents
- **Trials.** `trialState`, `trial`, `trialExchanges`, and `trialState_related` by induction on the trials.
- **Loops.** `Repeats`, `Repeated`, and `Repeats.run` by induction on the trials that are left; `Repeated.end_iff`,
  `Repeated.again_iff`: which ends a loop has whose trials decide by themselves.
- **Repetition.** `AsksAgain`, `repeats_retry`.
-/

namespace PromptGraph.Act

variable {σ α β : Type}

/-! ## Trials -/

section Trials

variable (h : Handler σ) (p : Act α) (wait : Nat → Double)

/-- The state before a trial: the trials before it were made, each followed by a wait. The waits are counted from
    `n`. -/
def trialState (n : Nat) : Nat → σ → σ
  | 0, s => s
  | k + 1, s => trialState (n + 1) k (h (.pause (wait n)) (p.run h s).2).2

/-- A trial of a piece of work. -/
def trial (n : Nat) (s : σ) (k : Nat) : End α × σ := p.run h (trialState h p wait n k s)

/-- The requests of a trial with their replies. -/
def trialExchanges (n : Nat) (s : σ) (k : Nat) : List Exchange := exchanges h p (trialState h p wait n k s)

variable {h p wait}

theorem course_trial (n : Nat) (s : σ) (k : Nat) : Course p (trialExchanges h p wait n s k) (trial h p wait n s k).1 :=
  course_run h p _

/-- What the work and a wait keep is kept until any trial, by induction on the trials before it. -/
theorem trialState_related {R : σ → σ → Prop} (hrefl : ∀ s, R s s) (htrans : ∀ {a b c}, R a b → R b c → R a c)
    (hwork : ∀ s, R s (p.run h s).2) (hwait : ∀ n s, R s (h (.pause (wait n)) s).2) (k n : Nat) (s : σ) :
    R s (trialState h p wait n k s) := by
  induction k generalizing n s with
  | zero => exact hrefl s
  | succ k ih =>
      have hfirst : R s (h (.pause (wait n)) (p.run h s).2).2 := htrans (hwork s) (hwait n _)
      exact htrans hfirst (ih (n + 1) _)

end Trials

/-! ## Loops -/

/-- A loop makes a trial, and then stops, waits and goes on, or is spent. -/
structure Repeats (h : Handler σ) (p : Act α) (wait : Nat → Double) (again : End α → Prop) (loop : Nat → Nat → Act β)
    (stop spend : End α × σ → End β × σ) : Prop where
  stops : ∀ rest n s, ¬ again (p.run h s).1 → (loop rest n).run h s = stop (p.run h s)
  goesOn : ∀ rest n s, again (p.run h s).1 →
    (loop (rest + 1) n).run h s = (loop rest (n + 1)).run h (h (.pause (wait n)) (p.run h s).2).2
  spends : ∀ n s, again (p.run h s).1 → (loop 0 n).run h s = spend (p.run h s)

/-- How a loop ends that makes so many trials at most. -/
inductive Repeated (again : End α → Prop) (stop spend : End α × σ → End β × σ) (trials : Nat → End α × σ) :
    (attempts : Nat) → End β × σ → Prop where
  /-- A trial does not ask for another, and all before it do. -/
  | stopped {attempts k : Nat} (hk : k < attempts) (hbefore : ∀ j < k, again (trials j).1)
      (hstop : ¬ again (trials k).1) : Repeated again stop spend trials attempts (stop (trials k))
  | spent {last : Nat} (hall : ∀ j < last + 1, again (trials j).1) :
      Repeated again stop spend trials (last + 1) (spend (trials last))

section Loops

variable {h : Handler σ} {p : Act α} {wait : Nat → Double} {again : End α → Prop}
variable {loop : Nat → Nat → Act β} {stop spend : End α × σ → End β × σ}

/-- What the first of some trials asks for, and those after it. -/
theorem again_succ {trials : Nat → End α × σ} {k : Nat} (hfirst : again (trials 0).1)
    (hrest : ∀ j < k, again (trials (j + 1)).1) : ∀ j < k + 1, again (trials j).1 := by
  intro j hj
  cases j with
  | zero => exact hfirst
  | succ j => exact hrest j (Nat.lt_of_succ_lt_succ hj)

/-- A trial that asks for another is followed by the trials after it. -/
theorem Repeated.succ {trials : Nat → End α × σ} {attempts : Nat} {x : End β × σ} (hfirst : again (trials 0).1)
    (hrest : Repeated again stop spend (fun k => trials (k + 1)) attempts x) :
    Repeated again stop spend trials (attempts + 1) x := by
  cases hrest with
  | @stopped _ k hk hbefore hstop =>
      exact .stopped (k := k + 1) (Nat.succ_lt_succ hk) (again_succ hfirst hbefore) hstop
  | spent hall => exact .spent (again_succ hfirst hall)

/-- There is one trial that does not ask for another and comes after trials that do. -/
theorem first_unique {asks : Nat → Prop} {k k' : Nat} (hbefore : ∀ j < k, asks j) (hstop : ¬ asks k)
    (hbefore' : ∀ j < k', asks j) (hstop' : ¬ asks k') : k' = k := by
  have hle : ¬ k < k' := fun hlt => hstop (hbefore' k hlt)
  have hge : ¬ k' < k := fun hlt => hstop' (hbefore k' hlt)
  omega

/-- The first trial that does not ask for another is the one that decides. -/
theorem Repeated.eq_stop {trials : Nat → End α × σ} {attempts k : Nat} {x : End β × σ}
    (hx : Repeated again stop spend trials attempts x) (hk : k < attempts) (hbefore : ∀ j < k, again (trials j).1)
    (hstop : ¬ again (trials k).1) : x = stop (trials k) := by
  cases hx with
  | @stopped _ k' hk' hbefore' hstop' =>
      rw [first_unique hbefore hstop hbefore' hstop']
  | spent hall => exact absurd (hall k hk) hstop

/-- Where every trial asks for another, the last one decides. -/
theorem Repeated.eq_spend {trials : Nat → End α × σ} {attempts : Nat} {x : End β × σ}
    (hx : Repeated again stop spend trials attempts x) (hall : ∀ j < attempts, again (trials j).1) :
    x = spend (trials (attempts - 1)) := by
  cases hx with
  | stopped hk _ hstop => exact absurd (hall _ hk) hstop
  | spent _ => rfl

/-- **A loop ends with the first trial that does not ask for another, or with its last.** -/
theorem Repeats.run (hloop : Repeats h p wait again loop stop spend) (rest n : Nat) (s : σ) :
    Repeated again stop spend (trial h p wait n s) (rest + 1) ((loop rest n).run h s) := by
  induction rest generalizing n s with
  | zero =>
      have hfirst : ∀ j < 0, again (trial h p wait n s j).1 := fun j hj => absurd hj (Nat.not_lt_zero j)
      by_cases hagain : again (p.run h s).1
      · rw [hloop.spends n s hagain]
        show Repeated again stop spend (trial h p wait n s) 1 (spend (trial h p wait n s 0))
        exact .spent (again_succ hagain fun j hj => absurd hj (Nat.not_lt_zero j))
      · rw [hloop.stops 0 n s hagain]
        show Repeated again stop spend (trial h p wait n s) 1 (stop (trial h p wait n s 0))
        exact .stopped Nat.one_pos hfirst hagain
  | succ rest ih =>
      have hfirst : ∀ j < 0, again (trial h p wait n s j).1 := fun j hj => absurd hj (Nat.not_lt_zero j)
      by_cases hagain : again (p.run h s).1
      · -- the other trials begin where the wait after this one leads to
        rw [hloop.goesOn rest n s hagain]
        have hrest : Repeated again stop spend (fun k => trial h p wait n s (k + 1)) (rest + 1)
            ((loop rest (n + 1)).run h (h (.pause (wait n)) (p.run h s).2).2) := ih _ _
        exact hrest.succ hagain
      · rw [hloop.stops (rest + 1) n s hagain]
        show Repeated again stop spend (trial h p wait n s) (rest + 1 + 1) (stop (trial h p wait n s 0))
        exact .stopped (Nat.succ_pos _) hfirst hagain

end Loops

section Ends

variable {again : End α → Prop} {trials : Nat → End α × σ} {attempts : Nat} {x : End α × σ}

/-- An end that asks for no other trial is that of the first such trial. -/
theorem Repeated.end_iff (hx : Repeated again id id trials attempts x) {o : End α} (ho : ¬ again o) :
    x.1 = o ↔ ∃ k < attempts, (∀ j < k, again (trials j).1) ∧ (trials k).1 = o := by
  constructor
  · rintro rfl
    cases hx with
    | stopped hk hbefore hstop => exact ⟨_, hk, hbefore, rfl⟩
    | @spent last hall => exact absurd (hall last (Nat.lt_succ_self last)) ho
  · rintro ⟨k, hk, hbefore, rfl⟩
    rw [hx.eq_stop hk hbefore ho]
    rfl

/-- The end asks for another trial exactly if every trial does. -/
theorem Repeated.again_iff (hx : Repeated again id id trials attempts x) :
    again x.1 ↔ ∀ k < attempts, again (trials k).1 := by
  cases hx with
  | @stopped _ k hk _ hstop => exact ⟨fun hagain => absurd hagain hstop, fun hall => hall k hk⟩
  | @spent last hall => exact ⟨fun _ => hall, fun _ => hall last (Nat.lt_succ_self last)⟩

/-- It is then the end of the last trial. -/
theorem Repeated.eq_last (hx : Repeated again id id trials attempts x) (hagain : again x.1) :
    x = trials (attempts - 1) := hx.eq_spend (hx.again_iff.mp hagain)

/-- The loop ends as one of its trials does. -/
theorem Repeated.eq_trial (hx : Repeated again id id trials attempts x) : ∃ k < attempts, x = trials k := by
  cases hx with
  | stopped hk _ _ => exact ⟨_, hk, rfl⟩
  | @spent last hall => exact ⟨last, Nat.lt_succ_self last, rfl⟩

end Ends

/-! ## Repetition -/

/-- A trial has failed, and its failure asks for another. -/
def AsksAgain (again : Failure → Bool) (o : End α) : Prop := ∃ e, o = .failure e ∧ again e = true

/-- An attempt that is repeated ends as its last trial does. -/
theorem repeats_retry (h : Handler σ) (p : Act α) (wait : Nat → Double) (again : Failure → Bool) :
    Repeats h p wait (AsksAgain again) (retry again wait p) id id where
  stops := by
    intro rest n s hnot
    cases rest with
    | zero => rfl
    | succ rest =>
        show (attempt p >>= _).run h s = p.run h s
        rw [run_bind, run_attempt]
        rcases hrun : p.run h s with ⟨o, t⟩
        rw [hrun] at hnot
        cases o with
        | value a => rfl
        | failure e =>
            have hagain : again e ≠ true := fun he => hnot ⟨e, rfl, he⟩
            show Act.run h (if again e = true then _ else failed e) t = _
            rw [if_neg hagain]
            rfl
        | cut => rfl
  goesOn := by
    intro rest n s hagain
    obtain ⟨e, hend, he⟩ := hagain
    show (attempt p >>= _).run h s = _
    rw [run_bind, run_attempt]
    rcases hrun : p.run h s with ⟨o, t⟩
    rw [hrun] at hend
    cases hend
    show Act.run h (if again e = true then _ else failed e) t = _
    rw [if_pos he]
    rfl
  spends := fun _ _ _ => rfl

end PromptGraph.Act
