import PromptGraph.Proofs.Effect.Asked
import PromptGraph.Proofs.Effect.Trials

/-!
# `Proofs.Effect.Repetition` — what a repeated attempt asks for

An attempt that is repeated asks for what its trials ask for, one after the other, with a wait between each and the
next. The trials are counted by how they end: those that ask for another, and the first that does not, or the last
that may be made.

## Contents
- **Composition.** `asked_bind`, `asked_attempt`.
- **Waits.** `spaced`, `spaced_replicate`.
- **Trials.** `trialsAsked`.
- **Loops.** `AsksInTurn`, and `AsksInTurn.asked_loop` by induction on the trials that are left.
- **Repetition.** `asksInTurn_retry`, `retry_made`.
-/

namespace PromptGraph.Act

variable {σ α β : Type}

/-! ## Composition -/

/-- A composed program asks for what its first part asks for, and then for what follows from the value. -/
theorem asked_bind (h : Handler σ) (p : Act α) (f : α → Act β) (s : σ) :
    asked h (p >>= f) s = asked h p s ++ match p.run h s with
      | (.value a, t) => asked h (f a) t
      | _ => [] := by
  induction p generalizing s with
  | done a => rfl
  | failed e => rfl
  | unfinished => rfl
  | ask q k ih => exact congrArg (q :: ·) (ih (h q s).1 (h q s).2)

theorem asked_attempt (h : Handler σ) (p : Act α) (s : σ) : asked h (attempt p) s = asked h p s := by
  induction p generalizing s with
  | ask q k ih => exact congrArg (q :: ·) (ih (h q s).1 (h q s).2)
  | _ => rfl

/-! ## Waits -/

/-- What is asked for in rounds, with waits between them; where the waits are used up there is none. -/
def spaced : List Double → List (List Effect) → List Effect
  | w :: waits, xs :: ys :: rest => xs ++ .pause w :: spaced waits (ys :: rest)
  | _, rounds => rounds.flatten

/-- Rounds that each ask for one thing are that thing over and over, with the waits between. -/
theorem spaced_replicate (w : Double) (q : Effect) {rest count : Nat} (hcount : count ≤ rest + 1) :
    spaced (List.replicate rest w) (List.replicate count [q]) = (List.replicate count q).intersperse (.pause w) := by
  induction rest generalizing count with
  | zero =>
      obtain rfl | rfl : count = 0 ∨ count = 1 := by omega
      · rfl
      · rfl
  | succ rest ih =>
      match count with
      | 0 => rfl
      | 1 => rfl
      | count + 2 => exact congrArg (q :: .pause w :: ·) (ih (Nat.le_of_succ_le_succ hcount))

/-! ## Trials -/

section Trials

variable (h : Handler σ) (p : Act α) (wait : Nat → Double)

/-- What the first trials ask for, each from the state that those before it lead to. -/
def trialsAsked (n : Nat) (s : σ) (count : Nat) : List (List Effect) :=
  (List.range count).map fun j => asked h p (trialState h p wait n j s)

variable {h p wait}

theorem length_trialsAsked (n : Nat) (s : σ) (count : Nat) : (trialsAsked h p wait n s count).length = count := by
  unfold trialsAsked
  rw [List.length_map, List.length_range]

theorem getElem_trialsAsked (n : Nat) (s : σ) (count j : Nat) (hj : j < (trialsAsked h p wait n s count).length) :
    (trialsAsked h p wait n s count)[j] = asked h p (trialState h p wait n j s) := by
  simp only [trialsAsked, List.getElem_map, List.getElem_range]

theorem trialsAsked_succ (n : Nat) (s : σ) (count : Nat) :
    trialsAsked h p wait n s (count + 1)
      = asked h p s :: trialsAsked h p wait (n + 1) (h (.pause (wait n)) (p.run h s).2).2 count := by
  unfold trialsAsked
  rw [List.range_succ_eq_map, List.map_cons, List.map_map]
  rfl

/-- Trials that ask for the same from every state. -/
theorem trialsAsked_of_forall {xs : List Effect} (hsame : ∀ t, asked h p t = xs) (n : Nat) (s : σ) (count : Nat) :
    trialsAsked h p wait n s count = List.replicate count xs := by
  unfold trialsAsked
  simp only [hsame, List.map_const', List.length_range]

end Trials

/-! ## Loops -/

/-- A loop asks for what a trial asks for, and then for a wait and what the other trials ask for, or for nothing. -/
structure AsksInTurn (h : Handler σ) (p : Act α) (wait : Nat → Double) (again : End α → Prop)
    (loop : Nat → Nat → Act β) : Prop where
  stops : ∀ rest n s, ¬ again (p.run h s).1 → asked h (loop rest n) s = asked h p s
  goesOn : ∀ rest n s, again (p.run h s).1 → asked h (loop (rest + 1) n) s
    = asked h p s ++ .pause (wait n) :: asked h (loop rest (n + 1)) (h (.pause (wait n)) (p.run h s).2).2
  spends : ∀ n s, asked h (loop 0 n) s = asked h p s

/-- **So many trials are made.** Where each of `k` trials asks for another, and the next one does not or may not be
    followed by another, a loop asks for what these trials ask for, with the waits between; by induction on the trials
    that are left. -/
theorem AsksInTurn.asked_loop {h : Handler σ} {p : Act α} {wait : Nat → Double} {again : End α → Prop}
    {loop : Nat → Nat → Act β} (hloop : AsksInTurn h p wait again loop) {k rest n : Nat} {s : σ} (hk : k ≤ rest)
    (hbefore : ∀ j < k, again (trial h p wait n s j).1) (hlast : k = rest ∨ ¬ again (trial h p wait n s k).1) :
    asked h (loop rest n) s = spaced ((List.range' n rest).map wait) (trialsAsked h p wait n s (k + 1)) := by
  induction rest generalizing k n s with
  | zero =>
      obtain rfl : k = 0 := Nat.le_zero.mp hk
      rw [hloop.spends]
      exact (List.append_nil _).symm
  | succ rest ih =>
      cases k with
      | zero =>
          have hstop : ¬ again (p.run h s).1 := hlast.resolve_left (Nat.succ_ne_zero rest).symm
          rw [hloop.stops _ _ _ hstop]
          exact (List.append_nil _).symm
      | succ k =>
          have hfirst : again (p.run h s).1 := hbefore 0 (Nat.succ_pos k)
          have hrest := ih (n := n + 1) (s := (h (.pause (wait n)) (p.run h s).2).2) (Nat.le_of_succ_le_succ hk)
            (fun j hj => hbefore (j + 1) (Nat.succ_lt_succ hj)) (hlast.imp_left Nat.succ.inj)
          rw [hloop.goesOn _ _ _ hfirst, hrest, trialsAsked_succ n s (k + 1), trialsAsked_succ (n + 1) _ k]
          rfl

/-! ## Repetition -/

section Repetition

variable {h : Handler σ} {p : Act α} {wait : Nat → Double} {again : Failure → Bool}

/-- An attempt after which no other is made asks for what its work asks for, and any other is followed by a wait and the
    attempts after it. -/
theorem asksInTurn_retry (h : Handler σ) (p : Act α) (wait : Nat → Double) (again : Failure → Bool) :
    AsksInTurn h p wait (AsksAgain again) (retry again wait p) where
  stops := by
    intro rest n s hstop
    cases rest with
    | zero => rfl
    | succ rest =>
        show asked h (attempt p >>= _) s = _
        rw [asked_bind, asked_attempt, run_attempt]
        rcases hrun : p.run h s with ⟨o, t⟩
        rw [hrun] at hstop
        cases o with
        | value a => exact List.append_nil _
        | failure e =>
            have hnot : again e ≠ true := fun he => hstop ⟨e, rfl, he⟩
            show _ ++ asked h (if again e = true then _ else failed e) t = _
            rw [if_neg hnot]
            exact List.append_nil _
        | cut => exact List.append_nil _
  goesOn := by
    intro rest n s hagain
    obtain ⟨e, hend, he⟩ := hagain
    show asked h (attempt p >>= _) s = _
    rw [asked_bind, asked_attempt, run_attempt]
    rcases hrun : p.run h s with ⟨o, t⟩
    rw [hrun] at hend
    cases hend
    show _ ++ asked h (if again e = true then _ else failed e) t = _
    rw [if_pos he]
    rfl
  spends := fun _ _ => rfl

/-- **So many attempts are made.** Where each of `k` attempts asks for another, and the next one does not or may not be
    followed by another, the repetition ends with it, and asks for what the attempts ask for, with waits between. -/
theorem retry_made {k rest n : Nat} {s : σ} (hk : k ≤ rest)
    (hbefore : ∀ j < k, AsksAgain again (trial h p wait n s j).1)
    (hlast : k = rest ∨ ¬ AsksAgain again (trial h p wait n s k).1) :
    (retry again wait p rest n).run h s = trial h p wait n s k
      ∧ asked h (retry again wait p rest n) s
        = spaced ((List.range' n rest).map wait) (trialsAsked h p wait n s (k + 1)) := by
  refine ⟨?_, (asksInTurn_retry h p wait again).asked_loop hk hbefore hlast⟩
  have hrepeated := (repeats_retry h p wait again).run rest n s
  by_cases hagain : AsksAgain again (trial h p wait n s k).1
  · -- the attempts are used up
    obtain rfl : k = rest := hlast.resolve_right (not_not_intro hagain)
    refine hrepeated.eq_spend fun j hj => ?_
    rcases Nat.lt_or_eq_of_le (Nat.le_of_lt_succ hj) with hlt | rfl
    · exact hbefore j hlt
    · exact hagain
  · exact hrepeated.eq_stop (Nat.lt_succ_of_le hk) hbefore hagain

end Repetition

end PromptGraph.Act
