import PromptGraph.Proofs.Effect.Programs

/-!
# `Proofs.Effect.Comparison` — one program beside two handlers

Two handlers that answer alike whatever a program asks for run it alike. Where they differ in some effects, a value that
the program brings beside the one is brought beside the other as long as the program goes on alike from the answers.
`Follows` says so, with what holds of the value and of the two states that are reached.

## Contents
- **Alike.** `run_congr`.
- **Following.** `Follows` with its rules for the ways of composing programs.
-/

namespace PromptGraph.Act

variable {σ α β : Type} {h h' : Handler σ}

/-! ## Alike -/

/-- **Handlers that answer alike what a program may ask for run it alike.** -/
theorem run_congr {C : Prop} {p : Act α} (hp : p.Asks (fun q => h q = h' q) C) (s : σ) : p.run h s = p.run h' s := by
  induction p generalizing s with
  | done a => rfl
  | failed e => rfl
  | unfinished => rfl
  | ask q k ih =>
      have hanswer : h q s = h' q s := congrFun hp.1 s
      rw [run_ask, run_ask, ← hanswer]
      exact ih (h q s).1 (hp.2 _) (h q s).2

/-! ## Following -/

/-- A value that a program brings beside the first handler, it brings beside the second, and `Q` holds of the value and
    of the states that are reached. -/
def Follows (h h' : Handler σ) (p : Act α) (s s' : σ) (Q : α → σ → σ → Prop) : Prop :=
  ∀ a t, p.run h s = (.value a, t) → ∃ t', p.run h' s' = (.value a, t') ∧ Q a t t'

section Rules

variable {s s' : σ} {p : Act α} {Q : α → σ → σ → Prop}

theorem follows_done {a : α} (hQ : Q a s s') : Follows h h' (done a) s s' Q := by
  intro b t hrun
  obtain ⟨hvalue, rfl⟩ := Prod.mk.inj hrun
  cases hvalue
  exact ⟨s', rfl, hQ⟩

theorem follows_failed {e : Failure} : Follows h h' (failed e : Act α) s s' Q := by
  intro a t hrun
  cases hrun

theorem follows_mono {R : α → σ → σ → Prop} (hRQ : ∀ a t t', R a t t' → Q a t t') (hp : Follows h h' p s s' R) :
    Follows h h' p s s' Q := by
  intro a t hrun
  obtain ⟨t', hrun', hR⟩ := hp a t hrun
  exact ⟨t', hrun', hRQ a t t' hR⟩

theorem follows_ofExcept {x : Except Failure α} (hQ : ∀ a, x = .ok a → Q a s s') :
    Follows h h' (ofExcept x) s s' Q := by
  cases x with
  | ok a => exact follows_done (hQ a rfl)
  | error e => exact follows_failed

theorem follows_bind {f : α → Act β} {Q : β → σ → σ → Prop}
    (hp : Follows h h' p s s' fun a t t' => Follows h h' (f a) t t' Q) : Follows h h' (p >>= f) s s' Q := by
  intro b t hrun
  rcases run_bind_cases hrun with ⟨a, m, hfirst, hrest⟩ | ⟨e, -, hend⟩ | ⟨-, hend⟩
  · obtain ⟨m', hfirst', hfollows⟩ := hp a m hfirst
    obtain ⟨t', hrest', hQ⟩ := hfollows b t hrest
    exact ⟨t', by rw [run_bind, hfirst']; exact hrest', hQ⟩
  · cases hend
  · cases hend

/-- From one state a program follows itself as long as the handlers answer alike. -/
theorem follows_self {C : Prop} (hp : p.Asks (fun q => h q = h' q) C)
    (hQ : ∀ a t, p.run h s = (.value a, t) → Q a t t) : Follows h h' p s s Q := by
  intro a t hrun
  exact ⟨t, (run_congr hp s).symm.trans hrun, hQ a t hrun⟩

/-- An attempt whose failures bring no value follows where the program does. -/
theorem follows_attempt {f : Except Failure α → Act β} {Q : β → σ → σ → Prop}
    (hp : Follows h h' p s s' fun a t t' => Follows h h' (f (.ok a)) t t' Q)
    (herror : ∀ e b t m, (f (.error e)).run h m ≠ (.value b, t)) : Follows h h' (attempt p >>= f) s s' Q := by
  intro b t hrun
  rw [run_bind, run_attempt] at hrun
  rcases hfirst : p.run h s with ⟨o, m⟩
  rw [hfirst] at hrun
  cases o with
  | value a =>
      obtain ⟨m', hfirst', hfollows⟩ := hp a m hfirst
      obtain ⟨t', hrest', hQ⟩ := hfollows b t hrun
      exact ⟨t', by rw [run_bind, run_attempt, hfirst']; exact hrest', hQ⟩
  | failure e => exact absurd hrun (herror e b t m)
  | cut => cases hrun

end Rules

end PromptGraph.Act
