import PromptGraph.Proofs.Effect.Courses

/-!
# `Proofs.Effect.Asked` — what a run asks for, in order

The footprint of a program bounds what it may ask for on any path; what one run asks for is a list. A property of
exchanges that is kept when they follow one another is proved part by part along the courses of a program, and then
holds of every run.

## Contents
- **Asked.** `asked`, `Asks.of_asked`, `exchange_of_asked`, and `asked_reportAll`.
- **Along courses.** `Additive`, `Along` with its rules for the ways of composing programs, `along_retry` by
  induction; `InRounds`, and `course_retry` by induction.
- **Sent.** `Sends`, a property of each request, with its rules, and `Sends.of_asked`.
-/

namespace PromptGraph.Act

variable {σ α β : Type}

/-! ## Asked -/

/-- The effects that a run asks for. -/
def asked (h : Handler σ) : Act α → σ → List Effect
  | .ask q k, s => q :: asked h (k (h q s).1) (h q s).2
  | _, _ => []

theorem asked_ofExcept (h : Handler σ) (x : Except Failure α) (s : σ) : asked h (ofExcept x) s = [] := by
  cases x <;> rfl

/-- What a footprint says of effects holds of those that a run asks for. -/
theorem Asks.of_asked {P : Effect → Prop} {C : Prop} {p : Act α} (hp : p.Asks P C) {h : Handler σ} {s : σ} {q : Effect}
    (hq : q ∈ asked h p s) : P q := by
  induction p generalizing s with
  | ask q' k ih =>
      rcases List.mem_cons.mp hq with rfl | hq
      · exact hp.1
      · exact ih _ (hp.2 _) hq
  | _ => exact absurd hq List.not_mem_nil

/-- A request that is asked for is among the exchanges of the run. -/
theorem exchange_of_asked {p : Act α} {h : Handler σ} {s : σ} {r : Http.Request}
    (hr : .exchange r ∈ asked h p s) : ∃ reply, ⟨r, reply⟩ ∈ exchanges h p s := by
  induction p generalizing s with
  | ask q k ih =>
      rcases List.mem_cons.mp hr with rfl | hr
      · exact ⟨_, List.mem_cons_self⟩
      · obtain ⟨reply, hreply⟩ := ih _ hr
        exact ⟨reply, List.mem_append_right _ hreply⟩
  | _ => exact absurd hr List.not_mem_nil

/-- What is no notice is asked for after the notices. -/
theorem asked_reportAll {h : Handler σ} (notices : List Notice) (f : Unit → Act β) (s : σ) :
    ∃ t, (reportAll notices >>= f).run h s = (f ()).run h t
      ∧ ∀ q, (∀ n, q ≠ .report n) → (q ∈ asked h (reportAll notices >>= f) s ↔ q ∈ asked h (f ()) t) := by
  induction notices generalizing s with
  | nil => exact ⟨s, rfl, fun _ _ => Iff.rfl⟩
  | cons n rest ih =>
      obtain ⟨t, hrun, hasked⟩ := ih (h (.report n) s).2
      refine ⟨t, hrun, fun q hq => ?_⟩
      have hcons : q ∈ asked h (reportAll (n :: rest) >>= f) s
          ↔ q = .report n ∨ q ∈ asked h (reportAll rest >>= f) (h (.report n) s).2 := List.mem_cons
      rw [hcons, hasked q hq]
      exact or_iff_right (hq n)

/-! ## Along courses -/

/-- A property of exchanges that holds where there are none, and of some and then others. -/
structure Additive (Q : List Exchange → Prop) : Prop where
  nil : Q []
  append : ∀ {xs ys}, Q xs → Q ys → Q (xs ++ ys)

/-- The exchanges of every course of a program have the property `Q`. -/
def Along (Q : List Exchange → Prop) (p : Act α) : Prop := ∀ xs o, Course p xs o → Q xs

section Along

variable {Q : List Exchange → Prop} {p : Act α}

theorem along_bind (hQ : Additive Q) {f : α → Act β} (hp : p.Along Q) (hf : ∀ a, (f a).Along Q) :
    (p >>= f).Along Q := by
  intro xs o hcourse
  rcases course_bind hcourse with ⟨a, ys, zs, hfirst, hrest, rfl⟩ | ⟨e, hfailed, -⟩ | ⟨hcut, -⟩
  · exact hQ.append (hp ys _ hfirst) (hf a zs o hrest)
  · exact hp xs _ hfailed
  · exact hp xs _ hcut

theorem along_attempt (hp : p.Along Q) : (attempt p).Along Q := by
  intro xs o hcourse
  rcases course_attempt hcourse with ⟨a, hdone, -⟩ | ⟨e, hfailed, -⟩ | ⟨hcut, -⟩
  · exact hp xs _ hdone
  · exact hp xs _ hfailed
  · exact hp xs _ hcut

theorem along_of_quiet (hQ : Additive Q) {C : Prop} (hp : p.Asks (fun q => q.isExchange = false) C) : p.Along Q := by
  intro xs o hcourse
  rw [course_quiet hp hcourse]
  exact hQ.nil

/-- What holds along each attempt holds along all of them, by induction on the number of attempts that are left. -/
theorem along_retry (hQ : Additive Q) (hp : p.Along Q) (again : Failure → Bool) (wait : Nat → Double) (rest n : Nat) :
    (retry again wait p rest n).Along Q := by
  induction rest generalizing n with
  | zero => exact hp
  | succ rest ih =>
      refine along_bind hQ (along_attempt hp) fun outcome => ?_
      cases outcome with
      | ok a => exact along_of_quiet hQ (C := True) trivial
      | error e =>
          dsimp only
          split
          · exact along_bind hQ (along_of_quiet hQ (C := True) (asks_perform rfl)) fun _ => ih (n + 1)
          · exact along_of_quiet hQ (C := True) trivial

/-- The exchanges of a program that is gone through several times, at most `n`: those of one time after the other. A
    value is that of one of them. -/
def InRounds (p : Act α) (n : Nat) (xs : List Exchange) (o : End α) : Prop :=
  ∃ rounds : List (List Exchange), rounds.length ≤ n ∧ xs = rounds.flatten ∧ (∀ ys ∈ rounds, ∃ ended, Course p ys ended)
    ∧ ∀ a, o = .value a → ∃ last ∈ rounds, Course p last (.value a)

theorem inRounds_single {n : Nat} {xs : List Exchange} {o : End α} (h : Course p xs o) : InRounds p (n + 1) xs o := by
  refine ⟨[xs], by simp, by simp, List.forall_mem_singleton.mpr ⟨o, h⟩, ?_⟩
  rintro a rfl
  exact ⟨xs, List.mem_singleton_self xs, h⟩

theorem InRounds.cons {n : Nat} {xs ys : List Exchange} {o ended : End α} (hfirst : Course p ys ended)
    (h : InRounds p n xs o) : InRounds p (n + 1) (ys ++ xs) o := by
  obtain ⟨rounds, hlength, rfl, hrounds, hvalue⟩ := h
  refine ⟨ys :: rounds, Nat.succ_le_succ hlength, rfl, List.forall_mem_cons.mpr ⟨⟨_, hfirst⟩, hrounds⟩, ?_⟩
  intro a ha
  obtain ⟨last, hlast, hcourse⟩ := hvalue a ha
  exact ⟨last, List.mem_cons_of_mem ys hlast, hcourse⟩

/-- **The courses of attempts are those of single attempts one after the other**, by induction on the number of
    attempts that are left. -/
theorem course_retry {again : Failure → Bool} {wait : Nat → Double} {rest n : Nat} {xs : List Exchange} {o : End α}
    (h : Course (retry again wait p rest n) xs o) : InRounds p (rest + 1) xs o := by
  induction rest generalizing n xs with
  | zero => exact inRounds_single h
  | succ rest ih =>
      rcases course_bind h with ⟨outcome, ys, zs, hfirst, hrest, rfl⟩ | ⟨e, hfailed, rfl⟩ | ⟨hcut, rfl⟩
      · rcases course_attempt hfirst with ⟨a, ha, hend⟩ | ⟨e, he, hend⟩ | ⟨-, hend⟩
        · cases hend
          cases hrest
          rw [List.append_nil]
          exact inRounds_single ha
        · cases hend
          dsimp only at hrest
          split at hrest
          · -- the pause sends nothing, and the attempts after it are made by induction
            cases hrest with
            | ask _ hmore => exact (ih hmore).cons he
          · cases hrest
            rw [List.append_nil]
            exact inRounds_single he
        · cases hend
      · rcases course_attempt hfailed with ⟨a, -, hend⟩ | ⟨e', -, hend⟩ | ⟨-, hend⟩ <;> cases hend
      · rcases course_attempt hcut with ⟨a, -, hend⟩ | ⟨e', -, hend⟩ | ⟨hcut, -⟩
        · cases hend
        · cases hend
        · exact inRounds_single hcut

end Along

/-! ## Sent -/

/-- Every request on every course of a program has the property `P`. -/
def Sends (P : Http.Request → Prop) (p : Act α) : Prop := p.Along fun xs => ∀ x ∈ xs, P x.request

variable {P : Http.Request → Prop}

theorem additive_sent : Additive fun xs => ∀ x ∈ xs, P x.request where
  nil := List.forall_mem_nil _
  append hxs hys := List.forall_mem_append.mpr ⟨hxs, hys⟩

theorem sends_bind {p : Act α} {f : α → Act β} (hp : p.Sends P) (hf : ∀ a, (f a).Sends P) : (p >>= f).Sends P :=
  along_bind additive_sent hp hf

theorem sends_attempt {p : Act α} (hp : p.Sends P) : (attempt p).Sends P := along_attempt hp

theorem sends_of_quiet {C : Prop} {p : Act α} (hp : p.Asks (fun q => q.isExchange = false) C) : p.Sends P :=
  along_of_quiet additive_sent hp

/-- What a footprint says of requests holds of all that is sent. -/
theorem sends_of_asks {C : Prop} {p : Act α} (hp : p.Asks (fun q => ∀ r, q = .exchange r → P r) C) : p.Sends P := by
  intro xs o hcourse
  induction hcourse with
  | @ask q k answer ys o _ ih =>
      refine List.forall_mem_append.mpr ⟨?_, ih (hp.2 answer)⟩
      cases q with
      | exchange r => exact List.forall_mem_singleton.mpr (hp.1 r rfl)
      | _ => exact List.forall_mem_nil _
  | _ => exact List.forall_mem_nil _

/-- What holds of all that is sent holds of the requests that a run asks for. -/
theorem Sends.of_asked {p : Act α} (hp : p.Sends P) {h : Handler σ} {s : σ} {r : Http.Request}
    (hr : .exchange r ∈ asked h p s) : P r := by
  obtain ⟨reply, hreply⟩ := exchange_of_asked hr
  exact hp _ _ (course_run h p s) ⟨r, reply⟩ hreply

end PromptGraph.Act
