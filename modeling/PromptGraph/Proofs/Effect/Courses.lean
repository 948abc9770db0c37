import PromptGraph.Proofs.Effect.Turns

/-!
# `Proofs.Effect.Courses` — the requests of a program with what came of them

A course of a program is a way that it may go, whatever it is answered: the requests that it sends, each with its reply,
and its end. Every run takes a course, so what holds of all courses of a program holds beside any engine, any cache and
any files. The courses of a composed program are put together from those of its parts.

## Contents
- **Exchanges.** `Exchange`, `exchanges`: the requests of a run with their replies; `exchanges_bind`,
  `exchanges_bind_pure`, `exchanges_bind_ofExcept`, `exchanges_attempt`.
- **Courses.** `Course`, `course_run`; `course_bind`, `course_bind_value`, `course_attempt`, `course_quiet`,
  `course_reportAll`, `course_ofExcept`, `course_bind_ofExcept`: the courses of composed programs. Conversely
  `course_of_bind`, `course_of_attempt`.
-/

namespace PromptGraph

/-! ## Exchanges -/

/-- A request, and what came of it. -/
structure Exchange where
  request : Http.Request
  reply : Http.Reply

/-- The exchange that an answered effect is, if it is a request. -/
def Effect.noted : (q : Effect) → q.Answer → List Exchange
  | .exchange r, reply => [⟨r, reply⟩]
  | _, _ => []

theorem Effect.noted_of_not_exchange {q : Effect} (hq : q.isExchange = false) (answer : q.Answer) :
    q.noted answer = [] := by
  cases q with
  | exchange r => cases hq
  | _ => rfl

namespace Act

variable {σ α β : Type}

/-- The requests of a run with their replies. -/
def exchanges (h : Handler σ) : Act α → σ → List Exchange
  | .ask q k, s => q.noted (h q s).1 ++ exchanges h (k (h q s).1) (h q s).2
  | _, _ => []

/-- The exchanges of a composed run whose first part has a value: those of the first part, then those of the rest. -/
theorem exchanges_bind {h : Handler σ} {p : Act α} {f : α → Act β} {s t : σ} {a : α} (hp : p.run h s = (.value a, t)) :
    exchanges h (p >>= f) s = exchanges h p s ++ exchanges h (f a) t := by
  induction p generalizing s with
  | done b =>
      cases hp
      rfl
  | ask q k ih =>
      have hmore : exchanges h (k (h q s).1 >>= f) (h q s).2
          = exchanges h (k (h q s).1) (h q s).2 ++ exchanges h (f a) t := ih (h q s).1 hp
      rw [exchanges, List.append_assoc, ← hmore]
      rfl
  | _ => cases hp

/-- What is made of a value sends nothing. -/
theorem exchanges_bind_pure (h : Handler σ) (p : Act α) (f : α → β) (s : σ) :
    exchanges h (p >>= fun a => pure (f a)) s = exchanges h p s := by
  induction p generalizing s with
  | ask q k ih => exact congrArg (q.noted (h q s).1 ++ ·) (ih (h q s).1 (h q s).2)
  | _ => rfl

/-- Reading what a program brings asks for nothing more. -/
theorem exchanges_bind_ofExcept (h : Handler σ) (p : Act α) (read : α → Except Failure β) (s : σ) :
    exchanges h (p >>= fun a => ofExcept (read a)) s = exchanges h p s := by
  induction p generalizing s with
  | done a =>
      show exchanges h (ofExcept (read a)) s = []
      cases read a <;> rfl
  | ask q k ih => exact congrArg (q.noted (h q s).1 ++ ·) (ih (h q s).1 (h q s).2)
  | _ => rfl

theorem exchanges_attempt (h : Handler σ) (p : Act α) (s : σ) : exchanges h (attempt p) s = exchanges h p s := by
  induction p generalizing s with
  | ask q k ih => exact congrArg (q.noted (h q s).1 ++ ·) (ih (h q s).1 (h q s).2)
  | _ => rfl

/-! ## Courses -/

/-- A program may send these requests, be answered so, and end so. -/
inductive Course : Act α → List Exchange → End α → Prop where
  | done (a : α) : Course (done a) [] (.value a)
  | failed (e : Failure) : Course (failed e) [] (.failure e)
  | unfinished : Course unfinished [] .cut
  | ask {q : Effect} {k : q.Answer → Act α} (answer : q.Answer) {xs : List Exchange} {o : End α}
      (h : Course (k answer) xs o) : Course (ask q k) (q.noted answer ++ xs) o

/-- **Every run takes a course.** -/
theorem course_run (h : Handler σ) (p : Act α) (s : σ) : Course p (exchanges h p s) (p.run h s).1 := by
  induction p generalizing s with
  | done a => exact .done a
  | failed e => exact .failed e
  | unfinished => exact .unfinished
  | ask q k ih => exact .ask (h q s).1 (ih (h q s).1 (h q s).2)

/-- The courses of a composed program: a course of the first part, and then one of the rest, if there is a rest. -/
theorem course_bind {p : Act α} {f : α → Act β} {xs : List Exchange} {o : End β} (h : Course (p >>= f) xs o) :
    (∃ a ys zs, Course p ys (.value a) ∧ Course (f a) zs o ∧ xs = ys ++ zs)
      ∨ (∃ e, Course p xs (.failure e) ∧ o = .failure e) ∨ (Course p xs .cut ∧ o = .cut) := by
  induction p generalizing xs with
  | done a => exact Or.inl ⟨a, [], xs, .done a, h, rfl⟩
  | failed e =>
      cases h
      exact Or.inr (Or.inl ⟨e, .failed e, rfl⟩)
  | unfinished =>
      cases h
      exact Or.inr (Or.inr ⟨.unfinished, rfl⟩)
  | ask q k ih =>
      cases h with
      | ask answer h =>
          rcases ih answer h with ⟨a, ys, zs, hys, hzs, rfl⟩ | ⟨e, he, ho⟩ | ⟨hcut, ho⟩
          · exact Or.inl ⟨a, q.noted answer ++ ys, zs, .ask answer hys, hzs, (List.append_assoc _ _ _).symm⟩
          · exact Or.inr (Or.inl ⟨e, .ask answer he, ho⟩)
          · exact Or.inr (Or.inr ⟨.ask answer hcut, ho⟩)

/-- A course that brings a value goes through a value of the first part. -/
theorem course_bind_value {p : Act α} {f : α → Act β} {xs : List Exchange} {b : β}
    (h : Course (p >>= f) xs (.value b)) :
    ∃ a ys zs, Course p ys (.value a) ∧ Course (f a) zs (.value b) ∧ xs = ys ++ zs := by
  rcases course_bind h with hvalue | ⟨e, -, hend⟩ | ⟨-, hend⟩
  · exact hvalue
  · cases hend
  · cases hend

/-- An attempted program takes the courses of the program, with its failures as values. -/
theorem course_attempt {p : Act α} {xs : List Exchange} {o : End (Except Failure α)} (h : Course (attempt p) xs o) :
    (∃ a, Course p xs (.value a) ∧ o = .value (.ok a)) ∨ (∃ e, Course p xs (.failure e) ∧ o = .value (.error e))
      ∨ (Course p xs .cut ∧ o = .cut) := by
  induction p generalizing xs with
  | done a =>
      cases h
      exact Or.inl ⟨a, .done a, rfl⟩
  | failed e =>
      cases h
      exact Or.inr (Or.inl ⟨e, .failed e, rfl⟩)
  | unfinished =>
      cases h
      exact Or.inr (Or.inr ⟨.unfinished, rfl⟩)
  | ask q k ih =>
      cases h with
      | ask answer h =>
          rcases ih answer h with ⟨a, ha, ho⟩ | ⟨e, he, ho⟩ | ⟨hcut, ho⟩
          · exact Or.inl ⟨a, .ask answer ha, ho⟩
          · exact Or.inr (Or.inl ⟨e, .ask answer he, ho⟩)
          · exact Or.inr (Or.inr ⟨.ask answer hcut, ho⟩)

/-- A course of the first part that brings a value, and then one of the rest, is a course of the composed program. -/
theorem course_of_bind {p : Act α} {f : α → Act β} {ys zs : List Exchange} {a : α} {o : End β}
    (hp : Course p ys (.value a)) (hf : Course (f a) zs o) : Course (p >>= f) (ys ++ zs) o := by
  generalize hend : End.value a = ended at hp
  induction hp with
  | done b =>
      cases hend
      exact hf
  | failed e => cases hend
  | unfinished => cases hend
  | @ask q k answer xs ended _ ih =>
      rw [List.append_assoc]
      exact .ask answer (ih hend)

theorem course_of_attempt {p : Act α} {xs : List Exchange} {a : α} (hp : Course p xs (.value a)) :
    Course (attempt p) xs (.value (.ok a)) := by
  generalize hend : End.value a = ended at hp
  induction hp with
  | done b =>
      cases hend
      exact .done (Except.ok a)
  | failed e => cases hend
  | unfinished => cases hend
  | ask answer _ ih => exact .ask answer (ih hend)

/-- A program without requests has no exchanges. -/
theorem course_quiet {C : Prop} {p : Act α} (hp : p.Asks (fun q => q.isExchange = false) C) {xs : List Exchange}
    {o : End α} (h : Course p xs o) : xs = [] := by
  induction p generalizing xs with
  | ask q k ih =>
      cases h with
      | ask answer h => rw [Effect.noted_of_not_exchange hp.1, ih answer (hp.2 answer) h, List.append_nil]
  | _ =>
      cases h
      rfl

/-- Notices are reported beside the requests. -/
theorem course_reportAll {notices : List Notice} {f : Unit → Act β} {xs : List Exchange} {o : End β}
    (h : Course (reportAll notices >>= f) xs o) : Course (f ()) xs o := by
  induction notices with
  | nil => exact h
  | cons n rest ih =>
      cases h with
      | ask _ h => exact ih h

theorem course_ofExcept {x : Except Failure α} {xs : List Exchange} {o : End α} (h : Course (ofExcept x) xs o) :
    xs = [] ∧ o = endOf x := by
  cases x with
  | ok a =>
      cases h
      exact ⟨rfl, rfl⟩
  | error e =>
      cases h
      exact ⟨rfl, rfl⟩

/-- What a program brings is read, and nothing is read where it brings nothing. -/
theorem course_bind_ofExcept {p : Act α} {read : α → Except Failure β} {xs : List Exchange} {o : End β}
    (h : Course (p >>= fun a => ofExcept (read a)) xs o) :
    ∃ ended, Course p xs ended ∧ (∀ a, ended = .value a → o = endOf (read a))
      ∧ ∀ b, o = .value b → ∃ a, ended = .value a ∧ read a = .ok b := by
  rcases course_bind h with ⟨a, ys, zs, hfirst, hrest, rfl⟩ | ⟨e, hfailed, rfl⟩ | ⟨hcut, rfl⟩
  · obtain ⟨rfl, rfl⟩ := course_ofExcept hrest
    rw [List.append_nil]
    refine ⟨_, hfirst, fun a' ha => ?_, fun b hb => ⟨a, rfl, endOf_eq_value.mp hb⟩⟩
    cases ha
    rfl
  · exact ⟨_, hfailed, nofun, nofun⟩
  · exact ⟨_, hcut, nofun, nofun⟩

end Act

end PromptGraph
