import PromptGraph.Effect.Act

/-!
# `Proofs.Effect.Programs` — runs of composed programs, and what programs ask for

A run of a composed program is a run of its first part followed by a run of the rest. What a program may ask for is
a property of the program alone: `Asks P C` says that `P` holds of every effect on every path, and that a path is cut
only if `C` holds. Three general facts follow by induction on the program: a relation that every such effect keeps is
kept by the run (`run_related`), states that no such effect tells apart are not told apart by the run (`run_agree`), and
a program none of whose paths may be cut is never cut (`run_ne_cut`).

## Contents
- **Runs.** `bind_bind`, `run_bind`, `run_attempt`, the cases of a composed run (`run_bind_cases`), `run_bind_cut_iff`,
  `End.value?`, `endOf`, `ofExcept_bind`, and `run_bind_ofExcept_of_endOf`.
- **Footprints.** `Asks` with its rules for the ways of composing programs, `run_related`, `run_agree`, `run_ne_cut`.
-/

namespace PromptGraph.Act

variable {σ α β : Type}

/-! ## Runs -/

/-- Programs are composed in either grouping. -/
theorem bind_bind (p : Act α) {γ : Type} (f : α → Act β) (g : β → Act γ) :
    (p >>= f) >>= g = p >>= fun a => f a >>= g := by
  induction p with
  | done a => rfl
  | failed e => rfl
  | unfinished => rfl
  | ask q k ih => exact congrArg (ask q) (funext fun r => ih r)

@[simp] theorem run_done (h : Handler σ) (a : α) (s : σ) : (done a).run h s = (.value a, s) := rfl

@[simp] theorem run_pure (h : Handler σ) (a : α) (s : σ) : (pure a : Act α).run h s = (.value a, s) := rfl

@[simp] theorem run_failed (h : Handler σ) (e : Failure) (s : σ) :
    (failed e : Act α).run h s = (.failure e, s) := rfl

@[simp] theorem run_unfinished (h : Handler σ) (s : σ) : (unfinished : Act α).run h s = (.cut, s) := rfl

theorem run_ask (h : Handler σ) (q : Effect) (k : q.Answer → Act α) (s : σ) :
    (ask q k).run h s = (k (h q s).1).run h (h q s).2 := rfl

/-- A composed program runs its first part, and goes on with the value from the state reached. -/
theorem run_bind (h : Handler σ) (p : Act α) (f : α → Act β) (s : σ) :
    (p >>= f).run h s = match p.run h s with
      | (.value a, t) => (f a).run h t
      | (.failure e, t) => (.failure e, t)
      | (.cut, t) => (.cut, t) := by
  induction p generalizing s with
  | done a => rfl
  | failed e => rfl
  | unfinished => rfl
  | ask q k ih => exact ih (h q s).1 (h q s).2

/-- An attempted program makes a value of its failure, and changes the state all the same. -/
theorem run_attempt (h : Handler σ) (p : Act α) (s : σ) :
    (attempt p).run h s = match p.run h s with
      | (.value a, t) => (.value (.ok a), t)
      | (.failure e, t) => (.value (.error e), t)
      | (.cut, t) => (.cut, t) := by
  induction p generalizing s with
  | done a => rfl
  | failed e => rfl
  | unfinished => rfl
  | ask q k ih => exact ih (h q s).1 (h q s).2

/-- **The ways a composed run can end.** It goes on from a value of the first part, or ends as the first part did. -/
theorem run_bind_cases {h : Handler σ} {p : Act α} {f : α → Act β} {s t : σ} {o : End β}
    (hrun : (p >>= f).run h s = (o, t)) :
    (∃ a m, p.run h s = (.value a, m) ∧ (f a).run h m = (o, t))
      ∨ (∃ e, p.run h s = (.failure e, t) ∧ o = .failure e)
      ∨ (p.run h s = (.cut, t) ∧ o = .cut) := by
  rw [run_bind] at hrun
  cases hp : p.run h s with
  | mk first m =>
      rw [hp] at hrun
      cases first with
      | value a => exact Or.inl ⟨a, m, rfl, hrun⟩
      | failure e =>
          obtain ⟨rfl, rfl⟩ := Prod.mk.inj hrun
          exact Or.inr (Or.inl ⟨e, rfl, rfl⟩)
      | cut =>
          obtain ⟨rfl, rfl⟩ := Prod.mk.inj hrun
          exact Or.inr (Or.inr ⟨rfl, rfl⟩)

/-- A composed run is cut where its first part is. -/
theorem run_bind_cut {h : Handler σ} {p : Act α} {f : α → Act β} {s : σ} (hcut : (p.run h s).1 = .cut) :
    ((p >>= f).run h s).1 = .cut := by
  rw [run_bind]
  rcases hrun : p.run h s with ⟨o, t⟩
  rw [hrun] at hcut
  cases hcut
  rfl

/-- Where the rest is never cut, it is cut only there. -/
theorem run_bind_cut_iff {h : Handler σ} {p : Act α} {f : α → Act β} {s : σ}
    (hrest : ∀ a t, ((f a).run h t).1 ≠ .cut) : ((p >>= f).run h s).1 = .cut ↔ (p.run h s).1 = .cut := by
  refine ⟨fun hcut => ?_, run_bind_cut⟩
  rw [run_bind] at hcut
  rcases hrun : p.run h s with ⟨o, t⟩
  rw [hrun] at hcut
  cases o with
  | value a => exact absurd hcut (hrest a t)
  | failure e => cases hcut
  | cut => rfl

theorem exists_run_eq {h : Handler σ} {p : Act α} {s : σ} {o : End α} (hend : (p.run h s).1 = o) :
    ∃ t, p.run h s = (o, t) := ⟨(p.run h s).2, Prod.ext hend rfl⟩

/-- The value of a run, if it has one. -/
def End.value? {α : Type} : End α → Option α
  | .value a => some a
  | _ => none

theorem End.value?_eq_some {α : Type} {o : End α} {a : α} : o.value? = some a ↔ o = .value a := by
  cases o <;> simp [value?]

/-- The end that a result is. -/
def endOf : Except Failure α → End α
  | .ok a => .value a
  | .error e => .failure e

theorem run_ofExcept (h : Handler σ) (x : Except Failure α) (s : σ) : (ofExcept x).run h s = (endOf x, s) := by
  cases x <;> rfl

/-- What is read of a result is a result. -/
theorem ofExcept_bind (x : Except Failure α) (read : α → Except Failure β) :
    (ofExcept x >>= fun a => ofExcept (read a)) = ofExcept (x >>= read) := by
  cases x <;> rfl

/-- Reading a value changes nothing. -/
theorem run_bind_ofExcept_snd (h : Handler σ) (p : Act α) (read : α → Except Failure β) (s : σ) :
    ((p >>= fun a => ofExcept (read a)).run h s).2 = (p.run h s).2 := by
  rw [run_bind]
  rcases p.run h s with ⟨o, t⟩
  cases o with
  | value a => exact congrArg Prod.snd (run_ofExcept h (read a) t)
  | failure e => rfl
  | cut => rfl

theorem endOf_eq_value {x : Except Failure α} {a : α} : endOf x = .value a ↔ x = .ok a := by
  cases x <;> simp [endOf]

theorem endOf_eq_failure {x : Except Failure α} {e : Failure} : endOf x = .failure e ↔ x = .error e := by
  cases x <;> simp [endOf]

theorem endOf_ne_cut (x : Except Failure α) : endOf x ≠ .cut := by
  cases x <;> nofun

theorem endOf_injective {x y : Except Failure α} (h : endOf x = endOf y) : x = y := by
  cases y with
  | ok a => exact endOf_eq_value.mp h
  | error e => exact endOf_eq_failure.mp h

/-- What is read of a result is read of the end that it is. -/
theorem run_bind_ofExcept_of_endOf {h : Handler σ} {p : Act α} {x : Except Failure α} {s : σ}
    (hend : (p.run h s).1 = endOf x) (read : α → Except Failure β) :
    ((p >>= fun a => ofExcept (read a)).run h s).1 = endOf (x >>= read) := by
  rw [run_bind]
  rcases hrun : p.run h s with ⟨o, t⟩
  rw [hrun] at hend
  cases x with
  | error failure =>
      cases hend
      rfl
  | ok a =>
      cases hend
      exact congrArg Prod.fst (run_ofExcept h (read a) t)

/-! ## Footprints -/

/-- Every effect on every path of a program has the property `P`, and a path is cut only where that is admitted. -/
def Asks (P : Effect → Prop) (admitsCut : Prop) : Act α → Prop
  | done _ => True
  | failed _ => True
  | unfinished => admitsCut
  | ask q k => P q ∧ ∀ r, Asks P admitsCut (k r)

variable {P : Effect → Prop} {C : Prop}

theorem asks_bind {p : Act α} {f : α → Act β} (hp : p.Asks P C) (hf : ∀ a, (f a).Asks P C) :
    (p >>= f).Asks P C := by
  induction p with
  | done a => exact hf a
  | failed e => trivial
  | unfinished => exact hp
  | ask q k ih => exact ⟨hp.1, fun r => ih r (hp.2 r)⟩

theorem asks_attempt {p : Act α} (hp : p.Asks P C) : (attempt p).Asks P C := by
  induction p with
  | done a => trivial
  | failed e => trivial
  | unfinished => exact hp
  | ask q k ih => exact ⟨hp.1, fun r => ih r (hp.2 r)⟩

theorem asks_mono {Q : Effect → Prop} (hPQ : ∀ q, P q → Q q) {p : Act α} (hp : p.Asks P C) : p.Asks Q C := by
  induction p with
  | done a => trivial
  | failed e => trivial
  | unfinished => exact hp
  | ask q k ih => exact ⟨hPQ q hp.1, fun r => ih r (hp.2 r)⟩

theorem asks_perform {q : Effect} (hq : P q) : (perform q).Asks P C := ⟨hq, fun _ => trivial⟩

theorem asks_ofExcept (x : Except Failure α) : (ofExcept x).Asks P C := by
  cases x <;> trivial

theorem asks_ofSystem (x : Option String) : (ofSystem x).Asks P C := by
  cases x <;> trivial

theorem asks_reportAll (hP : ∀ n, P (.report n)) (notices : List Notice) : (reportAll notices).Asks P C := by
  induction notices with
  | nil => trivial
  | cons n rest ih => exact asks_bind (asks_perform (hP n)) (fun _ => ih)

/-- What is asked for in every attempt is asked for in all of them, by induction on the attempts that are left. -/
theorem asks_retry {p : Act α} (hp : p.Asks P C) (hpause : ∀ seconds, P (.pause seconds)) (again : Failure → Bool)
    (wait : Nat → Double) (rest n : Nat) : (retry again wait p rest n).Asks P C := by
  induction rest generalizing n with
  | zero => exact hp
  | succ rest ih =>
      apply asks_bind (asks_attempt hp)
      intro outcome
      cases outcome with
      | ok a => trivial
      | error e =>
          dsimp only
          split
          · exact asks_bind (asks_perform (hpause (wait n))) fun _ => ih (n + 1)
          · trivial

/-- **What every effect keeps, a run keeps.** A reflexive and transitive relation between states that holds across
    each answer to an effect of the footprint holds across the whole run. -/
theorem run_related {h : Handler σ} {R : σ → σ → Prop} (hrefl : ∀ s, R s s)
    (htrans : ∀ {a b c}, R a b → R b c → R a c) (hstep : ∀ q s, P q → R s (h q s).2)
    {p : Act α} (hp : p.Asks P C) (s : σ) : R s (p.run h s).2 := by
  induction p generalizing s with
  | done a => exact hrefl s
  | failed e => exact hrefl s
  | unfinished => exact hrefl s
  | ask q k ih => exact htrans (hstep q s hp.1) (ih (h q s).1 (hp.2 _) (h q s).2)

/-- **What no effect tells apart, no run tells apart.** States that are answered alike, and stay related, bring a program
    to one end. -/
theorem run_agree {h : Handler σ} {R : σ → σ → Prop}
    (hstep : ∀ q s t, P q → R s t → (h q s).1 = (h q t).1 ∧ R (h q s).2 (h q t).2)
    {p : Act α} (hp : p.Asks P C) {s t : σ} (hR : R s t) :
    (p.run h s).1 = (p.run h t).1 ∧ R (p.run h s).2 (p.run h t).2 := by
  induction p generalizing s t with
  | done a => exact ⟨rfl, hR⟩
  | failed e => exact ⟨rfl, hR⟩
  | unfinished => exact ⟨rfl, hR⟩
  | ask q k ih =>
      obtain ⟨hanswer, hnext⟩ := hstep q s t hp.1 hR
      rw [run_ask, run_ask, hanswer]
      exact ih (h q t).1 (hp.2 _) hnext

theorem run_ne_cut {p : Act α} (hp : p.Asks P False) (h : Handler σ) (s : σ) : (p.run h s).1 ≠ .cut := by
  induction p generalizing s with
  | done a => nofun
  | failed e => nofun
  | unfinished => exact absurd hp id
  | ask q k ih => exact ih (h q s).1 (hp.2 _) (h q s).2

end PromptGraph.Act
