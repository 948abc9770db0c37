import PromptGraph.Proofs.Effect.Trials
import PromptGraph.Proofs.Engine.Failure
import PromptGraph.Proofs.Execution.Lifecycle
import PromptGraph.Proofs.Execution.Polling

/-!
# `Proofs.Execution.Waiting` — what is noticed while an execution is waited for

Waiting ends with the first poll that reads a finished execution, with a poll that reads none at all, or with the
timeout. Whether an execution that was read has failed plays no part: a crash is noticed where the engine also reports a
finished execution in time, and overlooked otherwise.

## Contents
- **Readings.** `reading`, `IsUnfinished`, `Finds`.
- **Polling.** `repeats_poll`: polls are trials; `repeated_polls`.
- **Waiting.** `Awaited`, `awaited`, `wait_notices_iff`; `crash_is_overlooked`.
-/

namespace PromptGraph

open Act Engine

section

variable [Depth]
variable {σ : Type}

/-! ## Readings -/

/-- What a poll comes to, the polls before it being made with a pause after each. -/
def reading (h : Handler σ) (seconds : Double) (id : String) (s : σ) (k : Nat) : End EngineExecution :=
  (trial h (getExecution id) (fun _ => seconds) 1 s k).1

/-- A poll reads an execution that is not finished. -/
def IsUnfinished (o : End EngineExecution) : Prop := ∃ e, o = .value e ∧ e.finished = false

omit [Depth] in
theorem finished_of_not_unfinished {e : EngineExecution} (h : ¬ IsUnfinished (.value e)) : e.finished = true := by
  cases hfinished : e.finished with
  | true => rfl
  | false => exact absurd ⟨e, rfl, hfinished⟩ h

/-- A poll reads this finished execution, and every poll before it reads one that is not finished. -/
structure Finds (h : Handler σ) (seconds : Double) (id : String) (s : σ) (k : Nat) (e : EngineExecution) : Prop where
  before : ∀ j < k, IsUnfinished (reading h seconds id s j)
  read : reading h seconds id s k = .value e
  finished : e.finished = true

section Readings

variable {h : Handler σ} {seconds : Double} {id : String} {s : σ}

theorem reading_ne_cut (k : Nat) : reading h seconds id s k ≠ .cut :=
  run_ne_cut (asks_getExecution (P := fun _ => True) fun _ => trivial) h _

theorem Finds.not_unfinished {k : Nat} {e : EngineExecution} (hk : Finds h seconds id s k e) :
    ¬ IsUnfinished (reading h seconds id s k) := by
  rintro ⟨e', hread, hunfinished⟩
  rw [hk.read] at hread
  cases hread
  rw [hk.finished] at hunfinished
  cases hunfinished

/-- A poll after unfinished readings that reads something else comes no later than one that finds a finished execution,
    and no earlier: what it reads is that execution. -/
theorem Finds.read_of_before {k k' : Nat} {e : EngineExecution} (hk : Finds h seconds id s k e)
    (hbefore : ∀ j < k', IsUnfinished (reading h seconds id s j)) (hnot : ¬ IsUnfinished (reading h seconds id s k')) :
    reading h seconds id s k' = .value e := by
  rw [first_unique hk.before hk.not_unfinished hbefore hnot]
  exact hk.read

end Readings

/-! ## Polling -/

/-- What a poll that is the last comes to: an execution is found. -/
def foundEnd : End EngineExecution × σ → End (Option EngineExecution) × σ
  | (.value e, t) => (.value (some e), t)
  | (.failure failure, t) => (.failure failure, t)
  | (.cut, t) => (.cut, t)

/-- A poll that reads an unfinished execution decides nothing. -/
theorem run_poll_of_unfinished {h : Handler σ} {seconds : Double} {id : String} {s : σ} (rest : Nat)
    (hunfinished : IsUnfinished ((getExecution id).run h s).1) :
    (Poller.poll seconds id rest).run h s = (afterPoll seconds id rest).run h ((getExecution id).run h s).2 := by
  obtain ⟨e, hend, hfinished⟩ := hunfinished
  rw [poll_eq, run_bind]
  rcases hrun : (getExecution id).run h s with ⟨o, t⟩
  rw [hrun] at hend
  cases hend
  show Act.run h (if e.finished = true then pure (some e) else afterPoll seconds id rest) t = _
  rw [hfinished]
  rfl

/-- Polling is a loop: a poll that reads an unfinished execution asks for another. -/
theorem repeats_poll (h : Handler σ) (seconds : Double) (id : String) :
    Repeats h (getExecution id) (fun _ => seconds) IsUnfinished (fun rest _ => Poller.poll seconds id rest) foundEnd
      fun x => (.value none, x.2) where
  stops := by
    intro rest _ s hnot
    show (Poller.poll seconds id rest).run h s = _
    rw [poll_eq, run_bind]
    rcases hrun : (getExecution id).run h s with ⟨o, t⟩
    rw [hrun] at hnot
    cases o with
    | value e =>
        have hfinished := finished_of_not_unfinished hnot
        show Act.run h (if e.finished = true then pure (some e) else afterPoll seconds id rest) t = _
        rw [hfinished]
        rfl
    | failure failure => rfl
    | cut => rfl
  goesOn := fun rest _ _ hagain => run_poll_of_unfinished (rest + 1) hagain
  spends := fun _ _ hagain => run_poll_of_unfinished 0 hagain

/-- The polls that a strategy allows end with the first that does not read an unfinished execution, or with the last. -/
theorem repeated_polls (h : Handler σ) (p : Poller) (seconds : Double) (id : String) (s : σ) :
    Repeated IsUnfinished foundEnd (fun x => (.value none, x.2)) (trial h (getExecution id) (fun _ => seconds) 1 s)
      p.attempts.toNat ((Poller.poll seconds id (p.attempts.toNat - 1)).run h s) := by
  have hrepeated := (repeats_poll h seconds id).run (p.attempts.toNat - 1) 1 s
  rw [p.attempts_succ] at hrepeated
  exact hrepeated

/-! ## Waiting -/

section Waiting

variable (h : Handler σ) (p : Poller) (started : EngineExecution) (s : σ)

/-- The ways in which waiting for an unfinished execution ends. -/
inductive Awaited (seconds : Double) : End EngineExecution → Prop where
  | found {k : Nat} {e : EngineExecution} (hk : k < p.attempts.toNat) (hfinds : Finds h seconds started.id s k e) :
      Awaited seconds (.value e)
  | broken {k : Nat} {failure : Failure} (hk : k < p.attempts.toNat)
      (hbefore : ∀ j < k, IsUnfinished (reading h seconds started.id s j))
      (hread : reading h seconds started.id s k = .failure failure) : Awaited seconds (.failure failure)
  | timeout (hall : ∀ j < p.attempts.toNat, IsUnfinished (reading h seconds started.id s j)) :
      Awaited seconds (.failure (.timeout started.id p.attempts p.interval))

variable {p started}

/-- **Waiting ends with the first finished execution, with a poll that reads none, or in the timeout.** -/
theorem awaited (hstarted : started.finished = false) {seconds : Double} (hseconds : p.seconds? = .ok seconds) :
    Awaited h p started s seconds ((p.wait started).run h s).1 := by
  have hrepeated := repeated_polls h p seconds started.id s
  rw [wait_eq hstarted hseconds, run_bind]
  generalize (Poller.poll seconds started.id (p.attempts.toNat - 1)).run h s = x at hrepeated
  generalize hbound : p.attempts.toNat = attempts at hrepeated
  cases hrepeated with
  | @stopped _ k hk hbefore hstop =>
      have hread : reading h seconds started.id s k = (trial h (getExecution started.id) (fun _ => seconds) 1 s k).1 :=
        rfl
      generalize trial h (getExecution started.id) (fun _ => seconds) 1 s k = ended at hread hstop
      obtain ⟨o, t⟩ := ended
      cases o with
      | value e => exact .found (hbound ▸ hk) ⟨hbefore, hread, finished_of_not_unfinished hstop⟩
      | failure failure => exact .broken (hbound ▸ hk) hbefore hread
      | cut => exact absurd hread (reading_ne_cut k)
  | spent hall => exact .timeout (hbound ▸ hall)

variable {seconds : Double} {o : End EngineExecution}

/-- Waiting brings an execution exactly if some poll finds it. -/
theorem Awaited.value_iff (hawaited : Awaited h p started s seconds o) (found : EngineExecution) :
    o = .value found ↔ ∃ k < p.attempts.toNat, Finds h seconds started.id s k found := by
  constructor
  · rintro rfl
    cases hawaited with
    | found hk hfinds => exact ⟨_, hk, hfinds⟩
  · rintro ⟨k, hk, hfinds⟩
    cases hawaited with
    | found hk' hfinds' =>
        have hread := hfinds.read_of_before hfinds'.before hfinds'.not_unfinished
        rw [hfinds'.read] at hread
        exact hread
    | @broken j failure hj hbefore hread' =>
        have hnot : ¬ IsUnfinished (reading h seconds started.id s j) := by
          rintro ⟨e, hvalue, -⟩
          rw [hread'] at hvalue
          cases hvalue
        have hread := hfinds.read_of_before hbefore hnot
        rw [hread'] at hread
        cases hread
    | timeout hall => exact absurd (hall k hk) hfinds.not_unfinished

/-- Where no poll finds a finished execution, waiting ends in the timeout or in the failure of a poll, which is none of
    those that read an execution. -/
theorem Awaited.failure_of_not_found (hawaited : Awaited h p started s seconds o)
    (hnone : ∀ k < p.attempts.toNat, ∀ e, ¬ Finds h seconds started.id s k e) {k : Nat}
    (hread : ∀ j ≤ k, ∃ e, reading h seconds started.id s j = .value e) :
    o = .failure (.timeout started.id p.attempts p.interval)
      ∨ ∃ j failure, k < j ∧ j < p.attempts.toNat ∧ reading h seconds started.id s j = .failure failure
        ∧ o = .failure failure := by
  cases hawaited with
  | found hk hfinds => exact absurd hfinds (hnone _ hk _)
  | @broken j failure hj hbefore hfailed =>
      refine Or.inr ⟨j, failure, ?_, hj, hfailed, rfl⟩
      apply Nat.lt_of_not_le
      intro hle
      obtain ⟨e, he⟩ := hread j hle
      rw [hfailed] at he
      cases he
  | timeout hall => exact Or.inl rfl

end Waiting

/-- Waiting ends in an execution that has failed or is finished. -/
def Noticed (o : End EngineExecution) : Prop :=
  ∃ found, o = .value found ∧ (found.failed = true ∨ found.finished = true)

/-- **A failure that a poll reads is noticed exactly if some poll finds a finished execution.** Otherwise waiting ends
    in the timeout, or in the failure of a later poll. An interval that is no number of seconds is refused before the
    first. -/
theorem wait_notices_iff {p : Poller} {started : EngineExecution} (hstarted : started.finished = false) (h : Handler σ)
    (s : σ) :
    (∀ e, p.seconds? = .error e → ((p.wait started).run h s).1 = .failure e)
      ∧ ∀ seconds, p.seconds? = .ok seconds → ∀ k e, k < p.attempts.toNat →
        reading h seconds started.id s k = .value e → e.failed = true →
        (∀ j < k, ∃ e', reading h seconds started.id s j = .value e') →
          (Noticed ((p.wait started).run h s).1
            ↔ ∃ j < p.attempts.toNat, ∃ found, Finds h seconds started.id s j found)
          ∧ (Noticed ((p.wait started).run h s).1
            ∨ ((p.wait started).run h s).1 = .failure (.timeout started.id p.attempts p.interval)
            ∨ ∃ j failure, k < j ∧ j < p.attempts.toNat ∧ reading h seconds started.id s j = .failure failure
              ∧ ((p.wait started).run h s).1 = .failure failure) := by
  constructor
  · intro e hseconds
    unfold Poller.wait
    rw [hstarted, hseconds]
    rfl
  · intro seconds hseconds k e _ hread _ hbefore
    have hawaited := awaited h s hstarted hseconds
    generalize ((p.wait started).run h s).1 = o at hawaited
    have hiff : Noticed o ↔ ∃ j < p.attempts.toNat, ∃ found, Finds h seconds started.id s j found := by
      constructor
      · rintro ⟨found, hvalue, -⟩
        obtain ⟨j, hj, hfinds⟩ := (hawaited.value_iff h s found).mp hvalue
        exact ⟨j, hj, found, hfinds⟩
      · rintro ⟨j, hj, found, hfinds⟩
        exact ⟨found, (hawaited.value_iff h s found).mpr ⟨j, hj, hfinds⟩, Or.inr hfinds.finished⟩
    refine ⟨hiff, ?_⟩
    by_cases hnoticed : Noticed o
    · exact Or.inl hnoticed
    · right
      have hreads : ∀ j ≤ k, ∃ e', reading h seconds started.id s j = .value e' := by
        intro j hj
        rcases Nat.lt_or_eq_of_le hj with hlt | rfl
        · exact hbefore j hlt
        · exact ⟨e, hread⟩
      refine hawaited.failure_of_not_found h s ?_ hreads
      intro j hj found hfinds
      exact hnoticed (hiff.mpr ⟨j, hj, found, hfinds⟩)

end

/-- A poll twice, at once. -/
def twoPolls : Poller := ⟨.int 0, 2, by decide⟩

/-- An execution of the engine that goes on. -/
def goingOn : EngineExecution := ⟨"7", false, none, none, none, none, none, none, none⟩

/-- An answer on an execution that has crashed, and that is finished or not. -/
def crashReply (finished : Bool) : Http.Reply :=
  .answer 200 (.json (.obj [("id", .str "7"), ("finished", .bool finished), ("status", .str "crashed")]))

/-- The sample surroundings with these answers of the engine. -/
def answeredWith (replies : List Http.Reply) : Rehearsal := { sampleSurroundings with replies := replies }

/-- An execution of the engine that has crashed, and is finished or not. -/
def crashed (finished : Bool) : EngineExecution := { goingOn with finished := finished, status := some "crashed" }

/-- A crash is noticed when the next poll reads that it is finished. -/
theorem wait_notices_iff_crash : goingOn.finished = false ∧ twoPolls.seconds? = .ok (.zero false)
    ∧ reading Rehearsal.answer (.zero false) "7" (answeredWith [crashReply false, crashReply true]) 0
      = .value (crashed false)
    ∧ (crashed false).failed = true
    ∧ Noticed ((twoPolls.wait goingOn).run Rehearsal.answer
      (answeredWith [crashReply false, crashReply true])).1 := by
  have hfirst : reading Rehearsal.answer (.zero false) "7" (answeredWith [crashReply false, crashReply true]) 0
      = .value (crashed false) := rfl
  have hsecond : reading Rehearsal.answer (.zero false) "7" (answeredWith [crashReply false, crashReply true]) 1
      = .value (crashed true) := rfl
  have hfinds : Finds Rehearsal.answer (.zero false) "7" (answeredWith [crashReply false, crashReply true]) 1
      (crashed true) := by
    refine ⟨?_, hsecond, rfl⟩
    intro j hj
    rw [Nat.lt_one_iff.mp hj]
    exact ⟨_, hfirst, rfl⟩
  have hstarted : goingOn.finished = false := rfl
  have hall := (wait_notices_iff (p := twoPolls) hstarted Rehearsal.answer
    (answeredWith [crashReply false, crashReply true])).2 (.zero false) rfl 0 (crashed false) (by decide) hfirst
    (by decide) (fun j hj => absurd hj (Nat.not_lt_zero j))
  exact ⟨rfl, rfl, hfirst, by decide, hall.1.mpr ⟨1, by decide, _, hfinds⟩⟩

/-- The sample executor, which polls twice. -/
def hastyExecutor : Executor := { sampleExecutor with poller := twoPolls }

/-- A crash that no poll reads as finished is overlooked: waiting ends in the timeout, and the record of the execution
    goes on to be running. -/
theorem crash_is_overlooked :
    reading Rehearsal.answer (.zero false) "7" (answeredWith [crashReply false, crashReply false]) 0
        = .value (crashed false)
      ∧ (crashed false).failed = true
      ∧ ((twoPolls.wait goingOn).run Rehearsal.answer (answeredWith [crashReply false, crashReply false])).1
        = .failure (.timeout "7" 2 (.int 0))
      ∧ statusAt 0 ((hastyExecutor.execute sampleRequest).run Rehearsal.answer (answeredWith
          (sampleSurroundings.replies.take 3 ++ [.answer 200 (.json (.obj [("id", .str "7")])), crashReply false,
            crashReply false]))).2.store = some .running :=
  ⟨rfl, by decide, rfl, by decide +kernel⟩

end PromptGraph
