import PromptGraph.Execution.Poll
import PromptGraph.Proofs.Engine.Listing

/-!
# `Proofs.Execution.Polling` — what waiting for an execution comes to

Each poll reads the state of the execution from the engine, and the first that is finished is the answer. Between two
polls stands a pause, and after the last there is none.

## Contents
- **Polls.** `afterPoll`, `poll_eq`.
- **Waiting.** `afterPolls`, `wait_eq`, `wait_eq_failed`.
- **The finished execution.** `LastRead`; `course_poll`, `course_wait`.
-/

namespace PromptGraph

open Act Engine Http

variable [Depth]
variable {σ : Type} {seconds : Double} {id : String}

-- what a request asks for is known; to unfold its checks takes long
attribute [local irreducible] send

/-! ## Polls -/

/-- What follows a poll that read no finished execution: nothing, or a pause and the other polls. -/
def afterPoll (seconds : Double) (id : String) : (rest : Nat) → Act (Option EngineExecution)
  | 0 => pure none
  | rest + 1 => pause seconds >>= fun _ => Poller.poll seconds id rest

theorem poll_eq (seconds : Double) (id : String) (rest : Nat) : Poller.poll seconds id rest =
    getExecution id >>= fun e => if e.finished then pure (some e) else afterPoll seconds id rest := by
  cases rest with
  | zero =>
      refine congrArg (getExecution id >>= ·) (funext fun e => ?_)
      by_cases hfinished : e.finished = true
      · rw [if_pos hfinished, if_pos hfinished]
      · rw [if_neg hfinished, if_neg hfinished]
        rfl
  | succ rest => rfl

/-! ## Waiting -/

omit [Depth] in
/-- There is a last poll. -/
theorem Poller.attempts_succ (p : Poller) : p.attempts.toNat - 1 + 1 = p.attempts.toNat := by
  have hone := p.one_le
  omega

section Waiting

variable {p : Poller} {started : EngineExecution}

/-- What follows the polls: the execution that was found, or the timeout. -/
def afterPolls (p : Poller) (id : String) : Option EngineExecution → Act EngineExecution
  | some e => pure e
  | none => report (.pollsSpent id p.attempts) >>= fun _ => .failed (.timeout id p.attempts p.interval)

theorem wait_eq (hstarted : started.finished = false) (hseconds : p.seconds? = .ok seconds) :
    p.wait started = Poller.poll seconds started.id (p.attempts.toNat - 1) >>= afterPolls p started.id := by
  unfold Poller.wait
  rw [hstarted, hseconds]
  refine congrArg (Act.bind (Poller.poll seconds started.id (p.attempts.toNat - 1))) (funext fun found => ?_)
  cases found <;> rfl

/-- Nothing is polled at an interval that is no number of seconds. -/
theorem wait_eq_failed (hstarted : started.finished = false) {e : Failure} (hseconds : p.seconds? = .error e) :
    p.wait started = .failed e := by
  unfold Poller.wait
  rw [hstarted, hseconds]
  rfl

end Waiting

/-! ## The finished execution -/

/-- The last of some exchanges brought an execution. -/
def LastRead (xs : List Exchange) (e : EngineExecution) : Prop :=
  ∃ before x v, xs = before ++ [x] ∧ replyValue x.request x.reply = .ok v ∧ EngineExecution.read (orEmpty v) = .ok e

theorem LastRead.append {xs : List Exchange} {e : EngineExecution} (h : LastRead xs e) (ys : List Exchange) :
    LastRead (ys ++ xs) e := by
  obtain ⟨before, x, v, rfl, hvalue, hread⟩ := h
  exact ⟨ys ++ before, x, v, (List.append_assoc _ _ _).symm, hvalue, hread⟩

/-- An operation that reads an execution brings the one that was read last. -/
theorem lastRead_of_course {r : Request} {xs : List Exchange} {e : EngineExecution}
    (h : Course (send r >>= fun v => ofExcept (EngineExecution.read (orEmpty v))) xs (.value e)) : LastRead xs e := by
  rcases course_operation h with ⟨-, failure, -, hend, -⟩ | ⟨reply, rfl, hend⟩
  · cases hend
  · obtain ⟨v, hvalue, hread⟩ := bind_eq_ok.mp (endOf_eq_value.mp hend.symm)
    exact ⟨[], ⟨r, reply⟩, v, rfl, hvalue, hread⟩

/-- What a poll brings was read by it, or comes of what follows it. -/
theorem course_poll_cases {rest : Nat} {xs : List Exchange} {e : EngineExecution}
    (h : Course (Poller.poll seconds id rest) xs (.value (some e))) :
    (LastRead xs e ∧ e.finished = true)
      ∨ ∃ ys zs, xs = ys ++ zs ∧ Course (afterPoll seconds id rest) zs (.value (some e)) := by
  rw [poll_eq] at h
  obtain ⟨read, ys, zs, hread, hrest, rfl⟩ := course_bind_value h
  by_cases hfinished : read.finished = true
  · left
    rw [if_pos hfinished] at hrest
    cases hrest
    rw [List.append_nil]
    exact ⟨lastRead_of_course hread, hfinished⟩
  · right
    rw [if_neg hfinished] at hrest
    exact ⟨ys, zs, rfl, hrest⟩

/-- What polling brings is finished, and it was read last, by induction on the polls that are left. -/
theorem course_poll {rest : Nat} {xs : List Exchange} {e : EngineExecution}
    (h : Course (Poller.poll seconds id rest) xs (.value (some e))) : LastRead xs e ∧ e.finished = true := by
  induction rest generalizing xs with
  | zero =>
      rcases course_poll_cases h with hread | ⟨ys, zs, -, hnone⟩
      · exact hread
      · cases hnone
  | succ rest ih =>
      rcases course_poll_cases h with hread | ⟨ys, zs, rfl, hlater⟩
      · exact hread
      · obtain ⟨_, paused, later, _, hpoll, rfl⟩ := course_bind_value hlater
        obtain ⟨hlast, hfinished⟩ := ih hpoll
        exact ⟨(hlast.append paused).append ys, hfinished⟩

/-- What waiting brings is finished: it was started so, or read last. -/
theorem course_wait {p : Poller} {started : EngineExecution} {xs : List Exchange} {e : EngineExecution}
    (h : Course (p.wait started) xs (.value e)) : e.finished = true ∧ (xs = [] ∧ e = started ∨ LastRead xs e) := by
  unfold Poller.wait at h
  by_cases hfinished : started.finished = true
  · rw [if_pos hfinished] at h
    cases h
    exact ⟨hfinished, Or.inl ⟨rfl, rfl⟩⟩
  · rw [if_neg hfinished] at h
    obtain ⟨seconds, ys, zs, _, hpolls, rfl⟩ := course_bind_value h
    obtain ⟨found, polls, after, hpoll, hafter, rfl⟩ := course_bind_value hpolls
    cases found with
    | some read =>
        cases hafter
        obtain ⟨hlast, hdone⟩ := course_poll hpoll
        rw [List.append_nil]
        exact ⟨hdone, Or.inr (hlast.append ys)⟩
    | none =>
        -- the end of all polls is a timeout
        obtain ⟨_, _, _, _, htimeout, _⟩ := course_bind_value hafter
        cases htimeout

end PromptGraph
