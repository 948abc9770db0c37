import PromptGraph.Proofs.Effect.Repetition
import PromptGraph.Proofs.Execution.Waiting

/-!
# `Proofs.Execution.Schedule` — how often an execution is polled, and with which pauses

A poll is one request, and between two polls stands a pause. Which poll decides how waiting ends also decides how many
polls there are: those that read an unfinished execution, and that one. When every poll that is allowed has read an
unfinished execution, there is no pause after the last.

## Contents
- **One poll.** `pollRequest`, `answerAt`, `answerRead`; `asked_getExecution`, `reading_eq`.
- **Polls in a row.** `polls`; `asksInTurn_poll`, `poll_made`.
- **Waiting.** `Scheduled`, `wait_schedule`; `unaddressed_is_not_polled`, an execution that is never asked for.
-/

namespace PromptGraph

open Act Engine Http

section

variable [Depth]
variable {σ : Type}

/-! ## One poll -/

/-- The request of a poll. -/
def pollRequest (id : String) : Request := ⟨.get, .execution id, some [("includeData", "true")], none⟩

/-- What a poll is answered, the polls before it being made with a pause after each. -/
def answerAt (h : Handler σ) (seconds : Double) (id : String) (s : σ) (k : Nat) : Reply :=
  (h (.exchange (pollRequest id)) (trialState h (getExecution id) (fun _ => seconds) 1 k s)).1

section Poll

variable {h : Handler σ} {id : String} {s : σ}

/-- What a poll's answer is read as. -/
def answerRead (id : String) (reply : Reply) : Except Failure EngineExecution :=
  replyValue (pollRequest id) reply >>= fun v => EngineExecution.read (orEmpty v)

theorem getExecution_eq (haddress : (pollRequest id).isAddressable = true) :
    getExecution id = .ask (.exchange (pollRequest id)) fun reply => ofExcept (answerRead id reply) := by
  show send (pollRequest id) >>= _ = _
  rw [send_eq_ask haddress rfl]
  exact congrArg (Act.ask (.exchange (pollRequest id))) (funext fun reply => ofExcept_bind _ _)

/-- The engine is not asked for an execution whose id cannot stand in an address. -/
theorem getExecution_eq_failed (haddress : (pollRequest id).isAddressable = false) :
    getExecution id = .failed (.kind .address) := by
  show send (pollRequest id) >>= _ = _
  rw [send_eq_failed haddress]
  rfl

theorem asked_getExecution (haddress : (pollRequest id).isAddressable = true) :
    asked h (getExecution id) s = [.exchange (pollRequest id)] := by
  rw [getExecution_eq haddress]
  exact congrArg (Effect.exchange (pollRequest id) :: ·) (asked_ofExcept h _ _)

/-- A poll comes to what its answer is read as. -/
theorem reading_eq (haddress : (pollRequest id).isAddressable = true) (seconds : Double) (k : Nat) :
    reading h seconds id s k = endOf (answerRead id (answerAt h seconds id s k)) := by
  unfold reading trial answerAt
  generalize trialState h (getExecution id) (fun _ => seconds) 1 k s = t
  rw [getExecution_eq haddress, run_ask, run_ofExcept]

end Poll

/-! ## Polls in a row -/

/-- So many polls with a pause between each and the next. -/
def polls (id : String) (seconds : Double) (count : Nat) : List Effect :=
  (List.replicate count (.exchange (pollRequest id))).intersperse (.pause seconds)

/-- Polls are asked for one after the other, with a pause after each that is followed by another. -/
theorem asksInTurn_poll (h : Handler σ) (seconds : Double) (id : String) :
    AsksInTurn h (getExecution id) (fun _ => seconds) IsUnfinished fun rest _ => Poller.poll seconds id rest where
  stops := by
    intro rest _ s hstop
    rw [poll_eq, asked_bind]
    rcases hrun : (getExecution id).run h s with ⟨o, t⟩
    rw [hrun] at hstop
    cases o with
    | value e =>
        show _ ++ asked h (if e.finished = true then pure (some e) else afterPoll seconds id rest) t = _
        rw [if_pos (finished_of_not_unfinished hstop)]
        exact List.append_nil _
    | failure failure => exact List.append_nil _
    | cut => exact List.append_nil _
  goesOn := by
    intro rest _ s hunfinished
    obtain ⟨e, hend, hfinished⟩ := hunfinished
    rw [poll_eq, asked_bind]
    rcases hrun : (getExecution id).run h s with ⟨o, t⟩
    rw [hrun] at hend
    cases hend
    show _ ++ asked h (if e.finished = true then pure (some e) else afterPoll seconds id (rest + 1)) t = _
    rw [hfinished]
    rfl
  spends := by
    intro _ s
    rw [poll_eq, asked_bind]
    rcases (getExecution id).run h s with ⟨e | _ | _, t⟩
    · show _ ++ asked h (if e.finished = true then pure (some e) else afterPoll seconds id 0) t = _
      cases e.finished <;> exact List.append_nil _
    · exact List.append_nil _
    · exact List.append_nil _

/-- **So many polls are made.** Where each of `k` polls reads an unfinished execution, and the next one does not or may
    not be followed by another, it is the last. -/
theorem poll_made {h : Handler σ} {id : String} {seconds : Double} {s : σ}
    (haddress : (pollRequest id).isAddressable = true) {k rest : Nat} (hk : k ≤ rest)
    (hbefore : ∀ j < k, IsUnfinished (reading h seconds id s j))
    (hlast : k = rest ∨ ¬ IsUnfinished (reading h seconds id s k)) :
    asked h (Poller.poll seconds id rest) s = polls id seconds (k + 1) := by
  have hasked := (asksInTurn_poll h seconds id).asked_loop hk hbefore hlast
  rw [trialsAsked_of_forall (fun _ => asked_getExecution haddress), List.map_const', List.length_range',
    spaced_replicate seconds _ (Nat.succ_le_succ hk)] at hasked
  exact hasked

/-! ## Waiting -/

/-- How waiting for an unfinished execution goes on whose id can stand in an address. -/
structure Scheduled (h : Handler σ) (p : Poller) (started : EngineExecution) (s : σ) (seconds : Double) : Prop where
  /-- A poll comes to what its answer is read as. -/
  read : ∀ k, reading h seconds started.id s k = endOf (answerRead started.id (answerAt h seconds started.id s k))
  /-- The first poll that does not read an unfinished execution is the last, and waiting ends as it does. -/
  decided : ∀ k < p.attempts.toNat, (∀ j < k, IsUnfinished (reading h seconds started.id s j)) →
    ¬ IsUnfinished (reading h seconds started.id s k) →
      ((p.wait started).run h s).1 = reading h seconds started.id s k
        ∧ asked h (p.wait started) s = polls started.id seconds (k + 1)
  /-- Where there is none, all polls are made, and waiting ends in the timeout. -/
  spent : (∀ j < p.attempts.toNat, IsUnfinished (reading h seconds started.id s j)) →
    ((p.wait started).run h s).1 = .failure (.timeout started.id p.attempts p.interval)
      ∧ asked h (p.wait started) s
        = polls started.id seconds p.attempts.toNat ++ [.report (.pollsSpent started.id p.attempts)]

section Waiting

variable {h : Handler σ} {p : Poller} {started : EngineExecution} {s : σ} {seconds : Double}

/-- Nothing is polled under an id that cannot stand in an address. -/
theorem wait_eq_unaddressed (hstarted : started.finished = false) (hseconds : p.seconds? = .ok seconds)
    (haddress : (pollRequest started.id).isAddressable = false) : p.wait started = .failed (.kind .address) := by
  rw [wait_eq hstarted hseconds, poll_eq, getExecution_eq_failed haddress]
  rfl

theorem scheduled (hstarted : started.finished = false) (hseconds : p.seconds? = .ok seconds)
    (haddress : (pollRequest started.id).isAddressable = true) : Scheduled h p started s seconds := by
  have hrepeated := repeated_polls h p seconds started.id s
  refine ⟨reading_eq haddress seconds, fun k hk hbefore hstop => ?_, fun hall => ?_⟩
  · have hpoll := hrepeated.eq_stop hk hbefore hstop
    have hmade : asked h (Poller.poll seconds started.id (p.attempts.toNat - 1)) s = polls started.id seconds (k + 1) :=
      poll_made haddress (by omega) hbefore (Or.inr hstop)
    rw [wait_eq hstarted hseconds, run_bind, asked_bind, hpoll, hmade]
    have hread : reading h seconds started.id s k = (trial h (getExecution started.id) (fun _ => seconds) 1 s k).1 :=
      rfl
    rw [hread]
    rcases trial h (getExecution started.id) (fun _ => seconds) 1 s k with ⟨_ | _ | _, t⟩
    · exact ⟨rfl, List.append_nil _⟩
    · exact ⟨rfl, List.append_nil _⟩
    · exact ⟨rfl, List.append_nil _⟩
  · have hpoll := hrepeated.eq_spend hall
    have hmade : asked h (Poller.poll seconds started.id (p.attempts.toNat - 1)) s
        = polls started.id seconds (p.attempts.toNat - 1 + 1) :=
      poll_made haddress (Nat.le_refl _) (fun j hj => hall j (by omega)) (Or.inl rfl)
    rw [p.attempts_succ] at hmade
    rw [wait_eq hstarted hseconds, run_bind, asked_bind, hpoll, hmade]
    exact ⟨rfl, rfl⟩

/-- **How often an execution is polled, and with which pauses.** A finished execution is given back and nothing is asked
    for. Otherwise an interval that is no number of seconds is refused before the first poll, and so is an id that
    cannot stand in an address. In all other cases the first poll that does not read an unfinished execution is the last
    one, or all polls are made. The pause between two of them is the interval; for an integer it is the nearest number
    of seconds that there is. -/
theorem wait_schedule (h : Handler σ) (p : Poller) (started : EngineExecution) (s : σ) :
    (started.finished = true →
      (p.wait started).run h s = (.value started, s) ∧ asked h (p.wait started) s = [])
    ∧ (∀ seconds, p.interval = .float seconds → p.seconds? = .ok seconds)
    ∧ (started.finished = false →
      (∀ e, p.seconds? = .error e → (p.wait started).run h s = (.failure e, s) ∧ asked h (p.wait started) s = [])
      ∧ ∀ seconds, p.seconds? = .ok seconds →
        ((pollRequest started.id).isAddressable = false →
          (p.wait started).run h s = (.failure (.kind .address), s) ∧ asked h (p.wait started) s = [])
        ∧ ((pollRequest started.id).isAddressable = true → Scheduled h p started s seconds)) := by
  refine ⟨fun hfinished => ?_, ?_, fun hstarted => ⟨fun e hseconds => ?_, fun seconds hseconds => ⟨?_, ?_⟩⟩⟩
  · unfold Poller.wait
    rw [hfinished]
    exact ⟨rfl, rfl⟩
  · intro seconds hinterval
    unfold Poller.seconds?
    rw [hinterval]
    rfl
  · rw [wait_eq_failed hstarted hseconds]
    exact ⟨rfl, rfl⟩
  · intro haddress
    rw [wait_eq_unaddressed hstarted hseconds haddress]
    exact ⟨rfl, rfl⟩
  · exact scheduled hstarted hseconds

end Waiting

end

/-- The second poll reads that the execution is finished: there are two polls, and a pause between them. -/
theorem wait_schedule_crash : goingOn.finished = false ∧ twoPolls.seconds? = .ok (.zero false)
    ∧ (pollRequest goingOn.id).isAddressable = true
    ∧ ((twoPolls.wait goingOn).run Rehearsal.answer (answeredWith [crashReply false, crashReply true])).1
      = .value (crashed true)
    ∧ asked Rehearsal.answer (twoPolls.wait goingOn) (answeredWith [crashReply false, crashReply true])
      = polls "7" (.zero false) 2 := by
  have hstarted : goingOn.finished = false := rfl
  have hseconds : twoPolls.seconds? = .ok (.zero false) := rfl
  have haddress : (pollRequest goingOn.id).isAddressable = true := by decide
  have hfirst : reading Rehearsal.answer (.zero false) "7" (answeredWith [crashReply false, crashReply true]) 0
      = .value (crashed false) := rfl
  have hsecond : reading Rehearsal.answer (.zero false) "7" (answeredWith [crashReply false, crashReply true]) 1
      = .value (crashed true) := rfl
  have hbefore : ∀ j < 1, IsUnfinished
      (reading Rehearsal.answer (.zero false) "7" (answeredWith [crashReply false, crashReply true]) j) := by
    intro j hj
    rw [Nat.lt_one_iff.mp hj]
    exact ⟨_, hfirst, rfl⟩
  have hstop : ¬ IsUnfinished
      (reading Rehearsal.answer (.zero false) "7" (answeredWith [crashReply false, crashReply true]) 1) := by
    rintro ⟨e, hend, hunfinished⟩
    rw [hsecond] at hend
    cases hend
    cases hunfinished
  have hscheduled := ((wait_schedule Rehearsal.answer twoPolls goingOn
    (answeredWith [crashReply false, crashReply true])).2.2 hstarted).2 _ hseconds
  obtain ⟨hrun, hasked⟩ := (hscheduled.2 haddress).decided 1 (by decide) hbefore hstop
  exact ⟨hstarted, hseconds, haddress, hrun.trans hsecond, hasked⟩

/-- An execution that goes on, whose id is two lines. -/
def goingOnLines : EngineExecution := { goingOn with id := "7\n7" }

/-- Two polls with a pause that is longer than any number of seconds. -/
def endlessPause : Poller := { twoPolls with interval := .int (.ofNat (Nat.pow 2 1024)) }

/-- Two polls with a pause of 2 ^ 53 + 1 seconds, to which 2 ^ 53 seconds are nearest. -/
def oddPause : Poller := { twoPolls with interval := .int 9007199254740993 }

/-- **An execution that could be polled is not asked for** where its id cannot stand in an address, or where the pause
    is longer than any number of seconds. A pause may differ from its interval. -/
theorem unaddressed_is_not_polled :
    (∀ replies, ((twoPolls.wait goingOnLines).run Rehearsal.answer (answeredWith replies)).1 = .failure (.kind .address)
      ∧ asked Rehearsal.answer (twoPolls.wait goingOnLines) (answeredWith replies) = [])
    ∧ (∀ replies, ((endlessPause.wait goingOn).run Rehearsal.answer (answeredWith replies)).1
        = .failure (.kind .overflow)
      ∧ asked Rehearsal.answer (endlessPause.wait goingOn) (answeredWith replies) = [])
    ∧ oddPause.seconds? = .ok (.ofNat 9007199254740992) := by
  have haddress : (pollRequest goingOnLines.id).isAddressable = false := by decide
  have hseconds : twoPolls.seconds? = .ok (.zero false) := rfl
  have hendless : endlessPause.interval.toDouble? = none := by decide +kernel
  have hnearest : oddPause.interval.toDouble? = some (.ofNat 9007199254740992) := by decide +kernel
  have hoverflow : endlessPause.seconds? = .error (.kind .overflow) := by
    unfold Poller.seconds?
    rw [hendless]
  refine ⟨fun replies => ?_, fun replies => ?_, ?_⟩
  · rw [wait_eq_unaddressed rfl hseconds haddress]
    exact ⟨rfl, rfl⟩
  · rw [wait_eq_failed rfl hoverflow]
    exact ⟨rfl, rfl⟩
  · unfold Poller.seconds?
    rw [hnearest]

end PromptGraph
