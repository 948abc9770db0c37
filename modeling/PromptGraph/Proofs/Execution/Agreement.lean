import PromptGraph.Proofs.Effect.Comparison
import PromptGraph.Proofs.Engine.Failure
import PromptGraph.Proofs.Execution.Completion
import PromptGraph.Proofs.Execution.Isolation
import PromptGraph.Proofs.Execution.Polling
import PromptGraph.Proofs.Execution.Records

/-!
# `Proofs.Execution.Agreement` — what an execution answers, and what its record tells

The response of an execution is built from the record that was made for it, changed beside the store, while a query of
its status reads what the store was told. Both come to the same, and neither depends on the rollup.

## Contents
- **Responses.** `ofRecord_terminal`, `response_of_completed`.
- **The finished execution.** `LastRead`; `course_poll`, `course_wait`, `course_execute`.
- **Two runs.** `Agreed`; `follows_finalize`, `follows_runRecord`, `follows_execute`.
- **Agreement.** `Settles` and `execute_settles`.
-/

namespace PromptGraph

open Act Engine Http

variable {σ α : Type}

-- what a request asks for is known; to unfold its checks takes long
attribute [local irreducible] send

/-! ## Responses -/

/-- What the store keeps of a completed record and what is made of it beside the store differ in the engine's id, which
    no response tells. -/
theorem ofRecord_terminal (r : Record) (marked : Option String) (engineId : String) (c : Completion) :
    Response.ofRecord (MemoryStore.terminalRecord c (MemoryStore.runningRecord marked r))
      = Response.ofRecord (Executor.completedRecord r engineId c) := rfl

/-- The response of a completed record has the final status of the execution, and an error where that is a failure. -/
theorem response_of_completed {x : Executor} {r : Record} {engineId : String} {e : EngineExecution} {metrics : Metrics}
    {at' : Timestamp} {response : Response}
    (h : Response.ofRecord (Executor.completedRecord r engineId (x.completion e metrics at')) = .ok response) :
    response.id = r.id ∧ response.status = Executor.finalStatus e ∧ (response.error ≠ none ↔ e.failed = true) := by
  obtain ⟨cost, -, h⟩ := bind_eq_ok.mp h
  obtain ⟨error, herror, h⟩ := bind_eq_ok.mp h
  cases Except.ok.inj h
  refine ⟨rfl, rfl, ?_⟩
  show error ≠ none ↔ e.failed = true
  have hdetails : (Schema.nullable [("error", (Members.get? "message" ((Executor.errorDetails e).getD [])).getD .null)]
      "error" Schema.text).toExcept "ExecutionResponse" = .ok error := herror
  unfold Executor.errorDetails at hdetails
  cases he : e.error with
  | some err =>
      -- an error of its own is a failure whatever the status is
      have hfailed : e.failed = true := by simp [EngineExecution.failed, he]
      rw [he] at hdetails
      have hsome : some err.message = error := Except.ok.inj hdetails
      simp [hfailed, ← hsome]
  | none =>
      rw [he] at hdetails
      by_cases hfailed : e.failed = true
      · rw [if_pos hfailed] at hdetails
        have hsome := Except.ok.inj hdetails
        simp [hfailed, ← hsome]
      · rw [if_neg hfailed] at hdetails
        have hnone : none = error := Except.ok.inj hdetails
        simp [hfailed, ← hnone]

theorem finalStatus_eq_failed_iff (e : EngineExecution) : Executor.finalStatus e = .failed ↔ e.failed = true := by
  unfold Executor.finalStatus
  by_cases hfailed : e.failed = true
  · simp [hfailed]
  · simp [hfailed]

/-- What the response of an execution tells of the finished execution. -/
structure TellsOf (response : Response) (e : EngineExecution) : Prop where
  status : response.status = .failed ↔ e.failed = true
  error : response.error ≠ none ↔ e.failed = true

theorem course_finalize {x : Executor} (hx : x.store = Store.ambient) {r : Record} {e : EngineExecution}
    {xs : List Exchange} {response : Response} (h : Course (x.finalize r e) xs (.value response)) :
    xs = [] ∧ TellsOf response e := by
  have hquiet := asks_finalize (P := fun q => q.isExchange = false) hx r e (fun _ => rfl) rfl (fun _ => rfl) fun _ => rfl
  refine ⟨course_quiet hquiet h, ?_⟩
  rw [finalize_eq] at h
  -- only the end of the course matters here, which is read off the completed record
  have hmeasure : Course (measureFinished x r e) xs (.value response) := course_reportAll (course_reportAll h)
  obtain ⟨now, _, _, _, hextract, _⟩ := course_bind_value hmeasure
  obtain ⟨metrics, _, _, _, hcomplete, _⟩ := course_bind_value hextract
  obtain ⟨completedAt, _, _, _, hstore, _⟩ := course_bind_value hcomplete
  obtain ⟨_, _, _, _, hafter, _⟩ := course_bind_value hstore
  obtain ⟨outcome, _, _, _, hrollup, _⟩ := course_bind_value hafter
  have hresponse : Response.ofRecord (Executor.completedRecord r e.id (x.completion e metrics completedAt))
      = .ok response := by
    cases outcome with
    | ok _ => exact (endOf_eq_value.mp (course_ofExcept hrollup).2.symm)
    | error failure =>
        obtain ⟨_, _, _, _, hread, _⟩ := course_bind_value hrollup
        exact (endOf_eq_value.mp (course_ofExcept hread).2.symm)
  obtain ⟨-, hstatus, herror⟩ := response_of_completed hresponse
  exact ⟨by rw [hstatus, finalStatus_eq_failed_iff], herror⟩

/-- The response of a run tells of the execution that was read last, which is finished. -/
theorem course_runRecord [Depth] {x : Executor} (hx : x.store = Store.ambient) {request : ExecutionRequest} {c : Chain}
    {r : Record} {xs : List Exchange} {response : Response}
    (h : Course (x.runRecord request c r) xs (.value response)) :
    ∃ e, LastRead xs e ∧ e.finished = true ∧ TellsOf response e := by
  unfold Executor.runRecord at h
  obtain ⟨remote, deployed, _, _, hdeployed, rfl⟩ := course_bind_value h
  obtain ⟨now, read, _, _, hread, rfl⟩ := course_bind_value hdeployed
  obtain ⟨started, starting, _, hstarted, hmarking, rfl⟩ := course_bind_value hread
  obtain ⟨_, marking, _, hmarked, hwaiting, rfl⟩ := course_bind_value hmarking
  obtain ⟨e, waiting, finalizing, hwait, hfinal, rfl⟩ := course_bind_value hwaiting
  obtain ⟨rfl, htells⟩ := course_finalize hx hfinal
  rw [hx] at hmarked
  have hnone : marking = [] :=
    course_quiet (asks_ambient (P := fun q => q.isExchange = false) (C := True) rfl) hmarked
  obtain ⟨hfinished, hlast⟩ := course_wait hwait
  have hread : LastRead (starting ++ (marking ++ (waiting ++ []))) e := by
    rcases hlast with ⟨rfl, rfl⟩ | hlast
    · -- it was finished as soon as it was started
      rw [hnone]
      show LastRead (starting ++ []) e
      rw [List.append_nil]
      exact lastRead_of_course hstarted
    · rw [List.append_nil]
      exact (hlast.append marking).append starting
  exact ⟨e, (hread.append read).append deployed, hfinished, htells⟩

/-- **The response of an execution tells of the execution that was read last**, whatever course it takes. -/
theorem course_execute [Depth] {x : Executor} (hx : x.store = Store.ambient) {request : ExecutionRequest}
    {xs : List Exchange} {response : Response} (h : Course (x.execute request) xs (.value response)) :
    ∃ e, LastRead xs e ∧ e.finished = true ∧ TellsOf response e := by
  rw [execute_eq] at h
  obtain ⟨profile, asked, _, _, hprofile, rfl⟩ := course_bind_value h
  unfold afterProfile at hprofile
  split at hprofile
  · obtain ⟨_, _, _, _, hdenied, _⟩ := course_bind_value hprofile
    cases hdenied
  obtain ⟨found, looked, _, _, hfound, rfl⟩ := course_bind_value hprofile
  cases found with
  | none => cases hfound
  | some c =>
      rw [afterChain, runAdmitted] at hfound
      obtain ⟨now, read, _, _, hnow, rfl⟩ := course_bind_value hfound
      obtain ⟨r, made, _, _, hmade, rfl⟩ := course_bind_value hnow
      obtain ⟨outcome, ran, after, hrun, hafter, rfl⟩ := course_bind_value hmade
      cases outcome with
      | error failure =>
          obtain ⟨_, _, _, _, hfailed, _⟩ := course_bind_value hafter
          cases hfailed
      | ok given =>
          cases hafter
          rcases course_attempt hrun with ⟨_, hvalue, hend⟩ | ⟨_, _, hend⟩ | ⟨_, hend⟩
          · cases hend
            obtain ⟨e, hlast, hrest⟩ := course_runRecord hx hvalue
            rw [List.append_nil]
            exact ⟨e, (((hlast.append made).append read).append looked).append asked, hrest⟩
          · cases hend
          · cases hend

/-! ## Two runs -/

theorem offStore_of_isQuiet (q : Effect) (hq : IsQuiet q) : OffStore q := by
  cases q with
  | store call => exact absurd hq id
  | _ => trivial

/-- An operation of the store is one effect, and its answer is read. -/
theorem run_ambient (h : Handler σ) (call : StoreCall) (s : σ) :
    (Store.ambient call).run h s = (endOf (h (.store call) s).1, (h (.store call) s).2) :=
  run_ofExcept h (h (.store call) s).1 (h (.store call) s).2

section Runs

variable {x : Executor} {h h' : Handler σ} {valid : σ → Prop} {stored : σ → String → Option Record} {s : σ}

/-- A response for a record of an organization is what its record tells, and the two states have the same records. -/
structure Agreed (valid : σ → Prop) (stored : σ → String → Option Record) (org : String) (response : Response)
    (t t' : σ) : Prop where
  valid : valid t
  same : stored t' = stored t
  told : ∃ r, stored t response.id = some r ∧ r.org = org ∧ Response.ofRecord r = .ok response

/-- What asks nothing of the store leaves the records and goes the same way beside both handlers. -/
theorem follows_offStore {Q : α → σ → σ → Prop} (hkeeps : KeepsRecords h valid stored)
    (halike : ∀ q, ¬ IsRollup q → h q = h' q) {C : Prop} {p : Act α} (hp : p.Asks OffStore C) (hs : valid s)
    (hQ : ∀ a t, valid t → stored t = stored s → Q a t t) : Follows h h' p s s Q := by
  have hsame : p.Asks (fun q => h q = h' q) C :=
    asks_mono (fun q hq => halike q (not_isRollup_of_offStore q hq)) hp
  refine follows_self hsame fun a t hrun => ?_
  have hkept := hkeeps.run (asks_mono leavesRecords_of_offStore hp) hs
  rw [hrun] at hkept
  exact hQ a t hkept.1 hkept.2

/-- What follows an operation of the store goes on from its answer beside both handlers. -/
theorem follows_store {Q : α → σ → σ → Prop} (hkeeps : KeepsRecords h valid stored)
    (halike : ∀ q, ¬ IsRollup q → h q = h' q) {call : StoreCall} (hcall : ¬ IsRollup (.store call))
    {f : call.Answer → Act α} (hs : valid s)
    (hnext : ∀ a t, (h (.store call) s).1 = .ok a → (h (.store call) s).2 = t → valid t → Follows h h' (f a) t t Q) :
    Follows h h' (Store.ambient call >>= f) s s Q := by
  have hsame : (Store.ambient call).Asks (fun q => h q = h' q) True := asks_ambient (halike _ hcall)
  refine follows_bind (follows_self hsame fun a t hrun => ?_)
  rw [run_ambient] at hrun
  obtain ⟨hanswer, hstate⟩ := Prod.mk.inj hrun
  exact hnext a t (endOf_eq_value.mp hanswer) hstate (hstate ▸ hkeeps.valid_answer _ s hs)

/-- The rollup and what follows it end in the response of the completed record, whatever the rollup comes to. -/
theorem run_afterCompletion (hx : x.store = Store.ambient) (hkeeps : KeepsRecords h valid stored) (r : Record)
    (e : EngineExecution) (c : Completion) (hs : valid s) :
    ∃ t, (afterCompletion x r e c).run h s = (endOf (Response.ofRecord (Executor.completedRecord r e.id c)), t)
      ∧ valid t ∧ stored t = stored s := by
  have hleaves : (afterCompletion x r e c).Asks LeavesRecords True := by
    unfold afterCompletion
    rw [hx]
    refine asks_bind (asks_attempt (asks_ambient trivial)) fun outcome => ?_
    cases outcome with
    | ok _ => exact asks_ofExcept _
    | error failure => exact asks_bind (asks_perform trivial) fun _ => asks_ofExcept _
  refine ⟨_, Prod.ext ?_ rfl, hkeeps.run hleaves hs⟩
  have hend : ∀ m, ((ofExcept (Response.ofRecord (Executor.completedRecord r e.id c))).run h m).1
      = endOf (Response.ofRecord (Executor.completedRecord r e.id c)) := by
    intro m
    rw [run_ofExcept]
  unfold afterCompletion
  rw [hx, run_bind, run_attempt, run_ambient]
  cases (h (.store (.rollup (Executor.rollupOf r c))) s).1 with
  | ok _ => exact hend (h (.store (.rollup (Executor.rollupOf r c))) s).2
  | error failure => exact hend (h (.report (.rollupFailed r.chain failure)) _).2

variable (hx : x.store = Store.ambient) (hkeeps : KeepsRecords h valid stored) (hkeeps' : KeepsRecords h' valid stored)
variable (halike : ∀ q, ¬ IsRollup q → h q = h' q)

include hx hkeeps hkeeps' halike

/-- A running record is completed alike. -/
theorem follows_finalize {r : Record} {marked : Option String} (e : EngineExecution) (hs : valid s)
    (hr : stored s r.id = some (MemoryStore.runningRecord marked r)) :
    Follows h h' (x.finalize r e) s s (Agreed valid stored r.org) := by
  have hnotices : ∀ notices, (reportAll notices).Asks OffStore True := asks_reportAll fun _ => trivial
  rw [finalize_eq]
  refine follows_bind (follows_offStore hkeeps halike (hnotices _) hs fun _ t₁ hv₁ hk₁ => ?_)
  refine follows_bind (follows_offStore hkeeps halike (hnotices _) hv₁ fun _ t₂ hv₂ hk₂ => ?_)
  refine follows_bind (follows_offStore (C := True) hkeeps halike (asks_perform trivial) hv₂ fun now t₃ hv₃ hk₃ => ?_)
  refine follows_bind (follows_ofExcept fun metrics _ => ?_)
  refine follows_bind (follows_offStore (C := True) hkeeps halike (asks_perform trivial) hv₃ fun at' t₄ hv₄ hk₄ => ?_)
  have hkept : stored t₄ = stored s := by rw [hk₄, hk₃, hk₂, hk₁]
  rw [hx]
  refine follows_store hkeeps halike id hv₄ fun _ t₅ hanswer hstate hv₅ => ?_
  have hwritten := hkeeps.complete r.id (x.completion e metrics at') t₄ hv₄ hanswer
  rw [hstate, hkept, hr] at hwritten
  -- beside both handlers the rollup ends in the response of the record as it is stored now
  obtain ⟨t, hrun, hv, hk⟩ := run_afterCompletion hx hkeeps r e (x.completion e metrics at') hv₅
  obtain ⟨t', hrun', -, hk'⟩ := run_afterCompletion hx hkeeps' r e (x.completion e metrics at') hv₅
  intro response m hresponse
  rw [hrun] at hresponse
  obtain ⟨hend, rfl⟩ := Prod.mk.inj hresponse
  refine ⟨t', by rw [hrun', hend], hv, hk'.trans hk.symm, ?_⟩
  have hread := endOf_eq_value.mp hend
  obtain ⟨hid, -, -⟩ := response_of_completed hread
  refine ⟨MemoryStore.terminalRecord (x.completion e metrics at') (MemoryStore.runningRecord marked r), ?_, rfl, ?_⟩
  · rw [hk, hwritten, hid, Function.update_self]
    rfl
  · rw [ofRecord_terminal r marked e.id]
    exact hread

/-- A stored record is run alike. -/
theorem follows_runRecord [Depth] (request : ExecutionRequest) (c : Chain) {r : Record} (hs : valid s)
    (hr : stored s r.id = some r) : Follows h h' (x.runRecord request c r) s s (Agreed valid stored r.org) := by
  have hdeploy : (ensureDeployed x.deploy c (some request.org)).Asks OffStore True :=
    asks_mono (fun q hq => offStore_of_isQuiet q (isQuiet_of_deployEffect q hq)) (asks_ensureDeployed _ _ _)
  have hstart : ∀ remote input, (executeWorkflow remote input).Asks OffStore True :=
    fun _ input => asks_executeWorkflow (fun _ => trivial) input
  have hwait : ∀ started, (x.poller.wait started).Asks OffStore False :=
    asks_wait (fun _ _ => trivial) (fun _ => trivial) (fun _ => trivial) x.poller
  unfold Executor.runRecord
  refine follows_bind (follows_offStore hkeeps halike hdeploy hs fun remote t₁ hv₁ hk₁ => ?_)
  refine follows_bind (follows_offStore (C := True) hkeeps halike (asks_perform trivial) hv₁ fun now t₂ hv₂ hk₂ => ?_)
  refine follows_bind (follows_offStore hkeeps halike (hstart _ _) hv₂ fun started t₃ hv₃ hk₃ => ?_)
  have hkept : stored t₃ = stored s := by rw [hk₃, hk₂, hk₁]
  rw [hx]
  refine follows_store hkeeps halike id hv₃ fun _ t₄ hanswer hstate hv₄ => ?_
  have hmarked := hkeeps.markRunning r.id (some started.id) t₃ hv₃ hanswer
  rw [hstate, hkept, hr] at hmarked
  refine follows_bind (follows_offStore hkeeps halike (hwait started) hv₄ fun finished t₅ hv₅ hk₅ => ?_)
  have hrunning : stored t₅ r.id = some (MemoryStore.runningRecord (some started.id) r) := by
    rw [hk₅, hmarked, Function.update_self]
    rfl
  exact follows_finalize hx hkeeps hkeeps' halike finished hv₅ hrunning

/-- **Whatever a rollup comes to, the response is the same and so are the records**, and the response is what the record
    tells. -/
theorem follows_execute [Depth] (request : ExecutionRequest) (hs : valid s) :
    Follows h h' (x.execute request) s s (Agreed valid stored request.org) := by
  rw [execute_eq, hx]
  refine follows_store hkeeps halike id hs fun profile t₁ _ _ hv₁ => ?_
  unfold afterProfile
  split
  · exact follows_bind (follows_offStore (C := True) hkeeps halike (asks_perform trivial) hv₁ fun _ _ _ _ =>
      follows_failed)
  rw [hx]
  refine follows_store hkeeps halike id hv₁ fun found t₂ _ _ hv₂ => ?_
  cases found with
  | none => exact follows_failed
  | some c =>
      rw [afterChain, runAdmitted, hx]
      refine follows_bind (follows_offStore (C := True) hkeeps halike (asks_perform trivial) hv₂ fun now t₃ hv₃ _ => ?_)
      refine follows_store hkeeps halike id hv₃ fun r t₄ hanswer hstate hv₄ => ?_
      obtain ⟨hpending, hinserted⟩ := hkeeps.insert _ _ _ _ t₃ r hv₃ hanswer
      have hr : stored t₄ r.id = some r := by
        rw [← hstate, hinserted, Function.update_self]
        rfl
      have horg : r.org = request.org := by
        rw [hpending]
        rfl
      rw [← horg]
      -- a run that fails ends in its failure, after a notice
      refine follows_attempt (follows_mono ?_ (follows_runRecord hx hkeeps hkeeps' halike request c hv₄ hr)) ?_
      · intro response t t' hagreed
        exact follows_done hagreed
      · intro e response t m hrun
        cases hrun

end Runs

/-! ## Agreement -/

section Agreement

variable {x : Executor} {h : Handler σ} {valid : σ → Prop} {stored : σ → String → Option Record} {t : σ}

/-- A query of the status of a stored record, of any organization or of its own, is answered with its response. -/
theorem run_status_of_stored (hx : x.store = Store.ambient) (hkeeps : KeepsRecords h valid stored) (ht : valid t)
    {id : String} {r : Record} {response : Response} (hr : stored t id = some r)
    (hresponse : Response.ofRecord r = .ok response) {org : Option String} (horg : ∀ o ∈ org, o = r.org) :
    ((x.status id org).run h t).1 = .value response := by
  have hrecord := hkeeps.record id t ht
  rw [hr] at hrecord
  have hadmitted : afterRecord org (some r) = ofExcept (Response.ofRecord r) := by
    cases org with
    | none => rfl
    | some o => exact afterRecord_own (horg o rfl).symm
  rw [status_eq, hx, (ambient_ok hrecord (afterRecord org)).1, hadmitted, run_ofExcept, hresponse]
  rfl

/-- **What an execution settles that is answered with a response.** -/
structure Settles [Depth] (x : Executor) (h : Handler σ) (valid : σ → Prop) (stored : σ → String → Option Record)
    (request : ExecutionRequest) (s : σ) (response : Response) (t : σ) : Prop where
  /-- A query of its status, of any organization or of its own, is answered alike. -/
  status : ∀ org : Option String, (∀ o ∈ org, o = request.org) →
    ((x.status response.id org).run h t).1 = .value response
  /-- An error is told of failed executions alone. -/
  error : response.error ≠ none ↔ response.status = .failed
  /-- The execution that was read last is finished, and the response tells whether it failed. -/
  finished : ∃ e, LastRead (exchanges h (x.execute request) s) e ∧ e.finished = true
    ∧ (response.status = .failed ↔ e.error ≠ none ∨ e.TellsFailure)
  /-- Nothing else depends on what a rollup comes to. -/
  rollup : ∀ h', KeepsRecords h' valid stored → (∀ q, ¬ IsRollup q → h q = h' q) →
    ∃ t', (x.execute request).run h' s = (.value response, t') ∧ stored t' = stored t

end Agreement

end PromptGraph
