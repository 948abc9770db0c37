import Mathlib.Data.List.Basic
import PromptGraph.Execution.Run
import PromptGraph.Proofs.Checked
import PromptGraph.Proofs.Deploy.Footprint

/-!
# `Proofs.Execution.Lifecycle` — what a record tells of its execution

One execution asks for the store's operations in a fixed order and stops at the first that fails for good, so how far it
came can be read off its record. Each stage of an execution is followed by the way it can end there (`FinalStage`,
`RunStage`, `ExecutionStage`), and `execute_lifecycle` reads the end, the calls and the record's status off the stage.

## Contents
- **Progress.** `Progress`: the calls and the requests between two states; `IsQuiet` programs call no operation.
- **Operations of the store.** `store_bind_cases`: refused, or applied and gone on from.
- **Stages.** `finalize_stage`, `runRecord_stage`, `execute_stage`.
- **The lifecycle.** `execute_lifecycle`.
-/

namespace PromptGraph

open Act Engine Http

variable {α β : Type}

-- what a request asks for is known; to unfold its checks takes long
attribute [local irreducible] send

/-! ## Progress -/

/-- Whether a request starts a workflow. -/
def Http.Request.isStart (r : Request) : Bool :=
  match r.method, r.endpoint with
  | .post, .execute _ => true
  | _, _ => false

/-- The effects that neither call an operation of the store nor start a workflow. -/
def IsQuiet : Effect → Prop
  | .store _ => False
  | .exchange r => r.isStart = false
  | _ => True

/-- Between two states these operations were called, in this order, and at most so many workflows started. -/
structure Progress (w w' : Rehearsal) (names : List String) (starts : Nat) : Prop where
  refused : w'.store.refused = w.store.refused
  calls : ∃ calls, w'.store.calls = w.store.calls ++ calls ∧ calls.map StoreCall.name = names
  requests : ∃ sent, w'.requests = w.requests ++ sent ∧ sent.countP Request.isStart ≤ starts

namespace Progress

theorem refl (w : Rehearsal) : Progress w w [] 0 where
  refused := rfl
  calls := ⟨[], (List.append_nil _).symm, rfl⟩
  requests := ⟨[], (List.append_nil _).symm, Nat.le_refl 0⟩

theorem trans {a b c : Rehearsal} {names more : List String} {m n : Nat} (hab : Progress a b names m)
    (hbc : Progress b c more n) : Progress a c (names ++ more) (m + n) := by
  obtain ⟨calls, hcalls, hnames⟩ := hab.calls
  obtain ⟨calls', hcalls', hmore⟩ := hbc.calls
  obtain ⟨sent, hsent, hm⟩ := hab.requests
  obtain ⟨sent', hsent', hn⟩ := hbc.requests
  refine ⟨hbc.refused.trans hab.refused, ⟨calls ++ calls', ?_, ?_⟩, ⟨sent ++ sent', ?_, ?_⟩⟩
  · rw [hcalls', hcalls, List.append_assoc]
  · rw [List.map_append, hnames, hmore]
  · rw [hsent', hsent, List.append_assoc]
  · rw [List.countP_append]
    exact Nat.add_le_add hm hn

theorem mono {w w' : Rehearsal} {names : List String} {m n : Nat} (h : Progress w w' names m) (hmn : m ≤ n) :
    Progress w w' names n := by
  obtain ⟨sent, hsent, hm⟩ := h.requests
  exact ⟨h.refused, h.calls, ⟨sent, hsent, Nat.le_trans hm hmn⟩⟩

end Progress

/-- Nothing was asked of the store between two states, and at most so many workflows were started. -/
def Calm (starts : Nat) (w w' : Rehearsal) : Prop := w'.store = w.store ∧ Progress w w' [] starts

namespace Calm

theorem of_requests {n : Nat} {w w' : Rehearsal} {sent : List Request} (hstore : w'.store = w.store)
    (hsent : w'.requests = w.requests ++ sent) (hn : sent.countP Request.isStart ≤ n) : Calm n w w' := by
  refine ⟨hstore, ⟨by rw [hstore], ⟨[], ?_, rfl⟩, ⟨sent, hsent, hn⟩⟩⟩
  rw [hstore, List.append_nil]

theorem refl (w : Rehearsal) : Calm 0 w w := ⟨rfl, Progress.refl w⟩

theorem trans {m n : Nat} {a b c : Rehearsal} (hab : Calm m a b) (hbc : Calm n b c) : Calm (m + n) a c :=
  ⟨hbc.1.trans hab.1, hab.2.trans hbc.2⟩

end Calm

theorem calm_exchange {r : Request} {n : Nat} (hn : [r].countP Request.isStart ≤ n) (w : Rehearsal) :
    Calm n w (Rehearsal.answer (.exchange r) w).2 := by
  rcases answer_exchange r w with h | ⟨address, h⟩
  · rw [h]
    exact Calm.of_requests rfl (List.append_nil _).symm (Nat.zero_le n)
  · rw [h]
    exact Calm.of_requests rfl rfl hn

theorem calm_answer {q : Effect} (hq : IsQuiet q) (w : Rehearsal) : Calm 0 w (Rehearsal.answer q w).2 := by
  cases q with
  | exchange r =>
      have hr : r.isStart = false := hq
      exact calm_exchange (by simp [hr]) w
  | store call => exact absurd hq id
  | forget chain =>
      cases chain <;> exact Calm.of_requests rfl (List.append_nil _).symm (Nat.le_refl 0)
  | _ => exact Calm.of_requests rfl (List.append_nil _).symm (Nat.le_refl 0)

theorem calm_report (notice : Notice) (w : Rehearsal) : Calm 0 w (Rehearsal.answer (.report notice) w).2 :=
  calm_answer (q := .report notice) trivial w

/-- A quiet program asks nothing of the store and starts nothing. -/
theorem calm_run {C : Prop} {p : Act α} (hp : p.Asks IsQuiet C) (w : Rehearsal) :
    Calm 0 w (p.run Rehearsal.answer w).2 :=
  run_related Calm.refl Calm.trans (fun _ s hq => calm_answer hq s) hp w

/-- Starting a workflow sends one request at most. -/
theorem calm_executeWorkflow [Depth] (id : String) (input : Json) (w : Rehearsal) :
    Calm 1 w ((executeWorkflow id input).run Rehearsal.answer w).2 := by
  unfold executeWorkflow sendBody
  rw [run_bind_ofExcept_snd]
  rcases run_send Rehearsal.answer _ w with ⟨e, h⟩ | h
  · rw [h]
    exact Calm.of_requests rfl (List.append_nil _).symm (Nat.zero_le 1)
  · rw [h]
    exact calm_exchange List.countP_le_length w

/-! ## Operations of the store -/

/-- A state in which an operation of the store is listed as asked for. -/
def listing (w : Rehearsal) (call : StoreCall) : Rehearsal :=
  { w with store := { w.store with calls := w.store.calls ++ [call] } }

/-- A state in which an operation of the store has been carried out. -/
def applied (w : Rehearsal) (call : StoreCall) : Rehearsal :=
  { w with store := ((listing w call).store.apply call).2 }

theorem progress_listing (w : Rehearsal) (call : StoreCall) : Progress w (listing w call) [call.name] 0 where
  refused := rfl
  calls := ⟨[call], rfl, rfl⟩
  requests := ⟨[], (List.append_nil _).symm, Nat.le_refl 0⟩

theorem progress_applied (w : Rehearsal) (call : StoreCall) : Progress w (applied w call) [call.name] 0 := by
  have happly : ∀ s : MemoryStore, (s.apply call).2.refused = s.refused ∧ (s.apply call).2.calls = s.calls := by
    intro s
    cases call <;> exact ⟨rfl, rfl⟩
  obtain ⟨hrefused, hcalls⟩ := happly (listing w call).store
  exact ⟨hrefused, ⟨[call], hcalls, rfl⟩, ⟨[], (List.append_nil _).symm, Nat.le_refl 0⟩⟩

/-- **An operation of the store is refused or carried out.** -/
theorem answer_store_cases (call : StoreCall) (w : Rehearsal) :
    (call.name ∈ w.store.refused
        ∧ Rehearsal.answer (.store call) w = (.error (.runtime (.store call.name)), listing w call))
      ∨ (call.name ∉ w.store.refused
        ∧ Rehearsal.answer (.store call) w = (.ok ((listing w call).store.apply call).1, applied w call)) := by
  have hanswer : Rehearsal.answer (.store call) w
      = ((MemoryStore.answer call w.store).1, { w with store := (MemoryStore.answer call w.store).2 }) := rfl
  rw [hanswer]
  unfold MemoryStore.answer
  by_cases h : call.name ∈ w.store.refused
  · left
    rw [if_pos (List.contains_iff_mem.mpr h)]
    exact ⟨h, rfl⟩
  · right
    rw [if_neg (fun hc => h (List.contains_iff_mem.mp hc))]
    exact ⟨h, rfl⟩

theorem run_ambient_cases (call : StoreCall) (w : Rehearsal) :
    (call.name ∈ w.store.refused
        ∧ (Store.ambient call).run Rehearsal.answer w = (.failure (.runtime (.store call.name)), listing w call))
      ∨ (call.name ∉ w.store.refused
        ∧ (Store.ambient call).run Rehearsal.answer w
          = (.value ((listing w call).store.apply call).1, applied w call)) := by
  have hrun : (Store.ambient call).run Rehearsal.answer w
      = (ofExcept (Rehearsal.answer (.store call) w).1).run Rehearsal.answer (Rehearsal.answer (.store call) w).2 := rfl
  rcases answer_store_cases call w with ⟨h, hanswer⟩ | ⟨h, hanswer⟩
  · left
    exact ⟨h, by rw [hrun, hanswer]; rfl⟩
  · right
    exact ⟨h, by rw [hrun, hanswer]; rfl⟩

theorem store_bind_cases (call : StoreCall) (f : call.Answer → Act β) (w : Rehearsal) :
    (call.name ∈ w.store.refused
        ∧ (Store.ambient call >>= f).run Rehearsal.answer w
          = (.failure (.runtime (.store call.name)), listing w call))
      ∨ (call.name ∉ w.store.refused
        ∧ (Store.ambient call >>= f).run Rehearsal.answer w
          = (f ((listing w call).store.apply call).1).run Rehearsal.answer (applied w call)) := by
  rcases run_ambient_cases call w with ⟨h, hrun⟩ | ⟨h, hrun⟩
  · left
    exact ⟨h, by rw [run_bind, hrun]⟩
  · right
    exact ⟨h, by rw [run_bind, hrun]⟩

/-! ## Stages -/

/-- The record at a place of a store has this id and this status. -/
def StandsAt (place : Nat) (id : String) (s : MemoryStore) (status : Status) : Prop :=
  ∃ r, s.records[place]? = some r ∧ r.id = id ∧ r.status = status

/-- The status of the record at a place of a store, if there is one. -/
def statusAt (place : Nat) (s : MemoryStore) : Option Status := s.records[place]?.map Record.status

theorem standsAt_update {place : Nat} {id : String} {s : MemoryStore} {before status : Status} {f : Record → Record}
    (h : StandsAt place id s before) (hid : ∀ r, (f r).id = r.id) (hstatus : ∀ r, (f r).status = status) :
    StandsAt place id (s.update id f) status := by
  obtain ⟨r, hr, rfl, -⟩ := h
  refine ⟨f r, ?_, hid r, hstatus r⟩
  rw [MemoryStore.update, List.getElem?_map, hr, Option.map_some, if_pos rfl]

theorem standsAt_insert (w : Rehearsal) (chain org : String) (input : Members) (startedAt : Timestamp) :
    StandsAt w.store.records.length (MemoryStore.pendingRecord w.store.nextId chain org input startedAt).id
      (applied w (.insert chain org input startedAt)).store .pending :=
  ⟨MemoryStore.pendingRecord w.store.nextId chain org input startedAt, List.getElem?_concat_length, rfl, rfl⟩

/-- The ways in which the completion of a running record ends. -/
inductive FinalStage (refused : List String) : End Response → List String → Status → Prop where
  | unread (e : Failure) : FinalStage refused (.failure e) [] .running
  | unwritten (e : Failure) (h : "complete_execution" ∈ refused) :
      FinalStage refused (.failure e) ["complete_execution"] .running
  | written (response : Response) (status : Status) (h : "complete_execution" ∉ refused)
      (hstatus : status = .completed ∨ status = .failed) :
      FinalStage refused (.value response) ["complete_execution", "upsert_hourly_metrics"] status

/-- The ways in which the run of a pending record ends. -/
inductive RunStage (refused : List String) : End Response → List String → Status → Prop where
  | notStarted (e : Failure) : RunStage refused (.failure e) [] .pending
  | notMarked (e : Failure) (h : "mark_running" ∈ refused) : RunStage refused (.failure e) ["mark_running"] .pending
  | marked {o : End Response} {names : List String} {status : Status} (h : "mark_running" ∉ refused)
      (hfinal : FinalStage refused o names status) : RunStage refused o ("mark_running" :: names) status

/-- The ways in which an execution ends. -/
inductive ExecutionStage (refused : List String) : End Response → List String → Option Status → Prop where
  | noProfile (e : Failure) : ExecutionStage refused (.failure e) ["get_profile_org"] none
  | noChain (e : Failure) : ExecutionStage refused (.failure e) ["get_profile_org", "get_workflow"] none
  | notInserted (e : Failure) (h : "insert_execution" ∈ refused) :
      ExecutionStage refused (.failure e) ["get_profile_org", "get_workflow", "insert_execution"] none
  | inserted {o : End Response} {names : List String} {status : Status} (h : "insert_execution" ∉ refused)
      (hrun : RunStage refused o names status) :
      ExecutionStage refused o ("get_profile_org" :: "get_workflow" :: "insert_execution" :: names) (some status)

/-- An end is one of the stage's, with the calls that go with it, and what is seen of the store afterwards. -/
def Reaches {Seen : Type} (Stage : End Response → List String → Seen → Prop) (starts : Nat)
    (view : MemoryStore → Seen → Prop) (w : Rehearsal) (x : End Response × Rehearsal) : Prop :=
  ∃ names seen, Stage x.1 names seen ∧ Progress w x.2 names starts ∧ view x.2.store seen

section Reaching

variable {Seen : Type} {Stage : End Response → List String → Seen → Prop} {view : MemoryStore → Seen → Prop}
variable {seen : Seen} {w : Rehearsal}

/-- What a stage needs of the calls before it, it is given by the progress so far. -/
theorem reaches_after {Later : Type} {Stage' : End Response → List String → Later → Prop}
    {view' : MemoryStore → Later → Prop} {t : Rehearsal} {x : End Response × Rehearsal} {before : List String}
    {m n : Nat} (hprogress : Progress w t before m) (h : Reaches Stage' n view' t x)
    (hstage : ∀ {names later}, Stage' x.1 names later → view' x.2.store later →
      ∃ seen, Stage x.1 (before ++ names) seen ∧ view x.2.store seen) :
    Reaches Stage (m + n) view w x := by
  obtain ⟨names, later, hlater, hmore, hview'⟩ := h
  obtain ⟨seen, hseen, hview⟩ := hstage hlater hview'
  exact ⟨before ++ names, seen, hseen, hprogress.trans hmore, hview⟩

theorem reaches_prefix {t : Rehearsal} {x : End Response × Rehearsal} {before : List String} {n : Nat}
    (hprogress : Progress w t before 0) (h : Reaches (fun o names => Stage o (before ++ names)) n view t x) :
    Reaches Stage n view w x :=
  Nat.zero_add n ▸ reaches_after hprogress h fun hstage hview => ⟨_, hstage, hview⟩

theorem reaches_bind {m n : Nat} {p : Act α} {f : α → Act Response}
    (hcalm : Calm m w (p.run Rehearsal.answer w).2) (hcut : (p.run Rehearsal.answer w).1 ≠ .cut)
    (hw : view w.store seen) (hfail : ∀ e, Stage (.failure e) [] seen)
    (hnext : ∀ a t, t.store = w.store → t.replies.length ≤ w.replies.length →
      Reaches Stage n view t ((f a).run Rehearsal.answer t)) :
    Reaches Stage (m + n) view w ((p >>= f).run Rehearsal.answer w) := by
  rw [run_bind]
  have hreplies := run_replies_le p w
  rcases hrun : p.run Rehearsal.answer w with ⟨o, t⟩
  rw [hrun] at hcalm hcut hreplies
  cases o with
  | value a =>
      obtain ⟨names, seen', hstage, hprogress, hview⟩ := hnext a t hcalm.1 hreplies
      exact ⟨names, seen', hstage, hcalm.2.trans hprogress, hview⟩
  | failure e => exact ⟨[], seen, hfail e, hcalm.2.mono (Nat.le_add_right m n), hcalm.1 ▸ hw⟩
  | cut => exact absurd rfl hcut

theorem reaches_quiet {n : Nat} {p : Act α} {f : α → Act Response} (hp : p.Asks IsQuiet False)
    (hw : view w.store seen) (hfail : ∀ e, Stage (.failure e) [] seen)
    (hnext : ∀ a t, t.store = w.store → t.replies.length ≤ w.replies.length →
      Reaches Stage n view t ((f a).run Rehearsal.answer t)) :
    Reaches Stage n view w ((p >>= f).run Rehearsal.answer w) :=
  Nat.zero_add n ▸ reaches_bind (calm_run hp w) (run_ne_cut hp Rehearsal.answer w) hw hfail hnext

theorem reaches_store {n : Nat} {call : StoreCall} {f : call.Answer → Act Response}
    (hrefuse : call.name ∈ w.store.refused → Reaches Stage n view w
      (.failure (.runtime (.store call.name)), listing w call))
    (hnext : call.name ∉ w.store.refused → Reaches Stage n view w
      ((f ((listing w call).store.apply call).1).run Rehearsal.answer (applied w call))) :
    Reaches Stage n view w ((Store.ambient call >>= f).run Rehearsal.answer w) := by
  rcases store_bind_cases call f w with ⟨h, hrun⟩ | ⟨h, hrun⟩
  · rw [hrun]
    exact hrefuse h
  · rw [hrun]
    exact hnext h

/-- The rollup is merged, or its failure reported; the program ends in its value all the same. -/
theorem reaches_rollup {increment : Rollup} {f : Except Failure (StoreCall.rollup increment).Answer → Act Response}
    {response : Response} {notice : Failure → Notice} {t : Rehearsal} {names : List String}
    (hok : f (.ok ()) = done response) (herror : ∀ e, f (.error e) = report (notice e) >>= fun _ => done response)
    (hstage : Stage (.value response) (names ++ ["upsert_hourly_metrics"]) seen) (hprogress : Progress w t names 0)
    (hview : ∀ s : MemoryStore, s.records = t.store.records → view s seen) :
    Reaches Stage 0 view w ((attempt (Store.ambient (.rollup increment)) >>= f).run Rehearsal.answer t) := by
  rw [run_bind, run_attempt]
  rcases run_ambient_cases (.rollup increment) t with ⟨h, hrun⟩ | ⟨h, hrun⟩
  · rw [hrun]
    show Reaches Stage 0 view w ((f (.error _)).run Rehearsal.answer _)
    rw [herror]
    have hreport := (calm_report (notice (.runtime (.store "upsert_hourly_metrics"))) (listing t (.rollup increment))).2
    exact ⟨_, seen, hstage, hprogress.trans ((progress_listing t (.rollup increment)).trans hreport), hview _ rfl⟩
  · rw [hrun]
    show Reaches Stage 0 view w ((f (.ok ())).run Rehearsal.answer _)
    rw [hok]
    exact ⟨_, seen, hstage, hprogress.trans (progress_applied t (.rollup increment)), hview _ rfl⟩

end Reaching

/-- The costs and the error of a completed record are of the kinds that its response takes. -/
theorem ofRecord_completed (x : Executor) (r : Record) (engineId : String) (e : EngineExecution) (metrics : Metrics)
    (at' : Timestamp) :
    ∃ response,
      Response.ofRecord (Executor.completedRecord r engineId (x.completion e metrics at')) = .ok response := by
  have hcost : ∃ cost, (Schema.nullable [("cost", (Members.get? "total" ((x.costData metrics).getD [])).getD .null)]
      "cost" Schema.float).toExcept "ExecutionResponseMetrics" = .ok cost := by
    unfold Executor.costData
    split <;> exact ⟨_, rfl⟩
  have herror : ∃ error, (Schema.nullable
      [("error", (Members.get? "message" ((Executor.errorDetails e).getD [])).getD .null)]
      "error" Schema.text).toExcept "ExecutionResponse" = .ok error := by
    unfold Executor.errorDetails
    split
    · exact ⟨_, rfl⟩
    · split <;> exact ⟨_, rfl⟩
  obtain ⟨cost, hcost⟩ := hcost
  obtain ⟨error, herror⟩ := herror
  refine ⟨Response.make (Executor.completedRecord r engineId (x.completion e metrics at')) error cost, ?_⟩
  exact bind_eq_ok.mpr ⟨cost, hcost, bind_eq_ok.mpr ⟨error, herror, rfl⟩⟩

theorem finalStatus_terminal (e : EngineExecution) :
    Executor.finalStatus e = .completed ∨ Executor.finalStatus e = .failed := by
  unfold Executor.finalStatus
  split
  · exact Or.inr rfl
  · exact Or.inl rfl

/-- A running record is left as it is until its terminal write. -/
theorem finalize_stage {x : Executor} (hx : x.store = Store.ambient) {r : Record} {w : Rehearsal} {place : Nat}
    (hw : StandsAt place r.id w.store .running) (e : EngineExecution) :
    Reaches (FinalStage w.store.refused) 0 (StandsAt place r.id) w ((x.finalize r e).run Rehearsal.answer w) := by
  unfold Executor.finalize
  rw [hx]
  -- notices, the clock, the metrics and the clock again: a failure leaves the record running
  refine reaches_quiet (asks_reportAll (fun _ => trivial) _) hw .unread fun _ t₁ h₁ _ => ?_
  refine reaches_quiet (asks_reportAll (fun _ => trivial) _) (h₁ ▸ hw) .unread fun _ t₂ h₂ _ => ?_
  refine reaches_quiet (asks_perform trivial) (h₂ ▸ h₁ ▸ hw) .unread fun now t₃ h₃ _ => ?_
  refine reaches_quiet (asks_ofExcept _) (h₃ ▸ h₂ ▸ h₁ ▸ hw) .unread fun metrics t₄ h₄ _ => ?_
  refine reaches_quiet (asks_perform trivial) (h₄ ▸ h₃ ▸ h₂ ▸ h₁ ▸ hw) .unread fun completedAt t₅ h₅ _ => ?_
  have hstore : t₅.store = w.store := by rw [h₅, h₄, h₃, h₂, h₁]
  have hrunning : StandsAt place r.id t₅.store .running := hstore ▸ hw
  rw [← hstore]
  refine reaches_store (fun h => ?_) (fun h => ?_)
  · exact ⟨_, _, .unwritten _ h, progress_listing t₅ _, hrunning⟩
  · -- after the terminal write nothing fails any more: the response can be built, and the rollup is attempted
    obtain ⟨response, hresponse⟩ := ofRecord_completed x r e.id e metrics completedAt
    have hend : ofExcept (Response.ofRecord (Executor.completedRecord r e.id (x.completion e metrics completedAt)))
        = done response := by
      rw [hresponse]
      rfl
    have hwritten : StandsAt place r.id (applied t₅ (.complete r.id (x.completion e metrics completedAt))).store
        (Executor.finalStatus e) :=
      standsAt_update hrunning (f := MemoryStore.terminalRecord (x.completion e metrics completedAt))
        (fun _ => rfl) (fun _ => rfl)
    refine reaches_rollup hend (fun failure => congrArg (report (.rollupFailed r.chain failure) >>= fun _ => ·) hend)
      (.written response _ h (finalStatus_terminal e)) (progress_applied t₅ _) (fun s hs => ?_)
    unfold StandsAt at hwritten ⊢
    rw [hs]
    exact hwritten

theorem isQuiet_of_deployEffect (q : Effect) (hq : DeployEffect q) : IsQuiet q := by
  cases hq with
  | near h =>
      cases h with
      | file h =>
          cases h with
          | reading h => cases h <;> trivial
          | _ => trivial
      | _ => trivial
  | _ => rfl

section Polling

variable {P : Effect → Prop}

theorem asks_poll [Depth] (hget : ∀ id parameters, P (.exchange ⟨.get, .execution id, parameters, none⟩))
    (hpause : ∀ seconds, P (.pause seconds)) (seconds : Double) (id : String) (rest : Nat) :
    (Poller.poll seconds id rest).Asks P False := by
  induction rest with
  | zero => exact asks_bind (asks_getExecution (hget id)) (fun _ => trivial)
  | succ rest ih =>
      refine asks_bind (asks_getExecution (hget id)) (fun e => ?_)
      split
      · trivial
      · exact asks_bind (asks_perform (hpause seconds)) (fun _ => ih)

/-- Waiting polls, pauses and reports. -/
theorem asks_wait [Depth] (hget : ∀ id parameters, P (.exchange ⟨.get, .execution id, parameters, none⟩))
    (hpause : ∀ seconds, P (.pause seconds)) (hreport : ∀ notice, P (.report notice)) (p : Poller)
    (started : EngineExecution) : (p.wait started).Asks P False := by
  unfold Poller.wait
  split
  · trivial
  · refine asks_bind (asks_ofExcept _) fun seconds => asks_bind (asks_poll hget hpause _ _ _) fun found => ?_
    split
    · trivial
    · exact asks_bind (asks_perform (hreport _)) (fun _ => trivial)

end Polling

/-- A pending record is left as it is until its workflow has been started. -/
theorem runRecord_stage [Depth] {x : Executor} (hx : x.store = Store.ambient) (request : ExecutionRequest) (c : Chain)
    {r : Record} {w : Rehearsal} {place : Nat} (hw : StandsAt place r.id w.store .pending)
    (hbudget : w.replies.length < x.deploy.pageBudget) :
    Reaches (RunStage w.store.refused) 1 (StandsAt place r.id) w
      ((x.runRecord request c r).run Rehearsal.answer w) := by
  unfold Executor.runRecord
  -- the deployment, the clock and the start of the workflow: a failure leaves the record pending
  have hdeploy := asks_mono isQuiet_of_deployEffect (asks_ensureDeployed x.deploy c (some request.org))
  show Reaches (RunStage w.store.refused) (0 + 1) (StandsAt place r.id) w _
  refine reaches_bind (calm_run hdeploy w) (endsWithin_ensureDeployed _ _ _ w hbudget) hw .notStarted
    fun remote t₁ h₁ _ => ?_
  refine reaches_quiet (asks_perform trivial) (h₁ ▸ hw) .notStarted fun started t₂ h₂ _ => ?_
  show Reaches (RunStage w.store.refused) (1 + 0) (StandsAt place r.id) t₂ _
  refine reaches_bind (calm_executeWorkflow remote _ t₂)
    (run_ne_cut (asks_executeWorkflow (P := fun _ => True) (fun _ => trivial) _) Rehearsal.answer t₂)
    (h₂ ▸ h₁ ▸ hw) .notStarted fun started t₃ h₃ _ => ?_
  have hstore : t₃.store = w.store := by rw [h₃, h₂, h₁]
  have hpending : StandsAt place r.id t₃.store .pending := hstore ▸ hw
  rw [hx, ← hstore]
  refine reaches_store (fun h => ?_) (fun h => ?_)
  · exact ⟨_, _, .notMarked _ h, progress_listing t₃ _, hpending⟩
  · -- the record is running, and stays so while the engine is polled
    have hmark := progress_applied t₃ (.markRunning r.id (some started.id))
    have hrunning : StandsAt place r.id (applied t₃ (.markRunning r.id (some started.id))).store .running :=
      standsAt_update hpending (f := MemoryStore.runningRecord (some started.id)) (fun _ => rfl) (fun _ => rfl)
    show Reaches (RunStage t₃.store.refused) (0 + 0) (StandsAt place r.id) t₃ _
    refine reaches_after hmark ?_ fun hfinal hview => ⟨_, RunStage.marked h hfinal, hview⟩
    have hwait := asks_wait (P := IsQuiet) (fun _ _ => rfl) (fun _ => trivial) (fun _ => trivial) x.poller started
    refine reaches_quiet hwait hrunning .unread fun finished t₄ h₄ _ => ?_
    have hkept : t₄.store.refused = t₃.store.refused := by rw [h₄]; exact hmark.refused
    exact hkept ▸ finalize_stage hx (h₄ ▸ hrunning) finished

/-- A run that is attempted ends as it does by itself; its failure is reported in between. -/
theorem attempted_stage [Depth] {x : Executor} (hx : x.store = Store.ambient) (request : ExecutionRequest) (c : Chain)
    {r : Record} {w : Rehearsal} {place : Nat} (hw : StandsAt place r.id w.store .pending)
    (hbudget : w.replies.length < x.deploy.pageBudget) {f : Except Failure Response → Act Response}
    (hok : ∀ response, f (.ok response) = done response)
    (herror : ∀ e, f (.error e) = report (.executionFailed r.id e) >>= fun _ => failed e) :
    Reaches (RunStage w.store.refused) 1 (StandsAt place r.id) w
      ((attempt (x.runRecord request c r) >>= f).run Rehearsal.answer w) := by
  have hrun := runRecord_stage hx request c hw hbudget
  rw [run_bind, run_attempt]
  generalize (x.runRecord request c r).run Rehearsal.answer w = y at hrun ⊢
  obtain ⟨o, t⟩ := y
  obtain ⟨names, status, hstage, hprogress, hview⟩ := hrun
  cases o with
  | value response =>
      show Reaches _ 1 _ w ((f (.ok response)).run Rehearsal.answer t)
      rw [hok]
      exact ⟨names, status, hstage, hprogress, hview⟩
  | failure e =>
      show Reaches _ 1 _ w ((f (.error e)).run Rehearsal.answer t)
      rw [herror]
      have hreported := hprogress.trans (calm_report (.executionFailed r.id e) t).2
      exact ⟨names, status, hstage, List.append_nil names ▸ hreported, hview⟩
  | cut =>
      -- no stage ends cut
      cases hstage with
      | marked h hfinal => cases hfinal

/-- No record is made before the operation that makes one. -/
theorem execute_stage [Depth] {x : Executor} (hx : x.store = Store.ambient) (request : ExecutionRequest) {w : Rehearsal}
    (hbudget : w.replies.length < x.deploy.pageBudget) :
    Reaches (ExecutionStage w.store.refused) 1 (fun s seen => statusAt w.store.records.length s = seen) w
      ((x.execute request).run Rehearsal.answer w) := by
  have hnone : statusAt w.store.records.length w.store = none := by
    rw [statusAt, List.getElem?_eq_none (Nat.le_refl _), Option.map_none]
  unfold Executor.execute
  rw [hx]
  -- the requester's organization
  refine reaches_store (fun _ => ?_) (fun _ => ?_)
  · exact ⟨_, _, .noProfile _, (progress_listing w _).mono (Nat.zero_le 1), hnone⟩
  split
  · exact ⟨_, _, .noProfile _, ((progress_applied w _).trans (calm_report _ _).2).mono (Nat.zero_le 1), hnone⟩
  -- the chain
  refine reaches_prefix (progress_applied w _) (reaches_store (fun _ => ?_) (fun _ => ?_))
  · exact ⟨_, _, .noChain _, (progress_listing _ _).mono (Nat.zero_le 1), hnone⟩
  split
  · exact ⟨_, _, .noChain _, (progress_applied _ _).mono (Nat.zero_le 1), hnone⟩
  refine reaches_prefix (progress_applied _ _)
    (reaches_quiet (asks_perform trivial) hnone .noChain fun now t hstore hreplies => ?_)
  -- the record
  have hrecords : t.store.records = w.store.records := (congrArg MemoryStore.records hstore).trans rfl
  have hrefused : t.store.refused = w.store.refused := (congrArg MemoryStore.refused hstore).trans rfl
  refine reaches_store (fun hmem => ?_) (fun hmem => ?_)
  · refine ⟨_, _, .notInserted _ (hrefused ▸ hmem), (progress_listing _ _).mono (Nat.zero_le 1), ?_⟩
    rw [← hnone]
    exact congrArg (fun records : List Record => records[w.store.records.length]?.map Record.status) hrecords
  · have hpending := standsAt_insert t request.chain request.org request.input now
    have hbudget' : t.replies.length < x.deploy.pageBudget := Nat.lt_of_le_of_lt hreplies hbudget
    rw [hrecords] at hpending
    refine reaches_after (m := 0) (n := 1) (progress_applied t _)
      (attempted_stage hx request _ hpending hbudget' (fun _ => rfl) fun _ => rfl) fun hrun hview => ?_
    obtain ⟨r, hr, -, hstatus⟩ := hview
    exact ⟨some _, .inserted (hrefused ▸ hmem) (hrefused ▸ hrun), by rw [statusAt, hr, Option.map_some, hstatus]⟩

/-! ## The lifecycle -/

/-- The operations of an execution, in their order. -/
def operationOrder : List String :=
  ["get_profile_org", "get_workflow", "insert_execution", "mark_running", "complete_execution",
    "upsert_hourly_metrics"]

/-- An operation was called and not refused. -/
def TookEffect (refused names : List String) (name : String) : Prop := name ∈ names ∧ name ∉ refused

/-- What the status of its record tells of an execution that made these calls. -/
structure Tells (refused names : List String) (o : End Response) (seen : Option Status) : Prop where
  ended : (∃ response, o = .value response) ∨ ∃ e, o = .failure e
  terminal : seen = some .completed ∨ seen = some .failed ↔ ∃ response, o = .value response
  running : seen = some .running ↔ (∃ e, o = .failure e) ∧ TookEffect refused names "mark_running"
  pending : seen = some .pending ↔
    (∃ e, o = .failure e) ∧ TookEffect refused names "insert_execution" ∧ ¬ TookEffect refused names "mark_running"
  absent : seen = none ↔ (∃ e, o = .failure e) ∧ ¬ TookEffect refused names "insert_execution"

theorem ExecutionStage.ordered {refused names : List String} {o : End Response} {seen : Option Status}
    (h : ExecutionStage refused o names seen) : names <+: operationOrder := by
  cases h with
  | noProfile e => decide
  | noChain e => decide
  | notInserted e h => decide
  | inserted h hrun =>
      cases hrun with
      | notStarted e => decide
      | notMarked e h => decide
      | marked h hfinal => cases hfinal <;> decide

theorem ExecutionStage.tells {refused names : List String} {o : End Response} {seen : Option Status}
    (h : ExecutionStage refused o names seen) : Tells refused names o seen := by
  cases h with
  | noProfile e => constructor <;> simp [TookEffect]
  | noChain e => constructor <;> simp [TookEffect]
  | notInserted e h => constructor <;> simp [TookEffect, h]
  | inserted hinsert hrun =>
      cases hrun with
      | notStarted e => constructor <;> simp [TookEffect, hinsert]
      | notMarked e h => constructor <;> simp [TookEffect, hinsert, h]
      | marked hmark hfinal =>
          cases hfinal with
          | unread e => constructor <;> simp [TookEffect, hinsert, hmark]
          | unwritten e h => constructor <;> simp [TookEffect, hinsert, hmark]
          | written response status h hstatus =>
              rcases hstatus with rfl | rfl
              · constructor <;> simp
              · constructor <;> simp

/-- **One execution asks for the store's operations in their order, each at most once, starts at most one workflow,
    and leaves a record that tells how far it came.** Whatever the store holds and refuses, and whatever the clock and
    the engine answer: the record is terminal exactly when a response is returned, running exactly when the execution
    fails after it was marked, pending exactly when it fails between its making and its marking, and there is none
    exactly when the execution fails before. The bound is on the pages of a listing: more of them are allowed for than
    the engine has answers left. -/
theorem execute_lifecycle [Depth] {x : Executor} (hx : x.store = Store.ambient) (request : ExecutionRequest)
    {w : Rehearsal} (hbudget : w.replies.length < x.deploy.pageBudget) :
    ∃ o w' calls sent, (x.execute request).run Rehearsal.answer w = (o, w')
      ∧ w'.store.calls = w.store.calls ++ calls ∧ calls.map StoreCall.name <+: operationOrder
      ∧ w'.requests = w.requests ++ sent ∧ sent.countP Request.isStart ≤ 1
      ∧ Tells w.store.refused (calls.map StoreCall.name) o (statusAt w.store.records.length w'.store) := by
  obtain ⟨names, seen, hstage, hprogress, hseen⟩ := execute_stage hx request hbudget
  obtain ⟨calls, hcalls, rfl⟩ := hprogress.calls
  obtain ⟨sent, hsent, hstarts⟩ := hprogress.requests
  have htells := hstage.tells
  rw [← hseen] at htells
  exact ⟨_, _, calls, sent, rfl, hcalls, hstage.ordered, hsent, hstarts, htells⟩

/-- An executor whose store is that of the surroundings. -/
def sampleExecutor : Executor := ⟨Store.ambient, ⟨none, Rewrites.default, 5⟩, Poller.default, .int 0, .str "USD"⟩

/-- Surroundings in which an empty chain of an organization is made, activated and run to its end, and rollups fail. -/
def sampleSurroundings : Rehearsal where
  base := ⟨"http".toList, [], "engine".toList, none, ['/'], none, []⟩
  replies := [.answer 200 (.json (.arr [])), .answer 200 (.json (.obj [("id", .str "1")])),
    .answer 200 (.json (.obj [("id", .str "1")])),
    .answer 200 (.json (.obj [("id", .str "7"), ("finished", .bool true)]))]
  clock := [⟨0, some 0⟩]
  store := ⟨[("user", .str "org")], [⟨"chain", "Chain", none, some "org", Graph.empty⟩], ["upsert_hourly_metrics"],
    [], []⟩

def sampleRequest : ExecutionRequest := ⟨"chain", "org", "user", []⟩

theorem execute_lifecycle_sample :
    statusAt 0 ((sampleExecutor.execute sampleRequest).run Rehearsal.answer sampleSurroundings).2.store
        = some .completed
      ∧ ∃ o w' calls sent, (sampleExecutor.execute sampleRequest).run Rehearsal.answer sampleSurroundings = (o, w')
        ∧ w'.store.calls = calls ∧ calls.map StoreCall.name <+: operationOrder
        ∧ w'.requests = sent ∧ sent.countP Request.isStart ≤ 1
        ∧ Tells ["upsert_hourly_metrics"] (calls.map StoreCall.name) o (statusAt 0 w'.store) :=
  ⟨by decide +kernel, execute_lifecycle rfl sampleRequest (by decide)⟩

end PromptGraph
