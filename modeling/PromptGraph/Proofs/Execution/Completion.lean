import PromptGraph.Proofs.Effect.Asked
import PromptGraph.Proofs.Execution.Lifecycle
import PromptGraph.Proofs.Trace.Measured

/-!
# `Proofs.Execution.Completion` — when a finished execution comes to its terminal write

Between the end of a run and its terminal write stands the measurement. What cannot be measured is never written: its
record stays running.

## Contents
- **Steps.** `afterCompletion`, `completeMeasured`, `measureFinished`, and `finalize_eq`.
- **The terminal write.** `finalize_completes_iff`; `endlessRun`, a finished execution that is not measured.
-/

namespace PromptGraph

open Act

variable {σ : Type}

/-! ## Steps -/

/-- What follows the terminal write: the rollup, and the response. -/
def afterCompletion (x : Executor) (r : Record) (e : EngineExecution) (c : Completion) : Act Response := do
  match ← attempt (x.store (.rollup (Executor.rollupOf r c))) with
  | .ok () => pure ()
  | .error failure => report (.rollupFailed r.chain failure)
  ofExcept (Response.ofRecord (Executor.completedRecord r e.id c))

/-- The terminal write of a measured execution, and what follows it. -/
def completeMeasured (x : Executor) (r : Record) (e : EngineExecution) (metrics : Metrics) : Act Response :=
  clock >>= fun completedAt => x.store (.complete r.id (x.completion e metrics completedAt)) >>= fun _ =>
    afterCompletion x r e (x.completion e metrics completedAt)

/-- A finished execution is measured, and then completed. -/
def measureFinished (x : Executor) (r : Record) (e : EngineExecution) : Act Response :=
  clock >>= fun now => ofExcept (extractMetrics e x.costPerToken now) >>= completeMeasured x r e

theorem finalize_eq (x : Executor) (r : Record) (e : EngineExecution) : x.finalize r e =
    reportAll (outputNotices e) >>= fun _ =>
      reportAll ((ruleErrors (.ofOption .obj (extractOutput e))).map fun err =>
        .ruleFailed r.id err.rule err.message) >>= fun _ => measureFinished x r e := rfl

/-- The notices come before the measurement, and decide nothing. -/
theorem finalize_measures (x : Executor) (h : Handler σ) (r : Record) (e : EngineExecution) (s : σ) :
    ∃ t, (x.finalize r e).run h s = (measureFinished x r e).run h t
      ∧ ∀ c, .store (.complete r.id c) ∈ asked h (x.finalize r e) s
        ↔ .store (.complete r.id c) ∈ asked h (measureFinished x r e) t := by
  have hapart : ∀ c n, Effect.store (.complete r.id c) ≠ .report n := by
    intro c n heq
    cases heq
  rw [finalize_eq]
  obtain ⟨t₁, hrun₁, hasked₁⟩ := asked_reportAll (h := h) (outputNotices e) _ s
  obtain ⟨t₂, hrun₂, hasked₂⟩ := asked_reportAll (h := h) ((ruleErrors (.ofOption .obj (extractOutput e))).map
    fun err => .ruleFailed r.id err.rule err.message) (fun _ => measureFinished x r e) t₁
  refine ⟨t₂, hrun₁.trans hrun₂, fun c => ?_⟩
  rw [hasked₁ _ (hapart c), hasked₂ _ (hapart c)]

/-! ## The terminal write -/

theorem completeMeasured_asks {x : Executor} (hx : x.store = Store.ambient) (h : Handler σ) (r : Record)
    (e : EngineExecution) (metrics : Metrics) (s : σ) :
    ∃ c, .store (.complete r.id c) ∈ asked h (completeMeasured x r e metrics) s := by
  unfold completeMeasured
  rw [hx]
  exact ⟨_, List.mem_cons_of_mem _ List.mem_cons_self⟩

/-- **A finished execution comes to its terminal write exactly if each of its items can be measured**, whatever answers
    it. Its metrics are extracted exactly then, and otherwise the run ends in a failure of arithmetic. -/
theorem finalize_completes_iff {x : Executor} (hx : x.store = Store.ambient) (h : Handler σ) (r : Record)
    (e : EngineExecution) (s : σ) :
    (∀ now, (∃ metrics, extractMetrics e x.costPerToken now = .ok metrics) ↔
        ∀ item ∈ allItems e, Measurable x.costPerToken item)
      ∧ ((∃ c, .store (.complete r.id c) ∈ asked h (x.finalize r e) s) ↔
        ∀ item ∈ allItems e, Measurable x.costPerToken item)
      ∧ ((∃ item ∈ allItems e, ¬ Measurable x.costPerToken item) →
        ∃ failure, ((x.finalize r e).run h s).1 = .failure failure ∧ IsArithmetic failure) := by
  have hyields := yields_extractMetrics e x.costPerToken
  obtain ⟨t, hrun, hasked⟩ := finalize_measures x h r e s
  refine ⟨fun now => (hyields now).ok_iff, ?_⟩
  simp only [hrun, hasked]
  -- the clock is read, and then the metrics are extracted
  have hclock : (measureFinished x r e).run h t = (ofExcept (extractMetrics e x.costPerToken (h .clock t).1)
        >>= completeMeasured x r e).run h (h .clock t).2
      ∧ asked h (measureFinished x r e) t = .clock :: asked h (ofExcept (extractMetrics e x.costPerToken (h .clock t).1)
        >>= completeMeasured x r e) (h .clock t).2 := ⟨rfl, rfl⟩
  rw [hclock.1, hclock.2]
  have hnow := hyields (h .clock t).1
  cases hextracted : extractMetrics e x.costPerToken (h .clock t).1 with
  | error failure =>
      have hnot : ¬ ∀ item ∈ allItems e, Measurable x.costPerToken item := by
        intro hall
        obtain ⟨metrics, hok, -⟩ := hnow.ok hall
        cases hok.symm.trans hextracted
      refine ⟨⟨?_, fun hall => absurd hall hnot⟩, fun _ => ⟨failure, rfl, hnow.error hextracted⟩⟩
      rintro ⟨c, hc⟩
      cases List.mem_singleton.mp hc
  | ok metrics =>
      have hall : ∀ item ∈ allItems e, Measurable x.costPerToken item := hnow.ok_iff.mp ⟨metrics, hextracted⟩
      obtain ⟨c, hc⟩ := completeMeasured_asks hx h r e metrics (h .clock t).2
      refine ⟨⟨fun _ => hall, fun _ => ⟨c, List.mem_cons_of_mem _ hc⟩⟩, ?_⟩
      rintro ⟨item, hitem, hnot⟩
      exact absurd (hall item hitem) hnot

/-- A finished execution in which a node tells of a number of tokens. -/
def finishedRun (tokens : Json) : EngineExecution :=
  ⟨"7", true, none, none, none, none, none, some [("Step", [⟨none, none, none, [("main", .arr [.arr [
    .obj [("json", .obj [("usage", .obj [("total_tokens", tokens)])])]]])], none⟩])], none⟩

theorem finalize_completes_iff_finishedRun : sampleExecutor.store = Store.ambient
    ∧ ∃ c, .store (.complete "1" c) ∈ asked Rehearsal.answer (sampleExecutor.finalize
        (MemoryStore.pendingRecord "1" "chain" "org" [] ⟨0, none⟩) (finishedRun (.int 12))) sampleSurroundings := by
  refine ⟨rfl, (finalize_completes_iff rfl Rehearsal.answer _ (finishedRun (.int 12)) sampleSurroundings).2.1.mpr ?_⟩
  have hitems : allItems (finishedRun (.int 12)) = [[("usage", .obj [("total_tokens", .int 12)])]] := rfl
  rw [hitems, List.forall_mem_singleton]
  constructor
  · rintro usage ⟨⟩
    have hpriced : 0 < Double.bound := by decide +kernel
    exact ⟨List.forall_mem_singleton.mpr trivial, hpriced⟩
  · rintro ms ⟨⟩

/-- A finished execution in which a node tells of endlessly many tokens, as a data text may give it. -/
def endlessRun : Json :=
  .obj [("id", .str "7"), ("finished", .bool true), ("data", .obj [("resultData", .obj [("runData", .obj [("Step",
    .arr [.obj [("data", .obj [("main", .arr [.arr [.obj [("json", .obj [("usage",
      .obj [("total_tokens", .float (.infinite false))])])]]])])]])])])])]

/-- The execution is read, and at no rate is it measured. -/
theorem endlessRun_is_not_measured :
    EngineExecution.read endlessRun = .ok (finishedRun (.float (.infinite false)))
      ∧ ∀ rate now, extractMetrics (finishedRun (.float (.infinite false))) rate now = .error (.kind .overflow) :=
  ⟨rfl, fun _ _ => rfl⟩

end PromptGraph
