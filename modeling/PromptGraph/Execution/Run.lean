import PromptGraph.Deploy.Ensure
import PromptGraph.Execution.Poll
import PromptGraph.Trace.Metrics
import PromptGraph.Trace.Output

/-!
# `PromptGraph.Execution.Run` — running a chain

The user must belong to the organization, and the chain to it. A pending record is made, the chain is deployed and
started, the record is marked as running, the run is waited for, its output and metrics are extracted, and the
record takes its final state. A rollup that fails is reported and changes nothing.

## Contents
- `Store`: what answers the operations of the store.
- `Executor`: the surroundings of runs.
- `Executor.execute`, `Executor.status`, `hourBucket`.
-/

namespace PromptGraph

variable [Depth]

/-- What answers the operations of the store. -/
abbrev Store := (call : StoreCall) → Act call.Answer

namespace Store

/-- The store of the surroundings. -/
def ambient : Store := fun call => .ask (.store call) fun answer => .ofExcept answer

end Store

/-- The surroundings of runs. -/
structure Executor where
  store : Store
  deploy : DeployContext
  poller : Poller
  costPerToken : Number
  currency : Json

/-- The beginning of an hour, by the clock of the timestamp; without an offset universal time is meant. -/
def hourBucket (t : Timestamp) : Timestamp := t.hourStart

namespace Executor

/-- The cost data of metrics; what cost nothing has none. -/
def costData (x : Executor) (m : Metrics) : Option Members :=
  if (Double.zero false).lt m.cost then some [("total", .float m.cost), ("currency", x.currency)] else none

/-- The error details of a finished execution. -/
def errorDetails (e : EngineExecution) : Option Members :=
  match e.error with
  | some err => some [("message", .str err.message)]
  | none =>
    if e.failed then
      some [("message", .str ("n8n execution ended with status " ++ (Json.ofString? e.status).display))]
    else none

/-- The final status of a finished execution. -/
def finalStatus (e : EngineExecution) : Status := if e.failed then .failed else .completed

/-- The terminal write of a finished execution. -/
def completion (x : Executor) (e : EngineExecution) (metrics : Metrics) (at' : Timestamp) : Completion where
  status := finalStatus e
  output := .ofOption .obj (extractOutput e)
  metrics := metrics
  cost := x.costData metrics
  error := errorDetails e
  completedAt := at'

/-- A record after its terminal write. -/
def completedRecord (r : Record) (engineId : String) (c : Completion) : Record :=
  { r with
    status := c.status, output := c.output, metrics := some c.metrics, cost := c.cost, error := c.error,
    engineId := some engineId, completedAt := some c.completedAt }

/-- The increment of the rollup of a completed record. -/
def rollupOf (r : Record) (c : Completion) : Rollup :=
  ⟨r.chain, r.org, hourBucket r.startedAt, .float c.metrics.cost, c.metrics.latency, c.status == .failed⟩

/-- Extracts, writes the final state and merges the rollup. -/
def finalize (x : Executor) (r : Record) (e : EngineExecution) : Act Response := do
  Act.reportAll (outputNotices e)
  let output : Json := .ofOption .obj (extractOutput e)
  Act.reportAll ((ruleErrors output).map fun err => .ruleFailed r.id err.rule err.message)
  let now ← Act.clock
  let metrics ← Act.ofExcept (extractMetrics e x.costPerToken now)
  let completedAt ← Act.clock
  let c := x.completion e metrics completedAt
  x.store (.complete r.id c)
  match ← Act.attempt (x.store (.rollup (rollupOf r c))) with
  | .ok () => pure ()
  | .error failure => Act.report (.rollupFailed r.chain failure)
  Act.ofExcept (Response.ofRecord (completedRecord r e.id c))

/-- Deploys and starts the chain of a pending record, waits for the run and completes the record. -/
def runRecord (x : Executor) (request : ExecutionRequest) (c : Chain) (r : Record) : Act Response := do
  let remote ← ensureDeployed x.deploy c (some request.org)
  let started ← Act.clock
  let started ← Engine.executeWorkflow remote
    (.obj [("input", .obj request.input), ("timestamp", .str started.iso)])
  x.store (.markRunning r.id (some started.id))
  let finished ← x.poller.wait started
  x.finalize r finished

/-- Runs a chain for a user. -/
def execute (x : Executor) (request : ExecutionRequest) : Act Response := do
  let profileOrg : Json ← x.store (.profileOrg request.user)
  if profileOrg.asString? ≠ some request.org then do
    Act.report (.accessDenied request.user profileOrg request.org)
    .failed (.forbidden "Access denied to this organization")
  else do
    let chain : Option Chain ← x.store (.chain request.chain request.org)
    match chain with
    | none => .failed (.notFound ("Prompt chain " ++ request.chain ++ " not found"))
    | some c => do
      let now ← Act.clock
      let r : Record ← x.store (.insert request.chain request.org request.input now)
      match ← Act.attempt (x.runRecord request c r) with
      | .ok response => pure response
      | .error failure => do
        Act.report (.executionFailed r.id failure)
        .failed failure

/-- The response on a stored record; a record of another organization is not found. -/
def status (x : Executor) (id : String) (org : Option String) : Act Response := do
  let found : Option Record ← x.store (.record id)
  match found.filter fun r => org.all fun o => r.org = o with
  | none => .failed (.notFound "Execution not found")
  | some r => Act.ofExcept (Response.ofRecord r)

end Executor

end PromptGraph
