import PromptGraph.Chain.Graph
import PromptGraph.Execution.Record

/-!
# `PromptGraph.Execution.Store` — what is asked of the store of executions

## Contents
- `StoreCall`: the operations, and `StoreCall.Answer`, what each answers when it does not fail.
- `Completion`: the terminal write of an execution.
-/

namespace PromptGraph

/-- The terminal write of an execution. -/
structure Completion where
  status : Status
  output : Json
  metrics : Metrics
  cost : Option Members
  error : Option Members
  completedAt : Timestamp

/-- An increment of an hourly rollup. -/
structure Rollup where
  chain : String
  org : String
  hour : Timestamp
  cost : Number
  latency : Int
  failed : Bool

/-- An operation of the store. -/
inductive StoreCall where
  /-- The organization of a user's profile, as stored; null when there is no profile. -/
  | profileOrg (user : String)
  /-- The chain of an organization. -/
  | chain (id org : String)
  /-- A new pending record. -/
  | insert (chain org : String) (input : Members) (startedAt : Timestamp)
  | markRunning (id : String) (engineId : Option String)
  | complete (id : String) (completion : Completion)
  | record (id : String)
  /-- An atomic merge into the rollup of a chain and an hour. -/
  | rollup (increment : Rollup)

namespace StoreCall

/-- What an operation answers. -/
def Answer : StoreCall → Type
  | profileOrg _ => Json
  | chain _ _ => Option Chain
  | insert _ _ _ _ => Record
  | markRunning _ _ => Unit
  | complete _ _ => Unit
  | record _ => Option Record
  | rollup _ => Unit

/-- The name of an operation. -/
def name : StoreCall → String
  | profileOrg _ => "get_profile_org"
  | chain _ _ => "get_workflow"
  | insert _ _ _ _ => "insert_execution"
  | markRunning _ _ => "mark_running"
  | complete _ _ => "complete_execution"
  | record _ => "get_execution"
  | rollup _ => "upsert_hourly_metrics"

end StoreCall

end PromptGraph
