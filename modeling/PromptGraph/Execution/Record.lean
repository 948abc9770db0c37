import PromptGraph.Failure
import PromptGraph.Json.Strict
import PromptGraph.Schema.Field

/-!
# `PromptGraph.Execution.Record` — requests, records and responses

## Contents
- **Status.** `Status`: from pending over running to completed or failed.
- **Metrics.** `Metrics`: what an execution took.
- **Requests and records.** `ExecutionRequest`, `Record`.
- **Responses.** `Response.ofRecord`: what a caller is told of a record.
-/

namespace PromptGraph

/-! ## Status -/

/-- Where an execution stands. -/
inductive Status where
  | pending
  | running
  | completed
  | failed
  deriving DecidableEq, Repr

namespace Status

def name : Status → String
  | .pending => "pending"
  | .running => "running"
  | .completed => "completed"
  | .failed => "failed"

def all : List Status := [.pending, .running, .completed, .failed]

/-- The status of a name. -/
def ofName? (s : String) : Option Status := all.find? fun t => t.name == s

/-- The status that a value names; nothing else is one. -/
def ofJson (v : Json) : Except Failure Status :=
  match v.asString?.bind ofName? with
  | some s => .ok s
  | none => .error (.value (.unknownStatus v.shown))

end Status

/-! ## Metrics -/

/-- Milliseconds, tokens and cost of an execution. -/
structure Metrics where
  duration : Int
  tokensUsed : Int
  cost : Double
  latency : Int
  deriving DecidableEq

namespace Metrics

def toJson (m : Metrics) : Json :=
  .obj [("duration", .int m.duration), ("tokensUsed", .int m.tokensUsed), ("cost", .float m.cost),
    ("latency", .int m.latency)]

end Metrics

/-! ## Requests and records -/

/-- A request to run a chain. -/
structure ExecutionRequest where
  chain : String
  org : String
  user : String
  input : Members

/-- A stored execution. -/
structure Record where
  id : String
  chain : String
  org : String
  status : Status
  input : Members
  output : Json
  metrics : Option Metrics
  cost : Option Members
  error : Option Members
  engineId : Option String
  startedAt : Timestamp
  completedAt : Option Timestamp

open Schema

def readStatus (v : Json) : Checked Status :=
  match v.asString?.bind Status.ofName? with
  | some s => .ok s
  | none => .fail .enumeration

def readMetrics (v : Json) : Checked Metrics :=
  (record v).andThen fun ms =>
    Metrics.mk <$> withDefault ms "duration" integer 0 <*> withDefault ms "tokensUsed" integer 0
      <*> withDefault ms "cost" float (.zero false)
      <*> withDefault ms "latency" integer 0

namespace Metrics

/-- The metrics in a value. -/
def read (v : Json) : Except Failure Metrics := (readMetrics v).toExcept "ExecutionMetrics"

end Metrics

namespace ExecutionRequest

/-- The request in a value. -/
def read (v : Json) : Except Failure ExecutionRequest :=
  ((record v).andThen fun ms =>
    ExecutionRequest.mk <$> required ms "chain_id" text <*> required ms "org_id" text <*> required ms "user_id" text
      <*> withDefault ms "input_data" mapping []).toExcept "ExecutionRequest"

end ExecutionRequest

def readRecord (v : Json) : Checked Record :=
  (record v).andThen fun ms =>
    Record.mk <$> required ms "id" text <*> required ms "chain_id" text <*> required ms "org_id" text
      <*> withDefault ms "status" readStatus .pending <*> withDefault ms "input_data" mapping []
      <*> withDefault ms "output_data" any .null <*> nullable ms "metrics" readMetrics
      <*> nullable ms "cost_data" mapping <*> nullable ms "error_details" mapping
      <*> nullable ms "n8n_execution_id" text <*> required ms "started_at" timestamp
      <*> nullable ms "completed_at" timestamp

namespace Record

/-- The record in a value. -/
def read (v : Json) : Except Failure Record := (readRecord v).toExcept "ExecutionRecord"

def toJson (r : Record) : Json :=
  .obj [("id", .str r.id), ("chain_id", .str r.chain), ("org_id", .str r.org), ("status", .str r.status.name),
    ("input_data", .obj r.input), ("output_data", r.output), ("metrics", .ofOption Metrics.toJson r.metrics),
    ("cost_data", .ofOption .obj r.cost), ("error_details", .ofOption .obj r.error),
    ("n8n_execution_id", .ofString? r.engineId), ("started_at", .str r.startedAt.iso),
    ("completed_at", .ofOption (fun t => .str t.iso) r.completedAt)]

end Record

/-! ## Responses -/

/-- What a caller is told of an execution. -/
structure Response where
  id : String
  status : Status
  output : Json
  error : Option String
  startTime : Timestamp
  endTime : Option Timestamp
  duration : Option Int
  tokensUsed : Option Int
  cost : Option Double

/-- The response of a record with the given error and cost. -/
def Response.make (r : Record) (error : Option String) (cost : Option Double) : Response where
  id := r.id
  status := r.status
  output := r.output
  error := error
  startTime := r.startedAt
  endTime := r.completedAt
  duration := r.metrics.map Metrics.duration
  tokensUsed := r.metrics.map Metrics.tokensUsed
  cost := cost

namespace Response

/-- The response on a record. Its error is the message of the error details and its cost the total of the cost
    data, which must be a text and a number where they are present. -/
def ofRecord (r : Record) : Except Failure Response := do
  let total := (Members.get? "total" (r.cost.getD [])).getD .null
  let message := (Members.get? "message" (r.error.getD [])).getD .null
  let cost ← (nullable [("cost", total)] "cost" float).toExcept "ExecutionResponseMetrics"
  let error ← (nullable [("error", message)] "error" text).toExcept "ExecutionResponse"
  pure (make r error cost)

/-- The response with timestamps written as given. -/
def toJsonWith (stamp : Timestamp → String) (r : Response) : Json :=
  .obj [("executionId", .str r.id), ("status", .str r.status.name), ("output", r.output),
    ("error", .ofString? r.error),
    ("metrics", .obj [("startTime", .str (stamp r.startTime)),
      ("endTime", .ofOption (fun t => .str (stamp t)) r.endTime),
      ("duration", .ofOption .int r.duration), ("tokensUsed", .ofOption .int r.tokensUsed),
      ("cost", .ofOption .float r.cost)])]

/-- The number of levels from which on an output is not told. -/
def heightLimit : Nat := 255

/-- The response as callers are told it: universal time is written as `Z`, and numbers in the output that are not
    finite as null. -/
def toJson (r : Response) : Except Failure Json :=
  if heightLimit ≤ r.output.height then .error (.value .tooDeep)
  else .ok (toJsonWith Timestamp.isoZ { r with output := r.output.strict })

end Response

end PromptGraph
