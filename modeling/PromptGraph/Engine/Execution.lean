import PromptGraph.Failure
import PromptGraph.Schema.Field
import PromptGraph.Text.Letter

/-!
# `PromptGraph.Engine.Execution` — executions of the engine

## Contents
- **The type.** `EngineExecution` and its run data: for each node name the attempts in order, a `NodeRun` each.
- **Reading.** `EngineExecution.read`: unknown members are ignored.
- **Items.** `NodeRun.items`, `NodeRun.firstItem?`: the payloads of the main output.
- **Failure.** `EngineExecution.failed`.
-/

namespace PromptGraph

/-- One attempt of a node. -/
structure NodeRun where
  startTime : Option Int
  executionTime : Option Int
  executionStatus : Option String
  data : Members
  error : Option Members

/-- The attempts of each node, by name. -/
abbrev RunData := List (String × List NodeRun)

/-- What went wrong in an execution. -/
structure ExecutionError where
  message : String
  stack : Option String

/-- An execution as the engine reports it. -/
structure EngineExecution where
  id : String
  finished : Bool
  mode : Option String
  status : Option String
  startedAt : Option Timestamp
  stoppedAt : Option Timestamp
  workflowId : Option String
  data : Option RunData
  error : Option ExecutionError

/-! ## Reading -/

open Schema

def readNodeRun (v : Json) : Checked NodeRun :=
  (record v).andThen fun ms =>
    NodeRun.mk <$> nullable ms "startTime" integer <*> nullable ms "executionTime" integer
      <*> nullable ms "executionStatus" text <*> withDefault ms "data" mapping [] <*> nullable ms "error" mapping

/-- The run data inside an execution's data. -/
def readRunData (v : Json) : Checked RunData :=
  (record v).andThen fun ms =>
    withDefault ms "resultData"
      (fun v => (record v).andThen fun ms => withDefault ms "runData" (entries (list readNodeRun)) []) []

def readExecutionError (v : Json) : Checked ExecutionError :=
  (record v).andThen fun ms =>
    ExecutionError.mk <$> withDefault ms "message" text "Unknown error" <*> nullable ms "stack" text

def readExecution (v : Json) : Checked EngineExecution :=
  (record v).andThen fun ms =>
    EngineExecution.mk <$> required ms "id" identifier <*> withDefault ms "finished" truth false
      <*> nullable ms "mode" text <*> nullable ms "status" text <*> nullable ms "startedAt" timestamp
      <*> nullable ms "stoppedAt" timestamp <*> nullable ms "workflowId" identifier
      <*> nullable ms "data" readRunData <*> nullable ms "error" readExecutionError

/-! ## Items -/

namespace NodeRun

/-- The ports of the main output, if it is a list. -/
def ports (r : NodeRun) : List Json := ((Members.get? "main" r.data).bind Json.asArray?).getD []

/-- The payload of an item: an object under `json`. -/
def payload? (item : Json) : Option Members := (item.get? "json").bind Json.asObject?

/-- The payloads of all items on all ports, malformed ports and items being passed over. -/
def items (r : NodeRun) : List Members :=
  r.ports.flatMap fun port => (port.asArray?.getD []).filterMap payload?

/-- The payload of the first item on the first port. -/
def firstItem? (r : NodeRun) : Option Members :=
  match r.ports with
  | .arr (item :: _) :: _ => payload? item
  | _ => none

end NodeRun

namespace EngineExecution

/-- The execution in a value. -/
def read (v : Json) : Except Failure EngineExecution := (readExecution v).toExcept "EngineExecution"

/-- The attempts of each node. -/
def runs (e : EngineExecution) : RunData := e.data.getD []

/-! ## Failure -/

/-- The states of an execution that did not succeed. -/
def failedStates : List String := ["error", "crashed", "failed"]

/-- An execution has failed when it carries an error or its status says so, in letters of any case. -/
def failed (e : EngineExecution) : Bool :=
  e.error.isSome || failedStates.contains (Text.lower (e.status.getD ""))

end EngineExecution

/-! ## Data values -/

def NodeRun.toJson (r : NodeRun) : Json :=
  .obj [("startTime", .ofOption .int r.startTime), ("executionTime", .ofOption .int r.executionTime),
    ("executionStatus", .ofString? r.executionStatus), ("data", .obj r.data), ("error", .ofOption .obj r.error)]

def ExecutionError.toJson (e : ExecutionError) : Json :=
  .obj [("message", .str e.message), ("stack", .ofString? e.stack)]

/-- Run data in the place where the engine reports them. -/
def RunData.toJson (d : RunData) : Json :=
  .obj [("resultData", .obj [("runData", .obj (d.map fun n => (n.1, .arr (n.2.map NodeRun.toJson))))])]

def EngineExecution.toJson (e : EngineExecution) : Json :=
  .obj [("id", .str e.id), ("finished", .bool e.finished), ("mode", .ofString? e.mode),
    ("status", .ofString? e.status), ("startedAt", .ofOption (fun t => .str t.iso) e.startedAt),
    ("stoppedAt", .ofOption (fun t => .str t.iso) e.stoppedAt), ("workflowId", .ofString? e.workflowId),
    ("data", .ofOption RunData.toJson e.data), ("error", .ofOption ExecutionError.toJson e.error)]

end PromptGraph
