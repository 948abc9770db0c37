import PromptGraph.Failure
import PromptGraph.Execution.Store

/-!
# `PromptGraph.Execution.MemoryStore` — a store of executions in memory

## Contents
- `MemoryStore`: profiles, chains, records in the order of their making, and the operations asked for so far.
- `MemoryStore.apply`: what an operation answers and how it changes the store.
- `MemoryStore.answer`: the same, the operation being listed and refused where its name is among the refused ones.
-/

namespace PromptGraph

/-- A store in memory. -/
structure MemoryStore where
  /-- The organization of each user. -/
  profiles : Members
  chains : List Chain
  /-- Names of operations that fail. -/
  refused : List String
  records : List Record
  calls : List StoreCall

namespace MemoryStore

def empty : MemoryStore := ⟨[], [], [], [], []⟩

/-- The id of the next record. -/
def nextId (s : MemoryStore) : String := "exec-" ++ toString (s.records.length + 1)

def record? (s : MemoryStore) (id : String) : Option Record := s.records.find? fun r => r.id == id

/-- Changes the record of an id. -/
def update (s : MemoryStore) (id : String) (f : Record → Record) : MemoryStore :=
  { s with records := s.records.map fun r => if r.id = id then f r else r }

/-- A pending record. -/
def pendingRecord (id chain org : String) (input : Members) (startedAt : Timestamp) : Record :=
  ⟨id, chain, org, .pending, input, .null, none, none, none, none, startedAt, none⟩

/-- A record that runs under an id of the engine. -/
def runningRecord (engineId : Option String) (r : Record) : Record :=
  { r with status := .running, engineId := engineId <|> r.engineId }

/-- A record after its terminal write. -/
def terminalRecord (c : Completion) (r : Record) : Record :=
  { r with
    status := c.status, output := c.output, metrics := some c.metrics, cost := c.cost, error := c.error,
    completedAt := some c.completedAt }

/-- The answer of an operation and the store after it. -/
def apply (s : MemoryStore) : (call : StoreCall) → call.Answer × MemoryStore
  | .profileOrg user => ((Members.get? user s.profiles).getD Json.null, s)
  | .chain id org => (s.chains.find? fun c => c.id == id && c.org == some org, s)
  | .insert chainId org input startedAt =>
    let r := pendingRecord s.nextId chainId org input startedAt
    (r, { s with records := s.records ++ [r] })
  | .markRunning id engineId => ((), s.update id (runningRecord engineId))
  | .complete id completion => ((), s.update id (terminalRecord completion))
  | .record id => (s.record? id, s)
  | .rollup _ => ((), s)

/-- Lists an operation, and refuses or applies it. -/
def answer (call : StoreCall) (s : MemoryStore) : Except Failure call.Answer × MemoryStore :=
  let listed := { s with calls := s.calls ++ [call] }
  if s.refused.contains call.name then (.error (.runtime (.store call.name)), listed)
  else
    let (value, after) := listed.apply call
    (.ok value, after)

end MemoryStore

end PromptGraph
