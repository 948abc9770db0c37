import PromptGraph.Engine.Client

/-!
# `PromptGraph.Execution.Poll` — waiting for an execution to finish

## Contents
- `Poller`: the interval and the number of polls.
- `Poller.make`, `Poller.wait`: a finished execution is answered as it is; otherwise its state is read at most as
  often as allowed, with the interval between readings.
-/

namespace PromptGraph

variable [Depth]

/-- A waiting strategy: polls at a fixed interval. -/
structure Poller where
  interval : Number
  attempts : Int
  one_le : 1 ≤ attempts

namespace Poller

/-- A poll each second for a minute. -/
def default : Poller := ⟨.float (.ofNat 1), 60, by decide⟩

/-- A strategy of at least one poll. -/
def make (interval : Number) (attempts : Int) : Except Failure Poller :=
  if h : 1 ≤ attempts then .ok ⟨interval, attempts, h⟩ else .error (.value .attemptsBelowOne)

/-- Polls up to `rest + 1` times; `none` when the execution never was finished. -/
def poll (seconds : Double) (id : String) : (rest : Nat) → Act (Option EngineExecution)
  | 0 => do
    let e ← Engine.getExecution id
    pure (if e.finished then some e else none)
  | rest + 1 => do
    let e ← Engine.getExecution id
    if e.finished then pure (some e)
    else do
      Act.pause seconds
      poll seconds id rest

/-- The interval in seconds; an integer beyond all floats is none. -/
def seconds? (p : Poller) : Except Failure Double :=
  match p.interval.toDouble? with
  | some x => .ok x
  | none => .error (.kind .overflow)

/-- The finished execution of a started one. -/
def wait (p : Poller) (started : EngineExecution) : Act EngineExecution :=
  if started.finished then pure started
  else do
    let seconds ← Act.ofExcept p.seconds?
    match ← poll seconds started.id (p.attempts.toNat - 1) with
    | some e => pure e
    | none => do
      Act.report (.pollsSpent started.id p.attempts)
      .failed (.timeout started.id p.attempts p.interval)

end Poller

end PromptGraph
