import PromptGraph.Engine.Execution
import PromptGraph.Execution.Record

/-!
# `PromptGraph.Trace.Metrics` — duration, tokens and cost of an execution

Every item of every attempt of every node counts. Its `usage` gives tokens that cost a flat rate; its `metrics`
give tokens and a cost of their own.

## Contents
- **Numbers.** `wholeOf`, `floatOf`: a number in an item; what is no number counts zero.
- **Usage.** `usageTokens`.
- **Tally.** `Tally`, `addItem`, `tallyItems`.
- **Duration.** `elapsedMillis`: the elapsed seconds as a float, times a thousand, toward zero.
- **Metrics.** `extractMetrics`.
-/

namespace PromptGraph

/-! ## Numbers -/

/-- A number toward zero; an infinite one has no whole part. -/
def wholeOf : Option Json → Except Failure Int
  | some (.num (.int n)) => .ok n
  | some (.num (.float .nan)) => .error (.value .nanToInteger)
  | some (.num (.float x)) =>
    match x.trunc with
    | some n => .ok n
    | none => .error (.kind .overflow)
  | _ => .ok 0

/-- A number as a float; an integer may be too large for one. -/
def floatOf : Option Json → Except Failure Double
  | some (.num n) =>
    match n.toDouble? with
    | some x => .ok x
    | none => .error (.kind .overflow)
  | _ => .ok (.zero false)

/-! ## Usage -/

/-- The tokens of a provider's usage: the total where it is given, else input and output together. -/
def usageTokens (usage : Json) : Except Failure Int :=
  match usage with
  | .obj ms =>
    match Members.get? "total_tokens" ms with
    | some total => wholeOf (some total)
    | none => do
      let input ← wholeOf (Members.get? "input_tokens" ms)
      let output ← wholeOf (Members.get? "output_tokens" ms)
      pure (input + output)
  | _ => .ok 0

/-! ## Tally -/

/-- Tokens and cost so far. -/
structure Tally where
  tokens : Int
  cost : Double
  deriving DecidableEq

namespace Tally

def zero : Tally := ⟨0, .zero false⟩

/-- The price of tokens at a rate, as a float. -/
def price (tokens : Int) (rate : Number) : Except Failure Double :=
  let priced : Option Double := match rate with
    | .int r => Double.ofInt? (tokens * r)
    | .float r => (Double.ofInt? tokens).map fun t => t.mul r
  match priced with
  | some x => .ok x
  | none => .error (.kind .overflow)

/-- Adds an item's provider usage. -/
def addUsage (rate : Number) (item : Members) (t : Tally) : Except Failure Tally :=
  match Members.get? "usage" item with
  | some (.obj usage) => do
    let used ← usageTokens (.obj usage)
    let cost ← price used rate
    pure ⟨t.tokens + used, t.cost.add cost⟩
  | _ => .ok t

/-- Adds an item's own metrics. -/
def addMetrics (item : Members) (t : Tally) : Except Failure Tally :=
  match Members.get? "metrics" item with
  | some (.obj ms) => do
    let tokens ← wholeOf (Members.get? "tokens" ms)
    let cost ← floatOf (Members.get? "cost" ms)
    pure ⟨t.tokens + tokens, t.cost.add cost⟩
  | _ => .ok t

/-- Adds an item. -/
def addItem (rate : Number) (t : Tally) (item : Members) : Except Failure Tally := do
  addMetrics item (← addUsage rate item t)

end Tally

/-- All items of an execution, in order. -/
def allItems (e : EngineExecution) : List Members := e.runs.flatMap fun node => node.2.flatMap NodeRun.items

/-- The tally of items. -/
def tallyItems (rate : Number) (items : List Members) : Except Failure Tally :=
  items.foldlM (Tally.addItem rate) Tally.zero

/-! ## Duration -/

/-- Elapsed microseconds as whole milliseconds, by way of seconds as a float. -/
def elapsedMillis (micros : Int) : Int :=
  (((Double.ofQuotient micros 1000000).mul (.ofNat 1000)).trunc).getD 0

/-- The duration of an execution in milliseconds; one that has not stopped lasts until `now`. -/
def duration (e : EngineExecution) (now : Timestamp) : Int :=
  match e.startedAt with
  | none => 0
  | some start => max 0 (elapsedMillis (start.elapsedMicros (e.stoppedAt.getD now)))

/-! ## Metrics -/

/-- The metrics of an execution at a rate per token. -/
def extractMetrics (e : EngineExecution) (rate : Number) (now : Timestamp) : Except Failure Metrics := do
  let t ← tallyItems rate (allItems e)
  let d := duration e now
  pure ⟨d, t.tokens, t.cost, d⟩

end PromptGraph
