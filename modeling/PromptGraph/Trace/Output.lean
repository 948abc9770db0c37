import PromptGraph.Compile.Workflow
import PromptGraph.Engine.Execution

/-!
# `PromptGraph.Trace.Output` — the logical output of an execution

The output is the first item of the last attempt of the node that started last, the entry trigger not counting.
Nodes without a start time are no candidates, and where two candidates share the latest start there is no output.

## Contents
- `latestStart?`, `candidates`, `byStart`.
- `extractOutput`, `outputNotices`.
- `ruleErrors`: the rules of a validator that could not be evaluated.
-/

namespace PromptGraph

/-- The latest start among attempts. -/
def latestStart? (runs : List NodeRun) : Option Int := (runs.filterMap NodeRun.startTime).max?

/-- A node with a start time. -/
structure Candidate where
  start : Int
  name : String
  runs : List NodeRun

/-- The nodes other than the trigger that have a start time, in the order of the run data. -/
def candidates (e : EngineExecution) : List Candidate :=
  e.runs.filterMap fun (name, runs) =>
    if name = triggerName then none else (latestStart? runs).map fun start => ⟨start, name, runs⟩

/-- Candidates by start time, the latest first, those of one start in their order. -/
def byStart (cs : List Candidate) : List Candidate := cs.mergeSort fun a b => b.start ≤ a.start

/-- The first item of the last attempt. -/
def lastItem? (runs : List NodeRun) : Option Members := runs.getLast?.bind NodeRun.firstItem?

/-- The output of an execution. -/
def extractOutput (e : EngineExecution) : Option Members :=
  match byStart (candidates e) with
  | [] => none
  | [c] => lastItem? c.runs
  | c :: d :: _ => if c.start = d.start then none else lastItem? c.runs

/-- The notice on two candidates that share the latest start. -/
def outputNotices (e : EngineExecution) : List Notice :=
  match byStart (candidates e) with
  | c :: d :: _ => if c.start = d.start then [.sharedStart e.id c.name d.name] else []
  | _ => []

/-! ## Rule errors -/

/-- A rule whose evaluation failed. -/
structure RuleError where
  rule : String
  message : String
  deriving DecidableEq

namespace RuleError

def text (e : RuleError) : String := "Rule " ++ Text.quoted e.rule ++ " raised: " ++ e.message

/-- The failed evaluation that a result records, if it does. -/
def ofResult? (result : Json) : Option RuleError :=
  match result with
  | .obj ms =>
    match Members.get? "error" ms with
    | none => none
    | some .null => none
    | some e => some ⟨((Members.get? "rule" ms).getD (.str "")).display, e.display⟩
  | _ => none

end RuleError

/-- The failed evaluations under `validation.results` of an output. -/
def ruleErrors (output : Json) : List RuleError :=
  match ((output.get? "validation").bind (Json.get? "results")).bind Json.asArray? with
  | some results => results.filterMap RuleError.ofResult?
  | none => []

end PromptGraph
