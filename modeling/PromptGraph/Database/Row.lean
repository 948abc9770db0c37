import PromptGraph.Execution.Record

/-!
# `PromptGraph.Database.Row` — fetched rows as records

## Contents
- `Row.member`: a column that every row of its table has.
- `Record.ofRow`: the record in a row. An absent or empty status is pending, an empty input the empty mapping, and
  empty metrics are none.
-/

namespace PromptGraph

variable [Depth]

/-- A fetched row: columns in order. -/
abbrev Row := Members

namespace Row

/-- A column that must be there. -/
def member (row : Row) (name : String) : Except Failure Json :=
  match Members.get? name row with
  | some v => .ok v
  | none => .error (.kind .member)

/-- A column whose value is neither absent nor empty. -/
def present? (row : Row) (name : String) : Option Json := (Members.get? name row).filter Json.isTruthy

/-- A column that may be absent. -/
def optional (row : Row) (name : String) : Json := (Members.get? name row).getD .null

/-- The columns of a stored execution with their empty values replaced. -/
def completed (row : Row) : Except Failure Row := do
  let id ← member row "id"
  let chain ← member row "chain_id"
  let org ← member row "org_id"
  let status ← Status.ofJson ((present? row "status").getD (.str Status.pending.name))
  let metrics ← match present? row "metrics" with
    | none => .ok .null
    | some v => Metrics.toJson <$> Metrics.read v
  let startedAt ← member row "started_at"
  pure [("id", id), ("chain_id", chain), ("org_id", org), ("status", .str status.name),
    ("input_data", (present? row "input_data").getD (.obj [])), ("output_data", optional row "output_data"),
    ("metrics", metrics), ("cost_data", optional row "cost_data"), ("error_details", optional row "error_details"),
    ("n8n_execution_id", optional row "n8n_execution_id"), ("started_at", startedAt),
    ("completed_at", optional row "completed_at")]

end Row

/-- The record in a fetched row. -/
def Record.ofRow (row : Row) : Except Failure Record := do
  Record.read (.obj (← Row.completed row))

end PromptGraph
