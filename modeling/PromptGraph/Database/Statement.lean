import PromptGraph.Effect.Act

/-!
# `PromptGraph.Database.Statement` — the statements of the execution store

Schema and prefix of the tables are part of the text of a statement, so only letters, digits and underscores are
admitted in them; every other datum is a parameter.

## Contents
- **Databases.** `Database`, `Database.make`, `Database.table`.
- **Statements.** `Database.sql`: the text for an operation; `StoreCall.parameters`: the data of an operation in the
  order of the placeholders; `Database.statement`.
-/

namespace PromptGraph

/-! ## Databases -/

/-- The characters of a name that is written into a statement. -/
def isNameChar (c : Char) : Bool := c.isAlphanum || c == '_'

/-- A database with the schema of its tables and the start of their names. -/
structure Database where
  dsn : String
  schema : String
  tablePrefix : String
  schema_ne : schema ≠ ""
  schema_plain : schema.toList.all isNameChar = true
  tablePrefix_plain : tablePrefix.toList.all isNameChar = true

namespace Database

/-- The schema of databases that name none. -/
def defaultSchema : String := "public"

/-- A database whose schema and table prefix are plain names; an absent or empty schema is the default one. -/
def make (dsn : String) (schema : Option String) (tablePrefix : String) : Except Failure Database :=
  let name := (schema.filter (· ≠ "")).getD defaultSchema
  if ne : name = "" then .error (.value .schemaName)
  else if hs : name.toList.all isNameChar = true then
    if hp : tablePrefix.toList.all isNameChar = true then .ok ⟨dsn, name, tablePrefix, ne, hs, hp⟩
    else .error (.value .tablePrefix)
  else .error (.value .schemaName)

/-- A quoted table name with its schema. -/
def table (d : Database) (name : String) : String :=
  "\"" ++ d.schema ++ "\".\"" ++ d.tablePrefix ++ name ++ "\""

/-! ## Statements -/

/-- The columns of a stored execution. -/
def executionColumns : String :=
  "id::text AS id, chain_id::text AS chain_id, org_id::text AS org_id, status, input_data, output_data, metrics, "
    ++ "cost_data, error_details, n8n_execution_id, started_at, completed_at"

/-- The text for an operation. It depends on the kind of the operation alone. -/
def sql (d : Database) : StoreCall → String
  | .profileOrg _ => "SELECT org_id::text AS org_id FROM " ++ d.table "profiles" ++ " WHERE id::text = %s"
  | .chain _ _ =>
    "SELECT id::text AS id, name, description, org_id::text AS org_id, config FROM " ++ d.table "prompt_chains"
      ++ " WHERE id::text = %s AND org_id::text = %s"
  | .insert _ _ _ _ =>
    "INSERT INTO " ++ d.table "prompt_executions" ++ " (chain_id, org_id, status, input_data, started_at) "
      ++ "VALUES (%s, %s, %s, %s, %s) RETURNING " ++ executionColumns
  | .markRunning _ _ =>
    "UPDATE " ++ d.table "prompt_executions"
      ++ " SET status = %s, n8n_execution_id = COALESCE(%s, n8n_execution_id) WHERE id::text = %s"
  | .complete _ _ =>
    "UPDATE " ++ d.table "prompt_executions" ++ " SET status = %s, completed_at = %s, output_data = %s, "
      ++ "metrics = %s, cost_data = %s, error_details = %s WHERE id::text = %s"
  | .record _ =>
    "SELECT " ++ executionColumns ++ " FROM " ++ d.table "prompt_executions" ++ " WHERE id::text = %s"
  | .rollup _ =>
    "INSERT INTO " ++ d.table "prompt_metrics_hourly" ++ " AS m "
      ++ "(chain_id, org_id, hour, executions, total_cost, avg_latency_ms, error_count, success_rate) "
      ++ "VALUES (%s, %s, %s, 1, %s, %s, %s, %s) ON CONFLICT (chain_id, hour) DO UPDATE SET "
      ++ "executions = m.executions + 1, total_cost = m.total_cost + EXCLUDED.total_cost, "
      ++ "avg_latency_ms = EXCLUDED.avg_latency_ms, error_count = m.error_count + EXCLUDED.error_count, "
      ++ "success_rate = ((m.executions + 1) - (m.error_count + EXCLUDED.error_count)) * 100.0 / (m.executions + 1)"

end Database

namespace SqlValue

def text (s : String) : SqlValue := .value (.str s)

/-- A data value, or the database's own null when it is absent. -/
def dataOrNull : Json → SqlValue
  | .null => .null
  | v => .data v

def optional : Option String → SqlValue
  | none => .null
  | some s => text s

end SqlValue

/-- The data of an operation in the order of the placeholders. -/
def StoreCall.parameters : StoreCall → List SqlValue
  | .profileOrg user => [.text user]
  | .chain id org => [.text id, .text org]
  | .insert chainId org input startedAt =>
    [.text chainId, .text org, .text Status.pending.name, .data (.obj input), .time startedAt]
  | .markRunning id engineId => [.text Status.running.name, .optional engineId, .text id]
  | .complete id c =>
    [.text c.status.name, .time c.completedAt, .dataOrNull c.output, .data c.metrics.toJson,
      .dataOrNull (.ofOption .obj c.cost), .dataOrNull (.ofOption .obj c.error), .text id]
  | .record id => [.text id]
  | .rollup r =>
    [.text r.chain, .text r.org, .time r.hour, .value (.num r.cost), .value (.int r.latency),
      .value (.int (if r.failed then 1 else 0)), .value (.int (if r.failed then 0 else 100))]

/-- The statement for an operation. -/
def Database.statement (d : Database) (call : StoreCall) : Statement := ⟨d.sql call, call.parameters⟩

end PromptGraph
