import PromptGraph.Chain.Reading
import PromptGraph.Database.Row
import PromptGraph.Database.Statement
import PromptGraph.Execution.Run

/-!
# `PromptGraph.Database.Store` — the execution store in a database

Every operation opens a connection of its own and executes one statement. An operation that may be repeated without
harm is attempted again when the connection fails; a new record and a rollup increment are not, since a repetition
after a lost answer would count twice.

## Contents
- **Statements.** `Database.fetch`, `Database.change`.
- **Operations.** `Database.once`: one attempt at an operation.
- **Store.** `Database.store`: operations with their repetitions.
-/

namespace PromptGraph.Database

variable [Depth]

/-! ## Statements -/

/-- Opens a connection; a database without an address has none. -/
def connect (d : Database) : Act Unit :=
  if d.dsn = "" then .failed (.runtime .dsnMissing)
  else .ask (.connect d.dsn) fun
    | some fault => .failed (.database fault)
    | none => .done ()

/-- Executes a statement on a new connection and answers its first row. A missing table is reported. -/
def fetch (d : Database) (s : Statement) : Act (Option Row) := do
  d.connect
  .ask (.execute s) fun
    | .ok row => .done row
    | .error .undefinedTable => do
      Act.report (.tableMissing d.schema d.tablePrefix)
      .failed (.database .undefinedTable)
    | .error fault => .failed (.database fault)

/-- Executes a statement on a new connection for its effect. -/
def change (d : Database) (s : Statement) : Act Unit := do
  d.connect
  .ask (.execute s) fun
    | .ok _ => .done ()
    | .error fault => .failed (.database fault)

/-! ## Operations -/

/-- The organization in a profile row; an empty row has none. -/
def profileOrgOf : Option Row → Except Failure Json
  | none | some [] => .ok .null
  | some row => Row.member row "org_id"

/-- The chain in a row. -/
def chainOf : Option Row → Except Failure (Option Chain)
  | none => .ok none
  | some row => some <$> Chain.read (.obj row)

/-- The record in the row of a new execution. -/
def createdRecordOf : Option Row → Except Failure Record
  | none => .error (.runtime .recordNotCreated)
  | some row => Record.ofRow row

/-- The record in a row; an empty row has none. -/
def recordOf : Option Row → Except Failure (Option Record)
  | none | some [] => .ok none
  | some row => some <$> Record.ofRow row

/-- One attempt at an operation. -/
def once (d : Database) (call : StoreCall) : Act call.Answer :=
  let s := d.statement call
  match call with
  | .profileOrg _ => do let row ← d.fetch s; .ofExcept (profileOrgOf row)
  | .chain _ _ => do let row ← d.fetch s; .ofExcept (chainOf row)
  | .insert _ _ _ _ => do let row ← d.fetch s; .ofExcept (createdRecordOf row)
  | .markRunning _ _ => d.change s
  | .complete _ _ => d.change s
  | .record _ => do let row ← d.fetch s; .ofExcept (recordOf row)
  | .rollup _ => d.change s

/-! ## Store -/

/-- The operations that may be repeated without harm. -/
def isRepeatable : StoreCall → Bool
  | .insert _ _ _ _ | .rollup _ => false
  | _ => true

/-- A failed connection may be there the next time. -/
def isTransient : Failure → Bool
  | .database .operational => true
  | _ => false

/-- The repetitions of an operation after its first attempt. -/
def repetitions : Nat := 4

/-- The wait after an attempt: from half a second to eight seconds. -/
def wait (attempt : Nat) : Double := Act.backoff (.ofRatio false 1 2) (.ofNat 8) attempt

/-- The store in a database. -/
def store (d : Database) : PromptGraph.Store := fun call =>
  if isRepeatable call then Act.retry isTransient wait (d.once call) repetitions 1 else d.once call

end PromptGraph.Database
