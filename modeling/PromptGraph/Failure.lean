import PromptGraph.Json.Reader
import PromptGraph.Schema.Issue

/-!
# `PromptGraph.Failure` — why an operation fails

## Contents
- **Remote errors.** `RemoteError`: an answer outside 2xx, an unreadable answer, or no answer.
- **Value faults.** `ValueFault`: a value of the right kind that is not acceptable.
- **Kind faults.** `KindFault`: a value of the wrong kind where no check of its shape stands before its use.
- **Failures.** `Failure`, and `Failure.message`.
-/

namespace PromptGraph

/-- A request to the engine that brought no usable answer. -/
structure RemoteError where
  /-- The status of the answer, if there was one. -/
  status : Option Int
  body : String
  method : String
  path : String
  deriving DecidableEq

namespace RemoteError

def message (e : RemoteError) : String :=
  "n8n API Error (" ++ (match e.status with | none => "None" | some s => NumberLayout.integer s) ++ "): " ++ e.body

end RemoteError

/-- The database's refusals. -/
inductive DatabaseFault where
  /-- The connection failed. -/
  | operational
  | undefinedTable
  | uniqueViolation
  deriving DecidableEq, Repr

/-- An unacceptable value of the right kind. -/
inductive ValueFault where
  | attemptsBelowOne
  | schemaName
  | tablePrefix
  /-- A status that is none of the four, in its shown form. -/
  | unknownStatus (shown : String)
  /-- A number without a data text in a request. -/
  | notFinite
  /-- Not a number where a whole number is needed. -/
  | nanToInteger
  | tooManyDigits (count : Nat)
  /-- An integer of more digits than are written. -/
  | longInteger
  /-- An item of a list of pairs that has another length. -/
  | pairLength (index length : Nat)
  /-- An address that does not name what it is an address of. -/
  | unnamedAddress (address : String)
  /-- A path with the character zero in it. -/
  | pathWithZero
  /-- A value that is nested too deeply to be written. -/
  | tooDeep
  deriving DecidableEq

namespace ValueFault

def message : ValueFault → String
  | .attemptsBelowOne => "max_attempts must be >= 1"
  | .schemaName => "Invalid schema name"
  | .tablePrefix => "Invalid table prefix"
  | .unknownStatus shown => shown ++ " is not a valid ExecutionStatus"
  | .notFinite => "Out of range float values are not JSON compliant"
  | .nanToInteger => "cannot convert float NaN to integer"
  | .tooManyDigits count => tooManyDigitsMessage count
  | .longInteger => longIntegerMessage
  | .pairLength index length =>
    "dictionary update sequence element #" ++ toString index ++ " has length " ++ toString length
      ++ "; 2 is required"
  | .unnamedAddress address => "unknown url type: " ++ Text.quoted address
  | .pathWithZero => "embedded null byte"
  | .tooDeep => "Maximum serialization depth exceeded"

end ValueFault

/-- A failing condition of the surroundings. -/
inductive RuntimeFault where
  | dsnMissing
  | recordNotCreated
  /-- A store that refuses the named operation. -/
  | store (operation : String)
  deriving DecidableEq

namespace RuntimeFault

def message : RuntimeFault → String
  | .dsnMissing => "PG_DSN is empty; cannot establish database connection"
  | .recordNotCreated => "Failed to create execution record"
  | .store operation => "store: " ++ operation

end RuntimeFault

/-- A value of the wrong kind, met where its shape is taken for granted. -/
inductive KindFault where
  /-- An operation that the kind of value does not have. -/
  | operation
  /-- A property that the kind of value does not have. -/
  | property
  /-- A member that the mapping does not have. -/
  | member
  /-- A number beyond the range of its kind. -/
  | overflow
  /-- Bytes that are no UTF-8 text. -/
  | encoding
  /-- A text outside ASCII that is to stand in a header. -/
  | header
  /-- A data text that is nested too deeply, or a value that is put into words. -/
  | nesting
  /-- A text that is no address. -/
  | address
  deriving DecidableEq, Repr

/-- Why an operation fails. -/
inductive Failure where
  | notFound (message : String)
  | forbidden (message : String)
  /-- A node whose type is outside the closed set, with its type and its id as given. -/
  | unsupportedNodeType (type node : Json)
  /-- An authored node with the reserved id. -/
  | reservedNode (id : String)
  /-- Several remote workflows of one name. -/
  | ambiguousDeployment (name : String) (remoteIds : List String)
  | remote (error : RemoteError)
  /-- A run that did not finish within the polls allowed. -/
  | timeout (execution : String) (attempts : Int) (interval : Number)
  | schema (fault : SchemaFault)
  | json (fault : JsonFault)
  | value (fault : ValueFault)
  | runtime (fault : RuntimeFault)
  | kind (fault : KindFault)
  | database (fault : DatabaseFault)
  /-- An error of the operating system, by its name. -/
  | system (name : String)

namespace Failure

/-- The failure of a refused data text. -/
def ofJson : JsonFault → Failure
  | .syntaxAt p line column offset => .json (.syntaxAt p line column offset)
  | .tooManyDigits count => .value (.tooManyDigits count)
  | .tooDeep => .kind .nesting

/-- The failure of a value without a text. -/
def ofText : TextFault → Failure
  | .longInteger => .value .longInteger
  | .notFinite => .value .notFinite
  | .tooDeep => .kind .nesting

/-- The message of a failure; kinds that carry no words of their own have none. -/
def message : Failure → String
  | .notFound m => m
  | .forbidden m => m
  | .unsupportedNodeType type node =>
    "Unknown node type: " ++ type.shown ++ (if node.isTruthy then " (node " ++ node.display ++ ")" else "")
  | .reservedNode id => "node id " ++ Text.quoted id ++ " is reserved for the entry trigger"
  | .ambiguousDeployment name ids =>
    toString ids.length ++ " n8n workflows named " ++ Text.quoted name ++ ": " ++ String.intercalate ", " ids
  | .remote e => e.message
  | .timeout execution attempts interval =>
    "Execution timeout - n8n execution " ++ execution ++ " not finished after "
      ++ NumberLayout.integer attempts ++ " polls at " ++ NumberLayout.value.number interval ++ "s"
  | .schema f => f.title
  | .json f => f.message
  | .value f => f.message
  | .runtime f => f.message
  | .kind _ => ""
  | .database _ => ""
  | .system _ => ""

/-- The failures of this library's own domain, whose message is their only account. -/
def isDomain : Failure → Bool
  | .notFound _ | .forbidden _ | .unsupportedNodeType _ _ | .reservedNode _ | .ambiguousDeployment _ _
  | .remote _ | .timeout _ _ _ => true
  | _ => false

end Failure

namespace Checked

/-- A checked value as the named record. -/
def toExcept {α : Type} (title : String) : Checked α → Except Failure α
  | .ok a => .ok a
  | .bad issues => .error (.schema ⟨title, issues⟩)
  | .broken => .error (.kind .nesting)

end Checked

end PromptGraph
