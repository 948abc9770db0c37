import PromptGraph.Failure

/-!
# `PromptGraph.Notice` — what is reported while the work goes on

## Contents
- **Notices.** `Notice`: everything worth a warning or an error line.
- **Lines.** `Notice.level` and `Notice.text`; the words for a failure outside the domain are the caller's choice.
-/

namespace PromptGraph

/-- How serious a notice is. -/
inductive Level where
  | warning
  | error
  deriving DecidableEq, Repr

namespace Level

def name : Level → String
  | .warning => "WARNING"
  | .error => "ERROR"

end Level

/-- Something worth reporting. -/
inductive Notice where
  /-- A mail limit that is no number was replaced. -/
  | mailLimit (node : String) (given : Json) (used : Int)
  /-- An integration of unknown kind passes its items through. -/
  | unknownIntegration (node : String) (kind : Option String)
  /-- Two nodes started last at the same time. -/
  | sharedStart (execution first second : String)
  /-- A rule of a validator could not be evaluated. -/
  | ruleFailed (execution rule message : String)
  | registryUnreadable (path : String) (systemError : String)
  | registryInvalid (path : String)
  | registryNotStored (chain remote : String) (systemError : String)
  /-- The registered workflow is gone. -/
  | registeredMissing (remote chain : String)
  | pollsSpent (execution : String) (attempts : Int)
  | credentialService (service : String)
  | credentialFailed (operation org service : String) (cause : Failure)
  | accessDenied (user : String) (profileOrg : Json) (org : String)
  | executionFailed (execution : String) (cause : Failure)
  | rollupFailed (chain : String) (cause : Failure)
  | healthFailed (transportError : String)
  | tableMissing (schema tablePrefix : String)
  | tracerShutdown (systemError : String)

namespace Notice

def level : Notice → Level
  | .credentialFailed .. | .executionFailed .. | .rollupFailed .. | .healthFailed _ | .tableMissing .. => .error
  | _ => .warning

/-- The words of a failure in a line: its message, or what `name` makes of a failure outside the domain. -/
def causeText (name : Failure → String) (f : Failure) : String := if f.isDomain then f.message else name f

/-- A system error in a line. -/
def angled (name : String) : String := "<" ++ name ++ ">"

/-- The line of a notice. -/
def text (name : Failure → String) : Notice → String
  | .mailLimit node given used =>
    "Node " ++ node ++ ": mail limit " ++ given.shown ++ " is not a number; using " ++ NumberLayout.integer used
  | .unknownIntegration node kind =>
    "Integration node " ++ node ++ ": unknown integration type " ++ (Json.ofString? kind).shown
      ++ "; compiling passthrough"
  | .sharedStart execution first second =>
    "Execution " ++ execution ++ ": nodes " ++ first ++ " and " ++ second
      ++ " share the latest start time; output is null"
  | .ruleFailed execution rule message =>
    "Execution " ++ execution ++ ": Rule " ++ Text.quoted rule ++ " raised: " ++ message
  | .registryUnreadable path e => "Could not read deployment registry " ++ path ++ ": " ++ angled e
  | .registryInvalid path => "Deployment registry " ++ path ++ " is not valid JSON; ignoring"
  | .registryNotStored chain remote e =>
    "Could not persist deployment " ++ chain ++ " -> " ++ remote ++ ": " ++ angled e
  | .registeredMissing remote chain =>
    "Registered n8n workflow " ++ remote ++ " for " ++ chain ++ " no longer exists; falling back to name lookup"
  | .pollsSpent execution attempts =>
    "n8n execution " ++ execution ++ " not finished after " ++ NumberLayout.integer attempts ++ " polls"
  | .credentialService service => "Unknown or disabled credential service: " ++ service
  | .credentialFailed operation org service cause =>
    "Failed to " ++ operation ++ " n8n credential for org " ++ org ++ " service " ++ service ++ ": "
      ++ causeText name cause
  | .accessDenied user profileOrg org =>
    "User " ++ user ++ " (org " ++ profileOrg.display ++ ") denied access to org " ++ org
  | .executionFailed execution cause => "Execution " ++ execution ++ " failed: " ++ causeText name cause
  | .rollupFailed chain cause => "Failed to update hourly metrics for " ++ chain ++ ": " ++ causeText name cause
  | .healthFailed e => "n8n health check failed: " ++ angled e
  | .tableMissing schema tablePrefix =>
    "Table lookup failed (schema=" ++ schema ++ ", prefix=" ++ Text.quoted tablePrefix
      ++ "). Set DB_POSTGRESDB_SCHEMA / DB_TABLE_PREFIX to match your database."
  | .tracerShutdown e => "Error shutting down tracer provider: " ++ angled e

/-- The whole line, with its level. -/
def line (name : Failure → String) (n : Notice) : String := n.level.name ++ " " ++ n.text name

end Notice

end PromptGraph
