import PromptGraph.Compile.Provider
import PromptGraph.Compile.Script
import PromptGraph.Engine.Definition
import PromptGraph.Notice
import PromptGraph.Text.Letter

/-!
# `PromptGraph.Compile.Node` — authored nodes as engine nodes

A prompt becomes a request to a language model, a router and a validator become function nodes, and an integration
becomes a mail, chat or web request, or passes its items through.

## Contents
- **Setting.** `CompileSetting`: the replacements of conditions, and the organization whose credentials are named.
- **Mail limits.** `mailLimit`.
- **Kinds.** `IntegrationKind.ofBody`.
- **Nodes.** `compileNode`, and `nodeNotices`, what is worth reporting on a node.
-/

namespace PromptGraph

/-- What the compilation of a chain depends on besides the chain. -/
structure CompileSetting where
  rewrites : Rewrites
  org : Option String

/-! ## Mail limits -/

def defaultMailLimit : Int := 50

/-- The whole number that a value names. An infinite number names none and is refused. -/
def namedInteger? : Json → Except Failure (Option Int)
  | .num (.int n) => .ok (some n)
  | .num (.float (.infinite _)) => .error (.kind .overflow)
  | .num (.float x) => .ok x.trunc
  | .str s => .ok (Schema.spelledInteger? s)
  | _ => .ok none

/-- Whether a limit was left out: null, an empty text, or a truth value. -/
def isUnset : Json → Bool
  | .null => true
  | .bool _ => true
  | .str s => s == ""
  | _ => false

/-- The number of mails to fetch: an authored positive number, else the default. -/
def mailLimit (given : Json) : Except Failure Int :=
  if isUnset given then .ok defaultMailLimit
  else do
    match ← namedInteger? given with
    | some n => pure (if 0 < n then n else defaultMailLimit)
    | none => pure defaultMailLimit

/-! ## Kinds -/

/-- What an integration does. -/
inductive IntegrationKind where
  | mail
  | chat
  | webhook
  | unknown
  deriving DecidableEq, Repr

namespace IntegrationKind

/-- The kind of an integration, by its authored word without regard to blanks around it and letter case; another
    word with an address is a web request. -/
def ofBody (b : IntegrationBody) : IntegrationKind :=
  let word := Text.lower (Text.strip (b.kind.getD ""))
  if ["gmail", "mail", "email"].contains word then mail
  else if ["slack", "chat"].contains word then chat
  else if ["webhook", "http"].contains word || (nonEmpty b.webhookUrl).isSome then webhook
  else unknown

end IntegrationKind

/-! ## Nodes -/

def functionType : String := "n8n-nodes-base.function"

def requestType : String := "n8n-nodes-base.httpRequest"

/-- The type, the parameters and the credentials of an engine node. -/
structure NodeAction where
  type : String
  parameters : Members
  credentials : Option Members

namespace NodeAction

/-- A function node with the given lines of code. -/
def function (lines : List String) : NodeAction := ⟨functionType, [("functionCode", .str (joinLines lines))], none⟩

def prompt (s : CompileSetting) (b : PromptBody) : Except Failure NodeAction := do
  let call := modelCall b
  let parameters ← call.parameters.mapError Failure.ofText
  pure ⟨requestType, parameters, some (credentialRef call.provider.service s.org)⟩

/-- The default query for mails. -/
def defaultMailQuery : Json := .str "is:unread newer_than:1d"

/-- A member that counts as present. -/
def truthyMember (ms : Members) (name : String) : Option Json := (Members.get? name ms).filter Json.isTruthy

def mail (s : CompileSetting) (b : IntegrationBody) : Except Failure NodeAction := do
  let limit ← mailLimit ((Members.get? "limit" b.extras).getD .null)
  pure ⟨"n8n-nodes-base.gmail",
    [("operation", .str "getAll"), ("returnAll", .bool false), ("limit", .int limit),
      ("filters", .obj [("query", (truthyMember b.extras "query").getD defaultMailQuery)])],
    some (credentialRef .gmail s.org)⟩

def chat (s : CompileSetting) (b : IntegrationBody) : NodeAction :=
  ⟨"n8n-nodes-base.slack",
    [("operation", .str "postMessage"), ("channel", .str ((nonEmpty b.channel).getD "#general")),
      ("text", .str "\x7b\x7b $json.message || \"Workflow notification\" \x7d\x7d"), ("attachments", .arr [])],
    some (credentialRef .slack s.org)⟩

def webhook (b : IntegrationBody) : NodeAction :=
  ⟨requestType,
    [("url", .str (b.webhookUrl.getD "")), ("method", .str "POST"), ("sendBody", .bool true),
      ("bodyContentType", .str "json"), ("jsonBody", .str "\x7b\x7b JSON.stringify($json) \x7d\x7d")],
    none⟩

def ofIntegration (s : CompileSetting) (b : IntegrationBody) : Except Failure NodeAction :=
  match IntegrationKind.ofBody b with
  | .mail => mail s b
  | .chat => .ok (chat s b)
  | .webhook => .ok (webhook b)
  | .unknown => .ok (function (passthroughLines (b.kind.getD "")))

/-- What the engine is to do for a node. -/
def ofBody (s : CompileSetting) : NodeBody → Except Failure NodeAction
  | .prompt b => prompt s b
  | .router b => .ok (function (routerLines s.rewrites b.conditions))
  | .validator b => .ok (function (validatorLines b.rules))
  | .integration b => ofIntegration s b

end NodeAction

/-- The number one as a version. -/
def versionOne : Number := .float (.ofNat 1)

/-- A coordinate as a float; an integer coordinate is a default and small. -/
def coordinate (n : Number) : Number := .float ((n.toDouble?).getD .nan)

/-- An authored node as an engine node under the given display name. -/
def compileNode (s : CompileSetting) (name : String) (n : Node) : Except Failure EngineNode := do
  let action ← NodeAction.ofBody s n.body
  pure ⟨n.id, name, action.type, versionOne, (coordinate n.position.x, coordinate n.position.y),
    action.parameters, action.credentials⟩

/-- What is worth reporting on a node that compiles. -/
def nodeNotices (n : Node) : List Notice :=
  match n.body with
  | .integration b =>
    match IntegrationKind.ofBody b with
    | .mail =>
      let given := (Members.get? "limit" b.extras).getD .null
      match isUnset given, namedInteger? given with
      | false, .ok none => [.mailLimit n.id given defaultMailLimit]
      | _, _ => []
    | .unknown => [.unknownIntegration n.id b.kind]
    | _ => []
  | _ => []

end PromptGraph
