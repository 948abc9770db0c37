import PromptGraph.Json.Value

/-!
# `PromptGraph.Credential.Service` — services, credential types and credential names

An organization's credential for a service is stored in the engine as `org_<organization>_<service>`. Where the
organization is not known, the credential that an operator set up by hand is meant: `<service>_account`.

## Contents
- `Service`: the services with credentials, and their credential types.
- `credentialName`, `credentialRef`.
- `credentialData`: a key or a token.
-/

namespace PromptGraph

/-- A service with credentials. -/
inductive Service where
  | openai
  | anthropic
  | google
  | gmail
  | slack
  | twitter
  | linkedin
  deriving DecidableEq, Repr

namespace Service

def all : List Service := [.openai, .anthropic, .google, .gmail, .slack, .twitter, .linkedin]

def name : Service → String
  | .openai => "openai"
  | .anthropic => "anthropic"
  | .google => "google"
  | .gmail => "gmail"
  | .slack => "slack"
  | .twitter => "twitter"
  | .linkedin => "linkedin"

def credentialType : Service → String
  | .openai => "openAiApi"
  | .anthropic => "anthropicApi"
  | .google => "googleGenerativeAiApi"
  | .gmail => "gmailOAuth2"
  | .slack => "slackOAuth2"
  | .twitter => "twitterOAuth2"
  | .linkedin => "linkedInOAuth2"

/-- The service of a name. -/
def ofName? (name : String) : Option Service := all.find? fun s => s.name == name

/-- Whether a service is used with a key, not with a token. -/
def usesKey : Service → Bool
  | .openai | .anthropic | .google => true
  | _ => false

end Service

/-- The name of the credential for a service, of an organization or shared. -/
def credentialName (service : String) (org : Option String) : String :=
  match org with
  | some o => if o = "" then service ++ "_account" else "org_" ++ o ++ "_" ++ service
  | none => service ++ "_account"

/-- A node's reference to a credential: its type and its name. -/
def credentialRef (service : Service) (org : Option String) : Members :=
  [(service.credentialType, .obj [("name", .str (credentialName service.name org))])]

/-- The secret under the name by which the engine knows it; an unknown service is given a token. -/
def credentialData (service secret : String) : Members :=
  let key := ((Service.ofName? service).map Service.usesKey).getD false
  [(if key then "apiKey" else "accessToken", .str secret)]

end PromptGraph
