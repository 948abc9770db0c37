import PromptGraph.Chain.Graph
import PromptGraph.Credential.Service
import PromptGraph.Json.Writer

/-!
# `PromptGraph.Compile.Provider` — requests to language models

The beginning of a model's name selects the provider. Another or a missing name means the default model; the
authored name is not sent then.

## Contents
- `Provider`, `Provider.ofModel?`.
- `ModelCall`, `modelCall`; `ModelCall.parameters`: the parameters of the request node, its body being a data text.
  There are none where the body has no text.
-/

namespace PromptGraph

/-- A provider of language models. -/
inductive Provider where
  | openai
  | anthropic
  deriving DecidableEq, Repr

namespace Provider

/-- The beginning of the names of its models. -/
def modelStart : Provider → String
  | .openai => "gpt"
  | .anthropic => "claude"

def service : Provider → Service
  | .openai => .openai
  | .anthropic => .anthropic

/-- The provider of a model. -/
def ofModel? (model : String) : Option Provider :=
  [openai, anthropic].find? fun p => p.modelStart.toList.isPrefixOf model.toList

def url : Provider → String
  | .openai => "https://api.openai.com/v1/chat/completions"
  | .anthropic => "https://api.anthropic.com/v1/messages"

end Provider

/-- What a prompt node asks of a model. -/
structure ModelCall where
  provider : Provider
  model : String
  prompt : String
  temperature : Double
  maxTokens : Int

def defaultModel : String := "gpt-3.5-turbo"

/-- Seven tenths. -/
def defaultTemperature : Double := Decimal.toDouble ⟨false, 7, -1⟩

def defaultMaxTokens : Int := 1000

/-- The expression for the incoming input. -/
def inputPassthrough : String := "\x7b\x7b $json.input \x7d\x7d"

/-- An optional text, an empty one counting as absent. -/
def nonEmpty (s : Option String) : Option String := s.filter (· ≠ "")

/-- The call of a prompt node, absent fields having their defaults. -/
def modelCall (b : PromptBody) : ModelCall :=
  let authored := (nonEmpty b.model).getD defaultModel
  let (provider, model) := match Provider.ofModel? authored with
    | some p => (p, authored)
    | none => (.openai, defaultModel)
  ⟨provider, model, (nonEmpty b.prompt).getD inputPassthrough, b.temperature.getD defaultTemperature,
    b.maxTokens.getD defaultMaxTokens⟩

namespace ModelCall

/-- The single message of the user. -/
def messages (c : ModelCall) : Json := .arr [.obj [("role", .str "user"), ("content", .str c.prompt)]]

/-- The body of the request; the providers differ in the order of the members. -/
def body (c : ModelCall) : Json :=
  match c.provider with
  | .openai =>
    .obj [("model", .str c.model), ("messages", c.messages), ("temperature", .float c.temperature),
      ("max_tokens", .int c.maxTokens)]
  | .anthropic =>
    .obj [("model", .str c.model), ("max_tokens", .int c.maxTokens), ("temperature", .float c.temperature),
      ("messages", c.messages)]

/-- A header parameter. -/
def header (name value : String) : Json := .obj [("name", .str name), ("value", .str value)]

/-- The headers of the request. -/
def headers (c : ModelCall) : List Json :=
  header "Content-Type" "application/json" :: (match c.provider with
    | .openai => []
    | .anthropic => [header "anthropic-version" "2023-06-01"])

/-- The parameters of the request node with a body in the form of a text. -/
def parametersWith (c : ModelCall) (body : String) : Members :=
  [("url", .str c.provider.url), ("authentication", .str "predefinedCredentialType"),
    ("nodeCredentialType", .str c.provider.service.credentialType), ("method", .str "POST"),
    ("sendHeaders", .bool true), ("headerParameters", .obj [("parameters", .arr c.headers)]),
    ("sendBody", .bool true), ("bodyContentType", .str "json"), ("jsonBody", .str body)]
    ++ (match c.provider with
      | .openai => [("options", .obj [("response", .obj [("fullResponse", .bool false)])])]
      | .anthropic => [])

/-- The parameters of the request node. -/
def parameters (c : ModelCall) : Except TextFault Members := c.parametersWith <$> Json.encode .line c.body

end ModelCall

end PromptGraph
