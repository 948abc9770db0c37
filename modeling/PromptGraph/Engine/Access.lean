import PromptGraph.Failure
import PromptGraph.Http.Address

/-!
# `PromptGraph.Engine.Access` — how the engine is reached

## Contents
- `Access`: the base address, the user and the key; `Access.make`.
- `Access.headers`: what every request says of itself.
-/

namespace PromptGraph

/-- How the engine is reached. -/
structure Access where
  base : Http.Base
  user : String
  password : String
  /-- Not empty. -/
  apiKey : Option String

namespace Access

/-- A base address has to be an address, and a key that is not empty has to consist of ASCII characters. -/
def make (base user password : String) (apiKey : Option String) : Except Failure Access :=
  let key := apiKey.filter (· ≠ "")
  match Http.Base.ofText? base with
  | none => .error (.kind .address)
  | some b =>
    if key.any fun k => k.toList.any fun c => 128 ≤ c.toNat then .error (.kind .header)
    else .ok ⟨b, user, password, key⟩

/-- The headers of a request, user and password being told as they are. -/
def headers (a : Access) : List (String × Option String) :=
  [("accept", some "application/json"), ("authorization", some ("Basic " ++ a.user ++ ":" ++ a.password)),
    ("content-type", some "application/json"), ("host", a.base.hostLine?), ("x-n8n-api-key", a.apiKey)]

end Access

end PromptGraph
