import PromptGraph.Failure
import PromptGraph.Json.Writer
import PromptGraph.Text.Encoding

/-!
# `PromptGraph.Http.Exchange` — requests to the engine and their answers

## Contents
- **Requests.** `Method`, `Endpoint`, `Request`, `Request.isAddressable`.
- **Replies.** `Body`: a data value or a text; `Reply`: an answer with a status, a failed transport, or a fault of the
  address.
- **Decoding.** `Body.decode`: the value of a body, the bytes of a text being read by the usual detection of their
  encoding.
-/

namespace PromptGraph.Http

/-! ## Requests -/

inductive Method where
  | get
  | post
  | patch
  | delete
  deriving DecidableEq, Repr

namespace Method

def name : Method → String
  | .get => "GET"
  | .post => "POST"
  | .patch => "PATCH"
  | .delete => "DELETE"

end Method

/-- A resource of the engine. Ids stand in addresses as they are. -/
inductive Endpoint where
  | workflows
  | workflow (id : String)
  | execute (workflow : String)
  | executions
  | execution (id : String)
  | credentials
  | credential (id : String)
  | health
  deriving DecidableEq, Repr

namespace Endpoint

/-- The path of a resource under the interface's own path. -/
def path : Endpoint → String
  | .workflows => "/workflows"
  | .workflow id => "/workflows/" ++ id
  | .execute id => "/workflows/" ++ id ++ "/execute"
  | .executions => "/executions"
  | .execution id => "/executions/" ++ id
  | .credentials => "/credentials"
  | .credential id => "/credentials/" ++ id
  | .health => "/healthz"

/-- The path of a resource on the engine; the health check is outside the versioned interface. -/
def fullPath : Endpoint → String
  | .health => "/healthz"
  | e => "/api/v1" ++ e.path

end Endpoint

/-- A request. Parameters are absent, or replace what the address itself asks for. -/
structure Request where
  method : Method
  endpoint : Endpoint
  parameters : Option (List (String × String))
  body : Option Json

/-- The number of characters of the longest address, and of the longest part of one. -/
def addressLimit : Nat := 65536

/-- Whether a text is not too long for an address and has no control characters. -/
def isAddressText (cs : List Char) : Bool :=
  cs.length ≤ addressLimit && cs.all fun c => 0x20 ≤ c.toNat && c.toNat != 0x7F

/-- Whether the text of a request may stand in an address. -/
def Request.isAddressable (r : Request) : Bool := isAddressText r.endpoint.fullPath.toList

/-! ## Replies -/

/-- The content of an answer. -/
inductive Body where
  | json (value : Json)
  | text (text : String)

/-- What comes of a request. -/
inductive Reply where
  | answer (status : Int) (body : Body)
  /-- The transport failed, with the kind of the failure and its words. -/
  | failed (kind message : String)
  /-- The request has no address under the base, and was not sent. -/
  | unaddressed
  /-- An answer came, but to an address that does not name what it is an address of. -/
  | unnamed (address : String)

/-! ## Decoding -/

namespace Body

/-- The text of a content; a data value is written on one line. -/
def content : Body → String
  | .json v => Json.write .line v
  | .text s => s

def isEmpty : Body → Bool
  | .json _ => false
  | .text s => s == ""

/-- The data value of a content, if it is a data text. -/
def decode [Depth] : Body → Except Failure (Option Json)
  | .json v => .ok (some v)
  | .text s =>
    match (Text.detect? (Text.utf8Bytes s)).map Json.read with
    | some (.ok v) => .ok (some v)
    | some (.error .tooDeep) => .error (.kind .nesting)
    | _ => .ok none

end Body

end PromptGraph.Http
