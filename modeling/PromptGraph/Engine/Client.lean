import PromptGraph.Effect.Act
import PromptGraph.Engine.Credential
import PromptGraph.Engine.Definition
import PromptGraph.Engine.Execution

/-!
# `PromptGraph.Engine.Client` — the engine's interface

Every operation sends its requests and reads the answers; an answer outside 2xx, an unreadable answer and a failed
transport are remote errors. Nothing is repeated here.

## Contents
- **Requests.** `send`, `sendBody`: one request and the value of its answer.
- **Listing.** `listPages`: all items of a listing, page after page as the remote's cursor says. The number of pages
  is bounded by a budget, as a remote may go on for ever.
- **Operations.** On workflows, executions and credentials, and the health check.
-/

namespace PromptGraph.Engine

open Http

variable [Depth]

/-! ## Requests -/

/-- The first five hundred characters of an unreadable answer. -/
def excerpt (s : String) : String := String.ofList (s.toList.take 500)

/-- The remote error of a request. -/
def errorOf (r : Request) (status : Option Int) (body : String) : Failure :=
  .remote ⟨status, body, r.method.name, r.endpoint.path⟩

/-- The value of an answer; an empty one is null. -/
def replyValue (r : Request) : Reply → Except Failure Json
  | .failed _ message => .error (errorOf r none ("request failed: " ++ message))
  | .unaddressed => .error (.kind .address)
  | .unnamed address => .error (.value (.unnamedAddress address))
  | .answer status body =>
    if ¬(200 ≤ status ∧ status < 300) then .error (errorOf r (some status) body.content)
    else if body.isEmpty then .ok .null
    else match body.decode with
      | .ok (some v) => .ok v
      | .error failure => .error failure
      | .ok none => .error (errorOf r (some status) ("invalid JSON: " ++ excerpt body.content))

/-- Why the body of a request has no data text. -/
def bodyFault? (r : Request) : Option TextFault := r.body.bind (Json.writeFault? true)

/-- Sends a request and reads its answer. A request without an address, or whose body has no text, is not sent. -/
def send (r : Request) : Act Json :=
  if !r.isAddressable then .failed (.kind .address)
  else match bodyFault? r with
    | some fault => .failed (.ofText fault)
    | none => .ask (.exchange r) fun reply => .ofExcept (replyValue r reply)

def get (e : Endpoint) (parameters : Option (List (String × String))) : Act Json :=
  send ⟨.get, e, parameters, none⟩

/-- An absent body is no body. -/
def bodyOf : Json → Option Json
  | .null => none
  | v => some v

def sendBody (m : Method) (e : Endpoint) (body : Json) : Act Json := send ⟨m, e, none, bodyOf body⟩

/-- A value that counts as absent is read as an empty object. -/
def orEmpty (v : Json) : Json := if v.isTruthy then v else .obj []

/-! ## Listing -/

/-- A value as the text of a parameter. -/
def parameterText : Json → String
  | .null => ""
  | .bool b => if b then "true" else "false"
  | v => v.display

/-- The parameters of a cursor; a list gives one for each item. -/
def cursorParameters : Json → List (String × String)
  | .arr xs => xs.map fun x => ("cursor", parameterText x)
  | v => [("cursor", parameterText v)]

/-- The items under a page's data: of a list its items, of a mapping its names, of a text its characters. -/
def pageItems (data : Json) : Except Failure (List Json) :=
  match data with
  | .arr xs => .ok xs
  | .obj ms => .ok (ms.map fun m => .str m.1)
  | .str s => .ok (s.toList.map fun c => .str (String.singleton c))
  | v => if v.isTruthy then .error (.kind .operation) else .ok []

/-- The items of a page, and the cursor of the next page. A list is a last page. -/
def readPage (page : Json) : Except Failure (List Json × Option Json) :=
  match page with
  | .arr xs => .ok (xs, none)
  | .obj ms => do
    let items ← pageItems ((Members.get? "data" ms).getD .null)
    pure (items, (Members.get? "nextCursor" ms).filter Json.isTruthy)
  | v => if v.isTruthy then .error (.kind .property) else .ok ([], none)

/-- The items of a listing from the page of a cursor on. -/
def listFrom (e : Endpoint) : (budget : Nat) → Option Json → Act (List Json)
  | 0, _ => .unfinished
  | budget + 1, cursor => do
    let page ← get e (cursor.map cursorParameters)
    let (items, next) ← Act.ofExcept (readPage page)
    match next with
    | none => pure items
    | some c => do
      let more ← listFrom e budget (some c)
      pure (items ++ more)

/-- All items of a listing. -/
def listPages (budget : Nat) (e : Endpoint) : Act (List Json) := listFrom e budget none

/-- Reads every value. -/
def readEach {α : Type} (read : Json → Except Failure α) : List Json → Except Failure (List α)
  | [] => .ok []
  | v :: rest => do
    let a ← read v
    let more ← readEach read rest
    pure (a :: more)

/-! ## Workflows -/

def createWorkflow (d : Definition) : Act Definition := do
  let v ← sendBody .post .workflows d.payload
  .ofExcept (Definition.read (orEmpty v))

/-- Changes the given members of a workflow. -/
def updateWorkflow (id : String) (changes : Json) : Act Definition := do
  let v ← sendBody .patch (.workflow id) changes
  .ofExcept (Definition.read (orEmpty v))

def getWorkflow (id : String) : Act Definition := do
  let v ← get (.workflow id) none
  .ofExcept (Definition.read (orEmpty v))

def deleteWorkflow (id : String) : Act Unit := do
  let _ ← send ⟨.delete, .workflow id, none, none⟩

def listWorkflows (budget : Nat) : Act (List Definition) := do
  let items ← listPages budget .workflows
  .ofExcept (readEach Definition.read items)

/-- Switches a workflow on or off. -/
def setActive (id : String) (active : Bool) : Act Definition :=
  updateWorkflow id (.obj [("active", .bool active)])

/-! ## Executions -/

/-- Starts a workflow with an input, if there is one. -/
def executeWorkflow (id : String) (input : Json) : Act EngineExecution := do
  let body : Members := match input with
    | .null => []
    | v => [("data", v)]
  let v ← sendBody .post (.execute id) (.obj body)
  .ofExcept (EngineExecution.read (orEmpty v))

def getExecution (id : String) : Act EngineExecution := do
  let v ← get (.execution id) (some [("includeData", "true")])
  .ofExcept (EngineExecution.read (orEmpty v))

/-- The rows of a listing of executions. -/
def executionRows (page : Json) : Except Failure (List Json) :=
  match page with
  | .obj ms => pageItems ((Members.get? "data" ms).getD .null)
  | v => pageItems v

/-- The latest executions, of one workflow or of all. -/
def listExecutions (workflow : Option String) (limit : Json) : Act (List EngineExecution) := do
  let ofWorkflow := match workflow with
    | some id => if id = "" then [] else [("workflowId", id)]
    | none => []
  let page ← get .executions (some (("limit", parameterText limit) :: ofWorkflow))
  let rows ← Act.ofExcept (executionRows page)
  .ofExcept (readEach EngineExecution.read rows)

/-! ## Credentials -/

def listCredentials (budget : Nat) : Act (List Credential) := do
  let items ← listPages budget .credentials
  .ofExcept (readEach Credential.read items)

/-- An answer without a value stands for what was sent. -/
def answeredCredential (c : Credential) (v : Json) : Act Credential :=
  .ofExcept (Credential.read (if v.isTruthy then v else c.toJson))

def createCredential (c : Credential) : Act Credential := do
  answeredCredential c (← sendBody .post .credentials c.payload)

def updateCredential (id : String) (c : Credential) : Act Credential := do
  answeredCredential c (← sendBody .patch (.credential id) c.payload)

def deleteCredential (id : String) : Act Unit := do
  let _ ← send ⟨.delete, .credential id, none, none⟩

/-! ## Health -/

/-- Whether the engine answers its health check with 2xx. -/
def healthy : Act Bool :=
  .ask (.exchange ⟨.get, .health, none, none⟩) fun
    | .failed kind _ => do
      Act.report (.healthFailed kind)
      pure false
    | .unaddressed => .failed (.kind .address)
    | .unnamed address => .failed (.value (.unnamedAddress address))
    | .answer status _ => pure (decide (200 ≤ status ∧ status < 300))

end PromptGraph.Engine
