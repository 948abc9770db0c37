import PromptGraph.Chain.Graph
import PromptGraph.Failure
import PromptGraph.Schema.Field

/-!
# `PromptGraph.Chain.Reading` — stored rows as prompt chains

## Contents
- **Fields.** `readNode`, `readEdge`, `readGraph`: the parts of a stored graph.
- **Node types.** `checkNodeTypes`: the first node of an unknown type is refused before anything else is checked;
  `entryRefusal`.
- **Rows.** `rowMembers`: the members of a row, which may also be given as a list of pairs.
- **Chains.** `Chain.read`.
-/

namespace PromptGraph

open Schema

variable [Depth]

/-! ## Fields -/

def readPosition (v : Json) : Checked Position :=
  (record v).andThen fun ms =>
    Position.mk <$> withDefault ms "x" (fun v => .float <$> float v) (.int 0)
      <*> withDefault ms "y" (fun v => .float <$> float v) (.int 0)

/-- A temperature lies between zero and two. -/
def readTemperature (v : Json) : Checked Double := (float v).andThen (within (.ofNat 0) (.ofNat 2))

def readMaxTokens (v : Json) : Checked Int := (integer v).andThen positive

def readPromptBody (ms : Members) : Checked PromptBody :=
  PromptBody.mk <$> nullable ms "label" text <*> nullable ms "prompt" text <*> nullable ms "model" text
    <*> nullable ms "temperature" readTemperature <*> nullable ms "maxTokens" readMaxTokens

def readRouterBody (ms : Members) : Checked RouterBody :=
  RouterBody.mk <$> nullable ms "label" text <*> withDefault ms "conditions" (list text) []

def readValidatorBody (ms : Members) : Checked ValidatorBody :=
  ValidatorBody.mk <$> nullable ms "label" text <*> withDefault ms "validationRules" (list text) []

/-- The members of an integration that have a meaning of their own. -/
def integrationFields : List String := ["label", "integrationType", "channel", "webhookUrl"]

def readIntegrationBody (ms : Members) : Checked IntegrationBody :=
  IntegrationBody.mk <$> nullable ms "label" text <*> nullable ms "integrationType" text
    <*> nullable ms "channel" text <*> nullable ms "webhookUrl" text
    <*> .ok (ms.filter fun m => !integrationFields.contains m.1)

/-- The data of a node of the given type; no other type has data. -/
def readBody (type : String) (ms : Members) : Checked NodeBody :=
  match type with
  | "prompt" => .prompt <$> readPromptBody ms
  | "router" => .router <$> readRouterBody ms
  | "validator" => .validator <$> readValidatorBody ms
  | _ => .integration <$> readIntegrationBody ms

/-- A node of the given type; absent data are read as empty data. -/
def readNodeAs (type : String) (v : Json) : Checked Node :=
  (record v).andThen fun ms =>
    let data : Checked NodeBody :=
      match Members.get? "data" ms with
      | some d => ((record d).andThen (readBody type)).under (.field "data")
      | none => readBody type []
    Node.mk <$> required ms "id" text <*> withDefault ms "position" readPosition Position.origin <*> data

/-- A node by its own type, which has been checked before. -/
def readNode (v : Json) : Checked Node :=
  let type := ((v.get? "type").bind Json.asString?).getD ""
  (readNodeAs type v).under (.field type)

/-- A handle is kept as a text, whatever it was. -/
def readHandle (v : Json) : Checked (Option String) :=
  match v with
  | .null => .ok none
  | v =>
    match v.displayFault? Depth.kept with
    | none => .ok (some v.display)
    | some .tooDeep => .broken
    | some _ => .fail (.rule longIntegerMessage)

def readEdge (v : Json) : Checked Edge :=
  (record v).andThen fun ms =>
    Edge.mk <$> required ms "id" text <*> required ms "source" text <*> required ms "target" text
      <*> withDefault ms "sourceHandle" readHandle none <*> withDefault ms "targetHandle" readHandle none

/-- The first id that has occurred before. -/
def firstRepeated (seen : List String) : List String → Option String
  | [] => none
  | id :: rest => if seen.contains id then some id else firstRepeated (id :: seen) rest

/-- The first edge with an end outside the given ids, and those ends. -/
def firstLoose (ids : List String) : List Edge → Option (Edge × List String)
  | [] => none
  | e :: rest =>
    let ends := [e.source, e.target].filter fun i => !ids.contains i
    if ends.isEmpty then firstLoose ids rest else some (e, ends)

/-- The words on a graph whose ids or edges are faulty. -/
def graphFault (nodes : List Node) (edges : List Edge) : String :=
  let ids := nodes.map Node.id
  match firstRepeated [] ids, firstLoose ids edges with
  | some id, _ => "duplicate node id " ++ Text.quoted id
  | none, some (e, ends) =>
    "edge " ++ Text.quoted e.id ++ " references unknown node id(s) " ++ String.intercalate ", " ends
  | none, none => ""

/-- Nodes and edges as a graph, if they form one. -/
def makeGraph (nodes : List Node) (edges : List Edge) : Checked Graph :=
  if h : (nodes.map Node.id).Nodup ∧ ∀ e ∈ edges, e.Joins (nodes.map Node.id) then
    .ok ⟨nodes, edges, h.1, h.2⟩
  else .fail (.rule (graphFault nodes edges))

def readGraph (v : Json) : Checked Graph :=
  (record v).andThen fun ms =>
    let parts := Prod.mk <$> withDefault ms "nodes" (list readNode) [] <*> withDefault ms "edges" (list readEdge) []
    parts.andThen fun p => makeGraph p.1 p.2

/-! ## Node types -/

/-- Whether a value is the tag of one of the four kinds. -/
def isNodeTag : Json → Bool
  | .str s => NodeBody.tags.contains s
  | _ => false

/-- The refusal of an entry of an unknown type. It names the type and, where it counts as present, the id; what is too
    long or too deep to be named is a failure of its own. -/
def entryRefusal (type id : Json) : Failure :=
  match (if id.isTruthy then id.displayFault? Depth.named else none).or (type.showFault? Depth.named) with
  | some fault => .ofText fault
  | none => .unsupportedNodeType type id

/-- The first entry of an unknown type is refused. -/
def checkEntries : List Json → Except Failure Unit
  | [] => .ok ()
  | v :: rest =>
    let type := (v.get? "type").getD .null
    if isNodeTag type then checkEntries rest
    else .error (entryRefusal type ((v.get? "id").getD .null))

/-- The entries under which nodes are looked for: those of a list, the names of a mapping, the characters of a
    text. What counts as absent has none. -/
def nodeEntries (nodes : Json) : Except Failure (List Json) :=
  match nodes with
  | .arr xs => .ok xs
  | .obj ms => .ok (ms.map fun m => .str m.1)
  | .str s => .ok (s.toList.map fun c => .str (String.singleton c))
  | v => if v.isTruthy then .error (.kind .operation) else .ok []

/-- The types of all nodes of a stored graph. -/
def checkNodeTypes (config : Json) : Except Failure Unit :=
  match config with
  | .obj ms => do checkEntries (← nodeEntries ((Members.get? "nodes" ms).getD .null))
  | _ => .ok ()

/-! ## Rows -/

/-- A pair among the items of a row given as a list: two items of a list or of a mapping's names, or two
    characters. `none` stands for a name that is no text and is of no further use. -/
def rowPair (index : Nat) (item : Json) : Except Failure (Option (String × Json)) :=
  let ofParts (parts : List Json) : Except Failure (Option (String × Json)) :=
    match parts with
    | [.str k, v] => .ok (some (k, v))
    | [.arr _, _] => .error (.kind .operation)
    | [.obj _, _] => .error (.kind .operation)
    | [_, _] => .ok none
    | _ => .error (.value (.pairLength index parts.length))
  match item with
  | .arr xs => ofParts xs
  | .obj ms => ofParts (ms.map fun m => .str m.1)
  | .str s => ofParts (s.toList.map fun c => .str (String.singleton c))
  | _ => .error (.kind .operation)

/-- The pairs of a row given as a list, from an index on. -/
def rowPairs : Nat → List Json → Except Failure (List (String × Json))
  | _, [] => .ok []
  | i, item :: rest => do
    let pair ← rowPair i item
    let more ← rowPairs (i + 1) rest
    pure (match pair with | some p => p :: more | none => more)

/-- The members of a row. -/
def rowMembers (row : Json) : Except Failure Members :=
  match row with
  | .obj ms => .ok ms
  | .arr xs => Members.ofPairs <$> rowPairs 0 xs
  | .str s => Members.ofPairs <$> rowPairs 0 (s.toList.map fun c => .str (String.singleton c))
  | _ => .error (.kind .operation)

/-! ## Chains -/

/-- The stored graph of a row: a text is read as a data text, a blank one as an empty graph. -/
def storedGraph (ms : Members) : Except Failure Json :=
  match Members.get? "config" ms with
  | some (.str s) =>
    if s.toList.all Text.isBlank then .ok (.obj [])
    else (Json.read s).mapError Failure.ofJson
  | some v => .ok v
  | none => .ok .null

/-- The members of a row with its graph read and its organization under one name. -/
def normalRow (ms : Members) : Except Failure Members := do
  let config ← storedGraph ms
  let ms := if ms.contains "config" then ms.insert "config" config else ms
  let ms := match Members.get? "orgId" ms with
    | some org => if ms.contains "org_id" then ms else ms.insert "org_id" org
    | none => ms
  checkNodeTypes config
  pure ms

def readChain (ms : Members) : Checked Chain :=
  Chain.mk <$> required ms "id" text <*> required ms "name" text <*> nullable ms "description" text
    <*> nullable ms "org_id" text <*> withDefault ms "config" readGraph Graph.empty

namespace Chain

/-- The prompt chain of a stored row. -/
def read (row : Json) : Except Failure Chain := do
  let ms ← normalRow (← rowMembers row)
  (readChain ms).toExcept "Workflow"

end Chain

end PromptGraph
