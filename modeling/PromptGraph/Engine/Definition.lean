import PromptGraph.Failure
import PromptGraph.Schema.Field

/-!
# `PromptGraph.Engine.Definition` — workflow definitions of the engine

## Contents
- **The type.** `Definition`: nodes, and connections as a map from a source to its output ports.
- **Reading.** `Definition.read`: unknown members are ignored.
- **Payloads.** `Definition.payload`: without the id and without absent values; the free mappings are left whole.
-/

namespace PromptGraph

/-- A node of a definition. -/
structure EngineNode where
  id : String
  name : String
  type : String
  typeVersion : Number
  position : Number × Number
  parameters : Members
  credentials : Option Members

/-- A target on an output port. -/
structure Target where
  node : String
  kind : String
  index : Int
  deriving DecidableEq

namespace Target

/-- The main input of a node. -/
def main (node : String) : Target := ⟨node, "main", 0⟩

end Target

/-- The targets of each output port. -/
abbrev Ports := List (List Target)

/-- The ports of each source, in order. -/
abbrev Connections := List (String × Ports)

/-- A workflow of the engine. -/
structure Definition where
  id : Option String
  name : String
  nodes : List EngineNode
  connections : Connections
  active : Option Bool
  settings : Members

/-! ## Reading -/

open Schema

def readEngineNode (v : Json) : Checked EngineNode :=
  (record v).andThen fun ms =>
    EngineNode.mk <$> required ms "id" text <*> required ms "name" text <*> required ms "type" text
      <*> withDefault ms "typeVersion" (fun v => .float <$> float v) (.int 1)
      <*> withDefault ms "position" (pair fun v => .float <$> float v) (.int 0, .int 0)
      <*> withDefault ms "parameters" mapping [] <*> nullable ms "credentials" mapping

def readTarget (v : Json) : Checked Target :=
  (record v).andThen fun ms =>
    Target.mk <$> required ms "node" text <*> withDefault ms "type" text "main" <*> withDefault ms "index" integer 0

def readPorts (v : Json) : Checked Ports :=
  (record v).andThen fun ms => withDefault ms "main" (list (list readTarget)) []

def readDefinition (v : Json) : Checked Definition :=
  (record v).andThen fun ms =>
    Definition.mk <$> withDefault ms "id" (optional identifier) none <*> withDefault ms "name" text ""
      <*> withDefault ms "nodes" (list readEngineNode) []
      <*> withDefault ms "connections" (entries readPorts) [] <*> nullable ms "active" truth
      <*> withDefault ms "settings" mapping []

/-! ## Data values -/

/-- The members of the fields that are present. -/
def presentMembers (fields : List (String × Option Json)) : Members :=
  fields.filterMap fun f => f.2.map fun v => (f.1, v)

def Target.toJson (t : Target) : Json :=
  .obj [("node", .str t.node), ("type", .str t.kind), ("index", .int t.index)]

def portsJson (ports : Ports) : Json := .arr (ports.map fun targets => .arr (targets.map Target.toJson))

def connectionsJson (c : Connections) : Json :=
  .obj (c.map fun entry => (entry.1, .obj [("main", portsJson entry.2)]))

namespace EngineNode

/-- Every field but the credentials. -/
def plainFields (n : EngineNode) : Members :=
  [("id", .str n.id), ("name", .str n.name), ("type", .str n.type), ("typeVersion", .num n.typeVersion),
    ("position", .arr [.num n.position.1, .num n.position.2]), ("parameters", .obj n.parameters)]

/-- The node with every field. -/
def toJson (n : EngineNode) : Json :=
  .obj (n.plainFields ++ [("credentials", .ofOption .obj n.credentials)])

/-- The node without absent values. -/
def payload (n : EngineNode) : Json :=
  .obj (n.plainFields ++ presentMembers [("credentials", n.credentials.map .obj)])

end EngineNode

namespace Definition

/-- The definition in a value. -/
def read (v : Json) : Except Failure Definition := (readDefinition v).toExcept "N8nWorkflow"

/-- The definition with every field. -/
def toJson (d : Definition) : Json :=
  .obj [("id", .ofString? d.id), ("name", .str d.name), ("nodes", .arr (d.nodes.map EngineNode.toJson)),
    ("connections", connectionsJson d.connections), ("active", .ofOption .bool d.active),
    ("settings", .obj d.settings)]

/-- The definition as it is sent. -/
def payload (d : Definition) : Json :=
  .obj ([("name", .str d.name), ("nodes", .arr (d.nodes.map EngineNode.payload)),
      ("connections", connectionsJson d.connections)]
    ++ presentMembers [("active", d.active.map .bool), ("settings", some (.obj d.settings))])

end Definition

end PromptGraph
