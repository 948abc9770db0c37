import PromptGraph.Compile.Node
import PromptGraph.Compile.Port

/-!
# `PromptGraph.Compile.Workflow` — prompt chains as workflow definitions

The definition begins with the entry trigger, followed by one node for each authored node in the same order. It is
inactive; activation is a step of its own.

## Contents
- `displayNames`: labels, else ids; a name already taken is followed by the id.
- `compileChain`, and `compileNotices`, what is worth reporting on the way.
-/

namespace PromptGraph

def triggerName : String := "Manual Trigger"

def triggerType : String := "n8n-nodes-base.manualTrigger"

/-- The entry trigger. -/
def triggerNode : EngineNode :=
  let hundred : Number := .float (.ofNat 100)
  ⟨triggerId, triggerName, triggerType, versionOne, (hundred, hundred), [], none⟩

/-- The display name of a node when the given names are taken. -/
def displayName (used : List String) (n : Node) : String :=
  if used.contains n.title then n.title ++ " (" ++ n.id ++ ")" else n.title

/-- The display names of nodes, in order. -/
def displayNames (used : List String) : List Node → List String
  | [] => []
  | n :: rest =>
    let name := displayName used n
    name :: displayNames (name :: used) rest

/-- A name that is empty gives way to the node's title. -/
def effectiveName (name : String) (n : Node) : String := if name = "" then n.title else name

/-- Compiles nodes under their display names. -/
def compileNodes (s : CompileSetting) : List (Node × String) → Except Failure (List EngineNode)
  | [] => .ok []
  | (n, name) :: rest => do
    let first ← compileNode s (effectiveName name n) n
    let more ← compileNodes s rest
    pure (first :: more)

/-- The notices on nodes, up to the first that does not compile. -/
def noticesUpTo (s : CompileSetting) : List Node → List Notice
  | [] => []
  | n :: rest =>
    match NodeAction.ofBody s n.body with
    | .error _ => []
    | .ok _ => nodeNotices n ++ noticesUpTo s rest

/-- Whether an authored node has the reserved id. -/
def usesReservedId (c : Chain) : Bool := c.graph.nodes.any fun n => n.id == triggerId

/-- The definition of a chain. -/
def compileChain (s : CompileSetting) (c : Chain) : Except Failure Definition := do
  if usesReservedId c then throw (.reservedNode triggerId)
  let nodes := c.graph.nodes
  let compiled ← compileNodes s (nodes.zip (displayNames [triggerName] nodes))
  let connections ← compileConnections c.graph.edges (nodes.head?.map Node.id)
  pure ⟨none, c.name, triggerNode :: compiled, connections, some false, [("executionOrder", .str "v1")]⟩

/-- What is worth reporting while a chain is compiled. -/
def compileNotices (s : CompileSetting) (c : Chain) : List Notice :=
  if usesReservedId c then [] else noticesUpTo s c.graph.nodes

/-- The setting for a chain: the given organization, else the chain's own. -/
def settingFor (rewrites : Rewrites) (org : Option String) (c : Chain) : CompileSetting := ⟨rewrites, org <|> c.org⟩

end PromptGraph
