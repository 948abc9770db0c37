import PromptGraph.Json.Value

/-!
# `PromptGraph.Chain.Graph` — authored prompt chains

A prompt chain is a graph of typed nodes as its author drew it.

## Contents
- **Nodes.** `Node`: an id, a canvas position and a `NodeBody`, which is one of four kinds.
- **Edges.** `Edge`: a source, a target, and handles that select ports.
- **Graphs.** `Graph`: node ids are distinct and edges join nodes of the graph.
- **Chains.** `Chain`: a named graph of an organization.
-/

namespace PromptGraph

/-- Canvas coordinates. -/
structure Position where
  x : Number
  y : Number
  deriving DecidableEq

namespace Position

/-- The corner of the canvas. -/
def origin : Position := ⟨.int 0, .int 0⟩

end Position

/-! ## Nodes -/

/-- A call of a language model. -/
structure PromptBody where
  label : Option String
  prompt : Option String
  model : Option String
  temperature : Option Double
  maxTokens : Option Int

/-- A choice of a route by conditions, the first that holds. -/
structure RouterBody where
  label : Option String
  conditions : List String

/-- A check of the content by rules, all of which are evaluated. -/
structure ValidatorBody where
  label : Option String
  rules : List String

/-- An exchange with another service. -/
structure IntegrationBody where
  label : Option String
  kind : Option String
  channel : Option String
  webhookUrl : Option String
  /-- Whatever else was authored. -/
  extras : Members

/-- What a node does. -/
inductive NodeBody where
  | prompt (body : PromptBody)
  | router (body : RouterBody)
  | validator (body : ValidatorBody)
  | integration (body : IntegrationBody)

namespace NodeBody

/-- The tag of a kind. -/
def tag : NodeBody → String
  | .prompt _ => "prompt"
  | .router _ => "router"
  | .validator _ => "validator"
  | .integration _ => "integration"

def label : NodeBody → Option String
  | .prompt b => b.label
  | .router b => b.label
  | .validator b => b.label
  | .integration b => b.label

/-- The tags of the four kinds. -/
def tags : List String := ["prompt", "router", "validator", "integration"]

end NodeBody

/-- A node of a graph. -/
structure Node where
  id : String
  position : Position
  body : NodeBody

namespace Node

def label (n : Node) : Option String := n.body.label

/-- The label, or the id where the label is absent or empty. -/
def title (n : Node) : String :=
  match n.label with
  | some l => if l = "" then n.id else l
  | none => n.id

end Node

/-! ## Edges -/

/-- A directed edge; the source handle selects the port of the source. -/
structure Edge where
  id : String
  source : String
  target : String
  sourceHandle : Option String
  targetHandle : Option String
  deriving DecidableEq

/-! ## Graphs -/

/-- Whether both ends of an edge are among the given ids. -/
def Edge.Joins (e : Edge) (ids : List String) : Prop := e.source ∈ ids ∧ e.target ∈ ids

instance (e : Edge) (ids : List String) : Decidable (e.Joins ids) := by
  unfold Edge.Joins; infer_instance

/-- Nodes and edges, in the order of their authoring. -/
structure Graph where
  nodes : List Node
  edges : List Edge
  distinct : (nodes.map Node.id).Nodup
  joined : ∀ e ∈ edges, e.Joins (nodes.map Node.id)

namespace Graph

/-- The graph without nodes. -/
def empty : Graph := ⟨[], [], by simp, by simp⟩

end Graph

/-! ## Chains -/

/-- A stored prompt chain. -/
structure Chain where
  id : String
  name : String
  description : Option String
  org : Option String
  graph : Graph

end PromptGraph
