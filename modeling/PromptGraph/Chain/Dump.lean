import PromptGraph.Chain.Graph

/-!
# `PromptGraph.Chain.Dump` — prompt chains as data values

Every field is present, absent values being null.
-/

namespace PromptGraph

def Position.toJson (p : Position) : Json := .obj [("x", .num p.x), ("y", .num p.y)]

namespace NodeBody

def toJson : NodeBody → Json
  | .prompt b =>
    .obj [("label", .ofString? b.label), ("prompt", .ofString? b.prompt), ("model", .ofString? b.model),
      ("temperature", .ofOption .float b.temperature), ("maxTokens", .ofOption .int b.maxTokens)]
  | .router b => .obj [("label", .ofString? b.label), ("conditions", .arr (b.conditions.map .str))]
  | .validator b => .obj [("label", .ofString? b.label), ("validationRules", .arr (b.rules.map .str))]
  | .integration b =>
    .obj ([("label", .ofString? b.label), ("integrationType", .ofString? b.kind),
      ("channel", .ofString? b.channel), ("webhookUrl", .ofString? b.webhookUrl)] ++ b.extras)

end NodeBody

def Node.toJson (n : Node) : Json :=
  .obj [("id", .str n.id), ("position", n.position.toJson), ("type", .str n.body.tag), ("data", n.body.toJson)]

def Edge.toJson (e : Edge) : Json :=
  .obj [("id", .str e.id), ("source", .str e.source), ("target", .str e.target),
    ("sourceHandle", .ofString? e.sourceHandle), ("targetHandle", .ofString? e.targetHandle)]

def Graph.toJson (g : Graph) : Json :=
  .obj [("nodes", .arr (g.nodes.map Node.toJson)), ("edges", .arr (g.edges.map Edge.toJson))]

def Chain.toJson (c : Chain) : Json :=
  .obj [("id", .str c.id), ("name", .str c.name), ("description", .ofString? c.description),
    ("org_id", .ofString? c.org), ("config", c.graph.toJson)]

end PromptGraph
