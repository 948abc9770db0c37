import PromptGraph.Proofs.Chain.Reading
import PromptGraph.Proofs.Compile.Connections
import PromptGraph.Proofs.Compile.Outcome
import PromptGraph.Trace.Output

/-!
# `Proofs.Compile.Wiring` — how the nodes of a definition hang together

The entry trigger is the one node that was not authored, and nothing authored can be taken for it: no label gives a node
its name, no kind its type, no id its id, and no edge leads to it or away from it. What is kept under the name of
another node is therefore a candidate for the output of an execution.

## Contents
- **The trigger alone.** `displayNames_ne_triggerName`, `actionTypes`, `type_ne_of_renders`, `filter_triggerNode`.
- **The output.** `mem_candidates`.
- **Definitions.** `Wired`; `triggerId_not_mem`, `name_ne_of_compiled` and `knit_of_graph`; `compileChain_wired`.
-/

namespace PromptGraph

variable {s : CompileSetting} {c : Chain} {d : Definition}

/-! ## The trigger alone -/

/-- A title with an id ends in a bracket. -/
theorem suffixedTitle_ne_triggerName (n : Node) : suffixedTitle n ≠ triggerName := by
  intro h
  have hlast : (suffixedTitle n).toList.getLast? = triggerName.toList.getLast? := by rw [h]
  have hbracket : (suffixedTitle n).toList.getLast? = some ')' := by
    unfold suffixedTitle
    rw [String.toList_append]
    exact List.getLast?_concat
  have hletter : triggerName.toList.getLast? = some 'r' := by decide
  rw [hbracket, hletter] at hlast
  exact absurd hlast (by decide)

/-- **No node is named like the trigger**, as the trigger's name is in use before all others. -/
theorem displayNames_ne_triggerName {used : List String} (hused : triggerName ∈ used) (nodes : List Node) :
    ∀ name ∈ displayNames used nodes, name ≠ triggerName := by
  induction nodes generalizing used with
  | nil => simp [displayNames]
  | cons n rest ih =>
      intro name hname
      rcases List.mem_cons.mp hname with rfl | hname
      · by_cases ht : n.title ∈ used
        · rw [displayName_of_taken ht]
          exact suffixedTitle_ne_triggerName n
        · rw [displayName_of_free ht]
          intro heq
          exact ht (heq ▸ hused)
      · exact ih (List.mem_cons_of_mem _ hused) name hname

/-- The types of the nodes that are compiled: web requests, functions, mails and chat messages. -/
def actionTypes : List String := [requestType, functionType, mailType, "n8n-nodes-base.slack"]

theorem integrationType_mem {b : IntegrationBody} {action : NodeAction}
    (h : NodeAction.ofIntegration s b = .ok action) : action.type ∈ actionTypes := by
  unfold NodeAction.ofIntegration at h
  split at h
  · obtain ⟨limit, -, haction⟩ := bind_eq_ok.mp h
    cases Except.ok.inj haction
    simp [actionTypes, mailType]
  · cases Except.ok.inj h
    simp [actionTypes, NodeAction.chat]
  · cases Except.ok.inj h
    simp [actionTypes, NodeAction.webhook]
  · cases Except.ok.inj h
    simp [actionTypes, NodeAction.function]

theorem actionType_mem {body : NodeBody} {action : NodeAction} (h : NodeAction.ofBody s body = .ok action) :
    action.type ∈ actionTypes := by
  cases body with
  | prompt b =>
      obtain ⟨parameters, -, haction⟩ := bind_eq_ok.mp h
      cases Except.ok.inj haction
      exact List.mem_cons_self
  | router b =>
      cases Except.ok.inj h
      simp [actionTypes, NodeAction.function]
  | validator b =>
      cases Except.ok.inj h
      simp [actionTypes, NodeAction.function]
  | integration b =>
      rw [NodeAction.ofBody] at h
      exact integrationType_mem h

/-- No kind of node is compiled to a trigger. -/
theorem type_ne_of_renders {n : Node} {e : EngineNode} (h : Renders s n e) : e.type ≠ triggerType := by
  have hmem := actionType_mem h.action
  have hnone : triggerType ∉ actionTypes := by decide
  intro heq
  exact hnone (heq ▸ hmem)

/-- What is true of the trigger and of no node after it singles out the first node. -/
theorem filter_triggerNode {p : EngineNode → Bool} {compiled : List EngineNode} (htrigger : p triggerNode = true)
    (hother : ∀ e ∈ compiled, p e = false) : (triggerNode :: compiled).filter p = [triggerNode] := by
  have hnone : compiled.filter p = [] := by
    rw [List.filter_eq_nil_iff]
    intro e he
    simp [hother e he]
  rw [List.filter_cons_of_pos htrigger, hnone]

/-! ## The output -/

/-- What was run under another name than the trigger's, and tells when it started, is a candidate for the output. -/
theorem mem_candidates {e : EngineExecution} {name : String} {runs : List NodeRun} {start : Int}
    (hrun : (name, runs) ∈ e.runs) (hname : name ≠ triggerName) (hstart : latestStart? runs = some start) :
    ⟨start, name, runs⟩ ∈ candidates e := by
  unfold candidates
  rw [List.mem_filterMap]
  refine ⟨(name, runs), hrun, ?_⟩
  simp [hname, hstart]

/-! ## Definitions -/

/-- **How the nodes of a definition hang together**, `compiled` being those that were authored. -/
structure Wired (compiled : List EngineNode) (d : Definition) : Prop where
  nodes : d.nodes = triggerNode :: compiled
  distinct : (d.nodes.map EngineNode.id).Nodup
  /-- One node is a trigger, the first. -/
  types : d.nodes.filter (fun e => e.type = triggerType) = [triggerNode]
  /-- One node has the trigger's name, the first. -/
  names : d.nodes.filter (fun e => e.name = triggerName) = [triggerNode]
  /-- No authored node is passed over in the search for the output of an execution. -/
  considered : ∀ n ∈ compiled, ∀ (e : EngineExecution) runs start, (n.name, runs) ∈ e.runs →
    latestStart? runs = some start → ⟨start, n.name, runs⟩ ∈ candidates e
  /-- A node has at most one entry in the connections, and nothing else has one. -/
  sources : d.connections.sources.Nodup ∧ ∀ id ∈ d.connections.sources, id ∈ d.nodes.map EngineNode.id
  targets : ∀ t ∈ d.connections.targets, t.node ∈ d.nodes.map EngineNode.id ∧ t.node ≠ triggerId
  /-- The trigger feeds the first authored node and nothing else. -/
  trigger : d.connections.lookup triggerId = compiled.head?.map fun first => [[.main first.id]]
  bare : compiled = [] → d.connections = []

theorem compiled_ids {nodes : List Node} {compiled : List EngineNode} (h : List.Forall₂ (Renders s) nodes compiled) :
    compiled.map EngineNode.id = nodes.map Node.id := by
  induction h with
  | nil => rfl
  | cons hfirst _ ih => rw [List.map_cons, List.map_cons, hfirst.id, ih]

/-- No authored node of a chain that compiles has the id of the trigger. -/
theorem triggerId_not_mem (h : compileChain s c = .ok d) : triggerId ∉ c.graph.nodes.map Node.id := by
  intro hmem
  obtain ⟨n, hn, hid⟩ := List.mem_map.mp hmem
  have hreserved : usesReservedId c = true := usesReservedId_iff.mpr ⟨n, hn, hid⟩
  rw [compileChain_of_reserved hreserved] at h
  cases h

/-- No node that is compiled under a display name has the name of the trigger. -/
theorem name_ne_of_compiled {nodes : List Node} {compiled : List EngineNode}
    (h : compileNodes s (nodes.zip (displayNames [triggerName] nodes)) = .ok compiled) {e : EngineNode}
    (he : e ∈ compiled) : e.name ≠ triggerName := by
  have hmem : e.name ∈ displayNames [triggerName] nodes := by
    rw [← compileNodes_names _ h]
    exact List.mem_map_of_mem he
  exact displayNames_ne_triggerName List.mem_cons_self _ _ hmem

/-- The edges of a graph knit its nodes together, and the trigger to the first of them. -/
theorem knit_of_graph {g : Graph} {connections : Connections} (hfree : triggerId ∉ g.nodes.map Node.id)
    (h : compileConnections g.edges (g.nodes.head?.map Node.id) = .ok connections) :
    Knit (g.nodes.map Node.id) (g.nodes.head?.map Node.id) connections := by
  refine knit_compileConnections h hfree g.joined fun id hid => ?_
  obtain ⟨n, hn, rfl⟩ := Option.map_eq_some_iff.mp hid
  exact List.mem_map_of_mem (List.mem_of_head? hn)

/-- Without nodes there is nothing that an edge could join, and nothing to feed. -/
theorem connections_of_no_nodes {g : Graph} {connections : Connections} (hnodes : g.nodes = [])
    (h : compileConnections g.edges (g.nodes.head?.map Node.id) = .ok connections) : connections = [] := by
  have hedges : g.edges = [] := by
    rw [List.eq_nil_iff_forall_not_mem]
    intro e he
    have hjoins := g.joined e he
    rw [hnodes] at hjoins
    exact absurd hjoins.1 List.not_mem_nil
  rw [hnodes, hedges] at h
  cases h
  rfl

/-- The nodes of a chain that compiles are wired by its edges. -/
theorem wired_of_compileChain (h : compileChain s c = .ok d) :
    ∃ compiled, compiled.map EngineNode.id = c.graph.nodes.map Node.id ∧ Wired compiled d := by
  have hfree := triggerId_not_mem h
  obtain ⟨compiled, connections, hcompiled, hconnections, rfl⟩ := compileChain_parts h
  have hrenders := compileNodes_renders _ hcompiled
  have hids := compiled_ids hrenders
  have hknit := knit_of_graph hfree hconnections
  -- the ids of the definition are the trigger's and the authored ones
  have hall : ∀ id, id ∈ triggerId :: compiled.map EngineNode.id ↔ id = triggerId ∨ id ∈ c.graph.nodes.map Node.id :=
    fun id => by rw [hids, List.mem_cons]
  refine ⟨compiled, hids, ?_⟩
  constructor
  case nodes => rfl
  case distinct =>
    show (triggerId :: compiled.map EngineNode.id).Nodup
    rw [hids]
    exact List.nodup_cons.mpr ⟨hfree, c.graph.distinct⟩
  case types =>
    refine filter_triggerNode (decide_eq_true rfl) fun e he => ?_
    obtain ⟨n, -, hn⟩ := exists_rendered hrenders he
    exact decide_eq_false (type_ne_of_renders hn)
  case names =>
    exact filter_triggerNode (decide_eq_true rfl) fun e he => decide_eq_false (name_ne_of_compiled hcompiled he)
  case considered =>
    exact fun n hn e runs start hrun hstart => mem_candidates hrun (name_ne_of_compiled hcompiled hn) hstart
  case sources => exact ⟨hknit.distinct, fun id hid => (hall id).mpr (hknit.sources id hid)⟩
  case targets =>
    intro t ht
    have hnode : t.node ∈ c.graph.nodes.map Node.id := hknit.targets t ht
    exact ⟨(hall t.node).mpr (.inr hnode), fun heq => hfree (heq ▸ hnode)⟩
  case trigger =>
    have hhead : c.graph.nodes.head?.map Node.id = compiled.head?.map EngineNode.id := by
      rw [← List.head?_map, ← List.head?_map, hids]
    show connections.lookup triggerId = _
    rw [hknit.trigger, hhead, Option.map_map]
    rfl
  case bare =>
    rintro rfl
    exact connections_of_no_nodes (List.map_eq_nil_iff.mp hids.symm) hconnections

/-- **A stored chain that is read and compiles gives a definition whose nodes are the trigger and the stored ones, in
    their order and under their ids, wired as its edges say**, for whatever organization and replacements it is
    compiled. The trigger is alone in its id, its name and its type, nothing leads to it, and it feeds the first stored
    node. -/
theorem compileChain_wired [Depth] {row : Json} (hread : Chain.read row = .ok c) (hcompile : compileChain s c = .ok d) :
    ∃ compiled, (storedNodes row).map (Json.get? "id") = (compiled.map fun e => some (.str e.id))
      ∧ Wired compiled d := by
  obtain ⟨compiled, hids, hwired⟩ := wired_of_compileChain hcompile
  refine ⟨compiled, ?_, hwired⟩
  have hmap : (compiled.map EngineNode.id).map (fun id => some (Json.str id))
      = (c.graph.nodes.map Node.id).map fun id => some (Json.str id) := by rw [hids]
  rw [List.map_map, List.map_map] at hmap
  rw [read_ids hread]
  exact hmap.symm

/-- A stored chain whose nodes are labelled like the trigger, with an edge back from the second to the first. -/
def triggerLabelledRow : Json :=
  .obj [("id", .str "chain"), ("name", .str "Loop"),
    ("config", .obj [("nodes", .arr [labelledPrompt "a" triggerName, labelledPrompt "b" triggerName]),
      ("edges", .arr [.obj [("id", .str "e"), ("source", .str "b"), ("target", .str "a")]])])]

theorem compileChain_wired_triggerLabelledRow : ∃ c d, Chain.read triggerLabelledRow = .ok c
    ∧ compileChain ⟨Rewrites.default, none⟩ c = .ok d
    ∧ d.nodes.map EngineNode.name = [triggerName, "Manual Trigger (a)", "Manual Trigger (b)"]
    ∧ d.connections = [(triggerId, [[.main "a"]]), ("b", [[.main "a"]])]
    ∧ ∃ compiled, (storedNodes triggerLabelledRow).map (Json.get? "id") = (compiled.map fun e => some (.str e.id))
      ∧ Wired compiled d :=
  ⟨_, _, rfl, rfl, rfl, rfl, compileChain_wired rfl rfl⟩

end PromptGraph
