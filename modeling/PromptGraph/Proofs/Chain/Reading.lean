import PromptGraph.Chain.Reading
import PromptGraph.Proofs.Checked
import PromptGraph.Proofs.Json.Members

/-!
# `Proofs.Chain.Reading` — what is read of a stored chain

A chain that is read has one node for each entry of the stored graph, in the order of the entries and under their ids:
reading drops no node, adds none and moves none. The entries are found in the row itself, whether the graph is stored as
a value or as a text.

## Contents
- **Rows.** `storedNodes`: the entries under which the nodes of a row stand.
- **Steps of reading.** `normalRow_of_graph`, `get?_config_normalRow`, `id_of_readNode`, `graph_of_readChain`.
- **Nodes.** `read_nodes` and `read_ids`.
-/

namespace PromptGraph

open Schema

variable [Depth]
variable {row v : Json} {ms : Members} {c : Chain}

/-! ## Rows -/

/-- The entries of the graph that is stored in a row; a row without a graph has none. -/
def storedNodes (row : Json) : List Json :=
  match rowMembers row >>= storedGraph with
  | .ok config => ((config.get? "nodes").bind Json.asArray?).getD []
  | .error _ => []

/-! ## Steps of reading -/

omit [Depth] in
/-- The organization is put under a name of its own. -/
theorem get?_config_withOrg (ms : Members) :
    Members.get? "config" (match Members.get? "orgId" ms with
      | some org => if ms.contains "org_id" then ms else ms.insert "org_id" org
      | none => ms) = Members.get? "config" ms := by
  have hother : ¬ ("org_id" = "config") := by decide
  split
  · by_cases horg : ms.contains "org_id" = true
    · rw [if_pos horg]
    · rw [if_neg horg, Members.get?_insert, if_neg hother]
  · rfl

/-- Once its graph is known, the node types of a row are checked; the row keeps that graph, if it has one. -/
theorem normalRow_of_graph {config : Json} (h : storedGraph ms = .ok config) :
    ∃ normal, normalRow ms = (checkNodeTypes config >>= fun _ => pure normal)
      ∧ Members.get? "config" normal = if ms.contains "config" then some config else none := by
  have hgraph : Members.get? "config" (if ms.contains "config" then ms.insert "config" config else ms)
      = if ms.contains "config" then some config else none := by
    by_cases hc : ms.contains "config" = true
    · rw [if_pos hc, if_pos hc, Members.get?_insert, if_pos rfl]
    · have hnone : Members.get? "config" ms = none := by simpa [Members.contains] using hc
      rw [if_neg hc, if_neg hc, hnone]
  refine ⟨_, ?_, (get?_config_withOrg _).trans hgraph⟩
  rw [normalRow, h]
  rfl

/-- The graph that a row is checked with is the stored one, if there is one. -/
theorem get?_config_normalRow {normal : Members} (h : normalRow ms = .ok normal) :
    ∃ config, storedGraph ms = .ok config
      ∧ Members.get? "config" normal = if ms.contains "config" then some config else none := by
  obtain ⟨config, hconfig, -⟩ := bind_eq_ok.mp h
  obtain ⟨normal', hnormal, hget⟩ := normalRow_of_graph hconfig
  rw [hnormal] at h
  obtain ⟨-, -, hsame⟩ := bind_eq_ok.mp h
  exact ⟨config, hconfig, Except.ok.inj hsame ▸ hget⟩

omit [Depth] in
theorem id_of_readNode {n : Node} (h : readNode v = .ok n) : v.get? "id" = some (.str n.id) := by
  obtain ⟨members, hrecord, hparts⟩ := Checked.andThen_eq_ok.mp (Checked.under_eq_ok.mp h)
  obtain rfl := record_eq_ok.mp hrecord
  obtain ⟨withPosition, body, hposition, -, rfl⟩ := Checked.seq_eq_ok.mp hparts
  obtain ⟨withId, position, hfirst, -, rfl⟩ := Checked.seq_eq_ok.mp hposition
  obtain ⟨id, hid, rfl⟩ := Checked.map_eq_ok.mp hfirst
  obtain ⟨stored, hget, htext⟩ := required_eq_ok.mp hid
  obtain rfl := text_eq_ok.mp htext
  exact hget

omit [Depth] in
theorem nodes_of_makeGraph {nodes : List Node} {edges : List Edge} {g : Graph}
    (h : makeGraph nodes edges = .ok g) : g.nodes = nodes := by
  unfold makeGraph at h
  split at h
  · cases h
    rfl
  · cases h

/-- The nodes of a graph are read from its entries, one after the other. -/
theorem nodes_of_readGraph {g : Graph} (h : readGraph v = .ok g) :
    List.Forall₂ (fun entry n => readNode entry = .ok n) (((v.get? "nodes").bind Json.asArray?).getD []) g.nodes := by
  obtain ⟨members, hrecord, hparts⟩ := Checked.andThen_eq_ok.mp h
  obtain rfl := record_eq_ok.mp hrecord
  obtain ⟨parts, hread, hgraph⟩ := Checked.andThen_eq_ok.mp hparts
  obtain ⟨withNodes, edges, hfirst, -, rfl⟩ := Checked.seq_eq_ok.mp hread
  obtain ⟨nodes, hnodes, rfl⟩ := Checked.map_eq_ok.mp hfirst
  rw [nodes_of_makeGraph hgraph]
  cases hget : Members.get? "nodes" members with
  | none =>
      rw [withDefault_of_none hget] at hnodes
      cases hnodes
      simp [Json.get?, hget]
  | some stored =>
      rw [withDefault_of_some hget] at hnodes
      obtain ⟨entries, rfl, hentries⟩ := list_eq_ok.mp hnodes
      simpa [Json.get?, hget, Json.asArray?] using hentries

theorem graph_of_readChain (h : readChain ms = .ok c) :
    withDefault ms "config" readGraph Graph.empty = .ok c.graph := by
  obtain ⟨withOrg, graph, horg, hgraph, rfl⟩ := Checked.seq_eq_ok.mp h
  obtain ⟨withDescription, org, hdescription, -, rfl⟩ := Checked.seq_eq_ok.mp horg
  obtain ⟨withName, description, hname, -, rfl⟩ := Checked.seq_eq_ok.mp hdescription
  obtain ⟨withId, name, hid, -, rfl⟩ := Checked.seq_eq_ok.mp hname
  obtain ⟨id, -, rfl⟩ := Checked.map_eq_ok.mp hid
  exact hgraph

/-! ## Nodes -/

/-- **The nodes of a chain are read from the entries of its row, one for each and in their order.** -/
theorem read_nodes (h : Chain.read row = .ok c) :
    List.Forall₂ (fun entry n => readNode entry = .ok n) (storedNodes row) c.graph.nodes := by
  obtain ⟨ms, hrow, hnormal⟩ := bind_eq_ok.mp h
  obtain ⟨normal, hnormal, hchain⟩ := bind_eq_ok.mp hnormal
  obtain ⟨config, hconfig, hget⟩ := get?_config_normalRow hnormal
  have hgraph := graph_of_readChain (Checked.toExcept_eq_ok.mp hchain)
  have hstored : storedNodes row = ((config.get? "nodes").bind Json.asArray?).getD [] := by
    have hread : (rowMembers row >>= storedGraph) = .ok config := bind_eq_ok.mpr ⟨ms, hrow, hconfig⟩
    rw [storedNodes, hread]
  rw [hstored]
  by_cases hc : ms.contains "config" = true
  · rw [if_pos hc] at hget
    rw [withDefault_of_some hget] at hgraph
    exact nodes_of_readGraph hgraph
  · -- without a stored graph there is no entry and no node
    have hnone : Members.get? "config" ms = none := by simpa [Members.contains] using hc
    rw [if_neg hc] at hget
    rw [withDefault_of_none hget] at hgraph
    rw [storedGraph, hnone] at hconfig
    cases hconfig
    rw [← Checked.ok.inj hgraph]
    exact .nil

/-- **The ids of a chain's nodes are those of its row.** -/
theorem read_ids (h : Chain.read row = .ok c) :
    (storedNodes row).map (Json.get? "id") = c.graph.nodes.map fun n => some (.str n.id) := by
  have hnodes := read_nodes h
  generalize storedNodes row = entries at hnodes ⊢
  generalize c.graph.nodes = nodes at hnodes ⊢
  induction hnodes with
  | nil => rfl
  | cons hfirst _ ih => rw [List.map_cons, List.map_cons, id_of_readNode hfirst, ih]

end PromptGraph
