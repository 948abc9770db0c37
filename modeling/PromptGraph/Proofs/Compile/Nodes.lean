import Mathlib.Data.List.Forall2
import PromptGraph.Proofs.Compile.DisplayNames

/-!
# `Proofs.Compile.Nodes` — the nodes of a definition, one for each authored node

After the entry trigger a definition holds one engine node for each authored node, in their order. What holds of every
authored node with the action that was compiled for it therefore holds along the whole definition.

## Contents
- **One node.** `Renders`, `renders_of_compileNode`.
- **All nodes.** `compileNodes_renders` by induction on the nodes, `exists_rendered`, and `compileChain_renders`.
-/

namespace PromptGraph

variable {s : CompileSetting} {n : Node} {e : EngineNode}

/-! ## One node -/

/-- An engine node has the id of an authored node, and does what its body is compiled to. -/
structure Renders (s : CompileSetting) (n : Node) (e : EngineNode) : Prop where
  id : e.id = n.id
  action : NodeAction.ofBody s n.body = .ok ⟨e.type, e.parameters, e.credentials⟩

theorem renders_of_compileNode {name : String} (h : compileNode s name n = .ok e) : Renders s n e := by
  obtain ⟨action, haction, he⟩ := bind_eq_ok.mp h
  cases Except.ok.inj he
  exact ⟨rfl, haction⟩

/-! ## All nodes -/

theorem compileNodes_renders (used : List String) {nodes : List Node} {es : List EngineNode}
    (h : compileNodes s (nodes.zip (displayNames used nodes)) = .ok es) : List.Forall₂ (Renders s) nodes es := by
  induction nodes generalizing used es with
  | nil =>
      cases Except.ok.inj h
      exact .nil
  | cons n rest ih =>
      simp only [displayNames, List.zip_cons_cons] at h
      obtain ⟨e, more, he, hmore, rfl⟩ := compileNodes_cons h
      exact .cons (renders_of_compileNode he) (ih _ hmore)

theorem exists_rendered {nodes : List Node} {es : List EngineNode} (h : List.Forall₂ (Renders s) nodes es)
    (he : e ∈ es) : ∃ n ∈ nodes, Renders s n e := by
  induction h with
  | nil => exact absurd he List.not_mem_nil
  | @cons n first rest more hfirst _ ih =>
      rcases List.mem_cons.mp he with rfl | he
      · exact ⟨n, List.mem_cons_self, hfirst⟩
      · obtain ⟨n', hn', hrendered⟩ := ih he
        exact ⟨n', List.mem_cons_of_mem _ hn', hrendered⟩

/-- **A definition is the trigger followed by the authored nodes**, each compiled under the one setting. -/
theorem compileChain_renders {c : Chain} {d : Definition} (h : compileChain s c = .ok d) :
    ∃ compiled, d.nodes = triggerNode :: compiled ∧ List.Forall₂ (Renders s) c.graph.nodes compiled := by
  obtain ⟨compiled, connections, hnodes, -, rfl⟩ := compileChain_parts h
  exact ⟨compiled, rfl, compileNodes_renders _ hnodes⟩

end PromptGraph
