import PromptGraph.Proofs.Compile.Ports

/-!
# `Proofs.Compile.Appending` — what is appended to a chain leaves what was compiled as it was

A chain grows at its ends: more nodes after its nodes, and more edges after its edges. Names are given node by node and
targets are added edge by edge, so what comes later never changes what is there. The definition of the longer chain
begins with the nodes of the shorter one, and each port of it begins with the targets that it had.

## Contents
- **Chains.** `Chain.Extends`, `Definition.Extends`, `Connections.Extends`.
- **Nodes.** `displayNames_append`, `compileNodes_append`, and `compileNodes_extends`.
- **Connections.** `extends_add` for one edge, `extends_addEdges` for all, and `compileConnections_extends`.
- **Definitions.** `compileChain_extends`.
-/

namespace PromptGraph

/-! ## Chains -/

/-- A chain with further nodes and further edges after those of another one, of the same name and organization. -/
structure Chain.Extends (c c' : Chain) : Prop where
  name : c'.name = c.name
  org : c'.org = c.org
  nodes : c.graph.nodes <+: c'.graph.nodes
  edges : c.graph.edges <+: c'.graph.edges

/-- Connections with further sources, and further targets on the ports of each source. -/
structure Connections.Extends (c c' : Connections) : Prop where
  sources : c.sources <+: c'.sources
  targets : ∀ source port, (c.portsOf source).getD port [] <+: (c'.portsOf source).getD port []

/-- A definition with further nodes and connections, and the same in all else. -/
structure Definition.Extends (d d' : Definition) : Prop where
  nodes : d.nodes <+: d'.nodes
  connections : d.connections.Extends d'.connections
  rest : { d' with nodes := d.nodes, connections := d.connections } = d

/-! ## Nodes -/

/-- Nodes are named before those after them. -/
theorem displayNames_append (used : List String) (nodes more : List Node) :
    displayNames used (nodes ++ more)
      = displayNames used nodes ++ displayNames ((displayNames used nodes).reverse ++ used) more := by
  induction nodes generalizing used with
  | nil => rfl
  | cons n rest ih =>
      rw [List.cons_append, displayNames, displayNames, ih]
      simp

variable {s : CompileSetting}

theorem compileNodes_append {pairs more : List (Node × String)} {es : List EngineNode}
    (h : compileNodes s (pairs ++ more) = .ok es) : ∃ first, compileNodes s pairs = .ok first ∧ first <+: es := by
  induction pairs generalizing es with
  | nil => exact ⟨[], rfl, List.nil_prefix⟩
  | cons pair pairs ih =>
      obtain ⟨e, rest, he, hrest, rfl⟩ := compileNodes_cons h
      obtain ⟨first, hfirst, hprefix⟩ := ih hrest
      refine ⟨e :: first, ?_, (List.prefix_cons_inj e).mpr hprefix⟩
      rw [compileNodes, he, hfirst]
      rfl

/-- Further nodes leave those before them as they were compiled. -/
theorem compileNodes_extends (used : List String) {nodes nodes' : List Node} (h : nodes <+: nodes')
    {es : List EngineNode} (hes : compileNodes s (nodes'.zip (displayNames used nodes')) = .ok es) :
    ∃ first, compileNodes s (nodes.zip (displayNames used nodes)) = .ok first ∧ first <+: es := by
  obtain ⟨more, rfl⟩ := h
  rw [displayNames_append, List.zip_append (length_displayNames used nodes).symm] at hes
  exact compileNodes_append hes

/-! ## Connections -/

namespace Connections.Extends

variable {c c' c'' : Connections}

theorem refl (c : Connections) : c.Extends c := ⟨List.prefix_refl _, fun _ _ => List.prefix_refl _⟩

theorem trans (h : c.Extends c') (h' : c'.Extends c'') : c.Extends c'' :=
  ⟨h.sources.trans h'.sources, fun source port => (h.targets source port).trans (h'.targets source port)⟩

end Connections.Extends

theorem extends_nothing (c : Connections) : Connections.Extends [] c :=
  ⟨List.nil_prefix, fun _ _ => List.nil_prefix⟩

/-- **One target more** leaves the others where they are. -/
theorem extends_add (source : String) (port : Nat) (target : Target) (c : Connections) :
    c.Extends (c.add source port target) where
  sources := by
    rw [sources_add]
    split
    · exact List.prefix_refl _
    · exact List.prefix_append _ _
  targets other i := by
    by_cases hsource : source = other
    · rw [← hsource, Connections.portsOf_add_self, Ports.getD_add]
      exact List.prefix_append _ _
    · have hsame := Connections.portsOf_add_of_ne hsource port target c
      exact hsame ▸ List.prefix_refl _

/-- **Further edges** leave the targets of those before them where they are. -/
theorem extends_addEdges {edges : List Edge} {c c' : Connections} (h : Connections.addEdges edges c = .ok c') :
    c.Extends c' :=
  addEdges_induction h (.refl c) fun e _ port c'' hc => hc.trans (extends_add e.source port (.main e.target) c'')

theorem addEdges_append {edges more : List Edge} {c c'' : Connections}
    (h : Connections.addEdges (edges ++ more) c = .ok c'') :
    ∃ c', Connections.addEdges edges c = .ok c' ∧ Connections.addEdges more c' = .ok c'' := by
  induction edges generalizing c with
  | nil => exact ⟨c, rfl, h⟩
  | cons e rest ih =>
      obtain ⟨port, hport, hrest⟩ := bind_eq_ok.mp h
      obtain ⟨c', hc', hmore⟩ := ih hrest
      refine ⟨c', ?_, hmore⟩
      rw [Connections.addEdges, hport]
      exact hc'

/-- Edges between nodes, the first of which stays the first, are connected as they were. -/
theorem compileConnections_extends {edges edges' : List Edge} (h : edges <+: edges') {first first' : Option String}
    (hfirst : first = first' ∨ first = none ∧ edges = []) {c' : Connections}
    (hc' : compileConnections edges' first' = .ok c') :
    ∃ c, compileConnections edges first = .ok c ∧ c.Extends c' := by
  rcases hfirst with rfl | ⟨rfl, rfl⟩
  · obtain ⟨more, rfl⟩ := h
    obtain ⟨c, hc, hmore⟩ := addEdges_append hc'
    exact ⟨c, hc, extends_addEdges hmore⟩
  · exact ⟨[], rfl, extends_nothing c'⟩

/-! ## Definitions -/

/-- The first of some nodes is the first of more, and where there are none there are no edges. -/
theorem Chain.Extends.first {c c' : Chain} (h : c.Extends c') :
    c.graph.nodes.head?.map Node.id = c'.graph.nodes.head?.map Node.id
      ∨ c.graph.nodes.head?.map Node.id = none ∧ c.graph.edges = [] := by
  obtain ⟨more, hmore⟩ := h.nodes
  cases hnodes : c.graph.nodes with
  | nil =>
      refine .inr ⟨rfl, List.eq_nil_iff_forall_not_mem.mpr fun e he => ?_⟩
      have hjoined := (c.graph.joined e he).1
      rw [hnodes] at hjoined
      cases hjoined
  | cons n rest =>
      rw [hnodes] at hmore
      rw [← hmore]
      exact .inl rfl

/-- What has no reserved id has none at its beginning. -/
theorem Chain.Extends.free {c c' : Chain} (h : c.Extends c') (hfree : ¬ usesReservedId c' = true) :
    ¬ usesReservedId c = true := by
  rw [usesReservedId_iff] at hfree ⊢
  rintro ⟨n, hn, hid⟩
  exact hfree ⟨n, h.nodes.subset hn, hid⟩

/-- **What is appended to a chain leaves what was compiled as it was.** Where the longer chain compiles, the shorter one
    does; its nodes, with their ids, names, parameters and credentials, are the first of the longer definition, and the
    targets of each of its ports are the first of the same port there. Nothing else differs. -/
theorem compileChain_extends {c c' : Chain} (h : c.Extends c') (rewrites : Rewrites) (org : Option String)
    {d' : Definition} (hd' : compileChain (settingFor rewrites org c') c' = .ok d') :
    ∃ d, compileChain (settingFor rewrites org c) c = .ok d ∧ d.Extends d' := by
  have hsetting : settingFor rewrites org c' = settingFor rewrites org c := by rw [settingFor, settingFor, h.org]
  rw [hsetting] at hd'
  have hfree' : ¬ usesReservedId c' = true := by
    intro hreserved
    rw [compileChain_of_reserved hreserved] at hd'
    cases hd'
  obtain ⟨compiled', connections', hnodes', hconnections', rfl⟩ := compileChain_parts hd'
  obtain ⟨compiled, hnodes, hprefix⟩ := compileNodes_extends _ h.nodes hnodes'
  obtain ⟨connections, hconnections, hextends⟩ := compileConnections_extends h.edges h.first hconnections'
  refine ⟨⟨none, c.name, triggerNode :: compiled, connections, some false, [("executionOrder", .str "v1")]⟩, ?_,
    (List.prefix_cons_inj _).mpr hprefix, hextends, ?_⟩
  · rw [compileChain_of_free (h.free hfree')]
    exact bind_eq_ok.mpr ⟨compiled, hnodes, bind_eq_ok.mpr ⟨connections, hconnections, rfl⟩⟩
  · rw [h.name]

/-- A stored chain with nodes of one label, and edges from the first of them. -/
def growingRow (ids : List String) (edges : List (String × String)) : Json :=
  .obj [("id", .str "chain"), ("name", .str "Growing"),
    ("config", .obj [("nodes", .arr (ids.map fun id => labelledPrompt id "Step")),
      ("edges", .arr (edges.map fun e => .obj [("id", .str "e"), ("source", .str "a"), ("target", .str e.1),
        ("sourceHandle", .str e.2)]))])]

/-- A second node of the same label, and a second edge from the same port. -/
theorem compileChain_extends_growing : ∃ c c' d', Chain.read (growingRow ["a"] [("a", "1")]) = .ok c
    ∧ Chain.read (growingRow ["a", "b"] [("a", "1"), ("b", "1")]) = .ok c' ∧ c.Extends c'
    ∧ compileChain (settingFor Rewrites.default none c') c' = .ok d'
    ∧ ∃ d, compileChain (settingFor Rewrites.default none c) c = .ok d ∧ d.Extends d' := by
  refine ⟨_, _, _, rfl, rfl, ?grows, rfl, compileChain_extends ?grows Rewrites.default none rfl⟩
  exact ⟨rfl, rfl, List.prefix_append _ _, List.prefix_append _ _⟩

end PromptGraph
