import Mathlib.Data.List.Nodup
import PromptGraph.Chain.Reading
import PromptGraph.Compile.Workflow
import PromptGraph.Proofs.Checked

/-!
# `Proofs.Compile.DisplayNames` — when the nodes of a definition have distinct names

A node whose title is taken is named by its title and its id. That name is not looked up among the names in use, so
the names of a definition are distinct only as long as it is free: `compileChain_names_nodup_iff` says exactly when.

## Contents
- **Names of a definition.** `compileChain_names`: the trigger's name, then the display names in order.
- **Distinctness.** `SuffixTaken`, and `displayNames_nodup_iff` over an arbitrary set of names in use.
- **The clash.** `lookalikeRow`: three nodes, the last two of one name.
-/

namespace PromptGraph

/-! ## Names of a definition -/

/-- The title of a node with its id. -/
def suffixedTitle (n : Node) : String := n.title ++ " (" ++ n.id ++ ")"

theorem displayName_of_taken {used : List String} {n : Node} (h : n.title ∈ used) :
    displayName used n = suffixedTitle n := by
  simp [displayName, suffixedTitle, h]

theorem displayName_of_free {used : List String} {n : Node} (h : n.title ∉ used) :
    displayName used n = n.title := by
  simp [displayName, h]

theorem suffixedTitle_ne_empty (n : Node) : suffixedTitle n ≠ "" := by
  intro h
  have hlen : (suffixedTitle n).length = 0 := by rw [h]; rfl
  simp only [suffixedTitle, String.length_append] at hlen
  have hone : (")" : String).length = 1 := rfl
  omega

/-- A display name is compiled as it is: an empty one is an empty title. -/
theorem effectiveName_displayName (used : List String) (n : Node) :
    effectiveName (displayName used n) n = displayName used n := by
  unfold effectiveName
  by_cases hn : displayName used n = ""
  · rw [if_pos hn]
    by_cases ht : n.title ∈ used
    · rw [displayName_of_taken ht] at hn
      exact absurd hn (suffixedTitle_ne_empty n)
    · exact (displayName_of_free ht).symm
  · rw [if_neg hn]

theorem compileNode_name {s : CompileSetting} {name : String} {n : Node} {e : EngineNode}
    (h : compileNode s name n = .ok e) : e.name = name := by
  obtain ⟨action, -, he⟩ := bind_eq_ok.mp h
  rw [← Except.ok.inj he]

theorem compileNodes_cons {s : CompileSetting} {n : Node} {name : String} {rest : List (Node × String)}
    {es : List EngineNode} (h : compileNodes s ((n, name) :: rest) = .ok es) :
    ∃ e more, compileNode s (effectiveName name n) n = .ok e ∧ compileNodes s rest = .ok more
      ∧ es = e :: more := by
  obtain ⟨e, he, h⟩ := bind_eq_ok.mp h
  obtain ⟨more, hm, h⟩ := bind_eq_ok.mp h
  exact ⟨e, more, he, hm, (Except.ok.inj h).symm⟩

/-- The nodes compiled under their display names have just these names. -/
theorem compileNodes_names {s : CompileSetting} (used : List String) {nodes : List Node} {es : List EngineNode}
    (h : compileNodes s (nodes.zip (displayNames used nodes)) = .ok es) :
    es.map EngineNode.name = displayNames used nodes := by
  induction nodes generalizing used es with
  | nil => exact Except.ok.inj h ▸ rfl
  | cons n rest ih =>
      simp only [displayNames, List.zip_cons_cons] at h ⊢
      obtain ⟨e, more, he, hm, rfl⟩ := compileNodes_cons h
      have hname : e.name = displayName used n := by
        rw [compileNode_name he, effectiveName_displayName]
      rw [List.map_cons, hname, ih (displayName used n :: used) hm]

/-- What a chain's compilation consists of when it succeeds. -/
theorem compileChain_parts {s : CompileSetting} {c : Chain} {d : Definition} (h : compileChain s c = .ok d) :
    ∃ compiled connections,
      compileNodes s (c.graph.nodes.zip (displayNames [triggerName] c.graph.nodes)) = .ok compiled
      ∧ compileConnections c.graph.edges (c.graph.nodes.head?.map Node.id) = .ok connections
      ∧ d = ⟨none, c.name, triggerNode :: compiled, connections, some false, [("executionOrder", .str "v1")]⟩ := by
  unfold compileChain at h
  by_cases hr : usesReservedId c = true
  · rw [if_pos hr] at h
    cases h
  · rw [if_neg hr] at h
    obtain ⟨compiled, hn, h⟩ := bind_eq_ok.mp h
    obtain ⟨connections, hc, h⟩ := bind_eq_ok.mp h
    exact ⟨compiled, connections, hn, hc, (Except.ok.inj h).symm⟩

/-- A definition names its trigger first, and then each authored node by its display name. -/
theorem compileChain_names {s : CompileSetting} {c : Chain} {d : Definition} (h : compileChain s c = .ok d) :
    d.nodes.map EngineNode.name = triggerName :: displayNames [triggerName] c.graph.nodes := by
  obtain ⟨compiled, connections, hn, _, rfl⟩ := compileChain_parts h
  rw [List.map_cons, compileNodes_names _ hn]
  rfl

/-! ## Distinctness -/

/-- A display name is in use exactly when the title and the title with the id both are. -/
theorem displayName_mem_iff (used : List String) (n : Node) :
    displayName used n ∈ used ↔ n.title ∈ used ∧ suffixedTitle n ∈ used := by
  by_cases h : n.title ∈ used
  · rw [displayName_of_taken h]
    exact ⟨fun hs => ⟨h, hs⟩, fun hs => hs.2⟩
  · rw [displayName_of_free h]
    exact ⟨fun ht => absurd ht h, fun ht => absurd ht.1 h⟩

/-- The name of some node is not free although it was chosen because the title is not: of the nodes in order, one has
    a title and a title with its id that are both among the names in use when its turn comes. -/
def SuffixTaken (used : List String) (nodes : List Node) : Prop :=
  ∃ before n after, nodes = before ++ n :: after
    ∧ n.title ∈ used ++ displayNames used before ∧ suffixedTitle n ∈ used ++ displayNames used before

theorem suffixTaken_cons (used : List String) (n : Node) (rest : List Node) :
    SuffixTaken used (n :: rest) ↔
      displayName used n ∈ used ∨ SuffixTaken (displayName used n :: used) rest := by
  -- the name of `n` moves from the names given to the names in use
  have hperm : ∀ (ns : List Node) x, x ∈ used ++ displayNames used (n :: ns)
      ↔ x ∈ (displayName used n :: used) ++ displayNames (displayName used n :: used) ns := by
    intro ns x
    simp only [displayNames, List.mem_append, List.mem_cons]
    tauto
  constructor
  · rintro ⟨before, m, after, hsplit, ht, hs⟩
    cases before with
    | nil =>
        obtain ⟨rfl, rfl⟩ := List.cons.inj hsplit
        simp only [displayNames, List.append_nil] at ht hs
        exact Or.inl ((displayName_mem_iff used n).mpr ⟨ht, hs⟩)
    | cons b bs =>
        obtain ⟨rfl, rfl⟩ := List.cons.inj hsplit
        exact Or.inr ⟨bs, m, after, rfl, (hperm bs _).mp ht, (hperm bs _).mp hs⟩
  · rintro (h | ⟨before, m, after, rfl, ht, hs⟩)
    · obtain ⟨ht, hs⟩ := (displayName_mem_iff used n).mp h
      exact ⟨[], n, rest, rfl, by simpa [displayNames] using ht, by simpa [displayNames] using hs⟩
    · exact ⟨n :: before, m, after, rfl, (hperm before _).mpr ht, (hperm before _).mpr hs⟩

/-- **Distinct names in use stay distinct exactly as long as no suffixed title is taken.** Each node is looked at
    once; the names in use when its turn comes are those given before it. -/
theorem displayNames_nodup_iff {used : List String} (hused : used.Nodup) (nodes : List Node) :
    (used ++ displayNames used nodes).Nodup ↔ ¬ SuffixTaken used nodes := by
  induction nodes generalizing used with
  | nil =>
      have hnone : ¬ SuffixTaken used [] := by
        rintro ⟨before, m, after, hsplit, -⟩
        exact absurd hsplit (by simp)
      simp only [displayNames, List.append_nil]
      exact ⟨fun _ => hnone, fun _ => hused⟩
  | cons n rest ih =>
      rw [suffixTaken_cons, not_or]
      by_cases h : displayName used n ∈ used
      · -- the name is taken already
        have hdup : ¬ (used ++ displayNames used (n :: rest)).Nodup := by
          intro hnd
          exact (List.nodup_append.mp hnd).2.2 _ h _ List.mem_cons_self rfl
        exact ⟨fun hnd => absurd hnd hdup, fun hc => absurd h hc.1⟩
      · -- the name is new, and in use for the rest
        have hmiddle : (used ++ displayNames used (n :: rest)).Nodup ↔
            ((displayName used n :: used) ++ displayNames (displayName used n :: used) rest).Nodup := by
          simp only [displayNames, List.cons_append]
          exact List.nodup_middle
        rw [hmiddle, ih (List.nodup_cons.mpr ⟨h, hused⟩)]
        exact ⟨fun hc => ⟨h, hc⟩, fun hc => hc.2⟩

/-- **The names of a definition are distinct exactly when no suffixed title is taken.** Absent, empty and repeated
    labels, and labels that repeat the trigger's name, do no harm by themselves. -/
theorem compileChain_names_nodup_iff {s : CompileSetting} {c : Chain} {d : Definition}
    (h : compileChain s c = .ok d) :
    (d.nodes.map EngineNode.name).Nodup ↔ ¬ SuffixTaken [triggerName] c.graph.nodes := by
  rw [compileChain_names h]
  exact displayNames_nodup_iff (List.nodup_singleton triggerName) c.graph.nodes

/-! ## The clash -/

/-- A stored prompt of the given id and label. -/
def labelledPrompt (id label : String) : Json :=
  .obj [("id", .str id), ("type", .str "prompt"), ("data", .obj [("label", .str label)])]

/-- A stored chain without edges. -/
def lookalikeRow : Json :=
  .obj [("id", .str "chain"), ("name", .str "Lookalikes"),
    ("config", .obj [("nodes", .arr
      [labelledPrompt "a" "Step", labelledPrompt "b" "Step (c)", labelledPrompt "c" "Step"])])]

/-- The second node is labelled as the third is named when its own label is taken. -/
theorem lookalikeRow_shares_name : ∃ c d, Chain.read lookalikeRow = .ok c ∧ usesReservedId c = false
    ∧ compileChain ⟨Rewrites.default, none⟩ c = .ok d ∧ ¬ (d.nodes.map EngineNode.name).Nodup := by
  refine ⟨_, _, rfl, rfl, rfl, ?_⟩
  decide

theorem compileChain_names_nodup_iff_lookalikeRow : ∃ c d, Chain.read lookalikeRow = .ok c
    ∧ compileChain ⟨Rewrites.default, none⟩ c = .ok d
    ∧ ((d.nodes.map EngineNode.name).Nodup ↔ ¬ SuffixTaken [triggerName] c.graph.nodes) :=
  ⟨_, _, rfl, rfl, compileChain_names_nodup_iff rfl⟩

end PromptGraph
