import Mathlib.Data.List.Nodup
import PromptGraph.Compile.Port
import PromptGraph.Proofs.Checked

/-!
# `Proofs.Compile.Connections` — what an edge adds to the connections

An edge adds one target to one port of one source. A new source comes last, and every other source keeps its ports. What
each edge of a graph keeps, all of them keep.

## Contents
- **Targets.** `Connections.targets`; `mem_targets_add`.
- **Sources.** `Connections.sources`; `sources_add`, `nodup_sources_add`, `lookup_add_of_ne`.
- **Edges.** `addEdges_induction`; `Knit`, what the edges of a graph keep, with `knit_add` for one edge and
  `knit_compileConnections` for all.
-/

namespace PromptGraph

variable {source k : String} {port : Nat} {target t : Target} {ports : Ports} {c : Connections}

/-! ## Targets -/

namespace Connections

/-- The targets on all ports of all sources. -/
def targets (c : Connections) : List Target := c.flatMap fun entry => entry.2.flatten

/-- The sources, in order. -/
def sources (c : Connections) : List String := c.map Prod.fst

end Connections

theorem mem_flatten_add (target : Target) (port : Nat) (ports : Ports) :
    t ∈ (Ports.add target port ports).flatten ↔ t = target ∨ t ∈ ports.flatten := by
  induction port generalizing ports with
  | zero =>
      cases ports with
      | nil => simp [Ports.add]
      | cons first rest =>
          simp only [Ports.add, List.flatten_cons, List.mem_append, List.mem_singleton]
          tauto
  | succ port ih =>
      cases ports with
      | nil => simp [Ports.add, ih]
      | cons first rest =>
          simp only [Ports.add, List.flatten_cons, List.mem_append, ih]
          tauto

theorem mem_targets_add (source : String) (port : Nat) (target : Target) (c : Connections) :
    t ∈ (c.add source port target).targets ↔ t = target ∨ t ∈ c.targets := by
  induction c with
  | nil =>
      have hport := mem_flatten_add (t := t) target port []
      simpa [Connections.add, Connections.targets] using hport
  | cons entry rest ih =>
      obtain ⟨s, ports⟩ := entry
      simp only [Connections.targets] at ih ⊢
      by_cases hs : s = source
      · simp only [Connections.add, if_pos hs, List.flatMap_cons, List.mem_append, mem_flatten_add]
        tauto
      · simp only [Connections.add, if_neg hs, List.flatMap_cons, List.mem_append, ih]
        tauto

/-! ## Sources -/

@[simp] theorem sources_cons (s : String) (ports : Ports) (rest : Connections) :
    Connections.sources ((s, ports) :: rest) = s :: rest.sources := rfl

/-- A source that is known stays in its place, and a new one comes last. -/
theorem sources_add (source : String) (port : Nat) (target : Target) (c : Connections) :
    (c.add source port target).sources = if source ∈ c.sources then c.sources else c.sources ++ [source] := by
  induction c with
  | nil => simp [Connections.add, Connections.sources]
  | cons entry rest ih =>
      obtain ⟨s, ports⟩ := entry
      by_cases hs : s = source
      · simp [Connections.add, hs]
      · have hne : ¬ source = s := fun heq => hs heq.symm
        rw [Connections.add, if_neg hs, sources_cons, sources_cons, ih]
        by_cases hmem : source ∈ Connections.sources rest
        · simp [hmem]
        · simp [hmem, hne]

theorem mem_sources_add (source : String) (port : Nat) (target : Target) (c : Connections) :
    k ∈ (c.add source port target).sources ↔ k = source ∨ k ∈ c.sources := by
  rw [sources_add]
  by_cases hs : source ∈ c.sources
  · rw [if_pos hs]
    constructor
    · intro hk
      exact Or.inr hk
    · rintro (rfl | hk)
      · exact hs
      · exact hk
  · rw [if_neg hs, List.mem_append, List.mem_singleton, or_comm]

theorem nodup_sources_add (h : c.sources.Nodup) (source : String) (port : Nat) (target : Target) :
    (c.add source port target).sources.Nodup := by
  rw [sources_add]
  by_cases hs : source ∈ c.sources
  · rw [if_pos hs]
    exact h
  · rw [if_neg hs]
    exact List.nodup_append.mpr ⟨h, List.nodup_singleton source, by
      intro a ha b hb hab
      rw [List.mem_singleton] at hb
      exact hs (hb ▸ hab ▸ ha)⟩

/-- Every other source keeps its ports. -/
theorem lookup_add_of_ne (h : source ≠ k) (port : Nat) (target : Target) (c : Connections) :
    (c.add source port target).lookup k = c.lookup k := by
  have hk : (k == source) = false := beq_false_of_ne fun heq => h heq.symm
  induction c with
  | nil => simp [Connections.add, List.lookup_cons, hk]
  | cons entry rest ih =>
      obtain ⟨s, ports⟩ := entry
      by_cases hs : s = source
      · rw [Connections.add, if_pos hs, List.lookup_cons, List.lookup_cons, hs, hk]
      · rw [Connections.add, if_neg hs, List.lookup_cons, List.lookup_cons, ih]

/-! ## Edges -/

/-- **What each edge keeps, all of them keep**, by induction on the edges. -/
theorem addEdges_induction {P : Connections → Prop} {edges : List Edge} {c' : Connections}
    (h : Connections.addEdges edges c = .ok c') (hc : P c)
    (hstep : ∀ e ∈ edges, ∀ port c, P c → P (c.add e.source port (.main e.target))) : P c' := by
  induction edges generalizing c with
  | nil =>
      cases h
      exact hc
  | cons e rest ih =>
      obtain ⟨port, -, hrest⟩ := bind_eq_ok.mp h
      have hfirst : P (c.add e.source port (.main e.target)) := hstep e List.mem_cons_self port c hc
      exact ih hrest hfirst fun e' he' => hstep e' (List.mem_cons_of_mem e he')

/-- What holds of connections while edges between the given nodes are added: the trigger goes on feeding the node that
    it fed, and beside it there are only these nodes. -/
structure Knit (ids : List String) (fed : Option String) (c : Connections) : Prop where
  distinct : c.sources.Nodup
  sources : ∀ id ∈ c.sources, id = triggerId ∨ id ∈ ids
  targets : ∀ t ∈ c.targets, t.node ∈ ids
  trigger : c.lookup triggerId = fed.map fun id => [[.main id]]

variable {ids : List String} {fed : Option String}

theorem knit_add (h : Knit ids fed c) (hfree : triggerId ∉ ids) {e : Edge} (he : e.Joins ids) (port : Nat) :
    Knit ids fed (c.add e.source port (.main e.target)) := by
  have hsource : e.source ≠ triggerId := fun heq => hfree (heq ▸ he.1)
  constructor
  case distinct => exact nodup_sources_add h.distinct e.source port (.main e.target)
  case sources =>
    intro id hid
    rcases (mem_sources_add e.source port (.main e.target) c).mp hid with rfl | hid
    · exact Or.inr he.1
    · exact h.sources id hid
  case targets =>
    intro t ht
    rcases (mem_targets_add e.source port (.main e.target) c).mp ht with rfl | ht
    · exact he.2
    · exact h.targets t ht
  case trigger => rw [lookup_add_of_ne hsource, h.trigger]

theorem knit_nothing (ids : List String) : Knit ids none [] := by
  constructor <;> simp [Connections.sources, Connections.targets]

/-- To begin with, the trigger feeds its node and there is nothing else. -/
theorem knit_trigger {id : String} (hid : id ∈ ids) : Knit ids (some id) [(triggerId, [[.main id]])] := by
  constructor <;> simp [Connections.sources, Connections.targets, Target.main, hid]

/-- **The edges between nodes connect these nodes, and leave the trigger as it was.** -/
theorem knit_compileConnections {edges : List Edge} (h : compileConnections edges fed = .ok c)
    (hfree : triggerId ∉ ids) (hedges : ∀ e ∈ edges, e.Joins ids) (hfed : ∀ id ∈ fed, id ∈ ids) : Knit ids fed c := by
  have hstep : ∀ e ∈ edges, ∀ port c, Knit ids fed c → Knit ids fed (c.add e.source port (.main e.target)) := by
    intro e he port c hc
    exact knit_add hc hfree (hedges e he) port
  cases fed with
  | none => exact addEdges_induction h (knit_nothing ids) hstep
  | some id => exact addEdges_induction h (knit_trigger (hfed id rfl)) hstep

end PromptGraph
