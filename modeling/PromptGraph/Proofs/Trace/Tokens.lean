import Mathlib.Algebra.BigOperators.Group.List.Basic
import Mathlib.Data.List.Perm.Basic
import PromptGraph.Proofs.Trace.Measured

/-!
# `Proofs.Trace.Tokens` — the tokens of an execution add up

The tokens of an execution are a sum over its nodes, their attempts, the ports of each and the items on each. Each level
is a list that is taken apart in turn, so the sum depends on no order, nothing is added by what is malformed, and the
parts of a trace have the tokens of the whole.

## Contents
- **Sums.** `portTokens`, `runTokens`, `executionTokens`; `sum_allItems`.
- **Order.** `Shuffled`; `SamePort`, `SameRun`, `SameNode`; `perm_allItems`.
- **Malformed parts.** `wellFormed`; `allItems_of_wellFormed`.
- **Executions.** `tokens_of_extractMetrics`; `TokensAddUp`, `tokens_add_up`.
-/

namespace PromptGraph

open Json

variable {α β γ : Type}

/-! ## Sums -/

/-- The tokens of the items on a port; a port that is no list has none, and so has an item without a payload. -/
def portTokens : Json → Int
  | .arr items => (items.map fun item => ((NodeRun.payload? item).map itemTokens).getD 0).sum
  | _ => 0

/-- The tokens of an attempt; an output that is no list of ports has none. -/
def runTokens (r : NodeRun) : Int :=
  match Members.get? "main" r.data with
  | some (.arr ports) => (ports.map portTokens).sum
  | _ => 0

/-- The tokens of all nodes and all their attempts. -/
def executionTokens (e : EngineExecution) : Int := (e.runs.map fun node => (node.2.map runTokens).sum).sum

theorem sum_map_flatMap (f : α → List β) (g : β → Int) (xs : List α) :
    ((xs.flatMap f).map g).sum = (xs.map fun x => ((f x).map g).sum).sum := by
  induction xs with
  | nil => rfl
  | cons x xs ih => rw [List.flatMap_cons, List.map_append, List.sum_append, ih, List.map_cons, List.sum_cons]

theorem sum_map_filterMap (f : α → Option β) (g : β → Int) (xs : List α) :
    ((xs.filterMap f).map g).sum = (xs.map fun x => ((f x).map g).getD 0).sum := by
  induction xs with
  | nil => rfl
  | cons x xs ih =>
      rw [List.map_cons, List.sum_cons, ← ih, List.filterMap_cons]
      cases f x with
      | none => exact (Int.zero_add _).symm
      | some y => rfl

theorem sum_items (r : NodeRun) : (r.items.map itemTokens).sum = runTokens r := by
  have hport (port : Json) :
      (((port.asArray?.getD []).filterMap NodeRun.payload?).map itemTokens).sum = portTokens port := by
    cases port with
    | arr items => exact sum_map_filterMap NodeRun.payload? itemTokens items
    | _ => rfl
  rw [NodeRun.items, sum_map_flatMap]
  simp only [hport]
  unfold NodeRun.ports runTokens
  cases Members.get? "main" r.data with
  | none => rfl
  | some main => cases main <;> rfl

/-- **The tokens of all items are the sums over the nodes, their attempts, the ports and the items.** -/
theorem sum_allItems (e : EngineExecution) : ((allItems e).map itemTokens).sum = executionTokens e := by
  rw [allItems, sum_map_flatMap, executionTokens]
  simp only [sum_map_flatMap, sum_items]

/-! ## Order -/

/-- Lists with the same items in any order, up to a relation of the items. -/
def Shuffled (R : α → β → Prop) (xs : List α) (ys : List β) : Prop := ∃ zs, xs.Perm zs ∧ List.Forall₂ R zs ys

theorem Shuffled.flatMap {R : α → β → Prop} {f : α → List γ} {g : β → List γ} (hR : ∀ {x y}, R x y → (f x).Perm (g y))
    {xs : List α} {ys : List β} (h : Shuffled R xs ys) : (xs.flatMap f).Perm (ys.flatMap g) := by
  obtain ⟨zs, hperm, hall⟩ := h
  refine (hperm.flatMap_right f).trans (List.Perm.flatten_congr ?_)
  rw [List.forall₂_map_left_iff, List.forall₂_map_right_iff]
  exact hall.imp fun _ _ => hR

/-- Ports with the same items in any order. -/
inductive SamePort : Json → Json → Prop where
  | same (port : Json) : SamePort port port
  | reordered {items items' : List Json} (h : items.Perm items') : SamePort (.arr items) (.arr items')

/-- Attempts with the same ports in any order. -/
def SameRun (r r' : NodeRun) : Prop := Shuffled SamePort r.ports r'.ports

/-- Nodes of one name with the same attempts in any order. -/
def SameNode (node node' : String × List NodeRun) : Prop := node.1 = node'.1 ∧ Shuffled SameRun node.2 node'.2

theorem SameRun.perm_items {r r' : NodeRun} (h : SameRun r r') : r.items.Perm r'.items := by
  refine h.flatMap fun hport => ?_
  cases hport with
  | same port => exact .refl _
  | reordered hitems => exact hitems.filterMap NodeRun.payload?

theorem perm_allItems {e e' : EngineExecution} (h : Shuffled SameNode e.runs e'.runs) :
    (allItems e).Perm (allItems e') :=
  h.flatMap fun hnode => hnode.2.flatMap fun hrun => hrun.perm_items

/-! ## Malformed parts -/

/-- A port without its malformed items; one that is no list is malformed itself. -/
def wellFormedPort? (port : Json) : Option (List Json) :=
  port.asArray?.map fun items => items.filter fun item => (NodeRun.payload? item).isSome

/-- What is well-formed in the run data. -/
def wellFormed (e : EngineExecution) : List (List (List (List Json))) :=
  e.runs.map fun node => node.2.map fun r => r.ports.filterMap wellFormedPort?

theorem items_eq_of_wellFormed (r : NodeRun) :
    r.items = (r.ports.filterMap wellFormedPort?).flatMap fun items => items.filterMap NodeRun.payload? := by
  have hitems (items : List Json) : (items.filter fun item => (NodeRun.payload? item).isSome).filterMap NodeRun.payload?
      = items.filterMap NodeRun.payload? := by
    rw [List.filterMap_filter]
    refine List.filterMap_congr fun item _ => ?_
    cases NodeRun.payload? item <;> rfl
  rw [NodeRun.items]
  induction r.ports with
  | nil => rfl
  | cons port ports ih =>
      rw [List.flatMap_cons, ih, List.filterMap_cons]
      cases port with
      | arr items => exact congrArg (· ++ _) (hitems items).symm
      | _ => rfl

/-- The items of an execution are those of its well-formed parts. -/
theorem allItems_of_wellFormed {e e' : EngineExecution} (h : wellFormed e = wellFormed e') :
    allItems e = allItems e' := by
  have hflat (e : EngineExecution) : allItems e = (wellFormed e).flatMap fun node =>
      node.flatMap fun ports => ports.flatMap fun items => items.filterMap NodeRun.payload? := by
    simp only [allItems, wellFormed, List.flatMap_map, ← items_eq_of_wellFormed]
  rw [hflat e, hflat e', h]

/-! ## Executions -/

theorem tokens_of_extractMetrics {e : EngineExecution} {rate : Number} {now : Timestamp} {m : Metrics}
    (h : extractMetrics e rate now = .ok m) :
    (∀ item ∈ allItems e, Measurable rate item) ∧ m.tokensUsed = ((allItems e).map itemTokens).sum := by
  have hyields := yields_extractMetrics e rate now
  have hmeasurable := hyields.ok_iff.mp ⟨m, h⟩
  obtain ⟨m', hm', hsum⟩ := hyields.ok hmeasurable
  obtain rfl : m = m' := Except.ok.inj (h.symm.trans hm')
  exact ⟨hmeasurable, hsum⟩

/-- The tokens of an execution that was measured add up. -/
structure TokensAddUp (e : EngineExecution) (rate : Number) (m : Metrics) : Prop where
  /-- The tokens are the sum over the nodes, the trigger among them, their attempts, the ports and the items. -/
  sum : m.tokensUsed = executionTokens e
  /-- Nodes, attempts, ports and items may come in any order. -/
  reordered : ∀ e' now, Shuffled SameNode e.runs e'.runs →
    ∃ m', extractMetrics e' rate now = .ok m' ∧ m'.tokensUsed = m.tokensUsed
  /-- Ports and items that are malformed may come and go. -/
  wellFormed : ∀ e' now, wellFormed e = wellFormed e' →
    ∃ m', extractMetrics e' rate now = .ok m' ∧ m'.tokensUsed = m.tokensUsed
  /-- Two parts that share out the nodes have the tokens of the whole. -/
  parts : ∀ e₁ e₂ now₁ now₂, (e₁.runs ++ e₂.runs).Perm e.runs →
    ∃ m₁ m₂, extractMetrics e₁ rate now₁ = .ok m₁ ∧ extractMetrics e₂ rate now₂ = .ok m₂
      ∧ m₁.tokensUsed + m₂.tokensUsed = m.tokensUsed

/-- **The tokens of every execution that can be measured add up.** -/
theorem tokens_add_up {e : EngineExecution} {rate : Number} {now : Timestamp} {m : Metrics}
    (h : extractMetrics e rate now = .ok m) : TokensAddUp e rate m := by
  obtain ⟨hmeasurable, htokens⟩ := tokens_of_extractMetrics h
  have hperm {e' : EngineExecution} (now : Timestamp) (h : (allItems e).Perm (allItems e')) :
      ∃ m', extractMetrics e' rate now = .ok m' ∧ m'.tokensUsed = m.tokensUsed := by
    obtain ⟨m', hm', hsum⟩ := (yields_extractMetrics e' rate now).ok fun item hitem =>
      hmeasurable item (h.mem_iff.mpr hitem)
    exact ⟨m', hm', by rw [hsum, htokens, (h.map itemTokens).sum_eq]⟩
  refine ⟨htokens.trans (sum_allItems e), fun e' now hruns => hperm now (perm_allItems hruns),
    fun e' now hparts => hperm now (.of_eq (allItems_of_wellFormed hparts)), fun e₁ e₂ now₁ now₂ hruns => ?_⟩
  have hitems : (allItems e₁ ++ allItems e₂).Perm (allItems e) := by
    rw [allItems, allItems, ← List.flatMap_append]
    exact hruns.flatMap_right _
  obtain ⟨m₁, hm₁, hsum₁⟩ := (yields_extractMetrics e₁ rate now₁).ok fun item hitem =>
    hmeasurable item (hitems.mem_iff.mp (List.mem_append_left _ hitem))
  obtain ⟨m₂, hm₂, hsum₂⟩ := (yields_extractMetrics e₂ rate now₂).ok fun item hitem =>
    hmeasurable item (hitems.mem_iff.mp (List.mem_append_right _ hitem))
  refine ⟨m₁, m₂, hm₁, hm₂, ?_⟩
  rw [htokens, hsum₁, hsum₂, ← (hitems.map itemTokens).sum_eq, List.map_append, List.sum_append]

/-- An attempt with the given ports. -/
def attemptWith (ports : List Json) : NodeRun := ⟨none, none, none, [("main", .arr ports)], none⟩

/-- An item with a usage and metrics of its own. -/
def itemWith (usage metrics : Members) : Json :=
  .obj [("json", .obj [("usage", .obj usage), ("metrics", .obj metrics)])]

/-- An execution with tokens of the trigger, of two attempts of a node, and with a malformed port and item. -/
def mixedExecution : EngineExecution :=
  ⟨"1", true, none, some "success", none, none, none,
    some [("Manual Trigger", [attemptWith [.arr [itemWith [] [("tokens", .float (.ofRatio false 29 10))]]]]),
      ("Ask", [attemptWith [.arr [itemWith [("total_tokens", .int 10), ("input_tokens", .int 4)] []]],
        attemptWith [.null, .arr [.str "note", itemWith [("input_tokens", .int 3), ("output_tokens", .int 4)]
          [("tokens", .bool true)]]]])],
    none⟩

theorem tokens_add_up_mixed : ∃ m, extractMetrics mixedExecution (.int 1) ⟨0, none⟩ = .ok m ∧ m.tokensUsed = 19
    ∧ TokensAddUp mixedExecution (.int 1) m :=
  ⟨_, rfl, rfl, tokens_add_up rfl⟩

end PromptGraph
