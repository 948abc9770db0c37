import Mathlib.Data.List.Perm.Basic
import PromptGraph.Trace.Metrics
import PromptGraph.Trace.Output

/-!
# `Proofs.Trace.Latest` — the output is that of the only node that starts last

Candidates are sorted by their start, so the first two tell whether the latest start is shared: all others started no
later than the second. Which candidate is alone at the front does not depend on the order in which they came.

## Contents
- **Alone at the front.** `first?`; `first?_eq_some_iff`.
- **Candidates.** `candidate?`, `StartsAt`; `candidate?_eq_some_iff`, `perm_candidates`.
- **Items.** `head?_items`, `mem_allItems`.
- **Outputs.** `IsOutputRun`; `logical_output`.
-/

namespace PromptGraph

/-! ## Alone at the front -/

/-- The candidate of the latest start, if no other shares it. -/
def first? (cs : List Candidate) : Option Candidate :=
  match byStart cs with
  | [] => none
  | [c] => some c
  | c :: d :: _ => if c.start = d.start then none else some c

theorem extractOutput_eq (e : EngineExecution) :
    extractOutput e = (first? (candidates e)).bind fun c => lastItem? c.runs := by
  unfold extractOutput first?
  rcases byStart (candidates e) with - | ⟨c, - | ⟨d, rest⟩⟩
  · rfl
  · rfl
  · dsimp only
    split <;> rfl

theorem perm_byStart (cs : List Candidate) : (byStart cs).Perm cs := List.mergeSort_perm cs _

theorem pairwise_byStart (cs : List Candidate) : (byStart cs).Pairwise fun a b => b.start ≤ a.start := by
  refine (List.pairwise_mergeSort ?_ ?_ cs).imp fun h => of_decide_eq_true h
  · intro a b c hab hbc
    exact decide_eq_true (Int.le_trans (of_decide_eq_true hbc) (of_decide_eq_true hab))
  · intro a b
    rcases Int.le_total b.start a.start with h | h
    · simp [h]
    · simp [h]

/-- **A candidate is alone at the front exactly when every other one started before it.** -/
theorem first?_eq_some_iff {cs : List Candidate} {c : Candidate} :
    first? cs = some c ↔ ∃ others, cs.Perm (c :: others) ∧ ∀ d ∈ others, d.start < c.start := by
  have hperm := perm_byStart cs
  have hsorted := pairwise_byStart cs
  unfold first?
  constructor
  · intro h
    split at h
    next => cases h
    next hall =>
      cases h
      rw [hall] at hperm
      exact ⟨[], hperm.symm, List.forall_mem_nil _⟩
    next c' d rest hall =>
      split at h
      · cases h
      next hne =>
        cases h
        rw [hall] at hperm hsorted
        obtain ⟨hfirst, hrest⟩ := List.pairwise_cons.mp hsorted
        have hle : d.start ≤ c.start := hfirst d List.mem_cons_self
        refine ⟨d :: rest, hperm.symm, List.forall_mem_cons.mpr ⟨by omega, fun x hx => ?_⟩⟩
        have hbehind : x.start ≤ d.start := (List.pairwise_cons.mp hrest).1 x hx
        omega
  · rintro ⟨others, hcs, hothers⟩
    have hall := hperm.trans hcs
    cases hfront : byStart cs with
    | nil =>
        rw [hfront] at hall
        cases hall.length_eq
    | cons x rest =>
        rw [hfront] at hall hsorted
        -- the candidate is not behind the front, where none has a later start
        have hx : x = c := by
          rcases List.mem_cons.mp (hall.mem_iff.mpr List.mem_cons_self) with hc | hc
          · exact hc.symm
          · have hle := (List.pairwise_cons.mp hsorted).1 c hc
            rcases List.mem_cons.mp (hall.mem_iff.mp List.mem_cons_self) with hx | hx
            · exact hx
            · exact absurd (hothers x hx) (Int.not_lt.mpr hle)
        subst hx
        have hrest := hall.cons_inv
        cases rest with
        | nil => rfl
        | cons d rest =>
            have hlt := hothers d (hrest.mem_iff.mp List.mem_cons_self)
            exact if_neg (Int.ne_of_gt hlt)

theorem first?_congr {cs ds : List Candidate} (h : cs.Perm ds) : first? cs = first? ds := by
  refine Option.ext fun c => ?_
  rw [first?_eq_some_iff, first?_eq_some_iff]
  exact exists_congr fun others => and_congr_left' ⟨fun hcs => h.symm.trans hcs, fun hds => h.trans hds⟩

/-! ## Candidates -/

/-- A node with its attempts as a candidate, if it is one. -/
def candidate? (node : String × List NodeRun) : Option Candidate :=
  if node.1 = triggerName then none else (latestStart? node.2).map fun start => ⟨start, node.1, node.2⟩

/-- A node other than the trigger whose attempts start at a time at the latest; attempts without a start do not
    count. -/
structure StartsAt (node : String × List NodeRun) (start : Int) : Prop where
  other : node.1 ≠ "Manual Trigger"
  attained : ∃ run ∈ node.2, run.startTime = some start
  latest : ∀ run ∈ node.2, ∀ t, run.startTime = some t → t ≤ start

theorem latestStart?_eq_some_iff {runs : List NodeRun} {start : Int} : latestStart? runs = some start
    ↔ (∃ run ∈ runs, run.startTime = some start) ∧ ∀ run ∈ runs, ∀ t, run.startTime = some t → t ≤ start := by
  rw [latestStart?, List.max?_eq_some_iff]
  simp only [List.mem_filterMap]
  refine and_congr_right' ⟨fun h run hrun t ht => h t ⟨run, hrun, ht⟩, ?_⟩
  rintro h t ⟨run, hrun, ht⟩
  exact h run hrun t ht

theorem candidate?_eq_some_iff {node : String × List NodeRun} {c : Candidate} :
    candidate? node = some c ↔ StartsAt node c.start ∧ c = ⟨c.start, node.1, node.2⟩ := by
  unfold candidate?
  constructor
  · intro h
    split at h
    · cases h
    next hname =>
      obtain ⟨start, hstart, rfl⟩ := Option.map_eq_some_iff.mp h
      obtain ⟨hattained, hlatest⟩ := latestStart?_eq_some_iff.mp hstart
      exact ⟨⟨hname, hattained, hlatest⟩, rfl⟩
  · rintro ⟨⟨hname, hattained, hlatest⟩, hc⟩
    have hother : ¬ node.1 = triggerName := hname
    rw [if_neg hother, latestStart?_eq_some_iff.mpr ⟨hattained, hlatest⟩, hc]
    rfl

theorem exists_candidate {node : String × List NodeRun} {start : Int} (h : StartsAt node start) :
    candidate? node = some ⟨start, node.1, node.2⟩ := candidate?_eq_some_iff.mpr ⟨h, rfl⟩

/-- The candidates of an execution, of which one node is one. -/
theorem perm_candidates {e : EngineExecution} {node : String × List NodeRun} {others : RunData} {c : Candidate}
    (hruns : e.runs.Perm (node :: others)) (hc : candidate? node = some c) :
    (candidates e).Perm (c :: others.filterMap candidate?) := by
  have hall := hruns.filterMap candidate?
  rw [List.filterMap_cons_some hc] at hall
  exact hall

/-- A candidate is alone at the front exactly when every other node that starts did so before it. -/
theorem first?_candidates {e : EngineExecution} {c : Candidate} : first? (candidates e) = some c
    ↔ ∃ node others, e.runs.Perm (node :: others) ∧ candidate? node = some c
      ∧ ∀ other ∈ others, ∀ t, StartsAt other t → t < c.start := by
  rw [first?_eq_some_iff]
  constructor
  · rintro ⟨behind, hperm, hbehind⟩
    obtain ⟨node, hnode, hc⟩ := List.mem_filterMap.mp (hperm.mem_iff.mpr List.mem_cons_self)
    obtain ⟨before, after, hruns⟩ := List.append_of_mem hnode
    have hsplit : e.runs.Perm (node :: (before ++ after)) := hruns ▸ List.perm_middle
    have hrest := (hperm.symm.trans (perm_candidates hsplit hc)).cons_inv
    refine ⟨node, before ++ after, hsplit, hc, fun other hother t ht => ?_⟩
    have hmem := List.mem_filterMap.mpr ⟨other, hother, exists_candidate ht⟩
    exact hbehind _ (hrest.mem_iff.mpr hmem)
  · rintro ⟨node, others, hruns, hc, hothers⟩
    refine ⟨_, perm_candidates hruns hc, fun d hd => ?_⟩
    obtain ⟨other, hother, hd⟩ := List.mem_filterMap.mp hd
    exact hothers other hother d.start (candidate?_eq_some_iff.mp hd).1

/-! ## Items -/

/-- The first item is the first of the items, if it is one. -/
theorem head?_items {run : NodeRun} {payload : Members} (h : run.firstItem? = some payload) :
    run.items.head? = some payload := by
  unfold NodeRun.firstItem? at h
  unfold NodeRun.items
  split at h
  next item rest more hports =>
    rw [hports, List.flatMap_cons]
    show ((List.filterMap NodeRun.payload? (item :: rest)) ++ _).head? = _
    rw [List.filterMap_cons_some h, List.cons_append, List.head?_cons]
  · cases h

theorem mem_allItems {e : EngineExecution} {node : String × List NodeRun} {run : NodeRun} {payload : Members}
    (hnode : node ∈ e.runs) (hrun : run ∈ node.2) (hpayload : payload ∈ run.items) : payload ∈ allItems e :=
  List.mem_flatMap.mpr ⟨node, hnode, List.mem_flatMap.mpr ⟨run, hrun, hpayload⟩⟩

/-! ## Outputs -/

/-- The last attempt of the only node that starts last: every other node that starts at all, the trigger apart, did so
    before it. -/
def IsOutputRun (e : EngineExecution) (run : NodeRun) : Prop :=
  ∃ node others start, e.runs.Perm (node :: others) ∧ StartsAt node start
    ∧ (∀ other ∈ others, ∀ t, StartsAt other t → t < start) ∧ node.2.getLast? = some run

theorem isOutputRun_iff {e : EngineExecution} {run : NodeRun} :
    IsOutputRun e run ↔ ∃ c, first? (candidates e) = some c ∧ c.runs.getLast? = some run := by
  constructor
  · rintro ⟨node, others, start, hruns, hstart, hothers, hlast⟩
    exact ⟨_, first?_candidates.mpr ⟨node, others, hruns, exists_candidate hstart, hothers⟩, hlast⟩
  · rintro ⟨c, hfirst, hlast⟩
    obtain ⟨node, others, hruns, hc, hothers⟩ := first?_candidates.mp hfirst
    obtain ⟨hstart, hparts⟩ := candidate?_eq_some_iff.mp hc
    rw [hparts] at hlast
    exact ⟨node, others, c.start, hruns, hstart, hothers, hlast⟩

/-- What the output of an execution is. -/
structure LogicalOutput (e : EngineExecution) : Prop where
  /-- The output is the first item of the attempt, if there is one. -/
  output : ∀ run, IsOutputRun e run → extractOutput e = run.firstItem?
  /-- Without such an attempt there is no output. -/
  none : (∀ run, ¬ IsOutputRun e run) → extractOutput e = none
  /-- The order of the nodes decides nothing. -/
  reordered : ∀ e' : EngineExecution, e'.runs.Perm e.runs → extractOutput e' = extractOutput e
  /-- An output is the first of the items of its attempt, all of which are measured. -/
  counted : ∀ run payload, IsOutputRun e run → run.firstItem? = some payload →
    run.items.head? = some payload ∧ payload ∈ allItems e

end PromptGraph
