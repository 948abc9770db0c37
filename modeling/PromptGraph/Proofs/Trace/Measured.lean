import Mathlib.Algebra.Ring.Int.Defs
import PromptGraph.Proofs.Number.Range
import PromptGraph.Trace.Metrics

/-!
# `Proofs.Trace.Measured` — which executions can be measured

Items are written by the nodes of a workflow and hold any numbers. A float that is infinite or not a number has no whole
part, and an integer beyond the range of floats has no price. One such number anywhere in the run data fails the
measurement of the whole execution, and nothing else does.

## Contents
- **Partial arithmetic.** `IsArithmetic`, `Yields`: computed exactly under a condition.
- **Values.** `IsCountable`, `counted`, `IsPriced`, `IsCost`, with the condition of each operation.
- **Items.** `Measurable`, `itemTokens`; `yields_addItem` for one item, and `yields_tally` by induction on the items.
- **Executions.** `yields_extractMetrics`.
-/

namespace PromptGraph

variable {α β : Type}

/-! ## Partial arithmetic -/

/-- The failures of arithmetic: there is no whole part, or a number is too large. -/
inductive IsArithmetic : Failure → Prop where
  | noInteger : IsArithmetic (.value .nanToInteger)
  | overflow : IsArithmetic (.kind .overflow)

/-- A computation has a result exactly under the condition `C`, the result has the property `Q`, and without the
    condition arithmetic fails. -/
structure Yields (C : Prop) (Q : α → Prop) (x : Except Failure α) : Prop where
  ok : C → ∃ a, x = .ok a ∧ Q a
  fails : ¬ C → ∃ e, x = .error e ∧ IsArithmetic e

namespace Yields

variable {C D : Prop} {Q : α → Prop} {R : β → Prop} {x : Except Failure α} {f : α → Except Failure β} {a : α}

theorem pure (hQ : Q a) : Yields True Q (.ok a) := ⟨fun _ => ⟨a, rfl, hQ⟩, fun h => absurd trivial h⟩

theorem bind (hx : Yields C Q x) (hf : ∀ a, Q a → Yields D R (f a)) : Yields (C ∧ D) R (x >>= f) where
  ok h := by
    obtain ⟨a, rfl, ha⟩ := hx.ok h.1
    exact (hf a ha).ok h.2
  fails h := by
    by_cases hC : C
    · obtain ⟨a, rfl, ha⟩ := hx.ok hC
      exact (hf a ha).fails fun hD => h ⟨hC, hD⟩
    · obtain ⟨e, rfl, he⟩ := hx.fails hC
      exact ⟨e, rfl, he⟩

/-- A result is read on. -/
theorem map (hx : Yields C Q x) (hf : ∀ a, Q a → ∃ b, f a = .ok b ∧ R b) : Yields C R (x >>= f) where
  ok h := by
    obtain ⟨a, rfl, ha⟩ := hx.ok h
    exact hf a ha
  fails h := by
    obtain ⟨e, rfl, he⟩ := hx.fails h
    exact ⟨e, rfl, he⟩

theorem mono {R : α → Prop} (hx : Yields C Q x) (hC : C ↔ D) (hQ : ∀ a, Q a → R a) : Yields D R x where
  ok h := by
    obtain ⟨a, ha, hQa⟩ := hx.ok (hC.mpr h)
    exact ⟨a, ha, hQ a hQa⟩
  fails h := hx.fails fun hC' => h (hC.mp hC')

theorem ok_iff (hx : Yields C Q x) : (∃ a, x = .ok a) ↔ C := by
  refine ⟨fun ⟨a, ha⟩ => Classical.byContradiction fun hC => ?_, fun h => (hx.ok h).imp fun _ => And.left⟩
  obtain ⟨e, he, -⟩ := hx.fails hC
  cases ha.symm.trans he

theorem error (hx : Yields C Q x) {e : Failure} (h : x = .error e) : IsArithmetic e := by
  have hC : ¬ C := fun hC => by
    obtain ⟨a, ha, -⟩ := hx.ok hC
    cases ha.symm.trans h
  obtain ⟨e', he', harithmetic⟩ := hx.fails hC
  cases he'.symm.trans h
  exact harithmetic

end Yields

/-! ## Values -/

/-- A value can be counted: if it is a float, that is a finite one. -/
def IsCountable : Option Json → Prop
  | some (.num (.float x)) => x.isFinite = true
  | _ => True

/-- What a value counts: a number its whole part, and anything else nothing. -/
def counted : Option Json → Int
  | some (.num (.int n)) => n
  | some (.num (.float x)) => x.trunc.getD 0
  | _ => 0

/-- A number of tokens has a price: the integer that has to become a float is in the range of floats. -/
def IsPriced (tokens : Int) : Number → Prop
  | .int rate => (tokens * rate).natAbs < Double.bound
  | .float _ => tokens.natAbs < Double.bound

/-- A value is a cost: if it is an integer, that is in the range of floats. -/
def IsCost : Option Json → Prop
  | some (.num (.int n)) => n.natAbs < Double.bound
  | _ => True

theorem yields_wholeOf (v : Option Json) : Yields (IsCountable v) (· = counted v) (wholeOf v) := by
  rcases v with - | v
  · exact .pure rfl
  cases v with
  | num number =>
      cases number with
      | int n => exact .pure rfl
      | float x =>
          cases x with
          | nan => exact ⟨nofun, fun _ => ⟨_, rfl, .noInteger⟩⟩
          | infinite negative => exact ⟨nofun, fun _ => ⟨_, rfl, .overflow⟩⟩
          | finite negative mantissa exponent canonical => exact ⟨fun _ => ⟨_, rfl, rfl⟩, fun h => absurd rfl h⟩
  | _ => exact .pure rfl

/-- An integer becomes a float within the range of floats. -/
theorem yields_ofInt (n : Int) (f : Double → Double) :
    Yields (n.natAbs < Double.bound) (fun _ => True)
      (match (Double.ofInt? n).map f with
        | some x => .ok x
        | none => .error (.kind .overflow) : Except Failure Double) where
  ok h := by
    obtain ⟨x, hx⟩ := Option.isSome_iff_exists.mp ((Double.ofInt?_isSome_iff n).mpr h)
    rw [hx]
    exact ⟨f x, rfl, trivial⟩
  fails h := by
    rw [(Double.ofInt?_eq_none_iff n).mpr (Nat.le_of_not_lt h)]
    exact ⟨_, rfl, .overflow⟩

theorem yields_floatOf (v : Option Json) : Yields (IsCost v) (fun _ => True) (floatOf v) := by
  rcases v with - | v
  · exact .pure trivial
  cases v with
  | num number =>
      cases number with
      | int n =>
          have hint := yields_ofInt n id
          rw [Option.map_id] at hint
          exact hint
      | float x => exact .pure trivial
  | _ => exact .pure trivial

theorem yields_price (tokens : Int) (rate : Number) :
    Yields (IsPriced tokens rate) (fun _ => True) (Tally.price tokens rate) := by
  cases rate with
  | int r =>
      have hint := yields_ofInt (tokens * r) id
      rw [Option.map_id] at hint
      exact hint
  | float r => exact yields_ofInt tokens fun t => t.mul r

/-! ## Items -/

/-- The values that tell the tokens of a usage: the total where it is given, else input and output. -/
def tokenCounts (usage : Members) : List (Option Json) :=
  match Members.get? "total_tokens" usage with
  | some total => [some total]
  | none => [Members.get? "input_tokens" usage, Members.get? "output_tokens" usage]

/-- The tokens of a usage. -/
def usedTokens (usage : Members) : Int := ((tokenCounts usage).map counted).sum

/-- **An item can be measured**: the tokens of its usage are countable and have a price, the tokens of its own metrics
    are countable, and so is their cost. -/
structure Measurable (rate : Number) (item : Members) : Prop where
  usage : ∀ usage, Members.get? "usage" item = some (.obj usage) →
    (∀ v ∈ tokenCounts usage, IsCountable v) ∧ IsPriced (usedTokens usage) rate
  metrics : ∀ ms, Members.get? "metrics" item = some (.obj ms) →
    IsCountable (Members.get? "tokens" ms) ∧ IsCost (Members.get? "cost" ms)

/-- The tokens that a member of an item tells of, if it is an object. -/
def memberTokens (name : String) (tokens : Members → Int) (item : Members) : Int :=
  match Members.get? name item with
  | some (.obj ms) => tokens ms
  | _ => 0

/-- The tokens of an item: those of its usage and those of its own metrics. -/
def itemTokens (item : Members) : Int :=
  memberTokens "usage" usedTokens item + memberTokens "metrics" (fun ms => counted (Members.get? "tokens" ms)) item

theorem yields_usageTokens (usage : Members) :
    Yields (∀ v ∈ tokenCounts usage, IsCountable v) (· = usedTokens usage) (usageTokens (.obj usage)) := by
  unfold usageTokens usedTokens tokenCounts
  dsimp only
  cases Members.get? "total_tokens" usage with
  | some total =>
      have htotal := yields_wholeOf (some total)
      refine htotal.mono List.forall_mem_singleton.symm fun n hn => ?_
      simp [hn]
  | none =>
      have hinput := yields_wholeOf (Members.get? "input_tokens" usage)
      have houtput := yields_wholeOf (Members.get? "output_tokens" usage)
      refine (hinput.bind fun input hin => houtput.map fun output hout => ⟨input + output, rfl, ?_⟩).mono ?_
        fun tokens htokens => htokens
      · simp [hin, hout]
      · simp

section Tallies

variable {rate : Number} {item : Members} {t : Tally}

/-- An object under a name is added under its own condition, and without an object nothing is added. -/
theorem yields_member {name : String} {C : Members → Prop} {tokens : Members → Int}
    {add : Members → Except Failure Tally}
    (hadd : ∀ ms, Yields (C ms) (fun t' => t'.tokens = t.tokens + tokens ms) (add ms)) :
    Yields (∀ ms, Members.get? name item = some (.obj ms) → C ms)
      (fun t' => t'.tokens = t.tokens + memberTokens name tokens item)
      (match Members.get? name item with
        | some (.obj ms) => add ms
        | _ => .ok t) := by
  unfold memberTokens
  split
  · rename_i ms hget
    rw [hget]
    refine (hadd ms).mono ⟨fun hC ms' hms' => ?_, fun hall => hall ms rfl⟩ fun t' ht' => ht'
    cases hms'
    exact hC
  · rename_i hother
    -- what is no object sets no condition
    have hnothing : Yields True (fun t' : Tally => t'.tokens = t.tokens + 0) (.ok t) := .pure (by simp)
    exact hnothing.mono ⟨fun _ ms hms => absurd hms (hother ms), fun _ => trivial⟩ fun t' ht' => ht'

theorem yields_addUsage :
    Yields (∀ usage, Members.get? "usage" item = some (.obj usage) →
        (∀ v ∈ tokenCounts usage, IsCountable v) ∧ IsPriced (usedTokens usage) rate)
      (fun t' => t'.tokens = t.tokens + memberTokens "usage" usedTokens item) (Tally.addUsage rate item t) := by
  refine yields_member fun usage => (yields_usageTokens usage).bind fun used hused => ?_
  subst hused
  exact (yields_price _ rate).map fun cost _ => ⟨_, rfl, rfl⟩

theorem yields_addMetrics :
    Yields (∀ ms, Members.get? "metrics" item = some (.obj ms) →
        IsCountable (Members.get? "tokens" ms) ∧ IsCost (Members.get? "cost" ms))
      (fun t' => t'.tokens = t.tokens + memberTokens "metrics" (fun ms => counted (Members.get? "tokens" ms)) item)
      (Tally.addMetrics item t) := by
  refine yields_member fun ms => (yields_wholeOf (Members.get? "tokens" ms)).bind fun tokens htokens => ?_
  subst htokens
  exact (yields_floatOf (Members.get? "cost" ms)).map fun cost _ => ⟨_, rfl, rfl⟩

theorem measurable_iff : Measurable rate item ↔
    (∀ usage, Members.get? "usage" item = some (.obj usage) →
        (∀ v ∈ tokenCounts usage, IsCountable v) ∧ IsPriced (usedTokens usage) rate)
      ∧ ∀ ms, Members.get? "metrics" item = some (.obj ms) →
        IsCountable (Members.get? "tokens" ms) ∧ IsCost (Members.get? "cost" ms) :=
  ⟨fun h => ⟨h.usage, h.metrics⟩, fun h => ⟨h.1, h.2⟩⟩

/-- **One item is added exactly if it can be measured**, and adds its tokens. -/
theorem yields_addItem :
    Yields (Measurable rate item) (fun t' => t'.tokens = t.tokens + itemTokens item) (Tally.addItem rate t item) := by
  refine (yields_addUsage.bind fun t₁ h₁ => yields_addMetrics.mono Iff.rfl fun t₂ h₂ => ?_).mono
    measurable_iff.symm fun t₂ h₂ => h₂
  rw [h₂, h₁, itemTokens, Int.add_assoc]

/-- **Items are added exactly if each of them can be measured**, by induction on the items: the sum so far decides
    nothing. -/
theorem yields_tally (items : List Members) :
    Yields (∀ item ∈ items, Measurable rate item) (fun t' => t'.tokens = t.tokens + (items.map itemTokens).sum)
      (items.foldlM (Tally.addItem rate) t) := by
  induction items generalizing t with
  | nil => exact (Yields.pure (by simp)).mono (by simp) fun t' ht' => ht'
  | cons item rest ih =>
      rw [List.foldlM_cons]
      refine (yields_addItem.bind fun t₁ h₁ => ih.mono Iff.rfl fun t₂ h₂ => ?_).mono List.forall_mem_cons.symm
        fun t₂ h₂ => h₂
      rw [h₂, h₁, List.map_cons, List.sum_cons, Int.add_assoc]

end Tallies

/-! ## Executions -/

/-- **An execution is measured exactly if each of its items can be**, and the clock decides nothing. -/
theorem yields_extractMetrics (e : EngineExecution) (rate : Number) (now : Timestamp) :
    Yields (∀ item ∈ allItems e, Measurable rate item)
      (fun m => m.tokensUsed = ((allItems e).map itemTokens).sum) (extractMetrics e rate now) := by
  refine (yields_tally (allItems e)).map fun t ht => ⟨_, rfl, ?_⟩
  rw [ht]
  exact Int.zero_add _

end PromptGraph
