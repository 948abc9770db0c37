import PromptGraph.Rule.Condition
import PromptGraph.Proofs.Text.Exchange

/-!
# `Proofs.Rule.Conditions` — what a condition holds after its translation

Every rewrite promises something of the text it leaves: its phrase is gone, or the phrase stands behind a guard only.
A later rewrite could break the promise, with a piece it puts in, or by taking a guard away. Whether one can is decided
by comparing the ends of phrases, for a table and all conditions at once.

## Contents
- `Promise`, with what it says (`Holds`), when a rewrite makes it (`IsMadeBy`) and when one keeps it (`Survives`).
- `Promise.IsKeptBy.holds`: a promise that a table keeps holds of every translated condition.
- `translateCondition_eq_of_free`, `exchanged_translateCondition`: nothing but phrases is exchanged.
- `translateCondition_default`: the vocabulary of conditions.
-/

namespace PromptGraph

open Text

/-- The rewrites as lists of characters. -/
def Rewrites.pairs (rewrites : Rewrites) : Pairs := rewrites.map fun r => (r.1.toList, r.2.toList)

variable {rewrites : Rewrites} {text : String}

/-! ## One rewrite -/

theorem toList_replace (n r text : String) :
    (Text.replace n r text).toList = replaceAll n.toList r.toList text.toList := by
  rw [Text.replace, String.toList_ofList]

theorem replaced_replace {r : String × String} (hn : r.1.toList ≠ []) (text : String) :
    Replaced r.1.toList r.2.toList text.toList (Text.replace r.1 r.2 text).toList := by
  rw [toList_replace]
  exact replaced_replaceAll hn _ _

theorem translateCondition_cons (r : String × String) (rewrites : Rewrites) (text : String) :
    translateCondition (r :: rewrites) text = translateCondition rewrites (Text.replace r.1 r.2 text) := rfl

/-! ## Promises -/

/-- What a rewrite promises of the text it leaves. -/
inductive Promise where
  /-- The phrase does not occur. -/
  | gone (phrase : List Char)
  /-- The phrase occurs behind the guard only. -/
  | guarded (guard phrase : List Char)

namespace Promise

/-- The promise is true of a text. -/
def Holds (text : List Char) : Promise → Prop
  | gone p => ¬ p <:+: text
  | guarded g p => Guarded g p text

/-- The promise is true of what a rewrite leaves, whatever it is applied to. -/
def IsMadeBy (r : List Char × List Char) : Promise → Prop
  | gone p => r.1 = p ∧ p ≠ [] ∧ Apart p r.2 ∧ Apart r.2 p
  | guarded g p => r = (p, g ++ p) ∧ p ≠ [] ∧ Apart p (g ++ p)
      ∧ ∀ b ∈ (g ++ p).tails, b ≠ [] → b ≠ p → b ≠ g ++ p → Differs b p

/-- A rewrite does not break the promise. -/
def Survives (r : List Char × List Char) : Promise → Prop
  | gone p => r.1 ≠ [] ∧ Apart p r.2 ∧ Apart r.2 p
  | guarded g p => r.1 ≠ [] ∧ Apart p r.2 ∧ Apart g.reverse r.1.reverse ∧ Shields g p r.1 r.2

/-- Some rewrite makes the promise, and those after it do not break it. -/
def IsKeptBy (promise : Promise) : Pairs → Prop
  | [] => False
  | r :: rewrites => (promise.IsMadeBy r ∧ ∀ later ∈ rewrites, promise.Survives later) ∨ promise.IsKeptBy rewrites

instance (r : List Char × List Char) : (promise : Promise) → Decidable (promise.IsMadeBy r)
  | gone _ => by unfold IsMadeBy; infer_instance
  | guarded _ _ => by unfold IsMadeBy; infer_instance

instance (r : List Char × List Char) : (promise : Promise) → Decidable (promise.Survives r)
  | gone _ => by unfold Survives; infer_instance
  | guarded _ _ => by unfold Survives; infer_instance

instance decidableIsKeptBy (promise : Promise) : (rewrites : Pairs) → Decidable (promise.IsKeptBy rewrites)
  | [] => .isFalse id
  | _ :: rewrites =>
    have := decidableIsKeptBy promise rewrites
    by unfold IsKeptBy; infer_instance

variable {promise : Promise} {n r before after : List Char}

theorem IsMadeBy.holds (h : promise.IsMadeBy (n, r)) (hreplaced : Replaced n r before after) : promise.Holds after := by
  cases promise with
  | gone p =>
      obtain ⟨rfl, hp, hapart⟩ := h
      exact hreplaced.not_infix hp hapart
  | guarded g p =>
      obtain ⟨hr, hp, hapart, hends⟩ := h
      obtain ⟨rfl, rfl⟩ := Prod.mk.inj hr
      exact hreplaced.guarded hp hapart hends

theorem Survives.ne_nil (h : promise.Survives (n, r)) : n ≠ [] := by
  cases promise <;> exact h.1

theorem Survives.holds (h : promise.Survives (n, r)) (hreplaced : Replaced n r before after)
    (hholds : promise.Holds before) : promise.Holds after := by
  cases promise with
  | gone p => exact hreplaced.exchanged.not_infix (by simpa using h.2) hholds
  | guarded g p =>
      obtain ⟨-, hapart, hguard, hshields⟩ := h
      exact hreplaced.exchanged.guarded hholds hapart hguard hshields

theorem IsMadeBy.ne_nil (h : promise.IsMadeBy (n, r)) : n ≠ [] := by
  cases promise with
  | gone p =>
      obtain ⟨rfl, hp, -⟩ := h
      exact hp
  | guarded g p =>
      obtain ⟨hr, hp, -⟩ := h
      rwa [(Prod.mk.inj hr).1]

/-- A promise outlives every rewrite that it survives. -/
theorem Holds.translateCondition (h : promise.Holds text.toList)
    (hsurvives : ∀ later ∈ rewrites.pairs, promise.Survives later) :
    promise.Holds (translateCondition rewrites text).toList := by
  induction rewrites generalizing text with
  | nil => exact h
  | cons r rewrites ih =>
      obtain ⟨hr, hmore⟩ := List.forall_mem_cons.mp hsurvives
      exact ih (hr.holds (replaced_replace hr.ne_nil text) h) hmore

/-- **A promise that a table keeps holds of every translated condition.** -/
theorem IsKeptBy.holds (h : promise.IsKeptBy rewrites.pairs) (text : String) :
    promise.Holds (translateCondition rewrites text).toList := by
  induction rewrites generalizing text with
  | nil => exact h.elim
  | cons r rewrites ih =>
      rcases h with ⟨hmade, hmore⟩ | hlater
      · exact (hmade.holds (replaced_replace hmade.ne_nil text)).translateCondition hmore
      · exact ih hlater _

end Promise

/-! ## Nothing else -/

/-- A condition without phrases is left as it is. -/
theorem translateCondition_eq_of_free (hn : ∀ r ∈ rewrites, r.1.toList ≠ [])
    (hfree : ∀ r ∈ rewrites, ¬ r.1.toList <:+: text.toList) : translateCondition rewrites text = text := by
  induction rewrites with
  | nil => rfl
  | cons r rewrites ih =>
      have hsame : Text.replace r.1 r.2 text = text := String.toList_injective
        ((replaced_replace (hn r List.mem_cons_self) text).eq_of_free (hfree r List.mem_cons_self))
      rw [translateCondition_cons, hsame]
      exact ih (fun s hs => hn s (List.mem_cons_of_mem r hs)) fun s hs => hfree s (List.mem_cons_of_mem r hs)

/-- No rewrite looks for a phrase that meets what an earlier one puts in. -/
def Separate (rewrites : Pairs) : Prop :=
  (∀ r ∈ rewrites, r.1 ≠ []) ∧ rewrites.Pairwise fun earlier later => Apart later.1 earlier.2 ∧ Apart earlier.2 later.1

instance (rewrites : Pairs) : Decidable (Separate rewrites) := by
  unfold Separate; infer_instance

theorem Text.Exchanged.translateCondition {done : Pairs} {before : List Char} (h : Exchanged done before text.toList)
    (hseparate : Separate (done ++ rewrites.pairs)) :
    Exchanged (done ++ rewrites.pairs) before (translateCondition rewrites text).toList := by
  induction rewrites generalizing done text with
  | nil =>
      rw [Rewrites.pairs, List.map_nil, List.append_nil]
      exact h
  | cons r rewrites ih =>
      obtain ⟨hn, hapart⟩ := hseparate
      have hr : (r.1.toList, r.2.toList) ∈ Rewrites.pairs (r :: rewrites) := List.mem_cons_self
      have hne : r.1.toList ≠ [] := hn _ (List.mem_append_right done hr)
      have hnext := h.trans_replacement (replaced_replace hne text).exchanged hne
        (fun pair hpair => hn pair (List.mem_append_left _ hpair))
        (fun pair hpair => (List.pairwise_append.mp hapart).2.2 pair hpair _ hr)
      have hsplit : done ++ Rewrites.pairs (r :: rewrites)
          = (done ++ [(r.1.toList, r.2.toList)]) ++ Rewrites.pairs rewrites := by
        simp [Rewrites.pairs]
      rw [hsplit] at hn hapart ⊢
      exact ih hnext ⟨hn, hapart⟩

/-- **Every piece of a condition is kept or gives way to its counterpart**, and nothing that was put in is rewritten. -/
theorem exchanged_translateCondition (h : Separate rewrites.pairs) (text : String) :
    Exchanged rewrites.pairs text.toList (translateCondition rewrites text).toList :=
  (Exchanged.refl [] text.toList).translateCondition h

/-! ## The vocabulary -/

/-- **The vocabulary of conditions is translated.** -/
theorem translateCondition_default (text : String) :
    (∀ phrase ∈ ["contains", "is", "greater than", "less than"],
        ¬ phrase.toList <:+: (translateCondition Rewrites.default text).toList)
      ∧ (∀ name ∈ ["sentiment", "urgency"], ∀ pre post,
        (translateCondition Rewrites.default text).toList = pre ++ (name.toList ++ post) → "input.".toList <:+ pre)
      ∧ ((∀ r ∈ Rewrites.default, ¬ r.1.toList <:+: text.toList) → translateCondition Rewrites.default text = text)
      ∧ Exchanged Rewrites.default.pairs text.toList (translateCondition Rewrites.default text).toList := by
  have hgone : ∀ phrase ∈ ["contains", "is", "greater than", "less than"],
      (Promise.gone phrase.toList).IsKeptBy Rewrites.default.pairs := by decide +kernel
  have hguarded : ∀ name ∈ ["sentiment", "urgency"],
      (Promise.guarded "input.".toList name.toList).IsKeptBy Rewrites.default.pairs := by decide +kernel
  refine ⟨fun phrase hphrase => (hgone phrase hphrase).holds text,
    fun name hname => (hguarded name hname).holds text, translateCondition_eq_of_free (by decide),
    exchanged_translateCondition (by decide +kernel) text⟩

example : translateCondition Rewrites.default "containsentiment is this" = "containinput.sentiment === th===" := by
  decide +kernel

end PromptGraph
