import Mathlib.Logic.Function.Basic
import PromptGraph.Proofs.Execution.Lifecycle

/-!
# `Proofs.Execution.Records` — stores that keep the records of executions

What a store is relied on for: a new record is the pending one and is found under its id from then on, a record that is
marked or completed is changed as it was told and no other is, and nothing but these three operations changes a record.
Whether a rollup succeeds is left open, as is what else the surroundings answer.

## Contents
- **Effects.** `OffStore`, `IsRollup`, `LeavesRecords`.
- **Keeping.** `KeepsRecords`, and `KeepsRecords.run` for programs that leave the records alone; `answeringRollups`.
- **The store in memory.** `MemoryStore.Fresh` ids; `Rehearsal.keepsRecords`.
-/

namespace PromptGraph

open Act

variable {σ α : Type}

/-! ## Effects -/

/-- Effects that are no operation of the store. -/
def OffStore : Effect → Prop
  | .store _ => False
  | _ => True

/-- The merge into a rollup. -/
def IsRollup : Effect → Prop
  | .store (.rollup _) => True
  | _ => False

/-- Effects that leave the records as they are. -/
def LeavesRecords : Effect → Prop
  | .store (.insert _ _ _ _) => False
  | .store (.markRunning _ _) => False
  | .store (.complete _ _) => False
  | _ => True

theorem leavesRecords_of_offStore (q : Effect) (hq : OffStore q) : LeavesRecords q := by
  cases q with
  | store call => exact absurd hq id
  | _ => trivial

theorem not_isRollup_of_offStore (q : Effect) (hq : OffStore q) : ¬ IsRollup q := by
  cases q with
  | store call => exact absurd hq id
  | _ => exact id

theorem exists_of_isRollup {q : Effect} (hq : IsRollup q) : ∃ increment, q = .store (.rollup increment) := by
  cases q with
  | store call =>
      cases call with
      | rollup increment => exact ⟨increment, rfl⟩
      | _ => exact absurd hq id
  | _ => exact absurd hq id

/-! ## Keeping -/

/-- Surroundings in a valid state keep the records that they are told of, `stored` being the record of each id. -/
structure KeepsRecords (h : Handler σ) (valid : σ → Prop) (stored : σ → String → Option Record) : Prop where
  valid_answer : ∀ q s, valid s → valid (h q s).2
  /-- A record is read as it is stored. -/
  record : ∀ id s, valid s → (h (.store (.record id)) s).1 = .ok (stored s id)
  /-- A new record is pending, with the data that it was made of. -/
  insert : ∀ chain org input startedAt s (r : Record), valid s →
    (h (.store (.insert chain org input startedAt)) s).1 = .ok r →
      r = MemoryStore.pendingRecord r.id chain org input startedAt
        ∧ stored (h (.store (.insert chain org input startedAt)) s).2 = Function.update (stored s) r.id (some r)
  markRunning : ∀ id engineId s, valid s → (h (.store (.markRunning id engineId)) s).1 = .ok () →
    stored (h (.store (.markRunning id engineId)) s).2
      = Function.update (stored s) id ((stored s id).map (MemoryStore.runningRecord engineId))
  complete : ∀ id c s, valid s → (h (.store (.complete id c)) s).1 = .ok () →
    stored (h (.store (.complete id c)) s).2
      = Function.update (stored s) id ((stored s id).map (MemoryStore.terminalRecord c))
  leaves : ∀ q s, valid s → LeavesRecords q → stored (h q s).2 = stored s

namespace KeepsRecords

variable {h : Handler σ} {valid : σ → Prop} {stored : σ → String → Option Record}

/-- **A program that leaves the records alone leaves them as they are**, from whatever valid state it is run. -/
theorem run (hkeeps : KeepsRecords h valid stored) {C : Prop} {p : Act α} (hp : p.Asks LeavesRecords C) {s : σ}
    (hs : valid s) : valid (p.run h s).2 ∧ stored (p.run h s).2 = stored s := by
  have hrelated : valid s → valid (p.run h s).2 ∧ stored (p.run h s).2 = stored s := by
    refine run_related (R := fun s t => valid s → valid t ∧ stored t = stored s) (fun s hs => ⟨hs, rfl⟩) ?_ ?_ hp s
    · intro a b c hab hbc ha
      obtain ⟨hb, hab⟩ := hab ha
      obtain ⟨hc, hbc⟩ := hbc hb
      exact ⟨hc, hbc.trans hab⟩
    · intro q s hq hs
      exact ⟨hkeeps.valid_answer q s hs, hkeeps.leaves q s hs hq⟩
  exact hrelated hs

end KeepsRecords

/-- Surroundings in which every rollup comes to the same. -/
def answeringRollups (h : Handler σ) (outcome : Except Failure Unit) : Handler σ
  | .store (.rollup _), s => (outcome, s)
  | q, s => h q s

theorem answeringRollups_of_not_isRollup (h : Handler σ) (outcome : Except Failure Unit) (q : Effect)
    (hq : ¬ IsRollup q) : h q = answeringRollups h outcome q := by
  cases q with
  | store call =>
      cases call with
      | rollup increment => exact absurd trivial hq
      | _ => rfl
  | _ => rfl

/-- What rollups come to does not matter to the keeping of records. -/
theorem KeepsRecords.withRollups {h : Handler σ} {valid : σ → Prop} {stored : σ → String → Option Record}
    (hkeeps : KeepsRecords h valid stored) (outcome : Except Failure Unit) :
    KeepsRecords (answeringRollups h outcome) valid stored where
  valid_answer := by
    intro q s hs
    by_cases hq : IsRollup q
    · obtain ⟨increment, rfl⟩ := exists_of_isRollup hq
      exact hs
    · rw [← answeringRollups_of_not_isRollup h outcome q hq]
      exact hkeeps.valid_answer q s hs
  record := hkeeps.record
  insert := hkeeps.insert
  markRunning := hkeeps.markRunning
  complete := hkeeps.complete
  leaves := by
    intro q s hs hleaves
    by_cases hq : IsRollup q
    · obtain ⟨increment, rfl⟩ := exists_of_isRollup hq
      rfl
    · rw [← answeringRollups_of_not_isRollup h outcome q hq]
      exact hkeeps.leaves q s hs hleaves

/-! ## The store in memory -/

namespace MemoryStore

/-- No record has an id that is still to be given. -/
def Fresh (s : MemoryStore) : Prop := ∀ r ∈ s.records, ∀ n, s.records.length < n → r.id ≠ "exec-" ++ toString n

theorem numberedId_injective {m n : Nat} (h : "exec-" ++ toString m = "exec-" ++ toString n) : m = n := by
  have hdigits : Nat.toDigits 10 m = Nat.toDigits 10 n := by
    have htext : "exec-".toList ++ (toString m).toList = "exec-".toList ++ (toString n).toList := by
      rw [← String.toList_append, ← String.toList_append, h]
    have hlist : (toString m).toList = (toString n).toList := List.append_cancel_left htext
    rwa [Nat.toString_eq_repr, Nat.toString_eq_repr, Nat.toList_repr, Nat.toList_repr] at hlist
  calc m = Nat.ofDigitChars 10 (Nat.toDigits 10 m) 0 := Nat.ofDigitChars_ten_toDigits.symm
    _ = Nat.ofDigitChars 10 (Nat.toDigits 10 n) 0 := by rw [hdigits]
    _ = n := Nat.ofDigitChars_ten_toDigits

theorem fresh_insert {s : MemoryStore} (hs : s.Fresh) (chain org : String) (input : Members) (startedAt : Timestamp) :
    (s.apply (.insert chain org input startedAt)).2.Fresh := by
  intro r hr n hn
  have hlength : s.records.length + 1 < n := by
    simpa [apply] using hn
  rcases List.mem_append.mp hr with hr | hr
  · exact hs r hr n (Nat.lt_of_succ_lt hlength)
  · -- the new record has the id that is given now
    rw [List.mem_singleton.mp hr]
    intro hid
    exact absurd (numberedId_injective hid) (Nat.ne_of_lt hlength)

theorem fresh_update {s : MemoryStore} (hs : s.Fresh) {id : String} {f : Record → Record} (hf : ∀ r, (f r).id = r.id) :
    (s.update id f).Fresh := by
  intro r hr n hn
  have hlength : s.records.length < n := by
    simpa [update] using hn
  obtain ⟨before, hbefore, rfl⟩ := List.mem_map.mp hr
  have hid : (if before.id = id then f before else before).id = before.id := by
    split
    · exact hf before
    · rfl
  rw [hid]
  exact hs before hbefore n hlength

theorem fresh_apply {s : MemoryStore} (hs : s.Fresh) (call : StoreCall) : (s.apply call).2.Fresh := by
  cases call with
  | insert chain org input startedAt => exact fresh_insert hs chain org input startedAt
  | markRunning id engineId => exact fresh_update hs fun _ => rfl
  | complete id c => exact fresh_update hs fun _ => rfl
  | _ => exact hs

/-- A new record is found under its id, and every other as before. -/
theorem record?_insert {s : MemoryStore} (hs : s.Fresh) (chain org : String) (input : Members) (startedAt : Timestamp) :
    (s.apply (.insert chain org input startedAt)).2.record?
      = Function.update s.record? s.nextId (some (pendingRecord s.nextId chain org input startedAt)) := by
  funext id
  have hsplit : (s.apply (.insert chain org input startedAt)).2.record? id
      = (s.record? id).or (List.find? (fun r => r.id == id) [pendingRecord s.nextId chain org input startedAt]) :=
    List.find?_append
  rw [hsplit]
  by_cases hid : id = s.nextId
  · subst hid
    have hnone : s.record? s.nextId = none := by
      refine List.find?_eq_none.mpr ?_
      intro r hr heq
      exact hs r hr _ (Nat.lt_succ_self _) (beq_iff_eq.mp heq)
    rw [hnone, Function.update_self]
    simp [pendingRecord]
  · rw [Function.update_of_ne hid]
    have hother : ¬ s.nextId = id := fun heq => hid heq.symm
    simp [pendingRecord, hother]

/-- The record of an id is changed, and no other. -/
theorem record?_update (s : MemoryStore) (id : String) {f : Record → Record} (hf : ∀ r, (f r).id = r.id) :
    (s.update id f).record? = Function.update s.record? id ((s.record? id).map f) := by
  funext other
  have hkept : ((fun r : Record => r.id == other) ∘ fun r => if r.id = id then f r else r)
      = fun r => r.id == other := by
    funext r
    show ((if r.id = id then f r else r).id == other) = (r.id == other)
    split
    · rw [hf]
    · rfl
  have hmap : (s.update id f).record? other = (s.record? other).map fun r => if r.id = id then f r else r := by
    unfold record? update
    rw [List.find?_map, hkept]
  have hfound : ∀ r ∈ s.record? other, r.id = other := by
    intro r hr
    exact eq_of_beq (List.find?_some (p := fun r : Record => r.id == other) hr)
  rw [hmap]
  by_cases hid : other = id
  · subst hid
    rw [Function.update_self]
    refine Option.map_congr ?_
    intro r hr
    exact if_pos (hfound r hr)
  · rw [Function.update_of_ne hid]
    refine (Option.map_congr ?_).trans Option.map_id'
    intro r hr
    exact if_neg fun heq => hid ((hfound r hr).symm.trans heq)

end MemoryStore

namespace Rehearsal

/-- The store of a rehearsal gives new ids, and lets its records be read. -/
def Sound (w : Rehearsal) : Prop := "get_execution" ∉ w.store.refused ∧ w.store.Fresh

/-- The record of an id in the store of a rehearsal. -/
def stored (w : Rehearsal) : String → Option Record := w.store.record?

/-- An effect that is no operation of the store does not reach it. -/
theorem store_answer {q : Effect} (hq : OffStore q) (w : Rehearsal) : (answer q w).2.store = w.store := by
  cases q with
  | exchange r =>
      rcases answer_exchange r w with h | ⟨address, h⟩
      · rw [h]
      · rw [h]
  | store call => exact absurd hq id
  | forget chain => cases chain <;> rfl
  | _ => rfl

theorem sound_answer (q : Effect) {w : Rehearsal} (hw : w.Sound) : (answer q w).2.Sound := by
  obtain ⟨hread, hfresh⟩ := hw
  by_cases hq : OffStore q
  · unfold Sound
    rw [store_answer hq]
    exact ⟨hread, hfresh⟩
  · cases q with
    | store call =>
        rcases answer_store_cases call w with ⟨-, h⟩ | ⟨-, h⟩
        · rw [h]
          exact ⟨hread, hfresh⟩
        · rw [h]
          have hrefused := (progress_applied w call).refused
          exact ⟨hrefused ▸ hread, MemoryStore.fresh_apply (s := (listing w call).store) hfresh call⟩
    | _ => exact absurd trivial hq

/-- **A rehearsal with a sound store keeps records.** -/
theorem keepsRecords : KeepsRecords answer Sound stored where
  valid_answer := fun q w hw => sound_answer q hw
  record := by
    intro id w hw
    rcases answer_store_cases (.record id) w with ⟨hrefused, -⟩ | ⟨-, h⟩
    · exact absurd hrefused hw.1
    · rw [h]
      rfl
  insert := by
    intro chain org input startedAt w r hw hr
    rcases answer_store_cases (.insert chain org input startedAt) w with ⟨-, h⟩ | ⟨-, h⟩
    · rw [h] at hr
      cases hr
    · rw [h] at hr ⊢
      cases Except.ok.inj hr
      exact ⟨rfl, MemoryStore.record?_insert (s := (listing w _).store) hw.2 chain org input startedAt⟩
  markRunning := by
    intro id engineId w _ hr
    rcases answer_store_cases (.markRunning id engineId) w with ⟨-, h⟩ | ⟨-, h⟩
    · rw [h] at hr
      cases hr
    · rw [h]
      exact MemoryStore.record?_update (listing w _).store id fun _ => rfl
  complete := by
    intro id c w _ hr
    rcases answer_store_cases (.complete id c) w with ⟨-, h⟩ | ⟨-, h⟩
    · rw [h] at hr
      cases hr
    · rw [h]
      exact MemoryStore.record?_update (listing w _).store id fun _ => rfl
  leaves := by
    intro q w _ hq
    by_cases hoff : OffStore q
    · unfold stored
      rw [store_answer hoff]
    · cases q with
      | store call =>
          rcases answer_store_cases call w with ⟨-, h⟩ | ⟨-, h⟩
          · rw [h]
            rfl
          · rw [h]
            cases call with
            | insert chain org input startedAt => exact absurd hq id
            | markRunning record engineId => exact absurd hq id
            | complete record c => exact absurd hq id
            | _ => rfl
      | _ => exact absurd trivial hoff

end Rehearsal

end PromptGraph
