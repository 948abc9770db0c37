import PromptGraph.Proofs.Execution.Completion
import PromptGraph.Proofs.Execution.Isolation

/-!
# `Proofs.Execution.Rollups` — into which hour an execution is counted

The beginning of an hour is read off the clock of the timestamp. A clock that is ahead of universal time by a part of an
hour begins its hours at other moments than a clock that is not, so one moment may be counted into two hours. Which
executions of a chain are counted together is decided by their moments and by how far their clocks are apart.

## Contents
- **Hours.** `Timestamp.ahead`, `Timestamp.hourOn`, `Timestamp.InStep`; `hourStart_bounds` and `hourStart_agrees_iff`
  for any timestamps, `hourStart_agrees_iff_of_instant` for one moment on two clocks.
- **Rows.** `Rollup.row`; `rollup_of_asked`: the only row that a finished execution is counted into.
- **Merging.** `rollups_merge_iff`; `half_hour_parts_rollups`, one moment that is counted into two hours.
-/

namespace PromptGraph

open Act

variable {σ τ : Type}

/-! ## Hours -/

namespace Timestamp

/-- The seconds by which the clock is ahead, a missing offset meaning universal time. -/
def ahead (t : Timestamp) : Int := t.offset.getD 0

/-- The number of the hour that a moment lies in on a clock that is so many seconds ahead. -/
def hourOn (seconds instant : Int) : Int := (instant + seconds * microsPerSecond) / microsPerHour

/-- Whole hours lie between two clocks, so that their hours begin at the same moments. -/
def InStep (t t' : Timestamp) : Prop := 3600 ∣ t.ahead - t'.ahead

theorem hourOn_eq (seconds instant : Int) : hourOn seconds instant = (instant + seconds * 1000000) / 3600000000 := rfl

/-- The hour of a timestamp begins where the number of its clock's hour says. -/
theorem instant_hourStart (t : Timestamp) :
    t.hourStart.instant = hourOn t.ahead t.instant * 3600000000 - t.ahead * 1000000 := by
  have hwall : t.instant + t.ahead * 1000000 = t.wall := by
    show t.wall - t.ahead * 1000000 + t.ahead * 1000000 = t.wall
    omega
  show t.wall - t.wall % 3600000000 - t.ahead * 1000000 = _
  rw [hourOn_eq, hwall]
  omega

/-- A moment lies in its hour. -/
theorem hourStart_bounds (t : Timestamp) :
    t.hourStart.instant ≤ t.instant ∧ t.instant < t.hourStart.instant + microsPerHour := by
  have hhour : microsPerHour = 3600000000 := rfl
  rw [instant_hourStart, hourOn_eq, hhour]
  omega

/-- **The hours of two timestamps begin together** exactly if their clocks are in step and both moments lie in one hour
    of these clocks. -/
theorem hourStart_agrees_iff (t t' : Timestamp) :
    t.hourStart.instant = t'.hourStart.instant
      ↔ InStep t t' ∧ hourOn t.ahead t.instant = hourOn t.ahead t'.instant := by
  simp only [instant_hourStart, InStep, hourOn_eq]
  omega

/-- **One moment on two clocks has one hour** exactly if the clocks are in step. -/
theorem hourStart_agrees_iff_of_instant {t t' : Timestamp} (h : t.instant = t'.instant) :
    t.hourStart.instant = t'.hourStart.instant ↔ InStep t t' := by
  rw [hourStart_agrees_iff, h, eq_self, and_true]

/-- The hours of a clock that is whole hours ahead are those of universal time. -/
theorem hourOn_eq_iff {seconds : Int} (hwhole : 3600 ∣ seconds) (i i' : Int) :
    hourOn seconds i = hourOn seconds i' ↔ hourOn 0 i = hourOn 0 i' := by
  simp only [hourOn_eq]
  omega

end Timestamp

/-! ## Rows -/

/-- The row that an increment is merged into: that of its chain and of the moment at which its hour begins. -/
def Rollup.row (u : Rollup) : String × Int := (u.chain, u.hour.instant)

/-- A finished execution is counted for its chain, into the hour of its own beginning. -/
theorem rollup_of_asked {x : Executor} (hx : x.store = Store.ambient) {h : Handler σ} {s : σ} {r : Record}
    {e : EngineExecution} {u : Rollup} (hu : .store (.rollup u) ∈ asked h (x.finalize r e) s) :
    u.row = (r.chain, (hourBucket r.startedAt).instant) := by
  have hasks : (x.finalize r e).Asks
      (fun q => ∀ u, q = .store (.rollup u) → u.row = (r.chain, (hourBucket r.startedAt).instant)) False := by
    refine asks_finalize hx r e (fun _ _ => nofun) (fun _ => nofun) (fun _ _ => nofun) ?_
    rintro c _ ⟨⟩
    rfl
  exact hasks.of_asked hu u rfl

/-! ## Merging -/

/-- **Which executions of a chain are counted into one row.** An hour begins less than an hour before the moment that it
    is the hour of. One moment on two clocks has one hour exactly if the clocks are in step. Two finished executions of
    a chain are counted into one row exactly if the clocks of their records are in step and both began in one hour of
    these clocks, which is an hour of universal time if those clocks are whole hours ahead of it. -/
theorem rollups_merge_iff :
    (∀ t : Timestamp, (hourBucket t).instant ≤ t.instant ∧ t.instant < (hourBucket t).instant + Timestamp.microsPerHour)
      ∧ (∀ t t' : Timestamp, t.instant = t'.instant →
        ((hourBucket t).instant = (hourBucket t').instant ↔ t.InStep t'))
      ∧ ∀ {x x' : Executor}, x.store = Store.ambient → x'.store = Store.ambient →
        ∀ {h : Handler σ} {h' : Handler τ} {s : σ} {s' : τ} {r r' : Record} {e e' : EngineExecution} {u u' : Rollup},
        r.chain = r'.chain → .store (.rollup u) ∈ asked h (x.finalize r e) s →
        .store (.rollup u') ∈ asked h' (x'.finalize r' e') s' →
        (u.row = u'.row ↔ r.startedAt.InStep r'.startedAt
          ∧ Timestamp.hourOn r.startedAt.ahead r.startedAt.instant
            = Timestamp.hourOn r.startedAt.ahead r'.startedAt.instant)
        ∧ (3600 ∣ r.startedAt.ahead → 3600 ∣ r'.startedAt.ahead →
          (u.row = u'.row
            ↔ Timestamp.hourOn 0 r.startedAt.instant = Timestamp.hourOn 0 r'.startedAt.instant)) := by
  refine ⟨Timestamp.hourStart_bounds, fun _ _ => Timestamp.hourStart_agrees_iff_of_instant, ?_⟩
  intro x x' hx hx' h h' s s' r r' e e' u u' hchain hu hu'
  have hrows : u.row = u'.row ↔ r.startedAt.InStep r'.startedAt
      ∧ Timestamp.hourOn r.startedAt.ahead r.startedAt.instant
        = Timestamp.hourOn r.startedAt.ahead r'.startedAt.instant := by
    rw [rollup_of_asked hx hu, rollup_of_asked hx' hu', hchain, Prod.mk.injEq, eq_self, true_and]
    exact Timestamp.hourStart_agrees_iff _ _
  refine ⟨hrows, fun hwhole hwhole' => ?_⟩
  rw [hrows, Timestamp.hourOn_eq_iff hwhole]
  exact and_iff_right (Int.dvd_sub hwhole hwhole')

/-- A finished execution that tells of nothing else. -/
def silentRun : EngineExecution := ⟨"7", true, none, none, none, none, none, none, none⟩

/-- The record of an execution of one chain, by the moment of its beginning. -/
def startedOn (t : Timestamp) : Record := MemoryStore.pendingRecord "1" "chain" "org" [] t

/-- The effects of completing that record with that execution. -/
def completionOf (t : Timestamp) : List Effect :=
  asked Rehearsal.answer (sampleExecutor.finalize (startedOn t) silentRun) sampleSurroundings

theorem rollup_completionOf (t : Timestamp) : ∃ u, .store (.rollup u) ∈ completionOf t := by
  have hsort : byStart (candidates silentRun) = [] := List.mergeSort_nil
  have houtput : extractOutput silentRun = none := by rw [extractOutput, hsort]
  rw [completionOf, finalize_eq, outputNotices, hsort, houtput]
  exact ⟨_, List.mem_cons_of_mem _ (List.mem_cons_of_mem _ (List.mem_cons_of_mem _ List.mem_cons_self))⟩

/-- A quarter past seven. -/
def quarterPast : Timestamp := ⟨26100000000, none⟩

/-- Half an hour later, on a clock that is two hours ahead. -/
def quarterTo : Timestamp := ⟨35100000000, some 7200⟩

theorem rollups_merge_iff_two_hours_ahead : ∃ u u',
    .store (.rollup u) ∈ completionOf quarterPast ∧ .store (.rollup u') ∈ completionOf quarterTo ∧ u.row = u'.row := by
  have hx : sampleExecutor.store = Store.ambient := rfl
  have hchain : (startedOn quarterPast).chain = (startedOn quarterTo).chain := rfl
  obtain ⟨u, hu⟩ := rollup_completionOf quarterPast
  obtain ⟨u', hu'⟩ := rollup_completionOf quarterTo
  have hwhole : (3600 : Int) ∣ (startedOn quarterPast).startedAt.ahead := by decide
  have hwhole' : (3600 : Int) ∣ (startedOn quarterTo).startedAt.ahead := by decide
  exact ⟨u, u', hu, hu', ((rollups_merge_iff.2.2 hx hx hchain hu hu').2 hwhole hwhole').mpr (by decide)⟩

/-- The same quarter past seven on a clock that is five hours and a half ahead. -/
def quarterToOne : Timestamp := ⟨45900000000, some 19800⟩

/-- **One moment is counted into two hours**, and two executions of a chain that began at it are counted into two
    rows. -/
theorem half_hour_parts_rollups : quarterPast.instant = quarterToOne.instant
    ∧ (hourBucket quarterPast).instant ≠ (hourBucket quarterToOne).instant
    ∧ ∃ u u', .store (.rollup u) ∈ completionOf quarterPast ∧ .store (.rollup u') ∈ completionOf quarterToOne
      ∧ u.chain = u'.chain ∧ u.row ≠ u'.row := by
  have hx : sampleExecutor.store = Store.ambient := rfl
  obtain ⟨u, hu⟩ := rollup_completionOf quarterPast
  obtain ⟨u', hu'⟩ := rollup_completionOf quarterToOne
  have hrow := rollup_of_asked hx hu
  have hrow' := rollup_of_asked hx hu'
  have hapart : (hourBucket quarterPast).instant ≠ (hourBucket quarterToOne).instant := by decide
  refine ⟨by decide, hapart, u, u', hu, hu', ?_, ?_⟩
  · exact (congrArg Prod.fst hrow).trans (congrArg Prod.fst hrow').symm
  · rw [hrow, hrow']
    exact fun heq => hapart (congrArg Prod.snd heq)

end PromptGraph
