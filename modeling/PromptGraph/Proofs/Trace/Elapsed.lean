import PromptGraph.Proofs.Time.Civil
import PromptGraph.Proofs.Trace.Measured
import PromptGraph.Proofs.Trace.Millis

/-!
# `Proofs.Trace.Elapsed` — the duration of an execution

The duration is meant to be the elapsed time in whole milliseconds. By way of rounded seconds it is that for most spans,
and one millisecond off otherwise; which spans those are is decided by the two roundings alone.

## Contents
- **Spans.** `KeepsMillis`: a span is reported exactly; `IsDuration`, with one field for each kind of span, and
  `isDuration_elapsedMillis`.
- **Executions.** `yields_duration`; `duration_reported`, with both ends from any clock; `duration_of_read`.
-/

namespace PromptGraph

/-! ## Spans -/

/-- A span goes back in time, or it attains its milliseconds and not the next. -/
def KeepsMillis (micros : Int) : Prop :=
  micros ≤ 0 ∨ (micros.toNat / 1000 = 0 ∨ Attains micros.toNat (micros.toNat / 1000))
    ∧ ¬ Attains micros.toNat (micros.toNat / 1000 + 1)

/-- What is reported of a span in microseconds. -/
structure IsDuration (micros duration : Int) : Prop where
  /-- A span is reported exactly, toward zero and not below it, if and only if it keeps its milliseconds. -/
  exact_iff : duration = max 0 (micros.tdiv 1000) ↔ KeepsMillis micros
  /-- A whole number of milliseconds is reported as it is unless it falls short, and then as one less. -/
  whole : ∀ millis : Nat, micros = 1000 * millis → duration = if FallsShort millis then (millis : Int) - 1 else millis
  /-- A span with a part of a millisecond is reported exactly for more than two centuries and a half. -/
  part : micros % 1000 ≠ 0 → micros < 2 ^ 33 * 1000000 → duration = max 0 (micros.tdiv 1000)
  /-- No span is reported with an error of more than a millisecond. -/
  near : (duration - max 0 (micros.tdiv 1000)).natAbs ≤ 1

/-- **What is reported of every span that is shorter than `2 ^ 60` microseconds.** -/
theorem isDuration_elapsedMillis {micros : Int} (hlt : micros.natAbs < 2 ^ 60) :
    IsDuration micros (max 0 (elapsedMillis micros)) := by
  rcases le_or_gt micros 0 with hback | hforth
  · -- back in time
    have helapsed : max 0 (elapsedMillis micros) = 0 := max_eq_left (elapsedMillis_nonpos hback)
    have hquotient : max 0 (micros.tdiv 1000) = 0 := by
      have hnonneg : 0 ≤ (-micros).tdiv 1000 := Int.tdiv_nonneg (by omega) (by decide)
      rw [Int.neg_tdiv] at hnonneg
      omega
    rw [helapsed]
    refine ⟨iff_of_true hquotient.symm (.inl hback), fun millis hmillis => ?_, fun _ _ => hquotient.symm, by omega⟩
    obtain rfl : millis = 0 := by omega
    decide
  · obtain ⟨n, rfl⟩ : ∃ n : Nat, micros = n := ⟨micros.toNat, by omega⟩
    have hpos : n ≠ 0 := by omega
    rw [Int.natAbs_natCast] at hlt
    have hquotient : max 0 ((n : Int).tdiv 1000) = (n / 1000 : ℕ) := max_eq_right (Int.natCast_nonneg (n / 1000))
    obtain ⟨t, helapsed, hlow, hhigh⟩ := elapsedMillis_near hpos hlt
    have hmax : max 0 (elapsedMillis n) = elapsedMillis n := by omega
    rw [hmax]
    refine ⟨?_, fun millis hmillis => ?_, fun hpart hshort => ?_, by omega⟩
    · have hforward : ¬ (n : Int) ≤ 0 := by omega
      rw [hquotient, elapsedMillis_eq_iff hpos hlt, KeepsMillis, Int.toNat_natCast, or_iff_right hforward]
    · obtain rfl : n = 1000 * millis := by omega
      exact elapsedMillis_whole hlt
    · rw [hquotient]
      exact elapsedMillis_part (by omega) (by omega)

/-! ## Executions -/

/-- What holds of the duration is told of an execution, as its duration and as its latency. -/
theorem yields_duration {P : Int → Prop} {e : EngineExecution} {now : Timestamp} (rate : Number)
    (h : P (duration e now)) :
    Yields (∀ item ∈ allItems e, Measurable rate item) (fun m => P m.duration ∧ m.latency = m.duration)
      (extractMetrics e rate now) :=
  (yields_tally (allItems e)).map fun _ _ => ⟨_, rfl, h, rfl⟩

theorem isDuration_duration {e : EngineExecution} {start now : Timestamp} (hstarted : e.startedAt = some start)
    (hstart : start.IsCivil) (hend : (e.stoppedAt.getD now).IsCivil) :
    IsDuration (start.elapsedMicros (e.stoppedAt.getD now)) (duration e now) := by
  rw [duration, hstarted]
  exact isDuration_elapsedMillis (Timestamp.natAbs_elapsedMicros_lt hstart hend)

/-- **The duration of every execution that has been started**, between two civil timestamps. It is measured exactly if
    each of its items can be, and what is reported then is decided by the two instants alone. -/
theorem duration_reported {e : EngineExecution} {start : Timestamp} {now : Timestamp} (rate : Number)
    (hstarted : e.startedAt = some start) (hstart : start.IsCivil) (hend : (e.stoppedAt.getD now).IsCivil) :
    Yields (∀ item ∈ allItems e, Measurable rate item)
      (fun m => IsDuration (start.elapsedMicros (e.stoppedAt.getD now)) m.duration ∧ m.latency = m.duration)
      (extractMetrics e rate now) :=
  yields_duration rate (isDuration_duration hstarted hstart hend)

/-- An execution between two timestamps, without run data. -/
def spanning (start : Timestamp) (stop : Option Timestamp) : EngineExecution :=
  ⟨"1", true, none, none, some start, stop, none, none, none⟩

/-- Half past twelve on 1 May 2024, on a clock without offset. -/
def halfPast : Timestamp := ⟨1714566600000000, none⟩

/-- One second and 500.999 milliseconds after that, on a clock that is two hours ahead of universal time. -/
def laterAhead : Timestamp := ⟨1714573801500999, some 7200⟩

theorem duration_reported_open : ∃ m, extractMetrics (spanning halfPast none) (.int 0) laterAhead = .ok m
    ∧ m.duration = 1500 ∧ IsDuration 1500999 m.duration := by
  have hstart : halfPast.IsCivil := ⟨by decide, by decide, nofun⟩
  have hend : laterAhead.IsCivil := ⟨by decide, by decide, by rintro seconds ⟨⟩; decide⟩
  have hreported : Yields _ _ (extractMetrics (spanning halfPast none) (.int 0) laterAhead) :=
    duration_reported (.int 0) rfl hstart hend
  obtain ⟨m, hm, hduration, -⟩ := hreported.ok nofun
  exact ⟨m, hm, hduration.part (by decide) (by decide), hduration⟩

/-- The timestamps of an execution that is read are civil: **its duration is reported** so, whatever the engine
    wrote. -/
theorem duration_of_read {v : Json} {e : EngineExecution} (hread : EngineExecution.read v = .ok e) {start : Timestamp}
    (hstarted : e.startedAt = some start) {now : Timestamp} (hnow : now.IsCivil) (rate : Number) :
    Yields (∀ item ∈ allItems e, Measurable rate item)
      (fun m => IsDuration (start.elapsedMicros (e.stoppedAt.getD now)) m.duration ∧ m.latency = m.duration)
      (extractMetrics e rate now) := by
  obtain ⟨hstart, hstop⟩ := EngineExecution.isCivil_read hread
  have hend : (e.stoppedAt.getD now).IsCivil := by
    cases hstopped : e.stoppedAt with
    | none => exact hnow
    | some stop => exact hstop stop hstopped
  exact yields_duration rate (isDuration_duration hstarted (hstart start hstarted) hend)

/-- One second and one millisecond after half past twelve. -/
def secondLater : Timestamp := ⟨1714566601001000, none⟩

/-- **A span of 1001 milliseconds is reported as 1000.** -/
theorem second_and_millisecond_falls_short :
    max 0 ((halfPast.elapsedMicros secondLater).tdiv 1000) = 1001
      ∧ ∃ m, extractMetrics (spanning halfPast (some secondLater)) (.int 0) halfPast = .ok m ∧ m.duration = 1000 :=
  ⟨by decide, _, rfl, by decide⟩

end PromptGraph
