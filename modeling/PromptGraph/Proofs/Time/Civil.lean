import PromptGraph.Proofs.Json.Data
import PromptGraph.Proofs.Checked
import PromptGraph.Engine.Execution

/-!
# `Proofs.Time.Civil` — the range of timestamps

A timestamp that is read names a date of the years 1 to 9999, and its offset is less than a day, whatever form it was
written in.

## Contents
- **Range.** `Timestamp.endWall`, `Timestamp.IsCivil`; `natAbs_elapsedMicros_lt`: what lies between two of them.
- **Dates.** `dayNumber_lt`, `inTime_ofFields`.
- **Reading.** `InTime`, with a lemma for each form; `isCivil_timestamp`, and `EngineExecution.isCivil_read` for both
  ends of an execution.
-/

namespace PromptGraph

open Schema

namespace Timestamp

/-! ## Range -/

/-- The moment on the clock after the year 9999. -/
def endWall : Int := Calendar.dayNumber 10000 1 1 * microsPerDay

/-- An offset of less than a day, if any. -/
def IsOffset (offset : Option Int) : Prop := ∀ seconds ∈ offset, -86400 < seconds ∧ seconds < 86400

/-- A timestamp of the years 1 to 9999 with an offset of less than a day, if any. -/
structure IsCivil (t : Timestamp) : Prop where
  first : firstWall ≤ t.wall
  last : t.wall < endWall
  offset : IsOffset t.offset

theorem isOffset_none : IsOffset none := nofun

theorem isOffset_zero : IsOffset (some 0) := by
  rintro seconds ⟨⟩
  decide

/-- A timestamp is off its wall time by less than a day. -/
theorem instant_bounds {t : Timestamp} (h : t.IsCivil) :
    firstWall - microsPerDay < t.instant ∧ t.instant < endWall + microsPerDay := by
  have hday : microsPerDay = 86400 * microsPerSecond := rfl
  have hsecond : microsPerSecond = 1000000 := rfl
  have hoffset : -86400 < t.offset.getD 0 ∧ t.offset.getD 0 < 86400 := by
    cases hoff : t.offset with
    | none => decide
    | some seconds => exact h.offset seconds hoff
  have hfirst := h.first
  have hlast := h.last
  rw [instant, hday, hsecond]
  omega

/-- **Fewer than `2 ^ 60` microseconds lie between two timestamps.** -/
theorem natAbs_elapsedMicros_lt {start finish : Timestamp} (hstart : start.IsCivil) (hfinish : finish.IsCivil) :
    (start.elapsedMicros finish).natAbs < 2 ^ 60 := by
  obtain ⟨hslow, hshigh⟩ := instant_bounds hstart
  obtain ⟨hflow, hfhigh⟩ := instant_bounds hfinish
  have hspan : endWall - firstWall + 2 * microsPerDay < 2 ^ 60 := by decide
  unfold elapsedMicros
  omega

/-! ## Dates -/

/-- The days before a year of an era of 400 years. -/
theorem daysBefore_le (year : Int) (hnonneg : 0 ≤ year) (hle : year ≤ 399) :
    year * 365 + year / 4 - year / 100 ≤ 145731 ∧ (year ≤ 398 → year * 365 + year / 4 - year / 100 ≤ 145369) := by
  have hother : year ≤ 398 → year * 365 + year / 4 - year / 100 ≤ 145369 := by omega
  refine ⟨?_, hother⟩
  rcases hle.eq_or_lt with rfl | hlt
  · decide
  · have hbound := hother (by omega)
    omega

/-- A date up to the year 9999 comes before the year 10000. -/
theorem dayNumber_lt {year month day : Nat} (hyear : year ≤ 9999) (hmonth : month ≤ 12) (hday : day ≤ 31) :
    Calendar.dayNumber year month day < Calendar.dayNumber 10000 1 1 := by
  have hend : Calendar.dayNumber 10000 1 1 = 24 * 146097 + 145731 + 306 - 719468 := by decide
  rw [hend]
  unfold Calendar.dayNumber
  simp only [Int.fdiv_eq_ediv_of_nonneg _ (show (0 : Int) ≤ 400 by decide)]
  -- years begin in March: January and February are the last months of the year before
  split
  next hearly =>
    have hmonths : (153 * (((month + 9) % 12 : Nat) : Int) + 2) / 5 ≤ 337 := by omega
    obtain ⟨hdays, hearlier⟩ := daysBefore_le ((year : Int) - 1 - ((year : Int) - 1) / 400 * 400) (by omega) (by omega)
    omega
  next hlate =>
    have hmonths : (153 * (((month + 9) % 12 : Nat) : Int) + 2) / 5 ≤ 275 := by
      have hfromMarch : (month + 9) % 12 = month - 3 := by omega
      omega
    obtain ⟨hdays, -⟩ := daysBefore_le ((year : Int) - (year : Int) / 400 * 400) (by omega) (by omega)
    omega

theorem monthLength_le {year month : Nat} : Calendar.monthLength year month ≤ 31 := by
  unfold Calendar.monthLength
  split <;> (try split) <;> decide

theorem month_le {year month day : Nat} (hlow : 1 ≤ day) (hhigh : day ≤ Calendar.monthLength year month) :
    month ≤ 12 := by
  by_contra hgt
  have hnone : Calendar.monthLength year month = 0 := by
    unfold Calendar.monthLength
    split <;> omega
  omega

/-- What is before the year 10000, and off by less than a day. -/
def InTime (t : Timestamp) : Prop := t.wall < endWall ∧ IsOffset t.offset

theorem inTime_ofFields {year month day hour minute second micro : Nat} {offset : Option Int} (hyear : year ≤ 9999)
    (hmonth : month ≤ 12) (hday : day ≤ 31) (hhour : hour < 24) (hminute : minute < 60) (hsecond : second < 60)
    (hmicro : micro < 1000000) (hoffset : IsOffset offset) :
    InTime (ofFields year month day hour minute second micro offset) := by
  refine ⟨?_, hoffset⟩
  have hdays := dayNumber_lt hyear hmonth hday
  have hperDay : microsPerDay = 86400000000 := rfl
  have hperSecond : microsPerSecond = 1000000 := rfl
  unfold ofFields endWall
  rw [hperDay, hperSecond]
  generalize Calendar.dayNumber year month day = days at *
  generalize Calendar.dayNumber 10000 1 1 = bound at *
  push_cast
  omega

/-! ## Reading -/

theorem digits?_lt {width n : Nat} {cs rest : List Char} (h : digits? width cs = some (n, rest)) : n < 10 ^ width := by
  unfold digits? at h
  dsimp only at h
  split at h
  next hdigits =>
    cases h
    rw [Bool.and_eq_true, decide_eq_true_eq, List.all_eq_true] at hdigits
    have hlt := Json.asciiNat_lt hdigits.2
    rwa [hdigits.1] at hlt
  next => cases h

/-- A date that is read exists. -/
theorem date?_bounds {cs rest : List Char} {year month day : Nat} (h : date? cs = some ((year, month, day), rest)) :
    year ≤ 9999 ∧ month ≤ 12 ∧ day ≤ 31 := by
  simp only [date?, Option.bind_eq_bind, Option.bind_eq_some_iff] at h
  obtain ⟨⟨y, afterYear⟩, hyear, _, -, ⟨mo, afterMonth⟩, hmonth, _, -, ⟨d, afterDay⟩, hday, h⟩ := h
  split at h
  next hexists =>
    cases h
    have hlt := digits?_lt hyear
    exact ⟨by omega, month_le hexists.1 hexists.2, hexists.2.trans monthLength_le⟩
  next => cases h

theorem fraction?_lt {cs rest : List Char} {micro : Nat} (h : fraction? cs = some (micro, rest)) : micro < 1000000 := by
  unfold fraction? at h
  split at h
  next c after =>
    split at h
    next hmark =>
      dsimp only at h
      split at h
      next => cases h
      next hsome =>
        cases h
        have hdigits : Json.Digits (after.takeWhile Json.isAsciiDigit ++ List.replicate 6 '0') :=
          Json.digits_append.mpr ⟨fun _ hc => List.mem_takeWhile_imp hc, Json.digits_zeros 6⟩
        have hsix : Json.Digits ((after.takeWhile Json.isAsciiDigit ++ List.replicate 6 '0').take 6) :=
          fun _ hc => hdigits _ (List.mem_of_mem_take hc)
        refine (Json.asciiNat_lt hsix).trans_le ?_
        exact Nat.pow_le_pow_right (by decide) (List.length_take_le ..)
    next =>
      cases h
      decide
  next =>
    cases h
    decide

theorem seconds?_lt {cs rest : List Char} {second micro : Nat} (h : seconds? cs = some ((second, micro), rest)) :
    second < 60 ∧ micro < 1000000 := by
  unfold seconds? at h
  split at h
  next after =>
    simp only [Option.bind_eq_bind, Option.bind_eq_some_iff] at h
    obtain ⟨⟨n, afterSecond⟩, -, ⟨k, afterFraction⟩, hfraction, h⟩ := h
    split at h
    next hlt =>
      cases h
      exact ⟨hlt, fraction?_lt hfraction⟩
    next => cases h
  next =>
    cases h
    decide

theorem isOffset_of_offset? {cs : List Char} {offset : Option Int} (h : offset? false cs = some offset) :
    IsOffset offset := by
  unfold offset? at h
  split at h
  next => cases h; exact isOffset_none
  next => cases h; exact isOffset_zero
  next => cases h; exact isOffset_zero
  next sign rest =>
    split at h
    next hsign =>
      simp only [Option.bind_eq_bind, Option.bind_eq_some_iff] at h
      obtain ⟨⟨hours, afterHours⟩, -, ⟨minutes, afterMinutes⟩, -, h⟩ := h
      -- seconds would have to be allowed
      split at h
      next => cases h
      next =>
        simp only [Option.bind_some] at h
        split at h
        next hlt =>
          cases h
          rintro seconds ⟨⟩
          split <;> omega
        next => cases h
    next => cases h

theorem inTime_of_ofIsoChars? {cs : List Char} {t : Timestamp} (h : ofIsoChars? false cs = some t) : InTime t := by
  simp only [ofIsoChars?, Option.bind_eq_bind, Option.bind_eq_some_iff] at h
  obtain ⟨⟨⟨year, month, day⟩, rest⟩, hdate, h⟩ := h
  obtain ⟨hyear, hmonth, hday⟩ := date?_bounds hdate
  dsimp only at h
  split at h
  next => cases h
  next sep rest =>
    split at h
    next =>
      simp only [Option.bind_eq_some_iff] at h
      obtain ⟨⟨hour, _⟩, -, _, -, ⟨minute, _⟩, -, ⟨⟨second, micro⟩, _⟩, hseconds, offset, hoffset, h⟩ := h
      split at h
      next hlt =>
        cases h
        obtain ⟨hsecond, hmicro⟩ := seconds?_lt hseconds
        exact inTime_ofFields hyear hmonth hday hlt.1 hlt.2 hsecond hmicro (isOffset_of_offset? hoffset)
      next => cases h
    next => cases h

theorem inTime_of_ofDate? {cs : List Char} {t : Timestamp} (h : ofDate? cs = some t) : InTime t := by
  simp only [ofDate?, Option.bind_eq_bind, Option.bind_eq_some_iff] at h
  obtain ⟨⟨⟨year, month, day⟩, rest⟩, hdate, h⟩ := h
  obtain ⟨hyear, hmonth, hday⟩ := date?_bounds hdate
  dsimp only at h
  split at h
  next =>
    cases h
    exact inTime_ofFields hyear hmonth hday (by decide) (by decide) (by decide) (by decide) isOffset_none
  next => cases h

theorem inTime_of_ofMicros? {total : Int} {t : Timestamp} (h : ofMicros? total = some t) : InTime t := by
  unfold ofMicros? at h
  dsimp only at h
  split at h
  next hrange =>
    cases h
    refine ⟨?_, isOffset_zero⟩
    have hend : endWall = (lastSecond + 1) * 1000000 := by decide
    have hsecond : microsPerSecond = 1000000 := rfl
    rw [hsecond, Int.fdiv_eq_ediv_of_nonneg _ (by decide)] at hrange
    show total < endWall
    omega
  next => cases h

theorem inTime_of_ofDouble? {x : Double} {t : Timestamp} (h : ofDouble? x = some t) : InTime t := by
  simp only [ofDouble?, Option.bind_eq_bind, Option.bind_eq_some_iff] at h
  obtain ⟨_, -, _, -, _, -, h⟩ := h
  exact inTime_of_ofMicros? h

theorem inTime_of_ofNumeral? {cs : List Char} {t : Timestamp} (h : ofNumeral? cs = some t) : InTime t := by
  unfold ofNumeral? at h
  dsimp only at h
  split at h
  next =>
    split at h
    next => cases h
    next => exact inTime_of_ofMicros? h
  next =>
    obtain ⟨x, -, hx⟩ := Option.bind_eq_some_iff.mp h
    exact inTime_of_ofDouble? hx
  next => cases h

theorem inTime_of_ofText? {s : String} {t : Timestamp} (h : ofText? s = some t) : InTime t := by
  unfold ofText? at h
  cases hiso : ofIsoChars? false s.toList with
  | some t' =>
      simp only [hiso] at h
      cases h
      exact inTime_of_ofIsoChars? hiso
  | none =>
      cases hnumeral : ofNumeral? s.toList with
      | some t' =>
          simp only [hiso, hnumeral] at h
          cases h
          exact inTime_of_ofNumeral? hnumeral
      | none =>
          simp only [hiso, hnumeral] at h
          exact inTime_of_ofDate? h

/-- What is read is in the calendar too. -/
theorem isCivil_of_inCalendar {t t' : Timestamp} (ht : InTime t) (h : inCalendar t = .ok t') : t'.IsCivil := by
  unfold inCalendar at h
  split at h
  next hfirst =>
    cases h
    exact ⟨of_decide_eq_true hfirst, ht.1, ht.2⟩
  next => cases h

/-- **A timestamp that is read is civil.** -/
theorem isCivil_timestamp {v : Json} {t : Timestamp} (h : timestamp v = .ok t) : t.IsCivil := by
  unfold timestamp at h
  split at h
  next s =>
    split at h
    next t' ht => exact isCivil_of_inCalendar (inTime_of_ofText? ht) h
    next => cases h
  next n =>
    split at h
    next t' ht => exact isCivil_of_inCalendar (inTime_of_ofMicros? ht) h
    next => cases h
  next x =>
    split at h
    next t' ht => exact isCivil_of_inCalendar (inTime_of_ofDouble? ht) h
    next => cases h
  next => cases h

theorem isCivil_nullable {ms : Members} {name : String} {read : Option Timestamp}
    (h : nullable ms name timestamp = .ok read) : ∀ t ∈ read, t.IsCivil := by
  unfold nullable at h
  cases hget : Members.get? name ms with
  | none =>
      rw [withDefault_of_none hget] at h
      cases h
      nofun
  | some v =>
      rw [withDefault_of_some hget] at h
      unfold Schema.optional at h
      split at h
      next => cases h; nofun
      next =>
        obtain ⟨t, ht, rfl⟩ := Checked.map_eq_ok.mp h
        rintro _ ⟨⟩
        exact isCivil_timestamp ht

end Timestamp

/-- **Both ends of an execution that is read are civil.** -/
theorem EngineExecution.isCivil_read {v : Json} {e : EngineExecution} (h : EngineExecution.read v = .ok e) :
    (∀ t ∈ e.startedAt, t.IsCivil) ∧ ∀ t ∈ e.stoppedAt, t.IsCivil := by
  have hread := Checked.toExcept_eq_ok.mp h
  simp only [readExecution, Checked.andThen_eq_ok, Checked.seq_eq_ok, Checked.map_eq_ok] at hread
  -- the fields from the last one on
  obtain ⟨ms, -, _, _, ⟨_, _, ⟨_, _, ⟨_, _, ⟨_, _, hbefore, hstarted, rfl⟩, hstopped, rfl⟩, -, rfl⟩, -, rfl⟩, -, rfl⟩ :=
    hread
  obtain ⟨_, _, ⟨_, _, ⟨_, _, ⟨_, -, rfl⟩, -, rfl⟩, -, rfl⟩, -, rfl⟩ := hbefore
  exact ⟨Timestamp.isCivil_nullable hstarted, Timestamp.isCivil_nullable hstopped⟩

end PromptGraph
