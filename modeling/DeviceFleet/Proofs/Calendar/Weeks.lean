import DeviceFleet.Proofs.Calendar.DayNumbers
import DeviceFleet.Datastore.Index

/-!
# Weeks of the year

`weekOfYear` numbers a week in the year of its Saturday (`weekOfYear_eq`); week numbers run
from 1 to 53 (`weekOfYear_numbers_weeks`), and index names exist for every instant the
calendar holds but the weekly ones of its last two days (`indexName_exits`).
-/

namespace DeviceFleet.Calendar

def Date.weekStart (d : Date) : Int := d.toDays - d.weekdayFromSunday

def Date.addDays (d : Date) (n : Int) : Date := Date.ofDays (d.toDays + n)

theorem Date.weekStart_eq (d : Date) : d.weekStart = d.toDays - (d.toDays + 4) % 7 := by
  simp only [Date.weekStart, Date.weekdayFromSunday]
  omega

theorem weekOfYear_error {d : Date} {e : String} (h : weekOfYear d = .error e) :
    e = pastLastDate := by
  dsimp only [weekOfYear] at h
  split at h
  · cases h
    rfl
  · split at h <;> cases h

theorem newYear_weekStart (y : Int) :
    (⟨y, 1, 1⟩ : Date).weekStart = newYear y - (newYear y + 4) % 7 :=
  Date.weekStart_eq _

theorem Date.toDays_addDays (d : Date) (n : Int) : (d.addDays n).toDays = d.toDays + n :=
  toDays_ofDays _

/-- The week of a date numbered as `weekOfYear` does: in the year of its Saturday, counting
from the week of that year's January 1st. -/
theorem weekOfYear_eq {d : Date} (hd : d.Shaped) :
    weekOfYear d =
      if maxDays < d.weekStart + 6 then .error pastLastDate
      else .ok ((Date.ofDays (d.weekStart + 6)).year,
        ((d.weekStart - (⟨(Date.ofDays (d.weekStart + 6)).year, 1, 1⟩ : Date).weekStart) / 7
          + 1).toNat) := by
  have hsat : d.toDays + ((6 - d.weekdayFromSunday : Nat) : Int) = d.weekStart + 6 := by
    simp only [Date.weekStart, Date.weekdayFromSunday]
    omega
  simp only [weekOfYear, hsat, gt_iff_lt]
  split
  · rfl
  · obtain ⟨hz0, hz1⟩ := hd.toDays_mem
    have hs := Date.weekStart_eq d
    have hnext := newYear_succ (d.year + 1)
    rw [newYear_weekStart]
    by_cases hroll : newYear (d.year + 1) ≤ d.weekStart + 6
    · -- the Saturday is in the next year, whose January 1st falls in this week
      have hy : (Date.ofDays (d.weekStart + 6)).year = d.year + 1 :=
        year_ofDays_eq hroll (by omega)
      rw [if_pos (by omega), hy]
      congr 2
      omega
    · have hy : (Date.ofDays (d.weekStart + 6)).year = d.year :=
        year_ofDays_eq (by omega) (by omega)
      rw [if_neg (by omega), hy]
      change Except.ok (d.year, ((d.toDays - newYear d.year).toNat +
        ((newYear d.year + 4) % 7).toNat) / 7 + 1) = _
      congr 2
      omega

theorem weekNumber_bounds {s y : Int} (hs : (s + 4) % 7 = 0) (h1 : newYear y ≤ s + 6)
    (h2 : s + 6 < newYear (y + 1)) :
    1 ≤ ((s - (⟨y, 1, 1⟩ : Date).weekStart) / 7 + 1).toNat ∧
      ((s - (⟨y, 1, 1⟩ : Date).weekStart) / 7 + 1).toNat ≤ 53 := by
  have := newYear_succ y
  rw [newYear_weekStart]
  omega

theorem weekYear_of_newYear {s y : Int} (hs : (⟨y, 1, 1⟩ : Date).weekStart = s) :
    (Date.ofDays (s + 6)).year = y ∧
      ((s - (⟨y, 1, 1⟩ : Date).weekStart) / 7 + 1).toNat = 1 := by
  have := newYear_succ y
  rw [newYear_weekStart] at hs
  refine ⟨year_ofDays_eq (by omega) (by omega), ?_⟩
  rw [newYear_weekStart]
  omega

theorem weekYear_next {s : Int}
    (hno : ∀ y : Int, (⟨y, 1, 1⟩ : Date).weekStart ≠ s + 7) (hs : (s + 4) % 7 = 0) :
    (Date.ofDays (s + 13)).year = (Date.ofDays (s + 6)).year := by
  obtain ⟨h1, h2⟩ := year_ofDays_mem (s + 6)
  apply year_ofDays_eq (by omega)
  by_contra hlate
  -- the next January 1st then falls within the week after
  have hin := hno ((Date.ofDays (s + 6)).year + 1)
  rw [newYear_weekStart] at hin
  omega

/-- Weeks are numbered consecutively: for a date whose week and the week after end by the
calendar's last date, `weekOfYear` gives a number from 1 to 53; the same number to every
date of that week; week 1 of a year to the week of its January 1st; and to the week after,
week 1 of the year whose January 1st it holds, or else the next number of the same year. -/
theorem weekOfYear_numbers_weeks (d : Date) (hd : d.Valid) (hend : d.toDays + 13 ≤ maxDays) :
    ∃ y w, weekOfYear d = .ok (y, w) ∧ 1 ≤ w ∧ w ≤ 53 ∧
      (∀ e : Date, e.Valid → e.weekStart = d.weekStart → weekOfYear e = .ok (y, w)) ∧
      (∀ y' : Int, (⟨y', 1, 1⟩ : Date).weekStart = d.weekStart → (y, w) = (y', 1)) ∧
      (∀ y' : Int, (⟨y', 1, 1⟩ : Date).weekStart = (d.addDays 7).weekStart →
        weekOfYear (d.addDays 7) = .ok (y', 1)) ∧
      ((∀ y' : Int, (⟨y', 1, 1⟩ : Date).weekStart ≠ (d.addDays 7).weekStart) →
        weekOfYear (d.addDays 7) = .ok (y, w + 1)) := by
  have hshape := hd.shaped.1
  have hs := Date.weekStart_eq d
  have hs7 : (d.addDays 7).weekStart = d.weekStart + 7 := by
    rw [Date.weekStart_eq, Date.toDays_addDays]
    omega
  have hsun : (d.weekStart + 4) % 7 = 0 := by omega
  have hfits : ¬ maxDays < d.weekStart + 6 := by omega
  have hfits7 : ¬ maxDays < d.weekStart + 7 + 6 := by omega
  have hweek := weekOfYear_eq hshape
  have hweek7 := weekOfYear_eq (ofDays_shaped (d.toDays + 7))
  rw [if_neg hfits] at hweek
  rw [show Date.ofDays (d.toDays + 7) = d.addDays 7 from rfl, hs7, if_neg hfits7,
    show d.weekStart + 7 + 6 = d.weekStart + 13 by omega] at hweek7
  obtain ⟨hy1, hy2⟩ := year_ofDays_mem (d.weekStart + 6)
  obtain ⟨hw1, hw53⟩ := weekNumber_bounds hsun hy1 hy2
  refine ⟨_, _, hweek, hw1, hw53, ?_, ?_, ?_, ?_⟩
  · intro e he hse
    rw [weekOfYear_eq he.shaped.1, hse, if_neg hfits]
  · intro y' hy'
    obtain ⟨hY, hw⟩ := weekYear_of_newYear hy'
    rw [hY, hw]
  · intro y' hy'
    rw [hs7] at hy'
    obtain ⟨hY, hw⟩ := weekYear_of_newYear hy'
    rw [hweek7, show d.weekStart + 13 = d.weekStart + 7 + 6 by omega, hY, hw]
  · intro hno
    simp only [hs7] at hno
    rw [hweek7, weekYear_next hno hsun, newYear_weekStart]
    congr 2
    omega

/-- The numbering at the last day of 2017, whose Sunday week holds 1 January 2018. -/
theorem weeks_numbered_across_new_year :
    Date.Valid ⟨2017, 12, 31⟩ ∧ (⟨2017, 12, 31⟩ : Date).toDays + 13 ≤ maxDays ∧
      ∃ y w, weekOfYear ⟨2017, 12, 31⟩ = .ok (y, w) ∧ 1 ≤ w ∧ w ≤ 53 ∧
        (∀ e : Date, e.Valid → e.weekStart = (⟨2017, 12, 31⟩ : Date).weekStart →
          weekOfYear e = .ok (y, w)) ∧
        (∀ y' : Int, (⟨y', 1, 1⟩ : Date).weekStart = (⟨2017, 12, 31⟩ : Date).weekStart →
          (y, w) = (y', 1)) ∧
        (∀ y' : Int, (⟨y', 1, 1⟩ : Date).weekStart =
            ((⟨2017, 12, 31⟩ : Date).addDays 7).weekStart →
          weekOfYear ((⟨2017, 12, 31⟩ : Date).addDays 7) = .ok (y', 1)) ∧
        ((∀ y' : Int, (⟨y', 1, 1⟩ : Date).weekStart ≠
            ((⟨2017, 12, 31⟩ : Date).addDays 7).weekStart) →
          weekOfYear ((⟨2017, 12, 31⟩ : Date).addDays 7) = .ok (y, w + 1)) :=
  ⟨by decide, by decide, weekOfYear_numbers_weeks ⟨2017, 12, 31⟩ (by decide) (by decide)⟩

end DeviceFleet.Calendar

namespace DeviceFleet.Datastore

open Calendar

/-! ## The week of an index -/

def lastWeekFrom : Int := (⟨maxYear, 12, 30⟩ : Date).toDays * msPerDay

theorem maxDays_eq : maxDays = 95026236 := by rfl

theorem minDays_eq : minDays = -96465292 := by rfl

theorem lastWeekFrom_eq : lastWeekFrom = (maxDays - 1) * msPerDay := by rfl

theorem weekOfYear_dateOfMillis {ms : Int} (h : instantHeld ms = true) :
    weekOfYear (dateHourOfMillis ms).1 = .error pastLastDate ↔ lastWeekFrom ≤ ms := by
  simp only [instantHeld, decide_eq_true_eq, maxDays_eq, minDays_eq, msPerDay] at h
  rw [dateHourOfMillis, weekOfYear_eq (ofDays_shaped _), Date.weekStart_eq, toDays_ofDays,
    lastWeekFrom_eq, maxDays_eq]
  simp only [msPerDay]
  by_cases hc : 95026236 < ms / 86400000 - (ms / 86400000 + 4) % 7 + 6
  · simp only [hc, ↓reduceIte, true_iff]
    omega
  · simp only [hc, ↓reduceIte, reduceCtorEq, false_iff]
    omega

/-- The name of a data index: an instant the calendar holds has one, except that a weekly
name fails on the calendar's last two days; an instant outside the calendar is refused with
its own timestamp. -/
theorem indexName_exits (tenant : String) (ms : Int) (g : Granularity) :
    (indexName tenant ms g = .ok (.error ⟨ms⟩) ↔ instantHeld ms = false) ∧
    (indexName tenant ms g = .error pastLastDate ↔
      g = .week ∧ lastWeekFrom ≤ ms ∧ instantHeld ms = true) ∧
    ((∃ name, indexName tenant ms g = .ok (.ok name)) ↔
      instantHeld ms = true ∧ ¬ (g = .week ∧ lastWeekFrom ≤ ms)) := by
  cases hheld : instantHeld ms
  · simp [indexName, hheld]
  · have hweek := weekOfYear_dateOfMillis hheld
    cases g with
    | week =>
      simp only [indexName, hheld, Bool.not_true, Bool.false_eq_true, if_false, true_and,
        and_true, reduceCtorEq, iff_false]
      cases hw : weekOfYear (dateHourOfMillis ms).1 with
      | error e =>
        obtain rfl := weekOfYear_error hw
        simp only [hw, true_iff] at hweek
        simp [hweek]
      | ok yw =>
        simp only [hw, reduceCtorEq, false_iff] at hweek
        simp [hweek]
    | day => simp [indexName, hheld]
    | hour => simp [indexName, hheld]

/-- A weekly name for the last millisecond the calendar holds fails: its week's Saturday is
past the calendar's last date. -/
theorem weekly_name_fails_on_last_day :
    indexName "acme" 8210266876799999 .week = .error pastLastDate := by
  rfl

end DeviceFleet.Datastore
