import DeviceFleet.Calendar.Date
import Mathlib.Tactic.IntervalCases

/-!
# Day numbers of civil dates

Every day number reads back (`toDays_ofDays`), and its year is the one whose January 1st comes
at or before it and whose successor's after (`year_ofDays_eq`).
-/

namespace DeviceFleet.Calendar

def newYear (y : Int) : Int := (⟨y, 1, 1⟩ : Date).toDays

def Date.Shaped (d : Date) : Prop :=
  1 ≤ d.month ∧ d.month ≤ 12 ∧ 1 ≤ d.day ∧ d.day ≤ 31

def Date.Valid (d : Date) : Prop :=
  Date.ofYmd? d.year d.month d.day = some d

instance (d : Date) : Decidable d.Valid := inferInstanceAs (Decidable (_ = _))

/-! ## Eras -/

/-- A day of an era, other than the era's last, lies in century `f`, four-year block `k`
and year `j` of that block, with `r` days into that year; the era's year formula finds
year `100 f + 4 k + j`. -/
theorem yearOfEra_split (doe : Int) (h0 : 0 ≤ doe) (h1 : doe < 146096) :
    ∃ f k j r : Int, 0 ≤ f ∧ f ≤ 3 ∧ 0 ≤ k ∧ k ≤ 24 ∧ 0 ≤ j ∧ j ≤ 3 ∧ 0 ≤ r ∧ r ≤ 365 ∧
      doe = 36524 * f + 1461 * k + 365 * j + r ∧
      (doe - doe / 1460 + doe / 36524 - doe / 146096) / 365 = 100 * f + 4 * k + j := by
  obtain ⟨f, hf⟩ : ∃ f, f = doe / 36524 := ⟨_, rfl⟩
  obtain ⟨k, hk⟩ : ∃ k, k = (doe - 36524 * f) / 1461 := ⟨_, rfl⟩
  obtain ⟨s, hs⟩ : ∃ s, s = doe - 36524 * f - 1461 * k := ⟨_, rfl⟩
  have hf3 : 0 ≤ f ∧ f ≤ 3 := by omega
  have hk24 : 0 ≤ k ∧ k ≤ 24 ∧ 0 ≤ s ∧ s ≤ 1460 := by omega
  -- the formula's `doe / 1460` counts the leap days so far, one too many late in a block
  have he : doe / 1460 = 25 * f + k + (24 * f + k + s) / 1460 := by omega
  have hg : doe / 146096 = 0 := by omega
  obtain ⟨δ, hδ⟩ : ∃ δ, δ = (24 * f + k + s) / 1460 := ⟨_, rfl⟩
  have hδ1 : 0 ≤ δ ∧ δ ≤ 1 ∧ (δ = 1 → 1 ≤ s) := by omega
  refine ⟨f, k, (s - δ) / 365, s - 365 * ((s - δ) / 365), ?_⟩
  omega

theorem startOfYear_eq (f k j : Int) (_ : 0 ≤ f ∧ f ≤ 3) (hk : 0 ≤ k ∧ k ≤ 24)
    (hj : 0 ≤ j ∧ j ≤ 3) :
    365 * (100 * f + 4 * k + j) + (100 * f + 4 * k + j) / 4 - (100 * f + 4 * k + j) / 100 =
      36524 * f + 1461 * k + 365 * j := by
  omega

theorem dayOfEra_bounds (doe yoe : Int) (h0 : 0 ≤ doe) (h1 : doe ≤ 146096)
    (hyoe : yoe = (doe - doe / 1460 + doe / 36524 - doe / 146096) / 365) :
    0 ≤ yoe ∧ yoe ≤ 399 ∧ 0 ≤ doe - (365 * yoe + yoe / 4 - yoe / 100) ∧
      doe - (365 * yoe + yoe / 4 - yoe / 100) ≤ 365 := by
  rcases Int.lt_or_eq_of_le h1 with hlt | rfl
  · obtain ⟨f, k, j, r, hf0, hf3, hk0, hk24, hj0, hj3, hr0, hr, rfl, hy⟩ :=
      yearOfEra_split doe h0 hlt
    rw [hy] at hyoe
    subst hyoe
    rw [startOfYear_eq f k j ⟨hf0, hf3⟩ ⟨hk0, hk24⟩ ⟨hj0, hj3⟩]
    omega
  · -- the era's last day is the leap day that ends its last year
    have : yoe = 399 := by omega
    subst this
    omega

theorem ofDays_parts (z : Int) : ∃ era yoe doy mp : Int,
    0 ≤ yoe ∧ yoe ≤ 399 ∧ 0 ≤ doy ∧ doy ≤ 365 ∧ 0 ≤ mp ∧ mp ≤ 11 ∧
    (153 * mp + 2) / 5 ≤ doy ∧ doy - (153 * mp + 2) / 5 ≤ 30 ∧
    z + 719468 = era * 146097 + (365 * yoe + yoe / 4 - yoe / 100) + doy ∧
    (Date.ofDays z).year = (if mp < 10 then yoe + era * 400 else yoe + era * 400 + 1) ∧
    ((Date.ofDays z).month : Int) = (if mp < 10 then mp + 3 else mp - 9) ∧
    ((Date.ofDays z).day : Int) = doy - (153 * mp + 2) / 5 + 1 := by
  simp only [Date.ofDays]
  generalize hera : (z + 719468) / 146097 = era
  generalize hdoe : z + 719468 - era * 146097 = doe
  generalize hyoe : (doe - doe / 1460 + doe / 36524 - doe / 146096) / 365 = yoe
  generalize hdoy : doe - (365 * yoe + yoe / 4 - yoe / 100) = doy
  generalize hmp : (5 * doy + 2) / 153 = mp
  have hb := dayOfEra_bounds doe yoe (by omega) (by omega) hyoe.symm
  refine ⟨era, yoe, doy, mp, by omega, by omega, by omega, by omega, by omega, by omega,
    by omega, by omega, by omega, ?_, ?_, ?_⟩
  · by_cases h10 : mp < 10
    · have hm : ¬ mp + 3 ≤ 2 := by omega
      simp only [h10, hm, if_true, if_false]
    · have hm : mp - 9 ≤ 2 := by omega
      simp only [h10, hm, if_true, if_false]
  · split <;> omega
  · omega

/-! ## Reading day numbers back -/

theorem toDays_ofDays (z : Int) : (Date.ofDays z).toDays = z := by
  obtain ⟨era, yoe, doy, mp, hy0, hy1, hd0, hd1, hm0, hm1, hm2, hm3, hz, hyear, hmonth, hday⟩ :=
    ofDays_parts z
  have hera : (yoe + era * 400) / 400 = era := by omega
  simp only [Date.toDays]
  -- January and February belong to the March-based year before the date's year
  by_cases h10 : mp < 10
  · have hmonth' : (Date.ofDays z).month = (mp + 3).toNat := by omega
    have hle : ¬ (Date.ofDays z).month ≤ 2 := by omega
    have hmp : (((Date.ofDays z).month + 9) % 12 : Nat) = mp.toNat := by omega
    have hy : yoe + era * 400 - era * 400 = yoe := by omega
    simp only [hle, if_false, hyear, h10, if_true, hera, hmp, hy]
    omega
  · have hle : (Date.ofDays z).month ≤ 2 := by omega
    have hmp : (((Date.ofDays z).month + 9) % 12 : Nat) = mp.toNat := by omega
    have hy : yoe + era * 400 + 1 - 1 = yoe + era * 400 := by omega
    have hy' : yoe + era * 400 - era * 400 = yoe := by omega
    simp only [hle, if_true, hyear, h10, if_false, hy, hera, hmp, hy']
    omega

theorem ofDays_shaped (z : Int) : (Date.ofDays z).Shaped := by
  obtain ⟨era, yoe, doy, mp, -, -, -, -, hm0, hm1, hm2, hm3, -, -, hmonth, hday⟩ := ofDays_parts z
  unfold Date.Shaped
  split at hmonth <;> omega

/-! ## Years -/

theorem newYear_eq (y : Int) :
    newYear y = 365 * (y - 1) + (y - 1) / 4 - (y - 1) / 100 + (y - 1) / 400 - 719162 := by
  simp only [newYear, Date.toDays]
  omega

theorem newYear_succ (y : Int) :
    365 ≤ newYear (y + 1) - newYear y ∧ newYear (y + 1) - newYear y ≤ 366 := by
  rw [newYear_eq, newYear_eq]
  omega

theorem newYear_mono {a b : Int} (h : a ≤ b) : newYear a ≤ newYear b := by
  rw [newYear_eq, newYear_eq]
  omega

theorem Date.Shaped.toDays_mem {d : Date} (hd : d.Shaped) :
    newYear d.year ≤ d.toDays ∧ d.toDays < newYear (d.year + 1) := by
  obtain ⟨y, m, dd⟩ := d
  obtain ⟨h1, h2, h3, h4⟩ := hd
  simp only at *
  rw [newYear_eq, newYear_eq]
  simp only [Date.toDays]
  interval_cases m <;> simp <;> omega

theorem year_ofDays_mem (z : Int) :
    newYear (Date.ofDays z).year ≤ z ∧ z < newYear ((Date.ofDays z).year + 1) := by
  have h := (ofDays_shaped z).toDays_mem
  rwa [toDays_ofDays] at h

theorem year_ofDays_eq {z y : Int} (h1 : newYear y ≤ z) (h2 : z < newYear (y + 1)) :
    (Date.ofDays z).year = y := by
  obtain ⟨h3, h4⟩ := year_ofDays_mem z
  rcases lt_trichotomy (Date.ofDays z).year y with hlt | heq | hgt
  · have := newYear_mono (show (Date.ofDays z).year + 1 ≤ y by omega)
    omega
  · exact heq
  · have := newYear_mono (show y + 1 ≤ (Date.ofDays z).year by omega)
    omega

/-! ## Valid dates -/

theorem Date.Valid.shaped {d : Date} (hd : d.Valid) :
    d.Shaped ∧ minYear ≤ d.year ∧ d.year ≤ maxYear := by
  unfold Date.Valid Date.ofYmd? at hd
  split at hd
  · rename_i h
    obtain ⟨hy0, hy1, hm0, hm1, hd0, hd1⟩ := h
    have hlen : monthLength d.year d.month ≤ 31 := by
      unfold monthLength; split <;> (try split) <;> omega
    exact ⟨⟨hm0, hm1, hd0, by omega⟩, hy0, hy1⟩
  · cases hd

theorem Date.Valid.toDays_mem {d : Date} (hd : d.Valid) :
    minDays ≤ d.toDays ∧ d.toDays ≤ maxDays := by
  obtain ⟨hs, hy0, hy1⟩ := hd.shaped
  obtain ⟨h1, h2⟩ := hs.toDays_mem
  have hmin : minDays = newYear minYear := rfl
  have hmax : maxDays + 1 = newYear (maxYear + 1) := by rfl
  rw [newYear_eq] at h1 h2
  rw [hmin, newYear_eq]
  constructor
  · simp only [minYear] at hy0 ⊢
    omega
  · rw [newYear_eq] at hmax
    simp only [maxYear] at hy1 hmax
    omega

end DeviceFleet.Calendar
