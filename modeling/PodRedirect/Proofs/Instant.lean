import Mathlib.Data.Int.Basic
import PodRedirect.Instant

/-!
# Readings of a clock that can be written

The years that are written with four digits begin and end with certain days, and so a reading is
written if it lies between two moments.

## Main definitions

* `Instant.IsDated`: the reading lies in the years 1 to 9999

## Main results

* `Date.one_le_year_ofDays_iff`, `Date.year_ofDays_lt_iff`: the first and the last of these days
* `Instant.exists_isoText_iff`: which readings are written
-/

namespace PodRedirect

/-! ## Years -/

namespace Date

/-- The year of a day by its day in a cycle of 400 years and by the day of its year and the month,
all of them counted from March. -/
theorem exists_year_ofDays (n : Int) : ∃ era d y doy month : Int,
    n + 719468 = era * 146097 + d ∧ 0 ≤ d ∧ d < 146097 ∧
    y = (d - d / 1460 + d / 36524 - d / 146096) / 365 ∧
    doy = d - (365 * y + y / 4 - y / 100) ∧
    month = (5 * doy + 2) / 153 ∧
    (ofDays n).year = y + era * 400 +
      if (if month < 10 then month + 3 else month - 9) ≤ 2 then 1 else 0 := by
  refine ⟨(n + 719468) / 146097, n + 719468 - (n + 719468) / 146097 * 146097, _, _, _, by omega,
    by omega, by omega, rfl, rfl, rfl, ?_⟩
  simp (disch := decide) only [ofDays, Int.fdiv_eq_ediv_of_nonneg]

/-- The year 1 begins with its first day. -/
theorem one_le_year_ofDays_iff (n : Int) : 1 ≤ (ofDays n).year ↔ (⟨1, 1, 1⟩ : Date).days ≤ n := by
  have hfirst : (⟨1, 1, 1⟩ : Date).days = -719162 := by decide
  obtain ⟨era, d, y, doy, month, hn, hd, hlast, hy, hdoy, hmonth, hyear⟩ := exists_year_ofDays n
  rw [hyear, hfirst]
  by_cases hera : era = 0
  · by_cases hstart : d < 365
    · -- the days before the next March are those of one year
      obtain rfl : y = 0 := by omega
      split_ifs <;> omega
    · have hpos : 1 ≤ y := by omega
      split_ifs <;> omega
  · have hlower : 0 ≤ y := by omega
    have hupper : y ≤ 399 := by omega
    split_ifs <;> omega

/-- The year 9999 ends before the first day of the next one. -/
theorem year_ofDays_lt_iff (n : Int) :
    (ofDays n).year < 10000 ↔ n < (⟨10000, 1, 1⟩ : Date).days := by
  have hnext : (⟨10000, 1, 1⟩ : Date).days = 2932897 := by decide
  obtain ⟨era, d, y, doy, month, hn, hd, hlast, hy, hdoy, hmonth, hyear⟩ := exists_year_ofDays n
  rw [hyear, hnext]
  by_cases hera : era = 24
  · by_cases hstart : d < 145731
    · have hbefore : y ≤ 398 := by omega
      split_ifs <;> omega
    · -- the days after the last March are those of one year
      obtain rfl : y = 399 := by omega
      split_ifs <;> omega
  · have hlower : 0 ≤ y := by omega
    have hupper : y ≤ 399 := by omega
    split_ifs <;> omega

end Date

/-! ## Readings -/

namespace Instant

/-- The reading lies in the years 1 to 9999, to the nearest microsecond. -/
def IsDated : Instant → Prop
  | finite seconds rest =>
    -62135596800000000 ≤ seconds * 1000000 + microseconds rest ∧
      seconds * 1000000 + microseconds rest < 253402300800000000
  | _ => False

instance : DecidablePred IsDated
  | finite _ _ => inferInstanceAs (Decidable (_ ∧ _))
  | infinite => inferInstanceAs (Decidable False)
  | unknown => inferInstanceAs (Decidable False)

/-- The years 1 to 9999 by their seconds. -/
theorem year_ofSeconds_iff (seconds : Int) :
    (1 ≤ (Moment.ofSeconds seconds).date.year ∧ (Moment.ofSeconds seconds).date.year < 10000) ↔
      -62135596800 ≤ seconds ∧ seconds < 253402300800 := by
  have hfirst : (⟨1, 1, 1⟩ : Date).days = -719162 := by decide
  have hnext : (⟨10000, 1, 1⟩ : Date).days = 2932897 := by decide
  rw [Moment.ofSeconds, Date.one_le_year_ofDays_iff, Date.year_ofDays_lt_iff, hfirst, hnext,
    Int.fdiv_eq_ediv_of_nonneg _ (by decide)]
  omega

/-- The clock has a moment for every second of these years. -/
theorem momentAt_of_year {seconds : Int}
    (h : 1 ≤ (Moment.ofSeconds seconds).date.year ∧ (Moment.ofSeconds seconds).date.year < 10000) :
    momentAt seconds = .ok (Moment.ofSeconds seconds) := by
  obtain ⟨hfirst, hlast⟩ := (year_ofSeconds_iff seconds).mp h
  -- the limits of the clock lie far beyond these years
  have hseconds : ¬ (seconds < -0x8000000000000000 || 0x8000000000000000 ≤ seconds) = true := by
    simp only [Bool.or_eq_true, decide_eq_true_eq]
    omega
  have hyear : isYear (Moment.ofSeconds seconds).date.year = true := by
    simp only [isYear, Bool.and_eq_true, decide_eq_true_eq]
    omega
  simp only [momentAt, if_neg hseconds, hyear, Bool.not_true, Bool.false_eq_true, if_false]

theorem eq_ofSeconds_of_momentAt {seconds : Int} {m : Moment} (h : momentAt seconds = .ok m) :
    m = Moment.ofSeconds seconds := by
  simp only [momentAt] at h
  split_ifs at h
  exact (Except.ok.inj h).symm

/-- **The readings of the years 1 to 9999 are written**, and no others. -/
theorem exists_isoText_iff (i : Instant) : (∃ text, i.isoText = .ok text) ↔ i.IsDated := by
  cases i with
  | infinite => exact ⟨fun h => h.elim nofun, False.elim⟩
  | unknown => exact ⟨fun h => h.elim nofun, False.elim⟩
  | finite seconds rest =>
    have hmicros : ∀ total : Int, (-62135596800 ≤ total.fdiv 1000000 ∧
        total.fdiv 1000000 < 253402300800) ↔
          -62135596800000000 ≤ total ∧ total < 253402300800000000 := by
      intro total
      rw [Int.fdiv_eq_ediv_of_nonneg _ (by decide)]
      omega
    rw [IsDated, ← hmicros, ← year_ofSeconds_iff]
    simp only [isoText]
    generalize (seconds * 1000000 + microseconds rest).fdiv 1000000 = n
    constructor
    · rintro ⟨text, htext⟩
      cases hm : momentAt n with
      | error f =>
        rw [hm] at htext
        cases htext
      | ok m =>
        obtain rfl := eq_ofSeconds_of_momentAt hm
        simp only [hm, bind, Except.bind] at htext
        split_ifs at htext with hyear
        simp only [Bool.or_eq_true, decide_eq_true_eq] at hyear
        omega
    · intro h
      have hyear : ¬ ((Moment.ofSeconds n).date.year < 1 ||
          9999 < (Moment.ofSeconds n).date.year) = true := by
        simp only [Bool.or_eq_true, decide_eq_true_eq]
        omega
      simp only [momentAt_of_year h, bind, Except.bind, if_neg hyear]
      exact ⟨_, rfl⟩

end Instant

end PodRedirect
