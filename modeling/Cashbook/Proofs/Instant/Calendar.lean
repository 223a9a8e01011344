/-
Every day has its date.

The days since the start of 1970 are counted off in four hundred years at a time, then in
centuries, in groups of four years, in years beginning in March, and in months, each the last
of its kind with what is left over (`Date.Splits`).  Nothing but the longest month of the
longest year is in doubt: a year has its three hundred and sixty-sixth day only at the end of
a group of four years, and at the end of a century only where four hundred years end too,
and those are the years before a February of twenty-nine days.
-/
import Cashbook.Instant.Calendar

namespace Cashbook.Date

/-- A day of four hundred years as a century, a group of four years, a year, and a day of it. -/
structure Splits (dayOf4 century group year day : Int) : Prop where
  centuries : 0 ≤ century ∧ century ≤ 3
  groups : 0 ≤ group ∧ group ≤ 24
  years : 0 ≤ year ∧ year ≤ 3
  days : 0 ≤ day ∧ day ≤ 365
  /-- The last day of a leap year. -/
  longest : day = 365 → year = 3 ∧ (group = 24 → century = 3)
  sum : dayOf4 = 36524 * century + 1461 * group + 365 * year + day

theorem exists_splits {dayOf4 : Int} (h0 : 0 ≤ dayOf4) (h : dayOf4 < 146097) :
    ∃ century group year day, Splits dayOf4 century group year day := by
  let century := min (dayOf4 / 36524) 3
  let ofCentury := dayOf4 - 36524 * century
  have hcentury : 0 ≤ century ∧ century ≤ 3 ∧ 0 ≤ ofCentury ∧ ofCentury ≤ 36524 ∧
      (ofCentury = 36524 → century = 3) := by omega
  let ofGroup := ofCentury % 1461
  let year := min (ofGroup / 365) 3
  have hyear : 0 ≤ year ∧ year ≤ 3 ∧ 0 ≤ ofGroup - 365 * year ∧ ofGroup - 365 * year ≤ 365 ∧
      (ofGroup - 365 * year = 365 → year = 3 ∧ ofGroup = 1460) := by omega
  exact ⟨century, ofCentury / 1461, year, ofGroup - 365 * year, by omega, by omega, by omega,
    by omega, by omega, by omega⟩

variable {days cycle century group year day : Int}

theorem Splits.yearOf4_eq {dayOf4 : Int} (h : Splits dayOf4 century group year day) :
    (dayOf4 - dayOf4 / 1460 + dayOf4 / 36524 - dayOf4 / 146096) / 365 =
      100 * century + 4 * group + year := by
  obtain ⟨hcentury, hgroup, hyear, hday, hlongest, hsum⟩ := h
  have hcenturies : (dayOf4 / 36524 = century ∧ dayOf4 / 146096 = 0) ∨
      (dayOf4 / 36524 = century + 1 ∧ dayOf4 / 146096 = 1) := by omega
  have hgroups : (dayOf4 / 1460 = 25 * century + group ∧ day ≤ 364) ∨
      (dayOf4 / 1460 = 25 * century + group + 1 ∧ 1 ≤ day) := by omega
  omega

/-- The year of a cycle, and how many leap years and centuries there were before it. -/
theorem Splits.year_eq {dayOf4 : Int} (h : Splits dayOf4 century group year day) (cycle : Int) :
    let yearOf4 := 100 * century + 4 * group + year
    (400 * cycle + yearOf4) / 400 = cycle ∧ (400 * cycle + yearOf4) % 400 = yearOf4 ∧
      yearOf4 / 4 = 25 * century + group ∧ yearOf4 / 100 = century := by
  obtain ⟨hcentury, hgroup, hyear, -, -, -⟩ := h
  refine ⟨by omega, by omega, by omega, by omega⟩

/-- A day of a year that begins in March, and the month of the year that it is in. -/
structure IsIn (month day : Int) : Prop where
  months : 0 ≤ month ∧ month ≤ 11
  from_first : 153 * month ≤ 5 * day + 2
  to_last : 5 * day + 2 < 153 * month + 153

/-- **A day has the date that its parts come to**, in the next year where it is after December. -/
theorem exists_parts (days : Int) :
    ∃ cycle century group year day month : Int,
      Splits (days + 719468 - 146097 * cycle) century group year day ∧ IsIn month day ∧
        let marchYear := 400 * cycle + (100 * century + 4 * group + year)
        let dayOfMonth := (day - (153 * month + 2) / 5 + 1).toNat
        ((month < 10 ∧ ofDays days = ⟨marchYear, (month + 3).toNat, dayOfMonth⟩) ∨
          (10 ≤ month ∧ ofDays days = ⟨marchYear + 1, (month - 9).toNat, dayOfMonth⟩)) := by
  obtain ⟨cycle, hquotient⟩ : ∃ cycle, (days + 719468) / 146097 = cycle := ⟨_, rfl⟩
  have hcycle : (days + 719468) % 146097 = days + 719468 - 146097 * cycle := by omega
  obtain ⟨century, group, year, day, hsplits⟩ :=
    exists_splits (show 0 ≤ days + 719468 - 146097 * cycle by omega) (by omega)
  have hin : IsIn ((5 * day + 2) / 153) day := by
    have hday := hsplits.days
    exact ⟨by omega, by omega, by omega⟩
  have hday : days + 719468 - 146097 * cycle - (365 * (100 * century + 4 * group + year) +
      (100 * century + 4 * group + year) / 4 - (100 * century + 4 * group + year) / 100) = day := by
    obtain ⟨-, -, hfour, hhundred⟩ := hsplits.year_eq cycle
    rw [hfour, hhundred]
    have hsum := hsplits.sum
    omega
  refine ⟨cycle, century, group, year, day, (5 * day + 2) / 153, hsplits, hin, ?_⟩
  have hmonths := hin.months
  simp only [ofDays, hquotient, hcycle, hsplits.yearOf4_eq, hday]
  by_cases hspring : (5 * day + 2) / 153 < 10
  · refine Or.inl ⟨hspring, ?_⟩
    simp only [if_pos hspring]
    rw [if_neg (by omega), Int.add_zero, Int.mul_comm]
  · refine Or.inr ⟨by omega, ?_⟩
    simp only [if_neg hspring]
    rw [if_pos (by omega), Int.mul_comm]

/-- **The date of a day has the number of the day.** -/
theorem toDays_ofDays (days : Int) : (ofDays days).toDays = days := by
  obtain ⟨cycle, century, group, year, day, month, hsplits, hin, hdate⟩ := exists_parts days
  obtain ⟨hcycle, hyearOf4, hfour, hhundred⟩ := hsplits.year_eq cycle
  obtain ⟨hmonth, hfirst, hlast⟩ := hin
  have hsum := hsplits.sum
  have hday : ((day - (153 * month + 2) / 5 + 1).toNat : Int) = day - (153 * month + 2) / 5 + 1 := by
    omega
  rcases hdate with ⟨hspring, hdate⟩ | ⟨hwinter, hdate⟩
  · have hindex : (((month + 3).toNat + 9) % 12 : Nat) = month := by omega
    rw [hdate, toDays]
    simp only
    rw [if_neg (by omega), hindex, hday, hcycle, hyearOf4, hfour, hhundred]
    omega
  · have hindex : (((month - 9).toNat + 9) % 12 : Nat) = month := by omega
    rw [hdate, toDays]
    simp only
    rw [if_pos (by omega), hindex, hday, Int.add_sub_cancel, hcycle, hyearOf4, hfour, hhundred]
    omega

/-- The year after a year of three hundred and sixty-six days is a leap year. -/
theorem Splits.isLeap {dayOf4 : Int} (h : Splits dayOf4 century group year 365) (cycle : Int) :
    isLeap (400 * cycle + (100 * century + 4 * group + year) + 1) = true := by
  obtain ⟨hcentury, hgroup, -, -, hlongest, -⟩ := h
  obtain ⟨rfl, hcenturyEnd⟩ := hlongest rfl
  simp only [Date.isLeap, Bool.and_eq_true, Bool.or_eq_true, beq_iff_eq, bne_iff_ne]
  omega

/-- **The date of a day is one that the calendar has.** -/
theorem isValid_ofDays (days : Int) : (ofDays days).IsValid := by
  obtain ⟨cycle, century, group, year, day, month, hsplits, hin, hdate⟩ := exists_parts days
  obtain ⟨hmonth, hfirst, hlast⟩ := hin
  have hdays := hsplits.days
  rcases hdate with ⟨hspring, hdate⟩ | ⟨hwinter, hdate⟩
  · rw [hdate]
    simp only [IsValid, daysInMonth]
    refine ⟨by omega, by omega, by omega, ?_⟩
    rw [if_neg (by omega)]
    split <;> omega
  · rw [hdate]
    simp only [IsValid, daysInMonth]
    refine ⟨by omega, by omega, by omega, ?_⟩
    split
    · by_cases hlong : day = 365
      · subst hlong
        rw [hsplits.isLeap cycle, if_pos rfl]
        omega
      · split <;> omega
    · split <;> omega

end Cashbook.Date
