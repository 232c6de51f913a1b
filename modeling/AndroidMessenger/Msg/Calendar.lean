import AndroidMessenger.Msg.ChronoIo

namespace AndroidMessenger.Msg.ChronoIo

/-! The dates that are printed are dates of the calendar, and stand for their day. -/

def isLeap (year : Int) : Bool :=
  year % 4 = 0 ∧ (year % 100 ≠ 0 ∨ year % 400 = 0)

def monthLength (year month : Int) : Int :=
  if month = 2 then if isLeap year then 29 else 28
  else if month = 4 ∨ month = 6 ∨ month = 9 ∨ month = 11 then 30
  else 31

structure Civil.InCalendar (date : Civil) : Prop where
  month_pos : 1 ≤ date.month
  month_le : date.month ≤ 12
  day_pos : 1 ≤ date.day
  day_le : date.day ≤ monthLength date.year date.month

theorem Civil.InCalendar.day_le_31 {date : Civil} (inCalendar : date.InCalendar) :
    date.day ≤ 31 := by
  have day := inCalendar.day_le
  unfold monthLength at day
  split at day
  · split at day <;> omega
  · split at day <;> omega

/-! The year of a day in an era of 400 years that start in March. -/

section YearOfEra

variable {dayOfEra yearOfEra : Int} (nonneg : 0 ≤ dayOfEra) (below : dayOfEra < 146097)
  (year : yearOfEra =
    (dayOfEra - dayOfEra / 1460 + dayOfEra / 36524 - dayOfEra / 146096) / 365)

include nonneg below year

theorem yearOfEra_bounds : 0 ≤ yearOfEra ∧ yearOfEra < 400 := by
  omega

theorem le_dayOfEra : 365 * yearOfEra + yearOfEra / 4 - yearOfEra / 100 ≤ dayOfEra := by
  have centuries : dayOfEra / 36524 - dayOfEra / 146096 ≤ yearOfEra / 100 := by omega
  have fours : yearOfEra / 4 ≤ dayOfEra / 1460 := by omega
  omega

theorem dayOfEra_lt : dayOfEra < 365 * (yearOfEra + 1) + (yearOfEra + 1) / 4 -
    (yearOfEra + 1) / 100 + (yearOfEra + 1) / 400 := by
  have fours : dayOfEra / 1460 ≤ (yearOfEra + 1) / 4 := by omega
  have eras : dayOfEra / 146096 ≤ (yearOfEra + 1) / 400 := by omega
  -- In the last year of a century the leap day that is left out is not over yet.
  by_cases last : yearOfEra = 100 * (dayOfEra / 36524) + 99
  · omega
  · have centuries : (yearOfEra + 1) / 100 ≤ dayOfEra / 36524 := by omega
    omega

end YearOfEra

/-- The parts of the day that `civilOfDays` works with. -/
structure Parts (days : Int) where
  era : Int
  yearOfEra : Int
  dayOfYear : Int
  shiftedMonth : Int
  whole : days = era * 146097 +
    (365 * yearOfEra + yearOfEra / 4 - yearOfEra / 100 + dayOfYear) - 719468
  year_nonneg : 0 ≤ yearOfEra
  year_lt : yearOfEra < 400
  day_nonneg : 0 ≤ dayOfYear
  day_lt : dayOfYear < 365 + ((yearOfEra + 1) / 4 - yearOfEra / 4) -
    ((yearOfEra + 1) / 100 - yearOfEra / 100) + (yearOfEra + 1) / 400
  month_eq : shiftedMonth = (5 * dayOfYear + 2) / 153

namespace Parts

def ofDays (days : Int) : Parts days where
  era := (days + 719468) / 146097
  yearOfEra :=
    let dayOfEra := (days + 719468) % 146097
    (dayOfEra - dayOfEra / 1460 + dayOfEra / 36524 - dayOfEra / 146096) / 365
  dayOfYear :=
    let dayOfEra := (days + 719468) % 146097
    let yearOfEra := (dayOfEra - dayOfEra / 1460 + dayOfEra / 36524 - dayOfEra / 146096) / 365
    dayOfEra - (365 * yearOfEra + yearOfEra / 4 - yearOfEra / 100)
  shiftedMonth := _
  whole := by
    simp only
    omega
  year_nonneg := (yearOfEra_bounds (by omega) (by omega) rfl).1
  year_lt := (yearOfEra_bounds (by omega) (by omega) rfl).2
  day_nonneg := by
    have started := @le_dayOfEra ((days + 719468) % 146097) _ (by omega) (by omega) rfl
    simp only
    omega
  day_lt := by
    have unfinished := @dayOfEra_lt ((days + 719468) % 146097) _ (by omega) (by omega) rfl
    simp only
    omega
  month_eq := rfl

variable {days : Int} (parts : Parts days)

def civil : Civil :=
  let month := if parts.shiftedMonth < 10 then parts.shiftedMonth + 3 else parts.shiftedMonth - 9
  { year := parts.yearOfEra + parts.era * 400 + (if month ≤ 2 then 1 else 0)
    month
    day := parts.dayOfYear - (153 * parts.shiftedMonth + 2) / 5 + 1 }

theorem civil_ofDays (days : Int) : (ofDays days).civil = civilOfDays days := by
  have era : (days + 719468).fdiv 146097 = (days + 719468) / 146097 :=
    Int.fdiv_eq_ediv_of_nonneg _ (by decide)
  have dayOfEra : days + 719468 - (days + 719468) / 146097 * 146097 =
      (days + 719468) % 146097 := by omega
  simp only [civilOfDays, era, dayOfEra]
  rfl

theorem shiftedMonth_bounds : 0 ≤ parts.shiftedMonth ∧ parts.shiftedMonth < 12 := by
  obtain ⟨era, year, day, month, whole, _, _, _, _, rfl⟩ := parts
  simp only
  omega

/-- March comes first, and the last two months are those of the next year. -/
theorem civil_cases :
    (parts.shiftedMonth < 10 ∧ parts.civil.month = parts.shiftedMonth + 3 ∧
      parts.civil.year = parts.yearOfEra + parts.era * 400) ∨
    (10 ≤ parts.shiftedMonth ∧ parts.civil.month = parts.shiftedMonth - 9 ∧
      parts.civil.year = parts.yearOfEra + parts.era * 400 + 1) := by
  obtain ⟨low, high⟩ := parts.shiftedMonth_bounds
  by_cases spring : parts.shiftedMonth < 10
  · left
    have later : ¬ parts.shiftedMonth + 3 ≤ 2 := by omega
    simp only [civil, if_pos spring, if_neg later]
    exact ⟨spring, trivial, Int.add_zero _⟩
  · right
    have winter : parts.shiftedMonth - 9 ≤ 2 := by omega
    simp only [civil, if_neg spring, if_pos winter]
    exact ⟨Int.not_lt.mp spring, trivial, trivial⟩

theorem civil_day :
    parts.civil.day = parts.dayOfYear - (153 * parts.shiftedMonth + 2) / 5 + 1 := rfl

theorem civil_inCalendar : parts.civil.InCalendar := by
  have month := parts.civil_cases
  have shifted := parts.month_eq
  obtain ⟨low, high⟩ := parts.shiftedMonth_bounds
  have lastDay := parts.day_lt
  have yearNonneg := parts.year_nonneg
  have yearLt := parts.year_lt
  have firstDay := parts.day_nonneg
  constructor
  · omega
  · omega
  · rw [civil_day]
    omega
  · rw [civil_day, monthLength]
    split
    · rename_i february
      cases leap : isLeap parts.civil.year with
      | true =>
          simp only [if_true]
          omega
      | false =>
          simp only [isLeap, decide_eq_false_iff_not] at leap
          simp only [Bool.false_eq_true, if_false]
          omega
    · split
      · omega
      · omega

theorem daysOfCivil_civil : daysOfCivil parts.civil = days := by
  obtain ⟨low, high⟩ := parts.shiftedMonth_bounds
  have yearNonneg := parts.year_nonneg
  have yearLt := parts.year_lt
  have era : (parts.yearOfEra + parts.era * 400).fdiv 400 = parts.era := by
    rw [Int.fdiv_eq_ediv_of_nonneg _ (by decide)]
    omega
  have year : (if parts.civil.month ≤ 2 then parts.civil.year - 1 else parts.civil.year) =
      parts.yearOfEra + parts.era * 400 := by
    split <;> rcases parts.civil_cases with same | same <;> omega
  have month : (if parts.civil.month > 2 then parts.civil.month - 3
      else parts.civil.month + 9) = parts.shiftedMonth := by
    split <;> rcases parts.civil_cases with same | same <;> omega
  have whole := parts.whole
  simp only [daysOfCivil, year, era, month, civil_day]
  rw [Int.add_sub_cancel]
  omega

end Parts

theorem civilOfDays_inCalendar (days : Int) : (civilOfDays days).InCalendar := by
  rw [← Parts.civil_ofDays]
  exact (Parts.ofDays days).civil_inCalendar

theorem daysOfCivil_civilOfDays (days : Int) : daysOfCivil (civilOfDays days) = days := by
  rw [← Parts.civil_ofDays]
  exact (Parts.ofDays days).daysOfCivil_civil

end AndroidMessenger.Msg.ChronoIo
