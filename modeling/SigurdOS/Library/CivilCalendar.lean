import Mathlib.Data.Int.Init
import Mathlib.Tactic.IntervalCases

namespace CivilCalendar

def IsLeap (year : Int) : Prop := year % 4 = 0 ∧ (year % 100 ≠ 0 ∨ year % 400 = 0)

instance (year : Int) : Decidable (IsLeap year) := inferInstanceAs (Decidable (_ ∧ _))

def yearLength (year : Int) : Int := if IsLeap year then 366 else 365

def monthLength (year month : Int) : Int :=
  if month = 2 then if IsLeap year then 29 else 28
  else if month = 4 ∨ month = 6 ∨ month = 9 ∨ month = 11 then 30
  else 31

def daysOfYears (year : Int) (count : Nat) : Int :=
  ((List.range count).map fun later : Nat => yearLength (year + later)).sum

/-- The days from the beginning of 1970 to that of the year, negative for an earlier year. -/
def daysBeforeYear (year : Int) : Int :=
  daysOfYears 1970 (year - 1970).toNat - daysOfYears year (1970 - year).toNat

def daysBeforeMonth (year month : Int) : Int :=
  ((List.range (month - 1).toNat).map fun earlier : Nat => monthLength year (earlier + 1)).sum

structure DateTime where
  year : Int
  month : Int
  day : Int
  hour : Int
  minute : Int
  second : Int
  deriving DecidableEq

namespace DateTime

/-- The date is in the calendar and the time in the day. -/
structure Real (moment : DateTime) : Prop where
  month : 1 ≤ moment.month ∧ moment.month ≤ 12
  day : 1 ≤ moment.day ∧ moment.day ≤ monthLength moment.year moment.month
  hour : 0 ≤ moment.hour ∧ moment.hour ≤ 23
  minute : 0 ≤ moment.minute ∧ moment.minute ≤ 59
  second : 0 ≤ moment.second ∧ moment.second ≤ 59

def dayOfYear (moment : DateTime) : Int := daysBeforeMonth moment.year moment.month + (moment.day - 1)

def dayCount (moment : DateTime) : Int := daysBeforeYear moment.year + moment.dayOfYear

def secondOfDay (moment : DateTime) : Int := moment.hour * 3600 + moment.minute * 60 + moment.second

def secondCount (moment : DateTime) : Int := moment.dayCount * 86400 + moment.secondOfDay

def Earlier (moment other : DateTime) : Prop :=
  moment.year < other.year ∨ moment.year = other.year ∧
    (moment.month < other.month ∨ moment.month = other.month ∧
      (moment.day < other.day ∨ moment.day = other.day ∧
        (moment.hour < other.hour ∨ moment.hour = other.hour ∧
          (moment.minute < other.minute ∨ moment.minute = other.minute ∧ moment.second < other.second))))

end DateTime

section Years

theorem yearLength_eq (year : Int) : yearLength year = 365 + (year / 4 - (year - 1) / 4) -
    (year / 100 - (year - 1) / 100) + (year / 400 - (year - 1) / 400) := by
  by_cases leap : IsLeap year
  · simp only [yearLength, leap, if_true]
    unfold IsLeap at leap
    omega
  · simp only [yearLength, leap, if_false]
    unfold IsLeap at leap
    omega

theorem daysOfYears_succ (year : Int) (count : Nat) :
    daysOfYears year (count + 1) = daysOfYears year count + yearLength (year + count) := by
  simp [daysOfYears, List.range_succ]

theorem daysOfYears_succ' (year : Int) (count : Nat) :
    daysOfYears year (count + 1) = yearLength year + daysOfYears (year + 1) count := by
  have shifted (later : Nat) : year + ((later + 1 : Nat) : Int) = year + 1 + later := by omega
  simp only [daysOfYears, List.range_succ_eq_map, List.map_cons, List.map_map, List.sum_cons,
    Function.comp_def, shifted]
  simp

theorem daysBeforeYear_succ (year : Int) : daysBeforeYear (year + 1) = daysBeforeYear year + yearLength year := by
  by_cases late : 1970 ≤ year
  · obtain ⟨count, rfl⟩ : ∃ count : Nat, year = 1970 + count := ⟨(year - 1970).toNat, by omega⟩
    have before : (1970 - (1970 + (count : Int))).toNat = 0 := by omega
    have before' : (1970 - (1970 + (count : Int) + 1)).toNat = 0 := by omega
    have after : (1970 + (count : Int) - 1970).toNat = count := by omega
    have after' : (1970 + (count : Int) + 1 - 1970).toNat = count + 1 := by omega
    rw [daysBeforeYear, daysBeforeYear, before, before', after, after', daysOfYears_succ]
    simp [daysOfYears]
  · obtain ⟨count, rfl⟩ : ∃ count : Nat, year = 1969 - count := ⟨(1969 - year).toNat, by omega⟩
    have before : (1970 - (1969 - (count : Int))).toNat = count + 1 := by omega
    have before' : (1970 - (1969 - (count : Int) + 1)).toNat = count := by omega
    have after : (1969 - (count : Int) - 1970).toNat = 0 := by omega
    have after' : (1969 - (count : Int) + 1 - 1970).toNat = 0 := by omega
    rw [daysBeforeYear, daysBeforeYear, before, before', after, after', daysOfYears_succ']
    omega

theorem daysBeforeYear_eq (year : Int) :
    daysBeforeYear year = 365 * (year - 1970) + (year - 1) / 4 - (year - 1) / 100 + (year - 1) / 400 - 477 := by
  refine Int.inductionOn' year 1970 rfl ?_ ?_
  · intro year _ ih
    rw [daysBeforeYear_succ, ih, yearLength_eq]
    omega
  · intro year _ ih
    have next := daysBeforeYear_succ (year - 1)
    rw [Int.sub_add_cancel, ih, yearLength_eq] at next
    omega

theorem daysBeforeYear_le {year other : Int} (earlier : year < other) :
    daysBeforeYear year + yearLength year ≤ daysBeforeYear other := by
  rw [← daysBeforeYear_succ, daysBeforeYear_eq, daysBeforeYear_eq]
  omega

end Years

section Months

variable {year month : Int}

theorem month_cases (low : 1 ≤ month) (high : month ≤ 12) :
    month = 1 ∨ month = 2 ∨ month = 3 ∨ month = 4 ∨ month = 5 ∨ month = 6 ∨ month = 7 ∨ month = 8 ∨
      month = 9 ∨ month = 10 ∨ month = 11 ∨ month = 12 := by omega

theorem daysBeforeMonth_eq (low : 1 ≤ month) (high : month ≤ 12) : daysBeforeMonth year month =
    if month ≤ 2 then 31 * (month - 1) else (153 * (month - 3) + 2) / 5 + 59 + if IsLeap year then 1 else 0 := by
  by_cases leap : IsLeap year
  all_goals
    rcases month_cases low high with rfl | rfl | rfl | rfl | rfl | rfl | rfl | rfl | rfl | rfl | rfl | rfl <;>
      simp [daysBeforeMonth, monthLength, List.range_succ, leap]

theorem daysBeforeMonth_succ (year : Int) (low : 1 ≤ month) :
    daysBeforeMonth year (month + 1) = daysBeforeMonth year month + monthLength year month := by
  obtain ⟨count, rfl⟩ : ∃ count : Nat, month = count + 1 := ⟨(month - 1).toNat, by omega⟩
  simp [daysBeforeMonth, List.range_succ]

theorem monthLength_pos (year month : Int) : 0 < monthLength year month := by
  unfold monthLength
  split
  · split <;> decide
  · split <;> decide

theorem daysBeforeMonth_le (year : Int) {other : Int} (low : 1 ≤ month) (earlier : month < other) :
    daysBeforeMonth year month + monthLength year month ≤ daysBeforeMonth year other := by
  obtain ⟨later, rfl⟩ : ∃ later : Nat, other = month + 1 + later := ⟨(other - month - 1).toNat, by omega⟩
  clear earlier
  induction later with
  | zero => simp [daysBeforeMonth_succ year low]
  | succ later ih =>
    have next := daysBeforeMonth_succ year (show 1 ≤ month + 1 + later by omega)
    have days := monthLength_pos year (month + 1 + later)
    rw [Nat.cast_succ, ← add_assoc]
    omega

theorem year_of_months : daysBeforeMonth year 13 = yearLength year := by
  by_cases leap : IsLeap year <;>
    simp [daysBeforeMonth, monthLength, yearLength, List.range_succ, leap]

end Months

namespace DateTime

variable {moment other : DateTime}

theorem dayOfYear_bounds (real : moment.Real) :
    0 ≤ moment.dayOfYear ∧ moment.dayOfYear < yearLength moment.year := by
  obtain ⟨low, high⟩ := real.month
  obtain ⟨first, last⟩ := real.day
  have within := daysBeforeMonth_le moment.year low (show moment.month < 13 by omega)
  have before : 0 ≤ daysBeforeMonth moment.year moment.month := by
    rw [daysBeforeMonth_eq low high]
    split
    · omega
    · split <;> omega
  rw [year_of_months] at within
  unfold dayOfYear
  omega

theorem secondOfDay_bounds (real : moment.Real) : 0 ≤ moment.secondOfDay ∧ moment.secondOfDay < 86400 := by
  have hour := real.hour
  have minute := real.minute
  have second := real.second
  unfold secondOfDay
  omega

theorem dayCount_lt (real : moment.Real) (other_real : other.Real) (earlier : moment.year < other.year ∨
    moment.year = other.year ∧ (moment.month < other.month ∨ moment.month = other.month ∧ moment.day < other.day)) :
    moment.dayCount < other.dayCount := by
  have bounds := dayOfYear_bounds real
  have other_bounds := dayOfYear_bounds other_real
  unfold dayCount
  rcases earlier with year | ⟨year, month | ⟨month, day⟩⟩
  · have before := daysBeforeYear_le year
    omega
  · have before := daysBeforeMonth_le moment.year real.month.1 month
    have last := real.day.2
    have first := other_real.day.1
    unfold dayOfYear
    rw [← year]
    omega
  · unfold dayOfYear
    rw [← year, ← month]
    omega

theorem secondCount_lt (real : moment.Real) (other_real : other.Real) (earlier : moment.Earlier other) :
    moment.secondCount < other.secondCount := by
  have bounds := secondOfDay_bounds real
  have other_bounds := secondOfDay_bounds other_real
  have day : moment.dayCount < other.dayCount ∨
      moment.dayCount = other.dayCount ∧ moment.secondOfDay < other.secondOfDay := by
    rcases earlier with year | ⟨year, month | ⟨month, day | ⟨day, time⟩⟩⟩
    · exact Or.inl (dayCount_lt real other_real (Or.inl year))
    · exact Or.inl (dayCount_lt real other_real (Or.inr ⟨year, Or.inl month⟩))
    · exact Or.inl (dayCount_lt real other_real (Or.inr ⟨year, Or.inr ⟨month, day⟩⟩))
    · have minute := real.minute
      have second := real.second
      have other_minute := other_real.minute
      have other_second := other_real.second
      refine Or.inr ⟨by rw [dayCount, dayCount, dayOfYear, dayOfYear, year, month, day], ?_⟩
      unfold secondOfDay
      omega
  unfold secondCount
  omega

theorem earlier_or (moment other : DateTime) : moment.Earlier other ∨ moment = other ∨ other.Earlier moment := by
  cases moment
  cases other
  simp only [Earlier, mk.injEq]
  omega

theorem secondCount_injective (real : moment.Real) (other_real : other.Real)
    (same : moment.secondCount = other.secondCount) : moment = other := by
  rcases earlier_or moment other with before | equal | after
  · have lt := secondCount_lt real other_real before
    omega
  · exact equal
  · have lt := secondCount_lt other_real real after
    omega

end DateTime

end CivilCalendar
