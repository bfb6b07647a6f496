import SigurdOS.Library.CivilCalendar

namespace SigurdOS.Mesh

open CivilCalendar

/-- A computed value in its C type, `none` where the computation overflows it. -/
def inRange (low high value : Int) : Option Int := if low ≤ value ∧ value ≤ high then some value else none

def int32 : Int → Option Int := inRange (-2147483648) 2147483647
def uint32 : Int → Option Int := inRange 0 4294967295
def int64 : Int → Option Int := inRange (-9223372036854775808) 9223372036854775807

def leapYear (year : Int) : Bool := year.tmod 4 = 0 && (year.tmod 100 ≠ 0 || year.tmod 400 = 0)

def days : List Int := [31, 28, 31, 30, 31, 30, 31, 31, 30, 31, 30, 31]

def daysInMonth (year month : Int) : Int :=
  if month < 1 ∨ month > 12 then 0
  else if month = 2 ∧ leapYear year then 29
  else days.getD (month - 1).toNat 0

def civilDays (year month day : Int) : Option Int := do
  let y ← (if month < 3 then int32 (year - 1) else some year)
  let m ← (if month < 3 then uint32 (month + 12) else some month)
  let dividend ← (if 0 ≤ y then some y else int32 (y - 399))
  let era := dividend.tdiv 400
  let yoe ← uint32 (← int32 (y - (← int32 (era * 400))))
  let months ← uint32 (m - 3)
  let monthDays ← uint32 ((← uint32 (153 * months)) + 2)
  let doy ← uint32 (monthDays / 5 + (← uint32 (day - 1)))
  let quarters ← uint32 ((← uint32 (yoe * 365)) + yoe / 4)
  let doe ← uint32 ((← uint32 (quarters - yoe / 100)) + doy)
  let eraDays ← int32 (era * 146097)
  int32 ((← int32 (eraDays + (← int32 doe))) - 719468)

/-- `none` is an overflow, `some none` a refusal. -/
def utcToEpochChecked (moment : DateTime) : Option (Option UInt32) := do
  let { year, month, day, hour, minute, second } := moment
  if month < 1 ∨ month > 12 ∨ day < 1 ∨ day > daysInMonth year month ∨ hour < 0 ∨ hour > 23 ∨
      minute < 0 ∨ minute > 59 ∨ second < 0 ∨ second > 59 then
    return none
  let days ← civilDays year month day
  let hours ← int64 ((← int64 (days * 86400)) + (← int64 (hour * 3600)))
  let minutes ← int64 (hours + (← int64 (minute * 60)))
  let epoch ← int64 (minutes + second)
  if epoch < 0 ∨ epoch > 4294967295 then return none
  return some (UInt32.ofNat epoch.toNat)

section Ranges

variable {low high value : Int}

theorem inRange_of (above : low ≤ value) (below : value ≤ high) : inRange low high value = some value := by
  simp [inRange, above, below]

theorem int32_of (above : -2147483648 ≤ value) (below : value ≤ 2147483647) : int32 value = some value :=
  inRange_of above below

theorem uint32_of (above : 0 ≤ value) (below : value ≤ 4294967295) : uint32 value = some value :=
  inRange_of above below

theorem int64_of (above : -9223372036854775808 ≤ value) (below : value ≤ 9223372036854775807) :
    int64 value = some value :=
  inRange_of above below

theorem run_of {β : Type} {computed : Option Int} {next : Int → Option β} (runs : computed = some value) :
    (computed >>= next) = next value := by
  rw [runs]
  rfl

theorem run_int32 {β : Type} {next : Int → Option β} (above : -2147483648 ≤ value) (below : value ≤ 2147483647) :
    (int32 value >>= next) = next value :=
  run_of (int32_of above below)

theorem run_uint32 {β : Type} {next : Int → Option β} (above : 0 ≤ value) (below : value ≤ 4294967295) :
    (uint32 value >>= next) = next value :=
  run_of (uint32_of above below)

theorem run_int64 {β : Type} {next : Int → Option β} (above : -9223372036854775808 ≤ value)
    (below : value ≤ 9223372036854775807) : (int64 value >>= next) = next value :=
  run_of (int64_of above below)

end Ranges

section Calendar

variable {year month day : Int}

theorem leapYear_iff : leapYear year = true ↔ IsLeap year := by
  have divides (divisor : Int) : year.tmod divisor = 0 ↔ year % divisor = 0 := by
    rw [← Int.dvd_iff_tmod_eq_zero, Int.dvd_iff_emod_eq_zero]
  simp only [leapYear, IsLeap, Bool.and_eq_true, Bool.or_eq_true, decide_eq_true_eq, divides, ne_eq]

theorem daysInMonth_eq (low : 1 ≤ month) (high : month ≤ 12) : daysInMonth year month = monthLength year month := by
  by_cases leap : IsLeap year
  all_goals
    rcases month_cases low high with rfl | rfl | rfl | rfl | rfl | rfl | rfl | rfl | rfl | rfl | rfl | rfl <;>
      simp [daysInMonth, monthLength, days, leapYear_iff, leap]

theorem era_eq (y : Int) : (if 0 ≤ y then y else y - 399).tdiv 400 = y / 400 := by
  split
  · rename_i late
    exact Int.tdiv_eq_ediv_of_nonneg late
  · rename_i early
    have quotient : (399 - y).tdiv 400 = (399 - y) / 400 := Int.tdiv_eq_ediv_of_nonneg (by omega)
    rw [show y - 399 = -(399 - y) by omega, Int.neg_tdiv, quotient]
    omega

theorem marchDays_eq (year day : Int) (low : 1 ≤ month) (high : month ≤ 12) :
    let y := if month < 3 then year - 1 else year
    let m := if month < 3 then month + 12 else month
    365 * y + y / 4 - y / 100 + y / 400 + ((153 * (m - 3) + 2) / 5 + (day - 1)) - 719468 =
      daysBeforeYear year + daysBeforeMonth year month + (day - 1) := by
  have leap := yearLength_eq year
  unfold yearLength at leap
  simp only [daysBeforeYear_eq, daysBeforeMonth_eq low high]
  by_cases isLeap : IsLeap year
  all_goals
    simp only [isLeap, if_true, if_false] at leap
    by_cases early : month < 3
    · simp only [early, if_true, show month ≤ 2 by omega]
      omega
    · simp only [early, if_false, isLeap, if_true, show ¬ month ≤ 2 by omega]
      omega

theorem civilDays_eq (yearLow : -1000000 ≤ year) (yearHigh : year ≤ 1000000) (low : 1 ≤ month) (high : month ≤ 12)
    (dayLow : 1 ≤ day) (dayHigh : day ≤ 31) :
    civilDays year month day = some (daysBeforeYear year + daysBeforeMonth year month + (day - 1)) := by
  have total := marchDays_eq year day low high
  generalize hy : (if month < 3 then year - 1 else year) = y at total
  generalize hm : (if month < 3 then month + 12 else month) = m at total
  have yBounds : -1000001 ≤ y ∧ y ≤ 1000000 := by
    rw [← hy]
    split <;> omega
  have mBounds : 3 ≤ m ∧ m ≤ 14 := by
    rw [← hm]
    split <;> omega
  have y_computed : (if month < 3 then int32 (year - 1) else some year) = some y := by
    rw [int32_of (by omega) (by omega), ← hy]
    split <;> rfl
  have m_computed : (if month < 3 then uint32 (month + 12) else some month) = some m := by
    rw [uint32_of (by omega) (by omega), ← hm]
    split <;> rfl
  have dividend : (if 0 ≤ y then some y else int32 (y - 399)) = some (if 0 ≤ y then y else y - 399) := by
    rw [int32_of (by omega) (by omega)]
    split <;> rfl
  have yearsOfEra : 0 ≤ y - y / 400 * 400 ∧ y - y / 400 * 400 ≤ 399 := by omega
  have eraBounds : -2501 ≤ y / 400 ∧ y / 400 ≤ 2500 := by omega
  generalize era_def : y / 400 = era at *
  generalize yoe_def : y - era * 400 = yoe at *
  have daysOfYear : 0 ≤ (153 * (m - 3) + 2) / 5 + (day - 1) ∧ (153 * (m - 3) + 2) / 5 + (day - 1) ≤ 367 := by omega
  generalize doy_def : (153 * (m - 3) + 2) / 5 + (day - 1) = doy at *
  unfold civilDays
  rw [y_computed, m_computed, run_of rfl, run_of rfl, dividend, run_of rfl, era_eq, era_def,
    run_int32 (by omega) (by omega), run_int32 (by omega) (by omega), yoe_def, run_uint32 (by omega) (by omega),
    run_uint32 (by omega) (by omega), run_uint32 (by omega) (by omega), run_uint32 (by omega) (by omega),
    run_uint32 (by omega) (by omega), doy_def, run_uint32 (by omega) (by omega), run_uint32 (by omega) (by omega),
    run_uint32 (by omega) (by omega), run_uint32 (by omega) (by omega), run_uint32 (by omega) (by omega),
    run_int32 (by omega) (by omega), run_int32 (by omega) (by omega), run_int32 (by omega) (by omega),
    int32_of (by omega) (by omega)]
  congr 1
  omega

end Calendar

section Epoch

variable {moment other : DateTime}

theorem monthLength_le (year month : Int) : monthLength year month ≤ 31 := by
  unfold monthLength
  split
  · split <;> decide
  · split <;> decide

theorem real_iff : moment.Real ↔
    ¬ (moment.month < 1 ∨ moment.month > 12 ∨ moment.day < 1 ∨ moment.day > daysInMonth moment.year moment.month ∨
      moment.hour < 0 ∨ moment.hour > 23 ∨ moment.minute < 0 ∨ moment.minute > 59 ∨ moment.second < 0 ∨
      moment.second > 59) := by
  constructor
  · intro real
    rw [daysInMonth_eq real.month.1 real.month.2]
    have day := real.day
    have month := real.month
    have hour := real.hour
    have minute := real.minute
    have second := real.second
    omega
  · intro guard
    have low : 1 ≤ moment.month := by omega
    have high : moment.month ≤ 12 := by omega
    rw [daysInMonth_eq low high] at guard
    constructor <;> omega

theorem utcToEpochChecked_eq (yearLow : -1000000 ≤ moment.year) (yearHigh : moment.year ≤ 1000000)
    (real : moment.Real) : utcToEpochChecked moment = some
      (if moment.secondCount < 0 ∨ moment.secondCount > 4294967295 then none
        else some (UInt32.ofNat moment.secondCount.toNat)) := by
  have guard := real_iff.1 real
  have month := real.month
  have day := real.day
  have last := monthLength_le moment.year moment.month
  have ofDay := DateTime.secondOfDay_bounds real
  have days := civilDays_eq yearLow yearHigh month.1 month.2 day.1 (by omega)
  have count : moment.secondCount =
      (daysBeforeYear moment.year + daysBeforeMonth moment.year moment.month + (moment.day - 1)) * 86400 +
        moment.hour * 3600 + moment.minute * 60 + moment.second := by
    rw [DateTime.secondCount, DateTime.dayCount, DateTime.dayOfYear, DateTime.secondOfDay]
    omega
  have daysLow := DateTime.dayOfYear_bounds real
  have years := daysBeforeYear_eq moment.year
  unfold DateTime.dayOfYear at daysLow
  unfold DateTime.secondOfDay at ofDay
  have hour := real.hour
  have minute := real.minute
  have second := real.second
  have length := yearLength_eq moment.year
  rw [count]
  unfold utcToEpochChecked
  simp only [guard, if_false]
  rw [run_of days, run_int64 (by omega) (by omega), run_int64 (by omega) (by omega),
    run_int64 (by omega) (by omega), run_int64 (by omega) (by omega), run_int64 (by omega) (by omega),
    run_int64 (by omega) (by omega)]
  split
  · rfl
  · rfl

theorem utcToEpochChecked_refused (unreal : ¬ moment.Real) : utcToEpochChecked moment = some none := by
  have guard := real_iff.not.1 unreal
  rw [not_not] at guard
  unfold utcToEpochChecked
  simp only [guard, if_true]
  rfl

theorem accepted_iff (yearLow : -1000000 ≤ moment.year) (yearHigh : moment.year ≤ 1000000) {epoch : UInt32} :
    utcToEpochChecked moment = some (some epoch) ↔ moment.Real ∧ moment.secondCount = epoch.toNat := by
  have limit := epoch.toNat_lt
  by_cases real : moment.Real
  · rw [utcToEpochChecked_eq yearLow yearHigh real]
    split
    · simp only [real, true_and, Option.some.injEq, reduceCtorEq, false_iff]
      omega
    · simp only [real, true_and, Option.some.injEq, ← UInt32.toNat_inj, UInt32.toNat_ofNat']
      omega
  · simp [utcToEpochChecked_refused real, real]

/-- The accepted moments are those of the calendar whose second count fits, and their epochs are the counts. -/
theorem utc_to_epoch :
    (∀ moment : DateTime, -1000000 ≤ moment.year → moment.year ≤ 1000000 →
      ∃ result, utcToEpochChecked moment = some result ∧
        (result.isSome = true ↔ moment.Real ∧ 0 ≤ moment.secondCount ∧ moment.secondCount ≤ 4294967295) ∧
        ∀ epoch, result = some epoch → (epoch.toNat : Int) = moment.secondCount) ∧
    ∀ (moment other : DateTime) (epoch otherEpoch : UInt32), -1000000 ≤ moment.year → moment.year ≤ 1000000 →
      -1000000 ≤ other.year → other.year ≤ 1000000 → utcToEpochChecked moment = some (some epoch) →
        utcToEpochChecked other = some (some otherEpoch) →
          (moment.Earlier other → epoch < otherEpoch) ∧ (epoch = otherEpoch → moment = other) := by
  constructor
  · intro moment yearLow yearHigh
    by_cases real : moment.Real
    · have computed := utcToEpochChecked_eq yearLow yearHigh real
      refine ⟨_, computed, ?_, ?_⟩
      · split
        · simp only [Option.isSome_none, Bool.false_eq_true, false_iff]
          omega
        · simp only [Option.isSome_some, true_iff]
          exact ⟨real, by omega, by omega⟩
      · intro epoch accepted
        rw [accepted] at computed
        exact ((accepted_iff yearLow yearHigh).1 computed).2.symm
    · exact ⟨none, utcToEpochChecked_refused real, by simp [real], by simp⟩
  · intro moment other epoch otherEpoch yearLow yearHigh otherLow otherHigh accepted otherAccepted
    obtain ⟨real, count⟩ := (accepted_iff yearLow yearHigh).1 accepted
    obtain ⟨otherReal, otherCount⟩ := (accepted_iff otherLow otherHigh).1 otherAccepted
    constructor
    · intro earlier
      have less := DateTime.secondCount_lt real otherReal earlier
      rw [UInt32.lt_iff_toNat_lt]
      omega
    · intro same
      exact DateTime.secondCount_injective real otherReal (by rw [count, otherCount, same])

def leapNoon : DateTime := ⟨2024, 2, 29, 12, 0, 0⟩

theorem leapNoon_counted :
    (∃ result, utcToEpochChecked leapNoon = some result ∧
      (result.isSome = true ↔ leapNoon.Real ∧ 0 ≤ leapNoon.secondCount ∧ leapNoon.secondCount ≤ 4294967295) ∧
      ∀ epoch, result = some epoch → (epoch.toNat : Int) = leapNoon.secondCount) ∧
    utcToEpochChecked leapNoon = some (some 1709208000) ∧
    utcToEpochChecked { leapNoon with second := 1 } = some (some 1709208001) ∧
    (1709208000 : UInt32) < 1709208001 := by
  have first : utcToEpochChecked leapNoon = some (some 1709208000) := by decide
  have second : utcToEpochChecked { leapNoon with second := 1 } = some (some 1709208001) := by decide
  have earlier : leapNoon.Earlier { leapNoon with second := 1 } := by simp [DateTime.Earlier, leapNoon]
  exact ⟨utc_to_epoch.1 leapNoon (by decide) (by decide), first, second,
    (utc_to_epoch.2 leapNoon { leapNoon with second := 1 } 1709208000 1709208001 (by decide) (by decide) (by decide)
      (by decide) first second).1 earlier⟩

end Epoch

end SigurdOS.Mesh
