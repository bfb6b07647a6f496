import SigurdOS.Hal.NmeaIntake
import SigurdOS.Mesh.TimeState

namespace SigurdOS.Hal.Gps

open CivilCalendar
open Mesh (ascii utcToEpochChecked utcToEpochChecked_eq)
open Runs

variable {F D : Type}

inductive NmeaReport where
  | gga (time : GpsTime)
  | active (date : GpsDate) (time : GpsTime)
  | void
  deriving DecidableEq

def reportOf (numbers : CNumbers F D) (sentence : List UInt8) : Option NmeaReport :=
  if nmeaChecksumValid sentence = false then none
  else if GpsData.named ['G', 'G', 'A'] sentence then (readGga numbers sentence).map fun fields => .gga fields.time
  else if GpsData.named ['R', 'M', 'C'] sentence then
    (readRmc numbers sentence).map fun fields => if fields.active then .active fields.date fields.time else .void
  else none

def Journal.heard (numbers : CNumbers F D) (journal : Journal F) : List NmeaReport :=
  journal.closed.filterMap fun line => line.handed.bind (reportOf numbers)

structure PairedClock where
  date : GpsDate
  coherent : GpsTime
  valid : Bool

namespace PairedClock

variable (clock : PairedClock)

def take : NmeaReport → PairedClock
  | .gga time =>
    if clock.valid = true ∧ secondsSinceMidnight clock.coherent ≤ secondsSinceMidnight time then
      { clock with coherent := time }
    else clock
  | .active date time => ⟨date, time, true⟩
  | .void => { clock with valid := false }

theorem take_gga (time : GpsTime) : clock.take (.gga time) =
    if clock.valid = true ∧ secondsSinceMidnight clock.coherent ≤ secondsSinceMidnight time then
      { clock with coherent := time }
    else clock := rfl

def ofData (gps : GpsData F) : PairedClock := ⟨gps.date, gps.coherent, gps.coherentTimeValid⟩

end PairedClock

section Statement

def moment (date : GpsDate) (time : GpsTime) : DateTime :=
  ⟨date.year.toNat, date.month.toNat, date.day.toNat, time.hour.toNat, time.minute.toNat, time.second.toNat⟩

def SameDate (moment other : DateTime) : Prop :=
  moment.year = other.year ∧ moment.month = other.month ∧ moment.day = other.day

def SameTime (moment other : DateTime) : Prop :=
  moment.hour = other.hour ∧ moment.minute = other.minute ∧ moment.second = other.second

structure Sample where
  report : NmeaReport
  utc : DateTime

def Sample.Shows (sample : Sample) : Prop :=
  match sample.report with
  | .gga time => SameTime (moment ⟨0, 0, 0⟩ time) sample.utc
  | .active date time => moment date time = sample.utc
  | .void => True

def Sample.Timed (sample : Sample) : Prop := sample.report ≠ .void

structure Truthful (samples : List Sample) : Prop where
  shows : ∀ sample ∈ samples, sample.Shows
  real : ∀ sample ∈ samples, sample.Timed → sample.utc.Real ∧ 2020 ≤ sample.utc.year ∧ sample.utc.year ≤ 2099
  onward : samples.Pairwise fun sample later =>
    sample.Timed → later.Timed → sample.utc.secondCount ≤ later.utc.secondCount

def LastDated (samples : List Sample) (utc : DateTime) : Prop :=
  ∃ before date time after, samples = before ++ ⟨.active date time, utc⟩ :: after ∧
    ∀ later ∈ after, ∃ time, later.report = .gga time

def LastTimed (samples : List Sample) (utc : DateTime) : Prop :=
  ∃ before report after, samples = before ++ ⟨report, utc⟩ :: after ∧ report ≠ .void ∧
    ∀ later ∈ after, later.report = .void

structure Between (samples : List Sample) (pending first last : DateTime) : Prop where
  dated : LastDated samples first
  timed : LastTimed samples last
  after : first.secondCount ≤ pending.secondCount
  before : pending.secondCount ≤ last.secondCount
  same_day : SameDate first last → pending = last

/-- What is offered to the clock lies between the last dated sample and the last one, and what is stored as the epoch
    is what is offered. -/
structure TimePaired (numbers : CNumbers F D) (journal : Journal F) : Prop where
  pending : ∀ samples, samples.map Sample.report = journal.heard numbers → Truthful samples →
    ∀ now date time, (journal.state.getPendingTime now).1 = some (date, time) →
      ∃ first last, Between samples (moment date time) first last
  stored : ∀ read, journal.state.countChar.closesLine read.byte = true →
    let processed := journal.state.countChar.processLine numbers read.parsedMs
    processed.storesEpoch read.checkedMs = true →
      ∃ date time, (processed.getPendingTime read.checkedMs).1 = some (date, time) ∧
        utcToEpochChecked (moment date time) = some (some (journal.step numbers (.read read)).state.gps.epoch)

end Statement

section Epoch

theorem secondsSinceMidnight_toNat (time : GpsTime) : (secondsSinceMidnight time).toNat =
    time.hour.toNat * 3600 + time.minute.toNat * 60 + time.second.toNat := by
  have hour := time.hour.toNat_lt
  have minute := time.minute.toNat_lt
  have second := time.second.toNat_lt
  simp only [secondsSinceMidnight, UInt32.toNat_add, UInt32.toNat_mul, UInt8.toNat_toUInt32, UInt32.reduceToNat]
  omega

theorem ofInt_toNat {value : Int} (low : 0 ≤ value) (high : value < 4294967296) :
    ((UInt32.ofInt value).toNat : Int) = value := by
  unfold UInt32.ofInt
  rw [UInt32.toNat_ofNat']
  omega

theorem epochDays_eq {y m day : Int} {yoe months first : UInt32} (yearLow : 2019 ≤ y) (yearHigh : y ≤ 2099)
    (monthLow : 3 ≤ m) (monthHigh : m ≤ 14) (dayLow : 0 ≤ day) (dayHigh : day < 31)
    (years : (yoe.toNat : Int) = y - 2000)
    (month : (months.toNat : Int) = m) (ofMonth : (first.toNat : Int) = day) :
    (5 : Int) * 146097 +
        (yoe * 365 + yoe / 4 - yoe / 100 + ((153 * (months - 3) + 2) / 5 + first)).toBitVec.toInt - 719468 =
      365 * y + y / 4 - y / 100 + y / 400 + ((153 * (m - 3) + 2) / 5 + day) - 719468 := by
  have march : ((months - 3).toNat : Int) = m - 3 := by
    have three : (3 : UInt32) ≤ months := by
      simp only [UInt32.le_iff_toNat_le, UInt32.reduceToNat]
      omega
    rw [UInt32.toNat_sub_of_le _ _ three]
    simp only [UInt32.reduceToNat]
    omega
  have doy : (((153 * (months - 3) + 2) / 5 + first).toNat : Int) = (153 * (m - 3) + 2) / 5 + day := by
    simp only [UInt32.toNat_add, UInt32.toNat_div, UInt32.toNat_mul, UInt32.reduceToNat]
    simp (disch := omega) only [Nat.mod_eq_of_lt]
    omega
  generalize (153 * (months - 3) + 2) / 5 + first = ofYear at doy ⊢
  have centuries : yoe / 100 = 0 := by
    rw [← UInt32.toNat_inj, UInt32.toNat_div]
    simp only [UInt32.reduceToNat]
    omega
  have doe : ((yoe * 365 + yoe / 4 - yoe / 100 + ofYear).toNat : Int) =
      365 * (y - 2000) + (y - 2000) / 4 + ((153 * (m - 3) + 2) / 5 + day) := by
    rw [centuries, UInt32.sub_zero]
    simp only [UInt32.toNat_add, UInt32.toNat_div, UInt32.toNat_mul, UInt32.reduceToNat]
    simp (disch := omega) only [Nat.mod_eq_of_lt]
    omega
  have signed : (yoe * 365 + yoe / 4 - yoe / 100 + ofYear).toBitVec.toInt =
      ((yoe * 365 + yoe / 4 - yoe / 100 + ofYear).toNat : Int) := by
    apply BitVec.toInt_eq_toNat_of_lt
    rw [UInt32.toNat_toBitVec]
    omega
  rw [signed, doe]
  omega

theorem dayCount_bounds {moment : DateTime} (real : moment.Real) (low : 2020 ≤ moment.year)
    (high : moment.year ≤ 2099) :
    0 ≤ moment.dayCount ∧ moment.dayCount < 47482 := by
  have ofYear := DateTime.dayOfYear_bounds real
  have before := daysBeforeYear_eq moment.year
  have length := yearLength_eq moment.year
  unfold DateTime.dayCount
  omega

theorem secondOfDay_moment (date : GpsDate) (time : GpsTime) : (moment date time).secondOfDay =
    ((time.hour.toNat * 3600 + time.minute.toNat * 60 + time.second.toNat : Nat) : Int) := by
  simp [moment, DateTime.secondOfDay]

theorem epochOf_eq {date : GpsDate} {time : GpsTime} (real : (moment date time).Real) (low : 2020 ≤ date.year.toNat)
    (high : date.year.toNat ≤ 2099) : epochOf date time = UInt32.ofNat (moment date time).secondCount.toNat := by
  obtain ⟨monthLow, monthHigh⟩ := real.month
  obtain ⟨dayLow, dayHigh⟩ := real.day
  have length := Mesh.monthLength_le (moment date time).year (moment date time).month
  have total := Mesh.marchDays_eq (moment date time).year (moment date time).day monthLow monthHigh
  have early_iff : date.month < 3 ↔ (moment date time).month < 3 := by
    rw [UInt8.lt_iff_toNat_lt]
    simp only [moment, UInt8.reduceToNat]
    omega
  generalize hy : (if (moment date time).month < 3 then (moment date time).year - 1 else (moment date time).year) =
    y at total
  generalize hm : (if (moment date time).month < 3 then (moment date time).month + 12 else (moment date time).month) = m
    at total
  have year : (moment date time).year = date.year.toNat := rfl
  have yBounds : 2019 ≤ y ∧ y ≤ 2099 := by
    split at hy <;> omega
  have mBounds : 3 ≤ m ∧ m ≤ 14 := by
    split at hm <;> omega
  have yCode : (if date.month < 3 then (date.year.toNat : Int) - 1 else date.year.toNat) = y := by
    rw [← hy]
    simp only [early_iff]
    rfl
  have mCode : ((if date.month < 3 then date.month.toUInt32 + 12 else date.month.toUInt32).toNat : Int) = m := by
    rw [← hm]
    simp only [early_iff]
    have byte := date.month.toNat_lt
    split
    · simp only [UInt32.toNat_add, UInt8.toNat_toUInt32, UInt32.reduceToNat, moment]
      omega
    · simp only [UInt8.toNat_toUInt32, moment]
  have era : (if 0 ≤ y then y else y - 399).tdiv 400 = 5 := by
    rw [Mesh.era_eq]
    omega
  unfold epochOf
  simp only [yCode, era]
  have yoe : ((UInt32.ofInt (y - 5 * 400)).toNat : Int) = y - 2000 := ofInt_toNat (by omega) (by omega)
  have first : ((UInt32.ofInt (date.day.toNat - 1)).toNat : Int) = (moment date time).day - 1 :=
    ofInt_toNat (by simp only [moment] at dayLow; omega) (by have byte := date.day.toNat_lt; omega)
  have days := epochDays_eq yBounds.1 yBounds.2 mBounds.1 mBounds.2 (by omega) (by omega) yoe mCode first
  have whole : daysBeforeYear (moment date time).year + daysBeforeMonth (moment date time).year
      (moment date time).month +
      ((moment date time).day - 1) = (moment date time).dayCount := by
    rw [DateTime.dayCount, DateTime.dayOfYear, Int.add_assoc]
  rw [days, total, whole]
  obtain ⟨daysLow, daysHigh⟩ := dayCount_bounds real (by omega) (by omega)
  have counted : ((UInt32.ofInt (moment date time).dayCount).toNat : Int) = (moment date time).dayCount :=
    ofInt_toNat daysLow (by omega)
  have count : (moment date time).secondCount = (moment date time).dayCount * 86400 +
      (time.hour.toNat * 3600 + time.minute.toNat * 60 + time.second.toNat) := rfl
  have seconds := secondOfDay_moment date time ▸ DateTime.secondOfDay_bounds real
  generalize UInt32.ofInt (moment date time).dayCount = ofDays at counted ⊢
  rw [← UInt32.toNat_inj, UInt32.toNat_ofNat', count]
  simp only [UInt32.toNat_add, UInt32.toNat_mul, UInt8.toNat_toUInt32, UInt32.reduceToNat]
  have hour := time.hour.toNat_lt
  have minute := time.minute.toNat_lt
  have second := time.second.toNat_lt
  omega

end Epoch

section Fields

variable {value : List UInt8} {date : GpsDate} {time : GpsTime}

theorem digit_le {c : UInt8} (digits : isDigit c = true) : digit c ≤ 9 := by
  simp only [isDigit, Bool.and_eq_true, decide_eq_true_eq] at digits
  obtain ⟨low, high⟩ := digits
  rw [UInt8.le_iff_toNat_le] at low high
  have zero : (ascii '0').toNat = 48 := rfl
  have nine : (ascii '9').toNat = 57 := rfl
  unfold digit
  rw [UInt8.toNat_sub_of_le _ _ (UInt8.le_iff_toNat_le.mpr low)]
  omega

theorem twoDigits_le {count index : Nat} (digits : nmeaDigits value count = true) (inside : index + 1 < count) :
    twoDigits value index ≤ 99 := by
  simp only [nmeaDigits, Bool.and_eq_true, decide_eq_true_eq, List.all_eq_true] at digits
  have here (place : Nat) (before : place < count) : digit (value.getD place 0) ≤ 9 := by
    have long : place < value.length := by omega
    apply digit_le
    apply digits.2
    rw [List.getD_eq_getElem _ _ long]
    exact List.mem_take_iff_getElem.mpr ⟨place, by omega, rfl⟩
  have tens := here index (by omega)
  have ones := here (index + 1) inside
  unfold twoDigits
  omega

theorem nmeaTime_bounds (read : nmeaTime value = some time) :
    time.hour.toNat ≤ 23 ∧ time.minute.toNat ≤ 59 ∧ time.second.toNat ≤ 59 := by
  unfold nmeaTime at read
  dsimp only at read
  split_ifs at read with malformed late
  simp only [not_or, Nat.not_lt] at late
  cases read
  simp only [UInt8.toNat_ofNat']
  omega

theorem leapYear_iff (year : UInt16) : leapYear year = true ↔ IsLeap year.toNat := by
  simp only [leapYear, IsLeap, Bool.and_eq_true, Bool.or_eq_true, beq_iff_eq, bne_iff_ne, ne_eq, ← UInt16.toNat_inj,
    UInt16.toNat_mod, UInt16.reduceToNat]
  omega

theorem maxDay_eq {month : Nat} (low : 1 ≤ month) (high : month ≤ 12) (year : UInt16) :
    ((if month = 2 ∧ leapYear year then 29 else daysPerMonth.getD (month - 1) 0 : Nat) : Int) =
      monthLength year.toNat month := by
  have cases : month = 1 ∨ month = 2 ∨ month = 3 ∨ month = 4 ∨ month = 5 ∨ month = 6 ∨ month = 7 ∨ month = 8 ∨
      month = 9 ∨ month = 10 ∨ month = 11 ∨ month = 12 := by omega
  by_cases leap : IsLeap year.toNat
  all_goals
    rcases cases with rfl | rfl | rfl | rfl | rfl | rfl | rfl | rfl | rfl | rfl | rfl | rfl <;>
      simp [monthLength, daysPerMonth, leapYear_iff, leap]

theorem nmeaDate_bounds (read : nmeaDate value = some date) : 2000 ≤ date.year.toNat ∧ date.year.toNat ≤ 2099 ∧
    1 ≤ date.month.toNat ∧ date.month.toNat ≤ 12 ∧
    1 ≤ date.day.toNat ∧ (date.day.toNat : Int) ≤ monthLength date.year.toNat date.month.toNat := by
  unfold nmeaDate at read
  dsimp only at read
  generalize most : (if twoDigits value 2 = 2 ∧ leapYear (UInt16.ofNat (2000 + twoDigits value 4)) = true then 29
    else daysPerMonth.getD (twoDigits value 2 - 1) 0) = maxDay at read
  split_ifs at read with malformed months days
  simp only [not_or, Bool.not_eq_false, Nat.not_lt] at malformed months days
  have century : twoDigits value 4 ≤ 99 := twoDigits_le malformed.2 (by decide)
  have length := maxDay_eq months.1 months.2 (UInt16.ofNat (2000 + twoDigits value 4))
  have longest := Mesh.monthLength_le (UInt16.ofNat (2000 + twoDigits value 4)).toNat (twoDigits value 2)
  rw [most] at length
  cases read
  have month : (UInt8.ofNat (twoDigits value 2)).toNat = twoDigits value 2 := by
    rw [UInt8.toNat_ofNat']
    omega
  have day : (UInt8.ofNat (twoDigits value 0)).toNat = twoDigits value 0 := by
    rw [UInt8.toNat_ofNat']
    omega
  have year : (UInt16.ofNat (2000 + twoDigits value 4)).toNat = 2000 + twoDigits value 4 := by
    rw [UInt16.toNat_ofNat']
    omega
  simp only [month, day]
  omega

end Fields

section Reports

variable {numbers : CNumbers F D} {sentence : List UInt8}

def NmeaReport.Real : NmeaReport → Prop
  | .gga time => time.hour.toNat ≤ 23 ∧ time.minute.toNat ≤ 59 ∧ time.second.toNat ≤ 59
  | .active date time => (moment date time).Real ∧ 2000 ≤ date.year.toNat ∧ date.year.toNat ≤ 2099
  | .void => True

theorem readGga_time {fields : GgaFields F} (read : readGga numbers sentence = some fields) :
    ∃ value, nmeaTime value = some fields.time := by
  obtain ⟨value, -, rest⟩ := Option.bind_eq_some_iff.mp read
  obtain ⟨time, timed, rest⟩ := Option.bind_eq_some_iff.mp rest
  refine ⟨value, timed.trans (congrArg some ?_)⟩
  iterate 12 obtain ⟨_, -, rest⟩ := Option.bind_eq_some_iff.mp rest
  exact congrArg GgaFields.time (Option.some.inj rest)

theorem readRmc_stamp {fields : RmcFields F} (read : readRmc numbers sentence = some fields) :
    (∃ value, nmeaTime value = some fields.time) ∧ ∃ value, nmeaDate value = some fields.date := by
  obtain ⟨value, -, rest⟩ := Option.bind_eq_some_iff.mp read
  obtain ⟨time, timed, rest⟩ := Option.bind_eq_some_iff.mp rest
  iterate 13 obtain ⟨_, -, rest⟩ := Option.bind_eq_some_iff.mp rest
  obtain ⟨stamp, -, rest⟩ := Option.bind_eq_some_iff.mp rest
  obtain ⟨date, dated, rest⟩ := Option.bind_eq_some_iff.mp rest
  refine ⟨⟨value, timed.trans (congrArg some ?_)⟩, ⟨stamp, dated.trans (congrArg some ?_)⟩⟩
  · exact congrArg RmcFields.time (Option.some.inj rest)
  · exact congrArg RmcFields.date (Option.some.inj rest)

theorem reportOf_real {report : NmeaReport} (read : reportOf numbers sentence = some report) : report.Real := by
  unfold reportOf at read
  split_ifs at read
  · obtain ⟨fields, parsed, rfl⟩ := Option.map_eq_some_iff.mp read
    obtain ⟨value, timed⟩ := readGga_time parsed
    exact nmeaTime_bounds timed
  · obtain ⟨fields, parsed, rfl⟩ := Option.map_eq_some_iff.mp read
    split
    · obtain ⟨⟨value, timed⟩, stamp, dated⟩ := readRmc_stamp parsed
      obtain ⟨hour, minute, second⟩ := nmeaTime_bounds timed
      obtain ⟨yearLow, yearHigh, monthLow, monthHigh, dayLow, dayHigh⟩ := nmeaDate_bounds dated
      refine ⟨⟨?_, ?_, ?_, ?_, ?_⟩, yearLow, yearHigh⟩
      all_goals
        simp only [moment]
        omega
    · trivial

section Clock

open PairedClock GpsData

variable {gps : GpsData F} {now : UInt32}

@[simp] theorem invalidateFix_clock : ofData gps.invalidateFix = ofData gps := rfl

theorem commitGga_clock (fields : GgaFields F) :
    ofData (gps.commitGga fields now) = (ofData gps).take (.gga fields.time) := by
  have moved : ofData (gps.commitGga fields now) = ⟨gps.date, if gps.coherentTimeValid &&
      decide (secondsSinceMidnight gps.coherent ≤ secondsSinceMidnight fields.time) then fields.time else gps.coherent,
      gps.coherentTimeValid⟩ := by
    unfold commitGga invalidateFix
    split <;> rfl
  rw [moved]
  by_cases onward : gps.coherentTimeValid = true ∧ secondsSinceMidnight gps.coherent ≤ secondsSinceMidnight fields.time
  · simp [take, ofData, onward]
  · have stays : (gps.coherentTimeValid &&
        decide (secondsSinceMidnight gps.coherent ≤ secondsSinceMidnight fields.time)) = false := by
      rwa [Bool.eq_false_iff, Ne, Bool.and_eq_true, decide_eq_true_eq]
    simp [take, ofData, onward, stays]

theorem commitRmc_clock (fields : RmcFields F) : ofData (gps.commitRmc fields now) =
    (ofData gps).take (if fields.active then .active fields.date fields.time else .void) := by
  unfold commitRmc
  cases fields.active <;> rfl

theorem countSnr_clock (sentence : List UInt8) (field : Nat) :
    ofData (countSnr numbers sentence gps field) = ofData gps := by
  unfold countSnr
  cases nmeaField sentence field 20 with
  | none => rfl
  | some value =>
    dsimp only
    split <;> rfl

theorem foldl_countSnr_clock (fields : List Nat) :
    ofData (fields.foldl (countSnr numbers sentence) gps) = ofData gps := by
  induction fields generalizing gps with
  | nil => rfl
  | cons field rest ih => exact ih.trans (countSnr_clock sentence field)

theorem parseGsv_clock : ofData (gps.parseGsv numbers sentence) = ofData gps := by
  have folded (start : GpsData F) : ofData ([7, 11, 15, 19].foldl (countSnr numbers sentence) start) = ofData start :=
    foldl_countSnr_clock _
  unfold parseGsv
  dsimp only
  generalize hStart : (if (atoiField numbers sentence 2).getD 0 ≤ 1 then
    ({ gps with gsvCycleSnrMax := 0, gsvCycleSnrCount := 0 } : GpsData F) else gps) = start
  have same : ofData start = ofData gps := by
    rw [← hStart]
    split <;> rfl
  exact (folded _).trans same

theorem processNmea_clock (numbers : CNumbers F D) (sentence : List UInt8) (gps : GpsData F) (now : UInt32) :
    ofData (gps.processNmea numbers sentence now) =
    match reportOf numbers sentence with
    | none => ofData gps
    | some report => (ofData gps).take report := by
  unfold processNmea reportOf dispatch parseGga parseRmc
  by_cases broken : nmeaChecksumValid sentence = false
  · simp only [broken, if_true]
    rfl
  by_cases gga : named ['G', 'G', 'A'] sentence = true
  · rw [if_neg broken, if_neg broken, if_pos gga, if_pos gga]
    cases readGga numbers sentence with
    | none => rfl
    | some fields => exact commitGga_clock fields
  by_cases rmc : named ['R', 'M', 'C'] sentence = true
  · rw [if_neg broken, if_neg broken, if_neg gga, if_neg gga, if_pos rmc, if_pos rmc]
    cases readRmc numbers sentence with
    | none => rfl
    | some fields => exact commitRmc_clock fields
  rw [if_neg broken, if_neg broken, if_neg gga, if_neg gga, if_neg rmc, if_neg rmc]
  split_ifs
  · have same (start : GpsData F) : ofData (start.parseGsv numbers sentence) = ofData start := parseGsv_clock
    exact same { gps with gsvSentences := gps.gsvSentences + 1 }
  · rfl
  · rfl

end Clock

end Reports

section Pairing

variable {samples : List Sample} {clock : PairedClock}

def Paired (samples : List Sample) (clock : PairedClock) : Prop :=
  clock.valid = true → ∃ first last, Between samples (moment clock.date clock.coherent) first last ∧
    first.Real ∧ last.Real ∧ SameDate (moment clock.date clock.coherent) first ∧ first.secondCount ≤ last.secondCount

theorem eq_of_same {one other : DateTime} (date : SameDate one other) (time : SameTime one other) : one = other := by
  cases one
  cases other
  simp only [SameDate, SameTime] at date time
  simp only [DateTime.mk.injEq]
  exact ⟨date.1, date.2.1, date.2.2, time.1, time.2.1, time.2.2⟩

theorem SameDate.dayCount {one other : DateTime} (date : SameDate one other) : one.dayCount = other.dayCount := by
  obtain ⟨year, month, day⟩ := date
  rw [DateTime.dayCount, DateTime.dayCount, DateTime.dayOfYear, DateTime.dayOfYear, year, month, day]

theorem SameTime.secondOfDay {one other : DateTime} (time : SameTime one other) :
    one.secondOfDay = other.secondOfDay := by
  obtain ⟨hour, minute, second⟩ := time
  rw [DateTime.secondOfDay, DateTime.secondOfDay, hour, minute, second]

theorem sameDate_of_dayCount {one other : DateTime} (real : one.Real) (other_real : other.Real)
    (same : one.dayCount = other.dayCount) : SameDate one other := by
  by_contra apart
  have order : (one.year < other.year ∨ one.year = other.year ∧ (one.month < other.month ∨ one.month = other.month ∧
      one.day < other.day)) ∨ (other.year < one.year ∨ other.year = one.year ∧ (other.month < one.month ∨
      other.month = one.month ∧ other.day < one.day)) := by
    unfold SameDate at apart
    omega
  rcases order with before | after
  · have lt := DateTime.dayCount_lt real other_real before
    omega
  · have lt := DateTime.dayCount_lt other_real real after
    omega

theorem LastDated.gga {time : GpsTime} {utc first : DateTime} (dated : LastDated samples first) :
    LastDated (samples ++ [⟨.gga time, utc⟩]) first := by
  obtain ⟨before, date, stamp, after, rfl, later⟩ := dated
  refine ⟨before, date, stamp, after ++ [⟨.gga time, utc⟩], by simp, ?_⟩
  intro sample inside
  rcases List.mem_append.mp inside with earlier | last
  · exact later sample earlier
  · exact ⟨time, by rw [List.mem_singleton.mp last]⟩

theorem lastTimed_concat {report : NmeaReport} {utc : DateTime} (timed : report ≠ .void) :
    LastTimed (samples ++ [⟨report, utc⟩]) utc :=
  ⟨samples, report, [], rfl, timed, fun _ none => absurd none List.not_mem_nil⟩

theorem LastTimed.onward {report : NmeaReport} {utc last : DateTime} (timed : LastTimed samples last)
    (truthful : Truthful (samples ++ [⟨report, utc⟩])) (tells : report ≠ .void) :
    last.secondCount ≤ utc.secondCount := by
  obtain ⟨before, earlier, after, rfl, told, -⟩ := timed
  exact (List.pairwise_append.mp truthful.onward).2.2 ⟨earlier, last⟩ (by simp) ⟨report, utc⟩ (by simp) told tells

theorem Paired.gga {time : GpsTime} {utc : DateTime} (paired : Paired samples clock)
    (truthful : Truthful (samples ++ [⟨.gga time, utc⟩])) :
    Paired (samples ++ [⟨.gga time, utc⟩]) (clock.take (.gga time)) := by
  have member : (⟨.gga time, utc⟩ : Sample) ∈ samples ++ [⟨.gga time, utc⟩] := by simp
  have told : SameTime (moment clock.date time) utc := truthful.shows _ member
  have real : utc.Real := (truthful.real _ member (by simp [Sample.Timed])).1
  intro valid
  have held : clock.valid = true := by
    rw [PairedClock.take_gga] at valid
    split at valid
    · exact valid
    · exact valid
  obtain ⟨first, last, between, firstReal, lastReal, sameDate, ordered⟩ := paired held
  have onward := between.timed.onward truthful (by simp)
  have after := between.after
  have before := between.before
  have ofDay := DateTime.secondOfDay_bounds real
  have firstOfDay := DateTime.secondOfDay_bounds firstReal
  have lastOfDay := DateTime.secondOfDay_bounds lastReal
  have stamped (time : GpsTime) : (moment clock.date time).secondCount =
      first.dayCount * 86400 + (secondsSinceMidnight time).toNat := by
    rw [DateTime.secondCount, secondOfDay_moment, secondsSinceMidnight_toNat, ← sameDate.dayCount]
    rfl
  have was := stamped clock.coherent
  have now := stamped time
  have shown : (secondsSinceMidnight time).toNat = utc.secondOfDay := by
    rw [← told.secondOfDay, secondOfDay_moment, secondsSinceMidnight_toNat]
  have counts (moment : DateTime) : moment.secondCount = moment.dayCount * 86400 + moment.secondOfDay := rfl
  rw [counts] at onward ordered
  rw [counts utc] at onward
  rw [counts last] at before ordered
  rw [counts first] at after
  rw [PairedClock.take_gga]
  by_cases forward : secondsSinceMidnight clock.coherent ≤ secondsSinceMidnight time
  · rw [if_pos ⟨held, forward⟩]
    rw [UInt32.le_iff_toNat_le] at forward
    refine ⟨first, utc, ⟨between.dated.gga, lastTimed_concat (by simp), ?_, ?_, ?_⟩, firstReal, real, sameDate, ?_⟩
    · show first.secondCount ≤ (moment clock.date time).secondCount
      rw [counts, now]
      omega
    · show (moment clock.date time).secondCount ≤ utc.secondCount
      rw [counts utc, now]
      omega
    · intro same
      exact eq_of_same ⟨sameDate.1.trans same.1, sameDate.2.1.trans same.2.1, sameDate.2.2.trans same.2.2⟩ told
    · rw [counts, counts]
      omega
  · rw [if_neg fun both => forward both.2]
    rw [UInt32.le_iff_toNat_le] at forward
    refine ⟨first, utc, ⟨between.dated.gga, lastTimed_concat (by simp), between.after, ?_, ?_⟩, firstReal, real,
      sameDate, ?_⟩
    · rw [counts utc]
      omega
    · intro same
      -- On the date of the last dated sample the time of the last one does not go back.
      have dates := same.dayCount
      have exact_last := between.same_day (sameDate_of_dayCount firstReal lastReal (by omega))
      have lasts := congrArg DateTime.secondCount exact_last
      rw [was, counts] at lasts
      omega
    · rw [counts, counts]
      omega

theorem Paired.take {report : NmeaReport} {utc : DateTime} (paired : Paired samples clock)
    (truthful : Truthful (samples ++ [⟨report, utc⟩])) : Paired (samples ++ [⟨report, utc⟩]) (clock.take report) := by
  cases report with
  | gga time => exact paired.gga truthful
  | active date time =>
    have member : (⟨.active date time, utc⟩ : Sample) ∈ samples ++ [⟨.active date time, utc⟩] := by simp
    have told : moment date time = utc := truthful.shows _ member
    obtain ⟨real, -⟩ := truthful.real _ member (by simp [Sample.Timed])
    have dated : LastDated (samples ++ [⟨.active date time, utc⟩]) utc :=
      ⟨samples, date, time, [], rfl, fun _ none => absurd none List.not_mem_nil⟩
    intro _
    refine ⟨utc, utc, ⟨dated, lastTimed_concat (by simp), ?_, ?_, fun _ => told⟩, real, real, ?_, le_refl _⟩
    · exact (congrArg DateTime.secondCount told).ge
    · exact (congrArg DateTime.secondCount told).le
    · rw [PairedClock.take, told]
      exact ⟨rfl, rfl, rfl⟩
  | void => exact fun valid => absurd valid (by simp [PairedClock.take])

def ClockReal (clock : PairedClock) : Prop :=
  clock.valid = true → (moment clock.date clock.coherent).Real ∧ 2000 ≤ clock.date.year.toNat ∧
    clock.date.year.toNat ≤ 2099

theorem ClockReal.take {report : NmeaReport} (holds : ClockReal clock) (real : report.Real) :
    ClockReal (clock.take report) := by
  cases report with
  | gga time =>
    rw [PairedClock.take_gga]
    split
    · intro valid
      obtain ⟨⟨month, day, -, -, -⟩, years⟩ := holds valid
      obtain ⟨hour, minute, second⟩ := real
      refine ⟨⟨month, day, ?_, ?_, ?_⟩, years⟩
      all_goals
        simp only [moment]
        omega
    · exact holds
  | active date time => exact fun _ => real
  | void => exact fun valid => absurd valid (by simp [PairedClock.take])

end Pairing

section Steps

open PairedClock

variable {numbers : CNumbers F D} {journal : Journal F} {state : GpsState F} {now : UInt32}

theorem fixIsFresh_clock (gps : GpsData F) : ofData (gps.fixIsFresh now).2 = ofData gps := by
  unfold GpsData.fixIsFresh
  split_ifs <;> rfl

theorem ofData_epoch (gps : GpsData F) (epoch : UInt32) : ofData { gps with epoch := epoch } = ofData gps := rfl

theorem storeEpoch_clock : ofData (state.storeEpoch now).gps = ofData state.gps := by
  unfold GpsState.storeEpoch
  split
  · rfl
  · have same : ofData (state.gps.fixIsFresh now).2 = ofData state.gps := fixIsFresh_clock _
    dsimp only
    split
    · exact (ofData_epoch _ _).trans same
    · exact same

theorem readByte_clock {read : UartRead} : ofData (state.readByte numbers read).gps =
    if state.countChar.closesLine read.byte then ofData (state.countChar.processLine numbers read.parsedMs).gps
    else ofData state.gps := by
  unfold GpsState.readByte
  dsimp only
  split
  · exact storeEpoch_clock
  · split_ifs <;> rfl

theorem step_clock {step : GpsStep} (other : ∀ read, step ≠ .read read) :
    ofData (state.step numbers step).gps = ofData state.gps ∨ (ofData (state.step numbers step).gps).valid = false := by
  cases step with
  | read read => exact absurd rfl (other read)
  | init begunMs => exact Or.inr rfl
  | stop =>
    left
    simp only [GpsState.step, GpsState.stopUart]
    split <;> rfl
  | cycleBaud now begunMs =>
    left
    simp only [GpsState.step, GpsState.maybeCycleBaud]
    split_ifs <;> rfl
  | expire now => exact Or.inl (fixIsFresh_clock _)
  | publish now => exact Or.inl (fixIsFresh_clock _)
  | _ => exact Or.inl rfl

structure ClockInvariant (numbers : CNumbers F D) (journal : Journal F) : Prop where
  paired : ∀ samples, samples.map Sample.report = journal.heard numbers → Truthful samples →
    Paired samples (ofData journal.state.gps)
  real : ClockReal (ofData journal.state.gps)

theorem Truthful.left {samples later : List Sample} (truthful : Truthful (samples ++ later)) : Truthful samples where
  shows sample inside := truthful.shows sample (List.mem_append_left _ inside)
  real sample inside := truthful.real sample (List.mem_append_left _ inside)
  onward := (List.pairwise_append.mp truthful.onward).1

theorem read_report (numbers : CNumbers F D) (journal : Journal F) (read : UartRead) : ∃ reported : Option NmeaReport,
    (journal.step numbers (.read read)).heard numbers = journal.heard numbers ++ reported.toList ∧
      ofData (journal.step numbers (.read read)).state.gps =
        reported.elim (ofData journal.state.gps) (ofData journal.state.gps).take ∧
      ∀ report ∈ reported, report.Real := by
  have stepped : (journal.step numbers (.read read)).state = journal.state.readByte numbers read := by
    simp only [Journal.step, GpsState.step]
    split <;> rfl
  by_cases closes : journal.state.countChar.closesLine read.byte = true
  · have ends : read.byte = ascii '\n' := by
      simp only [GpsState.closesLine, Bool.and_eq_true, beq_iff_eq] at closes
      exact closes.1.1
    refine ⟨reportOf numbers (cText journal.state.nmeaBuf), ?_, ?_, fun report told => reportOf_real told⟩
    · simp only [Journal.step, if_pos ends, Journal.heard, List.filterMap_append, close_closed closes]
      cases told : reportOf numbers (cText journal.state.nmeaBuf) <;> simp [told]
    · rw [stepped, readByte_clock, if_pos closes]
      have parsed := processNmea_clock numbers (cText journal.state.nmeaBuf)
        { journal.state.countChar.gps with sentencesReceived := journal.state.countChar.gps.sentencesReceived + 1 }
        read.parsedMs
      refine parsed.trans ?_
      cases reportOf numbers (cText journal.state.nmeaBuf) <;> rfl
  · refine ⟨none, ?_, ?_, by simp⟩
    · simp only [Journal.step, Journal.heard, Option.toList_none, List.append_nil]
      split
      · simp [close_open (Bool.eq_false_iff.mpr closes)]
      · rfl
    · rw [stepped, readByte_clock, if_neg closes]
      rfl

theorem ClockInvariant.step {step : GpsStep} (holds : ClockInvariant numbers journal) :
    ClockInvariant numbers (journal.step numbers step) := by
  by_cases reads : ∃ read, step = .read read
  · obtain ⟨read, rfl⟩ := reads
    obtain ⟨reported, heard, clock, real⟩ := read_report numbers journal read
    constructor
    · intro samples same truthful
      rw [heard] at same
      rw [clock]
      cases reported with
      | none =>
        rw [Option.toList_none, List.append_nil] at same
        exact holds.paired samples same truthful
      | some report =>
        obtain ⟨earlier, last, rfl, before, told⟩ := List.map_eq_append_iff.mp same
        obtain ⟨sample, rfl, shown⟩ := List.map_eq_singleton_iff.mp told
        obtain ⟨report, utc⟩ := sample
        obtain rfl : report = _ := shown
        exact (holds.paired earlier before truthful.left).take truthful
    · rw [clock]
      cases reported with
      | none => exact holds.real
      | some report => exact holds.real.take (real report rfl)
  · have other : ∀ read, step ≠ .read read := fun read same => reads ⟨read, same⟩
    have heard : (journal.step numbers step).heard numbers = journal.heard numbers := by
      rw [step_other other]
      rfl
    have state : (journal.step numbers step).state = journal.state.step numbers step := by rw [step_other other]
    rcases @step_clock F D numbers journal.state step other with same | invalid
    · exact ⟨fun samples told truthful => state ▸ same ▸ holds.paired samples (heard ▸ told) truthful,
        state ▸ same ▸ holds.real⟩
    · rw [← state] at invalid
      exact ⟨fun _ _ _ valid => absurd valid (by simp [invalid]), fun valid => absurd valid (by simp [invalid])⟩

theorem pending_clock {date : GpsDate} {time : GpsTime} (pending : (state.getPendingTime now).1 = some (date, time)) :
    ofData state.gps = ⟨date, time, true⟩ := by
  have same : ofData (state.gps.fixIsFresh now).2 = ofData state.gps := fixIsFresh_clock _
  unfold GpsState.getPendingTime at pending
  split_ifs at pending with idle
  dsimp only at pending
  split_ifs at pending with refused
  have valid : (state.gps.fixIsFresh now).2.coherentTimeValid = true := by
    simp only [not_or, Bool.not_eq_false, GpsState.dated, Bool.and_eq_true] at refused
    exact refused.2.1.2
  obtain ⟨rfl, rfl⟩ := Prod.mk.inj (Option.some.inj pending)
  rw [← same, ← valid]
  rfl

theorem stored_epoch (real : ClockReal (ofData state.gps)) (stores : state.storesEpoch now = true) :
    (state.getPendingTime now).1 = some (state.gps.date, state.gps.coherent) ∧
      utcToEpochChecked (moment state.gps.date state.gps.coherent) = some (some (state.storeEpoch now).gps.epoch) := by
  have all := stores
  simp only [GpsState.storesEpoch, GpsState.dated, Bool.and_eq_true, decide_eq_true_eq] at all
  obtain ⟨⟨due, fresh⟩, recent, valid⟩ := all
  rw [UInt16.le_iff_toNat_le] at recent
  obtain ⟨actual, high⟩ : (moment state.gps.date state.gps.coherent).Real ∧ state.gps.date.year.toNat ≤ 2099 :=
    ⟨(real valid).1, (real valid).2.2⟩
  have low : 2020 ≤ state.gps.date.year.toNat := recent
  have unchanged : (state.gps.fixIsFresh now).2 = state.gps := by
    unfold GpsData.fixIsFresh at fresh ⊢
    split_ifs at fresh ⊢
    rfl
  have stored : (state.storeEpoch now).gps.epoch = epochOf state.gps.date state.gps.coherent := by
    simp only [GpsState.storeEpoch, due, stores, unchanged, if_true, Bool.true_eq_false, if_false]
  constructor
  · have accepted :
        ¬ ((state.gps.fixIsFresh now).1 = false ∨ GpsState.dated state.gps = false ∨ state.gps.date.month < 1 ∨
        state.gps.date.month > 12 ∨ state.gps.date.day < 1 ∨ state.gps.date.day > 31) := by
      have length := Mesh.monthLength_le (moment state.gps.date state.gps.coherent).year
        (moment state.gps.date state.gps.coherent).month
      obtain ⟨month, day, -⟩ := actual
      have dated : GpsState.dated state.gps = true := by simp [GpsState.dated, UInt16.le_iff_toNat_le, low, valid]
      simp only [fresh, dated, Bool.true_eq_false, false_or, gt_iff_lt, UInt8.lt_iff_toNat_lt, UInt8.reduceToNat]
      simp only [moment] at month day length
      omega
    unfold GpsState.getPendingTime
    rw [if_neg (by simp [due])]
    dsimp only
    rw [unchanged, if_neg accepted]
  · have bounds := dayCount_bounds actual (by simp only [moment]; omega) (by simp only [moment]; omega)
    have seconds := DateTime.secondOfDay_bounds actual
    rw [utcToEpochChecked_eq (by simp only [moment]; omega) (by simp only [moment]; omega) actual, stored,
      epochOf_eq actual low high, if_neg]
    unfold DateTime.secondCount
    omega

/-- For every run: what is offered to the clock is never ahead of the last true time nor behind the last
    dated sample. -/
theorem gps_time_paired (numbers : CNumbers F D) (steps : List GpsStep) :
    TimePaired numbers (run (Journal.step numbers) (.boot numbers) steps) := by
  have booted : ClockInvariant numbers (.boot numbers) :=
    ⟨fun _ _ _ valid => absurd valid Bool.false_ne_true, fun valid => absurd valid Bool.false_ne_true⟩
  have held : ClockInvariant numbers (run (Journal.step numbers) (.boot numbers) steps) :=
    run_invariant (ClockInvariant numbers) booted (fun journal step holds => holds.step) steps
  generalize run (Journal.step numbers) (.boot numbers) steps = journal at held
  constructor
  · intro samples same truthful now date time pending
    obtain ⟨first, last, between, -⟩ := held.paired samples same truthful (by rw [pending_clock pending])
    rw [pending_clock pending] at between
    exact ⟨first, last, between⟩
  · intro read closes processed stores
    have ends : read.byte = ascii '\n' := by
      simp only [GpsState.closesLine, Bool.and_eq_true, beq_iff_eq] at closes
      exact closes.1.1
    have after : (journal.step numbers (.read read)).state = processed.storeEpoch read.checkedMs := by
      simp only [Journal.step, if_pos ends, GpsState.step, GpsState.readByte, if_pos closes]
      rfl
    have clock : ofData processed.gps = ofData (journal.step numbers (.read read)).state.gps := by
      rw [after, storeEpoch_clock]
    have real : ClockReal (ofData processed.gps) := by
      rw [clock]
      exact (ClockInvariant.step held).real
    obtain ⟨pending, epoch⟩ := stored_epoch real stores
    rw [after]
    exact ⟨_, _, pending, epoch⟩

end Steps

example : let sentences : List UInt8 :=
    ("$GPRMC,235950,A,4807.038,N,01131.000,E,,,311224*10\n$GPGGA,000005,4807.038,N,01131.000,E,1,08,,545.4*51\n").toList.map ascii
    ((run (GpsState.step noNumbers) (.off noNumbers) (reading sentences)).getPendingTime 0).1 =
      some (⟨2024, 12, 31⟩, ⟨23, 59, 50⟩) := by decide +kernel

end SigurdOS.Hal.Gps
