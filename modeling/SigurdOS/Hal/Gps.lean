import SigurdOS.Library.Runs
import SigurdOS.Mesh.Base64

namespace SigurdOS.Hal.Gps

open Mesh (ascii)
open Runs

/-- The number conversions of the C library, each with the text it stops at, and the arithmetic on their results. -/
structure CNumbers (F D : Type) where
  zero : F
  strtof : List UInt8 → F × List UInt8
  isFinite : F → Bool
  atLeast360 : F → Bool
  negate : F → F
  strtod : List UInt8 → D × List UInt8
  isFiniteD : D → Bool
  ofUnsigned : Nat → D
  add : D → D → D
  sub : D → D → D
  div : D → D → D
  less : D → D → Bool
  atLeast : D → D → Bool
  equal : D → D → Bool
  toFloat : D → F
  atoi : List UInt8 → Int

structure GpsTime where
  hour : UInt8
  minute : UInt8
  second : UInt8
  deriving DecidableEq

structure GpsDate where
  year : UInt16
  month : UInt8
  day : UInt8
  deriving DecidableEq

def cText (buffer : List UInt8) : List UInt8 := buffer.takeWhile (· != 0)

section Fields

variable {F D : Type} (numbers : CNumbers F D)

def isDigit (c : UInt8) : Bool := ascii '0' ≤ c && c ≤ ascii '9'

def digit (c : UInt8) : Nat := (c - ascii '0').toNat

def nmeaDigits (value : List UInt8) (count : Nat) : Bool :=
  decide (count ≤ value.length) && (value.take count).all isDigit

def decimal (digits : List UInt8) : Nat := digits.foldl (fun number c => number * 10 + digit c) 0

def strtoul (digits : List UInt8) : Nat := min (decimal digits) 4294967295

def nmeaUnsigned (value : List UInt8) (maxValue : Nat) : Option Nat :=
  if value = [] ∨ nmeaDigits value value.length = false ∨ strtoul value > maxValue then none else some (strtoul value)

def fractionValid : List UInt8 → Bool
  | [] => true
  | c :: fraction => c == ascii '.' && !fraction.isEmpty && nmeaDigits fraction fraction.length

def nmeaFloat (value : List UInt8) (allowNegative : Bool) : Option F :=
  let negative := value.head? == some (ascii '-')
  let start := if negative then value.tail else value
  let rest := start.dropWhile isDigit
  if value = [] ∨ (negative && !allowNegative) ∨ rest.length = start.length ∨ fractionValid rest = false then none
  else
    let (parsed, stop) := numbers.strtof value
    if stop ≠ [] ∨ numbers.isFinite parsed = false then none else some parsed

def secondsSinceMidnight (time : GpsTime) : UInt32 :=
  time.hour.toUInt32 * 3600 + time.minute.toUInt32 * 60 + time.second.toUInt32

def twoDigits (value : List UInt8) (index : Nat) : Nat :=
  digit (value.getD index 0) * 10 + digit (value.getD (index + 1) 0)

def nmeaTime (value : List UInt8) : Option GpsTime :=
  if value.length < 6 ∨ nmeaDigits value 6 = false ∨ fractionValid (value.drop 6) = false then none
  else
    let hour := twoDigits value 0
    let minute := twoDigits value 2
    let second := twoDigits value 4
    if hour > 23 ∨ minute > 59 ∨ second > 59 then none
    else some ⟨UInt8.ofNat hour, UInt8.ofNat minute, UInt8.ofNat second⟩

def leapYear (year : UInt16) : Bool := year % 4 == 0 && (year % 100 != 0 || year % 400 == 0)

def daysPerMonth : List Nat := [31, 28, 31, 30, 31, 30, 31, 31, 30, 31, 30, 31]

def nmeaDate (value : List UInt8) : Option GpsDate :=
  if value.length ≠ 6 ∨ nmeaDigits value 6 = false then none
  else
    let day := twoDigits value 0
    let month := twoDigits value 2
    let year := UInt16.ofNat (2000 + twoDigits value 4)
    if month < 1 ∨ month > 12 then none
    else
      let maxDay := if month = 2 ∧ leapYear year then 29 else daysPerMonth.getD (month - 1) 0
      if day < 1 ∨ day > maxDay then none else some ⟨year, UInt8.ofNat month, UInt8.ofNat day⟩

def nmeaToDecimal (coord : List UInt8) (dir : UInt8) (latitude : Bool) : Option F :=
  let degreeDigits := if latitude then 2 else 3
  let maxDegrees := if latitude then 90 else 180
  let directions := if latitude then [ascii 'N', ascii 'S'] else [ascii 'E', ascii 'W']
  let whole := coord.takeWhile (· != ascii '.')
  if coord = [] ∨ dir ∉ directions then none
  else if whole.length ≠ degreeDigits + 2 ∨ nmeaDigits whole whole.length = false ∨
      fractionValid (coord.dropWhile (· != ascii '.')) = false then none
  else
    let (val, stop) := numbers.strtod coord
    if stop ≠ [] ∨ numbers.isFiniteD val = false then none
    else
      let degrees := decimal (coord.take degreeDigits)
      let minutes := numbers.sub val (numbers.ofUnsigned (degrees * 100))
      if numbers.less minutes (numbers.ofUnsigned 0) ∨ numbers.atLeast minutes (numbers.ofUnsigned 60) ∨
          degrees > maxDegrees ∨ (degrees = maxDegrees ∧ numbers.equal minutes (numbers.ofUnsigned 0) = false) then none
      else
        let value := numbers.toFloat
          (numbers.add (numbers.ofUnsigned degrees) (numbers.div minutes (numbers.ofUnsigned 60)))
        some (if dir = ascii 'S' ∨ dir = ascii 'W' then numbers.negate value else value)

/-- The loop over what is left of the sentence, with the number of the field and what was read of it. -/
def fieldFrom (index outSize field : Nat) (read : List UInt8) : List UInt8 → Option (List UInt8)
  | [] => if field = index ∧ read.length < outSize then some read else none
  | c :: rest =>
    if c = ascii ',' ∨ c = ascii '*' then
      if field = index then if read.length < outSize then some read else none
      else if c = ascii '*' then none
      else fieldFrom index outSize (field + 1) [] rest
    else fieldFrom index outSize field (read ++ [c]) rest

def nmeaField (sentence : List UInt8) (index outSize : Nat) : Option (List UInt8) :=
  if outSize = 0 then none else fieldFrom index outSize 0 [] sentence

end Fields

section Sentences

variable {F D : Type} (numbers : CNumbers F D)

structure GgaFields (F : Type) where
  time : GpsTime
  latitude : F
  longitude : F
  fixQuality : Nat
  satellites : Nat
  altitude : F

structure RmcFields (F : Type) where
  time : GpsTime
  active : Bool
  latitude : F
  longitude : F
  speed : F
  heading : F
  date : GpsDate

def optionalFloat (field : List UInt8) (allowNegative : Bool) : Option F :=
  if field = [] then some numbers.zero else nmeaFloat numbers field allowNegative

/-- `present`: the four fields may be read as coordinates, where they are not all empty. -/
def coordinates (lat ns lon ew : List UInt8) (coordinatesEmpty present : Bool) : Option (F × F) :=
  if coordinatesEmpty then some (numbers.zero, numbers.zero)
  else if present = false then none
  else
    (nmeaToDecimal numbers lat (ns.headD 0) true).bind fun latitude =>
      (nmeaToDecimal numbers lon (ew.headD 0) false).map fun longitude => (latitude, longitude)

/-- Every check of `parse_gga`, which writes nothing before the last of them. -/
def readGga (sentence : List UInt8) : Option (GgaFields F) := do
  let time ← nmeaTime (← nmeaField sentence 1 20)
  let lat ← nmeaField sentence 2 20
  let ns ← nmeaField sentence 3 4
  let lon ← nmeaField sentence 4 20
  let ew ← nmeaField sentence 5 4
  let coordinatesEmpty := lat.isEmpty && ns.isEmpty && lon.isEmpty && ew.isEmpty
  let coordinatesPresent := !lat.isEmpty && ns.length == 1 && !lon.isEmpty && ew.length == 1
  let place ← coordinates numbers lat ns lon ew coordinatesEmpty coordinatesPresent
  let fixQuality ← nmeaUnsigned (← nmeaField sentence 6 20) 8
  guard (fixQuality = 0 ∨ coordinatesEmpty = false)
  let satellites ← nmeaUnsigned (← nmeaField sentence 7 20) 99
  let altitude ← optionalFloat numbers (← nmeaField sentence 9 20) true
  return ⟨time, place.1, place.2, fixQuality, satellites, altitude⟩

def readRmc (sentence : List UInt8) : Option (RmcFields F) := do
  let time ← nmeaTime (← nmeaField sentence 1 20)
  let status ← nmeaField sentence 2 20
  guard (status = [ascii 'A'] ∨ status = [ascii 'V'])
  let lat ← nmeaField sentence 3 20
  let ns ← nmeaField sentence 4 4
  let lon ← nmeaField sentence 5 20
  let ew ← nmeaField sentence 6 4
  let coordinatesEmpty := lat.isEmpty && ns.isEmpty && lon.isEmpty && ew.isEmpty
  let place ← coordinates numbers lat ns lon ew coordinatesEmpty (decide (ns.length ≤ 1) && decide (ew.length ≤ 1))
  guard (status = [ascii 'V'] ∨ coordinatesEmpty = false)
  let speed ← optionalFloat numbers (← nmeaField sentence 7 20) false
  let course ← nmeaField sentence 8 20
  let heading ← optionalFloat numbers course false
  guard (course = [] ∨ numbers.atLeast360 heading = false)
  let date ← nmeaDate (← nmeaField sentence 9 20)
  return ⟨time, status = [ascii 'A'], place.1, place.2, speed, heading, date⟩

def isHexDigit (c : UInt8) : Bool :=
  isDigit c || (ascii 'a' ≤ c && c ≤ ascii 'f') || (ascii 'A' ≤ c && c ≤ ascii 'F')

def hexValue (c : UInt8) : UInt8 :=
  if isDigit c then c - ascii '0' else if ascii 'a' ≤ c then c - ascii 'a' + 10 else c - ascii 'A' + 10

def checksum (body : List UInt8) : UInt8 := body.foldl (fun computed c => computed ^^^ c) 0

def nmeaChecksumValid (sentence : List UInt8) : Bool :=
  if sentence.head? ≠ some (ascii '$') then false
  else
    match sentence.dropWhile (· != ascii '*') with
    | [_, high, low] =>
      isHexDigit high && isHexDigit low &&
        checksum (sentence.tail.takeWhile (· != ascii '*')) == hexValue high * 16 + hexValue low
    | _ => false

end Sentences

section Receiver

structure GpsReadings (F : Type) where
  latitude : F
  longitude : F
  altitudeM : F
  speedKn : F
  heading : F
  satellites : UInt8
  fixQuality : UInt8
  time : GpsTime
  coherent : GpsTime
  date : GpsDate
  coherentTimeValid : Bool
  hasFix : Bool
  timeSynced : Bool
  lastValidFixMs : UInt32
  lastTimeSyncMs : UInt32
  epoch : UInt32
  satellitesInView : UInt8
  fixType : UInt8
  gsvSnrMax : UInt8
  gsvSnrCount : UInt8
  gsvCycleSnrMax : UInt8
  gsvCycleSnrCount : UInt8
  rmcStatus : UInt8

structure GpsCounters where
  charsProcessed : UInt32
  sentencesReceived : UInt32
  validSentences : UInt32
  checksumFailures : UInt32
  baudSwitches : UInt32
  ggaSentences : UInt32
  rmcSentences : UInt32
  gsvSentences : UInt32
  gsaSentences : UInt32

structure GpsData (F : Type) extends GpsReadings F, GpsCounters where
  initialized : Bool
  activeBaud : UInt32
  lastBaudSwitchMs : UInt32

structure GpsPublishedFix (F : Type) where
  latitude : F
  longitude : F
  altitudeM : F
  speedKn : F
  heading : F
  satellites : UInt8
  fixQuality : UInt8
  time : GpsTime
  hasFix : Bool

inductive GpsSyncStatus where
  | idle | waiting | success | timedOut
  deriving DecidableEq

structure GpsState (F : Type) where
  gps : GpsData F
  publishedFix : GpsPublishedFix F
  nmeaBuf : List UInt8
  nmeaDiscarding : Bool
  baudIndex : UInt8
  mapHighRate : Bool
  syncStatus : GpsSyncStatus
  syncStartedMs : UInt32
  syncTimeoutMs : UInt32
  lastPublishMs : UInt32
  probeStartMs : UInt32

variable {F D : Type} (numbers : CNumbers F D)

namespace GpsData

variable (gps : GpsData F)

def invalidateFix : GpsData F := { gps with hasFix := false, fixQuality := 0 }

def fixIsFresh (now : UInt32) : Bool × GpsData F :=
  if gps.hasFix = false then (false, gps)
  else if now - gps.lastValidFixMs ≤ 15000 then (true, gps)
  else (false, gps.invalidateFix)

def commitGga (fields : GgaFields F) (now : UInt32) : GpsData F :=
  let onward := gps.coherentTimeValid && decide (secondsSinceMidnight gps.coherent ≤ secondsSinceMidnight fields.time)
  let gps := { gps with
    time := fields.time
    coherent := if onward then fields.time else gps.coherent
    latitude := fields.latitude
    longitude := fields.longitude
    fixQuality := UInt8.ofNat fields.fixQuality
    satellites := UInt8.ofNat fields.satellites
    altitudeM := fields.altitude }
  if fields.fixQuality > 0 then { gps with hasFix := true, lastValidFixMs := now } else gps.invalidateFix

def parseGga (sentence : List UInt8) (now : UInt32) : Bool × GpsData F :=
  match readGga numbers sentence with
  | none => (false, gps)
  | some fields => (true, gps.commitGga fields now)

def commitRmc (fields : RmcFields F) (now : UInt32) : GpsData F :=
  if fields.active = false then
    { gps with rmcStatus := ascii 'V', coherentTimeValid := false }.invalidateFix
  else
    { gps with
      rmcStatus := ascii 'A'
      time := fields.time
      speedKn := fields.speed
      heading := fields.heading
      date := fields.date
      coherent := fields.time
      coherentTimeValid := true
      latitude := fields.latitude
      longitude := fields.longitude
      hasFix := true
      lastValidFixMs := now }

def parseRmc (sentence : List UInt8) (now : UInt32) : Bool × GpsData F :=
  match readRmc numbers sentence with
  | none => (false, gps)
  | some fields => (true, gps.commitRmc fields now)

def countSnr (sentence : List UInt8) (gps : GpsData F) (field : Nat) : GpsData F :=
  match nmeaField sentence field 20 with
  | none => gps
  | some value =>
    if numbers.atoi value ≤ 0 then gps
    else
      let snr := UInt8.ofNat (min (numbers.atoi value).toNat 255)
      { gps with
        gsvCycleSnrMax := if snr > gps.gsvCycleSnrMax then snr else gps.gsvCycleSnrMax
        gsvCycleSnrCount := if gps.gsvCycleSnrCount < 255 then gps.gsvCycleSnrCount + 1 else gps.gsvCycleSnrCount }

def atoiField (sentence : List UInt8) (field : Nat) : Option UInt8 :=
  (nmeaField sentence field 20).map fun value => UInt8.ofInt (numbers.atoi value)

def parseGsv (sentence : List UInt8) : GpsData F :=
  let msgNum := (atoiField numbers sentence 2).getD 0
  let gps := if msgNum ≤ 1 then { gps with gsvCycleSnrMax := 0, gsvCycleSnrCount := 0 } else gps
  let gps := { gps with satellitesInView := (atoiField numbers sentence 3).getD gps.satellitesInView }
  let gps := [7, 11, 15, 19].foldl (countSnr numbers sentence) gps
  { gps with gsvSnrMax := gps.gsvCycleSnrMax, gsvSnrCount := gps.gsvCycleSnrCount }

def parseGsa (sentence : List UInt8) : GpsData F :=
  { gps with fixType := (atoiField numbers sentence 2).getD gps.fixType }

def named (kind : List Char) (sentence : List UInt8) : Bool :=
  ((['$', 'G', 'P'] ++ kind ++ [',']).map ascii).isPrefixOf sentence ||
    ((['$', 'G', 'N'] ++ kind ++ [',']).map ascii).isPrefixOf sentence

/-- Whether the sentence is accepted, and what its parser makes of the data. -/
def dispatch (sentence : List UInt8) (now : UInt32) : Bool × GpsData F :=
  if named ['G', 'G', 'A'] sentence then
    match gps.parseGga numbers sentence now with
    | (true, gps) => (true, { gps with ggaSentences := gps.ggaSentences + 1 })
    | (false, gps) => (false, gps)
  else if named ['R', 'M', 'C'] sentence then
    match gps.parseRmc numbers sentence now with
    | (true, gps) => (true, { gps with rmcSentences := gps.rmcSentences + 1 })
    | (false, gps) => (false, gps)
  else if named ['G', 'S', 'V'] sentence then
    (true, { gps with gsvSentences := gps.gsvSentences + 1 }.parseGsv numbers sentence)
  else if named ['G', 'S', 'A'] sentence then
    (true, { gps with gsaSentences := gps.gsaSentences + 1 }.parseGsa numbers sentence)
  else (false, gps)

def processNmea (sentence : List UInt8) (now : UInt32) : GpsData F :=
  if nmeaChecksumValid sentence = false then { gps with checksumFailures := gps.checksumFailures + 1 }
  else
    match gps.dispatch numbers sentence now with
    | (true, gps) => { gps with validSentences := gps.validSentences + 1 }
    | (false, gps) => gps

end GpsData

/-- `days` is an `int`, which no date overflows; the other operations are on 32 unsigned bits. -/
def epochOf (date : GpsDate) (time : GpsTime) : UInt32 :=
  let y : Int := if date.month < 3 then date.year.toNat - 1 else date.year.toNat
  let m : UInt32 := if date.month < 3 then date.month.toUInt32 + 12 else date.month.toUInt32
  let era : Int := (if 0 ≤ y then y else y - 399).tdiv 400
  let yoe := UInt32.ofInt (y - era * 400)
  let doy := (153 * (m - 3) + 2) / 5 + UInt32.ofInt (date.day.toNat - 1)
  let doe := yoe * 365 + yoe / 4 - yoe / 100 + doy
  let days : Int := era * 146097 + doe.toBitVec.toInt - 719468
  UInt32.ofInt days * 86400 + time.hour.toUInt32 * 3600 + time.minute.toUInt32 * 60 + time.second.toUInt32

structure UartRead where
  byte : UInt8
  parsedMs : UInt32
  checkedMs : UInt32

namespace GpsState

variable (state : GpsState F)

def timeSyncDue (now : UInt32) : Bool :=
  !state.gps.timeSynced || state.syncStatus == .waiting || decide (1800000 ≤ now - state.gps.lastTimeSyncMs)

def beginUart (index : UInt8) (countSwitch : Bool) (now : UInt32) : GpsState F :=
  let baudIndex := index % 2
  { state with
    baudIndex := baudIndex
    nmeaBuf := []
    nmeaDiscarding := false
    gps := { state.gps with
      activeBaud := if baudIndex = 0 then 9600 else 38400
      lastBaudSwitchMs := now
      baudSwitches := if countSwitch then state.gps.baudSwitches + 1 else state.gps.baudSwitches } }

def stopUart : GpsState F :=
  if state.gps.initialized = false then state
  else { state with gps := { state.gps with initialized := false }, nmeaBuf := [], nmeaDiscarding := false }

def latchProbe (now : UInt32) : GpsState F :=
  { state with probeStartMs := if state.probeStartMs = 0 then now else state.probeStartMs }

def switchesBaud (now : UInt32) : Bool :=
  state.gps.validSentences == 0 && decide (now - (state.latchProbe now).probeStartMs ≤ 60000) &&
    decide (3000 ≤ now - state.gps.lastBaudSwitchMs)

def maybeCycleBaud (now begunMs : UInt32) : GpsState F :=
  if state.gps.validSentences > 0 then state
  else if state.switchesBaud now then (state.latchProbe now).beginUart (state.baudIndex + 1) true begunMs
  else state.latchProbe now

def publishFixSnapshot (now : UInt32) : GpsState F :=
  let (fresh, gps) := state.gps.fixIsFresh now
  { state with
    gps := gps
    publishedFix := {
      latitude := gps.latitude
      longitude := gps.longitude
      altitudeM := gps.altitudeM
      speedKn := gps.speedKn
      heading := gps.heading
      satellites := gps.satellites
      hasFix := fresh
      fixQuality := if fresh then gps.fixQuality else 0
      time := gps.time } }

def zeroed (mapHighRate : Bool) : GpsState F where
  gps := {
    latitude := numbers.zero
    longitude := numbers.zero
    altitudeM := numbers.zero
    speedKn := numbers.zero
    heading := numbers.zero
    satellites := 0
    fixQuality := 0
    time := ⟨0, 0, 0⟩
    coherent := ⟨0, 0, 0⟩
    date := ⟨0, 0, 0⟩
    coherentTimeValid := false
    hasFix := false
    timeSynced := false
    lastValidFixMs := 0
    lastTimeSyncMs := 0
    epoch := 0
    satellitesInView := 0
    fixType := 0
    gsvSnrMax := 0
    gsvSnrCount := 0
    gsvCycleSnrMax := 0
    gsvCycleSnrCount := 0
    rmcStatus := 0
    charsProcessed := 0
    sentencesReceived := 0
    validSentences := 0
    checksumFailures := 0
    baudSwitches := 0
    ggaSentences := 0
    rmcSentences := 0
    gsvSentences := 0
    gsaSentences := 0
    initialized := false
    activeBaud := 0
    lastBaudSwitchMs := 0 }
  publishedFix := {
    latitude := numbers.zero
    longitude := numbers.zero
    altitudeM := numbers.zero
    speedKn := numbers.zero
    heading := numbers.zero
    satellites := 0
    fixQuality := 0
    time := ⟨0, 0, 0⟩
    hasFix := false }
  nmeaBuf := []
  nmeaDiscarding := false
  baudIndex := 0
  mapHighRate := mapHighRate
  syncStatus := .idle
  syncStartedMs := 0
  syncTimeoutMs := 0
  lastPublishMs := 0
  probeStartMs := 0

def off : GpsState F := zeroed numbers false

/-- `sigurdos_gps_init`; only the demand of the map stays. -/
def init (begunMs : UInt32) : GpsState F :=
  let state := (zeroed numbers state.mapHighRate).beginUart 0 false begunMs
  { state with gps := { state.gps with initialized := true } }

def processLine (now : UInt32) : GpsState F :=
  let gps := { state.gps with sentencesReceived := state.gps.sentencesReceived + 1 }
  { state with gps := gps.processNmea numbers (cText state.nmeaBuf) now, nmeaBuf := [] }

def dated (gps : GpsData F) : Bool := decide (2020 ≤ gps.date.year) && gps.coherentTimeValid

def storesEpoch (now : UInt32) : Bool := state.timeSyncDue now && (state.gps.fixIsFresh now).1 && dated state.gps

def storeEpoch (now : UInt32) : GpsState F :=
  if state.timeSyncDue now = false then state
  else
    let gps := (state.gps.fixIsFresh now).2
    if state.storesEpoch now then { state with gps := { gps with epoch := epochOf gps.date gps.coherent } }
    else { state with gps := gps }

def closesLine (byte : UInt8) : Bool := byte == ascii '\n' && !state.nmeaDiscarding && !state.nmeaBuf.isEmpty

def countChar : GpsState F := { state with gps := { state.gps with charsProcessed := state.gps.charsProcessed + 1 } }

def readByte (read : UartRead) : GpsState F :=
  let state := state.countChar
  if state.closesLine read.byte then (state.processLine numbers read.parsedMs).storeEpoch read.checkedMs
  else if read.byte = ascii '\n' then
    if state.nmeaDiscarding then
      { state with
        nmeaDiscarding := false
        nmeaBuf := []
        gps := { state.gps with sentencesReceived := state.gps.sentencesReceived + 1 } }
    else state
  else if state.nmeaDiscarding ∨ read.byte = ascii '\r' then state
  else if read.byte = ascii '$' ∧ state.nmeaBuf ≠ [] then { state with nmeaBuf := [read.byte] }
  else if state.nmeaBuf.length < 127 then { state with nmeaBuf := state.nmeaBuf ++ [read.byte] }
  else { state with nmeaBuf := [], nmeaDiscarding := true }

/-- `reads` are the bytes up to the one that is not there; `endedMs` is the clock behind the loop. -/
def drainGpsUart (reads : List UartRead) (endedMs begunMs : UInt32) : GpsState F :=
  if state.gps.initialized = false then state
  else (reads.foldl (readByte numbers) state).maybeCycleBaud endedMs begunMs

def loop (reads : List UartRead) (endedMs begunMs publishedMs stampedMs : UInt32) : GpsState F :=
  { (state.drainGpsUart numbers reads endedMs begunMs).publishFixSnapshot publishedMs with lastPublishMs := stampedMs }

def initUnless (begunMs : UInt32) : GpsState F :=
  if state.gps.initialized = false then state.init numbers begunMs else state

def setMapHighRate (enabled : Bool) (begunMs : UInt32) : GpsState F :=
  let state := { state with mapHighRate := enabled }
  if enabled then state.initUnless numbers begunMs else state

def startTimeSync (timeoutMs begunMs now : UInt32) : GpsState F :=
  let state := state.initUnless numbers begunMs
  { state with
    gps := { state.gps with epoch := 0 }
    syncStartedMs := now
    syncTimeoutMs := if timeoutMs = 0 then 60000 else timeoutMs
    syncStatus := .waiting }

def cancelTimeSync : GpsState F :=
  if state.syncStatus = .waiting then { state with syncStatus := .idle } else state

def publishInterval (backgroundEnabled : Bool) (backgroundSeconds : UInt32) : UInt32 :=
  if state.mapHighRate || state.syncStatus == .waiting then 200
  else if backgroundEnabled then (if backgroundSeconds > 86400 then 86400 else backgroundSeconds) * 1000
  else 0

def publishDue (now interval : UInt32) : Bool :=
  decide (interval > 0) && (state.lastPublishMs == 0 || decide (interval ≤ now - state.lastPublishMs))

def lapseSync (now : UInt32) : GpsState F :=
  if state.syncStatus = .waiting ∧ state.syncTimeoutMs ≤ now - state.syncStartedMs then
    { state with syncStatus := .timedOut }
  else state

def service (backgroundEnabled : Bool) (backgroundSeconds now begunMs : UInt32) (reads : List UartRead)
    (endedMs switchedMs publishedMs : UInt32) : GpsState F :=
  let state := state.lapseSync now
  let interval := state.publishInterval backgroundEnabled backgroundSeconds
  if interval = 0 then state.stopUart
  else
    let state := (state.initUnless numbers begunMs).drainGpsUart numbers reads endedMs switchedMs
    if state.publishDue now interval then { state with lastPublishMs := now }.publishFixSnapshot publishedMs else state

def hasFixNow (now : UInt32) : Bool × GpsState F :=
  if state.publishedFix.hasFix = false then (false, state)
  else
    let (fresh, gps) := state.gps.fixIsFresh now
    (fresh, { state with gps := gps })

def getPendingTime (now : UInt32) : Option (GpsDate × GpsTime) × GpsState F :=
  if state.timeSyncDue now = false then (none, state)
  else
    let (fresh, gps) := state.gps.fixIsFresh now
    let date := gps.date
    (if fresh = false ∨ dated gps = false ∨ date.month < 1 ∨ date.month > 12 ∨ date.day < 1 ∨ date.day > 31 then none
      else some (date, gps.coherent), { state with gps := gps })

def markTimeSynced (syncedMs publishedMs stampedMs : UInt32) : GpsState F :=
  let synced := { state with gps := { state.gps with timeSynced := true, lastTimeSyncMs := syncedMs } }
  let published : GpsState F := { synced.publishFixSnapshot publishedMs with lastPublishMs := stampedMs }
  if published.syncStatus = .waiting then { published with syncStatus := .success } else published

end GpsState

inductive GpsCall where
  | init (begunMs : UInt32)
  | loop (reads : List UartRead) (endedMs begunMs publishedMs stampedMs : UInt32)
  | service (backgroundEnabled : Bool) (backgroundSeconds now begunMs : UInt32) (reads : List UartRead)
      (endedMs switchedMs publishedMs : UInt32)
  | setMapHighRate (enabled : Bool) (begunMs : UInt32)
  | startTimeSync (timeoutMs begunMs now : UInt32)
  | cancelTimeSync
  | hasFix (now : UInt32)
  | getPendingTime (now : UInt32)
  | markTimeSynced (syncedMs publishedMs stampedMs : UInt32)

def GpsState.perform (state : GpsState F) : GpsCall → GpsState F
  | .init begunMs => state.init numbers begunMs
  | .loop reads endedMs begunMs publishedMs stampedMs => state.loop numbers reads endedMs begunMs publishedMs stampedMs
  | .service backgroundEnabled backgroundSeconds now begunMs reads endedMs switchedMs publishedMs =>
    state.service numbers backgroundEnabled backgroundSeconds now begunMs reads endedMs switchedMs publishedMs
  | .setMapHighRate enabled begunMs => state.setMapHighRate numbers enabled begunMs
  | .startTimeSync timeoutMs begunMs now => state.startTimeSync numbers timeoutMs begunMs now
  | .cancelTimeSync => state.cancelTimeSync
  | .hasFix now => (state.hasFixNow now).2
  | .getPendingTime now => (state.getPendingTime now).2
  | .markTimeSynced syncedMs publishedMs stampedMs => state.markTimeSynced syncedMs publishedMs stampedMs

inductive GpsStep where
  | init (begunMs : UInt32)
  | stop
  | read (read : UartRead)
  | cycleBaud (now begunMs : UInt32)
  | expire (now : UInt32)
  | publish (now : UInt32)
  | demand (enabled : Bool)
  | sync (status : GpsSyncStatus) (startedMs timeoutMs : UInt32)
  | clearEpoch
  | synced (now : UInt32)
  | stamp (now : UInt32)

def GpsState.step (state : GpsState F) : GpsStep → GpsState F
  | .init begunMs => state.init numbers begunMs
  | .stop => state.stopUart
  | .read read => state.readByte numbers read
  | .cycleBaud now begunMs => state.maybeCycleBaud now begunMs
  | .expire now => { state with gps := (state.gps.fixIsFresh now).2 }
  | .publish now => state.publishFixSnapshot now
  | .demand enabled => { state with mapHighRate := enabled }
  | .sync status startedMs timeoutMs =>
    { state with syncStatus := status, syncStartedMs := startedMs, syncTimeoutMs := timeoutMs }
  | .clearEpoch => { state with gps := { state.gps with epoch := 0 } }
  | .synced now => { state with gps := { state.gps with timeSynced := true, lastTimeSyncMs := now } }
  | .stamp now => { state with lastPublishMs := now }

section Calls

variable {numbers} {state : GpsState F}

def Leads (numbers : CNumbers F D) (state final : GpsState F) : Prop :=
  ∃ steps, final = run (GpsState.step numbers) state steps

theorem Leads.refl : Leads numbers state state := ⟨[], rfl⟩

theorem Leads.trans {middle final : GpsState F} (first : Leads numbers state middle)
    (second : Leads numbers middle final) :
    Leads numbers state final := by
  obtain ⟨before, rfl⟩ := first
  obtain ⟨after, rfl⟩ := second
  exact ⟨before ++ after, (run_append _ _ _).symm⟩

theorem Leads.one (step : GpsStep) : Leads numbers state (state.step numbers step) := ⟨[step], rfl⟩

theorem leads_ite {condition : Prop} [Decidable condition] {one other : GpsState F} (first : Leads numbers state one)
    (second : Leads numbers state other) : Leads numbers state (if condition then one else other) := by
  split
  · exact first
  · exact second

theorem leads_reads (reads : List UartRead) : Leads numbers state (reads.foldl (GpsState.readByte numbers) state) := by
  induction reads generalizing state with
  | nil => exact .refl
  | cons first rest ih => exact (Leads.one (.read first)).trans ih

theorem leads_drain (reads : List UartRead) (endedMs begunMs : UInt32) :
    Leads numbers state (state.drainGpsUart numbers reads endedMs begunMs) := by
  apply leads_ite
  · exact .refl
  · exact (leads_reads reads).trans (.one (.cycleBaud endedMs begunMs))

theorem leads_initUnless (begunMs : UInt32) : Leads numbers state (state.initUnless numbers begunMs) :=
  leads_ite (.one (.init begunMs)) .refl

theorem leads_service (backgroundEnabled : Bool) (backgroundSeconds now begunMs : UInt32) (reads : List UartRead)
    (endedMs switchedMs publishedMs : UInt32) : Leads numbers state
      (state.service numbers backgroundEnabled backgroundSeconds now begunMs reads endedMs switchedMs publishedMs) := by
  have first : Leads numbers state (state.lapseSync now) :=
    leads_ite (.one (.sync .timedOut state.syncStartedMs state.syncTimeoutMs)) .refl
  apply first.trans
  apply leads_ite
  · exact .one .stop
  · apply ((leads_initUnless begunMs).trans (leads_drain reads endedMs switchedMs)).trans
    apply leads_ite
    · exact (Leads.one (.stamp now)).trans (.one (.publish publishedMs))
    · exact .refl

theorem leads_perform (call : GpsCall) : Leads numbers state (state.perform numbers call) := by
  cases call with
  | init begunMs => exact .one (.init begunMs)
  | loop reads endedMs begunMs publishedMs stampedMs =>
    exact ((leads_drain reads endedMs begunMs).trans (.one (.publish publishedMs))).trans (.one (.stamp stampedMs))
  | service backgroundEnabled backgroundSeconds now begunMs reads endedMs switchedMs publishedMs =>
    exact leads_service backgroundEnabled backgroundSeconds now begunMs reads endedMs switchedMs publishedMs
  | setMapHighRate enabled begunMs =>
    exact (Leads.one (.demand enabled)).trans (leads_ite (leads_initUnless begunMs) .refl)
  | startTimeSync timeoutMs begunMs now =>
    exact ((leads_initUnless begunMs).trans (.one .clearEpoch)).trans (.one (.sync .waiting now _))
  | cancelTimeSync => exact leads_ite (.one (.sync .idle state.syncStartedMs state.syncTimeoutMs)) .refl
  | hasFix now =>
    simp only [GpsState.perform, GpsState.hasFixNow]
    split
    · exact .refl
    · exact .one (.expire now)
  | getPendingTime now =>
    simp only [GpsState.perform, GpsState.getPendingTime]
    split
    · exact .refl
    · exact .one (.expire now)
  | markTimeSynced syncedMs publishedMs stampedMs =>
    apply ((Leads.one (.synced syncedMs)).trans
      ((Leads.one (.publish publishedMs)).trans (.one (.stamp stampedMs)))).trans
    apply leads_ite
    · exact .one (.sync .success _ _)
    · exact .refl

end Calls

end Receiver

end SigurdOS.Hal.Gps
