import SigurdOS.Bytes.LittleEndian
import SigurdOS.Hal.AtomicRuns

namespace SigurdOS.App

open Bytes Hal

def gpsTrackMaxPoints : Nat := 2048
def gpsTrackCompactPoints : Nat := 1024
def trackMagic : Nat := 0x4B525447
def trackVersion : Nat := 1

structure GpsTrackPoint where
  latitudeE7 : UInt32
  longitudeE7 : UInt32
  timestamp : UInt32
  deriving DecidableEq

section Format

def pointBytes (point : GpsTrackPoint) : List UInt8 :=
  leBytes 4 point.latitudeE7.toNat ++ (leBytes 4 point.longitudeE7.toNat ++ leBytes 4 point.timestamp.toNat)

def readPoint (bytes : List UInt8) : GpsTrackPoint where
  latitudeE7 := UInt32.ofNat (leNumber (bytes.take 4))
  longitudeE7 := UInt32.ofNat (leNumber ((bytes.drop 4).take 4))
  timestamp := UInt32.ofNat (leNumber ((bytes.drop 8).take 4))

def readPoints (payload : List UInt8) : List GpsTrackPoint :=
  (List.range (payload.length / 12)).map fun index => readPoint (payload.drop (12 * index))

def trackHeader : List UInt8 := leBytes 4 trackMagic ++ leBytes 2 trackVersion ++ leBytes 2 12

def headerValid (bytes : List UInt8) : Bool := bytes.take 8 == trackHeader

/-- The number of whole points and whether a part of one follows; `reads` tells whether the header can be read. -/
def inspectFile (file : Option (List UInt8)) (reads : Bool) : Option (Nat × Bool) :=
  match file with
  | none => none
  | some bytes =>
    if reads && headerValid bytes then some ((bytes.length - 8) / 12, (bytes.length - 8) % 12 != 0) else none

def validateTrackFile (pointValid : GpsTrackPoint → Bool) (bytes : List UInt8) : Bool :=
  headerValid bytes && (bytes.length - 8) % 12 == 0 && decide ((bytes.length - 8) / 12 ≤ gpsTrackMaxPoints) &&
    (readPoints (bytes.drop 8)).all pointValid

/-- What `writeTrackSnapshot` streams: `count` points of the live file behind the first `skip`. -/
def writeTrackSnapshot (file : Option (List UInt8)) (skip count : Nat) : Option (List UInt8) :=
  if count = 0 then some trackHeader
  else
    match file with
    | none => none
    | some bytes =>
      let points := (bytes.drop (8 + skip * 12)).take (count * 12)
      if points.length = count * 12 then some (trackHeader ++ points) else none

def trackFile (points : List GpsTrackPoint) : List UInt8 := trackHeader ++ points.flatMap pointBytes

theorem length_pointBytes (point : GpsTrackPoint) : (pointBytes point).length = 12 := by
  simp [pointBytes]

theorem length_points (points : List GpsTrackPoint) : (points.flatMap pointBytes).length = 12 * points.length := by
  induction points with
  | nil => rfl
  | cons point rest ih => rw [List.flatMap_cons, List.length_append, length_pointBytes, ih, List.length_cons]; omega

theorem readPoint_pointBytes (point : GpsTrackPoint) (rest : List UInt8) :
    readPoint (pointBytes point ++ rest) = point := by
  obtain ⟨latitude, longitude, timestamp⟩ := point
  have whole (value : UInt32) : UInt32.ofNat (leNumber (leBytes 4 value.toNat)) = value := by
    rw [leNumber_leBytes_of_lt value.toNat_lt, UInt32.ofNat_toNat]
  have second : (pointBytes ⟨latitude, longitude, timestamp⟩ ++ rest).drop 4 =
      leBytes 4 longitude.toNat ++ (leBytes 4 timestamp.toNat ++ rest) := by
    simp [pointBytes]
  have third : (pointBytes ⟨latitude, longitude, timestamp⟩ ++ rest).drop 8 = leBytes 4 timestamp.toNat ++ rest := by
    simp [pointBytes, List.drop_append]
  unfold readPoint
  rw [second, third]
  simp [pointBytes, whole]

theorem drop_points (points : List GpsTrackPoint) (tail : List UInt8) {index : Nat} (inside : index ≤ points.length) :
    (points.flatMap pointBytes ++ tail).drop (12 * index) = (points.drop index).flatMap pointBytes ++ tail := by
  induction points generalizing index with
  | nil =>
    obtain rfl : index = 0 := Nat.le_zero.mp inside
    rfl
  | cons point rest ih =>
    cases index with
    | zero => rfl
    | succ index =>
      have first : (pointBytes point).length = 12 := length_pointBytes point
      rw [List.flatMap_cons, List.append_assoc, List.drop_append, first,
        List.drop_eq_nil_of_le (by omega), List.nil_append,
        List.drop_succ_cons, ← ih (Nat.le_of_succ_le_succ inside)]
      congr 1

theorem readPoints_points (points : List GpsTrackPoint) {tail : List UInt8} (short : tail.length < 12) :
    readPoints (points.flatMap pointBytes ++ tail) = points := by
  have count : (points.flatMap pointBytes ++ tail).length / 12 = points.length := by
    rw [List.length_append, length_points]
    omega
  rw [readPoints, count]
  apply List.ext_getElem
  · rw [List.length_map, List.length_range]
  · intro index _ inside
    rw [List.getElem_map, List.getElem_range, drop_points points tail (by omega), List.drop_eq_getElem_cons inside,
      List.flatMap_cons, List.append_assoc, readPoint_pointBytes]

theorem length_trackFile (points : List GpsTrackPoint) : (trackFile points).length = 8 + 12 * points.length := by
  rw [trackFile, List.length_append, length_points]
  rfl

theorem headerValid_append (rest : List UInt8) : headerValid (trackHeader ++ rest) = true := by
  have eight : trackHeader.length = 8 := rfl
  rw [headerValid, ← eight, List.take_left, beq_self_eq_true]

theorem inspectFile_trackFile (points : List GpsTrackPoint) {tail : List UInt8} (short : tail.length < 12) :
    inspectFile (some (trackFile points ++ tail)) true = some (points.length, !tail.isEmpty) := by
  have length : (trackFile points ++ tail).length - 8 = 12 * points.length + tail.length := by
    rw [List.length_append, length_trackFile]
    omega
  have header : headerValid (trackFile points ++ tail) = true := by
    rw [trackFile, List.append_assoc]
    exact headerValid_append _
  unfold inspectFile
  dsimp only
  rw [header, Bool.and_self, if_pos rfl, length]
  have count : (12 * points.length + tail.length) / 12 = points.length := by omega
  have partial_ : (12 * points.length + tail.length) % 12 = tail.length := by omega
  rw [count, partial_]
  cases tail with
  | nil => rfl
  | cons byte rest => rfl

theorem inspectFile_whole (points : List GpsTrackPoint) :
    inspectFile (some (trackFile points)) true = some (points.length, false) := by
  rw [← List.append_nil (trackFile points), inspectFile_trackFile points (by decide)]
  rfl

theorem readPoints_trackFile (points : List GpsTrackPoint) : readPoints ((trackFile points).drop 8) = points := by
  have payload : (trackFile points).drop 8 = points.flatMap pointBytes ++ [] := by
    rw [trackFile, List.append_nil]
    rfl
  rw [payload]
  exact readPoints_points points (by decide)

theorem validateTrackFile_trackFile {pointValid : GpsTrackPoint → Bool} {points : List GpsTrackPoint}
    (bounded : points.length ≤ gpsTrackMaxPoints) (valid : points.all pointValid = true) :
    validateTrackFile pointValid (trackFile points) = true := by
  have length : (trackFile points).length - 8 = 12 * points.length := by
    rw [length_trackFile]
    omega
  unfold validateTrackFile
  rw [readPoints_trackFile, length, valid, trackFile, headerValid_append]
  simp [bounded]

theorem writeTrackSnapshot_trackFile (points : List GpsTrackPoint) (tail : List UInt8) {skip count : Nat}
    (all : skip + count = points.length) :
    writeTrackSnapshot (some (trackFile points ++ tail)) skip count = some (trackFile (points.drop skip)) := by
  have rest : points.drop skip = [] ∨ count ≠ 0 := by
    by_cases zero : count = 0
    · exact Or.inl (List.drop_eq_nil_of_le (by omega))
    · exact Or.inr zero
  unfold writeTrackSnapshot
  split
  · rename_i zero
    obtain empty | nonzero := rest
    · rw [empty]
      rfl
    · exact absurd zero nonzero
  · have payload : (trackFile points ++ tail).drop (8 + skip * 12) = (points.drop skip).flatMap pointBytes ++ tail := by
      rw [← List.drop_drop, Nat.mul_comm, ← drop_points points tail (by omega), trackFile, List.append_assoc]
      rfl
    have size : count * 12 = ((points.drop skip).flatMap pointBytes).length := by
      rw [length_points, List.length_drop]
      omega
    dsimp only
    rw [payload, size, List.take_left, if_pos rfl]
    rfl

end Format

section Log

/-- Which steps of `gpsTrackInit` work: the mount, the recovery with the check of the live file behind a temp it does
    not promote, the look at the header, the look at it before the rewrite, and the replacement. -/
structure InitFaults where
  mounted : Bool
  recover : Option RecoverFault
  recheck : Bool
  inspect : Bool
  reinspect : Bool
  ending : Ending

structure AppendFaults where
  init : InitFaults
  inspect : Bool
  reinspect : Bool
  ending : Ending
  opens : Bool
  /-- How many bytes of the point come onto the medium, before a failure or a loss of power. -/
  written : Nat

structure LoadFaults where
  init : InitFaults
  inspect : Bool
  opens : Bool
  read : Nat

structure TrimFaults where
  init : InitFaults
  reinspect : Bool
  ending : Ending

structure ClearFaults where
  mounted : Bool
  removes : Bool
  ending : Ending

variable (pointValid : GpsTrackPoint → Bool)

def createEmpty (file : AtomicFile) (ending : Ending) : Bool × AtomicFile :=
  attempt (validateTrackFile pointValid) file (writeTrackSnapshot file.live 0 0) ending

def rewriteNewest (file : AtomicFile) (keepNewest : Nat) (inspects : Bool) (ending : Ending) : Bool × AtomicFile :=
  match inspectFile file.live inspects with
  | none => (false, file)
  | some (count, _) =>
    let keep := min keepNewest count
    attempt (validateTrackFile pointValid) file (writeTrackSnapshot file.live (count - keep) keep) ending

def checksLive (file : AtomicFile) (fault : Option RecoverFault) : Bool :=
  match file.temp, fault with
  | none, _ => false
  | some _, some (.validate _) => true
  | some temp, _ => !validateTrackFile pointValid temp

def gpsTrackInit (file : AtomicFile) (faults : InitFaults) : Bool × AtomicFile :=
  if !faults.mounted then (false, file)
  else
    match atomicFileRecover file (validateTrackFile pointValid) faults.recover with
    | (recovered, after) =>
      if !recovered || (checksLive pointValid file faults.recover && !faults.recheck) then (false, after)
      else if after.live.isNone then createEmpty pointValid after faults.ending
      else
        match inspectFile after.live faults.inspect with
        | none => (false, after)
        | some (count, tail) =>
          if tail || decide (count > gpsTrackMaxPoints) then
            rewriteNewest pointValid after (if count > gpsTrackMaxPoints then gpsTrackCompactPoints else count)
              faults.reinspect faults.ending
          else (true, after)

def gpsTrackAppend (file : AtomicFile) (point : GpsTrackPoint) (faults : AppendFaults) : Bool × AtomicFile :=
  if !pointValid point then (false, file)
  else
    match gpsTrackInit pointValid file faults.init with
    | (false, after) => (false, after)
    | (true, after) =>
      match inspectFile after.live faults.inspect with
      | none => (false, after)
      | some (count, _) =>
        match if count ≥ gpsTrackMaxPoints then
            rewriteNewest pointValid after gpsTrackCompactPoints faults.reinspect faults.ending
          else (true, after) with
        | (false, after) => (false, after)
        | (true, after) =>
          if !faults.opens then (false, after)
          else
            (decide (12 ≤ faults.written),
              { after with live := some (after.live.getD [] ++ (pointBytes point).take faults.written) })

def gpsTrackLoadRecent (file : AtomicFile) (maxPoints : Nat) (faults : LoadFaults) : List GpsTrackPoint × AtomicFile :=
  if maxPoints = 0 then ([], file)
  else
    match gpsTrackInit pointValid file faults.init with
    | (false, after) => ([], after)
    | (true, after) =>
      match inspectFile after.live faults.inspect with
      | none => ([], after)
      | some (count, _) =>
        let selected := min count maxPoints
        if !faults.opens then ([], after)
        else
          let offset := 8 + (count - selected) * 12
          (readPoints ((((after.live.getD []).drop offset).take (selected * 12)).take faults.read), after)

def gpsTrackTrim (file : AtomicFile) (keepNewest : Nat) (faults : TrimFaults) : Bool × AtomicFile :=
  match gpsTrackInit pointValid file faults.init with
  | (false, after) => (false, after)
  | (true, after) =>
    rewriteNewest pointValid after (min keepNewest gpsTrackMaxPoints) faults.reinspect faults.ending

def gpsTrackClear (file : AtomicFile) (faults : ClearFaults) : Bool × AtomicFile :=
  if !faults.mounted then (false, file)
  else if file.live.isSome && !faults.removes then (false, file)
  else createEmpty pointValid { file with live := none } faults.ending

inductive TrackCall where
  | init (faults : InitFaults)
  | append (point : GpsTrackPoint) (faults : AppendFaults)
  | loadRecent (maxPoints : Nat) (faults : LoadFaults)
  | trim (keepNewest : Nat) (faults : TrimFaults)
  | clear (faults : ClearFaults)

/-- The points that were written completely, how many of them before the last successful clear, and whether a clear
    was started or a trim to nothing made since the last of them. -/
structure TrackHistory where
  written : List GpsTrackPoint
  cleared : Nat
  loose : Bool

namespace TrackHistory

def appended (history : TrackHistory) (point : GpsTrackPoint) : TrackHistory :=
  { history with written := history.written ++ [point], loose := false }

def loosened (history : TrackHistory) : TrackHistory := { history with loose := true }

def emptied (history : TrackHistory) : TrackHistory :=
  { history with cleared := history.written.length, loose := true }

end TrackHistory

structure TrackLog where
  file : AtomicFile
  history : TrackHistory

def TrackLog.initial : TrackLog := ⟨⟨none, none⟩, ⟨[], 0, false⟩⟩

def trackStep (log : TrackLog) : TrackCall → TrackLog
  | .init faults => { log with file := (gpsTrackInit pointValid log.file faults).2 }
  | .loadRecent maxPoints faults => { log with file := (gpsTrackLoadRecent pointValid log.file maxPoints faults).2 }
  | .append point faults =>
    match gpsTrackAppend pointValid log.file point faults with
    | (ok, file) => ⟨file, if ok then log.history.appended point else log.history⟩
  | .trim keepNewest faults =>
    ⟨(gpsTrackTrim pointValid log.file keepNewest faults).2,
      if keepNewest = 0 then log.history.loosened else log.history⟩
  | .clear faults =>
    match gpsTrackClear pointValid log.file faults with
    | (ok, file) => ⟨file, if ok then log.history.emptied else log.history.loosened⟩

def interruptedAt : Ending → Option Nat
  | .returns (some (.write written false)) => some written
  | .cut (.wrote written) => some written
  | _ => none

def newestSnapshot (file : AtomicFile) (keepNewest : Nat) : List UInt8 :=
  match inspectFile file.live true with
  | none => []
  | some (count, _) =>
    (writeTrackSnapshot file.live (count - min keepNewest count) (min keepNewest count)).getD []

def Uncut (content : List UInt8) (ending : Ending) : Prop :=
  ∀ written, interruptedAt ending = some written → validateTrackFile pointValid (content.take written) = true →
    content.length ≤ written

def recoveredFile (file : AtomicFile) (faults : InitFaults) : AtomicFile :=
  (atomicFileRecover file (validateTrackFile pointValid) faults.recover).2

def KeepsCopy (file : AtomicFile) (faults : InitFaults) : Prop :=
  faults.recover = some (.validate true) → file.temp.any (validateTrackFile pointValid) = true → file.live ≠ none

/-- No point is written while a valid temp waits that the recovery has misread and could not remove. -/
def Supersedes (file : AtomicFile) (faults : AppendFaults) : Prop :=
  faults.init.recover = some (.validate false) → file.temp.any (validateTrackFile pointValid) = true →
    file.live.any (validateTrackFile pointValid) = true → faults.written < 12

def InitSound (file : AtomicFile) (faults : InitFaults) : Prop :=
  KeepsCopy pointValid file faults ∧
    Uncut pointValid (newestSnapshot (recoveredFile pointValid file faults) gpsTrackMaxPoints) faults.ending

def Sound (log : TrackLog) : TrackCall → Prop
  | .init faults => InitSound pointValid log.file faults
  | .loadRecent _ faults => InitSound pointValid log.file faults.init
  | .append _ faults =>
    InitSound pointValid log.file faults.init ∧ Supersedes pointValid log.file faults ∧
      Uncut pointValid (newestSnapshot (recoveredFile pointValid log.file faults.init) gpsTrackCompactPoints)
        faults.ending
  | .trim keepNewest faults =>
    InitSound pointValid log.file faults.init ∧
      Uncut pointValid (newestSnapshot (recoveredFile pointValid log.file faults.init)
        (min keepNewest gpsTrackMaxPoints))
        faults.ending
  | .clear _ => True

/-- The points are the newest of those that were written completely since the last successful clear, the last of all
    among them unless the log may be empty. -/
structure Newest (history : TrackHistory) (points : List GpsTrackPoint) : Prop where
  bounded : points.length ≤ gpsTrackMaxPoints
  valid : points.all pointValid = true
  block : points <:+ history.written.drop history.cleared
  last : history.loose = false → points.getLast? = history.written.getLast?

structure Kept (history : TrackHistory) (file : AtomicFile) : Prop where
  live : ∀ bytes, file.live = some bytes →
    ∃ points tail, bytes = trackFile points ++ tail ∧ tail.length < 12 ∧ Newest pointValid history points
  temp : ∀ bytes, file.temp = some bytes → validateTrackFile pointValid bytes = true →
    ∃ points, bytes = trackFile points ∧ Newest pointValid history points
  copy : file.live = none → file.temp.any (validateTrackFile pointValid) = true ∨ Newest pointValid history []
  inside : history.cleared ≤ history.written.length

variable {pointValid} {history : TrackHistory} {points : List GpsTrackPoint} {file after : AtomicFile}

theorem Newest.loosened (newest : Newest pointValid history points) : Newest pointValid history.loosened points :=
  ⟨newest.bounded, newest.valid, newest.block, nofun⟩

theorem Newest.of_empty (empty : history.loose = true) : Newest pointValid history [] :=
  ⟨Nat.zero_le _, rfl, List.nil_suffix, fun last => absurd (empty.symm.trans last) nofun⟩

theorem Newest.drop (newest : Newest pointValid history points) {skip : Nat}
    (last : skip < points.length ∨ points = [] ∨ history.loose = true) :
    Newest pointValid history (points.drop skip) := by
  refine ⟨?_, ?_, (List.drop_suffix _ _).trans newest.block, fun strict => ?_⟩
  · rw [List.length_drop]
    have := newest.bounded
    omega
  · rw [List.all_eq_true]
    exact fun point inside => List.all_eq_true.mp newest.valid point (List.mem_of_mem_drop inside)
  · rcases last with inside | empty | loose
    · rw [List.getLast?_drop, if_neg (by omega)]
      exact newest.last strict
    · rw [empty, List.drop_nil, ← empty]
      exact newest.last strict
    · exact absurd (loose.symm.trans strict) nofun

theorem Newest.append (newest : Newest pointValid history points) (room : points.length < gpsTrackMaxPoints)
    {point : GpsTrackPoint} (valid : pointValid point = true) (inside : history.cleared ≤ history.written.length) :
    Newest pointValid (history.appended point) (points ++ [point]) := by
  refine ⟨?_, ?_, ?_, fun _ => ?_⟩
  · rw [List.length_append]
    exact room
  · rw [List.all_append, newest.valid]
    simp [valid]
  · obtain ⟨front, whole⟩ := newest.block
    refine ⟨front, ?_⟩
    unfold TrackHistory.appended
    rw [List.drop_append_of_le_length inside, ← List.append_assoc, whole]
  · rw [TrackHistory.appended, List.getLast?_concat, List.getLast?_concat]

theorem writtenTemp_part {data part : List UInt8} {ending : Ending}
    (written : writtenTemp (some data) ending = some part) :
    part = data ∨ part = [] ∨ ∃ count, part = data.take count ∧
      (interruptedAt ending = some count ∨ ending = .returns (some (.write count true))) := by
  cases ending with
  | returns fault =>
    cases fault with
    | none => exact Or.inl (Option.some.inj written).symm
    | some fault =>
      cases fault with
      | removeTemp => cases written
      | openTemp => cases written
      | write count cleaned =>
        refine Or.inr (Or.inr ⟨count, (Option.some.inj written).symm, ?_⟩)
        cases cleaned with
        | false => exact Or.inl rfl
        | true => exact Or.inr rfl
      | validate cleaned => exact Or.inl (Option.some.inj written).symm
      | removeLive => exact Or.inl (Option.some.inj written).symm
      | rename => exact Or.inl (Option.some.inj written).symm
  | cut cut =>
    cases cut with
    | removedTemp => cases written
    | opened => exact Or.inr (Or.inl (Option.some.inj written).symm)
    | wrote count => exact Or.inr (Or.inr ⟨count, (Option.some.inj written).symm, Or.inl rfl⟩)
    | validated => exact Or.inl (Option.some.inj written).symm
    | removedLive => exact Or.inl (Option.some.inj written).symm
    | renamed => exact Or.inl (Option.some.inj written).symm

theorem validateTrackFile_nil : validateTrackFile pointValid [] = false := rfl

theorem attempt_uncut {data : List UInt8} {ending : Ending} {ok : Bool} (uncut : Uncut pointValid data ending)
    (done : attempt (validateTrackFile pointValid) file (some data) ending = (ok, after)) :
    (ok = true ∧ after = ⟨some data, none⟩) ∨
    ok = false ∧ (after.live = file.live ∧ (after.temp = file.temp ∨
        ∀ temp, after.temp = some temp → validateTrackFile pointValid temp = true → temp = data) ∨
      after = ⟨none, some data⟩ ∨ after = ⟨some data, none⟩) := by
  cases ok with
  | true =>
    refine Or.inl ⟨rfl, ?_⟩
    cases ending with
    | cut cut => cases done
    | returns fault =>
      rcases atomicFileReplace_cases done with ⟨-, whole, same, -, rfl⟩ | ⟨failed, -⟩ | ⟨failed, -⟩
      · rw [Option.some.inj same]
      · cases failed
      · cases failed
  | false =>
    refine Or.inr ⟨rfl, ?_⟩
    rcases attempt_outcomes done with ⟨-, rfl⟩ | ⟨live, temp, -⟩ | ⟨whole, same, -, rfl | rfl⟩
    · exact Or.inl ⟨rfl, Or.inl rfl⟩
    · refine Or.inl ⟨live, Or.inr fun part here valid => ?_⟩
      rcases temp with gone | written
      · rw [gone] at here
        cases here
      rcases writtenTemp_part (written.symm.trans here) with whole | empty | ⟨count, cut, stays | cleaned⟩
      · exact whole
      · rw [empty, validateTrackFile_nil] at valid
        cases valid
      · rw [cut] at valid ⊢
        exact List.take_of_length_le (uncut count stays valid)
      · rw [cleaned] at done
        obtain rfl := (Prod.mk.inj done).2
        cases here
    · rw [Option.some.inj same]
      exact Or.inr (Or.inl rfl)
    · rw [Option.some.inj same]
      exact Or.inr (Or.inr rfl)

theorem Newest.validates (newest : Newest pointValid history points) :
    validateTrackFile pointValid (trackFile points) = true :=
  validateTrackFile_trackFile newest.bounded newest.valid

theorem Kept.of_live (newest : Newest pointValid history points) (inside : history.cleared ≤ history.written.length) :
    Kept pointValid history ⟨some (trackFile points), none⟩ := by
  refine ⟨fun bytes here => ⟨points, [], ?_, by decide, newest⟩, nofun, nofun, inside⟩
  rw [List.append_nil]
  exact (Option.some.inj here).symm

theorem Kept.of_temp (newest : Newest pointValid history points) (inside : history.cleared ≤ history.written.length) :
    Kept pointValid history ⟨none, some (trackFile points)⟩ :=
  ⟨nofun, fun _ here _ => ⟨points, (Option.some.inj here).symm, newest⟩, fun _ => Or.inl newest.validates, inside⟩

theorem Kept.rewrite (kept : Kept pointValid history file) (newest : Newest pointValid history points)
    (missing : file.live = none → Newest pointValid history []) {ending : Ending}
    (uncut : Uncut pointValid (trackFile points) ending) :
    Kept pointValid history
      (attempt (validateTrackFile pointValid) file (some (trackFile points)) ending).2 := by
  generalize done : attempt (validateTrackFile pointValid) file (some (trackFile points)) ending = outcome
  obtain ⟨ok, after⟩ := outcome
  rcases attempt_uncut uncut done with ⟨-, rfl⟩ | ⟨-, ⟨live, temp⟩ | rfl | rfl⟩
  · exact .of_live newest kept.inside
  · refine ⟨fun bytes here => kept.live bytes (live.symm.trans here), fun bytes here valid => ?_,
      fun absent => Or.inr (missing (live.symm.trans absent)), kept.inside⟩
    rcases temp with same | whole
    · exact kept.temp bytes (same.symm.trans here) valid
    · exact ⟨points, whole bytes here valid, newest⟩
  · exact .of_temp newest kept.inside
  · exact .of_live newest kept.inside

theorem uncut_empty (ending : Ending) : Uncut pointValid (trackFile []) ending := by
  intro written _ valid
  by_contra short
  have header : headerValid ((trackFile []).take written) = true := by
    unfold validateTrackFile at valid
    simp only [Bool.and_eq_true] at valid
    exact valid.1.1.1
  have length := congrArg List.length (eq_of_beq header)
  have eight : trackHeader.length = 8 := rfl
  have whole : (trackFile []).length = 8 := rfl
  rw [List.length_take, List.length_take, eight] at length
  omega

theorem newestSnapshot_trackFile {tail : List UInt8} (live : file.live = some (trackFile points ++ tail))
    (short : tail.length < 12) (keepNewest : Nat) :
    newestSnapshot file keepNewest = trackFile (points.drop (points.length - min keepNewest points.length)) := by
  unfold newestSnapshot
  rw [live, inspectFile_trackFile points short]
  dsimp only
  rw [writeTrackSnapshot_trackFile points tail (by omega)]
  rfl

theorem newestSnapshot_whole (live : file.live = some (trackFile points)) (keepNewest : Nat) :
    newestSnapshot file keepNewest = trackFile (points.drop (points.length - min keepNewest points.length)) :=
  @newestSnapshot_trackFile points file [] (by rw [List.append_nil]; exact live) (by decide) keepNewest

theorem rewriteNewest_trackFile {tail : List UInt8} (live : file.live = some (trackFile points ++ tail))
    (short : tail.length < 12) (keepNewest : Nat) (inspects : Bool) (ending : Ending) :
    rewriteNewest pointValid file keepNewest inspects ending =
      if inspects then attempt (validateTrackFile pointValid) file
        (some (trackFile (points.drop (points.length - min keepNewest points.length)))) ending
      else (false, file) := by
  unfold rewriteNewest
  cases inspects with
  | false =>
    rw [live]
    rfl
  | true =>
    rw [live, inspectFile_trackFile points short]
    dsimp only
    rw [writeTrackSnapshot_trackFile points tail (by omega), if_pos rfl]

theorem Kept.rewritten (kept : Kept pointValid history file) {tail : List UInt8}
    (live : file.live = some (trackFile points ++ tail)) (short : tail.length < 12) {keepNewest : Nat}
    (newest : Newest pointValid history (points.drop (points.length - min keepNewest points.length))) {inspects : Bool}
    {ending : Ending} (uncut : Uncut pointValid (newestSnapshot file keepNewest) ending) :
    Kept pointValid history (rewriteNewest pointValid file keepNewest inspects ending).2 := by
  rw [rewriteNewest_trackFile live short]
  cases inspects with
  | false => exact kept
  | true =>
    rw [newestSnapshot_trackFile live short] at uncut
    exact kept.rewrite newest (fun missing => absurd (live.symm.trans missing) nofun) uncut

theorem rewriteNewest_done {tail : List UInt8} (live : file.live = some (trackFile points ++ tail))
    (short : tail.length < 12) {keepNewest : Nat} {inspects : Bool} {ending : Ending}
    (uncut : Uncut pointValid (newestSnapshot file keepNewest) ending)
    (done : rewriteNewest pointValid file keepNewest inspects ending = (true, after)) :
    after = ⟨some (trackFile (points.drop (points.length - min keepNewest points.length))), none⟩ := by
  rw [rewriteNewest_trackFile live short] at done
  rw [newestSnapshot_trackFile live short] at uncut
  cases inspects with
  | false => cases done
  | true =>
    rcases attempt_uncut uncut done with ⟨-, same⟩ | ⟨failed, -⟩
    · exact same
    · cases failed

theorem Kept.recovered (kept : Kept pointValid history file) {faults : InitFaults}
    (keepsCopy : KeepsCopy pointValid file faults) :
    Kept pointValid history (recoveredFile pointValid file faults) := by
  unfold recoveredFile
  generalize done : atomicFileRecover file (validateTrackFile pointValid) faults.recover = outcome
  obtain ⟨ok, after⟩ := outcome
  have removed (lost : file.live = none → file.temp.any (validateTrackFile pointValid) ≠ true) :
      Kept pointValid history { file with temp := none } :=
    ⟨kept.live, nofun, fun missing => Or.inr ((kept.copy missing).resolve_left (lost missing)), kept.inside⟩
  rcases atomicFileRecover_cases done with ⟨-, -, rfl⟩ | ⟨data, here, outcome⟩
  · exact kept
  rcases outcome with ⟨cleaned, unread, -, rfl⟩ | ⟨invalid, -, rfl⟩ | ⟨valid, ⟨-, rfl | rfl⟩ | ⟨-, rfl⟩⟩
  · cases cleaned with
    | false => exact kept
    | true => exact removed fun missing valid => keepsCopy unread valid missing
  · refine removed fun _ valid => ?_
    rw [here] at valid
    exact absurd (invalid.symm.trans valid) nofun
  · exact kept
  · obtain ⟨points, rfl, newest⟩ := kept.temp data here valid
    exact .of_temp newest kept.inside
  · obtain ⟨points, rfl, newest⟩ := kept.temp data here valid
    exact .of_live newest kept.inside

theorem recovered_temp {faults : InitFaults}
    (done : atomicFileRecover file (validateTrackFile pointValid) faults.recover = (true, after))
    (waits : after.temp.any (validateTrackFile pointValid) = true) :
    after = file ∧ faults.recover = some (.validate false) ∧ file.temp.any (validateTrackFile pointValid) = true ∧
      file.live.any (validateTrackFile pointValid) = true := by
  rcases atomicFileRecover_cases done with ⟨none, -, rfl⟩ | ⟨data, here, outcome⟩
  · rw [none] at waits
    cases waits
  rcases outcome with ⟨cleaned, unread, passes, rfl⟩ | ⟨-, -, rfl⟩ | ⟨-, ⟨failed, -⟩ | ⟨-, rfl⟩⟩
  · cases cleaned with
    | false => exact ⟨rfl, unread, waits, passes.symm⟩
    | true => cases waits
  · cases waits
  · cases failed
  · cases waits

/-- The log is a whole file of newest points, and a valid temp is one that the recovery has misread. -/
structure Ready (history : TrackHistory) (file after : AtomicFile) (faults : InitFaults) (points : List GpsTrackPoint) :
    Prop where
  live : after.live = some (trackFile points)
  newest : Newest pointValid history points
  temp : after.temp.any (validateTrackFile pointValid) = true →
    faults.recover = some (.validate false) ∧ file.temp.any (validateTrackFile pointValid) = true ∧
      file.live.any (validateTrackFile pointValid) = true
  uncut : ∀ keepNewest ending, Uncut pointValid
    (newestSnapshot (recoveredFile pointValid file faults) keepNewest) ending →
    Uncut pointValid (newestSnapshot after keepNewest) ending

theorem Kept.init (kept : Kept pointValid history file) {faults : InitFaults}
    (sound : InitSound pointValid file faults) :
    Kept pointValid history (gpsTrackInit pointValid file faults).2 ∧
      ((gpsTrackInit pointValid file faults).1 = true →
        ∃ points, @Ready pointValid history file (gpsTrackInit pointValid file faults).2 faults points) := by
  obtain ⟨keepsCopy, uncut⟩ := sound
  have same := kept.recovered keepsCopy
  have shown : recoveredFile pointValid file faults =
      (atomicFileRecover file (validateTrackFile pointValid) faults.recover).2 := rfl
  have waits := @recovered_temp pointValid file
  unfold gpsTrackInit
  split
  · exact ⟨kept, nofun⟩
  generalize done : atomicFileRecover file (validateTrackFile pointValid) faults.recover = outcome at shown
  obtain ⟨ok, middle⟩ := outcome
  dsimp only at shown ⊢
  rw [shown] at same uncut
  split
  · exact ⟨same, nofun⟩
  rename_i goes
  obtain rfl : ok = true := by
    cases ok with
    | true => rfl
    | false => exact absurd rfl goes
  have waits := waits done
  cases live : middle.live with
  | none =>
    rw [Option.isNone_none, if_pos rfl]
    have empty : Newest pointValid history [] := by
      refine (same.copy live).resolve_left fun valid => ?_
      obtain ⟨rfl, -, -, passes⟩ := waits valid
      rw [live] at passes
      cases passes
    refine ⟨same.rewrite empty (fun _ => empty) (uncut_empty _), fun created => ⟨[], ?_⟩⟩
    have left : (createEmpty pointValid middle faults.ending).2 = ⟨some (trackFile []), none⟩ := by
      rcases attempt_uncut (uncut_empty _) (Prod.ext created rfl) with ⟨-, left⟩ | ⟨failed, -⟩
      · exact left
      · cases failed
    rw [left]
    refine ⟨rfl, empty, nofun, fun keepNewest ending _ => ?_⟩
    rw [@newestSnapshot_whole [] _ rfl, List.drop_nil]
    exact uncut_empty _
  | some bytes =>
    rw [Option.isNone_some, if_neg Bool.false_ne_true]
    obtain ⟨points, tail, rfl, short, newest⟩ := same.live bytes live
    cases inspected : faults.inspect with
    | false => exact ⟨same, nofun⟩
    | true =>
      rw [inspectFile_trackFile points short]
      dsimp only
      have bounded : ¬ points.length > gpsTrackMaxPoints := Nat.not_lt.mpr newest.bounded
      rw [if_neg bounded, decide_eq_false bounded, Bool.or_false]
      have all : points.length - min points.length points.length = 0 := by omega
      have most : points.length - min gpsTrackMaxPoints points.length = 0 := by
        have := newest.bounded
        omega
      split
      · have whole : newestSnapshot middle points.length = newestSnapshot middle gpsTrackMaxPoints := by
          rw [newestSnapshot_trackFile live short, newestSnapshot_trackFile live short, all, most]
        rw [← whole] at uncut
        refine ⟨same.rewritten live short (by rw [all]; exact newest) uncut, fun repaired => ⟨points, ?_⟩⟩
        have left := rewriteNewest_done live short uncut (Prod.ext repaired rfl)
        rw [all, List.drop_zero] at left
        refine ⟨congrArg AtomicFile.live left, newest, fun waits => ?_, fun keepNewest ending uncut => ?_⟩
        · rw [congrArg AtomicFile.temp left] at waits
          cases waits
        · rw [newestSnapshot_whole (congrArg AtomicFile.live left)]
          rw [shown, newestSnapshot_trackFile live short] at uncut
          exact uncut
      · rename_i untorn
        obtain rfl : tail = [] := by simpa using untorn
        rw [List.append_nil] at live
        refine ⟨same, fun _ => ⟨points, live, newest, fun valid => (waits valid).2, fun keepNewest ending uncut => ?_⟩⟩
        rw [shown] at uncut
        exact uncut

theorem trackFile_concat (points : List GpsTrackPoint) (point : GpsTrackPoint) :
    trackFile points ++ pointBytes point = trackFile (points ++ [point]) := by
  unfold trackFile
  rw [List.flatMap_append, List.append_assoc]
  congr 2

theorem Kept.point (kept : Kept pointValid history file) (live : file.live = some (trackFile points))
    (newest : Newest pointValid history points) (room : points.length < gpsTrackMaxPoints) {point : GpsTrackPoint}
    (valid : pointValid point = true) {written : Nat}
    (superseded : 12 ≤ written → file.temp.any (validateTrackFile pointValid) ≠ true) :
    Kept pointValid (if decide (12 ≤ written) then history.appended point else history)
      { file with live := some (file.live.getD [] ++ (pointBytes point).take written) } := by
  rw [live, Option.getD_some]
  by_cases complete : 12 ≤ written
  · rw [if_pos (decide_eq_true complete), List.take_of_length_le (by rw [length_pointBytes]; exact complete),
      trackFile_concat]
    refine ⟨fun bytes here => ⟨points ++ [point], [], ?_, by decide, newest.append room valid kept.inside⟩,
      fun bytes here passes => ?_, nofun, ?_⟩
    · rw [List.append_nil]
      exact (Option.some.inj here).symm
    · have waits : file.temp.any (validateTrackFile pointValid) = true := by
        rw [show file.temp = some bytes from here]
        exact passes
      exact absurd waits (superseded complete)
    · have inside := kept.inside
      unfold TrackHistory.appended
      rw [List.length_append]
      exact Nat.le_add_right_of_le inside
  · rw [if_neg (by simpa using complete)]
    refine ⟨fun bytes here => ⟨points, (pointBytes point).take written, (Option.some.inj here).symm, ?_, newest⟩,
      kept.temp, nofun, kept.inside⟩
    rw [List.length_take]
    omega

theorem Kept.append (kept : Kept pointValid history file) {point : GpsTrackPoint} {faults : AppendFaults}
    (sound : InitSound pointValid file faults.init) (supersedes : Supersedes pointValid file faults)
    (uncut : Uncut pointValid (newestSnapshot (recoveredFile pointValid file faults.init) gpsTrackCompactPoints)
      faults.ending) {ok : Bool} (done : gpsTrackAppend pointValid file point faults = (ok, after)) :
    Kept pointValid (if ok then history.appended point else history) after := by
  have failed {final : AtomicFile} (same : Kept pointValid history final) (ended : (false, final) = (ok, after)) :
      Kept pointValid (if ok then history.appended point else history) after := by
    obtain ⟨rfl, rfl⟩ := Prod.mk.inj ended
    exact same
  obtain ⟨initialized, ready⟩ := kept.init sound
  unfold gpsTrackAppend at done
  split at done
  · exact failed kept done
  rename_i valid
  have valid : pointValid point = true := by simpa using valid
  generalize gpsTrackInit pointValid file faults.init = outcome at initialized ready done
  obtain ⟨begun, middle⟩ := outcome
  cases begun with
  | false => exact failed initialized done
  | true =>
    obtain ⟨points, ready⟩ := ready rfl
    have live : middle.live = some (trackFile points ++ []) := by
      rw [List.append_nil]
      exact ready.live
    have uncut := ready.uncut _ _ uncut
    dsimp only at initialized done
    cases inspected : faults.inspect with
    | false =>
      rw [inspected, live] at done
      exact failed initialized done
    | true =>
      rw [inspected, live, inspectFile_trackFile points (by decide)] at done
      dsimp only at done
      have writes {final : AtomicFile} {kept' : List GpsTrackPoint} (same : Kept pointValid history final)
          (whole : final.live = some (trackFile kept')) (newest : Newest pointValid history kept')
          (room : kept'.length < gpsTrackMaxPoints)
          (superseded : 12 ≤ faults.written → final.temp.any (validateTrackFile pointValid) ≠ true)
          (ended : (if !faults.opens then (false, final)
            else (decide (12 ≤ faults.written),
              { final with live := some (final.live.getD [] ++ (pointBytes point).take faults.written) })) =
                (ok, after)) :
          Kept pointValid (if ok then history.appended point else history) after := by
        split at ended
        · exact failed same ended
        · obtain ⟨rfl, rfl⟩ := Prod.mk.inj ended
          exact same.point whole newest room valid superseded
      by_cases full : points.length ≥ gpsTrackMaxPoints
      · rw [if_pos full] at done
        have compact : points.length - min gpsTrackCompactPoints points.length < points.length := by
          unfold gpsTrackMaxPoints at full
          unfold gpsTrackCompactPoints
          omega
        have newest := ready.newest.drop (Or.inl compact)
        have compacted : Kept pointValid history
            (rewriteNewest pointValid middle gpsTrackCompactPoints faults.reinspect faults.ending).2 :=
          initialized.rewritten live (by decide) newest uncut
        have left (final : AtomicFile) := @rewriteNewest_done pointValid points middle final [] live (by decide)
          gpsTrackCompactPoints faults.reinspect faults.ending uncut
        generalize rewriteNewest pointValid middle gpsTrackCompactPoints faults.reinspect faults.ending = rewritten
          at done compacted left
        obtain ⟨shortened, final⟩ := rewritten
        cases shortened with
        | false => exact failed compacted done
        | true =>
          have left := left final rfl
          refine writes compacted (congrArg AtomicFile.live left) newest ?_ (fun _ => ?_) done
          · rw [List.length_drop]
            unfold gpsTrackMaxPoints at full ⊢
            unfold gpsTrackCompactPoints
            omega
          · rw [congrArg AtomicFile.temp left]
            exact nofun
      · rw [if_neg full] at done
        refine writes initialized ready.live ready.newest (Nat.not_le.mp full) (fun complete waits => ?_) done
        obtain ⟨unread, temp, passes⟩ := ready.temp waits
        exact absurd (supersedes unread temp passes) (Nat.not_lt.mpr complete)

theorem Newest.newest_of (newest : Newest pointValid history points) {keepNewest : Nat}
    (some : keepNewest ≠ 0 ∨ history.loose = true) :
    Newest pointValid history (points.drop (points.length - min keepNewest points.length)) := by
  refine newest.drop ?_
  rcases some with positive | loose
  · by_cases empty : points = []
    · exact Or.inr (Or.inl empty)
    · have := List.length_pos_iff.mpr empty
      omega
  · exact Or.inr (Or.inr loose)

theorem Kept.loosened (kept : Kept pointValid history file) : Kept pointValid history.loosened file := by
  refine ⟨fun bytes here => ?_, fun bytes here valid => ?_, fun missing => ?_, kept.inside⟩
  · obtain ⟨points, tail, same, short, newest⟩ := kept.live bytes here
    exact ⟨points, tail, same, short, newest.loosened⟩
  · obtain ⟨points, same, newest⟩ := kept.temp bytes here valid
    exact ⟨points, same, newest.loosened⟩
  · exact Or.inr (.of_empty rfl)

theorem Kept.trim (kept : Kept pointValid history file) {keepNewest : Nat} {faults : TrimFaults}
    (sound : InitSound pointValid file faults.init)
    (uncut : Uncut pointValid (newestSnapshot (recoveredFile pointValid file faults.init)
      (min keepNewest gpsTrackMaxPoints)) faults.ending) :
    Kept pointValid (if keepNewest = 0 then history.loosened else history)
      (gpsTrackTrim pointValid file keepNewest faults).2 := by
  have kept : Kept pointValid (if keepNewest = 0 then history.loosened else history) file := by
    split
    · exact kept.loosened
    · exact kept
  have rest : min keepNewest gpsTrackMaxPoints ≠ 0 ∨
      (if keepNewest = 0 then history.loosened else history).loose = true := by
    by_cases zero : keepNewest = 0
    · exact Or.inr (by rw [if_pos zero]; rfl)
    · left
      unfold gpsTrackMaxPoints
      omega
  generalize (if keepNewest = 0 then history.loosened else history) = history at kept rest
  obtain ⟨initialized, ready⟩ := kept.init sound
  unfold gpsTrackTrim
  generalize gpsTrackInit pointValid file faults.init = outcome at initialized ready
  obtain ⟨begun, middle⟩ := outcome
  cases begun with
  | false => exact initialized
  | true =>
    obtain ⟨points, ready⟩ := ready rfl
    have live : middle.live = some (trackFile points ++ []) := by
      rw [List.append_nil]
      exact ready.live
    exact initialized.rewritten live (by decide) (ready.newest.newest_of rest) (ready.uncut _ _ uncut)

theorem Kept.clear (kept : Kept pointValid history file) {faults : ClearFaults} {ok : Bool}
    (done : gpsTrackClear pointValid file faults = (ok, after)) :
    Kept pointValid (if ok then history.emptied else history.loosened) after := by
  have failed (ended : (false, file) = (ok, after)) :
      Kept pointValid (if ok then history.emptied else history.loosened) after := by
    obtain ⟨rfl, rfl⟩ := Prod.mk.inj ended
    exact kept.loosened
  unfold gpsTrackClear at done
  split at done
  · exact failed done
  split at done
  · exact failed done
  have empty : Newest pointValid history.loosened [] := .of_empty rfl
  have removed : Kept pointValid history.loosened { file with live := none } :=
    ⟨nofun, kept.loosened.temp, fun _ => Or.inr empty, kept.inside⟩
  cases ok with
  | false =>
    have left : after = (createEmpty pointValid { file with live := none } faults.ending).2 := by rw [done]
    rw [left]
    exact removed.rewrite empty (fun _ => empty) (uncut_empty _)
  | true =>
    rcases attempt_uncut (uncut_empty _) done with ⟨-, rfl⟩ | ⟨failed, -⟩
    · exact .of_live (.of_empty rfl) (Nat.le_refl _)
    · cases failed

theorem Kept.loadRecent (kept : Kept pointValid history file) {maxPoints : Nat} {faults : LoadFaults}
    (sound : InitSound pointValid file faults.init) :
    Kept pointValid history (gpsTrackLoadRecent pointValid file maxPoints faults).2 := by
  obtain ⟨initialized, -⟩ := kept.init sound
  unfold gpsTrackLoadRecent
  split
  · exact kept
  generalize gpsTrackInit pointValid file faults.init = outcome at initialized
  obtain ⟨begun, middle⟩ := outcome
  cases begun with
  | false => exact initialized
  | true =>
    dsimp only
    split
    · exact initialized
    · exact iteInduction (motive := fun outcome : List GpsTrackPoint × AtomicFile => Kept pointValid history
        outcome.2) (fun _ => initialized)
        fun _ => initialized

theorem trackStep_kept {log : TrackLog} {call : TrackCall} (kept : Kept pointValid log.history log.file)
    (sound : Sound pointValid log call) :
    Kept pointValid (trackStep pointValid log call).history (trackStep pointValid log call).file := by
  cases call with
  | init faults => exact (kept.init sound).1
  | loadRecent maxPoints faults => exact kept.loadRecent sound
  | append point faults => exact kept.append sound.1 sound.2.1 sound.2.2 rfl
  | trim keepNewest faults => exact kept.trim sound.1 sound.2
  | clear faults => exact kept.clear rfl

def InitFaults.nothing : InitFaults := ⟨true, none, true, true, true, .returns none⟩

theorem attempt_valid {data : List UInt8} (valid : validateTrackFile pointValid data = true) :
    attempt (validateTrackFile pointValid) file (some data) (.returns none) = (true, ⟨some data, none⟩) :=
  atomicFileReplace_success valid

theorem gpsTrackInit_without_temp (kept : Kept pointValid history file) (absent : file.temp = none) :
    ∃ points, gpsTrackInit pointValid file .nothing = (true, ⟨some (trackFile points), none⟩) ∧
      Newest pointValid history points := by
  unfold gpsTrackInit
  simp only [InitFaults.nothing, atomicFileRecover_without_temp _ _ absent, Bool.not_true, Bool.and_false,
    Bool.or_false,
    Bool.false_eq_true, if_false]
  cases live : file.live with
  | none =>
    have empty : Newest pointValid history [] := by
      refine (kept.copy live).resolve_left ?_
      rw [absent]
      exact nofun
    rw [Option.isNone_none, if_pos rfl]
    exact ⟨[], attempt_valid empty.validates, empty⟩
  | some bytes =>
    obtain ⟨points, tail, rfl, short, newest⟩ := kept.live bytes live
    have bounded : ¬ points.length > gpsTrackMaxPoints := Nat.not_lt.mpr newest.bounded
    rw [Option.isNone_some, if_neg Bool.false_ne_true, inspectFile_trackFile points short]
    dsimp only
    rw [if_neg bounded, decide_eq_false bounded, Bool.or_false]
    refine ⟨points, ?_, newest⟩
    split
    · have all : points.length - min points.length points.length = 0 := by omega
      rw [rewriteNewest_trackFile live short, if_pos rfl, all, List.drop_zero]
      exact attempt_valid newest.validates
    · rename_i untorn
      obtain rfl : tail = [] := by simpa using untorn
      rw [List.append_nil] at live
      rw [← live, ← absent]

theorem gpsTrackInit_recovered (done : atomicFileRecover file (validateTrackFile pointValid) none = (true, after))
    (absent : after.temp = none) :
    gpsTrackInit pointValid file .nothing = gpsTrackInit pointValid after .nothing := by
  unfold gpsTrackInit
  simp only [InitFaults.nothing, done, atomicFileRecover_without_temp _ _ absent, Bool.not_true, Bool.and_false,
    Bool.or_false, Bool.false_eq_true, if_false]

theorem gpsTrackInit_with_temp (kept : Kept pointValid history file) {data : List UInt8}
    (pending : file.temp = some data) :
    (∃ points, gpsTrackInit pointValid file .nothing = (true, ⟨some (trackFile points), none⟩) ∧
      Newest pointValid history points) ∨
    gpsTrackInit pointValid file .nothing = (false, { file with temp := none }) ∧
      Kept pointValid history { file with temp := none } := by
  have same : Kept pointValid history (recoveredFile pointValid file .nothing) := kept.recovered nofun
  unfold recoveredFile at same
  cases valid : validateTrackFile pointValid data with
  | true =>
    have done := atomicFileRecover_promotes pending valid
    rw [show InitFaults.nothing.recover = none from rfl, done] at same
    rw [gpsTrackInit_recovered done rfl]
    exact Or.inl (gpsTrackInit_without_temp same rfl)
  | false =>
    have done := atomicFileRecover_discards pending valid
    rw [show InitFaults.nothing.recover = none from rfl, done] at same
    cases passes : file.live.any (validateTrackFile pointValid) with
    | true =>
      rw [passes] at done
      rw [gpsTrackInit_recovered done rfl]
      exact Or.inl (gpsTrackInit_without_temp same rfl)
    | false =>
      refine Or.inr ⟨?_, same⟩
      rw [passes] at done
      unfold gpsTrackInit
      simp only [InitFaults.nothing, done, Bool.not_true, Bool.not_false, Bool.true_or, Bool.false_eq_true, if_false,
        if_true]

def LoadFaults.nothing (bytes : Nat) : LoadFaults := ⟨.nothing, true, true, bytes⟩

theorem gpsTrackInit_whole (newest : Newest pointValid history points) :
    gpsTrackInit pointValid ⟨some (trackFile points), none⟩ .nothing = (true, ⟨some (trackFile points), none⟩) := by
  have bounded : ¬ points.length > gpsTrackMaxPoints := Nat.not_lt.mpr newest.bounded
  have quiet : atomicFileRecover ⟨some (trackFile points), none⟩ (validateTrackFile pointValid) none =
      (true, ⟨some (trackFile points), none⟩) := atomicFileRecover_without_temp _ _ rfl
  unfold gpsTrackInit
  simp only [InitFaults.nothing, quiet, Bool.not_true, Bool.and_false, Bool.or_false,
    Bool.false_eq_true, if_false, Option.isNone_some, inspectFile_whole, decide_eq_false bounded]

theorem gpsTrackLoadRecent_whole (newest : Newest pointValid history points) (maxPoints : Nat) :
    (gpsTrackLoadRecent pointValid ⟨some (trackFile points), none⟩ maxPoints (.nothing (trackFile points).length)).1 =
      points.drop (points.length - maxPoints) := by
  have payload : (trackFile points).drop (8 + (points.length - min points.length maxPoints) * 12) =
      (points.drop (points.length - min points.length maxPoints)).flatMap pointBytes ++ [] := by
    rw [← List.drop_drop, Nat.mul_comm, ← drop_points points [] (by omega), List.append_nil]
    rfl
  unfold gpsTrackLoadRecent
  split
  · rename_i none
    rw [none, Nat.sub_zero, List.drop_length]
  · have begun : gpsTrackInit pointValid ⟨some (trackFile points), none⟩
        (LoadFaults.nothing (trackFile points).length).init =
        (true, ⟨some (trackFile points), none⟩) := gpsTrackInit_whole newest
    rw [begun]
    dsimp only [LoadFaults.nothing]
    rw [inspectFile_whole]
    change readPoints ((((trackFile points).drop (8 + (points.length - min points.length maxPoints) * 12)).take
      (min points.length maxPoints * 12)).take (trackFile points).length) = _
    rw [payload, List.take_of_length_le, List.take_of_length_le,
      readPoints_points _ (by decide)]
    · congr 1
      omega
    · rw [List.length_append, length_points, List.length_drop, List.length_nil]
      omega
    · rw [List.length_take, List.length_append, length_points, length_trackFile, List.length_drop, List.length_nil]
      omega

def AppendFaults.nothing : AppendFaults := ⟨.nothing, true, true, .returns none, true, 12⟩

theorem gpsTrackAppend_whole (newest : Newest pointValid history points) {point : GpsTrackPoint}
    (valid : pointValid point = true) :
    (gpsTrackAppend pointValid ⟨some (trackFile points), none⟩ point .nothing).1 = true := by
  have begun : gpsTrackInit pointValid ⟨some (trackFile points), none⟩ AppendFaults.nothing.init =
      (true, ⟨some (trackFile points), none⟩) := gpsTrackInit_whole newest
  have room : (rewriteNewest pointValid ⟨some (trackFile points), none⟩ gpsTrackCompactPoints true (.returns none)).1 =
      true := by
    have all : some (trackFile points) = some (trackFile points ++ []) := by rw [List.append_nil]
    have compact := (newest.newest_of (Or.inl (by decide : gpsTrackCompactPoints ≠ 0))).validates
    rw [@rewriteNewest_trackFile pointValid points ⟨some (trackFile points), none⟩ [] all (by decide), if_pos rfl,
      attempt_valid compact]
  have inspected : inspectFile (some (trackFile points)) AppendFaults.nothing.inspect = some (points.length, false) :=
    inspectFile_whole points
  unfold gpsTrackAppend
  simp only [valid, begun, inspected, Bool.not_true, Bool.false_eq_true, if_false]
  split
  · rename_i failed
    split at failed
    · exact absurd (room.symm.trans (congrArg Prod.fst failed)) nofun
    · cases failed
  · rfl

/-- Once faults stop, the log is usable after one more call, or two, and holds the newest points. -/
def Recovers (pointValid : GpsTrackPoint → Bool) (log : TrackLog) : Prop :=
  ∃ points,
    (gpsTrackInit pointValid log.file .nothing = (true, ⟨some (trackFile points), none⟩) ∨
      (gpsTrackInit pointValid log.file .nothing).1 = false ∧
        gpsTrackInit pointValid (gpsTrackInit pointValid log.file .nothing).2 .nothing =
          (true, ⟨some (trackFile points), none⟩)) ∧
    (∀ maxPoints, (gpsTrackLoadRecent pointValid ⟨some (trackFile points), none⟩ maxPoints
      (.nothing (trackFile points).length)).1 = points.drop (points.length - maxPoints)) ∧
    (∀ point, pointValid point = true →
      (gpsTrackAppend pointValid ⟨some (trackFile points), none⟩ point .nothing).1 = true) ∧
    Newest pointValid log.history points

theorem Kept.recovers {log : TrackLog} (kept : Kept pointValid log.history log.file) : Recovers pointValid log := by
  cases pending : log.file.temp with
  | none =>
    obtain ⟨points, done, newest⟩ := gpsTrackInit_without_temp kept pending
    exact ⟨points, Or.inl done, gpsTrackLoadRecent_whole newest, fun _ => gpsTrackAppend_whole newest, newest⟩
  | some data =>
    rcases gpsTrackInit_with_temp kept pending with ⟨points, done, newest⟩ | ⟨failed, same⟩
    · exact ⟨points, Or.inl done, gpsTrackLoadRecent_whole newest, fun _ => gpsTrackAppend_whole newest, newest⟩
    · obtain ⟨points, done, newest⟩ := gpsTrackInit_without_temp same rfl
      refine ⟨points,
        Or.inr ⟨by rw [failed], ?_⟩, gpsTrackLoadRecent_whole newest, fun _ => gpsTrackAppend_whole newest, newest⟩
      rw [failed]
      exact done

/-- The track log over runs from no file. -/
theorem gps_track_recovers (calls : List TrackCall)
    (sound : Runs.Along (trackStep pointValid) (Sound pointValid) .initial calls) :
    Recovers pointValid (Runs.run (trackStep pointValid) .initial calls) := by
  have initial : Kept pointValid TrackLog.initial.history TrackLog.initial.file :=
    ⟨nofun, nofun, fun _ => Or.inr ⟨Nat.zero_le _, rfl, List.nil_suffix, fun _ => rfl⟩, Nat.le_refl _⟩
  have kept := Runs.run_invariant_along (fun log : TrackLog => Kept pointValid log.history log.file) initial
    (fun log call kept sound => trackStep_kept kept sound) sound
  exact kept.recovers

/-- `gpsTrackCoordinateValid` on the coordinates as they are stored. -/
def coordinateValid (point : GpsTrackPoint) : Bool :=
  let signed (pattern : UInt32) : Int := pattern.toBitVec.toInt
  decide ((signed point.latitudeE7).natAbs ≤ 900000000) && decide ((signed point.longitudeE7).natAbs ≤ 1800000000)

def place (second : UInt32) : GpsTrackPoint := ⟨605000000, 4294967000, second⟩

/-- The second append is torn, and the trim to one point loses power within that point. -/
def tornAndCut : List TrackCall :=
  [.append (place 1) .nothing, .append (place 2) { AppendFaults.nothing with written := 5 },
    .append (place 3) .nothing, .trim 1 ⟨.nothing, true, .cut (.wrote 15)⟩, .append (place 4) .nothing]

theorem tornAndCut_recovers :
    Recovers coordinateValid (Runs.run (trackStep coordinateValid) .initial tornAndCut) := by
  refine gps_track_recovers tornAndCut ⟨?_, ?_, ?_, ?_, ?_, trivial⟩
  · exact ⟨⟨nofun, nofun⟩, nofun, nofun⟩
  · exact ⟨⟨nofun, nofun⟩, nofun, nofun⟩
  · exact ⟨⟨nofun, nofun⟩, nofun, nofun⟩
  · refine ⟨⟨nofun, nofun⟩, fun written within valid => ?_⟩
    obtain rfl := Option.some.inj within
    exact absurd valid (by decide +kernel)
  · exact ⟨⟨nofun, nofun⟩, nofun, nofun⟩

/-- The trim to two points loses power behind the first of them. -/
def cutBetweenPoints : List TrackCall :=
  [.append (place 1) .nothing, .append (place 2) .nothing, .trim 2 ⟨.nothing, true, .cut (.wrote 20)⟩]

theorem cutBetweenPoints_loses :
    ¬ Recovers coordinateValid (Runs.run (trackStep coordinateValid) .initial cutBetweenPoints) := by
  rintro ⟨points, begun, -, -, newest⟩
  have promoted : gpsTrackInit coordinateValid (Runs.run (trackStep coordinateValid) .initial cutBetweenPoints).file
      .nothing = (true, ⟨some (trackFile [place 1]), none⟩) := by decide +kernel
  have last : points.getLast? = some (place 2) := newest.last (by decide +kernel)
  rcases begun with done | ⟨failed, -⟩
  · have same := Option.some.inj (congrArg AtomicFile.live (congrArg Prod.snd (promoted.symm.trans done)))
    have one : points = [place 1] := by
      rw [← readPoints_trackFile points, ← same, readPoints_trackFile]
    rw [one] at last
    exact absurd last (by decide)
  · rw [promoted] at failed
    cases failed

end Log

end SigurdOS.App
