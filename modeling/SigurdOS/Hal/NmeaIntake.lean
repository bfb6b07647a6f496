import SigurdOS.Hal.Gps

namespace SigurdOS.Hal.Gps

open Mesh (ascii)
open Runs

variable {F D : Type}

/-- A newline that came: what came since the line began, the sentence that was handed to `process_nmea`, and the
    states around that. -/
structure ClosedLine (F : Type) where
  wire : List UInt8
  handed : Option (List UInt8)
  before : GpsState F
  after : GpsState F
  checkedMs : UInt32

/-- The state, what came since the last newline or since the UART began, and the lines closed; no code keeps the
    last two. -/
structure Journal (F : Type) where
  state : GpsState F
  wire : List UInt8
  closed : List (ClosedLine F)

namespace Journal

def boot (numbers : CNumbers F D) : Journal F := ⟨.off numbers, [], []⟩

variable (numbers : CNumbers F D) (journal : Journal F)

def close (read : UartRead) : ClosedLine F :=
  let state := journal.state.countChar
  let closes := state.closesLine read.byte
  { wire := journal.wire
    handed := if closes then some (cText state.nmeaBuf) else none
    before := state
    after := if closes then state.processLine numbers read.parsedMs else state
    checkedMs := read.checkedMs }

def restarts : GpsStep → Bool
  | .init _ => true
  | .stop => journal.state.gps.initialized
  | .cycleBaud now _ => journal.state.switchesBaud now
  | _ => false

def step (step : GpsStep) : Journal F :=
  let state := journal.state.step numbers step
  match step with
  | .read read =>
    if read.byte = ascii '\n' then ⟨state, [], journal.closed ++ [journal.close numbers read]⟩
    else ⟨state, journal.wire ++ [read.byte], journal.closed⟩
  | step => ⟨state, if journal.restarts step then [] else journal.wire, journal.closed⟩

end Journal

section Statement

def noReturns (wire : List UInt8) : List UInt8 := wire.filter (· ≠ ascii '\r')

def ChecksumEnds (body : List UInt8) : Prop :=
  ∃ text high low, body = text ++ [ascii '*', high, low] ∧ isHexDigit high = true ∧ isHexDigit low = true ∧
    checksum text = hexValue high * 16 + hexValue low

/-- The sentence is all that came from its `$` to the newline. -/
def WholeSentence (wire sentence : List UInt8) : Prop :=
  ∃ noise body, noReturns wire = noise ++ ascii '$' :: body ∧ ascii '$' ∉ body ∧ body.length < 127 ∧
    ChecksumEnds body ∧ sentence = ascii '$' :: body

/-- The line is a sentence without `$` or NUL inside that fits the buffer. -/
def PlainLine (wire body : List UInt8) : Prop :=
  noReturns wire = ascii '$' :: body ∧ body.length < 127 ∧ ascii '$' ∉ body ∧ 0 ∉ body

namespace ClosedLine

variable (line : ClosedLine F)

def Accepted : Prop :=
  line.after.gps.ggaSentences ≠ line.before.gps.ggaSentences ∨
    line.after.gps.rmcSentences ≠ line.before.gps.rmcSentences

def Rejected : Prop := line.after.gps.validSentences = line.before.gps.validSentences

structure Sound : Prop where
  whole : line.Accepted → ∃ sentence, line.handed = some sentence ∧ WholeSentence line.wire sentence
  sent : ∀ body, PlainLine line.wire body → line.handed = some (ascii '$' :: body)
  kept : line.Rejected → line.after.gps.toGpsReadings = line.before.gps.toGpsReadings

end ClosedLine

structure IntakeSound (journal : Journal F) : Prop where
  inside : journal.state.nmeaBuf.length ≤ 127
  lines : ∀ line ∈ journal.closed, line.Sound

def NulFree (journal : Journal F) : GpsStep → Prop
  | .read read => read.byte = ascii '\n' → 0 ∉ journal.state.nmeaBuf
  | _ => True

end Statement

section Processing

namespace GpsData

variable {numbers : CNumbers F D} {gps : GpsData F} {sentence : List UInt8} {now : UInt32}

@[simp] theorem commitGga_counters (fields : GgaFields F) :
    (gps.commitGga fields now).toGpsCounters = gps.toGpsCounters := by
  unfold commitGga invalidateFix
  split <;> rfl

@[simp] theorem commitRmc_counters (fields : RmcFields F) :
    (gps.commitRmc fields now).toGpsCounters = gps.toGpsCounters := by
  unfold commitRmc invalidateFix
  split <;> rfl

theorem countSnr_counters (field : Nat) : (countSnr numbers sentence gps field).toGpsCounters = gps.toGpsCounters := by
  unfold countSnr
  cases nmeaField sentence field 20 with
  | none => rfl
  | some value =>
    dsimp only
    split <;> rfl

theorem foldl_countSnr_counters (fields : List Nat) :
    (fields.foldl (countSnr numbers sentence) gps).toGpsCounters = gps.toGpsCounters := by
  induction fields generalizing gps with
  | nil => rfl
  | cons field rest ih => exact ih.trans (countSnr_counters field)

@[simp] theorem parseGsv_counters : (gps.parseGsv numbers sentence).toGpsCounters = gps.toGpsCounters := by
  have folded (start : GpsData F) : ([7, 11, 15, 19].foldl (countSnr numbers sentence) start).toGpsCounters =
      start.toGpsCounters := foldl_countSnr_counters _
  unfold parseGsv
  dsimp only
  rw [folded]
  split <;> rfl

@[simp] theorem parseGsa_counters : (gps.parseGsa numbers sentence).toGpsCounters = gps.toGpsCounters := rfl

theorem dispatch_valid : (gps.dispatch numbers sentence now).2.validSentences = gps.validSentences := by
  unfold dispatch parseGga parseRmc
  split
  · cases readGga numbers sentence with
    | none => rfl
    | some fields =>
      have kept : (gps.commitGga fields now).validSentences = gps.validSentences :=
        congrArg GpsCounters.validSentences (commitGga_counters fields)
      exact kept
  split
  · cases readRmc numbers sentence with
    | none => rfl
    | some fields =>
      have kept : (gps.commitRmc fields now).validSentences = gps.validSentences :=
        congrArg GpsCounters.validSentences (commitRmc_counters fields)
      exact kept
  split
  · have kept (start : GpsData F) : (start.parseGsv numbers sentence).validSentences = start.validSentences :=
      congrArg GpsCounters.validSentences parseGsv_counters
    exact kept _
  split
  · rfl
  · rfl

theorem dispatch_refused (refused : (gps.dispatch numbers sentence now).1 = false) :
    (gps.dispatch numbers sentence now).2 = gps := by
  unfold dispatch parseGga parseRmc at refused ⊢
  split_ifs at refused ⊢
  · cases read : readGga numbers sentence with
    | none => rfl
    | some fields => simp [read] at refused
  · cases read : readRmc numbers sentence with
    | none => rfl
    | some fields => simp [read] at refused
  · rfl

theorem processNmea_rejected (rejected : (gps.processNmea numbers sentence now).validSentences = gps.validSentences) :
    (gps.processNmea numbers sentence now).toGpsReadings = gps.toGpsReadings := by
  have counted : (gps.dispatch numbers sentence now).2.validSentences = gps.validSentences := dispatch_valid
  have refused : (gps.dispatch numbers sentence now).1 = false → (gps.dispatch numbers sentence now).2 = gps :=
    dispatch_refused
  unfold processNmea at rejected ⊢
  split_ifs at rejected ⊢
  · rfl
  · generalize gps.dispatch numbers sentence now = outcome at rejected counted refused ⊢
    obtain ⟨accepted, data⟩ := outcome
    cases accepted with
    | true =>
      have more : data.validSentences + 1 = data.validSentences := rejected.trans counted.symm
      exact absurd more (by simp)
    | false => exact congrArg GpsData.toGpsReadings (refused rfl)

theorem processNmea_checked (counted : (gps.processNmea numbers sentence now).ggaSentences ≠ gps.ggaSentences ∨
    (gps.processNmea numbers sentence now).rmcSentences ≠ gps.rmcSentences) : nmeaChecksumValid sentence = true := by
  by_contra broken
  unfold processNmea at counted
  rw [if_pos (Bool.eq_false_iff.mpr broken)] at counted
  exact counted.elim (absurd rfl) (absurd rfl)

end GpsData

end Processing

section Framing

def FromDollar (came buffer : List UInt8) : Prop :=
  ∃ noise, came = noise ++ buffer ∧ ascii '$' ∉ buffer.tail ∧ (noise ≠ [] → buffer.head? = some (ascii '$'))

structure Framed (journal : Journal F) : Prop where
  inside : journal.state.nmeaBuf.length ≤ 127
  discards : journal.state.nmeaDiscarding = true → 127 < (noReturns journal.wire).length
  buffers : journal.state.nmeaDiscarding = false → FromDollar (noReturns journal.wire) journal.state.nmeaBuf

theorem FromDollar.nil : FromDollar [] [] := ⟨[], rfl, by simp, by simp⟩

variable {came buffer : List UInt8} {c : UInt8}

theorem FromDollar.restart (from_dollar : FromDollar came buffer) : FromDollar (came ++ [ascii '$']) [ascii '$'] := by
  obtain ⟨noise, rfl, -, -⟩ := from_dollar
  exact ⟨noise ++ buffer, by simp, by simp, fun _ => rfl⟩

theorem FromDollar.append (from_dollar : FromDollar came buffer) (goes_on : c = ascii '$' → buffer = []) :
    FromDollar (came ++ [c]) (buffer ++ [c]) := by
  obtain ⟨noise, rfl, single, marked⟩ := from_dollar
  refine ⟨noise, by simp, ?_, ?_⟩
  · cases buffer with
    | nil => simp
    | cons first rest =>
      intro inside
      rcases List.mem_append.mp (show ascii '$' ∈ rest ++ [c] from inside) with earlier | last
      · exact single earlier
      · exact List.cons_ne_nil first rest (goes_on (List.mem_singleton.mp last).symm)
  · intro noisy
    cases buffer with
    | nil => exact absurd (marked noisy) (by simp)
    | cons first rest => exact marked noisy

theorem FromDollar.whole {body : List UInt8} (from_dollar : FromDollar (ascii '$' :: body) buffer)
    (single : ascii '$' ∉ body) : buffer = ascii '$' :: body := by
  obtain ⟨noise, same, -, marked⟩ := from_dollar
  cases noise with
  | nil => exact same.symm
  | cons first rest =>
    obtain ⟨-, same⟩ := List.cons.inj same
    obtain ⟨tail, begins⟩ := List.head?_eq_some_iff.mp (marked (by simp))
    subst begins
    exact absurd (same ▸ List.mem_append_right rest List.mem_cons_self) single

theorem noReturns_append (wire : List UInt8) (c : UInt8) :
    noReturns (wire ++ [c]) = if c = ascii '\r' then noReturns wire else noReturns wire ++ [c] := by
  unfold noReturns
  rw [List.filter_append]
  split <;> simp_all

variable {numbers : CNumbers F D} {journal : Journal F}

theorem storeEpoch_buffer (state : GpsState F) (now : UInt32) : (state.storeEpoch now).nmeaBuf = state.nmeaBuf ∧
    (state.storeEpoch now).nmeaDiscarding = state.nmeaDiscarding := by
  unfold GpsState.storeEpoch
  split
  · exact ⟨rfl, rfl⟩
  · dsimp only
    split <;> exact ⟨rfl, rfl⟩

theorem step_buffer {step : GpsStep} (other : ∀ read, step ≠ .read read) :
    (journal.state.step numbers step).nmeaBuf = (if journal.restarts step then [] else journal.state.nmeaBuf) ∧
      (journal.state.step numbers step).nmeaDiscarding =
        (if journal.restarts step then false else journal.state.nmeaDiscarding) := by
  cases step with
  | read read => exact absurd rfl (other read)
  | init begunMs => exact ⟨rfl, rfl⟩
  | stop =>
    simp only [GpsState.step, GpsState.stopUart, Journal.restarts]
    by_cases on : journal.state.gps.initialized = true <;> simp [on]
  | cycleBaud now begunMs =>
    simp only [GpsState.step, GpsState.maybeCycleBaud, Journal.restarts]
    by_cases valid : journal.state.gps.validSentences > 0
    · have stays : journal.state.switchesBaud now = false := by
        have some : journal.state.gps.validSentences ≠ 0 := UInt32.pos_iff_ne_zero.mp valid
        simp [GpsState.switchesBaud, some]
      simp [valid, stays]
    · rw [if_neg valid]
      by_cases switched : journal.state.switchesBaud now = true
      · simp [switched, GpsState.beginUart]
      · simp [switched, GpsState.latchProbe]
  | _ => exact ⟨rfl, rfl⟩

theorem readByte_other {state : GpsState F} {read : UartRead} (goes_on : read.byte ≠ ascii '\n') :
    state.readByte numbers read =
      if state.nmeaDiscarding ∨ read.byte = ascii '\r' then state.countChar
      else if read.byte = ascii '$' ∧ state.nmeaBuf ≠ [] then { state.countChar with nmeaBuf := [read.byte] }
      else if state.nmeaBuf.length < 127 then { state.countChar with nmeaBuf := state.nmeaBuf ++ [read.byte] }
      else { state.countChar with nmeaBuf := [], nmeaDiscarding := true } := by
  unfold GpsState.readByte GpsState.closesLine
  simp only [goes_on, beq_eq_false_iff_ne.mpr goes_on, Bool.false_and, if_false]
  rfl

theorem readByte_newline {state : GpsState F} {read : UartRead} (ends : read.byte = ascii '\n') :
    (state.readByte numbers read).nmeaBuf = [] ∧ (state.readByte numbers read).nmeaDiscarding = false := by
  unfold GpsState.readByte
  dsimp only
  split
  · rename_i closes
    obtain ⟨buffer, discarding⟩ := storeEpoch_buffer (state.countChar.processLine numbers read.parsedMs) read.checkedMs
    have kept : state.nmeaDiscarding = false := by
      simp only [GpsState.closesLine, Bool.and_eq_true, Bool.not_eq_true'] at closes
      exact closes.1.2
    rw [buffer, discarding]
    exact ⟨rfl, kept⟩
  · rename_i open_
    split
    · exact ⟨rfl, rfl⟩
    · rename_i kept
      have kept : state.nmeaDiscarding = false := Bool.eq_false_iff.mpr kept
      have empty : state.nmeaBuf = [] := by simpa [GpsState.closesLine, ends, GpsState.countChar, kept] using open_
      exact ⟨empty, kept⟩

theorem Framed.read {read : UartRead} (framed : Framed journal) : Framed (journal.step numbers (.read read)) := by
  have more := noReturns_append journal.wire read.byte
  by_cases ends : read.byte = ascii '\n'
  · obtain ⟨empty, kept⟩ := @readByte_newline F D numbers journal.state read ends
    simp only [Journal.step, if_pos ends]
    refine ⟨by simp [GpsState.step, empty], by simp [GpsState.step, kept], fun _ => ?_⟩
    simp only [GpsState.step, empty]
    exact FromDollar.nil
  · simp only [Journal.step, if_neg ends, GpsState.step, readByte_other ends]
    by_cases ignored : journal.state.nmeaDiscarding = true ∨ read.byte = ascii '\r'
    · rw [if_pos ignored]
      refine ⟨framed.inside, fun discarding => ?_, fun kept => ?_⟩
      · have long := framed.discards discarding
        rw [more]
        split
        · exact long
        · rw [List.length_append]
          omega
      · have returned : read.byte = ascii '\r' := ignored.resolve_left (by simpa [GpsState.countChar] using kept)
        rw [more, if_pos returned]
        exact framed.buffers kept
    · obtain ⟨kept, char⟩ := not_or.mp ignored
      rw [if_neg ignored]
      rw [if_neg char] at more
      have holds := framed.buffers (Bool.eq_false_iff.mpr kept)
      split
      · rename_i dollar
        refine ⟨by simp, fun discarding => absurd discarding kept, fun _ => ?_⟩
        rw [more, dollar.1]
        exact holds.restart
      · rename_i plain
        split
        · rename_i room
          refine ⟨?_, fun discarding => absurd discarding kept, fun _ => ?_⟩
          · simp only [List.length_append, List.length_singleton]
            omega
          · rw [more]
            exact holds.append fun dollar => by_contra fun filled => plain ⟨dollar, filled⟩
        · rename_i full
          refine ⟨by simp, fun _ => ?_, fun dropped => absurd dropped (by simp)⟩
          obtain ⟨noise, came, -, -⟩ := holds
          rw [more, came]
          simp only [List.length_append, List.length_singleton]
          omega

end Framing

section Soundness

variable {numbers : CNumbers F D} {journal : Journal F}

theorem checksum_ends {sentence : List UInt8} (valid : nmeaChecksumValid sentence = true) :
    ∃ body, sentence = ascii '$' :: body ∧ ChecksumEnds body := by
  unfold nmeaChecksumValid at valid
  split_ifs at valid with other
  obtain ⟨body, rfl⟩ := List.head?_eq_some_iff.mp (not_not.mp other)
  have begins : (ascii '$' :: body).dropWhile (· != ascii '*') = body.dropWhile (· != ascii '*') := rfl
  rw [begins] at valid
  split at valid
  · rename_i star high low left
    have stopped : (star != ascii '*') = false := by
      have first := List.head?_dropWhile_not (· != ascii '*') body
      rw [left] at first
      exact first
    have parts : body.takeWhile (· != ascii '*') ++ [star, high, low] = body := by
      rw [← left]
      exact List.takeWhile_append_dropWhile
    have marked : star = ascii '*' := by simpa using stopped
    simp only [Bool.and_eq_true, beq_iff_eq, List.tail_cons] at valid
    subst marked
    exact ⟨body, rfl, _, high, low, parts.symm, valid.1.1, valid.1.2, valid.2⟩
  · exact absurd valid (by simp)

theorem cText_eq {buffer : List UInt8} (nulFree : 0 ∉ buffer) : cText buffer = buffer := by
  unfold cText
  rw [List.takeWhile_eq_self_iff]
  intro c inside
  have other : c ≠ 0 := fun null => nulFree (null ▸ inside)
  simpa using other

theorem close_closed {read : UartRead} (closes : journal.state.countChar.closesLine read.byte = true) :
    journal.close numbers read = ⟨journal.wire, some (cText journal.state.nmeaBuf), journal.state.countChar,
      journal.state.countChar.processLine numbers read.parsedMs, read.checkedMs⟩ := by
  unfold Journal.close
  simp only [closes, if_true]
  rfl

theorem close_open {read : UartRead} (stays : journal.state.countChar.closesLine read.byte = false) :
    journal.close numbers read =
      ⟨journal.wire, none, journal.state.countChar, journal.state.countChar, read.checkedMs⟩ := by
  unfold Journal.close
  simp only [stays, Bool.false_eq_true, if_false]

theorem close_sound {read : UartRead} (framed : Framed journal) (nulFree : 0 ∉ journal.state.nmeaBuf)
    (ends : read.byte = ascii '\n') : (journal.close numbers read).Sound := by
  have closes_iff : journal.state.countChar.closesLine read.byte = true ↔
      journal.state.nmeaDiscarding = false ∧ journal.state.nmeaBuf ≠ [] := by
    simp [GpsState.closesLine, ends, GpsState.countChar]
  have plain {body : List UInt8} (line : PlainLine journal.wire body) :
      journal.state.nmeaDiscarding = false ∧ journal.state.nmeaBuf = ascii '$' :: body := by
    obtain ⟨came, short, single, -⟩ := line
    have kept : journal.state.nmeaDiscarding = false := by
      by_contra dropped
      have long := framed.discards (Bool.not_eq_false _ ▸ dropped)
      rw [came, List.length_cons] at long
      omega
    have holds := framed.buffers kept
    rw [came] at holds
    exact ⟨kept, holds.whole single⟩
  by_cases closes : journal.state.countChar.closesLine read.byte = true
  · rw [close_closed closes, cText_eq nulFree]
    constructor
    · intro accepted
      have valid : nmeaChecksumValid (cText journal.state.nmeaBuf) = true := GpsData.processNmea_checked accepted
      rw [cText_eq nulFree] at valid
      obtain ⟨body, whole, checked⟩ := checksum_ends valid
      obtain ⟨noise, came, single, -⟩ := framed.buffers (closes_iff.mp closes).1
      have inside := framed.inside
      rw [whole] at came single inside
      exact ⟨_, rfl, noise, body, came, single, Nat.lt_of_succ_le inside, checked, whole⟩
    · intro body line
      exact congrArg some (plain line).2
    · intro rejected
      exact GpsData.processNmea_rejected rejected
  · rw [close_open (Bool.eq_false_iff.mpr closes)]
    constructor
    · intro accepted
      exact accepted.elim (absurd rfl) (absurd rfl)
    · intro body line
      obtain ⟨kept, filled⟩ := plain line
      exact absurd (closes_iff.mpr ⟨kept, by simp [filled]⟩) closes
    · exact fun _ => rfl

theorem step_other {step : GpsStep} (other : ∀ read, step ≠ .read read) : journal.step numbers step =
    ⟨journal.state.step numbers step, if journal.restarts step then [] else journal.wire, journal.closed⟩ := by
  cases step with
  | read read => exact absurd rfl (other read)
  | _ => rfl

theorem Framed.step {step : GpsStep} (framed : Framed journal) : Framed (journal.step numbers step) := by
  by_cases reads : ∃ read, step = .read read
  · obtain ⟨read, rfl⟩ := reads
    exact framed.read
  · have other : ∀ read, step ≠ .read read := fun read same => reads ⟨read, same⟩
    obtain ⟨buffer, discarding⟩ := @step_buffer F D numbers journal step other
    rw [step_other other]
    by_cases restarts : journal.restarts step = true
    · simp only [restarts, if_true] at buffer discarding ⊢
      constructor
      · simp [buffer]
      · simp [discarding]
      · intro _
        simp only [buffer]
        exact FromDollar.nil
    · simp only [restarts, if_false, Bool.false_eq_true] at buffer discarding ⊢
      constructor
      · simpa only [buffer] using framed.inside
      · simpa only [discarding] using framed.discards
      · simpa only [buffer, discarding] using framed.buffers

theorem lines_sound {step : GpsStep} (framed : Framed journal) (sound : ∀ line ∈ journal.closed, line.Sound)
    (free : NulFree journal step) : ∀ line ∈ (journal.step numbers step).closed, line.Sound := by
  by_cases reads : ∃ read, step = .read read
  · obtain ⟨read, rfl⟩ := reads
    by_cases ends : read.byte = ascii '\n'
    · simp only [Journal.step, if_pos ends]
      intro line logged
      rcases List.mem_append.mp logged with earlier | last
      · exact sound line earlier
      · rw [List.mem_singleton.mp last]
        exact close_sound framed (free ends) ends
    · simp only [Journal.step, if_neg ends]
      exact sound
  · rw [step_other fun read same => reads ⟨read, same⟩]
    exact sound

theorem Framed.boot : Framed (.boot numbers) where
  inside := Nat.zero_le _
  discards := nofun
  buffers _ := FromDollar.nil

/-- In a run in which no newline finds a NUL in the buffer every line is taken as it should be. -/
theorem nmea_intake_sound {steps : List GpsStep}
    (nulFree : Along (Journal.step numbers) NulFree (.boot numbers) steps) :
    IntakeSound (run (Journal.step numbers) (.boot numbers) steps) := by
  let inv (journal : Journal F) : Prop := Framed journal ∧ ∀ line ∈ journal.closed, line.Sound
  have booted : inv (.boot numbers) := ⟨Framed.boot, fun _ logged => absurd logged List.not_mem_nil⟩
  have kept : ∀ journal step, inv journal → NulFree journal step → inv (journal.step numbers step) :=
    fun journal step holds free => ⟨holds.1.step, lines_sound holds.1 holds.2 free⟩
  have held : inv (run (Journal.step numbers) (.boot numbers) steps) := run_invariant_along inv booted kept nulFree
  exact ⟨held.1.inside, held.2⟩

theorem nulFree_step {step : GpsStep} (free : 0 ∉ journal.state.nmeaBuf)
    (clean : ∀ read, step = .read read → read.byte ≠ 0) : 0 ∉ (journal.step numbers step).state.nmeaBuf := by
  by_cases reads : ∃ read, step = .read read
  · obtain ⟨read, rfl⟩ := reads
    have char : 0 ≠ read.byte := (clean read rfl).symm
    have same : (journal.step numbers (.read read)).state = journal.state.readByte numbers read := by
      simp only [Journal.step, GpsState.step]
      split <;> rfl
    rw [same]
    by_cases ends : read.byte = ascii '\n'
    · simp [(readByte_newline ends).1]
    · rw [readByte_other ends]
      split
      · exact free
      split
      · simpa using char
      split
      · simpa using ⟨free, char⟩
      · simp
  · have other : ∀ read, step ≠ .read read := fun read same => reads ⟨read, same⟩
    rw [step_other other, (step_buffer other).1]
    split
    · simp
    · exact free

theorem intake_without_nul {steps : List GpsStep} (clean : ∀ step ∈ steps, ∀ read, step = .read read → read.byte ≠ 0) :
    Along (Journal.step numbers) NulFree (.boot numbers) steps := by
  refine (along_of_invariant (fun journal => 0 ∉ journal.state.nmeaBuf) List.not_mem_nil ?_ ?_).1
  · intro journal free step
    cases step with
    | read read => exact fun _ => free
    | _ => trivial
  · exact fun journal step listed free => nulFree_step free (clean step listed)

end Soundness

section Nul

def noNumbers : CNumbers Unit Unit where
  zero := ()
  strtof _ := ((), [])
  isFinite _ := true
  atLeast360 _ := false
  negate _ := ()
  strtod _ := ((), [])
  isFiniteD _ := true
  ofUnsigned _ := ()
  add _ _ := ()
  sub _ _ := ()
  div _ _ := ()
  less _ _ := false
  atLeast _ _ := false
  equal _ _ := true
  toFloat _ := ()
  atoi _ := 0

/-- A void RMC, which has no number to convert. -/
def voidRmc : List UInt8 := "$GPRMC,000000,V,,,,,,,010120*33".toList.map ascii

def reading (bytes : List UInt8) : List GpsStep := bytes.map fun byte => .read ⟨byte, 0, 0⟩

/-- The sentence is followed by a return and a newline. -/
theorem voidRmc_sound :
    IntakeSound (run (Journal.step noNumbers) (.boot noNumbers) (reading (voidRmc ++ [ascii '\r', ascii '\n']))) := by
  apply nmea_intake_sound
  apply intake_without_nul
  intro step listed read same
  obtain ⟨byte, sent, rfl⟩ := List.mem_map.mp listed
  cases same
  have clean : 0 ∉ voidRmc ++ [ascii '\r', ascii '\n'] := by decide
  exact fun null => clean (null ▸ sent)

/-- A line that goes on behind a NUL is taken for the sentence in front of it. -/
theorem nulLine_parsed : ¬ ∀ steps, IntakeSound (run (Journal.step noNumbers) (.boot noNumbers) steps) := by
  intro sound
  have lines := (sound (reading (voidRmc ++ [0, ascii 'x', ascii '\n']))).lines
  have logged : ((run (Journal.step noNumbers) (.boot noNumbers)
      (reading (voidRmc ++ [0, ascii 'x', ascii '\n']))).closed.map fun line =>
        (line.handed, line.before.gps.rmcSentences, line.after.gps.rmcSentences, line.wire)) =
          [(some voidRmc, 0, 1, voidRmc ++ [0, ascii 'x'])] := by decide +kernel
  obtain ⟨line, only, facts⟩ := List.map_eq_singleton_iff.mp logged
  obtain ⟨handed, before, after, wire⟩ : line.handed = some voidRmc ∧ line.before.gps.rmcSentences = 0 ∧
      line.after.gps.rmcSentences = 1 ∧ line.wire = voidRmc ++ [0, ascii 'x'] := by simpa using facts
  have member := only ▸ List.mem_singleton_self line
  obtain ⟨sentence, parsed, noise, body, came, -, -, -, whole⟩ :=
    (lines line member).whole (Or.inr (by rw [after, before]; decide))
  rw [← whole, wire, ← Option.some.inj (handed.symm.trans parsed)] at came
  have lasts := congrArg List.getLast? came
  have digit : voidRmc.getLast? = some (ascii '3') := by decide
  have char : (noReturns (voidRmc ++ [0, ascii 'x'])).getLast? = some (ascii 'x') := by decide
  rw [List.getLast?_append, digit, char] at lasts
  exact absurd (Option.some.inj lasts) (by decide)

end Nul

end SigurdOS.Hal.Gps
