import Mathlib.Data.Nat.Basic
import Mathlib.Order.Basic
import SigurdOS.Library.Runs
import SigurdOS.Library.WrappedTime

namespace SigurdOS.Ui

open WrappedTime

structure PinGateState where
  failures : UInt8
  failureAtMs : UInt32
  lockoutMs : UInt32
  lastUnlockMs : UInt32
  deriving DecidableEq

/-- The value `PinGateState{}`. -/
def PinGateState.fresh : PinGateState := ⟨0, 0, 0, 0⟩

def pinFailureDelays : List UInt32 := [0, 1000, 5000, 30000, 60000, 300000]

def pinFailureDelay (failures : UInt8) : UInt32 :=
  if failures = 0 then 0
  else
    let requested := failures.toNat - 1
    let count := pinFailureDelays.length
    let index := if requested < count then requested else count - 1
    pinFailureDelays.getD index 0

namespace PinGateState

variable (state : PinGateState)

def locked (now : UInt32) : Bool := state.lockoutMs ≠ 0 ∧ now - state.failureAtMs < state.lockoutMs

def remaining (now : UInt32) : UInt32 :=
  if !state.locked now then 0 else state.lockoutMs - (now - state.failureAtMs)

def recordFailure (now : UInt32) : PinGateState :=
  let failures := if state.failures < 255 then state.failures + 1 else state.failures
  { state with failures, failureAtMs := now, lockoutMs := pinFailureDelay failures }

def recordSuccess (now : UInt32) : PinGateState := ⟨0, 0, 0, if now = 0 then 1 else now⟩

def graceActive (now graceMs : UInt32) : Bool := state.lastUnlockMs ≠ 0 ∧ now - state.lastUnlockMs < graceMs

def clearGrace : PinGateState := { state with lastUnlockMs := 0 }

end PinGateState

inductive PinGateCall where
  | recordFailure
  | recordSuccess
  | clearGrace

structure PinGateUptime where
  gate : PinGateState
  now : Nat

/-- A call some milliseconds after the previous one. -/
def PinGateUptime.step (device : PinGateUptime) (event : Nat × PinGateCall) : PinGateUptime :=
  let now := device.now + event.1
  match event.2 with
  | .recordFailure => ⟨device.gate.recordFailure (stamp now), now⟩
  | .recordSuccess => ⟨.recordSuccess (stamp now), now⟩
  | .clearGrace => ⟨device.gate.clearGrace, now⟩

/-- In real time: how many failures followed the last success and when the latest of them was, and the last success
unless the grace was cleared since. -/
structure PinGateHistory where
  now : Nat
  failures : Nat
  failedAt : Nat
  unlockedAt : Option Nat

def PinGateHistory.step (history : PinGateHistory) (event : Nat × PinGateCall) : PinGateHistory :=
  let now := history.now + event.1
  match event.2 with
  | .recordFailure => ⟨now, history.failures + 1, now, history.unlockedAt⟩
  | .recordSuccess => ⟨now, 0, history.failedAt, some now⟩
  | .clearGrace => ⟨now, history.failures, history.failedAt, none⟩

def failureDelayMs (count : Nat) : Nat := (pinFailureDelay (UInt8.ofNat (min count 255))).toNat

/-- The instant that a success is noted at: a millisecond later where its stamp is zero. -/
def graceStart (unlocked : Nat) : Nat := if unlocked % 2 ^ 32 = 0 then unlocked + 1 else unlocked

theorem graceStart_le (unlocked : Nat) : graceStart unlocked ≤ unlocked + 1 := by
  unfold graceStart
  split <;> omega

theorem le_graceStart (unlocked : Nat) : unlocked ≤ graceStart unlocked := by
  unfold graceStart
  split <;> omega

theorem stamp_eq_zero (time : Nat) : stamp time = 0 ↔ time % 2 ^ 32 = 0 := by
  rw [← UInt32.toNat_inj, UInt32.toNat_ofNat', UInt32.toNat_zero]

theorem stamp_graceStart (unlocked : Nat) :
    stamp (graceStart unlocked) = if stamp unlocked = 0 then 1 else stamp unlocked := by
  unfold graceStart
  simp only [stamp_eq_zero]
  split
  · next wrapped =>
    apply UInt32.toNat.inj
    rw [UInt32.toNat_ofNat', UInt32.toNat_one]
    omega
  · rfl

theorem stamp_graceStart_ne (unlocked : Nat) : stamp (graceStart unlocked) ≠ 0 := by
  rw [Ne, stamp_eq_zero]
  unfold graceStart
  split <;> omega

namespace PinGateState

variable {state : PinGateState}

theorem locked_iff {failed time : Nat} (stamped : state.failureAtMs = stamp failed) (ordered : failed ≤ time) :
    state.locked (stamp time) = true ↔ (time - failed) % 2 ^ 32 < state.lockoutMs.toNat := by
  have elapsed := elapsed_toNat ordered
  rw [locked, decide_eq_true_iff, stamped, UInt32.lt_iff_toNat_lt, elapsed]
  constructor
  · exact And.right
  · intro early
    refine ⟨fun none => ?_, early⟩
    rw [none] at early
    exact Nat.not_lt_zero _ early

theorem locked_none (now : UInt32) (none : state.lockoutMs = 0) : state.locked now = false := by
  simp [locked, none]

theorem graceActive_iff {unlocked time : Nat} (graceMs : UInt32)
    (stamped : state.lastUnlockMs = stamp (graceStart unlocked)) (ordered : graceStart unlocked ≤ time) :
    state.graceActive (stamp time) graceMs = true ↔ (time - graceStart unlocked) % 2 ^ 32 < graceMs.toNat := by
  have elapsed := elapsed_toNat ordered
  have noted := stamp_graceStart_ne unlocked
  rw [graceActive, decide_eq_true_iff, stamped, UInt32.lt_iff_toNat_lt, elapsed]
  exact and_iff_right noted

theorem graceActive_cleared (now graceMs : UInt32) (cleared : state.lastUnlockMs = 0) :
    state.graceActive now graceMs = false := by
  simp [graceActive, cleared]

theorem recordFailure_failures {count : Nat} (now : UInt32)
    (counted : state.failures = UInt8.ofNat (min count 255)) :
    (state.recordFailure now).failures = UInt8.ofNat (min (count + 1) 255) := by
  have value : state.failures.toNat = min count 255 := by
    rw [counted, UInt8.toNat_ofNat']
    omega
  have below : state.failures < 255 ↔ count < 255 := by
    rw [UInt8.lt_iff_toNat_lt, value]
    change min count 255 < 255 ↔ _
    omega
  simp only [recordFailure, below]
  apply UInt8.toNat.inj
  split
  · rw [UInt8.toNat_add, value, UInt8.toNat_one, UInt8.toNat_ofNat']
    omega
  · rw [value, UInt8.toNat_ofNat']
    omega

end PinGateState

structure GateTracks (device : PinGateUptime) (history : PinGateHistory) : Prop where
  now : device.now = history.now
  counted : device.gate.failures = UInt8.ofNat (min history.failures 255)
  lockout : device.gate.lockoutMs = pinFailureDelay (UInt8.ofNat (min history.failures 255))
  failed : 0 < history.failures → device.gate.failureAtMs = stamp history.failedAt ∧ history.failedAt ≤ history.now
  cleared : history.unlockedAt = none → device.gate.lastUnlockMs = 0
  unlocked : ∀ time, history.unlockedAt = some time →
    device.gate.lastUnlockMs = stamp (graceStart time) ∧ time ≤ history.now

def PinGateUptime.started : PinGateUptime := ⟨.fresh, 0⟩

def PinGateHistory.started : PinGateHistory := ⟨0, 0, 0, none⟩

theorem GateTracks.started : GateTracks .started .started where
  now := rfl
  counted := rfl
  lockout := rfl
  failed := nofun
  cleared _ := rfl
  unlocked := nofun

theorem GateTracks.step {device : PinGateUptime} {history : PinGateHistory} (tracks : GateTracks device history)
    (event : Nat × PinGateCall) : GateTracks (device.step event) (history.step event) := by
  obtain ⟨delay, call⟩ := event
  have now : device.now + delay = history.now + delay := congrArg (· + delay) tracks.now
  have kept (time : Nat) (known : history.unlockedAt = some time) :
      device.gate.lastUnlockMs = stamp (graceStart time) ∧ time ≤ history.now + delay := by
    obtain ⟨noted, past⟩ := tracks.unlocked time known
    exact ⟨noted, past.trans (Nat.le_add_right _ _)⟩
  cases call with
  | recordFailure =>
    have counted := PinGateState.recordFailure_failures (stamp (device.now + delay)) tracks.counted
    exact {
      now
      counted
      lockout := congrArg pinFailureDelay counted
      failed _ := ⟨congrArg stamp now, le_rfl⟩
      cleared := tracks.cleared
      unlocked := kept }
  | recordSuccess =>
    exact {
      now
      counted := rfl
      lockout := rfl
      failed := nofun
      cleared := nofun
      unlocked time known := by
        obtain rfl : history.now + delay = time := Option.some.inj known
        rw [stamp_graceStart, ← now]
        exact ⟨rfl, now.le⟩ }
  | clearGrace =>
    exact {
      now
      counted := tracks.counted
      lockout := tracks.lockout
      failed some := by
        obtain ⟨noted, past⟩ := tracks.failed some
        exact ⟨noted, past.trans (Nat.le_add_right _ _)⟩
      cleared _ := rfl
      unlocked := nofun }

def gateAfter (events : List (Nat × PinGateCall)) : PinGateUptime := Runs.run PinGateUptime.step .started events

def gateHistory (events : List (Nat × PinGateCall)) : PinGateHistory := Runs.run PinGateHistory.step .started events

theorem gate_tracks (events : List (Nat × PinGateCall)) : GateTracks (gateAfter events) (gateHistory events) := by
  suffices run : ∀ device history, GateTracks device history →
      GateTracks (Runs.run PinGateUptime.step device events) (Runs.run PinGateHistory.step history events) from
    run _ _ .started
  induction events with
  | nil => exact fun _ _ tracks => tracks
  | cons event rest ih => exact fun _ _ tracks => ih _ _ (tracks.step event)

section Timing

variable (events : List (Nat × PinGateCall)) (wait : Nat) (graceMs : UInt32)

def gateTime : Nat := (gateHistory events).now + wait

/-- What the gate answers some milliseconds after the last call, in real time. -/
structure GateTiming : Prop where
  grace : (gateAfter events).gate.graceActive (stamp (gateTime events wait)) graceMs = true →
    ∃ unlocked, (gateHistory events).unlockedAt = some unlocked ∧
      gateTime events wait < unlocked + (graceMs.toNat + 1)
  locked : 0 < (gateHistory events).failures →
    gateTime events wait < (gateHistory events).failedAt + failureDelayMs (gateHistory events).failures →
      (gateAfter events).gate.locked (stamp (gateTime events wait)) = true
  released : (0 < (gateHistory events).failures →
    (gateHistory events).failedAt + failureDelayMs (gateHistory events).failures ≤ gateTime events wait) →
      (gateAfter events).gate.locked (stamp (gateTime events wait)) = false

/-- No period that lapsed is open again: from one cycle of the clock on, the time since its start modulo the cycle is
at least its length. -/
structure PeriodsLapsed : Prop where
  grace : ∀ unlocked, (gateHistory events).unlockedAt = some unlocked →
    graceStart unlocked + 2 ^ 32 ≤ gateTime events wait →
      graceMs.toNat ≤ (gateTime events wait - graceStart unlocked) % 2 ^ 32
  lockout : 0 < (gateHistory events).failures → (gateHistory events).failedAt + 2 ^ 32 ≤ gateTime events wait →
    failureDelayMs (gateHistory events).failures ≤
      (gateTime events wait - (gateHistory events).failedAt) % 2 ^ 32

variable {events wait}

theorem grace_only_iff {unlocked : Nat} (known : (gateHistory events).unlockedAt = some unlocked) :
    ((gateAfter events).gate.graceActive (stamp (gateTime events wait)) graceMs = true →
      gateTime events wait < unlocked + (graceMs.toNat + 1)) ↔
    (graceStart unlocked + 2 ^ 32 ≤ gateTime events wait →
      graceMs.toNat ≤ (gateTime events wait - graceStart unlocked) % 2 ^ 32) := by
  obtain ⟨noted, past⟩ := (gate_tracks events).unlocked unlocked known
  have reached : unlocked ≤ gateTime events wait := past.trans (Nat.le_add_right _ _)
  have bound := graceMs.toNat_lt
  have late := graceStart_le unlocked
  have early := le_graceStart unlocked
  by_cases begun : graceStart unlocked ≤ gateTime events wait
  · rw [PinGateState.graceActive_iff graceMs noted begun]
    omega
  · constructor
    · intro _ cycle
      omega
    · intro _ _
      omega

theorem locked_now_iff (some : 0 < (gateHistory events).failures) :
    (gateAfter events).gate.locked (stamp (gateTime events wait)) = true ↔
      (gateTime events wait - (gateHistory events).failedAt) % 2 ^ 32 <
        failureDelayMs (gateHistory events).failures := by
  have tracks := gate_tracks events
  obtain ⟨noted, past⟩ := tracks.failed some
  have reached : (gateHistory events).failedAt ≤ gateTime events wait := past.trans (Nat.le_add_right _ _)
  rw [PinGateState.locked_iff noted reached, tracks.lockout, failureDelayMs]

variable (events wait)

theorem pin_gate_timing_iff : GateTiming events wait graceMs ↔ PeriodsLapsed events wait graceMs := by
  have short := (pinFailureDelay (UInt8.ofNat (min (gateHistory events).failures 255))).toNat_lt
  have reached (some : 0 < (gateHistory events).failures) : (gateHistory events).failedAt ≤ gateTime events wait :=
    ((gate_tracks events).failed some).2.trans (Nat.le_add_right _ _)
  constructor
  · intro timing
    constructor
    · intro unlocked known
      rw [← grace_only_iff graceMs known]
      intro active
      obtain ⟨time, same, recent⟩ := timing.grace active
      obtain rfl : unlocked = time := Option.some.inj (known.symm.trans same)
      exact recent
    · intro some cycle
      have open_again := (locked_now_iff some).not.mp
        (Bool.eq_false_iff.mp (timing.released fun _ => by unfold failureDelayMs; omega))
      exact Nat.not_lt.mp open_again
  · intro lapsed
    refine ⟨?grace, ?locked, ?released⟩
    case grace =>
      intro active
      cases known : (gateHistory events).unlockedAt with
      | none =>
        have cleared := (gate_tracks events).cleared known
        rw [PinGateState.graceActive_cleared _ _ cleared] at active
        cases active
      | some unlocked => exact ⟨unlocked, rfl, (grace_only_iff graceMs known).mpr (lapsed.grace unlocked known) active⟩
    case locked =>
      intro some early
      have known := reached some
      rw [locked_now_iff some]
      unfold failureDelayMs at *
      omega
    case released =>
      intro late
      rcases Nat.eq_zero_or_pos (gateHistory events).failures with none | some
      · apply PinGateState.locked_none
        rw [(gate_tracks events).lockout, none]
        rfl
      · have known := reached some
        have outside := lapsed.lockout some
        have ended := late some
        rw [Bool.eq_false_iff, Ne, locked_now_iff some]
        omega

end Timing

/-- Fifty days after an unlock, with nothing since, the pages behind the gate open without a PIN again. -/
theorem lapsedGrace_opens : ¬ GateTiming [(5, .recordSuccess)] (2 ^ 32) 300000 := by
  intro timing
  obtain ⟨unlocked, known, recent⟩ := timing.grace (by decide +kernel)
  have noted :
    unlocked = 5 := by simpa [gateHistory, Runs.run, PinGateHistory.step, PinGateHistory.started] using known.symm
  have time : gateTime [(5, .recordSuccess)] (2 ^ 32) = 2 ^ 32 + 5 := rfl
  have limit : (300000 : UInt32).toNat = 300000 := rfl
  omega

end SigurdOS.Ui
