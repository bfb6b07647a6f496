import Mathlib.Data.Fintype.Pi
import Mathlib.Data.List.FinRange
import Mathlib.Logic.Function.Basic
import Mathlib.Tactic.IntervalCases
import SigurdOS.Library.Runs
import SigurdOS.Library.SlotTable
import SigurdOS.Library.WrappedTime

namespace SigurdOS.Comms

open WrappedTime

def bleAuthBackoffBaseMs : UInt32 := 1000

def bleAuthBackoffMaxMs : UInt32 := 5 * 60 * 1000

def blePairingWindowMs : UInt32 := 2 * 60 * 1000

abbrev BlePeerAddress := BitVec 48

structure PeerState where
  address : BlePeerAddress
  blockedUntilMs : UInt32
  failures : UInt8
  used : Bool
  deriving DecidableEq

/-- The value `PeerState{}`. -/
def PeerState.fresh : PeerState := ⟨0, 0, 0, false⟩

structure BleAuthThrottle where
  peers : Fin 4 → PeerState
  blockedUntilMs : UInt32
  pairingDeadlineMs : UInt32
  globalFailures : UInt8
  pairingWindowIsOpen : Bool

namespace BleAuthThrottle

def reset : BleAuthThrottle := ⟨fun _ => .fresh, 0, 0, 0, false⟩

def before (nowMs deadlineMs : UInt32) : Bool := (nowMs - deadlineMs).toInt32 < 0

def openPairingWindow (nowMs : UInt32) : BleAuthThrottle :=
  { reset with pairingDeadlineMs := nowMs + blePairingWindowMs, pairingWindowIsOpen := true }

def maxCount (a b : UInt8) : UInt8 := if a > b then a else b

variable (throttle : BleAuthThrottle)

def pairingWindowOpen (nowMs : UInt32) : Bool :=
  throttle.pairingWindowIsOpen && before nowMs throttle.pairingDeadlineMs

def blocked (nowMs : UInt32) : Bool := throttle.globalFailures > 0 && before nowMs throttle.blockedUntilMs

def slotOf? (peer : BlePeerAddress) : Option (Fin 4) :=
  (List.finRange 4).find? fun slot => (throttle.peers slot).used && (throttle.peers slot).address == peer

def find (peer : BlePeerAddress) : Option PeerState := (throttle.slotOf? peer).map throttle.peers

def peerFailureCount (peer : BlePeerAddress) : UInt8 :=
  match throttle.find peer with
  | some state => state.failures
  | none => 0

def attemptAllowed (peer : BlePeerAddress) (knownBond : Bool) (nowMs : UInt32) : Bool :=
  if throttle.blocked nowMs then false
  else
    match throttle.find peer with
    | some state =>
      if state.failures > 0 ∧ before nowMs state.blockedUntilMs then false
      else knownBond || throttle.pairingWindowOpen nowMs
    | none => knownBond || throttle.pairingWindowOpen nowMs

section Victim

local instance fourPeers : NeZero 4 := ⟨by decide⟩

def victim : Fin 4 :=
  [1, 2, 3].foldl
    (fun victim slot => if (throttle.peers slot).failures < (throttle.peers victim).failures then slot else victim) 0

end Victim

def findOrReplace (peer : BlePeerAddress) : (Fin 4 → PeerState) × Fin 4 :=
  match throttle.slotOf? peer with
  | some slot => (throttle.peers, slot)
  | none =>
    match (List.finRange 4).find? fun slot => !(throttle.peers slot).used with
    | some slot =>
      (Function.update throttle.peers slot { throttle.peers slot with used := true, address := peer }, slot)
    | none =>
      (Function.update throttle.peers throttle.victim { PeerState.fresh with used := true, address := peer },
        throttle.victim)

def doubleDelay : Nat → UInt32 → UInt32
  | 0, delay => delay
  | remaining + 1, delay =>
    if delay < bleAuthBackoffMaxMs then
      doubleDelay remaining (if delay > bleAuthBackoffMaxMs / 2 then bleAuthBackoffMaxMs else delay * 2)
    else delay

def backoffDelay (exponent : UInt8) : UInt32 :=
  let delay := doubleDelay exponent.toNat bleAuthBackoffBaseMs
  if delay > bleAuthBackoffMaxMs then bleAuthBackoffMaxMs else delay

def countFailure (failures : UInt8) : UInt8 := if failures < 31 then failures + 1 else failures

def recordFailure (peer : BlePeerAddress) (nowMs : UInt32) : UInt32 × BleAuthThrottle :=
  let globalFailures := countFailure throttle.globalFailures
  let (peers, slot) := throttle.findOrReplace peer
  let failures := countFailure (peers slot).failures
  let delay := backoffDelay (maxCount globalFailures failures - 1)
  let blockedUntilMs := nowMs + delay
  (delay,
    { throttle with
      globalFailures, blockedUntilMs
      peers := Function.update peers slot { peers slot with failures, blockedUntilMs } })

def recordSuccess : BleAuthThrottle := reset

end BleAuthThrottle

inductive ThrottleCall where
  | openPairingWindow
  | recordFailure (peer : BlePeerAddress)
  | recordSuccess
  | reset

structure Uptime where
  throttle : BleAuthThrottle
  now : Nat

def started : Uptime := ⟨.reset, 0⟩

/-- A call some milliseconds after the previous one. -/
def Uptime.step (device : Uptime) (event : Nat × ThrottleCall) : Uptime :=
  let now := device.now + event.1
  match event.2 with
  | .openPairingWindow => ⟨.openPairingWindow (stamp now), now⟩
  | .recordFailure peer => ⟨(device.throttle.recordFailure peer (stamp now)).2, now⟩
  | .recordSuccess => ⟨.recordSuccess, now⟩
  | .reset => ⟨.reset, now⟩

/-- What happened, in real time: the window opened and not closed since, the failures since the last reset, the
newest first. -/
structure History where
  now : Nat
  openedAt : Option Nat
  failures : List (BlePeerAddress × Nat)

def History.step (history : History) (event : Nat × ThrottleCall) : History :=
  let now := history.now + event.1
  match event.2 with
  | .openPairingWindow => ⟨now, some now, []⟩
  | .recordFailure peer => ⟨now, history.openedAt, (peer, now) :: history.failures⟩
  | .recordSuccess => ⟨now, none, []⟩
  | .reset => ⟨now, none, []⟩

def backoffMs (count : Nat) : Nat := min (1000 * 2 ^ (min count 31 - 1)) 300000

def deadlineOf (peer : BlePeerAddress) : List (BlePeerAddress × Nat) → Option Nat
  | [] => none
  | (failed, time) :: earlier =>
    if failed = peer then some (time + backoffMs (earlier.length + 1)) else deadlineOf peer earlier

namespace BleAuthThrottle

theorem backoffDelay_toNat {count : Nat} (positive : 0 < count) (small : count ≤ 31) :
    (backoffDelay (UInt8.ofNat count - 1)).toNat = min (1000 * 2 ^ (count - 1)) 300000 := by
  interval_cases count <;> rfl

theorem countFailure_toNat (failures : UInt8) :
    (countFailure failures).toNat = if failures.toNat < 31 then failures.toNat + 1 else failures.toNat := by
  have compared : failures < 31 ↔ failures.toNat < 31 := UInt8.lt_iff_toNat_lt
  unfold countFailure
  simp only [compared]
  split
  · next below =>
    rw [UInt8.toNat_add, UInt8.toNat_one]
    exact Nat.mod_eq_of_lt (by omega)
  · rfl

theorem countFailure_saturates {failures : UInt8} {count : Nat} (counted : failures.toNat = min count 31) :
    (countFailure failures).toNat = min (count + 1) 31 := by
  rw [countFailure_toNat]
  split <;> omega

theorem countFailure_le {failures bound : UInt8} (bounded : failures ≤ bound) :
    countFailure failures ≤ countFailure bound := by
  rw [UInt8.le_iff_toNat_le] at *
  rw [countFailure_toNat, countFailure_toNat]
  split <;> split <;> omega

theorem le_countFailure (failures : UInt8) : failures ≤ countFailure failures := by
  rw [UInt8.le_iff_toNat_le, countFailure_toNat]
  split <;> omega

theorem countFailure_pos (failures : UInt8) : 0 < countFailure failures := by
  rw [UInt8.lt_iff_toNat_lt, countFailure_toNat, UInt8.toNat_zero]
  split <;> omega

theorem maxCount_of_le {a b : UInt8} (ordered : b ≤ a) : maxCount a b = a := by
  unfold maxCount
  split
  · rfl
  · next notGreater => exact (UInt8.le_antisymm ordered (UInt8.not_lt.mp notGreater))

variable {throttle : BleAuthThrottle} {peer : BlePeerAddress}

theorem recordFailure_fst (now : UInt32) : (throttle.recordFailure peer now).1 =
    backoffDelay (maxCount (countFailure throttle.globalFailures)
      (countFailure ((throttle.findOrReplace peer).1 (throttle.findOrReplace peer).2).failures) - 1) := rfl

theorem recordFailure_snd (now : UInt32) : (throttle.recordFailure peer now).2 =
    { throttle with
      globalFailures := countFailure throttle.globalFailures
      blockedUntilMs := now + (throttle.recordFailure peer now).1
      peers := Function.update (throttle.findOrReplace peer).1 (throttle.findOrReplace peer).2
        { (throttle.findOrReplace peer).1 (throttle.findOrReplace peer).2 with
          failures := countFailure ((throttle.findOrReplace peer).1 (throttle.findOrReplace peer).2).failures
          blockedUntilMs := now + (throttle.recordFailure peer now).1 } } := rfl

theorem slotOf?_some {slot : Fin 4} (found : throttle.slotOf? peer = some slot) :
    (throttle.peers slot).used = true ∧ (throttle.peers slot).address = peer := by
  simpa using List.find?_some found

theorem slotOf?_none (absent : throttle.slotOf? peer = none) (slot : Fin 4)
    (used : (throttle.peers slot).used = true) : (throttle.peers slot).address ≠ peer := by
  have refused := List.find?_eq_none.mp absent slot (List.mem_finRange slot)
  simpa [used] using refused

def Distinct (peers : Fin 4 → PeerState) : Prop :=
  ∀ one other, (peers one).used = true → (peers other).used = true →
    (peers one).address = (peers other).address → one = other

/-- The slot belongs to the peer, counts no more failures than the table allowed, and no other slot changed. -/
structure SlotTaken (before after : Fin 4 → PeerState) (peer : BlePeerAddress) (slot : Fin 4) (most : UInt8) :
    Prop where
  used : (after slot).used = true
  address : (after slot).address = peer
  bounded : (after slot).failures ≤ most
  others : ∀ other, other ≠ slot → after other = before other
  foreign : ∀ other, other ≠ slot → (before other).used = true → (before other).address ≠ peer

theorem SlotTaken.update {peers : Fin 4 → PeerState} {slot : Fin 4} {most : UInt8} {state : PeerState}
    (used : state.used = true) (address : state.address = peer) (bounded : state.failures ≤ most)
    (foreign : ∀ other, (peers other).used = true → (peers other).address ≠ peer) :
    SlotTaken peers (Function.update peers slot state) peer slot most where
  used := by simpa using used
  address := by simpa using address
  bounded := by simpa using bounded
  others other different := Function.update_of_ne different _ _
  foreign other _ := foreign other

theorem SlotTaken.distinct {before after : Fin 4 → PeerState} {slot : Fin 4} {most failures : UInt8} {time : UInt32}
    (taken : SlotTaken before after peer slot most) (distinct : Distinct before) :
    Distinct (Function.update after slot { after slot with failures := failures, blockedUntilMs := time }) := by
  have same : Function.update after slot { after slot with failures := failures, blockedUntilMs := time } =
      Function.update before slot { after slot with failures := failures, blockedUntilMs := time } := by
    funext other
    by_cases here : other = slot
    · rw [here, Function.update_self, Function.update_self]
    · rw [Function.update_of_ne here, Function.update_of_ne here, taken.others other here]
  have table : SlotTable.Distinct PeerState.used PeerState.address before := distinct
  rw [same]
  apply table.update
  intro other different used
  rw [taken.address]
  exact taken.foreign other different used

theorem findOrReplace_taken {most : UInt8} (distinct : Distinct throttle.peers)
    (bounded : ∀ slot, (throttle.peers slot).failures ≤ most) :
    SlotTaken throttle.peers (throttle.findOrReplace peer).1 peer (throttle.findOrReplace peer).2 most := by
  unfold findOrReplace
  cases found : throttle.slotOf? peer with
  | some slot =>
    have owned := slotOf?_some found
    refine ⟨owned.1, owned.2, bounded slot, fun _ _ => rfl, fun other different used same => different ?_⟩
    exact distinct other slot used owned.1 (same.trans owned.2.symm)
  | none =>
    have foreign := slotOf?_none found
    cases (List.finRange 4).find? fun slot => !(throttle.peers slot).used with
    | some slot => exact .update rfl rfl (bounded slot) foreign
    | none => exact .update rfl rfl (UInt8.le_iff_toNat_le.mpr (Nat.zero_le _)) foreign

end BleAuthThrottle

open BleAuthThrottle

theorem backoffMs_le (count : Nat) : backoffMs count ≤ 300000 := min_le_right _ _

theorem backoffMs_mono {fewer more : Nat} (ordered : fewer ≤ more) : backoffMs fewer ≤ backoffMs more := by
  unfold backoffMs
  have exponents : min fewer 31 - 1 ≤ min more 31 - 1 := by omega
  have powers := Nat.pow_le_pow_right (n := 2) (by decide) exponents
  exact min_le_min (Nat.mul_le_mul_left 1000 powers) le_rfl

structure Remembers (state : PeerState) (failures : List (BlePeerAddress × Nat)) (most : UInt8) : Prop where
  counted : 0 < state.failures
  bounded : state.failures ≤ most
  deadline : ∃ time, deadlineOf state.address failures = some time ∧ state.blockedUntilMs = stamp time

theorem Remembers.afterOther {state : PeerState} {failures : List (BlePeerAddress × Nat)} {most : UInt8}
    {peer : BlePeerAddress} {time : Nat} (remembers : Remembers state failures most) (foreign : state.address ≠ peer) :
    Remembers state ((peer, time) :: failures) (countFailure most) where
  counted := remembers.counted
  bounded := UInt8.le_trans remembers.bounded (le_countFailure most)
  deadline := by
    obtain ⟨deadline, known, stamped⟩ := remembers.deadline
    refine ⟨deadline, ?_, stamped⟩
    rw [deadlineOf, if_neg (Ne.symm foreign), known]

structure Tracks (device : Uptime) (history : History) : Prop where
  now : device.now = history.now
  closed : history.openedAt = none → device.throttle.pairingWindowIsOpen = false
  opened : ∀ time, history.openedAt = some time → time ≤ history.now ∧
    device.throttle.pairingWindowIsOpen = true ∧ device.throttle.pairingDeadlineMs = stamp (time + 120000)
  counted : device.throttle.globalFailures.toNat = min history.failures.length 31
  blocked : ∀ peer time earlier, history.failures = (peer, time) :: earlier →
    device.throttle.blockedUntilMs = stamp (time + backoffMs (earlier.length + 1))
  remembers : ∀ slot, (device.throttle.peers slot).used = true →
    Remembers (device.throttle.peers slot) history.failures device.throttle.globalFailures
  latest : ∀ peer time earlier, history.failures = (peer, time) :: earlier →
    ∃ slot, (device.throttle.peers slot).used = true ∧ (device.throttle.peers slot).address = peer
  unused : ∀ slot, (device.throttle.peers slot).used = false → device.throttle.peers slot = .fresh
  distinct : Distinct device.throttle.peers
  ordered : history.failures.Pairwise fun later earlier => earlier.2 ≤ later.2
  past : ∀ failure ∈ history.failures, failure.2 ≤ history.now

theorem Tracks.cleared {now : Nat} : Tracks ⟨.reset, now⟩ ⟨now, none, []⟩ where
  now := rfl
  closed _ := rfl
  opened := nofun
  counted := rfl
  blocked := nofun
  remembers := nofun
  latest := nofun
  unused _ _ := rfl
  distinct := nofun
  ordered := .nil
  past := nofun

theorem Tracks.windowOpened {now : Nat} : Tracks ⟨.openPairingWindow (stamp now), now⟩ ⟨now, some now, []⟩ where
  now := rfl
  closed := nofun
  opened time := by
    rintro ⟨⟩
    exact ⟨le_rfl, rfl, stamp_add now blePairingWindowMs⟩
  counted := rfl
  blocked := nofun
  remembers := nofun
  latest := nofun
  unused _ _ := rfl
  distinct := nofun
  ordered := .nil
  past := nofun

section Failure

variable {device : Uptime} {history : History} (tracks : Tracks device history) (peer : BlePeerAddress)

include tracks

theorem Tracks.bounded (slot : Fin 4) : (device.throttle.peers slot).failures ≤ device.throttle.globalFailures := by
  cases used : (device.throttle.peers slot).used with
  | true => exact (tracks.remembers slot used).bounded
  | false =>
    rw [tracks.unused slot used]
    exact UInt8.le_iff_toNat_le.mpr (Nat.zero_le _)

theorem Tracks.taken :
    SlotTaken device.throttle.peers (device.throttle.findOrReplace peer).1 peer
      (device.throttle.findOrReplace peer).2 device.throttle.globalFailures :=
  findOrReplace_taken tracks.distinct tracks.bounded

theorem Tracks.delay (now : UInt32) :
    (device.throttle.recordFailure peer now).1.toNat = backoffMs (history.failures.length + 1) := by
  have counted := countFailure_saturates tracks.counted
  have most := maxCount_of_le (countFailure_le (tracks.taken peer).bounded)
  have number : countFailure device.throttle.globalFailures =
      UInt8.ofNat (min (history.failures.length + 1) 31) := by
    rw [← counted, UInt8.ofNat_toNat]
  rw [recordFailure_fst, most, number]
  exact backoffDelay_toNat (by omega) (by omega)

theorem Tracks.recordFailure (wait : Nat) :
    Tracks (device.step (wait, .recordFailure peer)) (history.step (wait, .recordFailure peer)) := by
  have taken := tracks.taken peer
  have deadline : stamp (device.now + wait) + (device.throttle.recordFailure peer (stamp (device.now + wait))).1 =
      stamp (history.now + wait + backoffMs (history.failures.length + 1)) := by
    rw [stamp_add, tracks.delay peer, tracks.now]
  simp only [Uptime.step, History.step]
  rw [recordFailure_snd, deadline]
  generalize device.throttle.findOrReplace peer = table at taken
  obtain ⟨peers, slot⟩ := table
  simp only at taken
  have kept (other : Fin 4) (different : other ≠ slot) (state : PeerState) :
      Function.update peers slot state other = device.throttle.peers other := by
    rw [Function.update_of_ne different, taken.others other different]
  have counted := countFailure_saturates tracks.counted
  refine ⟨congrArg (· + wait) tracks.now, tracks.closed, ?opened, counted, ?blocked, ?remembers, ?latest, ?unused,
    ?distinct, ?ordered, ?past⟩
  case opened =>
    intro time opened
    have earlier := tracks.opened time opened
    exact ⟨earlier.1.trans (Nat.le_add_right _ _), earlier.2⟩
  case blocked =>
    rintro failed time earlier ⟨⟩
    rfl
  case remembers =>
    intro other used
    by_cases same : other = slot
    · subst same
      simp only [Function.update_self] at used ⊢
      refine ⟨countFailure_pos _, countFailure_le taken.bounded, _, ?_, rfl⟩
      simp [deadlineOf, taken.address]
    · simp only [kept other same] at used ⊢
      exact (tracks.remembers other used).afterOther (taken.foreign other same used)
  case latest =>
    rintro failed time earlier ⟨⟩
    refine ⟨slot, ?_, ?_⟩ <;> simp only [Function.update_self]
    exacts [taken.used, taken.address]
  case unused =>
    intro other unused
    by_cases same : other = slot
    · subst same
      simp [taken.used] at unused
    · simp only [kept other same] at unused ⊢
      exact tracks.unused other unused
  case distinct => exact taken.distinct tracks.distinct
  case ordered =>
    exact .cons (fun failure listed => (tracks.past failure listed).trans (Nat.le_add_right _ _)) tracks.ordered
  case past =>
    intro failure listed
    rcases List.mem_cons.mp listed with rfl | listed
    · exact le_rfl
    · exact (tracks.past failure listed).trans (Nat.le_add_right _ _)

theorem Tracks.step (event : Nat × ThrottleCall) : Tracks (device.step event) (history.step event) := by
  obtain ⟨wait, call⟩ := event
  cases call with
  | recordFailure peer => exact tracks.recordFailure peer wait
  | openPairingWindow =>
    simp only [Uptime.step, History.step, tracks.now]
    exact Tracks.windowOpened
  | recordSuccess =>
    simp only [Uptime.step, History.step, tracks.now]
    exact Tracks.cleared
  | reset =>
    simp only [Uptime.step, History.step, tracks.now]
    exact Tracks.cleared

theorem Tracks.run (events : List (Nat × ThrottleCall)) :
    Tracks (Runs.run Uptime.step device events) (Runs.run History.step history events) := by
  induction events generalizing device history with
  | nil => exact tracks
  | cons event rest ih => exact ih (tracks.step event)

end Failure

def deviceAfter (events : List (Nat × ThrottleCall)) : Uptime := Runs.run Uptime.step started events

def historyAfter (events : List (Nat × ThrottleCall)) : History := Runs.run History.step ⟨0, none, []⟩ events

theorem tracks_after (events : List (Nat × ThrottleCall)) : Tracks (deviceAfter events) (historyAfter events) :=
  Tracks.cleared.run events

namespace BleAuthThrottle

variable {throttle : BleAuthThrottle} {peer : BlePeerAddress} {nowMs : UInt32}

theorem before_passed {now deadline : Nat} (passed : deadline ≤ now) :
    before (stamp now) (stamp deadline) = true ↔ 2 ^ 31 ≤ (now - deadline) % 2 ^ 32 := by
  rw [before, decide_eq_true_iff, negative_of_le passed]

theorem before_ahead {now deadline : Nat} (ahead : now < deadline) (near : deadline ≤ now + 2 ^ 31) :
    before (stamp now) (stamp deadline) = true := by
  rw [before, decide_eq_true_iff]
  exact negative_of_lt ahead near

/-- The two cooldowns that refuse a peer, whatever it is bonded to. -/
def coolingDown (throttle : BleAuthThrottle) (peer : BlePeerAddress) (nowMs : UInt32) : Bool :=
  throttle.blocked nowMs ||
    (throttle.find peer).any fun state => state.failures > 0 && before nowMs state.blockedUntilMs

theorem attemptAllowed_eq (knownBond : Bool) :
    throttle.attemptAllowed peer knownBond nowMs =
      (!throttle.coolingDown peer nowMs && (knownBond || throttle.pairingWindowOpen nowMs)) := by
  unfold attemptAllowed coolingDown
  cases throttle.blocked nowMs with
  | true => rfl
  | false =>
    cases throttle.find peer with
    | none => simp
    | some state => by_cases waits : state.failures > 0 ∧ before nowMs state.blockedUntilMs <;> simp_all

end BleAuthThrottle

section Laws

variable (events : List (Nat × ThrottleCall)) (wait : Nat)

/-- The real time some milliseconds after the last call. -/
def timeAfter : Nat := (deviceAfter events).now + wait

/-- An unbonded peer is let in only while a window opened less than two minutes ago. -/
def PairsOnlyInWindow (peer : BlePeerAddress) : Prop :=
  (deviceAfter events).throttle.attemptAllowed peer false (stamp (timeAfter events wait)) = true →
    ∃ opened, (historyAfter events).openedAt = some opened ∧ timeAfter events wait < opened + 120000

theorem pairs_only_in_window_iff (peer : BlePeerAddress) :
    PairsOnlyInWindow events wait peer ↔
      ∀ opened, (historyAfter events).openedAt = some opened → opened + 120000 ≤ timeAfter events wait →
        2 ^ 31 ≤ (timeAfter events wait - (opened + 120000)) % 2 ^ 32 →
          (deviceAfter events).throttle.coolingDown peer (stamp (timeAfter events wait)) = true := by
  have tracks := tracks_after events
  unfold PairsOnlyInWindow
  rw [attemptAllowed_eq]
  constructor
  · intro law opened known passed late
    by_contra free
    have window := tracks.opened opened known
    have shown : (deviceAfter events).throttle.pairingWindowOpen (stamp (timeAfter events wait)) = true := by
      rw [pairingWindowOpen, window.2.1, window.2.2, Bool.true_and]
      exact (before_passed passed).mpr late
    obtain ⟨other, same, recent⟩ := law (by simp [shown, free])
    rw [known, Option.some.injEq] at same
    omega
  · intro condition allowed
    simp only [Bool.false_or, Bool.and_eq_true, Bool.not_eq_true'] at allowed
    obtain ⟨free, shown⟩ := allowed
    simp only [pairingWindowOpen, Bool.and_eq_true] at shown
    cases known : (historyAfter events).openedAt with
    | none => simp [tracks.closed known] at shown
    | some opened =>
      refine ⟨opened, rfl, ?_⟩
      by_contra past
      have passed : opened + 120000 ≤ timeAfter events wait := by omega
      have deadline := (tracks.opened opened known).2.2
      rw [deadline, before_passed passed] at shown
      simp [condition opened known passed shown.2] at free

/-- The n-th failure since the last reset is answered with its delay, nobody is let in before a delay is over, and
five minutes after the last failure nobody is kept out by one. -/
structure BackoffLaw : Prop where
  delay : ∀ peer, ((deviceAfter events).throttle.recordFailure peer (stamp (timeAfter events wait))).1.toNat =
    backoffMs ((historyAfter events).failures.length + 1)
  refused : ∀ newer failed time older, (historyAfter events).failures = newer ++ (failed, time) :: older →
    timeAfter events wait < time + backoffMs (older.length + 1) →
      ∀ peer knownBond,
        (deviceAfter events).throttle.attemptAllowed peer knownBond (stamp (timeAfter events wait)) = false
  released : (∀ failure ∈ (historyAfter events).failures, failure.2 + 300000 ≤ timeAfter events wait) →
    ∀ peer knownBond,
      (deviceAfter events).throttle.attemptAllowed peer knownBond (stamp (timeAfter events wait)) =
        (knownBond || (deviceAfter events).throttle.pairingWindowOpen (stamp (timeAfter events wait)))

variable {events wait}

theorem time_le_timeAfter {failure : BlePeerAddress × Nat} (listed : failure ∈ (historyAfter events).failures) :
    failure.2 ≤ timeAfter events wait := by
  have tracks := tracks_after events
  have past := tracks.past failure listed
  rw [timeAfter, tracks.now]
  exact past.trans (Nat.le_add_right _ _)

theorem blocked_until {newer older : List (BlePeerAddress × Nat)} {failed : BlePeerAddress} {time : Nat}
    (listed : (historyAfter events).failures = newer ++ (failed, time) :: older)
    (early : timeAfter events wait < time + backoffMs (older.length + 1)) :
    (deviceAfter events).throttle.blocked (stamp (timeAfter events wait)) = true := by
  have tracks := tracks_after events
  obtain ⟨latest, recent, earlier, newest, later⟩ : ∃ latest recent earlier,
      (historyAfter events).failures = (latest, recent) :: earlier ∧
        time + backoffMs (older.length + 1) ≤ recent + backoffMs (earlier.length + 1) := by
    cases newer with
    | nil => exact ⟨failed, time, older, listed, le_rfl⟩
    | cons head rest =>
      have ordered := tracks.ordered
      rw [listed] at ordered
      have before := List.rel_of_pairwise_cons ordered (List.mem_append_right rest (List.mem_cons_self ..))
      refine ⟨head.1, head.2, rest ++ (failed, time) :: older, listed, add_le_add before (backoffMs_mono ?_)⟩
      simp only [List.length_append, List.length_cons]
      omega
  have counted := tracks.counted
  rw [newest, List.length_cons] at counted
  have positive : (deviceAfter events).throttle.globalFailures > 0 := by
    rw [gt_iff_lt, UInt8.lt_iff_toNat_lt, counted, UInt8.toNat_zero]
    omega
  have reached : recent ≤ timeAfter events wait := time_le_timeAfter (newest ▸ List.mem_cons_self ..)
  have bound := backoffMs_le (earlier.length + 1)
  simp only [blocked, positive, tracks.blocked latest recent earlier newest, decide_true, Bool.true_and]
  exact before_ahead (by omega) (by omega)

theorem deadlineOf_le {peer : BlePeerAddress} {failures : List (BlePeerAddress × Nat)} {deadline : Nat}
    (known : deadlineOf peer failures = some deadline) : ∃ failure ∈ failures, deadline ≤ failure.2 + 300000 := by
  induction failures with
  | nil => cases known
  | cons failure earlier ih =>
    obtain ⟨failed, time⟩ := failure
    rw [deadlineOf] at known
    split at known
    · cases known
      exact ⟨_, List.mem_cons_self .., Nat.add_le_add_left (backoffMs_le _) time⟩
    · obtain ⟨found, listed, bound⟩ := ih known
      exact ⟨found, List.mem_cons_of_mem _ listed, bound⟩

theorem find_remembers {peer : BlePeerAddress} {state : PeerState}
    (found : (deviceAfter events).throttle.find peer = some state) :
    state.address = peer ∧
      Remembers state (historyAfter events).failures (deviceAfter events).throttle.globalFailures := by
  obtain ⟨slot, located, rfl⟩ := Option.map_eq_some_iff.mp found
  have owned := slotOf?_some located
  exact ⟨owned.2, (tracks_after events).remembers slot owned.1⟩

theorem peerFailureCount_latest {peer : BlePeerAddress} {time : Nat} {earlier : List (BlePeerAddress × Nat)}
    (newest : (historyAfter events).failures = (peer, time) :: earlier) :
    0 < (deviceAfter events).throttle.peerFailureCount peer := by
  obtain ⟨slot, used, owned⟩ := (tracks_after events).latest peer time earlier newest
  cases found : (deviceAfter events).throttle.find peer with
  | none =>
    have absent := Option.map_eq_none_iff.mp found
    exact absurd owned (slotOf?_none absent slot used)
  | some state =>
    simp only [peerFailureCount, found]
    exact (find_remembers found).2.counted

/-- The back-off of every failure the throttle still remembers ended in the last half of the clock's cycle. -/
def DeadlinesBehind (events : List (Nat × ThrottleCall)) (wait : Nat) : Prop :=
  ∀ peer deadline, 0 < (deviceAfter events).throttle.peerFailureCount peer →
    deadlineOf peer (historyAfter events).failures = some deadline →
      (timeAfter events wait - deadline) % 2 ^ 32 < 2 ^ 31

theorem not_coolingDown_iff
    (quiet : ∀ failure ∈ (historyAfter events).failures, failure.2 + 300000 ≤ timeAfter events wait) :
    (∀ peer, (deviceAfter events).throttle.coolingDown peer (stamp (timeAfter events wait)) = false) ↔
      DeadlinesBehind events wait := by
  have tracks := tracks_after events
  have passed {peer : BlePeerAddress} {deadline : Nat}
      (known : deadlineOf peer (historyAfter events).failures = some deadline) : deadline ≤ timeAfter events wait := by
    obtain ⟨failure, listed, bound⟩ := deadlineOf_le known
    exact bound.trans (quiet failure listed)
  constructor
  · intro free peer deadline counted known
    have calm := free peer
    unfold peerFailureCount at counted
    cases found : (deviceAfter events).throttle.find peer with
    | none => simp [found] at counted
    | some state =>
      obtain ⟨rfl, remembers⟩ := find_remembers found
      obtain ⟨time, same, stamped⟩ := remembers.deadline
      obtain rfl : deadline = time := by simpa [known] using same
      have waiting := (before_passed (passed known)).not
      simp only [coolingDown, found, Option.any_some, Bool.or_eq_false_iff, stamped] at calm
      have elapsed : before (stamp (timeAfter events wait)) (stamp deadline) ≠ true := by
        intro early
        simp [early, remembers.counted] at calm
      exact Nat.lt_of_not_le (waiting.mp elapsed)
  · intro condition peer
    rw [coolingDown, Bool.or_eq_false_iff]
    constructor
    · cases newest : (historyAfter events).failures with
      | nil =>
        have counted := tracks.counted
        rw [newest] at counted
        have zero : (deviceAfter events).throttle.globalFailures = 0 := UInt8.toNat.inj counted
        simp [blocked, zero]
      | cons failure earlier =>
        obtain ⟨failed, time⟩ := failure
        have known : deadlineOf failed (historyAfter events).failures =
            some (time + backoffMs (earlier.length + 1)) := by
          simp [newest, deadlineOf]
        have behind := condition failed _ (peerFailureCount_latest newest) known
        have waiting := (before_passed (passed known)).not.mpr (Nat.not_le.mpr behind)
        simp only [blocked, tracks.blocked failed time earlier newest, Bool.eq_false_iff.mpr waiting, Bool.and_false]
    · cases found : (deviceAfter events).throttle.find peer with
      | none => rfl
      | some state =>
        obtain ⟨rfl, remembers⟩ := find_remembers found
        obtain ⟨deadline, known, stamped⟩ := remembers.deadline
        have counted : 0 < (deviceAfter events).throttle.peerFailureCount state.address := by
          simpa only [peerFailureCount, found] using remembers.counted
        have behind := condition state.address deadline counted known
        have waiting := (before_passed (passed known)).not.mpr (Nat.not_le.mpr behind)
        simp only [Option.any_some, stamped, Bool.eq_false_iff.mpr waiting, Bool.and_false]

variable (events wait)

theorem backoff_law_iff :
    BackoffLaw events wait ↔
      ((∀ failure ∈ (historyAfter events).failures, failure.2 + 300000 ≤ timeAfter events wait) →
        DeadlinesBehind events wait) := by
  have tracks := tracks_after events
  constructor
  · intro law quiet
    rw [← not_coolingDown_iff quiet]
    intro peer
    have allowed := law.released quiet peer true
    simpa [attemptAllowed_eq] using allowed
  · intro condition
    refine ⟨fun peer => tracks.delay peer _, ?_, ?_⟩
    · intro newer failed time older listed early peer knownBond
      rw [attemptAllowed_eq, coolingDown, blocked_until listed early]
      rfl
    · intro quiet peer knownBond
      rw [attemptAllowed_eq, (not_coolingDown_iff quiet).mpr (condition quiet) peer]
      rfl

end Laws

/-- Twenty-five days after the window was opened, and with nothing since, it is open again. -/
theorem lapsedWindow_pairs : ¬ PairsOnlyInWindow [(0, .openPairingWindow)] (2 ^ 31 + 120000) 1 := by
  intro law
  obtain ⟨opened, known, recent⟩ := law (by decide +kernel)
  have start : opened = 0 := by simpa [historyAfter, Runs.run, History.step] using known.symm
  have time : timeAfter [(0, .openPairingWindow)] (2 ^ 31 + 120000) = 2 ^ 31 + 120000 := rfl
  omega

/-- Twenty-five days after a single failure every peer is refused again. -/
theorem lapsedBackoff_refuses : ¬ BackoffLaw [(0, .recordFailure 1)] (2 ^ 31 + 1000) := by
  intro law
  have quiet : ∀ failure ∈ (historyAfter [(0, .recordFailure 1)]).failures,
      failure.2 + 300000 ≤ timeAfter [(0, .recordFailure 1)] (2 ^ 31 + 1000) := by decide +kernel
  have allowed := law.released quiet 2 true
  revert allowed
  decide +kernel

end SigurdOS.Comms
