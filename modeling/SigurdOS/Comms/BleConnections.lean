import SigurdOS.Comms.BleBondRotation

namespace SigurdOS.Comms

open WrappedTime

def bleAuthenticationTimeoutMs : UInt32 := 30000

structure BleAuthWatchdog where
  deadlineMs : UInt32
  connId : UInt16
  armed : Bool
  deriving DecidableEq

namespace BleAuthWatchdog

def arm (connId : UInt16) (nowMs : UInt32) : BleAuthWatchdog := ⟨nowMs + bleAuthenticationTimeoutMs, connId, true⟩

variable (watchdog : BleAuthWatchdog)

def cancel : BleAuthWatchdog := { watchdog with armed := false }

def takeExpired (nowMs : UInt32) : Option (UInt16 × BleAuthWatchdog) :=
  if !watchdog.armed || (nowMs - watchdog.deadlineMs).toInt32 < 0 then none
  else some (watchdog.connId, watchdog.cancel)

end BleAuthWatchdog

abbrev BleBondCache := List BlePeerAddress

namespace BleBondCache

variable (cache : BleBondCache)

def add (peer : BlePeerAddress) : Bool × BleBondCache :=
  if cache.contains peer then (true, cache)
  else if cache.length ≥ bleBondCacheCapacity then (false, cache)
  else (true, cache ++ [peer])

end BleBondCache

/-- The interface once its stack is initialised, which every connection needs. `recorded` is not in the code: the
calls of `recordFailure` so far. -/
structure ObservedSerialBLEInterface where
  authWatchdog : BleAuthWatchdog
  authThrottle : BleAuthThrottle
  bondCache : BleBondCache
  connectingPeer : BlePeerAddress
  connectingPeerBonded : Bool
  authenticationCompleted : Bool
  localDisable : Bool
  connectedServer : Bool
  recorded : List (BlePeerAddress × UInt32)

namespace ObservedSerialBLEInterface

variable (ble : ObservedSerialBLEInterface) (nowMs : UInt32)

def recordAuthenticationFailure : ObservedSerialBLEInterface :=
  { ble with
    authThrottle := (ble.authThrottle.recordFailure ble.connectingPeer nowMs).2
    recorded := ble.recorded ++ [(ble.connectingPeer, nowMs)] }

def peerIsBonded (peer : BlePeerAddress) : Bool := ble.bondCache.contains peer

def onConnect (peer : BlePeerAddress) (connId : UInt16) : ObservedSerialBLEInterface :=
  { ble with
    connectedServer := true
    connectingPeer := peer
    connectingPeerBonded := ble.peerIsBonded peer
    authenticationCompleted := false
    authWatchdog := .arm connId nowMs }

def onAuthenticationComplete (success : Bool) : ObservedSerialBLEInterface :=
  let ble := { ble with authWatchdog := ble.authWatchdog.cancel }
  let ble :=
    if success then
      { ble with authThrottle := .recordSuccess, bondCache := (ble.bondCache.add ble.connectingPeer).2 }
    else ble.recordAuthenticationFailure nowMs
  { ble with authenticationCompleted := true }

def onDisconnect : ObservedSerialBLEInterface :=
  let abandonedAuthentication := ble.authWatchdog.armed && !ble.authenticationCompleted && !ble.localDisable
  let ble := { ble with authWatchdog := ble.authWatchdog.cancel }
  let ble := if abandonedAuthentication then ble.recordAuthenticationFailure nowMs else ble
  { ble with connectedServer := false, authenticationCompleted := false }

def checkRecvFrame : Option UInt16 × ObservedSerialBLEInterface :=
  match ble.authWatchdog.takeExpired nowMs with
  | none => (none, ble)
  | some (expiredConnId, authWatchdog) =>
    let ble := { ble with authWatchdog, authenticationCompleted := true }
    (if ble.connectedServer then some expiredConnId else none, ble.recordAuthenticationFailure nowMs)

/-- The base class ends the link, and the stack may report that before the call returns. -/
def baseDisable (reported : Bool) : ObservedSerialBLEInterface := if reported then ble.onDisconnect nowMs else ble

def disable (reported : Bool) : ObservedSerialBLEInterface :=
  let ble := { ble with
    localDisable := true, authenticationCompleted := true, authWatchdog := ble.authWatchdog.cancel }
  { ble.baseDisable nowMs reported with localDisable := false }

/-- `purged` says whether the stack took the removal of every bond. -/
def removeAllBonds (enabled purged reported : Bool) : Bool × ObservedSerialBLEInterface :=
  let ble :=
    if enabled then
      let ble := { ble with localDisable := true, authenticationCompleted := true }
      { ble.baseDisable nowMs reported with localDisable := false }
    else ble
  (purged, if purged then { ble with bondCache := [] } else ble)

end ObservedSerialBLEInterface

inductive LocalCall where
  | checkRecvFrame
  | disable
  | removeAllBonds (enabled purged : Bool)
  deriving DecidableEq

inductive ConnectionCall where
  | authenticationComplete (success : Bool)
  | device (call : LocalCall)
  deriving DecidableEq

/-- The last call of a connection: the disconnect itself, or a local call in which it is reported. -/
inductive Ending where
  | disconnected
  | disabled
  | purged (complete : Bool)
  deriving DecidableEq

section Calls

variable (ble : ObservedSerialBLEInterface) (nowMs : UInt32)

def LocalCall.apply : LocalCall → ObservedSerialBLEInterface
  | .checkRecvFrame => (ble.checkRecvFrame nowMs).2
  | .disable => ble.disable nowMs false
  | .removeAllBonds enabled purged => (ble.removeAllBonds nowMs enabled purged false).2

def ConnectionCall.apply : ConnectionCall → ObservedSerialBLEInterface
  | .authenticationComplete success => ble.onAuthenticationComplete nowMs success
  | .device call => call.apply ble nowMs

def Ending.apply : Ending → ObservedSerialBLEInterface
  | .disconnected => ble.onDisconnect nowMs
  | .disabled => ble.disable nowMs true
  | .purged complete => (ble.removeAllBonds nowMs true complete true).2

end Calls

structure BleUptime where
  ble : ObservedSerialBLEInterface
  now : Nat

namespace BleUptime

def poweredOn (bonds : BleBondCache) : BleUptime where
  ble := ⟨⟨0, 0, false⟩, .reset, bonds, 0, false, false, false, false, []⟩
  now := 0

variable (device : BleUptime)

/-- A call some milliseconds after the previous one. -/
def call (wait : Nat) (apply : ObservedSerialBLEInterface → UInt32 → ObservedSerialBLEInterface) : BleUptime :=
  ⟨apply device.ble (stamp (device.now + wait)), device.now + wait⟩

def localStep (event : Nat × LocalCall) : BleUptime := device.call event.1 event.2.apply

def connectionStep (event : Nat × ConnectionCall) : BleUptime := device.call event.1 event.2.apply

end BleUptime

/-- A connection with the local calls since the last one; each call comes some milliseconds after the previous. -/
structure Connection where
  idle : List (Nat × LocalCall)
  wait : Nat
  peer : BlePeerAddress
  connId : UInt16
  calls : List (Nat × ConnectionCall)
  lastWait : Nat
  ending : Ending

namespace BleUptime

variable (device : BleUptime)

def connect (connection : Connection) : BleUptime :=
  let idle := Runs.run localStep device connection.idle
  let connected := idle.call connection.wait fun ble nowMs => ble.onConnect nowMs connection.peer connection.connId
  let ending := Runs.run connectionStep connected connection.calls
  ending.call connection.lastWait connection.ending.apply

def charges (connection : Connection) : List (BlePeerAddress × UInt32) :=
  (device.connect connection).ble.recorded.drop device.ble.recorded.length

end BleUptime

def timeLimit : Nat := 30000

def seenExpired (elapsed : Nat) : Bool := timeLimit ≤ elapsed && (elapsed - timeLimit) % 2 ^ 32 < 2 ^ 31

namespace ConnectionCall

def failed : ConnectionCall → Bool
  | authenticationComplete success => !success
  | _ => false

def succeeded : ConnectionCall → Bool
  | authenticationComplete success => success
  | _ => false

def endsLocally : ConnectionCall → Bool
  | device .disable => true
  | device (.removeAllBonds enabled _) => enabled
  | _ => false

end ConnectionCall

/-- Some check sees the time limit passed, and no authentication was complete and no disable made before it. -/
def expirySeen : Nat → List (Nat × ConnectionCall) → Bool
  | _, [] => false
  | elapsed, (wait, call) :: rest =>
    match call with
    | .authenticationComplete _ => false
    | .device .disable => false
    | .device (.removeAllBonds _ _) => expirySeen (elapsed + wait) rest
    | .device .checkRecvFrame => seenExpired (elapsed + wait) || expirySeen (elapsed + wait) rest

def endedInTime : Nat → List (Nat × ConnectionCall) → Bool
  | _, [] => false
  | elapsed, (wait, call) :: rest =>
    call.endsLocally && elapsed + wait < timeLimit || endedInTime (elapsed + wait) rest

namespace Connection

variable (connection : Connection)

def failures : Nat := connection.calls.countP fun event => event.2.failed

def succeeded : Bool := connection.calls.any fun event => event.2.succeeded

def endedLocally : Bool :=
  connection.calls.any (fun event => event.2.endsLocally) || connection.ending ≠ .disconnected

def duration : Nat := (connection.calls.map Prod.fst).sum + connection.lastWait

def endedLocallyInTime : Bool :=
  endedInTime 0 connection.calls || connection.ending ≠ .disconnected && connection.duration < timeLimit

def verdicts : Nat := connection.failures + (expirySeen 0 connection.calls).toNat

/-- At most one verdict is given on the connection, and none when it succeeds or is ended locally in time. -/
structure JudgedOnce : Prop where
  once : connection.verdicts ≤ 1
  spared : connection.succeeded = true ∨ connection.endedLocallyInTime = true → connection.verdicts = 0

end Connection

/-- One failure at most, with the connection's peer: exactly one where nobody authenticated or ended it locally, none
where somebody authenticated or ended it locally in time. -/
structure ChargedOnce (device : BleUptime) (connection : Connection) : Prop where
  atMostOnce : (device.charges connection).length ≤ 1
  itsPeer : ∀ charge ∈ device.charges connection, charge.1 = connection.peer
  exactlyOnce : connection.succeeded = false → connection.endedLocally = false →
    (device.charges connection).length = 1
  never : connection.succeeded = true ∨ connection.endedLocallyInTime = true → device.charges connection = []

/-- What a connection's calls leave of the watchdog and of the flag, and the failures so far. -/
structure Stage where
  elapsed : Nat
  armed : Bool
  completed : Bool
  charges : Nat

namespace Stage

def begin : Stage := ⟨0, true, false, 0⟩

def step (stage : Stage) (event : Nat × ConnectionCall) : Stage :=
  let elapsed := stage.elapsed + event.1
  match event.2 with
  | .authenticationComplete success => ⟨elapsed, false, true, stage.charges + (!success).toNat⟩
  | .device .disable => { stage with elapsed, armed := false, completed := true }
  | .device (.removeAllBonds enabled _) => { stage with elapsed, completed := stage.completed || enabled }
  | .device .checkRecvFrame =>
    if stage.armed && seenExpired elapsed then ⟨elapsed, false, true, stage.charges + 1⟩ else { stage with elapsed }

theorem charges_run (stage : Stage) (calls : List (Nat × ConnectionCall)) :
    (Runs.run step stage calls).charges = stage.charges + calls.countP (fun event => event.2.failed) +
      (stage.armed && expirySeen stage.elapsed calls).toNat := by
  induction calls generalizing stage with
  | nil => simp [expirySeen]
  | cons event rest ih =>
    obtain ⟨wait, call⟩ := event
    rw [Runs.run_cons, ih, List.countP_cons]
    cases call with
    | authenticationComplete success =>
      have told : (ConnectionCall.authenticationComplete success).failed = !success := rfl
      simp only [step, told, expirySeen, Bool.false_and, Bool.and_false, Bool.toNat_false]
      cases success <;> simp
      omega
    | device call =>
      cases call with
      | disable => simp [step, expirySeen, ConnectionCall.failed]
      | removeAllBonds enabled purged => simp [step, expirySeen, ConnectionCall.failed]
      | checkRecvFrame =>
        cases armed : stage.armed <;> cases seen : seenExpired (stage.elapsed + wait) <;>
          simp [step, expirySeen, ConnectionCall.failed, armed, seen, Nat.add_right_comm]

/-- Nothing that ends the wait for an authentication. -/
def quiet : ConnectionCall → Bool
  | .authenticationComplete _ => false
  | .device .disable => false
  | .device (.removeAllBonds enabled _) => !enabled
  | .device .checkRecvFrame => true

theorem waiting_run (stage : Stage) (calls : List (Nat × ConnectionCall)) :
    ((Runs.run step stage calls).armed && !(Runs.run step stage calls).completed) =
      (stage.armed && !stage.completed && !expirySeen stage.elapsed calls && calls.all fun event => quiet event.2) := by
  induction calls generalizing stage with
  | nil => simp [expirySeen]
  | cons event rest ih =>
    obtain ⟨wait, call⟩ := event
    rw [Runs.run_cons, ih, List.all_cons]
    cases call with
    | authenticationComplete success => simp [step, quiet]
    | device call =>
      cases call with
      | disable => simp [step, quiet]
      | removeAllBonds enabled purged => cases enabled <;> simp [step, expirySeen, quiet]
      | checkRecvFrame =>
        cases armed : stage.armed <;> cases seen : seenExpired (stage.elapsed + wait) <;>
          simp [step, expirySeen, quiet, armed, seen]

end Stage

namespace BleUptime

structure Unconnected (device : BleUptime) : Prop where
  disarmed : device.ble.authWatchdog.armed = false
  enabled : device.ble.localDisable = false

/-- The device is in a stage of a connection that was made at some time, over what it had recorded before. -/
structure Shows (device : BleUptime) (start : Nat) (peer : BlePeerAddress) (before : List (BlePeerAddress × UInt32))
    (stage : Stage) : Prop where
  now : device.now = start + stage.elapsed
  armed : device.ble.authWatchdog.armed = stage.armed
  deadline : device.ble.authWatchdog.deadlineMs = stamp (start + timeLimit)
  completed : device.ble.authenticationCompleted = stage.completed
  enabled : device.ble.localDisable = false
  sender : device.ble.connectingPeer = peer
  recorded : ∃ charges, device.ble.recorded = before ++ charges ∧ charges.length = stage.charges ∧
    ∀ charge ∈ charges, charge.1 = peer

end BleUptime

theorem bleAuthenticationTimeoutMs_toNat : bleAuthenticationTimeoutMs.toNat = timeLimit := rfl

theorem seenExpired_eq (start elapsed : Nat) :
    seenExpired elapsed = !decide ((stamp (start + elapsed) - stamp (start + timeLimit)).toInt32 < 0) := by
  unfold seenExpired
  by_cases passed : timeLimit ≤ elapsed
  · have compared := negative_of_le (Nat.add_le_add_left passed start)
    rw [Nat.add_sub_add_left] at compared
    simp only [compared, passed, decide_true, Bool.true_and, ← decide_not, Nat.not_le]
  · have early : (stamp (start + elapsed) - stamp (start + timeLimit)).toInt32 < 0 := by
      unfold timeLimit at *
      exact negative_of_lt (by omega) (by omega)
    rw [decide_eq_true early, decide_eq_false passed]
    rfl

namespace BleAuthWatchdog

theorem arm_deadlineMs (connId : UInt16) (now : Nat) :
    (arm connId (stamp now)).deadlineMs = stamp (now + timeLimit) := by
  rw [← bleAuthenticationTimeoutMs_toNat, ← stamp_add]
  rfl

variable {watchdog : BleAuthWatchdog}

theorem takeExpired_disarmed (disarmed : watchdog.armed = false) (nowMs : UInt32) :
    watchdog.takeExpired nowMs = none := by
  simp [takeExpired, disarmed]

theorem takeExpired_stamp {start : Nat} (deadline : watchdog.deadlineMs = stamp (start + timeLimit)) (elapsed : Nat) :
    watchdog.takeExpired (stamp (start + elapsed)) =
      if watchdog.armed && seenExpired elapsed then some (watchdog.connId, watchdog.cancel) else none := by
  rw [takeExpired, deadline, seenExpired_eq start]
  generalize decide ((stamp (start + elapsed) - stamp (start + timeLimit)).toInt32 < 0) = early
  cases watchdog.armed <;> cases early <;> rfl

end BleAuthWatchdog

namespace BleUptime

section Shown

variable {device : BleUptime} {start : Nat} {peer : BlePeerAddress} {before : List (BlePeerAddress × UInt32)}
  {stage : Stage}

theorem Shows.recorded_push (shows : Shows device start peer before stage) (nowMs : UInt32) :
    ∃ charges, device.ble.recorded ++ [(device.ble.connectingPeer, nowMs)] = before ++ charges ∧
      charges.length = stage.charges + 1 ∧ ∀ charge ∈ charges, charge.1 = peer := by
  obtain ⟨charges, recorded, counted, own⟩ := shows.recorded
  rw [recorded, shows.sender, ← counted]
  refine ⟨charges ++ [(peer, nowMs)], List.append_assoc .., List.length_append, ?_⟩
  intro charge listed
  rcases List.mem_append.mp listed with earlier | last
  · exact own charge earlier
  · rw [List.mem_singleton.mp last]

theorem Shows.call (shows : Shows device start peer before stage) (wait : Nat) :
    device.now + wait = start + (stage.elapsed + wait) := by
  rw [shows.now, Nat.add_assoc]

theorem Shows.authenticationComplete (shows : Shows device start peer before stage) (wait : Nat) (success : Bool) :
    Shows (device.connectionStep (wait, .authenticationComplete success)) start peer before
      (stage.step (wait, .authenticationComplete success)) where
  now := shows.call wait
  armed := by cases success <;> rfl
  deadline := by cases success <;> exact shows.deadline
  completed := by cases success <;> rfl
  enabled := by cases success <;> exact shows.enabled
  sender := by cases success <;> exact shows.sender
  recorded := by
    cases success with
    | true => exact shows.recorded
    | false => exact shows.recorded_push _

theorem Shows.checkRecvFrame (shows : Shows device start peer before stage) (wait : Nat) :
    Shows (device.connectionStep (wait, .device .checkRecvFrame)) start peer before
      (stage.step (wait, .device .checkRecvFrame)) := by
  have checked := BleAuthWatchdog.takeExpired_stamp shows.deadline (stage.elapsed + wait)
  rw [shows.armed, ← shows.call] at checked
  simp only [connectionStep, BleUptime.call, ConnectionCall.apply, LocalCall.apply,
    ObservedSerialBLEInterface.checkRecvFrame, Stage.step, checked]
  by_cases expired : (stage.armed && seenExpired (stage.elapsed + wait)) = true
  · simp only [expired, if_true]
    exact ⟨shows.call wait, rfl, shows.deadline, rfl, shows.enabled, shows.sender, shows.recorded_push _⟩
  · simp only [expired]
    exact { shows with now := shows.call wait }

theorem Shows.step (shows : Shows device start peer before stage) (event : Nat × ConnectionCall) :
    Shows (device.connectionStep event) start peer before (stage.step event) := by
  obtain ⟨wait, call⟩ := event
  cases call with
  | authenticationComplete success => exact shows.authenticationComplete wait success
  | device call =>
    cases call with
    | checkRecvFrame => exact shows.checkRecvFrame wait
    | disable => exact ⟨shows.call wait, rfl, shows.deadline, rfl, rfl, shows.sender, shows.recorded⟩
    | removeAllBonds enabled purged =>
      have held : Shows (device.connectionStep (wait, .device (.removeAllBonds enabled false))) start peer before
          (Stage.step stage (wait, .device (.removeAllBonds enabled false))) := by
        cases enabled with
        | true =>
          have done : (stage.completed || true) = true := Bool.or_true _
          exact ⟨shows.call wait, shows.armed, shows.deadline, done.symm, rfl, shows.sender, shows.recorded⟩
        | false =>
          have same := shows.completed.trans (Bool.or_false _).symm
          exact { shows with now := shows.call wait, completed := same }
      cases purged with
      | true => exact { held with }
      | false => exact held

theorem Shows.run (shows : Shows device start peer before stage) (calls : List (Nat × ConnectionCall)) :
    Shows (Runs.run connectionStep device calls) start peer before (Runs.run Stage.step stage calls) := by
  induction calls generalizing device stage with
  | nil => exact shows
  | cons event rest ih => exact ih (shows.step event)

theorem Shows.disconnected (shows : Shows device start peer before stage) (nowMs : UInt32) :
    ∃ charges, (device.ble.onDisconnect nowMs).recorded = before ++ charges ∧
      charges.length = stage.charges + (stage.armed && !stage.completed).toNat ∧
      ∀ charge ∈ charges, charge.1 = peer := by
  have abandoned : (device.ble.authWatchdog.armed && !device.ble.authenticationCompleted && !device.ble.localDisable) =
      (stage.armed && !stage.completed) := by
    rw [shows.armed, shows.completed, shows.enabled, Bool.not_false, Bool.and_true]
  simp only [ObservedSerialBLEInterface.onDisconnect, abandoned]
  cases stage.armed && !stage.completed with
  | true => exact shows.recorded_push nowMs
  | false => exact shows.recorded

theorem Shows.ended (shows : Shows device start peer before stage) (wait : Nat) (ending : Ending) :
    ∃ charges, (device.call wait ending.apply).ble.recorded = before ++ charges ∧
      charges.length = stage.charges + (ending == .disconnected && stage.armed && !stage.completed).toNat ∧
      ∀ charge ∈ charges, charge.1 = peer := by
  cases ending with
  | disconnected => exact shows.disconnected _
  | disabled => exact shows.recorded
  | purged complete =>
    have silent : (device.call wait (Ending.purged complete).apply).ble.recorded = device.ble.recorded := by
      simp only [BleUptime.call, Ending.apply, ObservedSerialBLEInterface.removeAllBonds,
        ObservedSerialBLEInterface.baseDisable, ObservedSerialBLEInterface.onDisconnect]
      cases complete <;> simp
    rw [silent]
    exact shows.recorded

end Shown

theorem onDisconnect_unconnected {ble : ObservedSerialBLEInterface} (nowMs : UInt32) :
    (ble.onDisconnect nowMs).authWatchdog.armed = false ∧
      (ble.onDisconnect nowMs).localDisable = ble.localDisable := by
  unfold ObservedSerialBLEInterface.onDisconnect
  cases ble.authWatchdog.armed && !ble.authenticationCompleted && !ble.localDisable <;> exact ⟨rfl, rfl⟩

section Between

variable {device : BleUptime} (unconnected : Unconnected device)

include unconnected

theorem Unconnected.localStep (event : Nat × LocalCall) :
    Unconnected (device.localStep event) ∧ (device.localStep event).ble.recorded = device.ble.recorded := by
  obtain ⟨wait, call⟩ := event
  cases call with
  | checkRecvFrame =>
    have nothing := BleAuthWatchdog.takeExpired_disarmed unconnected.disarmed (stamp (device.now + wait))
    have same : device.localStep (wait, .checkRecvFrame) = ⟨device.ble, device.now + wait⟩ := by
      simp only [BleUptime.localStep, BleUptime.call, LocalCall.apply, ObservedSerialBLEInterface.checkRecvFrame,
        nothing]
    rw [same]
    exact ⟨⟨unconnected.disarmed, unconnected.enabled⟩, rfl⟩
  | disable => exact ⟨⟨rfl, rfl⟩, rfl⟩
  | removeAllBonds enabled purged =>
    cases enabled with
    | true => cases purged <;> exact ⟨⟨unconnected.disarmed, rfl⟩, rfl⟩
    | false => cases purged <;> exact ⟨⟨unconnected.disarmed, unconnected.enabled⟩, rfl⟩

theorem Unconnected.idle (events : List (Nat × LocalCall)) :
    Unconnected (Runs.run BleUptime.localStep device events) ∧
      (Runs.run BleUptime.localStep device events).ble.recorded = device.ble.recorded := by
  apply Runs.run_invariant (fun later : BleUptime => Unconnected later ∧ later.ble.recorded = device.ble.recorded)
  · exact ⟨unconnected, rfl⟩
  · rintro later event ⟨holds, same⟩
    have next := holds.localStep event
    exact ⟨next.1, next.2.trans same⟩

end Between

theorem ending_unconnected {device : BleUptime} (enabled : device.ble.localDisable = false) (wait : Nat)
    (ending : Ending) : Unconnected (device.call wait ending.apply) := by
  cases ending with
  | disconnected =>
    have dropped := @onDisconnect_unconnected device.ble (stamp (device.now + wait))
    exact ⟨dropped.1, dropped.2.trans enabled⟩
  | disabled => exact ⟨onDisconnect_unconnected _ |>.1, rfl⟩
  | purged complete => cases complete <;> exact ⟨onDisconnect_unconnected _ |>.1, rfl⟩

end BleUptime

namespace Connection

variable (connection : Connection)

def abandoned : Bool :=
  connection.ending == .disconnected && !expirySeen 0 connection.calls &&
    connection.calls.all fun event => Stage.quiet event.2

end Connection

namespace BleUptime

variable {device : BleUptime}

theorem Unconnected.onConnect (unconnected : Unconnected device) (wait : Nat) (peer : BlePeerAddress)
    (connId : UInt16) :
    Shows (device.call wait fun ble nowMs => ble.onConnect nowMs peer connId) (device.now + wait) peer
      device.ble.recorded .begin := by
  -- field by field, or the checker compares the watchdogs and unfolds the clock
  obtain ⟨⟨_, _, _, _, _, _, _, _, _⟩, now⟩ := device
  exact ⟨rfl, rfl, BleAuthWatchdog.arm_deadlineMs connId (now + wait), rfl, unconnected.enabled, rfl, [],
    (List.append_nil _).symm, rfl, nofun⟩

theorem Unconnected.connect (unconnected : Unconnected device) (connection : Connection) :
    Unconnected (device.connect connection) ∧ ∃ charges,
      (device.connect connection).ble.recorded = device.ble.recorded ++ charges ∧
      charges.length = connection.verdicts + connection.abandoned.toNat ∧
      ∀ charge ∈ charges, charge.1 = connection.peer := by
  obtain ⟨idle, same⟩ := unconnected.idle connection.idle
  have started := idle.onConnect connection.wait connection.peer connection.connId
  rw [same] at started
  have shows := started.run connection.calls
  have counted := Stage.charges_run .begin connection.calls
  have waiting := Stage.waiting_run .begin connection.calls
  refine ⟨ending_unconnected shows.enabled _ _, ?_⟩
  obtain ⟨charges, recorded, length, own⟩ := shows.ended connection.lastWait connection.ending
  refine ⟨charges, recorded, ?_, own⟩
  rw [length, counted, Bool.and_assoc, waiting]
  simp only [Stage.begin, Connection.verdicts, Connection.failures, Connection.abandoned, Nat.zero_add, Bool.true_and,
    Bool.not_false, Bool.and_assoc]

theorem Unconnected.charges (unconnected : Unconnected device) (connection : Connection) :
    (device.charges connection).length = connection.verdicts + connection.abandoned.toNat ∧
      ∀ charge ∈ device.charges connection, charge.1 = connection.peer := by
  obtain ⟨-, charges, recorded, counted⟩ := unconnected.connect connection
  rw [BleUptime.charges, recorded, List.drop_left]
  exact counted

theorem Unconnected.run (unconnected : Unconnected device) (connections : List Connection) :
    Unconnected (Runs.run BleUptime.connect device connections) :=
  Runs.run_invariant Unconnected unconnected (fun _ connection holds => (holds.connect connection).1) connections

end BleUptime

namespace Connection

variable {connection : Connection}

theorem quiet_eq (call : ConnectionCall) :
    Stage.quiet call = (!call.failed && !call.succeeded && !call.endsLocally) := by
  cases call with
  | authenticationComplete success => cases success <;> rfl
  | device call => cases call <;> rfl

theorem all_quiet (calls : List (Nat × ConnectionCall)) :
    (calls.all fun event => Stage.quiet event.2) = true ↔ calls.countP (fun event => event.2.failed) = 0 ∧
      (calls.any fun event => event.2.succeeded) = false ∧ (calls.any fun event => event.2.endsLocally) = false := by
  simp only [List.all_eq_true, quiet_eq, Bool.and_eq_true, Bool.not_eq_true', List.countP_eq_zero, List.any_eq_false,
    Bool.not_eq_true, ← forall_and, and_assoc]

theorem abandoned_iff : connection.abandoned = true ↔
    connection.verdicts = 0 ∧ connection.succeeded = false ∧ connection.endedLocally = false := by
  simp only [abandoned, verdicts, failures, succeeded, endedLocally, Bool.and_eq_true, all_quiet, Nat.add_eq_zero_iff,
    Bool.toNat_eq_zero, Bool.or_eq_false_iff, decide_eq_false_iff_not, Decidable.not_not, beq_iff_eq,
    Bool.not_eq_true', ne_eq]
  tauto

theorem endsLocally_of_inTime {elapsed : Nat} {calls : List (Nat × ConnectionCall)}
    (inTime : endedInTime elapsed calls = true) : (calls.any fun event => event.2.endsLocally) = true := by
  induction calls generalizing elapsed with
  | nil => cases inTime
  | cons event rest ih =>
    obtain ⟨wait, call⟩ := event
    simp only [endedInTime, Bool.or_eq_true, Bool.and_eq_true] at inTime
    rw [List.any_cons, Bool.or_eq_true]
    rcases inTime with here | later
    · exact .inl here.1
    · exact .inr (ih later)

theorem endedLocally_of_inTime (inTime : connection.endedLocallyInTime = true) : connection.endedLocally = true := by
  rw [endedLocallyInTime, Bool.or_eq_true, Bool.and_eq_true] at inTime
  rw [endedLocally, Bool.or_eq_true]
  rcases inTime with called | ending
  · exact .inl (endsLocally_of_inTime called)
  · exact .inr ending.1

end Connection

theorem chargedOnce_iff {device : BleUptime} (unconnected : device.Unconnected) (connection : Connection) :
    ChargedOnce device connection ↔ connection.JudgedOnce := by
  obtain ⟨counted, own⟩ := unconnected.charges connection
  have abandoned := @Connection.abandoned_iff connection
  constructor
  · intro charged
    constructor
    · have most := charged.atMostOnce
      omega
    · intro spared
      have none := charged.never spared
      rw [none, List.length_nil] at counted
      omega
  · intro judged
    have once := judged.once
    cases left : connection.abandoned with
    | true =>
      obtain ⟨silent, refused, remote⟩ := abandoned.mp left
      have single : (device.charges connection).length = 1 := by rw [counted, silent, left]; rfl
      refine ⟨single.le, own, fun _ _ => single, ?_⟩
      rintro (succeeded | inTime)
      · rw [refused] at succeeded
        cases succeeded
      · rw [Connection.endedLocally_of_inTime inTime] at remote
        cases remote
    | false =>
      rw [left, Bool.toNat_false, Nat.add_zero] at counted
      refine ⟨counted.trans_le once, own, ?_, ?_⟩
      · intro refused remote
        by_contra other
        have silent : connection.verdicts = 0 := by omega
        rw [abandoned.mpr ⟨silent, refused, remote⟩] at left
        cases left
      · intro spared
        rw [judged.spared spared] at counted
        exact List.length_eq_zero_iff.mp counted

/-- The device after a run of connections since it was powered on. -/
def afterConnections (bonds : BleBondCache) (connections : List Connection) : BleUptime :=
  Runs.run BleUptime.connect (.poweredOn bonds) connections

theorem afterConnections_unconnected (bonds : BleBondCache) (connections : List Connection) :
    (afterConnections bonds connections).Unconnected := BleUptime.Unconnected.run ⟨rfl, rfl⟩ connections

theorem connections_charged_iff (bonds : BleBondCache) (connections : List Connection) :
    (∀ earlier connection later, connections = earlier ++ connection :: later →
      ChargedOnce (afterConnections bonds earlier) connection) ↔
      ∀ connection ∈ connections, connection.JudgedOnce := by
  have unconnected := afterConnections_unconnected bonds
  constructor
  · intro charged connection listed
    obtain ⟨earlier, later, split⟩ := List.append_of_mem listed
    exact (chargedOnce_iff (unconnected earlier) connection).mp (charged earlier connection later split)
  · rintro judged earlier connection later rfl
    exact (chargedOnce_iff (unconnected earlier) connection).mpr (judged connection (by simp))

/-- The throttle is one that its calls lead to, and the failures it still knows are the latest ones recorded. -/
structure Follows (ble : ObservedSerialBLEInterface) (now : Nat) (calls : List (Nat × ThrottleCall)) : Prop where
  throttle : ble.authThrottle = (deviceAfter calls).throttle
  past : (deviceAfter calls).now ≤ now
  latest : (historyAfter calls).failures.map Prod.fst <+: (ble.recorded.map Prod.fst).reverse

namespace Follows

variable {ble : ObservedSerialBLEInterface} {now : Nat} {calls : List (Nat × ThrottleCall)}

theorem kept (follows : Follows ble now calls) {other : ObservedSerialBLEInterface} {later : Nat}
    (same : other.authThrottle = ble.authThrottle) (known : other.recorded = ble.recorded) (ordered : now ≤ later) :
    Follows other later calls :=
  ⟨same.trans follows.throttle, follows.past.trans ordered, known ▸ follows.latest⟩

theorem failure (follows : Follows ble now calls) :
    Follows (ble.recordAuthenticationFailure (stamp now)) now
      (calls ++ [(now - (deviceAfter calls).now, .recordFailure ble.connectingPeer)]) := by
  have reached : (deviceAfter calls).now + (now - (deviceAfter calls).now) = now := Nat.add_sub_of_le follows.past
  constructor
  · simp only [deviceAfter, Runs.run_concat, Uptime.step] at reached ⊢
    rw [reached, ObservedSerialBLEInterface.recordAuthenticationFailure, follows.throttle]
    rfl
  · simp only [deviceAfter, Runs.run_concat, Uptime.step] at reached ⊢
    exact reached.le
  · simp only [historyAfter, Runs.run_concat, History.step, ObservedSerialBLEInterface.recordAuthenticationFailure,
      List.map_append, List.map_cons, List.map_nil, List.reverse_append, List.reverse_cons, List.reverse_nil,
      List.nil_append, List.cons_append, List.cons_prefix_cons, true_and]
    exact follows.latest

theorem success (follows : Follows ble now calls) {other : ObservedSerialBLEInterface}
    (cleared : other.authThrottle = .recordSuccess) :
    Follows other now (calls ++ [(now - (deviceAfter calls).now, .recordSuccess)]) := by
  have reached : (deviceAfter calls).now + (now - (deviceAfter calls).now) = now := Nat.add_sub_of_le follows.past
  constructor
  · simp only [deviceAfter, Runs.run_concat, Uptime.step]
    exact cleared
  · simp only [deviceAfter, Runs.run_concat, Uptime.step] at reached ⊢
    exact reached.le
  · simp only [historyAfter, Runs.run_concat, History.step, List.map_nil]
    exact List.nil_prefix

end Follows

def Tracked (ble : ObservedSerialBLEInterface) (now : Nat) : Prop := ∃ calls, Follows ble now calls

namespace Tracked

variable {ble : ObservedSerialBLEInterface} {now : Nat}

theorem kept (tracked : Tracked ble now) {other : ObservedSerialBLEInterface} {later : Nat}
    (same : other.authThrottle = ble.authThrottle) (known : other.recorded = ble.recorded) (ordered : now ≤ later) :
    Tracked other later := by
  obtain ⟨calls, follows⟩ := tracked
  exact ⟨calls, follows.kept same known ordered⟩

theorem failure (tracked : Tracked ble now) : Tracked (ble.recordAuthenticationFailure (stamp now)) now := by
  obtain ⟨calls, follows⟩ := tracked
  exact ⟨_, follows.failure⟩

theorem onConnect (tracked : Tracked ble now) (peer : BlePeerAddress) (connId : UInt16) :
    Tracked (ble.onConnect (stamp now) peer connId) now := by
  obtain ⟨_, _, _, _, _, _, _, _, _⟩ := ble
  exact tracked.kept rfl rfl le_rfl

theorem onAuthenticationComplete (tracked : Tracked ble now) (success : Bool) :
    Tracked (ble.onAuthenticationComplete (stamp now) success) now := by
  cases success with
  | true =>
    obtain ⟨calls, follows⟩ := tracked
    exact ⟨_, follows.success rfl⟩
  | false =>
    have cancelled : Tracked { ble with authWatchdog := ble.authWatchdog.cancel } now := tracked.kept rfl rfl le_rfl
    exact cancelled.failure.kept rfl rfl le_rfl

theorem onDisconnect (tracked : Tracked ble now) : Tracked (ble.onDisconnect (stamp now)) now := by
  have cancelled : Tracked { ble with authWatchdog := ble.authWatchdog.cancel } now := tracked.kept rfl rfl le_rfl
  unfold ObservedSerialBLEInterface.onDisconnect
  cases ble.authWatchdog.armed && !ble.authenticationCompleted && !ble.localDisable with
  | true => exact cancelled.failure.kept rfl rfl le_rfl
  | false => exact cancelled.kept rfl rfl le_rfl

theorem checkRecvFrame (tracked : Tracked ble now) : Tracked (ble.checkRecvFrame (stamp now)).2 now := by
  unfold ObservedSerialBLEInterface.checkRecvFrame
  cases ble.authWatchdog.takeExpired (stamp now) with
  | none => exact tracked
  | some expired =>
    have completed : Tracked { ble with authWatchdog := expired.2, authenticationCompleted := true } now :=
      tracked.kept rfl rfl le_rfl
    exact completed.failure

theorem baseDisable (tracked : Tracked ble now) (reported : Bool) :
    Tracked (ble.baseDisable (stamp now) reported) now := by
  cases reported with
  | true => exact tracked.onDisconnect
  | false => exact tracked

theorem disable (tracked : Tracked ble now) (reported : Bool) : Tracked (ble.disable (stamp now) reported) now := by
  have stopping : Tracked { ble with
    localDisable := true, authenticationCompleted := true, authWatchdog := ble.authWatchdog.cancel } now :=
    tracked.kept rfl rfl le_rfl
  exact (stopping.baseDisable reported).kept rfl rfl le_rfl

theorem removeAllBonds (tracked : Tracked ble now) (enabled purged reported : Bool) :
    Tracked (ble.removeAllBonds (stamp now) enabled purged reported).2 now := by
  have stopping : Tracked { ble with localDisable := true, authenticationCompleted := true } now :=
    tracked.kept rfl rfl le_rfl
  have stopped := (stopping.baseDisable reported).kept rfl rfl le_rfl
  cases enabled with
  | true => cases purged <;> exact stopped.kept rfl rfl le_rfl
  | false => cases purged <;> exact tracked.kept rfl rfl le_rfl

variable {device : BleUptime}

theorem later (tracked : Tracked device.ble device.now) (wait : Nat) : Tracked device.ble (device.now + wait) :=
  tracked.kept rfl rfl (Nat.le_add_right ..)

theorem localStep (tracked : Tracked device.ble device.now) (event : Nat × LocalCall) :
    Tracked (device.localStep event).ble (device.localStep event).now := by
  obtain ⟨wait, call⟩ := event
  have waited := tracked.later wait
  cases call with
  | checkRecvFrame => exact waited.checkRecvFrame
  | disable => exact waited.disable false
  | removeAllBonds enabled purged => exact waited.removeAllBonds enabled purged false

theorem connectionStep (tracked : Tracked device.ble device.now) (event : Nat × ConnectionCall) :
    Tracked (device.connectionStep event).ble (device.connectionStep event).now := by
  obtain ⟨wait, call⟩ := event
  cases call with
  | authenticationComplete success => exact (tracked.later wait).onAuthenticationComplete success
  | device call => exact tracked.localStep (wait, call)

theorem ended (tracked : Tracked device.ble device.now) (wait : Nat) (ending : Ending) :
    Tracked (device.call wait ending.apply).ble (device.now + wait) := by
  have waited := tracked.later wait
  cases ending with
  | disconnected => exact waited.onDisconnect
  | disabled => exact waited.disable true
  | purged complete => exact waited.removeAllBonds true complete true

theorem localCalls (tracked : Tracked device.ble device.now) (events : List (Nat × LocalCall)) :
    Tracked (Runs.run BleUptime.localStep device events).ble (Runs.run BleUptime.localStep device events).now :=
  Runs.run_invariant (fun device : BleUptime => Tracked device.ble device.now) tracked
    (fun _ event holds => holds.localStep event) events

theorem connectionCalls (tracked : Tracked device.ble device.now) (events : List (Nat × ConnectionCall)) :
    Tracked (Runs.run BleUptime.connectionStep device events).ble
      (Runs.run BleUptime.connectionStep device events).now :=
  Runs.run_invariant (fun device : BleUptime => Tracked device.ble device.now) tracked
    (fun _ event holds => holds.connectionStep event) events

theorem connect (tracked : Tracked device.ble device.now) (connection : Connection) :
    Tracked (device.connect connection).ble (device.connect connection).now := by
  have idle := tracked.localCalls connection.idle
  have connected : Tracked ((Runs.run BleUptime.localStep device connection.idle).call connection.wait
      fun ble nowMs => ble.onConnect nowMs connection.peer connection.connId).ble
      ((Runs.run BleUptime.localStep device connection.idle).now + connection.wait) :=
    (idle.later connection.wait).onConnect connection.peer connection.connId
  exact (connected.connectionCalls connection.calls).ended connection.lastWait connection.ending

end Tracked

theorem afterConnections_tracked (bonds : BleBondCache) (connections : List Connection) :
    Tracked (afterConnections bonds connections).ble (afterConnections bonds connections).now :=
  Runs.run_invariant (fun device : BleUptime => Tracked device.ble device.now)
    ⟨[], rfl, le_rfl, List.nil_prefix⟩ (fun _ connection holds => holds.connect connection) connections

/-- Where every connection is judged once, the lock-out grows by one failure a connection at most. -/
theorem globalFailures_le_connections (bonds : BleBondCache) {connections : List Connection}
    (judged : ∀ connection ∈ connections, connection.JudgedOnce) :
    (afterConnections bonds connections).ble.authThrottle.globalFailures.toNat ≤ connections.length := by
  have recorded : (afterConnections bonds connections).ble.recorded.length ≤ connections.length := by
    induction connections using List.reverseRecOn with
    | nil => exact le_rfl
    | append_singleton earlier connection ih =>
      have before := ih fun other listed => judged other (List.mem_append_left _ listed)
      have unconnected := afterConnections_unconnected bonds earlier
      have charged := (chargedOnce_iff unconnected connection).mpr (judged connection (by simp))
      have once := charged.atMostOnce
      rw [BleUptime.charges, List.length_drop] at once
      rw [afterConnections, Runs.run_concat, List.length_append, List.length_singleton]
      unfold afterConnections at before once
      omega
  obtain ⟨calls, follows⟩ := afterConnections_tracked bonds connections
  have counted := (tracks_after calls).counted
  have latest := follows.latest.length_le
  rw [List.length_map, List.length_reverse, List.length_map] at latest
  rw [follows.throttle, counted]
  omega

/-- Two pairings that are refused with one that succeeds between them, one that the watchdog ends, and one whose bonds
    are removed in time. -/
def pairings : List Connection :=
  [⟨[], 0, 1, 7, [(20, .authenticationComplete false)], 5, .disconnected⟩,
    ⟨[], 60000, 4, 7, [(900, .authenticationComplete true), (40000, .device .checkRecvFrame)], 5, .disconnected⟩,
    ⟨[(10, .checkRecvFrame), (3, .disable)], 40, 2, 7, [(20, .authenticationComplete false)], 5, .disconnected⟩,
    ⟨[], 5000, 1, 8, [(30000, .device .checkRecvFrame)], 5, .disconnected⟩,
    ⟨[(1, .removeAllBonds false true)], 9, 3, 7, [(20, .device .checkRecvFrame)], 70, .purged true⟩]

theorem globalFailures_le_pairings : (afterConnections [] pairings).ble.authThrottle.globalFailures = 2 ∧
    (afterConnections [] pairings).ble.authThrottle.globalFailures.toNat ≤ pairings.length := by
  refine ⟨rfl, globalFailures_le_connections [] fun connection listed => ?_⟩
  simp only [pairings, List.mem_cons, List.not_mem_nil, or_false] at listed
  rcases listed with rfl | rfl | rfl | rfl | rfl
  all_goals exact ⟨by decide, by decide⟩

/-- The watchdog disconnects a peer in the middle of its pairing, which the stack then reports as failed. -/
def timedOutPairing : Connection :=
  ⟨[], 0, 1, 7, [(30000, .device .checkRecvFrame), (20, .authenticationComplete false)], 5, .disconnected⟩

/-- The bonds are removed just before the time limit, and the stack reports the disconnect just after it. -/
def purgedInTime : Connection :=
  ⟨[], 0, 1, 7, [(29990, .device (.removeAllBonds true true)), (20, .device .checkRecvFrame)], 5, .disconnected⟩

theorem timedOutPairing_chargedTwice : ¬ ChargedOnce (afterConnections [] []) timedOutPairing ∧
    ¬ ChargedOnce (afterConnections [] []) purgedInTime := by
  constructor
  · intro charged
    exact absurd charged.atMostOnce (by decide)
  · intro charged
    have none := charged.never (.inr (by decide))
    revert none
    decide

end SigurdOS.Comms
