import SigurdOS.Comms.BleAuthThrottle

namespace SigurdOS.Comms

def blePinResponseGraceMs : UInt32 := 1000
def bleBondPurgeRetryMs : UInt32 := 250
def bleBondCacheCapacity : Nat := 15
def companionBlePinMin : UInt32 := 100000
def companionBlePinMax : UInt32 := 999999

structure BleBondRotationState where
  nextActionMs : UInt32
  pending : Bool
  purgeStarted : Bool
  deriving DecidableEq

namespace BleBondRotationState

def clear : BleBondRotationState := ⟨0, false, false⟩

def request (nowMs : UInt32) (responseGrace : Bool) : BleBondRotationState where
  nextActionMs := nowMs + if responseGrace then blePinResponseGraceMs else 0
  pending := true
  purgeStarted := false

variable (state : BleBondRotationState) (nowMs : UInt32)

def actionDue : Bool := state.pending && decide ((nowMs - state.nextActionMs).toInt32 ≥ 0)

def purgeSubmitted : BleBondRotationState :=
  { state with purgeStarted := true, nextActionMs := nowMs + bleBondPurgeRetryMs }

def retryLater : BleBondRotationState := { state with nextActionMs := nowMs + bleBondPurgeRetryMs }

def expedite : BleBondRotationState :=
  if state.pending && !state.purgeStarted then { state with nextActionMs := nowMs } else state

end BleBondRotationState

/-- What `NodePrefs` keeps about BLE. -/
structure BlePrefs where
  blePin : UInt32
  bleEnabled : Bool
  bleBondResetPending : Bool
  deriving DecidableEq

/-- An entry of the bond database, with the count of PINs up to the one it was made under. -/
structure BleBond where
  peer : BlePeerAddress
  epoch : Nat
  deriving DecidableEq

/-- A device with its BLE stack. `removals` are submitted and not completed. The last four fields are not in the code:
    the count of PINs committed, the one the stack was configured with, the one whose rotation has stopped the service
    last, and whether the device was booted with the marker set and bonds are left since then. -/
structure BleDevice where
  prefs : BlePrefs
  rotation : BleBondRotationState
  initialized : Bool
  serviceEnabled : Bool
  connected : Bool
  bonds : List BleBond
  removals : List BlePeerAddress
  epoch : Nat
  stackEpoch : Nat
  stopped : Nat
  held : Bool
  deriving DecidableEq

namespace BleDevice

variable (d : BleDevice)

def isEnabled : Bool := d.initialized && d.serviceEnabled

def isConnected : Bool := d.initialized && d.connected

def initializeConfigured (works : Bool) : BleDevice := { d with initialized := d.initialized || works }

def enable (works : Bool) : BleDevice :=
  let d := d.initializeConfigured works
  if d.initialized then { d with serviceEnabled := true } else d

def disable : BleDevice := if d.initialized then { d with serviceEnabled := false, connected := false } else d

structure PurgeFaults where
  initializes : Bool
  counts : Bool
  lists : Bool
  refused : List BlePeerAddress

def stopService : BleDevice := { (if d.serviceEnabled then d.disable else d) with stopped := d.epoch }

def removeAllBonds (faults : PurgeFaults) : Bool × BleDevice :=
  let d := d.initializeConfigured faults.initializes
  if !d.initialized then (false, d)
  else
    let d := d.stopService
    if !faults.counts then (false, d)
    else if d.bonds.isEmpty then (true, d)
    else if d.bonds.length > bleBondCacheCapacity then (false, d)
    else if !faults.lists then (false, d)
    else
      let submitted := (d.bonds.map BleBond.peer).filter fun peer => !faults.refused.contains peer
      (submitted.length == d.bonds.length, { d with removals := d.removals ++ submitted })

def bondedDeviceCount (reads : Bool) : Option Nat := if d.initialized && reads then some d.bonds.length else none

structure BootFaults where
  random : UInt32
  commits : Bool
  initializes : Bool

def generateRandomBlePin (faults : BootFaults) : BleDevice :=
  if d.prefs.blePin ≠ 0 || !faults.commits then d
  else
    { d with
      prefs := { d.prefs with
        blePin := companionBlePinMin + faults.random % (companionBlePinMax - companionBlePinMin + 1) }
      epoch := d.epoch + 1 }

/-- `companionAdapterInit` on a device that has just been switched on. -/
def boot (nowMs : UInt32) (faults : BootFaults) : BleDevice :=
  let d := { d with
    rotation := .clear, initialized := false, serviceEnabled := false, connected := false, held := false }
  let d := d.generateRandomBlePin faults
  let d := { d with stackEpoch := d.epoch }
  if d.prefs.bleBondResetPending then { d with rotation := .request nowMs false, held := true }
  else if d.prefs.bleEnabled then d.enable faults.initializes
  else d

structure ServiceFaults where
  purge : PurgeFaults
  counts : Bool
  commits : Bool
  boot : BootFaults

def purgeOrRetry (nowMs : UInt32) (faults : PurgeFaults) : BleDevice :=
  match d.removeAllBonds faults with
  | (true, d) => { d with rotation := d.rotation.purgeSubmitted nowMs }
  | (false, d) => { d with rotation := d.rotation.retryLater nowMs }

def serviceBleBondRotation (nowMs : UInt32) (faults : ServiceFaults) : BleDevice :=
  if !d.rotation.pending then d
  else
    let d :=
      if !d.rotation.purgeStarted && !d.isConnected then { d with rotation := d.rotation.expedite nowMs } else d
    if !d.rotation.actionDue nowMs then d
    else if !d.rotation.purgeStarted then d.purgeOrRetry nowMs faults.purge
    else
      match d.bondedDeviceCount faults.counts with
      | some 0 =>
        if faults.commits then
          { d with prefs := { d.prefs with bleBondResetPending := false } }.boot nowMs faults.boot
        else { d with rotation := d.rotation.retryLater nowMs }
      | some (_ + 1) => d.purgeOrRetry nowMs faults.purge
      | none => { d with rotation := d.rotation.retryLater nowMs }

def companionBlePinValid (pin : UInt32) : Bool :=
  pin == 0 || (decide (pin ≥ companionBlePinMin) && decide (pin ≤ companionBlePinMax))

def setBlePin (pin nowMs : UInt32) (commits : Bool) : Bool × BleDevice :=
  if !companionBlePinValid pin then (false, d)
  else if !commits then (false, d)
  else
    (true, { d with
      prefs := { d.prefs with blePin := pin, bleBondResetPending := true }
      rotation := .request nowMs true
      epoch := d.epoch + 1 })

/-- `CompanionBridge::setEnabled`, which is `transport_set_enabled` for BLE but for the sessions of the bridge. -/
def setEnabled (enabled initializes : Bool) : Bool × BleDevice :=
  let d := if enabled then d.enable initializes else d.disable
  (d.isEnabled == enabled, d)

structure EnableFaults where
  initializes : Bool
  commits : Bool
  reinitializes : Bool

def companionBleSetEnabled (enabled : Bool) (faults : EnableFaults) : Bool × BleDevice :=
  let previous := d.isEnabled
  match d.setEnabled enabled faults.initializes with
  | (false, d) => (false, d)
  | (true, d) =>
    if !faults.commits then (false, (d.setEnabled previous faults.reinitializes).2)
    else (true, { d with prefs := { d.prefs with bleEnabled := enabled } })

def companionBleOpenPairingWindow : Bool × BleDevice := (d.isEnabled, d)

/-- What the device's user, its companion and its BLE stack do. A peer bonds under the PIN that the stack was
    configured with. -/
inductive Event where
  | setBlePin (pin nowMs : UInt32) (commits : Bool)
  | service (nowMs : UInt32) (faults : ServiceFaults)
  | companionBleSetEnabled (enabled : Bool) (faults : EnableFaults)
  | transportSetEnabled (enabled initializes : Bool)
  | openPairingWindow
  | connect
  | disconnect
  | bond (peer : BlePeerAddress)
  | removed (peer : BlePeerAddress)
  | reboot (nowMs : UInt32) (faults : BootFaults)

def act : Event → BleDevice
  | .setBlePin pin nowMs commits => (d.setBlePin pin nowMs commits).2
  | .service nowMs faults => d.serviceBleBondRotation nowMs faults
  | .companionBleSetEnabled enabled faults => (d.companionBleSetEnabled enabled faults).2
  | .transportSetEnabled enabled initializes => (d.setEnabled enabled initializes).2
  | .openPairingWindow => d.companionBleOpenPairingWindow.2
  | .connect => if d.isEnabled then { d with connected := true } else d
  | .disconnect => { d with connected := false }
  | .bond peer =>
    if d.isEnabled then { d with bonds := d.bonds.filter (·.peer != peer) ++ [⟨peer, d.stackEpoch⟩] } else d
  | .removed peer =>
    if d.removals.contains peer then
      { d with bonds := d.bonds.filter (·.peer != peer), removals := d.removals.erase peer }
    else d
  | .reboot nowMs faults => d.boot nowMs faults

def step (event : Event) : BleDevice :=
  { d.act event with held := (d.act event).held && !(d.act event).bonds.isEmpty }

/-- A device as it is switched on first, with what its flash and its bond database hold. -/
def start (prefs : BlePrefs) (peers : List BlePeerAddress) (nowMs : UInt32) (faults : BootFaults) : BleDevice :=
  let d : BleDevice := ⟨prefs, .clear, false, false, false, peers.map (⟨·, 0⟩), [], 0, 0, 0, false⟩
  d.step (.reboot nowMs faults)

/-- A service that this call starts finds no bond made under an earlier PIN, and runs under the PIN that counts. -/
def StartsClean (initializes : Bool) : Prop :=
  d.isEnabled = true ∨ (d.initialized = false ∧ initializes = false) ∨
    (d.held = false ∧ d.stopped ≤ d.stackEpoch ∧ ∀ bond ∈ d.bonds, d.stopped ≤ bond.epoch)

def Calm : Event → Prop
  | .companionBleSetEnabled true faults => d.StartsClean faults.initializes
  | .transportSetEnabled true initializes => d.StartsClean initializes
  | _ => True

/-- The service does not run beside a bond that its rotation is to remove, nor while a boot holds it back. -/
structure Withheld : Prop where
  rotated : d.isEnabled = true → ∀ bond ∈ d.bonds, d.stopped ≤ bond.epoch
  held : d.held = true → d.isEnabled = false

/-- The marker goes only when the count was read as 0 after a purge was submitted. -/
def ClearsWhenEmpty (event : Event) : Prop :=
  d.prefs.bleBondResetPending = true → (d.step event).prefs.bleBondResetPending = false →
    ∃ nowMs faults, event = .service nowMs faults ∧ d.rotation.purgeStarted = true ∧
      d.bondedDeviceCount faults.counts = some 0

structure Guarded : Prop where
  stopped : d.stopped ≤ d.epoch
  marked : d.rotation.pending = true → d.prefs.bleBondResetPending = true
  unmarked : d.prefs.bleBondResetPending = false → ∀ bond ∈ d.bonds, d.stopped ≤ bond.epoch
  serving : d.isEnabled = true → d.stopped ≤ d.stackEpoch ∧ ∀ bond ∈ d.bonds, d.stopped ≤ bond.epoch
  held : d.held = true → d.isEnabled = false

variable {d} {after : BleDevice}

theorem Guarded.withheld (guarded : Guarded d) : Withheld d :=
  ⟨fun enabled => (guarded.serving enabled).2, guarded.held⟩

structure Purged (d after : BleDevice) : Prop where
  prefs : after.prefs = d.prefs
  rotation : after.rotation = d.rotation
  bonds : after.bonds = d.bonds
  epoch : after.epoch = d.epoch
  stopped : after.stopped = d.stopped ∨ after.stopped = d.epoch
  off : after.isEnabled = false

theorem removeAllBonds_purged {faults : PurgeFaults} {ok : Bool} (done : d.removeAllBonds faults = (ok, after)) :
    Purged d after := by
  unfold removeAllBonds at done
  dsimp only at done
  split at done
  · rename_i failed
    obtain ⟨-, rfl⟩ := Prod.mk.inj done
    refine ⟨rfl, rfl, rfl, rfl, Or.inl rfl, ?_⟩
    rw [isEnabled, show (d.initializeConfigured faults.initializes).initialized = false by simpa using failed,
      Bool.false_and]
  · rename_i works
    have works : (d.initializeConfigured faults.initializes).initialized = true := by simpa using works
    have off : Purged d (d.initializeConfigured faults.initializes).stopService := by
      unfold stopService disable
      rw [if_pos works]
      split
      · refine ⟨rfl, rfl, rfl, rfl, Or.inr rfl, ?_⟩
        rw [isEnabled, Bool.and_false]
      · rename_i still
        refine ⟨rfl, rfl, rfl, rfl, Or.inr rfl, ?_⟩
        unfold isEnabled
        dsimp only
        rw [Bool.eq_false_iff.mpr still, Bool.and_false]
    generalize (d.initializeConfigured faults.initializes).stopService = halted at done off
    split at done
    · exact (Prod.mk.inj done).2 ▸ off
    split at done
    · exact (Prod.mk.inj done).2 ▸ off
    split at done
    · exact (Prod.mk.inj done).2 ▸ off
    split at done
    · exact (Prod.mk.inj done).2 ▸ off
    · obtain ⟨-, rfl⟩ := Prod.mk.inj done
      exact ⟨off.prefs, off.rotation, off.bonds, off.epoch, off.stopped, off.off⟩

theorem Guarded.of_marked (stopped : d.stopped ≤ d.epoch) (marked : d.prefs.bleBondResetPending = true)
    (off : d.isEnabled = false) : Guarded d where
  stopped := stopped
  marked _ := marked
  unmarked unmarked := absurd (unmarked.symm.trans marked) nofun
  serving enabled := absurd (off.symm.trans enabled) nofun
  held _ := off

theorem Guarded.purgeOrRetry (guarded : Guarded d) (marked : d.prefs.bleBondResetPending = true) (nowMs : UInt32)
    (faults : PurgeFaults) : Guarded (d.purgeOrRetry nowMs faults) := by
  have purges {ok : Bool} {after : BleDevice} (done : d.removeAllBonds faults = (ok, after))
      (rotation : BleBondRotationState) : Guarded { after with rotation := rotation } := by
    have purged := removeAllBonds_purged done
    refine .of_marked ?_ ?_ purged.off
    · have bound := guarded.stopped
      have epoch : after.epoch = d.epoch := purged.epoch
      show after.stopped ≤ after.epoch
      rcases purged.stopped with same | same <;> omega
    · exact (congrArg BlePrefs.bleBondResetPending purged.prefs).trans marked
  unfold BleDevice.purgeOrRetry
  generalize done : d.removeAllBonds faults = outcome
  obtain ⟨ok, after⟩ := outcome
  cases ok with
  | true => exact purges done _
  | false => exact purges done _

theorem enable_isEnabled {works : Bool} (starts : (d.enable works).isEnabled = true) :
    d.isEnabled = true ∨ ¬ (d.initialized = false ∧ works = false) := by
  by_cases dead : d.initialized = false ∧ works = false
  · unfold enable initializeConfigured at starts
    simp [isEnabled, dead.1, dead.2] at starts
  · exact Or.inr dead

theorem enable_same (works : Bool) :
    (d.enable works).prefs = d.prefs ∧ (d.enable works).rotation = d.rotation ∧ (d.enable works).bonds = d.bonds ∧
      (d.enable works).epoch = d.epoch ∧ (d.enable works).stackEpoch = d.stackEpoch ∧
      (d.enable works).stopped = d.stopped ∧ (d.enable works).held = d.held := by
  unfold enable initializeConfigured
  dsimp only
  split
  · exact ⟨rfl, rfl, rfl, rfl, rfl, rfl, rfl⟩
  · exact ⟨rfl, rfl, rfl, rfl, rfl, rfl, rfl⟩

theorem disable_same : d.disable.prefs = d.prefs ∧ d.disable.rotation = d.rotation ∧ d.disable.bonds = d.bonds ∧
    d.disable.epoch = d.epoch ∧ d.disable.stackEpoch = d.stackEpoch ∧ d.disable.stopped = d.stopped ∧
    d.disable.held = d.held := by
  unfold disable
  split
  · exact ⟨rfl, rfl, rfl, rfl, rfl, rfl, rfl⟩
  · exact ⟨rfl, rfl, rfl, rfl, rfl, rfl, rfl⟩

theorem disable_off : d.disable.isEnabled = false := by
  unfold disable
  split
  · rw [isEnabled, Bool.and_false]
  · rename_i dead
    rw [isEnabled, Bool.eq_false_iff.mpr dead, Bool.false_and]


theorem generateRandomBlePin_same (faults : BootFaults) :
    (d.generateRandomBlePin faults).prefs.bleBondResetPending = d.prefs.bleBondResetPending ∧
      (d.generateRandomBlePin faults).rotation = d.rotation ∧ (d.generateRandomBlePin faults).bonds = d.bonds ∧
      (d.generateRandomBlePin faults).stopped = d.stopped ∧ d.epoch ≤ (d.generateRandomBlePin faults).epoch ∧
      (d.generateRandomBlePin faults).isEnabled = d.isEnabled ∧ (d.generateRandomBlePin faults).held = d.held := by
  unfold generateRandomBlePin
  split
  · exact ⟨rfl, rfl, rfl, rfl, Nat.le_refl _, rfl, rfl⟩
  · exact ⟨rfl, rfl, rfl, rfl, Nat.le_succ _, rfl, rfl⟩

theorem boot_guarded (stopped : d.stopped ≤ d.epoch)
    (unmarked : d.prefs.bleBondResetPending = false → ∀ bond ∈ d.bonds, d.stopped ≤ bond.epoch) (nowMs : UInt32)
    (faults : BootFaults) : Guarded (d.boot nowMs faults) := by
  unfold boot
  dsimp only
  obtain ⟨marker, rotation, bonds, stopped', epoch, off, released⟩ := @generateRandomBlePin_same { d with
    rotation := .clear, initialized := false, serviceEnabled := false, connected := false, held := false } faults
  generalize generateRandomBlePin { d with
    rotation := .clear, initialized := false, serviceEnabled := false, connected := false, held := false } faults =
    begun at marker rotation bonds stopped' epoch off released
  dsimp only at marker rotation bonds stopped' epoch released
  have bound : begun.stopped ≤ begun.epoch := by omega
  split
  · rename_i set
    exact .of_marked bound set off
  · rename_i unset
    have unset := Bool.eq_false_iff.mpr unset
    have fresh : ∀ bond ∈ begun.bonds, begun.stopped ≤ bond.epoch := by
      rw [bonds, stopped']
      exact unmarked (marker.symm.trans unset)
    have resting : begun.rotation.pending = false := by rw [rotation]; rfl
    split
    · obtain ⟨prefs, same, kept, counted, stack, halted, held⟩ :=
        @enable_same { begun with stackEpoch := begun.epoch } faults.initializes
      generalize enable { begun with stackEpoch := begun.epoch } faults.initializes = final at *
      dsimp only at prefs same kept counted stack halted held
      refine ⟨by omega, fun pending => ?_, fun _ => ?_, fun _ => ⟨by omega, ?_⟩, fun holds => ?_⟩
      · rw [same, resting] at pending
        cases pending
      · rw [kept, halted]
        exact fresh
      · rw [kept, halted]
        exact fresh
      · rw [held, released] at holds
        cases holds
    · refine ⟨bound, fun pending => ?_, fun _ => fresh, fun enabled => absurd (off.symm.trans enabled) nofun,
        fun _ => off⟩
      exact absurd (resting.symm.trans pending) nofun

theorem Guarded.boot (guarded : Guarded d) (nowMs : UInt32) (faults : BootFaults) : Guarded (d.boot nowMs faults) :=
  boot_guarded guarded.stopped guarded.unmarked nowMs faults

theorem Guarded.scheduled (guarded : Guarded d) {rotation : BleBondRotationState}
    (pending : rotation.pending = true → d.rotation.pending = true) : Guarded { d with rotation := rotation } :=
  ⟨guarded.stopped, fun waits => guarded.marked (pending waits), guarded.unmarked, guarded.serving, guarded.held⟩

theorem bondedDeviceCount_zero {reads : Bool} (zero : d.bondedDeviceCount reads = some 0) : d.bonds = [] := by
  unfold bondedDeviceCount at zero
  split at zero
  · exact List.length_eq_zero_iff.mp (Option.some.inj zero)
  · cases zero

theorem expedite_pending (state : BleBondRotationState) (nowMs : UInt32) :
    (state.expedite nowMs).pending = state.pending ∧ (state.expedite nowMs).purgeStarted = state.purgeStarted := by
  unfold BleBondRotationState.expedite
  split
  · exact ⟨rfl, rfl⟩
  · exact ⟨rfl, rfl⟩

theorem expedited_rotation (d : BleDevice) (nowMs : UInt32) :
    ∃ rotation : BleBondRotationState, rotation.pending = d.rotation.pending ∧
      rotation.purgeStarted = d.rotation.purgeStarted ∧
      (if !d.rotation.purgeStarted && !d.isConnected then { d with rotation := d.rotation.expedite nowMs } else d) =
        { d with rotation := rotation } := by
  split
  · exact ⟨_, (expedite_pending d.rotation nowMs).1, (expedite_pending d.rotation nowMs).2, rfl⟩
  · exact ⟨d.rotation, rfl, rfl, rfl⟩

theorem Guarded.service (guarded : Guarded d) (nowMs : UInt32) (faults : ServiceFaults) :
    Guarded (d.serviceBleBondRotation nowMs faults) := by
  obtain ⟨rotation, pending, -, expedited⟩ := expedited_rotation d nowMs
  unfold serviceBleBondRotation
  split
  · exact guarded
  rename_i waits
  have marked := guarded.marked (by simpa using waits)
  dsimp only
  rw [expedited]
  have now : Guarded { d with rotation := rotation } := guarded.scheduled fun waits => pending ▸ waits
  have later : Guarded { d with rotation := rotation.retryLater nowMs } := now.scheduled id
  split
  · exact now
  split
  · exact now.purgeOrRetry marked nowMs faults.purge
  split
  · rename_i zero
    split
    · have empty : d.bonds = [] := bondedDeviceCount_zero zero
      refine @boot_guarded { d with rotation := rotation, prefs := { d.prefs with bleBondResetPending := false } }
        guarded.stopped ?_ nowMs faults.boot
      intro _ bond inside
      rw [show bond ∈ d.bonds ↔ False by rw [empty]; simp] at inside
      exact inside.elim
    · exact later
  · exact now.purgeOrRetry marked nowMs faults.purge
  · exact later

theorem Guarded.disable (guarded : Guarded d) : Guarded d.disable := by
  obtain ⟨prefs, rotation, bonds, epoch, stack, stopped, held⟩ := @disable_same d
  refine ⟨?_, ?_, ?_, fun enabled => absurd (disable_off.symm.trans enabled) nofun, fun _ => disable_off⟩
  · rw [stopped, epoch]
    exact guarded.stopped
  · rw [prefs, rotation]
    exact guarded.marked
  · rw [prefs, bonds, stopped]
    exact guarded.unmarked

theorem Guarded.enable (guarded : Guarded d) {works : Bool} (clean : d.StartsClean works) :
    Guarded (d.enable works) := by
  obtain ⟨prefs, rotation, bonds, epoch, stack, stopped, held⟩ := @enable_same d works
  refine ⟨?_, ?_, ?_, fun starts => ?_, fun holds => ?_⟩
  · rw [stopped, epoch]
    exact guarded.stopped
  · rw [prefs, rotation]
    exact guarded.marked
  · rw [prefs, bonds, stopped]
    exact guarded.unmarked
  · rw [stopped, stack, bonds]
    rcases clean with enabled | dead | ⟨-, current, fresh⟩
    · exact guarded.serving enabled
    · exact guarded.serving ((enable_isEnabled starts).resolve_right fun alive => alive dead)
    · exact ⟨current, fresh⟩
  · rw [held] at holds
    by_contra starts
    have starts : (d.enable works).isEnabled = true := by simpa using starts
    rcases enable_isEnabled starts with enabled | alive
    · exact absurd ((guarded.held holds).symm.trans enabled) nofun
    · rcases clean with enabled | dead | ⟨released, -⟩
      · exact absurd ((guarded.held holds).symm.trans enabled) nofun
      · exact alive dead
      · exact absurd (released.symm.trans holds) nofun

theorem Guarded.companionBleSetEnabled (guarded : Guarded d) {enabled : Bool} {faults : EnableFaults}
    (clean : enabled = true → d.StartsClean faults.initializes) :
    Guarded (d.companionBleSetEnabled enabled faults).2 := by
  have set : Guarded (d.setEnabled enabled faults.initializes).2 := by
    cases enabled with
    | false => exact guarded.disable
    | true => exact guarded.enable (clean rfl)
  have undo (done : (d.setEnabled enabled faults.initializes).1 = true) :
      Guarded ((d.setEnabled enabled faults.initializes).2.setEnabled d.isEnabled faults.reinitializes).2 := by
    cases previous : d.isEnabled with
    | false => exact set.disable
    | true =>
      refine set.enable ?_
      cases enabled with
      | true => exact Or.inl (eq_of_beq done)
      | false =>
        obtain ⟨-, -, bonds, -, stack, stopped, held⟩ := @disable_same d
        obtain ⟨current, fresh⟩ := guarded.serving previous
        have released : d.held = false := by
          by_contra holds
          exact absurd ((guarded.held (by simpa using holds)).symm.trans previous) nofun
        refine Or.inr (Or.inr ⟨held.trans released, ?_, ?_⟩)
        · exact stopped.symm ▸ stack.symm ▸ current
        · exact stopped.symm ▸ bonds.symm ▸ fresh
  unfold BleDevice.companionBleSetEnabled
  generalize d.setEnabled enabled faults.initializes = outcome at set undo
  obtain ⟨ok, after⟩ := outcome
  cases ok with
  | false => exact set
  | true =>
    dsimp only
    split
    · exact undo rfl
    · exact ⟨set.stopped, set.marked, set.unmarked, set.serving, set.held⟩

theorem Guarded.setBlePin (guarded : Guarded d) (pin nowMs : UInt32) (commits : Bool) :
    Guarded (d.setBlePin pin nowMs commits).2 := by
  unfold BleDevice.setBlePin
  split
  · exact guarded
  split
  · exact guarded
  · exact ⟨Nat.le_succ_of_le guarded.stopped, fun _ => rfl, nofun, guarded.serving, guarded.held⟩

theorem Guarded.bonded (guarded : Guarded d) {bonds : List BleBond} {removals : List BlePeerAddress}
    (source : ∀ bond ∈ bonds, bond ∈ d.bonds ∨ d.isEnabled = true ∧ bond.epoch = d.stackEpoch) :
    Guarded { d with bonds := bonds, removals := removals } := by
  have fresh (before : ∀ bond ∈ d.bonds, d.stopped ≤ bond.epoch) : ∀ bond ∈ bonds, d.stopped ≤ bond.epoch := by
    intro bond inside
    rcases source bond inside with old | ⟨enabled, new⟩
    · exact before bond old
    · rw [new]
      exact (guarded.serving enabled).1
  exact ⟨guarded.stopped, guarded.marked, fun unmarked => fresh (guarded.unmarked unmarked),
    fun enabled => ⟨(guarded.serving enabled).1, fresh (guarded.serving enabled).2⟩, guarded.held⟩

theorem Guarded.act (guarded : Guarded d) {event : Event} (calm : d.Calm event) : Guarded (d.act event) := by
  cases event with
  | setBlePin pin nowMs commits => exact guarded.setBlePin pin nowMs commits
  | service nowMs faults => exact guarded.service nowMs faults
  | companionBleSetEnabled enabled faults =>
    cases enabled with
    | false => exact guarded.companionBleSetEnabled nofun
    | true => exact guarded.companionBleSetEnabled fun _ => calm
  | transportSetEnabled enabled initializes =>
    cases enabled with
    | false => exact guarded.disable
    | true => exact guarded.enable calm
  | openPairingWindow => exact guarded
  | connect =>
    unfold BleDevice.act
    dsimp only
    split
    · exact ⟨guarded.stopped, guarded.marked, guarded.unmarked, guarded.serving, guarded.held⟩
    · exact guarded
  | disconnect => exact ⟨guarded.stopped, guarded.marked, guarded.unmarked, guarded.serving, guarded.held⟩
  | bond peer =>
    unfold BleDevice.act
    dsimp only
    split
    · rename_i enabled
      refine guarded.bonded fun bond inside => ?_
      rcases List.mem_append.mp inside with old | new
      · exact Or.inl (List.mem_filter.mp old).1
      · rw [List.mem_singleton.mp new]
        exact Or.inr ⟨enabled, rfl⟩
    · exact guarded
  | removed peer =>
    unfold BleDevice.act
    dsimp only
    split
    · exact guarded.bonded fun bond inside => Or.inl (List.mem_filter.mp inside).1
    · exact guarded
  | reboot nowMs faults => exact guarded.boot nowMs faults

theorem Guarded.step (guarded : Guarded d) {event : Event} (calm : d.Calm event) : Guarded (d.step event) := by
  have after := guarded.act calm
  refine ⟨after.stopped, after.marked, after.unmarked, after.serving, fun holds => after.held ?_⟩
  exact (Bool.and_eq_true_iff.mp holds).1

theorem start_guarded (prefs : BlePrefs) (peers : List BlePeerAddress) (nowMs : UInt32) (faults : BootFaults) :
    Guarded (start prefs peers nowMs faults) := by
  have medium : Guarded ⟨prefs, .clear, false, false, false, peers.map (⟨·, 0⟩), [], 0, 0, 0, false⟩ :=
    ⟨Nat.le_refl _, nofun, fun _ _ _ => Nat.zero_le _, nofun, nofun⟩
  exact medium.step trivial

theorem setEnabled_prefs (enabled initializes : Bool) : (d.setEnabled enabled initializes).2.prefs = d.prefs := by
  cases enabled with
  | false => exact disable_same.1
  | true => exact (enable_same initializes).1

theorem boot_marker (nowMs : UInt32) (faults : BootFaults) :
    (d.boot nowMs faults).prefs.bleBondResetPending = d.prefs.bleBondResetPending := by
  unfold boot
  dsimp only
  obtain ⟨marker, -⟩ := @generateRandomBlePin_same { d with
    rotation := .clear, initialized := false, serviceEnabled := false, connected := false, held := false } faults
  split
  · exact marker
  split
  · rw [(enable_same faults.initializes).1]
    exact marker
  · exact marker

theorem purgeOrRetry_prefs (nowMs : UInt32) (faults : PurgeFaults) : (d.purgeOrRetry nowMs faults).prefs = d.prefs := by
  unfold purgeOrRetry
  generalize done : d.removeAllBonds faults = outcome
  obtain ⟨ok, after⟩ := outcome
  cases ok with
  | true => exact (removeAllBonds_purged done).prefs
  | false => exact (removeAllBonds_purged done).prefs

theorem service_clears {nowMs : UInt32} {faults : ServiceFaults} (set : d.prefs.bleBondResetPending = true)
    (cleared : (d.serviceBleBondRotation nowMs faults).prefs.bleBondResetPending = false) :
    d.rotation.purgeStarted = true ∧ d.bondedDeviceCount faults.counts = some 0 := by
  have kept {after : BleDevice} (same : after.prefs = d.prefs) (gone : after.prefs.bleBondResetPending = false) :
      False := by
    rw [same, set] at gone
    cases gone
  obtain ⟨rotation, -, started, expedited⟩ := expedited_rotation d nowMs
  have purged : (purgeOrRetry { d with rotation := rotation } nowMs faults.purge).prefs = d.prefs :=
    purgeOrRetry_prefs nowMs faults.purge
  unfold serviceBleBondRotation at cleared
  split at cleared
  · exact (kept rfl cleared).elim
  dsimp only at cleared
  rw [expedited] at cleared
  split at cleared
  · exact (kept rfl cleared).elim
  split at cleared
  · exact (kept purged cleared).elim
  rename_i purging
  split at cleared
  · rename_i zero
    exact ⟨started ▸ (by simpa using purging), zero⟩
  · exact (kept purged cleared).elim
  · exact (kept rfl cleared).elim

theorem clears_when_empty (d : BleDevice) (event : Event) : d.ClearsWhenEmpty event := by
  intro set cleared
  have kept (same : (d.act event).prefs.bleBondResetPending = d.prefs.bleBondResetPending) : False := by
    have gone : (d.act event).prefs.bleBondResetPending = false := cleared
    rw [same, set] at gone
    cases gone
  cases event with
  | service nowMs faults => exact ⟨nowMs, faults, rfl, service_clears set cleared⟩
  | setBlePin pin nowMs commits =>
    refine (kept ?_).elim
    unfold act setBlePin
    dsimp only
    split
    · rfl
    split
    · rfl
    · exact set.symm
  | companionBleSetEnabled enabled faults =>
    refine (kept ?_).elim
    unfold act companionBleSetEnabled
    dsimp only
    have same := @setEnabled_prefs d enabled faults.initializes
    generalize d.setEnabled enabled faults.initializes = outcome at same
    obtain ⟨ok, after⟩ := outcome
    cases ok with
    | false => exact congrArg BlePrefs.bleBondResetPending same
    | true =>
      dsimp only
      split
      · exact congrArg BlePrefs.bleBondResetPending ((setEnabled_prefs _ _).trans same)
      · rw [← same]
  | transportSetEnabled enabled initializes =>
    exact (kept (congrArg BlePrefs.bleBondResetPending (setEnabled_prefs enabled initializes))).elim
  | openPairingWindow => exact (kept rfl).elim
  | connect => exact (kept (by unfold act; dsimp only; split <;> rfl)).elim
  | disconnect => exact (kept rfl).elim
  | bond peer => exact (kept (by unfold act; dsimp only; split <;> rfl)).elim
  | removed peer => exact (kept (by unfold act; dsimp only; split <;> rfl)).elim
  | reboot nowMs faults => exact (kept (boot_marker nowMs faults)).elim

/-- Credential rotation over every run of a device, from any flash and any bond database. -/
theorem ble_rotation_withheld (prefs : BlePrefs) (peers : List BlePeerAddress) (nowMs : UInt32) (faults : BootFaults)
    (events : List Event) (calm : Runs.Along step Calm (start prefs peers nowMs faults) events) :
    Withheld (Runs.run step (start prefs peers nowMs faults) events) ∧
      Runs.Along step ClearsWhenEmpty (start prefs peers nowMs faults) events := by
  have guarded := Runs.run_invariant_along Guarded (start_guarded prefs peers nowMs faults)
    (fun _ _ guarded calm => guarded.step calm) calm
  exact ⟨guarded.withheld, Runs.along_of_forall (fun d event _ => clears_when_empty d event) _⟩

def BootFaults.nothing : BootFaults := ⟨0, true, true⟩

def ServiceFaults.nothing : ServiceFaults := ⟨⟨true, true, true, []⟩, true, true, .nothing⟩

def bondedStart : BleDevice := start ⟨123456, true, false⟩ [0x0A] 0 .nothing

/-- A rotation to its end: the phone's bond goes, the device restarts, and another phone bonds under the new PIN. -/
def wholeRotation : List Event :=
  [.setBlePin 654321 0 true, .companionBleSetEnabled true ⟨true, false, true⟩, .service 1 .nothing, .openPairingWindow,
    .removed 0x0A, .service 300 .nothing, .bond 0x0B]

theorem wholeRotation_withheld :
    Withheld (Runs.run step bondedStart wholeRotation) ∧ Runs.Along step ClearsWhenEmpty bondedStart wholeRotation :=
  ble_rotation_withheld ⟨123456, true, false⟩ [0x0A] 0 .nothing wholeRotation
    ⟨trivial, Or.inl (by decide +kernel), trivial, trivial, trivial, trivial, trivial, trivial⟩

/-- The user switches Bluetooth on while the rotation has stopped it, and after a reboot with the marker set. -/
theorem switchedOn_serves_old_bond :
    ¬ Withheld (Runs.run step bondedStart
      [.setBlePin 654321 0 true, .service 1 .nothing, .companionBleSetEnabled true ⟨true, true, true⟩]) ∧
    ¬ Withheld (Runs.run step bondedStart
      [.setBlePin 654321 0 true, .reboot 0 .nothing, .transportSetEnabled true true]) := by
  refine ⟨fun withheld => ?_, fun withheld => ?_⟩
  · exact absurd (withheld.rotated (by decide +kernel) ⟨0x0A, 0⟩ (by decide +kernel)) (by decide +kernel)
  · exact absurd (withheld.held (by decide +kernel)) (by decide +kernel)

end BleDevice

end SigurdOS.Comms
