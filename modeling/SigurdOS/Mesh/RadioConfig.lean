import SigurdOS.Library.Runs

namespace SigurdOS.Mesh

section Policy

structure RadioConfig (α : Type) where
  frequencyMhz : α
  bandwidthKhz : α
  spreadingFactor : Int
  codingRate : Int
  txPowerDbm : Int
  rxBoostedGain : Bool
  deriving DecidableEq

inductive RadioConfigField where
  | frequency | bandwidth | spreadingFactor | codingRate | txPower | rxBoostedGain
  deriving DecidableEq

structure RadioPrefs (α : Type) where
  configured : Bool
  config : RadioConfig α
  radioProfile : List UInt8
  deriving DecidableEq

/-- The checks on opaque values, what `prefs_set` does to a record before it is saved, and the build: the compile-time
    defaults, and whether an unconfigured radio is held in reset. -/
structure RadioPolicy (α : Type) where
  frequencySupported : α → Bool
  bandwidthSupported : α → Bool
  profileConfigurationValid : RadioPrefs α → Bool
  normalizeAndValidate : RadioPrefs α → RadioPrefs α
  zero : α
  defaultRadio : RadioConfig α
  holdsUnconfigured : Bool

variable {α : Type}

def sx1262RadioConfigSupported (policy : RadioPolicy α) (config : RadioConfig α) : Bool :=
  policy.frequencySupported config.frequencyMhz && policy.bandwidthSupported config.bandwidthKhz &&
    decide (5 ≤ config.spreadingFactor) && decide (config.spreadingFactor ≤ 12) &&
    decide (5 ≤ config.codingRate) && decide (config.codingRate ≤ 8) &&
    decide (-9 ≤ config.txPowerDbm) && decide (config.txPowerDbm ≤ 22)

def radioPrefsSupported (policy : RadioPolicy α) (prefs : RadioPrefs α) : Bool :=
  prefs.configured && sx1262RadioConfigSupported policy prefs.config && policy.profileConfigurationValid prefs

def disableRadioPrefs (policy : RadioPolicy α) (prefs : RadioPrefs α) : RadioPrefs α :=
  ⟨false, ⟨policy.zero, policy.zero, 0, 0, 0, prefs.config.rxBoostedGain⟩, []⟩

def RadioConfig.setField (hardware : RadioConfig α) (requested : RadioConfig α) : RadioConfigField → RadioConfig α
  | .frequency => { hardware with frequencyMhz := requested.frequencyMhz }
  | .bandwidth => { hardware with bandwidthKhz := requested.bandwidthKhz }
  | .spreadingFactor => { hardware with spreadingFactor := requested.spreadingFactor }
  | .codingRate => { hardware with codingRate := requested.codingRate }
  | .txPower => { hardware with txPowerDbm := requested.txPowerDbm }
  | .rxBoostedGain => { hardware with rxBoostedGain := requested.rxBoostedGain }

def radioConfigFields : List RadioConfigField :=
  [.frequency, .bandwidth, .spreadingFactor, .codingRate, .txPower, .rxBoostedGain]

structure RadioApplyResult where
  ok : Bool
  failedField : RadioConfigField
  driverError : Int
  deriving DecidableEq

end Policy

/-- The radio with its flags and the script of what its driver, the bus and the preferences answer. A driver result
    other than zero is an error; where a script has ended everything succeeds. `rollbackFailed` is kept by no code. -/
structure Radio (α : Type) where
  hardware : RadioConfig α
  active : RadioConfig α
  activeValid : Bool
  txEnabled : Bool
  lastError : Int
  prefs : RadioPrefs α
  driver : List Int
  bus : List Bool
  commits : List Bool
  rollbackFailed : Bool
  deriving DecidableEq

inductive RadioCall (α : Type) where
  | applyRadioParams (requested : RadioConfig α)
  | applyAndPersistRadioPrefs (proposed : RadioPrefs α)
  | revertRadioParams

namespace Radio

variable {α : Type}

def radioTxAllowed (radio : Radio α) : Bool := radio.activeValid && radio.txEnabled

/-- The loop of `applyRadioConfigFields`: a setter that fails leaves its field as it was. -/
def applyFields (config : RadioConfig α) : List RadioConfigField → Radio α → RadioApplyResult × Radio α
  | [], radio => (⟨true, .frequency, 0⟩, radio)
  | field :: rest, radio =>
    let code := radio.driver.headD 0
    let after := { radio with driver := radio.driver.tail }
    if code ≠ 0 then (⟨false, field, code⟩, after)
    else applyFields config rest { after with hardware := radio.hardware.setField config field }

def applyRadioHardware (radio : Radio α) (config : RadioConfig α) : RadioApplyResult × Radio α :=
  let applied := applyFields config radioConfigFields radio
  (applied.1, { applied.2 with lastError := applied.1.driverError })

/-- `applyRadioConfigTransaction` with what its caller makes of the result. -/
def applyRadioConfigAtomically (policy : RadioPolicy α) (radio : Radio α) (requested : RadioConfig α) :
    Bool × Radio α :=
  if radio.activeValid = false ∨ sx1262RadioConfigSupported policy requested = false then (false, radio)
  else
    let acquired := radio.bus.headD true
    let radio := { radio with bus := radio.bus.tail }
    if acquired = false then (false, { radio with lastError := -1 })
    else
      let applied := radio.applyRadioHardware requested
      if applied.1.ok then (true, { applied.2 with active := requested, activeValid := true, lastError := 0 })
      else
        let rollback := applied.2.applyRadioHardware radio.active
        if rollback.1.ok then (false, { rollback.2 with activeValid := true, lastError := applied.1.driverError })
        else (false, { rollback.2 with
          activeValid := false, lastError := rollback.1.driverError, rollbackFailed := true })

def applyRadioParams (policy : RadioPolicy α) (radio : Radio α) (requested : RadioConfig α) : Bool × Radio α :=
  if sx1262RadioConfigSupported policy requested = false then (false, radio)
  else radio.applyRadioConfigAtomically policy requested

def prefsSet (policy : RadioPolicy α) (radio : Radio α) (proposed : RadioPrefs α) : Bool × Radio α :=
  let saved := radio.commits.headD true
  let radio := { radio with commits := radio.commits.tail }
  if saved then (true, { radio with prefs := policy.normalizeAndValidate proposed }) else (false, radio)

/-- `applyAndCommitRadioConfig` with what its caller makes of the result. -/
def applyAndPersistRadioPrefs (policy : RadioPolicy α) (radio : Radio α) (proposed : RadioPrefs α) : Bool × Radio α :=
  if radioPrefsSupported policy proposed = false ∨ radio.activeValid = false then (false, radio)
  else
    match radio.applyRadioConfigAtomically policy proposed.config with
    | (false, after) => (false, after)
    | (true, applied) =>
      match applied.prefsSet policy proposed with
      | (true, committed) => (true, { committed with txEnabled := true })
      | (false, uncommitted) =>
        match uncommitted.applyRadioConfigAtomically policy radio.active with
        | (false, after) => (false, { after with txEnabled := false })
        | (true, after) => (false, { after with txEnabled := radio.txEnabled })

def revertTarget (policy : RadioPolicy α) (prefs : RadioPrefs α) : RadioConfig α :=
  if prefs.configured then prefs.config else policy.defaultRadio

def revertRadioParams (policy : RadioPolicy α) (radio : Radio α) : Bool × Radio α :=
  if (radio.prefs.configured && !radioPrefsSupported policy radio.prefs) ∨
      sx1262RadioConfigSupported policy (revertTarget policy radio.prefs) = false then (false, radio)
  else radio.applyRadioConfigAtomically policy (revertTarget policy radio.prefs)

def perform (policy : RadioPolicy α) (radio : Radio α) : RadioCall α → Bool × Radio α
  | .applyRadioParams requested => radio.applyRadioParams policy requested
  | .applyAndPersistRadioPrefs proposed => radio.applyAndPersistRadioPrefs policy proposed
  | .revertRadioParams => radio.revertRadioParams policy

def step (policy : RadioPolicy α) (radio : Radio α) (call : RadioCall α) : Radio α := (radio.perform policy call).2

/-- Stored preferences that the policy refuses are disabled before `init` uses them. -/
def readPrefs (policy : RadioPolicy α) (radio : Radio α) : RadioPrefs α × Radio α :=
  if radio.prefs.configured && !radioPrefsSupported policy radio.prefs then
    let disabled := disableRadioPrefs policy radio.prefs
    (disabled, (radio.prefsSet policy disabled).2)
  else (radio.prefs, radio)

def initialConfig (policy : RadioPolicy α) (used : RadioPrefs α) : RadioConfig α :=
  if used.configured then used.config else { policy.defaultRadio with rxBoostedGain := used.config.rxBoostedGain }

/-- `init` behind `std_init`, which leaves the hardware at the defaults. -/
def bringUp (policy : RadioPolicy α) (used : RadioPrefs α) (radio : Radio α) : Option (Radio α) :=
  match radio.applyRadioConfigAtomically policy (initialConfig policy used) with
  | (true, radio) => some { radio with txEnabled := used.configured }
  | (false, radio) =>
    if radio.activeValid = false then none
    else if used.configured then
      some ({ radio with txEnabled := false }.prefsSet policy (disableRadioPrefs policy used)).2
    else some { radio with txEnabled := false }

def init (policy : RadioPolicy α) (prefs : RadioPrefs α) (driver : List Int) (bus commits : List Bool) :
    Option (Radio α) :=
  let off : Radio α := ⟨policy.defaultRadio, policy.defaultRadio, false, false, 0, prefs, driver, bus, commits, false⟩
  let read := off.readPrefs policy
  if sx1262RadioConfigSupported policy policy.defaultRadio = false ∨
      (read.1.configured = false ∧ policy.holdsUnconfigured = true) then none
  else bringUp policy read.1 { read.2 with activeValid := true }

end Radio

/-- The radio may transmit only with the active configuration, which the chip supports; a call that fails changes
    neither or stops the transmissions; and a failed rollback stops them for good. -/
structure RadioTransactional {α : Type} (policy : RadioPolicy α) (radio : Radio α) : Prop where
  transmits : radio.radioTxAllowed = true →
    radio.hardware = radio.active ∧ sx1262RadioConfigSupported policy radio.active = true
  failed : ∀ call, (radio.perform policy call).1 = false →
    ((radio.step policy call).hardware = radio.hardware ∧ (radio.step policy call).active = radio.active) ∨
      (radio.step policy call).radioTxAllowed = false
  stopped : radio.rollbackFailed = true → ∀ calls, (Runs.run (Radio.step policy) radio calls).radioTxAllowed = false

structure RadioInv {α : Type} (policy : RadioPolicy α) (radio : Radio α) : Prop where
  applied : radio.activeValid = true → radio.hardware = radio.active
  supported : radio.txEnabled = true → sx1262RadioConfigSupported policy radio.active = true
  stopped : radio.rollbackFailed = true → radio.activeValid = false

section Apply

variable {α : Type} {policy : RadioPolicy α} {radio after : Radio α} {requested : RadioConfig α} {ok : Bool}

theorem setField_all (hardware requested : RadioConfig α) :
    radioConfigFields.foldl (fun hardware field => hardware.setField requested field) hardware = requested := rfl

theorem applyFields_spec (requested : RadioConfig α) (fields : List RadioConfigField) (radio : Radio α) :
    ∃ hardware driver, (Radio.applyFields requested fields radio).2 = { radio with hardware, driver } ∧
      ((Radio.applyFields requested fields radio).1.ok = true →
        hardware = fields.foldl (fun hardware field => hardware.setField requested field) radio.hardware) := by
  induction fields generalizing radio with
  | nil => exact ⟨radio.hardware, radio.driver, rfl, fun _ => rfl⟩
  | cons field rest ih =>
    rw [Radio.applyFields]
    dsimp only
    split
    · exact ⟨radio.hardware, radio.driver.tail, rfl, nofun⟩
    · obtain ⟨hardware, driver, changed, all⟩ := ih { radio with
        driver := radio.driver.tail, hardware := radio.hardware.setField requested field }
      exact ⟨hardware, driver, changed, all⟩

theorem applyRadioHardware_spec (requested : RadioConfig α) (radio : Radio α) :
    ∃ hardware driver lastError, (radio.applyRadioHardware requested).2 = { radio with hardware, driver, lastError } ∧
      ((radio.applyRadioHardware requested).1.ok = true → hardware = requested) := by
  obtain ⟨hardware, driver, changed, all⟩ := applyFields_spec requested radioConfigFields radio
  refine ⟨hardware, driver, (Radio.applyFields requested radioConfigFields radio).1.driverError, ?_, ?_⟩
  · rw [Radio.applyRadioHardware]
    dsimp only
    rw [changed]
  · intro succeeded
    rw [all succeeded, setField_all]

/-- How an attempt to apply a configuration can end: with it, as before, or stopped. -/
inductive RadioOutcome (policy : RadioPolicy α) (radio : Radio α) (requested : RadioConfig α) : Bool → Radio α → Prop
  | applied (valid : radio.activeValid = true) (supported : sx1262RadioConfigSupported policy requested = true)
      (driver : List Int) (bus : List Bool) (lastError : Int) :
      RadioOutcome policy radio requested true
        { radio with hardware := requested, active := requested, driver, bus, lastError }
  | kept (driver : List Int) (bus : List Bool) (lastError : Int) :
      RadioOutcome policy radio requested false { radio with driver, bus, lastError }
  | stopped (hardware : RadioConfig α) (driver : List Int) (bus : List Bool) (lastError : Int) :
      RadioOutcome policy radio requested false
        { radio with hardware, activeValid := false, rollbackFailed := true, driver, bus, lastError }

theorem applyRadioConfigAtomically_outcome (policy : RadioPolicy α) (requested : RadioConfig α)
    (same : radio.activeValid = true → radio.hardware = radio.active) :
    RadioOutcome policy radio requested (radio.applyRadioConfigAtomically policy requested).1
      (radio.applyRadioConfigAtomically policy requested).2 := by
  obtain ⟨hardware, active, activeValid, txEnabled, lastError, prefs, driver, bus, commits, failed⟩ := radio
  unfold Radio.applyRadioConfigAtomically
  split
  · exact .kept driver bus lastError
  · next accepted =>
    obtain ⟨valid, supported⟩ := not_or.mp accepted
    obtain rfl : activeValid = true := by simpa using valid
    obtain rfl : hardware = active := same rfl
    dsimp only
    split
    · exact .kept driver bus.tail (-1)
    · obtain ⟨tried, driverTried, lastTried, changed, all⟩ := applyRadioHardware_spec requested
        ⟨hardware, hardware, true, txEnabled, lastError, prefs, driver, bus.tail, commits, failed⟩
      rw [changed]
      split
      · next succeeded =>
        rw [all succeeded]
        exact .applied rfl (by simpa using supported) driverTried bus.tail 0
      · obtain ⟨back, driverBack, lastBack, changedBack, allBack⟩ := applyRadioHardware_spec hardware
          ⟨tried, hardware, true, txEnabled, lastTried, prefs, driverTried, bus.tail, commits, failed⟩
        rw [changedBack]
        split
        · next restored =>
          rw [allBack restored]
          exact .kept driverBack bus.tail _
        · exact .stopped back driverBack bus.tail _

theorem RadioOutcome.inv (inv : RadioInv policy radio) (outcome : RadioOutcome policy radio requested ok after) :
    RadioInv policy after := by
  cases outcome with
  | applied valid supported =>
    refine ⟨fun _ => rfl, fun _ => supported, fun failed => ?_⟩
    rw [inv.stopped failed] at valid
    cases valid
  | kept => exact ⟨inv.applied, inv.supported, inv.stopped⟩
  | stopped => exact ⟨nofun, inv.supported, fun _ => rfl⟩

end Apply

section Calls

variable {α : Type} {policy : RadioPolicy α} {radio after : Radio α} {requested : RadioConfig α}

def StaysOrStops (before after : Radio α) : Prop :=
  (after.hardware = before.hardware ∧ after.active = before.active) ∨ after.radioTxAllowed = false

theorem RadioOutcome.staysOrStops (outcome : RadioOutcome policy radio requested false after) :
    StaysOrStops radio after := by
  cases outcome with
  | kept => exact .inl ⟨rfl, rfl⟩
  | stopped => exact .inr rfl

theorem prefsSet_spec (policy : RadioPolicy α) (radio : Radio α) (proposed : RadioPrefs α) :
    ∃ prefs commits, (radio.prefsSet policy proposed).2 = { radio with prefs, commits } := by
  unfold Radio.prefsSet
  dsimp only
  split
  · exact ⟨_, _, rfl⟩
  · exact ⟨_, _, rfl⟩

structure RadioCallSound (policy : RadioPolicy α) (radio : Radio α) (result : Bool × Radio α) : Prop where
  inv : RadioInv policy result.2
  failed : result.1 = false → StaysOrStops radio result.2

theorem RadioCallSound.refused (inv : RadioInv policy radio) : RadioCallSound policy radio (false, radio) :=
  ⟨inv, fun _ => .inl ⟨rfl, rfl⟩⟩

theorem applyRadioConfigAtomically_sound (inv : RadioInv policy radio) (requested : RadioConfig α) :
    RadioCallSound policy radio (radio.applyRadioConfigAtomically policy requested) := by
  have outcome := applyRadioConfigAtomically_outcome policy requested inv.applied
  refine ⟨outcome.inv inv, fun failed => ?_⟩
  rw [failed] at outcome
  exact outcome.staysOrStops

theorem applyAndPersistRadioPrefs_sound (inv : RadioInv policy radio) (proposed : RadioPrefs α) :
    RadioCallSound policy radio (radio.applyAndPersistRadioPrefs policy proposed) := by
  unfold Radio.applyAndPersistRadioPrefs
  split
  · exact .refused inv
  · next accepted =>
    obtain ⟨-, valid⟩ := not_or.mp accepted
    rw [Bool.not_eq_false] at valid
    have first := applyRadioConfigAtomically_sound inv proposed.config
    have outcome := applyRadioConfigAtomically_outcome policy proposed.config inv.applied
    split
    · next after refused =>
      rw [refused] at first
      exact first
    · next applied accepted =>
      rw [accepted] at first outcome
      obtain ⟨prefs, commits, saved⟩ := prefsSet_spec policy applied proposed
      split
      · next committed success =>
        obtain rfl : committed = { applied with prefs, commits } := by rw [← saved, success]
        refine ⟨⟨first.inv.applied, fun _ => ?_, first.inv.stopped⟩, nofun⟩
        cases outcome with
        | applied _ supported => exact supported
      · next uncommitted failure =>
        obtain rfl : uncommitted = { applied with prefs, commits } := by rw [← saved, failure]
        have pending : RadioInv policy { applied with prefs, commits } :=
          ⟨first.inv.applied, first.inv.supported, first.inv.stopped⟩
        have restore := applyRadioConfigAtomically_outcome policy radio.active pending.applied
        split
        · next after refused =>
          rw [refused] at restore
          have stopped := restore.inv pending
          exact ⟨⟨stopped.applied, nofun, stopped.stopped⟩, fun _ => .inr (Bool.and_false _)⟩
        · next after restored =>
          rw [restored] at restore
          have back := restore.inv pending
          cases restore with
          | applied _ supported =>
            exact ⟨⟨fun _ => rfl, fun _ => supported, back.stopped⟩, fun _ => .inl ⟨(inv.applied valid).symm, rfl⟩⟩

theorem perform_sound (inv : RadioInv policy radio) (call : RadioCall α) :
    RadioCallSound policy radio (radio.perform policy call) := by
  cases call with
  | applyRadioParams requested =>
    simp only [Radio.perform, Radio.applyRadioParams]
    split
    · exact .refused inv
    · exact applyRadioConfigAtomically_sound inv requested
  | applyAndPersistRadioPrefs proposed => exact applyAndPersistRadioPrefs_sound inv proposed
  | revertRadioParams =>
    simp only [Radio.perform, Radio.revertRadioParams]
    split
    · exact .refused inv
    · exact applyRadioConfigAtomically_sound inv _

theorem perform_stopped (stopped : radio.activeValid = false) (call : RadioCall α) :
    (radio.perform policy call).2.activeValid = false := by
  have refused : ∀ requested, radio.applyRadioConfigAtomically policy requested = (false, radio) := by
    intro requested
    rw [Radio.applyRadioConfigAtomically, if_pos (.inl stopped)]
  cases call with
  | applyRadioParams requested =>
    simp only [Radio.perform, Radio.applyRadioParams, refused]
    split <;> exact stopped
  | applyAndPersistRadioPrefs proposed =>
    simp only [Radio.perform, Radio.applyAndPersistRadioPrefs, stopped, or_true, ite_true]
  | revertRadioParams =>
    simp only [Radio.perform, Radio.revertRadioParams, refused]
    split <;> exact stopped

end Calls

section Runs

variable {α : Type} {policy : RadioPolicy α} {radio : Radio α} {prefs : RadioPrefs α} {driver : List Int}
variable {bus commits : List Bool}

theorem bringUp_inv {used : RadioPrefs α} {fresh : Radio α} (inv : RadioInv policy fresh)
    (initialised : Radio.bringUp policy used fresh = some radio) : RadioInv policy radio := by
  unfold Radio.bringUp at initialised
  split at initialised
  · next applied success =>
    have outcome := applyRadioConfigAtomically_outcome policy (Radio.initialConfig policy used) inv.applied
    rw [success] at outcome
    have after := outcome.inv inv
    cases initialised
    cases outcome with
    | applied _ supported => exact ⟨after.applied, fun _ => supported, after.stopped⟩
  · next refused failure =>
    have sound := applyRadioConfigAtomically_sound inv (Radio.initialConfig policy used)
    rw [failure] at sound
    have quiet : RadioInv policy { refused with txEnabled := false } := ⟨sound.inv.applied, nofun, sound.inv.stopped⟩
    split at initialised
    · cases initialised
    · split at initialised
      · obtain ⟨prefs, commits, saved⟩ := prefsSet_spec policy { refused with txEnabled := false }
          (disableRadioPrefs policy used)
        rw [saved] at initialised
        cases initialised
        exact ⟨quiet.applied, quiet.supported, quiet.stopped⟩
      · cases initialised
        exact quiet

theorem init_inv (initialised : Radio.init policy prefs driver bus commits = some radio) : RadioInv policy radio := by
  let off : Radio α := ⟨policy.defaultRadio, policy.defaultRadio, false, false, 0, prefs, driver, bus, commits, false⟩
  obtain ⟨kept, left, read⟩ : ∃ kept left, (off.readPrefs policy).2 = { off with prefs := kept, commits := left } := by
    unfold Radio.readPrefs
    split
    · exact prefsSet_spec policy off _
    · exact ⟨prefs, commits, rfl⟩
  have fresh : RadioInv policy { (off.readPrefs policy).2 with activeValid := true } := by
    rw [read]
    exact ⟨fun _ => rfl, nofun, nofun⟩
  unfold Radio.init at initialised
  dsimp only at initialised
  split at initialised
  · cases initialised
  · exact bringUp_inv fresh initialised

theorem RadioInv.transactional (inv : RadioInv policy radio) : RadioTransactional policy radio where
  transmits := by
    intro allowed
    rw [Radio.radioTxAllowed, Bool.and_eq_true] at allowed
    exact ⟨inv.applied allowed.1, inv.supported allowed.2⟩
  failed := fun call refused => (perform_sound inv call).failed refused
  stopped := by
    intro failed calls
    have invalid : (Runs.run (Radio.step policy) radio calls).activeValid = false :=
      Runs.run_invariant (fun radio : Radio α => radio.activeValid = false) (inv.stopped failed)
        (fun _ call stopped => perform_stopped stopped call) calls
    rw [Radio.radioTxAllowed, invalid, Bool.false_and]

theorem radio_configuration_transactional (policy : RadioPolicy α) (prefs : RadioPrefs α) (driver : List Int)
    (bus commits : List Bool) (calls : List (RadioCall α)) (radio : Radio α)
    (initialised : Radio.init policy prefs driver bus commits = some radio) :
    RadioTransactional policy (Runs.run (Radio.step policy) radio calls) := by
  have inv : RadioInv policy (Runs.run (Radio.step policy) radio calls) :=
    Runs.run_invariant (RadioInv policy) (init_inv initialised) (fun _ call inv => (perform_sound inv call).inv) calls
  exact inv.transactional

/-- Frequencies in kHz and bandwidths in Hz, with the ranges of the chip and no product profile. -/
def samplePolicy : RadioPolicy Nat where
  frequencySupported := fun frequency => decide (150000 ≤ frequency) && decide (frequency ≤ 960000)
  bandwidthSupported := fun bandwidth =>
    [7800, 10400, 15600, 20800, 31250, 41700, 62500, 125000, 250000, 500000].contains bandwidth
  profileConfigurationValid := fun prefs => prefs.radioProfile.isEmpty
  normalizeAndValidate := id
  zero := 0
  defaultRadio := ⟨869618, 62500, 8, 5, 22, false⟩
  holdsUnconfigured := true

def samplePrefs : RadioPrefs Nat := ⟨true, ⟨868000, 125000, 9, 5, 14, true⟩, []⟩

/-- The radio after its initialisation: two setters succeed and the third fails, and the first commit fails. -/
def sampleRadio : Radio Nat :=
  ⟨samplePrefs.config, samplePrefs.config, true, true, 0, samplePrefs, [0, 0, -8], [], [false], false⟩

def sampleCalls : List (RadioCall Nat) :=
  [.applyRadioParams ⟨915000, 250000, 7, 5, 20, false⟩,
    .applyAndPersistRadioPrefs ⟨true, ⟨915000, 250000, 7, 5, 20, false⟩, []⟩]

theorem sampleCalls_transactional :
    (Runs.run (Radio.step samplePolicy) sampleRadio sampleCalls).radioTxAllowed = true ∧
      RadioTransactional samplePolicy (Runs.run (Radio.step samplePolicy) sampleRadio sampleCalls) := by
  have initialised : Radio.init samplePolicy samplePrefs [0, 0, 0, 0, 0, 0, 0, 0, -8] [] [false] =
      some sampleRadio := by decide
  exact ⟨by decide,
    radio_configuration_transactional samplePolicy samplePrefs _ _ _ sampleCalls sampleRadio initialised⟩

end Runs

end SigurdOS.Mesh
