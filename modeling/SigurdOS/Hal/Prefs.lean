import SigurdOS.Hal.NodePrefs
import SigurdOS.Library.StagedCommit

namespace SigurdOS.Prefs

open Bytes KeyValue StagedCommit

section Nvs

inductive NvsValue
  | i8 (value : Int8)
  | u8 (value : UInt8)
  | u16 (value : UInt16)
  | i32 (value : Int32)
  | u32 (value : UInt32)
  | blob (bytes : List UInt8)
  | str (chars : List UInt8)
  deriving DecidableEq

abbrev Entries : Type := String → Option NvsValue

def flag (value : Bool) : NvsValue := .u8 (if value then 1 else 0)

def isKey (nvs : Entries) (key : String) : Bool := (nvs key).isSome

def getChar (nvs : Entries) (key : String) (fallback : Int8) : Int8 :=
  match nvs key with
  | some (.i8 value) => value
  | _ => fallback

def getUChar (nvs : Entries) (key : String) (fallback : UInt8) : UInt8 :=
  match nvs key with
  | some (.u8 value) => value
  | _ => fallback

def getBool (nvs : Entries) (key : String) (fallback : Bool) : Bool :=
  getUChar nvs key (if fallback then 1 else 0) == 1

def getUShort (nvs : Entries) (key : String) (fallback : UInt16) : UInt16 :=
  match nvs key with
  | some (.u16 value) => value
  | _ => fallback

def getInt (nvs : Entries) (key : String) (fallback : Int32) : Int32 :=
  match nvs key with
  | some (.i32 value) => value
  | _ => fallback

def getULong (nvs : Entries) (key : String) (fallback : UInt32) : UInt32 :=
  match nvs key with
  | some (.u32 value) => value
  | _ => fallback

def blobFloat (fallback : Binary32) (bytes : List UInt8) : Binary32 :=
  if bytes.length ≤ 4 then .ofBytes (bytes ++ fallback.toBytes.drop bytes.length) else fallback

def getFloat (nvs : Entries) (key : String) (fallback : Binary32) : Binary32 :=
  match nvs key with
  | some (.blob bytes) => blobFloat fallback bytes
  | _ => fallback

def bufferString (capacity : Nat) (chars : List UInt8) : Option (CString capacity) :=
  if fits : chars.length ≤ capacity then
    some ⟨terminated chars, (length_terminated_le chars).trans fits, terminated_nonzero⟩
  else none

def getString (capacity : Nat) (nvs : Entries) (key : String) : Option (CString capacity) :=
  match nvs key with
  | some (.str chars) => bufferString capacity chars
  | _ => none

@[simp] theorem blobFloat_toBytes (fallback value : Binary32) : blobFloat fallback value.toBytes = value := by
  have drop : fallback.toBytes.drop 4 = [] := by simp
  rw [blobFloat, Binary32.length_toBytes, if_pos (Nat.le_refl 4), drop, List.append_nil, Binary32.ofBytes_toBytes]

@[simp] theorem bufferString_chars {capacity : Nat} (string : CString capacity) :
    bufferString capacity string.chars = some string := by
  rw [bufferString, dif_pos string.fits]
  apply congrArg some
  ext1
  exact terminated_of_nonzero string.nonzero

@[simp] theorem flag_one (value : Bool) : ((if value then 1 else 0 : UInt8) == 1) = value := by
  cases value <;> rfl

theorem getUChar_found {nvs : Entries} {key : String} {value : UInt8} (found : nvs key = some (.u8 value))
    (fallback : UInt8) : getUChar nvs key fallback = value := by
  rw [getUChar, found]

theorem getBool_found {nvs : Entries} {key : String} {value : Bool} (found : nvs key = some (flag value))
    (fallback : Bool) : getBool nvs key fallback = value := by
  rw [getBool, getUChar_found found, flag_one]

theorem getUChar_same {nvs before : Entries} {key : String} (same : nvs key = before key) (fallback : UInt8) :
    getUChar nvs key fallback = getUChar before key fallback := by
  rw [getUChar, getUChar, same]

theorem getBool_same {nvs before : Entries} {key : String} (same : nvs key = before key) (fallback : Bool) :
    getBool nvs key fallback = getBool before key fallback := by
  rw [getBool, getBool, getUChar_same same]

end Nvs

section Write

inductive BlePrefsWriteMode
  | preserve
  | write
  deriving DecidableEq

def blePrefsSchemaVersion : UInt8 := 1

def txPowerBound (power : Int8) : Int8 := if power < -9 then -9 else if 22 < power then 22 else power

def prefsWriteAll (prefs : NodePrefs) (mode : BlePrefsWriteMode) : List (String × NvsValue) :=
  [("name", .str prefs.nodeName.chars),
    ("freq", .blob prefs.freq.toBytes),
    ("bw", .blob prefs.bw.toBytes),
    ("sf", .u8 prefs.sf),
    ("cr", .u8 prefs.cr),
    ("txpwr", .i8 (txPowerBound prefs.txPowerDbm)),
    ("cfg", flag prefs.configured),
    ("kbd_bl", .u8 prefs.kbdBacklight),
    ("kbd_layout", .u8 prefs.kbdLayout),
    ("disp_bl", .u8 prefs.displayBrightness),
    ("auto_off", .u16 prefs.autoOffTimeout),
    ("chat_cap", .u16 prefs.chatMsgCap),
    ("flood_mh", .u8 prefs.floodMaxHops),
    ("sh_loc", .u8 prefs.advertLocPolicy),
    ("adv_loc", flag prefs.advertLocationValid),
    ("adv_lat", .i32 prefs.advertLat),
    ("adv_lon", .i32 prefs.advertLon),
    ("rx_del", .blob prefs.rxDelayBase.toBytes),
    ("tx_del", .blob prefs.txDelayFactor.toBytes),
    ("dir_tx", .blob prefs.directTxDelayFactor.toBytes),
    ("air_fact", .blob prefs.airtimeFactor.toBytes),
    ("rx_boost", flag prefs.rxBoostedGain),
    ("duty_cyc", .u8 prefs.dutyCycle),
    ("adv_dur", .u16 prefs.advertIntervalH),
    ("adv_type", .u8 prefs.advertType),
    ("theme", .u8 prefs.themeId),
    ("phash_mode", .u8 prefs.pathHashMode),
    ("multi_ack", .u8 prefs.multiAcks),
    ("buzz_q", flag prefs.buzzerQuiet),
    ("gps_en", flag prefs.gpsEnabled),
    ("gps_int32", .u32 prefs.gpsInterval),
    ("gps_trk_en", flag prefs.gpsTrackEnabled),
    ("gps_trk_int", .u32 prefs.gpsTrackInterval),
    ("autoadd_cfg", .u8 prefs.autoaddConfig),
    ("autoadd_mh", .u8 prefs.autoaddMaxHops),
    ("clirep", .u8 prefs.clientRepeat)] ++
  (match mode with
    | .preserve => []
    | .write =>
      [("ble_en", flag prefs.bleEnabled),
        ("ble_user", flag prefs.bleUserSet),
        ("ble_ver", .u8 blePrefsSchemaVersion)]) ++
  [("dev_pin", .u32 prefs.devicePin),
    ("ble_pin", .u32 prefs.blePin),
    ("ble_bond_rst", flag prefs.bleBondResetPending),
    ("tele_mod", .u8 prefs.telemetryModes),
    ("man_add", .u8 prefs.manualAddContacts),
    ("scope_key", .str prefs.defaultScopeKeyHex.chars),
    ("wifi_ssid", .str prefs.wifiSsid.chars),
    ("wifi_pw", .str prefs.wifiPassword.chars),
    ("act_reg", .str prefs.activeRegion.chars),
    ("ota_br", .str prefs.otaBranch.chars),
    ("ota_pre", flag prefs.otaAllowPrerelease),
    ("rf_prof", .str prefs.radioProfile.chars)]

def transportWrites (prefs : NodePrefs) : List (String × NvsValue) :=
  [("tr_tcp", flag prefs.transportTcpEnabled), ("tr_ws", flag prefs.transportWsEnabled)]

def languageWrites (language : UInt8) : List (String × NvsValue) := [("lang", .u8 language)]

def writePrefsToNvs (prefs : NodePrefs) (mode : BlePrefsWriteMode) (fault : Option Fault) (nvs : Option Entries) :
    Option Stop × Option Fault × Option Entries :=
  transact fault (prefsWriteAll prefs mode) nvs

def writeTransportPrefsToNvs (prefs : NodePrefs) (fault : Option Fault) (nvs : Option Entries) :
    Option Stop × Option Fault × Option Entries :=
  transact fault (transportWrites prefs) nvs

def persistLanguagePreference (language : UInt8) (fault : Option Fault) (nvs : Option Entries) :
    Option Stop × Option Fault × Option Entries :=
  transact fault (languageWrites language) nvs

def bleMode (bleBuild : Bool) : BlePrefsWriteMode := if bleBuild then .write else .preserve

def prefsSave (bleBuild : Bool) (prefs : NodePrefs) (fault : Option Fault) (nvs : Option Entries) :
    Option Stop × Option Fault × Option Entries :=
  let candidate := { prefs with language := knownLanguage prefs.language }
  match writePrefsToNvs candidate (bleMode bleBuild) fault nvs with
  | (none, fault, nvs) =>
    match writeTransportPrefsToNvs candidate fault nvs with
    | (none, fault, nvs) => persistLanguagePreference candidate.language fault nvs
    | stopped => stopped
  | stopped => stopped

end Write

section Load

structure BlePrefsState where
  enabled : Bool
  userSet : Bool
  needsMigration : Bool

def resolveBlePrefs (valuePresent storedValue intentPresent storedIntent : Bool) (schemaVersion : UInt8) :
    BlePrefsState :=
  let userSet := intentPresent && storedIntent
  let legacy : Bool := schemaVersion < blePrefsSchemaVersion
  { enabled := if legacy && !userSet then true else if valuePresent then storedValue else true
    userSet := userSet
    needsMigration := legacy }

def bleState (bleBuild : Bool) (nvs : Entries) : BlePrefsState :=
  resolveBlePrefs (isKey nvs "ble_en") (getBool nvs "ble_en" bleBuild) (isKey nvs "ble_user")
    (getBool nvs "ble_user" false) (getUChar nvs "ble_ver" 0)

def dutyCyclePercentToFactor (percent : UInt8) : Binary32 :=
  if percent = 0 ∨ 100 ≤ percent then float 0 else .ofQuotient (100 - percent.toNat) percent.toNat

def readPrefs (bleBuild : Bool) (nvs : Entries) (prefs : NodePrefs) : NodePrefs where
  nodeName := (getString 31 nvs "name").getD prefs.nodeName
  freq := getFloat nvs "freq" (float 0)
  bw := getFloat nvs "bw" (float 0)
  sf := getUChar nvs "sf" 0
  cr := getUChar nvs "cr" 0
  txPowerDbm := getChar nvs "txpwr" 0
  configured := getBool nvs "cfg" false
  kbdBacklight := getUChar nvs "kbd_bl" 127
  kbdLayout := kbdLayoutBound (getUChar nvs "kbd_layout" 0)
  displayBrightness := displayBrightnessBound (getUChar nvs "disp_bl" 200)
  autoOffTimeout := getUShort nvs "auto_off" 30
  chatMsgCap := getUShort nvs "chat_cap" 200
  floodMaxHops := getUChar nvs "flood_mh" 0
  advertLocPolicy := getUChar nvs "sh_loc" 0
  advertLocationValid := getBool nvs "adv_loc" false
  advertLat := getInt nvs "adv_lat" 0
  advertLon := getInt nvs "adv_lon" 0
  rxDelayBase := getFloat nvs "rx_del" (float 10)
  txDelayFactor := getFloat nvs "tx_del" (float 1)
  directTxDelayFactor := getFloat nvs "dir_tx" (float 1)
  airtimeFactor := airtimeFactorBound
    (if isKey nvs "air_fact" then getFloat nvs "air_fact" (float 0)
      else dutyCyclePercentToFactor (getUChar nvs "duty_cyc" 0))
  rxBoostedGain := getBool nvs "rx_boost" false
  dutyCycle := getUChar nvs "duty_cyc" 0
  advertIntervalH := getUShort nvs "adv_dur" 0
  advertType := getUChar nvs "adv_type" 1
  gpsEnabled := getBool nvs "gps_en" false
  gpsInterval := gpsIntervalBound (getULong nvs "gps_int32" (getUShort nvs "gps_int" 5).toUInt32)
  gpsTrackEnabled := getBool nvs "gps_trk_en" false
  gpsTrackInterval := gpsTrackIntervalBound (getULong nvs "gps_trk_int" 15)
  autoaddConfig := getUChar nvs "autoadd_cfg" 0x1E
  autoaddMaxHops := getUChar nvs "autoadd_mh" 0
  themeId := getUChar nvs "theme" 0
  language := knownLanguage (getUChar nvs "lang" 0)
  pathHashMode := normalizePathHashMode (getUChar nvs "phash_mode" 0)
  multiAcks := getUChar nvs "multi_ack" 0
  buzzerQuiet := getBool nvs "buzz_q" false
  clientRepeat := getUChar nvs "clirep" 0
  bleEnabled := if bleBuild then (bleState bleBuild nvs).enabled else getBool nvs "ble_en" bleBuild
  bleUserSet := if bleBuild then (bleState bleBuild nvs).userSet else getBool nvs "ble_user" false
  devicePin := getULong nvs "dev_pin" 0
  blePin := getULong nvs "ble_pin" 0
  bleBondResetPending := getBool nvs "ble_bond_rst" false
  telemetryModes := getUChar nvs "tele_mod" 0
  manualAddContacts := getUChar nvs "man_add" 0
  defaultScopeKeyHex := (getString 32 nvs "scope_key").getD noText
  wifiSsid := (getString 32 nvs "wifi_ssid").getD noText
  wifiPassword := (getString 63 nvs "wifi_pw").getD noText
  activeRegion := (getString 30 nvs "act_reg").getD noText
  otaBranch := (getString 15 nvs "ota_br").getD defaultBranch
  otaAllowPrerelease := getBool nvs "ota_pre" false
  radioProfile := (getString 15 nvs "rf_prof").getD noText
  transportTcpEnabled := getBool nvs "tr_tcp" false
  transportWsEnabled := getBool nvs "tr_ws" false

def bleMigrationWrites (state : BlePrefsState) : List (String × NvsValue) :=
  [("ble_en", flag state.enabled), ("ble_user", flag state.userSet), ("ble_ver", .u8 blePrefsSchemaVersion)]

def persistBleMigration (state : BlePrefsState) (fault : Option Fault) (nvs : Option Entries) :
    Option Stop × Option Fault × Option Entries :=
  transact fault (bleMigrationWrites state) nvs

/-- A namespace that does not exist cannot be opened for reading. -/
def prefsLoad (bleBuild : Bool) (fault : Option Fault) (prefs : NodePrefs) :
    Option Entries → Bool × NodePrefs × Option Entries
  | none => (false, prefs, none)
  | some nvs =>
    let loaded := (normalizeAndValidate (readPrefs bleBuild nvs prefs)).2
    if bleBuild && (bleState bleBuild nvs).needsMigration then
      (true, loaded, (persistBleMigration (bleState bleBuild nvs) fault (some nvs)).2.2)
    else (true, loaded, some nvs)

end Load

section Runtime

/-- The namespace in flash, and in RAM the loaded preferences and whether they are. -/
structure Device where
  nvs : Option Entries
  prefs : NodePrefs
  loaded : Bool

def Device.boot (nvs : Option Entries) : Device := ⟨nvs, setDefaults, false⟩

def prefsGet (bleBuild : Bool) (device : Device) : NodePrefs × Device :=
  if device.loaded then (device.prefs, device)
  else
    let (_, prefs, nvs) := prefsLoad bleBuild none setDefaults device.nvs
    (prefs, ⟨nvs, prefs, true⟩)

def candidate (prefs : NodePrefs) : NodePrefs :=
  let normalized := (normalizeAndValidate prefs).2
  { normalized with language := knownLanguage normalized.language }

def prefsSet (bleBuild : Bool) (prefs : NodePrefs) (fault : Option Fault) (device : Device) : Option Stop × Device :=
  match prefsSave bleBuild (candidate prefs) fault device.nvs with
  | (none, _, nvs) => (none, { device with nvs := nvs, prefs := candidate prefs })
  | (some .failed, _, nvs) => (some .failed, { device with nvs := nvs })
  | (some .cut, _, nvs) => (some .cut, .boot nvs)

end Runtime

end SigurdOS.Prefs
