import SigurdOS.Bytes.Fields
import SigurdOS.Library.Binary32

namespace SigurdOS.Prefs

open Bytes

def literal {capacity : Nat} (text : String) (fits : text.toList.length ≤ capacity := by decide)
    (nonzero : ∀ byte ∈ text.toList.map (fun char => char.toNat.toUInt8), byte ≠ 0 := by decide) : CString capacity :=
  ⟨text.toList.map fun char => char.toNat.toUInt8, by simpa using fits, nonzero⟩

def noText {capacity : Nat} : CString capacity := literal "" (Nat.zero_le capacity) (List.forall_mem_nil _)

def defaultBranch : CString 15 := literal "main"

/-- The preferences. A `char` array of `n + 1` bytes is a string of at most `n`, a `float` its binary32 datum. -/
structure NodePrefs where
  nodeName : CString 31
  freq : Binary32
  bw : Binary32
  sf : UInt8
  cr : UInt8
  txPowerDbm : Int8
  configured : Bool
  kbdBacklight : UInt8
  kbdLayout : UInt8
  displayBrightness : UInt8
  autoOffTimeout : UInt16
  chatMsgCap : UInt16
  floodMaxHops : UInt8
  advertLocPolicy : UInt8
  advertLocationValid : Bool
  advertLat : Int32
  advertLon : Int32
  rxDelayBase : Binary32
  txDelayFactor : Binary32
  directTxDelayFactor : Binary32
  airtimeFactor : Binary32
  rxBoostedGain : Bool
  dutyCycle : UInt8
  advertIntervalH : UInt16
  advertType : UInt8
  gpsEnabled : Bool
  gpsInterval : UInt32
  gpsTrackEnabled : Bool
  gpsTrackInterval : UInt32
  autoaddConfig : UInt8
  autoaddMaxHops : UInt8
  themeId : UInt8
  language : UInt8
  pathHashMode : UInt8
  multiAcks : UInt8
  buzzerQuiet : Bool
  clientRepeat : UInt8
  bleEnabled : Bool
  bleUserSet : Bool
  devicePin : UInt32
  blePin : UInt32
  bleBondResetPending : Bool
  telemetryModes : UInt8
  manualAddContacts : UInt8
  defaultScopeKeyHex : CString 32
  wifiSsid : CString 32
  wifiPassword : CString 63
  activeRegion : CString 30
  otaBranch : CString 15
  otaAllowPrerelease : Bool
  radioProfile : CString 15
  transportTcpEnabled : Bool
  transportWsEnabled : Bool
  deriving DecidableEq

def float (numerator : Nat) (denominator : Nat := 1) : Binary32 := .ofQuotient numerator denominator

def setDefaults : NodePrefs where
  nodeName := literal "SigurdOS T-Deck"
  freq := float 0
  bw := float 0
  sf := 0
  cr := 0
  txPowerDbm := 0
  configured := false
  kbdBacklight := 127
  kbdLayout := 0
  displayBrightness := 200
  autoOffTimeout := 30
  chatMsgCap := 200
  floodMaxHops := 0
  advertLocPolicy := 0
  advertLocationValid := false
  advertLat := 0
  advertLon := 0
  rxDelayBase := float 10
  txDelayFactor := float 1
  directTxDelayFactor := float 1
  airtimeFactor := float 0
  rxBoostedGain := false
  dutyCycle := 0
  advertIntervalH := 0
  advertType := 1
  gpsEnabled := false
  gpsInterval := 5
  gpsTrackEnabled := false
  gpsTrackInterval := 15
  autoaddConfig := 0x1E
  autoaddMaxHops := 0
  themeId := 0
  language := 0
  pathHashMode := 0
  multiAcks := 0
  buzzerQuiet := false
  clientRepeat := 0
  bleEnabled := true
  bleUserSet := false
  devicePin := 0
  blePin := 0
  bleBondResetPending := false
  telemetryModes := 0
  manualAddContacts := 0
  defaultScopeKeyHex := noText
  wifiSsid := noText
  wifiPassword := noText
  activeRegion := noText
  otaBranch := defaultBranch
  otaAllowPrerelease := false
  radioProfile := noText
  transportTcpEnabled := false
  transportWsEnabled := false

def languageCount : UInt8 := 7

def knownLanguage (language : UInt8) : UInt8 := if languageCount ≤ language then 0 else language

def normalizePathHashMode (mode : UInt8) : UInt8 := if mode ≤ 2 then mode else 0

def gpsIntervalBound (interval : UInt32) : UInt32 := if 86400 < interval then 86400 else interval

def gpsTrackIntervalBound (interval : UInt32) : UInt32 := if interval < 1 ∨ 3600 < interval then 15 else interval

def kbdLayoutBound (layout : UInt8) : UInt8 := if 12 ≤ layout then 0 else layout

def displayBrightnessBound (brightness : UInt8) : UInt8 :=
  let brightness := if brightness < 20 then 20 else brightness
  if 240 < brightness then 240 else brightness

def delayBound (limit fallback delay : Binary32) : Binary32 :=
  if !delay.isFinite || delay.less (float 0) || limit.less delay then fallback else delay

def airtimeFactorBound (factor : Binary32) : Binary32 :=
  if !factor.isFinite || factor.less (float 0) then float 0 else factor

def allowedBandwidths : List Binary32 :=
  [float 78 10, float 104 10, float 156 10, float 208 10, float 3125 100, float 417 10, float 625 10, float 125,
    float 250, float 500]

def validRadioBandwidth (bw : Binary32) : Bool :=
  bw.isFinite && allowedBandwidths.any fun value => (bw.units - value.units).natAbs < (float 2 100).units

def NodePrefs.bounded (prefs : NodePrefs) : NodePrefs :=
  { prefs with
    gpsInterval := gpsIntervalBound prefs.gpsInterval
    gpsTrackInterval := gpsTrackIntervalBound prefs.gpsTrackInterval
    kbdLayout := kbdLayoutBound prefs.kbdLayout
    displayBrightness := displayBrightnessBound prefs.displayBrightness
    pathHashMode := normalizePathHashMode prefs.pathHashMode
    rxDelayBase := delayBound (float 20) (float 10) prefs.rxDelayBase
    txDelayFactor := delayBound (float 2) (float 1) prefs.txDelayFactor
    directTxDelayFactor := delayBound (float 2) (float 1) prefs.directTxDelayFactor
    airtimeFactor := airtimeFactorBound prefs.airtimeFactor }

def NodePrefs.radioOff (prefs : NodePrefs) : NodePrefs :=
  { prefs with
    configured := false, freq := float 0, bw := float 0, sf := 0, cr := 0, txPowerDbm := 0, radioProfile := noText }

def NodePrefs.radioValid (prefs : NodePrefs) : Bool :=
  prefs.freq.isFinite && !prefs.freq.less (float 150) && !(float 960).less prefs.freq && validRadioBandwidth prefs.bw &&
    decide (5 ≤ prefs.sf) && decide (prefs.sf ≤ 12) && decide (5 ≤ prefs.cr) && decide (prefs.cr ≤ 8) &&
    decide (-9 ≤ prefs.txPowerDbm) && decide (prefs.txPowerDbm ≤ 22)

def normalizeAndValidate (prefs : NodePrefs) : Bool × NodePrefs :=
  let prefs := prefs.bounded
  if !prefs.configured then (true, prefs.radioOff)
  else if prefs.radioValid then (true, prefs)
  else (false, prefs.radioOff)

theorem delayBound_idem {limit fallback : Binary32} (passes : delayBound limit fallback fallback = fallback)
    (delay : Binary32) :
    delayBound limit fallback (delayBound limit fallback delay) = delayBound limit fallback delay := by
  by_cases outside : (!delay.isFinite || delay.less (float 0) || limit.less delay) = true
  · rw [delayBound, delayBound, if_pos outside]
    exact passes
  · have kept : delayBound limit fallback delay = delay := if_neg outside
    rw [kept, kept]

theorem bounded_idem (prefs : NodePrefs) : prefs.bounded.bounded = prefs.bounded := by
  have gps : ∀ interval, gpsIntervalBound (gpsIntervalBound interval) = gpsIntervalBound interval := by
    intro interval
    unfold gpsIntervalBound
    grind
  have track : ∀ interval, gpsTrackIntervalBound (gpsTrackIntervalBound interval) = gpsTrackIntervalBound interval := by
    intro interval
    unfold gpsTrackIntervalBound
    grind
  have layout : ∀ layout, kbdLayoutBound (kbdLayoutBound layout) = kbdLayoutBound layout := by
    intro layout
    unfold kbdLayoutBound
    grind
  have brightness : ∀ brightness,
      displayBrightnessBound (displayBrightnessBound brightness) = displayBrightnessBound brightness := by
    intro brightness
    unfold displayBrightnessBound
    grind
  have mode : ∀ mode, normalizePathHashMode (normalizePathHashMode mode) = normalizePathHashMode mode := by
    intro mode
    unfold normalizePathHashMode
    grind
  have airtime : ∀ factor, airtimeFactorBound (airtimeFactorBound factor) = airtimeFactorBound factor := by
    intro factor
    have zero : airtimeFactorBound (float 0) = float 0 := by decide +kernel
    by_cases outside : (!factor.isFinite || factor.less (float 0)) = true
    · have reset : airtimeFactorBound factor = float 0 := if_pos outside
      rw [reset, zero]
    · have kept : airtimeFactorBound factor = factor := if_neg outside
      rw [kept, kept]
  have rx := @delayBound_idem (float 20) (float 10) (by decide +kernel)
  have tx := @delayBound_idem (float 2) (float 1) (by decide +kernel)
  simp only [NodePrefs.bounded, gps, track, layout, brightness, mode, airtime, rx, tx]

theorem normalizeAndValidate_cases (prefs : NodePrefs) :
    (normalizeAndValidate prefs).2 = prefs.bounded.radioOff ∨
      (normalizeAndValidate prefs).2 = prefs.bounded ∧ prefs.bounded.configured = true ∧
        prefs.bounded.radioValid = true := by
  by_cases configured : prefs.bounded.configured = true
  · by_cases valid : prefs.bounded.radioValid = true
    · right
      simp [normalizeAndValidate, configured, valid]
    · left
      simp [normalizeAndValidate, configured, valid]
  · left
    simp [normalizeAndValidate, configured]

theorem bounded_normalized (prefs : NodePrefs) :
    (normalizeAndValidate prefs).2.bounded = (normalizeAndValidate prefs).2 := by
  rcases normalizeAndValidate_cases prefs with off | ⟨kept, -, -⟩
  · rw [off]
    exact congrArg NodePrefs.radioOff (bounded_idem prefs)
  · rw [kept, bounded_idem]

@[simp] theorem normalizeAndValidate_idem (prefs : NodePrefs) :
    (normalizeAndValidate (normalizeAndValidate prefs).2).2 = (normalizeAndValidate prefs).2 := by
  have bounded := bounded_normalized prefs
  rcases normalizeAndValidate_cases prefs with off | ⟨kept, configured, valid⟩
  · rw [off] at bounded ⊢
    simp only [normalizeAndValidate, bounded]
    rfl
  · rw [kept] at bounded ⊢
    simp [normalizeAndValidate, bounded, configured, valid]

theorem txPowerDbm_normalized (prefs : NodePrefs) :
    -9 ≤ (normalizeAndValidate prefs).2.txPowerDbm ∧ (normalizeAndValidate prefs).2.txPowerDbm ≤ 22 := by
  rcases normalizeAndValidate_cases prefs with off | ⟨kept, -, valid⟩
  · rw [off]
    exact ⟨(by decide : (-9 : Int8) ≤ 0), (by decide : (0 : Int8) ≤ 22)⟩
  · rw [kept]
    simp only [NodePrefs.radioValid, Bool.and_eq_true, decide_eq_true_eq] at valid
    exact ⟨valid.1.2, valid.2⟩

def NodePrefs.withApart (prefs apart : NodePrefs) : NodePrefs :=
  { prefs with
    language := apart.language
    transportTcpEnabled := apart.transportTcpEnabled
    transportWsEnabled := apart.transportWsEnabled
    bleEnabled := apart.bleEnabled
    bleUserSet := apart.bleUserSet }

theorem normalizeAndValidate_withApart (prefs apart : NodePrefs) :
    (normalizeAndValidate (prefs.withApart apart)).2 = (normalizeAndValidate prefs).2.withApart apart := by
  have bounded : (prefs.withApart apart).bounded = prefs.bounded.withApart apart := rfl
  simp only [normalizeAndValidate, bounded]
  change (if (!prefs.bounded.configured) = true then _ else if prefs.bounded.radioValid = true then _ else _ :
    Bool × NodePrefs).2 = _
  split
  · rfl
  · split <;> rfl

theorem apart_normalized (prefs : NodePrefs) :
    (normalizeAndValidate prefs).2.language = prefs.language ∧
      (normalizeAndValidate prefs).2.transportTcpEnabled = prefs.transportTcpEnabled ∧
      (normalizeAndValidate prefs).2.transportWsEnabled = prefs.transportWsEnabled ∧
      (normalizeAndValidate prefs).2.bleEnabled = prefs.bleEnabled ∧
      (normalizeAndValidate prefs).2.bleUserSet = prefs.bleUserSet := by
  rcases normalizeAndValidate_cases prefs with off | ⟨kept, -, -⟩
  · simp [off, NodePrefs.radioOff, NodePrefs.bounded]
  · simp [kept, NodePrefs.bounded]

end SigurdOS.Prefs
