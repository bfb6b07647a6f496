import SigurdOS.Bytes.Fields

namespace SigurdOS.Companion

open Bytes

def maxFrameSize : Nat := 172
def pubKeySize : Nat := 32
def pubKeyPrefixSize : Nat := 6
def pathSize : Nat := 64
def signatureSize : Nat := 64
def maxSignData : Nat := 8192
def channelDataMaxPayload : Nat := maxFrameSize - 9
def pushBlobMaxPayload : Nat := maxFrameSize - 2 - pubKeyPrefixSize

structure Filled (capacity : Nat) where
  bytes : List UInt8
  fits : bytes.length ≤ capacity

theorem Filled.bytes_inj {capacity : Nat} {filled other : Filled capacity} :
    filled.bytes = other.bytes ↔ filled = other := by
  cases filled
  cases other
  simp

instance {capacity : Nat} : DecidableEq (Filled capacity) := fun _ _ => decidable_of_iff _ Filled.bytes_inj

structure CompanionContact where
  pubKey : FixedBytes pubKeySize
  type : UInt8
  flags : UInt8
  outPathLen : UInt8
  outPath : FixedBytes pathSize
  name : CString 32
  lastAdvertTimestamp : UInt32
  lastmod : UInt32
  gpsLat : UInt32
  gpsLon : UInt32
  deriving DecidableEq

structure CompanionChannel where
  name : CString 32
  secret : FixedBytes pubKeySize
  deriving DecidableEq

structure CompanionSendResult where
  ok : Bool
  sentFlood : Bool
  expectedAck : UInt32
  estTimeout : UInt32
  deriving DecidableEq

structure CompanionSelfInfo where
  pubKey : FixedBytes pubKeySize
  nodeName : CString 32
  advertType : UInt8
  txPowerDbm : UInt8
  maxTxPowerDbm : UInt8
  lat : UInt32
  lon : UInt32
  multiAcks : UInt8
  advertLocPolicy : UInt8
  telemetryModes : UInt8
  manualAddContacts : UInt8
  freqKhz : UInt32
  bwHz : UInt32
  sf : UInt8
  cr : UInt8
  deriving DecidableEq

structure CompanionOtherParams where
  manualAddContacts : UInt8
  telemetryModes : Option UInt8
  advertLocPolicy : Option UInt8
  multiAcks : Option UInt8
  deriving DecidableEq

structure CompanionCoreStats where
  battMv : UInt16
  uptimeSecs : UInt32
  errFlags : UInt16
  queueLen : UInt8

structure CompanionRadioStats where
  noiseFloor : UInt16
  lastRssi : UInt8
  lastSnrQuarters : UInt8
  txAirSecs : UInt32
  rxAirSecs : UInt32

structure CompanionPacketStats where
  recv : UInt32
  sent : UInt32
  sentFlood : UInt32
  sentDirect : UInt32
  recvFlood : UInt32
  recvDirect : UInt32
  recvErrors : UInt32

/-- The entry `getAdvertPath` finds: the encoded descriptor is separate from the bytes copied. -/
structure AdvertPath where
  path : Filled pathSize
  descriptor : UInt8
  pathBytes : Nat
  timestamp : UInt32

/-- The device behind the bridge. A method that is `const` in the source cannot change the device.
    Signed quantities travel as their bytes and stay unsigned here. -/
structure CompanionBridgeHost (σ : Type) where
  blePin : σ → UInt32
  clientRepeat : σ → UInt8
  pathHashMode : σ → UInt8
  selfInfo : σ → CompanionSelfInfo
  currentTime : σ → UInt32
  monotonicMillis : σ → UInt32
  setCurrentTime : UInt32 → σ → Bool × σ
  batteryMilliVolts : σ → UInt16
  storageUsedKb : σ → UInt32
  storageTotalKb : σ → UInt32
  contactCount : σ → Nat
  getContact : Nat → σ → Option CompanionContact
  channelCount : σ → Nat
  getChannel : Nat → σ → Option CompanionChannel
  setChannel : Nat → CompanionChannel → σ → Bool × σ
  sendTextByPubKeyPrefix : List UInt8 → UInt8 → UInt8 → UInt32 → List UInt8 → σ → CompanionSendResult × σ
  sendChannelText : UInt8 → UInt32 → List UInt8 → σ → CompanionSendResult × σ
  sendChannelData : UInt8 → Option (List UInt8) → UInt8 → UInt16 → List UInt8 → σ → Bool × σ
  sendRawData : List UInt8 → List UInt8 → σ → Bool × σ
  sendControlData : List UInt8 → σ → Bool × σ
  sendAdvert : Bool → σ → Bool × σ
  setAdvertName : List UInt8 → σ → Bool × σ
  setAdvertLatLon : UInt32 → UInt32 → σ → Bool × σ
  setBlePin : UInt32 → σ → Bool × σ
  importPrivateKey : List UInt8 → σ → Bool × σ
  setRadioParams : UInt32 → UInt32 → UInt8 → UInt8 → UInt8 → σ → Bool × σ
  setRadioTxPower : UInt8 → σ → Bool × σ
  setTuningParams : UInt32 → UInt32 → σ → Bool × σ
  tuningParams : σ → UInt32 × UInt32
  setOtherParams : CompanionOtherParams → σ → Bool × σ
  setPathHashMode : UInt8 → σ → Bool × σ
  getAutoAddConfig : σ → UInt8 × UInt8
  setAutoAddConfig : UInt8 → UInt8 → σ → Bool × σ
  getContactByPubKey : List UInt8 → σ → Option CompanionContact
  addOrUpdateContact : CompanionContact → σ → Bool × σ
  removeContactByPubKey : List UInt8 → σ → Bool × σ
  resetPathByPubKey : List UInt8 → σ → Bool × σ
  shareContactByPubKey : List UInt8 → σ → Bool × σ
  exportContactByPubKey : Option (List UInt8) → σ → Filled (maxFrameSize - 1) × σ
  importContact : List UInt8 → σ → Bool × σ
  hasConnectionTo : List UInt8 → σ → Bool
  logout : List UInt8 → σ → σ
  reboot : σ → σ
  factoryReset : σ → Bool × σ
  coreStats : σ → CompanionCoreStats
  radioStats : σ → CompanionRadioStats
  packetStats : σ → CompanionPacketStats
  allowedRepeatFreqRanges : σ → { ranges : List (UInt32 × UInt32) // ranges.length ≤ 8 }
  getDefaultFloodScope : σ → Option (FixedBytes 31 × FixedBytes 16)
  setDefaultFloodScope : Option (List UInt8 × List UInt8) → σ → Bool × σ
  setFloodScopeOverride : Option (List UInt8) → Bool → σ → Bool × σ
  sendLogin : List UInt8 → List UInt8 → σ → CompanionSendResult × σ
  sendStatusReq : List UInt8 → σ → CompanionSendResult × σ
  sendTelemetryReq : List UInt8 → σ → CompanionSendResult × σ
  sendBinaryReq : List UInt8 → List UInt8 → σ → CompanionSendResult × σ
  sendAnonReq : List UInt8 → List UInt8 → σ → CompanionSendResult × σ
  cancelBinaryReq : UInt32 → σ → σ
  cancelBinaryReqs : σ → σ
  sendTracePath : UInt32 → UInt32 → UInt8 → List UInt8 → σ → CompanionSendResult × σ
  sendPathDiscovery : List UInt8 → σ → CompanionSendResult × σ
  selfTelemetry : σ → Filled maxFrameSize
  getCustomVars : σ → Filled (maxFrameSize - 1)
  setCustomVar : List UInt8 → List UInt8 → σ → Bool × σ
  signData : List UInt8 → σ → Filled signatureSize × σ
  getAdvertPath : List UInt8 → σ → Option AdvertPath

/-- What the build puts into the device information. -/
structure Build where
  date : CString 32
  firmwareVersion : CString 64
  maxContacts : Nat

end SigurdOS.Companion
