import SigurdOS.Companion.System

namespace SigurdOS.Companion

open Bytes

structure PendingRequest where
  destKey : List UInt8
  tag : UInt32
  companionBinary : Bool
  sentAtMs : UInt32
  timeoutMs : UInt32
  deriving DecidableEq

/-- The part of a device that its clients share: the contacts, the clocks and the table of pending
    requests. `nextTag` is the tag the mesh gives to the next request. -/
structure Device where
  contacts : List CompanionContact
  requests : List PendingRequest
  nextTag : UInt32
  rtc : UInt32
  millis : UInt32
  deriving DecidableEq

namespace Device

def maxPendingRequests : Nat := 8
def requestTimeoutMs : UInt32 := 10000

def blank : Device := ⟨[], [], 1, 1, 0⟩

def refused : CompanionSendResult := ⟨false, false, 0, 0⟩

/-- `expirePendingOperations`: an elapsed request is no longer matched. -/
def expirePendingOperations (device : Device) : Device :=
  let waiting (request : PendingRequest) : Bool := decide (device.millis - request.sentAtMs < request.timeoutMs)
  { device with requests := device.requests.filter waiting }

def hasPendingRequest (device : Device) (pubKey : List UInt8) : Bool :=
  device.requests.any fun request => request.destKey == pubKey

def lookupContactByPubKey (device : Device) (pubKey : List UInt8) : Option CompanionContact :=
  device.contacts.find? fun contact => contact.pubKey.bytes == pubKey

/-- `sendBinaryRequestCompanion`: one request to a contact at a time, in one of the slots. -/
def sendBinaryReq (pubKey data : List UInt8) (device : Device) : CompanionSendResult × Device :=
  if data.isEmpty || (device.lookupContactByPubKey pubKey).isNone then (refused, device)
  else
    let device := device.expirePendingOperations
    if device.hasPendingRequest pubKey || decide (maxPendingRequests ≤ device.requests.length) then (refused, device)
    else (⟨true, true, device.nextTag, requestTimeoutMs⟩, { device with
      requests := device.requests ++ [⟨pubKey, device.nextTag, true, device.millis, requestTimeoutMs⟩]
      nextTag := device.nextTag + 1 })

def cancelBinaryReqs (device : Device) : Device :=
  { device with requests := device.requests.filter fun request => !request.companionBinary }

def cancelBinaryReq (tag : UInt32) (device : Device) : Device :=
  { device with requests := device.requests.eraseP fun request => request.companionBinary && request.tag == tag }

def selfInfo : CompanionSelfInfo where
  pubKey := ⟨List.replicate pubKeySize 0, rfl⟩
  nodeName := ⟨[], noChars_fit32, noChars_nonzero⟩
  advertType := 1
  txPowerDbm := 22
  maxTxPowerDbm := 22
  lat := 0
  lon := 0
  multiAcks := 0
  advertLocPolicy := 0
  telemetryModes := 0
  manualAddContacts := 0
  freqKhz := 869525
  bwHz := 250000
  sf := 11
  cr := 5

/-- The adapter on a device whose flash takes no writes, so that every change of its settings and
    contacts is rolled back. Of the mesh only the binary requests are sent. -/
def host : CompanionBridgeHost Device where
  blePin := fun _ => 123456
  clientRepeat := fun _ => 0
  pathHashMode := fun _ => 0
  selfInfo := fun _ => selfInfo
  currentTime := fun device => device.rtc
  monotonicMillis := fun device => device.millis
  setCurrentTime := fun time device => (true, { device with rtc := time })
  batteryMilliVolts := fun _ => 3700
  storageUsedKb := fun _ => 0
  storageTotalKb := fun _ => 1024
  contactCount := fun device => device.contacts.length
  getContact := fun index device => device.contacts[index]?
  channelCount := fun _ => 0
  getChannel := fun _ _ => none
  setChannel := fun _ _ device => (false, device)
  sendTextByPubKeyPrefix := fun _ _ _ _ _ device => (refused, device)
  sendChannelText := fun _ _ _ device => (refused, device)
  sendChannelData := fun _ _ _ _ _ device => (false, device)
  sendRawData := fun _ _ device => (false, device)
  sendControlData := fun _ device => (false, device)
  sendAdvert := fun _ device => (false, device)
  setAdvertName := fun _ device => (false, device)
  setAdvertLatLon := fun _ _ device => (false, device)
  setBlePin := fun _ device => (false, device)
  importPrivateKey := fun _ device => (false, device)
  setRadioParams := fun _ _ _ _ _ device => (false, device)
  setRadioTxPower := fun _ device => (false, device)
  setTuningParams := fun _ _ device => (false, device)
  tuningParams := fun _ => (0, 1000)
  setOtherParams := fun _ device => (false, device)
  setPathHashMode := fun _ device => (false, device)
  getAutoAddConfig := fun _ => (0, 0)
  setAutoAddConfig := fun _ _ device => (false, device)
  getContactByPubKey := fun pubKey device => device.lookupContactByPubKey pubKey
  addOrUpdateContact := fun _ device => (false, device)
  removeContactByPubKey := fun _ device => (false, device)
  resetPathByPubKey := fun _ device => (false, device)
  shareContactByPubKey := fun _ device => (false, device)
  exportContactByPubKey := fun _ device => (⟨[], by decide⟩, device)
  importContact := fun _ device => (false, device)
  hasConnectionTo := fun _ _ => false
  logout := fun _ device => device
  reboot := fun device => device
  factoryReset := fun device => (false, device)
  coreStats := fun _ => ⟨3700, 0, 0, 0⟩
  radioStats := fun _ => ⟨0, 0, 0, 0, 0⟩
  packetStats := fun _ => ⟨0, 0, 0, 0, 0, 0, 0⟩
  allowedRepeatFreqRanges := fun _ => ⟨[], by decide⟩
  getDefaultFloodScope := fun _ => none
  setDefaultFloodScope := fun _ device => (false, device)
  setFloodScopeOverride := fun _ _ device => (false, device)
  sendLogin := fun _ _ device => (refused, device)
  sendStatusReq := fun _ device => (refused, device)
  sendTelemetryReq := fun _ device => (refused, device)
  sendBinaryReq := sendBinaryReq
  sendAnonReq := fun _ _ device => (refused, device)
  cancelBinaryReq := cancelBinaryReq
  cancelBinaryReqs := cancelBinaryReqs
  sendTracePath := fun _ _ _ _ device => (refused, device)
  sendPathDiscovery := fun _ device => (refused, device)
  selfTelemetry := fun _ => ⟨[], by decide⟩
  getCustomVars := fun _ => ⟨[], by decide⟩
  setCustomVar := fun _ _ device => (false, device)
  signData := fun _ device => (⟨[], by decide⟩, device)
  getAdvertPath := fun _ _ => none

def build : Build := ⟨⟨[], noChars_fit32, noChars_nonzero⟩, ⟨[], by decide, noChars_nonzero⟩, 350⟩

def paired : Links := ⟨true, true, 1, false, true, fun _ => none, []⟩

/-- What the bridge of a new device has become, with the registry or without it. -/
def after (attached : Bool) (actions : List (Action Device)) : State Device :=
  Runs.run (step host build) (State.boot attached blank (MessageStore.Store.initial none) paired) actions

end Device

end SigurdOS.Companion
