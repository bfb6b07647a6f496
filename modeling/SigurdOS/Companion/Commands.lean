import SigurdOS.Companion.Session

namespace SigurdOS.Companion

open Bytes MessageStore

inductive CompanionCommand where
  | appStart
  | sendTxtMsg
  | sendChannelTxtMsg
  | getContacts
  | getDeviceTime
  | setDeviceTime
  | sendSelfAdvert
  | setAdvertName
  | addUpdateContact
  | syncNextMessage
  | setRadioParams
  | setRadioTxPower
  | resetPath
  | setAdvertLatlon
  | removeContact
  | shareContact
  | exportContact
  | importContact
  | reboot
  | getBattAndStorage
  | setTuningParams
  | deviceQuery
  | exportPrivateKey
  | importPrivateKey
  | sendRawData
  | sendLogin
  | sendStatusReq
  | hasConnection
  | logout
  | getContactByKey
  | getChannel
  | setChannel
  | signStart
  | signData
  | signFinish
  | sendTracePath
  | setDevicePin
  | setOtherParams
  | sendTelemetryReq
  | getCustomVars
  | setCustomVar
  | getAdvertPath
  | getTuningParams
  | sendBinaryReq
  | factoryReset
  | sendPathDiscoveryReq
  | setFloodScopeKey
  | sendControlData
  | getStats
  | sendAnonReq
  | setAutoaddConfig
  | getAutoaddConfig
  | getAllowedRepeatFreq
  | setPathHashMode
  | sendChannelData
  | setDefaultFloodScope
  | getDefaultFloodScope
  | sendRawPacket
  deriving DecidableEq

open CompanionCommand in
def commandOf (code : UInt8) : Option CompanionCommand :=
  match code.toNat with
  | 1 => appStart
  | 2 => sendTxtMsg
  | 3 => sendChannelTxtMsg
  | 4 => getContacts
  | 5 => getDeviceTime
  | 6 => setDeviceTime
  | 7 => sendSelfAdvert
  | 8 => setAdvertName
  | 9 => addUpdateContact
  | 10 => syncNextMessage
  | 11 => setRadioParams
  | 12 => setRadioTxPower
  | 13 => resetPath
  | 14 => setAdvertLatlon
  | 15 => removeContact
  | 16 => shareContact
  | 17 => exportContact
  | 18 => importContact
  | 19 => reboot
  | 20 => getBattAndStorage
  | 21 => setTuningParams
  | 22 => deviceQuery
  | 23 => exportPrivateKey
  | 24 => importPrivateKey
  | 25 => sendRawData
  | 26 => sendLogin
  | 27 => sendStatusReq
  | 28 => hasConnection
  | 29 => logout
  | 30 => getContactByKey
  | 31 => getChannel
  | 32 => setChannel
  | 33 => signStart
  | 34 => signData
  | 35 => signFinish
  | 36 => sendTracePath
  | 37 => setDevicePin
  | 38 => setOtherParams
  | 39 => sendTelemetryReq
  | 40 => getCustomVars
  | 41 => setCustomVar
  | 42 => getAdvertPath
  | 43 => getTuningParams
  | 50 => sendBinaryReq
  | 51 => factoryReset
  | 52 => sendPathDiscoveryReq
  | 54 => setFloodScopeKey
  | 55 => sendControlData
  | 56 => getStats
  | 57 => sendAnonReq
  | 58 => setAutoaddConfig
  | 59 => getAutoaddConfig
  | 60 => getAllowedRepeatFreq
  | 61 => setPathHashMode
  | 62 => sendChannelData
  | 63 => setDefaultFloodScope
  | 64 => getDefaultFloodScope
  | 65 => sendRawPacket
  | _ => none

def commandMinimumLength : CompanionCommand → Nat
  | .deviceQuery => 2
  | .appStart => 8
  | .sendTxtMsg => 14
  | .sendChannelTxtMsg => 7
  | .sendChannelData => 5
  | .setDeviceTime => 5
  | .setAdvertName => 2
  | .setAdvertLatlon => 9
  | .setRadioParams => 11
  | .setRadioTxPower => 2
  | .setTuningParams => 9
  | .getChannel => 2
  | .setChannel => 2 + 32 + 16
  | .setDevicePin => 5
  | .importPrivateKey => 65
  | .setOtherParams => 2
  | .setPathHashMode => 3
  | .setAutoaddConfig => 2
  | .getContactByKey | .resetPath | .removeContact | .shareContact | .hasConnection | .logout => 1 + pubKeySize
  | .addUpdateContact => 1 + pubKeySize + 2 + 1 + pathSize + 32 + 4
  | .importContact => 2 + 32 + 64 + 1
  | .reboot => 7
  | .factoryReset => 6
  | .getStats => 2
  | .setCustomVar => 4
  | .getAdvertPath | .sendPathDiscoveryReq => 2 + pubKeySize
  | .setFloodScopeKey => 2
  | .signData => 2
  | .sendLogin | .sendStatusReq => 1 + pubKeySize
  | .sendTelemetryReq => 4
  | .sendBinaryReq | .sendAnonReq => 2 + pubKeySize
  | .sendTracePath => 11
  | .sendRawData => 6
  | .sendControlData => 2
  | _ => 0

inductive CompanionError where
  | unsupportedCmd
  | notFound
  | tableFull
  | badState
  | fileIoError
  | illegalArg

def CompanionError.code : CompanionError → UInt8
  | .unsupportedCmd => 1
  | .notFound => 2
  | .tableFull => 3
  | .badState => 4
  | .fileIoError => 5
  | .illegalArg => 6

def okFrame : List UInt8 := [0]
def errFrame (err : CompanionError) : List UInt8 := [1, err.code]
def disabledFrame : List UInt8 := [15]
def noMoreMessages : List UInt8 := [10]

def okOr (err : CompanionError) (done : Bool) : List UInt8 := if done then okFrame else errFrame err

/-- What a command works with: the device, whether an earlier response is pending, and the trace. -/
structure Work (σ : Type) where
  host : σ
  pending : Bool
  trace : Trace

abbrev Parse (σ : Type) := StateM (Work σ)

section Access

variable {σ : Type}

def cmdFrame (frame : List UInt8) : List UInt8 := frame ++ [0]

def logRead (offset length : Nat) : Parse σ Unit :=
  modify fun w => { w with trace := { w.trace with reads := w.trace.reads ++ [(offset, length)] } }

def logWrite (offset length : Nat) : Parse σ Unit :=
  modify fun w => { w with trace := { w.trace with writes := w.trace.writes ++ [(offset, length)] } }

def byteAt (frame : List UInt8) (i : Nat) : Parse σ UInt8 := do
  logRead i 1
  return (cmdFrame frame).getD i 0

def bytesAt (frame : List UInt8) (i count : Nat) : Parse σ (List UInt8) := do
  logRead i count
  return ((cmdFrame frame).drop i).take count

def wordAt (frame : List UInt8) (i : Nat) : Parse σ UInt32 := do
  let bytes ← bytesAt frame i 4
  return UInt32.ofNat (leNumber bytes)

def stringAt (frame : List UInt8) (i : Nat) : Parse σ (List UInt8) := do
  logRead i ((terminated ((cmdFrame frame).drop i)).length + 1)
  return terminated ((cmdFrame frame).drop i)

def boundedStringAt (frame : List UInt8) (i limit : Nat) : Parse σ (List UInt8) := do
  logRead i (min limit ((terminated ((cmdFrame frame).drop i)).length + 1))
  return (terminated ((cmdFrame frame).drop i)).take limit

def respondAt (offset : Nat) : List (List UInt8) → Parse σ (List UInt8)
  | [] => return []
  | field :: rest => do
    logWrite offset field.length
    let later ← respondAt (offset + field.length) rest
    return field ++ later

def respond (fields : List (List UInt8)) : Parse σ (List UInt8) := respondAt 0 fields

def ask {α : Type} (f : σ → α) : Parse σ α := do return f (← get).host

def call {α : Type} (f : σ → α × σ) : Parse σ α := modifyGet fun w =>
  ((f w.host).1, { w with
    host := (f w.host).2
    trace := { w.trace with mutations := w.trace.mutations ++ [w.pending] } })

end Access

def word (value : UInt32) : List UInt8 := leBytes 4 value.toNat
def halfWord (value : UInt16) : List UInt8 := leBytes 2 value.toNat

/-- A field of `size` bytes: at most `size - 1` characters, then terminators. -/
def strzcpy (chars : List UInt8) (size : Nat) : List UInt8 :=
  chars.take (size - 1) ++ List.replicate (size - (chars.take (size - 1)).length) 0

def fixed (size : Nat) (bytes : List UInt8) : FixedBytes size where
  bytes := (bytes ++ List.replicate size 0).take size
  length_eq := padded_length size bytes

def manufacturer : List UInt8 := [83, 105, 103, 117, 114, 100, 79, 83]
def firmwareVerCode : UInt8 := 12

def companionBlePinValid (pin : UInt32) : Bool := pin == 0 || (decide (100000 ≤ pin) && decide (pin ≤ 999999))

def contactFields (code : UInt8) (contact : CompanionContact) : List (List UInt8) :=
  [[code], contact.pubKey.bytes, [contact.type, contact.flags, contact.outPathLen], contact.outPath.bytes,
    strzcpy contact.name.chars 32, word contact.lastAdvertTimestamp, word contact.gpsLat, word contact.gpsLon,
    word contact.lastmod]

def respCodeContact : UInt8 := 3
def respCodeEndOfContacts : UInt8 := 4
def respCodeSent : UInt8 := 6

section HostCommands

variable {σ : Type} (h : CompanionBridgeHost σ) (frame : List UInt8)

def sentFields (result : CompanionSendResult) : List (List UInt8) :=
  [[respCodeSent, if result.sentFlood then 1 else 0], word result.expectedAck, word result.estTimeout]

def writeSentOrErr (result : CompanionSendResult) : Parse σ (List UInt8) :=
  if result.ok then respond (sentFields result) else return errFrame .notFound

def writeContactFrame (contact : CompanionContact) : Parse σ (List UInt8) :=
  respond (contactFields respCodeContact contact)

def sendTxtMsg : Parse σ (List UInt8) := do
  let txtType ← byteAt frame 1
  let attempt ← byteAt frame 2
  let timestamp ← wordAt frame 3
  if txtType ≠ companionTxtPlain ∧ txtType ≠ companionTxtCliData then return errFrame .unsupportedCmd
  else
    let prefixBytes ← bytesAt frame 7 pubKeyPrefixSize
    let text ← stringAt frame 13
    let result ← call (h.sendTextByPubKeyPrefix prefixBytes txtType attempt timestamp text)
    writeSentOrErr result

def sendChannelTxtMsg : Parse σ (List UInt8) := do
  let txtType ← byteAt frame 1
  let channelIdx ← byteAt frame 2
  let timestamp ← wordAt frame 3
  if txtType ≠ companionTxtPlain then return errFrame .unsupportedCmd
  else
    let text ← stringAt frame 7
    let result ← call (h.sendChannelText channelIdx timestamp text)
    return okOr .notFound result.ok

def sendChannelData : Parse σ (List UInt8) := do
  let channelIdx ← byteAt frame 1
  let pathLen ← byteAt frame 2
  match pathByteLen pathLen with
  | none => return errFrame .illegalArg
  | some pathBytes =>
    if 3 + pathBytes + 2 > frame.length then return errFrame .illegalArg
    else
      let low ← byteAt frame (3 + pathBytes)
      let high ← byteAt frame (3 + pathBytes + 1)
      let dataType := low.toUInt16 ||| (high.toUInt16 <<< 8)
      let payloadLen := frame.length - (3 + pathBytes + 2)
      if dataType = 0 ∨ payloadLen > channelDataMaxPayload then return errFrame .illegalArg
      else
        let path ← bytesAt frame 3 pathBytes
        let payload ← bytesAt frame (3 + pathBytes + 2) payloadLen
        let sent ← call (h.sendChannelData channelIdx (if pathLen = Path.unknown then none else some path) pathLen
          dataType payload)
        return okOr .notFound sent

def getDeviceTime : Parse σ (List UInt8) := do
  let now ← ask h.currentTime
  respond [[9], word now]

def setDeviceTime : Parse σ (List UInt8) := do
  let secs ← wordAt frame 1
  let now ← ask h.currentTime
  if secs ≥ now then
    let done ← call (h.setCurrentTime secs)
    return okOr .illegalArg done
  else return errFrame .illegalArg

def getBattAndStorage : Parse σ (List UInt8) := do
  let mv ← ask h.batteryMilliVolts
  let used ← ask h.storageUsedKb
  let total ← ask h.storageTotalKb
  respond [[12], halfWord mv, word used, word total]

def setAdvertName : Parse σ (List UInt8) := do
  let name ← stringAt frame 1
  let done ← call (h.setAdvertName name)
  return okOr .illegalArg done

def setAdvertLatlon : Parse σ (List UInt8) := do
  let lat ← wordAt frame 1
  let lon ← wordAt frame 5
  let done ← call (h.setAdvertLatLon lat lon)
  return okOr .illegalArg done

def optionalByteAt (i : Nat) : Parse σ UInt8 := if frame.length > i then byteAt frame i else return 0

def setRadioParams : Parse σ (List UInt8) := do
  let freqKhz ← wordAt frame 1
  let bwHz ← wordAt frame 5
  let sf ← byteAt frame 9
  let cr ← byteAt frame 10
  let clientRepeat ← optionalByteAt frame 11
  let done ← call (h.setRadioParams freqKhz bwHz sf cr clientRepeat)
  return okOr .illegalArg done

def setRadioTxPower : Parse σ (List UInt8) := do
  let dbm ← byteAt frame 1
  let done ← call (h.setRadioTxPower dbm)
  return okOr .illegalArg done

def setTuningParams : Parse σ (List UInt8) := do
  let rxDelayBase ← wordAt frame 1
  let airtimeFactor ← wordAt frame 5
  let done ← call (h.setTuningParams rxDelayBase airtimeFactor)
  return okOr .illegalArg done

def getTuningParams : Parse σ (List UInt8) := do
  let params ← ask h.tuningParams
  respond [[23], word params.1, word params.2]

def sendSelfAdvert : Parse σ (List UInt8) := do
  let flood ← optionalByteAt frame 1
  let sent ← call (h.sendAdvert (flood == 1))
  return okOr .tableFull sent

def getChannel : Parse σ (List UInt8) := do
  let channelIdx ← byteAt frame 1
  match ← ask (h.getChannel channelIdx.toNat) with
  | none => return errFrame .notFound
  | some channel => respond [[18, channelIdx], strzcpy channel.name.chars 32, channel.secret.bytes.take 16]

def setChannel : Parse σ (List UInt8) := do
  if frame.length ≥ 2 + 32 + 32 then return errFrame .unsupportedCmd
  else
    let channelIdx ← byteAt frame 1
    let name ← boundedStringAt frame 2 31
    let secret ← bytesAt frame (2 + 32) 16
    let done ← call (h.setChannel channelIdx.toNat ⟨.decode 32 name, fixed pubKeySize secret⟩)
    return okOr .notFound done

def setDevicePin : Parse σ (List UInt8) := do
  let pin ← wordAt frame 1
  if companionBlePinValid pin then
    let done ← call (h.setBlePin pin)
    return okOr .illegalArg done
  else return errFrame .illegalArg

def setOtherParams : Parse σ (List UInt8) := do
  let manualAddContacts ← byteAt frame 1
  let telemetryModes ← if frame.length ≥ 3 then some <$> byteAt frame 2 else pure none
  let advertLocPolicy ← if frame.length ≥ 4 then some <$> byteAt frame 3 else pure none
  let multiAcks ← if frame.length ≥ 5 then some <$> byteAt frame 4 else pure none
  let done ← call (h.setOtherParams ⟨manualAddContacts, telemetryModes, advertLocPolicy, multiAcks⟩)
  return okOr .fileIoError done

def setPathHashMode : Parse σ (List UInt8) := do
  let reserved ← byteAt frame 1
  if reserved ≠ 0 then return errFrame .illegalArg
  else
    let mode ← byteAt frame 2
    if mode ≥ 3 then return errFrame .illegalArg
    else
      let done ← call (h.setPathHashMode mode)
      return okOr .illegalArg done

def setAutoaddConfig : Parse σ (List UInt8) := do
  let maxHops ← optionalByteAt frame 2
  let config ← byteAt frame 1
  let done ← call (h.setAutoAddConfig config (if maxHops > 64 then 64 else maxHops))
  return okOr .fileIoError done

def getAutoaddConfig : Parse σ (List UInt8) := do
  let config ← ask h.getAutoAddConfig
  respond [[25, config.1, config.2]]

def getContactByKey : Parse σ (List UInt8) := do
  let key ← bytesAt frame 1 pubKeySize
  match ← ask (h.getContactByPubKey key) with
  | some contact => writeContactFrame contact
  | none => return errFrame .notFound

def contactCommand (change : List UInt8 → σ → Bool × σ) : Parse σ (List UInt8) := do
  let key ← bytesAt frame 1 pubKeySize
  let done ← call (change key)
  return okOr .notFound done

def resetPath : Parse σ (List UInt8) := contactCommand frame h.resetPathByPubKey
def removeContact : Parse σ (List UInt8) := contactCommand frame h.removeContactByPubKey
def shareContact : Parse σ (List UInt8) := contactCommand frame h.shareContactByPubKey

/-- The position and the revision are optional; a frame without revision gets the current time. -/
def optionalPosition : Parse σ (UInt32 × UInt32 × UInt32) := do
  let now ← ask h.currentTime
  if frame.length ≥ 136 + 8 then
    let lat ← wordAt frame 136
    let lon ← wordAt frame 140
    if frame.length ≥ 144 + 4 then
      let lastmod ← wordAt frame 144
      return (lat, lon, lastmod)
    else return (lat, lon, now)
  else return (0, 0, now)

def addUpdateContact : Parse σ (List UInt8) := do
  let key ← bytesAt frame 1 pubKeySize
  let type ← byteAt frame 33
  let flags ← byteAt frame 34
  let outPathLen ← byteAt frame 35
  if !Path.storedLengthValid outPathLen then return errFrame .illegalArg
  else
    let outPath ← bytesAt frame 36 pathSize
    let name ← bytesAt frame 100 32
    let lastAdvert ← wordAt frame 132
    let position ← optionalPosition h frame
    let done ← call (h.addOrUpdateContact ⟨fixed _ key, type, flags, outPathLen, fixed _ outPath, .decode 32 name,
      lastAdvert, position.2.2, position.1, position.2.1⟩)
    return okOr .tableFull done

def exportContact : Parse σ (List UInt8) := do
  let key ← if frame.length ≥ 1 + pubKeySize then some <$> bytesAt frame 1 pubKeySize else pure none
  let exported ← call (h.exportContactByPubKey key)
  logWrite 1 exported.bytes.length
  if exported.bytes.length > 0 then respond [[11], exported.bytes]
  else return errFrame (if key.isSome then .notFound else .tableFull)

def importContact : Parse σ (List UInt8) := do
  let data ← bytesAt frame 1 (frame.length - 1)
  let done ← call (h.importContact data)
  return okOr .illegalArg done

def hasConnection : Parse σ (List UInt8) := do
  let key ← bytesAt frame 1 pubKeySize
  let connected ← ask (h.hasConnectionTo key)
  return okOr .notFound connected

def logout : Parse σ (List UInt8) := do
  let key ← bytesAt frame 1 pubKeySize
  call (fun host => ((), h.logout key host))
  return okFrame

def getStats : Parse σ (List UInt8) := do
  let statsType ← byteAt frame 1
  if statsType = 0 then
    let stats ← ask h.coreStats
    respond [[24, 0], halfWord stats.battMv, word stats.uptimeSecs, halfWord stats.errFlags, [stats.queueLen]]
  else if statsType = 1 then
    let stats ← ask h.radioStats
    respond [[24, 1], halfWord stats.noiseFloor, [stats.lastRssi, stats.lastSnrQuarters], word stats.txAirSecs,
      word stats.rxAirSecs]
  else if statsType = 2 then
    let stats ← ask h.packetStats
    respond [[24, 2], word stats.recv, word stats.sent, word stats.sentFlood, word stats.sentDirect,
      word stats.recvFlood, word stats.recvDirect, word stats.recvErrors]
  else return errFrame .illegalArg

def getAllowedRepeatFreq : Parse σ (List UInt8) := do
  let ranges ← ask h.allowedRepeatFreqRanges
  let words := ranges.val.flatMap (fun range => [range.1, range.2])
  respond ([26] :: (words.take ((maxFrameSize - 1) / 4)).map word)

def getCustomVars : Parse σ (List UInt8) := do
  let vars ← ask h.getCustomVars
  logWrite 1 (maxFrameSize - 1)
  respond [[21], vars.bytes]

/-- `strchr` stops at the separator or at the terminator; the separator becomes a terminator. -/
def setCustomVar : Parse σ (List UInt8) := do
  let pair ← stringAt frame 1
  if 58 ∈ pair then
    let name := pair.takeWhile (fun byte => byte != 58)
    let value ← stringAt frame (1 + name.length + 1)
    let done ← call (h.setCustomVar name value)
    return okOr .illegalArg done
  else return errFrame .illegalArg

def getAdvertPath : Parse σ (List UInt8) := do
  let key ← bytesAt frame 2 pubKeySize
  match ← ask (h.getAdvertPath key) with
  | none => return errFrame .notFound
  | some found =>
    if !Path.encodedLengthValid found.descriptor ∨ found.pathBytes ≠ Path.byteCount found.descriptor ∨
        found.pathBytes > pathSize ∨ 1 + 4 + 1 + found.pathBytes > maxFrameSize then return errFrame .notFound
    else respond [[22], word found.timestamp, [found.descriptor], found.path.bytes.take found.pathBytes]

def sendPathDiscoveryReq : Parse σ (List UInt8) := do
  let reserved ← byteAt frame 1
  if reserved ≠ 0 then return errFrame .illegalArg
  else
    let key ← bytesAt frame 2 pubKeySize
    let result ← call (h.sendPathDiscovery key)
    writeSentOrErr result

def getDefaultFloodScope : Parse σ (List UInt8) := do
  match ← ask h.getDefaultFloodScope with
  | some (name, key) => respond [[28], name.bytes, key.bytes]
  | none => respond [[28]]

def setDefaultFloodScope : Parse σ (List UInt8) := do
  if frame.length = 1 + 31 + 16 then
    let raw ← bytesAt frame 1 31
    let name := terminated raw
    if 0 < name.length ∧ name.length < 31 then
      let key ← bytesAt frame (1 + 31) 16
      let done ← call (h.setDefaultFloodScope (some (name, key)))
      return okOr .fileIoError done
    else return errFrame .illegalArg
  else if frame.length = 1 then
    let done ← call (h.setDefaultFloodScope none)
    return okOr .fileIoError done
  else return errFrame .illegalArg

def setFloodScopeKey : Parse σ (List UInt8) := do
  let mode ← byteAt frame 1
  if frame.length = 2 ∧ mode = 1 then
    let done ← call (h.setFloodScopeOverride none true)
    return okOr .fileIoError done
  else if mode = 0 ∧ (frame.length = 2 ∨ frame.length = 2 + 16) then
    let key ← if frame.length = 2 + 16 then some <$> bytesAt frame 2 16 else pure none
    let done ← call (h.setFloodScopeOverride key false)
    return okOr .fileIoError done
  else return errFrame .illegalArg

def sendLogin : Parse σ (List UInt8) := do
  let key ← bytesAt frame 1 pubKeySize
  let password ← stringAt frame (1 + pubKeySize)
  let result ← call (h.sendLogin key password)
  writeSentOrErr result

def sendStatusReq : Parse σ (List UInt8) := do
  let key ← bytesAt frame 1 pubKeySize
  let result ← call (h.sendStatusReq key)
  writeSentOrErr result

def sendTracePath : Parse σ (List UInt8) := do
  let pathLen := frame.length - 10
  let flags ← byteAt frame 9
  let pathSz := (flags &&& 0x03).toNat
  if pathLen >>> pathSz > pathSize ∨ pathLen % (1 <<< pathSz) ≠ 0 then return errFrame .illegalArg
  else
    let tag ← wordAt frame 1
    let auth ← wordAt frame 5
    let path ← bytesAt frame 10 pathLen
    let result ← call (h.sendTracePath tag auth flags path)
    if result.ok then respond [[respCodeSent, 0], word tag, word result.estTimeout]
    else return errFrame .tableFull

def sendRawData : Parse σ (List UInt8) := do
  let pathLen ← byteAt frame 1
  if pathLen = Path.unknown then return errFrame .unsupportedCmd
  else if pathLen > 63 ∨ 2 + pathLen.toNat + 4 > frame.length then return errFrame .illegalArg
  else
    let path ← bytesAt frame 2 pathLen.toNat
    let payload ← bytesAt frame (2 + pathLen.toNat) (frame.length - 2 - pathLen.toNat)
    let sent ← call (h.sendRawData path payload)
    return okOr .tableFull sent

def sendControlData : Parse σ (List UInt8) := do
  let first ← byteAt frame 1
  if first &&& 0x80 = 0 then return errFrame .illegalArg
  else
    let payload ← bytesAt frame 1 (frame.length - 1)
    let sent ← call (h.sendControlData payload)
    return okOr .tableFull sent

end HostCommands

inductive Follow where
  | nothing
  | refill
  | identityChanged
  | disableTransport
  | telemetry (senderPrefix blob : List UInt8)

structure Outcome where
  connection : Connection
  reply : Option (List UInt8)
  follow : Follow

section SessionCommands

variable {σ : Type} (h : CompanionBridgeHost σ) (build : Build) (frame : List UInt8) (connection : Connection)

def answer (connection : Connection) (reply : List UInt8) : Outcome := ⟨connection, some reply, .nothing⟩

def deviceQuery : Parse σ Outcome := do
  let version ← byteAt frame 1
  let pin ← ask h.blePin
  let clientRepeat ← ask h.clientRepeat
  let pathHashMode ← ask h.pathHashMode
  let reply ← respond [[13, firmwareVerCode, UInt8.ofNat (build.maxContacts / 2), 8], word pin,
    strzcpy build.date.chars 12, strzcpy manufacturer 40, strzcpy build.firmwareVersion.chars 20,
    [clientRepeat, pathHashMode]]
  -- Frames encoded before the negotiation do not survive it.
  return answer { connection with appTargetVer := version, versionNegotiated := true, offline := [] } reply

def selfInfoFields (info : CompanionSelfInfo) : List (List UInt8) :=
  [[5, info.advertType, info.txPowerDbm, info.maxTxPowerDbm], info.pubKey.bytes, word info.lat, word info.lon,
    [info.multiAcks, info.advertLocPolicy, info.telemetryModes, info.manualAddContacts], word info.freqKhz,
    word info.bwHz, [info.sf, info.cr], info.nodeName.chars.take 31]

def appStart : Parse σ Outcome := do
  let info ← ask h.selfInfo
  let reply ← respond (selfInfoFields info)
  return ⟨{ connection with contactIter := none }, some reply, .refill⟩

def getContacts : Parse σ Outcome := do
  if connection.contactIter.isSome then return answer connection (errFrame .badState)
  else
    let since ← if frame.length ≥ 5 then wordAt frame 1 else pure 0
    let count ← ask h.contactCount
    let reply ← respond [[2], word (UInt32.ofNat count)]
    return answer { connection with iterFilterSince := since, contactIter := some 0, mostRecentLastmod := 0 } reply

def importPrivateKey : Parse σ Outcome := do
  let key ← bytesAt frame 1 64
  let done ← call (h.importPrivateKey key)
  return ⟨connection, some (okOr .illegalArg done), if done then .identityChanged else .nothing⟩

def reboot : Parse σ Outcome := do
  let phrase ← bytesAt frame 1 6
  if phrase = [114, 101, 98, 111, 111, 116] then
    call (fun host => ((), h.reboot host))
    return ⟨connection, none, .nothing⟩
  else return answer connection (errFrame .illegalArg)

def factoryReset : Parse σ Outcome := do
  let phrase ← bytesAt frame 1 5
  if phrase = [114, 101, 115, 101, 116] then
    let done ← call h.factoryReset
    return ⟨connection, some (okOr .fileIoError done), .disableTransport⟩
  else return answer connection (errFrame .illegalArg)

def signStart : Parse σ Outcome := do
  let reply ← respond [[19, 0], word (UInt32.ofNat maxSignData)]
  return answer { connection with signBuf := [], signActive := true } reply

def signData : Parse σ Outcome := do
  if !connection.signActive then return answer connection (errFrame .badState)
  else if connection.signBuf.length + (frame.length - 1) > maxSignData then
    return answer connection (errFrame .tableFull)
  else
    let data ← bytesAt frame 1 (frame.length - 1)
    return answer { connection with signBuf := connection.signBuf ++ data } okFrame

def signFinish : Parse σ Outcome := do
  if !connection.signActive then return answer connection (errFrame .badState)
  else
    let signature ← call (h.signData connection.signBuf)
    logWrite 1 signature.bytes.length
    let cleared := { connection with signBuf := [], signActive := false }
    if signature.bytes.length > 0 then
      let reply ← respond [[20], signature.bytes]
      return answer cleared reply
    else return answer cleared (errFrame .badState)

def sendTelemetryReq : Parse σ Outcome := do
  if frame.length = 4 then
    let blob ← ask h.selfTelemetry
    let info ← ask h.selfInfo
    return ⟨connection, none, .telemetry (info.pubKey.bytes.take pubKeyPrefixSize) blob.bytes⟩
  else if frame.length ≥ 4 + pubKeySize then
    let key ← bytesAt frame 4 pubKeySize
    let result ← call (h.sendTelemetryReq key)
    let reply ← writeSentOrErr result
    return answer connection reply
  else return answer connection (errFrame .illegalArg)

def findPendingBinary (requests : List PendingBinaryRequest) (tag : UInt32) : Option Nat :=
  if tag = 0 then none else requests.findIdx? (fun request => request.tag == tag)

def findFreePendingBinary (requests : List PendingBinaryRequest) : Option Nat :=
  requests.findIdx? (fun request => request.tag == 0)

/-- The requests whose answer comes later under a tag: the connection keeps the tag with its deadline. -/
def trackedRequest (send : List UInt8 → List UInt8 → σ → CompanionSendResult × σ) : Parse σ Outcome := do
  match findFreePendingBinary connection.pendingBinary with
  | none => return answer connection (errFrame .tableFull)
  | some slot =>
    let key ← bytesAt frame 1 pubKeySize
    let request ← bytesAt frame (1 + pubKeySize) (frame.length - (1 + pubKeySize))
    let result ← call (send key request)
    if !result.ok ∨ result.expectedAck = 0 then return answer connection (errFrame .tableFull)
    else
      let now ← ask h.monotonicMillis
      let timeout := if result.estTimeout ≠ 0 then result.estTimeout else binaryRequestFallbackTimeoutMs
      let reply ← writeSentOrErr result
      return answer { connection with
        pendingBinary := connection.pendingBinary.set slot ⟨result.expectedAck, now + timeout⟩ } reply

def sendBinaryReq : Parse σ Outcome := do
  let key ← bytesAt frame 1 pubKeySize
  let contact ← ask (h.getContactByPubKey key)
  if contact.isNone then return answer connection (errFrame .notFound)
  else trackedRequest h frame connection h.sendBinaryReq

def sendAnonReq : Parse σ Outcome := trackedRequest h frame connection h.sendAnonReq

def hostCommand : CompanionCommand → Option (Parse σ (List UInt8))
  | .sendTxtMsg => some (sendTxtMsg h frame)
  | .sendChannelTxtMsg => some (sendChannelTxtMsg h frame)
  | .sendChannelData => some (sendChannelData h frame)
  | .getDeviceTime => some (getDeviceTime h)
  | .setDeviceTime => some (setDeviceTime h frame)
  | .getBattAndStorage => some (getBattAndStorage h)
  | .setAdvertName => some (setAdvertName h frame)
  | .setAdvertLatlon => some (setAdvertLatlon h frame)
  | .setRadioParams => some (setRadioParams h frame)
  | .setRadioTxPower => some (setRadioTxPower h frame)
  | .setTuningParams => some (setTuningParams h frame)
  | .getTuningParams => some (getTuningParams h)
  | .sendSelfAdvert => some (sendSelfAdvert h frame)
  | .getChannel => some (getChannel h frame)
  | .setChannel => some (setChannel h frame)
  | .setDevicePin => some (setDevicePin h frame)
  | .exportPrivateKey => some (return disabledFrame)
  | .setOtherParams => some (setOtherParams h frame)
  | .setPathHashMode => some (setPathHashMode h frame)
  | .setAutoaddConfig => some (setAutoaddConfig h frame)
  | .getAutoaddConfig => some (getAutoaddConfig h)
  | .getContactByKey => some (getContactByKey h frame)
  | .resetPath => some (resetPath h frame)
  | .removeContact => some (removeContact h frame)
  | .shareContact => some (shareContact h frame)
  | .addUpdateContact => some (addUpdateContact h frame)
  | .exportContact => some (exportContact h frame)
  | .importContact => some (importContact h frame)
  | .hasConnection => some (hasConnection h frame)
  | .logout => some (logout h frame)
  | .getStats => some (getStats h frame)
  | .getAllowedRepeatFreq => some (getAllowedRepeatFreq h)
  | .getCustomVars => some (getCustomVars h)
  | .setCustomVar => some (setCustomVar h frame)
  | .getAdvertPath => some (getAdvertPath h frame)
  | .sendPathDiscoveryReq => some (sendPathDiscoveryReq h frame)
  | .getDefaultFloodScope => some (getDefaultFloodScope h)
  | .setDefaultFloodScope => some (setDefaultFloodScope h frame)
  | .setFloodScopeKey => some (setFloodScopeKey h frame)
  | .sendLogin => some (sendLogin h frame)
  | .sendStatusReq => some (sendStatusReq h frame)
  | .sendTracePath => some (sendTracePath h frame)
  | .sendRawData => some (sendRawData h frame)
  | .sendControlData => some (sendControlData h frame)
  | .sendRawPacket => some (return errFrame .unsupportedCmd)
  | _ => none

/-- Every command but `CMD_SYNC_NEXT_MESSAGE`, which works on the transports and the store. -/
def sessionCommand : CompanionCommand → Parse σ Outcome
  | .deviceQuery => deviceQuery h build frame connection
  | .appStart => appStart h connection
  | .getContacts => getContacts h frame connection
  | .importPrivateKey => importPrivateKey h frame connection
  | .reboot => reboot h frame connection
  | .factoryReset => factoryReset h frame connection
  | .signStart => signStart connection
  | .signData => signData frame connection
  | .signFinish => signFinish h connection
  | .sendTelemetryReq => sendTelemetryReq h frame connection
  | .sendBinaryReq => sendBinaryReq h frame connection
  | .sendAnonReq => sendAnonReq h frame connection
  | command =>
    match hostCommand h frame command with
    | some run => answer connection <$> run
    | none => return answer connection (errFrame .unsupportedCmd)

def hostedOutcome (command : CompanionCommand) : Parse σ Outcome :=
  (hostCommand h frame command).elim (return answer connection (errFrame .unsupportedCmd)) fun run =>
    answer connection <$> run

end SessionCommands

end SigurdOS.Companion
