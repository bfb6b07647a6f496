import SigurdOS.Mesh.PendingAcks
import SigurdOS.Utils.Utf8

namespace SigurdOS.Mesh

open Bytes SlotTable Utils
open MessageStore (read32)

section LoginSession

inductive LoginStatus where
  | none | pending | ok | failed | timedOut | dropped
  deriving DecidableEq

def LoginStatus.isTerminal : LoginStatus → Bool
  | .failed | .timedOut | .dropped => true
  | _ => false

def minTimeoutMs : UInt32 := 10000

def timeoutGraceMs : UInt32 := 2000

def maxTimeoutMs : UInt32 := 120000

def normalizeTimeout (estimatedMs : UInt32) : UInt32 :=
  let timeout := if estimatedMs > maxTimeoutMs - timeoutGraceMs then maxTimeoutMs else estimatedMs + timeoutGraceMs
  let timeout := if timeout < minTimeoutMs then minTimeoutMs else timeout
  if timeout > maxTimeoutMs then maxTimeoutMs else timeout

def pendingOperationElapsed (startedAtMs timeoutMs nowMs : UInt32) : Bool :=
  timeoutMs > 0 && nowMs - startedAtMs ≥ timeoutMs

def LoginStatus.evaluate (status : LoginStatus) (startedAtMs timeoutMs : UInt32)
    (keepAliveExpected connectionPresent : Bool) (nowMs : UInt32) : LoginStatus :=
  if status == .pending && pendingOperationElapsed startedAtMs timeoutMs nowMs then .timedOut
  else if status == .ok && keepAliveExpected && !connectionPresent then .dropped
  else status

end LoginSession

section LoginResponse

inductive LoginResponse where
  | unrecognized
  | legacySuccess
  | currentSuccess (keepAliveSecs : Nat) (permission aclPermissions firmwareLevel : UInt8)
  | currentFailure (failureCode : UInt8)
  deriving DecidableEq

def LoginResponse.parse (data : List UInt8) : LoginResponse :=
  if data.length = 6 ∧ data.getD 4 0 = 79 ∧ data.getD 5 0 = 75 then .legacySuccess
  else if data.length ≠ 13 then .unrecognized
  else if data.getD 4 0 = 0 then
    .currentSuccess ((data.getD 5 0).toNat * 16) (data.getD 6 0) (data.getD 7 0) (data.getD 12 0)
  else .currentFailure (data.getD 4 0)

end LoginResponse

/-- A request that waits for its response. The number tells it from all other requests; the firmware keeps none. -/
structure PendingRequest where
  number : Nat
  tag : UInt32
  destKey : FixedBytes 32
  reqType : UInt8
  channelName : List UInt8
  sentAtMs : UInt32
  timeoutMs : UInt32
  companionBinary : Bool
  inUse : Bool
  timedOut : Bool
  deriving DecidableEq

def PendingRequest.fresh : PendingRequest := ⟨0, 0, .ofList 32 [], 0, [], 0, 0, false, false, false⟩

structure LoginEntry where
  contactName : List UInt8
  pubKey : FixedBytes 32
  permission : UInt8
  aclPermissions : UInt8
  status : LoginStatus
  startedAtMs : UInt32
  timeoutMs : UInt32
  keepAliveActive : Bool
  inUse : Bool
  deriving DecidableEq

def LoginEntry.fresh : LoginEntry := ⟨[], .ofList 32 [], 0, 0, .none, 0, 0, false, false⟩

/-- A stored response, with the number of the request it answers, if any; that number the firmware does not keep. -/
structure ResponseEntry where
  answers : Option Nat
  tag : UInt32
  contactName : List UInt8
  contactKey : FixedBytes 32
  reqType : UInt8
  data : List UInt8
  deriving DecidableEq

structure RoomMsgFetchEntry where
  sender : List UInt8
  text : List UInt8
  timestamp : UInt32
  channel : List UInt8
  contactKey : FixedBytes 32
  deriving DecidableEq

inductive ResponsePush where
  | login (pubKey : FixedBytes 32) (success : Bool) (permission : UInt8) (tag : UInt32)
      (aclPermissions firmwareLevel : UInt8) (legacySuccess : Bool)
  | binary (tag : UInt32) (data : List UInt8)
  | status (pubKey : FixedBytes 32) (data : List UInt8)
  | telemetry (pubKey : FixedBytes 32) (data : List UInt8)
  | roomMessage (sender channel text : List UInt8)
  deriving DecidableEq

def reqTypeGetStatus : UInt8 := 1

def reqTypeGetTelemetryData : UInt8 := 3

def reqTypeGetRoomMsgs : UInt8 := 6

def maxAnonRequestBytes : Nat := 184 - 4

def maxResponses : Nat := 8

def maxResponseData : Nat := 128

def maxRoomMsgFetch : Nat := 16

structure Transmission where
  failed : Bool
  tag : UInt32
  estTimeout : UInt32
  deriving DecidableEq

/-- The tables of the mesh that requests, logins and responses share. The count of the requests reserved so far
    numbers them. -/
structure MeshRuntime where
  pendingReqs : Fin 8 → PendingRequest
  loginEntries : Fin 4 → LoginEntry
  responses : List ResponseEntry
  roomFetched : List RoomMsgFetchEntry
  reserved : Nat

namespace MeshRuntime

def init : MeshRuntime := ⟨fun _ => .fresh, fun _ => .fresh, [], [], 0⟩

section Tables

def findLoginEntry (runtime : MeshRuntime) (pubKey : FixedBytes 32) : Option (Fin 4) :=
  firstSlot (fun entry => entry.inUse && entry.pubKey == pubKey) runtime.loginEntries

def findPendingLogin (runtime : MeshRuntime) (pubKey : FixedBytes 32) : Option (Fin 4) :=
  match runtime.findLoginEntry pubKey with
  | none => none
  | some slot => if (runtime.loginEntries slot).status = .pending then some slot else none

def removeLoginEntry (runtime : MeshRuntime) (pubKey : FixedBytes 32) : MeshRuntime :=
  match runtime.findLoginEntry pubKey with
  | none => runtime
  | some slot => { runtime with loginEntries := Function.update runtime.loginEntries slot .fresh }

def hasPendingRequest (runtime : MeshRuntime) (pubKey : FixedBytes 32) : Bool :=
  (firstSlot (fun request => request.inUse && request.destKey == pubKey) runtime.pendingReqs).isSome

def selectReusablePendingSlot (slots : Fin 8 → PendingRequest) : Option (Fin 8) :=
  (firstSlot (fun request => !request.inUse && !request.timedOut) slots).or
    (firstSlot (fun request => !request.inUse && request.timedOut) slots)

def selectReservationSlot (entries : Fin 4 → LoginEntry) : Option (Fin 4) :=
  (firstSlot (fun entry => !entry.inUse) entries).or (firstSlot (fun entry => entry.status.isTerminal) entries)

def elapsed (nowMs : UInt32) (request : PendingRequest) : Bool :=
  request.inUse && pendingOperationElapsed request.sentAtMs request.timeoutMs nowMs

def expirePendingOperations (runtime : MeshRuntime) (nowMs : UInt32) : MeshRuntime :=
  { runtime with
    pendingReqs := fun slot =>
      if elapsed nowMs (runtime.pendingReqs slot) then
        { runtime.pendingReqs slot with inUse := false, timedOut := true, companionBinary := false }
      else runtime.pendingReqs slot }

@[simp] theorem expirePendingOperations_loginEntries (runtime : MeshRuntime) (nowMs : UInt32) :
    (runtime.expirePendingOperations nowMs).loginEntries = runtime.loginEntries := rfl

@[simp] theorem expirePendingOperations_reserved (runtime : MeshRuntime) (nowMs : UInt32) :
    (runtime.expirePendingOperations nowMs).reserved = runtime.reserved := rfl

@[simp] theorem expirePendingOperations_responses (runtime : MeshRuntime) (nowMs : UInt32) :
    (runtime.expirePendingOperations nowMs).responses = runtime.responses := rfl

end Tables

section Requests

def reservePendingRequest (runtime : MeshRuntime) (pubKey : FixedBytes 32) (reqType : UInt8) (companionBinary : Bool)
    (channelName : List UInt8) (nowMs : UInt32) : Option (Fin 8) × MeshRuntime :=
  let runtime := runtime.expirePendingOperations nowMs
  if (runtime.findPendingLogin pubKey).isSome || runtime.hasPendingRequest pubKey then (none, runtime)
  else
    match selectReusablePendingSlot runtime.pendingReqs with
    | none => (none, runtime)
    | some slot =>
      let request : PendingRequest :=
        ⟨runtime.reserved, 0, pubKey, reqType, channelName.take 31, 0, 0, companionBinary, true, false⟩
      (some slot, { runtime with
        pendingReqs := Function.update runtime.pendingReqs slot request
        reserved := runtime.reserved + 1 })

def sendReserved (runtime : MeshRuntime) (pubKey : FixedBytes 32) (reqType : UInt8) (companionBinary : Bool)
    (channelName : List UInt8) (nowMs sentMs : UInt32) (transmission : Transmission) :
    Option (UInt32 × UInt32) × MeshRuntime :=
  match runtime.reservePendingRequest pubKey reqType companionBinary channelName nowMs with
  | (none, runtime) => (none, runtime)
  | (some slot, runtime) =>
    if transmission.failed || transmission.tag == 0 then
      (none, { runtime with pendingReqs := Function.update runtime.pendingReqs slot .fresh })
    else
      let timeoutMs := normalizeTimeout transmission.estTimeout
      let request := { runtime.pendingReqs slot with
        tag := transmission.tag
        sentAtMs := sentMs
        timeoutMs := timeoutMs }
      (some (transmission.tag, timeoutMs),
        { runtime with pendingReqs := Function.update runtime.pendingReqs slot request })

def sendRequest (runtime : MeshRuntime) (pubKey : FixedBytes 32) (reqType : UInt8) (nowMs sentMs : UInt32)
    (transmission : Transmission) : Option (UInt32 × UInt32) × MeshRuntime :=
  runtime.sendReserved pubKey reqType false [] nowMs sentMs transmission

def sendRequestWithData (runtime : MeshRuntime) (pubKey : FixedBytes 32) (data : List UInt8) (nowMs sentMs : UInt32)
    (transmission : Transmission) : Option (UInt32 × UInt32) × MeshRuntime :=
  if data.isEmpty then (none, runtime) else runtime.sendReserved pubKey 0 false [] nowMs sentMs transmission

def sendBinaryRequestCompanion (runtime : MeshRuntime) (pubKey : FixedBytes 32) (data : List UInt8)
    (nowMs sentMs : UInt32) (transmission : Transmission) : Option (UInt32 × UInt32) × MeshRuntime :=
  if data.isEmpty then (none, runtime) else runtime.sendReserved pubKey 0 true [] nowMs sentMs transmission

/-- `reachable`: the key is that of a contact, or MeshCore takes a transient contact for it. -/
def sendAnonRequestCompanion (runtime : MeshRuntime) (pubKey : FixedBytes 32) (data : List UInt8) (reachable : Bool)
    (nowMs sentMs : UInt32) (transmission : Transmission) : Option (UInt32 × UInt32) × MeshRuntime :=
  if data.isEmpty || maxAnonRequestBytes < data.length then (none, runtime)
  else if (runtime.findPendingLogin pubKey).isSome || runtime.hasPendingRequest pubKey then (none, runtime)
  else if reachable = false then (none, runtime)
  else runtime.sendReserved pubKey 0 true [] nowMs sentMs transmission

def sendRoomMsgFetchRequest (runtime : MeshRuntime) (pubKey : FixedBytes 32) (channelName : List UInt8)
    (nowMs sentMs : UInt32) (transmission : Transmission) : Option (UInt32 × UInt32) × MeshRuntime :=
  if channelName.isEmpty then (none, runtime)
  else
    { runtime with roomFetched := [] }.sendReserved pubKey reqTypeGetRoomMsgs false channelName nowMs sentMs
      transmission

def cancelCompanionBinaryRequests (runtime : MeshRuntime) : MeshRuntime :=
  { runtime with
    pendingReqs := clearMatchingEntries .fresh (fun request => request.inUse && request.companionBinary)
      runtime.pendingReqs }

def cancelCompanionBinaryRequest (runtime : MeshRuntime) (tag : UInt32) : MeshRuntime :=
  if tag = 0 then runtime
  else
    match firstSlot (fun request => request.inUse && request.companionBinary && request.tag == tag)
      runtime.pendingReqs with
    | none => runtime
    | some slot => { runtime with pendingReqs := Function.update runtime.pendingReqs slot .fresh }

end Requests

section Logins

def addLoginEntry (runtime : MeshRuntime) (name : List UInt8) (pubKey : FixedBytes 32)
    (estimatedTimeoutMs nowMs : UInt32) : Option (Fin 4) × MeshRuntime :=
  match (runtime.findLoginEntry pubKey).or (selectReservationSlot runtime.loginEntries) with
  | none => (none, runtime)
  | some slot =>
    let entry : LoginEntry :=
      ⟨name.take 31, pubKey, 0, 0, .pending, nowMs, normalizeTimeout estimatedTimeoutMs, false, true⟩
    (some slot, { runtime with loginEntries := Function.update runtime.loginEntries slot entry })

/-- The login from the screen and that from the phone, which is given the estimate of the response time. -/
def beginLogin (runtime : MeshRuntime) (name : List UInt8) (pubKey : FixedBytes 32) (nowMs sentMs : UInt32)
    (transmission : Transmission) : Option UInt32 × MeshRuntime :=
  if runtime.hasPendingRequest pubKey || (runtime.findPendingLogin pubKey).isSome then (none, runtime)
  else
    let previous :=
      match runtime.findLoginEntry pubKey with
      | some slot => runtime.loginEntries slot
      | none => .fresh
    match runtime.addLoginEntry name pubKey 0 nowMs with
    | (none, runtime) => (none, runtime)
    | (some slot, runtime) =>
      if transmission.failed then
        (none, { runtime with loginEntries := Function.update runtime.loginEntries slot previous })
      else
        let entry := { runtime.loginEntries slot with
          startedAtMs := sentMs
          timeoutMs := normalizeTimeout transmission.estTimeout }
        (some transmission.estTimeout, { runtime with loginEntries := Function.update runtime.loginEntries slot entry })

def sendLoginTo (runtime : MeshRuntime) (name : List UInt8) (pubKey : FixedBytes 32)
    (password : Option (List UInt8)) (nowMs sentMs : UInt32) (transmission : Transmission) : Bool × MeshRuntime :=
  match password with
  | none => (false, runtime)
  | some _ => ((runtime.beginLogin name pubKey nowMs sentMs transmission).1.isSome,
      (runtime.beginLogin name pubKey nowMs sentMs transmission).2)

def sendLoginCompanion (runtime : MeshRuntime) (name : List UInt8) (pubKey : FixedBytes 32)
    (nowMs sentMs : UInt32) (transmission : Transmission) : Option UInt32 × MeshRuntime :=
  runtime.beginLogin name pubKey nowMs sentMs transmission

/-- `connected`: the contact is known and MeshCore holds its connection. -/
def updateLoginSessions (runtime : MeshRuntime) (known connected : FixedBytes 32 → Bool) (nowMs : UInt32) :
    List ResponsePush × MeshRuntime :=
  let next (entry : LoginEntry) : LoginStatus :=
    entry.status.evaluate entry.startedAtMs entry.timeoutMs entry.keepAliveActive
      (entry.keepAliveActive && connected entry.pubKey) nowMs
  let changes (entry : LoginEntry) : Bool := entry.inUse && next entry != entry.status
  ((List.finRange 4).filterMap fun slot =>
      if changes (runtime.loginEntries slot) && known (runtime.loginEntries slot).pubKey then
        some (.login (runtime.loginEntries slot).pubKey false 0 0 0 0 false)
      else none,
    { runtime with
      loginEntries := fun slot =>
        if changes (runtime.loginEntries slot) then
          { runtime.loginEntries slot with status := next (runtime.loginEntries slot), keepAliveActive := false }
        else runtime.loginEntries slot })

def sendLogoutTo (runtime : MeshRuntime) (pubKey : FixedBytes 32) : MeshRuntime := runtime.removeLoginEntry pubKey

def companionStopConnection (runtime : MeshRuntime) (pubKey : FixedBytes 32) : MeshRuntime :=
  runtime.removeLoginEntry pubKey

def invalidateAllLoginSessions (runtime : MeshRuntime) : MeshRuntime :=
  { runtime with loginEntries := fun _ => .fresh }

end Logins

section Responses

/-- Nothing is handled when no login of the contact is pending or the bytes are no login response. -/
def answerLogin (runtime : MeshRuntime) (pubKey : FixedBytes 32) (data : List UInt8) (startConnection : Bool) :
    Option (List ResponsePush × MeshRuntime) :=
  match runtime.findPendingLogin pubKey with
  | none => none
  | some slot =>
    let entry := runtime.loginEntries slot
    match LoginResponse.parse data with
    | .unrecognized => none
    | .currentSuccess keepAliveSecs permission aclPermissions firmwareLevel =>
      let keepAliveOk := keepAliveSecs == 0 || startConnection
      let entry := { entry with
        permission := permission
        aclPermissions := aclPermissions
        keepAliveActive := decide (keepAliveSecs > 0) && keepAliveOk
        status := if keepAliveOk then .ok else .dropped }
      some ([.login pubKey keepAliveOk permission (read32 data) aclPermissions firmwareLevel false],
        { runtime with loginEntries := Function.update runtime.loginEntries slot entry })
    | .legacySuccess =>
      let entry := { entry with status := .ok, permission := 1, aclPermissions := 0, keepAliveActive := false }
      some ([.login pubKey true 0 0 0 0 true],
        { runtime with loginEntries := Function.update runtime.loginEntries slot entry })
    | .currentFailure _ =>
      let entry := { entry with status := .failed, keepAliveActive := false }
      some ([.login pubKey false 0 0 0 0 false],
        { runtime with loginEntries := Function.update runtime.loginEntries slot entry })

def requestResponseMatches (tag : UInt32) (pubKey : FixedBytes 32) (request : PendingRequest) : Bool :=
  tag != 0 && tag == request.tag && pubKey == request.destKey

def matchedRequest (runtime : MeshRuntime) (pubKey : FixedBytes 32) (data : List UInt8) : Option (Fin 8) :=
  firstSlot (fun request => request.inUse && requestResponseMatches (read32 data) pubKey request) runtime.pendingReqs

def appendSlot (responses : List ResponseEntry) (entry : ResponseEntry) : List ResponseEntry :=
  (if responses.length = maxResponses then responses.tail else responses) ++ [entry]

/-- Entries of a sender and a text, each with its terminator, while the buffer has room; the clock is read once for
    each. `fuel` bounds the entries by the bytes. -/
def roomEntries (pubKey : FixedBytes 32) (channelName : List UInt8) (rtc : Nat → UInt32) :
    Nat → Nat → List UInt8 → List RoomMsgFetchEntry
  | 0, _, _ => []
  | fuel + 1, fetched, data =>
    if data.length ≤ 2 ∨ maxRoomMsgFetch ≤ fetched then []
    else
      let sender := terminated data
      if sender.length = 0 ∨ data.length ≤ sender.length then []
      else
        let rest := data.drop (sender.length + 1)
        let text := terminated rest
        if text.length = 0 ∨ rest.length ≤ text.length then []
        else
          ⟨sender.take 31, utf8CopyTruncateN 160 text text.length, rtc fetched, channelName.take 31, pubKey⟩ ::
            roomEntries pubKey channelName rtc fuel (fetched + 1) (rest.drop (text.length + 1))

def parseRoomMsgResponse (runtime : MeshRuntime) (pubKey : FixedBytes 32) (channelName data : List UInt8)
    (rtc : Nat → UInt32) : List ResponsePush × MeshRuntime :=
  let entries := roomEntries pubKey channelName rtc data.length runtime.roomFetched.length data
  (entries.map fun entry => .roomMessage entry.sender entry.channel entry.text,
    { runtime with roomFetched := runtime.roomFetched ++ entries })

def completeRequest (runtime : MeshRuntime) (slot : Fin 8) (pubKey : FixedBytes 32) (data : List UInt8)
    (rtc : Nat → UInt32) : List ResponsePush × MeshRuntime :=
  let pending := runtime.pendingReqs slot
  let runtime := { runtime with pendingReqs := Function.update runtime.pendingReqs slot .fresh }
  if pending.reqType = reqTypeGetRoomMsgs ∧ 4 < data.length then
    runtime.parseRoomMsgResponse pubKey pending.channelName (data.drop 4) rtc
  else if data.length ≤ 4 then ([], runtime)
  else if pending.companionBinary then ([.binary (read32 data) (data.drop 4)], runtime)
  else if pending.reqType = reqTypeGetStatus then ([.status pubKey (data.drop 4)], runtime)
  else if pending.reqType = reqTypeGetTelemetryData then ([.telemetry pubKey (data.drop 4)], runtime)
  else ([], runtime)

def responseEntry (runtime : MeshRuntime) (name : List UInt8) (pubKey : FixedBytes 32) (data : List UInt8) :
    ResponseEntry :=
  let answered := (runtime.matchedRequest pubKey data).map runtime.pendingReqs
  { answers := answered.map (·.number)
    tag := read32 data
    contactName := name.take 31
    contactKey := pubKey
    reqType := (answered.map (·.reqType)).getD 0
    data := data.take maxResponseData }

/-- Every response that no pending login takes is stored, also one that answers no request. -/
def storeResponse (runtime : MeshRuntime) (name : List UInt8) (pubKey : FixedBytes 32) (data : List UInt8) :
    MeshRuntime :=
  { runtime with responses := appendSlot runtime.responses (runtime.responseEntry name pubKey data) }

def onContactResponse (runtime : MeshRuntime) (name : List UInt8) (pubKey : FixedBytes 32) (data : List UInt8)
    (startConnection : Bool) (rtc : Nat → UInt32) (nowMs : UInt32) : List ResponsePush × MeshRuntime :=
  if data.length < 4 then ([], runtime)
  else
    let runtime := runtime.expirePendingOperations nowMs
    match runtime.answerLogin pubKey data startConnection with
    | some handled => handled
    | none =>
      match runtime.matchedRequest pubKey data with
      | none => ([], runtime.storeResponse name pubKey data)
      | some slot => (runtime.storeResponse name pubKey data).completeRequest slot pubKey data rtc

def consumeResponse (runtime : MeshRuntime) (index : Nat) : MeshRuntime :=
  { runtime with responses := runtime.responses.eraseIdx index }

def clearResponses (runtime : MeshRuntime) : MeshRuntime := { runtime with responses := [] }

def clearRoomMsgFetch (runtime : MeshRuntime) : MeshRuntime := { runtime with roomFetched := [] }

end Responses

/-- What the removal of a contact does to the tables. -/
def teardownContactRuntime (runtime : MeshRuntime) (pubKey : FixedBytes 32) : MeshRuntime :=
  let runtime := runtime.removeLoginEntry pubKey
  { runtime with
    pendingReqs := clearMatchingEntries .fresh (·.destKey == pubKey) runtime.pendingReqs
    responses := runtime.responses.filter (·.contactKey != pubKey)
    roomFetched := runtime.roomFetched.filter (·.contactKey != pubKey) }

end MeshRuntime

/-- What is done with the tables, with the readings of the clock and the answers of MeshCore. -/
inductive RuntimeEvent where
  | sendRequest (pubKey : FixedBytes 32) (reqType : UInt8) (nowMs sentMs : UInt32) (transmission : Transmission)
  | sendRequestWithData (pubKey : FixedBytes 32) (data : List UInt8) (nowMs sentMs : UInt32)
      (transmission : Transmission)
  | sendBinaryRequestCompanion (pubKey : FixedBytes 32) (data : List UInt8) (nowMs sentMs : UInt32)
      (transmission : Transmission)
  | sendAnonRequestCompanion (pubKey : FixedBytes 32) (data : List UInt8) (reachable : Bool) (nowMs sentMs : UInt32)
      (transmission : Transmission)
  | sendRoomMsgFetchRequest (pubKey : FixedBytes 32) (channelName : List UInt8) (nowMs sentMs : UInt32)
      (transmission : Transmission)
  | sendLoginTo (name : List UInt8) (pubKey : FixedBytes 32) (password : Option (List UInt8)) (nowMs sentMs : UInt32)
      (transmission : Transmission)
  | sendLoginCompanion (name : List UInt8) (pubKey : FixedBytes 32) (nowMs sentMs : UInt32)
      (transmission : Transmission)
  | onContactResponse (name : List UInt8) (pubKey : FixedBytes 32) (data : List UInt8) (startConnection : Bool)
      (rtc : Nat → UInt32) (nowMs : UInt32)
  | expirePendingOperations (nowMs : UInt32)
  | updateLoginSessions (known connected : FixedBytes 32 → Bool) (nowMs : UInt32)
  | sendLogoutTo (pubKey : FixedBytes 32)
  | companionStopConnection (pubKey : FixedBytes 32)
  | invalidateAllLoginSessions
  | cancelCompanionBinaryRequests
  | cancelCompanionBinaryRequest (tag : UInt32)
  | consumeResponse (index : Nat)
  | clearResponses
  | clearRoomMsgFetch
  | teardownContactRuntime (pubKey : FixedBytes 32)

namespace MeshRuntime

/-- Whether the call failed, which only a send does, and the tables behind it. -/
def perform (runtime : MeshRuntime) : RuntimeEvent → Bool × MeshRuntime
  | .sendRequest pubKey reqType nowMs sentMs transmission =>
    let (sent, runtime) := runtime.sendRequest pubKey reqType nowMs sentMs transmission
    (sent.isNone, runtime)
  | .sendRequestWithData pubKey data nowMs sentMs transmission =>
    let (sent, runtime) := runtime.sendRequestWithData pubKey data nowMs sentMs transmission
    (sent.isNone, runtime)
  | .sendBinaryRequestCompanion pubKey data nowMs sentMs transmission =>
    let (sent, runtime) := runtime.sendBinaryRequestCompanion pubKey data nowMs sentMs transmission
    (sent.isNone, runtime)
  | .sendAnonRequestCompanion pubKey data reachable nowMs sentMs transmission =>
    let (sent, runtime) := runtime.sendAnonRequestCompanion pubKey data reachable nowMs sentMs transmission
    (sent.isNone, runtime)
  | .sendRoomMsgFetchRequest pubKey channelName nowMs sentMs transmission =>
    let (sent, runtime) := runtime.sendRoomMsgFetchRequest pubKey channelName nowMs sentMs transmission
    (sent.isNone, runtime)
  | .sendLoginTo name pubKey password nowMs sentMs transmission =>
    let (sent, runtime) := runtime.sendLoginTo name pubKey password nowMs sentMs transmission
    (!sent, runtime)
  | .sendLoginCompanion name pubKey nowMs sentMs transmission =>
    let (sent, runtime) := runtime.sendLoginCompanion name pubKey nowMs sentMs transmission
    (sent.isNone, runtime)
  | .onContactResponse name pubKey data startConnection rtc nowMs =>
    (false, (runtime.onContactResponse name pubKey data startConnection rtc nowMs).2)
  | .expirePendingOperations nowMs => (false, runtime.expirePendingOperations nowMs)
  | .updateLoginSessions known connected nowMs => (false, (runtime.updateLoginSessions known connected nowMs).2)
  | .sendLogoutTo pubKey => (false, runtime.sendLogoutTo pubKey)
  | .companionStopConnection pubKey => (false, runtime.companionStopConnection pubKey)
  | .invalidateAllLoginSessions => (false, runtime.invalidateAllLoginSessions)
  | .cancelCompanionBinaryRequests => (false, runtime.cancelCompanionBinaryRequests)
  | .cancelCompanionBinaryRequest tag => (false, runtime.cancelCompanionBinaryRequest tag)
  | .consumeResponse index => (false, runtime.consumeResponse index)
  | .clearResponses => (false, runtime.clearResponses)
  | .clearRoomMsgFetch => (false, runtime.clearRoomMsgFetch)
  | .teardownContactRuntime pubKey => (false, runtime.teardownContactRuntime pubKey)

def step (runtime : MeshRuntime) (event : RuntimeEvent) : MeshRuntime := (runtime.perform event).2

section Cleared

theorem clearMatchingEntries_inUse {requests : Fin 8 → PendingRequest} {agrees : PendingRequest → Bool} {slot : Fin 8}
    (used : (clearMatchingEntries .fresh agrees requests slot).inUse = true) :
    clearMatchingEntries .fresh agrees requests slot = requests slot := by
  simp only [clearMatchingEntries] at used ⊢
  split at used
  · cases used
  · next differs => rw [if_neg differs]

theorem update_fresh_inUse {requests : Fin 8 → PendingRequest} {slot other : Fin 8}
    (used : (Function.update requests slot .fresh other).inUse = true) :
    Function.update requests slot .fresh other = requests other := by
  by_cases here : other = slot
  · subst here
    simp [PendingRequest.fresh] at used
  · rw [Function.update_of_ne here]

end Cleared

section Outcomes

variable (runtime : MeshRuntime) (pubKey : FixedBytes 32) (reqType : UInt8) (companionBinary : Bool)
  (channelName : List UInt8) (nowMs sentMs : UInt32) (transmission : Transmission)

def sentRequest : PendingRequest where
  number := runtime.reserved
  tag := transmission.tag
  destKey := pubKey
  reqType := reqType
  channelName := channelName.take 31
  sentAtMs := sentMs
  timeoutMs := normalizeTimeout transmission.estTimeout
  companionBinary := companionBinary
  inUse := true
  timedOut := false

def takeRequest (slot : Fin 8) (request : PendingRequest) : MeshRuntime :=
  { runtime.expirePendingOperations nowMs with
    pendingReqs := Function.update (runtime.expirePendingOperations nowMs).pendingReqs slot request
    reserved := runtime.reserved + 1 }

theorem sendReserved_cases :
    runtime.sendReserved pubKey reqType companionBinary channelName nowMs sentMs transmission =
      (none, runtime.expirePendingOperations nowMs) ∨
    ∃ slot, (runtime.expirePendingOperations nowMs).findPendingLogin pubKey = none ∧
      (runtime.expirePendingOperations nowMs).hasPendingRequest pubKey = false ∧
      selectReusablePendingSlot (runtime.expirePendingOperations nowMs).pendingReqs = some slot ∧
      (runtime.sendReserved pubKey reqType companionBinary channelName nowMs sentMs transmission =
          (none, runtime.takeRequest nowMs slot .fresh) ∨
        transmission.tag ≠ 0 ∧
        runtime.sendReserved pubKey reqType companionBinary channelName nowMs sentMs transmission =
          (some (transmission.tag, normalizeTimeout transmission.estTimeout), runtime.takeRequest nowMs slot
            (runtime.sentRequest pubKey reqType companionBinary channelName sentMs transmission))) := by
  unfold sendReserved reservePendingRequest
  by_cases busy : ((runtime.expirePendingOperations nowMs).findPendingLogin pubKey).isSome = true ∨
      (runtime.expirePendingOperations nowMs).hasPendingRequest pubKey = true
  · left
    simp [busy]
  · simp only [not_or, Bool.not_eq_true, Option.isSome_eq_false_iff, Option.isNone_iff_eq_none] at busy
    cases selected : selectReusablePendingSlot (runtime.expirePendingOperations nowMs).pendingReqs with
    | none =>
      left
      simp [busy, selected]
    | some slot =>
      right
      refine ⟨slot, busy.1, busy.2, rfl, ?_⟩
      by_cases failed : (transmission.failed || transmission.tag == 0) = true
      · left
        simp [busy, selected, failed, takeRequest]
      · right
        have tagged : transmission.tag ≠ 0 := by
          intro zero
          simp [zero] at failed
        refine ⟨tagged, ?_⟩
        simp [busy, selected, failed, takeRequest, sentRequest]

def sentLogin (name : List UInt8) : LoginEntry where
  contactName := name.take 31
  pubKey := pubKey
  permission := 0
  aclPermissions := 0
  status := .pending
  startedAtMs := sentMs
  timeoutMs := normalizeTimeout transmission.estTimeout
  keepAliveActive := false
  inUse := true

def takeLogin (slot : Fin 4) (entry : LoginEntry) : MeshRuntime :=
  { runtime with loginEntries := Function.update runtime.loginEntries slot entry }

theorem beginLogin_cases (name : List UInt8) :
    runtime.beginLogin name pubKey nowMs sentMs transmission = (none, runtime) ∨
    runtime.hasPendingRequest pubKey = false ∧ ∃ slot,
      (runtime.findLoginEntry pubKey = some slot ∨
        runtime.findLoginEntry pubKey = none ∧ selectReservationSlot runtime.loginEntries = some slot) ∧
      (runtime.findLoginEntry pubKey = none ∧
          runtime.beginLogin name pubKey nowMs sentMs transmission = (none, runtime.takeLogin slot .fresh) ∨
        runtime.beginLogin name pubKey nowMs sentMs transmission =
          (some transmission.estTimeout, runtime.takeLogin slot (sentLogin pubKey sentMs transmission name))) := by
  unfold beginLogin addLoginEntry
  by_cases busy : runtime.hasPendingRequest pubKey = true ∨ (runtime.findPendingLogin pubKey).isSome = true
  · left
    simp [busy]
  · simp only [not_or, Bool.not_eq_true, Option.isSome_eq_false_iff, Option.isNone_iff_eq_none] at busy
    cases owned : runtime.findLoginEntry pubKey with
    | some slot =>
      by_cases failed : transmission.failed = true
      · left
        simp [busy, failed]
      · right
        refine ⟨busy.1, slot, .inl rfl, .inr ?_⟩
        simp [busy, failed, takeLogin, sentLogin]
    | none =>
      cases selected : selectReservationSlot runtime.loginEntries with
      | none =>
        left
        simp [busy]
      | some slot =>
        right
        refine ⟨busy.1, slot, .inr ⟨rfl, rfl⟩, ?_⟩
        by_cases failed : transmission.failed = true
        · left
          simp [busy, failed, takeLogin]
        · right
          simp [busy, failed, takeLogin, sentLogin]

theorem completeRequest_tables (slot : Fin 8) (data : List UInt8) (rtc : Nat → UInt32) :
    (runtime.completeRequest slot pubKey data rtc).2.pendingReqs = Function.update runtime.pendingReqs slot .fresh ∧
      (runtime.completeRequest slot pubKey data rtc).2.loginEntries = runtime.loginEntries ∧
      (runtime.completeRequest slot pubKey data rtc).2.responses = runtime.responses ∧
      (runtime.completeRequest slot pubKey data rtc).2.reserved = runtime.reserved := by
  unfold completeRequest parseRoomMsgResponse
  dsimp only
  split_ifs <;> exact ⟨rfl, rfl, rfl, rfl⟩

end Outcomes

end MeshRuntime

end SigurdOS.Mesh
