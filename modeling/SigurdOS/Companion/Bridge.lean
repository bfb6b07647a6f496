import SigurdOS.Companion.Commands

namespace SigurdOS.Companion

open Bytes MessageStore

def pushCodeMsgWaiting : UInt8 := 0x83
def pushCodeTelemetryResponse : UInt8 := 0x8B
def pushCodeBinaryResponse : UInt8 := 0x8C

section Transports

variable {σ : Type} (s : State σ)

def networkClients : Nat := 4

def transportAllowedDuringOta (id : TransportId) : Bool := decide (id = .ble) || s.links.networkAllowed

def transportsClientConnected (peer : Peer) : Bool :=
  match peer.id with
  | .ble => peer.client == 0 && s.attached && s.links.serialEnabled && s.links.serialConnected
  | .tcp | .ws => s.links.networkAllowed && decide (peer.client < networkClients) && (s.links.clients peer).isSome

def transportsClientGeneration (peer : Peer) : UInt32 :=
  if transportsClientConnected s peer then
    match peer.id with
    | .ble => s.links.serialGeneration
    | .tcp | .ws => (s.links.clients peer).getD 0
  else 0

def currentTransportConnected : Bool :=
  match s.request with
  | some peer => transportsClientConnected s peer
  | none => s.links.serialConnected

def currentGeneration : UInt32 :=
  match s.request with
  | some peer => transportsClientGeneration s peer
  | none => if s.links.serialConnected then s.links.serialGeneration else 0

def allPeers : List Peer :=
  ⟨.ble, 0⟩ :: ((List.range networkClients).map (Peer.mk .tcp) ++ (List.range networkClients).map (Peer.mk .ws))

def isConnected : Bool :=
  s.links.serialConnected || (s.attached && s.links.networkAllowed &&
    allPeers.any (fun peer => decide (peer.id ≠ .ble) && transportsClientConnected s peer))

def attemptWrite (peer : Option Peer) (generation : UInt32) (frame : List UInt8) : Bool × State σ :=
  let accepted := s.links.accepts.headD true
  let s := { s with links := { s.links with accepts := s.links.accepts.tail } }
  if accepted then (true, s.note (.wrote peer generation frame)) else (false, s)

def validFrame (frame : List UInt8) : Bool := decide (0 < frame.length) && decide (frame.length ≤ maxFrameSize)

def transportsSendToResult (peer : Peer) (frame : List UInt8) : Bool × State σ :=
  if validFrame frame && transportsClientConnected s peer then
    attemptWrite s (some peer) (transportsClientGeneration s peer) frame
  else (false, s)

def writeFrameToCurrentTransport (frame : List UInt8) : Bool × State σ :=
  match s.request with
  | some peer => transportsSendToResult s peer frame
  | none =>
    if validFrame frame && s.links.serialConnected then attemptWrite s none s.links.serialGeneration frame
    else (false, s)

end Transports

section Output

variable {σ : Type}

/-- A write to every connected client: whether there was one, and whether all of them took it. -/
def writeToAllClients (frame : List UInt8) : List Peer → State σ → (Bool × Bool) × State σ
  | [], s => ((false, true), s)
  | peer :: rest, s =>
    if transportsClientConnected s peer then
      let (sent, s) := transportsSendToResult s peer frame
      let ((_, others), s) := writeToAllClients frame rest s
      ((true, sent && others), s)
    else writeToAllClients frame rest s

def transportsBroadcastResult (s : State σ) (id : TransportId) (frame : List UInt8) : Bool × State σ :=
  let ((connected, sent), s) := writeToAllClients frame (allPeers.filter (fun peer => decide (peer.id = id))) s
  (connected && sent, s)

def sendPushFrame (s : State σ) (frame : List UInt8) : Bool × State σ :=
  if validFrame frame then
    if s.attached then
      let (ble, s) := transportsBroadcastResult s .ble frame
      let (tcp, s) := transportsBroadcastResult s .tcp frame
      let (ws, s) := transportsBroadcastResult s .ws frame
      (ble || tcp || ws, s)
    else writeFrameToCurrentTransport s frame
  else (false, s)

/-- The one slot for the response of the current command: a frame the transport does not take waits. -/
def sendResponseFrame (s : State σ) (frame : List UInt8) : State σ :=
  let s := s.logResponse frame
  if validFrame frame && s.current.pendingResponse.isEmpty then
    match writeFrameToCurrentTransport s frame with
    | (true, s) => s
    | (false, s) => s.update fun c => { c with pendingResponse := frame }
  else s

def flushPendingResponse (s : State σ) : Bool × State σ :=
  if s.current.pendingResponse.isEmpty then (true, s)
  else if !currentTransportConnected s then (false, s)
  else
    match writeFrameToCurrentTransport s s.current.pendingResponse with
    | (true, s) => (true, s.update fun c => { c with pendingResponse := [] })
    | (false, s) => (false, s)

def notifyWaiting (s : State σ) : State σ :=
  if isConnected s then (sendPushFrame s [pushCodeMsgWaiting]).2 else s

def pushTelemetryResponse (s : State σ) (senderPrefix blob : List UInt8) : State σ :=
  if !isConnected s ∨ blob.length > pushBlobMaxPayload then s
  else
    let frame := [pushCodeTelemetryResponse, 0] ++ senderPrefix ++ blob
    (sendPushFrame (s.logWrite 0 frame.length) frame).2

end Output

section Connections

variable {σ : Type} (h : CompanionBridgeHost σ)

def cancelBinaryReqs (s : State σ) : State σ := (s.mutate fun host => ((), h.cancelBinaryReqs host)).2

def cancelBinaryReq (s : State σ) (tag : UInt32) : State σ := (s.mutate fun host => ((), h.cancelBinaryReq tag host)).2

def requestExpired (now : UInt32) (request : PendingBinaryRequest) : Bool :=
  request.tag != 0 && decide (now - request.deadlineMs < 0x80000000)

def expirePendingBinary (s : State σ) : State σ :=
  let now := h.monotonicMillis s.host
  let expired := s.current.pendingBinary.filter (requestExpired now)
  let s := s.update fun c => { c with
    pendingBinary := c.pendingBinary.map fun request => if requestExpired now request then .free else request }
  expired.foldl (fun s request => cancelBinaryReq h s request.tag) s

def clearPendingBinary (c : Connection) : Connection :=
  { c with pendingBinary := List.replicate maxPendingBinaryRequests .free }

def clearSigningState (c : Connection) : Connection := { c with signBuf := [], signActive := false }

def clearInflightMessage (c : Connection) : Connection := { c with inflightStoreId := 0, inflightGeneration := 0 }

def resetConnectionSession (c : Connection) : Connection :=
  clearPendingBinary (clearInflightMessage (clearSigningState { c with
    appTargetVer := 3
    versionNegotiated := false
    contactIter := none
    iterFilterSince := 0
    mostRecentLastmod := 0
    offline := []
    pendingResponse := [] }))

def refreshConnectionSession (s : State σ) : State σ :=
  let connected := currentTransportConnected s
  let generation := currentGeneration s
  let changed := s.current.connectionGeneration != 0 &&
    (!connected || generation != s.current.connectionGeneration)
  let s := if s.current.wasConnected && changed then cancelBinaryReqs h (s.update resetConnectionSession) else s
  s.update fun c => { c with connectionGeneration := generation, wasConnected := connected }

def removeFirstOfflineFrame (c : Connection) : Connection := { c with offline := c.offline.tail }

/-- The queue after the message is offered to it; `none` when it is refused. -/
def offerMessage (host : σ) (persistent : Bool) (msg : StoredMessage) (c : Connection) : Option (List Frame) :=
  addToOfflineQueueBuffer c.offline msg.storeId persistent (buildMessageFrame h host c.appTargetVer msg)

def offerCurrent (s : State σ) (persistent : Bool) (msg : StoredMessage) : Bool × State σ :=
  match offerMessage h s.host persistent msg s.current with
  | some queue => (true, s.update fun c => { c with offline := queue })
  | none => (false, s)

def liveSession (s : State σ) (session : TransportSession) : Bool :=
  match session.slot with
  | some peer => transportsClientConnected s peer
  | none => false

/-- The sessions with the message offered to every live one but the one at `skip`. -/
def offerSessions (s : State σ) (skip : Option Nat) (offer : Connection → Option (List Frame)) : Bool × State σ :=
  let takes (index : Nat) (session : TransportSession) : Option (List Frame) :=
    if skip = some index ∨ liveSession s session = false then none else offer session.toConnection
  (s.sessions.zipIdx.any fun (session, index) => (takes index session).isSome,
    { s with sessions := s.sessions.mapIdx fun index session =>
        match takes index session with
        | some queue => { session with offline := queue }
        | none => session })

/-- One record of a page: the requesting session takes it, and every other live session its own copy. -/
def refillRecord (s : State σ) (msg : StoredMessage) : Bool × State σ :=
  if msg.isSelf then (false, s)
  else
    let (added, s) := offerCurrent h s true msg
    if s.request.isSome && s.attached then
      let (others, s) := offerSessions s s.active (offerMessage h s.host true msg)
      (added || others, s)
    else (added, s)

def refillRecords (s : State σ) : List StoredMessage → Bool × State σ
  | [] => (false, s)
  | msg :: rest =>
    let (added, s) := refillRecord h s msg
    let (later, s) := refillRecords s rest
    (added || later, s)

def refillOfflineQueueFromStore (s : State σ) (notify : Bool) : State σ :=
  if s.current.offline.length > 0 then s
  else
    match refillRecords h s (messageStoreLoadUnsent s.store offlineQueueSize) with
    | (added, s) => if added && notify then notifyWaiting s else s

def enqueueMessage (s : State σ) (msg : StoredMessage) : State σ :=
  if msg.isSelf then s
  else
    let persistent := msg.storeId != 0
    let (added, s) :=
      if s.attached && s.active.isNone && s.sessions.any (liveSession s) then
        offerSessions s none (offerMessage h s.host persistent msg)
      else offerCurrent h s persistent msg
    if added then notifyWaiting s else s

def storeAndEnqueue (s : State σ) (msg : StoredMessage) : State σ :=
  match messageStoreAppend s.store msg with
  | (some storeId, store) => enqueueMessage h { s with store := store } (msg.withId storeId)
  | (none, store) => { s with store := store }

def channelDataFrame (channelIndex snrQuarters pathLen : UInt8) (dataType : UInt16) (payload : List UInt8) :
    List UInt8 :=
  [respCodeChannelDataRecv, snrQuarters, 0, 0, channelIndex, pathLen] ++ halfWord dataType ++
    [UInt8.ofNat payload.length] ++ payload

def enqueueChannelData (s : State σ) (channelIndex snrQuarters pathLen : UInt8) (dataType : UInt16)
    (payload : List UInt8) : State σ :=
  if payload.length > channelDataMaxPayload ∨ dataType = 0 ∨ (pathByteLen pathLen).isNone then s
  else
    let frame := channelDataFrame channelIndex snrQuarters pathLen dataType payload
    let offer (c : Connection) : Option (List Frame) := addToOfflineQueueBuffer c.offline 0 false frame
    let s := s.logWrite 0 frame.length
    let (added, s) :=
      if s.attached && s.active.isNone && s.sessions.any (liveSession s) then offerSessions s none offer
      else
        match offer s.current with
        | some queue => (true, s.update fun c => { c with offline := queue })
        | none => (false, s)
    if added then notifyWaiting s else s

/-- The live sessions that hold the tag, each with the index of the request. The active session's
    requests are the bridge's own members. -/
def requestOwners (s : State σ) (tag : UInt32) : List (Nat × Peer × UInt32 × Nat) :=
  s.sessions.zipIdx.flatMap fun (session, index) =>
    match session.slot with
    | none => []
    | some peer =>
      let generation := transportsClientGeneration s peer
      if !transportsClientConnected s peer || generation == 0 || generation != session.generation then []
      else
        let requests := if s.active = some index then s.current.pendingBinary else session.pendingBinary
        requests.zipIdx.filterMap fun (request, slot) =>
          if request.tag = tag then some (index, peer, generation, slot) else none

def releaseRequest (requests : List PendingBinaryRequest) (slot : Nat) : List PendingBinaryRequest :=
  requests.set slot .free

def binaryResponseFrame (tag : UInt32) (blob : List UInt8) : List UInt8 :=
  [pushCodeBinaryResponse, 0] ++ word tag ++ blob

/-- A response goes to the one live session that holds its tag; a tag that two of them hold is
    ambiguous and goes to nobody. -/
def pushBinaryResponse (s : State σ) (tag : UInt32) (blob : List UInt8) : Bool × State σ :=
  let s := expirePendingBinary h s
  if tag = 0 ∨ 6 + blob.length > maxFrameSize then (false, s)
  else
    let frame := binaryResponseFrame tag blob
    if s.attached then
      match requestOwners s tag with
      | [(index, peer, _, slot)] =>
        match transportsSendToResult (s.logWrite 0 frame.length) peer frame with
        | (false, s) => (false, s)
        | (true, s) =>
          if s.active = some index then
            (true, s.update fun c => { c with pendingBinary := releaseRequest c.pendingBinary slot })
          else
            (true, { s with sessions := s.sessions.modify index fun session =>
              { session with pendingBinary := releaseRequest session.pendingBinary slot } })
      | _ => (false, s)
    else
      match findPendingBinary s.current.pendingBinary tag with
      | none => (false, s)
      | some slot =>
        if !isConnected s then (false, s)
        else
          match sendPushFrame (s.logWrite 0 frame.length) frame with
          | (false, s) => (false, s)
          | (true, s) => (true, s.update fun c => { c with pendingBinary := releaseRequest c.pendingBinary slot })

def freshSession (peer : Peer) (generation : UInt32) (connected : Bool) : TransportSession :=
  { Connection.initial with
    slot := some peer, generation := generation, connectionGeneration := generation, wasConnected := connected }

def onIdentityChanged (s : State σ) : State σ :=
  let s := s.update fun c => clearPendingBinary (clearSigningState { c with
    contactIter := none, iterFilterSince := 0, mostRecentLastmod := 0, offline := [] })
  { s with sessions := s.sessions.map fun session =>
      match session.slot with
      | none => session
      | some peer => freshSession peer session.generation (transportsClientConnected s peer) }

/-- `transport_set_enabled(id, false)`, or `disable` of the serial interface. -/
def disableTransport (s : State σ) : State σ :=
  match s.request with
  | none | some ⟨.ble, _⟩ => { s with links := { s.links with serialEnabled := false } }
  | some ⟨id, _⟩ => { s with links := { s.links with
      clients := fun peer => if peer.id = id then none else s.links.clients peer } }

end Connections

section Dispatch

variable {σ : Type} (h : CompanionBridgeHost σ) (build : Build)

/-- A request for the next message acknowledges the one in flight, if it is still the head of the
    queue and went out over this very connection. -/
def acknowledgeInflight (s : State σ) : State σ :=
  if s.current.inflightStoreId = 0 then s
  else
    let id := s.current.inflightStoreId
    let sameSession := s.current.connectionGeneration != 0 &&
      s.current.inflightGeneration == s.current.connectionGeneration
    let sameRecord :=
      match s.current.offline with
      | head :: _ => head.persistent && head.storeId == id
      | [] => false
    let s :=
      if sameSession && sameRecord then
        match messageStoreMarkCompanionSent s.store id with
        | (marked, store) =>
          let s := { s with store := store }.note (.marked s.request (currentGeneration s) id)
          if marked then s.update removeFirstOfflineFrame else s
      else s
    s.update clearInflightMessage

/-- Volatile frames leave the queue once written; a durable one stays until it is acknowledged. -/
def deliverHead (s : State σ) (head : Frame) : State σ :=
  match writeFrameToCurrentTransport (s.logWrite 0 head.buf.length) head.buf with
  | (false, s) => s
  | (true, s) =>
    let s := s.note (.delivered s.request (currentGeneration s) head)
    if head.persistent then
      s.update fun c => { c with inflightStoreId := head.storeId, inflightGeneration := c.connectionGeneration }
    else s.update removeFirstOfflineFrame

def syncNextMessage (s : State σ) : State σ :=
  let s := { s with lastSyncTime := h.currentTime s.host }
  if !s.current.versionNegotiated then sendResponseFrame s (errFrame .badState)
  else
    let s := acknowledgeInflight s
    let s := if s.current.offline.isEmpty then refillOfflineQueueFromStore h s false else s
    match s.current.offline with
    | [] => sendResponseFrame s noMoreMessages
    | head :: _ => deliverHead s head

def followBefore (s : State σ) : Follow → State σ
  | .identityChanged => onIdentityChanged s
  | .disableTransport => disableTransport s
  | _ => s

def followAfter (s : State σ) : Follow → State σ
  | .refill => refillOfflineQueueFromStore h s true
  | .telemetry senderPrefix blob => pushTelemetryResponse s senderPrefix blob
  | _ => s

def runCommand (s : State σ) (frame : List UInt8) (command : CompanionCommand) : State σ :=
  match (sessionCommand h build frame s.current command).run
    ⟨s.host, !s.current.pendingResponse.isEmpty, s.trace⟩ with
  | (outcome, work) =>
    let s := { s with current := outcome.connection, host := work.host, trace := work.trace }
    let s := followBefore s outcome.follow
    let s :=
      match outcome.reply with
      | some reply => sendResponseFrame s reply
      | none => s
    followAfter h s outcome.follow

def dispatchCommand (s : State σ) (frame : List UInt8) : State σ :=
  let s := { s with trace := { s.trace with reads := s.trace.reads ++ [(0, 1)] } }
  match commandOf (frame.headD 0) with
  | none => sendResponseFrame s (errFrame .unsupportedCmd)
  | some command =>
    if frame.length < commandMinimumLength command then sendResponseFrame s (errFrame .illegalArg)
    else if command = .syncNextMessage then syncNextMessage h s
    else runCommand h build s frame command

/-- The result says whether the frame was taken as a command. -/
def handleFrame (s : State σ) (frame : List UInt8) : Bool × State σ :=
  if !validFrame frame then (false, s)
  else
    let s := refreshConnectionSession h (s.note (.received s.request (currentGeneration s) frame))
    -- One slot is reserved for the response: while it is occupied no command runs.
    if !s.current.pendingResponse.isEmpty then (false, s)
    else (true, dispatchCommand h build (expirePendingBinary h s) frame)

end Dispatch

section Sessions

variable {σ : Type} (h : CompanionBridgeHost σ) (build : Build)

def ensureTransportSession (s : State σ) (peer : Peer) (generation : UInt32) : Option Nat × State σ :=
  match s.sessions.findIdx? (fun session => decide (session.slot = some peer)) with
  | some index =>
    let known := (s.sessions.getD index .blank).generation
    if generation ≠ 0 ∧ known ≠ 0 ∧ generation ≠ known then
      (some index, { s with
        sessions := s.sessions.set index (freshSession peer generation true), host := h.cancelBinaryReqs s.host })
    else (some index, s)
  | none =>
    match s.sessions.findIdx? (fun session => session.slot.isNone) with
    | some index => (some index, { s with sessions := s.sessions.set index (freshSession peer generation true) })
    | none => (none, s)

def loadTransportSession (current : Connection) (session : TransportSession) : Connection :=
  { current with
    appTargetVer := session.appTargetVer
    versionNegotiated := session.versionNegotiated
    iterFilterSince := session.iterFilterSince
    mostRecentLastmod := session.mostRecentLastmod
    contactIter := session.contactIter
    offline := session.offline
    pendingBinary := session.pendingBinary
    pendingResponse := session.pendingResponse
    signBuf := session.signBuf
    signActive := session.signActive
    wasConnected := session.wasConnected
    connectionGeneration := session.connectionGeneration
    inflightStoreId := session.inflightStoreId
    inflightGeneration := session.inflightGeneration }

def saveTransportSession (current : Connection) (session : TransportSession) : TransportSession :=
  { session with
    appTargetVer := current.appTargetVer
    versionNegotiated := current.versionNegotiated
    iterFilterSince := current.iterFilterSince
    mostRecentLastmod := current.mostRecentLastmod
    contactIter := current.contactIter
    offline := current.offline
    pendingBinary := current.pendingBinary
    pendingResponse := current.pendingResponse
    signBuf := current.signBuf
    signActive := current.signActive
    wasConnected := current.wasConnected
    connectionGeneration := current.connectionGeneration
    inflightStoreId := current.inflightStoreId
    inflightGeneration := current.inflightGeneration }

def withSession (s : State σ) (index : Nat) (peer : Peer) (work : State σ → State σ) : State σ :=
  let s := work { s with
    current := loadTransportSession s.current (s.sessions.getD index .blank), request := some peer,
      active := some index }
  { s with
    sessions := s.sessions.modify index (saveTransportSession s.current), request := none, active := none }

def handleTransportFrame (s : State σ) (frame : List UInt8) (peer : Peer) (generation : UInt32) : State σ :=
  if !transportAllowedDuringOta s peer.id then s
  else
    match ensureTransportSession h s peer generation with
    | (none, s) => s
    | (some index, s) => withSession s index peer fun s => (handleFrame h build s frame).2

def nextContact (host : σ) (since : UInt32) : Nat → Nat → Option (CompanionContact × Nat)
  | 0, _ => none
  | remaining + 1, index =>
    match h.getContact index host with
    | none => nextContact host since remaining (index + 1)
    | some contact =>
      if since ≠ 0 ∧ contact.lastmod ≤ since then nextContact host since remaining (index + 1)
      else some (contact, index + 1)

def sendContact (s : State σ) (index : Nat) : State σ :=
  match nextContact h s.host s.current.iterFilterSince (h.contactCount s.host - index) index with
  | some (contact, next) =>
    let s := s.update fun c => { c with
      contactIter := some next
      mostRecentLastmod := if contact.lastmod > c.mostRecentLastmod then contact.lastmod else c.mostRecentLastmod }
    let frame := (contactFields respCodeContact contact).flatten
    sendResponseFrame (s.logWrite 0 frame.length) frame
  | none =>
    let frame := respCodeEndOfContacts :: word s.current.mostRecentLastmod
    (sendResponseFrame (s.logWrite 0 frame.length) frame).update fun c => { c with contactIter := none }

def serviceCurrentSession (s : State σ) : State σ :=
  match flushPendingResponse (expirePendingBinary h s) with
  | (false, s) => s
  | (true, s) =>
    let busy := s.links.writeBusy &&
      match s.request with
      | none => true
      | some peer => decide (peer.id = .ble)
    match s.current.contactIter with
    | none => s
    | some index => if busy then s else sendContact h s index

def materializeSession (s : State σ) (peer : Peer) : State σ :=
  if transportAllowedDuringOta s peer.id && transportsClientConnected s peer then
    (ensureTransportSession h s peer (transportsClientGeneration s peer)).2
  else s

def serviceSession (s : State σ) (index : Nat) : State σ :=
  match (s.sessions.getD index .blank).slot with
  | none => s
  | some peer =>
    if transportAllowedDuringOta s peer.id && transportsClientConnected s peer then
      let s := (ensureTransportSession h s peer (transportsClientGeneration s peer)).2
      withSession s index peer fun s => serviceCurrentSession h (refreshConnectionSession h s)
    else s

def serviceTransportSessions (s : State σ) : State σ :=
  let s := allPeers.foldl (materializeSession h) s
  (List.range s.sessions.length).foldl (serviceSession h) s

def dispatchFrame (s : State σ) (peer : Peer) (frame : List UInt8) : State σ :=
  if (decide (peer.id ≠ .ble) && !s.links.networkAllowed) || !validFrame frame then s
  else handleTransportFrame h build s frame peer (transportsClientGeneration s peer)

def takeInbox (s : State σ) : Option (List UInt8) × State σ := (s.inbox.head?, { s with inbox := s.inbox.tail })

def transportsLoop (s : State σ) (tcp ws : Option (Nat × List UInt8)) : State σ :=
  let s :=
    if s.attached && s.links.serialEnabled then
      match takeInbox s with
      | (some frame, s) => dispatchFrame h build s ⟨.ble, 0⟩ frame
      | (none, s) => s
    else s
  let s :=
    match tcp with
    | some (client, frame) => dispatchFrame h build s ⟨.tcp, client⟩ frame
    | none => s
  let s :=
    match ws with
    | some (client, frame) => dispatchFrame h build s ⟨.ws, client⟩ frame
    | none => s
  serviceTransportSessions h s

def loop (s : State σ) : State σ :=
  let s := refreshConnectionSession h s
  if !s.links.serialEnabled then s
  else
    match flushPendingResponse (expirePendingBinary h s) with
    | (false, s) => s
    | (true, s) =>
      let s :=
        match takeInbox s with
        | (some frame, s) => (handleFrame h build s frame).2
        | (none, s) => s
      serviceCurrentSession h s

end Sessions

end SigurdOS.Companion
