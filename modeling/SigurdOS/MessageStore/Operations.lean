import SigurdOS.MessageStore.Recovery

namespace SigurdOS.MessageStore

open Bytes SigurdOS.Hal

def compactPublished (s : Store) (storeId : UInt32) : Option UInt32 × Store :=
  match compactStoreToRecent s (backendCompactToRecords s) with
  | (false, s) => (none, s)
  | (true, s) =>
    match rebuildIdentityIndex s with
    | (false, s) => (none, s)
    | (true, s) => (some storeId, s)

/-- Publication, the third phase of an append: the record is durable, now the header, the bound and
    the index follow. -/
def publishRecord (s : Store) (norm : StoredMessage) (count : Nat) (followingId : UInt32) : Option UInt32 × Store :=
  match writeHeaderState s (count + 1) followingId with
  | (false, s) => (none, s)
  | (true, s) =>
    let s := s.requireRecovery false
    if count + 1 > backendMaxRecords s then compactPublished s norm.storeId
    else (some norm.storeId, identityIndexAdd s norm)

def appendNew (s : Store) (norm : StoredMessage) : Option UInt32 × Store :=
  match readHeader s with
  | none => (none, s)
  | some (count, nextId) =>
    let norm := norm.withId nextId
    let followingId := nextUnusedIdAfter s nextId
    if followingId = 0 then (none, s)
    else
      match storeAppend (s.requireRecovery true) (writeRecordRaw norm) with
      | (false, s) => (none, s)
      | (true, s) => publishRecord s norm count followingId

def reconcileTail (s : Store) : Bool × Store :=
  if s.appendRecoveryRequired then
    match repairInterruptedAppend s with
    | (.unsupportedVersion, s) => (false, s)
    | (.failed, s) => (false, s)
    | (_, s) => rebuildIdentityIndex (s.requireRecovery false)
  else (true, s)

/-- The returned ID is what `store_id_out` receives; `none` is a failed append. -/
def appendOnce (s : Store) (msg : StoredMessage) : Option UInt32 × Store :=
  match reconcileTail s with
  | (false, s) => (none, s)
  | (true, s) =>
    match writeHeaderIfNeeded s with
    | (false, s) => (none, s)
    | (true, s) =>
      let norm := storedMessageNormalize msg
      match messageExists s norm with
      | (some existingId, s) => (some existingId, s)
      | (none, s) => appendNew s norm

def messageStoreSelectBackend (s : Store) (backend : Option MessageStoreBackend) : Store :=
  let swapped := if s.backend.isSome = backend.isSome then s
    else { s with files := s.otherFiles, otherFiles := s.files }
  { swapped with
    backend := backend, backendDegraded := false, identityIndex := [], identityIndexValid := false
    appendRecoveryRequired := false }

def compactIfOver (s : Store) : Bool × Store :=
  match readHeader s with
  | none => (true, s)
  | some (count, _) =>
    if count > backendMaxRecords s then
      match compactStoreToRecent s (backendCompactToRecords s) with
      | (false, s) => (false, s)
      | (true, s) => (true, s.report .repaired)
    else (true, s)

def beginFinish (s : Store) : Bool × Store :=
  match writeHeaderIfNeeded s with
  | (false, s) => (false, s.report .failed)
  | (true, s) =>
    match compactIfOver s with
    | (false, s) => (false, s.report .failed)
    | (true, s) =>
      match rebuildIdentityIndex s with
      | (false, s) => (false, s.report .failed)
      | (true, s) => (true, s.requireRecovery false)

def beginRepair (s : Store) : Bool × Store :=
  match repairInterruptedAppend s with
  | (.unsupportedVersion, s) => (false, s.report .unsupportedVersion)
  | (.failed, s) => (false, s.report .failed)
  | (repair, s) => beginFinish (if repair = .clean then s else s.report repair)

def beginMigrate (s : Store) : Bool × Store :=
  match migrateOlderStore s with
  | (.unsupportedVersion, s) => (false, s.report .unsupportedVersion)
  | (.failed, s) => (false, s.report .failed)
  | (migration, s) => beginRepair (if migration = .clean then s else s.report migration)

/-- `recover` of the selected backend. A registered backend publishes in one piece and so has
    nothing pending; the default one promotes or discards the temp. -/
def recoverReplacement (s : Store) : Bool × Store :=
  match s.backend with
  | some _ => (s.nextFault.recoverStep.isNone, s.afterCall)
  | none =>
    let (ok, file) := atomicFileRecover s.files.file (validateStoreForRecovery (backendRecoveryMaxRecords s))
      s.nextFault.recoverStep
    (ok, s.afterCall.setFile file)

def messageStoreBegin (s : Store) : Bool × Store :=
  let (recovered, s) := recoverReplacement (s.report .clean)
  if recovered = false ∧ s.live = none ∧ s.files.file.temp.isSome then
    (false, s.report .failed)
  else beginMigrate s

def retryQueuePopFront (s : Store) : Store := { s with retryQueue := s.retryQueue.tail }

def retryQueuePush (s : Store) (msg : StoredMessage) : Store :=
  if s.retryQueue.length ≥ retryQueueCapacity then
    { s with retryQueueDropCount := s.retryQueueDropCount + 1 }
  else { s with retryQueue := s.retryQueue ++ [msg] }

def retryQueued (s : Store) : Nat → Store
  | 0 => s
  | rounds + 1 =>
    match s.retryQueue with
    | [] => s
    | msg :: _ =>
      match appendOnce s msg with
      | (none, s) => s
      | (some _, s) => retryQueued (retryQueuePopFront s) rounds

def retryQueuedOnDefaultBackend (s : Store) : Store :=
  if s.backend.isSome then s else retryQueued s s.retryQueue.length

/-- Failover: the registered backend failed, select the default one and retry the record once. -/
def appendFailover (s : Store) (msg : StoredMessage) : Option UInt32 × Store :=
  let s := { messageStoreSelectBackend s none with backendDegraded := true }
  match messageStoreBegin s with
  | (false, s) => (none, retryQueuePush s msg)
  | (true, s) =>
    match appendOnce s msg with
    | (some storeId, s) => (some storeId, s)
    | (none, s) => (none, retryQueuePush s msg)

def messageStoreAppend (s : Store) (msg : StoredMessage) : Option UInt32 × Store :=
  match appendOnce (retryQueuedOnDefaultBackend s) msg with
  | (some storeId, s) => (some storeId, s)
  | (none, s) => if s.backend.isNone then (none, s) else appendFailover s msg

/-- The record the UI and the ACK handling address: same conversation, same timestamp. -/
def addressed (conversation : List UInt8) (timestamp : UInt32) (msg : StoredMessage) : Bool :=
  msg.timestamp == timestamp && sameString conversationLen msg.conversation.chars conversation

def updateMatching (selects : StoredMessage → Bool) (update : StoredMessage → StoredMessage)
    (messages : List StoredMessage) : List StoredMessage :=
  messages.map (fun msg => if selects msg then update msg else msg)

def ackSelects (conversation : List UInt8) (timestamp : UInt32) : StoredMessage → Bool :=
  addressed conversation timestamp

def lostSelects (conversation : List UInt8) (timestamp : UInt32) (msg : StoredMessage) : Bool :=
  !msg.acked && addressed conversation timestamp msg

def orphanSelects (msg : StoredMessage) : Bool :=
  msg.isSelf && !msg.isChannel && !msg.acked && !msg.confirmationLost

def messageStoreMarkAcked (s : Store) (conversation : List UInt8) (timestamp : UInt32) : Bool × Store :=
  if conversation = [] ∨ timestamp = 0 then (false, s)
  else
    match readHeader s with
    | none => (false, s)
    | some (count, _) =>
      if count > backendRecoveryMaxRecords s ∨ count = 0 then (false, s)
      else
        let messages := messageStoreLoadAll s count
        if messages.any (ackSelects conversation timestamp) then
          atomicReplaceStore s (updateMatching (ackSelects conversation timestamp)
            (fun msg => { msg with acked := true, confirmationLost := false }) messages) 0
        else (false, s)

def messageStoreMarkConfirmationLost (s : Store) (conversation : List UInt8) (timestamp : UInt32) : Bool × Store :=
  if conversation = [] ∨ timestamp = 0 then (false, s)
  else
    match readHeader s with
    | none => (false, s)
    | some (count, _) =>
      if count = 0 ∨ count > backendRecoveryMaxRecords s then (false, s)
      else
        let messages := messageStoreLoadAll s count
        if messages.any (lostSelects conversation timestamp) then
          atomicReplaceStore s (updateMatching (lostSelects conversation timestamp)
            (fun msg => { msg with confirmationLost := true }) messages) 0
        else (false, s)

def messageStoreMarkOrphanedPendingLost (s : Store) : Nat × Store :=
  match readHeader s with
  | none => (0, s)
  | some (count, _) =>
    if count = 0 ∨ count > backendRecoveryMaxRecords s then (0, s)
    else
      let messages := messageStoreLoadAll s count
      let changed := messages.countP orphanSelects
      if changed = 0 then (0, s)
      else
        match atomicReplaceStore s (updateMatching orphanSelects
          (fun msg => { msg with confirmationLost := true }) messages) 0 with
        | (true, s) => (changed, s)
        | (false, s) => (0, s)

def sendFirst (storeId : UInt32) : List StoredMessage → List StoredMessage
  | [] => []
  | msg :: rest =>
    if msg.storeId = storeId then { msg with companionSent := true } :: rest else msg :: sendFirst storeId rest

def messageStoreMarkCompanionSent (s : Store) (storeId : UInt32) : Bool × Store :=
  if storeId = 0 then (false, s)
  else
    match readHeader s with
    | none => (false, s)
    | some (count, _) =>
      if count = 0 ∨ count > backendRecoveryMaxRecords s then (false, s)
      else
        let messages := messageStoreLoadAll s count
        if messages.length ≠ count then (false, s)
        else
          match messages.find? (fun msg => msg.storeId == storeId) with
          | none => (false, s)
          | some msg =>
            if msg.companionSent then (true, s) else atomicReplaceStore s (sendFirst storeId messages) 0

end SigurdOS.MessageStore
