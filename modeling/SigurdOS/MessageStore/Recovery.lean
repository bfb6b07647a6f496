import SigurdOS.Library.FreshSearch
import SigurdOS.Library.Retention
import SigurdOS.MessageStore.Store

namespace SigurdOS.MessageStore

open Bytes SigurdOS.Hal

def nextAfter (id : UInt32) : UInt32 := if id = 0xFFFFFFFF then 1 else id + 1

/-- The wrap-around search that `deriveNextId` and `nextUnusedIdAfter` share; zero is "none left". -/
def firstUnused (used : List UInt32) (attempts : Nat) (candidate : UInt32) : UInt32 :=
  (FreshSearch.firstFree nextAfter used attempts candidate).getD 0

def deriveNextId (messages : List StoredMessage) : UInt32 :=
  let ids := messages.map (·.storeId)
  let highest := ids.foldl (fun highest id => if id > highest then id else highest) 0
  firstUnused ids (messages.length + 1) (nextAfter highest)

def nextUnusedIdAfter (s : Store) (id : UInt32) : UInt32 :=
  firstUnused (s.identityIndex.map (·.storeId)) (s.identityIndex.length + 1) (nextAfter id)

def encodeStore (messages : List StoredMessage) (nextId : UInt32) : List UInt8 :=
  encodeHeader messages.length nextId ++ messages.flatMap writeRecordRaw

def idsUnique (ids : List UInt32) : Bool := ids.all (fun id => id != 0) && decide ids.Nodup

def validateStore (recoveryMax : Nat) (bytes : List UInt8) : Bool :=
  let header := parseHeader bytes
  if bytes.length < headerSize ∨ header.magic ≠ messageStoreMagic ∨ header.version ≠ messageStoreVersion ∨
      header.count > recoveryMax ∨ header.nextId = 0 ∨ bytes.length ≠ headerSize + header.count * recordSize then false
  else
    let ids := (slots recordSize header.count (bytes.drop headerSize)).map read32
    idsUnique ids && ids.all (fun id => id != header.nextId)

def validateStoreForRecovery (recoveryMax : Nat) (bytes : List UInt8) : Bool :=
  let header := parseHeader bytes
  if bytes.length < v4HeaderSize ∨ header.magic ≠ messageStoreMagic then false
  else if header.version = messageStoreVersion then validateStore recoveryMax bytes
  else if header.version ≠ 4 ∧ header.version ≠ 5 then false
  else if header.count > recoveryMax then false
  else if header.version = 4 then bytes.length == v4HeaderSize + header.count * v5RecordSize
  else if bytes.length < headerSize ∨ header.nextId = 0 ∨
      bytes.length ≠ headerSize + header.count * v5RecordSize then false
  else idsUnique ((slots v5RecordSize header.count (bytes.drop headerSize)).map read32)

def validateStoreBytes (recoveryMax : Nat) (bytes : List UInt8) : Bool :=
  let header := parseHeader bytes
  if bytes.length < headerSize ∨ header.magic ≠ messageStoreMagic ∨ header.version ≠ messageStoreVersion ∨
      header.nextId = 0 ∨ header.count > recoveryMax ∨ bytes.length ≠ headerSize + header.count * recordSize then false
  else
    match (slots recordSize header.count (bytes.drop headerSize)).mapM readRecordRaw with
    | none => false
    | some messages =>
      let ids := messages.map (·.storeId)
      idsUnique ids && ids.all (fun id => id != header.nextId)

/-- A registered backend replaces its file in one piece; the default one goes through the temp. -/
def replaceFile (s : Store) (messages : List StoredMessage) (nextId : UInt32) : Bool × Store :=
  match s.backend with
  | some _ =>
    if messages.length > backendRecoveryMaxRecords s then (false, s)
    else if validateStoreBytes (backendRecoveryMaxRecords s) (encodeStore messages nextId) then
      match s.nextFault with
      | .replace _ => (false, s.afterCall)
      | _ => (true, s.afterCall.setLive (encodeStore messages nextId))
    else (false, s)
  | none =>
    let content := if nextId = 0 ∨ messages.length > backendRecoveryMaxRecords s then none
      else some (encodeStore messages nextId)
    let (ok, file) := atomicFileReplace s.files.file content (validateStore (backendRecoveryMaxRecords s))
      s.nextFault.replaceStep
    (ok, s.afterCall.setFile file)

def atomicReplaceStore (s : Store) (messages : List StoredMessage) (nextId : UInt32) : Bool × Store :=
  if nextId = 0 then
    match readHeader s with
    | some (_, current) => replaceFile s messages current
    | none => replaceFile s messages (deriveNextId messages)
  else replaceFile s messages nextId

def writeHeaderIfNeeded (s : Store) : Bool × Store :=
  match readHeader s with
  | some _ => (true, s)
  | none => if s.live.isSome then (false, s) else atomicReplaceStore s [] 1

def quarantineStoreAndReset (s : Store) : RecoveryResult × Store :=
  match s.nextFault with
  | .quarantine removed =>
    (.failed, if removed then { s.afterCall with files := { s.files with corrupt := none } } else s.afterCall)
  | _ =>
    let s := { s.afterCall with files := ⟨{ s.files.file with live := none }, s.live⟩ }
    match atomicReplaceStore s [] 1 with
    | (false, s) => (.failed, s)
    | (true, s) => (.quarantined, (s.requireRecovery false).withoutIndex)

def readVersion5Records (s : Store) (count header : Nat) : Option (List StoredMessage) :=
  (readPayload s count header v5RecordSize).bind (fun records => records.mapM readVersion5RecordRaw)

def readCompleteRecords (s : Store) (count header : Nat) : Option (List StoredMessage) :=
  (readPayload s count header recordSize).bind (fun records => records.mapM readRecordRaw)

def recoverablePrefix (seen : List UInt32) : List (List UInt8) → List StoredMessage
  | [] => []
  | record :: rest =>
    match readRecordRaw record with
    | none => []
    | some msg =>
      if msg.storeId = 0 ∨ msg.storeId ∈ seen then []
      else msg :: recoverablePrefix (msg.storeId :: seen) rest

def readRecoverablePrefix (s : Store) (count header : Nat) : Option (List StoredMessage) :=
  (readPayload s count header recordSize).map (recoverablePrefix [])

def renumber (messages : List StoredMessage) : List StoredMessage :=
  messages.mapIdx (fun i msg => msg.withId (UInt32.ofNat (i + 1)))

def migrateRecords (s : Store) (version : UInt8) (header completeCount : Nat) : RecoveryResult × Store :=
  let read := readVersion5Records s completeCount header
  let messages := if version = 4 then read.map renumber
    else read.filter (fun messages => idsUnique (messages.map (·.storeId)))
  match messages with
  | none => quarantineStoreAndReset s
  | some messages =>
    let nextId := deriveNextId messages
    if nextId = 0 then quarantineStoreAndReset s
    else
      match atomicReplaceStore s messages nextId with
      | (true, s) => (.migrated, s)
      | (false, s) => (.failed, s)

def migrateOlderStore (s : Store) : RecoveryResult × Store :=
  match s.live with
  | none => (.clean, s)
  | some bytes =>
    let header := parseHeader bytes
    -- A header shorter than nine bytes is not read, so its magic stays zero.
    if bytes.length < v4HeaderSize ∨ header.magic ≠ messageStoreMagic then (.clean, s)
    else if header.version = messageStoreVersion then (.clean, s)
    else if header.version ≠ 4 ∧ header.version ≠ 5 then (.unsupportedVersion, s)
    else
      let size := if header.version = 4 then v4HeaderSize else headerSize
      if bytes.length < size then quarantineStoreAndReset s
      else
        let completeCount := (bytes.length - size) / v5RecordSize % 2 ^ 32
        if completeCount > backendRecoveryMaxRecords s then quarantineStoreAndReset s
        else migrateRecords s header.version size completeCount

def repairRecords (s : Store) (header : Header) (tornTail : Bool) (completeCount : Nat)
    (recovered : List StoredMessage) : RecoveryResult × Store :=
  if completeCount > 0 ∧ recovered = [] then quarantineStoreAndReset s
  else
    let recoveredNextId := deriveNextId recovered
    let validHeader := decide (header.count ≤ backendRecoveryMaxRecords s) && header.nextId != 0
    let exactStore := validHeader && !tornTail && header.count == completeCount &&
      recovered.length == completeCount && header.nextId == recoveredNextId
    if exactStore then (.clean, s)
    else if recovered = [] ∧ validHeader = false then quarantineStoreAndReset s
    else if recoveredNextId = 0 then (.failed, s)
    else
      match atomicReplaceStore s recovered recoveredNextId with
      | (false, s) => (.failed, s)
      | (true, s) => (if !validHeader || recovered.length < completeCount then .salvaged else .repaired, s)

def repairInterruptedAppend (s : Store) : RecoveryResult × Store :=
  match s.live with
  | none => (.clean, s)
  | some bytes =>
    let header := parseHeader bytes
    -- A header shorter than thirteen bytes is not read, so its magic stays zero.
    if bytes.length < headerSize ∨ header.magic ≠ messageStoreMagic then quarantineStoreAndReset s
    else if header.version ≠ messageStoreVersion then (.unsupportedVersion, s)
    else
      let payloadSize := bytes.length - headerSize
      let completeCount := payloadSize / recordSize % 2 ^ 32
      let tornTail := payloadSize % recordSize != 0
      if completeCount > backendRecoveryMaxRecords s then quarantineStoreAndReset s
      else
        match readRecoverablePrefix s completeCount headerSize with
        | none => (.failed, s)
        | some recovered => repairRecords s header tornTail completeCount recovered

def messageStoreClear (s : Store) : Bool × Store :=
  match atomicReplaceStore s [] 1 with
  | (false, s) => (false, s)
  | (true, s) =>
    (true, { identityIndexClear s with appendRecoveryRequired := false, retryQueue := [], retryQueueDropCount := 0 })

def unsentToDrop (maxRecords : Nat) (messages : List StoredMessage) : Nat :=
  let unsent := messages.countP unsentIncoming
  if unsent > maxRecords then unsent - maxRecords else 0

def othersToDrop (maxRecords : Nat) (messages : List StoredMessage) : Nat :=
  let unsent := messages.countP unsentIncoming
  let otherSlots := maxRecords - (unsent - unsentToDrop maxRecords messages)
  let others := messages.length - unsent
  if others > otherSlots then others - otherSlots else 0

def compactedRecords (maxRecords : Nat) (messages : List StoredMessage) : List StoredMessage :=
  Retention.skipOldest unsentIncoming (unsentToDrop maxRecords messages) (othersToDrop maxRecords messages) messages

def droppedRecords (maxRecords : Nat) (messages : List StoredMessage) : List StoredMessage :=
  messages.filter (fun msg => msg ∉ compactedRecords maxRecords messages)

def compactStoreToRecent (s : Store) (maxRecords : Nat) : Bool × Store :=
  if maxRecords = 0 then messageStoreClear s
  else
    match readHeader s with
    | none => (false, s)
    | some (count, nextId) =>
      if count ≤ maxRecords then (true, s)
      else
        match readCompleteRecords s count headerSize with
        | none => (false, s)
        | some messages =>
          match atomicReplaceStore s (compactedRecords maxRecords messages) nextId with
          | (false, s) => (false, s)
          | (true, s) =>
            (true, s.noteCompaction (unsentToDrop maxRecords messages) (droppedRecords maxRecords messages))

end SigurdOS.MessageStore
