import SigurdOS.Hal.AtomicFile
import SigurdOS.MessageStore.Codec

namespace SigurdOS.MessageStore

open Bytes SigurdOS.Hal

def messageStoreMaxRecords : Nat := 512
def messageStoreCompactToRecords : Nat := 448
def retryQueueCapacity : Nat := 8

/-- The limits of a registered backend; a zero selects the default. The shipped backends compact
    below their capacity and count records in a signed 32-bit integer. -/
structure MessageStoreBackend where
  maxRecords : Nat
  compactToRecords : Nat
  bounded : maxRecords + 1 < 2 ^ 31
  compacts : (if compactToRecords = 0 then messageStoreCompactToRecords else compactToRecords) ≤
    (if maxRecords = 0 then messageStoreMaxRecords else maxRecords)

inductive RecoveryResult where
  | clean
  | migrated
  | repaired
  | salvaged
  | quarantined
  | unsupportedVersion
  | failed
  deriving DecidableEq

structure IdentityIndexEntry where
  hash : UInt32
  storeId : UInt32
  deriving DecidableEq

/-- One outcome of a call that touches the medium. A call ignores the faults of other calls. -/
inductive Fault where
  | none
  | append (written : Nat)
  | header (written : Nat)
  | replace (step : ReplaceFault)
  | recover (step : RecoverFault)
  | quarantine (removed : Bool)
  deriving DecidableEq

def Fault.replaceStep : Fault → Option ReplaceFault
  | .replace step => some step
  | _ => Option.none

def Fault.recoverStep : Fault → Option RecoverFault
  | .recover step => some step
  | _ => Option.none

structure StoreFiles where
  file : AtomicFile
  corrupt : Option (List UInt8)
  deriving DecidableEq

def StoreFiles.empty : StoreFiles := ⟨⟨none, none⟩, none⟩

/-- The module's file and its static variables. `faults` is the script of the medium: each call
    takes the next entry and an empty script is a medium that works. `compactedAway` is a history
    variable that no function reads: the records dropped by the compactions that succeeded. -/
structure Store where
  backend : Option MessageStoreBackend
  files : StoreFiles
  otherFiles : StoreFiles
  identityIndex : List IdentityIndexEntry
  identityIndexCapacity : Nat
  identityIndexValid : Bool
  appendRecoveryRequired : Bool
  companionBacklogDropCount : UInt32
  lastRecoveryResult : RecoveryResult
  retryQueue : List StoredMessage
  retryQueueDropCount : UInt32
  backendDegraded : Bool
  faults : List Fault
  compactedAway : List StoredMessage

def Store.powerOn (s : Store) : Store :=
  { s with
    identityIndex := [], identityIndexCapacity := 0, identityIndexValid := false, appendRecoveryRequired := false
    companionBacklogDropCount := 0, lastRecoveryResult := .clean, retryQueue := [], retryQueueDropCount := 0
    backendDegraded := false }

def Store.initial (backend : Option MessageStoreBackend) : Store where
  backend := backend
  files := .empty
  otherFiles := .empty
  identityIndex := []
  identityIndexCapacity := 0
  identityIndexValid := false
  appendRecoveryRequired := false
  companionBacklogDropCount := 0
  lastRecoveryResult := .clean
  retryQueue := []
  retryQueueDropCount := 0
  backendDegraded := false
  faults := []
  compactedAway := []

def Store.live (s : Store) : Option (List UInt8) := s.files.file.live

def Store.setFile (s : Store) (file : AtomicFile) : Store := { s with files := { s.files with file := file } }

def Store.setLive (s : Store) (live : List UInt8) : Store := s.setFile { s.files.file with live := some live }

def Store.requireRecovery (s : Store) (required : Bool) : Store := { s with appendRecoveryRequired := required }

def Store.report (s : Store) (result : RecoveryResult) : Store := { s with lastRecoveryResult := result }

def Store.withFaults (s : Store) (faults : List Fault) : Store := { s with faults := faults }

def Store.withIndex (s : Store) (entries : List IdentityIndexEntry) (capacity : Nat) : Store :=
  { s with identityIndex := entries, identityIndexCapacity := capacity, identityIndexValid := true }

def Store.withoutIndex (s : Store) : Store := { s with identityIndexValid := false }

def Store.noteCompaction (s : Store) (unsentDropped : Nat) (dropped : List StoredMessage) : Store :=
  { s with
    companionBacklogDropCount := s.companionBacklogDropCount + UInt32.ofNat unsentDropped
    compactedAway := s.compactedAway ++ dropped }

def Store.nextFault (s : Store) : Fault := s.faults.headD .none

def Store.afterCall (s : Store) : Store := { s with faults := s.faults.tail }

def backendMaxRecords (s : Store) : Nat :=
  match s.backend with
  | some backend => if backend.maxRecords > 0 then backend.maxRecords else messageStoreMaxRecords
  | none => messageStoreMaxRecords

def backendRecoveryMaxRecords (s : Store) : Nat :=
  if backendMaxRecords s = 2 ^ 32 - 1 then backendMaxRecords s else backendMaxRecords s + 1

def backendCompactToRecords (s : Store) : Nat :=
  match s.backend with
  | some backend => if backend.compactToRecords = 0 then messageStoreCompactToRecords else backend.compactToRecords
  | none => messageStoreCompactToRecords

def storeAppend (s : Store) (data : List UInt8) : Bool × Store :=
  let old := s.live.getD []
  match s.nextFault with
  | .append written => (false, s.afterCall.setLive (old ++ data.take written))
  | _ => (true, s.afterCall.setLive (old ++ data))

def writeHeaderState (s : Store) (count : Nat) (nextId : UInt32) : Bool × Store :=
  if nextId = 0 then (false, s)
  else
    let old := s.live.getD []
    match s.nextFault with
    | .header written =>
      (false, s.afterCall.setLive (overlay (encodeHeader count nextId) old (min written headerSize)))
    | _ => (true, s.afterCall.setLive (overlay (encodeHeader count nextId) old headerSize))

def readHeader (s : Store) : Option (Nat × UInt32) :=
  match s.live with
  | none => none
  | some bytes =>
    let header := parseHeader bytes
    if bytes.length < headerSize ∨ header.magic ≠ messageStoreMagic ∨ header.version ≠ messageStoreVersion ∨
        header.nextId = 0 ∨ header.count > backendRecoveryMaxRecords s then none
    else some (header.count, header.nextId)

def readPayload (s : Store) (count header size : Nat) : Option (List (List UInt8)) :=
  let bytes := s.live.getD []
  if count = 0 then some []
  else if header + size * count ≤ bytes.length then some (slots size count (bytes.drop header))
  else none

def loadAllInternal (s : Store) (max : Nat) : List StoredMessage :=
  match readHeader s with
  | none => []
  | some (count, _) =>
    match readPayload s (min count max) headerSize recordSize with
    | none => []
    | some records => records.filterMap readRecordRaw

/-- An incoming record the companion has not received. -/
def unsentIncoming (msg : StoredMessage) : Bool := !msg.isSelf && !msg.companionSent

def loadUnsentInternal (s : Store) (max : Nat) : List StoredMessage :=
  match readHeader s with
  | none => []
  | some (count, _) =>
    match readPayload s count headerSize recordSize with
    | none => []
    | some records => ((records.filterMap readRecordRaw).filter unsentIncoming).take max

def messageStoreLoadAll (s : Store) (max : Nat) : List StoredMessage := loadAllInternal s max

def messageStoreLoadUnsent (s : Store) (max : Nat) : List StoredMessage := loadUnsentInternal s max

def messageStoreCount (s : Store) : Nat :=
  match readHeader s with
  | none => 0
  | some (count, _) => count

/-- Everything `messageStoreLoadAll` returns. -/
def Store.records (s : Store) : List StoredMessage := messageStoreLoadAll s (messageStoreCount s)

def messageStoreGetById (s : Store) (storeId : UInt32) : Option StoredMessage :=
  if storeId = 0 then none
  else
    match readHeader s with
    | none => none
    | some (count, _) =>
      if count = 0 then none
      else
        match readPayload s count headerSize recordSize with
        | none => none
        | some records => (records.filterMap readRecordRaw).find? (fun msg => msg.storeId == storeId)

def indexEntry (msg : StoredMessage) : IdentityIndexEntry := ⟨identityHash msg, msg.storeId⟩

def ensureIdentityIndexCapacity (s : Store) (capacity : Nat) : Store :=
  if capacity ≤ s.identityIndexCapacity then s else { s with identityIndexCapacity := capacity }

def identityIndexClear (s : Store) : Store :=
  s.withIndex [] (ensureIdentityIndexCapacity s (backendMaxRecords s)).identityIndexCapacity

def identityIndexAdd (s : Store) (msg : StoredMessage) : Store :=
  if !s.identityIndexValid || msg.storeId == 0 || s.identityIndex.length ≥ s.identityIndexCapacity then s
  else { s with identityIndex := s.identityIndex ++ [indexEntry msg] }

def rebuildIdentityIndex (s : Store) : Bool × Store :=
  match readHeader s with
  | none => (false, s.withoutIndex)
  | some (count, _) =>
    if count > backendMaxRecords s then (false, s.withoutIndex)
    else if count = 0 then (true, identityIndexClear s)
    else
      let messages := loadAllInternal s count
      let s := identityIndexClear (ensureIdentityIndexCapacity s count)
      if messages.length ≠ count then (false, s.withoutIndex)
      else (true, messages.foldl identityIndexAdd s)

def matchIndexed (s : Store) (msg : StoredMessage) (entry : IdentityIndexEntry) : Option UInt32 :=
  if entry.hash ≠ identityHash msg then none
  else
    match messageStoreGetById s entry.storeId with
    | none => none
    | some existing => if storedMessageSameIdentity existing msg then some existing.storeId else none

def messageExists (s : Store) (msg : StoredMessage) : Option UInt32 × Store :=
  match (if s.identityIndexValid then (true, s) else rebuildIdentityIndex s) with
  | (false, s) => (none, s)
  | (true, s) => (s.identityIndex.findSome? (matchIndexed s msg), s)

end SigurdOS.MessageStore
