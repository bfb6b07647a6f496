import SigurdOS.Bytes.Fields
import SigurdOS.Hal.AtomicFile

namespace SigurdOS.Mesh

open Bytes Hal

def regionNameMaxLen : Nat := 30

def regionNameBodyChar (char : UInt8) : Bool :=
  (97 ≤ char && char ≤ 122) || (65 ≤ char && char ≤ 90) || (48 ≤ char && char ≤ 57) || char == 45 || char == 95

/-- The name up to its terminator: an optional `#` or `$`, then an identifier. -/
def regionNameValid (name : List UInt8) : Bool :=
  let body := if name.head? = some 35 ∨ name.head? = some 36 then name.tail else name
  !body.isEmpty && name.length ≤ regionNameMaxLen && body.all regionNameBodyChar

def regionMagic : List UInt8 := [83, 82, 1]

def regionTransactionalMagic : List UInt8 := [83, 82, 2]

def regionLegacyHeaderSize : Nat := 10

def regionLegacyRecordSize : Nat := 164

def regionChecksumSize : Nat := 4

def regionMaxRecords : Nat := 32

def regionTransactionalHeaderSize : Nat := 10

def regionKeyRecordSize : Nat := 18

def regionMaxPrivateKeys : Nat := 16

def regionReadU16 (data : List UInt8) : Nat := leNumber (data.take 2)

def regionReadU32 (data : List UInt8) : Nat := leNumber (data.take 4)

def regionCrcUpdate (crc : UInt32) (data : List UInt8) : UInt32 :=
  data.foldl (fun crc byte =>
    (List.range 8).foldl (fun crc _ => (crc >>> 1) ^^^ (0xEDB88320 &&& -(crc &&& 1))) (crc ^^^ byte.toUInt32)) crc

def readBytes (stream : List UInt8) (length : Nat) : Option (List UInt8 × List UInt8) :=
  if length ≤ stream.length then some (stream.take length, stream.drop length) else none

/-- The loops that read a file in chunks of 128 bytes: the checksum of what they read, and the bytes
    that they hand on. -/
def streamChunks : Nat → Nat → List UInt8 → UInt32 → List UInt8 → Option (UInt32 × List UInt8)
  | 0, remaining, _, crc, output => if remaining = 0 then some (crc, output) else none
  | fuel + 1, remaining, stream, crc, output =>
    if remaining = 0 then some (crc, output)
    else
      let chunk := min remaining 128
      match readBytes stream chunk with
      | none => none
      | some (buffer, rest) =>
        streamChunks fuel (remaining - chunk) rest (regionCrcUpdate crc buffer) (output ++ buffer)

/-- One entry of `RegionStructureInfo`, with the parent that the validator collects beside it. -/
structure RegionRecord where
  id : Nat
  parent : Nat
  isPrivate : Bool
  deriving DecidableEq

def regionIdPresent (id : Nat) (records : List RegionRecord) : Bool :=
  id == 0 || records.any (·.id == id)

def parseRegionRecord (record : List UInt8) : RegionRecord where
  id := regionReadU16 record
  parent := regionReadU16 (record.drop 2)
  isPrivate := (record.drop 4).head? == some 36

def readRegionRecords : Nat → List UInt8 → List RegionRecord → Option (List RegionRecord)
  | 0, _, seen => some seen
  | remaining + 1, stream, seen =>
    match readBytes stream regionLegacyRecordSize with
    | none => none
    | some (record, rest) =>
      let entry := parseRegionRecord record
      let name := record.drop 4
      if entry.id = 0 ∨ 0 ∉ name.take 31 ∨ name.head? = some 0 then none
      else if regionNameValid (terminated name) = false then none
      else if seen.any (·.id == entry.id) then none
      else readRegionRecords remaining rest (seen ++ [entry])

/-- The walk from a parent to the wildcard root, in at most as many steps as there are records. -/
def reachesRoot (records : List RegionRecord) : Nat → Nat → Bool
  | 0, cursor => cursor == 0
  | depth + 1, cursor =>
    if cursor = 0 then true
    else
      match records.find? (·.id == cursor) with
      | none => false
      | some record => reachesRoot records depth record.parent

def validateRegionStructure (data : List UInt8) (rawOffset rawSize : Nat) (current : Bool) :
    Option (List RegionRecord) :=
  if rawSize < regionLegacyHeaderSize ∨ (rawSize - regionLegacyHeaderSize) % regionLegacyRecordSize ≠ 0 then none
  else
    let count := (rawSize - regionLegacyHeaderSize) / regionLegacyRecordSize
    if count > regionMaxRecords then none
    else
      match readBytes (data.drop rawOffset) regionLegacyHeaderSize with
      | none => none
      | some (header, stream) =>
        if header.take 3 ≠ (if current then regionMagic else [0, 0, 0]) then none
        else
          let defaultId := regionReadU16 (header.drop 3)
          let homeId := regionReadU16 (header.drop 5)
          let nextId := regionReadU16 (header.drop 8)
          match readRegionRecords count stream [] with
          | none => none
          | some records =>
            if nextId = 0 ∨ records.any (fun record => nextId ≤ record.id) ∨ regionIdPresent defaultId records = false ∨
                regionIdPresent homeId records = false then none
            else if records.all (fun record => record.parent != record.id && regionIdPresent record.parent records &&
                reachesRoot records count record.parent) then some records
            else none

def validateCurrentRegionFile (data : List UInt8) : Bool :=
  if data.length < regionLegacyHeaderSize + regionChecksumSize then false
  else
    let rawSize := data.length - regionChecksumSize
    match streamChunks rawSize rawSize data 0xFFFFFFFF [] with
    | none => false
    | some (crc, _) =>
      match readBytes (data.drop rawSize) regionChecksumSize with
      | none => false
      | some (storedCrc, _) =>
        if (crc ^^^ 0xFFFFFFFF).toNat ≠ regionReadU32 storedCrc then false
        else (validateRegionStructure data 0 rawSize true).isSome

def validateLegacyRegionFile (data : List UInt8) : Bool :=
  (validateRegionStructure data 0 data.length false).isSome

def regionPrivateIdPresent (records : List RegionRecord) (id : Nat) : Bool :=
  match records.find? (·.id == id) with
  | some record => record.isPrivate
  | none => false

def validateKeyRecords (records : List RegionRecord) : Nat → List UInt8 → List Nat → Bool
  | 0, _, _ => true
  | remaining + 1, stream, seen =>
    match readBytes stream regionKeyRecordSize with
    | none => false
    | some (record, rest) =>
      let id := regionReadU16 record
      if id = 0 ∨ regionPrivateIdPresent records id = false then false
      else if (record.drop 2).foldl (· ||| ·) 0 = 0 then false
      else if seen.any (· == id) then false
      else validateKeyRecords records remaining rest (seen ++ [id])

def validateTransactionalRegionFile (data : List UInt8) : Bool :=
  if data.length < regionTransactionalHeaderSize + regionLegacyHeaderSize + regionChecksumSize then false
  else
    match readBytes data regionTransactionalHeaderSize with
    | none => false
    | some (header, _) =>
      if header.take 3 ≠ regionTransactionalMagic ∨ header.drop 8 ≠ [0, 0] then false
      else
        let rawSize := regionReadU32 (header.drop 3)
        let keyCount := ((header.drop 7).headD 0).toNat
        if keyCount > regionMaxPrivateKeys ∨ data.length ≠ regionTransactionalHeaderSize + rawSize +
            keyCount * regionKeyRecordSize + regionChecksumSize then false
        else
          match validateRegionStructure data regionTransactionalHeaderSize rawSize false with
          | none => false
          | some records =>
            if validateKeyRecords records keyCount (data.drop (regionTransactionalHeaderSize + rawSize)) [] = false then
              false
            else
              let contentSize := data.length - regionChecksumSize
              match streamChunks contentSize contentSize data 0xFFFFFFFF [] with
              | none => false
              | some (crc, _) =>
                match readBytes (data.drop contentSize) regionChecksumSize with
                | none => false
                | some (storedCrc, _) => (crc ^^^ 0xFFFFFFFF).toNat == regionReadU32 storedCrc

def validateAnyCurrentRegionFile (data : List UInt8) : Bool :=
  validateTransactionalRegionFile data || validateCurrentRegionFile data

abbrev RegionKey := UInt16 × FixedBytes 16

def keyRecord (key : RegionKey) : List UInt8 := leBytes 2 key.1.toNat ++ key.2.bytes

def writeKeyRecords (readKey : Nat → Option RegionKey) :
    Nat → Nat → UInt32 → List UInt8 → Option (UInt32 × List UInt8)
  | 0, _, crc, output => some (crc, output)
  | remaining + 1, index, crc, output =>
    match readKey index with
    | none => none
    | some key =>
      writeKeyRecords readKey remaining (index + 1) (regionCrcUpdate crc (keyRecord key)) (output ++ keyRecord key)

def regionTransactionalHeader (sourceSize keyCount : Nat) : List UInt8 :=
  regionTransactionalMagic ++ leBytes 4 sourceSize ++ [UInt8.ofNat keyCount, 0, 0]

def writeTransactionalRegionEnvelope (source : List UInt8) (keyCount : Int) (readKey : Nat → Option RegionKey) :
    Option (List UInt8) :=
  if source.length < regionLegacyHeaderSize ∨ source.length > 0xFFFFFFFF ∨ keyCount < 0 ∨
      keyCount > regionMaxPrivateKeys then none
  else
    let header := regionTransactionalHeader source.length keyCount.toNat
    match streamChunks source.length source.length source (regionCrcUpdate 0xFFFFFFFF header) header with
    | none => none
    | some (crc, output) =>
      match writeKeyRecords readKey keyCount.toNat 0 crc output with
      | none => none
      | some (crc, output) => some (output ++ leBytes 4 (crc ^^^ 0xFFFFFFFF).toNat)

def regionStoreSaveTransactionalFile (file : AtomicFile) (legacy : Option (List UInt8)) (keyCount : Int)
    (readKey : Nat → Option RegionKey) (recoverFault : Option RecoverFault) (replaceFault : Option ReplaceFault) :
    Bool × AtomicFile :=
  if keyCount < 0 ∨ keyCount > regionMaxPrivateKeys then (false, file)
  else
    match legacy with
    | none => (false, file)
    | some source =>
      if validateLegacyRegionFile source = false then (false, file)
      else
        let (recovered, file) := atomicFileRecover file validateAnyCurrentRegionFile recoverFault
        -- During the first migration a valid v1 or legacy live file is a source to roll back to as well.
        if recovered = false ∧ (file.temp.any validateAnyCurrentRegionFile ∨
            (file.live.any validateTransactionalRegionFile = false ∧ file.live.any validateCurrentRegionFile = false ∧
              file.live.any validateLegacyRegionFile = false)) then (false, file)
        else
          atomicFileReplace file (writeTransactionalRegionEnvelope source keyCount readKey)
            validateTransactionalRegionFile replaceFault

def copyTransactionalRegionMap (live : Option (List UInt8)) : Option (List UInt8) :=
  match live with
  | none => none
  | some data =>
    if validateTransactionalRegionFile data = false then none
    else
      match readBytes data regionTransactionalHeaderSize with
      | none => none
      | some (header, stream) =>
        let remaining := regionReadU32 (header.drop 3)
        match streamChunks remaining remaining stream 0 [] with
        | none => none
        | some (_, copied) => if validateLegacyRegionFile copied then some copied else none

def regionStoreExtractTransactionalMap (file : AtomicFile) : Option (List UInt8) := copyTransactionalRegionMap file.live

section Load

variable {σ : Type} (loadKey : σ → RegionKey → Bool × σ)

def loadKeyRecords : Nat → List UInt8 → σ → Bool × σ
  | 0, _, ctx => (true, ctx)
  | remaining + 1, stream, ctx =>
    match readBytes stream regionKeyRecordSize with
    | none => (false, ctx)
    | some (record, rest) =>
      match loadKey ctx (UInt16.ofNat (regionReadU16 record), .ofList 16 (record.drop 2)) with
      | (true, ctx) => loadKeyRecords remaining rest ctx
      | (false, ctx) => (false, ctx)

def regionStoreLoadTransactionalKeys (file : AtomicFile) (ctx : σ) : Int × σ :=
  match file.live with
  | none => (-1, ctx)
  | some data =>
    if validateTransactionalRegionFile data = false then (-1, ctx)
    else
      match readBytes data regionTransactionalHeaderSize with
      | none => (-1, ctx)
      | some (header, _) =>
        let rawSize := regionReadU32 (header.drop 3)
        let keyCount := ((header.drop 7).headD 0).toNat
        match loadKeyRecords loadKey keyCount (data.drop (regionTransactionalHeaderSize + rawSize)) ctx with
        | (true, ctx) => (keyCount, ctx)
        | (false, ctx) => (-1, ctx)

end Load

inductive RegionStoreFormat where
  | invalid
  | legacy
  | current
  | transactional
  deriving DecidableEq

def regionStorePrepareLoad (file : AtomicFile) : RegionStoreFormat × AtomicFile :=
  let file := (atomicFileRecover file validateAnyCurrentRegionFile none).2
  if file.live.any validateTransactionalRegionFile then (.transactional, file)
  else if file.live.any validateCurrentRegionFile then (.current, file)
  else if file.live.any validateLegacyRegionFile then (.legacy, file)
  else (.invalid, file)

end SigurdOS.Mesh
