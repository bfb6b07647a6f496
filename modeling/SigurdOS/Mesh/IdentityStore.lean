import SigurdOS.Mesh.RegionEnvelope

namespace SigurdOS.Mesh

open Bytes Hal

section Codec

def identityMagic : List UInt8 := [83, 71, 73, 0xB1]

def identityVersion : UInt8 := 1

def identityHeaderSize : Nat := 4 + 1 + 2 + 4

def identityMaxPayload : Nat := 128

def crc32Update (crc : UInt32) (data : List UInt8) : UInt32 :=
  data.foldl (fun crc byte =>
    (List.range 8).foldl (fun crc _ => (crc >>> 1) ^^^ (0xEDB88320 &&& -(crc &&& 1))) (crc ^^^ byte.toUInt32)) crc

def payloadCrc (data : List UInt8) : UInt32 := crc32Update 0xFFFFFFFF data ^^^ 0xFFFFFFFF

def encodeIdentityHeader (length : Nat) (crc : UInt32) : List UInt8 :=
  identityMagic ++ (identityVersion :: (leBytes 2 length ++ leBytes 4 crc.toNat))

def decodeIdentityHeader (header : List UInt8) : Option (Nat × Nat) :=
  if header.take 4 ≠ identityMagic ∨ (header.drop 4).head? ≠ some identityVersion then none
  else
    let length := leNumber ((header.drop 5).take 2)
    let crc := leNumber ((header.drop 7).take 4)
    if 0 < length ∧ length ≤ identityMaxPayload then some (length, crc) else none

def writeIdentity (data : List UInt8) : Option (List UInt8) :=
  if data.length = 0 ∨ data.length > identityMaxPayload then none
  else some (encodeIdentityHeader data.length (payloadCrc data) ++ data)

def identityChunks : Nat → Nat → List UInt8 → UInt32 → Option UInt32
  | 0, remaining, _, crc => if remaining = 0 then some crc else none
  | fuel + 1, remaining, stream, crc =>
    if remaining = 0 then some crc
    else
      let wanted := if remaining < 32 then remaining else 32
      match readBytes stream wanted with
      | none => none
      | some (chunk, rest) => identityChunks fuel (remaining - wanted) rest (crc32Update crc chunk)

def validateIdentity (data : List UInt8) : Bool :=
  if data.length < identityHeaderSize then false
  else
    match readBytes data identityHeaderSize with
    | none => false
    | some (header, stream) =>
      match decodeIdentityHeader header with
      | none => false
      | some (length, expectedCrc) =>
        if data.length ≠ identityHeaderSize + length then false
        else
          match identityChunks length length stream 0xFFFFFFFF with
          | none => false
          | some crc => (crc ^^^ 0xFFFFFFFF).toNat == expectedCrc

def identityStoreSave (file : AtomicFile) (data : List UInt8) (fault : Option ReplaceFault) : Bool × AtomicFile :=
  if data.length = 0 ∨ data.length > identityMaxPayload then (false, file)
  else atomicFileReplace file (writeIdentity data) validateIdentity fault

/-- The reader behind the recovery. A file without the magic is a raw key of an earlier firmware. -/
def readIdentity (raw : List UInt8) (bufLen : Nat) : Option (List UInt8) :=
  if identityHeaderSize ≤ raw.length ∧ raw.take 4 = identityMagic then
    match decodeIdentityHeader (raw.take identityHeaderSize) with
    | none => none
    | some (payloadLen, expectedCrc) =>
      if raw.length ≠ identityHeaderSize + payloadLen then none
      else if payloadLen = 0 ∨ payloadLen > bufLen then none
      else
        match readBytes (raw.drop identityHeaderSize) payloadLen with
        | none => none
        | some (payload, _) => if (payloadCrc payload).toNat = expectedCrc then some payload else none
  else if raw.length = 0 ∨ raw.length > bufLen then none
  else some raw

def identityStoreLoad (file : AtomicFile) (bufLen : Nat) (fault : Option RecoverFault) :
    Option (List UInt8) × AtomicFile :=
  if bufLen = 0 then (none, file)
  else
    let file := (atomicFileRecover file validateIdentity fault).2
    (file.live.bind fun raw => readIdentity raw bufLen, file)

end Codec

theorem crc32Update_append (crc : UInt32) (front rest : List UInt8) :
    crc32Update crc (front ++ rest) = crc32Update (crc32Update crc front) rest := List.foldl_append

theorem identityChunks_eq {fuel remaining : Nat} {stream : List UInt8} (fuelled : remaining ≤ fuel)
    (enough : remaining ≤ stream.length) (crc : UInt32) :
    identityChunks fuel remaining stream crc = some (crc32Update crc (stream.take remaining)) := by
  induction fuel generalizing remaining stream crc with
  | zero =>
    obtain rfl : remaining = 0 := by omega
    rfl
  | succ fuel ih =>
    rw [identityChunks]
    by_cases finished : remaining = 0
    · subst finished
      rfl
    · rw [if_neg finished]
      dsimp only
      generalize chosen : (if remaining < 32 then remaining else 32) = wanted
      have bounds : 0 < wanted ∧ wanted ≤ remaining := by
        split at chosen <;> omega
      have whole : stream.take remaining = stream.take wanted ++ (stream.drop wanted).take (remaining - wanted) := by
        rw [← List.take_add]
        congr 1
        omega
      rw [readBytes_of_le (by omega)]
      dsimp only
      rw [ih (by omega) (by rw [List.length_drop]; omega), whole, crc32Update_append]

section Validity

variable {raw data header payload : List UInt8}

theorem decodeIdentityHeader_eq_some {length crc : Nat} :
    decodeIdentityHeader header = some (length, crc) ↔
      header.take 4 = identityMagic ∧ (header.drop 4).head? = some identityVersion ∧
      length = leNumber ((header.drop 5).take 2) ∧ crc = leNumber ((header.drop 7).take 4) ∧
      0 < length ∧ length ≤ identityMaxPayload := by
  unfold decodeIdentityHeader
  split
  · rename_i foreign
    refine ⟨nofun, fun ⟨magic, version, _⟩ => ?_⟩
    rcases foreign with other | other
    · exact absurd magic other
    · exact absurd version other
  · rename_i known
    rw [not_or, not_not, not_not] at known
    dsimp only
    split
    · rename_i bounded
      rw [Option.some_inj, Prod.mk.injEq]
      constructor
      · rintro ⟨rfl, rfl⟩
        exact ⟨known.1, known.2, rfl, rfl, bounded⟩
      · rintro ⟨-, -, rfl, rfl, -⟩
        exact ⟨rfl, rfl⟩
    · rename_i unbounded
      refine ⟨nofun, ?_⟩
      rintro ⟨-, -, rfl, -, bounded⟩
      exact absurd bounded unbounded

/-- A file in the current format: version 1, the length of the payload behind the header, and its checksum. -/
structure IdentityFile (raw payload : List UInt8) : Prop where
  magic : raw.take 4 = identityMagic
  version : (raw.drop 4).head? = some identityVersion
  filled : 1 ≤ payload.length
  bounded : payload.length ≤ 128
  body : raw.drop 11 = payload
  declared : leNumber ((raw.drop 5).take 2) = payload.length
  checksum : leNumber ((raw.drop 7).take 4) = (payloadCrc payload).toNat

theorem IdentityFile.length_eq (file : IdentityFile raw payload) :
    raw.length = identityHeaderSize + payload.length := by
  have behind := congrArg List.length file.body
  have filled := file.filled
  rw [List.length_drop] at behind
  rw [identityHeaderSize]
  omega

theorem decodeIdentityHeader_take (raw : List UInt8) :
    decodeIdentityHeader (raw.take identityHeaderSize) = decodeIdentityHeader raw := by
  have version : ((raw.drop 4).take 7).head? = (raw.drop 4).head? := by
    rw [List.head?_take, if_neg (by decide)]
  unfold decodeIdentityHeader identityHeaderSize
  simp only [List.take_take, List.drop_take, Nat.reduceAdd, Nat.reduceSub, Nat.min_def, Nat.reduceLeDiff,
    if_true, version]

theorem identityFile_iff (raw payload : List UInt8) :
    IdentityFile raw payload ↔
      ∃ crc, decodeIdentityHeader raw = some (payload.length, crc) ∧
        raw.length = identityHeaderSize + payload.length ∧ raw.drop identityHeaderSize = payload ∧
        (payloadCrc payload).toNat = crc := by
  constructor
  · intro file
    exact ⟨_, decodeIdentityHeader_eq_some.mpr ⟨file.magic, file.version, file.declared.symm, file.checksum.symm,
      file.filled, file.bounded⟩, file.length_eq, file.body, rfl⟩
  · rintro ⟨_, decoded, -, body, rfl⟩
    obtain ⟨magic, version, declared, checksum, filled, bounded⟩ := decodeIdentityHeader_eq_some.mp decoded
    exact ⟨magic, version, filled, bounded, body, declared.symm, checksum.symm⟩

theorem validateIdentity_iff (raw : List UInt8) :
    validateIdentity raw = true ↔ ∃ payload, IdentityFile raw payload := by
  simp only [identityFile_iff]
  unfold validateIdentity
  split
  · rename_i short
    refine ⟨nofun, ?_⟩
    rintro ⟨payload, crc, -, size, -⟩
    omega
  · rename_i long
    rw [readBytes_of_le (Nat.le_of_not_lt long)]
    dsimp only
    rw [decodeIdentityHeader_take]
    cases decoded : decodeIdentityHeader raw with
    | none => exact ⟨nofun, fun ⟨_, _, other, _⟩ => nomatch other⟩
    | some found =>
      obtain ⟨length, crc⟩ := found
      dsimp only
      split
      · rename_i other
        refine ⟨nofun, ?_⟩
        rintro ⟨payload, _, same, size, -⟩
        obtain ⟨rfl, rfl⟩ := Prod.mk.inj (Option.some.inj same)
        exact absurd size other
      · rename_i size
        rw [not_not] at size
        have behind : (raw.drop identityHeaderSize).length = length := by
          rw [List.length_drop]
          omega
        rw [identityChunks_eq le_rfl behind.ge, ← behind, List.take_length]
        dsimp only
        rw [beq_iff_eq]
        constructor
        · intro checked
          exact ⟨raw.drop identityHeaderSize, crc, rfl, by omega, rfl, checked⟩
        · rintro ⟨payload, _, same, -, rfl, checked⟩
          exact checked.trans (Prod.mk.inj (Option.some.inj same)).2.symm

theorem readIdentity_iff {bufLen : Nat} (size : identityHeaderSize ≤ raw.length) (magic : raw.take 4 = identityMagic) :
    readIdentity raw bufLen = some payload ↔ IdentityFile raw payload ∧ payload.length ≤ bufLen := by
  rw [identityFile_iff, readIdentity, if_pos ⟨size, magic⟩, decodeIdentityHeader_take]
  cases decoded : decodeIdentityHeader raw with
  | none => exact ⟨nofun, fun ⟨⟨_, other, _⟩, _⟩ => nomatch other⟩
  | some found =>
    obtain ⟨length, crc⟩ := found
    obtain ⟨-, -, -, -, positive, -⟩ := decodeIdentityHeader_eq_some.mp decoded
    dsimp only
    split
    · rename_i other
      refine ⟨nofun, ?_⟩
      rintro ⟨⟨_, same, whole, -⟩, -⟩
      obtain ⟨rfl, rfl⟩ := Prod.mk.inj (Option.some.inj same)
      exact absurd whole other
    · rename_i whole
      rw [not_not] at whole
      have behind : (raw.drop identityHeaderSize).length = length := by
        rw [List.length_drop]
        omega
      split
      · rename_i large
        refine ⟨nofun, ?_⟩
        rintro ⟨⟨_, same, -⟩, fits⟩
        obtain ⟨rfl, rfl⟩ := Prod.mk.inj (Option.some.inj same)
        omega
      · rename_i fits
        rw [readBytes_of_le behind.ge, ← behind, List.take_length]
        dsimp only
        split
        · rename_i checked
          rw [Option.some_inj]
          constructor
          · rintro rfl
            exact ⟨⟨crc, rfl, by omega, rfl, checked⟩, by omega⟩
          · rintro ⟨⟨_, -, -, same, -⟩, -⟩
            exact same
        · rename_i unchecked
          refine ⟨nofun, ?_⟩
          rintro ⟨⟨_, same, -, rfl, checked⟩, -⟩
          obtain ⟨-, rfl⟩ := Prod.mk.inj (Option.some.inj same)
          exact absurd checked unchecked

theorem identityFile_written (filled : 1 ≤ data.length) (bounded : data.length ≤ 128) :
    IdentityFile (encodeIdentityHeader data.length (payloadCrc data) ++ data) data := by
  have small : data.length < 256 ^ 2 := by omega
  have crc : (payloadCrc data).toNat < 256 ^ 4 := (payloadCrc data).toNat_lt
  refine ⟨rfl, rfl, filled, bounded, ?_, ?_, ?_⟩
  · exact List.drop_left' (by simp [encodeIdentityHeader, identityMagic])
  · calc leNumber (((encodeIdentityHeader data.length (payloadCrc data) ++ data).drop 5).take 2)
        = leNumber ((leBytes 2 data.length ++ (leBytes 4 (payloadCrc data).toNat ++ data)).take 2) := by
          rw [← List.append_assoc]
          rfl
      _ = leNumber (leBytes 2 data.length) := by rw [List.take_left' (length_leBytes 2 _)]
      _ = data.length := leNumber_leBytes_of_lt small
  · calc leNumber (((encodeIdentityHeader data.length (payloadCrc data) ++ data).drop 7).take 4)
        = leNumber ((leBytes 4 (payloadCrc data).toNat ++ data).take 4) := rfl
      _ = leNumber (leBytes 4 (payloadCrc data).toNat) := by rw [List.take_left' (length_leBytes 4 _)]
      _ = (payloadCrc data).toNat := leNumber_leBytes_of_lt crc

theorem identityStoreLoad_settled (raw : List UInt8) (bufLen : Nat) (room : 0 < bufLen) (fault : Option RecoverFault) :
    identityStoreLoad ⟨some raw, none⟩ bufLen fault = (readIdentity raw bufLen, ⟨some raw, none⟩) := by
  rw [identityStoreLoad, if_neg (by omega), atomicFileRecover_without_temp _ _ rfl]
  rfl

/-- What a save stores comes back, and the reader takes a file with the magic exactly when the validator does. -/
theorem identityStore_codec :
    (∀ (file : AtomicFile) (payload : List UInt8) (bufLen : Nat) (fault : Option RecoverFault),
      1 ≤ payload.length → payload.length ≤ 128 → payload.length ≤ bufLen →
      (identityStoreSave file payload none).1 = true ∧
        (identityStoreLoad (identityStoreSave file payload none).2 bufLen fault).1 = some payload) ∧
    ∀ (raw : List UInt8) (fault : Option RecoverFault), raw.take 4 = identityMagic → 11 ≤ raw.length →
      (identityStoreLoad ⟨some raw, none⟩ 128 fault).1.isSome = validateIdentity raw ∧
        (∀ payload, (identityStoreLoad ⟨some raw, none⟩ 128 fault).1 = some payload ↔ IdentityFile raw payload) ∧
        (validateIdentity raw = true ↔ ∃ payload, IdentityFile raw payload) := by
  constructor
  · intro file payload bufLen fault filled bounded room
    have written := identityFile_written filled bounded
    have accepted : ¬ (payload.length = 0 ∨ payload.length > identityMaxPayload) := by
      rw [identityMaxPayload]
      omega
    have saved : identityStoreSave file payload none =
        (true, ⟨some (encodeIdentityHeader payload.length (payloadCrc payload) ++ payload), none⟩) := by
      rw [identityStoreSave, if_neg accepted, writeIdentity, if_neg accepted]
      exact atomicFileReplace_success ((validateIdentity_iff _).mpr ⟨payload, written⟩)
    have size := written.length_eq
    rw [saved, identityStoreLoad_settled _ _ (by omega)]
    exact ⟨rfl, (readIdentity_iff (by omega) written.magic).mpr ⟨written, room⟩⟩
  · intro raw fault magic size
    rw [identityStoreLoad_settled _ _ (by decide)]
    have read (payload : List UInt8) : readIdentity raw 128 = some payload ↔ IdentityFile raw payload := by
      rw [readIdentity_iff size magic]
      exact ⟨And.left, fun file => ⟨file, file.bounded⟩⟩
    refine ⟨?_, read, validateIdentity_iff raw⟩
    rw [Bool.eq_iff_iff, validateIdentity_iff, Option.isSome_iff_exists]
    exact exists_congr read

theorem oneByteIdentity_codec :
    (identityStoreLoad (identityStoreSave ⟨none, none⟩ [7] none).2 128 none).1 = some [7] ∧
      (identityStoreLoad ⟨some (identityMagic ++ [1, 1, 0, 0, 0, 0, 0, 7]), none⟩ 128 none).1.isSome = false := by
  refine ⟨(identityStore_codec.1 ⟨none, none⟩ [7] 128 none (by decide) (by decide) (by decide)).2, ?_⟩
  rw [(identityStore_codec.2 (identityMagic ++ [1, 1, 0, 0, 0, 0, 0, 7]) none (by decide) (by decide)).1]
  decide +kernel

end Validity

end SigurdOS.Mesh
