import SigurdOS.Hal.AtomicFile
import SigurdOS.MessageStore.Codec

namespace SigurdOS.Mesh

open Bytes Hal
open MessageStore (read32 read32_leBytes drop_field drop_byte)

section Path

def hashCount (encodedLen : UInt8) : UInt8 := encodedLen &&& 0x3F

def hashSize (encodedLen : UInt8) : UInt8 := (encodedLen >>> 6) + 1

def byteCount (encodedLen : UInt8) : Nat := (hashCount encodedLen).toNat * (hashSize encodedLen).toNat

def encodedLengthValid (encodedLen : UInt8) : Bool := hashSize encodedLen != 4 && byteCount encodedLen ≤ 64

def storedLengthValid (encodedLen : UInt8) : Bool := encodedLen == 0xFF || encodedLengthValid encodedLen

end Path

/-- The coordinates are kept as the bits of their `int32_t`. -/
@[ext] structure StoredContact where
  pubKey : FixedBytes 32
  name : CString 32
  type : UInt8
  flags : UInt8
  outPathLen : UInt8
  outPath : FixedBytes 64
  lastAdvertTimestamp : UInt32
  lastmod : UInt32
  gpsLat : UInt32
  gpsLon : UInt32
  syncSince : UInt32
  deriving DecidableEq

def maxContacts : Nat := 350

def contactStoreMagic : List UInt8 := [83, 71, 67, 0xB1]

def contactStoreVersion : UInt8 := 2

def contactV1RecordSize : Nat := 32 + 32 + 1 + 1

def contactRecordSize : Nat := 32 + 32 + 1 + 1 + 1 + 64 + 4 + 4 + 4 + 4 + 4

def contactValid (contact : StoredContact) : Bool := storedLengthValid contact.outPathLen

def contactNameChar (char : UInt8) : Bool := !(char < 0x20 || char == 0x7F)

def contactCandidateValid (name : CString 32) (pubKey : FixedBytes 32) (type : UInt8) : Bool :=
  !(name.chars.isEmpty || name.chars.length == 32) && name.chars.all contactNameChar && !(type < 1 || type > 4) &&
    pubKey.bytes.any (· != 0)

def contactCandidateDuplicates (pubKey existing : FixedBytes 32) : Bool := pubKey == existing

def writeContactRecord (contact : StoredContact) : List UInt8 :=
  contact.pubKey.bytes ++ ((FixedBytes.ofList 32 contact.name.chars).bytes ++ (contact.type :: contact.flags ::
    contact.outPathLen :: (contact.outPath.bytes ++ (leBytes 4 contact.lastAdvertTimestamp.toNat ++
      (leBytes 4 contact.lastmod.toNat ++ (leBytes 4 contact.gpsLat.toNat ++ (leBytes 4 contact.gpsLon.toNat ++
        leBytes 4 contact.syncSince.toNat)))))))

def readContactRecord (record : List UInt8) : Option StoredContact :=
  if record.length < contactRecordSize then none
  else if storedLengthValid ((record.drop 66).headD 0) = false then none
  else some
    { pubKey := .ofList 32 (record.take 32)
      name := .decode 32 ((record.drop 32).take 32)
      type := (record.drop 64).headD 0
      flags := (record.drop 65).headD 0
      outPathLen := (record.drop 66).headD 0
      outPath := .ofList 64 ((record.drop 67).take 64)
      lastAdvertTimestamp := read32 (record.drop 131)
      lastmod := read32 (record.drop 135)
      gpsLat := read32 (record.drop 139)
      gpsLon := read32 (record.drop 143)
      syncSince := read32 (record.drop 147) }

def readContactRecordV1 (record : List UInt8) : Option StoredContact :=
  if record.length < contactV1RecordSize then none
  else some
    { pubKey := .ofList 32 (record.take 32)
      name := .decode 32 ((record.drop 32).take 32)
      type := (record.drop 64).headD 0
      flags := ((record.drop 65).headD 0 &&& 0x03) <<< 1
      outPathLen := 0xFF
      outPath := .ofList 64 []
      lastAdvertTimestamp := 0
      lastmod := 0
      gpsLat := 0
      gpsLon := 0
      syncSince := 0 }

/-- What the write callback streams. It refuses when a contact cannot be read or has an invalid path length. -/
def writeContacts (count : Nat) (read : Nat → Option StoredContact) : Option (List UInt8) :=
  if count > maxContacts then none
  else
    match (List.range count).mapM read with
    | none => none
    | some contacts =>
      if contacts.all contactValid then
        some (contactStoreMagic ++ (contactStoreVersion :: (leBytes 4 count ++ contacts.flatMap writeContactRecord)))
      else none

def readInt (raw : List UInt8) : Int :=
  let bits := leNumber (raw.take 4)
  if bits < 2 ^ 31 then bits else (bits : Int) - 2 ^ 32

def readRecords (version : UInt8) : List (List UInt8) → List StoredContact → Option (List StoredContact)
  | [], seen => some seen
  | record :: rest, seen =>
    match (if 2 ≤ version then readContactRecord record else readContactRecordV1 record) with
    | none => none
    | some contact =>
      if contactValid contact = false ∨
          contactCandidateValid contact.name contact.pubKey contact.type = false then none
      else if seen.any (fun previous => contactCandidateDuplicates contact.pubKey previous.pubKey) then none
      else readRecords version rest (seen ++ [contact])

/-- The version, count and offset of the records; a file without the magic starts with its count. -/
def readContactHeader (data : List UInt8) : Option (UInt8 × Int × Nat) :=
  if data.take 4 = contactStoreMagic then
    if data.length < 9 then none
    else
      let version := (data.drop 4).headD 0
      if version < 1 ∨ version > contactStoreVersion then none else some (version, readInt (data.drop 5), 9)
  else some (0, readInt data, 4)

def readValidatedContacts (data : List UInt8) : Option (List StoredContact) :=
  if data.length < 4 then none
  else
    match readContactHeader data with
    | none => none
    | some (version, count, headerSize) =>
      if count ≤ 0 ∨ count > maxContacts then none
      else
        let recordSize := if 2 ≤ version then contactRecordSize else contactV1RecordSize
        if data.length ≠ headerSize + count.toNat * recordSize then none
        else readRecords version (slots recordSize count.toNat (data.drop headerSize)) []

def validateContacts (data : List UInt8) : Bool := (readValidatedContacts data).isSome

inductive ContactFault where
  | mount
  | removeTemp
  | removeLive
  | replace (fault : ReplaceFault)
  deriving DecidableEq

def ContactFault.replaceFault : ContactFault → Option ReplaceFault
  | .replace fault => some fault
  | _ => none

def removeStore (file : AtomicFile) (fault : Option ContactFault) : Bool × AtomicFile :=
  let temp := if fault = some .removeTemp then file.temp else none
  let live := if fault = some .removeLive then file.live else none
  (live.isNone && temp.isNone, ⟨live, temp⟩)

def contactStoreSave (file : AtomicFile) (count : Nat) (read : Nat → Option StoredContact)
    (fault : Option ContactFault) : Bool × AtomicFile :=
  if fault = some .mount then (false, file)
  else if count = 0 then removeStore file fault
  else atomicFileReplace file (writeContacts count read) validateContacts (fault.bind ContactFault.replaceFault)

def contactStoreSaveAll (file : AtomicFile) (contacts : List StoredContact) (fault : Option ContactFault) :
    Bool × AtomicFile := contactStoreSave file contacts.length (fun index => contacts[index]?) fault

def deliverContacts {σ : Type} (write : σ → StoredContact → Bool × σ) : List StoredContact → σ → Nat × σ
  | [], ctx => (0, ctx)
  | contact :: rest, ctx =>
    match write ctx contact with
    | (false, ctx) => (0, ctx)
    | (true, ctx) => ((deliverContacts write rest ctx).1 + 1, (deliverContacts write rest ctx).2)

def contactStoreLoad {σ : Type} (write : σ → StoredContact → Bool × σ) (file : AtomicFile) (ctx : σ) :
    Nat × σ × AtomicFile :=
  let file := (atomicFileRecover file validateContacts none).2
  match file.live.bind readValidatedContacts with
  | none => (0, ctx, file)
  | some contacts => ((deliverContacts write contacts ctx).1, (deliverContacts write contacts ctx).2, file)

section Records

variable {contact : StoredContact} {contacts seen : List StoredContact}

/-- A contact as it is read back: a name that fills its array loses its last character. -/
def StoredContact.reread (contact : StoredContact) : StoredContact := { contact with name := contact.name.truncate 31 }

theorem length_writeContactRecord (contact : StoredContact) :
    (writeContactRecord contact).length = contactRecordSize := by
  rw [writeContactRecord]
  simp only [List.length_append, List.length_cons, length_leBytes, FixedBytes.length_eq]
  rfl

theorem decode_nameBytes (name : CString 32) :
    CString.decode 32 (FixedBytes.ofList 32 name.chars).bytes = name.truncate 31 := by
  have same : (FixedBytes.ofList 32 name.chars).bytes.take 31 = name.encode.take 31 := by
    change ((name.chars ++ List.replicate 32 0).take 32).take 31 = _
    have fits := name.fits
    rw [CString.encode, List.take_take, List.take_append, List.take_append]
    simp only [List.take_take, List.take_replicate, List.length_take]
    congr 2
    omega
  rw [← CString.decode_encode]
  ext1
  change terminated ((FixedBytes.ofList 32 name.chars).bytes.take 31) = terminated (name.encode.take 31)
  rw [same]

theorem readContactRecord_written (valid : contactValid contact = true) :
    readContactRecord (writeContactRecord contact) = some contact.reread := by
  have length := length_writeContactRecord contact
  unfold writeContactRecord at length ⊢
  generalize record0 : contact.pubKey.bytes ++ _ = record at length ⊢
  have drop0 : record.drop 0 = _ ++ _ := record0.symm
  have drop32 : record.drop 32 = _ := drop_field 32 drop0 contact.pubKey.length_eq
  have drop64 : record.drop 64 = _ := drop_field 32 drop32 (FixedBytes.length_eq _)
  have drop65 : record.drop 65 = _ := drop_byte drop64
  have drop66 : record.drop 66 = _ := drop_byte drop65
  have drop67 : record.drop 67 = _ := drop_byte drop66
  have drop131 : record.drop 131 = _ := drop_field 64 drop67 contact.outPath.length_eq
  have drop135 : record.drop 135 = _ := drop_field 4 drop131 (length_leBytes _ _)
  have drop139 : record.drop 139 = _ := drop_field 4 drop135 (length_leBytes _ _)
  have drop143 : record.drop 143 = _ := drop_field 4 drop139 (length_leBytes _ _)
  have drop147 : record.drop 147 = _ := drop_field 4 drop143 (length_leBytes _ _)
  have key : record.take 32 = contact.pubKey.bytes := by
    rw [← record0]
    exact List.take_left' contact.pubKey.length_eq
  have last : read32 (leBytes 4 contact.syncSince.toNat) = contact.syncSince := by
    simpa using read32_leBytes contact.syncSince []
  rw [readContactRecord, if_neg (by rw [length]; exact lt_irrefl _), drop66, List.headD_cons,
    if_neg (by rw [show storedLengthValid contact.outPathLen = true from valid]; decide)]
  congr 1
  rw [drop32, drop64, drop65, drop67, drop131, drop135, drop139, drop143, drop147, key,
    List.take_left' (FixedBytes.length_eq _), List.take_left' contact.outPath.length_eq]
  simp only [List.headD_cons, read32_leBytes, last, FixedBytes.ofList_bytes, decode_nameBytes]
  rfl

def contactBytes (contacts : List StoredContact) : List UInt8 :=
  contactStoreMagic ++ (contactStoreVersion :: (leBytes 4 contacts.length ++ contacts.flatMap writeContactRecord))

def StoredContact.acceptable (contact : StoredContact) : Bool :=
  contactCandidateValid contact.name contact.pubKey contact.type

theorem readRecords_written (paths : ∀ contact ∈ contacts, contactValid contact = true)
    (distinct : ((seen ++ contacts).map StoredContact.pubKey).Nodup) :
    readRecords contactStoreVersion (contacts.map writeContactRecord) seen =
      if contacts.all (fun contact => contact.reread.acceptable) then some (seen ++ contacts.map StoredContact.reread)
      else none := by
  induction contacts generalizing seen with
  | nil => simp [readRecords]
  | cons contact rest ih =>
    have valid := paths contact List.mem_cons_self
    rw [List.map_cons, readRecords, if_pos (by decide), readContactRecord_written valid]
    dsimp only
    rw [show contactValid contact.reread = true from valid, List.all_cons,
      show contactCandidateValid contact.reread.name contact.reread.pubKey contact.reread.type =
        contact.reread.acceptable from rfl]
    cases contact.reread.acceptable with
    | false => rw [if_pos (Or.inr rfl), Bool.false_and, if_neg Bool.false_ne_true]
    | true =>
      have fresh : seen.any (fun previous => contactCandidateDuplicates contact.reread.pubKey previous.pubKey) =
          false := by
        rw [List.any_eq_false]
        intro previous member same
        have equal : contact.pubKey = previous.pubKey := eq_of_beq same
        rw [List.map_append, List.nodup_append] at distinct
        exact distinct.2.2 _ (List.mem_map_of_mem member) contact.pubKey (by simp) equal.symm
      have shifted : ((seen ++ [contact.reread] ++ rest).map StoredContact.pubKey).Nodup := by
        have keys : (seen ++ [contact.reread] ++ rest).map StoredContact.pubKey =
            (seen ++ contact :: rest).map StoredContact.pubKey := by simp [StoredContact.reread]
        rw [keys]
        exact distinct
      rw [if_neg (by decide), fresh, if_neg Bool.false_ne_true,
        ih (fun other member => paths other (List.mem_cons_of_mem _ member)) shifted]
      simp

theorem readInt_leBytes {count : Nat} (small : count < 2 ^ 31) (rest : List UInt8) :
    readInt (leBytes 4 count ++ rest) = count := by
  have number : leNumber (leBytes 4 count) = count := leNumber_leBytes_of_lt (small.trans (by decide))
  rw [readInt, List.take_left' (length_leBytes 4 count), number]
  exact if_pos small

theorem length_contactBytes (contacts : List StoredContact) :
    (contactBytes contacts).length = 9 + contacts.length * contactRecordSize := by
  have width := length_flatMap_of_width writeContactRecord contacts (fun contact _ => length_writeContactRecord contact)
  rw [contactBytes]
  simp only [List.length_append, List.length_cons, length_leBytes, width, contactStoreMagic, List.length_nil]
  rw [Nat.mul_comm]
  omega

theorem readContactHeader_written (small : contacts.length < 2 ^ 31) :
    readContactHeader (contactBytes contacts) = some (contactStoreVersion, (contacts.length : Int), 9) := by
  have long : ¬ (contactBytes contacts).length < 9 := by
    rw [length_contactBytes]
    omega
  have magic : (contactBytes contacts).take 4 = contactStoreMagic := rfl
  have version : ((contactBytes contacts).drop 4).headD 0 = contactStoreVersion := rfl
  have count : (contactBytes contacts).drop 5 = leBytes 4 contacts.length ++ contacts.flatMap writeContactRecord := rfl
  rw [readContactHeader, if_pos magic, if_neg long, version, count, readInt_leBytes small]
  exact if_neg (by decide)

theorem readValidatedContacts_written (filled : contacts ≠ []) (room : contacts.length ≤ maxContacts)
    (paths : ∀ contact ∈ contacts, contactValid contact = true)
    (distinct : (contacts.map StoredContact.pubKey).Nodup) :
    readValidatedContacts (contactBytes contacts) =
      if contacts.all (fun contact => contact.reread.acceptable) then some (contacts.map StoredContact.reread)
      else none := by
  have positive : 0 < contacts.length := List.length_pos_iff.mpr filled
  have small : contacts.length < 2 ^ 31 := room.trans_lt (by decide)
  have total := length_contactBytes contacts
  have body : (contactBytes contacts).drop 9 = contacts.flatMap writeContactRecord := by
    change (leBytes 4 contacts.length ++ contacts.flatMap writeContactRecord).drop 4 = _
    exact List.drop_left' (length_leBytes 4 _)
  have cut : slots contactRecordSize contacts.length (contacts.flatMap writeContactRecord) =
      contacts.map writeContactRecord := by
    have cut := slots_flatMap writeContactRecord contacts [] (fun contact _ => length_writeContactRecord contact)
    rwa [List.append_nil] at cut
  have counted : ¬ ((contacts.length : Int) ≤ 0 ∨ (contacts.length : Int) > maxContacts) := by omega
  rw [readValidatedContacts, if_neg (by rw [total]; omega), readContactHeader_written small]
  dsimp only
  rw [if_neg counted, show (if 2 ≤ contactStoreVersion then contactRecordSize else contactV1RecordSize) =
    contactRecordSize from rfl, Int.toNat_natCast, if_neg (by rw [total]; simp), body, cut,
    readRecords_written paths (by simpa using distinct)]
  simp

theorem validateContacts_written (filled : contacts ≠ []) (room : contacts.length ≤ maxContacts)
    (paths : ∀ contact ∈ contacts, contactValid contact = true)
    (distinct : (contacts.map StoredContact.pubKey).Nodup) :
    validateContacts (contactBytes contacts) = contacts.all (fun contact => contact.reread.acceptable) := by
  rw [validateContacts, readValidatedContacts_written filled room paths distinct]
  cases contacts.all (fun contact => contact.reread.acceptable) with
  | false => rfl
  | true => rfl

end Records

section Admission

def autoAddEnabled (manualAddContacts : UInt8) : Bool := manualAddContacts &&& 0x01 == 0

def autoAddTypeBit (contactType : UInt8) : Option UInt8 :=
  if contactType = 1 then some 0x02
  else if contactType = 2 then some 0x04
  else if contactType = 3 then some 0x08
  else if contactType = 4 then some 0x10
  else none

def typeAllowed (manualAddContacts config contactType : UInt8) : Bool :=
  if autoAddEnabled manualAddContacts then true
  else
    match autoAddTypeBit contactType with
    | none => false
    | some typeBit => config &&& typeBit != 0

/-- A contact that an advert brings in under some preferences, or that a companion adds. -/
inductive Admitted (contact : StoredContact) : Prop where
  | advert (manualAddContacts config : UInt8) (allowed : typeAllowed manualAddContacts config contact.type = true)
  | companion (valid : contactCandidateValid contact.name contact.pubKey contact.type = true)
      (flags : contact.flags &&& 0xF8 = 0)

structure ContactTable where
  contacts : List StoredContact
  room : contacts.length ≤ maxContacts
  distinct : (contacts.map StoredContact.pubKey).Nodup
  paths : ∀ contact ∈ contacts, contactValid contact = true
  admitted : ∀ contact ∈ contacts, Admitted contact

end Admission

section SaveAndLoad

variable {contacts : List StoredContact}

def collect (seen : List StoredContact) (contact : StoredContact) : Bool × List StoredContact :=
  (true, seen ++ [contact])

theorem deliverContacts_collect (contacts seen : List StoredContact) :
    deliverContacts collect contacts seen = (contacts.length, seen ++ contacts) := by
  induction contacts generalizing seen with
  | nil => simp [deliverContacts]
  | cons contact rest ih =>
    rw [deliverContacts]
    dsimp only [collect]
    rw [ih]
    simp

/-- The contacts that a boot finds in the file. -/
def loadedContacts (file : AtomicFile) : List StoredContact := (contactStoreLoad collect file []).2.1

theorem loadedContacts_of_live {data : List UInt8} : loadedContacts ⟨some data, none⟩ =
    (readValidatedContacts data).getD [] := by
  unfold loadedContacts contactStoreLoad
  rw [atomicFileRecover_without_temp _ _ rfl]
  dsimp only [Option.bind_some]
  cases readValidatedContacts data with
  | none => rfl
  | some contacts =>
    dsimp only
    rw [deliverContacts_collect]
    rfl

theorem reread_of_acceptable {contact : StoredContact} (accepted : contact.acceptable = true) :
    contact.reread = contact := by
  unfold StoredContact.acceptable contactCandidateValid at accepted
  simp only [Bool.and_eq_true, Bool.not_eq_true', Bool.or_eq_false_iff, beq_eq_false_iff_ne] at accepted
  have short : contact.name.chars.length ≤ 31 := by
    have fits := contact.name.fits
    have apart := accepted.1.1.1.2
    omega
  rw [StoredContact.reread, CString.truncate_of_le short]

theorem mapM_range_getElem? (contacts : List StoredContact) {count : Nat} (inside : count ≤ contacts.length) :
    (List.range count).mapM (fun index => contacts[index]?) = some (contacts.take count) := by
  induction count with
  | zero => rfl
  | succ count ih =>
    have bound : count < contacts.length := inside
    rw [List.range_succ, List.mapM_append, ih (Nat.le_of_succ_le inside), List.mapM_cons, List.mapM_nil,
      List.getElem?_eq_getElem bound, List.take_succ_eq_append_getElem bound]
    rfl

theorem writeContacts_all (room : contacts.length ≤ maxContacts)
    (paths : ∀ contact ∈ contacts, contactValid contact = true) :
    writeContacts contacts.length (fun index => contacts[index]?) = some (contactBytes contacts) := by
  rw [writeContacts, if_neg (by omega), mapM_range_getElem? contacts le_rfl, List.take_length]
  dsimp only
  rw [if_pos (List.all_eq_true.mpr paths)]
  rfl

/-- A table is saved and read back unless one of its contacts would not be accepted. -/
theorem contact_table_saved_iff (table : ContactTable) (file : AtomicFile) :
    ((contactStoreSaveAll file table.contacts none).1 = true ∧
        loadedContacts (contactStoreSaveAll file table.contacts none).2 = table.contacts) ↔
      ∀ contact ∈ table.contacts, contactCandidateValid contact.name contact.pubKey contact.type = true := by
  obtain ⟨contacts, room, distinct, paths, -⟩ := table
  dsimp only
  by_cases empty : contacts = []
  · subst empty
    constructor
    · intro _ contact member
      cases member
    · intro _
      exact ⟨rfl, rfl⟩
  · have written := readValidatedContacts_written empty room paths distinct
    have kept (accepted : ∀ contact ∈ contacts, contact.reread = contact) :
        contacts.map StoredContact.reread = contacts := by
      calc contacts.map StoredContact.reread = contacts.map id := List.map_congr_left accepted
        _ = contacts := List.map_id _
    have valid := validateContacts_written empty room paths distinct
    rw [contactStoreSaveAll, contactStoreSave, if_neg (by decide), if_neg (by simpa using empty),
      writeContacts_all room paths, Option.bind_none]
    cases all : contacts.all (fun contact => contact.reread.acceptable) with
    | false =>
      rw [all] at valid
      rw [atomicFileReplace_invalid valid]
      refine ⟨fun done => absurd done.1 Bool.false_ne_true, fun accepted => ?_⟩
      rw [List.all_eq_false] at all
      obtain ⟨contact, member, rejected⟩ := all
      rw [reread_of_acceptable (accepted contact member)] at rejected
      exact absurd (accepted contact member) rejected
    | true =>
      rw [all] at valid
      rw [all, if_pos rfl] at written
      rw [atomicFileReplace_success valid, loadedContacts_of_live, written, Option.getD_some]
      rw [List.all_eq_true] at all
      constructor
      · rintro ⟨-, same⟩ contact member
        rw [← same] at member
        obtain ⟨original, listed, rfl⟩ := List.mem_map.mp member
        exact all original listed
      · intro accepted
        exact ⟨rfl, kept fun contact member => reread_of_acceptable (accepted contact member)⟩

def sampleContact (key : UInt8) (name : List UInt8) (fits : name.length ≤ 32) (nonzero : ∀ byte ∈ name, byte ≠ 0) :
    StoredContact where
  pubKey := .ofList 32 [key]
  name := ⟨name, fits, nonzero⟩
  type := 1
  flags := 0
  outPathLen := 0xFF
  outPath := .ofList 64 []
  lastAdvertTimestamp := 0
  lastmod := 0
  gpsLat := 0
  gpsLon := 0
  syncSince := 0

theorem ann_fits : ([65, 110, 110] : List UInt8).length ≤ 32 := by decide

theorem ann_nonzero : ∀ byte ∈ ([65, 110, 110] : List UInt8), byte ≠ 0 := by decide

/-- A contact that was added by hand, and one whose advert carries a bell character in its name. -/
def belledTable : ContactTable where
  contacts := [sampleContact 1 [65, 110, 110] ann_fits ann_nonzero,
    sampleContact 2 [66, 111, 7] (by decide) (by decide)]
  room := by decide
  distinct := by decide +kernel
  paths := by decide
  admitted := by
    intro contact member
    rcases List.mem_pair.mp member with rfl | rfl
    · exact .companion (by decide) (by decide)
    · exact .advert 0 0 (by decide)

theorem belledTable_not_saved :
    ¬ ∀ (table : ContactTable) (file : AtomicFile), (contactStoreSaveAll file table.contacts none).1 = true ∧
      loadedContacts (contactStoreSaveAll file table.contacts none).2 = table.contacts := by
  intro saves
  have refused : (contactStoreSaveAll ⟨none, none⟩ belledTable.contacts none).1 = false := by decide +kernel
  rw [(saves belledTable ⟨none, none⟩).1] at refused
  cases refused

end SaveAndLoad

end SigurdOS.Mesh
