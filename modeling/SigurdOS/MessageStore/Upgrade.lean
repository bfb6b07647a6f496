import SigurdOS.MessageStore.Migration

namespace SigurdOS.MessageStore

open Bytes SigurdOS.Hal

/-- A complete store file of version 4 or 5 whose records can all be kept: the extra bytes are in
    range and, in version 5, the IDs are usable. A torn tail is allowed. -/
structure UpgradableFile (s : Store) (bytes : List UInt8) : Prop extends OlderFile s bytes where
  headed : olderHeaderSize (parseHeader bytes).version ≤ bytes.length
  within : (olderRecords bytes).length ≤ backendMaxRecords s
  extras : ∀ record ∈ olderRecords bytes, (record.drop 243).headD 0 ≤ 8
  usable : (parseHeader bytes).version = 5 → ∀ record ∈ olderRecords bytes, read32 record ≠ 0
  unique : (parseHeader bytes).version = 5 → ((olderRecords bytes).map read32).Nodup

/-- A record of the older layout, field by field, as the current version holds it. -/
structure Upgraded (record : List UInt8) (storeId : UInt32) (msg : StoredMessage) : Prop where
  storeId : msg.storeId = storeId
  conversation : msg.conversation = CString.decode conversationLen ((record.drop 4).take conversationLen)
  sender : msg.sender = CString.decode senderLen ((record.drop 36).take senderLen)
  text : msg.text = truncatedText (CString.decode textLen ((record.drop 68).take textLen)).chars
  timestamp : msg.timestamp = if read32 (record.drop 228) = 0 then 1 else read32 (record.drop 228)
  senderPrefix : msg.senderPrefix = FixedBytes.ofList prefixLen ((record.drop 232).take prefixLen)
  rssi : msg.rssi = (UInt16.ofNat (leNumber ((record.drop 238).take 2))).toInt16
  snrQuarters : msg.snrQuarters = ((record.drop 240).headD 0).toInt8
  pathLen : msg.pathLen = (record.drop 241).headD 0
  txtType : msg.txtType = (record.drop 242).headD 0
  extraLen : msg.extraLen = (record.drop 243).headD 0
  extra : msg.extra = FixedBytes.ofList extraSize ((record.drop 244).take extraSize)
  isSelf : msg.isSelf = ((record.drop 252).headD 0 &&& 0x01 != 0)
  isChannel : msg.isChannel = ((record.drop 252).headD 0 &&& 0x02 != 0)
  acked : msg.acked = ((record.drop 252).headD 0 &&& 0x04 != 0)
  companionSent : msg.companionSent = ((record.drop 252).headD 0 &&& 0x08 != 0)
  confirmationLost : msg.confirmationLost = ((record.drop 252).headD 0 &&& 0x10 != 0)
  attempt : msg.attempt = 0 ∧ msg.attemptKnown = false
  -- Explicit flags are preserved; without them an encoded path tells a flood.
  routeKnown : msg.routeKnown = ((record.drop 252).headD 0 &&& 0x40 != 0 || (record.drop 241).headD 0 != 0xFF)
  routeFlood : msg.routeFlood = ((record.drop 252).headD 0 &&& 0x20 != 0 ||
    ((record.drop 252).headD 0 &&& 0x40 == 0 && (record.drop 241).headD 0 != 0xFF))

section Record

variable {record : List UInt8} {old : StoredMessage}

theorem truncate_decode (capacity : Nat) (raw : List UInt8) :
    (CString.decode capacity raw).truncate (capacity - 1) = CString.decode capacity raw :=
  CString.truncate_of_le ((length_terminated_le _).trans (List.length_take_le _ _))

def olderMessage (record : List UInt8) : StoredMessage :=
  { applyFlags
      { recordBase record with
        extraLen := (record.drop 243).headD 0
        extra := FixedBytes.ofList extraSize ((record.drop 244).take extraSize) }
      ((record.drop 252).headD 0) with
    attemptKnown := false
    routeKnown := (record.drop 252).headD 0 &&& 0x40 != 0 || (record.drop 241).headD 0 != 0xFF
    routeFlood := (record.drop 252).headD 0 &&& 0x20 != 0 ||
      ((record.drop 252).headD 0 &&& 0x40 == 0 && (record.drop 241).headD 0 != 0xFF) }

theorem readVersion5RecordRaw_eq (long : record.length = v5RecordSize) (short : (record.drop 243).headD 0 ≤ 8) :
    readVersion5RecordRaw record = some (olderMessage record) := by
  unfold readVersion5RecordRaw olderMessage applyFlags
  rw [if_neg (by omega)]
  dsimp only
  rw [if_neg (UInt8.not_lt.mpr short)]
  generalize (record.drop 252).headD 0 = flags
  have path : (recordBase record).pathLen = (record.drop 241).headD 0 := rfl
  rw [path]
  cases known : flags &&& 0x40 != 0 with
  | true =>
    have unset : (flags &&& 0x40 == 0) = false := by rw [bne, Bool.not_eq_true'] at known; exact known
    simp [unset]
  | false =>
    have set : (flags &&& 0x40 == 0) = true := by rw [bne, Bool.not_eq_false'] at known; exact known
    cases (record.drop 241).headD 0 != 0xFF <;> simp [set]

theorem upgraded_olderMessage (short : (record.drop 243).headD 0 ≤ 8) (storeId : UInt32) :
    Upgraded record storeId (storedMessageNormalize ((olderMessage record).withId storeId)) where
  storeId := rfl
  conversation := truncate_decode _ _
  sender := truncate_decode _ _
  text := rfl
  timestamp := rfl
  senderPrefix := rfl
  rssi := rfl
  snrQuarters := rfl
  pathLen := rfl
  txtType := rfl
  extraLen := if_neg (UInt8.not_lt.mpr short)
  extra := rfl
  isSelf := rfl
  isChannel := rfl
  acked := rfl
  companionSent := rfl
  confirmationLost := rfl
  attempt := ⟨rfl, rfl⟩
  routeKnown := rfl
  routeFlood := rfl

end Record

section Upgrade

variable {s : Store} {bytes : List UInt8}

theorem mapM_of_forall {α β : Type} {f : α → Option β} {g : α → β} {values : List α}
    (decodes : ∀ value ∈ values, f value = some (g value)) : values.mapM f = some (values.map g) := by
  induction values with
  | nil => rfl
  | cons value rest ih =>
    rw [List.mapM_cons, decodes value (by simp), ih (fun other member => decodes other (List.mem_cons_of_mem _ member))]
    rfl

/-- The ID a record of the older layout goes on under. -/
def upgradedId (version : UInt8) (position : Nat) (record : List UInt8) : UInt32 :=
  if version = 4 then UInt32.ofNat (position + 1) else read32 record

theorem getElem?_olderMessages (version : UInt8) {records : List (List UInt8)} {i : Nat} {record : List UInt8}
    (here : records[i]? = some record) : (olderMessages version (records.map olderMessage))[i]? =
      some ((olderMessage record).withId (upgradedId version i record)) := by
  unfold olderMessages upgradedId
  split
  · rw [renumber, List.getElem?_mapIdx, List.getElem?_map, here]
    rfl
  · rw [List.getElem?_map, here]
    rfl

theorem UpgradableFile.migratable (file : UpgradableFile s bytes) :
    Migratable bytes ((olderRecords bytes).map olderMessage) := by
  have headed := file.headed
  have inside := Nat.mul_div_le (bytes.length - olderHeaderSize (parseHeader bytes).version) v5RecordSize
  have width : ∀ record ∈ olderRecords bytes, record.length = v5RecordSize :=
    slots_length_of_mem (by rw [List.length_drop]; exact inside)
  refine ⟨mapM_of_forall (fun record member => readVersion5RecordRaw_eq (width record member)
    (file.extras record member)), fun five => ?_⟩
  have ids : ((olderRecords bytes).map olderMessage).map (·.storeId) = (olderRecords bytes).map read32 := by
    rw [List.map_map]
    rfl
  rw [ids, idsUnique_iff]
  refine ⟨?_, file.unique five⟩
  intro id member
  obtain ⟨record, inside, rfl⟩ := List.mem_map.mp member
  exact file.usable five record inside

theorem messageStoreBegin_again {after again : Store} {log : Log} (rests : Rests after log)
    (derived : log.nextId = deriveNextId log.messages) (files : again.files = after.files)
    (backend : again.backend = after.backend) (working : again.faults = []) :
    ∃ final, messageStoreBegin again = (true, final) ∧ final.live = after.live := by
  have live : (again.report .clean).live = after.live := congrArg (fun files => files.file.live) files
  have settled : again.files.file.temp = none := files ▸ rests.settled
  have limit : backendMaxRecords (again.report .clean) = backendMaxRecords after := by
    rw [backendMaxRecords, backendMaxRecords, ← backend]
    rfl
  have recovery := backendRecoveryMaxRecords_eq (again.report .clean)
  have bound := rests.bound
  have holds : Holds (again.report .clean) log := ⟨live.trans rests.holds.live, by omega⟩
  have quiet : Quiet (again.report .clean) := ⟨working, settled⟩
  obtain ⟨final, kept, done, served, messages, next, -⟩ := beginMigrate_holds quiet holds
  refine ⟨final, ?_, ?_⟩
  · rw [messageStoreBegin_settled working settled, done]
  · have same : kept = log := Log.ext (messages.trans (recordsAfter_within (by omega))) (next.trans derived.symm)
    rw [served.holds.live, rests.holds.live, same]

theorem beginMigrate_migrated {messages : List StoredMessage} {identified : Identified messages (deriveNextId messages)}
    (quiet : Quiet s) (within : messages.length ≤ backendMaxRecords s) (migrated : migrateOlderStore s =
      (.migrated, s.setFile ⟨some (Log.ofMessages identified).encode, none⟩)) :
    ∃ after final, beginMigrate s = (true, after) ∧ Rests after final ∧
      final.messages = messages.map storedMessageNormalize ∧ final.nextId = deriveNextId final.messages := by
  have recovery := backendRecoveryMaxRecords_eq s
  have short : (messages.map storedMessageNormalize).length ≤ backendMaxRecords s := by
    rw [List.length_map]
    exact within
  have holds : Holds ((s.setFile ⟨some (Log.ofMessages identified).encode, none⟩).report .migrated)
      (Log.ofMessages identified) := ⟨rfl, show _ ≤ backendRecoveryMaxRecords s from short.trans (by omega)⟩
  have quietAfter : Quiet ((s.setFile ⟨some (Log.ofMessages identified).encode, none⟩).report .migrated) :=
    ⟨quiet.working, rfl⟩
  obtain ⟨after, final, done, rests, kept, next, -⟩ := beginMigrate_holds quietAfter holds
  have same : final.messages = messages.map storedMessageNormalize := kept.trans (recordsAfter_within short)
  refine ⟨after, final, ?_, rests, same, ?_⟩
  · rw [← beginRepair_holds holds] at done
    rw [beginMigrate, migrated]
    exact done
  · rw [same]
    exact next

/-- An older file becomes a current one with the same records in the same order. -/
theorem messageStoreBegin_upgrades (quiet : Quiet s) (file : UpgradableFile s bytes) :
    ∃ after nextId, messageStoreBegin s = (true, after) ∧ Booted after after.records ∧
      readHeader after = some (after.records.length, nextId) ∧ nextId ∉ after.records.map (·.storeId) ∧
      after.records.length = (olderRecords bytes).length ∧
      (∀ i record, (olderRecords bytes)[i]? = some record → ∃ msg, after.records[i]? = some msg ∧
        Upgraded record (upgradedId (parseHeader bytes).version i record) msg) ∧
      ∀ again, again.files = after.files → again.backend = after.backend → again.faults = [] →
        ∃ final, messageStoreBegin again = (true, final) ∧ final.live = after.live := by
  have clean : Quiet (s.report .clean) := ⟨quiet.working, quiet.settled⟩
  have found : OlderFile (s.report .clean) bytes := ⟨file.live, file.long, file.magic, file.version⟩
  have within : (olderRecords bytes).length ≤ backendMaxRecords (s.report .clean) := file.within
  have limit := backendMaxRecords_lt (s.report .clean)
  have recovery := backendRecoveryMaxRecords_eq (s.report .clean)
  have migratable := file.migratable
  rcases migrateOlderStore_older clean found (by omega) with
    ⟨messages, decoded, -, -, identified, migrated⟩ | ⟨-, unusable⟩
  · obtain rfl : messages = (olderRecords bytes).map olderMessage :=
      Option.some.inj (decoded.1.symm.trans migratable.1)
    obtain ⟨after, final, done, rests, kept, next⟩ := beginMigrate_migrated clean (by
      rw [length_olderMessages, List.length_map]
      exact within) migrated
    have records : after.records = final.messages := rests.holds.reads.records_eq
    refine ⟨after, final.nextId, ?_, ?_, ?_, ?_, ?_, ?_, ?_⟩
    · rw [messageStoreBegin_settled quiet.working quiet.settled, done]
    · exact records ▸ rests.booted
    · rw [records]
      exact rests.holds.readHeader
    · rw [records]
      exact final.nextFresh
    · rw [records, kept, List.length_map, length_olderMessages, List.length_map]
    · intro i record here
      have short := file.extras record (List.mem_of_getElem? here)
      refine ⟨_, ?_, upgraded_olderMessage short _⟩
      rw [records, kept, List.getElem?_map, getElem?_olderMessages _ here]
      rfl
    · intro again files backend working
      exact messageStoreBegin_again rests next files backend working
  · exact absurd ⟨file.headed, by omega, _, migratable⟩ unusable

def version5File : List UInt8 :=
  leBytes 4 messageStoreMagic.toNat ++ (5 :: (leBytes 4 1 ++ (leBytes 4 2 ++ (1 :: List.replicate 252 0))))

theorem upgrades_version5File :
    ∃ after nextId, messageStoreBegin (.holding none version5File) = (true, after) ∧ Booted after after.records ∧
      readHeader after = some (after.records.length, nextId) ∧ nextId ∉ after.records.map (·.storeId) ∧
      after.records.length = (olderRecords version5File).length ∧
      (∀ i record, (olderRecords version5File)[i]? = some record → ∃ msg, after.records[i]? = some msg ∧
        Upgraded record (upgradedId (parseHeader version5File).version i record) msg) ∧
      ∀ again, again.files = after.files → again.backend = after.backend → again.faults = [] →
        ∃ final, messageStoreBegin again = (true, final) ∧ final.live = after.live := by
  apply messageStoreBegin_upgrades ⟨rfl, rfl⟩
  exact {
    live := rfl
    long := by decide +kernel
    magic := by decide
    version := by decide
    headed := by decide +kernel
    within := by decide +kernel
    extras := by decide +kernel
    usable := by decide +kernel
    unique := by decide +kernel }

end Upgrade

end SigurdOS.MessageStore
