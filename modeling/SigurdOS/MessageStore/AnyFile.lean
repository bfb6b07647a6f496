import SigurdOS.MessageStore.Service

namespace SigurdOS.MessageStore

open Bytes SigurdOS.Hal

/-- The medium works and no replacement is pending. -/
structure Quiet (s : Store) : Prop where
  working : s.faults = []
  settled : s.files.file.temp = none

/-- Decoded records that can be rewritten: their IDs are usable, whatever their other fields are. -/
structure Identified (messages : List StoredMessage) (nextId : UInt32) : Prop where
  nonzero : ∀ msg ∈ messages, msg.storeId ≠ 0
  unique : (messages.map (·.storeId)).Nodup
  nextNonzero : nextId ≠ 0
  nextFresh : nextId ∉ messages.map (·.storeId)

section Rewrite

variable {s : Store} {messages : List StoredMessage} {nextId : UInt32}

theorem writeRecordRaw_normalize (msg : StoredMessage) :
    writeRecordRaw (storedMessageNormalize msg) = writeRecordRaw msg := by
  rw [writeRecordRaw, storedMessageNormalize_idempotent, writeRecordRaw]

theorem encodeStore_normalize (messages : List StoredMessage) (nextId : UInt32) :
    encodeStore (messages.map storedMessageNormalize) nextId = encodeStore messages nextId := by
  have records : (messages.map storedMessageNormalize).flatMap writeRecordRaw = messages.flatMap writeRecordRaw := by
    rw [List.flatMap_map]
    simp only [writeRecordRaw_normalize]
  rw [encodeStore, encodeStore, records, List.length_map]

theorem replaceFile_normalize (s : Store) (messages : List StoredMessage) (nextId : UInt32) :
    replaceFile s (messages.map storedMessageNormalize) nextId = replaceFile s messages nextId := by
  unfold replaceFile
  rw [encodeStore_normalize, List.length_map]

def Log.ofMessages (identified : Identified messages nextId) : Log where
  messages := messages.map storedMessageNormalize
  nextId := nextId
  normal := by
    intro msg member
    obtain ⟨original, _, rfl⟩ := List.mem_map.mp member
    exact storedMessageNormalize_idempotent original
  nonzero := by
    intro msg member
    obtain ⟨original, inside, rfl⟩ := List.mem_map.mp member
    exact identified.nonzero original inside
  unique := by
    rw [List.map_map]
    exact identified.unique
  nextNonzero := identified.nextNonzero
  nextFresh := by
    rw [List.map_map]
    exact identified.nextFresh

theorem replaceFile_quiet (quiet : Quiet s) (identified : Identified messages nextId)
    (fits : messages.length ≤ backendRecoveryMaxRecords s) :
    replaceFile s messages nextId = (true, s.setFile ⟨some (Log.ofMessages identified).encode, none⟩) := by
  have short : (Log.ofMessages identified).messages.length ≤ backendRecoveryMaxRecords s := by
    rw [Log.ofMessages, List.length_map]
    exact fits
  obtain ⟨temp, cleared, done⟩ := replaceFile_works (Log.ofMessages identified) quiet.working short
  rw [cleared.settled quiet.settled] at done
  rw [← replaceFile_normalize]
  exact done

def Store.quarantined (s : Store) : Store :=
  ({ s with files := ⟨⟨some Log.empty.encode, none⟩, s.live⟩ }.requireRecovery false).withoutIndex

theorem quarantineStoreAndReset_quiet (quiet : Quiet s) :
    quarantineStoreAndReset s = (.quarantined, s.quarantined) := by
  have aside : Quiet { s with files := ⟨{ s.files.file with live := none }, s.live⟩ } := ⟨quiet.working, quiet.settled⟩
  have fits : Log.empty.messages.length ≤ backendRecoveryMaxRecords s := Nat.zero_le _
  obtain ⟨temp, cleared, done⟩ := replaceFile_works
    (s := { s with files := ⟨{ s.files.file with live := none }, s.live⟩ }) Log.empty aside.working fits
  rw [cleared.settled aside.settled] at done
  unfold quarantineStoreAndReset
  rw [nextFault_of_working quiet.working, afterCall_of_working quiet.working]
  dsimp only
  rw [atomicReplaceStore_of_nextId _ [] (by decide)]
  have reset : replaceFile { s with files := ⟨{ s.files.file with live := none }, s.live⟩ } [] 1 = _ := done
  rw [reset]
  rfl

end Rewrite

section Prefix

theorem recoverablePrefix_initial (seen : List UInt32) (records : List (List UInt8)) :
    recoverablePrefix seen records <+: records.filterMap readRecordRaw := by
  induction records generalizing seen with
  | nil => exact List.prefix_refl _
  | cons record rest ih =>
    unfold recoverablePrefix
    cases read : readRecordRaw record with
    | none => exact List.nil_prefix
    | some msg =>
      rw [List.filterMap_cons_some read]
      dsimp only
      split
      · exact List.nil_prefix
      · exact (List.prefix_cons_inj msg).mpr (ih _)

theorem recoverablePrefix_ids (seen : List UInt32) (records : List (List UInt8)) :
    (∀ msg ∈ recoverablePrefix seen records, msg.storeId ≠ 0 ∧ msg.storeId ∉ seen) ∧
      ((recoverablePrefix seen records).map (·.storeId)).Nodup := by
  induction records generalizing seen with
  | nil => exact ⟨by simp [recoverablePrefix], .nil⟩
  | cons record rest ih =>
    unfold recoverablePrefix
    split
    · exact ⟨by simp, .nil⟩
    · rename_i msg _
      split
      · exact ⟨by simp, .nil⟩
      · rename_i usable
        obtain ⟨fresh, unique⟩ := ih (msg.storeId :: seen)
        refine ⟨?_, ?_⟩
        · intro other member
          rcases List.mem_cons.mp member with rfl | later
          · exact not_or.mp usable
          · exact ⟨(fresh other later).1, fun old => (fresh other later).2 (List.mem_cons_of_mem _ old)⟩
        · rw [List.map_cons, List.nodup_cons]
          refine ⟨?_, unique⟩
          intro again
          obtain ⟨other, later, same⟩ := List.mem_map.mp again
          exact (fresh other later).2 (same ▸ List.mem_cons_self)

theorem length_recoverablePrefix_le (seen : List UInt32) (records : List (List UInt8)) :
    (recoverablePrefix seen records).length ≤ records.length :=
  (recoverablePrefix_initial seen records).length_le.trans (List.length_filterMap_le _ _)

theorem mapM_of_complete {seen : List UInt32} {records : List (List UInt8)}
    (complete : (recoverablePrefix seen records).length = records.length) :
    records.mapM readRecordRaw = some (recoverablePrefix seen records) := by
  induction records generalizing seen with
  | nil => rfl
  | cons record rest ih =>
    unfold recoverablePrefix at complete ⊢
    cases read : readRecordRaw record with
    | none => simp [read] at complete
    | some msg =>
      simp only [read] at complete ⊢
      split at complete
      · simp at complete
      · rename_i usable
        rw [List.length_cons, List.length_cons] at complete
        rw [if_neg usable, List.mapM_cons, read, ih (Nat.succ.inj complete)]
        rfl

theorem identified_recoverablePrefix (records : List (List UInt8))
    (short : (recoverablePrefix [] records).length + 1 < 2 ^ 32) :
    Identified (recoverablePrefix [] records) (deriveNextId (recoverablePrefix [] records)) where
  nonzero := fun msg member => ((recoverablePrefix_ids [] records).1 msg member).1
  unique := (recoverablePrefix_ids [] records).2
  nextNonzero := (deriveNextId_fresh short).1
  nextFresh := (deriveNextId_fresh short).2

end Prefix

section Repair

variable {s : Store} {bytes : List UInt8}

def rawRecords (bytes : List UInt8) : List (List UInt8) :=
  slots recordSize ((bytes.length - headerSize) / recordSize) (bytes.drop headerSize)

theorem repairRecords_quiet (quiet : Quiet s) (header : Header) (tornTail : Bool) (complete : Nat)
    {recovered : List StoredMessage} (identified : Identified recovered (deriveNextId recovered))
    (fits : recovered.length ≤ backendRecoveryMaxRecords s) :
    (repairRecords s header tornTail complete recovered = (.clean, s) ∧ header.count = complete ∧
      recovered.length = complete ∧ tornTail = false ∧ header.nextId = deriveNextId recovered) ∨
    (repairRecords s header tornTail complete recovered = (.quarantined, s.quarantined) ∧ recovered = [] ∧
      (0 < complete ∨ ¬ (header.count ≤ backendRecoveryMaxRecords s ∧ header.nextId ≠ 0))) ∨
    ∃ result, (result = .repaired ∨ result = .salvaged) ∧ repairRecords s header tornTail complete recovered =
        (result, s.setFile ⟨some (Log.ofMessages identified).encode, none⟩) ∧
      (recovered = [] → complete = 0 ∧ header.count ≤ backendRecoveryMaxRecords s ∧ header.nextId ≠ 0) := by
  unfold repairRecords
  split
  · rename_i none
    exact Or.inr (Or.inl ⟨quarantineStoreAndReset_quiet quiet, none.2, Or.inl none.1⟩)
  · rename_i some
    dsimp only
    split
    · rename_i exactStore
      simp only [Bool.and_eq_true, Bool.not_eq_true', beq_iff_eq] at exactStore
      obtain ⟨⟨⟨⟨_, whole⟩, counted⟩, all⟩, next⟩ := exactStore
      exact Or.inl ⟨rfl, counted, all, whole, next⟩
    · split
      · rename_i reset
        refine Or.inr (Or.inl ⟨quarantineStoreAndReset_quiet quiet, reset.1, Or.inr ?_⟩)
        simpa using reset.2
      · rename_i rewrites
        rw [if_neg identified.nextNonzero, atomicReplaceStore_of_nextId s _ identified.nextNonzero,
          replaceFile_quiet quiet identified fits]
        refine Or.inr (Or.inr ⟨_, ?_, rfl, ?_⟩)
        · split
          · exact Or.inr rfl
          · exact Or.inl rfl
        · intro empty
          have zero : complete = 0 := by
            by_contra positive
            exact some ⟨Nat.pos_of_ne_zero positive, empty⟩
          have valid : ¬ (decide (header.count ≤ backendRecoveryMaxRecords s) && header.nextId != 0) = false :=
            fun invalid => rewrites ⟨empty, invalid⟩
          simpa [zero] using valid

theorem length_rawRecords (bytes : List UInt8) : (rawRecords bytes).length = (bytes.length - headerSize) / recordSize :=
  length_slots _ _ _

theorem readPayload_raw (live : s.live = some bytes) :
    readPayload s ((bytes.length - headerSize) / recordSize) headerSize recordSize = some (rawRecords bytes) := by
  have inside := Nat.mul_div_le (bytes.length - headerSize) recordSize
  unfold readPayload
  rw [live, Option.getD_some]
  by_cases none : (bytes.length - headerSize) / recordSize = 0
  · rw [if_pos none, rawRecords, none]
    rfl
  · have positive : 0 < recordSize * ((bytes.length - headerSize) / recordSize) :=
      Nat.mul_pos (by decide) (Nat.pos_of_ne_zero none)
    rw [if_neg none, if_pos (by omega), rawRecords]

theorem repairInterruptedAppend_current (live : s.live = some bytes) (long : headerSize ≤ bytes.length)
    (magic : (parseHeader bytes).magic = messageStoreMagic)
    (version : (parseHeader bytes).version = messageStoreVersion)
    (fits : (bytes.length - headerSize) / recordSize ≤ backendRecoveryMaxRecords s) :
    repairInterruptedAppend s = repairRecords s (parseHeader bytes) ((bytes.length - headerSize) % recordSize != 0)
      ((bytes.length - headerSize) / recordSize) (recoverablePrefix [] (rawRecords bytes)) := by
  have limit := backendRecoveryMaxRecords_lt s
  unfold repairInterruptedAppend
  rw [live]
  dsimp only
  rw [if_neg (by simp [magic, long]), if_neg (by simp [version]), Nat.mod_eq_of_lt (by omega), if_neg (by omega),
    readRecoverablePrefix, readPayload_raw live]
  rfl

end Repair

section Finish

variable {s : Store} {messages : List StoredMessage} {nextId : UInt32}

/-- What a boot leaves in the file, in the index and before the readers. -/
structure Booted (after : Store) (survivors : List StoredMessage) : Prop where
  valid : ∃ file, after.live = some file ∧ validateStore (backendRecoveryMaxRecords after) file = true
  records : after.records = survivors
  bound : messageStoreCount after = survivors.length ∧ survivors.length ≤ backendMaxRecords after
  index : after.identityIndexValid = true ∧ after.identityIndex = survivors.map indexEntry

theorem Rests.booted {log : Log} (rests : Rests s log) : Booted s log.messages where
  valid := by
    have limit := backendRecoveryMaxRecords_lt s
    exact ⟨log.encode, rests.holds.live, validateStore_encode log rests.holds.fits (by omega)⟩
  records := rests.holds.reads.records_eq
  bound := ⟨by rw [messageStoreCount, rests.holds.readHeader], rests.bound⟩
  index := ⟨rests.indexed.valid, rests.indexed.entries⟩

theorem beginFinish_reads (quiet : Quiet s) (reads : Reads s messages nextId) (identified : Identified messages nextId)
    (fits : messages.length ≤ backendRecoveryMaxRecords s)
    (valid : ∃ file, s.live = some file ∧ validateStore (backendRecoveryMaxRecords s) file = true) :
    ∃ after survivors, beginFinish s = (true, after) ∧ Booted after survivors ∧
      after.files.corrupt = s.files.corrupt ∧ after.backend = s.backend ∧
      survivors.map storedMessageNormalize = (recordsAfter s messages).map storedMessageNormalize := by
  have ready : writeHeaderIfNeeded s = (true, s) := by rw [writeHeaderIfNeeded, reads.header]
  unfold beginFinish compactIfOver
  rw [ready]
  dsimp only
  rw [reads.header]
  dsimp only
  by_cases crowded : messages.length > backendMaxRecords s
  · have compacts := backendCompactToRecords_le s
    have positive := backendCompactToRecords_pos s
    have recovery := backendRecoveryMaxRecords_eq s
    have length : (compactedRecords (backendCompactToRecords s) messages).length = backendCompactToRecords s :=
      length_compactedRecords (by omega)
    have sub := compactedRecords_sublist (backendCompactToRecords s) messages
    have kept : Identified (compactedRecords (backendCompactToRecords s) messages) nextId :=
      ⟨fun msg member => identified.nonzero msg (sub.subset member), identified.unique.sublist (sub.map _),
        identified.nextNonzero, fun member => identified.nextFresh ((sub.map _).subset member)⟩
    rw [if_pos crowded, compactStoreToRecent_over reads identified.nextNonzero positive (by omega),
      replaceFile_quiet quiet kept (by omega)]
    dsimp only
    have short : (Log.ofMessages kept).messages.length = backendCompactToRecords s := by
      rw [Log.ofMessages, List.length_map, length]
    have holds : Holds (((s.setFile ⟨some (Log.ofMessages kept).encode, none⟩).noteCompaction
        (unsentToDrop (backendCompactToRecords s) messages)
        (droppedRecords (backendCompactToRecords s) messages)).report .repaired) (Log.ofMessages kept) :=
      ⟨rfl, show _ ≤ backendRecoveryMaxRecords s by omega⟩
    obtain ⟨capacity, enough, rebuilt⟩ := rebuildIdentityIndex_holds holds (show _ ≤ backendMaxRecords s by omega)
    rw [rebuilt]
    have rests : Rests (((((s.setFile ⟨some (Log.ofMessages kept).encode, none⟩).noteCompaction
        (unsentToDrop (backendCompactToRecords s) messages)
        (droppedRecords (backendCompactToRecords s) messages)).report .repaired).withIndex
          ((Log.ofMessages kept).messages.map indexEntry) capacity).requireRecovery false) (Log.ofMessages kept) :=
      ⟨quiet.working, rfl, rfl, ⟨rfl, holds.fits⟩, ⟨rfl, rfl, enough⟩, show _ ≤ backendMaxRecords s by omega⟩
    refine ⟨_, _, rfl, rests.booted, rfl, rfl, ?_⟩
    rw [recordsAfter, if_pos crowded, Log.ofMessages, List.map_map]
    exact List.map_congr_left (fun msg _ => storedMessageNormalize_idempotent msg)
  · obtain ⟨capacity, enough, rebuilt⟩ := rebuildIdentityIndex_reads reads identified.nonzero (by omega)
    rw [if_neg crowded]
    dsimp only
    rw [rebuilt]
    have indexed : Reads ((s.withIndex (messages.map indexEntry) capacity).requireRecovery false) messages nextId :=
      ⟨reads.header, reads.records⟩
    refine ⟨_, messages, rfl, ⟨valid, indexed.records_eq,
      ⟨?_, show _ ≤ backendMaxRecords s by omega⟩, rfl, rfl⟩, rfl, rfl, ?_⟩
    · rw [messageStoreCount, indexed.header]
    · rw [recordsAfter, if_neg crowded]

end Finish

section Current

variable {s : Store} {bytes : List UInt8}

theorem recordsAfter_normalize (s : Store) (messages : List StoredMessage) :
    recordsAfter s (messages.map storedMessageNormalize) = (recordsAfter s messages).map storedMessageNormalize := by
  unfold recordsAfter
  rw [List.length_map]
  split
  · exact compactedRecords_map (fun msg => show unsentIncoming (storedMessageNormalize msg) = _ from rfl) _ _
  · rfl

theorem beginFinish_rests {log : Log} (quiet : Quiet s) (holds : Holds s log) :
    ∃ after final, beginFinish s = (true, after) ∧ BootsTo s log after final := by
  have finish := beginFinish_finished holds
  generalize beginFinish s = outcome at finish ⊢
  obtain ⟨ok, after⟩ := outcome
  obtain ⟨rfl, final, boots⟩ := finished_rests finish quiet.working quiet.settled holds
  exact ⟨after, final, rfl, boots⟩

theorem beginFinish_quarantined (quiet : Quiet s) (result : RecoveryResult) :
    ∃ after, beginFinish (s.quarantined.report result) = (true, after) ∧ Booted after [] ∧
      after.files.corrupt = s.live ∧ after.backend = s.backend := by
  have holds : Holds (s.quarantined.report result) Log.empty := ⟨rfl, Nat.zero_le _⟩
  have quietAfter : Quiet (s.quarantined.report result) := ⟨quiet.working, rfl⟩
  obtain ⟨after, final, done, boots⟩ := beginFinish_rests quietAfter holds
  have empty : final.messages = [] := boots.messages
  exact ⟨after, done, empty ▸ boots.rests.booted, boots.corrupt, boots.backend⟩

def HeaderUsable (s : Store) (bytes : List UInt8) : Prop :=
  (parseHeader bytes).count ≤ backendRecoveryMaxRecords s ∧ (parseHeader bytes).nextId ≠ 0

theorem read32_of_readRecordRaw {record : List UInt8} {msg : StoredMessage} (read : readRecordRaw record = some msg) :
    msg.storeId = read32 record := by
  unfold readRecordRaw at read
  split at read
  · cases read
  · dsimp only at read
    split at read
    · cases read
    · rw [← Option.some.inj read]
      rfl

theorem map_read32_of_mapM {records : List (List UInt8)} {messages : List StoredMessage}
    (read : records.mapM readRecordRaw = some messages) : records.map read32 = messages.map (·.storeId) := by
  induction records generalizing messages with
  | nil =>
    rw [List.mapM_nil] at read
    rw [← Option.some.inj read]
    rfl
  | cons record rest ih =>
    rw [List.mapM_cons] at read
    obtain ⟨msg, here, later⟩ := Option.bind_eq_some_iff.mp read
    obtain ⟨others, found, whole⟩ := Option.bind_eq_some_iff.mp later
    rw [← Option.some.inj whole, List.map_cons, List.map_cons, ih found, read32_of_readRecordRaw here]

theorem validateStore_raw {messages : List StoredMessage} {recoveryMax : Nat} (long : headerSize ≤ bytes.length)
    (magic : (parseHeader bytes).magic = messageStoreMagic)
    (version : (parseHeader bytes).version = messageStoreVersion) (whole : (bytes.length - headerSize) % recordSize = 0)
    (counted : (parseHeader bytes).count = (bytes.length - headerSize) / recordSize)
    (fits : (bytes.length - headerSize) / recordSize ≤ recoveryMax)
    (read : (rawRecords bytes).mapM readRecordRaw = some messages)
    (identified : Identified messages (parseHeader bytes).nextId) : validateStore recoveryMax bytes = true := by
  have length : bytes.length = headerSize + (bytes.length - headerSize) / recordSize * recordSize := by
    have split := Nat.div_add_mod (bytes.length - headerSize) recordSize
    rw [whole, Nat.add_zero, Nat.mul_comm] at split
    omega
  have ids := map_read32_of_mapM read
  have fresh : (messages.map (·.storeId)).all (fun id => id != (parseHeader bytes).nextId) = true := by
    rw [List.all_eq_true]
    intro id member
    rw [bne_iff_ne]
    rintro rfl
    exact identified.nextFresh member
  have unique : idsUnique (messages.map (·.storeId)) = true := by
    rw [idsUnique_iff]
    refine ⟨?_, identified.unique⟩
    intro id member
    obtain ⟨msg, inside, rfl⟩ := List.mem_map.mp member
    exact identified.nonzero msg inside
  unfold validateStore
  rw [if_neg]
  · rw [counted]
    dsimp only
    rw [rawRecords] at ids
    rw [ids, unique, fresh]
    rfl
  · rw [counted]
    have accepted := identified.nextNonzero
    rintro (short | wrong | wrong | crowded | zero | size)
    · omega
    · exact wrong magic
    · exact wrong version
    · omega
    · exact accepted zero
    · exact size length

/-- A live file of the current version with no more complete records than the readers accept. -/
structure CurrentFile (s : Store) (bytes : List UInt8) : Prop where
  live : s.live = some bytes
  long : headerSize ≤ bytes.length
  magic : (parseHeader bytes).magic = messageStoreMagic
  version : (parseHeader bytes).version = messageStoreVersion
  fits : (bytes.length - headerSize) / recordSize ≤ backendRecoveryMaxRecords s

theorem CurrentFile.reads (file : CurrentFile s bytes)
    (counted : (parseHeader bytes).count = (bytes.length - headerSize) / recordSize)
    (complete : (recoverablePrefix [] (rawRecords bytes)).length = (bytes.length - headerSize) / recordSize)
    (nonzero : (parseHeader bytes).nextId ≠ 0) :
    Reads s (recoverablePrefix [] (rawRecords bytes)) (parseHeader bytes).nextId where
  header := by
    have fits := file.fits
    have long := file.long
    rw [readHeader, file.live, complete]
    dsimp only
    rw [if_neg, counted]
    rintro (short | wrong | wrong | zero | crowded)
    · omega
    · exact wrong file.magic
    · exact wrong file.version
    · exact nonzero zero
    · omega
  records := by
    rw [complete, readCompleteRecords, readPayload_raw file.live, Option.bind_some]
    exact mapM_of_complete (by rw [complete, length_rawRecords])

theorem beginRepair_current (quiet : Quiet s) (file : CurrentFile s bytes) :
    ∃ after survivors, beginRepair s = (true, after) ∧ Booted after survivors ∧ after.backend = s.backend ∧
      ((after.files.corrupt = s.files.corrupt ∧ survivors.map storedMessageNormalize =
          (recordsAfter s (recoverablePrefix [] (rawRecords bytes))).map storedMessageNormalize ∧
          (recoverablePrefix [] (rawRecords bytes) = [] → rawRecords bytes = [] ∧ HeaderUsable s bytes)) ∨
        (after.files.corrupt = some bytes ∧ survivors = [] ∧ recoverablePrefix [] (rawRecords bytes) = [] ∧
          (rawRecords bytes ≠ [] ∨ ¬ HeaderUsable s bytes))) := by
  have limit := backendRecoveryMaxRecords_lt s
  have complete := length_rawRecords bytes
  have fits := file.fits
  have shorter := length_recoverablePrefix_le [] (rawRecords bytes)
  have identified := identified_recoverablePrefix (rawRecords bytes) (by omega)
  unfold beginRepair
  rw [repairInterruptedAppend_current file.live file.long file.magic file.version file.fits]
  rcases repairRecords_quiet quiet (parseHeader bytes) ((bytes.length - headerSize) % recordSize != 0)
    ((bytes.length - headerSize) / recordSize) identified (by omega) with
    ⟨clean, counted, all, whole, next⟩ | ⟨aside, none, why⟩ | ⟨result, rewritten, replaced, why⟩
  · rw [clean]
    dsimp only
    rw [if_pos rfl]
    rw [← next] at identified
    have reads := file.reads counted all identified.nextNonzero
    have valid := validateStore_raw file.long file.magic file.version (by simpa using whole) counted file.fits
      (mapM_of_complete (by rw [all, complete])) identified
    obtain ⟨after, survivors, done, booted, corrupt, backend, kept⟩ :=
      beginFinish_reads quiet reads identified (by omega) ⟨bytes, file.live, valid⟩
    refine ⟨after, survivors, done, booted, backend, Or.inl ⟨corrupt, kept, ?_⟩⟩
    intro empty
    rw [empty, List.length_nil] at all
    refine ⟨List.length_eq_zero_iff.mp (by omega), ?_, identified.nextNonzero⟩
    omega
  · rw [aside]
    obtain ⟨after, done, booted, corrupt, backend⟩ := beginFinish_quarantined quiet .quarantined
    refine ⟨after, [], done, booted, backend, Or.inr ⟨corrupt.trans file.live, rfl, none, ?_⟩⟩
    rcases why with some | unusable
    · refine Or.inl (fun empty => ?_)
      rw [empty, List.length_nil] at complete
      omega
    · exact Or.inr unusable
  · rw [replaced]
    have holds : Holds ((s.setFile ⟨some (Log.ofMessages identified).encode, none⟩).report result)
        (Log.ofMessages identified) := by
      refine ⟨rfl, ?_⟩
      rw [Log.ofMessages, List.length_map]
      exact show _ ≤ backendRecoveryMaxRecords s by omega
    have quietAfter : Quiet ((s.setFile ⟨some (Log.ofMessages identified).encode, none⟩).report result) :=
      ⟨quiet.working, rfl⟩
    obtain ⟨after, final, done, boots⟩ := beginFinish_rests quietAfter holds
    refine ⟨after, final.messages, ?_, boots.rests.booted, boots.backend, Or.inl ⟨boots.corrupt, ?_, ?_⟩⟩
    · rcases rewritten with rfl | rfl
      · exact done
      · exact done
    · rw [boots.messages]
      change (recordsAfter s ((recoverablePrefix [] (rawRecords bytes)).map storedMessageNormalize)).map _ = _
      rw [recordsAfter_normalize, List.map_map]
      exact List.map_congr_left (fun msg _ => storedMessageNormalize_idempotent msg)
    · intro empty
      obtain ⟨zero, usable⟩ := why empty
      exact ⟨List.length_eq_zero_iff.mp (by omega), usable⟩

end Current

end SigurdOS.MessageStore
