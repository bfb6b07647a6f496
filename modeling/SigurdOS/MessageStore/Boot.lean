import SigurdOS.MessageStore.Append

namespace SigurdOS.MessageStore

open Bytes SigurdOS.Hal

/-- The files this module leaves behind, interrupted appends included: the header may count fewer
    records than are there, its next ID may be torn, and the last record may be incomplete. -/
structure Image where
  count : Nat
  nextId : UInt32
  messages : List StoredMessage
  tail : List UInt8
  normal : ∀ msg ∈ messages, storedMessageNormalize msg = msg
  nonzero : ∀ msg ∈ messages, msg.storeId ≠ 0
  unique : (messages.map (·.storeId)).Nodup
  counted : count ≤ messages.length
  short : tail.length < recordSize
  headed : messages = [] → nextId ≠ 0

namespace Image

def encode (image : Image) : List UInt8 :=
  encodeHeader image.count image.nextId ++ (image.messages.flatMap writeRecordRaw ++ image.tail)

def ofLog (log : Log) : Image where
  count := log.messages.length
  nextId := log.nextId
  messages := log.messages
  tail := []
  normal := log.normal
  nonzero := log.nonzero
  unique := log.unique
  counted := Nat.le_refl _
  short := by decide
  headed := fun _ => log.nextNonzero

theorem encode_ofLog (log : Log) : (ofLog log).encode = log.encode := by
  rw [encode, ofLog, List.append_nil]
  rfl

def repaired (image : Image) (short : image.messages.length + 1 < 2 ^ 32) : Log where
  messages := image.messages
  nextId := deriveNextId image.messages
  normal := image.normal
  nonzero := image.nonzero
  unique := image.unique
  nextNonzero := (deriveNextId_fresh short).1
  nextFresh := (deriveNextId_fresh short).2

end Image

theorem recoverablePrefix_of_mapM {records : List (List UInt8)} {messages : List StoredMessage} {seen : List UInt32}
    (read : records.mapM readRecordRaw = some messages) (nonzero : ∀ msg ∈ messages, msg.storeId ≠ 0)
    (unique : (messages.map (·.storeId)).Nodup) (fresh : ∀ msg ∈ messages, msg.storeId ∉ seen) :
    recoverablePrefix seen records = messages := by
  induction records generalizing messages seen with
  | nil =>
    rw [List.mapM_nil] at read
    exact Option.some.inj read
  | cons record rest ih =>
    rw [List.mapM_cons] at read
    obtain ⟨msg, here, later⟩ := Option.bind_eq_some_iff.mp read
    obtain ⟨others, found, whole⟩ := Option.bind_eq_some_iff.mp later
    obtain rfl := Option.some.inj whole
    rw [List.map_cons, List.nodup_cons] at unique
    have kept : ¬ (msg.storeId = 0 ∨ msg.storeId ∈ seen) :=
      not_or.mpr ⟨nonzero msg (by simp), fresh msg (by simp)⟩
    rw [recoverablePrefix, here]
    dsimp only
    rw [if_neg kept, ih found]
    · exact fun other member => nonzero other (List.mem_cons_of_mem _ member)
    · exact unique.2
    · intro other member inside
      rcases List.mem_cons.mp inside with same | before
      · exact unique.1 (same ▸ List.mem_map_of_mem member)
      · exact fresh other (List.mem_cons_of_mem _ member) before

structure Left (s : Store) (image : Image) : Prop where
  live : s.live = some image.encode
  fits : image.messages.length ≤ backendRecoveryMaxRecords s

theorem Holds.left {s : Store} {log : Log} (holds : Holds s log) : Left s (.ofLog log) :=
  ⟨by rw [Image.encode_ofLog]; exact holds.live, holds.fits⟩

section Repair

variable {s : Store} {image : Image}

theorem Left.short (left : Left s image) : image.messages.length + 1 < 2 ^ 32 := by
  have fits := left.fits
  have limit := backendRecoveryMaxRecords_lt s
  omega

theorem Image.parseHeader_encode (image : Image) (short : image.messages.length + 1 < 2 ^ 32) :
    parseHeader image.encode = ⟨messageStoreMagic, messageStoreVersion, image.count, image.nextId⟩ := by
  have counted := image.counted
  exact parseHeader_encodeHeader _ _ (by omega)

theorem Image.length_encode (image : Image) :
    image.encode.length = headerSize + (recordSize * image.messages.length + image.tail.length) := by
  rw [Image.encode, List.length_append, List.length_append, length_encodeHeader, length_records]

theorem Left.readPayload (left : Left s image) :
    readPayload s image.messages.length headerSize recordSize = some (image.messages.map writeRecordRaw) :=
  readPayload_encoded left.live (length_encodeHeader _ _)

theorem migrateOlderStore_left (left : Left s image) : migrateOlderStore s = (.clean, s) := by
  have length := image.length_encode
  have long : ¬ image.encode.length < v4HeaderSize := by
    rw [length, headerSize_eq]
    unfold v4HeaderSize
    omega
  unfold migrateOlderStore
  rw [left.live]
  dsimp only
  rw [image.parseHeader_encode left.short]
  rw [if_neg (by simp [long]), if_pos rfl]

inductive Repaired (s : Store) (log : Log) : RecoveryResult → Store → Prop
  | clean (exact : s.live = some log.encode) : Repaired s log .clean s
  | done (result : RecoveryResult) (temp : Option (List UInt8)) (faults : List Fault) (rest : faults <:+ s.faults)
      (rewritten : result = .repaired ∨ result = .salvaged) (cleared : Cleared s temp) :
      Repaired s log result ((s.setFile ⟨some log.encode, temp⟩).withFaults faults)
  | failed (file : AtomicFile) (faults : List Fault) (rest : faults <:+ s.faults) (broken : s.faults ≠ [])
      (replaced : Replaced s log.messages log.nextId false file) :
      Repaired s log .failed ((s.setFile file).withFaults faults)

theorem repairRecords_repaired (left : Left s image) (tornTail : Bool) (torn : tornTail = false ↔ image.tail = []) :
    Repaired s (image.repaired left.short)
      (repairRecords s ⟨messageStoreMagic, messageStoreVersion, image.count, image.nextId⟩ tornTail
        image.messages.length image.messages).1
      (repairRecords s ⟨messageStoreMagic, messageStoreVersion, image.count, image.nextId⟩ tornTail
        image.messages.length image.messages).2 := by
  have counted := image.counted
  have fits := left.fits
  have nonzero : deriveNextId image.messages ≠ 0 := (deriveNextId_fresh left.short).1
  unfold repairRecords
  rw [if_neg (by rintro ⟨some, none⟩; rw [none] at some; exact absurd some (by simp))]
  dsimp only
  split
  · rename_i exactStore
    simp only [Bool.and_eq_true, Bool.not_eq_true', beq_iff_eq] at exactStore
    obtain ⟨⟨⟨⟨_, noTail⟩, same⟩, _⟩, next⟩ := exactStore
    refine .clean ?_
    rw [left.live, Image.encode, torn.mp noTail, List.append_nil, same, next]
    rfl
  · split
    · rename_i reset
      have valid : image.nextId ≠ 0 := image.headed reset.1
      have bounded : image.count ≤ backendRecoveryMaxRecords s := by omega
      simp [valid, bounded] at reset
    · rw [atomicReplaceStore_of_nextId s _ nonzero]
      obtain ⟨file, faults, after, rest, replaced⟩ :=
        replaceFile_replaced s (deriveNextId image.messages) image.normal
      have works : s.faults = [] → (replaceFile s image.messages (deriveNextId image.messages)).1 = true := by
        intro working
        obtain ⟨temp, -, done⟩ := replaceFile_works (image.repaired left.short) working fits
        exact congrArg Prod.fst done
      generalize replaceFile s image.messages (deriveNextId image.messages) = outcome at after replaced works ⊢
      obtain ⟨ok, next⟩ := outcome
      dsimp only at after replaced works
      subst after
      cases ok with
      | true =>
        cases replaced with
        | done kept temp same nextId _ cleared =>
          obtain rfl : kept = image.repaired left.short := Log.ext same nextId
          refine .done _ temp faults rest ?_ cleared
          dsimp only
          split
          · exact Or.inr rfl
          · exact Or.inl rfl
      | false => exact .failed file faults rest (fun working => absurd (works working) (by simp)) replaced

theorem repairInterruptedAppend_left (left : Left s image) :
    Repaired s (image.repaired left.short) (repairInterruptedAppend s).1 (repairInterruptedAppend s).2 := by
  have length := image.length_encode
  have fits := left.fits
  have short := image.short
  have small := left.short
  have long : ¬ image.encode.length < headerSize := by omega
  have payload : image.encode.length - headerSize = recordSize * image.messages.length + image.tail.length := by omega
  have complete : (recordSize * image.messages.length + image.tail.length) / recordSize % 2 ^ 32 =
      image.messages.length := by
    rw [Nat.mul_add_div (by decide), Nat.div_eq_of_lt short, Nat.add_zero, Nat.mod_eq_of_lt (by omega)]
  have torn : (recordSize * image.messages.length + image.tail.length) % recordSize = image.tail.length := by
    rw [Nat.mul_add_mod, Nat.mod_eq_of_lt short]
  have recovered : readRecoverablePrefix s image.messages.length headerSize = some image.messages := by
    have read : (image.messages.map writeRecordRaw).mapM readRecordRaw = some image.messages := by
      rw [mapM_written, List.map_congr_left image.normal, List.map_id']
    rw [readRecoverablePrefix, left.readPayload, Option.map_some,
      recoverablePrefix_of_mapM read image.nonzero image.unique (by simp)]
  unfold repairInterruptedAppend
  rw [left.live]
  dsimp only
  rw [image.parseHeader_encode small, if_neg (by simp [long]), if_neg (by simp), payload, complete,
    if_neg (by omega), recovered, torn]
  exact repairRecords_repaired left _ (by simp)

end Repair

section Finish

variable {s : Store} {log : Log}

theorem writeHeaderIfNeeded_holds (holds : Holds s log) : writeHeaderIfNeeded s = (true, s) := by
  rw [writeHeaderIfNeeded, holds.readHeader]

inductive Finished (s : Store) (log : Log) : Bool → Store → Prop
  | within (capacity : Nat) (bound : log.messages.length ≤ backendMaxRecords s)
      (enough : backendMaxRecords s ≤ capacity) :
      Finished s log true ((s.withIndex (log.messages.map indexEntry) capacity).requireRecovery false)
  | compacted (after : Store) (capacity : Nat) (crowded : backendMaxRecords s < log.messages.length)
      (compaction : Compacted s log (backendCompactToRecords s) true after) (enough : backendMaxRecords s ≤ capacity) :
      Finished s log true (((after.report .repaired).withIndex
        ((log.compacted (backendCompactToRecords s)).messages.map indexEntry) capacity).requireRecovery false)
  | failed (after : Store) (crowded : backendMaxRecords s < log.messages.length)
      (compaction : Compacted s log (backendCompactToRecords s) false after) :
      Finished s log false (after.report .failed)

theorem beginFinish_finished (holds : Holds s log) : Finished s log (beginFinish s).1 (beginFinish s).2 := by
  unfold beginFinish compactIfOver
  rw [writeHeaderIfNeeded_holds holds]
  dsimp only
  rw [holds.readHeader]
  dsimp only
  by_cases crowded : log.messages.length > backendMaxRecords s
  · rw [if_pos crowded]
    have compacts := backendCompactToRecords_le s
    have recovery := backendRecoveryMaxRecords_eq s
    have length : (log.compacted (backendCompactToRecords s)).messages.length = backendCompactToRecords s :=
      length_compacted crowded
    have compaction := compactStoreToRecent_compacted holds (backendCompactToRecords_pos s) (by omega)
    generalize compactStoreToRecent s (backendCompactToRecords s) = outcome at compaction ⊢
    obtain ⟨ok, after⟩ := outcome
    dsimp only at compaction
    cases ok with
    | false => exact .failed after crowded compaction
    | true =>
      have held : Holds (after.report .repaired) (log.compacted (backendCompactToRecords s)) ∧
          backendMaxRecords (after.report .repaired) = backendMaxRecords s := by
        cases compaction with
        | done temp faults rest cleared =>
          exact ⟨⟨rfl, show _ ≤ backendRecoveryMaxRecords s by omega⟩, rfl⟩
      obtain ⟨capacity, enough, rebuilt⟩ := rebuildIdentityIndex_holds held.1 (by omega)
      dsimp only
      rw [rebuilt]
      exact .compacted after capacity crowded compaction (held.2 ▸ enough)
  · rw [if_neg crowded]
    obtain ⟨capacity, enough, rebuilt⟩ := rebuildIdentityIndex_holds holds (by omega)
    dsimp only
    rw [rebuilt]
    exact .within capacity (by omega) enough

end Finish

section Begin

variable {s : Store} {image : Image}

/-- The outcomes of the boot on a file the module left, once the temp has been dealt with. -/
inductive Begun (s : Store) (log : Log) : Bool → Store → Prop
  | unrepaired (after : Store) (repair : Repaired s log .failed after) : Begun s log false (after.report .failed)
  | finished (ok : Bool) (result : RecoveryResult) (repaired after : Store) (went : result ≠ .failed)
      (repair : Repaired s log result repaired)
      (finish : Finished (if result = .clean then repaired else repaired.report result) log ok after) :
      Begun s log ok after

theorem beginMigrate_left (left : Left s image) :
    Begun s (image.repaired left.short) (beginMigrate s).1 (beginMigrate s).2 := by
  have fits := left.fits
  have repair := repairInterruptedAppend_left left
  unfold beginMigrate
  rw [migrateOlderStore_left left]
  dsimp only
  rw [if_pos rfl]
  unfold beginRepair
  generalize repairInterruptedAppend s = outcome at repair ⊢
  obtain ⟨result, repaired⟩ := outcome
  dsimp only at repair
  cases repair with
  | clean exact =>
    dsimp only
    have holds : Holds s (image.repaired left.short) := ⟨exact, fits⟩
    have finish := beginFinish_finished holds
    rw [if_pos rfl]
    exact .finished _ .clean s _ (by decide) (.clean exact) (by rw [if_pos rfl]; exact finish)
  | done result temp faults rest rewritten cleared =>
    have holds : Holds (((s.setFile ⟨some (image.repaired left.short).encode, temp⟩).withFaults faults).report result)
        (image.repaired left.short) := ⟨rfl, fits⟩
    have finish := beginFinish_finished holds
    have repair : Repaired s (image.repaired left.short) result
        ((s.setFile ⟨some (image.repaired left.short).encode, temp⟩).withFaults faults) :=
      .done result temp faults rest rewritten cleared
    rcases rewritten with rfl | rfl
    · exact .finished _ .repaired _ _ (by decide) repair finish
    · exact .finished _ .salvaged _ _ (by decide) repair finish
  | failed file faults rest broken replaced =>
    exact .unrepaired _ (.failed file faults rest broken replaced)

end Begin

end SigurdOS.MessageStore
