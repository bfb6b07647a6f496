import SigurdOS.MessageStore.Ids
import SigurdOS.MessageStore.Operations

namespace SigurdOS.MessageStore

open Bytes SigurdOS.Hal

/-- What a store file is for: records in arrival order and the ID the next one receives. The IDs
    are nonzero and distinct, and the next one is not in use. -/
structure Log where
  messages : List StoredMessage
  nextId : UInt32
  normal : ∀ msg ∈ messages, storedMessageNormalize msg = msg
  nonzero : ∀ msg ∈ messages, msg.storeId ≠ 0
  unique : (messages.map (·.storeId)).Nodup
  nextNonzero : nextId ≠ 0
  nextFresh : nextId ∉ messages.map (·.storeId)

namespace Log

def empty : Log := ⟨[], 1, by simp, by simp, by simp, by decide, by simp⟩

def encode (log : Log) : List UInt8 := encodeStore log.messages log.nextId

def push (log : Log) (norm : StoredMessage) (following : UInt32) (normal : storedMessageNormalize norm = norm)
    (nonzero : following ≠ 0) (fresh : following ∉ log.messages.map (·.storeId)) (moves : following ≠ log.nextId) :
    Log where
  messages := log.messages ++ [norm.withId log.nextId]
  nextId := following
  normal := by
    intro msg member
    rcases List.mem_append.mp member with old | new
    · exact log.normal msg old
    · obtain rfl := List.mem_singleton.mp new
      exact storedMessageNormalize_withId normal _
  nonzero := by
    intro msg member
    rcases List.mem_append.mp member with old | new
    · exact log.nonzero msg old
    · obtain rfl := List.mem_singleton.mp new
      exact log.nextNonzero
  unique := by
    rw [List.map_append, List.map_singleton, List.nodup_append]
    refine ⟨log.unique, by simp, ?_⟩
    intro id old other new equal
    rw [equal, List.mem_singleton.mp new] at old
    exact log.nextFresh old
  nextNonzero := nonzero
  nextFresh := by
    rw [List.map_append, List.map_singleton, List.mem_append, List.mem_singleton]
    rintro (old | new)
    · exact fresh old
    · exact moves new

def retain (log : Log) (kept : List StoredMessage) (sub : kept.Sublist log.messages) : Log where
  messages := kept
  nextId := log.nextId
  normal := fun msg member => log.normal msg (sub.subset member)
  nonzero := fun msg member => log.nonzero msg (sub.subset member)
  unique := log.unique.sublist (sub.map _)
  nextNonzero := log.nextNonzero
  nextFresh := fun member => log.nextFresh ((sub.map _).subset member)

def rewrite (log : Log) (messages : List StoredMessage)
    (sameIds : messages.map (·.storeId) = log.messages.map (·.storeId))
    (normal : ∀ msg ∈ messages, storedMessageNormalize msg = msg) : Log where
  messages := messages
  nextId := log.nextId
  normal := normal
  nonzero := by
    intro msg member
    have id : msg.storeId ∈ log.messages.map (·.storeId) := sameIds ▸ List.mem_map_of_mem member
    obtain ⟨other, found, same⟩ := List.mem_map.mp id
    exact same ▸ log.nonzero other found
  unique := sameIds ▸ log.unique
  nextNonzero := log.nextNonzero
  nextFresh := sameIds ▸ log.nextFresh

@[ext] theorem ext {log other : Log} (messages : log.messages = other.messages) (nextId : log.nextId = other.nextId) :
    log = other := by
  cases log
  cases other
  cases messages
  cases nextId
  rfl

end Log

theorem backendMaxRecords_lt (s : Store) : backendMaxRecords s + 1 < 2 ^ 31 := by
  unfold backendMaxRecords
  cases s.backend with
  | none => decide
  | some backend =>
    have bounded := backend.bounded
    dsimp only
    split
    · exact bounded
    · decide

theorem backendRecoveryMaxRecords_eq (s : Store) : backendRecoveryMaxRecords s = backendMaxRecords s + 1 := by
  have bound := backendMaxRecords_lt s
  rw [backendRecoveryMaxRecords, if_neg (by omega)]

theorem backendMaxRecords_pos (s : Store) : 0 < backendMaxRecords s := by
  unfold backendMaxRecords
  cases s.backend with
  | none => decide
  | some backend =>
    dsimp only
    split
    · assumption
    · decide

theorem backendCompactToRecords_pos (s : Store) : 0 < backendCompactToRecords s := by
  unfold backendCompactToRecords
  cases s.backend with
  | none => decide
  | some backend =>
    dsimp only
    split
    · decide
    · omega

theorem backendCompactToRecords_le (s : Store) : backendCompactToRecords s ≤ backendMaxRecords s := by
  unfold backendCompactToRecords backendMaxRecords
  cases s.backend with
  | none => decide
  | some backend =>
    have compacts := backend.compacts
    by_cases zero : backend.maxRecords = 0
    · simpa [zero] using compacts
    · have positive : backend.maxRecords > 0 := by omega
      simpa [zero, positive] using compacts

section Encoded

variable {s : Store} {count : Nat} {nextId : UInt32} {messages : List StoredMessage} {front tail rest : List UInt8}

theorem readHeader_encoded (live : s.live = some (encodeHeader count nextId ++ rest))
    (bound : count ≤ backendRecoveryMaxRecords s) (nonzero : nextId ≠ 0) : readHeader s = some (count, nextId) := by
  have limit := backendMaxRecords_lt s
  have recovery := backendRecoveryMaxRecords_eq s
  have long : ¬ (encodeHeader count nextId ++ rest).length < headerSize := by
    rw [List.length_append, length_encodeHeader]
    omega
  have small : ¬ count > backendRecoveryMaxRecords s := by omega
  have parsed := parseHeader_encodeHeader nextId rest (show count < 2 ^ 32 by omega)
  simp only [readHeader, live, parsed, long, small, nonzero, ne_eq, not_true_eq_false, or_self, ite_false]

theorem length_records (messages : List StoredMessage) :
    (messages.flatMap writeRecordRaw).length = recordSize * messages.length :=
  length_flatMap_of_width writeRecordRaw messages (fun msg _ => length_writeRecordRaw msg)

theorem readPayload_encoded (live : s.live = some (front ++ (messages.flatMap writeRecordRaw ++ tail)))
    (length : front.length = headerSize) :
    readPayload s messages.length headerSize recordSize = some (messages.map writeRecordRaw) := by
  unfold readPayload
  rw [live, Option.getD_some]
  cases messages with
  | nil => rfl
  | cons msg others =>
    have enough : headerSize + recordSize * (msg :: others).length ≤
        (front ++ ((msg :: others).flatMap writeRecordRaw ++ tail)).length := by
      rw [List.length_append, List.length_append, length, length_records]
      omega
    rw [if_neg (by simp), if_pos enough, List.drop_left' length,
      slots_flatMap writeRecordRaw (msg :: others) tail (fun other _ => length_writeRecordRaw other)]

theorem filterMap_written (messages : List StoredMessage) :
    (messages.map writeRecordRaw).filterMap readRecordRaw = messages.map storedMessageNormalize := by
  rw [List.filterMap_map, ← List.filterMap_eq_map]
  congr 1
  funext msg
  exact readRecordRaw_writeRecordRaw msg

theorem mapM_written (messages : List StoredMessage) :
    (messages.map writeRecordRaw).mapM readRecordRaw = some (messages.map storedMessageNormalize) := by
  induction messages with
  | nil => rfl
  | cons msg rest ih =>
    simp only [List.map_cons, List.mapM_cons, readRecordRaw_writeRecordRaw, ih]
    rfl

theorem map_normalize (log : Log) : log.messages.map storedMessageNormalize = log.messages := by
  conv_rhs => rw [← List.map_id log.messages]
  exact List.map_congr_left log.normal

end Encoded

structure Holds (s : Store) (log : Log) : Prop where
  live : s.live = some log.encode
  fits : log.messages.length ≤ backendRecoveryMaxRecords s

namespace Holds

variable {s : Store} {log : Log}

theorem readHeader (holds : Holds s log) : readHeader s = some (log.messages.length, log.nextId) :=
  readHeader_encoded holds.live holds.fits log.nextNonzero

theorem readPayload (holds : Holds s log) :
    readPayload s log.messages.length headerSize recordSize = some (log.messages.map writeRecordRaw) := by
  have live :
      s.live = some (encodeHeader log.messages.length log.nextId ++ (log.messages.flatMap writeRecordRaw ++ [])) := by
    rw [List.append_nil]
    exact holds.live
  exact readPayload_encoded live (length_encodeHeader _ _)

theorem readCompleteRecords (holds : Holds s log) :
    readCompleteRecords s log.messages.length headerSize = some log.messages := by
  rw [MessageStore.readCompleteRecords, holds.readPayload, Option.bind_some, mapM_written, map_normalize]

theorem loadAll (holds : Holds s log) (max : Nat) : messageStoreLoadAll s max = log.messages.take max := by
  have short : (log.messages.take max).length = min log.messages.length max := by
    rw [List.length_take, Nat.min_comm]
  have live : s.live = some (encodeHeader log.messages.length log.nextId ++
      ((log.messages.take max).flatMap writeRecordRaw ++ (log.messages.drop max).flatMap writeRecordRaw)) := by
    rw [← List.flatMap_append, List.take_append_drop]
    exact holds.live
  have payload := readPayload_encoded live (length_encodeHeader _ _)
  rw [messageStoreLoadAll, loadAllInternal, holds.readHeader]
  dsimp only
  rw [← short, payload]
  dsimp only
  rw [filterMap_written, List.map_take, map_normalize]

theorem loadAll_count (holds : Holds s log) : messageStoreLoadAll s log.messages.length = log.messages := by
  rw [holds.loadAll, List.take_length]

theorem loadUnsent (holds : Holds s log) (max : Nat) :
    messageStoreLoadUnsent s max = (log.messages.filter unsentIncoming).take max := by
  rw [messageStoreLoadUnsent, loadUnsentInternal, holds.readHeader]
  dsimp only
  rw [holds.readPayload]
  dsimp only
  rw [filterMap_written, map_normalize]

theorem getById (holds : Holds s log) {id : UInt32} (nonzero : id ≠ 0) :
    messageStoreGetById s id = log.messages.find? (fun msg => msg.storeId == id) := by
  rw [messageStoreGetById, if_neg nonzero, holds.readHeader]
  dsimp only
  split
  · rename_i none
    rw [List.length_eq_zero_iff.mp none]
    rfl
  · rw [holds.readPayload]
    dsimp only
    rw [filterMap_written, map_normalize]

end Holds

/-- What the readers find, whoever wrote the file: a usable header and as many records as it counts,
    all of which decode. -/
structure Reads (s : Store) (messages : List StoredMessage) (nextId : UInt32) : Prop where
  header : readHeader s = some (messages.length, nextId)
  records : readCompleteRecords s messages.length headerSize = some messages

theorem filterMap_of_mapM {α β : Type} {f : α → Option β} {values : List α} {results : List β}
    (all : values.mapM f = some results) : values.filterMap f = results := by
  induction values generalizing results with
  | nil =>
    rw [List.mapM_nil] at all
    exact Option.some.inj all
  | cons value rest ih =>
    rw [List.mapM_cons] at all
    obtain ⟨result, here, later⟩ := Option.bind_eq_some_iff.mp all
    obtain ⟨others, found, whole⟩ := Option.bind_eq_some_iff.mp later
    rw [List.filterMap_cons_some here, ih found]
    exact Option.some.inj whole

theorem Reads.loadAll {s : Store} {messages : List StoredMessage} {nextId : UInt32} (reads : Reads s messages nextId) :
    loadAllInternal s messages.length = messages := by
  obtain ⟨records, payload, decoded⟩ := Option.bind_eq_some_iff.mp reads.records
  rw [loadAllInternal, reads.header]
  dsimp only
  rw [Nat.min_self, payload]
  exact filterMap_of_mapM decoded

theorem Reads.records_eq {s : Store} {messages : List StoredMessage} {nextId : UInt32}
    (reads : Reads s messages nextId) : s.records = messages := by
  rw [Store.records, messageStoreCount, reads.header]
  exact reads.loadAll

theorem Reads.count {s : Store} {messages : List StoredMessage} {nextId : UInt32} (reads : Reads s messages nextId) :
    messageStoreCount s = messages.length := by
  rw [messageStoreCount, reads.header]

theorem Holds.reads {s : Store} {log : Log} (holds : Holds s log) : Reads s log.messages log.nextId :=
  ⟨holds.readHeader, holds.readCompleteRecords⟩

theorem Log.find_of_mem (log : Log) {msg : StoredMessage} (member : msg ∈ log.messages) :
    log.messages.find? (fun other => other.storeId == msg.storeId) = some msg := by
  obtain ⟨messages, nextId, normal, nonzero, unique, nextNonzero, nextFresh⟩ := log
  dsimp only at member ⊢
  clear normal nonzero nextNonzero nextFresh
  induction messages with
  | nil => cases member
  | cons head rest ih =>
    rw [List.map_cons, List.nodup_cons] at unique
    rcases List.mem_cons.mp member with rfl | later
    · simp
    · have different : head.storeId ≠ msg.storeId := fun same => unique.1 (same ▸ List.mem_map_of_mem later)
      rw [List.find?_cons_of_neg (by simpa using different)]
      exact ih unique.2 later

section Validators

variable (log : Log) {recoveryMax : Nat}

theorem slots_encode (log : Log) :
    slots recordSize log.messages.length (log.encode.drop headerSize) = log.messages.map writeRecordRaw := by
  rw [Log.encode, encodeStore, List.drop_left' (length_encodeHeader _ _)]
  simpa using slots_flatMap writeRecordRaw log.messages [] (fun msg _ => length_writeRecordRaw msg)

theorem read32_writeRecordRaw (msg : StoredMessage) : read32 (writeRecordRaw msg) = msg.storeId :=
  read32_leBytes _ _

theorem length_encode : log.encode.length = headerSize + log.messages.length * recordSize := by
  rw [Log.encode, encodeStore, List.length_append, length_encodeHeader, length_records, Nat.mul_comm]

theorem parseHeader_encode (small : log.messages.length < 2 ^ 32) :
    parseHeader log.encode = ⟨messageStoreMagic, messageStoreVersion, log.messages.length, log.nextId⟩ :=
  parseHeader_encodeHeader _ _ small

theorem idsUnique_ids : idsUnique (log.messages.map (·.storeId)) = true := by
  rw [idsUnique, Bool.and_eq_true, List.all_eq_true, decide_eq_true_eq]
  refine ⟨?_, log.unique⟩
  intro id member
  obtain ⟨msg, found, rfl⟩ := List.mem_map.mp member
  simpa using log.nonzero msg found

theorem ids_ne_nextId : (log.messages.map (·.storeId)).all (fun id => id != log.nextId) = true := by
  rw [List.all_eq_true]
  intro id member
  simp only [bne_iff_ne]
  rintro rfl
  exact log.nextFresh member

theorem validateStore_encode (fits : log.messages.length ≤ recoveryMax) (small : recoveryMax < 2 ^ 32) :
    validateStore recoveryMax log.encode = true := by
  have long : ¬ headerSize + log.messages.length * recordSize < headerSize := by omega
  have ids : (log.messages.map writeRecordRaw).map read32 = log.messages.map (·.storeId) := by
    rw [List.map_map]
    exact List.map_congr_left (fun msg _ => read32_writeRecordRaw msg)
  unfold validateStore
  rw [parseHeader_encode log (by omega)]
  simp only [slots_encode, ids, idsUnique_ids, ids_ne_nextId, length_encode, long, log.nextNonzero, Nat.not_lt.mpr fits,
    ne_eq, not_true_eq_false, or_self, ite_false, Bool.and_self]

theorem validateStoreBytes_encode (fits : log.messages.length ≤ recoveryMax) (small : recoveryMax < 2 ^ 32) :
    validateStoreBytes recoveryMax log.encode = true := by
  have long : ¬ headerSize + log.messages.length * recordSize < headerSize := by omega
  unfold validateStoreBytes
  rw [parseHeader_encode log (by omega)]
  simp only [slots_encode, mapM_written, map_normalize, idsUnique_ids, ids_ne_nextId, length_encode, long,
    log.nextNonzero, Nat.not_lt.mpr fits, ne_eq, not_true_eq_false, or_self, ite_false, Bool.and_self]

end Validators

end SigurdOS.MessageStore
