import SigurdOS.MessageStore.Compaction
import SigurdOS.MessageStore.Index

namespace SigurdOS.MessageStore

open Bytes SigurdOS.Hal FreshSearch

/-- The ID an append reserves behind the one it hands out. -/
def Log.following (log : Log) : UInt32 :=
  firstUnused (log.messages.map (·.storeId)) (log.messages.length + 1) (nextAfter log.nextId)

theorem nextUnusedIdAfter_indexed {s : Store} {log : Log} (indexed : Indexed s log) :
    nextUnusedIdAfter s log.nextId = log.following := by
  have ids : (log.messages.map indexEntry).map (·.storeId) = log.messages.map (·.storeId) := by
    rw [List.map_map]
    rfl
  rw [nextUnusedIdAfter, indexed.entries, ids, List.length_map]
  rfl

theorem Log.following_fresh (log : Log) (short : log.messages.length + 2 < 2 ^ 32) :
    log.following ≠ 0 ∧ log.following ∉ log.messages.map (·.storeId) ∧ log.following ≠ log.nextId := by
  have start := nextAfter_ne_zero log.nextId
  have more : (log.messages.map (·.storeId)).length < log.messages.length + 1 := by
    rw [List.length_map]
    omega
  obtain ⟨step, inside, found, free, _⟩ :=
    firstFree_of_distinct (iterate_nextAfter_nodup start (show log.messages.length + 1 < 2 ^ 32 by omega)) more
  have value : log.following = nextAfter^[step + 1] log.nextId := by
    rw [Log.following, firstUnused, found, Option.getD_some, Function.iterate_succ_apply]
  rw [Function.iterate_succ_apply] at value
  rw [value]
  refine ⟨iterate_nextAfter_ne_zero start step, free, ?_⟩
  intro again
  have cycle := iterate_nextAfter_toNat log.nextNonzero (step + 1)
  rw [Function.iterate_succ_apply, again] at cycle
  have bound := log.nextId.toNat_lt
  have positive : log.nextId.toNat ≠ 0 := fun zero => log.nextNonzero (UInt32.toNat_inj.mp zero)
  omega

theorem Log.following_of_ascending (log : Log) (ascending : ∀ id ∈ log.messages.map (·.storeId), id < log.nextId)
    (notMax : log.nextId ≠ 0xFFFFFFFF) : log.following = nextAfter log.nextId := by
  apply firstUnused_of_not_mem
  intro member
  have below := UInt32.lt_iff_toNat_lt.mp (ascending _ member)
  rw [nextAfter_toNat notMax] at below
  omega

theorem Log.exists_push (log : Log) {norm : StoredMessage} (normal : storedMessageNormalize norm = norm)
    (short : log.messages.length + 2 < 2 ^ 32) :
    ∃ pushed : Log, pushed.messages = log.messages ++ [norm.withId log.nextId] ∧
      pushed.nextId = log.following := by
  obtain ⟨nonzero, free, moves⟩ := log.following_fresh short
  exact ⟨log.push norm log.following normal nonzero free moves, rfl, rfl⟩

theorem overlay_header (count : Nat) (nextId : UInt32) (old : List UInt8) :
    overlay (encodeHeader count nextId) old headerSize = encodeHeader count nextId ++ old.drop headerSize := by
  rw [overlay, List.take_of_length_le (by rw [length_encodeHeader])]

theorem encode_push {log pushed : Log} {rec : StoredMessage} (messages : pushed.messages = log.messages ++ [rec]) :
    overlay (encodeHeader (log.messages.length + 1) pushed.nextId) (log.encode ++ writeRecordRaw rec) headerSize =
      pushed.encode := by
  have length : (encodeHeader log.messages.length log.nextId).length = headerSize := length_encodeHeader _ _
  rw [overlay_header, Log.encode, Log.encode, encodeStore, encodeStore, List.append_assoc,
    List.drop_left' length, messages, List.length_append, List.length_singleton, List.flatMap_append,
    List.flatMap_singleton]

inductive Appended (s : Store) (log pushed : Log) (rec : StoredMessage) : Option UInt32 → Store → Prop
  | tornRecord (written : Nat) (faults : List Fault) (rest : faults <:+ s.faults)
      (script : .append written ∈ s.faults) :
      Appended s log pushed rec none
        (((s.setLive (log.encode ++ (writeRecordRaw rec).take written)).withFaults faults).requireRecovery true)
  | tornHeader (written : Nat) (faults : List Fault) (rest : faults <:+ s.faults)
      (script : .header written ∈ s.faults) :
      Appended s log pushed rec none
        (((s.setLive (overlay (encodeHeader (log.messages.length + 1) pushed.nextId)
          (log.encode ++ writeRecordRaw rec) (min written headerSize))).withFaults faults).requireRecovery true)
  | stored (faults : List Fault) (rest : faults <:+ s.faults) (room : log.messages.length < backendMaxRecords s) :
      Appended s log pushed rec (some log.nextId)
        ((((s.setLive pushed.encode).withFaults faults).requireRecovery false).withIndex
          (pushed.messages.map indexEntry) s.identityIndexCapacity)
  | compacted (before after : Store) (capacity : Nat) (full : log.messages.length = backendMaxRecords s)
      (faults : List Fault) (rest : faults <:+ s.faults)
      (published : before = ((s.setLive pushed.encode).withFaults faults).requireRecovery false)
      (compaction : Compacted before pushed (backendCompactToRecords s) true after)
      (enough : backendMaxRecords s ≤ capacity) :
      Appended s log pushed rec (some log.nextId)
        (after.withIndex ((pushed.compacted (backendCompactToRecords s)).messages.map indexEntry) capacity)
  | uncompacted (before after : Store) (full : log.messages.length = backendMaxRecords s)
      (faults : List Fault) (rest : faults <:+ s.faults)
      (published : before = ((s.setLive pushed.encode).withFaults faults).requireRecovery false)
      (compaction : Compacted before pushed (backendCompactToRecords s) false after) :
      Appended s log pushed rec none after

theorem storeAppend_cases {s : Store} {old : List UInt8} (live : s.live = some old) (data : List UInt8) :
    (∃ written, .append written ∈ s.faults ∧
      storeAppend s data = (false, s.afterCall.setLive (old ++ data.take written))) ∨
    storeAppend s data = (true, s.afterCall.setLive (old ++ data)) := by
  unfold storeAppend
  rw [live, Option.getD_some]
  dsimp only
  split
  · rename_i written next
    exact Or.inl ⟨written, mem_of_nextFault next (by simp), rfl⟩
  · exact Or.inr rfl

theorem writeHeaderState_cases {s : Store} {old : List UInt8} {nextId : UInt32} (live : s.live = some old)
    (nonzero : nextId ≠ 0) (count : Nat) :
    (∃ written, .header written ∈ s.faults ∧
      writeHeaderState s count nextId =
        (false, s.afterCall.setLive (overlay (encodeHeader count nextId) old (min written headerSize)))) ∨
    writeHeaderState s count nextId =
      (true, s.afterCall.setLive (overlay (encodeHeader count nextId) old headerSize)) := by
  unfold writeHeaderState
  rw [if_neg nonzero, live, Option.getD_some]
  dsimp only
  split
  · rename_i written next
    exact Or.inl ⟨written, mem_of_nextFault next (by simp), rfl⟩
  · exact Or.inr rfl

section New

variable {s : Store} {log pushed : Log} {norm rec : StoredMessage}

theorem length_push (messages : pushed.messages = log.messages ++ [rec]) :
    pushed.messages.length = log.messages.length + 1 := by
  rw [messages, List.length_append, List.length_singleton]

theorem length_compacted (crowded : backendMaxRecords s < pushed.messages.length) :
    (pushed.compacted (backendCompactToRecords s)).messages.length = backendCompactToRecords s := by
  have compacts := backendCompactToRecords_le s
  exact length_compactedRecords (by omega)

theorem compactPublished_cases {before : Store} (holds : Holds before pushed)
    (crowded : backendMaxRecords before < pushed.messages.length) (storeId : UInt32) :
    ∃ ok after, Compacted before pushed (backendCompactToRecords before) ok after ∧
      ((ok = false ∧ compactPublished before storeId = (none, after)) ∨
        ∃ capacity, backendMaxRecords before ≤ capacity ∧ ok = true ∧ compactPublished before storeId =
          (some storeId, after.withIndex ((pushed.compacted (backendCompactToRecords before)).messages.map indexEntry)
            capacity)) := by
  have compacts := backendCompactToRecords_le before
  have length := length_compacted crowded
  have recovery := backendRecoveryMaxRecords_eq before
  have compaction := compactStoreToRecent_compacted holds (backendCompactToRecords_pos before) (by omega)
  unfold compactPublished
  generalize compactStoreToRecent before (backendCompactToRecords before) = outcome at compaction ⊢
  obtain ⟨ok, after⟩ := outcome
  dsimp only at compaction
  refine ⟨ok, after, compaction, ?_⟩
  cases compaction with
  | done temp faults rest cleared =>
    right
    have held : Holds (((before.setFile ⟨some (pushed.compacted (backendCompactToRecords before)).encode,
        temp⟩).withFaults faults).noteCompaction (unsentToDrop (backendCompactToRecords before) pushed.messages)
          (droppedRecords (backendCompactToRecords before) pushed.messages))
        (pushed.compacted (backendCompactToRecords before)) :=
      ⟨rfl, show _ ≤ backendRecoveryMaxRecords before by omega⟩
    obtain ⟨capacity, enough, rebuilt⟩ := rebuildIdentityIndex_holds held (show _ ≤ backendMaxRecords before by omega)
    refine ⟨capacity, enough, rfl, ?_⟩
    dsimp only
    rw [rebuilt]
  | failed file faults rest broken replaced => exact Or.inl ⟨rfl, rfl⟩

theorem publishRecord_appended (indexed : Indexed s log) (room : log.messages.length ≤ backendMaxRecords s)
    (messages : pushed.messages = log.messages ++ [rec]) (id : rec.storeId = log.nextId) {faults : List Fault}
    (rest : faults <:+ s.faults) :
    Appended s log pushed rec
      (publishRecord (((s.setLive (log.encode ++ writeRecordRaw rec)).withFaults faults).requireRecovery true) rec
        log.messages.length pushed.nextId).1
      (publishRecord (((s.setLive (log.encode ++ writeRecordRaw rec)).withFaults faults).requireRecovery true) rec
        log.messages.length pushed.nextId).2 := by
  have shorter : faults.tail <:+ s.faults := (List.tail_suffix _).trans rest
  have length := length_push messages
  have recovery := backendRecoveryMaxRecords_eq s
  unfold publishRecord
  rcases writeHeaderState_cases (s := ((s.setLive (log.encode ++ writeRecordRaw rec)).withFaults
    faults).requireRecovery true)
    rfl pushed.nextNonzero (log.messages.length + 1) with ⟨written, fault, torn⟩ | published
  · rw [torn]
    exact .tornHeader written faults.tail shorter (rest.subset fault)
  · rw [published, encode_push messages]
    dsimp only
    split
    · rename_i crowded
      have state : ((((s.setLive (log.encode ++ writeRecordRaw rec)).withFaults faults).requireRecovery
          true).afterCall.setLive pushed.encode).requireRecovery false =
          ((s.setLive pushed.encode).withFaults faults.tail).requireRecovery false := rfl
      have crowded' : backendMaxRecords s < log.messages.length + 1 := crowded
      rw [state]
      have holds : Holds (((s.setLive pushed.encode).withFaults faults.tail).requireRecovery false) pushed :=
        ⟨rfl, show _ ≤ backendRecoveryMaxRecords s by omega⟩
      obtain ⟨ok, after, compaction, ⟨rfl, failed⟩ | ⟨capacity, enough, rfl, done⟩⟩ :=
        compactPublished_cases holds (show backendMaxRecords s < _ by omega) rec.storeId
      · rw [failed]
        exact .uncompacted _ after (by omega) faults.tail shorter rfl compaction
      · rw [done, id]
        exact .compacted _ after capacity (by omega) faults.tail shorter rfl compaction enough
    · rename_i within
      have within' : ¬ backendMaxRecords s < log.messages.length + 1 := within
      have capacity := indexed.capacity
      have entries : s.identityIndex ++ [indexEntry rec] = pushed.messages.map indexEntry := by
        rw [indexed.entries, messages, List.map_append, List.map_singleton]
      have space : ¬ s.identityIndex.length ≥ s.identityIndexCapacity := by
        rw [indexed.entries, List.length_map]
        omega
      have nonzero : rec.storeId ≠ 0 := id ▸ log.nextNonzero
      have added := identityIndexAdd_of_room (s := (((s.setLive pushed.encode).withFaults faults.tail).requireRecovery
        false)) indexed.valid nonzero (Nat.not_le.mp space)
      change Appended s log pushed rec (some rec.storeId) (identityIndexAdd
        (((s.setLive pushed.encode).withFaults faults.tail).requireRecovery false) rec)
      rw [added, id, show (((s.setLive pushed.encode).withFaults faults.tail).requireRecovery false).identityIndex ++
        [indexEntry rec] = pushed.messages.map indexEntry from entries]
      exact .stored faults.tail shorter (by omega)

theorem appendNew_appended (holds : Holds s log) (indexed : Indexed s log)
    (room : log.messages.length ≤ backendMaxRecords s) (normal : storedMessageNormalize norm = norm) :
    ∃ pushed : Log, pushed.messages = log.messages ++ [norm.withId log.nextId] ∧
      pushed.nextId = log.following ∧
      Appended s log pushed (norm.withId log.nextId) (appendNew s norm).1 (appendNew s norm).2 := by
  have limit := backendMaxRecords_lt s
  obtain ⟨pushed, messages, next⟩ := log.exists_push normal (by omega)
  refine ⟨pushed, messages, next, ?_⟩
  have nonzero : log.following ≠ 0 := next ▸ pushed.nextNonzero
  have live : (s.requireRecovery true).live = some log.encode := holds.live
  unfold appendNew
  rw [holds.readHeader]
  dsimp only
  rw [nextUnusedIdAfter_indexed indexed, if_neg nonzero]
  rcases storeAppend_cases live (writeRecordRaw (norm.withId log.nextId)) with
    ⟨written, script, torn⟩ | whole
  · rw [torn]
    exact .tornRecord written s.faults.tail (List.tail_suffix _) script
  · rw [whole, ← next]
    exact publishRecord_appended indexed room messages rfl (List.tail_suffix _)

end New

end SigurdOS.MessageStore
