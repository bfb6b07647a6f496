import SigurdOS.MessageStore.Run

namespace SigurdOS.MessageStore

open Bytes Runs

theorem Holds.getById_eq_some {s : Store} {log : Log} (holds : Holds s log) {id : UInt32} {found : StoredMessage}
    (nonzero : id ≠ 0) : messageStoreGetById s id = some found ↔ found ∈ log.messages ∧ found.storeId = id := by
  rw [holds.getById nonzero]
  constructor
  · intro first
    exact ⟨List.mem_of_find?_eq_some first, by simpa using List.find?_some first⟩
  · rintro ⟨member, rfl⟩
    exact log.find_of_mem member

/-- The ID leads to a record of the message's identity. -/
def Retrieves (s : Store) (id : UInt32) (msg : StoredMessage) : Prop :=
  id ≠ 0 ∧ ∃ found, messageStoreGetById s id = some found ∧
    storedMessageSameIdentity found (storedMessageNormalize msg) = true

/-- The message would be the newest of a full store, is not protected as unsent backlog, and the
    backlog alone fills the compacted store. -/
def CompactionDropsNewest (s : Store) (msg : StoredMessage) : Prop :=
  (∀ stored ∈ s.records, storedMessageSameIdentity stored (storedMessageNormalize msg) = false) ∧
  messageStoreCount s = backendMaxRecords s ∧ (msg.isSelf = true ∨ msg.companionSent = true) ∧
  backendCompactToRecords s ≤ s.records.countP unsentIncoming

theorem unsentIncoming_eq_false (msg : StoredMessage) (id : UInt32) :
    unsentIncoming ((storedMessageNormalize msg).withId id) = false ↔ msg.isSelf = true ∨ msg.companionSent = true := by
  change (!msg.isSelf && !msg.companionSent) = false ↔ _
  cases msg.isSelf <;> cases msg.companionSent <;> simp

section Append

variable {s after : Store} {log stored : Log} {msg : StoredMessage}

theorem newest_mem_recordsAfter (steady : Steady s log) (absent : log.lookup (storedMessageNormalize msg) = none) :
    (storedMessageNormalize msg).withId log.nextId ∈
        recordsAfter s (log.messages ++ [(storedMessageNormalize msg).withId log.nextId]) ↔
      ¬ CompactionDropsNewest s msg := by
  have bound := steady.bound
  have compacts := backendCompactToRecords_le s
  have unsent := unsentIncoming_eq_false msg log.nextId
  have fresh : (storedMessageNormalize msg).withId log.nextId ∉ log.messages :=
    fun member => log.nextFresh (List.mem_map_of_mem member)
  unfold recordsAfter CompactionDropsNewest
  rw [steady.records, steady.count, List.length_append, List.length_singleton,
    and_iff_right (Log.lookup_eq_none.mp absent)]
  split
  · rename_i crowded
    rw [newest_mem_compactedRecords (backendCompactToRecords_pos s) fresh (by omega)]
    have full : log.messages.length = backendMaxRecords s := by omega
    simp only [full, true_and, ← unsent]
    cases unsentIncoming ((storedMessageNormalize msg).withId log.nextId) with
    | true => simp
    | false => simp
  · rename_i within
    have room : ¬ log.messages.length = backendMaxRecords s := by omega
    simp [room]

theorem retrieves_newest (steady : Steady s log) (served : Serves after stored)
    (absent : log.lookup (storedMessageNormalize msg) = none)
    (messages : stored.messages = recordsAfter s (log.messages ++ [(storedMessageNormalize msg).withId log.nextId])) :
    Retrieves after log.nextId msg ↔ ¬ CompactionDropsNewest s msg := by
  rw [← newest_mem_recordsAfter steady absent, ← messages]
  constructor
  · rintro ⟨nonzero, found, got, same⟩
    obtain ⟨member, id⟩ := (served.holds.getById_eq_some nonzero).mp got
    have inside : found ∈ log.messages ++ [(storedMessageNormalize msg).withId log.nextId] := by
      rw [messages, recordsAfter] at member
      split at member
      · exact (compactedRecords_sublist _ _).subset member
      · exact member
    rcases List.mem_append.mp inside with old | new
    · exact absurd (id ▸ List.mem_map_of_mem old) log.nextFresh
    · exact List.mem_singleton.mp new ▸ member
  · intro member
    have same : storedMessageSameIdentity ((storedMessageNormalize msg).withId log.nextId)
        (storedMessageNormalize msg) =
        true := storedMessageSameIdentity_self _
    exact ⟨log.nextNonzero, _, (served.holds.getById_eq_some log.nextNonzero).mpr ⟨member, rfl⟩, same⟩

end Append

/-- In every reachable state an append succeeds, and the ID it returns leads to the message exactly
    when the compaction it may trigger does not drop the new record itself. -/
theorem append_retrievable_iff (backend : Option MessageStoreBackend) (ops : List Op) (msg : StoredMessage) :
    ∃ id after, messageStoreAppend (run exec (Store.initial backend) ops) msg = (some id, after) ∧
      (Retrieves after id msg ↔ ¬ CompactionDropsNewest (run exec (Store.initial backend) ops) msg) := by
  obtain ⟨log, steady⟩ := run_steady backend ops
  generalize run exec (Store.initial backend) ops = s at steady ⊢
  rcases messageStoreAppend_steady steady msg with
    ⟨stored, member, same, done, serves⟩ | ⟨absent, after, stored, done, served, -, -, messages⟩
  · refine ⟨stored.storeId, s, done, ?_⟩
    have nonzero := log.nonzero stored member
    have kept : ¬ CompactionDropsNewest s msg := by
      rintro ⟨absent, -⟩
      have different := absent stored (steady.records ▸ member)
      rw [same] at different
      cases different
    refine iff_of_true ⟨nonzero, stored, ?_, same⟩ kept
    exact (serves.holds.getById_eq_some nonzero).mpr ⟨member, rfl⟩
  · exact ⟨log.nextId, after, done, retrieves_newest steady served absent messages⟩

section FullBacklog

def sampleMessage (timestamp : UInt32) (isSelf : Bool) : StoredMessage where
  storeId := 0
  conversation := ⟨[], by simp, by simp⟩
  sender := ⟨[], by simp, by simp⟩
  text := ⟨[], by simp, by simp⟩
  timestamp := timestamp
  senderPrefix := ⟨List.replicate prefixLen 0, by simp⟩
  rssi := 0
  snrQuarters := 0
  pathLen := 0
  txtType := 0
  attempt := 0
  extraLen := 0
  extra := ⟨List.replicate extraSize 0, by simp⟩
  isSelf := isSelf
  isChannel := false
  acked := false
  confirmationLost := false
  companionSent := false
  routeFlood := false
  routeKnown := false
  attemptKnown := false

/-- The first incoming messages of a run, one per second. -/
def arrivals (count : Nat) : List Op :=
  (List.range count).map (fun i => Op.append (sampleMessage (UInt32.ofNat (i + 1)) false))

def arrivedRecords (count : Nat) : List StoredMessage :=
  (List.range count).map (fun i => (sampleMessage (UInt32.ofNat (i + 1)) false).withId (UInt32.ofNat (i + 1)))

theorem arrivedRecords_succ (count : Nat) : arrivedRecords (count + 1) =
    arrivedRecords count ++ [(sampleMessage (UInt32.ofNat (count + 1)) false).withId (UInt32.ofNat (count + 1))] := by
  rw [arrivedRecords, List.range_succ, List.map_append, List.map_singleton]
  rfl

theorem sampleMessage_normal {timestamp : UInt32} (nonzero : timestamp ≠ 0) (isSelf : Bool) :
    storedMessageNormalize (sampleMessage timestamp isSelf) = sampleMessage timestamp isSelf := by
  have text : truncatedText (sampleMessage timestamp isSelf).text.chars = (sampleMessage timestamp isSelf).text := by
    ext1
    exact List.take_nil
  have conversation : (sampleMessage timestamp isSelf).conversation.truncate (conversationLen - 1) =
      (sampleMessage timestamp isSelf).conversation := CString.truncate_of_le (by simp [sampleMessage])
  have sender : (sampleMessage timestamp isSelf).sender.truncate (senderLen - 1) =
      (sampleMessage timestamp isSelf).sender := CString.truncate_of_le (by simp [sampleMessage])
  unfold storedMessageNormalize
  rw [text, conversation, sender]
  simp [sampleMessage, nonzero]

theorem sampleMessage_sameIdentity {first second : UInt32} {firstSelf secondSelf : Bool}
    (same : storedMessageSameIdentity (sampleMessage first firstSelf) (sampleMessage second secondSelf) = true) :
    first = second := by
  unfold storedMessageSameIdentity at same
  simp only [Bool.and_eq_true, beq_iff_eq] at same
  exact same.1.1.1.1.1.2

theorem toNat_ofNat32 {value : Nat} (small : value < 2 ^ 32) : (UInt32.ofNat value).toNat = value :=
  UInt32.toNat_ofNat_of_lt' small

theorem ofNat_ne_zero {value : Nat} (positive : 0 < value) (small : value < 2 ^ 32) : UInt32.ofNat value ≠ 0 := by
  intro zero
  have number := congrArg UInt32.toNat zero
  rw [toNat_ofNat32 small, UInt32.toNat_zero] at number
  omega

theorem arrivedRecords_absent {count stamp : Nat} (later : count < stamp) (small : stamp < 2 ^ 32) (isSelf : Bool)
    (stored : StoredMessage) (member : stored ∈ arrivedRecords count) :
    storedMessageSameIdentity stored (sampleMessage (UInt32.ofNat stamp) isSelf) = false := by
  obtain ⟨i, inside, rfl⟩ := List.mem_map.mp member
  rw [List.mem_range] at inside
  rw [Bool.eq_false_iff]
  intro same
  have stamps : UInt32.ofNat stamp = UInt32.ofNat (i + 1) := sampleMessage_sameIdentity (sameIdentity_swap same)
  have equal := congrArg UInt32.toNat stamps
  rw [toNat_ofNat32 small, toNat_ofNat32 (by omega)] at equal
  omega

theorem arrivedRecords_below {count : Nat} (small : count < 2 ^ 32) :
    ∀ id ∈ (arrivedRecords count).map (·.storeId), id.toNat ≤ count := by
  intro id member
  obtain ⟨stored, inside, rfl⟩ := List.mem_map.mp member
  obtain ⟨i, index, rfl⟩ := List.mem_map.mp inside
  rw [List.mem_range] at index
  change (UInt32.ofNat (i + 1)).toNat ≤ count
  rw [toNat_ofNat32 (by omega)]
  omega

theorem backendMaxRecords_default {s : Store} (default : s.backend = none) : backendMaxRecords s = 512 := by
  rw [backendMaxRecords, default]
  rfl

theorem backendCompactToRecords_default {s : Store} (default : s.backend = none) : backendCompactToRecords s = 448 := by
  rw [backendCompactToRecords, default]
  rfl

theorem nextAfter_ofNat {value : Nat} (small : value + 1 < 2 ^ 32) :
    nextAfter (UInt32.ofNat value) = UInt32.ofNat (value + 1) := by
  have notMax : UInt32.ofNat value ≠ 0xFFFFFFFF := by
    intro last
    have number := congrArg UInt32.toNat last
    rw [toNat_ofNat32 (by omega)] at number
    change value = 2 ^ 32 - 1 at number
    omega
  rw [← UInt32.toNat_inj, nextAfter_toNat notMax, toNat_ofNat32 small, toNat_ofNat32 (by omega)]

theorem arrivals_steady {count : Nat} (within : count ≤ 512) :
    ∃ log, Steady (run exec (Store.initial none) (arrivals count)) log ∧
      (run exec (Store.initial none) (arrivals count)).backend = none ∧ log.messages = arrivedRecords count ∧
      log.nextId = UInt32.ofNat (count + 1) := by
  induction count with
  | zero => exact ⟨Log.empty, Or.inr ⟨initial_blank none, rfl⟩, rfl, rfl, rfl⟩
  | succ count ih =>
    obtain ⟨log, steady, default, messages, next⟩ := ih (by omega)
    have ops : arrivals (count + 1) = arrivals count ++ [.append (sampleMessage (UInt32.ofNat (count + 1)) false)] := by
      rw [arrivals, List.range_succ, List.map_append, List.map_singleton]
      rfl
    rw [ops, run_concat]
    generalize run exec (Store.initial none) (arrivals count) = s at steady default ⊢
    have normal : storedMessageNormalize (sampleMessage (UInt32.ofNat (count + 1)) false) = _ :=
      sampleMessage_normal (ofNat_ne_zero (Nat.succ_pos _) (by omega)) false
    have absent := arrivedRecords_absent (Nat.lt_succ_self count) (show count + 1 < 2 ^ 32 by omega) false
    have follow : log.following = UInt32.ofNat (count + 2) := by
      rw [log.following_of_ascending, next, nextAfter_ofNat (by omega)]
      · intro id member
        have below := arrivedRecords_below (show count < 2 ^ 32 by omega) id (messages ▸ member)
        rw [UInt32.lt_iff_toNat_lt, next, toNat_ofNat32 (by omega)]
        omega
      · rw [next]
        intro last
        have number := congrArg UInt32.toNat last
        rw [toNat_ofNat32 (by omega)] at number
        change count + 1 = 2 ^ 32 - 1 at number
        omega
    rcases messageStoreAppend_steady steady (sampleMessage (UInt32.ofNat (count + 1)) false) with
      ⟨stored, member, same, -⟩ | ⟨-, after, stored, done, served, backend, nextId, records⟩
    · rw [normal, absent stored (messages ▸ member)] at same
      cases same
    · have result : exec s (.append (sampleMessage (UInt32.ofNat (count + 1)) false)) = after := by
        rw [exec, perform, done]
      have length : (arrivedRecords count).length = count := by rw [arrivedRecords, List.length_map, List.length_range]
      rw [result]
      refine ⟨stored, Or.inl served, backend.trans default, ?_, nextId.trans follow⟩
      rw [records, normal, messages, next, ← arrivedRecords_succ, recordsAfter,
        backendMaxRecords_default default, if_neg]
      rw [arrivedRecords_succ, List.length_append, List.length_singleton, length]
      omega

theorem countP_arrivedRecords (count : Nat) : (arrivedRecords count).countP unsentIncoming = count := by
  have all : ∀ msg ∈ arrivedRecords count, unsentIncoming msg = true := by
    intro msg member
    obtain ⟨i, -, rfl⟩ := List.mem_map.mp member
    rfl
  rw [List.countP_eq_length.mpr all, arrivedRecords, List.length_map, List.length_range]

/-- The default store full of undelivered messages acknowledges a sent one and drops it. -/
theorem acknowledged_append_dropped :
    ∃ id after, messageStoreAppend (run exec (Store.initial none) (arrivals 512)) (sampleMessage 513 true) =
      (some id, after) ∧ ¬ Retrieves after id (sampleMessage 513 true) := by
  obtain ⟨log, steady, default, messages, next⟩ := arrivals_steady (Nat.le_refl 512)
  generalize run exec (Store.initial none) (arrivals 512) = s at steady default ⊢
  have normal : storedMessageNormalize (sampleMessage 513 true) = sampleMessage 513 true :=
    sampleMessage_normal (by decide) true
  have absent : ∀ stored ∈ log.messages,
      storedMessageSameIdentity stored (storedMessageNormalize (sampleMessage 513 true)) = false := by
    rw [messages, normal]
    exact arrivedRecords_absent (show 512 < 513 by decide) (by decide) true
  have drops : CompactionDropsNewest s (sampleMessage 513 true) := by
    refine ⟨steady.records ▸ absent, ?_, Or.inl rfl, ?_⟩
    · rw [steady.count, messages, backendMaxRecords_default default, arrivedRecords, List.length_map, List.length_range]
    · rw [steady.records, messages, countP_arrivedRecords, backendCompactToRecords_default default]
      decide
  rcases messageStoreAppend_steady steady (sampleMessage 513 true) with
    ⟨stored, member, same, -⟩ | ⟨missing, after, stored, done, served, -, -, records⟩
  · rw [absent stored member] at same
    cases same
  · exact ⟨log.nextId, after, done, fun got => (retrieves_newest steady served missing records).mp got drops⟩

end FullBacklog

end SigurdOS.MessageStore
