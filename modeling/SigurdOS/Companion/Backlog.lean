import SigurdOS.Companion.Isolation
import SigurdOS.MessageStore.Run

namespace SigurdOS.MessageStore

/-- On a working medium the readers find a log, possibly with a torn append behind it, or no store. -/
structure Stocked (store : Store) (messages : List StoredMessage) : Prop where
  working : store.faults = []
  content : (∃ (log : Log) (rest : List UInt8), store.live = some (log.encode ++ rest) ∧ log.messages = messages ∧
      messages.length ≤ backendRecoveryMaxRecords store) ∨
    (readHeader store = none ∧ messages = [])

section Stocked

variable {store : Store} {messages : List StoredMessage}

theorem Steady.stocked {log : Log} (steady : Steady store log) : Stocked store log.messages := by
  rcases steady with serves | ⟨blank, rfl⟩
  · exact ⟨serves.working, Or.inl ⟨log, [], by rw [List.append_nil]; exact serves.holds.live, rfl, serves.holds.fits⟩⟩
  · exact ⟨blank.working, Or.inr ⟨readHeader_missing blank.live, rfl⟩⟩

theorem Stocked.nodup (stocked : Stocked store messages) : (messages.map (·.storeId)).Nodup := by
  rcases stocked.content with ⟨log, -, -, rfl, -⟩ | ⟨-, rfl⟩
  · exact log.unique
  · exact .nil

theorem Stocked.nonzero (stocked : Stocked store messages) {msg : StoredMessage} (member : msg ∈ messages) :
    msg.storeId ≠ 0 := by
  rcases stocked.content with ⟨log, -, -, rfl, -⟩ | ⟨-, rfl⟩
  · exact log.nonzero msg member
  · cases member

theorem reads_front {log : Log} {rest : List UInt8} (live : store.live = some (log.encode ++ rest))
    (fits : log.messages.length ≤ backendRecoveryMaxRecords store) :
    readHeader store = some (log.messages.length, log.nextId) ∧
      readPayload store log.messages.length headerSize recordSize = some (log.messages.map writeRecordRaw) := by
  have file : store.live = some (encodeHeader log.messages.length log.nextId ++
      (log.messages.flatMap writeRecordRaw ++ rest)) := by
    rw [live, Log.encode, encodeStore, List.append_assoc]
  exact ⟨readHeader_encoded file fits log.nextNonzero, readPayload_encoded file (length_encodeHeader _ _)⟩

theorem Stocked.unsent (stocked : Stocked store messages) (max : Nat) :
    messageStoreLoadUnsent store max = (messages.filter unsentIncoming).take max := by
  rw [messageStoreLoadUnsent, loadUnsentInternal]
  rcases stocked.content with ⟨log, rest, live, rfl, fits⟩ | ⟨missing, rfl⟩
  · obtain ⟨header, payload⟩ := reads_front live fits
    rw [header]
    dsimp only
    rw [payload]
    dsimp only
    rw [filterMap_written, map_normalize]
  · rw [missing]
    exact List.take_nil.symm

theorem Stocked.count (stocked : Stocked store messages) : messageStoreCount store = messages.length := by
  rw [messageStoreCount]
  rcases stocked.content with ⟨log, rest, live, rfl, fits⟩ | ⟨missing, rfl⟩
  · rw [(reads_front live fits).1]
  · rw [missing]
    rfl

theorem Stocked.records (stocked : Stocked store messages) : store.records = messages := by
  rw [Store.records, stocked.count, messageStoreLoadAll, loadAllInternal]
  rcases stocked.content with ⟨log, rest, live, rfl, fits⟩ | ⟨missing, rfl⟩
  · obtain ⟨header, payload⟩ := reads_front live fits
    rw [header]
    dsimp only
    rw [Nat.min_self, payload]
    dsimp only
    rw [filterMap_written, map_normalize]
  · rw [missing]

theorem sendFirst_of_absent {storeId : UInt32} (absent : storeId ∉ messages.map (·.storeId)) :
    sendFirst storeId messages = messages := by
  induction messages with
  | nil => rfl
  | cons msg rest ih =>
    simp only [List.map_cons, List.mem_cons, not_or] at absent
    rw [sendFirst, if_neg (Ne.symm absent.1), ih absent.2]

theorem sendFirst_of_sent {storeId : UInt32} {msg : StoredMessage}
    (found : messages.find? (fun msg => msg.storeId == storeId) = some msg) (sent : msg.companionSent = true) :
    sendFirst storeId messages = messages := by
  induction messages with
  | nil => cases found
  | cons head rest ih =>
    rw [sendFirst]
    by_cases same : head.storeId = storeId
    · rw [List.find?_cons_of_pos (by simp [same])] at found
      obtain rfl := Option.some.inj found
      rw [if_pos same, ← sent]
    · rw [List.find?_cons_of_neg (by simp [same])] at found
      rw [if_neg same, ih found]

theorem length_sendFirst (storeId : UInt32) (messages : List StoredMessage) :
    (sendFirst storeId messages).length = messages.length := (sendFirst_marked storeId messages).length_eq.symm

theorem Stocked.mark (stocked : Stocked store messages) {storeId : UInt32} (nonzero : storeId ≠ 0) :
    (messageStoreMarkCompanionSent store storeId).1 = decide (storeId ∈ messages.map (·.storeId)) ∧
      Stocked (messageStoreMarkCompanionSent store storeId).2 (sendFirst storeId messages) := by
  rw [messageStoreMarkCompanionSent, if_neg nonzero]
  rcases stocked.content with ⟨log, rest, live, rfl, fits⟩ | ⟨missing, rfl⟩
  · obtain ⟨header, payload⟩ := reads_front live fits
    have loaded : messageStoreLoadAll store log.messages.length = log.messages := by
      rw [← stocked.count]
      exact stocked.records
    rw [header]
    dsimp only
    rw [loaded]
    split
    · rename_i unusable
      rcases unusable with empty | long
      · have none : log.messages = [] := List.length_eq_zero_iff.mp empty
        rw [none]
        refine ⟨rfl, ?_⟩
        rw [none] at stocked
        exact stocked
      · omega
    rw [if_neg (by simp)]
    split
    · rename_i absent
      have gone : storeId ∉ log.messages.map (·.storeId) := by
        intro member
        obtain ⟨msg, inside, same⟩ := List.mem_map.mp member
        have unmatched := List.find?_eq_none.mp absent msg inside
        simp [same] at unmatched
      rw [sendFirst_of_absent gone, decide_eq_false gone]
      exact ⟨rfl, stocked⟩
    · rename_i msg found
      have member : storeId ∈ log.messages.map (·.storeId) := by
        have same := List.find?_some found
        exact List.mem_map.mpr ⟨msg, List.mem_of_find?_eq_some found, by simpa using same⟩
      rw [decide_eq_true member]
      split
      · rename_i sent
        rw [sendFirst_of_sent found sent]
        exact ⟨rfl, stocked⟩
      · obtain ⟨marked, same, next⟩ := log.exists_marked (sendFirst_marked storeId log.messages)
        have short : marked.messages.length ≤ backendRecoveryMaxRecords store := by
          rw [same, length_sendFirst]
          exact fits
        obtain ⟨temp, -, done⟩ := replaceFile_works marked stocked.working short
        rw [atomicReplaceStore_keeps_next_id header, ← next, ← same, done]
        refine ⟨rfl, stocked.working, Or.inl ⟨marked, [], ?_, rfl, short⟩⟩
        rw [List.append_nil]
        rfl
  · rw [missing]
    exact ⟨rfl, stocked⟩

end Stocked

end SigurdOS.MessageStore

namespace SigurdOS.Companion

open Bytes MessageStore

section Page

variable {σ : Type} (h : CompanionBridgeHost σ) (host : σ) (version : UInt8)

variable {h host version} {queue : List Frame} {messages : List StoredMessage}

end Page

end SigurdOS.Companion
