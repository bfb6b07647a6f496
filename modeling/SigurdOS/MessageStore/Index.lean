import SigurdOS.MessageStore.Log

namespace SigurdOS.MessageStore

theorem sameIdentity_swap {a b : StoredMessage} (same : storedMessageSameIdentity a b = true) :
    storedMessageSameIdentity b a = true := by
  unfold storedMessageSameIdentity sameString at same ⊢
  simp only [Bool.and_eq_true, beq_iff_eq] at same ⊢
  obtain ⟨⟨⟨⟨⟨⟨⟨⟨conversation, sender⟩, text⟩, timestamp⟩, txtType⟩, extraLen⟩, extra⟩, self⟩, channel⟩ := same
  have swapped : (if hasPrefix b = true ∧ hasPrefix a = true then b.senderPrefix.bytes == a.senderPrefix.bytes
      else b.sender.chars.take senderLen == a.sender.chars.take senderLen) = true := by
    split at sender
    · rename_i both
      rw [if_pos ⟨both.2, both.1⟩, beq_iff_eq]
      exact (beq_iff_eq.mp sender).symm
    · rename_i missing
      rw [if_neg (fun both => missing ⟨both.2, both.1⟩), beq_iff_eq]
      exact (beq_iff_eq.mp sender).symm
  rw [extraLen] at extra
  exact ⟨⟨⟨⟨⟨⟨⟨⟨conversation.symm, swapped⟩, text.symm⟩, timestamp.symm⟩, txtType.symm⟩, extraLen.symm⟩, extra.symm⟩,
    self.symm⟩, channel.symm⟩

theorem identityHash_of_sameIdentity {a b : StoredMessage} (same : storedMessageSameIdentity a b = true) :
    identityHash a = identityHash b := by
  unfold storedMessageSameIdentity sameString at same
  simp only [Bool.and_eq_true, beq_iff_eq] at same
  obtain ⟨⟨⟨⟨⟨⟨⟨⟨conversation, -⟩, text⟩, timestamp⟩, txtType⟩, extraLen⟩, extra⟩, self⟩, channel⟩ := same
  have hashed : a.extra.bytes.take (if a.extraLen ≤ 8 then a.extraLen.toNat else extraSize) =
      b.extra.bytes.take (if b.extraLen ≤ 8 then b.extraLen.toNat else extraSize) := by
    rw [← extraLen]
    split
    · exact extra
    · rename_i long
      have large : extraSize ≤ a.extraLen.toNat := by
        have above := UInt8.lt_iff_toNat_lt.mp (UInt8.not_le.mp long)
        exact Nat.le_of_lt above
      rw [List.take_of_length_le (by rw [a.extra.length_eq]; exact large),
        List.take_of_length_le (by rw [b.extra.length_eq]; exact large)] at extra
      rw [extra]
  unfold identityHash
  rw [conversation, text, timestamp, txtType, hashed, extraLen, self, channel]

theorem storedMessageSameIdentity_self (msg : StoredMessage) : storedMessageSameIdentity msg msg = true := by
  unfold storedMessageSameIdentity sameString
  simp

def Log.lookup (log : Log) (msg : StoredMessage) : Option UInt32 :=
  (log.messages.find? (fun stored => storedMessageSameIdentity stored msg)).map (·.storeId)

structure Indexed (s : Store) (log : Log) : Prop where
  valid : s.identityIndexValid = true
  entries : s.identityIndex = log.messages.map indexEntry
  capacity : backendMaxRecords s ≤ s.identityIndexCapacity

theorem identityIndexAdd_of_room {s : Store} {msg : StoredMessage} (valid : s.identityIndexValid = true)
    (nonzero : msg.storeId ≠ 0) (room : s.identityIndex.length < s.identityIndexCapacity) :
    identityIndexAdd s msg = s.withIndex (s.identityIndex ++ [indexEntry msg]) s.identityIndexCapacity := by
  simp only [identityIndexAdd, valid, beq_iff_eq, nonzero, Nat.not_le.mpr room, Bool.not_true,
    Bool.false_or, Bool.or_eq_true, decide_eq_true_eq, or_self, ite_false, Store.withIndex]

theorem foldl_identityIndexAdd {s : Store} {messages : List StoredMessage} (valid : s.identityIndexValid = true)
    (nonzero : ∀ msg ∈ messages, msg.storeId ≠ 0)
    (room : s.identityIndex.length + messages.length ≤ s.identityIndexCapacity) :
    messages.foldl identityIndexAdd s =
      s.withIndex (s.identityIndex ++ messages.map indexEntry) s.identityIndexCapacity := by
  induction messages generalizing s with
  | nil => simp [Store.withIndex, ← valid]
  | cons msg rest ih =>
    rw [List.length_cons] at room
    rw [List.foldl_cons, identityIndexAdd_of_room valid (nonzero msg (by simp)) (by omega), ih]
    · simp [Store.withIndex]
    · rfl
    · exact fun other member => nonzero other (List.mem_cons_of_mem _ member)
    · simp only [Store.withIndex, List.length_append, List.length_cons, List.length_nil]
      omega

section Index

variable {s : Store} {log : Log}

theorem le_identityIndexCapacity (s : Store) (capacity : Nat) :
    capacity ≤ (ensureIdentityIndexCapacity s capacity).identityIndexCapacity := by
  unfold ensureIdentityIndexCapacity
  split
  · assumption
  · exact Nat.le_refl _

theorem rebuildIdentityIndex_reads {messages : List StoredMessage} {nextId : UInt32}
    (reads : Reads s messages nextId) (nonzero : ∀ msg ∈ messages, msg.storeId ≠ 0)
    (bound : messages.length ≤ backendMaxRecords s) :
    ∃ capacity, backendMaxRecords s ≤ capacity ∧
      rebuildIdentityIndex s = (true, s.withIndex (messages.map indexEntry) capacity) := by
  have cleared (start : Store) : ∃ capacity, backendMaxRecords start ≤ capacity ∧
      identityIndexClear start = start.withIndex [] capacity := ⟨_, le_identityIndexCapacity _ _, rfl⟩
  unfold rebuildIdentityIndex
  rw [reads.header]
  dsimp only
  rw [if_neg (by omega)]
  split
  · rename_i none
    obtain ⟨capacity, enough, clear⟩ := cleared s
    refine ⟨capacity, enough, ?_⟩
    rw [clear, List.length_eq_zero_iff.mp none]
    rfl
  · have grown : ∃ capacity, ensureIdentityIndexCapacity s messages.length =
        { s with identityIndexCapacity := capacity } := by
      unfold ensureIdentityIndexCapacity
      split
      · exact ⟨_, rfl⟩
      · exact ⟨_, rfl⟩
    obtain ⟨grownCapacity, grown⟩ := grown
    obtain ⟨capacity, enough, clear⟩ := cleared { s with identityIndexCapacity := grownCapacity }
    refine ⟨capacity, enough, ?_⟩
    rw [reads.loadAll, if_neg (by simp), grown, clear]
    rw [foldl_identityIndexAdd rfl nonzero]
    · rfl
    · change 0 + messages.length ≤ capacity
      have enough' : backendMaxRecords s ≤ capacity := enough
      omega

theorem rebuildIdentityIndex_holds (holds : Holds s log) (bound : log.messages.length ≤ backendMaxRecords s) :
    ∃ capacity, backendMaxRecords s ≤ capacity ∧
      rebuildIdentityIndex s = (true, s.withIndex (log.messages.map indexEntry) capacity) :=
  rebuildIdentityIndex_reads holds.reads log.nonzero bound

theorem rebuildIdentityIndex_over (holds : Holds s log) (crowded : backendMaxRecords s < log.messages.length) :
    rebuildIdentityIndex s = (false, s.withoutIndex) := by
  unfold rebuildIdentityIndex
  rw [holds.readHeader]
  dsimp only
  rw [if_pos crowded]

theorem matchIndexed_indexEntry (holds : Holds s log) {stored : StoredMessage} (member : stored ∈ log.messages)
    (msg : StoredMessage) :
    matchIndexed s msg (indexEntry stored) =
      if storedMessageSameIdentity stored msg then some stored.storeId else none := by
  unfold matchIndexed indexEntry
  dsimp only
  rw [holds.getById (log.nonzero stored member), log.find_of_mem member]
  dsimp only
  by_cases same : storedMessageSameIdentity stored msg = true
  · rw [if_neg (by simpa using identityHash_of_sameIdentity same)]
  · rw [if_neg same, ite_self]

theorem findSome_matchIndexed (holds : Holds s log) (msg : StoredMessage) {messages : List StoredMessage}
    (inside : ∀ stored ∈ messages, stored ∈ log.messages) :
    (messages.map indexEntry).findSome? (matchIndexed s msg) =
      (messages.find? (fun stored => storedMessageSameIdentity stored msg)).map (·.storeId) := by
  induction messages with
  | nil => rfl
  | cons stored rest ih =>
    have here := matchIndexed_indexEntry holds (inside stored (by simp)) msg
    have later := ih (fun other member => inside other (List.mem_cons_of_mem _ member))
    rw [List.map_cons, List.findSome?_cons, here, List.find?_cons, later]
    cases same : storedMessageSameIdentity stored msg with
    | true => simp only [ite_true, Option.map_some]
    | false => simp only [Bool.false_eq_true, ite_false]

theorem messageExists_indexed (holds : Holds s log) (indexed : Indexed s log) (msg : StoredMessage) :
    messageExists s msg = (log.lookup msg, s) := by
  have scan := findSome_matchIndexed holds msg (fun stored (member : stored ∈ log.messages) => member)
  unfold messageExists Log.lookup
  rw [if_pos indexed.valid, ← scan, ← indexed.entries]

theorem Log.lookup_eq_none {msg : StoredMessage} :
    log.lookup msg = none ↔ ∀ stored ∈ log.messages, storedMessageSameIdentity stored msg = false := by
  rw [Log.lookup, Option.map_eq_none_iff, List.find?_eq_none]
  simp only [Bool.not_eq_true]

theorem Log.lookup_eq_some {msg : StoredMessage} {id : UInt32} (found : log.lookup msg = some id) :
    ∃ stored ∈ log.messages, storedMessageSameIdentity stored msg = true ∧ stored.storeId = id := by
  obtain ⟨stored, first, same⟩ := Option.map_eq_some_iff.mp found
  have matched : storedMessageSameIdentity stored msg = true := by simpa using List.find?_some first
  exact ⟨stored, List.mem_of_find?_eq_some first, matched, same⟩

end Index

end SigurdOS.MessageStore
