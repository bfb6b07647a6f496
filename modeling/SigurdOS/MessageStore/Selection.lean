import SigurdOS.MessageStore.Migration

namespace SigurdOS.MessageStore

open Retention

section Loop

/-- The variables of the survivor loop of `compactStoreToRecent`. -/
structure SurvivorLoop where
  messages : List StoredMessage
  kept : Nat
  skippedUnsent : Nat
  skippedOthers : Nat

/-- One round of the loop: the record is skipped, or moved down to the next free place of the same array. -/
def survivorStep (unsentDrop othersDrop : Nat) (loop : SurvivorLoop) (index : Nat) : SurvivorLoop :=
  match loop.messages[index]? with
  | none => loop
  | some msg =>
    if unsentIncoming msg && loop.skippedUnsent < unsentDrop then
      { loop with skippedUnsent := loop.skippedUnsent + 1 }
    else if !unsentIncoming msg && loop.skippedOthers < othersDrop then
      { loop with skippedOthers := loop.skippedOthers + 1 }
    else { loop with messages := loop.messages.set loop.kept msg, kept := loop.kept + 1 }

def survivorLoop (unsentDrop othersDrop : Nat) (messages : List StoredMessage) : SurvivorLoop :=
  (List.range messages.length).foldl (survivorStep unsentDrop othersDrop) ⟨messages, 0, 0, 0⟩

variable {unsentDrop othersDrop : Nat} {messages : List StoredMessage}

/-- Nothing that is still to be read has been overwritten, and what was moved down is what has been kept. -/
structure SurvivorInv (unsentDrop othersDrop : Nat) (messages : List StoredMessage) (index : Nat)
    (loop : SurvivorLoop) :
    Prop where
  behind : loop.kept ≤ index
  unread : loop.messages.drop index = messages.drop index
  length : loop.messages.length = messages.length
  result : loop.messages.take loop.kept ++ skipOldest unsentIncoming (unsentDrop - loop.skippedUnsent)
      (othersDrop - loop.skippedOthers) (messages.drop index) = skipOldest unsentIncoming unsentDrop othersDrop messages

theorem SurvivorInv.moved {index : Nat} {loop : SurvivorLoop} {msg : StoredMessage} (inside : index < messages.length)
    (inv : SurvivorInv unsentDrop othersDrop messages index loop)
    (kept : skipOldest unsentIncoming (unsentDrop - loop.skippedUnsent) (othersDrop - loop.skippedOthers)
        (messages.drop index) = msg :: skipOldest unsentIncoming (unsentDrop - loop.skippedUnsent)
        (othersDrop - loop.skippedOthers) (messages.drop (index + 1))) :
    SurvivorInv unsentDrop othersDrop messages (index + 1)
      { loop with messages := loop.messages.set loop.kept msg, kept := loop.kept + 1 } := by
  obtain ⟨behind, unread, length, result⟩ := inv
  have moved : (loop.messages.set loop.kept msg).take (loop.kept + 1) = loop.messages.take loop.kept ++ [msg] := by
    rw [List.take_succ_eq_append_getElem (by rw [List.length_set]; omega), List.take_set_of_le (le_refl _),
      List.getElem_set_self]
  refine ⟨by dsimp only; omega, ?_, by rw [List.length_set, length], ?_⟩
  · rw [List.drop_set_of_lt (by omega), ← List.drop_drop, unread, List.drop_drop]
  · dsimp only
    rw [moved, List.append_assoc, List.singleton_append, ← kept, result]

theorem survivorStep_inv {index : Nat} {loop : SurvivorLoop} (inside : index < messages.length)
    (inv : SurvivorInv unsentDrop othersDrop messages index loop) :
    SurvivorInv unsentDrop othersDrop messages (index + 1) (survivorStep unsentDrop othersDrop loop index) := by
  have here : messages.drop index = messages[index] :: messages.drop (index + 1) := List.drop_eq_getElem_cons inside
  have read : loop.messages[index]? = some messages[index] := by
    rw [← List.head?_drop, inv.unread, here, List.head?_cons]
  have later : loop.messages.drop (index + 1) = messages.drop (index + 1) := by
    rw [← List.drop_drop, inv.unread, List.drop_drop]
  have behind : loop.kept ≤ index + 1 := inv.behind.trans (Nat.le_succ index)
  have result := inv.result
  generalize messages[index] = msg at here read
  unfold survivorStep
  rw [read]
  dsimp only
  by_cases unsent : unsentIncoming msg = true
  · by_cases skips : loop.skippedUnsent < unsentDrop
    · have more : unsentDrop - loop.skippedUnsent = unsentDrop - (loop.skippedUnsent + 1) + 1 := by omega
      rw [here, more] at result
      rw [if_pos (by simp [unsent, skips])]
      refine ⟨behind, later, inv.length, ?_⟩
      simpa only [skipOldest, unsent, ite_true] using result
    · rw [if_neg (by simp [skips]), if_neg (by simp [unsent])]
      apply inv.moved inside
      rw [here, show unsentDrop - loop.skippedUnsent = 0 by omega]
      simp only [skipOldest, unsent, ite_true]
  · by_cases skips : loop.skippedOthers < othersDrop
    · have more : othersDrop - loop.skippedOthers = othersDrop - (loop.skippedOthers + 1) + 1 := by omega
      rw [here, more] at result
      rw [if_neg (by simp [unsent]), if_pos (by simp [unsent, skips])]
      refine ⟨behind, later, inv.length, ?_⟩
      simpa only [skipOldest, unsent, ite_false, Bool.false_eq_true] using result
    · rw [if_neg (by simp [unsent]), if_neg (by simp [skips])]
      apply inv.moved inside
      rw [here, show othersDrop - loop.skippedOthers = 0 by omega]
      simp only [skipOldest, unsent, ite_false, Bool.false_eq_true]

theorem survivorLoop_eq (unsentDrop othersDrop : Nat) (messages : List StoredMessage) :
    (survivorLoop unsentDrop othersDrop messages).messages.take (survivorLoop unsentDrop othersDrop messages).kept =
      skipOldest unsentIncoming unsentDrop othersDrop messages := by
  have rounds (count : Nat) (bound : count ≤ messages.length) : SurvivorInv unsentDrop othersDrop messages count
      ((List.range count).foldl (survivorStep unsentDrop othersDrop) ⟨messages, 0, 0, 0⟩) := by
    induction count with
    | zero => exact ⟨le_refl _, rfl, rfl, by simp⟩
    | succ count ih =>
      rw [List.range_succ, List.foldl_append]
      exact survivorStep_inv (by omega) (ih (by omega))
  have last := (rounds messages.length (le_refl _)).result
  have none : skipOldest unsentIncoming (unsentDrop - (survivorLoop unsentDrop othersDrop messages).skippedUnsent)
      (othersDrop - (survivorLoop unsentDrop othersDrop messages).skippedOthers) [] = [] :=
    List.eq_nil_of_sublist_nil (skipOldest_sublist _ _ _ _)
  rw [List.drop_length] at last
  change _ ++ skipOldest unsentIncoming (unsentDrop - (survivorLoop unsentDrop othersDrop messages).skippedUnsent)
    (othersDrop - (survivorLoop unsentDrop othersDrop messages).skippedOthers) [] = _ at last
  rw [none, List.append_nil] at last
  exact last

end Loop

/-- What a compaction to `maxRecords` records is to keep: records in their order, the newest unsent ones first
    of all and, in the places that these leave, the newest of the others. -/
structure Selected (maxRecords : Nat) (messages kept : List StoredMessage) : Prop where
  subsequence : kept.Sublist messages
  length : kept.length = maxRecords
  unsent : kept.filter unsentIncoming =
    newest (min (messages.countP unsentIncoming) maxRecords) (messages.filter unsentIncoming)
  others : kept.filter (fun msg => !unsentIncoming msg) =
    newest (maxRecords - min (messages.countP unsentIncoming) maxRecords)
      (messages.filter (fun msg => !unsentIncoming msg))

theorem compactedRecords_selected {maxRecords : Nat} {messages : List StoredMessage}
    (crowded : maxRecords < messages.length) : Selected maxRecords messages (compactedRecords maxRecords messages) where
  subsequence := compactedRecords_sublist _ _
  length := length_compactedRecords crowded
  unsent := by
    rw [compactedRecords, skipOldest_filter, newest, ← List.countP_eq_length_filter]
    congr 1
    unfold unsentToDrop
    dsimp only
    split <;> omega
  others := by
    have parts : messages.countP (fun msg => !unsentIncoming msg) =
        messages.length - messages.countP unsentIncoming := by
      have both := List.length_eq_countP_add_countP unsentIncoming (l := messages)
      simp only [Bool.not_eq_true, Bool.decide_eq_false] at both
      omega
    have bound : messages.countP unsentIncoming ≤ messages.length := List.countP_le_length
    rw [compactedRecords, skipOldest_filter_not, newest, ← List.countP_eq_length_filter, parts]
    congr 1
    unfold othersToDrop unsentToDrop
    dsimp only
    split <;> split <;> omega

theorem unsentToDrop_eq (maxRecords : Nat) (messages : List StoredMessage) :
    unsentToDrop maxRecords messages =
      messages.countP unsentIncoming - (compactedRecords maxRecords messages).countP unsentIncoming := by
  have bound : unsentToDrop maxRecords messages ≤ messages.countP unsentIncoming := by
    unfold unsentToDrop
    dsimp only
    split <;> omega
  rw [List.countP_eq_length_filter (l := compactedRecords maxRecords messages), compactedRecords, skipOldest_filter,
    List.length_drop, ← List.countP_eq_length_filter]
  omega

theorem readHeader_nextId {s : Store} {count : Nat} {nextId : UInt32} (read : readHeader s = some (count, nextId)) :
    nextId ≠ 0 := by
  unfold readHeader at read
  split at read
  · cases read
  · dsimp only at read
    split at read
    · cases read
    · rename_i usable
      obtain ⟨-, rfl⟩ := Prod.mk.inj (Option.some.inj read)
      simp only [not_or] at usable
      exact usable.2.2.2.1

/-- A compaction that succeeds: the loop over the array of records leaves the selected ones, and the store then
    reads exactly these as writing normalizes them, under the same next ID and with every unsent record that
    it gave up counted. -/
theorem compaction_selection_law {s after : Store} {messages : List StoredMessage} {nextId : UInt32} {maxRecords : Nat}
    (reads : Reads s messages nextId) (positive : 0 < maxRecords) (crowded : maxRecords < messages.length)
    (rewritten : compactStoreToRecent s maxRecords = (true, after)) :
    ∃ kept, Selected maxRecords messages kept ∧ Reads after (kept.map storedMessageNormalize) nextId ∧
      kept = (survivorLoop (unsentToDrop maxRecords messages) (othersToDrop maxRecords messages) messages).messages.take
        (survivorLoop (unsentToDrop maxRecords messages) (othersToDrop maxRecords messages) messages).kept ∧
      after.companionBacklogDropCount = s.companionBacklogDropCount +
        UInt32.ofNat (messages.countP unsentIncoming - kept.countP unsentIncoming) := by
  have nonzero := readHeader_nextId reads.header
  have normal : ∀ msg ∈ (compactedRecords maxRecords messages).map storedMessageNormalize,
      storedMessageNormalize msg = msg := by
    intro msg member
    obtain ⟨source, -, rfl⟩ := List.mem_map.mp member
    exact storedMessageNormalize_idempotent source
  obtain ⟨file, faults, stored, -, replaced⟩ := replaceFile_replaced s nextId normal
  rw [compactStoreToRecent_over reads nonzero positive crowded, ← replaceFile_normalize] at rewritten
  generalize replaceFile s ((compactedRecords maxRecords messages).map storedMessageNormalize) nextId = outcome
    at rewritten stored replaced
  obtain ⟨ok, next⟩ := outcome
  dsimp only at rewritten stored replaced
  cases ok with
  | false => cases rewritten
  | true =>
    obtain rfl := (Prod.mk.inj rewritten).2
    subst stored
    refine ⟨compactedRecords maxRecords messages, compactedRecords_selected crowded, ?_,
      (survivorLoop_eq _ _ _).symm, ?_⟩
    · cases replaced with
      | done log temp same next fits _ =>
        have holds : Holds (((s.setFile ⟨some log.encode, temp⟩).withFaults faults).noteCompaction
            (unsentToDrop maxRecords messages) (droppedRecords maxRecords messages)) log := ⟨rfl, same ▸ fits⟩
        rw [← same, ← next]
        exact holds.reads
    · rw [← unsentToDrop_eq]
      rfl

/-- Three short records, the first of which bears no timestamp; the second has reached the companion. -/
def threeRecords : List StoredMessage :=
  let record := (recordBase []).withId 1
  [record, { record with storeId := 2, timestamp := 8, companionSent := true },
    { record with storeId := 3, timestamp := 9 }]

/-- A file of these records as they are: nothing that the module writes bears the timestamp 0. -/
def threeRecordStore : Store :=
  .holding none ((encodeStore threeRecords 4).take 241 ++ List.replicate 4 0 ++ (encodeStore threeRecords 4).drop 245)

theorem threeRecordStore_reads : Reads threeRecordStore threeRecords 4 := ⟨by decide +kernel, by decide +kernel⟩

theorem threeRecords_selected : ∃ kept, Selected 2 threeRecords kept ∧
    Reads (compactStoreToRecent threeRecordStore 2).2 (kept.map storedMessageNormalize) 4 := by
  have done : (compactStoreToRecent threeRecordStore 2).1 = true := by decide +kernel
  generalize result : compactStoreToRecent threeRecordStore 2 = outcome at done
  obtain ⟨ok, after⟩ := outcome
  subst done
  obtain ⟨kept, selected, stored, -, -⟩ :=
    compaction_selection_law threeRecordStore_reads (by decide) (by decide) result
  exact ⟨kept, selected, stored⟩

/-- The record without a timestamp is among the two that are kept, and is stamped as it is written. -/
theorem unstamped_compaction : Reads threeRecordStore threeRecords 4 ∧
    (compactStoreToRecent threeRecordStore 2).1 = true ∧
      ¬ (compactStoreToRecent threeRecordStore 2).2.records.Sublist threeRecords :=
  ⟨threeRecordStore_reads, by decide +kernel, by decide +kernel⟩

end SigurdOS.MessageStore
