import SigurdOS.MessageStore.Replacement

namespace SigurdOS.MessageStore

open SigurdOS.Hal Retention

theorem compactedRecords_sublist (maxRecords : Nat) (messages : List StoredMessage) :
    (compactedRecords maxRecords messages).Sublist messages := skipOldest_sublist _ _ _ _

theorem compactedRecords_map {f : StoredMessage → StoredMessage}
    (same : ∀ msg, unsentIncoming (f msg) = unsentIncoming msg) (maxRecords : Nat) (messages : List StoredMessage) :
    compactedRecords maxRecords (messages.map f) = (compactedRecords maxRecords messages).map f := by
  have counted : (messages.map f).countP unsentIncoming = messages.countP unsentIncoming := by
    rw [List.countP_map]
    exact List.countP_congr (fun msg _ => by rw [Function.comp_apply, same])
  have drop : unsentToDrop maxRecords (messages.map f) = unsentToDrop maxRecords messages := by
    rw [unsentToDrop, unsentToDrop, counted]
  have others : othersToDrop maxRecords (messages.map f) = othersToDrop maxRecords messages := by
    rw [othersToDrop, othersToDrop, counted, drop, List.length_map]
  rw [compactedRecords, drop, others, skipOldest_map unsentIncoming f same, compactedRecords]

theorem length_compactedRecords {maxRecords : Nat} {messages : List StoredMessage}
    (crowded : maxRecords < messages.length) : (compactedRecords maxRecords messages).length = maxRecords := by
  have inside : messages.countP unsentIncoming ≤ messages.length := List.countP_le_length
  rw [compactedRecords, length_skipOldest]
  unfold othersToDrop unsentToDrop
  dsimp only
  split <;> split <;> omega

theorem newest_mem_compactedRecords {maxRecords : Nat} {messages : List StoredMessage} {newest : StoredMessage}
    (positive : 0 < maxRecords) (fresh : newest ∉ messages) (crowded : maxRecords ≤ messages.length) :
    newest ∈ compactedRecords maxRecords (messages ++ [newest]) ↔
      unsentIncoming newest = true ∨ messages.countP unsentIncoming < maxRecords := by
  have inside : messages.countP unsentIncoming ≤ messages.length := List.countP_le_length
  have absent (first second : Nat) : newest ∉ skipOldest unsentIncoming first second messages :=
    fun member => fresh ((skipOldest_sublist _ _ _ _).subset member)
  rw [compactedRecords, skipOldest_append_singleton, List.mem_append]
  simp only [absent, false_or]
  unfold othersToDrop unsentToDrop
  rw [List.length_append, List.length_singleton, List.countP_append, List.countP_singleton]
  by_cases unsent : unsentIncoming newest = true
  · simp only [unsent, ite_true, true_or, iff_true]
    rw [if_neg]
    · exact List.mem_singleton_self _
    · split <;> omega
  · simp only [unsent, ite_false, false_or, Bool.false_eq_true, Nat.add_zero]
    by_cases room : messages.countP unsentIncoming < maxRecords
    · simp only [room, iff_true]
      rw [if_neg]
      · exact List.mem_singleton_self _
      · split <;> split <;> omega
    · simp only [room, iff_false]
      rw [if_pos]
      · simp
      · split <;> split <;> omega

theorem atomicReplaceStore_of_nextId {nextId : UInt32} (s : Store) (messages : List StoredMessage)
    (nonzero : nextId ≠ 0) :
    atomicReplaceStore s messages nextId = replaceFile s messages nextId := by
  rw [atomicReplaceStore, if_neg nonzero]

def Log.compacted (log : Log) (maxRecords : Nat) : Log :=
  log.retain (compactedRecords maxRecords log.messages) (compactedRecords_sublist _ _)

section Compact

variable {s : Store} {log : Log} {maxRecords : Nat}

theorem compactStoreToRecent_over {messages : List StoredMessage} {nextId : UInt32} (reads : Reads s messages nextId)
    (nonzero : nextId ≠ 0) (positive : 0 < maxRecords) (crowded : maxRecords < messages.length) :
    compactStoreToRecent s maxRecords =
      match replaceFile s (compactedRecords maxRecords messages) nextId with
      | (false, after) => (false, after)
      | (true, after) => (true, after.noteCompaction (unsentToDrop maxRecords messages)
          (droppedRecords maxRecords messages)) := by
  rw [compactStoreToRecent, if_neg (by omega), reads.header]
  dsimp only
  rw [if_neg (by omega), reads.records]
  exact atomicReplaceStore_of_nextId s (compactedRecords maxRecords messages) nonzero ▸ rfl

inductive Compacted (s : Store) (log : Log) (maxRecords : Nat) : Bool → Store → Prop
  | done (temp : Option (List UInt8)) (faults : List Fault) (rest : faults <:+ s.faults)
      (cleared : Cleared s temp) :
      Compacted s log maxRecords true
        (((s.setFile ⟨some (log.compacted maxRecords).encode, temp⟩).withFaults faults).noteCompaction
          (unsentToDrop maxRecords log.messages) (droppedRecords maxRecords log.messages))
  | failed (file : AtomicFile) (faults : List Fault) (rest : faults <:+ s.faults) (broken : s.faults ≠ [])
      (replaced : Replaced s (log.compacted maxRecords).messages log.nextId false file) :
      Compacted s log maxRecords false ((s.setFile file).withFaults faults)

theorem compactStoreToRecent_compacted (holds : Holds s log) (positive : 0 < maxRecords)
    (crowded : maxRecords < log.messages.length) :
    Compacted s log maxRecords (compactStoreToRecent s maxRecords).1 (compactStoreToRecent s maxRecords).2 := by
  have fits := holds.fits
  have length : (log.compacted maxRecords).messages.length = maxRecords := length_compactedRecords crowded
  obtain ⟨file, faults, after, rest, replaced⟩ := replaceFile_replaced s log.nextId (log.compacted maxRecords).normal
  have works : s.faults = [] → (replaceFile s (log.compacted maxRecords).messages log.nextId).1 = true := by
    intro working
    obtain ⟨temp, -, done⟩ := replaceFile_works (log.compacted maxRecords) working (by omega)
    exact congrArg Prod.fst done
  have result := compactStoreToRecent_over holds.reads log.nextNonzero positive crowded
  change _ = match replaceFile s (log.compacted maxRecords).messages log.nextId with
    | (false, after) => (false, after)
    | (true, after) => (true, _) at result
  rw [result]
  generalize replaceFile s (log.compacted maxRecords).messages log.nextId = outcome at after replaced works ⊢
  obtain ⟨ok, next⟩ := outcome
  dsimp only at after replaced works
  subst after
  cases ok with
  | true =>
    cases replaced with
    | done kept temp same nextId _ cleared =>
      obtain rfl : kept = log.compacted maxRecords := Log.ext same nextId
      exact .done temp faults rest cleared
  | false => exact .failed file faults rest (fun working => absurd (works working) (by simp)) replaced

end Compact

end SigurdOS.MessageStore
