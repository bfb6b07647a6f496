import SigurdOS.MessageStore.Log

namespace SigurdOS.MessageStore

open Bytes SigurdOS.Hal

section Validated

variable {messages : List StoredMessage} {nextId : UInt32} {recoveryMax : Nat}

theorem idsUnique_iff {ids : List UInt32} : idsUnique ids = true ↔ (∀ id ∈ ids, id ≠ 0) ∧ ids.Nodup := by
  rw [idsUnique, Bool.and_eq_true, List.all_eq_true, decide_eq_true_eq]
  simp only [bne_iff_ne]

theorem slots_encodeStore (messages : List StoredMessage) (nextId : UInt32) :
    slots recordSize messages.length ((encodeStore messages nextId).drop headerSize) = messages.map writeRecordRaw := by
  rw [encodeStore, List.drop_left' (length_encodeHeader _ _)]
  simpa using slots_flatMap writeRecordRaw messages [] (fun msg _ => length_writeRecordRaw msg)

theorem log_of_ids (normal : ∀ msg ∈ messages, storedMessageNormalize msg = msg) (nextNonzero : nextId ≠ 0)
    (valid : idsUnique (messages.map (·.storeId)) = true)
    (fresh : (messages.map (·.storeId)).all (fun id => id != nextId) = true) :
    ∃ log : Log, log.messages = messages ∧ log.nextId = nextId := by
  obtain ⟨nonzero, unique⟩ := idsUnique_iff.mp valid
  have free : nextId ∉ messages.map (·.storeId) := by
    intro member
    have different := List.all_eq_true.mp fresh nextId member
    simp at different
  exact ⟨⟨messages, nextId, normal, fun msg member => nonzero _ (List.mem_map_of_mem member), unique,
    nextNonzero, free⟩,
    rfl, rfl⟩

theorem log_of_validateStore (normal : ∀ msg ∈ messages, storedMessageNormalize msg = msg)
    (small : messages.length < 2 ^ 32) (valid : validateStore recoveryMax (encodeStore messages nextId) = true) :
    ∃ log : Log, log.messages = messages ∧ log.nextId = nextId := by
  have parsed : parseHeader (encodeStore messages nextId) =
      ⟨messageStoreMagic, messageStoreVersion, messages.length, nextId⟩ := parseHeader_encodeHeader _ _ small
  have ids : (messages.map writeRecordRaw).map read32 = messages.map (·.storeId) := by
    rw [List.map_map]
    exact List.map_congr_left (fun msg _ => read32_writeRecordRaw msg)
  unfold validateStore at valid
  rw [parsed] at valid
  dsimp only at valid
  split at valid
  · cases valid
  · rename_i header
    simp only [not_or] at header
    rw [slots_encodeStore, ids, Bool.and_eq_true] at valid
    exact log_of_ids normal header.2.2.2.2.1 valid.1 valid.2

theorem log_of_validateStoreBytes (normal : ∀ msg ∈ messages, storedMessageNormalize msg = msg)
    (small : messages.length < 2 ^ 32) (valid : validateStoreBytes recoveryMax (encodeStore messages nextId) = true) :
    ∃ log : Log, log.messages = messages ∧ log.nextId = nextId := by
  have parsed : parseHeader (encodeStore messages nextId) =
      ⟨messageStoreMagic, messageStoreVersion, messages.length, nextId⟩ := parseHeader_encodeHeader _ _ small
  have read : (messages.map writeRecordRaw).mapM readRecordRaw = some messages := by
    rw [mapM_written]
    congr 1
    conv_rhs => rw [← List.map_id messages]
    exact List.map_congr_left normal
  unfold validateStoreBytes at valid
  rw [parsed] at valid
  dsimp only at valid
  split at valid
  · cases valid
  · rename_i header
    simp only [not_or] at header
    rw [slots_encodeStore, read] at valid
    dsimp only at valid
    rw [Bool.and_eq_true] at valid
    exact log_of_ids normal header.2.2.2.1 valid.1 valid.2

end Validated

theorem afterCall_of_working {s : Store} (working : s.faults = []) : s.afterCall = s := by
  obtain ⟨⟩ := s
  obtain rfl : _ = [] := working
  rfl

theorem nextFault_of_working {s : Store} (working : s.faults = []) : s.nextFault = .none := by
  rw [Store.nextFault, working]
  rfl

theorem mem_of_nextFault {s : Store} {fault : Fault} (next : s.nextFault = fault) (real : fault ≠ .none) :
    fault ∈ s.faults := by
  unfold Store.nextFault at next
  cases script : s.faults with
  | nil =>
    rw [script] at next
    exact absurd next.symm real
  | cons head rest =>
    rw [script, List.headD_cons] at next
    rw [next]
    exact List.mem_cons_self

theorem backendRecoveryMaxRecords_lt (s : Store) : backendRecoveryMaxRecords s < 2 ^ 31 := by
  rw [backendRecoveryMaxRecords_eq]
  exact backendMaxRecords_lt s

/-- A replacement that went through has used up the temp; a registered backend has none. -/
def Cleared (s : Store) (temp : Option (List UInt8)) : Prop :=
  temp = none ∨ s.backend ≠ none ∧ temp = s.files.file.temp

theorem Cleared.either {s : Store} {temp : Option (List UInt8)} (cleared : Cleared s temp) :
    temp = none ∨ temp = s.files.file.temp := cleared.imp_right And.right

theorem Cleared.settled {s : Store} {temp : Option (List UInt8)} (cleared : Cleared s temp)
    (settled : s.files.file.temp = none) : temp = none :=
  cleared.elim id (fun old => old.2.trans settled)

/-- The outcomes of a whole-file replacement. Besides the live file only the temp moves, and the live
    file disappears only when the final rename fails. -/
inductive Replaced (s : Store) (messages : List StoredMessage) (nextId : UInt32) : Bool → AtomicFile → Prop
  | done (log : Log) (temp : Option (List UInt8)) (same : log.messages = messages) (next : log.nextId = nextId)
      (fits : messages.length ≤ backendRecoveryMaxRecords s) (cleared : Cleared s temp) :
      Replaced s messages nextId true ⟨some log.encode, temp⟩
  | kept (temp : Option (List UInt8))
      (left : temp = none ∨ temp = s.files.file.temp ∨
        s.backend = none ∧ ∃ written, temp = some ((encodeStore messages nextId).take written)) :
      Replaced s messages nextId false ⟨s.live, temp⟩
  | pending (log : Log) (same : log.messages = messages) (next : log.nextId = nextId)
      (fits : messages.length ≤ backendRecoveryMaxRecords s) (default : s.backend = none)
      (fault : .replace .rename ∈ s.faults) :
      Replaced s messages nextId false ⟨none, some log.encode⟩

section Replace

variable {s after : Store} {messages : List StoredMessage} {nextId : UInt32}

theorem encodeStore_log {log : Log} (same : log.messages = messages) (next : log.nextId = nextId) :
    encodeStore messages nextId = log.encode := by
  rw [Log.encode, same, next]

theorem atomicFileReplace_replaced {ok : Bool} {file : AtomicFile} {fault : Option ReplaceFault}
    (default : s.backend = none)
    (normal : ∀ msg ∈ messages, storedMessageNormalize msg = msg)
    (script : fault = some .rename → .replace .rename ∈ s.faults)
    (replaced : atomicFileReplace s.files.file
      (if nextId = 0 ∨ messages.length > backendRecoveryMaxRecords s then none else some (encodeStore messages nextId))
      (validateStore (backendRecoveryMaxRecords s)) fault = (ok, file)) :
    Replaced s messages nextId ok file := by
  have limit := backendRecoveryMaxRecords_lt s
  obtain ⟨live, temp⟩ := file
  rcases atomicFileReplace_cases replaced with ⟨rfl, data, content, valid, after⟩ | ⟨rfl, kept, left⟩ |
    ⟨rfl, renamed, data, content, valid, after⟩
  · split at content
    · cases content
    · rename_i written
      obtain rfl := Option.some.inj content
      obtain ⟨log, same, next⟩ := log_of_validateStore normal (by omega) valid
      rw [after, encodeStore_log same next]
      exact .done log none same next (by omega) (Or.inl rfl)
  · dsimp only at kept left
    subst kept
    refine .kept temp ?_
    rcases left with old | gone | ⟨written, part⟩
    · exact Or.inr (Or.inl old)
    · exact Or.inl gone
    · split at part
      · rw [Option.getD_none, List.take_nil] at part
        exact Or.inr (Or.inr ⟨default, 0, by rw [part, List.take_zero]⟩)
      · exact Or.inr (Or.inr ⟨default, written, part⟩)
  · split at content
    · cases content
    · rename_i written
      obtain rfl := Option.some.inj content
      obtain ⟨log, same, next⟩ := log_of_validateStore normal (by omega) valid
      rw [after, encodeStore_log same next]
      exact .pending log same next (by omega) default (script renamed)

theorem replaceFile_replaced (s : Store) (nextId : UInt32)
    (normal : ∀ msg ∈ messages, storedMessageNormalize msg = msg) :
    ∃ file faults, (replaceFile s messages nextId).2 = (s.setFile file).withFaults faults ∧
      faults <:+ s.faults ∧ Replaced s messages nextId (replaceFile s messages nextId).1 file := by
  have limit := backendRecoveryMaxRecords_lt s
  have unchanged : Replaced s messages nextId false s.files.file := .kept _ (Or.inr (Or.inl rfl))
  unfold replaceFile
  split
  · rename_i chosen
    split
    · exact ⟨s.files.file, s.faults, rfl, List.suffix_refl _, unchanged⟩
    · split
      · rename_i fits valid
        obtain ⟨log, same, next⟩ := log_of_validateStoreBytes normal (by omega) valid
        rw [encodeStore_log same next]
        split
        · exact ⟨s.files.file, s.faults.tail, rfl, List.tail_suffix _, unchanged⟩
        · exact ⟨⟨some log.encode, s.files.file.temp⟩, s.faults.tail, rfl, List.tail_suffix _,
            .done log _ same next (by omega) (Or.inr ⟨by simp [chosen], rfl⟩)⟩
      · exact ⟨s.files.file, s.faults, rfl, List.suffix_refl _, unchanged⟩
  · rename_i default
    refine ⟨_, s.faults.tail, rfl, List.tail_suffix _, atomicFileReplace_replaced default normal ?_ rfl⟩
    intro renamed
    apply mem_of_nextFault _ (by decide)
    cases next : s.nextFault with
    | replace step =>
      rw [next] at renamed
      exact congrArg Fault.replace (Option.some.inj renamed)
    | _ =>
      rw [next] at renamed
      cases renamed

theorem replaceFile_works (log : Log) (working : s.faults = [])
    (fits : log.messages.length ≤ backendRecoveryMaxRecords s) :
    ∃ temp, Cleared s temp ∧
      replaceFile s log.messages log.nextId = (true, s.setFile ⟨some log.encode, temp⟩) := by
  have limit := backendRecoveryMaxRecords_lt s
  have valid := validateStoreBytes_encode log fits (by omega)
  have validTemp := validateStore_encode log fits (by omega)
  unfold replaceFile
  rw [nextFault_of_working working, afterCall_of_working working, encodeStore_log rfl rfl]
  split
  · rename_i chosen
    rw [if_neg (by omega), if_pos valid]
    exact ⟨s.files.file.temp, Or.inr ⟨by simp [chosen], rfl⟩, rfl⟩
  · have content : ¬ (log.nextId = 0 ∨ log.messages.length > backendRecoveryMaxRecords s) := by
      rintro (zero | long)
      · exact log.nextNonzero zero
      · omega
    rw [if_neg content]
    refine ⟨none, Or.inl rfl, ?_⟩
    change ((atomicFileReplace s.files.file (some log.encode) _ none).1,
      s.setFile (atomicFileReplace s.files.file (some log.encode) _ none).2) = _
    rw [atomicFileReplace_success validTemp]

end Replace

end SigurdOS.MessageStore
