import SigurdOS.MessageStore.Attempt
import SigurdOS.MessageStore.Torn

namespace SigurdOS.MessageStore

open Bytes SigurdOS.Hal

section Temp

variable {s : Store} {messages : List StoredMessage} {nextId : UInt32} {recoveryMax written : Nat}

theorem take_of_validateStoreForRecovery (short : messages.length < 2 ^ 32)
    (valid : validateStoreForRecovery recoveryMax ((encodeStore messages nextId).take written) = true) :
    (encodeStore messages nextId).take written = encodeStore messages nextId ∧
      validateStore recoveryMax (encodeStore messages nextId) = true := by
  have whole : (encodeStore messages nextId).length = headerSize + messages.length * recordSize := by
    rw [encodeStore, List.length_append, length_encodeHeader, length_records, Nat.mul_comm]
  have size : ((encodeStore messages nextId).take written).length =
      min written (headerSize + messages.length * recordSize) := by
    rw [List.length_take, whole]
  have long : v4HeaderSize ≤ ((encodeStore messages nextId).take written).length := by
    by_contra tooShort
    rw [validateStoreForRecovery, if_pos (Or.inl (Nat.not_le.mp tooShort))] at valid
    cases valid
  have stamp : versionStamp.length = 5 := rfl
  have stamped : (encodeStore messages nextId).take written = versionStamp ++ ((leBytes 4 messages.length ++
      leBytes 4 nextId.toNat) ++ messages.flatMap writeRecordRaw).take (written - 5) := by
    rw [v4HeaderSize, size] at long
    rw [encodeStore, encodeHeader_stamped, List.append_assoc, List.take_append, stamp,
      List.take_of_length_le (by rw [stamp]; omega)]
  obtain ⟨magic, version⟩ := parseHeader_stamped (((leBytes 4 messages.length ++ leBytes 4 nextId.toNat) ++
    messages.flatMap writeRecordRaw).take (written - 5))
  rw [← stamped] at magic version
  have current : validateStore recoveryMax ((encodeStore messages nextId).take written) = true := by
    have readable : ¬ (((encodeStore messages nextId).take written).length < v4HeaderSize ∨
        (parseHeader ((encodeStore messages nextId).take written)).magic ≠ messageStoreMagic) :=
      not_or.mpr ⟨Nat.not_lt.mpr long, not_not_intro magic⟩
    rw [validateStoreForRecovery, if_neg readable, if_pos version] at valid
    exact valid
  have full : (encodeStore messages nextId).take written = encodeStore messages nextId := by
    by_contra cut
    have inside : written < headerSize + messages.length * recordSize := by
      by_contra beyond
      exact cut (List.take_of_length_le (by omega))
    unfold validateStore at current
    by_cases tooShort : ((encodeStore messages nextId).take written).length < headerSize
    · rw [if_pos (Or.inl tooShort)] at current
      cases current
    · have header : parseHeader ((encodeStore messages nextId).take written) =
          ⟨messageStoreMagic, messageStoreVersion, messages.length, nextId⟩ := by
        rw [encodeStore, List.take_append, List.take_of_length_le (by rw [length_encodeHeader]; omega)]
        exact parseHeader_encodeHeader _ _ short
      have wrong : ((encodeStore messages nextId).take written).length ≠ headerSize + messages.length * recordSize := by
        omega
      rw [header, if_pos (Or.inr (Or.inr (Or.inr (Or.inr (Or.inr wrong)))))] at current
      cases current
  rw [full] at current
  exact ⟨full, current⟩

/-- What a replacement leaves in the temp is what was there, or the whole new file, or nothing that
    the boot would take for a store. -/
theorem Replaced.temp {ok : Bool} {file : AtomicFile} (replaced : Replaced s messages nextId ok file)
    (normal : ∀ msg ∈ messages, storedMessageNormalize msg = msg) (fits : messages.length ≤ backendRecoveryMaxRecords s)
    {data : List UInt8} (pending : file.temp = some data)
    (valid : validateStoreForRecovery (backendRecoveryMaxRecords s) data = true) :
    s.files.file.temp = some data ∨
      ∃ log : Log, log.messages = messages ∧ log.nextId = nextId ∧ data = log.encode ∧ ok = false := by
  have limit := backendRecoveryMaxRecords_lt s
  cases replaced with
  | done log temp same next _ cleared =>
    rcases cleared.either with rfl | rfl
    · cases pending
    · exact Or.inl pending
  | kept temp left =>
    rcases left with rfl | rfl | ⟨-, written, rfl⟩
    · cases pending
    · exact Or.inl pending
    · obtain rfl := Option.some.inj pending
      obtain ⟨full, current⟩ := take_of_validateStoreForRecovery (by omega) valid
      obtain ⟨log, same, next⟩ := log_of_validateStore normal (by omega) current
      refine Or.inr ⟨log, same, next, ?_, rfl⟩
      rw [full, encodeStore_log same next]
  | pending log same next _ default fault =>
    obtain rfl := Option.some.inj pending
    exact Or.inr ⟨log, same, next, rfl, rfl⟩

end Temp

section Recover

variable {s : Store}

/-- What the boot makes of the live file and a temp beside it before it looks at the records. -/
inductive Recovered (s : Store) : AtomicFile → Prop
  | settled (kept : s.backend ≠ none ∨ s.files.file.temp = none) : Recovered s s.files.file
  | promoted (data : List UInt8) (default : s.backend = none) (pending : s.files.file.temp = some data)
      (valid : validateStoreForRecovery (backendRecoveryMaxRecords s) data = true) : Recovered s ⟨some data, none⟩
  | discarded (data : List UInt8) (default : s.backend = none) (pending : s.files.file.temp = some data)
      (invalid : validateStoreForRecovery (backendRecoveryMaxRecords s) data = false) : Recovered s ⟨s.live, none⟩

theorem recoverReplacement_recovered (sure : s.nextFault.recoverStep = none) :
    ∃ ok file, recoverReplacement s = (ok, s.afterCall.setFile file) ∧ Recovered s file ∧
      ¬ (ok = false ∧ file.live = none ∧ file.temp.isSome) := by
  unfold recoverReplacement
  rw [sure]
  cases chosen : s.backend with
  | some backend => exact ⟨true, s.files.file, rfl, .settled (Or.inl (by simp [chosen])), by simp⟩
  | none =>
    dsimp only
    cases pending : s.files.file.temp with
    | none =>
      rw [atomicFileRecover_without_temp _ _ pending]
      exact ⟨true, s.files.file, rfl, .settled (Or.inr pending), by simp⟩
    | some data =>
      cases valid : validateStoreForRecovery (backendRecoveryMaxRecords s) data with
      | true =>
        rw [atomicFileRecover_promotes pending valid]
        exact ⟨true, _, rfl, .promoted data chosen pending valid, by simp⟩
      | false =>
        rw [atomicFileRecover_discards pending valid]
        exact ⟨_, _, rfl, .discarded data chosen pending valid, by simp⟩

theorem messageStoreBegin_recovered (sure : s.nextFault.recoverStep = none) :
    ∃ file, Recovered s file ∧ messageStoreBegin s = beginMigrate ((s.report .clean).afterCall.setFile file) := by
  obtain ⟨ok, file, done, recovered, goes⟩ := recoverReplacement_recovered (s := s.report .clean) sure
  refine ⟨file, ?_, ?_⟩
  · cases recovered with
    | settled kept => exact .settled kept
    | promoted data default pending valid => exact .promoted data default pending valid
    | discarded data default pending invalid => exact .discarded data default pending invalid
  · rw [messageStoreBegin, done]
    exact if_neg goes

theorem beginMigrate_missing (live : s.live = none) :
    ∃ ok file faults, faults <:+ s.faults ∧ Replaced s [] 1 ok file ∧ (s.faults = [] → ok = true) ∧
      ((ok = false ∧ beginMigrate s = (false, ((s.setFile file).withFaults faults).report .failed)) ∨
        ∃ capacity, ok = true ∧ backendMaxRecords s ≤ capacity ∧ beginMigrate s =
          (true, (((s.setFile file).withFaults faults).withIndex [] capacity).requireRecovery false)) := by
  have normal : ∀ msg ∈ ([] : List StoredMessage), storedMessageNormalize msg = msg := by simp
  obtain ⟨file, faults, after, rest, replaced⟩ := replaceFile_replaced s 1 normal
  have creates : writeHeaderIfNeeded s = replaceFile s [] 1 := by
    rw [writeHeaderIfNeeded, readHeader_missing live]
    dsimp only
    rw [live, if_neg (by simp), atomicReplaceStore_of_nextId s [] (by decide)]
  have works : s.faults = [] → (replaceFile s [] 1).1 = true := by
    intro working
    obtain ⟨temp, -, done⟩ := replaceFile_works Log.empty working (Nat.zero_le _)
    exact congrArg Prod.fst done
  have skips : beginMigrate s = beginFinish s := by
    rw [beginMigrate, migrateOlderStore, live]
    dsimp only
    rw [if_pos rfl, beginRepair, repairInterruptedAppend, live]
    rfl
  rw [skips, beginFinish, creates]
  generalize replaceFile s [] 1 = outcome at after replaced works ⊢
  obtain ⟨ok, before⟩ := outcome
  dsimp only at after replaced works
  subst after
  refine ⟨ok, file, faults, rest, replaced, works, ?_⟩
  cases ok with
  | false => exact Or.inl ⟨rfl, rfl⟩
  | true =>
    cases replaced with
    | done log temp same next fits cleared =>
      obtain rfl : log = Log.empty := Log.ext same next
      have holds : Holds ((s.setFile ⟨some Log.empty.encode, temp⟩).withFaults faults) Log.empty :=
        ⟨rfl, Nat.zero_le _⟩
      obtain ⟨capacity, enough, rebuilt⟩ := rebuildIdentityIndex_holds holds (Nat.zero_le _)
      have small : ¬ Log.empty.messages.length >
          backendMaxRecords ((s.setFile ⟨some Log.empty.encode, temp⟩).withFaults faults) := Nat.not_lt_zero _
      refine Or.inr ⟨capacity, rfl, enough, ?_⟩
      dsimp only
      rw [compactIfOver, holds.readHeader]
      dsimp only
      rw [if_neg small]
      dsimp only
      rw [rebuilt]
      rfl

end Recover

end SigurdOS.MessageStore
