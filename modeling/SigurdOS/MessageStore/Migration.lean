import SigurdOS.MessageStore.AnyFile

namespace SigurdOS.MessageStore

open Bytes SigurdOS.Hal

def olderHeaderSize (version : UInt8) : Nat := if version = 4 then v4HeaderSize else headerSize

/-- The complete records of a version 4 or 5 file. -/
def olderRecords (bytes : List UInt8) : List (List UInt8) :=
  slots v5RecordSize ((bytes.length - olderHeaderSize (parseHeader bytes).version) / v5RecordSize)
    (bytes.drop (olderHeaderSize (parseHeader bytes).version))

theorem length_olderRecords (bytes : List UInt8) : (olderRecords bytes).length =
    (bytes.length - olderHeaderSize (parseHeader bytes).version) / v5RecordSize := length_slots _ _ _

def olderMessages (version : UInt8) (messages : List StoredMessage) : List StoredMessage :=
  if version = 4 then renumber messages else messages

section Renumber

theorem length_renumber (messages : List StoredMessage) : (renumber messages).length = messages.length :=
  List.length_mapIdx

theorem ids_renumber (messages : List StoredMessage) :
    (renumber messages).map (·.storeId) = (List.range messages.length).map (fun i => UInt32.ofNat (i + 1)) := by
  apply List.ext_getElem
  · rw [List.length_map, length_renumber, List.length_map, List.length_range]
  · intro i _ _
    simp [renumber, StoredMessage.withId]

theorem length_olderMessages (version : UInt8) (messages : List StoredMessage) :
    (olderMessages version messages).length = messages.length := by
  unfold olderMessages
  split
  · exact length_renumber messages
  · rfl

theorem nodup_range_ids {count : Nat} (small : count < 2 ^ 32) :
    ((List.range count).map (fun i => UInt32.ofNat (i + 1))).Nodup := by
  rw [List.nodup_map_iff_inj_on List.nodup_range]
  intro i first j second same
  rw [List.mem_range] at first second
  have equal := congrArg UInt32.toNat same
  rw [UInt32.toNat_ofNat_of_lt' (show i + 1 < 2 ^ 32 by omega),
    UInt32.toNat_ofNat_of_lt' (show j + 1 < 2 ^ 32 by omega)] at equal
  omega

theorem identified_renumber {messages : List StoredMessage} (short : messages.length + 1 < 2 ^ 32) :
    Identified (renumber messages) (deriveNextId (renumber messages)) := by
  have derived := deriveNextId_fresh (show (renumber messages).length + 1 < 2 ^ 32 by rw [length_renumber]; exact short)
  refine ⟨?_, ?_, derived.1, derived.2⟩
  · intro msg member zero
    have inside : msg.storeId ∈ (renumber messages).map (·.storeId) := List.mem_map_of_mem member
    rw [ids_renumber] at inside
    obtain ⟨i, index, same⟩ := List.mem_map.mp inside
    rw [List.mem_range] at index
    have number := congrArg UInt32.toNat (same.trans zero)
    rw [UInt32.toNat_ofNat_of_lt' (show i + 1 < 2 ^ 32 by omega), UInt32.toNat_zero] at number
    omega
  · rw [ids_renumber]
    exact nodup_range_ids (by omega)

end Renumber

section Migrate

variable {s : Store} {bytes : List UInt8}

structure OlderFile (s : Store) (bytes : List UInt8) : Prop where
  live : s.live = some bytes
  long : v4HeaderSize ≤ bytes.length
  magic : (parseHeader bytes).magic = messageStoreMagic
  version : (parseHeader bytes).version = 4 ∨ (parseHeader bytes).version = 5

def Migratable (bytes : List UInt8) (messages : List StoredMessage) : Prop :=
  (olderRecords bytes).mapM readVersion5RecordRaw = some messages ∧
    ((parseHeader bytes).version = 5 → idsUnique (messages.map (·.storeId)) = true)

theorem readVersion5Records_older (file : OlderFile s bytes) :
    readVersion5Records s ((bytes.length - olderHeaderSize (parseHeader bytes).version) / v5RecordSize)
      (olderHeaderSize (parseHeader bytes).version) = (olderRecords bytes).mapM readVersion5RecordRaw := by
  have inside := Nat.mul_div_le (bytes.length - olderHeaderSize (parseHeader bytes).version) v5RecordSize
  unfold readVersion5Records readPayload olderRecords
  rw [file.live, Option.getD_some]
  by_cases none : (bytes.length - olderHeaderSize (parseHeader bytes).version) / v5RecordSize = 0
  · rw [if_pos none, none]
    rfl
  · have positive : 0 < v5RecordSize *
        ((bytes.length - olderHeaderSize (parseHeader bytes).version) / v5RecordSize) :=
      Nat.mul_pos (by decide) (Nat.pos_of_ne_zero none)
    rw [if_neg none, if_pos (by omega), Option.bind_some]

theorem length_of_mapM {α β : Type} {f : α → Option β} {values : List α} {results : List β}
    (all : values.mapM f = some results) : results.length = values.length := by
  induction values generalizing results with
  | nil =>
    rw [List.mapM_nil] at all
    obtain rfl := Option.some.inj all
    rfl
  | cons value rest ih =>
    rw [List.mapM_cons] at all
    obtain ⟨result, _, later⟩ := Option.bind_eq_some_iff.mp all
    obtain ⟨others, found, whole⟩ := Option.bind_eq_some_iff.mp later
    rw [← Option.some.inj whole, List.length_cons, List.length_cons, ih found]

theorem Migratable.identified {messages : List StoredMessage} (migratable : Migratable bytes messages)
    (version : (parseHeader bytes).version = 4 ∨ (parseHeader bytes).version = 5)
    (short : messages.length + 1 < 2 ^ 32) :
    Identified (olderMessages (parseHeader bytes).version messages)
      (deriveNextId (olderMessages (parseHeader bytes).version messages)) := by
  unfold olderMessages
  split
  · exact identified_renumber short
  · rename_i notFour
    obtain ⟨nonzero, unique⟩ := idsUnique_iff.mp (migratable.2 (version.resolve_left notFour))
    have derived := deriveNextId_fresh short
    exact ⟨fun msg member => nonzero _ (List.mem_map_of_mem member), unique, derived.1, derived.2⟩

theorem migrateRecords_older (quiet : Quiet s) (file : OlderFile s bytes)
    (fits : (olderRecords bytes).length ≤ backendRecoveryMaxRecords s) :
    (∃ messages, Migratable bytes messages ∧
      ∃ identified : Identified (olderMessages (parseHeader bytes).version messages)
          (deriveNextId (olderMessages (parseHeader bytes).version messages)),
        migrateRecords s (parseHeader bytes).version (olderHeaderSize (parseHeader bytes).version)
            (olderRecords bytes).length =
          (.migrated, s.setFile ⟨some (Log.ofMessages identified).encode, none⟩)) ∨
    (migrateRecords s (parseHeader bytes).version (olderHeaderSize (parseHeader bytes).version)
        (olderRecords bytes).length = (.quarantined, s.quarantined) ∧ ¬ ∃ messages, Migratable bytes messages) := by
  have limit := backendRecoveryMaxRecords_lt s
  have read := readVersion5Records_older file
  have count := length_olderRecords bytes
  rw [← count] at read
  unfold migrateRecords
  rw [read]
  cases decoded : (olderRecords bytes).mapM readVersion5RecordRaw with
  | none =>
    have missing : ¬ ∃ messages, Migratable bytes messages := by
      rintro ⟨messages, all, -⟩
      rw [decoded] at all
      cases all
    refine Or.inr ⟨?_, missing⟩
    dsimp only
    rw [Option.map_none, Option.filter_none, ite_self]
    exact quarantineStoreAndReset_quiet quiet
  | some messages =>
    have length := length_of_mapM decoded
    have usable (migratable : Migratable bytes messages) (rewritten : List StoredMessage)
        (same : rewritten = olderMessages (parseHeader bytes).version messages) :
        ∃ identified : Identified (olderMessages (parseHeader bytes).version messages)
          (deriveNextId (olderMessages (parseHeader bytes).version messages)),
        deriveNextId rewritten ≠ 0 ∧ atomicReplaceStore s rewritten (deriveNextId rewritten) =
          (true, s.setFile ⟨some (Log.ofMessages identified).encode, none⟩) := by
      subst same
      have identified := migratable.identified file.version (by omega)
      have short : (olderMessages (parseHeader bytes).version messages).length ≤ backendRecoveryMaxRecords s := by
        rw [length_olderMessages]
        omega
      refine ⟨identified, identified.nextNonzero, ?_⟩
      rw [atomicReplaceStore_of_nextId s _ identified.nextNonzero, replaceFile_quiet quiet identified short]
    by_cases four : (parseHeader bytes).version = 4
    · have migratable : Migratable bytes messages := ⟨decoded, by rw [four]; intro five; cases five⟩
      obtain ⟨identified, nonzero, done⟩ := usable migratable (renumber messages) (if_pos four).symm
      refine Or.inl ⟨messages, migratable, identified, ?_⟩
      dsimp only
      rw [if_pos four, Option.map_some]
      dsimp only
      rw [if_neg nonzero, done]
    · have five := file.version.resolve_left four
      by_cases unique : idsUnique (messages.map (·.storeId)) = true
      · have migratable : Migratable bytes messages := ⟨decoded, fun _ => unique⟩
        obtain ⟨identified, nonzero, done⟩ := usable migratable messages (if_neg four).symm
        refine Or.inl ⟨messages, migratable, identified, ?_⟩
        dsimp only
        rw [if_neg four, Option.filter_some, if_pos unique]
        dsimp only
        rw [if_neg nonzero, done]
      · refine Or.inr ⟨?_, ?_⟩
        · dsimp only
          rw [if_neg four, Option.filter_some, if_neg unique]
          exact quarantineStoreAndReset_quiet quiet
        · rintro ⟨others, all, keeps⟩
          rw [decoded] at all
          obtain rfl := Option.some.inj all
          exact unique (keeps five)

theorem migrateOlderStore_older (quiet : Quiet s) (file : OlderFile s bytes)
    (small : (olderRecords bytes).length < 2 ^ 32) :
    (∃ messages, Migratable bytes messages ∧ olderHeaderSize (parseHeader bytes).version ≤ bytes.length ∧
      (olderRecords bytes).length ≤ backendRecoveryMaxRecords s ∧
      ∃ identified : Identified (olderMessages (parseHeader bytes).version messages)
          (deriveNextId (olderMessages (parseHeader bytes).version messages)),
        migrateOlderStore s = (.migrated, s.setFile ⟨some (Log.ofMessages identified).encode, none⟩)) ∨
    (migrateOlderStore s = (.quarantined, s.quarantined) ∧
      ¬ (olderHeaderSize (parseHeader bytes).version ≤ bytes.length ∧
        (olderRecords bytes).length ≤ backendRecoveryMaxRecords s ∧ ∃ messages, Migratable bytes messages)) := by
  have count := length_olderRecords bytes
  have long := file.long
  have current : (parseHeader bytes).version ≠ messageStoreVersion := by
    rcases file.version with four | five
    · rw [four]
      decide
    · rw [five]
      decide
  have older : ¬ ((parseHeader bytes).version ≠ 4 ∧ (parseHeader bytes).version ≠ 5) := by
    rintro ⟨notFour, notFive⟩
    exact file.version.elim notFour notFive
  have wide : (olderRecords bytes).length =
      (bytes.length - olderHeaderSize (parseHeader bytes).version) / v5RecordSize % 2 ^ 32 := by
    rw [Nat.mod_eq_of_lt (by omega), count]
  have migrates : migrateOlderStore s =
      if bytes.length < olderHeaderSize (parseHeader bytes).version then quarantineStoreAndReset s
      else if (olderRecords bytes).length > backendRecoveryMaxRecords s then quarantineStoreAndReset s
      else migrateRecords s (parseHeader bytes).version (olderHeaderSize (parseHeader bytes).version)
        (olderRecords bytes).length := by
    rw [wide]
    unfold migrateOlderStore
    rw [file.live]
    dsimp only
    rw [if_neg (by simp [file.magic, long]), if_neg current, if_neg older]
    rfl
  rw [migrates]
  by_cases short : bytes.length < olderHeaderSize (parseHeader bytes).version
  · rw [if_pos short]
    exact Or.inr ⟨quarantineStoreAndReset_quiet quiet, fun whole => absurd whole.1 (Nat.not_le.mpr short)⟩
  · have whole := Nat.not_lt.mp short
    rw [if_neg short]
    by_cases crowded : (olderRecords bytes).length > backendRecoveryMaxRecords s
    · rw [if_pos crowded]
      exact Or.inr ⟨quarantineStoreAndReset_quiet quiet, fun usable => absurd usable.2.1 (Nat.not_le.mpr crowded)⟩
    · have fits := Nat.not_lt.mp crowded
      rw [if_neg crowded]
      rcases migrateRecords_older quiet file fits with ⟨messages, migratable, identified, done⟩ | ⟨aside, missing⟩
      · exact Or.inl ⟨messages, migratable, whole, fits, identified, done⟩
      · exact Or.inr ⟨aside, fun usable => missing usable.2.2⟩

end Migrate

section Begin

variable {s : Store} {bytes : List UInt8}

theorem beginMigrate_holds {log : Log} (quiet : Quiet s) (holds : Holds s log) :
    ∃ after final, beginMigrate s = (true, after) ∧ Rests after final ∧ final.messages = recordsAfter s log.messages ∧
      final.nextId = deriveNextId log.messages ∧ after.backend = s.backend ∧ after.files.corrupt = s.files.corrupt := by
  have begun := beginMigrate_left holds.left
  generalize beginMigrate s = outcome at begun ⊢
  obtain ⟨ok, after⟩ := outcome
  obtain ⟨rfl, final, boots⟩ := begun_rests begun quiet.working quiet.settled holds.fits
  exact ⟨after, final, rfl, boots.rests, boots.messages, boots.nextId, boots.backend, boots.corrupt⟩

theorem beginRepair_holds {log : Log} (holds : Holds s log) : beginRepair s = beginMigrate s := by
  rw [beginMigrate, migrateOlderStore_left holds.left]
  rfl

theorem recordsAfter_eq_nil {messages : List StoredMessage} (empty : recordsAfter s messages = []) : messages = [] := by
  unfold recordsAfter at empty
  split at empty
  · rename_i crowded
    have compacts := backendCompactToRecords_le s
    have positive := backendCompactToRecords_pos s
    have length := length_compactedRecords (show backendCompactToRecords s < messages.length by omega)
    rw [empty, List.length_nil] at length
    omega
  · exact empty

/-- The complete records of a file that decode; the records of version 4 go by their position. -/
def decodableRecords (bytes : List UInt8) : List StoredMessage :=
  if (parseHeader bytes).version = 4 ∨ (parseHeader bytes).version = 5 then
    olderMessages (parseHeader bytes).version ((olderRecords bytes).filterMap readVersion5RecordRaw)
  else (rawRecords bytes).filterMap readRecordRaw

def Recordless (s : Store) (bytes : List UInt8) : Prop :=
  (parseHeader bytes).magic = messageStoreMagic ∧
    (((parseHeader bytes).version = messageStoreVersion ∧ headerSize ≤ bytes.length ∧ rawRecords bytes = [] ∧
        HeaderUsable s bytes) ∨
      (((parseHeader bytes).version = 4 ∨ (parseHeader bytes).version = 5) ∧
        olderHeaderSize (parseHeader bytes).version ≤ bytes.length ∧ olderRecords bytes = []))

/-- What a boot that returns true makes of the bytes it found. -/
structure Salvages (s : Store) (bytes : List UInt8) (after : Store) (survivors : List StoredMessage) : Prop where
  booted : Booted after survivors
  backend : after.backend = s.backend
  sub : (survivors.map storedMessageNormalize).Sublist ((decodableRecords bytes).map storedMessageNormalize)
  preserved : survivors = [] → ¬ Recordless s bytes → after.files.corrupt = some bytes

theorem Salvages.aside {after : Store} (booted : Booted after []) (backend : after.backend = s.backend)
    (corrupt : after.files.corrupt = some bytes) : Salvages s bytes after [] :=
  ⟨booted, backend, List.nil_sublist _, fun _ _ => corrupt⟩

theorem beginRepair_aside (quiet : Quiet s) (live : s.live = some bytes)
    (aside : repairInterruptedAppend s = quarantineStoreAndReset s) :
    ∃ after, beginRepair s = (true, after) ∧ Salvages s bytes after [] := by
  obtain ⟨after, done, booted, corrupt, backend⟩ := beginFinish_quarantined quiet .quarantined
  refine ⟨after, ?_, .aside booted backend (corrupt.trans live)⟩
  rw [beginRepair, aside, quarantineStoreAndReset_quiet quiet]
  exact done

theorem beginRepair_unreadable (quiet : Quiet s) (live : s.live = some bytes)
    (unreadable : bytes.length < headerSize ∨ (parseHeader bytes).magic ≠ messageStoreMagic) :
    ∃ after, beginRepair s = (true, after) ∧ Salvages s bytes after [] := by
  apply beginRepair_aside quiet live
  rw [repairInterruptedAppend, live]
  dsimp only
  rw [if_pos unreadable]

theorem beginRepair_salvages (quiet : Quiet s) (live : s.live = some bytes) (long : headerSize ≤ bytes.length)
    (magic : (parseHeader bytes).magic = messageStoreMagic)
    (version : (parseHeader bytes).version = messageStoreVersion) (sized : bytes.length < 2 ^ 32) :
    ∃ after survivors, beginRepair s = (true, after) ∧ Salvages s bytes after survivors := by
  have fewer := Nat.div_le_self (bytes.length - headerSize) recordSize
  by_cases fits : (bytes.length - headerSize) / recordSize ≤ backendRecoveryMaxRecords s
  · obtain ⟨after, survivors, done, booted, backend, outcome⟩ :=
      beginRepair_current quiet ⟨live, long, magic, version, fits⟩
    refine ⟨after, survivors, done, booted, backend, ?_, ?_⟩
    · rcases outcome with ⟨-, kept, -⟩ | ⟨-, rfl, -⟩
      · have decodable : decodableRecords bytes = (rawRecords bytes).filterMap readRecordRaw := by
          rw [decodableRecords, if_neg (by rw [version]; decide)]
        rw [kept, decodable]
        exact ((recordsAfter_sublist s _).trans (recoverablePrefix_initial _ _).sublist).map _
      · exact List.nil_sublist _
    · intro empty some
      rcases outcome with ⟨-, kept, why⟩ | ⟨corrupt, -⟩
      · rw [empty, List.map_nil, eq_comm, List.map_eq_nil_iff] at kept
        obtain ⟨none, usable⟩ := why (recordsAfter_eq_nil kept)
        exact absurd ⟨magic, Or.inl ⟨version, long, none, usable⟩⟩ some
      · exact corrupt
  · have aside : repairInterruptedAppend s = quarantineStoreAndReset s := by
      rw [repairInterruptedAppend, live]
      dsimp only
      rw [if_neg (by simp [magic, long]), if_neg (by simp [version]), Nat.mod_eq_of_lt (by omega), if_pos (by omega)]
    obtain ⟨after, done, salvages⟩ := beginRepair_aside quiet live aside
    exact ⟨after, [], done, salvages⟩

theorem beginMigrate_older (quiet : Quiet s) (file : OlderFile s bytes) (sized : bytes.length < 2 ^ 32) :
    ∃ after survivors, beginMigrate s = (true, after) ∧ Salvages s bytes after survivors := by
  have small : (olderRecords bytes).length < 2 ^ 32 := by
    rw [length_olderRecords]
    exact Nat.lt_of_le_of_lt (Nat.div_le_self _ _) (by omega)
  rcases migrateOlderStore_older quiet file small with
    ⟨messages, migratable, whole, fits, identified, migrated⟩ | ⟨aside, -⟩
  · have length : (olderMessages (parseHeader bytes).version messages).length = (olderRecords bytes).length := by
      rw [length_olderMessages, length_of_mapM migratable.1]
    have holds : Holds ((s.setFile ⟨some (Log.ofMessages identified).encode, none⟩).report .migrated)
        (Log.ofMessages identified) := by
      refine ⟨rfl, ?_⟩
      rw [Log.ofMessages, List.length_map, length]
      exact fits
    have quietAfter : Quiet ((s.setFile ⟨some (Log.ofMessages identified).encode, none⟩).report .migrated) :=
      ⟨quiet.working, rfl⟩
    obtain ⟨after, final, done, rests, kept, -, backend, -⟩ := beginMigrate_holds quietAfter holds
    refine ⟨after, final.messages, ?_, rests.booted, backend, ?_, ?_⟩
    · rw [← beginRepair_holds holds] at done
      rw [beginMigrate, migrated]
      exact done
    · have decodable : decodableRecords bytes = olderMessages (parseHeader bytes).version messages := by
        rw [decodableRecords, if_pos file.version, filterMap_of_mapM migratable.1]
      have twice : ((olderMessages (parseHeader bytes).version messages).map storedMessageNormalize).map
          storedMessageNormalize = (olderMessages (parseHeader bytes).version messages).map storedMessageNormalize := by
        rw [List.map_map]
        exact List.map_congr_left (fun msg _ => storedMessageNormalize_idempotent msg)
      rw [kept, decodable, ← twice]
      exact (recordsAfter_sublist _ _).map _
    · intro empty some
      rw [kept] at empty
      have none : olderRecords bytes = [] := by
        have nothing := congrArg List.length (recordsAfter_eq_nil empty)
        rw [Log.ofMessages, List.length_map, length, List.length_nil] at nothing
        exact List.length_eq_zero_iff.mp nothing
      exact absurd ⟨file.magic, Or.inr ⟨file.version, whole, none⟩⟩ some
  · have holds : Holds (s.quarantined.report .quarantined) Log.empty := ⟨rfl, Nat.zero_le _⟩
    have quietAfter : Quiet (s.quarantined.report .quarantined) := ⟨quiet.working, rfl⟩
    obtain ⟨after, final, done, rests, kept, -, backend, corrupt⟩ := beginMigrate_holds quietAfter holds
    have empty : final.messages = [] := kept
    refine ⟨after, [], ?_, .aside (empty ▸ rests.booted) backend (corrupt.trans file.live)⟩
    rw [← beginRepair_holds holds] at done
    rw [beginMigrate, aside]
    exact done

end Begin

section AnyFile

variable {s : Store} {bytes : List UInt8}

theorem beginMigrate_any_file (quiet : Quiet s) (live : s.live = some bytes) (sized : bytes.length < 2 ^ 32) :
    beginMigrate s = (false, s.report .unsupportedVersion) ∨
      ∃ after survivors, beginMigrate s = (true, after) ∧ Salvages s bytes after survivors := by
  have skips (repairs : migrateOlderStore s = (.clean, s)) : beginMigrate s = beginRepair s := by
    rw [beginMigrate, repairs]
    rfl
  by_cases unread : bytes.length < v4HeaderSize ∨ (parseHeader bytes).magic ≠ messageStoreMagic
  · rw [skips (by rw [migrateOlderStore, live]; dsimp only; rw [if_pos unread])]
    have unreadable : bytes.length < headerSize ∨ (parseHeader bytes).magic ≠ messageStoreMagic :=
      unread.imp_left (fun short => Nat.lt_trans short (by decide))
    obtain ⟨after, done, salvages⟩ := beginRepair_unreadable quiet live unreadable
    exact Or.inr ⟨after, [], done, salvages⟩
  · obtain ⟨long, magic⟩ := not_or.mp unread
    rw [not_ne_iff] at magic
    by_cases current : (parseHeader bytes).version = messageStoreVersion
    · rw [skips (by rw [migrateOlderStore, live]; dsimp only; rw [if_neg unread, if_pos current])]
      by_cases short : bytes.length < headerSize
      · obtain ⟨after, done, salvages⟩ := beginRepair_unreadable quiet live (Or.inl short)
        exact Or.inr ⟨after, [], done, salvages⟩
      · exact Or.inr (beginRepair_salvages quiet live (Nat.not_lt.mp short) magic current sized)
    · by_cases older : (parseHeader bytes).version = 4 ∨ (parseHeader bytes).version = 5
      · exact Or.inr (beginMigrate_older quiet ⟨live, Nat.not_lt.mp long, magic, older⟩ sized)
      · left
        rw [beginMigrate, migrateOlderStore, live]
        dsimp only
        rw [if_neg unread, if_neg current, if_pos (not_or.mp older)]

/-- A device that finds these bytes in place of its file. -/
def Store.holding (backend : Option MessageStoreBackend) (bytes : List UInt8) : Store :=
  (Store.initial backend).setLive bytes

/-- Boot on arbitrary bytes: a known magic with an unknown version is left alone, everything else
    ends in a valid store. File sizes are `size_t`, 32 bits wide on the device. -/
theorem messageStoreBegin_any_file (quiet : Quiet s) (live : s.live = some bytes) (sized : bytes.length < 2 ^ 32) :
    (∃ after, messageStoreBegin s = (false, after) ∧ after.live = some bytes ∧
      after.lastRecoveryResult = .unsupportedVersion) ∨
    ∃ after survivors, messageStoreBegin s = (true, after) ∧ Salvages s bytes after survivors := by
  have clean : Quiet (s.report .clean) := ⟨quiet.working, quiet.settled⟩
  rw [messageStoreBegin_settled quiet.working quiet.settled]
  rcases beginMigrate_any_file clean live sized with unsupported | ⟨after, survivors, done, salvages⟩
  · exact Or.inl ⟨_, unsupported, live, rfl⟩
  · exact Or.inr ⟨after, survivors, done, salvages.booted, salvages.backend, salvages.sub, salvages.preserved⟩

theorem any_file_garbage :
    (∃ after, messageStoreBegin (.holding none [1, 2, 3]) = (false, after) ∧ after.live = some [1, 2, 3] ∧
      after.lastRecoveryResult = .unsupportedVersion) ∨
    ∃ after survivors, messageStoreBegin (.holding none [1, 2, 3]) = (true, after) ∧
      Salvages (.holding none [1, 2, 3]) [1, 2, 3] after survivors :=
  messageStoreBegin_any_file ⟨rfl, rfl⟩ rfl (by decide)

/-- A version 4 file that ends with its header. -/
def headerOnlyFile : List UInt8 := leBytes 4 messageStoreMagic.toNat ++ [4, 0, 0, 0, 0]

/-- The header of an empty older store is migrated, not put aside. -/
theorem older_header_not_preserved :
    headerOnlyFile ≠ [] ∧ (parseHeader headerOnlyFile).version ≠ messageStoreVersion ∧
      (messageStoreBegin (.holding none headerOnlyFile)).1 = true ∧
      (messageStoreBegin (.holding none headerOnlyFile)).2.records = [] ∧
      (messageStoreBegin (.holding none headerOnlyFile)).2.files.corrupt = none := by
  decide

end AnyFile

end SigurdOS.MessageStore
