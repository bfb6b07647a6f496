import SigurdOS.MessageStore.AnyFile
import SigurdOS.MessageStore.Reboot

namespace SigurdOS.MessageStore

open Bytes SigurdOS.Hal

/-- The failures a store has to survive: a torn record, a torn header, a replacement that leaves the
    live file as it was. -/
def Fault.survivable : Fault → Bool
  | .replace .rename => false
  | .recover _ => false
  | .quarantine _ => false
  | _ => true

/-- What survives every such failure. The file is one the module left, the boot would promote only a
    store, and the index is right wherever an append relies on it. -/
structure Sound (s : Store) : Prop where
  file : s.live = none ∨ ∃ image, Left s image
  temp : ∀ data, s.files.file.temp = some data →
    validateStoreForRecovery (backendRecoveryMaxRecords s) data = true →
      ∃ log : Log, data = log.encode ∧ log.messages.length ≤ backendRecoveryMaxRecords s
  corrupt : s.files.corrupt = none
  unindexed : s.live = none → s.identityIndexValid = false ∧ s.appendRecoveryRequired = false
  indexed : s.appendRecoveryRequired = false → s.identityIndexValid = true →
    messageStoreCount s ≤ backendMaxRecords s →
      s.identityIndex = s.records.map indexEntry ∧ backendMaxRecords s ≤ s.identityIndexCapacity
  other : s.backend ≠ none → s.otherFiles = .empty

theorem initial_sound (backend : Option MessageStoreBackend) : Sound (Store.initial backend) where
  file := Or.inl rfl
  temp := nofun
  corrupt := rfl
  unindexed := fun _ => ⟨rfl, rfl⟩
  indexed := nofun
  other := fun _ => rfl

section Parts

variable {s after : Store} {log : Log} {messages : List StoredMessage} {nextId : UInt32} {file : AtomicFile}
  {faults : List Fault}

theorem Sound.of_left (sound : Sound s) (frames : Frames s after) {image : Image} (left : Left after image)
    (temp : after.files.file.temp = none ∨ after.files.file.temp = s.files.file.temp)
    (indexed : after.appendRecoveryRequired = false → after.identityIndexValid = true →
      messageStoreCount after ≤ backendMaxRecords after →
        after.identityIndex = after.records.map indexEntry ∧ backendMaxRecords after ≤ after.identityIndexCapacity) :
    Sound after where
  file := Or.inr ⟨image, left⟩
  temp := by
    intro data pending valid
    rw [frames.recoveryMaxRecords] at valid ⊢
    rcases temp with gone | same
    · rw [gone] at pending
      cases pending
    · exact sound.temp data (same.symm.trans pending) valid
  corrupt := frames.corrupt.trans sound.corrupt
  unindexed := by
    intro missing
    rw [left.live] at missing
    cases missing
  indexed := indexed
  other := by
    rw [frames.backend, frames.otherFiles]
    exact sound.other

theorem Sound.of_holds (sound : Sound s) (frames : Frames s after) (holds : Holds after log)
    (temp : after.files.file.temp = none ∨ after.files.file.temp = s.files.file.temp)
    (indexed : after.appendRecoveryRequired = false → after.identityIndexValid = true →
      log.messages.length ≤ backendMaxRecords after → Indexed after log) : Sound after := by
  apply sound.of_left frames holds.left temp
  intro reconciled valid within
  rw [holds.reads.count] at within
  have exact := indexed reconciled valid within
  rw [holds.reads.records_eq]
  exact ⟨exact.entries, exact.capacity⟩

theorem Replaced.unrenamed (replaced : Replaced s messages nextId false file)
    (survives : ∀ fault ∈ s.faults, fault.survivable = true) : file.live = s.live := by
  cases replaced with
  | kept temp left => rfl
  | pending log same next fits default fault => exact absurd (survives _ fault) (by decide)

theorem readHeader_congr (live : after.live = s.live) (backend : after.backend = s.backend) :
    readHeader after = readHeader s := by
  rw [readHeader, readHeader, live, backendRecoveryMaxRecords_congr backend]

theorem records_congr (live : after.live = s.live) (backend : after.backend = s.backend) :
    after.records = s.records := by
  have header := readHeader_congr live backend
  rw [Store.records, Store.records, messageStoreCount, messageStoreCount, messageStoreLoadAll, messageStoreLoadAll,
    loadAllInternal, loadAllInternal, header]
  unfold readPayload
  rw [live]

theorem Left.congr {image : Image} (left : Left s image) (live : after.live = s.live)
    (backend : after.backend = s.backend) : Left after image := by
  refine ⟨live.trans left.live, ?_⟩
  rw [backendRecoveryMaxRecords_congr backend]
  exact left.fits

theorem Sound.of_bytes (sound : Sound s) (backend : after.backend = s.backend) (other : after.otherFiles = s.otherFiles)
    (corrupt : after.files.corrupt = s.files.corrupt) (live : after.live = s.live)
    (temp : ∀ data, after.files.file.temp = some data →
      validateStoreForRecovery (backendRecoveryMaxRecords s) data = true →
        ∃ log : Log, data = log.encode ∧ log.messages.length ≤ backendRecoveryMaxRecords s)
    (unindexed : s.live = none → after.identityIndexValid = false ∧ after.appendRecoveryRequired = false)
    (indexed : after.appendRecoveryRequired = false → after.identityIndexValid = true →
      messageStoreCount s ≤ backendMaxRecords s →
        after.identityIndex = s.records.map indexEntry ∧ backendMaxRecords s ≤ after.identityIndexCapacity) :
    Sound after where
  file := by
    rw [live]
    exact sound.file.imp_right (fun ⟨image, left⟩ => ⟨image, left.congr live backend⟩)
  temp := by
    rw [backendRecoveryMaxRecords_congr backend]
    exact temp
  corrupt := corrupt.trans sound.corrupt
  unindexed := fun missing => unindexed (live ▸ missing)
  indexed := by
    rw [messageStoreCount, readHeader_congr live backend, records_congr live backend, backendMaxRecords_congr backend]
    exact indexed
  other := by
    rw [backend, other]
    exact sound.other

theorem Sound.of_live (sound : Sound s) (frames : Frames s after) (live : after.live = s.live)
    (temp : ∀ data, after.files.file.temp = some data →
      validateStoreForRecovery (backendRecoveryMaxRecords s) data = true →
        ∃ log : Log, data = log.encode ∧ log.messages.length ≤ backendRecoveryMaxRecords s)
    (unindexed : s.live = none → after.identityIndexValid = false ∧ after.appendRecoveryRequired = false)
    (indexed : after.appendRecoveryRequired = false → after.identityIndexValid = true →
      messageStoreCount s ≤ backendMaxRecords s →
        after.identityIndex = s.records.map indexEntry ∧ backendMaxRecords s ≤ after.identityIndexCapacity) :
    Sound after :=
  sound.of_bytes frames.backend frames.otherFiles frames.corrupt live temp unindexed indexed

theorem Sound.replaced_temp (sound : Sound s) {ok : Bool} (replaced : Replaced s messages nextId ok file)
    (normal : ∀ msg ∈ messages, storedMessageNormalize msg = msg)
    (fits : messages.length ≤ backendRecoveryMaxRecords s) :
    ∀ data, file.temp = some data → validateStoreForRecovery (backendRecoveryMaxRecords s) data = true →
      ∃ log : Log, data = log.encode ∧ log.messages.length ≤ backendRecoveryMaxRecords s := by
  intro data pending valid
  rcases replaced.temp normal fits pending valid with old | ⟨log, same, -, whole, -⟩
  · exact sound.temp data old valid
  · exact ⟨log, whole, same ▸ fits⟩

theorem Sound.kept (sound : Sound s) (survives : ∀ fault ∈ s.faults, fault.survivable = true)
    (replaced : Replaced s messages nextId false file) (normal : ∀ msg ∈ messages, storedMessageNormalize msg = msg)
    (fits : messages.length ≤ backendRecoveryMaxRecords s) (rest : faults <:+ s.faults) :
    Sound ((s.setFile file).withFaults faults) :=
  sound.of_live ⟨rfl, rfl, rfl, id, rest⟩ (replaced.unrenamed survives) (sound.replaced_temp replaced normal fits)
    sound.unindexed sound.indexed

end Parts

section Append

variable {s after : Store} {image : Image} {log : Log} {msg norm : StoredMessage}

/-- The states in which an append may start: no more complete records than the limit, in a file that
    is exact or known to need the repair. A message that is already stored may come at any time. -/
def AppendSafe (s : Store) (msg : StoredMessage) : Prop :=
  s.live = none ∨
  (∃ bytes, s.live = some bytes ∧ (rawRecords bytes).length ≤ backendMaxRecords s ∧
    (s.appendRecoveryRequired = true ∨ validateStore (backendRecoveryMaxRecords s) bytes = true)) ∨
  (s.appendRecoveryRequired = false ∧ (messageExists s (storedMessageNormalize msg)).1.isSome = true)

theorem length_rawRecords_image (image : Image) : (rawRecords image.encode).length = image.messages.length := by
  have short := image.short
  rw [length_rawRecords, image.length_encode, Nat.add_sub_cancel_left, Nat.mul_add_div (by decide),
    Nat.div_eq_of_lt short, Nat.add_zero]

theorem Image.exists_log (image : Image) (short : image.messages.length < 2 ^ 32) {recoveryMax : Nat}
    (valid : validateStore recoveryMax image.encode = true) :
    ∃ log : Log, log.messages = image.messages ∧ image.encode = log.encode := by
  have counted := image.counted
  have length := image.length_encode
  have tail := image.short
  have header : parseHeader image.encode = ⟨messageStoreMagic, messageStoreVersion, image.count, image.nextId⟩ :=
    parseHeader_encodeHeader _ _ (by omega)
  have exact : image.encode.length = headerSize + image.count * recordSize := by
    by_contra wrong
    rw [validateStore, header, if_pos (Or.inr (Or.inr (Or.inr (Or.inr (Or.inr wrong)))))] at valid
    cases valid
  have count : image.count = image.messages.length := by
    rw [recordSize_eq] at length exact tail
    omega
  have empty : image.tail = [] := by
    apply List.length_eq_zero_iff.mp
    rw [recordSize_eq] at length exact tail
    omega
  have whole : image.encode = encodeStore image.messages image.nextId := by
    rw [Image.encode, empty, List.append_nil, count, encodeStore]
  rw [whole] at valid
  obtain ⟨log, same, next⟩ := log_of_validateStore image.normal (by omega) valid
  exact ⟨log, same, whole.trans (encodeStore_log same next)⟩

theorem Sound.appendable (sound : Sound s) (safe : s.live = none ∨
    ∃ bytes, s.live = some bytes ∧ (rawRecords bytes).length ≤ backendMaxRecords s ∧
      (s.appendRecoveryRequired = true ∨ validateStore (backendRecoveryMaxRecords s) bytes = true)) :
    Appendable s := by
  rcases safe with missing | ⟨bytes, live, few, ready⟩
  · exact .missing missing (sound.unindexed missing).1
  · rcases sound.file with missing | ⟨image, left⟩
    · rw [live] at missing
      cases missing
    · obtain rfl : bytes = image.encode := Option.some.inj (live.symm.trans left.live)
      rw [length_rawRecords_image] at few
      cases required : s.appendRecoveryRequired with
      | true => exact .torn image left required
      | false =>
        have valid := ready.resolve_left (by simp [required])
        have limit := backendMaxRecords_lt s
        obtain ⟨log, same, whole⟩ := image.exists_log (by omega) valid
        have holds : Holds s log := ⟨whole ▸ left.live, same ▸ left.fits⟩
        refine .exact log holds required (same ▸ few) (fun indexed => ?_)
        have tracked := sound.indexed required indexed (by rw [holds.reads.count, same]; exact few)
        rw [holds.reads.records_eq] at tracked
        exact ⟨indexed, tracked.1, tracked.2⟩

theorem Holds.unique {other : Log} (holds : Holds s log) (again : Holds s other) : other = log := by
  have header := again.readHeader.symm.trans holds.readHeader
  have records := again.reads.records_eq.symm.trans holds.reads.records_eq
  exact Log.ext records (Prod.mk.inj (Option.some.inj header)).2

theorem Ready.sound (sound : Sound s) (ready : Ready s log after) : Sound after :=
  sound.of_holds ready.frames ready.holds ready.tempEither (fun _ _ _ => ready.indexed)

theorem Compacted.indexed_sound {before : Store} {maxRecords capacity : Nat} (sound : Sound before)
    (holds : Holds before log) (compaction : Compacted before log maxRecords true after)
    (enough : backendMaxRecords before ≤ capacity) :
    Sound (after.withIndex ((log.compacted maxRecords).messages.map indexEntry) capacity) := by
  have sub := (compactedRecords_sublist maxRecords log.messages).length_le
  cases compaction with
  | done temp faults rest cleared =>
    have kept : Holds ((((before.setFile ⟨some (log.compacted maxRecords).encode, temp⟩).withFaults
        faults).noteCompaction (unsentToDrop maxRecords log.messages)
          (droppedRecords maxRecords log.messages)).withIndex
          ((log.compacted maxRecords).messages.map indexEntry) capacity) (log.compacted maxRecords) :=
      ⟨rfl, sub.trans holds.fits⟩
    exact sound.of_holds ⟨rfl, rfl, rfl, id, rest⟩ kept cleared.either (fun _ _ _ => ⟨rfl, rfl, enough⟩)

theorem Compacted.failed_sound {before : Store} {maxRecords : Nat} (sound : Sound before)
    (survives : ∀ fault ∈ before.faults, fault.survivable = true) (holds : Holds before log)
    (compaction : Compacted before log maxRecords false after) : Sound after := by
  have sub := (compactedRecords_sublist maxRecords log.messages).length_le
  cases compaction with
  | failed file faults rest broken replaced =>
    exact sound.kept survives replaced (log.compacted maxRecords).normal (sub.trans holds.fits) rest

theorem Appended.sound {before : Store} {pushed : Log} {result : Option UInt32} (sound : Sound before)
    (ready : Ready s log before) (survives : ∀ fault ∈ before.faults, fault.survivable = true)
    (messages : pushed.messages = log.messages ++ [norm])
    (appended : Appended before log pushed norm result after) : Sound after := by
  have length := length_push messages
  have recovery := backendRecoveryMaxRecords_eq before
  have limit := backendMaxRecords_lt before
  have bound := ready.bound
  cases appended with
  | tornRecord written faults rest script =>
    obtain ⟨image, encode, -, -, either⟩ := exists_image_tornRecord messages written
    have left : Left (((before.setLive (log.encode ++ (writeRecordRaw norm).take written)).withFaults
        faults).requireRecovery true) image := by
      refine ⟨congrArg some encode.symm, show _ ≤ backendRecoveryMaxRecords before from ?_⟩
      rcases either with same | same <;> rw [same] <;> omega
    exact sound.of_left ⟨rfl, rfl, rfl, id, rest⟩ left (Or.inr rfl) (fun impossible => by cases impossible)
  | tornHeader written faults rest script =>
    obtain ⟨image, encode, same⟩ := exists_image_tornHeader messages (by omega) written
    have left : Left (((before.setLive (overlay (encodeHeader (log.messages.length + 1) pushed.nextId)
        (log.encode ++ writeRecordRaw norm) (min written headerSize))).withFaults faults).requireRecovery true)
        image := by
      refine ⟨congrArg some encode.symm, show _ ≤ backendRecoveryMaxRecords before from ?_⟩
      rw [same]
      omega
    exact sound.of_left ⟨rfl, rfl, rfl, id, rest⟩ left (Or.inr rfl) (fun impossible => by cases impossible)
  | stored faults rest room =>
    have holds : Holds ((((before.setLive pushed.encode).withFaults faults).requireRecovery false).withIndex
        (pushed.messages.map indexEntry) before.identityIndexCapacity) pushed :=
      ⟨rfl, show _ ≤ backendRecoveryMaxRecords before by omega⟩
    exact sound.of_holds ⟨rfl, rfl, rfl, id, rest⟩ holds (Or.inr rfl) (fun _ _ _ => ⟨rfl, rfl, ready.indexed.capacity⟩)
  | compacted published after capacity full faults rest state compaction enough =>
    subst state
    have holds : Holds (((before.setLive pushed.encode).withFaults faults).requireRecovery false) pushed :=
      ⟨rfl, show _ ≤ backendRecoveryMaxRecords before by omega⟩
    have crowded : Sound (((before.setLive pushed.encode).withFaults faults).requireRecovery false) :=
      sound.of_holds ⟨rfl, rfl, rfl, id, rest⟩ holds (Or.inr rfl)
        (fun _ _ (within : _ ≤ backendMaxRecords before) => absurd within (by omega))
    exact compaction.indexed_sound crowded holds enough
  | uncompacted published after full faults rest state compaction =>
    subst state
    have holds : Holds (((before.setLive pushed.encode).withFaults faults).requireRecovery false) pushed :=
      ⟨rfl, show _ ≤ backendRecoveryMaxRecords before by omega⟩
    have crowded : Sound (((before.setLive pushed.encode).withFaults faults).requireRecovery false) :=
      sound.of_holds ⟨rfl, rfl, rfl, id, rest⟩ holds (Or.inr rfl)
        (fun _ _ (within : _ ≤ backendMaxRecords before) => absurd within (by omega))
    exact compaction.failed_sound crowded (fun fault member => survives fault (rest.subset member)) holds

theorem Attempted.sound {result : Option UInt32} (sound : Sound s)
    (survives : ∀ fault ∈ s.faults, fault.survivable = true) (attempt : Attempted s norm result after) :
    Sound after := by
  cases attempt with
  | unrepaired image left required after repair =>
    cases repair with
    | done _ _ _ _ rewritten => rcases rewritten with impossible | impossible <;> cases impossible
    | failed file faults rest broken replaced =>
      exact sound.kept survives replaced (image.repaired left.short).normal left.fits rest
  | overfull image left required crowded temp faults rest cleared =>
    have holds : Holds (((s.setFile ⟨some (image.repaired left.short).encode, temp⟩).withFaults
        faults).requireRecovery false).withoutIndex (image.repaired left.short) := ⟨rfl, left.fits⟩
    exact sound.of_holds ⟨rfl, rfl, rfl, id, rest⟩ holds cleared (fun _ impossible => by cases impossible)
  | stranded missing required =>
    exact sound.of_live ⟨rfl, rfl, rfl, id, List.suffix_refl _⟩ rfl sound.temp (fun _ => ⟨rfl, rfl⟩)
      (fun _ impossible => by cases impossible)
  | uncreated missing file faults rest broken replaced =>
    exact sound.kept survives replaced (by simp) (Nat.zero_le _) rest
  | found log after ready id found => exact ready.sound sound
  | appended log pushed before ready absent messages next result after appended =>
    exact appended.sound (ready.sound sound) ready
      (fun fault member => survives fault (ready.frames.faults.subset member)) messages

theorem Sound.rebuild (sound : Sound s) : rebuildIdentityIndex s = (false, s.withoutIndex) ∨
    ∃ capacity, backendMaxRecords s ≤ capacity ∧
      rebuildIdentityIndex s = (true, s.withIndex (s.records.map indexEntry) capacity) := by
  have unread (header : readHeader s = none) : rebuildIdentityIndex s = (false, s.withoutIndex) := by
    rw [rebuildIdentityIndex, header]
  rcases sound.file with missing | ⟨image, left⟩
  · exact Or.inl (unread (readHeader_missing missing))
  · rcases left.visible with ⟨-, header⟩ | ⟨-, reads⟩
    · exact Or.inl (unread header)
    · by_cases crowded : (image.messages.take image.count).length > backendMaxRecords s
      · left
        rw [rebuildIdentityIndex, reads.header]
        exact if_pos crowded
      · obtain ⟨capacity, enough, rebuilt⟩ := rebuildIdentityIndex_reads reads
          (fun msg member => image.nonzero msg (List.mem_of_mem_take member)) (by omega)
        rw [reads.records_eq]
        exact Or.inr ⟨capacity, enough, rebuilt⟩

theorem messageExists_sound (sound : Sound s) (norm : StoredMessage) :
    Sound (messageExists s norm).2 ∧ Frames s (messageExists s norm).2 := by
  have frames (entries : List IdentityIndexEntry) (capacity : Nat) : Frames s (s.withIndex entries capacity) :=
    ⟨rfl, rfl, rfl, id, List.suffix_refl _⟩
  have bare : Frames s s.withoutIndex := ⟨rfl, rfl, rfl, id, List.suffix_refl _⟩
  unfold messageExists
  cases valid : s.identityIndexValid with
  | true => exact ⟨sound, .refl s⟩
  | false =>
    rw [if_neg (by simp)]
    rcases sound.rebuild with failed | ⟨capacity, enough, rebuilt⟩
    · rw [failed]
      exact ⟨sound.of_live bare rfl sound.temp (fun missing => ⟨rfl, (sound.unindexed missing).2⟩)
        (fun _ impossible => by cases impossible), bare⟩
    · rw [rebuilt]
      refine ⟨sound.of_live (frames _ capacity) rfl sound.temp ?_ (fun _ _ _ => ⟨rfl, enough⟩), frames _ capacity⟩
      intro missing
      rw [rebuildIdentityIndex, readHeader_missing missing] at rebuilt
      cases rebuilt

theorem messageExists_unread (header : readHeader s = none) (norm : StoredMessage) :
    (messageExists s norm).1 = none := by
  have unread (entry : IdentityIndexEntry) : matchIndexed s norm entry = none := by
    have gone : messageStoreGetById s entry.storeId = none := by
      rw [messageStoreGetById, header]
      split <;> rfl
    rw [matchIndexed, gone]
    split <;> rfl
  unfold messageExists
  cases valid : s.identityIndexValid with
  | true =>
    rw [if_pos rfl]
    exact List.findSome?_eq_none_iff.mpr (fun entry _ => unread entry)
  | false =>
    rw [if_neg (by simp), rebuildIdentityIndex, header]

theorem appendOnce_found (reconciled : s.appendRecoveryRequired = false)
    (found : (messageExists s (storedMessageNormalize msg)).1.isSome = true) :
    appendOnce s msg = messageExists s (storedMessageNormalize msg) := by
  have ready : reconcileTail s = (true, s) := by
    rw [reconcileTail, reconciled]
    rfl
  cases header : readHeader s with
  | none =>
    rw [messageExists_unread header] at found
    cases found
  | some counted =>
    rw [appendOnce, ready]
    dsimp only
    rw [writeHeaderIfNeeded, header]
    dsimp only
    generalize messageExists s (storedMessageNormalize msg) = outcome at found ⊢
    obtain ⟨id, after⟩ := outcome
    cases id with
    | none => cases found
    | some id => rfl

theorem appendOnce_sound (sound : Sound s) (survives : ∀ fault ∈ s.faults, fault.survivable = true)
    (safe : AppendSafe s msg) : Sound (appendOnce s msg).2 ∧ Frames s (appendOnce s msg).2 := by
  have attempted (appendable : Appendable s) : Sound (appendOnce s msg).2 ∧ Frames s (appendOnce s msg).2 := by
    have attempt := appendOnce_attempted appendable msg
    exact ⟨attempt.sound sound survives, attempt.frames⟩
  rcases safe with missing | exact | ⟨reconciled, found⟩
  · exact attempted (sound.appendable (Or.inl missing))
  · exact attempted (sound.appendable (Or.inr exact))
  · rw [appendOnce_found reconciled found]
    exact messageExists_sound sound _

end Append

section Rewrite

variable {s : Store}

theorem Sound.reads (sound : Sound s) {count : Nat} {nextId : UInt32} (header : readHeader s = some (count, nextId)) :
    Reads s s.records nextId ∧ (∀ msg ∈ s.records, storedMessageNormalize msg = msg) ∧ s.records.length = count ∧
      s.records.length ≤ backendRecoveryMaxRecords s := by
  rcases sound.file with missing | ⟨image, left⟩
  · rw [readHeader_missing missing] at header
    cases header
  · rcases left.visible with ⟨-, none⟩ | ⟨-, reads⟩
    · rw [none] at header
      cases header
    · have fits := left.fits
      have length := List.length_take_le image.count image.messages
      have counted := image.counted
      rw [reads.records_eq]
      obtain ⟨same, next⟩ := Prod.mk.inj (Option.some.inj (reads.header.symm.trans header))
      refine ⟨next ▸ reads, fun msg member => image.normal msg (List.mem_of_mem_take member), same, by omega⟩

theorem messageStoreMark_sound (sound : Sound s) (survives : ∀ fault ∈ s.faults, fault.survivable = true)
    (mark : Mark) :
    Sound (messageStoreMark s mark).2 ∧ Frames s (messageStoreMark s mark).2 := by
  rcases messageStoreMark_cases s mark with unchanged | unchanged | ⟨count, nextId, updated, header, marked, replaced⟩
  · rw [unchanged]
    exact ⟨sound, .refl s⟩
  · rw [unchanged]
    exact ⟨sound, .refl s⟩
  · obtain ⟨reads, normal, length, fits⟩ := sound.reads header
    have visible : messageStoreLoadAll s count = s.records := by
      rw [← length]
      exact reads.loadAll
    rw [visible] at marked
    have normalUpdated := Marked.normal marked normal
    have lengthUpdated := marked.length_eq
    obtain ⟨file, faults, after, rest, outcome⟩ := replaceFile_replaced s nextId normalUpdated
    rw [replaced, after]
    refine ⟨?_, rfl, rfl, rfl, id, rest⟩
    generalize (replaceFile s updated nextId).1 = ok at outcome
    cases ok with
    | false => exact sound.kept survives outcome normalUpdated (by omega) rest
    | true =>
      cases outcome with
      | done log temp same next _ cleared =>
        have holds : Holds ((s.setFile ⟨some log.encode, temp⟩).withFaults faults) log :=
          ⟨rfl, show _ ≤ backendRecoveryMaxRecords s by rw [same]; omega⟩
        refine sound.of_holds ⟨rfl, rfl, rfl, id, rest⟩ holds cleared.either ?_
        intro reconciled valid within
        rw [same] at within
        obtain ⟨entries, capacity⟩ := sound.indexed reconciled valid (by
          rw [reads.count, lengthUpdated]
          exact within)
        refine ⟨valid, ?_, capacity⟩
        rw [same, Marked.map_eq indexEntry_evolves marked]
        exact entries

theorem messageStoreClear_sound (sound : Sound s) (survives : ∀ fault ∈ s.faults, fault.survivable = true) :
    Sound (messageStoreClear s).2 ∧ Frames s (messageStoreClear s).2 := by
  have normal : ∀ msg ∈ ([] : List StoredMessage), storedMessageNormalize msg = msg := by simp
  obtain ⟨file, faults, after, rest, outcome⟩ := replaceFile_replaced s 1 normal
  unfold messageStoreClear
  rw [atomicReplaceStore_of_nextId s [] (by decide)]
  generalize replaceFile s [] 1 = result at after outcome ⊢
  obtain ⟨ok, next⟩ := result
  dsimp only at after outcome
  subst after
  cases ok with
  | false => exact ⟨sound.kept survives outcome normal (Nat.zero_le _) rest, rfl, rfl, rfl, id, rest⟩
  | true =>
    cases outcome with
    | done log temp same next _ cleared =>
      obtain rfl : log = Log.empty := Log.ext same next
      have frames : Frames s ({ identityIndexClear ((s.setFile ⟨some Log.empty.encode, temp⟩).withFaults faults) with
        appendRecoveryRequired := false, retryQueue := [], retryQueueDropCount := 0 }) :=
        ⟨rfl, rfl, rfl, fun _ => rfl, rest⟩
      refine ⟨sound.of_holds frames ⟨rfl, Nat.zero_le _⟩ cleared.either (fun _ _ _ => ⟨rfl, rfl, ?_⟩), frames⟩
      exact le_identityIndexCapacity _ _

end Rewrite

section Boot

variable {s after : Store}

theorem Sound.report (sound : Sound s) (result : RecoveryResult) : Sound (s.report result) :=
  sound.of_live ⟨rfl, rfl, rfl, id, List.suffix_refl _⟩ rfl sound.temp sound.unindexed sound.indexed

theorem Sound.powerOn (sound : Sound s) : Sound s.powerOn :=
  sound.of_live ⟨rfl, rfl, rfl, fun _ => rfl, List.suffix_refl _⟩ rfl sound.temp (fun _ => ⟨rfl, rfl⟩)
    (fun _ impossible => by cases impossible)

theorem Recovered.sound {file : AtomicFile} (sound : Sound s) (unindexed : s.identityIndexValid = false)
    (recovered : Recovered s file) : Sound ((s.report .clean).afterCall.setFile file) := by
  have frames (file : AtomicFile) : Frames s ((s.report .clean).afterCall.setFile file) :=
    ⟨rfl, rfl, rfl, id, List.tail_suffix _⟩
  have unused (valid : s.identityIndexValid = true) : False := by
    rw [unindexed] at valid
    cases valid
  cases recovered with
  | settled kept =>
    exact sound.of_live (frames _) rfl sound.temp sound.unindexed (fun _ valid => (unused valid).elim)
  | promoted data default pending valid =>
    obtain ⟨log, rfl, fits⟩ := sound.temp data pending valid
    exact sound.of_holds (frames _) ⟨rfl, fits⟩ (Or.inl rfl) (fun _ valid => (unused valid).elim)
  | discarded data default pending invalid =>
    exact sound.of_live (frames _) rfl nofun sound.unindexed (fun _ valid => (unused valid).elim)

theorem Finished.sound {log : Log} {ok : Bool} (sound : Sound s)
    (survives : ∀ fault ∈ s.faults, fault.survivable = true)
    (holds : Holds s log) (finish : Finished s log ok after) : Sound after ∧ Frames s after := by
  cases finish with
  | within capacity bound enough =>
    have frames : Frames s ((s.withIndex (log.messages.map indexEntry) capacity).requireRecovery false) :=
      ⟨rfl, rfl, rfl, id, List.suffix_refl _⟩
    exact ⟨sound.of_holds frames ⟨holds.live, holds.fits⟩ (Or.inr rfl) (fun _ _ _ => ⟨rfl, rfl, enough⟩), frames⟩
  | compacted compactedStore capacity crowded compaction enough =>
    have sub := (compactedRecords_sublist (backendCompactToRecords s) log.messages).length_le
    cases compaction with
    | done temp faults rest cleared =>
      have frames : Frames s ((((((s.setFile ⟨some (log.compacted (backendCompactToRecords s)).encode, temp⟩).withFaults
          faults).noteCompaction (unsentToDrop (backendCompactToRecords s) log.messages)
            (droppedRecords (backendCompactToRecords s) log.messages)).report .repaired).withIndex
              ((log.compacted (backendCompactToRecords s)).messages.map indexEntry) capacity).requireRecovery false) :=
        ⟨rfl, rfl, rfl, id, rest⟩
      exact ⟨sound.of_holds frames ⟨rfl, sub.trans holds.fits⟩ cleared.either (fun _ _ _ => ⟨rfl, rfl, enough⟩), frames⟩
  | failed failedStore crowded compaction =>
    have frames := compaction.frames
    exact ⟨(compaction.failed_sound sound survives holds).report .failed, frames.backend, frames.otherFiles,
      frames.corrupt, frames.queue, frames.faults⟩

theorem Begun.sound {log : Log} {ok : Bool} (sound : Sound s) (survives : ∀ fault ∈ s.faults, fault.survivable = true)
    (unindexed : s.identityIndexValid = false) (fits : log.messages.length ≤ backendRecoveryMaxRecords s)
    (begun : Begun s log ok after) : Sound after ∧ Frames s after := by
  cases begun with
  | unrepaired failedStore repair =>
    cases repair with
    | done _ _ _ _ rewritten => rcases rewritten with impossible | impossible <;> cases impossible
    | failed file faults rest broken replaced =>
      exact ⟨(sound.kept survives replaced log.normal fits rest).report .failed, rfl, rfl, rfl, id, rest⟩
  | finished _ result repaired _ went repair finish =>
    obtain ⟨temp, faults, rfl, rest, cleared, -⟩ := repair.settled went
    have frames : Frames s ((s.setFile ⟨some log.encode, temp⟩).withFaults faults) := ⟨rfl, rfl, rfl, id, rest⟩
    have settled : Sound ((s.setFile ⟨some log.encode, temp⟩).withFaults faults) := by
      apply sound.of_holds frames ⟨rfl, fits⟩ cleared
      intro _ valid
      exact absurd (unindexed.symm.trans valid) (by simp)
    have survivesAfter : ∀ fault ∈ faults, fault.survivable = true :=
      fun fault member => survives fault (rest.subset member)
    by_cases clean : result = .clean
    · rw [if_pos clean] at finish
      obtain ⟨finished, more⟩ := finish.sound settled survivesAfter ⟨rfl, fits⟩
      exact ⟨finished, frames.trans more⟩
    · rw [if_neg clean] at finish
      obtain ⟨finished, more⟩ := finish.sound (settled.report result) survivesAfter ⟨rfl, fits⟩
      exact ⟨finished, more.backend, more.otherFiles, more.corrupt, more.queue, more.faults.trans rest⟩

theorem recoverStep_of_survivable (survives : ∀ fault ∈ s.faults, fault.survivable = true) :
    s.nextFault.recoverStep = none := by
  cases next : s.nextFault with
  | recover step => exact absurd (survives _ (mem_of_nextFault next (by simp))) (by simp [Fault.survivable])
  | _ => rfl

theorem messageStoreBegin_sound (sound : Sound s) (survives : ∀ fault ∈ s.faults, fault.survivable = true)
    (unindexed : s.identityIndexValid = false) :
    Sound (messageStoreBegin s).2 ∧ Frames s (messageStoreBegin s).2 := by
  obtain ⟨file, recovered, begins⟩ := messageStoreBegin_recovered (recoverStep_of_survivable survives)
  have found := recovered.sound sound unindexed
  have frames : Frames s ((s.report .clean).afterCall.setFile file) := ⟨rfl, rfl, rfl, id, List.tail_suffix _⟩
  have survivesAfter : ∀ fault ∈ ((s.report .clean).afterCall.setFile file).faults, fault.survivable = true :=
    fun fault member => survives fault (frames.faults.subset member)
  have bare : ((s.report .clean).afterCall.setFile file).identityIndexValid = false := unindexed
  rw [begins]
  generalize (s.report .clean).afterCall.setFile file = start at found frames survivesAfter bare ⊢
  rcases found.file with missing | ⟨image, left⟩
  · obtain ⟨ok, file, faults, rest, replaced, -, ⟨rfl, failed⟩ | ⟨capacity, rfl, enough, done⟩⟩ :=
      beginMigrate_missing missing
    · rw [failed]
      have kept := (found.kept survivesAfter replaced (by simp) (Nat.zero_le _) rest).report .failed
      exact ⟨kept, frames.trans ⟨rfl, rfl, rfl, id, rest⟩⟩
    · rw [done]
      cases replaced with
      | done log temp same next _ cleared =>
        obtain rfl : log = Log.empty := Log.ext same next
        have created : Frames start ((((start.setFile ⟨some Log.empty.encode, temp⟩).withFaults faults).withIndex []
            capacity).requireRecovery false) := ⟨rfl, rfl, rfl, id, rest⟩
        exact ⟨found.of_holds created ⟨rfl, Nat.zero_le _⟩ cleared.either (fun _ _ _ => ⟨rfl, rfl, enough⟩),
          frames.trans created⟩
  · obtain ⟨kept, more⟩ := (beginMigrate_left left).sound found survivesAfter bare left.fits
    exact ⟨kept, frames.trans more⟩

end Boot

end SigurdOS.MessageStore
