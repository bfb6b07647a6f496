import SigurdOS.MessageStore.Migration
import SigurdOS.MessageStore.Torn

namespace SigurdOS.MessageStore

open Bytes SigurdOS.Hal

/-- A current file whose header agrees with its records, whoever wrote them. -/
structure ExactFile (bytes : List UInt8) (messages : List StoredMessage) (nextId : UInt32) : Prop where
  magic : (parseHeader bytes).magic = messageStoreMagic
  version : (parseHeader bytes).version = messageStoreVersion
  count : (parseHeader bytes).count = messages.length
  next : (parseHeader bytes).nextId = nextId
  length : bytes.length = headerSize + recordSize * messages.length
  decodes : (rawRecords bytes).mapM readRecordRaw = some messages
  identified : Identified messages nextId

/-- What a power cut leaves of an append to the file. The flag tells whether the record is complete. -/
inductive CutPoint (bytes record header : List UInt8) : Bool → List UInt8 → Prop
  | inRecord (written : Nat) (inside : written < recordSize) :
      CutPoint bytes record header false (bytes ++ record.take written)
  | inHeader (written : Nat) (inside : written < headerSize) :
      CutPoint bytes record header true (overlay header (bytes ++ record) written)
  | complete : CutPoint bytes record header true (overlay header (bytes ++ record) headerSize)

section Bytes

variable {bytes record header rest : List UInt8} {count : Nat} {nextId : UInt32} {written : Nat}

theorem leBytes_read32 (long : 4 ≤ bytes.length) : leBytes 4 (read32 bytes).toNat = bytes.take 4 := by
  have width : (bytes.take 4).length = 4 := List.length_take_of_le long
  have bound : leNumber (bytes.take 4) < 2 ^ 32 := by
    have limit := leNumber_lt (bytes.take 4)
    rw [width] at limit
    exact limit
  have exact := leBytes_leNumber (bytes.take 4)
  rw [width] at exact
  rw [read32, UInt32.toNat_ofNat_of_lt' bound, exact]

theorem exists_stamped (long : headerSize ≤ bytes.length) (magic : (parseHeader bytes).magic = messageStoreMagic)
    (version : (parseHeader bytes).version = messageStoreVersion) : ∃ rest, bytes = versionStamp ++ rest := by
  rw [headerSize_eq] at long
  have first : bytes.take 4 = leBytes 4 messageStoreMagic.toNat := by
    rw [← magic]
    exact (leBytes_read32 (by omega)).symm
  have second : (bytes.drop 4).take 1 = [messageStoreVersion] := by
    rw [← version, parseHeader]
    obtain ⟨head, rest, split⟩ := List.exists_cons_of_length_pos (show 0 < (bytes.drop 4).length by
      rw [List.length_drop]
      omega)
    rw [split]
    rfl
  refine ⟨(bytes.drop 4).drop 1, ?_⟩
  rw [versionStamp, ← first, ← second, List.append_assoc, List.take_append_drop, List.take_append_drop]

theorem overlay_stamped (rest : List UInt8) (count : Nat) (nextId : UInt32) (written : Nat) :
    ∃ torn, overlay (encodeHeader count nextId) (versionStamp ++ rest) written = versionStamp ++ torn := by
  rw [encodeHeader_stamped]
  by_cases inside : written ≤ versionStamp.length
  · exact ⟨rest, overlay_shared inside⟩
  · exact ⟨_, overlay_common (by omega)⟩

theorem drop_overlay (inside : written ≤ headerSize) (same : header.length = headerSize) :
    (overlay header bytes written).drop headerSize = bytes.drop headerSize := by
  have taken : (header.take written).length = written := List.length_take_of_le (by omega)
  rw [overlay, List.drop_append, List.drop_of_length_le (by omega), List.nil_append, List.drop_drop, taken]
  congr 1
  omega

theorem length_overlay (long : headerSize ≤ bytes.length) (inside : written ≤ headerSize)
    (same : header.length = headerSize) : (overlay header bytes written).length = bytes.length := by
  have taken : (header.take written).length = written := List.length_take_of_le (by omega)
  rw [overlay, List.length_append, List.length_drop, taken]
  omega

theorem read32_append (long : 4 ≤ bytes.length) (rest : List UInt8) : read32 (bytes ++ rest) = read32 bytes := by
  rw [read32, List.take_append_of_le_length long, read32]

theorem parseHeader_append (long : headerSize ≤ bytes.length) (rest : List UInt8) :
    parseHeader (bytes ++ rest) = parseHeader bytes := by
  rw [headerSize_eq] at long
  have version : ((bytes ++ rest).drop 4).headD 0 = (bytes.drop 4).headD 0 := by
    rw [List.drop_append_of_le_length (by omega)]
    obtain ⟨head, others, split⟩ := List.exists_cons_of_length_pos (show 0 < (bytes.drop 4).length by
      rw [List.length_drop]
      omega)
    rw [split]
    rfl
  have count : ((bytes ++ rest).drop 5).take 4 = (bytes.drop 5).take 4 := by
    rw [List.drop_append_of_le_length (by omega), List.take_append_of_le_length (by rw [List.length_drop]; omega)]
  have next : read32 ((bytes ++ rest).drop 9) = read32 (bytes.drop 9) := by
    rw [List.drop_append_of_le_length (by omega), read32_append (by rw [List.length_drop]; omega)]
  rw [parseHeader, parseHeader, read32_append (by omega), version, count, next]

theorem slots_append_left {size count : Nat} {payload : List UInt8} (enough : size * count ≤ payload.length)
    (tail : List UInt8) : slots size count (payload ++ tail) = slots size count payload := by
  rw [← slots_take, List.take_append_of_le_length enough, slots_take]

end Bytes

section Cut

variable {bytes left : List UInt8} {messages : List StoredMessage} {nextId following : UInt32} {new : StoredMessage}
  {complete : Bool}

theorem rawRecords_torn (length : bytes.length = headerSize + recordSize * messages.length) {tail : List UInt8}
    (short : tail.length < recordSize) : rawRecords (bytes ++ tail) = rawRecords bytes := by
  have positive : 0 < recordSize := by decide
  have torn : ((bytes ++ tail).length - headerSize) / recordSize = messages.length := by
    rw [List.length_append, length, show headerSize + recordSize * messages.length + tail.length - headerSize =
      recordSize * messages.length + tail.length
        by omega, Nat.mul_add_div positive, Nat.div_eq_of_lt short, Nat.add_zero]
  have whole : (bytes.length - headerSize) / recordSize = messages.length := by
    rw [length, Nat.add_sub_cancel_left, Nat.mul_div_cancel_left _ positive]
  rw [rawRecords, rawRecords, torn, whole, List.drop_append_of_le_length (by omega)]
  exact slots_append_left (by rw [List.length_drop]; omega) tail

theorem rawRecords_pushed (length : bytes.length = headerSize + recordSize * messages.length) {record file : List UInt8}
    (width : record.length = recordSize) (size : file.length = bytes.length + recordSize)
    (payload : file.drop headerSize = bytes.drop headerSize ++ record) :
    rawRecords file = rawRecords bytes ++ [record] := by
  have positive : 0 < recordSize := by decide
  have pushed : (file.length - headerSize) / recordSize = messages.length + 1 := by
    rw [size, length, show headerSize + recordSize * messages.length + recordSize - headerSize =
      recordSize * (messages.length + 1) by rw [Nat.mul_add]; omega, Nat.mul_div_cancel_left _ positive]
  have whole : (bytes.length - headerSize) / recordSize = messages.length := by
    rw [length, Nat.add_sub_cancel_left, Nat.mul_div_cancel_left _ positive]
  have last : (bytes.drop headerSize ++ record).drop (recordSize * messages.length) = record :=
    List.drop_left' (by rw [List.length_drop]; omega)
  rw [rawRecords, rawRecords, pushed, whole, payload, slots_append, last,
    slots_append_left (by rw [List.length_drop]; omega) record, slots, slots, List.take_of_length_le (by omega)]

theorem CutPoint.file (exact : ExactFile bytes messages nextId)
    (cut : CutPoint bytes (writeRecordRaw new) (encodeHeader (messages.length + 1) following) complete left) :
    headerSize ≤ left.length ∧ (parseHeader left).magic = messageStoreMagic ∧
      (parseHeader left).version = messageStoreVersion ∧
      rawRecords left = rawRecords bytes ++ (if complete then [writeRecordRaw new] else []) ∧
      (complete = false → parseHeader left = parseHeader bytes) := by
  have length := exact.length
  have long : headerSize ≤ bytes.length := by omega
  have width := length_writeRecordRaw new
  have headed := length_encodeHeader (messages.length + 1) following
  obtain ⟨rest, stamped⟩ := exists_stamped long exact.magic exact.version
  have pushed (written : Nat) (inside : written ≤ headerSize) (file : List UInt8)
      (torn : file = overlay (encodeHeader (messages.length + 1) following) (bytes ++ writeRecordRaw new) written) :
      headerSize ≤ file.length ∧ (parseHeader file).magic = messageStoreMagic ∧
        (parseHeader file).version = messageStoreVersion ∧ rawRecords file = rawRecords bytes ++
        [writeRecordRaw new] := by
    have size : file.length = bytes.length + recordSize := by
      rw [torn, length_overlay (by rw [List.length_append]; omega) inside headed, List.length_append, width]
    have payload : file.drop headerSize = bytes.drop headerSize ++ writeRecordRaw new := by
      rw [torn, drop_overlay inside headed, List.drop_append_of_le_length long]
    obtain ⟨others, intact⟩ := overlay_stamped (rest ++ writeRecordRaw new) (messages.length + 1) following written
    rw [← List.append_assoc, ← stamped, ← torn] at intact
    obtain ⟨magic, version⟩ := parseHeader_stamped others
    rw [← intact] at magic version
    exact ⟨by omega, magic, version, rawRecords_pushed length width size payload⟩
  cases cut with
  | inRecord written inside =>
    have same := parseHeader_append long ((writeRecordRaw new).take written)
    have short : ((writeRecordRaw new).take written).length < recordSize := by
      rw [List.length_take]
      omega
    refine ⟨by rw [List.length_append]; omega, by rw [same, exact.magic], by
      rw [same, exact.version], ?_, fun _ => same⟩
    rw [rawRecords_torn length short, if_neg (by simp), List.append_nil]
  | inHeader written inside =>
    obtain ⟨size, magic, version, records⟩ := pushed written (by omega) _ rfl
    exact ⟨size, magic, version, records, fun impossible => by cases impossible⟩
  | complete =>
    obtain ⟨size, magic, version, records⟩ := pushed headerSize (Nat.le_refl _) _ rfl
    exact ⟨size, magic, version, records, fun impossible => by cases impossible⟩

end Cut

section Recovery

variable {s : Store} {bytes left : List UInt8} {messages : List StoredMessage} {nextId following : UInt32}
  {complete : Bool}

theorem Identified.push {new : StoredMessage} (identified : Identified messages nextId) (id : new.storeId = nextId) :
    (∀ msg ∈ messages ++ [new], msg.storeId ≠ 0) ∧ ((messages ++ [new]).map (·.storeId)).Nodup := by
  refine ⟨?_, ?_⟩
  · intro msg member
    rcases List.mem_append.mp member with old | last
    · exact identified.nonzero msg old
    · rw [List.mem_singleton.mp last, id]
      exact identified.nextNonzero
  · rw [List.map_append, List.map_singleton, List.nodup_append]
    refine ⟨identified.unique, by simp, ?_⟩
    intro other member again last same
    rw [same, List.mem_singleton.mp last, id] at member
    exact identified.nextFresh member

theorem mapM_append_some {α β : Type} {f : α → Option β} {first second : List α} {left right : List β}
    (head : first.mapM f = some left) (tail : second.mapM f = some right) :
    (first ++ second).mapM f = some (left ++ right) := by
  rw [List.mapM_append, head, tail]
  rfl

theorem CutPoint.recoverable (exact : ExactFile bytes messages nextId) {msg : StoredMessage}
    (cut : CutPoint bytes (writeRecordRaw ((storedMessageNormalize msg).withId nextId))
      (encodeHeader (messages.length + 1) following) complete left) :
    recoverablePrefix [] (rawRecords left) =
      messages ++ (if complete then [(storedMessageNormalize msg).withId nextId] else []) := by
  have normal := storedMessageNormalize_withId (storedMessageNormalize_idempotent msg) nextId
  rw [(cut.file exact).2.2.2.1]
  cases complete with
  | false =>
    rw [if_neg (by simp), if_neg (by simp), List.append_nil, List.append_nil]
    exact recoverablePrefix_of_mapM exact.decodes exact.identified.nonzero exact.identified.unique (by simp)
  | true =>
    rw [if_pos rfl, if_pos rfl]
    have read : [writeRecordRaw ((storedMessageNormalize msg).withId nextId)].mapM readRecordRaw =
        some [(storedMessageNormalize msg).withId nextId] := by
      rw [List.mapM_cons, List.mapM_nil, readRecordRaw_writeRecordRaw, normal]
      rfl
    obtain ⟨nonzero, unique⟩ :=
      exact.identified.push (show ((storedMessageNormalize msg).withId nextId).storeId = nextId from rfl)
    exact recoverablePrefix_of_mapM (mapM_append_some exact.decodes read) nonzero unique (by simp)

/-- Wherever the power fails during an append, the next boot returns to the old records, followed by
    the new one if its bytes were complete. -/
theorem messageStoreBegin_after_cut (quiet : Quiet s) (exact : ExactFile bytes messages nextId)
    (within : messages.length ≤ backendMaxRecords s) {msg : StoredMessage}
    (cut : CutPoint bytes (writeRecordRaw ((storedMessageNormalize msg).withId nextId))
      (encodeHeader (messages.length + 1) following) complete left) (live : s.live = some left) :
    ∃ after survivors, messageStoreBegin s = (true, after) ∧ Booted after survivors ∧
      after.files.corrupt = s.files.corrupt ∧ survivors.map storedMessageNormalize =
        (recordsAfter s (messages ++ if complete then [(storedMessageNormalize msg).withId nextId] else [])).map
          storedMessageNormalize := by
  have recovery := backendRecoveryMaxRecords_eq s
  obtain ⟨long, magic, version, records, header⟩ := cut.file exact
  have recoverable := cut.recoverable exact
  have whole : (bytes.length - headerSize) / recordSize = messages.length := by
    rw [exact.length, Nat.add_sub_cancel_left, Nat.mul_div_cancel_left _ (by decide)]
  have size : (rawRecords left).length ≤ messages.length + 1 := by
    rw [records, List.length_append, length_rawRecords, whole]
    split <;> simp
  have clean : Quiet (s.report .clean) := ⟨quiet.working, quiet.settled⟩
  have file : CurrentFile (s.report .clean) left := by
    refine ⟨live, long, magic, version, ?_⟩
    rw [← length_rawRecords]
    exact show _ ≤ backendRecoveryMaxRecords s by omega
  have skips : migrateOlderStore (s.report .clean) = (.clean, s.report .clean) := by
    have past : ¬ (left.length < v4HeaderSize ∨ (parseHeader left).magic ≠ messageStoreMagic) := by
      rw [magic]
      rw [headerSize_eq] at long
      unfold v4HeaderSize
      simp
      omega
    rw [migrateOlderStore, file.live]
    dsimp only
    rw [if_neg past, if_pos version]
  obtain ⟨after, survivors, done, booted, -, outcome⟩ := beginRepair_current clean file
  refine ⟨after, survivors, ?_, booted, ?_⟩
  · rw [messageStoreBegin_settled quiet.working quiet.settled, beginMigrate, skips]
    exact done
  · rcases outcome with ⟨corrupt, kept, -⟩ | ⟨-, -, none, why⟩
    · rw [recoverable] at kept
      exact ⟨corrupt, kept⟩
    · -- Nothing to recover: the file held no record and its header was not touched.
      rw [recoverable, List.append_eq_nil_iff] at none
      have torn : complete = false := by
        cases complete with
        | false => rfl
        | true => exact absurd none.2 (by simp)
      have empty : rawRecords left = [] := by
        rw [records, torn, if_neg (by simp), List.append_nil]
        refine List.length_eq_zero_iff.mp ?_
        rw [length_rawRecords, whole, none.1, List.length_nil]
      have usable : HeaderUsable (s.report .clean) left := by
        rw [HeaderUsable, header torn, exact.count, exact.next]
        exact ⟨show _ ≤ backendRecoveryMaxRecords s by omega, exact.identified.nextNonzero⟩
      exact absurd why (not_or.mpr ⟨not_not_intro empty, not_not_intro usable⟩)

/-- A file of one record that bears no timestamp. -/
def unstampedFile : List UInt8 := encodeHeader 1 2 ++ (1 :: List.replicate 253 0)

def unstampedMessage : StoredMessage := recordBase (1 :: List.replicate 253 0)

theorem unstampedFile_exact : ExactFile unstampedFile [unstampedMessage] 2 where
  magic := by decide
  version := by decide
  count := by decide
  next := by decide
  length := by decide +kernel
  decodes := by decide +kernel
  identified := ⟨by decide +kernel, by decide +kernel, by decide, by decide +kernel⟩

/-- The same file after the first byte of another record. -/
def cutFile : List UInt8 :=
  unstampedFile ++ (writeRecordRaw ((storedMessageNormalize unstampedMessage).withId 2)).take 1

theorem cutFile_cutPoint :
    CutPoint unstampedFile (writeRecordRaw ((storedMessageNormalize unstampedMessage).withId 2))
      (encodeHeader 2 3) false
      cutFile := .inRecord 1 (by decide)

theorem after_cut_unstamped :
    ∃ after survivors, messageStoreBegin (.holding none cutFile) = (true, after) ∧ Booted after survivors ∧
      after.files.corrupt = none ∧ survivors.map storedMessageNormalize =
        (recordsAfter (.holding none cutFile) ([unstampedMessage] ++
          if false then [(storedMessageNormalize unstampedMessage).withId 2] else [])).map storedMessageNormalize :=
  messageStoreBegin_after_cut ⟨rfl, rfl⟩ unstampedFile_exact (by decide) cutFile_cutPoint rfl

/-- The rewrite stamps the old record. -/
theorem unstamped_record_changed :
    ExactFile unstampedFile [unstampedMessage] 2 ∧
      CutPoint unstampedFile (writeRecordRaw ((storedMessageNormalize unstampedMessage).withId 2)) (encodeHeader 2 3)
        false cutFile ∧
      (messageStoreBegin (.holding none cutFile)).1 = true ∧
      (messageStoreBegin (.holding none cutFile)).2.records ≠ [unstampedMessage] :=
  ⟨unstampedFile_exact, cutFile_cutPoint, by decide +kernel, by decide +kernel⟩

end Recovery

section Append

variable {s : Store} {log : Log} {norm : StoredMessage}

theorem Log.exactFile (log : Log) (short : log.messages.length < 2 ^ 32) :
    ExactFile log.encode log.messages log.nextId := by
  have header := parseHeader_encode log short
  have length : log.encode.length = headerSize + recordSize * log.messages.length := by
    rw [length_encode, Nat.mul_comm]
  have records : rawRecords log.encode = log.messages.map writeRecordRaw := by
    rw [rawRecords, length, Nat.add_sub_cancel_left, Nat.mul_div_cancel_left _ (by decide), slots_encode]
  refine ⟨by rw [header], by rw [header], by rw [header], by rw [header], length, ?_,
    ⟨log.nonzero, log.unique, log.nextNonzero, log.nextFresh⟩⟩
  rw [records, mapM_written, List.map_congr_left log.normal, List.map_id']

theorem appendNew_cutPoint (holds : Holds s log) (indexed : Indexed s log)
    (room : log.messages.length < backendMaxRecords s) (normal : storedMessageNormalize norm = norm) :
    ∃ complete left, (appendNew s norm).2.live = some left ∧
      CutPoint log.encode (writeRecordRaw (norm.withId log.nextId))
        (encodeHeader (log.messages.length + 1) log.following) complete left := by
  obtain ⟨pushed, messages, next, appended⟩ := appendNew_appended holds indexed (by omega) normal
  rw [← next]
  generalize appendNew s norm = outcome at appended ⊢
  obtain ⟨result, after⟩ := outcome
  dsimp only at appended ⊢
  cases appended with
  | tornRecord written _ _ _ =>
    by_cases inside : written < recordSize
    · exact ⟨false, _, rfl, .inRecord written inside⟩
    · have whole : (writeRecordRaw (norm.withId log.nextId)).take written = writeRecordRaw (norm.withId log.nextId) :=
        List.take_of_length_le (by rw [length_writeRecordRaw]; omega)
      have untouched : overlay (encodeHeader (log.messages.length + 1) pushed.nextId)
          (log.encode ++ writeRecordRaw (norm.withId log.nextId)) 0 =
            log.encode ++ writeRecordRaw (norm.withId log.nextId) := by
        rw [overlay, List.take_zero, List.drop_zero, List.nil_append]
      refine ⟨true, _, rfl, ?_⟩
      rw [whole, ← untouched]
      exact .inHeader 0 (by decide)
  | tornHeader written _ _ _ =>
    by_cases inside : written < headerSize
    · refine ⟨true, _, rfl, ?_⟩
      rw [Nat.min_eq_left (by omega)]
      exact .inHeader written inside
    · refine ⟨true, _, rfl, ?_⟩
      rw [Nat.min_eq_right (by omega)]
      exact .complete
  | stored _ _ _ =>
    refine ⟨true, _, rfl, ?_⟩
    rw [← encode_push messages]
    exact .complete
  | compacted _ _ _ full => omega
  | uncompacted _ _ full => omega

end Append

end SigurdOS.MessageStore
