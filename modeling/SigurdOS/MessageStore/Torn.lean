import SigurdOS.MessageStore.Boot

namespace SigurdOS.MessageStore

open Bytes SigurdOS.Hal

def versionStamp : List UInt8 := leBytes 4 messageStoreMagic.toNat ++ [messageStoreVersion]

theorem encodeHeader_stamped (count : Nat) (nextId : UInt32) :
    encodeHeader count nextId = versionStamp ++ (leBytes 4 count ++ leBytes 4 nextId.toNat) := by
  rw [encodeHeader, versionStamp, List.append_assoc]
  rfl

theorem parseHeader_stamped (rest : List UInt8) :
    (parseHeader (versionStamp ++ rest)).magic = messageStoreMagic ∧
      (parseHeader (versionStamp ++ rest)).version = messageStoreVersion := by
  refine ⟨?_, ?_⟩
  · rw [parseHeader, versionStamp, List.append_assoc, read32_leBytes]
  · rw [parseHeader, versionStamp, List.append_assoc, List.drop_left' (length_leBytes _ _)]
    rfl

section Header

variable {count : Nat} {written : Nat}

theorem leBytes_of_length {bytes : List UInt8} (width : bytes.length = 4) : leBytes 4 (leNumber bytes) = bytes := by
  have exact := leBytes_leNumber bytes
  rw [width] at exact
  exact exact

theorem torn_length {first second : List UInt8} (same : first.length = 4) (other : second.length = 4)
    (inside : written ≤ 4) : (first.take written ++ second.drop written).length = 4 := by
  rw [List.length_append, List.length_take, List.length_drop]
  omega

theorem overlay_encodeHeader (next following : UInt32) (short : count + 1 < 2 ^ 32) (inside : written ≤ headerSize) :
    ∃ torn tornNext, torn ≤ count + 1 ∧
      overlay (encodeHeader (count + 1) following) (encodeHeader count next) written = encodeHeader torn tornNext := by
  have stamp : versionStamp.length = 5 := rfl
  rw [headerSize_eq] at inside
  rw [encodeHeader_stamped, encodeHeader_stamped]
  by_cases early : written ≤ versionStamp.length
  · refine ⟨count, next, Nat.le_succ _, ?_⟩
    rw [overlay_shared early, encodeHeader_stamped]
  · rw [overlay_common (by omega), stamp]
    by_cases inCount : written - 5 ≤ 4
    · -- The tear is in the count: its low bytes are those of the successor.
      have width := torn_length (length_leBytes 4 (count + 1)) (length_leBytes 4 count) inCount
      refine ⟨_, next, torn_successor_le (written - 5) inCount (by omega), ?_⟩
      rw [encodeHeader_stamped, leBytes_of_length width, overlay, List.take_append_of_le_length (by simp; omega),
        List.drop_append_of_le_length (by simp; omega), List.append_assoc]
    · -- The tear is in the next ID: the count is the new one.
      have width := torn_length (length_leBytes 4 following.toNat) (length_leBytes 4 next.toNat)
        (show written - 5 - 4 ≤ 4 by omega)
      have bound := leNumber_lt ((leBytes 4 following.toNat).take (written - 5 - 4) ++
        (leBytes 4 next.toNat).drop (written - 5 - 4))
      rw [width] at bound
      refine ⟨count + 1, UInt32.ofNat (leNumber ((leBytes 4 following.toNat).take (written - 5 - 4) ++
        (leBytes 4 next.toNat).drop (written - 5 - 4))), Nat.le_refl _, ?_⟩
      rw [encodeHeader_stamped, UInt32.toNat_ofNat_of_lt' bound, leBytes_of_length width, overlay, List.take_append,
        List.drop_append, length_leBytes, length_leBytes, List.take_of_length_le (by simp; omega),
        List.drop_of_length_le (by simp; omega), List.nil_append, List.append_assoc]

end Header

section Visible

variable {s : Store} {image : Image}

theorem readHeader_zero {count : Nat} {rest : List UInt8} (live : s.live = some (encodeHeader count 0 ++ rest))
    (short : count < 2 ^ 32) : readHeader s = none := by
  rw [readHeader, live]
  dsimp only
  rw [parseHeader_encodeHeader 0 rest short]
  exact if_pos (Or.inr (Or.inr (Or.inr (Or.inl rfl))))

theorem readHeader_over {count : Nat} {nextId : UInt32} {rest : List UInt8}
    (live : s.live = some (encodeHeader count nextId ++ rest)) (short : count < 2 ^ 32)
    (crowded : count > backendRecoveryMaxRecords s) : readHeader s = none := by
  rw [readHeader, live]
  dsimp only
  rw [parseHeader_encodeHeader nextId rest short]
  exact if_pos (Or.inr (Or.inr (Or.inr (Or.inr crowded))))

theorem Left.visible (left : Left s image) :
    (image.nextId = 0 ∧ readHeader s = none) ∨
      (image.nextId ≠ 0 ∧ Reads s (image.messages.take image.count) image.nextId) := by
  have fits := left.fits
  have counted := image.counted
  have small := left.short
  by_cases zero : image.nextId = 0
  · have live := left.live
    rw [Image.encode, zero] at live
    exact Or.inl ⟨zero, readHeader_zero live (by omega)⟩
  · have length : (image.messages.take image.count).length = image.count := List.length_take_of_le counted
    have header : readHeader s = some (image.count, image.nextId) := readHeader_encoded left.live (by omega) zero
    have live : s.live = some (encodeHeader image.count image.nextId ++ ((image.messages.take image.count).flatMap
        writeRecordRaw ++ ((image.messages.drop image.count).flatMap writeRecordRaw ++ image.tail))) := by
      rw [left.live, Image.encode, ← List.append_assoc (List.flatMap _ _), ← List.flatMap_append, List.take_append_drop]
    have payload := readPayload_encoded live (length_encodeHeader _ _)
    refine Or.inr ⟨zero, ?_, ?_⟩
    · rw [length]
      exact header
    · rw [readCompleteRecords, payload, Option.bind_some, mapM_written]
      rw [List.map_congr_left (fun msg member => image.normal msg (List.mem_of_mem_take member)), List.map_id']

theorem records_unread (header : readHeader s = none) : s.records = [] := by
  rw [Store.records, messageStoreLoadAll, loadAllInternal, header]

theorem records_missing (live : s.live = none) : s.records = [] := by
  apply records_unread
  rw [readHeader, live]

theorem Left.records_sub (left : Left s image) : ∀ msg ∈ s.records, msg ∈ image.messages := by
  rcases left.visible with ⟨-, header⟩ | ⟨-, reads⟩
  · rw [records_unread header]
    simp
  · rw [reads.records_eq]
    exact fun msg member => List.mem_of_mem_take member

end Visible

section Append

variable {log pushed : Log} {rec : StoredMessage}

theorem Log.encode_append (log : Log) (rest : List UInt8) :
    log.encode ++ rest = encodeHeader log.messages.length log.nextId ++
        (log.messages.flatMap writeRecordRaw ++ rest) := by
  rw [Log.encode, encodeStore, List.append_assoc]

theorem records_push (messages : pushed.messages = log.messages ++ [rec]) :
    pushed.messages.flatMap writeRecordRaw = log.messages.flatMap writeRecordRaw ++ writeRecordRaw rec := by
  rw [messages, List.flatMap_append, List.flatMap_singleton]

theorem exists_image_tornRecord (messages : pushed.messages = log.messages ++ [rec]) (written : Nat) :
    ∃ image : Image, image.encode = log.encode ++ (writeRecordRaw rec).take written ∧
      image.count = log.messages.length ∧ image.nextId = log.nextId ∧
      (image.messages = log.messages ∨ image.messages = pushed.messages) := by
  have width := length_writeRecordRaw rec
  by_cases inside : written < recordSize
  · refine ⟨⟨log.messages.length, log.nextId, log.messages, (writeRecordRaw rec).take written, log.normal, log.nonzero,
      log.unique, Nat.le_refl _, ?_, fun _ => log.nextNonzero⟩, ?_, rfl, rfl, Or.inl rfl⟩
    · rw [List.length_take]
      omega
    · rw [Image.encode, Log.encode_append]
  · refine ⟨⟨log.messages.length, log.nextId, pushed.messages, [], pushed.normal, pushed.nonzero,
      pushed.unique, ?_, by decide, fun _ => log.nextNonzero⟩, ?_, rfl, rfl, Or.inr rfl⟩
    · rw [messages, List.length_append]
      exact Nat.le_add_right _ _
    · rw [Image.encode, Log.encode_append, List.take_of_length_le (by omega), ← records_push messages, List.append_nil]

theorem exists_image_tornHeader (messages : pushed.messages = log.messages ++ [rec])
    (short : log.messages.length + 1 < 2 ^ 32) (written : Nat) :
    ∃ image : Image, image.encode = overlay (encodeHeader (log.messages.length + 1) pushed.nextId)
        (log.encode ++ writeRecordRaw rec) (min written headerSize) ∧ image.messages = pushed.messages := by
  obtain ⟨torn, tornNext, bound, header⟩ := overlay_encodeHeader log.nextId pushed.nextId short
    (Nat.min_le_right written headerSize)
  refine ⟨⟨torn, tornNext, pushed.messages, [], pushed.normal, pushed.nonzero, pushed.unique, ?_, by decide, ?_⟩, ?_,
    rfl⟩
  · rw [messages, List.length_append, List.length_singleton]
    exact bound
  · intro empty
    rw [messages] at empty
    simp at empty
  · rw [Image.encode, Log.encode_append, overlay_append _ (by simp), header, ← records_push messages, List.append_nil]

end Append

end SigurdOS.MessageStore
