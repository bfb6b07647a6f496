import SigurdOS.Bytes.Slots
import SigurdOS.MessageStore.Message

namespace SigurdOS.MessageStore

open Bytes

def messageStoreMagic : UInt32 := 0x534d5347
def messageStoreVersion : UInt8 := 6
def v4HeaderSize : Nat := 9
def headerSize : Nat := 13
def v5RecordSize : Nat := 4 + conversationLen + senderLen + textLen + 4 + prefixLen + 2 + 1 + 1 + 1 + 1 + extraSize + 1
def recordSize : Nat :=
  4 + conversationLen + senderLen + textLen + 4 + prefixLen + 2 + 1 + 1 + 1 + 1 + 1 + extraSize + 1

def read32 (raw : List UInt8) : UInt32 := UInt32.ofNat (leNumber (raw.take 4))

def recordBase (record : List UInt8) : StoredMessage where
  storeId := read32 record
  conversation := CString.decode conversationLen ((record.drop 4).take conversationLen)
  sender := CString.decode senderLen ((record.drop 36).take senderLen)
  text := CString.decode textLen ((record.drop 68).take textLen)
  timestamp := read32 (record.drop 228)
  senderPrefix := FixedBytes.ofList prefixLen ((record.drop 232).take prefixLen)
  rssi := (UInt16.ofNat (leNumber ((record.drop 238).take 2))).toInt16
  snrQuarters := ((record.drop 240).headD 0).toInt8
  pathLen := (record.drop 241).headD 0
  txtType := (record.drop 242).headD 0
  attempt := 0
  extraLen := 0
  extra := FixedBytes.ofList extraSize []
  isSelf := false
  isChannel := false
  acked := false
  confirmationLost := false
  companionSent := false
  routeFlood := false
  routeKnown := false
  attemptKnown := false

def readRecordRaw (record : List UInt8) : Option StoredMessage :=
  if record.length < recordSize then none
  else
    let extraLen := (record.drop 244).headD 0
    if extraLen > 8 then none
    else some (applyFlags
      { recordBase record with
        text := truncatedText ((record.drop 68).take textLen)
        attempt := (record.drop 243).headD 0
        extraLen := extraLen
        extra := FixedBytes.ofList extraSize ((record.drop 245).take extraSize) }
      ((record.drop 253).headD 0))

def readVersion5RecordRaw (record : List UInt8) : Option StoredMessage :=
  if record.length < v5RecordSize then none
  else
    let extraLen := (record.drop 243).headD 0
    if extraLen > 8 then none
    else
      let msg := applyFlags
        { recordBase record with
          extraLen := extraLen
          extra := FixedBytes.ofList extraSize ((record.drop 244).take extraSize) }
        ((record.drop 252).headD 0)
      let msg := { msg with attemptKnown := false }
      -- Before v6 a flood path was known only by its encoded length.
      if !msg.routeKnown && msg.pathLen != 0xFF then some { msg with routeKnown := true, routeFlood := true }
      else some msg

def writeRecordRaw (msg : StoredMessage) : List UInt8 :=
  let norm := storedMessageNormalize msg
  leBytes 4 norm.storeId.toNat ++ (norm.conversation.encode ++ (norm.sender.encode ++ (norm.text.encode ++
    (leBytes 4 norm.timestamp.toNat ++ (norm.senderPrefix.bytes ++ (leBytes 2 norm.rssi.toUInt16.toNat ++
      (norm.snrQuarters.toUInt8 :: norm.pathLen :: norm.txtType :: norm.attempt :: norm.extraLen ::
        (norm.extra.bytes ++ [flagsFor norm]))))))))

structure Header where
  magic : UInt32
  version : UInt8
  count : Nat
  nextId : UInt32
  deriving DecidableEq

def parseHeader (raw : List UInt8) : Header where
  magic := read32 raw
  version := (raw.drop 4).headD 0
  count := leNumber ((raw.drop 5).take 4)
  nextId := read32 (raw.drop 9)

def encodeHeader (count : Nat) (nextId : UInt32) : List UInt8 :=
  leBytes 4 messageStoreMagic.toNat ++ (messageStoreVersion :: (leBytes 4 count ++ leBytes 4 nextId.toNat))

theorem read32_leBytes (value : UInt32) (rest : List UInt8) : read32 (leBytes 4 value.toNat ++ rest) = value := by
  have bound : value.toNat < 256 ^ 4 := value.toNat_lt
  rw [read32, List.take_left' (length_leBytes _ _), leNumber_leBytes_of_lt bound, UInt32.ofNat_toNat]

theorem drop_field {record front rest : List UInt8} {offset : Nat} (width : Nat)
    (here : record.drop offset = front ++ rest) (length : front.length = width) :
    record.drop (offset + width) = rest := by
  rw [← List.drop_drop, here, List.drop_left' length]

theorem drop_byte {record rest : List UInt8} {offset : Nat} {byte : UInt8}
    (here : record.drop offset = byte :: rest) : record.drop (offset + 1) = rest := by
  rw [← List.drop_drop, here]
  rfl

theorem headerSize_eq : headerSize = 13 := rfl
theorem recordSize_eq : recordSize = 254 := rfl
@[simp] theorem length_encodeHeader (count : Nat) (nextId : UInt32) :
    (encodeHeader count nextId).length = headerSize := by
  simp only [encodeHeader, List.length_append, List.length_cons, length_leBytes, headerSize_eq]

@[simp] theorem length_writeRecordRaw (msg : StoredMessage) : (writeRecordRaw msg).length = recordSize := by
  simp only [writeRecordRaw, List.length_append, List.length_cons, List.length_nil, length_leBytes,
    CString.length_encode, FixedBytes.length_eq, recordSize]
  rfl

theorem parseHeader_encodeHeader {count : Nat} (nextId : UInt32) (rest : List UInt8) (bound : count < 2 ^ 32) :
    parseHeader (encodeHeader count nextId ++ rest) = ⟨messageStoreMagic, messageStoreVersion, count, nextId⟩ := by
  have afterMagic : (encodeHeader count nextId ++ rest).drop 4 =
      messageStoreVersion :: (leBytes 4 count ++ (leBytes 4 nextId.toNat ++ rest)) := by
    rw [encodeHeader, List.append_assoc, List.drop_left' (length_leBytes _ _), List.cons_append, List.append_assoc]
  have afterVersion : (encodeHeader count nextId ++ rest).drop 5 =
      leBytes 4 count ++ (leBytes 4 nextId.toNat ++ rest) := by
    rw [show 5 = 4 + 1 from rfl, ← List.drop_drop, afterMagic, List.drop_one, List.tail_cons]
  have afterCount : (encodeHeader count nextId ++ rest).drop 9 = leBytes 4 nextId.toNat ++ rest := by
    rw [show 9 = 5 + 4 from rfl, ← List.drop_drop, afterVersion, List.drop_left' (length_leBytes _ _)]
  have counted : leNumber (leBytes 4 count) = count := leNumber_leBytes_of_lt bound
  have magic : read32 (encodeHeader count nextId ++ rest) = messageStoreMagic := by
    rw [encodeHeader, List.append_assoc, read32_leBytes]
  unfold parseHeader
  rw [magic, afterMagic, afterVersion, afterCount, List.take_left' (length_leBytes _ _), counted, read32_leBytes]
  rfl

structure RecordFields (record : List UInt8) (norm : StoredMessage) : Prop where
  length : record.length = recordSize
  storeId : read32 record = norm.storeId
  conversation : (record.drop 4).take conversationLen = norm.conversation.encode
  sender : (record.drop 36).take senderLen = norm.sender.encode
  text : (record.drop 68).take textLen = norm.text.encode
  timestamp : read32 (record.drop 228) = norm.timestamp
  senderPrefix : (record.drop 232).take prefixLen = norm.senderPrefix.bytes
  rssi : (UInt16.ofNat (leNumber ((record.drop 238).take 2))).toInt16 = norm.rssi
  snrQuarters : (record.drop 240).headD 0 = norm.snrQuarters.toUInt8
  pathLen : (record.drop 241).headD 0 = norm.pathLen
  txtType : (record.drop 242).headD 0 = norm.txtType
  attempt : (record.drop 243).headD 0 = norm.attempt
  extraLen : (record.drop 244).headD 0 = norm.extraLen
  extra : (record.drop 245).take extraSize = norm.extra.bytes
  flags : (record.drop 253).headD 0 = flagsFor norm

theorem recordFields_writeRecordRaw (msg : StoredMessage) :
    RecordFields (writeRecordRaw msg) (storedMessageNormalize msg) := by
  have length := length_writeRecordRaw msg
  unfold writeRecordRaw at length ⊢
  generalize storedMessageNormalize msg = norm at *
  dsimp only at length ⊢
  generalize record0 : leBytes 4 norm.storeId.toNat ++ _ = record at length ⊢
  have drop0 : record.drop 0 = _ ++ _ := record0.symm
  have drop4 : record.drop 4 = _ := drop_field 4 drop0 (length_leBytes _ _)
  have drop36 : record.drop 36 = _ := drop_field 32 drop4 (CString.length_encode _)
  have drop68 : record.drop 68 = _ := drop_field 32 drop36 (CString.length_encode _)
  have drop228 : record.drop 228 = _ := drop_field 160 drop68 (CString.length_encode _)
  have drop232 : record.drop 232 = _ := drop_field 4 drop228 (length_leBytes _ _)
  have drop238 : record.drop 238 = _ := drop_field 6 drop232 norm.senderPrefix.length_eq
  have drop240 : record.drop 240 = _ := drop_field 2 drop238 (length_leBytes _ _)
  have drop241 : record.drop 241 = _ := drop_byte drop240
  have drop242 : record.drop 242 = _ := drop_byte drop241
  have drop243 : record.drop 243 = _ := drop_byte drop242
  have drop244 : record.drop 244 = _ := drop_byte drop243
  have drop245 : record.drop 245 = _ := drop_byte drop244
  have drop253 : record.drop 253 = _ := drop_field 8 drop245 norm.extra.length_eq
  have identity : read32 record = norm.storeId := by rw [← record0]; exact read32_leBytes _ _
  have rssi : (UInt16.ofNat (leNumber (leBytes 2 norm.rssi.toUInt16.toNat))).toInt16 = norm.rssi := by
    have bound : norm.rssi.toUInt16.toNat < 256 ^ 2 := norm.rssi.toUInt16.toNat_lt
    rw [leNumber_leBytes_of_lt bound, UInt16.ofNat_toNat, Int16.toInt16_toUInt16]
  constructor
  · exact length
  · exact identity
  · rw [drop4, List.take_left' (CString.length_encode _)]
  · rw [drop36, List.take_left' (CString.length_encode _)]
  · rw [drop68, List.take_left' (CString.length_encode _)]
  · rw [drop228, read32_leBytes]
  · rw [drop232, List.take_left' norm.senderPrefix.length_eq]
  · rw [drop238, List.take_left' (length_leBytes _ _), rssi]
  · rw [drop240, List.headD_cons]
  · rw [drop241, List.headD_cons]
  · rw [drop242, List.headD_cons]
  · rw [drop243, List.headD_cons]
  · rw [drop244, List.headD_cons]
  · rw [drop245, List.take_left' norm.extra.length_eq]
  · rw [drop253, List.headD_cons]

theorem normalized_extraLen (msg : StoredMessage) : ¬ (storedMessageNormalize msg).extraLen > 8 := by
  simp only [storedMessageNormalize]
  split
  · decide
  · assumption

theorem normalized_conversation (msg : StoredMessage) :
    (storedMessageNormalize msg).conversation.chars.length ≤ conversationLen - 1 := List.length_take_le _ _

theorem normalized_sender (msg : StoredMessage) :
    (storedMessageNormalize msg).sender.chars.length ≤ senderLen - 1 := List.length_take_le _ _

theorem normalized_text (msg : StoredMessage) : (storedMessageNormalize msg).text.chars.length ≤ textLen - 1 :=
  (List.length_take_le _ _).trans ((SigurdOS.Utils.utf8TruncateBytes_le_max _ _).trans (Nat.min_le_right _ _))

theorem truncatedText_encode (msg : StoredMessage) :
    truncatedText (storedMessageNormalize msg).text.encode = (storedMessageNormalize msg).text := by
  have kept : truncatedText (storedMessageNormalize msg).text.chars = (storedMessageNormalize msg).text :=
    truncatedText_truncatedText _
  have short := normalized_text msg
  generalize (storedMessageNormalize msg).text = text at *
  rw [CString.encode, truncatedText_padded _ (fun byte member => text.nonzero byte (List.mem_of_mem_take member)),
    List.take_of_length_le short, kept]

theorem readRecordRaw_writeRecordRaw (msg : StoredMessage) :
    readRecordRaw (writeRecordRaw msg) = some (storedMessageNormalize msg) := by
  have fields := recordFields_writeRecordRaw msg
  have text := truncatedText_encode msg
  have notWide := normalized_extraLen msg
  have conversationShort := normalized_conversation msg
  have senderShort := normalized_sender msg
  generalize writeRecordRaw msg = record at fields ⊢
  generalize storedMessageNormalize msg = norm at *
  have complete : ¬ record.length < recordSize := by rw [fields.length]; exact lt_irrefl _
  unfold readRecordRaw recordBase
  rw [if_neg complete, fields.storeId, fields.conversation, fields.sender, fields.text, fields.timestamp,
    fields.senderPrefix, fields.rssi, fields.snrQuarters, fields.pathLen, fields.txtType, fields.attempt,
    fields.extraLen, fields.extra, fields.flags, CString.decode_encode, CString.decode_encode,
    CString.truncate_of_le conversationShort, CString.truncate_of_le senderShort, text, FixedBytes.ofList_bytes,
    FixedBytes.ofList_bytes]
  simp only [notWide, ite_false, Int8.toInt8_toUInt8, applyFlags_flagsFor]

end SigurdOS.MessageStore
