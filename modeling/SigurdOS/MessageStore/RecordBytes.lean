import SigurdOS.MessageStore.Codec

namespace SigurdOS.MessageStore

open Bytes SigurdOS.Utils

/-- `StoredMessage` as it lies in memory: its `char` arrays hold any bytes, also behind a terminator or
    without one. -/
structure StoredBytes where
  storeId : UInt32
  conversation : FixedBytes conversationLen
  sender : FixedBytes senderLen
  text : FixedBytes textLen
  timestamp : UInt32
  senderPrefix : FixedBytes prefixLen
  rssi : Int16
  snrQuarters : Int8
  pathLen : UInt8
  txtType : UInt8
  attempt : UInt8
  extraLen : UInt8
  extra : FixedBytes extraSize
  isSelf : Bool
  isChannel : Bool
  acked : Bool
  confirmationLost : Bool
  companionSent : Bool
  routeFlood : Bool
  routeKnown : Bool
  attemptKnown : Bool
  deriving DecidableEq

namespace StoredBytes

def value (msg : StoredBytes) : StoredMessage where
  storeId := msg.storeId
  conversation := msg.conversation.string
  sender := msg.sender.string
  text := msg.text.string
  timestamp := msg.timestamp
  senderPrefix := msg.senderPrefix
  rssi := msg.rssi
  snrQuarters := msg.snrQuarters
  pathLen := msg.pathLen
  txtType := msg.txtType
  attempt := msg.attempt
  extraLen := msg.extraLen
  extra := msg.extra
  isSelf := msg.isSelf
  isChannel := msg.isChannel
  acked := msg.acked
  confirmationLost := msg.confirmationLost
  companionSent := msg.companionSent
  routeFlood := msg.routeFlood
  routeKnown := msg.routeKnown
  attemptKnown := msg.attemptKnown

/-- The message with zeros behind each string terminator. -/
def zeroTails (msg : StoredBytes) : StoredBytes :=
  { msg with conversation := msg.conversation.zeroTail, sender := msg.sender.zeroTail, text := msg.text.zeroTail }

/-- `utf8_copy_truncate_n` of a buffer onto itself: the kept bytes stay in place, the next one ends the string. -/
def truncateInPlace (text : FixedBytes textLen) : FixedBytes textLen :=
  text.setByte (utf8TruncateBytes text.bytes (min textLen (textLen - 1))) 0

def storedMessageNormalize (msg : StoredBytes) : StoredBytes :=
  { msg with
    conversation := msg.conversation.setByte (conversationLen - 1) 0
    sender := msg.sender.setByte (senderLen - 1) 0
    text := truncateInPlace msg.text
    extraLen := if msg.extraLen > 8 then 8 else msg.extraLen
    timestamp := if msg.timestamp = 0 then 1 else msg.timestamp }

/-- The bytes that `strnlen` counts in an array, in a field of a zeroed record. -/
def copyString {width : Nat} (field : FixedBytes width) : List UInt8 :=
  (FixedBytes.ofList width (terminated (field.bytes.take (width - 1)))).bytes

def writeRecordRaw (msg : StoredBytes) : List UInt8 :=
  let norm := storedMessageNormalize msg
  leBytes 4 norm.storeId.toNat ++ (copyString norm.conversation ++ (copyString norm.sender ++ (copyString norm.text ++
    (leBytes 4 norm.timestamp.toNat ++ (norm.senderPrefix.bytes ++ (leBytes 2 norm.rssi.toUInt16.toNat ++
      (norm.snrQuarters.toUInt8 :: norm.pathLen :: norm.txtType :: norm.attempt :: norm.extraLen ::
        (norm.extra.bytes ++ [flagsFor norm.value]))))))))

def readString (width : Nat) (record : List UInt8) (offset : Nat) : FixedBytes width :=
  FixedBytes.ofList width ((record.drop offset).take width)

def readRecordRaw (record : List UInt8) : Option StoredBytes :=
  if record.length < recordSize then none
  else
    let extraLen := (record.drop 244).headD 0
    let flags := (record.drop 253).headD 0
    if extraLen > 8 then none
    else some
      { storeId := read32 record
        conversation := (readString conversationLen record 4).setByte (conversationLen - 1) 0
        sender := (readString senderLen record 36).setByte (senderLen - 1) 0
        text := truncateInPlace (readString textLen record 68)
        timestamp := read32 (record.drop 228)
        senderPrefix := FixedBytes.ofList prefixLen ((record.drop 232).take prefixLen)
        rssi := (UInt16.ofNat (leNumber ((record.drop 238).take 2))).toInt16
        snrQuarters := ((record.drop 240).headD 0).toInt8
        pathLen := (record.drop 241).headD 0
        txtType := (record.drop 242).headD 0
        attempt := (record.drop 243).headD 0
        extraLen := extraLen
        extra := FixedBytes.ofList extraSize ((record.drop 245).take extraSize)
        isSelf := flags &&& 0x01 != 0
        isChannel := flags &&& 0x02 != 0
        acked := flags &&& 0x04 != 0
        companionSent := flags &&& 0x08 != 0
        confirmationLost := flags &&& 0x10 != 0
        routeFlood := flags &&& 0x20 != 0
        routeKnown := flags &&& 0x40 != 0
        attemptKnown := flags &&& 0x80 != 0 }

theorem utf8TruncateBytes_congr {left right : List UInt8} {maxBytes : Nat}
    (same : (terminated left).take maxBytes = (terminated right).take maxBytes) :
    utf8TruncateBytes left maxBytes = utf8TruncateBytes right maxBytes := by
  unfold utf8TruncateBytes
  rw [terminated_take, terminated_take, same]

theorem truncateInPlace_inside (text : List UInt8) : utf8TruncateBytes text (min textLen (textLen - 1)) < textLen :=
  lt_of_le_of_lt (utf8TruncateBytes_le_max _ _) (by decide)

theorem string_truncateInPlace (text : FixedBytes textLen) :
    (truncateInPlace text).string = truncatedText text.string.chars := by
  have same : utf8TruncateBytes text.string.chars (min textLen (textLen - 1)) =
      utf8TruncateBytes text.bytes (min textLen (textLen - 1)) := by
    apply utf8TruncateBytes_congr
    rw [terminated_of_nonzero text.string.nonzero]
    rfl
  rw [truncateInPlace, FixedBytes.string_setByte (truncateInPlace_inside _)]
  ext1
  change text.string.chars.take _ = text.string.chars.take _
  rw [same]

theorem truncateInPlace_truncateInPlace (text : FixedBytes textLen) :
    truncateInPlace (truncateInPlace text) = truncateInPlace text := by
  have inside := truncateInPlace_inside text.bytes
  have again : utf8TruncateBytes (truncateInPlace text).bytes (min textLen (textLen - 1)) =
      utf8TruncateBytes text.bytes (min textLen (textLen - 1)) := by
    rw [← utf8TruncateBytes_take text.bytes (min textLen (textLen - 1))]
    apply utf8TruncateBytes_congr
    rw [truncateInPlace, FixedBytes.setByte,
      terminated_set_zero (by rw [text.length_eq]; exact inside), terminated_take]
  rw [truncateInPlace, again]
  ext1
  exact List.set_set _

theorem value_storedMessageNormalize (msg : StoredBytes) :
    (storedMessageNormalize msg).value = MessageStore.storedMessageNormalize msg.value := by
  unfold value storedMessageNormalize MessageStore.storedMessageNormalize
  dsimp only
  rw [FixedBytes.string_setByte (by decide), FixedBytes.string_setByte (by decide), string_truncateInPlace]

theorem storedMessageNormalize_twice (msg : StoredBytes) :
    storedMessageNormalize (storedMessageNormalize msg) = storedMessageNormalize msg := by
  have twice {width : Nat} (field : FixedBytes width) (index : Nat) :
      (field.setByte index 0).setByte index 0 = field.setByte index 0 := by
    ext1
    exact List.set_set _
  have values := MessageStore.storedMessageNormalize_idempotent msg.value
  have extraLen := congrArg StoredMessage.extraLen values
  have timestamp := congrArg StoredMessage.timestamp values
  unfold MessageStore.storedMessageNormalize at extraLen timestamp
  unfold storedMessageNormalize
  congr 1
  · exact twice _ _
  · exact twice _ _
  · exact truncateInPlace_truncateInPlace _

theorem copyString_eq {width : Nat} (field : FixedBytes width) :
    copyString field = field.string.encode := by
  rw [CString.encode_eq_ofList, copyString, terminated_take]
  rfl

theorem writeRecordRaw_eq (msg : StoredBytes) : writeRecordRaw msg = MessageStore.writeRecordRaw msg.value := by
  unfold writeRecordRaw MessageStore.writeRecordRaw
  rw [← value_storedMessageNormalize]
  generalize storedMessageNormalize msg = norm
  dsimp only
  rw [copyString_eq, copyString_eq, copyString_eq]
  rfl

theorem readString_eq {width : Nat} {record : List UInt8} {offset : Nat} {string : CString width}
    (held : (record.drop offset).take width = string.encode) (short : string.chars.length ≤ width - 1) :
    readString width record offset = FixedBytes.ofList width string.chars := by
  rw [readString, held, CString.encode_eq_ofList, FixedBytes.ofList_bytes, List.take_of_length_le short]

theorem truncateInPlace_ofList {text : CString textLen} (kept : truncatedText text.chars = text)
    (short : text.chars.length ≤ textLen - 1) :
    truncateInPlace (FixedBytes.ofList textLen text.chars) = FixedBytes.ofList textLen text.chars := by
  apply setByte_ofList
  have whole : text.chars.take (utf8TruncateBytes text.chars (min textLen (textLen - 1))) = text.chars :=
    congrArg CString.chars kept
  have same : utf8TruncateBytes (FixedBytes.ofList textLen text.chars).bytes (min textLen (textLen - 1)) =
      utf8TruncateBytes text.chars (min textLen (textLen - 1)) := by
    have padded := CString.encode_eq_ofList text
    rw [List.take_of_length_le short] at padded
    rw [← padded, CString.encode, List.take_of_length_le short, utf8TruncateBytes_padded _ _ text.nonzero]
  rw [same]
  calc text.chars.length = (text.chars.take (utf8TruncateBytes text.chars (min textLen (textLen - 1)))).length := by
        rw [whole]
    _ ≤ utf8TruncateBytes text.chars (min textLen (textLen - 1)) := List.length_take_le _ _

theorem readRecordRaw_written (msg : StoredBytes) :
    readRecordRaw (writeRecordRaw msg) = some (storedMessageNormalize msg).zeroTails := by
  have fields := recordFields_writeRecordRaw msg.value
  have notWide := normalized_extraLen msg.value
  have conversationShort := normalized_conversation msg.value
  have senderShort := normalized_sender msg.value
  have textShort := normalized_text msg.value
  have textKept : truncatedText (MessageStore.storedMessageNormalize msg.value).text.chars =
      (MessageStore.storedMessageNormalize msg.value).text := truncatedText_truncatedText _
  rw [writeRecordRaw_eq]
  generalize MessageStore.writeRecordRaw msg.value = record at fields ⊢
  rw [← value_storedMessageNormalize] at *
  generalize storedMessageNormalize msg = norm at *
  have complete : ¬ record.length < recordSize := by rw [fields.length]; exact lt_irrefl _
  have flags := applyFlags_flagsFor norm.value norm.value
  have conversation := readString_eq fields.conversation conversationShort
  have sender := readString_eq fields.sender senderShort
  have text := readString_eq fields.text textShort
  unfold readRecordRaw
  rw [if_neg complete, fields.storeId, conversation, sender, text, fields.timestamp, fields.senderPrefix, fields.rssi,
    fields.snrQuarters, fields.pathLen, fields.txtType, fields.attempt, fields.extraLen, fields.extra, fields.flags,
    setByte_ofList conversationShort, setByte_ofList senderShort, truncateInPlace_ofList textKept textShort,
    FixedBytes.ofList_bytes, FixedBytes.ofList_bytes]
  dsimp only
  rw [if_neg notWide]
  simp only [applyFlags, StoredMessage.mk.injEq, true_and] at flags
  obtain ⟨self, channel, acked, lost, sent, flood, known, attempt⟩ := flags
  rw [self, channel, acked, lost, sent, flood, known, attempt, Int8.toInt8_toUInt8]
  rfl

/-- A message read back differs from the one written by its normalization and by the zeros behind its
    strings, and writes the same record again. -/
theorem record_codec_round_trip (msg : StoredBytes) :
    readRecordRaw (writeRecordRaw msg) = some (storedMessageNormalize msg).zeroTails ∧
    storedMessageNormalize (storedMessageNormalize msg) = storedMessageNormalize msg ∧
    ∃ read, readRecordRaw (writeRecordRaw msg) = some read ∧ writeRecordRaw read = writeRecordRaw msg := by
  refine ⟨readRecordRaw_written msg, storedMessageNormalize_twice msg, _, readRecordRaw_written msg, ?_⟩
  have strings : (storedMessageNormalize msg).zeroTails.value = MessageStore.storedMessageNormalize msg.value := by
    rw [← value_storedMessageNormalize]
    unfold value zeroTails
    dsimp only
    rw [FixedBytes.string_zeroTail, FixedBytes.string_zeroTail, FixedBytes.string_zeroTail]
  rw [writeRecordRaw_eq, writeRecordRaw_eq, strings]
  unfold MessageStore.writeRecordRaw
  rw [MessageStore.storedMessageNormalize_idempotent]

end StoredBytes

end SigurdOS.MessageStore
