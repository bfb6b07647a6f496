import SigurdOS.Utils.Utf8

namespace SigurdOS.MessageStore

open Bytes SigurdOS.Utils

def conversationLen : Nat := 32
def senderLen : Nat := 32
def textLen : Nat := 160
def prefixLen : Nat := 6
def extraSize : Nat := 8

theorem sixBytes_length : ([1, 2, 3, 4, 5, 6] : List UInt8).length = prefixLen := rfl

structure StoredMessage where
  storeId : UInt32
  conversation : CString conversationLen
  sender : CString senderLen
  text : CString textLen
  timestamp : UInt32
  senderPrefix : FixedBytes prefixLen
  rssi : Int16
  snrQuarters : Int8
  pathLen : UInt8
  txtType : UInt8
  attempt : UInt8
  extraLen : UInt8
  extra : FixedBytes extraSize
  isSelf : Bool
  isChannel : Bool
  acked : Bool
  confirmationLost : Bool
  companionSent : Bool
  routeFlood : Bool
  routeKnown : Bool
  attemptKnown : Bool
  deriving DecidableEq

def StoredMessage.withId (msg : StoredMessage) (storeId : UInt32) : StoredMessage := { msg with storeId := storeId }

def sameString (limit : Nat) (a b : List UInt8) : Bool := a.take limit == b.take limit

/-- `storedMessageNormalize` and `readRecordRaw` cut the text the same way. -/
def truncatedText (raw : List UInt8) : CString textLen where
  chars := utf8CopyTruncateN textLen raw textLen
  fits := by
    have kept := utf8TruncateBytes_le_max raw (min textLen (textLen - 1))
    have taken := List.length_take_le (utf8TruncateBytes raw (min textLen (textLen - 1))) raw
    unfold utf8CopyTruncateN textLen at *
    omega
  nonzero := utf8TruncateBytes_nonzero _ _

def storedMessageNormalize (msg : StoredMessage) : StoredMessage :=
  { msg with
    conversation := msg.conversation.truncate (conversationLen - 1)
    sender := msg.sender.truncate (senderLen - 1)
    text := truncatedText msg.text.chars
    extraLen := if msg.extraLen > 8 then 8 else msg.extraLen
    timestamp := if msg.timestamp = 0 then 1 else msg.timestamp }

def hasPrefix (msg : StoredMessage) : Bool := msg.senderPrefix.bytes.any (fun byte => byte != 0)

def storedMessageSameIdentity (a b : StoredMessage) : Bool :=
  let sameSender :=
    if hasPrefix a && hasPrefix b then a.senderPrefix.bytes == b.senderPrefix.bytes
    else sameString senderLen a.sender.chars b.sender.chars
  sameString conversationLen a.conversation.chars b.conversation.chars &&
    sameSender &&
    sameString textLen a.text.chars b.text.chars &&
    a.timestamp == b.timestamp &&
    a.txtType == b.txtType &&
    a.extraLen == b.extraLen &&
    a.extra.bytes.take a.extraLen.toNat == b.extra.bytes.take a.extraLen.toNat &&
    a.isSelf == b.isSelf &&
    a.isChannel == b.isChannel

def flagsFor (msg : StoredMessage) : UInt8 :=
  (if msg.isSelf then 0x01 else 0) |||
  (if msg.isChannel then 0x02 else 0) |||
  (if msg.acked then 0x04 else 0) |||
  (if msg.companionSent then 0x08 else 0) |||
  (if msg.confirmationLost then 0x10 else 0) |||
  (if msg.routeFlood then 0x20 else 0) |||
  (if msg.routeKnown then 0x40 else 0) |||
  (if msg.attemptKnown then 0x80 else 0)

def applyFlags (msg : StoredMessage) (flags : UInt8) : StoredMessage :=
  { msg with
    isSelf := flags &&& 0x01 != 0
    isChannel := flags &&& 0x02 != 0
    acked := flags &&& 0x04 != 0
    companionSent := flags &&& 0x08 != 0
    confirmationLost := flags &&& 0x10 != 0
    routeFlood := flags &&& 0x20 != 0
    routeKnown := flags &&& 0x40 != 0
    attemptKnown := flags &&& 0x80 != 0 }

def fnvAdd (hash : UInt32) (bytes : List UInt8) : UInt32 :=
  bytes.foldl (fun hash byte => (hash ^^^ byte.toUInt32) * 16777619) hash

def identityHash (msg : StoredMessage) : UInt32 :=
  let hash := fnvAdd 2166136261 (msg.conversation.chars.take conversationLen)
  let hash := fnvAdd hash (msg.text.chars.take textLen)
  let hash := fnvAdd hash (leBytes 4 msg.timestamp.toNat)
  let hash := fnvAdd hash [msg.txtType]
  let hash := fnvAdd hash [msg.extraLen]
  let hash := fnvAdd hash (msg.extra.bytes.take (if msg.extraLen ≤ 8 then msg.extraLen.toNat else extraSize))
  let direction : UInt8 := (if msg.isSelf then 1 else 0) ||| (if msg.isChannel then 2 else 0)
  let hash := fnvAdd hash [direction]
  if hash = 0 then 1 else hash

theorem applyFlags_flagsFor (msg other : StoredMessage) :
    applyFlags other (flagsFor msg) =
      { other with
        isSelf := msg.isSelf, isChannel := msg.isChannel, acked := msg.acked, companionSent := msg.companionSent,
        confirmationLost := msg.confirmationLost, routeFlood := msg.routeFlood, routeKnown := msg.routeKnown,
        attemptKnown := msg.attemptKnown } := by
  have bits : ∀ a b c d e f g h : Bool,
      let flags : UInt8 := (if a then 0x01 else 0) ||| (if b then 0x02 else 0) ||| (if c then 0x04 else 0) |||
        (if d then 0x08 else 0) ||| (if e then 0x10 else 0) ||| (if f then 0x20 else 0) |||
        (if g then 0x40 else 0) ||| (if h then 0x80 else 0)
      (flags &&& 0x01 != 0) = a ∧ (flags &&& 0x02 != 0) = b ∧ (flags &&& 0x04 != 0) = c ∧
      (flags &&& 0x08 != 0) = d ∧ (flags &&& 0x10 != 0) = e ∧ (flags &&& 0x20 != 0) = f ∧
      (flags &&& 0x40 != 0) = g ∧ (flags &&& 0x80 != 0) = h := by decide
  obtain ⟨self, channel, acked, sent, lost, flood, known, attempt⟩ := bits msg.isSelf msg.isChannel msg.acked
    msg.companionSent msg.confirmationLost msg.routeFlood msg.routeKnown msg.attemptKnown
  unfold applyFlags flagsFor
  rw [self, channel, acked, sent, lost, flood, known, attempt]

theorem truncatedText_truncatedText (raw : List UInt8) :
    truncatedText (truncatedText raw).chars = truncatedText raw := by
  ext1
  change (raw.take _).take (utf8TruncateBytes (raw.take (utf8TruncateBytes raw _)) _) = raw.take _
  rw [utf8TruncateBytes_take, List.take_take, Nat.min_self]

theorem truncatedText_padded {chars : List UInt8} (padding : Nat) (nonzero : ∀ byte ∈ chars, byte ≠ 0) :
    truncatedText (chars ++ List.replicate padding 0) = truncatedText chars := by
  ext1
  change (chars ++ _).take _ = chars.take _
  rw [utf8TruncateBytes_padded padding _ nonzero, List.take_append_of_le_length]
  exact (utf8TruncateBytes_le _ _).trans ((length_terminated_le _).trans (List.length_take_le' _ _))

@[simp] theorem storedMessageNormalize_idempotent (msg : StoredMessage) :
    storedMessageNormalize (storedMessageNormalize msg) = storedMessageNormalize msg := by
  have twice (capacity limit : Nat) (string : CString capacity) :
      (string.truncate limit).truncate limit = string.truncate limit := by
    ext1
    simp only [CString.truncate_chars, List.take_take, Nat.min_self]
  have bounded : (if (if msg.extraLen > 8 then 8 else msg.extraLen) > (8 : UInt8) then 8
      else if msg.extraLen > 8 then 8 else msg.extraLen) = if msg.extraLen > 8 then 8 else msg.extraLen := by
    split <;> simp_all
  have stamped : (if (if msg.timestamp = 0 then 1 else msg.timestamp) = (0 : UInt32) then 1
      else if msg.timestamp = 0 then 1 else msg.timestamp) = if msg.timestamp = 0 then 1 else msg.timestamp := by
    split <;> simp_all
  unfold storedMessageNormalize
  simp only [twice, truncatedText_truncatedText, bounded, stamped]

theorem storedMessageNormalize_withId {msg : StoredMessage} (normal : storedMessageNormalize msg = msg)
    (storeId : UInt32) : storedMessageNormalize (msg.withId storeId) = msg.withId storeId :=
  congrArg (fun normalized => StoredMessage.withId normalized storeId) normal

theorem sameIdentity_withId (stored msg : StoredMessage) (storeId : UInt32) :
    storedMessageSameIdentity stored (msg.withId storeId) = storedMessageSameIdentity stored msg := rfl

end SigurdOS.MessageStore
