import SigurdOS.Companion.Device

namespace SigurdOS.Companion

open Bytes MessageStore SigurdOS.Utils Utf8Text

/-- What an app that knows the frame codes reads from a message frame. `origin` is the index of the
    channel or the key prefix of the sender, `body` the signer of a signed message and the text. -/
structure MessageView where
  isChannel : Bool
  snrQuarters : Option UInt8
  origin : List UInt8
  pathLen : UInt8
  txtType : UInt8
  timestamp : UInt32
  body : List UInt8
  deriving DecidableEq

namespace MessageView

def originSize (isChannel : Bool) : Nat := if isChannel then 1 else pubKeyPrefixSize

def isSigned (view : MessageView) : Bool := !view.isChannel && view.txtType == companionTxtSignedPlain

def signer (view : MessageView) : Option (List UInt8) := if view.isSigned then some (view.body.take 4) else none

def text (view : MessageView) : List UInt8 := if view.isSigned then view.body.drop 4 else view.body

def start (isChannel : Bool) (snrQuarters : Option UInt8) : List UInt8 :=
  match isChannel, snrQuarters with
  | true, some snr => [respCodeChannelMsgRecvV3, snr, 0, 0]
  | true, none => [respCodeChannelMsgRecv]
  | false, some snr => [respCodeContactMsgRecvV3, snr, 0, 0]
  | false, none => [respCodeContactMsgRecv]

def encode (view : MessageView) : List UInt8 :=
  start view.isChannel view.snrQuarters ++ view.origin ++ [view.pathLen, view.txtType] ++
    leBytes 4 view.timestamp.toNat ++ view.body

def decodeFields (isChannel : Bool) (snrQuarters : Option UInt8) (fields : List UInt8) : Option MessageView :=
  let size := originSize isChannel
  if fields.length < size + 6 then none
  else some {
    isChannel := isChannel
    snrQuarters := snrQuarters
    origin := fields.take size
    pathLen := (fields.drop size).getD 0 0
    txtType := (fields.drop size).getD 1 0
    timestamp := UInt32.ofNat (leNumber (((fields.drop size).drop 2).take 4))
    body := (fields.drop size).drop 6 }

def decode : List UInt8 → Option MessageView
  | [] => none
  | code :: rest =>
    if code = respCodeChannelMsgRecvV3 then decodeFields true rest.head? (rest.drop 3)
    else if code = respCodeChannelMsgRecv then decodeFields true none rest
    else if code = respCodeContactMsgRecvV3 then decodeFields false rest.head? (rest.drop 3)
    else if code = respCodeContactMsgRecv then decodeFields false none rest
    else none

theorem decodeFields_encode (view : MessageView) (sized : view.origin.length = originSize view.isChannel) :
    decodeFields view.isChannel view.snrQuarters (view.origin ++ ([view.pathLen, view.txtType] ++
      (leBytes 4 view.timestamp.toNat ++ view.body))) = some view := by
  have stamp : UInt32.ofNat (leNumber (leBytes 4 view.timestamp.toNat)) = view.timestamp := by
    rw [leNumber_leBytes_of_lt view.timestamp.toNat_lt]
    exact UInt32.ofNat_toNat
  unfold decodeFields
  dsimp only
  rw [← sized, List.take_left, List.drop_left, if_neg]
  · simp only [List.cons_append, List.nil_append, List.getD_cons_zero, List.getD_cons_succ, List.drop_succ_cons,
      List.drop_zero, List.take_left' (length_leBytes _ _), List.drop_left' (length_leBytes _ _), stamp]
  · simp only [List.length_append, List.length_cons, length_leBytes]
    omega

theorem decode_encode (view : MessageView) (sized : view.origin.length = originSize view.isChannel) :
    decode view.encode = some view := by
  have fields := decodeFields_encode view sized
  obtain ⟨isChannel, snrQuarters, origin, pathLen, txtType, timestamp, body⟩ := view
  unfold encode
  simp only [List.append_assoc]
  cases isChannel with
  | true => cases snrQuarters <;> exact fields
  | false => cases snrQuarters <;> exact fields

theorem encode_inj {view other : MessageView} (sized : view.origin.length = originSize view.isChannel)
    (otherSized : other.origin.length = originSize other.isChannel) : view.encode = other.encode ↔ view = other := by
  constructor
  · intro same
    have decoded := decode_encode view sized
    rw [same, decode_encode other otherSized] at decoded
    exact (Option.some.inj decoded).symm
  · intro same
    rw [same]

end MessageView

section Carried

variable {σ : Type} (h : CompanionBridgeHost σ) (host : σ) (appTargetVer : UInt8) (msg : StoredMessage)

def bodyRoom (appTargetVer : UInt8) (isChannel : Bool) : Nat :=
  maxFrameSize - ((if appTargetVer ≥ 3 then 4 else 1) + MessageView.originSize isChannel + 6)

def signerBytes : List UInt8 :=
  if msg.isChannel = false ∧ msg.txtType = companionTxtSignedPlain ∧ msg.extraLen ≥ 4 then
    msg.extra.bytes.take 4 else []

def carriedView : MessageView where
  isChannel := msg.isChannel
  snrQuarters := if appTargetVer ≥ 3 then some msg.snrQuarters.toUInt8 else none
  origin := if msg.isChannel then [channelIndex h host msg.conversation] else msg.senderPrefix.bytes
  pathLen := msg.pathLen
  txtType := msg.txtType
  timestamp := msg.timestamp
  body := (signerBytes msg ++ msg.text.chars).take (bodyRoom appTargetVer msg.isChannel)

theorem carriedView_sized : (carriedView h host appTargetVer msg).origin.length =
    MessageView.originSize (carriedView h host appTargetVer msg).isChannel := by
  unfold carriedView MessageView.originSize
  cases msg.isChannel with
  | true => rfl
  | false => exact msg.senderPrefix.length_eq

theorem length_signerBytes : (signerBytes msg).length ≤ 4 := by
  unfold signerBytes
  split
  · exact List.length_take_le _ _
  · simp

def carriedFields : List UInt8 :=
  let view := carriedView h host appTargetVer msg
  MessageView.start view.isChannel view.snrQuarters ++ view.origin ++ [view.pathLen, view.txtType] ++
    leBytes 4 view.timestamp.toNat

theorem messageHeader_eq :
    messageHeader h host appTargetVer msg = carriedFields h host appTargetVer msg ++ signerBytes msg := by
  unfold messageHeader signerBytes carriedFields carriedView MessageView.start
  by_cases channel : msg.isChannel = true
  · by_cases recent : appTargetVer ≥ 3
    · simp [channel, recent]
    · simp [channel, recent]
  · by_cases recent : appTargetVer ≥ 3
    · simp [channel, recent]
    · simp [channel, recent]

theorem length_carriedFields : maxFrameSize - (carriedFields h host appTargetVer msg).length =
    bodyRoom appTargetVer msg.isChannel := by
  have sized := carriedView_sized h host appTargetVer msg
  have start : (MessageView.start msg.isChannel (carriedView h host appTargetVer msg).snrQuarters).length =
      if appTargetVer ≥ 3 then 4 else 1 := by
    unfold MessageView.start carriedView
    by_cases recent : appTargetVer ≥ 3
    · cases msg.isChannel <;> simp [recent]
    · cases msg.isChannel <;> simp [recent]
  unfold carriedFields bodyRoom
  simp only [List.length_append, length_leBytes, List.length_cons, List.length_nil, sized]
  rw [show (carriedView h host appTargetVer msg).isChannel = msg.isChannel from rfl, start]

theorem buildMessageFrame_eq (short : msg.text.chars.length ≤ textLen - 1) :
    buildMessageFrame h host appTargetVer msg = (carriedView h host appTargetVer msg).encode := by
  have room := length_carriedFields h host appTargetVer msg
  unfold buildMessageFrame
  rw [messageHeader_eq, List.take_of_length_le short]
  have signer : (signerBytes msg).length ≤ bodyRoom appTargetVer msg.isChannel := by
    have length := length_signerBytes msg
    unfold bodyRoom maxFrameSize MessageView.originSize pubKeyPrefixSize
    split <;> split <;> omega
  change _ = carriedFields h host appTargetVer msg ++
    (signerBytes msg ++ msg.text.chars).take (bodyRoom appTargetVer msg.isChannel)
  rw [List.take_append, List.take_of_length_le signer, ← room, List.append_assoc, List.length_append, Nat.sub_add_eq]

structure RecoversFields (view : MessageView) : Prop where
  kind : view.isChannel = msg.isChannel
  snr : appTargetVer ≥ 3 → view.snrQuarters = some msg.snrQuarters.toUInt8
  channel : msg.isChannel = true → view.origin = [channelIndex h host msg.conversation]
  sender : msg.isChannel = false → view.origin = msg.senderPrefix.bytes
  pathLen : view.pathLen = msg.pathLen
  txtType : view.txtType = msg.txtType
  timestamp : view.timestamp = msg.timestamp

/-- A contact message of the signed type brings the four bytes of its signer. -/
def SignerGiven : Prop := msg.isChannel = false → msg.txtType = companionTxtSignedPlain → 4 ≤ msg.extraLen

/-- The signer and the text. A text that is cut is well formed unless the cut falls inside a character. -/
structure RecoversText (view : MessageView) : Prop where
  signer : view.isSigned = true → view.signer = some (msg.extra.bytes.take 4)
  isPrefix : view.text <+: msg.text.chars
  whole : (messageHeader h host appTargetVer msg).length + msg.text.chars.length ≤ maxFrameSize →
    view.text = msg.text.chars
  wellFormed : (∀ byte, msg.text.chars[view.text.length]? = some byte → ¬ Continues byte) → IsUtf8 view.text

variable {msg}

theorem carriedView_recoversFields :
    RecoversFields h host appTargetVer msg (carriedView h host appTargetVer msg) := by
  constructor
  · rfl
  · intro recent
    exact if_pos recent
  · intro channel
    exact if_pos channel
  · intro contact
    exact if_neg (by simp [contact])
  · rfl
  · rfl
  · rfl

theorem carriedView_isSigned : (carriedView h host appTargetVer msg).isSigned = true ↔
    msg.isChannel = false ∧ msg.txtType = companionTxtSignedPlain := by
  simp [MessageView.isSigned, carriedView]

theorem le_bodyRoom (isChannel : Bool) : 4 ≤ bodyRoom appTargetVer isChannel := by
  unfold bodyRoom maxFrameSize MessageView.originSize pubKeyPrefixSize
  split <;> split <;> omega

theorem carriedView_body (given : SignerGiven msg) : (carriedView h host appTargetVer msg).signer =
      (if (carriedView h host appTargetVer msg).isSigned then some (msg.extra.bytes.take 4) else none) ∧
    (carriedView h host appTargetVer msg).text =
      msg.text.chars.take (bodyRoom appTargetVer msg.isChannel - (signerBytes msg).length) := by
  have extraLength := msg.extra.length_eq
  unfold extraSize at extraLength
  have room := le_bodyRoom appTargetVer msg.isChannel
  unfold MessageView.signer MessageView.text
  by_cases signed : (carriedView h host appTargetVer msg).isSigned = true
  · obtain ⟨contact, type⟩ := (carriedView_isSigned h host appTargetVer).mp signed
    have signer : signerBytes msg = msg.extra.bytes.take 4 := if_pos ⟨contact, type, given contact type⟩
    have length : (msg.extra.bytes.take 4).length = 4 := by
      rw [List.length_take]
      omega
    have body : (carriedView h host appTargetVer msg).body =
        msg.extra.bytes.take 4 ++ msg.text.chars.take (bodyRoom appTargetVer msg.isChannel - 4) := by
      unfold carriedView
      dsimp only
      rw [signer, List.take_append, length, List.take_of_length_le (by omega)]
    rw [if_pos signed, if_pos signed, if_pos signed, body, signer, length, List.take_left' length,
      List.drop_left' length]
    exact ⟨rfl, rfl⟩
  · have signer : signerBytes msg = [] := by
      apply if_neg
      intro ⟨contact, type, _⟩
      exact signed ((carriedView_isSigned h host appTargetVer).mpr ⟨contact, type⟩)
    rw [if_neg signed, if_neg signed, if_neg signed, signer]
    unfold carriedView
    dsimp only
    rw [signer]
    exact ⟨rfl, rfl⟩

theorem carriedView_recoversText (given : SignerGiven msg) (text : IsUtf8 msg.text.chars) :
    RecoversText h host appTargetVer msg (carriedView h host appTargetVer msg) := by
  obtain ⟨signer, kept⟩ := carriedView_body h host appTargetVer given
  constructor
  · intro signed
    rw [signer, if_pos signed]
  · rw [kept]
    exact List.take_prefix _ _
  · intro fits
    rw [messageHeader_eq, List.length_append] at fits
    rw [kept, ← length_carriedFields h host]
    apply List.take_of_length_le
    omega
  · intro boundary
    rw [kept]
    by_cases cut : bodyRoom appTargetVer msg.isChannel - (signerBytes msg).length ≤ msg.text.chars.length
    · rw [kept, List.length_take, Nat.min_eq_left cut] at boundary
      exact text.take boundary
    · rwa [List.take_of_length_le (by omega)]

end Carried

section Normalized

variable {σ : Type}

theorem normalized_text (raw : StoredMessage) : (storedMessageNormalize raw).text.chars.length ≤ textLen - 1 ∧
    IsUtf8 (storedMessageNormalize raw).text.chars := by
  constructor
  · have kept := utf8TruncateBytes_le_max raw.text.chars (min textLen (textLen - 1))
    change (raw.text.chars.take (utf8TruncateBytes raw.text.chars (min textLen (textLen - 1)))).length ≤ _
    rw [List.length_take]
    unfold textLen at kept ⊢
    omega
  · exact utf8TruncateBytes_isUtf8 _ _

/-- A message frame fits, and an app reads from it all fields of the message, its signer if it has one
    and as much of its text as there is room for. Frames are equal exactly when they carry the same. -/
theorem message_frame_recovered (h : CompanionBridgeHost σ) (host : σ) (appTargetVer : UInt8) (raw : StoredMessage) :
    (buildMessageFrame h host appTargetVer (storedMessageNormalize raw)).length ≤ maxFrameSize ∧
    (∃ view, MessageView.decode (buildMessageFrame h host appTargetVer (storedMessageNormalize raw)) = some view ∧
      RecoversFields h host appTargetVer (storedMessageNormalize raw) view ∧
      (SignerGiven (storedMessageNormalize raw) →
        RecoversText h host appTargetVer (storedMessageNormalize raw) view)) ∧
    ∀ other : StoredMessage,
      buildMessageFrame h host appTargetVer (storedMessageNormalize raw) =
          buildMessageFrame h host appTargetVer (storedMessageNormalize other) ↔
        carriedView h host appTargetVer (storedMessageNormalize raw) =
          carriedView h host appTargetVer (storedMessageNormalize other) := by
  obtain ⟨short, text⟩ := normalized_text raw
  refine ⟨(length_buildMessageFrame h host appTargetVer _).2, ⟨_, ?_, carriedView_recoversFields h host appTargetVer,
    fun given => carriedView_recoversText h host appTargetVer given text⟩, fun other => ?_⟩
  · rw [buildMessageFrame_eq h host appTargetVer _ short]
    exact MessageView.decode_encode _ (carriedView_sized h host appTargetVer _)
  · rw [buildMessageFrame_eq h host appTargetVer _ short,
      buildMessageFrame_eq h host appTargetVer _ (normalized_text other).1]
    exact MessageView.encode_inj (carriedView_sized h host appTargetVer _) (carriedView_sized h host appTargetVer _)

def contactMessage (text : CString textLen) (txtType : UInt8) : StoredMessage where
  storeId := 1
  conversation := ⟨[], by decide, noChars_nonzero⟩
  sender := ⟨[], by decide, noChars_nonzero⟩
  text := text
  timestamp := 1
  senderPrefix := ⟨[1, 2, 3, 4, 5, 6], sixBytes_length⟩
  rssi := 0
  snrQuarters := 0
  pathLen := 0
  txtType := txtType
  attempt := 0
  extraLen := 0
  extra := ⟨List.replicate extraSize 0, zeros_length extraSize⟩
  isSelf := false
  isChannel := false
  acked := false
  confirmationLost := false
  companionSent := false
  routeFlood := false
  routeKnown := true
  attemptKnown := false

def longText (count : Nat) (ending : List UInt8) (fits : count + ending.length ≤ textLen)
    (nonzero : ∀ byte ∈ ending, byte ≠ 0) : CString textLen where
  chars := List.replicate count 97 ++ ending
  fits := by simpa using fits
  nonzero := by
    intro byte member
    rcases List.mem_append.mp member with front | back
    · rw [(List.mem_replicate.mp front).2]
      decide
    · exact nonzero byte back

def endingIn (last : UInt8) (nonzero : last ≠ 0) : StoredMessage :=
  contactMessage (longText 156 [last] (by simp [textLen]) (by simpa using nonzero)) companionTxtPlain

def accented : StoredMessage :=
  contactMessage (longText 155 [0xC3, 0xA9] (by decide) (by decide)) companionTxtPlain

def unsigned : StoredMessage :=
  contactMessage ⟨[97, 98, 99, 100, 101], by decide, by decide⟩ companionTxtSignedPlain

/-- Texts that agree as far as the frame goes have equal frames, a character may be cut, and a signed
    message without a signer is read with the front of its text as the signer. -/
theorem cut_and_unsigned_not_recovered :
    (¬ ∀ (appTargetVer : UInt8) (raw other : StoredMessage),
      (storedMessageNormalize raw).text ≠ (storedMessageNormalize other).text →
        buildMessageFrame Device.host Device.blank appTargetVer (storedMessageNormalize raw) ≠
          buildMessageFrame Device.host Device.blank appTargetVer (storedMessageNormalize other)) ∧
    (¬ ∀ (appTargetVer : UInt8) (raw : StoredMessage) (view : MessageView),
      MessageView.decode (buildMessageFrame Device.host Device.blank appTargetVer (storedMessageNormalize raw)) =
        some view → IsUtf8 view.text) ∧
    ¬ ∀ (appTargetVer : UInt8) (raw : StoredMessage) (view : MessageView),
      MessageView.decode (buildMessageFrame Device.host Device.blank appTargetVer (storedMessageNormalize raw)) =
        some view → view.text <+: (storedMessageNormalize raw).text.chars := by
  refine ⟨fun differ => ?_, fun wellFormed => ?_, fun isPrefix => ?_⟩
  · have distinct := differ 3 (endingIn 98 (by decide)) (endingIn 99 (by decide)) (by decide +kernel)
    revert distinct
    decide +kernel
  · have text := wellFormed 3 accented (carriedView Device.host Device.blank 3 accented) (by decide +kernel)
    have last := @IsUtf8.last_lt _ text 0xC3 (by decide +kernel)
    revert last
    decide
  · have front := isPrefix 3 unsigned (carriedView Device.host Device.blank 3 unsigned) (by decide +kernel)
    revert front
    decide +kernel

end Normalized

end SigurdOS.Companion
