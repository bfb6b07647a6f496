import SigurdOS.Companion.Host
import SigurdOS.MessageStore.Message

namespace SigurdOS.Companion

open Bytes MessageStore

def offlineQueueSize : Nat := 16

structure Frame where
  storeId : UInt32
  persistent : Bool
  buf : List UInt8
  bounded : 0 < buf.length ∧ buf.length ≤ maxFrameSize
  deriving DecidableEq

def respCodeContactMsgRecv : UInt8 := 7
def respCodeChannelMsgRecv : UInt8 := 8
def respCodeContactMsgRecvV3 : UInt8 := 16
def respCodeChannelMsgRecvV3 : UInt8 := 17
def respCodeChannelDataRecv : UInt8 := 27
def companionTxtPlain : UInt8 := 0
def companionTxtCliData : UInt8 := 1
def companionTxtSignedPlain : UInt8 := 2

namespace Path

def maxEncodedPathBytes : Nat := 64
def unknown : UInt8 := 0xFF

def hashCount (encodedLen : UInt8) : UInt8 := encodedLen &&& 0x3F

def hashSize (encodedLen : UInt8) : UInt8 := (encodedLen >>> 6) + 1

def byteCount (encodedLen : UInt8) : Nat := (hashCount encodedLen).toNat * (hashSize encodedLen).toNat

def encodedLengthValid (encodedLen : UInt8) : Bool :=
  hashSize encodedLen != 4 && decide (byteCount encodedLen ≤ maxEncodedPathBytes)

def storedLengthValid (encodedLen : UInt8) : Bool := encodedLen == unknown || encodedLengthValid encodedLen

end Path

def pathByteLen (pathLen : UInt8) : Option Nat :=
  if pathLen = Path.unknown then some 0
  else if Path.encodedLengthValid pathLen then some (Path.byteCount pathLen)
  else none

def offlineFrameExistsIn (queue : List Frame) (frame : List UInt8) : Bool :=
  if frame.length = 0 ∨ frame.length > maxFrameSize then false
  else if queue.length > offlineQueueSize then false
  else queue.any (fun entry => entry.buf == frame)

/-- Removes the oldest volatile frame; `none` when every frame is durable. -/
def evictVolatile : List Frame → Option (List Frame)
  | [] => none
  | entry :: rest => if entry.persistent then (evictVolatile rest).map (entry :: ·) else some rest

def appendFrame (queue : List Frame) (entry : Frame) : Option (List Frame) :=
  if queue.length ≥ offlineQueueSize then
    -- Durable text retains its order; a volatile frame replaces only an older volatile one.
    if entry.persistent then none else (evictVolatile queue).map (· ++ [entry])
  else some (queue ++ [entry])

def addToOfflineQueueBuffer (queue : List Frame) (storeId : UInt32) (persistent : Bool) (frame : List UInt8) :
    Option (List Frame) :=
  if bounded : 0 < frame.length ∧ frame.length ≤ maxFrameSize then
    if queue.length > offlineQueueSize then none
    else if persistent && storeId == 0 then none
    else if persistent && queue.any (fun entry => entry.persistent && entry.storeId == storeId) then none
    else if offlineFrameExistsIn queue frame then none
    else appendFrame queue ⟨storeId, persistent, frame, bounded⟩
  else none

section Message

variable {σ : Type} (h : CompanionBridgeHost σ)

/-- The first channel of the device with the conversation's name, as the wire carries it. -/
def channelIndex (host : σ) (conversation : CString conversationLen) : UInt8 :=
  let named (index : Nat) : Bool :=
    match h.getChannel index host with
    | some channel => sameString 32 channel.name.chars conversation.chars
    | none => false
  match (List.range (h.channelCount host)).find? named with
  | some index => UInt8.ofNat index
  | none => 0xFF

def messageHeader (host : σ) (appTargetVer : UInt8) (msg : StoredMessage) : List UInt8 :=
  if msg.isChannel then
    (if appTargetVer ≥ 3 then [respCodeChannelMsgRecvV3, msg.snrQuarters.toUInt8, 0, 0]
      else [respCodeChannelMsgRecv]) ++
    [channelIndex h host msg.conversation, msg.pathLen, msg.txtType] ++ leBytes 4 msg.timestamp.toNat
  else
    (if appTargetVer ≥ 3 then [respCodeContactMsgRecvV3, msg.snrQuarters.toUInt8, 0, 0]
      else [respCodeContactMsgRecv]) ++
    msg.senderPrefix.bytes ++ [msg.pathLen, msg.txtType] ++ leBytes 4 msg.timestamp.toNat ++
    (if msg.txtType = companionTxtSignedPlain ∧ msg.extraLen ≥ 4 then msg.extra.bytes.take 4 else [])

def buildMessageFrame (host : σ) (appTargetVer : UInt8) (msg : StoredMessage) : List UInt8 :=
  let header := messageHeader h host appTargetVer msg
  header ++ (msg.text.chars.take (textLen - 1)).take (maxFrameSize - header.length)

theorem length_messageHeader (host : σ) (appTargetVer : UInt8) (msg : StoredMessage) :
    0 < (messageHeader h host appTargetVer msg).length ∧ (messageHeader h host appTargetVer msg).length ≤ 20 := by
  have senderLength := msg.senderPrefix.length_eq
  have extraLength := msg.extra.length_eq
  unfold prefixLen at senderLength
  unfold extraSize at extraLength
  unfold messageHeader
  split <;> split <;> simp only [List.length_append, List.length_cons, List.length_nil, length_leBytes, senderLength]
  · omega
  · omega
  · split <;> simp only [List.length_take, List.length_nil, extraLength] <;> omega
  · split <;> simp only [List.length_take, List.length_nil, extraLength] <;> omega

theorem length_buildMessageFrame (host : σ) (appTargetVer : UInt8) (msg : StoredMessage) :
    0 < (buildMessageFrame h host appTargetVer msg).length ∧
      (buildMessageFrame h host appTargetVer msg).length ≤ maxFrameSize := by
  have header := length_messageHeader h host appTargetVer msg
  unfold buildMessageFrame maxFrameSize
  simp only [List.length_append, List.length_take]
  omega

end Message

section Queue

variable {queue added : List Frame} {storeId : UInt32} {persistent : Bool} {frame : List UInt8}

theorem evictVolatile_sublist (evicted : evictVolatile queue = some added) :
    added.Sublist queue ∧ added.length + 1 = queue.length ∧
      added.filter (·.persistent) = queue.filter (·.persistent) := by
  induction queue generalizing added with
  | nil => cases evicted
  | cons entry rest ih =>
    unfold evictVolatile at evicted
    cases durable : entry.persistent with
    | true =>
      rw [durable, if_pos rfl, Option.map_eq_some_iff] at evicted
      obtain ⟨kept, later, rfl⟩ := evicted
      obtain ⟨sub, length, same⟩ := ih later
      refine ⟨sub.cons_cons entry, by rw [List.length_cons, length, List.length_cons], ?_⟩
      rw [List.filter_cons_of_pos durable, List.filter_cons_of_pos durable, same]
    | false =>
      rw [durable, if_neg (by decide)] at evicted
      obtain rfl := Option.some.inj evicted
      refine ⟨List.sublist_cons_self _ _, rfl, ?_⟩
      rw [List.filter_cons_of_neg (by simp [durable])]

theorem addToOfflineQueueBuffer_some (accepted : addToOfflineQueueBuffer queue storeId persistent frame = some added) :
    ∃ bounded, appendFrame queue ⟨storeId, persistent, frame, bounded⟩ = some added ∧
      queue.length ≤ offlineQueueSize ∧ (persistent = true → storeId ≠ 0) ∧
      (persistent = true → ∀ entry ∈ queue, entry.persistent = true → entry.storeId ≠ storeId) ∧
      offlineFrameExistsIn queue frame = false := by
  unfold addToOfflineQueueBuffer at accepted
  split at accepted
  · rename_i bounded
    split at accepted
    · cases accepted
    split at accepted
    · cases accepted
    split at accepted
    · cases accepted
    split at accepted
    · cases accepted
    rename_i short nonzero fresh absent
    refine ⟨bounded, accepted, by omega, ?_, ?_, by simpa using absent⟩
    · rintro rfl rfl
      exact nonzero rfl
    · rintro rfl entry member durable same
      apply fresh
      rw [Bool.true_and, List.any_eq_true]
      exact ⟨entry, member, by simp [durable, same]⟩
  · cases accepted

theorem appendFrame_durable {entry : Frame} (durable : entry.persistent = true)
    (accepted : appendFrame queue entry = some added) :
    added = queue ++ [entry] ∧ queue.length < offlineQueueSize := by
  unfold appendFrame at accepted
  rw [durable] at accepted
  split at accepted
  · cases accepted
  · exact ⟨(Option.some.inj accepted).symm, by omega⟩

theorem appendFrame_volatile {entry : Frame} (accepted : appendFrame queue entry = some added)
    (short : queue.length ≤ offlineQueueSize) :
    ∃ kept, added = kept ++ [entry] ∧ kept.Sublist queue ∧
      kept.filter (·.persistent) = queue.filter (·.persistent) ∧ added.length ≤ offlineQueueSize := by
  unfold appendFrame at accepted
  split at accepted
  · split at accepted
    · cases accepted
    · obtain ⟨kept, evicted, rfl⟩ := Option.map_eq_some_iff.mp accepted
      obtain ⟨sub, length, same⟩ := evictVolatile_sublist evicted
      refine ⟨kept, rfl, sub, same, ?_⟩
      rw [List.length_append, List.length_singleton]
      omega
  · obtain rfl := Option.some.inj accepted
    refine ⟨queue, rfl, .refl _, rfl, ?_⟩
    rw [List.length_append, List.length_singleton]
    omega

def durableIds (queue : List Frame) : List UInt32 := (queue.filter (·.persistent)).map (·.storeId)

structure Orderly (queue : List Frame) : Prop where
  short : queue.length ≤ offlineQueueSize
  nonzero : 0 ∉ durableIds queue
  distinct : (durableIds queue).Nodup

theorem orderly_nil : Orderly [] := ⟨Nat.zero_le _, by simp [durableIds], by simp [durableIds]⟩

theorem durableIds_append (queue other : List Frame) :
    durableIds (queue ++ other) = durableIds queue ++ durableIds other := by
  simp [durableIds]

theorem durableIds_tail_sublist (queue : List Frame) : (durableIds queue.tail).Sublist (durableIds queue) :=
  ((List.tail_sublist queue).filter _).map _

theorem Orderly.tail (orderly : Orderly queue) : Orderly queue.tail where
  short := by
    have := orderly.short
    rw [List.length_tail]
    omega
  nonzero := fun member => orderly.nonzero ((durableIds_tail_sublist queue).subset member)
  distinct := orderly.distinct.sublist (durableIds_tail_sublist queue)

theorem addToOfflineQueueBuffer_orderly (orderly : Orderly queue)
    (accepted : addToOfflineQueueBuffer queue storeId persistent frame = some added) : Orderly added := by
  obtain ⟨bounded, appended, short, identified, fresh, -⟩ := addToOfflineQueueBuffer_some accepted
  obtain ⟨kept, rfl, -, same, length⟩ := appendFrame_volatile appended short
  have old : durableIds kept = durableIds queue := congrArg (List.map Frame.storeId) same
  cases persistent with
  | false =>
    have ids : durableIds (kept ++ [⟨storeId, false, frame, bounded⟩]) = durableIds queue := by
      rw [durableIds_append, old]
      simp [durableIds]
    exact ⟨length, ids ▸ orderly.nonzero, ids ▸ orderly.distinct⟩
  | true =>
    have ids : durableIds (kept ++ [⟨storeId, true, frame, bounded⟩]) = durableIds queue ++ [storeId] := by
      rw [durableIds_append, old]
      simp [durableIds]
    have absent : storeId ∉ durableIds queue := by
      intro member
      obtain ⟨entry, present, id⟩ := List.mem_map.mp member
      obtain ⟨present, durable⟩ := List.mem_filter.mp present
      exact fresh rfl entry present durable id
    refine ⟨length, ?_, ?_⟩
    · rw [ids]
      intro member
      rcases List.mem_append.mp member with early | last
      · exact orderly.nonzero early
      · exact identified rfl (List.mem_singleton.mp last).symm
    · rw [ids]
      exact List.nodup_append.mpr ⟨orderly.distinct, by simp, by
        rintro a member b last rfl
        rw [List.mem_singleton.mp last] at member
        exact absent member⟩

end Queue

end SigurdOS.Companion
