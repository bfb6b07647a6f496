import SigurdOS.Library.PackedTable
import SigurdOS.Mesh.ContactStore
import SigurdOS.Mesh.LoginUndo
import SigurdOS.Mesh.PathDiscovery

namespace SigurdOS.Mesh

open Bytes SlotTable MeshRuntime

abbrev BoundedResponseQueue (ε : Type) (capacity : Nat) := PackedTable ε capacity

namespace BoundedResponseQueue

variable {ε : Type} {capacity : Nat} (blank : ε) (queue : BoundedResponseQueue ε capacity)

/-- The entry is written to the slot that the code returns; a full queue gives up its oldest entry. -/
def appendSlot (positive : 0 < capacity) (entry : ε) : BoundedResponseQueue ε capacity :=
  if full : queue.count = capacity then
    (queue.removeAt blank 0).push entry (Nat.lt_of_le_of_lt (Nat.sub_le_sub_right queue.fits 1) (by omega))
  else queue.push entry (Nat.lt_of_le_of_ne queue.fits full)

def consume (index : Nat) : Bool × BoundedResponseQueue ε capacity :=
  if index < queue.count then (true, queue.removeAt blank index) else (false, queue)

def at? (index : Nat) : Option ε := if index < queue.count then queue.slots[index]? else none

end BoundedResponseQueue

def ResponseEntry.fresh : ResponseEntry := ⟨none, 0, [], .ofList 32 [], 0, []⟩

structure RoomFetchSlot where
  entry : RoomMsgFetchEntry
  valid : Bool
  deriving DecidableEq

def RoomFetchSlot.fresh : RoomFetchSlot := ⟨⟨[], [], 0, [], .ofList 32 []⟩, false⟩

structure RoomFetchTable where
  buffer : PackedTable RoomFetchSlot maxRoomMsgFetch
  valid : ∀ slot ∈ buffer.live, slot.valid = true

structure SignalSample where
  key : FixedBytes 4
  rssi : Int
  snr : UInt32
  updatedAt : UInt32
  deriving DecidableEq

def SignalSample.fresh : SignalSample := ⟨.ofList 4 [], 0, 0, 0⟩

structure AdvertPathEntry where
  pubkeyPrefix : FixedBytes 7
  encodedPathLen : UInt8
  path : List UInt8
  name : List UInt8
  recvTimestamp : UInt32
  deriving DecidableEq

def AdvertPathEntry.fresh : AdvertPathEntry := ⟨.ofList 7 [], 0, List.replicate 64 0, [], 0⟩

/-- The logins: a key has one entry in use at most, and an entry that is not in use is blank. -/
structure LoginTable where
  entries : Fin 4 → LoginEntry
  distinct : Distinct LoginEntry.inUse LoginEntry.pubKey entries
  unused : UnusedFresh entries

structure ContactRuntime where
  loginEntries : LoginTable
  pendingReqs : Fin 8 → PendingRequest
  pendingAcks : Fin 16 → PendingAck
  discoveryPending : Fin 4 → DiscoveryPending
  responses : BoundedResponseQueue ResponseEntry maxResponses
  roomFetchBuf : RoomFetchTable
  signalSamples : PackedTable SignalSample 64
  advertPaths : Fin 16 → AdvertPathEntry

namespace LoginTable

variable (table : LoginTable) (pubKey : FixedBytes 32)

/-- The logins after any run of requests, logins, responses and removals are such a table. -/
theorem exists_of_run (events : List RuntimeEvent) :
    ∃ logins : LoginTable, logins.entries = (Runs.run step init events).loginEntries :=
  ⟨⟨_, (Runs.run_invariant OneOperation oneOperation_init (fun _ event one => one.step event) events).logins,
    run_unusedFresh events⟩, rfl⟩

def findLoginEntry : Option (Fin 4) := firstSlot (fun entry => entry.inUse && entry.pubKey == pubKey) table.entries

def without (slot : Fin 4) : LoginTable where
  entries := Function.update table.entries slot .fresh
  distinct := table.distinct.mono fun other used => by
    by_cases here : other = slot
    · subst here
      simp [LoginEntry.fresh] at used
    · rw [Function.update_of_ne here] at used ⊢
      exact ⟨used, rfl⟩
  unused := table.unused.update slot fun _ => rfl

def removeLoginEntry : LoginTable :=
  match table.findLoginEntry pubKey with
  | none => table
  | some slot => table.without slot

end LoginTable

namespace RoomFetchTable

variable (table : RoomFetchTable)

/-- One message of a response, while the buffer has room. -/
def store (entry : RoomMsgFetchEntry) : RoomFetchTable :=
  if room : table.buffer.count < maxRoomMsgFetch then
    { buffer := table.buffer.push ⟨entry, true⟩ room
      valid := by
        intro slot listed
        rw [PackedTable.live_push, List.mem_append, List.mem_singleton] at listed
        rcases listed with earlier | last
        · exact table.valid slot earlier
        · rw [last] }
  else table

def compactRemoveMatchingEntries (agrees : RoomFetchSlot → Bool) : RoomFetchTable where
  buffer := table.buffer.removeMatching .fresh agrees
  valid := by
    intro slot listed
    rw [PackedTable.live_removeMatching] at listed
    exact table.valid slot (List.mem_of_mem_filter listed)

end RoomFetchTable

namespace BoundedResponseQueue

variable {ε : Type} {capacity : Nat} (blank : ε) (agrees : ε → Bool)

/-- The loop that scans the queue while it consumes from it, with the steps that are left. -/
def consumeMatching : Nat → Nat → BoundedResponseQueue ε capacity → BoundedResponseQueue ε capacity
  | 0, _, queue => queue
  | left + 1, index, queue =>
    if index < queue.count then
      if (queue.at? index).any agrees then consumeMatching left index (queue.consume blank index).2
      else consumeMatching left (index + 1) queue
    else queue

end BoundedResponseQueue

namespace ContactRuntime

variable (runtime : ContactRuntime) (pubKey : FixedBytes 32)

def keyPrefix (length : Nat) : FixedBytes length := .ofList length pubKey.bytes

def teardownContactRuntime : ContactRuntime where
  loginEntries := runtime.loginEntries.removeLoginEntry pubKey
  pendingReqs := clearMatchingEntries .fresh (·.destKey == pubKey) runtime.pendingReqs
  pendingAcks := clearMatchingEntries .fresh (·.destKey == pubKey) runtime.pendingAcks
  discoveryPending := clearMatchingEntries .fresh (·.destKey == pubKey) runtime.discoveryPending
  responses :=
    BoundedResponseQueue.consumeMatching .fresh (·.contactKey == pubKey) runtime.responses.count 0 runtime.responses
  roomFetchBuf :=
    runtime.roomFetchBuf.compactRemoveMatchingEntries fun slot => slot.valid && slot.entry.contactKey == pubKey
  signalSamples := runtime.signalSamples.removeMatching .fresh (·.key == keyPrefix pubKey 4)
  advertPaths := clearMatchingEntries .fresh (·.pubkeyPrefix == keyPrefix pubKey 7) runtime.advertPaths

end ContactRuntime

structure ClearedOf {ε κ : Type} [DecidableEq ε] [DecidableEq κ] {size : Nat} (key : ε → κ) (blank : ε) (lost : κ)
    (before after : Fin size → ε) : Prop where
  blanked : ∀ slot, key (before slot) = lost → after slot = blank
  removed : ∀ slot, key (after slot) = lost → after slot = blank
  kept : ∀ slot, key (before slot) ≠ lost → after slot = before slot
  counted : tally (fun entry => entry ≠ blank) after =
    tally (fun entry => entry ≠ blank && key entry ≠ lost) before

/-- A packed table lost the entries of a key and kept all others in their order, and counts them. -/
structure CompactedOf {ε κ : Type} [DecidableEq κ] {capacity : Nat} (key : ε → κ) (lost : κ)
    (before after : PackedTable ε capacity) : Prop where
  removed : ∀ entry ∈ after.live, key entry ≠ lost
  kept : after.live = before.live.filter fun entry => key entry ≠ lost
  counted : after.count = before.live.countP fun entry => key entry ≠ lost

/-- Every table lost the entries of a contact, and no other entry. -/
structure RemovesContact (pubKey : FixedBytes 32) (before after : ContactRuntime) : Prop where
  logins : ClearedOf LoginEntry.pubKey .fresh pubKey before.loginEntries.entries after.loginEntries.entries
  requests : ClearedOf PendingRequest.destKey .fresh pubKey before.pendingReqs after.pendingReqs
  acks : ClearedOf PendingAck.destKey .fresh pubKey before.pendingAcks after.pendingAcks
  discoveries : ClearedOf DiscoveryPending.destKey .fresh pubKey before.discoveryPending after.discoveryPending
  responses : CompactedOf ResponseEntry.contactKey pubKey before.responses after.responses
  roomMessages : CompactedOf (fun slot : RoomFetchSlot => slot.entry.contactKey) pubKey before.roomFetchBuf.buffer
    after.roomFetchBuf.buffer
  signals : CompactedOf SignalSample.key (ContactRuntime.keyPrefix pubKey 4) before.signalSamples after.signalSamples
  adverts : ClearedOf AdvertPathEntry.pubkeyPrefix .fresh (ContactRuntime.keyPrefix pubKey 7) before.advertPaths
    after.advertPaths

section Slots

variable {ε κ : Type} [DecidableEq ε] [DecidableEq κ] {size : Nat} {key : ε → κ} {blank : ε} {lost : κ}
  {before after : Fin size → ε}

theorem ClearedOf.of_slots (blanked : ∀ slot, key (before slot) = lost → after slot = blank)
    (kept : ∀ slot, key (before slot) ≠ lost → after slot = before slot) :
    ClearedOf key blank lost before after where
  blanked := blanked
  removed slot own := by
    by_cases same : key (before slot) = lost
    · exact blanked slot same
    · rw [kept slot same] at own
      exact absurd own same
  kept := kept
  counted := by
    apply tally_congr
    intro slot
    by_cases same : key (before slot) = lost
    · simp [blanked slot same, same]
    · simp [kept slot same, same]

theorem ClearedOf.firstSlot_eq_none {question : ε → Bool} (cleared : ClearedOf key blank lost before after)
    (refused : question blank = false) (about : ∀ entry, question entry = true → key entry = lost) :
    firstSlot question after = none := by
  cases found : firstSlot question after with
  | none => rfl
  | some slot =>
    have said := firstSlot_some found
    rw [cleared.removed slot (about _ said), refused] at said
    cases said

theorem ClearedOf.firstSlot_eq {question : ε → Bool} (cleared : ClearedOf key blank lost before after)
    (refused : question blank = false) (about : ∀ entry, key entry = lost → question entry = false) :
    firstSlot question after = firstSlot question before := by
  have same (slot : Fin size) : question (after slot) = question (before slot) := by
    by_cases own : key (before slot) = lost
    · rw [about _ own, cleared.blanked slot own, refused]
    · rw [cleared.kept slot own]
  unfold firstSlot
  simp only [same]

theorem clearMatchingEntries_cleared (key : ε → κ) (blank : ε) (lost : κ) (before : Fin size → ε) :
    ClearedOf key blank lost before (clearMatchingEntries blank (key · == lost) before) := by
  apply ClearedOf.of_slots
  · intro slot own
    exact if_pos (beq_iff_eq.mpr own)
  · intro slot foreign
    exact if_neg (beq_iff_eq.not.mpr foreign)

end Slots

theorem LoginTable.removeLoginEntry_cleared (table : LoginTable) (pubKey : FixedBytes 32) :
    ClearedOf LoginEntry.pubKey .fresh pubKey table.entries (table.removeLoginEntry pubKey).entries := by
  unfold removeLoginEntry
  cases found : table.findLoginEntry pubKey with
  | none =>
    apply ClearedOf.of_slots
    · intro slot own
      have absent := firstSlot_none found slot
      simp only [own, beq_self_eq_true, Bool.and_true] at absent
      exact table.unused.fresh slot absent
    · intro slot _
      rfl
  | some first =>
    have owner := firstSlot_some found
    simp only [Bool.and_eq_true, beq_iff_eq] at owner
    apply ClearedOf.of_slots
    · intro slot own
      by_cases here : slot = first
      · rw [here]
        exact Function.update_self ..
      · refine (Function.update_of_ne here ..).trans (table.unused.fresh slot ?_)
        by_contra used
        exact here (table.distinct slot first (by simpa using used) owner.1 (own.trans owner.2.symm))
    · intro slot foreign
      have elsewhere : slot ≠ first := fun here => foreign (here ▸ owner.2)
      exact Function.update_of_ne elsewhere ..

section Packed

variable {ε κ : Type} [DecidableEq κ] {capacity : Nat} {key : ε → κ} {lost : κ}

theorem CompactedOf.of_live {before after : PackedTable ε capacity}
    (kept : after.live = before.live.filter fun entry => key entry ≠ lost) : CompactedOf key lost before after where
  removed entry listed := by
    rw [kept, List.mem_filter] at listed
    exact of_decide_eq_true listed.2
  kept := kept
  counted := by rw [← after.length_live, kept, List.countP_eq_length_filter]

theorem removeMatching_compacted (blank : ε) (before : PackedTable ε capacity) {agrees : ε → Bool}
    (exact_key : ∀ entry ∈ before.live, agrees entry = (key entry == lost)) :
    CompactedOf key lost before (before.removeMatching blank agrees) := by
  apply CompactedOf.of_live
  rw [PackedTable.live_removeMatching]
  apply List.filter_congr
  intro entry listed
  rw [exact_key entry listed]
  by_cases same : key entry = lost <;> simp [same]

end Packed

section RoomMessages

theorem RoomFetchTable.live_store {table : RoomFetchTable} (room : table.buffer.count < maxRoomMsgFetch)
    (entry : RoomMsgFetchEntry) : (table.store entry).buffer.live = table.buffer.live ++ [⟨entry, true⟩] := by
  rw [store, dif_pos room]
  exact PackedTable.live_push ..

theorem RoomFetchTable.store_all (table : RoomFetchTable) {entries : List RoomMsgFetchEntry}
    (fits : table.buffer.count + entries.length ≤ maxRoomMsgFetch) :
    (entries.foldl store table).buffer.live.map RoomFetchSlot.entry =
      table.buffer.live.map RoomFetchSlot.entry ++ entries := by
  induction entries generalizing table with
  | nil => exact (List.append_nil _).symm
  | cons entry rest ih =>
    rw [List.length_cons] at fits
    have room : table.buffer.count < maxRoomMsgFetch := by omega
    have kept := live_store room entry
    have counted := congrArg List.length kept
    simp only [List.length_append, PackedTable.length_live, List.length_singleton] at counted
    rw [List.foldl_cons, ih _ (by omega), kept, List.map_append, List.append_assoc]
    rfl

theorem roomEntries_length (pubKey : FixedBytes 32) (channelName : List UInt8) (rtc : Nat → UInt32)
    (fuel fetched : Nat) (data : List UInt8) :
    (roomEntries pubKey channelName rtc fuel fetched data).length ≤ maxRoomMsgFetch - fetched := by
  induction fuel generalizing fetched data with
  | zero => exact Nat.zero_le _
  | succ fuel ih =>
    unfold roomEntries
    split
    · exact Nat.zero_le _
    · next open_buffer =>
      dsimp only
      split
      · exact Nat.zero_le _
      · split
        · exact Nat.zero_le _
        · rw [List.length_cons]
          have later := ih (fetched + 1) ((data.drop ((terminated data).length + 1)).drop
            ((terminated (data.drop ((terminated data).length + 1))).length + 1))
          omega

end RoomMessages

namespace BoundedResponseQueue

variable {ε : Type} {capacity : Nat} (blank : ε) (queue : BoundedResponseQueue ε capacity)

theorem at?_eq (index : Nat) : queue.at? index = queue.live[index]? := by
  rw [at?, PackedTable.live, List.getElem?_take]

theorem live_consume (index : Nat) : (queue.consume blank index).2.live = queue.live.eraseIdx index := by
  unfold consume
  split
  · next listed => exact queue.live_removeAt blank index listed
  · next beyond =>
    have short : queue.live.length ≤ index := queue.length_live.trans_le (Nat.not_lt.mp beyond)
    exact (List.eraseIdx_of_length_le short).symm

theorem live_appendSlot (positive : 0 < capacity) (entry : ε) : (queue.appendSlot blank positive entry).live =
    (if queue.live.length = capacity then queue.live.tail else queue.live) ++ [entry] := by
  unfold appendSlot
  rw [PackedTable.length_live]
  split
  · next full =>
    rw [PackedTable.live_push, PackedTable.live_removeAt _ _ _ (by omega), List.eraseIdx_zero]
  · rw [PackedTable.live_push]

theorem live_consumeMatching (agrees : ε → Bool) {left index : Nat} (enough : queue.count ≤ index + left) :
    (consumeMatching blank agrees left index queue).live =
      queue.live.take index ++ (queue.live.drop index).filter fun entry => !agrees entry := by
  have length := queue.length_live
  induction left generalizing index queue with
  | zero =>
    rw [List.take_of_length_le (by omega), List.drop_of_length_le (by omega)]
    exact (List.append_nil _).symm
  | succ left ih =>
    unfold consumeMatching
    split
    · next listed =>
      have present : index < queue.live.length := by omega
      rw [at?_eq, List.getElem?_eq_getElem present, Option.any_some, List.drop_eq_getElem_cons present]
      cases said : agrees queue.live[index] with
      | true =>
        have fewer : (queue.consume blank index).2.count = queue.count - 1 := by
          rw [consume, if_pos listed]
          rfl
        have rest : (queue.consume blank index).2.live = queue.live.take index ++ queue.live.drop (index + 1) :=
          (live_consume blank queue index).trans (List.eraseIdx_eq_take_drop_succ ..)
        have front : (queue.live.take index).length = index := List.length_take_of_le present.le
        rw [if_pos rfl, ih _ (by omega) (PackedTable.length_live _), rest, List.take_left' front,
          List.drop_left' front, List.filter_cons_of_neg (by simp [said])]
      | false =>
        rw [if_neg Bool.false_ne_true, ih _ (by omega) length, List.take_succ_eq_append_getElem present,
          List.append_assoc, List.filter_cons_of_pos (by simp [said])]
        rfl
    · next beyond =>
      rw [List.take_of_length_le (by omega), List.drop_of_length_le (by omega)]
      exact (List.append_nil _).symm

end BoundedResponseQueue

namespace ContactRuntime

variable (runtime : ContactRuntime) (pubKey : FixedBytes 32)

theorem responses_compacted : CompactedOf ResponseEntry.contactKey pubKey runtime.responses
    (runtime.teardownContactRuntime pubKey).responses := by
  apply CompactedOf.of_live
  have scanned := BoundedResponseQueue.live_consumeMatching ResponseEntry.fresh runtime.responses
    (·.contactKey == pubKey) (Nat.le_add_left _ 0)
  rw [List.take_zero, List.drop_zero, List.nil_append] at scanned
  refine scanned.trans (List.filter_congr fun entry _ => ?_)
  by_cases same : entry.contactKey = pubKey <;> simp [same]

theorem roomMessages_compacted : CompactedOf (fun slot : RoomFetchSlot => slot.entry.contactKey) pubKey
    runtime.roomFetchBuf.buffer (runtime.teardownContactRuntime pubKey).roomFetchBuf.buffer := by
  apply removeMatching_compacted
  intro slot listed
  rw [runtime.roomFetchBuf.valid slot listed, Bool.true_and]

theorem signals_compacted : CompactedOf SignalSample.key (keyPrefix pubKey 4) runtime.signalSamples
    (runtime.teardownContactRuntime pubKey).signalSamples :=
  removeMatching_compacted _ _ fun _ _ => rfl

theorem teardown_removes_contact : RemovesContact pubKey runtime (runtime.teardownContactRuntime pubKey) where
  logins := runtime.loginEntries.removeLoginEntry_cleared pubKey
  requests := clearMatchingEntries_cleared ..
  acks := clearMatchingEntries_cleared ..
  discoveries := clearMatchingEntries_cleared ..
  responses := runtime.responses_compacted pubKey
  roomMessages := runtime.roomMessages_compacted pubKey
  signals := runtime.signals_compacted pubKey
  adverts := clearMatchingEntries_cleared ..

/-- The tables as requests, logins and responses see them. -/
def mesh (reserved : Nat) : MeshRuntime where
  pendingReqs := runtime.pendingReqs
  loginEntries := runtime.loginEntries.entries
  responses := runtime.responses.live
  roomFetched := runtime.roomFetchBuf.buffer.live.map RoomFetchSlot.entry
  reserved := reserved

theorem mesh_removeLoginEntry (reserved : Nat) : (runtime.mesh reserved).removeLoginEntry pubKey =
    { runtime with loginEntries := runtime.loginEntries.removeLoginEntry pubKey }.mesh reserved := by
  have same : (runtime.mesh reserved).findLoginEntry pubKey = runtime.loginEntries.findLoginEntry pubKey := rfl
  unfold MeshRuntime.removeLoginEntry LoginTable.removeLoginEntry
  rw [same]
  cases runtime.loginEntries.findLoginEntry pubKey <;> rfl

theorem mesh_teardown (reserved : Nat) :
    (runtime.teardownContactRuntime pubKey).mesh reserved = (runtime.mesh reserved).teardownContactRuntime pubKey := by
  have differs (key : FixedBytes 32) : decide (key ≠ pubKey) = (key != pubKey) := Bool.eq_iff_iff.mpr (by simp)
  have responses : (runtime.teardownContactRuntime pubKey).responses.live =
      runtime.responses.live.filter (·.contactKey != pubKey) :=
    (runtime.responses_compacted pubKey).kept.trans (List.filter_congr fun _ _ => differs _)
  have messages : (runtime.teardownContactRuntime pubKey).roomFetchBuf.buffer.live.map RoomFetchSlot.entry =
      (runtime.roomFetchBuf.buffer.live.map RoomFetchSlot.entry).filter (·.contactKey != pubKey) := by
    rw [(runtime.roomMessages_compacted pubKey).kept, List.filter_map]
    exact congrArg (List.map _) (List.filter_congr fun _ _ => differs _)
  rw [MeshRuntime.teardownContactRuntime, mesh_removeLoginEntry]
  simp only [mesh, responses, messages]
  rfl

theorem mesh_appendSlot (reserved : Nat) (entry : ResponseEntry) :
    { runtime with
        responses := BoundedResponseQueue.appendSlot .fresh runtime.responses (by decide) entry }.mesh reserved =
      { runtime.mesh reserved with responses := MeshRuntime.appendSlot (runtime.mesh reserved).responses entry } := by
  simp only [mesh, BoundedResponseQueue.live_appendSlot]
  rfl

theorem mesh_consumeResponse (reserved index : Nat) :
    { runtime with responses := (BoundedResponseQueue.consume ResponseEntry.fresh runtime.responses index).2 }.mesh
      reserved =
      (runtime.mesh reserved).consumeResponse index := by
  simp only [mesh, BoundedResponseQueue.live_consume]
  rfl

theorem mesh_parseRoomMsgResponse (reserved : Nat) (channelName data : List UInt8) (rtc : Nat → UInt32) :
    { runtime with
        roomFetchBuf := (roomEntries pubKey channelName rtc data.length runtime.roomFetchBuf.buffer.count data).foldl
          RoomFetchTable.store runtime.roomFetchBuf }.mesh reserved =
      ((runtime.mesh reserved).parseRoomMsgResponse pubKey channelName data rtc).2 := by
  have counted : (runtime.mesh reserved).roomFetched.length = runtime.roomFetchBuf.buffer.count := by simp [mesh]
  have short := roomEntries_length pubKey channelName rtc data.length runtime.roomFetchBuf.buffer.count data
  have stored := runtime.roomFetchBuf.store_all (Nat.add_le_of_le_sub' runtime.roomFetchBuf.buffer.fits short)
  rw [parseRoomMsgResponse, counted]
  simp only [mesh, stored]

section Queries

def sampleOf : Option SignalSample := runtime.signalSamples.live.find? fun sample => sample.key == keyPrefix pubKey 4

def getContactRSSI : Int :=
  match runtime.sampleOf pubKey with
  | some sample => sample.rssi
  | none => 0

def getContactSNR : UInt32 :=
  match runtime.sampleOf pubKey with
  | some sample => sample.snr
  | none => 0

def getAdvertPathByKey : Option AdvertPathEntry :=
  (firstSlot (fun entry => entry.recvTimestamp > 0 && entry.pubkeyPrefix == keyPrefix pubKey 7)
    runtime.advertPaths).map runtime.advertPaths

end Queries

structure Forgotten : Prop where
  login : runtime.loginEntries.findLoginEntry pubKey = none
  request : ∀ reserved, (runtime.mesh reserved).hasPendingRequest pubKey = false
  rssi : runtime.getContactRSSI pubKey = 0
  snr : runtime.getContactSNR pubKey = 0
  path : runtime.getAdvertPathByKey pubKey = none

theorem teardown_forgets : (runtime.teardownContactRuntime pubKey).Forgotten pubKey := by
  have silent : (runtime.teardownContactRuntime pubKey).sampleOf pubKey = none := by
    apply List.find?_eq_none.mpr
    intro sample listed
    simpa using (runtime.signals_compacted pubKey).removed sample listed
  constructor
  case login =>
    apply (runtime.loginEntries.removeLoginEntry_cleared pubKey).firstSlot_eq_none rfl
    intro entry said
    exact beq_iff_eq.mp (Bool.and_eq_true_iff.mp said).2
  case request =>
    intro reserved
    apply Option.isSome_eq_false_iff.mpr
    apply Option.isNone_iff_eq_none.mpr
    apply (clearMatchingEntries_cleared PendingRequest.destKey .fresh pubKey runtime.pendingReqs).firstSlot_eq_none rfl
    intro entry said
    exact beq_iff_eq.mp (Bool.and_eq_true_iff.mp said).2
  case rssi => rw [getContactRSSI, silent]
  case snr => rw [getContactSNR, silent]
  case path =>
    apply Option.map_eq_none_iff.mpr
    apply (clearMatchingEntries_cleared AdvertPathEntry.pubkeyPrefix .fresh (keyPrefix pubKey 7)
      runtime.advertPaths).firstSlot_eq_none rfl
    intro entry said
    exact beq_iff_eq.mp (Bool.and_eq_true_iff.mp said).2

structure KnowsAlike (after : ContactRuntime) : Prop where
  login : after.loginEntries.findLoginEntry pubKey = runtime.loginEntries.findLoginEntry pubKey
  request : ∀ reserved, (after.mesh reserved).hasPendingRequest pubKey =
    (runtime.mesh reserved).hasPendingRequest pubKey
  rssi : after.getContactRSSI pubKey = runtime.getContactRSSI pubKey
  snr : after.getContactSNR pubKey = runtime.getContactSNR pubKey

theorem teardown_spares {other : FixedBytes 32} (apart : keyPrefix other 4 ≠ keyPrefix pubKey 4) :
    runtime.KnowsAlike other (runtime.teardownContactRuntime pubKey) := by
  have different : pubKey ≠ other := fun same => apart (same ▸ rfl)
  have heard : (runtime.teardownContactRuntime pubKey).sampleOf other = runtime.sampleOf other := by
    rw [sampleOf, (runtime.signals_compacted pubKey).kept, List.find?_filter, sampleOf]
    congr 1
    funext sample
    by_cases own : sample.key = keyPrefix other 4 <;> simp [own, apart]
  constructor
  case login =>
    apply (runtime.loginEntries.removeLoginEntry_cleared pubKey).firstSlot_eq rfl
    rintro entry rfl
    simp [different]
  case request =>
    intro reserved
    apply congrArg Option.isSome
    apply (clearMatchingEntries_cleared PendingRequest.destKey .fresh pubKey runtime.pendingReqs).firstSlot_eq rfl
    rintro entry rfl
    simp [different]
  case rssi => rw [getContactRSSI, getContactRSSI, heard]
  case snr => rw [getContactSNR, getContactSNR, heard]

end ContactRuntime

end SigurdOS.Mesh
