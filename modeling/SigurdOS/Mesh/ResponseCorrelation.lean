import SigurdOS.Mesh.PendingOperations

namespace SigurdOS.Mesh

open Bytes SlotTable
open MessageStore (read32)

def RuntimeEvent.isResponse : RuntimeEvent → Bool
  | .onContactResponse .. => true
  | _ => false

def RuntimeEvent.isLogin : RuntimeEvent → Bool
  | .sendLoginTo .. | .sendLoginCompanion .. | .updateLoginSessions .. | .sendLogoutTo _ | .companionStopConnection _
  | .invalidateAllLoginSessions => true
  | _ => false

def RuntimeEvent.isRequest : RuntimeEvent → Bool
  | .sendRequest .. | .sendRequestWithData .. | .sendBinaryRequestCompanion .. | .sendAnonRequestCompanion ..
  | .sendRoomMsgFetchRequest .. => true
  | _ => false

namespace MeshRuntime

def expiryOf (runtime : MeshRuntime) : RuntimeEvent → Option UInt32
  | .sendRequest _ _ nowMs _ _ => some nowMs
  | .sendRequestWithData _ data nowMs _ _ => if data.isEmpty then none else some nowMs
  | .sendBinaryRequestCompanion _ data nowMs _ _ => if data.isEmpty then none else some nowMs
  | .sendAnonRequestCompanion pubKey data reachable nowMs _ _ =>
    if data.isEmpty || maxAnonRequestBytes < data.length then none
    else if (runtime.findPendingLogin pubKey).isSome || runtime.hasPendingRequest pubKey then none
    else if reachable = false then none
    else some nowMs
  | .sendRoomMsgFetchRequest _ channelName nowMs _ _ => if channelName.isEmpty then none else some nowMs
  | .onContactResponse _ _ data _ _ nowMs => if data.length < 4 then none else some nowMs
  | .expirePendingOperations nowMs => some nowMs
  | _ => none

def expiredBy (runtime : MeshRuntime) (event : RuntimeEvent) : List Nat :=
  match runtime.expiryOf event with
  | none => []
  | some nowMs => (List.finRange 8).filterMap fun slot =>
      if elapsed nowMs (runtime.pendingReqs slot) then some (runtime.pendingReqs slot).number else none

/-- What the response finds that reaches the table of requests: the slot of the request it answers, or none. -/
def correlated (runtime : MeshRuntime) : RuntimeEvent → Option (Option (Fin 8))
  | .onContactResponse _ pubKey data startConnection _ nowMs =>
    let expired := runtime.expirePendingOperations nowMs
    if data.length < 4 ∨ (expired.answerLogin pubKey data startConnection).isSome = true then none
    else some (expired.matchedRequest pubKey data)
  | _ => none

def completedBy (runtime : MeshRuntime) (event : RuntimeEvent) : Option Nat :=
  (runtime.correlated event).join.map fun slot => (runtime.pendingReqs slot).number

/-- A request of the kind is in use and in time and has the tag and the key of the response. -/
def Live (runtime : MeshRuntime) (pubKey : FixedBytes 32) (data : List UInt8) (nowMs : UInt32)
    (kind : PendingRequest → Prop) : Prop :=
  ∃ slot, (runtime.pendingReqs slot).inUse = true ∧
    pendingOperationElapsed (runtime.pendingReqs slot).sentAtMs (runtime.pendingReqs slot).timeoutMs nowMs = false ∧
    read32 data ≠ 0 ∧ (runtime.pendingReqs slot).tag = read32 data ∧ (runtime.pendingReqs slot).destKey = pubKey ∧
    kind (runtime.pendingReqs slot)

def PushTyped (live : (PendingRequest → Prop) → Prop) (pubKey : FixedBytes 32) (tag : UInt32) : ResponsePush → Prop
  | .login .. => True
  | .binary answered _ => answered = tag ∧ live (·.companionBinary = true)
  | .status key _ => key = pubKey ∧ live (·.reqType = reqTypeGetStatus)
  | .telemetry key _ => key = pubKey ∧ live (·.reqType = reqTypeGetTelemetryData)
  | .roomMessage .. => live (·.reqType = reqTypeGetRoomMsgs)

/-- What is stored with a type answers a live request of that type; nothing but a response adds an entry. -/
def Typed (runtime : MeshRuntime) : RuntimeEvent → Prop
  | .onContactResponse name pubKey data startConnection rtc nowMs =>
    let result := runtime.onContactResponse name pubKey data startConnection rtc nowMs
    (∀ push ∈ result.1, PushTyped (runtime.Live pubKey data nowMs) pubKey (read32 data) push) ∧
    (result.2.roomFetched = runtime.roomFetched ∨ runtime.Live pubKey data nowMs (·.reqType = reqTypeGetRoomMsgs)) ∧
    ∃ kept, kept <:+ runtime.responses ∧ (result.2.responses = kept ∨
      ∃ entry, result.2.responses = kept ++ [entry] ∧ entry.tag = read32 data ∧ entry.contactKey = pubKey ∧
        (entry.reqType = 0 ∨ runtime.Live pubKey data nowMs (·.reqType = entry.reqType)))
  | event => (runtime.step event).responses.Sublist runtime.responses ∧
      (runtime.step event).roomFetched.Sublist runtime.roomFetched

end MeshRuntime

/-- The tables with the numbers of the requests that were completed and of those that expired. -/
structure ResponseLedger where
  runtime : MeshRuntime
  completed : List Nat
  expired : List Nat

namespace ResponseLedger

def start : ResponseLedger := ⟨.init, [], []⟩

def step (ledger : ResponseLedger) (event : RuntimeEvent) : ResponseLedger where
  runtime := ledger.runtime.step event
  completed := ledger.completed ++ (ledger.runtime.completedBy event).toList
  expired := ledger.expired ++ ledger.runtime.expiredBy event

/-- What the correlation of responses promises of a step. -/
structure ResponseLaw (ledger : ResponseLedger) (event : RuntimeEvent) : Prop where
  typed : ledger.runtime.Typed event
  once : ∀ number, ledger.runtime.completedBy event = some number → number ∉ ledger.completed
  inTime : ∀ number, ledger.runtime.completedBy event = some number →
    number ∉ ledger.expired ++ ledger.runtime.expiredBy event
  kept : event.isResponse = true → ledger.runtime.completedBy event = none →
    (ledger.runtime.step event).responses.filter (·.answers.isSome) =
      ledger.runtime.responses.filter (·.answers.isSome)

/-- A response that answers no request comes while the queue has room, or its oldest response answered none either. -/
def RoomForForeign (ledger : ResponseLedger) (event : RuntimeEvent) : Prop :=
  ledger.runtime.correlated event = some none → ledger.runtime.responses.length = maxResponses →
    ∀ oldest ∈ ledger.runtime.responses.head?, oldest.answers = none

end ResponseLedger

namespace MeshRuntime

section Outcomes

variable {runtime : MeshRuntime}

theorem expired_inUse {nowMs : UInt32} {slot : Fin 8}
    (used : ((runtime.expirePendingOperations nowMs).pendingReqs slot).inUse = true) :
    (runtime.expirePendingOperations nowMs).pendingReqs slot = runtime.pendingReqs slot ∧
      elapsed nowMs (runtime.pendingReqs slot) = false := by
  simp only [expirePendingOperations] at used ⊢
  split at used
  · cases used
  · next waits => exact ⟨if_neg waits, by simpa using waits⟩

theorem answerLogin_handled {pubKey : FixedBytes 32} {data : List UInt8} {startConnection : Bool}
    {handled : List ResponsePush × MeshRuntime}
    (taken : runtime.answerLogin pubKey data startConnection = some handled) :
    (∃ entries, handled.2 = { runtime with loginEntries := entries }) ∧
      ∀ push ∈ handled.1, ∀ live tag, PushTyped live pubKey tag push := by
  unfold answerLogin at taken
  split at taken
  · cases taken
  · dsimp only at taken
    split at taken
    · cases taken
    all_goals
      obtain rfl := Option.some.inj taken
      refine ⟨⟨_, rfl⟩, ?_⟩
      intro push member live tag
      obtain rfl := List.mem_singleton.mp member
      trivial

theorem completeRequest_typed {slot : Fin 8} {pubKey : FixedBytes 32} {data : List UInt8} {rtc : Nat → UInt32}
    {live : (PendingRequest → Prop) → Prop} (alive : ∀ kind : PendingRequest → Prop, kind (runtime.pendingReqs slot) →
      live kind) :
    (∀ push ∈ (runtime.completeRequest slot pubKey data rtc).1, PushTyped live pubKey (read32 data) push) ∧
      ((runtime.completeRequest slot pubKey data rtc).2.roomFetched = runtime.roomFetched ∨
        live (·.reqType = reqTypeGetRoomMsgs)) := by
  unfold completeRequest
  dsimp only
  split_ifs with room short binary status telemetry
  · refine ⟨?_, .inr (alive _ room.1)⟩
    intro push member
    obtain ⟨entry, -, rfl⟩ := List.mem_map.mp member
    exact alive _ room.1
  · exact ⟨nofun, .inl rfl⟩
  · refine ⟨?_, .inl rfl⟩
    intro push member
    obtain rfl := List.mem_singleton.mp member
    exact ⟨rfl, alive _ binary⟩
  · refine ⟨?_, .inl rfl⟩
    intro push member
    obtain rfl := List.mem_singleton.mp member
    exact ⟨rfl, alive _ status⟩
  · refine ⟨?_, .inl rfl⟩
    intro push member
    obtain rfl := List.mem_singleton.mp member
    exact ⟨rfl, alive _ telemetry⟩
  · exact ⟨nofun, .inl rfl⟩

theorem matchedRequest_live {pubKey : FixedBytes 32} {data : List UInt8} {nowMs : UInt32} {slot : Fin 8}
    (found : (runtime.expirePendingOperations nowMs).matchedRequest pubKey data = some slot)
    (kind : PendingRequest → Prop) (of_kind : kind ((runtime.expirePendingOperations nowMs).pendingReqs slot)) :
    runtime.Live pubKey data nowMs kind := by
  have answers := firstSlot_some found
  simp only [Bool.and_eq_true, requestResponseMatches, bne_iff_ne, beq_iff_eq] at answers
  obtain ⟨used, ⟨nonzero, tag⟩, key⟩ := answers
  obtain ⟨same, waits⟩ := expired_inUse used
  rw [same] at used tag key of_kind
  have inTime : pendingOperationElapsed (runtime.pendingReqs slot).sentAtMs (runtime.pendingReqs slot).timeoutMs
      nowMs = false := by
    simpa [elapsed, used] using waits
  exact ⟨slot, used, inTime, nonzero, tag.symm, key.symm, of_kind⟩

theorem sendReserved_buffers (runtime : MeshRuntime) (pubKey : FixedBytes 32) (reqType : UInt8) (companionBinary : Bool)
    (channelName : List UInt8) (nowMs sentMs : UInt32) (transmission : Transmission) :
    (runtime.sendReserved pubKey reqType companionBinary channelName nowMs sentMs transmission).2.responses =
        runtime.responses ∧
      (runtime.sendReserved pubKey reqType companionBinary channelName nowMs sentMs transmission).2.roomFetched =
        runtime.roomFetched := by
  rcases sendReserved_cases runtime pubKey reqType companionBinary channelName nowMs sentMs transmission with
    refused | ⟨slot, -, -, -, cleared | ⟨-, sent⟩⟩
  · rw [refused]
    exact ⟨rfl, rfl⟩
  · rw [cleared]
    exact ⟨rfl, rfl⟩
  · rw [sent]
    exact ⟨rfl, rfl⟩

theorem beginLogin_tables (runtime : MeshRuntime) (name : List UInt8) (pubKey : FixedBytes 32)
    (nowMs sentMs : UInt32) (transmission : Transmission) :
    ∃ entries, (runtime.beginLogin name pubKey nowMs sentMs transmission).2 =
      { runtime with loginEntries := entries } := by
  rcases beginLogin_cases runtime pubKey nowMs sentMs transmission name with refused | ⟨-, slot, -, ⟨-, cleared⟩ | sent⟩
  · rw [refused]
    exact ⟨_, rfl⟩
  · rw [cleared]
    exact ⟨_, rfl⟩
  · rw [sent]
    exact ⟨_, rfl⟩

theorem removeLoginEntry_tables (runtime : MeshRuntime) (pubKey : FixedBytes 32) :
    ∃ entries, runtime.removeLoginEntry pubKey = { runtime with loginEntries := entries } := by
  unfold removeLoginEntry
  split
  · exact ⟨_, rfl⟩
  · exact ⟨_, rfl⟩

theorem appendSlot_suffix (responses : List ResponseEntry) (entry : ResponseEntry) :
    ∃ kept, kept <:+ responses ∧ appendSlot responses entry = kept ++ [entry] := by
  unfold appendSlot
  split
  · exact ⟨_, List.tail_suffix responses, rfl⟩
  · exact ⟨_, List.suffix_refl responses, rfl⟩

theorem typed_onContactResponse (runtime : MeshRuntime) (name : List UInt8) (pubKey : FixedBytes 32)
    (data : List UInt8) (startConnection : Bool) (rtc : Nat → UInt32) (nowMs : UInt32) :
    runtime.Typed (.onContactResponse name pubKey data startConnection rtc nowMs) := by
  simp only [Typed, onContactResponse]
  split
  · exact ⟨nofun, .inl rfl, _, List.suffix_refl _, .inl rfl⟩
  · split
    · next handled taken =>
      obtain ⟨⟨entries, same⟩, typed⟩ := answerLogin_handled taken
      rw [same]
      exact ⟨fun push member => typed push member _ _, .inl rfl, _, List.suffix_refl _, .inl rfl⟩
    · split
      · next unmatched =>
        obtain ⟨kept, suffix, appended⟩ := appendSlot_suffix runtime.responses _
        refine ⟨nofun, .inl rfl, kept, suffix, .inr ⟨_, appended, rfl, rfl, .inl ?_⟩⟩
        simp [responseEntry, unmatched]
      · next slot found =>
        have alive (kind : PendingRequest → Prop)
            (of_kind : kind (((runtime.expirePendingOperations nowMs).storeResponse name pubKey data).pendingReqs
              slot)) :
            runtime.Live pubKey data nowMs kind := matchedRequest_live found kind of_kind
        obtain ⟨pushed, room⟩ := completeRequest_typed alive
        obtain ⟨-, -, responses, -⟩ := completeRequest_tables
          ((runtime.expirePendingOperations nowMs).storeResponse name pubKey data) pubKey slot data rtc
        obtain ⟨kept, suffix, appended⟩ := appendSlot_suffix runtime.responses _
        refine ⟨pushed, room, kept, suffix, .inr ⟨_, responses.trans appended, rfl, rfl, .inr ?_⟩⟩
        apply alive
        simp [responseEntry, found]
        rfl

theorem step_request (runtime : MeshRuntime) {event : RuntimeEvent} (request : event.isRequest = true) :
    runtime.step event = runtime ∧ runtime.expiryOf event = none ∨
    ∃ fetched pubKey reqType companionBinary channelName nowMs sentMs transmission,
      fetched.Sublist runtime.roomFetched ∧ runtime.expiryOf event = some nowMs ∧
      runtime.step event = ({ runtime with roomFetched := fetched }.sendReserved pubKey reqType companionBinary
        channelName nowMs sentMs transmission).2 := by
  cases event with
  | sendRequest => exact .inr ⟨_, _, _, _, _, _, _, _, .refl _, rfl, rfl⟩
  | sendRequestWithData =>
    simp only [step, perform, sendRequestWithData, expiryOf]
    split_ifs
    · exact .inl ⟨rfl, rfl⟩
    · exact .inr ⟨_, _, _, _, _, _, _, _, .refl _, rfl, rfl⟩
  | sendBinaryRequestCompanion =>
    simp only [step, perform, sendBinaryRequestCompanion, expiryOf]
    split_ifs
    · exact .inl ⟨rfl, rfl⟩
    · exact .inr ⟨_, _, _, _, _, _, _, _, .refl _, rfl, rfl⟩
  | sendAnonRequestCompanion =>
    simp only [step, perform, sendAnonRequestCompanion, expiryOf]
    split_ifs
    · exact .inl ⟨rfl, rfl⟩
    · exact .inl ⟨rfl, rfl⟩
    · exact .inl ⟨rfl, rfl⟩
    · exact .inr ⟨_, _, _, _, _, _, _, _, .refl _, rfl, rfl⟩
  | sendRoomMsgFetchRequest =>
    simp only [step, perform, sendRoomMsgFetchRequest, expiryOf]
    split_ifs
    · exact .inl ⟨rfl, rfl⟩
    · exact .inr ⟨_, _, _, _, _, _, _, _, List.nil_sublist _, rfl, rfl⟩
  | _ => cases request

theorem step_request_buffers (runtime : MeshRuntime) {event : RuntimeEvent} (request : event.isRequest = true) :
    (runtime.step event).responses.Sublist runtime.responses ∧
      (runtime.step event).roomFetched.Sublist runtime.roomFetched := by
  rcases step_request runtime request with ⟨same, -⟩ | ⟨fetched, _, _, _, _, _, _, _, fewer, -, sent⟩
  · rw [same]
    exact ⟨.refl _, .refl _⟩
  · rw [sent]
    obtain ⟨responses, room⟩ := sendReserved_buffers { runtime with roomFetched := fetched } _ _ _ _ _ _ _
    rw [responses, room]
    exact ⟨.refl _, fewer⟩

theorem step_login (runtime : MeshRuntime) {event : RuntimeEvent} (login : event.isLogin = true) :
    ∃ entries, runtime.step event = { runtime with loginEntries := entries } := by
  cases event with
  | sendLoginTo name pubKey password nowMs sentMs transmission =>
    cases password with
    | none => exact ⟨_, rfl⟩
    | some => exact beginLogin_tables runtime name pubKey nowMs sentMs transmission
  | sendLoginCompanion name pubKey nowMs sentMs transmission =>
    exact beginLogin_tables runtime name pubKey nowMs sentMs transmission
  | updateLoginSessions => exact ⟨_, rfl⟩
  | sendLogoutTo pubKey => exact removeLoginEntry_tables runtime pubKey
  | companionStopConnection pubKey => exact removeLoginEntry_tables runtime pubKey
  | invalidateAllLoginSessions => exact ⟨_, rfl⟩
  | _ => cases login

theorem step_login_buffers (runtime : MeshRuntime) {event : RuntimeEvent} (login : event.isLogin = true) :
    (runtime.step event).responses.Sublist runtime.responses ∧
      (runtime.step event).roomFetched.Sublist runtime.roomFetched := by
  obtain ⟨entries, same⟩ := step_login runtime login
  rw [same]
  exact ⟨.refl _, .refl _⟩

theorem typed_step (runtime : MeshRuntime) (event : RuntimeEvent) : runtime.Typed event := by
  cases event with
  | sendRequest => exact step_request_buffers runtime rfl
  | sendRequestWithData => exact step_request_buffers runtime rfl
  | sendBinaryRequestCompanion => exact step_request_buffers runtime rfl
  | sendAnonRequestCompanion => exact step_request_buffers runtime rfl
  | sendRoomMsgFetchRequest => exact step_request_buffers runtime rfl
  | onContactResponse => exact typed_onContactResponse ..
  | consumeResponse index => exact ⟨List.eraseIdx_sublist _ _, .refl _⟩
  | clearResponses => exact ⟨List.nil_sublist _, .refl _⟩
  | clearRoomMsgFetch => exact ⟨.refl _, List.nil_sublist _⟩
  | teardownContactRuntime pubKey =>
    obtain ⟨entries, same⟩ := removeLoginEntry_tables runtime pubKey
    simp only [Typed, step, perform, teardownContactRuntime, same]
    exact ⟨List.filter_sublist, List.filter_sublist⟩
  | sendLoginTo => exact step_login_buffers runtime rfl
  | sendLoginCompanion => exact step_login_buffers runtime rfl
  | sendLogoutTo => exact step_login_buffers runtime rfl
  | companionStopConnection => exact step_login_buffers runtime rfl
  | cancelCompanionBinaryRequest tag =>
    simp only [Typed, step, perform, cancelCompanionBinaryRequest]
    split
    · exact ⟨.refl _, .refl _⟩
    · split <;> exact ⟨.refl _, .refl _⟩
  | _ => exact ⟨.refl _, .refl _⟩

end Outcomes

section Numbers

variable {requests changed : Fin 8 → PendingRequest} {reserved : Nat} {done gone : Nat → Prop}

/-- The requests in use have numbers of their own, given out before and not yet done with. -/
structure Numbered (requests : Fin 8 → PendingRequest) (reserved : Nat) (done : Nat → Prop) : Prop where
  below : ∀ slot, (requests slot).inUse = true → (requests slot).number < reserved
  distinct : Distinct PendingRequest.inUse PendingRequest.number requests
  past : ∀ number, done number → number < reserved
  live : ∀ slot, (requests slot).inUse = true → ¬ done (requests slot).number

theorem Numbered.retire (numbered : Numbered requests reserved done)
    (kept : ∀ slot, (changed slot).inUse = true → changed slot = requests slot)
    (ended : ∀ number, gone number → ∃ slot, (requests slot).inUse = true ∧ (requests slot).number = number ∧
      (changed slot).inUse = false) :
    Numbered changed reserved (fun number => done number ∨ gone number) where
  below slot used := by
    have same := kept slot used
    rw [same] at used ⊢
    exact numbered.below slot used
  distinct := by
    apply numbered.distinct.mono
    intro slot used
    have same := kept slot used
    exact ⟨same ▸ used, congrArg PendingRequest.number same.symm⟩
  past number finished := by
    rcases finished with before | now
    · exact numbered.past number before
    · obtain ⟨slot, used, rfl, -⟩ := ended number now
      exact numbered.below slot used
  live slot used finished := by
    have same := kept slot used
    rw [same] at finished
    have usedBefore : (requests slot).inUse = true := same ▸ used
    rcases finished with before | now
    · exact numbered.live slot usedBefore before
    · obtain ⟨other, inUse, number, free⟩ := ended _ now
      obtain rfl := numbered.distinct other slot inUse usedBefore number
      rw [free] at used
      cases used

theorem Numbered.kept (numbered : Numbered requests reserved done)
    (same : ∀ slot, (changed slot).inUse = true → changed slot = requests slot) : Numbered changed reserved done := by
  have retired : Numbered changed reserved (fun number => done number ∨ False) := numbered.retire same nofun
  exact ⟨retired.below, retired.distinct, numbered.past, fun slot used before => retired.live slot used (.inl before)⟩

theorem Numbered.weaken {fewer : Nat → Prop} {more : Nat} (numbered : Numbered requests reserved done)
    (known : ∀ number, fewer number → done number) (grown : reserved ≤ more) : Numbered requests more fewer where
  below slot used := (numbered.below slot used).trans_le grown
  distinct := numbered.distinct
  past number finished := (numbered.past number (known number finished)).trans_le grown
  live slot used finished := numbered.live slot used (known _ finished)

theorem Numbered.take (numbered : Numbered requests reserved done) (slot : Fin 8) {request : PendingRequest}
    (number : request.number = reserved) : Numbered (Function.update requests slot request) (reserved + 1) done where
  below other used := by
    by_cases here : other = slot
    · subst here
      rw [Function.update_self, number]
      exact Nat.lt_succ_self _
    · rw [Function.update_of_ne here] at used ⊢
      exact (numbered.below other used).trans (Nat.lt_succ_self _)
  distinct := by
    apply numbered.distinct.update
    intro other _ used same
    have earlier := numbered.below other used
    rw [same, number] at earlier
    exact Nat.lt_irrefl _ earlier
  past number finished := (numbered.past number finished).trans (Nat.lt_succ_self _)
  live other used finished := by
    by_cases here : other = slot
    · subst here
      rw [Function.update_self, number] at finished
      exact Nat.lt_irrefl _ (numbered.past _ finished)
    · rw [Function.update_of_ne here] at used finished
      exact numbered.live other used finished

variable {runtime : MeshRuntime}

def expiredAt (runtime : MeshRuntime) (nowMs : UInt32) (number : Nat) : Prop :=
  ∃ slot, elapsed nowMs (runtime.pendingReqs slot) = true ∧ (runtime.pendingReqs slot).number = number

theorem Numbered.expire (numbered : Numbered runtime.pendingReqs reserved done) (nowMs : UInt32) :
    Numbered (runtime.expirePendingOperations nowMs).pendingReqs reserved
      (fun number => done number ∨ runtime.expiredAt nowMs number) := by
  apply numbered.retire
  · intro slot used
    exact (expired_inUse used).1
  · rintro number ⟨slot, gone, same⟩
    refine ⟨slot, (Bool.and_eq_true_iff.mp gone).1, same, ?_⟩
    simp [expirePendingOperations, gone]

theorem Numbered.clear (numbered : Numbered requests reserved done) (slot : Fin 8) :
    Numbered (Function.update requests slot .fresh) reserved done := numbered.kept fun _ => update_fresh_inUse

theorem Numbered.complete (numbered : Numbered requests reserved done) {slot : Fin 8}
    (used : (requests slot).inUse = true) :
    Numbered (Function.update requests slot .fresh) reserved
      (fun number => done number ∨ number = (requests slot).number) := by
  apply numbered.retire fun _ => update_fresh_inUse
  · rintro number rfl
    exact ⟨slot, used, rfl, by simp [PendingRequest.fresh]⟩

theorem Numbered.sendReserved (numbered : Numbered runtime.pendingReqs runtime.reserved done) (pubKey : FixedBytes 32)
    (reqType : UInt8) (companionBinary : Bool) (channelName : List UInt8) (nowMs sentMs : UInt32)
    (transmission : Transmission) :
    Numbered (runtime.sendReserved pubKey reqType companionBinary channelName nowMs sentMs transmission).2.pendingReqs
      (runtime.sendReserved pubKey reqType companionBinary channelName nowMs sentMs transmission).2.reserved
      (fun number => done number ∨ runtime.expiredAt nowMs number) := by
  have expired := numbered.expire nowMs
  rcases sendReserved_cases runtime pubKey reqType companionBinary channelName nowMs sentMs transmission with
    refused | ⟨slot, -, -, -, cleared | ⟨-, sent⟩⟩
  · rw [refused]
    exact expired
  · rw [cleared]
    exact (expired.clear slot).weaken (fun _ => id) (Nat.le_succ _)
  · rw [sent]
    exact expired.take slot rfl

end Numbers

end MeshRuntime

namespace ResponseLedger

open MeshRuntime

variable {ledger : ResponseLedger}

def Done (ledger : ResponseLedger) (number : Nat) : Prop := number ∈ ledger.completed ∨ number ∈ ledger.expired

def Consistent (ledger : ResponseLedger) : Prop :=
  Numbered ledger.runtime.pendingReqs ledger.runtime.reserved ledger.Done

theorem consistent_start : Consistent start where
  below := nofun
  distinct := nofun
  past number finished := by simp [Done, start] at finished
  live := nofun

theorem mem_expiredBy {runtime : MeshRuntime} {event : RuntimeEvent} {nowMs : UInt32}
    (expiry : runtime.expiryOf event = some nowMs) (number : Nat) :
    number ∈ runtime.expiredBy event ↔ runtime.expiredAt nowMs number := by
  simp only [expiredBy, expiry, List.mem_filterMap, List.mem_finRange, true_and, expiredAt]
  constructor
  · rintro ⟨slot, said⟩
    split at said
    · next gone => exact ⟨slot, gone, Option.some.inj said⟩
    · cases said
  · rintro ⟨slot, gone, rfl⟩
    exact ⟨slot, by rw [if_pos gone]⟩

theorem done_step (event : RuntimeEvent) (number : Nat) : (ledger.step event).Done number ↔
    ledger.Done number ∨ ledger.runtime.completedBy event = some number ∨ number ∈ ledger.runtime.expiredBy event := by
  simp only [Done, step, List.mem_append, Option.mem_toList]
  tauto

theorem Consistent.quiet (consistent : Consistent ledger) {event : RuntimeEvent}
    (unexpired : ledger.runtime.expiryOf event = none) (uncompleted : ledger.runtime.completedBy event = none)
    (kept : ∀ slot, ((ledger.runtime.step event).pendingReqs slot).inUse = true →
      (ledger.runtime.step event).pendingReqs slot = ledger.runtime.pendingReqs slot)
    (reserved : (ledger.runtime.step event).reserved = ledger.runtime.reserved) : Consistent (ledger.step event) := by
  have numbered := Numbered.kept consistent kept
  unfold Consistent
  rw [show (ledger.step event).runtime = ledger.runtime.step event from rfl, reserved]
  apply numbered.weaken _ le_rfl
  intro number finished
  simpa [done_step, uncompleted, expiredBy, unexpired] using finished

theorem Consistent.of_expiry {event : RuntimeEvent} {nowMs : UInt32}
    (expiry : ledger.runtime.expiryOf event = some nowMs)
    (numbered : Numbered (ledger.runtime.step event).pendingReqs (ledger.runtime.step event).reserved
      (fun number => (ledger.Done number ∨ ledger.runtime.expiredAt nowMs number) ∨
        ledger.runtime.completedBy event = some number)) : Consistent (ledger.step event) := by
  apply numbered.weaken _ le_rfl
  intro number finished
  rw [done_step, mem_expiredBy expiry] at finished
  tauto

theorem Consistent.of_expiry_only {event : RuntimeEvent} {nowMs : UInt32}
    (expiry : ledger.runtime.expiryOf event = some nowMs) (uncompleted : ledger.runtime.completedBy event = none)
    (numbered : Numbered (ledger.runtime.step event).pendingReqs (ledger.runtime.step event).reserved
      (fun number => ledger.Done number ∨ ledger.runtime.expiredAt nowMs number)) : Consistent (ledger.step event) := by
  apply Consistent.of_expiry expiry
  apply numbered.weaken _ le_rfl
  simp [uncompleted]

theorem Consistent.login (consistent : Consistent ledger) {event : RuntimeEvent} (login : event.isLogin = true) :
    Consistent (ledger.step event) := by
  have unexpired : ledger.runtime.expiryOf event = none := by
    cases event <;> first | rfl | cases login
  have uncompleted : ledger.runtime.completedBy event = none := by
    cases event <;> first | rfl | cases login
  obtain ⟨entries, same⟩ := step_login ledger.runtime login
  exact consistent.quiet unexpired uncompleted (by rw [same]; exact fun _ _ => rfl) (by rw [same])

theorem Consistent.request (consistent : Consistent ledger) {event : RuntimeEvent} (request : event.isRequest = true) :
    Consistent (ledger.step event) := by
  have uncompleted : ledger.runtime.completedBy event = none := by
    cases event <;> first | rfl | cases request
  rcases step_request ledger.runtime request with ⟨same, unexpired⟩ |
    ⟨fetched, pubKey, reqType, companionBinary, channelName, nowMs, sentMs, transmission, -, expiry, sent⟩
  · exact consistent.quiet unexpired uncompleted (by rw [same]; exact fun _ _ => rfl) (by rw [same])
  · have numbered : Numbered { ledger.runtime with roomFetched := fetched }.pendingReqs
        { ledger.runtime with roomFetched := fetched }.reserved ledger.Done := consistent
    apply Consistent.of_expiry_only expiry uncompleted
    rw [sent]
    exact numbered.sendReserved pubKey reqType companionBinary channelName nowMs sentMs transmission

section Response

variable {name : List UInt8} {pubKey : FixedBytes 32} {data : List UInt8} {startConnection : Bool}
  {rtc : Nat → UInt32} {nowMs : UInt32}

theorem response_cases (runtime : MeshRuntime) (name : List UInt8) (pubKey : FixedBytes 32) (data : List UInt8)
    (startConnection : Bool) (rtc : Nat → UInt32) (nowMs : UInt32) :
    let event := RuntimeEvent.onContactResponse name pubKey data startConnection rtc nowMs
    let expired := runtime.expirePendingOperations nowMs
    runtime.expiryOf event = none ∧ runtime.correlated event = none ∧ runtime.step event = runtime ∨
    runtime.expiryOf event = some nowMs ∧
      ((∃ entries, runtime.correlated event = none ∧ runtime.step event = { expired with loginEntries := entries }) ∨
        runtime.correlated event = some none ∧ expired.matchedRequest pubKey data = none ∧
          runtime.step event = expired.storeResponse name pubKey data ∨
        ∃ slot, runtime.correlated event = some (some slot) ∧ expired.matchedRequest pubKey data = some slot ∧
          runtime.step event = ((expired.storeResponse name pubKey data).completeRequest slot pubKey data rtc).2) := by
  dsimp only
  by_cases short : data.length < 4
  · left
    simp [expiryOf, correlated, MeshRuntime.step, perform, onContactResponse, short]
  · right
    refine ⟨by simp [expiryOf, short], ?_⟩
    cases taken : (runtime.expirePendingOperations nowMs).answerLogin pubKey data startConnection with
    | some handled =>
      left
      obtain ⟨⟨entries, same⟩, -⟩ := answerLogin_handled taken
      refine ⟨entries, by simp [correlated, taken], ?_⟩
      simp only [MeshRuntime.step, perform, onContactResponse, short, if_false, taken]
      exact same
    | none =>
      right
      cases found : (runtime.expirePendingOperations nowMs).matchedRequest pubKey data with
      | none =>
        left
        simp [correlated, MeshRuntime.step, perform, onContactResponse, short, taken, found]
      | some slot =>
        right
        refine ⟨slot, ?_⟩
        simp [correlated, MeshRuntime.step, perform, onContactResponse, short, taken, found]

theorem Consistent.response (consistent : Consistent ledger) :
    Consistent (ledger.step (.onContactResponse name pubKey data startConnection rtc nowMs)) := by
  have expired := Numbered.expire consistent nowMs
  rcases response_cases ledger.runtime name pubKey data startConnection rtc nowMs with
    ⟨unexpired, uncorrelated, same⟩ | ⟨expiry, ⟨entries, uncorrelated, same⟩ | ⟨correlated, found, same⟩ |
      ⟨slot, correlated, found, same⟩⟩
  · apply consistent.quiet unexpired (by simp [completedBy, uncorrelated])
    · rw [same]
      exact fun _ _ => rfl
    · rw [same]
  · apply Consistent.of_expiry_only expiry (by simp [completedBy, uncorrelated])
    rw [same]
    exact expired
  · apply Consistent.of_expiry_only expiry (by simp [completedBy, correlated])
    rw [same]
    exact expired
  · have answers := firstSlot_some found
    simp only [Bool.and_eq_true] at answers
    have used := answers.1
    have completed := expired.complete used
    rw [(expired_inUse used).1] at completed
    obtain ⟨requests, -, -, reserved⟩ := completeRequest_tables
      ((ledger.runtime.expirePendingOperations nowMs).storeResponse name pubKey data) pubKey slot data rtc
    apply Consistent.of_expiry expiry
    rw [same, requests, reserved]
    apply completed.weaken _ le_rfl
    intro number
    simp [completedBy, correlated, eq_comm]

theorem consistent_step (consistent : Consistent ledger) (event : RuntimeEvent) : Consistent (ledger.step event) := by
  cases event with
  | sendRequest => exact consistent.request rfl
  | sendRequestWithData => exact consistent.request rfl
  | sendBinaryRequestCompanion => exact consistent.request rfl
  | sendAnonRequestCompanion => exact consistent.request rfl
  | sendRoomMsgFetchRequest => exact consistent.request rfl
  | onContactResponse => exact consistent.response
  | expirePendingOperations nowMs => exact Consistent.of_expiry_only rfl rfl (Numbered.expire consistent nowMs)
  | sendLoginTo => exact consistent.login rfl
  | sendLoginCompanion => exact consistent.login rfl
  | sendLogoutTo => exact consistent.login rfl
  | companionStopConnection => exact consistent.login rfl
  | cancelCompanionBinaryRequests => exact consistent.quiet rfl rfl (fun _ => clearMatchingEntries_inUse) rfl
  | cancelCompanionBinaryRequest tag =>
    refine consistent.quiet rfl rfl ?_ ?_
    · simp only [MeshRuntime.step, perform, cancelCompanionBinaryRequest]
      split_ifs
      · exact fun _ _ => rfl
      · split
        · exact fun _ _ => rfl
        · exact fun _ => update_fresh_inUse
    · simp only [MeshRuntime.step, perform, cancelCompanionBinaryRequest]
      split_ifs
      · rfl
      · split <;> rfl
  | teardownContactRuntime pubKey =>
    obtain ⟨entries, same⟩ := removeLoginEntry_tables ledger.runtime pubKey
    refine consistent.quiet rfl rfl ?_ ?_
    · simp only [MeshRuntime.step, perform, teardownContactRuntime, same]
      exact fun _ => clearMatchingEntries_inUse
    · simp only [MeshRuntime.step, perform, teardownContactRuntime, same]
  | _ => exact consistent.quiet rfl rfl (fun _ _ => rfl) rfl

theorem filter_appendSlot_iff {responses : List ResponseEntry} {entry : ResponseEntry}
    (foreign : entry.answers = none) :
    (appendSlot responses entry).filter (·.answers.isSome) = responses.filter (·.answers.isSome) ↔
      (responses.length = maxResponses → ∀ oldest ∈ responses.head?, oldest.answers = none) := by
  unfold appendSlot
  by_cases full : responses.length = maxResponses
  · cases responses with
    | nil => simp [foreign]
    | cons oldest rest =>
      have shorter : rest.filter (·.answers.isSome) ≠ oldest :: rest.filter (·.answers.isSome) := by
        intro same
        simpa using congrArg List.length same
      cases answered : oldest.answers with
      | none => simp [full, foreign, answered]
      | some number => simp [full, foreign, answered, shorter]
  · simp [full, foreign]

theorem completedBy_some {runtime : MeshRuntime} {event : RuntimeEvent} {number : Nat}
    (completed : runtime.completedBy event = some number) :
    ∃ slot nowMs, runtime.expiryOf event = some nowMs ∧ (runtime.pendingReqs slot).inUse = true ∧
      elapsed nowMs (runtime.pendingReqs slot) = false ∧ (runtime.pendingReqs slot).number = number := by
  cases event with
  | onContactResponse name pubKey data startConnection rtc nowMs =>
    rcases response_cases runtime name pubKey data startConnection rtc nowMs with
      ⟨-, uncorrelated, -⟩ | ⟨expiry, ⟨entries, uncorrelated, -⟩ | ⟨correlated, -, -⟩ | ⟨slot, correlated, found, -⟩⟩
    · simp [completedBy, uncorrelated] at completed
    · simp [completedBy, uncorrelated] at completed
    · simp [completedBy, correlated] at completed
    · have answers := firstSlot_some found
      simp only [Bool.and_eq_true] at answers
      obtain ⟨same, waits⟩ := expired_inUse answers.1
      rw [same] at answers
      refine ⟨slot, nowMs, expiry, answers.1, waits, ?_⟩
      simpa [completedBy, correlated] using completed
  | _ => cases completed

theorem Consistent.once (consistent : Consistent ledger) {event : RuntimeEvent} {number : Nat}
    (completed : ledger.runtime.completedBy event = some number) :
    number ∉ ledger.completed ∧ number ∉ ledger.expired ++ ledger.runtime.expiredBy event := by
  obtain ⟨slot, nowMs, expiry, used, waits, rfl⟩ := completedBy_some completed
  have pending := consistent.live slot used
  refine ⟨fun before => pending (.inl before), fun gone => ?_⟩
  rcases List.mem_append.mp gone with before | now
  · exact pending (.inr before)
  · obtain ⟨other, late, same⟩ := (mem_expiredBy expiry _).mp now
    obtain rfl := consistent.distinct other slot (Bool.and_eq_true_iff.mp late).1 used same
    rw [waits] at late
    cases late

theorem kept_iff (ledger : ResponseLedger) (event : RuntimeEvent) :
    (event.isResponse = true → ledger.runtime.completedBy event = none →
      (ledger.runtime.step event).responses.filter (·.answers.isSome) =
        ledger.runtime.responses.filter (·.answers.isSome)) ↔ RoomForForeign ledger event := by
  cases event with
  | onContactResponse name pubKey data startConnection rtc nowMs =>
    rcases response_cases ledger.runtime name pubKey data startConnection rtc nowMs with
      ⟨-, uncorrelated, same⟩ | ⟨-, ⟨entries, uncorrelated, same⟩ | ⟨correlated, unmatched, same⟩ |
        ⟨slot, correlated, -, -⟩⟩
    · simp [RoomForForeign, uncorrelated, same]
    · simp [RoomForForeign, uncorrelated, same]
    · have foreign : ((ledger.runtime.expirePendingOperations nowMs).responseEntry name pubKey data).answers =
          none := by
        simp [responseEntry, unmatched]
      have equivalence := @filter_appendSlot_iff ledger.runtime.responses _ foreign
      simp only [RoomForForeign, correlated, same, completedBy, Option.join_some, Option.map_none, forall_const]
      exact ⟨fun kept => equivalence.mp (kept rfl), fun room _ => equivalence.mpr room⟩
    · simp [RoomForForeign, correlated, completedBy]
  | _ => exact iff_of_true nofun nofun

theorem law_iff (ledger : ResponseLedger) (event : RuntimeEvent) (consistent : Consistent ledger) :
    ResponseLaw ledger event ↔ RoomForForeign ledger event := by
  rw [← kept_iff]
  refine ⟨fun law => law.kept, fun kept => ?_⟩
  exact ⟨typed_step ledger.runtime event, fun _ completed => (consistent.once completed).1,
    fun _ completed => (consistent.once completed).2, kept⟩

end Response

end ResponseLedger

/-- Every step of a run keeps the law of responses exactly if no response that answers no request pushes one that did
    out of the full queue. -/
theorem response_correlation_iff (events : List RuntimeEvent) :
    Runs.Along ResponseLedger.step ResponseLedger.ResponseLaw .start events ↔
      Runs.Along ResponseLedger.step ResponseLedger.RoomForForeign .start events :=
  Runs.along_congr ResponseLedger.Consistent ResponseLedger.consistent_start
    (fun _ event consistent => ResponseLedger.consistent_step consistent event) ResponseLedger.law_iff events

/-- A response with the tag 5 from a contact that was asked nothing. -/
def strangerResponse : RuntimeEvent := .onContactResponse [] (.ofList 32 [8]) [5, 0, 0, 0, 1] false (fun _ => 0) 100

/-- One request is answered, and eight strangers respond. -/
theorem strangerResponses_evict :
    ¬ Runs.Along ResponseLedger.step ResponseLedger.ResponseLaw .start
      (.sendRequest (.ofList 32 [7]) 1 0 0 ⟨false, 9, 5000⟩ ::
        .onContactResponse [] (.ofList 32 [7]) [9, 0, 0, 0, 1] false (fun _ => 0) 100 ::
        List.replicate 7 strangerResponse ++ [strangerResponse]) := by
  intro lawful
  obtain ⟨-, law, -⟩ := Runs.along_append.mp lawful
  have kept := law.kept rfl (by decide +kernel)
  revert kept
  decide +kernel

end SigurdOS.Mesh
