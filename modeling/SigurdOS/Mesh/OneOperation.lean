import SigurdOS.Mesh.PendingOperations

namespace SigurdOS.Mesh

open Bytes SlotTable

namespace MeshRuntime

/-- At most one request in use or pending login for any contact. -/
def OneOutstanding (runtime : MeshRuntime) : Prop := ∀ pubKey : FixedBytes 32,
  tally (fun request => request.inUse && request.destKey == pubKey) runtime.pendingReqs +
    tally (fun entry => entry.inUse && entry.status == .pending && entry.pubKey == pubKey) runtime.loginEntries ≤ 1

/-- The request table is as it was but for the expiry, or the slot that was reserved is given back. -/
def RequestReleased (nowMs : UInt32) (before after : MeshRuntime) : Prop :=
  after.loginEntries = before.loginEntries ∧
    (after.pendingReqs = before.pendingReqs ∨
      after.pendingReqs = (before.expirePendingOperations nowMs).pendingReqs ∨
      ∃ slot, selectReusablePendingSlot (before.expirePendingOperations nowMs).pendingReqs = some slot ∧
        after.pendingReqs = Function.update (before.expirePendingOperations nowMs).pendingReqs slot .fresh)

/-- The login table is as it was, or the slot that was reserved for a contact without an entry is given back. -/
def LoginReleased (pubKey : FixedBytes 32) (before after : MeshRuntime) : Prop :=
  after.pendingReqs = before.pendingReqs ∧
    (after.loginEntries = before.loginEntries ∨
      ∃ slot, before.findLoginEntry pubKey = none ∧ selectReservationSlot before.loginEntries = some slot ∧
        after.loginEntries = Function.update before.loginEntries slot .fresh)

def Released (before after : MeshRuntime) : RuntimeEvent → Prop
  | .sendRequest _ _ nowMs _ _ | .sendRequestWithData _ _ nowMs _ _ | .sendBinaryRequestCompanion _ _ nowMs _ _
  | .sendAnonRequestCompanion _ _ _ nowMs _ _ | .sendRoomMsgFetchRequest _ _ nowMs _ _ =>
    RequestReleased nowMs before after
  | .sendLoginTo _ pubKey _ _ _ _ | .sendLoginCompanion _ pubKey _ _ _ => LoginReleased pubKey before after
  | _ => False

section Outstanding

variable {runtime before after : MeshRuntime}

/-- Neither table has two entries in use for a key, and no key has a request beside a pending login. -/
structure OneOperation (runtime : MeshRuntime) : Prop where
  requests : Distinct PendingRequest.inUse PendingRequest.destKey runtime.pendingReqs
  logins : Distinct LoginEntry.inUse LoginEntry.pubKey runtime.loginEntries
  apart : ∀ request login, (runtime.pendingReqs request).inUse = true →
    (runtime.loginEntries login).inUse = true → (runtime.loginEntries login).status = .pending →
      (runtime.pendingReqs request).destKey ≠ (runtime.loginEntries login).pubKey

theorem OneOperation.outstanding (one : OneOperation runtime) : OneOutstanding runtime := by
  intro pubKey
  by_cases requested : ∃ slot,
      ((runtime.pendingReqs slot).inUse && (runtime.pendingReqs slot).destKey == pubKey) = true
  · obtain ⟨request, requested⟩ := requested
    simp only [Bool.and_eq_true, beq_iff_eq] at requested
    have single : tally (fun request => request.inUse && request.destKey == pubKey) runtime.pendingReqs ≤ 1 := by
      apply tally_le_one
      intro first second
      simp only [Bool.and_eq_true, beq_iff_eq]
      rintro ⟨used, key⟩ ⟨used', key'⟩
      exact one.requests first second used used' (key.trans key'.symm)
    have idle : tally (fun entry => entry.inUse && entry.status == .pending && entry.pubKey == pubKey)
        runtime.loginEntries = 0 := by
      rw [tally_eq_zero_iff]
      intro slot
      have apart := one.apart request slot requested.1
      rw [requested.2] at apart
      by_contra pending
      simp only [Bool.not_eq_false, Bool.and_eq_true, beq_iff_eq] at pending
      exact apart pending.1.1 pending.1.2 pending.2.symm
    omega
  · have idle : tally (fun request => request.inUse && request.destKey == pubKey) runtime.pendingReqs = 0 := by
      rw [tally_eq_zero_iff]
      intro slot
      by_contra used
      exact requested ⟨slot, by simpa using used⟩
    have single : tally (fun entry => entry.inUse && entry.status == .pending && entry.pubKey == pubKey)
        runtime.loginEntries ≤ 1 := by
      apply tally_le_one
      intro first second
      simp only [Bool.and_eq_true, beq_iff_eq]
      rintro ⟨⟨used, -⟩, key⟩ ⟨⟨used', -⟩, key'⟩
      exact one.logins first second used used' (key.trans key'.symm)
    omega

structure Subsides (before after : MeshRuntime) : Prop where
  requests : ∀ slot, (after.pendingReqs slot).inUse = true →
    (before.pendingReqs slot).inUse = true ∧ (before.pendingReqs slot).destKey = (after.pendingReqs slot).destKey
  logins : ∀ slot, (after.loginEntries slot).inUse = true →
    (before.loginEntries slot).inUse = true ∧ (before.loginEntries slot).pubKey = (after.loginEntries slot).pubKey ∧
      ((after.loginEntries slot).status = .pending → (before.loginEntries slot).status = .pending)

theorem Subsides.refl (runtime : MeshRuntime) : Subsides runtime runtime where
  requests _ used := ⟨used, rfl⟩
  logins _ used := ⟨used, rfl, id⟩

theorem Subsides.trans {between : MeshRuntime} (first : Subsides before between) (second : Subsides between after) :
    Subsides before after where
  requests slot used := by
    obtain ⟨used, key⟩ := second.requests slot used
    obtain ⟨used, key'⟩ := first.requests slot used
    exact ⟨used, key'.trans key⟩
  logins slot used := by
    obtain ⟨used, key, status⟩ := second.logins slot used
    obtain ⟨used, key', status'⟩ := first.logins slot used
    exact ⟨used, key'.trans key, status' ∘ status⟩

theorem OneOperation.subsides (one : OneOperation before) (subsides : Subsides before after) : OneOperation after where
  requests := one.requests.mono subsides.requests
  logins := one.logins.mono fun slot used => ⟨(subsides.logins slot used).1, (subsides.logins slot used).2.1⟩
  apart request login used used' pending := by
    obtain ⟨usedBefore, key⟩ := subsides.requests request used
    obtain ⟨usedBefore', key', status⟩ := subsides.logins login used'
    rw [← key, ← key']
    exact one.apart request login usedBefore usedBefore' (status pending)

theorem subsides_requests {requests : Fin 8 → PendingRequest}
    (kept : ∀ slot, (requests slot).inUse = true → requests slot = before.pendingReqs slot) :
    Subsides before { before with pendingReqs := requests } where
  requests slot used := by
    have same := kept slot used
    exact ⟨same ▸ used, congrArg PendingRequest.destKey same.symm⟩
  logins _ used := ⟨used, rfl, id⟩

theorem subsides_expirePendingOperations (runtime : MeshRuntime) (nowMs : UInt32) :
    Subsides runtime (runtime.expirePendingOperations nowMs) := by
  apply subsides_requests
  intro slot used
  split at used
  · cases used
  · next waits => rw [if_neg waits]

theorem subsides_clearRequest (runtime : MeshRuntime) (slot : Fin 8) :
    Subsides runtime { runtime with pendingReqs := Function.update runtime.pendingReqs slot .fresh } :=
  subsides_requests fun _ => update_fresh_inUse

theorem subsides_clearRequests (runtime : MeshRuntime) (agrees : PendingRequest → Bool) :
    Subsides runtime { runtime with pendingReqs := clearMatchingEntries .fresh agrees runtime.pendingReqs } :=
  subsides_requests fun _ => clearMatchingEntries_inUse

theorem subsides_settleLogin {slot : Fin 4} {entry : LoginEntry}
    (settled : entry.inUse = true → (before.loginEntries slot).inUse = true ∧
      (before.loginEntries slot).pubKey = entry.pubKey ∧ entry.status ≠ .pending) :
    Subsides before { before with loginEntries := Function.update before.loginEntries slot entry } where
  requests _ used := ⟨used, rfl⟩
  logins other used := by
    by_cases here : other = slot
    · subst here
      simp only [Function.update_self] at used ⊢
      obtain ⟨usedBefore, key, ended⟩ := settled used
      exact ⟨usedBefore, key, fun pending => absurd pending ended⟩
    · simp only [Function.update_of_ne here] at used ⊢
      exact ⟨used, trivial, id⟩

theorem subsides_clearLogin (runtime : MeshRuntime) (slot : Fin 4) :
    Subsides runtime { runtime with loginEntries := Function.update runtime.loginEntries slot .fresh } :=
  subsides_settleLogin nofun

theorem subsides_removeLoginEntry (runtime : MeshRuntime) (pubKey : FixedBytes 32) :
    Subsides runtime (runtime.removeLoginEntry pubKey) := by
  unfold removeLoginEntry
  split
  · exact .refl runtime
  · exact subsides_clearLogin runtime _

theorem LoginStatus.evaluate_pending {status : LoginStatus} {startedAtMs timeoutMs nowMs : UInt32}
    {keepAliveExpected connectionPresent : Bool}
    (pending : status.evaluate startedAtMs timeoutMs keepAliveExpected connectionPresent nowMs = .pending) :
    status = .pending := by
  unfold LoginStatus.evaluate at pending
  split at pending
  · cases pending
  · split at pending
    · cases pending
    · exact pending

theorem subsides_updateLoginSessions (runtime : MeshRuntime) (known connected : FixedBytes 32 → Bool)
    (nowMs : UInt32) : Subsides runtime (runtime.updateLoginSessions known connected nowMs).2 where
  requests _ used := ⟨used, rfl⟩
  logins slot used := by
    simp only [updateLoginSessions] at used ⊢
    split at used
    · next changes =>
      rw [if_pos changes]
      exact ⟨used, rfl, LoginStatus.evaluate_pending⟩
    · next same =>
      rw [if_neg same]
      exact ⟨used, rfl, id⟩

theorem findPendingLogin_some {pubKey : FixedBytes 32} {slot : Fin 4}
    (found : runtime.findPendingLogin pubKey = some slot) :
    (runtime.loginEntries slot).inUse = true ∧ (runtime.loginEntries slot).pubKey = pubKey := by
  unfold findPendingLogin at found
  split at found
  · cases found
  · next entry owned =>
    split at found
    · obtain rfl := Option.some.inj found
      simpa using firstSlot_some owned
    · cases found

theorem subsides_answerLogin {pubKey : FixedBytes 32} {data : List UInt8} {startConnection : Bool}
    {handled : List ResponsePush × MeshRuntime}
    (taken : runtime.answerLogin pubKey data startConnection = some handled) :
    Subsides runtime handled.2 := by
  unfold answerLogin at taken
  split at taken
  · cases taken
  · next slot found =>
    have owned := findPendingLogin_some found
    dsimp only at taken
    split at taken
    · cases taken
    · obtain rfl := Option.some.inj taken
      exact subsides_settleLogin fun _ => ⟨owned.1, rfl, by dsimp only; split <;> decide⟩
    · obtain rfl := Option.some.inj taken
      exact subsides_settleLogin fun _ => ⟨owned.1, rfl, nofun⟩
    · obtain rfl := Option.some.inj taken
      exact subsides_settleLogin fun _ => ⟨owned.1, rfl, nofun⟩

theorem subsides_completeRequest (runtime : MeshRuntime) (slot : Fin 8) (pubKey : FixedBytes 32) (data : List UInt8)
    (rtc : Nat → UInt32) : Subsides runtime (runtime.completeRequest slot pubKey data rtc).2 := by
  have cleared := subsides_clearRequest runtime slot
  obtain ⟨requests, logins, -, -⟩ := completeRequest_tables runtime pubKey slot data rtc
  exact ⟨by rw [requests]; exact cleared.requests, by rw [logins]; exact cleared.logins⟩

theorem subsides_onContactResponse (runtime : MeshRuntime) (name : List UInt8) (pubKey : FixedBytes 32)
    (data : List UInt8) (startConnection : Bool) (rtc : Nat → UInt32) (nowMs : UInt32) :
    Subsides runtime (runtime.onContactResponse name pubKey data startConnection rtc nowMs).2 := by
  unfold onContactResponse
  split
  · exact .refl runtime
  · apply (subsides_expirePendingOperations runtime nowMs).trans
    dsimp only
    split
    · next handled => exact subsides_answerLogin handled
    · split
      · exact ⟨fun _ used => ⟨used, rfl⟩, fun _ used => ⟨used, rfl, id⟩⟩
      · next slot _ =>
        have stored : Subsides (runtime.expirePendingOperations nowMs)
            ((runtime.expirePendingOperations nowMs).storeResponse name pubKey data) :=
          ⟨fun _ used => ⟨used, rfl⟩, fun _ used => ⟨used, rfl, id⟩⟩
        exact stored.trans (subsides_completeRequest _ slot pubKey data rtc)

theorem subsides_teardownContactRuntime (runtime : MeshRuntime) (pubKey : FixedBytes 32) :
    Subsides runtime (runtime.teardownContactRuntime pubKey) := by
  have removed := subsides_removeLoginEntry runtime pubKey
  have cleared := subsides_clearRequests (runtime.removeLoginEntry pubKey) (·.destKey == pubKey)
  exact ⟨(removed.trans cleared).requests, (removed.trans cleared).logins⟩

end Outstanding

section Sends

variable {runtime : MeshRuntime} {pubKey : FixedBytes 32}

theorem hasPendingRequest_false (absent : runtime.hasPendingRequest pubKey = false) (slot : Fin 8)
    (used : (runtime.pendingReqs slot).inUse = true) : (runtime.pendingReqs slot).destKey ≠ pubKey := by
  have refused := firstSlot_none (Option.not_isSome_iff_eq_none.mp (by simpa [hasPendingRequest] using absent)) slot
  simpa [used] using refused

theorem findLoginEntry_none (absent : runtime.findLoginEntry pubKey = none) (slot : Fin 4)
    (used : (runtime.loginEntries slot).inUse = true) : (runtime.loginEntries slot).pubKey ≠ pubKey := by
  have refused := firstSlot_none absent slot
  simpa [used] using refused

theorem OneOperation.noLoginPending (one : OneOperation runtime) (absent : runtime.findPendingLogin pubKey = none)
    (slot : Fin 4) (used : (runtime.loginEntries slot).inUse = true)
    (pending : (runtime.loginEntries slot).status = .pending) : (runtime.loginEntries slot).pubKey ≠ pubKey := by
  intro same
  unfold findPendingLogin at absent
  split at absent
  · next unowned => exact findLoginEntry_none unowned slot used same
  · next other owned =>
    have answers := firstSlot_some owned
    simp only [Bool.and_eq_true, beq_iff_eq] at answers
    obtain rfl := one.logins other slot answers.1 used (answers.2.trans same.symm)
    rw [if_pos pending] at absent
    cases absent

theorem OneOperation.takeRequest (one : OneOperation runtime) {slot : Fin 8} {request : PendingRequest}
    (unasked : ∀ other, (runtime.pendingReqs other).inUse = true →
      (runtime.pendingReqs other).destKey ≠ request.destKey)
    (idle : ∀ login, (runtime.loginEntries login).inUse = true → (runtime.loginEntries login).status = .pending →
      (runtime.loginEntries login).pubKey ≠ request.destKey) {reserved : Nat} :
    OneOperation { runtime with
      pendingReqs := Function.update runtime.pendingReqs slot request
      reserved := reserved } where
  requests := one.requests.update fun other _ => unasked other
  logins := one.logins
  apart other login used used' pending := by
    by_cases here : other = slot
    · subst here
      simpa using (idle login used' pending).symm
    · simp only [Function.update_of_ne here] at used ⊢
      exact one.apart other login used used' pending

theorem OneOperation.takeLogin (one : OneOperation runtime) {slot : Fin 4} {entry : LoginEntry}
    (unowned : ∀ other, other ≠ slot → (runtime.loginEntries other).inUse = true →
      (runtime.loginEntries other).pubKey ≠ entry.pubKey)
    (unasked : ∀ request, (runtime.pendingReqs request).inUse = true →
      (runtime.pendingReqs request).destKey ≠ entry.pubKey) :
    OneOperation { runtime with loginEntries := Function.update runtime.loginEntries slot entry } where
  requests := one.requests
  logins := one.logins.update unowned
  apart request login used used' pending := by
    by_cases here : login = slot
    · subst here
      simpa using unasked request used
    · simp only [Function.update_of_ne here] at used' pending ⊢
      exact one.apart request login used used' pending

theorem OneOperation.sendReserved (one : OneOperation runtime) (reqType : UInt8) (companionBinary : Bool)
    (channelName : List UInt8) (nowMs sentMs : UInt32) (transmission : Transmission) :
    OneOperation (runtime.sendReserved pubKey reqType companionBinary channelName nowMs sentMs transmission).2 := by
  have expired := one.subsides (subsides_expirePendingOperations runtime nowMs)
  rcases sendReserved_cases runtime pubKey reqType companionBinary channelName nowMs sentMs transmission with
    refused | ⟨slot, noLogin, noRequest, -, failed | ⟨-, sent⟩⟩
  · rw [refused]
    exact expired
  · have cleared := expired.subsides (subsides_clearRequest _ slot)
    rw [failed]
    exact ⟨cleared.requests, cleared.logins, cleared.apart⟩
  · rw [sent]
    exact expired.takeRequest (hasPendingRequest_false noRequest) (expired.noLoginPending noLogin)

theorem OneOperation.beginLogin (one : OneOperation runtime) (name : List UInt8) (nowMs sentMs : UInt32)
    (transmission : Transmission) : OneOperation (runtime.beginLogin name pubKey nowMs sentMs transmission).2 := by
  rcases beginLogin_cases runtime pubKey nowMs sentMs transmission name with
    refused | ⟨noRequest, slot, owned, ⟨-, failed⟩ | sent⟩
  · rw [refused]
    exact one
  · rw [failed]
    exact one.subsides (subsides_clearLogin runtime slot)
  · rw [sent]
    apply one.takeLogin _ (hasPendingRequest_false noRequest)
    intro other different used same
    rcases owned with owned | ⟨unowned, -⟩
    · have answers := firstSlot_some owned
      simp only [Bool.and_eq_true, beq_iff_eq] at answers
      exact different (one.logins other slot used answers.1 (same.trans answers.2.symm))
    · exact findLoginEntry_none unowned other used same

theorem oneOperation_init : OneOperation init where
  requests := nofun
  logins := nofun
  apart := nofun

theorem OneOperation.step (one : OneOperation runtime) (event : RuntimeEvent) : OneOperation (runtime.step event) := by
  cases event with
  | sendRequest => exact one.sendReserved ..
  | sendRequestWithData pubKey data nowMs sentMs transmission =>
    simp only [MeshRuntime.step, perform, MeshRuntime.sendRequestWithData]
    split
    · exact one
    · exact one.sendReserved ..
  | sendBinaryRequestCompanion pubKey data nowMs sentMs transmission =>
    simp only [MeshRuntime.step, perform, MeshRuntime.sendBinaryRequestCompanion]
    split
    · exact one
    · exact one.sendReserved ..
  | sendAnonRequestCompanion pubKey data reachable nowMs sentMs transmission =>
    simp only [MeshRuntime.step, perform, MeshRuntime.sendAnonRequestCompanion]
    split_ifs
    · exact one
    · exact one
    · exact one
    · exact one.sendReserved ..
  | sendRoomMsgFetchRequest pubKey channelName nowMs sentMs transmission =>
    simp only [MeshRuntime.step, perform, MeshRuntime.sendRoomMsgFetchRequest]
    split
    · exact one
    · have cleared : OneOperation { runtime with roomFetched := [] } := ⟨one.requests, one.logins, one.apart⟩
      exact cleared.sendReserved ..
  | sendLoginTo name pubKey password nowMs sentMs transmission =>
    cases password with
    | none => exact one
    | some => exact one.beginLogin name nowMs sentMs transmission
  | sendLoginCompanion name pubKey nowMs sentMs transmission => exact one.beginLogin name nowMs sentMs transmission
  | onContactResponse => exact one.subsides (subsides_onContactResponse ..)
  | expirePendingOperations => exact one.subsides (subsides_expirePendingOperations ..)
  | updateLoginSessions known connected nowMs =>
    exact one.subsides (subsides_updateLoginSessions runtime known connected nowMs)
  | sendLogoutTo => exact one.subsides (subsides_removeLoginEntry ..)
  | companionStopConnection => exact one.subsides (subsides_removeLoginEntry ..)
  | invalidateAllLoginSessions => exact ⟨one.requests, nofun, nofun⟩
  | cancelCompanionBinaryRequests => exact one.subsides (subsides_clearRequests ..)
  | cancelCompanionBinaryRequest tag =>
    simp only [MeshRuntime.step, perform, MeshRuntime.cancelCompanionBinaryRequest]
    split
    · exact one
    · split
      · exact one
      · exact one.subsides (subsides_clearRequest ..)
  | consumeResponse => exact ⟨one.requests, one.logins, one.apart⟩
  | clearResponses => exact ⟨one.requests, one.logins, one.apart⟩
  | clearRoomMsgFetch => exact ⟨one.requests, one.logins, one.apart⟩
  | teardownContactRuntime => exact one.subsides (subsides_teardownContactRuntime ..)

end Sends

section Failures

variable {runtime : MeshRuntime}

theorem sendReserved_released {pubKey : FixedBytes 32} {reqType : UInt8} {companionBinary : Bool}
    {channelName : List UInt8} {nowMs sentMs : UInt32} {transmission : Transmission}
    (failed : (runtime.sendReserved pubKey reqType companionBinary channelName nowMs sentMs transmission).1 = none) :
    RequestReleased nowMs runtime
      (runtime.sendReserved pubKey reqType companionBinary channelName nowMs sentMs transmission).2 := by
  rcases sendReserved_cases runtime pubKey reqType companionBinary channelName nowMs sentMs transmission with
    refused | ⟨slot, -, -, selected, cleared | ⟨-, sent⟩⟩
  · rw [refused]
    exact ⟨rfl, .inr (.inl rfl)⟩
  · rw [cleared]
    exact ⟨rfl, .inr (.inr ⟨slot, selected, rfl⟩)⟩
  · rw [sent] at failed
    cases failed

theorem beginLogin_released {name : List UInt8} {pubKey : FixedBytes 32} {nowMs sentMs : UInt32}
    {transmission : Transmission} (failed : (runtime.beginLogin name pubKey nowMs sentMs transmission).1 = none) :
    LoginReleased pubKey runtime (runtime.beginLogin name pubKey nowMs sentMs transmission).2 := by
  rcases beginLogin_cases runtime pubKey nowMs sentMs transmission name with
    refused | ⟨-, slot, owned, ⟨absent, cleared⟩ | sent⟩
  · rw [refused]
    exact ⟨rfl, .inl rfl⟩
  · rw [cleared]
    refine ⟨rfl, .inr ⟨slot, absent, ?_, rfl⟩⟩
    rcases owned with owned | ⟨-, selected⟩
    · rw [absent] at owned
      cases owned
    · exact selected
  · rw [sent] at failed
    cases failed

theorem RequestReleased.refl (nowMs : UInt32) (runtime : MeshRuntime) : RequestReleased nowMs runtime runtime :=
  ⟨rfl, .inl rfl⟩

theorem perform_released {event : RuntimeEvent} (failed : (runtime.perform event).1 = true) :
    Released runtime (runtime.perform event).2 event := by
  cases event with
  | sendRequest pubKey reqType nowMs sentMs transmission =>
    exact sendReserved_released (by simpa [perform, MeshRuntime.sendRequest] using failed)
  | sendRequestWithData pubKey data nowMs sentMs transmission =>
    simp only [perform, MeshRuntime.sendRequestWithData, Released] at failed ⊢
    split_ifs at failed ⊢
    · exact RequestReleased.refl nowMs runtime
    · exact sendReserved_released (by simpa using failed)
  | sendBinaryRequestCompanion pubKey data nowMs sentMs transmission =>
    simp only [perform, MeshRuntime.sendBinaryRequestCompanion, Released] at failed ⊢
    split_ifs at failed ⊢
    · exact RequestReleased.refl nowMs runtime
    · exact sendReserved_released (by simpa using failed)
  | sendAnonRequestCompanion pubKey data reachable nowMs sentMs transmission =>
    simp only [perform, MeshRuntime.sendAnonRequestCompanion, Released] at failed ⊢
    split_ifs at failed ⊢
    · exact RequestReleased.refl nowMs runtime
    · exact RequestReleased.refl nowMs runtime
    · exact RequestReleased.refl nowMs runtime
    · exact sendReserved_released (by simpa using failed)
  | sendRoomMsgFetchRequest pubKey channelName nowMs sentMs transmission =>
    simp only [perform, MeshRuntime.sendRoomMsgFetchRequest, Released] at failed ⊢
    split_ifs at failed ⊢
    · exact RequestReleased.refl nowMs runtime
    · exact sendReserved_released (by simpa using failed)
  | sendLoginTo name pubKey password nowMs sentMs transmission =>
    cases password with
    | none => exact ⟨rfl, .inl rfl⟩
    | some => exact beginLogin_released (by simpa [perform, MeshRuntime.sendLoginTo] using failed)
  | sendLoginCompanion name pubKey nowMs sentMs transmission =>
    exact beginLogin_released (by simpa [perform, MeshRuntime.sendLoginCompanion] using failed)
  | _ => cases failed

end Failures

end MeshRuntime

open MeshRuntime

/-- In every state that a run reaches no contact has two operations outstanding, and a call that fails there gives
    back what it reserved and nothing else. -/
theorem one_operation_per_contact (events : List RuntimeEvent) :
    (Runs.run step init events).OneOutstanding ∧
      ∀ event, ((Runs.run step init events).perform event).1 = true →
        Released (Runs.run step init events) ((Runs.run step init events).perform event).2 event := by
  have one : OneOperation (Runs.run step init events) :=
    Runs.run_invariant OneOperation oneOperation_init (fun _ event one => one.step event) events
  exact ⟨one.outstanding, fun _ failed => perform_released failed⟩

/-- A status request waits, and a login to the same contact fails. -/
theorem requestAndLogin_one_operation :
    Released (Runs.run step init [.sendRequest (.ofList 32 [7]) 1 0 0 ⟨false, 9, 5000⟩])
      ((Runs.run step init [.sendRequest (.ofList 32 [7]) 1 0 0 ⟨false, 9, 5000⟩]).perform
        (.sendLoginCompanion [65] (.ofList 32 [7]) 10 10 ⟨false, 0, 5000⟩)).2
      (.sendLoginCompanion [65] (.ofList 32 [7]) 10 10 ⟨false, 0, 5000⟩) :=
  (one_operation_per_contact [.sendRequest (.ofList 32 [7]) 1 0 0 ⟨false, 9, 5000⟩]).2 _ (by decide)

end SigurdOS.Mesh
