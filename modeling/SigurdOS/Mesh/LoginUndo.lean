import SigurdOS.Mesh.OneOperation

namespace SigurdOS.Mesh

open Bytes SlotTable

namespace MeshRuntime

section Unused

variable {entries : Fin 4 → LoginEntry} {runtime : MeshRuntime}

structure UnusedFresh (entries : Fin 4 → LoginEntry) : Prop where
  fresh : ∀ slot, (entries slot).inUse = false → entries slot = .fresh

theorem UnusedFresh.update (unused : UnusedFresh entries) (slot : Fin 4) {entry : LoginEntry}
    (fresh : entry.inUse = false → entry = .fresh) : UnusedFresh (Function.update entries slot entry) := by
  refine ⟨fun other => ?_⟩
  by_cases here : other = slot
  · subst here
    rw [Function.update_self]
    exact fresh
  · rw [Function.update_of_ne here]
    exact unused.fresh other

theorem UnusedFresh.removeLoginEntry (unused : UnusedFresh runtime.loginEntries) (pubKey : FixedBytes 32) :
    UnusedFresh (runtime.removeLoginEntry pubKey).loginEntries := by
  unfold MeshRuntime.removeLoginEntry
  split
  · exact unused
  · exact unused.update _ fun _ => rfl

theorem UnusedFresh.beginLogin (unused : UnusedFresh runtime.loginEntries) (name : List UInt8)
    (pubKey : FixedBytes 32) (nowMs sentMs : UInt32) (transmission : Transmission) :
    UnusedFresh (runtime.beginLogin name pubKey nowMs sentMs transmission).2.loginEntries := by
  rcases beginLogin_cases runtime pubKey nowMs sentMs transmission name with
    refused | ⟨-, slot, -, ⟨-, cleared⟩ | sent⟩
  · rw [refused]
    exact unused
  · rw [cleared]
    exact unused.update slot fun _ => rfl
  · rw [sent]
    exact unused.update slot nofun

theorem UnusedFresh.answerLogin (unused : UnusedFresh runtime.loginEntries) {pubKey : FixedBytes 32}
    {data : List UInt8} {startConnection : Bool} {handled : List ResponsePush × MeshRuntime}
    (answered : runtime.answerLogin pubKey data startConnection = some handled) :
    UnusedFresh handled.2.loginEntries := by
  unfold MeshRuntime.answerLogin at answered
  split at answered
  · cases answered
  · rename_i slot pending
    have used : (runtime.loginEntries slot).inUse = true := by
      unfold findPendingLogin findLoginEntry at pending
      split at pending
      · cases pending
      · rename_i found
        split at pending
        · obtain rfl := Option.some.inj pending
          have owns := firstSlot_some found
          rw [Bool.and_eq_true] at owns
          exact owns.1
        · cases pending
    have kept (entry : LoginEntry) (same : entry.inUse = (runtime.loginEntries slot).inUse) :
        UnusedFresh (Function.update runtime.loginEntries slot entry) := by
      refine unused.update slot fun idle => ?_
      rw [same, used] at idle
      cases idle
    split at answered
    · cases answered
    · obtain rfl := Option.some.inj answered
      exact kept _ rfl
    · obtain rfl := Option.some.inj answered
      exact kept _ rfl
    · obtain rfl := Option.some.inj answered
      exact kept _ rfl

theorem UnusedFresh.onContactResponse (unused : UnusedFresh runtime.loginEntries) (name : List UInt8)
    (pubKey : FixedBytes 32) (data : List UInt8) (startConnection : Bool) (rtc : Nat → UInt32) (nowMs : UInt32) :
    UnusedFresh (runtime.onContactResponse name pubKey data startConnection rtc nowMs).2.loginEntries := by
  unfold MeshRuntime.onContactResponse
  split
  · exact unused
  · dsimp only
    split
    · rename_i handled answered
      have expired : UnusedFresh (runtime.expirePendingOperations nowMs).loginEntries := unused
      exact expired.answerLogin answered
    · split
      · exact unused
      · rename_i slot _
        rw [(completeRequest_tables _ pubKey slot data rtc).2.1]
        exact unused

theorem UnusedFresh.updateLoginSessions (unused : UnusedFresh runtime.loginEntries)
    (known connected : FixedBytes 32 → Bool) (nowMs : UInt32) :
    UnusedFresh (runtime.updateLoginSessions known connected nowMs).2.loginEntries := by
  refine ⟨fun slot idle => ?_⟩
  simp only [MeshRuntime.updateLoginSessions] at idle ⊢
  split
  · rename_i changes
    rw [if_pos changes] at idle
    rw [Bool.and_eq_true, idle] at changes
    cases changes.1
  · rename_i same
    rw [if_neg same] at idle
    exact unused.fresh slot idle

theorem UnusedFresh.sendReserved (unused : UnusedFresh runtime.loginEntries) (pubKey : FixedBytes 32) (reqType : UInt8)
    (companionBinary : Bool) (channelName : List UInt8) (nowMs sentMs : UInt32) (transmission : Transmission) :
    UnusedFresh (runtime.sendReserved pubKey reqType companionBinary channelName nowMs sentMs
      transmission).2.loginEntries := by
  rcases sendReserved_cases runtime pubKey reqType companionBinary channelName nowMs sentMs transmission with
    refused | ⟨slot, -, -, -, cleared | ⟨-, sent⟩⟩
  · rw [refused]
    exact unused
  · rw [cleared]
    exact unused
  · rw [sent]
    exact unused

theorem UnusedFresh.step (unused : UnusedFresh runtime.loginEntries) (event : RuntimeEvent) :
    UnusedFresh (runtime.step event).loginEntries := by
  cases event with
  | sendRequest => exact unused.sendReserved ..
  | sendRequestWithData pubKey data nowMs sentMs transmission =>
    simp only [MeshRuntime.step, perform, MeshRuntime.sendRequestWithData]
    split
    · exact unused
    · exact unused.sendReserved ..
  | sendBinaryRequestCompanion pubKey data nowMs sentMs transmission =>
    simp only [MeshRuntime.step, perform, MeshRuntime.sendBinaryRequestCompanion]
    split
    · exact unused
    · exact unused.sendReserved ..
  | sendAnonRequestCompanion pubKey data reachable nowMs sentMs transmission =>
    simp only [MeshRuntime.step, perform, MeshRuntime.sendAnonRequestCompanion]
    split_ifs
    · exact unused
    · exact unused
    · exact unused
    · exact unused.sendReserved ..
  | sendRoomMsgFetchRequest pubKey channelName nowMs sentMs transmission =>
    simp only [MeshRuntime.step, perform, MeshRuntime.sendRoomMsgFetchRequest]
    split
    · exact unused
    · have restarted : UnusedFresh { runtime with roomFetched := [] }.loginEntries := unused
      exact restarted.sendReserved ..
  | sendLoginTo name pubKey password nowMs sentMs transmission =>
    cases password with
    | none => exact unused
    | some => exact unused.beginLogin name pubKey nowMs sentMs transmission
  | sendLoginCompanion name pubKey nowMs sentMs transmission =>
    exact unused.beginLogin name pubKey nowMs sentMs transmission
  | onContactResponse name pubKey data startConnection rtc nowMs =>
    exact unused.onContactResponse name pubKey data startConnection rtc nowMs
  | expirePendingOperations => exact unused
  | updateLoginSessions known connected nowMs => exact unused.updateLoginSessions known connected nowMs
  | sendLogoutTo pubKey => exact unused.removeLoginEntry pubKey
  | companionStopConnection pubKey => exact unused.removeLoginEntry pubKey
  | invalidateAllLoginSessions => exact ⟨fun _ _ => rfl⟩
  | cancelCompanionBinaryRequests => exact unused
  | cancelCompanionBinaryRequest tag =>
    simp only [MeshRuntime.step, perform, MeshRuntime.cancelCompanionBinaryRequest]
    split
    · exact unused
    · split
      · exact unused
      · exact unused
  | consumeResponse => exact unused
  | clearResponses => exact unused
  | clearRoomMsgFetch => exact unused
  | teardownContactRuntime pubKey => exact unused.removeLoginEntry pubKey

theorem run_unusedFresh (events : List RuntimeEvent) : UnusedFresh (Runs.run step init events).loginEntries :=
  Runs.run_invariant (fun runtime : MeshRuntime => UnusedFresh runtime.loginEntries) ⟨fun _ _ => rfl⟩
    (fun _ event unused => UnusedFresh.step unused event) events

end Unused

section Undo

variable {runtime : MeshRuntime} {pubKey : FixedBytes 32}

theorem beginLogin_failed_loginEntries (name : List UInt8) (nowMs sentMs tag estTimeout : UInt32) :
    (runtime.beginLogin name pubKey nowMs sentMs ⟨true, tag, estTimeout⟩).2.loginEntries =
      if runtime.hasPendingRequest pubKey = true ∨ (runtime.findLoginEntry pubKey).isSome = true then
        runtime.loginEntries
      else
        match selectReservationSlot runtime.loginEntries with
        | none => runtime.loginEntries
        | some slot => Function.update runtime.loginEntries slot .fresh := by
  unfold beginLogin addLoginEntry
  by_cases requested : runtime.hasPendingRequest pubKey = true
  · rw [if_pos (by rw [requested]; rfl), if_pos (Or.inl requested)]
  · cases owned : runtime.findLoginEntry pubKey with
    | some slot =>
      by_cases pending : (runtime.findPendingLogin pubKey).isSome = true
      · simp [pending]
      · simp [requested, pending]
    | none =>
      have absent : runtime.findPendingLogin pubKey = none := by
        rw [findPendingLogin, owned]
      cases selected : selectReservationSlot runtime.loginEntries with
      | none => simp [requested, absent]
      | some slot => simp [requested, absent]

/-- What has to hold for a failed login to leave no trace: the contact has an operation or an entry already, or the
    slot that would be reserved is empty. -/
def UndoExact (runtime : MeshRuntime) (pubKey : FixedBytes 32) : Prop :=
  runtime.hasPendingRequest pubKey = true ∨ (runtime.findLoginEntry pubKey).isSome = true ∨
    ∀ slot, selectReservationSlot runtime.loginEntries = some slot → runtime.loginEntries slot = .fresh

theorem beginLogin_failed_iff (name : List UInt8) (nowMs sentMs tag estTimeout : UInt32) :
    (runtime.beginLogin name pubKey nowMs sentMs ⟨true, tag, estTimeout⟩).2.loginEntries = runtime.loginEntries ↔
      UndoExact runtime pubKey := by
  rw [beginLogin_failed_loginEntries, UndoExact, ← or_assoc]
  split
  · rename_i refused
    exact ⟨fun _ => Or.inl refused, fun _ => rfl⟩
  · rename_i attempted
    rw [or_iff_right attempted]
    cases selectReservationSlot runtime.loginEntries with
    | none => exact ⟨fun _ => nofun, fun _ => rfl⟩
    | some slot =>
      dsimp only
      rw [Function.update_eq_self_iff]
      constructor
      · rintro fresh _ chosen
        rw [← Option.some.inj chosen]
        exact fresh.symm
      · exact fun fresh => (fresh slot rfl).symm

theorem undoExact_iff (unused : UnusedFresh runtime.loginEntries) :
    UndoExact runtime pubKey ↔
      runtime.hasPendingRequest pubKey = true ∨ (runtime.findLoginEntry pubKey).isSome = true ∨
        (∃ slot, (runtime.loginEntries slot).inUse = false) ∨
        ∀ slot, (runtime.loginEntries slot).status.isTerminal = false := by
  unfold UndoExact selectReservationSlot
  refine or_congr_right (or_congr_right ?_)
  cases idle : firstSlot (fun entry => !entry.inUse) runtime.loginEntries with
  | some slot =>
    have free : (runtime.loginEntries slot).inUse = false := by simpa using firstSlot_some idle
    refine ⟨fun _ => Or.inl ⟨slot, free⟩, fun _ other chosen => ?_⟩
    obtain rfl := Option.some.inj chosen
    exact unused.fresh slot free
  | none =>
    have busy : ¬ ∃ slot, (runtime.loginEntries slot).inUse = false := by
      rintro ⟨slot, free⟩
      have used := firstSlot_none idle slot
      rw [free] at used
      cases used
    rw [or_iff_right busy, Option.none_or]
    cases ended : firstSlot (fun entry => entry.status.isTerminal) runtime.loginEntries with
    | none => exact ⟨fun _ slot => firstSlot_none ended slot, fun _ => nofun⟩
    | some slot =>
      have terminal := firstSlot_some ended
      constructor
      · intro fresh
        rw [fresh slot rfl] at terminal
        cases terminal
      · intro running
        rw [running slot] at terminal
        cases terminal

end Undo

end MeshRuntime

open MeshRuntime

/-- When a login that cannot be sent leaves the table as it was: for arbitrary tables, and for those that runs
    produce. -/
theorem failed_login_unchanged_iff (runtime : MeshRuntime) (name : List UInt8) (pubKey : FixedBytes 32)
    (password : List UInt8) (nowMs sentMs tag estTimeout : UInt32) :
    ((runtime.sendLoginTo name pubKey (some password) nowMs sentMs ⟨true, tag, estTimeout⟩).2.loginEntries =
        runtime.loginEntries ↔ UndoExact runtime pubKey) ∧
      ((runtime.sendLoginCompanion name pubKey nowMs sentMs ⟨true, tag, estTimeout⟩).2.loginEntries =
        runtime.loginEntries ↔ UndoExact runtime pubKey) ∧
      ∀ events, UndoExact (Runs.run step init events) pubKey ↔
        (Runs.run step init events).hasPendingRequest pubKey = true ∨
          ((Runs.run step init events).findLoginEntry pubKey).isSome = true ∨
          (∃ slot, ((Runs.run step init events).loginEntries slot).inUse = false) ∨
          ∀ slot, ((Runs.run step init events).loginEntries slot).status.isTerminal = false :=
  ⟨beginLogin_failed_iff name nowMs sentMs tag estTimeout, beginLogin_failed_iff name nowMs sentMs tag estTimeout,
    fun events => undoExact_iff (run_unusedFresh events)⟩

local instance fourLogins : NeZero 4 := ⟨by decide⟩

def fullLoginTable : MeshRuntime :=
  { init with
    loginEntries := fun slot =>
      ⟨[65], .ofList 32 [UInt8.ofNat slot.val], 0, 0, if slot = 0 then .failed else .ok, 0, 10000, false, true⟩ }

/-- A fifth contact's login is not sent, and the result of the first one is gone. -/
theorem fullLoginTable_loses_result :
    ¬ ∀ (runtime : MeshRuntime) (name : List UInt8) (pubKey : FixedBytes 32) (nowMs sentMs tag estTimeout : UInt32),
      (runtime.sendLoginCompanion name pubKey nowMs sentMs ⟨true, tag, estTimeout⟩).2.loginEntries =
        runtime.loginEntries := by
  intro unchanged
  have same := congrFun (unchanged fullLoginTable [66] (.ofList 32 [9]) 0 0 0 0) 0
  revert same
  decide

end SigurdOS.Mesh
