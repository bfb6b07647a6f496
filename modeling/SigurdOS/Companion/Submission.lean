import SigurdOS.Companion.ContactPass
import SigurdOS.Companion.Deliverable

namespace SigurdOS.Companion

open Bytes MessageStore

/-- What a connection holds to be signed: `none` without a `CMD_SIGN_START`. -/
def Connection.submission (c : Connection) : Option (List UInt8) := if c.signActive then some c.signBuf else none

def TransportSession.signing (session : TransportSession) : TransportSession :=
  { TransportSession.blank with
    slot := session.slot
    generation := session.generation
    wasConnected := session.wasConnected
    connectionGeneration := session.connectionGeneration
    pendingResponse := session.pendingResponse
    signBuf := session.signBuf
    signActive := session.signActive }

section Kept

variable {σ : Type} {h : CompanionBridgeHost σ} {s middle after : State σ}

def Narrows (s after : State σ) : Prop :=
  ∀ peer, transportsClientConnected after peer = true → transportsClientConnected s peer = true ∧
    transportsClientGeneration after peer = transportsClientGeneration s peer

theorem Narrows.of_links (attached : after.attached = s.attached)
    (links : ∃ accepts, after.links = { s.links with accepts := accepts }) : Narrows s after := by
  intro peer connected
  obtain ⟨same, generation⟩ := transportsClientConnected_congr attached links peer
  exact ⟨same ▸ connected, generation⟩

structure SigningKept (s after : State σ) : Prop where
  attached : after.attached = s.attached
  request : after.request = s.request
  narrows : Narrows s after
  buffer : after.current.signBuf = s.current.signBuf
  signing : after.current.signActive = s.current.signActive
  wasConnected : after.current.wasConnected = s.current.wasConnected
  connectionGeneration : after.current.connectionGeneration = s.current.connectionGeneration
  sessions : after.sessions.map TransportSession.signing = s.sessions.map TransportSession.signing

theorem SigningKept.refl (s : State σ) : SigningKept s s :=
  ⟨rfl, rfl, fun _ connected => ⟨connected, rfl⟩, rfl, rfl, rfl, rfl, rfl⟩

theorem SigningKept.trans (first : SigningKept s middle) (second : SigningKept middle after) : SigningKept s after where
  attached := second.attached.trans first.attached
  request := second.request.trans first.request
  narrows peer connected := by
    obtain ⟨between, generation⟩ := second.narrows peer connected
    obtain ⟨before, same⟩ := first.narrows peer between
    exact ⟨before, generation.trans same⟩
  buffer := second.buffer.trans first.buffer
  signing := second.signing.trans first.signing
  wasConnected := second.wasConnected.trans first.wasConnected
  connectionGeneration := second.connectionGeneration.trans first.connectionGeneration
  sessions := second.sessions.trans first.sessions

theorem SigningKept.submission (kept : SigningKept s after) : after.current.submission = s.current.submission := by
  unfold Connection.submission
  rw [kept.buffer, kept.signing]

theorem SigningKept.of_same (attached : after.attached = s.attached) (request : after.request = s.request)
    (links : after.links = s.links) (current : after.current = s.current) (sessions : after.sessions = s.sessions) :
    SigningKept s after :=
  ⟨attached, request, .of_links attached ⟨s.links.accepts, links⟩, by rw [current], by rw [current], by rw [current],
    by rw [current], by rw [sessions]⟩

theorem SigningKept.update {f : Connection → Connection} (buffer : (f s.current).signBuf = s.current.signBuf)
    (signing : (f s.current).signActive = s.current.signActive)
    (wasConnected : (f s.current).wasConnected = s.current.wasConnected)
    (generation : (f s.current).connectionGeneration = s.current.connectionGeneration) : SigningKept s (s.update f) :=
  ⟨rfl, rfl, fun _ connected => ⟨connected, rfl⟩, buffer, signing, wasConnected, generation, rfl⟩

theorem Transmits.signingKept (transmits : Transmits s after) : SigningKept s after := by
  obtain ⟨accepts, events, rfl, -⟩ := transmits
  exact ⟨rfl, rfl, .of_links rfl ⟨accepts, rfl⟩, rfl, rfl, rfl, rfl, rfl⟩

theorem signing_of_extended {sessions others : List TransportSession}
    (extended : List.Forall₂ (Extended h) sessions others) :
    others.map TransportSession.signing = sessions.map TransportSession.signing := by
  induction extended with
  | nil => rfl
  | cons head rest ih =>
    obtain ⟨queue, -, rfl⟩ := head
    rw [List.map_cons, List.map_cons, ih]
    rfl

theorem sendResponseFrame_signingKept (s : State σ) (frame : List UInt8) :
    SigningKept s (sendResponseFrame s frame) := by
  have logged : SigningKept s (s.logResponse frame) := .of_same rfl rfl rfl rfl rfl
  rcases sendResponseFrame_cases s frame with sent | ⟨middle, sent, -, -, held⟩
  · exact logged.trans sent.signingKept
  · rw [held]
    exact (logged.trans sent.signingKept).trans (.update rfl rfl rfl rfl)

theorem flushPendingResponse_signingKept (s : State σ) : SigningKept s (flushPendingResponse s).2 := by
  rcases flushPendingResponse_cases s with ⟨same, -⟩ | ⟨middle, sent, same, -⟩ | ⟨middle, sent, same⟩
  · rw [same]
    exact .refl s
  · rw [same]
    exact sent.signingKept
  · rw [same]
    dsimp only
    exact sent.signingKept.trans (.update rfl rfl rfl rfl)

theorem expirePendingBinary_signingKept (s : State σ) : SigningKept s (expirePendingBinary h s) := by
  obtain ⟨host, trace, same⟩ := expirePendingBinary_worked h s
  rw [same]
  exact ⟨rfl, rfl, fun _ connected => ⟨connected, rfl⟩, rfl, rfl, rfl, rfl, rfl⟩

theorem refillOfflineQueueFromStore_signingKept (s : State σ) (notify : Bool) :
    SigningKept s (refillOfflineQueueFromStore h s notify) := by
  obtain ⟨queue, sessions, -, extended, -, transmits⟩ := refillOfflineQueueFromStore_extends h s notify
  have queued : SigningKept s (s.withQueues queue sessions) :=
    ⟨rfl, rfl, fun _ connected => ⟨connected, rfl⟩, rfl, rfl, rfl, rfl, signing_of_extended extended⟩
  exact queued.trans transmits.signingKept

theorem pushTelemetryResponse_signingKept (s : State σ) (senderPrefix blob : List UInt8) :
    SigningKept s (pushTelemetryResponse s senderPrefix blob) := by
  unfold pushTelemetryResponse
  split
  · exact .refl s
  · have logged (length : Nat) : SigningKept s (s.logWrite 0 length) := .of_same rfl rfl rfl rfl rfl
    exact (logged _).trans (sendPushFrame_transmits _ _).signingKept

theorem acknowledgeInflight_signingKept (s : State σ) : SigningKept s (acknowledgeInflight s) := by
  rcases acknowledgeInflight_cases s with ⟨-, same⟩ | ⟨-, -, same⟩ | ⟨-, same⟩
  · rw [same]
    exact .refl s
  · rw [same]
    exact .update rfl rfl rfl rfl
  · rw [same, State.marked_eq]
    generalize (messageStoreMarkCompanionSent s.store s.current.inflightStoreId).1 = marked
    cases marked with
    | true => exact ⟨rfl, rfl, fun _ connected => ⟨connected, rfl⟩, rfl, rfl, rfl, rfl, rfl⟩
    | false => exact ⟨rfl, rfl, fun _ connected => ⟨connected, rfl⟩, rfl, rfl, rfl, rfl, rfl⟩

theorem deliverHead_signingKept (s : State σ) (head : Frame) : SigningKept s (deliverHead s head) := by
  have logged : SigningKept s (s.logWrite 0 head.buf.length) := .of_same rfl rfl rfl rfl rfl
  have written := logged.trans
    (writeFrameToCurrentTransport_transmits (s.logWrite 0 head.buf.length) head.buf).signingKept
  unfold deliverHead
  generalize writeFrameToCurrentTransport (s.logWrite 0 head.buf.length) head.buf = outcome at written
  obtain ⟨ok, middle⟩ := outcome
  cases ok with
  | false => exact written
  | true =>
    have noted : SigningKept middle (middle.note (.delivered middle.request (currentGeneration middle) head)) :=
      .of_same rfl rfl rfl rfl rfl
    dsimp only
    split
    · exact (written.trans noted).trans (.update rfl rfl rfl rfl)
    · exact (written.trans noted).trans (.update rfl rfl rfl rfl)

theorem syncNextMessage_signingKept (s : State σ) : SigningKept s (syncNextMessage h s) := by
  have timed : SigningKept s { s with lastSyncTime := h.currentTime s.host } := .of_same rfl rfl rfl rfl rfl
  unfold syncNextMessage
  dsimp only
  split
  · exact timed.trans (sendResponseFrame_signingKept _ _)
  have acknowledged := timed.trans (acknowledgeInflight_signingKept { s with lastSyncTime := h.currentTime s.host })
  generalize acknowledgeInflight { s with lastSyncTime := h.currentTime s.host } = middle at acknowledged
  have filled : SigningKept s
      (if middle.current.offline.isEmpty then refillOfflineQueueFromStore h middle false else middle) := by
    split
    · exact acknowledged.trans (refillOfflineQueueFromStore_signingKept middle false)
    · exact acknowledged
  generalize (if middle.current.offline.isEmpty then refillOfflineQueueFromStore h middle false else middle) = final
    at filled
  split
  · exact filled.trans (sendResponseFrame_signingKept _ _)
  · exact filled.trans (deliverHead_signingKept _ _)

theorem narrows_serial (s : State σ) : Narrows s { s with links := { s.links with serialEnabled := false } } := by
  intro peer connected
  obtain ⟨id, client⟩ := peer
  cases id with
  | ble => simp [transportsClientConnected] at connected
  | tcp => exact ⟨connected, rfl⟩
  | ws => exact ⟨connected, rfl⟩

theorem narrows_network (s : State σ) (id : TransportId) : Narrows s { s with links := { s.links with
    clients := fun peer => if peer.id = id then none else s.links.clients peer } } := by
  intro peer connected
  obtain ⟨other, client⟩ := peer
  cases other with
  | ble => exact ⟨connected, rfl⟩
  | tcp =>
    have apart : TransportId.tcp ≠ id := by
      rintro rfl
      simp [transportsClientConnected] at connected
    simp [transportsClientConnected, transportsClientGeneration, apart] at connected ⊢
    exact connected
  | ws =>
    have apart : TransportId.ws ≠ id := by
      rintro rfl
      simp [transportsClientConnected] at connected
    simp [transportsClientConnected, transportsClientGeneration, apart] at connected ⊢
    exact connected

theorem disableTransport_signingKept (s : State σ) : SigningKept s (disableTransport s) := by
  unfold disableTransport
  split
  · exact ⟨rfl, rfl, narrows_serial s, rfl, rfl, rfl, rfl, rfl⟩
  · exact ⟨rfl, rfl, narrows_serial s, rfl, rfl, rfl, rfl, rfl⟩
  · exact ⟨rfl, rfl, narrows_network s _, rfl, rfl, rfl, rfl, rfl⟩

theorem sendContact_signingKept (s : State σ) (index : Nat) : SigningKept s (sendContact h s index) := by
  unfold sendContact
  split
  · have moved {f : Connection → Connection} {length : Nat} (same : SigningKept s (s.update f)) :
        SigningKept s ((s.update f).logWrite 0 length) := same.trans (.of_same rfl rfl rfl rfl rfl)
    exact (moved (.update rfl rfl rfl rfl)).trans (sendResponseFrame_signingKept _ _)
  · have logged (length : Nat) : SigningKept s (s.logWrite 0 length) := .of_same rfl rfl rfl rfl rfl
    exact ((logged _).trans (sendResponseFrame_signingKept _ _)).trans (.update rfl rfl rfl rfl)

theorem serviceCurrentSession_signingKept (s : State σ) : SigningKept s (serviceCurrentSession h s) := by
  unfold serviceCurrentSession
  have flushed := (expirePendingBinary_signingKept (h := h) s).trans
    (flushPendingResponse_signingKept (expirePendingBinary h s))
  generalize flushPendingResponse (expirePendingBinary h s) = outcome at flushed
  obtain ⟨done, middle⟩ := outcome
  cases done with
  | false => exact flushed
  | true =>
    cases waiting : middle.current.contactIter with
    | none => simpa only [waiting] using flushed
    | some index =>
      simp only [waiting]
      exact iteInduction (motive := fun after : State σ => SigningKept s after) (fun _ => flushed)
        (fun _ => flushed.trans (sendContact_signingKept middle index))

theorem notifyWaiting_signingKept (kept : SigningKept s after) (added : Bool) :
    SigningKept s (if added then notifyWaiting after else after) := by
  cases added with
  | false => exact kept
  | true => exact kept.trans (notifyWaiting_transmits after).signingKept

theorem offerSessions_signingKept (s : State σ) (skip : Option Nat) (offer : Connection → Option (List Frame)) :
    SigningKept s (offerSessions s skip offer).2 := by
  obtain ⟨sessions, related, -, same⟩ := @offerSessions_forall₂ σ s skip offer
    (fun session longer => longer.signing = session.signing) (fun _ => rfl) (fun _ _ _ => rfl)
  rw [same]
  refine ⟨rfl, rfl, fun _ connected => ⟨connected, rfl⟩, rfl, rfl, rfl, rfl, ?_⟩
  change sessions.map TransportSession.signing = s.sessions.map TransportSession.signing
  clear same
  generalize s.sessions = former at related
  induction related with
  | nil => rfl
  | cons head rest ih => rw [List.map_cons, List.map_cons, ih, head]

theorem enqueueMessage_signingKept (s : State σ) (msg : StoredMessage) : SigningKept s (enqueueMessage h s msg) := by
  unfold enqueueMessage
  split
  · exact .refl s
  dsimp only
  split
  · exact notifyWaiting_signingKept (offerSessions_signingKept _ _ _) _
  · refine notifyWaiting_signingKept ?_ _
    unfold offerCurrent
    split
    · dsimp only
      exact .update rfl rfl rfl rfl
    · exact .refl s

theorem storeAndEnqueue_signingKept (s : State σ) (msg : StoredMessage) : SigningKept s (storeAndEnqueue h s msg) := by
  have stored (store : Store) : SigningKept s { s with store := store } := .of_same rfl rfl rfl rfl rfl
  unfold storeAndEnqueue
  split
  · exact (stored _).trans (enqueueMessage_signingKept _ _)
  · exact stored _

theorem enqueueChannelData_signingKept (s : State σ) (channelIndex snrQuarters pathLen : UInt8) (dataType : UInt16)
    (payload : List UInt8) :
    SigningKept s (enqueueChannelData s channelIndex snrQuarters pathLen dataType payload) := by
  unfold enqueueChannelData
  split
  · exact .refl s
  dsimp only
  generalize channelDataFrame channelIndex snrQuarters pathLen dataType payload = frame
  have logged : SigningKept s (s.logWrite 0 frame.length) := .of_same rfl rfl rfl rfl rfl
  split
  · exact notifyWaiting_signingKept (logged.trans (offerSessions_signingKept _ _ _)) _
  · refine notifyWaiting_signingKept ?_ _
    split
    · dsimp only
      exact logged.trans (.update rfl rfl rfl rfl)
    · exact logged

theorem pushBinaryResponse_signingKept (s : State σ) (tag : UInt32) (blob : List UInt8) :
    SigningKept s (pushBinaryResponse h s tag blob).2 := by
  unfold pushBinaryResponse
  have expired := expirePendingBinary_signingKept (h := h) s
  generalize expirePendingBinary h s = middle at expired
  dsimp only
  split
  · exact expired
  generalize binaryResponseFrame tag blob = frame
  have logged : SigningKept s (middle.logWrite 0 frame.length) := expired.trans (.of_same rfl rfl rfl rfl rfl)
  split
  · split
    · rename_i index peer generation slot owners
      have sent := logged.trans (transportsSendToResult_transmits _ peer frame).signingKept
      generalize transportsSendToResult (middle.logWrite 0 frame.length) peer frame = outcome at sent
      obtain ⟨ok, final⟩ := outcome
      cases ok with
      | false => exact sent
      | true =>
        dsimp only at sent ⊢
        split
        · dsimp only
          exact sent.trans (.update rfl rfl rfl rfl)
        · refine sent.trans ⟨rfl, rfl, fun _ connected => ⟨connected, rfl⟩, rfl, rfl, rfl, rfl, ?_⟩
          refine List.ext_getElem (by simp) fun i inside _ => ?_
          simp only [List.getElem_map, List.getElem_modify]
          split <;> rfl
    · exact expired
  · split
    · exact expired
    split
    · exact expired
    · have sent := logged.trans (sendPushFrame_transmits _ frame).signingKept
      generalize sendPushFrame (middle.logWrite 0 frame.length) frame = outcome at sent
      obtain ⟨ok, final⟩ := outcome
      cases ok with
      | false => exact sent
      | true =>
        dsimp only at sent ⊢
        exact sent.trans (.update rfl rfl rfl rfl)

end Kept

end SigurdOS.Companion
