import SigurdOS.Companion.Bridge

namespace SigurdOS.Companion

open Bytes MessageStore

theorem forall₂_trans {α : Type} {relation : α → α → Prop} {left middle right : List α}
    (first : List.Forall₂ relation left middle) (second : List.Forall₂ relation middle right)
    (trans : ∀ {a b c}, relation a b → relation b c → relation a c) : List.Forall₂ relation left right := by
  induction first generalizing right with
  | nil => exact second
  | cons head rest ih =>
    cases second with
    | cons next others => exact .cons (trans head next) (ih others)

theorem forall₂_mem_right {α β : Type} {relation : α → β → Prop} {left : List α} {right : List β}
    (related : List.Forall₂ relation left right) {b : β} (member : b ∈ right) : ∃ a ∈ left, relation a b := by
  induction related with
  | nil => cases member
  | cons head _ ih =>
    rcases List.mem_cons.mp member with rfl | later
    · exact ⟨_, List.mem_cons_self .., head⟩
    · obtain ⟨a, present, holds⟩ := ih later
      exact ⟨a, List.mem_cons_of_mem _ present, holds⟩

theorem forall₂_modify {α : Type} {relation : α → α → Prop} (same : ∀ a, relation a a) {f : α → α}
    (changes : ∀ a, relation a (f a)) (list : List α) (index : Nat) :
    List.Forall₂ relation list (list.modify index f) := by
  rw [List.forall₂_iff_get]
  refine ⟨by simp, fun i inside _ => ?_⟩
  simp only [List.get_eq_getElem, List.getElem_modify]
  split
  · exact changes _
  · exact same _

def Event.isWrote : Event → Bool
  | .wrote .. => true
  | _ => false

section Transmits

variable {σ : Type} {s middle after : State σ}

/-- The state after frames went out: the script of the links and the history have moved on. -/
def State.sent (s : State σ) (accepts : List Bool) (events : List Event) : State σ :=
  { s with links := { s.links with accepts := accepts }, history := s.history ++ events }

def Transmits (s after : State σ) : Prop :=
  ∃ accepts events, after = s.sent accepts events ∧ ∀ event ∈ events, event.isWrote = true

theorem Transmits.refl (s : State σ) : Transmits s s := ⟨s.links.accepts, [], by simp [State.sent], by simp⟩

theorem Transmits.trans (first : Transmits s middle) (second : Transmits middle after) : Transmits s after := by
  obtain ⟨_, events, rfl, wrote⟩ := first
  obtain ⟨accepts, later, rfl, also⟩ := second
  refine ⟨accepts, events ++ later, by simp [State.sent], fun event member => ?_⟩
  rcases List.mem_append.mp member with old | new
  · exact wrote event old
  · exact also event new

theorem attemptWrite_transmits (s : State σ) (peer : Option Peer) (generation : UInt32) (frame : List UInt8) :
    Transmits s (attemptWrite s peer generation frame).2 := by
  unfold attemptWrite
  dsimp only
  split
  · exact ⟨_, [.wrote peer generation frame], rfl, by simp [Event.isWrote]⟩
  · exact ⟨s.links.accepts.tail, [], by simp [State.sent], by simp⟩

theorem transportsSendToResult_transmits (s : State σ) (peer : Peer) (frame : List UInt8) :
    Transmits s (transportsSendToResult s peer frame).2 := by
  unfold transportsSendToResult
  split
  · exact attemptWrite_transmits ..
  · exact .refl s

theorem writeFrameToCurrentTransport_transmits (s : State σ) (frame : List UInt8) :
    Transmits s (writeFrameToCurrentTransport s frame).2 := by
  unfold writeFrameToCurrentTransport
  split
  · exact transportsSendToResult_transmits ..
  · split
    · exact attemptWrite_transmits ..
    · exact .refl s

theorem writeToAllClients_transmits (frame : List UInt8) (peers : List Peer) (s : State σ) :
    Transmits s (writeToAllClients frame peers s).2 := by
  induction peers generalizing s with
  | nil => exact .refl s
  | cons peer rest ih =>
    unfold writeToAllClients
    split
    · exact (transportsSendToResult_transmits s peer frame).trans (ih _)
    · exact ih s

theorem transportsBroadcastResult_transmits (s : State σ) (id : TransportId) (frame : List UInt8) :
    Transmits s (transportsBroadcastResult s id frame).2 := writeToAllClients_transmits ..

theorem sendPushFrame_transmits (s : State σ) (frame : List UInt8) : Transmits s (sendPushFrame s frame).2 := by
  unfold sendPushFrame
  split
  · split
    · exact ((transportsBroadcastResult_transmits s .ble frame).trans
        (transportsBroadcastResult_transmits _ .tcp frame)).trans (transportsBroadcastResult_transmits _ .ws frame)
    · exact writeFrameToCurrentTransport_transmits s frame
  · exact .refl s

theorem notifyWaiting_transmits (s : State σ) : Transmits s (notifyWaiting s) := by
  unfold notifyWaiting
  split
  · exact sendPushFrame_transmits ..
  · exact .refl s

theorem sendResponseFrame_cases (s : State σ) (frame : List UInt8) :
    Transmits (s.logResponse frame) (sendResponseFrame s frame) ∨
    ∃ middle, Transmits (s.logResponse frame) middle ∧ s.current.pendingResponse = [] ∧ validFrame frame = true ∧
      sendResponseFrame s frame = middle.update fun c => { c with pendingResponse := frame } := by
  unfold sendResponseFrame
  dsimp only
  split
  · rename_i free
    rw [Bool.and_eq_true] at free
    have written := writeFrameToCurrentTransport_transmits (s.logResponse frame) frame
    generalize writeFrameToCurrentTransport (s.logResponse frame) frame = outcome at written
    obtain ⟨ok, middle⟩ := outcome
    cases ok with
    | true => exact Or.inl written
    | false => exact Or.inr ⟨middle, written, List.isEmpty_iff.mp free.2, free.1, rfl⟩
  · exact Or.inl (.refl _)

theorem flushPendingResponse_cases (s : State σ) :
    (flushPendingResponse s = (true, s) ∧ s.current.pendingResponse = []) ∨
    (∃ middle, Transmits s middle ∧ flushPendingResponse s = (false, middle) ∧ s.current.pendingResponse ≠ []) ∨
    ∃ middle, Transmits s middle ∧
      flushPendingResponse s = (true, middle.update fun c => { c with pendingResponse := [] }) := by
  unfold flushPendingResponse
  split
  · rename_i idle
    exact Or.inl ⟨rfl, List.isEmpty_iff.mp idle⟩
  rename_i pending
  rw [List.isEmpty_iff] at pending
  split
  · exact Or.inr (Or.inl ⟨s, .refl s, rfl, pending⟩)
  · have written := writeFrameToCurrentTransport_transmits s s.current.pendingResponse
    generalize writeFrameToCurrentTransport s s.current.pendingResponse = outcome at written
    obtain ⟨ok, middle⟩ := outcome
    cases ok with
    | true => exact Or.inr (Or.inr ⟨middle, written, rfl⟩)
    | false => exact Or.inr (Or.inl ⟨middle, written, rfl, pending⟩)

end Transmits

section Offers

variable {σ : Type} (h : CompanionBridgeHost σ) {s : State σ}

def State.withQueues (s : State σ) (queue : List Frame) (sessions : List TransportSession) : State σ :=
  { s with current := { s.current with offline := queue }, sessions := sessions }

def TransportSession.withOffline (session : TransportSession) (queue : List Frame) : TransportSession :=
  { session with offline := queue }

def Genuine (frame : Frame) : Prop :=
  ∃ host version msg, msg.isSelf = false ∧ msg.storeId = frame.storeId ∧ frame.buf =
    buildMessageFrame h host version msg

def Grows (queue longer : List Frame) : Prop :=
  ∃ added, longer = queue ++ added ∧ (∀ frame ∈ added, frame.persistent = true ∧ Genuine h frame) ∧
    (Orderly queue → Orderly longer)

/-- The session differs at most in durable frames behind its queue. -/
def Extended (session longer : TransportSession) : Prop :=
  ∃ queue, Grows h session.offline queue ∧ longer = session.withOffline queue

variable {h}

theorem Grows.refl (queue : List Frame) : Grows h queue queue := ⟨[], by simp, by simp, id⟩

theorem Grows.trans {queue longer longest : List Frame} (first : Grows h queue longer)
    (second : Grows h longer longest) :
    Grows h queue longest := by
  obtain ⟨added, rfl, durable, orderly⟩ := first
  obtain ⟨more, rfl, also, still⟩ := second
  refine ⟨added ++ more, List.append_assoc .., fun frame member => ?_, still ∘ orderly⟩
  rcases List.mem_append.mp member with old | new
  · exact durable frame old
  · exact also frame new

theorem Extended.refl (session : TransportSession) : Extended h session session := ⟨session.offline, .refl _, rfl⟩

theorem Extended.trans {session longer longest : TransportSession} (first : Extended h session longer)
    (second : Extended h longer longest) : Extended h session longest := by
  obtain ⟨queue, grows, rfl⟩ := first
  obtain ⟨more, further, rfl⟩ := second
  exact ⟨more, grows.trans further, rfl⟩

theorem extended_self (sessions : List TransportSession) : List.Forall₂ (Extended h) sessions sessions :=
  List.forall₂_same.mpr (fun session _ => .refl session)

variable (h)

theorem offerMessage_grows {host : σ} {msg : StoredMessage} {c : Connection} {queue : List Frame}
    (incoming : msg.isSelf = false) (accepted : offerMessage h host true msg c = some queue) :
    Grows h c.offline queue := by
  obtain ⟨bounded, appended, -⟩ := addToOfflineQueueBuffer_some accepted
  obtain ⟨rfl, -⟩ := appendFrame_durable rfl appended
  refine ⟨_, rfl, fun frame member => ?_, fun orderly => addToOfflineQueueBuffer_orderly orderly accepted⟩
  obtain rfl := List.mem_singleton.mp member
  exact ⟨rfl, host, c.appTargetVer, msg, incoming, rfl, rfl⟩

theorem offerCurrent_grows (s : State σ) {msg : StoredMessage} (incoming : msg.isSelf = false) :
    ∃ queue, Grows h s.current.offline queue ∧ (offerCurrent h s true msg).2 = s.withQueues queue s.sessions := by
  unfold offerCurrent
  cases offered : offerMessage h s.host true msg s.current with
  | none => exact ⟨s.current.offline, .refl _, rfl⟩
  | some queue => exact ⟨queue, offerMessage_grows h incoming offered, rfl⟩

theorem offerSessions_skipped (s : State σ) {skip : Option Nat} (offer : Connection → Option (List Frame)) {index : Nat}
    (skipped : skip = some index) : (offerSessions s skip offer).2.sessions[index]? = s.sessions[index]? := by
  subst skipped
  dsimp only [offerSessions]
  rw [List.getElem?_mapIdx]
  cases s.sessions[index]? with
  | none => rfl
  | some session => simp

theorem offerSessions_forall₂ (s : State σ) (skip : Option Nat) {offer : Connection → Option (List Frame)}
    (relation : TransportSession → TransportSession → Prop) (same : ∀ session, relation session session)
    (takes : ∀ session queue, offer session.toConnection = some queue → relation session (session.withOffline queue)) :
    ∃ sessions, List.Forall₂ relation s.sessions sessions ∧
      (∀ index, skip = some index → sessions[index]? = s.sessions[index]?) ∧
      (offerSessions s skip offer).2 = s.withQueues s.current.offline sessions := by
  refine ⟨_, ?_, fun index skipped => offerSessions_skipped s offer skipped, rfl⟩
  rw [List.forall₂_iff_get]
  refine ⟨by simp [offerSessions], fun index inside _ => ?_⟩
  simp only [List.get_eq_getElem, offerSessions, List.getElem_mapIdx]
  split
  · rename_i queue taken
    split at taken
    · cases taken
    · exact takes _ queue taken
  · exact same _

theorem offerMessage_extends (s : State σ) (skip : Option Nat) {msg : StoredMessage} (incoming : msg.isSelf = false) :
    ∃ sessions, List.Forall₂ (Extended h) s.sessions sessions ∧
      (∀ index, skip = some index → sessions[index]? = s.sessions[index]?) ∧
      (offerSessions s skip (offerMessage h s.host true msg)).2 = s.withQueues s.current.offline sessions :=
  offerSessions_forall₂ s skip (Extended h) .refl fun _ queue accepted =>
    ⟨queue, offerMessage_grows h incoming accepted, rfl⟩

theorem refillRecord_extends (s : State σ) (msg : StoredMessage) :
    ∃ queue sessions, Grows h s.current.offline queue ∧ List.Forall₂ (Extended h) s.sessions sessions ∧
      (∀ index, s.active = some index → sessions[index]? = s.sessions[index]?) ∧
      (refillRecord h s msg).2 = s.withQueues queue sessions := by
  unfold refillRecord
  split
  · exact ⟨_, _, .refl _, extended_self _, fun _ _ => rfl, rfl⟩
  rename_i incoming
  rw [Bool.not_eq_true] at incoming
  obtain ⟨queue, grows, offered⟩ := offerCurrent_grows h s incoming
  generalize offerCurrent h s true msg = outcome at offered
  obtain ⟨added, middle⟩ := outcome
  dsimp only at offered ⊢
  subst offered
  split
  · obtain ⟨sessions, extended, kept, others⟩ := offerMessage_extends h (s.withQueues queue s.sessions)
      (s.withQueues queue s.sessions).active incoming
    refine ⟨queue, sessions, grows, extended, kept, ?_⟩
    dsimp only
    rw [others]
    rfl
  · exact ⟨queue, s.sessions, grows, extended_self _, fun _ _ => rfl, rfl⟩

theorem refillRecords_extends (s : State σ) (messages : List StoredMessage) :
    ∃ queue sessions, Grows h s.current.offline queue ∧ List.Forall₂ (Extended h) s.sessions sessions ∧
      (∀ index, s.active = some index → sessions[index]? = s.sessions[index]?) ∧
      (refillRecords h s messages).2 = s.withQueues queue sessions := by
  induction messages generalizing s with
  | nil => exact ⟨_, _, .refl _, extended_self _, fun _ _ => rfl, rfl⟩
  | cons msg rest ih =>
    unfold refillRecords
    obtain ⟨queue, sessions, grows, extended, kept, offered⟩ := refillRecord_extends h s msg
    generalize refillRecord h s msg = outcome at offered
    obtain ⟨added, middle⟩ := outcome
    dsimp only at offered ⊢
    subst offered
    obtain ⟨final, others, further, longer, still, done⟩ := ih (s.withQueues queue sessions)
    refine ⟨final, others, grows.trans further, forall₂_trans extended longer Extended.trans, ?_, ?_⟩
    · exact fun index active => (still index active).trans (kept index active)
    · rw [done]
      rfl

theorem refillOfflineQueueFromStore_extends (s : State σ) (notify : Bool) :
    ∃ queue sessions, Grows h s.current.offline queue ∧ List.Forall₂ (Extended h) s.sessions sessions ∧
      (∀ index, s.active = some index → sessions[index]? = s.sessions[index]?) ∧
      Transmits (s.withQueues queue sessions) (refillOfflineQueueFromStore h s notify) := by
  unfold refillOfflineQueueFromStore
  split
  · exact ⟨_, _, .refl _, extended_self _, fun _ _ => rfl, .refl s⟩
  · obtain ⟨queue, sessions, grows, extended, kept, done⟩ :=
      refillRecords_extends h s (messageStoreLoadUnsent s.store offlineQueueSize)
    generalize refillRecords h s (messageStoreLoadUnsent s.store offlineQueueSize) = outcome at done
    obtain ⟨added, middle⟩ := outcome
    dsimp only at done ⊢
    subst done
    refine ⟨queue, sessions, grows, extended, kept, ?_⟩
    split
    · exact notifyWaiting_transmits _
    · exact .refl _

end Offers

section Acknowledge

variable {σ : Type} (s : State σ)

/-- The message in flight is the head of the queue and went out over the present connection. -/
structure Acknowledges : Prop where
  claimed : s.current.inflightStoreId ≠ 0
  connected : s.current.connectionGeneration ≠ 0
  generation : s.current.inflightGeneration = s.current.connectionGeneration
  head : ∃ head rest, s.current.offline = head :: rest ∧ head.persistent = true ∧
    head.storeId = s.current.inflightStoreId

def State.marked (marked : Bool) (store : Store) : State σ :=
  let s' := { s with store := store }.note (.marked s.request (currentGeneration s) s.current.inflightStoreId)
  (if marked then s'.update removeFirstOfflineFrame else s').update clearInflightMessage

theorem State.marked_eq (marked : Bool) (store : Store) : s.marked marked store = { s with
    store := store
    history := s.history ++ [.marked s.request (currentGeneration s) s.current.inflightStoreId]
    current := clearInflightMessage (if marked then removeFirstOfflineFrame s.current else s.current) } := by
  cases marked <;> rfl

theorem acknowledgeInflight_cases :
    (s.current.inflightStoreId = 0 ∧ acknowledgeInflight s = s) ∨
    (s.current.inflightStoreId ≠ 0 ∧ ¬ Acknowledges s ∧ acknowledgeInflight s = s.update clearInflightMessage) ∨
    (Acknowledges s ∧ acknowledgeInflight s =
      s.marked (messageStoreMarkCompanionSent s.store s.current.inflightStoreId).1
      (messageStoreMarkCompanionSent s.store s.current.inflightStoreId).2) := by
  unfold acknowledgeInflight
  split
  · rename_i none
    exact Or.inl ⟨none, rfl⟩
  rename_i claimed
  dsimp only
  cases queue : s.current.offline with
  | nil =>
    refine Or.inr (Or.inl ⟨claimed, ?_, by simp⟩)
    rintro ⟨-, -, -, head, rest, same, -⟩
    rw [queue] at same
    cases same
  | cons head rest =>
    dsimp only
    split
    · rename_i matched
      simp only [Bool.and_eq_true, bne_iff_ne, beq_iff_eq] at matched
      obtain ⟨⟨connected, generation⟩, durable, same⟩ := matched
      exact Or.inr (Or.inr ⟨⟨claimed, connected, generation, head, rest, queue, durable, same⟩, rfl⟩)
    · rename_i unmatched
      refine Or.inr (Or.inl ⟨claimed, ?_, rfl⟩)
      rintro ⟨-, connected, generation, other, others, same, durable, id⟩
      rw [queue] at same
      cases same
      apply unmatched
      simp [connected, generation, durable, id]

variable {s}

theorem Acknowledges.eq (acknowledges : Acknowledges s) :
    acknowledgeInflight s = s.marked (messageStoreMarkCompanionSent s.store s.current.inflightStoreId).1
      (messageStoreMarkCompanionSent s.store s.current.inflightStoreId).2 := by
  rcases acknowledgeInflight_cases s with ⟨none, -⟩ | ⟨-, unmatched, -⟩ | ⟨-, same⟩
  · exact absurd none acknowledges.claimed
  · exact absurd acknowledges unmatched
  · exact same

theorem acknowledgeInflight_of_not (unmatched : ¬ Acknowledges s) :
    acknowledgeInflight s = if s.current.inflightStoreId = 0 then s else s.update clearInflightMessage := by
  rcases acknowledgeInflight_cases s with ⟨none, same⟩ | ⟨claimed, -, same⟩ | ⟨acknowledges, -⟩
  · rw [same, if_pos none]
  · rw [same, if_neg claimed]
  · exact absurd acknowledges unmatched

end Acknowledge

section Returns

variable {σ : Type} {α β : Type}

def Returns (command : Parse σ α) (property : α → Prop) : Prop := ∀ work, property (command.run work).1

theorem returns_pure {property : α → Prop} {value : α} (holds : property value) :
    Returns (pure value : Parse σ α) property := fun _ => holds

theorem returns_bind {property : β → Prop} {first : Parse σ α} {second : α → Parse σ β}
    (holds : ∀ value, Returns (second value) property) : Returns (first >>= second) property :=
  fun work => holds (first.run work).1 (first.run work).2

theorem returns_map {property : β → Prop} {first : Parse σ α} {f : α → β} (holds : ∀ value, property (f value)) :
    Returns (f <$> first) property := fun work => holds (first.run work).1

end Returns

section SessionCommands

variable {σ : Type} (h : CompanionBridgeHost σ) (build : Build) (frame : List UInt8) {connection : Connection}

structure Retains (connection after : Connection) : Prop where
  pendingResponse : after.pendingResponse = connection.pendingResponse
  wasConnected : after.wasConnected = connection.wasConnected
  connectionGeneration : after.connectionGeneration = connection.connectionGeneration
  inflightStoreId : after.inflightStoreId = connection.inflightStoreId
  inflightGeneration : after.inflightGeneration = connection.inflightGeneration

structure Negotiated (connection after : Connection) : Prop where
  appTargetVer : after.appTargetVer = connection.appTargetVer
  versionNegotiated : after.versionNegotiated = connection.versionNegotiated
  offline : after.offline = connection.offline

def Retained (command : CompanionCommand) (connection : Connection) (outcome : Outcome) : Prop :=
  Retains connection outcome.connection ∧
    (command ≠ .deviceQuery → Negotiated connection outcome.connection) ∧
    (command = .deviceQuery → outcome.connection.offline = []) ∧
    (command ≠ .appStart → outcome.follow ≠ .refill) ∧
    (command ≠ .importPrivateKey → outcome.follow ≠ .identityChanged)

theorem retained_answer {command : CompanionCommand} {after : Connection} {reply : List UInt8}
    (other : command ≠ .deviceQuery) (retains : Retains connection after) (negotiated : Negotiated connection after) :
    Retained command connection (answer after reply) :=
  ⟨retains, fun _ => negotiated, fun same => absurd same other, fun _ => nofun, fun _ => nofun⟩

theorem Retains.refl (connection : Connection) : Retains connection connection := ⟨rfl, rfl, rfl, rfl, rfl⟩

theorem Negotiated.refl (connection : Connection) : Negotiated connection connection := ⟨rfl, rfl, rfl⟩

theorem retained_same {command : CompanionCommand} {reply : List UInt8} (other : command ≠ .deviceQuery) :
    Retained command connection (answer connection reply) := retained_answer other (.refl _) (.refl _)

theorem trackedRequest_retained {command : CompanionCommand} (other : command ≠ .deviceQuery)
    (send : List UInt8 → List UInt8 → σ → CompanionSendResult × σ) :
    Returns (trackedRequest h frame connection send) (Retained command connection) := by
  unfold trackedRequest
  split
  · exact returns_pure (retained_same other)
  · refine returns_bind fun key => returns_bind fun request => returns_bind fun result => ?_
    split
    · exact returns_pure (retained_same other)
    · exact returns_bind fun now => returns_bind fun reply =>
        returns_pure (retained_answer other ⟨rfl, rfl, rfl, rfl, rfl⟩ ⟨rfl, rfl, rfl⟩)

theorem getContacts_retained : Returns (getContacts h frame connection) (Retained .getContacts connection) := by
  unfold getContacts
  split
  · exact returns_pure (retained_same (by decide))
  · have counted (since : UInt32) : Returns (do
        let count ← ask h.contactCount
        let reply ← respond [[2], word (UInt32.ofNat count)]
        return answer
          { connection with iterFilterSince := since, contactIter := some 0, mostRecentLastmod := 0 } reply :
        Parse σ Outcome) (Retained .getContacts connection) :=
      returns_bind fun count => returns_bind fun reply =>
        returns_pure (retained_answer (by decide) ⟨rfl, rfl, rfl, rfl, rfl⟩ ⟨rfl, rfl, rfl⟩)
    dsimp only
    split
    · exact returns_bind counted
    · exact returns_bind counted

theorem importPrivateKey_retained :
    Returns (importPrivateKey h frame connection) (Retained .importPrivateKey connection) := by
  refine returns_bind fun key => returns_bind fun done => returns_pure ?_
  refine ⟨.refl _, fun _ => .refl _, nofun, fun _ => ?_, fun other => absurd rfl other⟩
  cases done <;> nofun

theorem reboot_retained : Returns (reboot h frame connection) (Retained .reboot connection) := by
  refine returns_bind fun phrase => ?_
  split
  · exact returns_bind fun _ => returns_pure ⟨.refl _, fun _ => .refl _, nofun, fun _ => nofun, fun _ => nofun⟩
  · exact returns_pure (retained_same (by decide))

theorem factoryReset_retained : Returns (factoryReset h frame connection) (Retained .factoryReset connection) := by
  refine returns_bind fun phrase => ?_
  split
  · exact returns_bind fun _ => returns_pure ⟨.refl _, fun _ => .refl _, nofun, fun _ => nofun, fun _ => nofun⟩
  · exact returns_pure (retained_same (by decide))

theorem signData_retained :
    Returns (signData frame connection : Parse σ Outcome) (Retained .signData connection) := by
  unfold signData
  split
  · exact returns_pure (retained_same (by decide))
  split
  · exact returns_pure (retained_same (by decide))
  · exact returns_bind fun data =>
      returns_pure (retained_answer (by decide) ⟨rfl, rfl, rfl, rfl, rfl⟩ ⟨rfl, rfl, rfl⟩)

theorem signFinish_retained : Returns (signFinish h connection) (Retained .signFinish connection) := by
  unfold signFinish
  split
  · exact returns_pure (retained_same (by decide))
  · refine returns_bind fun signature => returns_bind fun _ => ?_
    dsimp only
    split
    · exact returns_bind fun reply =>
        returns_pure (retained_answer (by decide) ⟨rfl, rfl, rfl, rfl, rfl⟩ ⟨rfl, rfl, rfl⟩)
    · exact returns_pure (retained_answer (by decide) ⟨rfl, rfl, rfl, rfl, rfl⟩ ⟨rfl, rfl, rfl⟩)

theorem sendTelemetryReq_retained :
    Returns (sendTelemetryReq h frame connection) (Retained .sendTelemetryReq connection) := by
  unfold sendTelemetryReq
  split
  · exact returns_bind fun blob => returns_bind fun info =>
      returns_pure ⟨.refl _, fun _ => .refl _, nofun, fun _ => nofun, fun _ => nofun⟩
  split
  · exact returns_bind fun key => returns_bind fun result => returns_bind fun reply =>
      returns_pure (retained_same (by decide))
  · exact returns_pure (retained_same (by decide))

theorem sendBinaryReq_retained : Returns (sendBinaryReq h frame connection) (Retained .sendBinaryReq connection) := by
  refine returns_bind fun key => returns_bind fun contact => ?_
  split
  · exact returns_pure (retained_same (by decide))
  · exact trackedRequest_retained h frame (by decide) _

theorem sessionCommand_retained (command : CompanionCommand) :
    Returns (sessionCommand h build frame connection command) (Retained command connection) := by
  have hosted (other : command ≠ .deviceQuery) :
      Returns (hostedOutcome h frame connection command) (Retained command connection) := by
    unfold hostedOutcome
    cases hostCommand h frame command with
    | some run => exact returns_map fun reply => retained_same other
    | none => exact returns_pure (retained_same other)
  cases command
  case deviceQuery =>
    refine returns_bind fun version => returns_bind fun pin => returns_bind fun clientRepeat =>
      returns_bind fun pathHashMode => returns_bind fun reply => returns_pure ?_
    refine ⟨⟨rfl, rfl, rfl, rfl, rfl⟩, fun other => absurd rfl other, fun _ => rfl, ?_, ?_⟩
    · intro _ same
      cases same
    · intro _ same
      cases same
  case appStart =>
    refine returns_bind fun info => returns_bind fun reply => returns_pure ?_
    refine ⟨⟨rfl, rfl, rfl, rfl, rfl⟩, fun _ => ⟨rfl, rfl, rfl⟩, ?_, fun other => absurd rfl other, ?_⟩
    · intro same
      cases same
    · intro _ same
      cases same
  case signStart =>
    exact returns_bind fun reply =>
      returns_pure (retained_answer (by decide) ⟨rfl, rfl, rfl, rfl, rfl⟩ ⟨rfl, rfl, rfl⟩)
  case getContacts => exact getContacts_retained h frame
  case importPrivateKey => exact importPrivateKey_retained h frame
  case reboot => exact reboot_retained h frame
  case factoryReset => exact factoryReset_retained h frame
  case signData => exact signData_retained frame
  case signFinish => exact signFinish_retained h
  case sendTelemetryReq => exact sendTelemetryReq_retained h frame
  case sendBinaryReq => exact sendBinaryReq_retained h frame
  case sendAnonReq => exact trackedRequest_retained h frame (by decide) _
  all_goals exact hosted (by decide)

section Views

variable {α : Type} {command : CompanionCommand} (view : Connection → α)

theorem trackedRequest_keeps (tracks : ∀ c requests, view { c with pendingBinary := requests } = view c)
    (send : List UInt8 → List UInt8 → σ → CompanionSendResult × σ) :
    Returns (trackedRequest h frame connection send) fun outcome => view outcome.connection = view connection := by
  unfold trackedRequest
  split
  · exact returns_pure rfl
  · refine returns_bind fun key => returns_bind fun request => returns_bind fun result => ?_
    split
    · exact returns_pure rfl
    · exact returns_bind fun now => returns_bind fun reply => returns_pure (tracks _ _)

theorem getContacts_keeps (iterates : ∀ c since,
      view { c with iterFilterSince := since, contactIter := some 0, mostRecentLastmod := 0 } = view c) :
    Returns (getContacts h frame connection) fun outcome => view outcome.connection = view connection := by
  unfold getContacts
  split
  · exact returns_pure rfl
  · dsimp only
    split
    · exact returns_bind fun since => returns_bind fun count => returns_bind fun reply => returns_pure (iterates _ _)
    · exact returns_bind fun since => returns_bind fun count => returns_bind fun reply => returns_pure (iterates _ _)

theorem signData_keeps (signs : ∀ c buf active, view { c with signBuf := buf, signActive := active } = view c) :
    Returns (signData frame connection : Parse σ Outcome) fun outcome => view outcome.connection = view connection := by
  unfold signData
  split
  · exact returns_pure rfl
  split
  · exact returns_pure rfl
  · exact returns_bind fun data => returns_pure (signs _ _ connection.signActive)

theorem signFinish_keeps (signs : ∀ c buf active, view { c with signBuf := buf, signActive := active } = view c) :
    Returns (signFinish h connection) fun outcome => view outcome.connection = view connection := by
  unfold signFinish
  split
  · exact returns_pure rfl
  · refine returns_bind fun signature => returns_bind fun _ => ?_
    dsimp only
    split
    · exact returns_bind fun reply => returns_pure (signs _ _ _)
    · exact returns_pure (signs _ _ _)

theorem sendTelemetryReq_keeps :
    Returns (sendTelemetryReq h frame connection) fun outcome => view outcome.connection = view connection := by
  unfold sendTelemetryReq
  split
  · exact returns_bind fun blob => returns_bind fun info => returns_pure rfl
  split
  · exact returns_bind fun key => returns_bind fun result => returns_bind fun reply => returns_pure rfl
  · exact returns_pure rfl

theorem sessionCommand_keeps (tracks : ∀ c requests, view { c with pendingBinary := requests } = view c)
    (negotiates : command = .deviceQuery → ∀ c version,
      view { c with appTargetVer := version, versionNegotiated := true, offline := [] } = view c)
    (starts : command = .appStart → ∀ c, view { c with contactIter := none } = view c)
    (iterates : command = .getContacts → ∀ c since,
      view { c with iterFilterSince := since, contactIter := some 0, mostRecentLastmod := 0 } = view c)
    (signs : command = .signStart ∨ command = .signData ∨ command = .signFinish → ∀ c buf active,
      view { c with signBuf := buf, signActive := active } = view c) :
    Returns (sessionCommand h build frame connection command) fun outcome => view outcome.connection =
        view connection := by
  have hosted : Returns (hostedOutcome h frame connection command)
      fun outcome => view outcome.connection = view connection := by
    unfold hostedOutcome
    cases hostCommand h frame command with
    | some run => exact returns_map fun reply => rfl
    | none => exact returns_pure rfl
  cases command
  case deviceQuery =>
    exact returns_bind fun version => returns_bind fun pin => returns_bind fun clientRepeat =>
      returns_bind fun pathHashMode => returns_bind fun reply => returns_pure (negotiates rfl _ _)
  case appStart => exact returns_bind fun info => returns_bind fun reply => returns_pure (starts rfl _)
  case getContacts => exact getContacts_keeps h frame view (iterates rfl)
  case importPrivateKey => exact returns_bind fun key => returns_bind fun done => returns_pure rfl
  case reboot =>
    refine returns_bind fun phrase => ?_
    split
    · exact returns_bind fun _ => returns_pure rfl
    · exact returns_pure rfl
  case factoryReset =>
    refine returns_bind fun phrase => ?_
    split
    · exact returns_bind fun _ => returns_pure rfl
    · exact returns_pure rfl
  case signStart => exact returns_bind fun reply => returns_pure (signs (Or.inl rfl) _ _ _)
  case signData => exact signData_keeps frame view (signs (Or.inr (Or.inl rfl)))
  case signFinish => exact signFinish_keeps h view (signs (Or.inr (Or.inr rfl)))
  case sendTelemetryReq => exact sendTelemetryReq_keeps h frame view
  case sendBinaryReq =>
    refine returns_bind fun key => returns_bind fun contact => ?_
    split
    · exact returns_pure rfl
    · exact trackedRequest_keeps h frame view tracks _
  case sendAnonReq => exact trackedRequest_keeps h frame view tracks _
  all_goals exact hosted

end Views

end SessionCommands

end SigurdOS.Companion
