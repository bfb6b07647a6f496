import SigurdOS.Companion.AtLeastOnce

namespace SigurdOS.Companion

open Bytes MessageStore

section Shelters

variable {σ : Type} (h : CompanionBridgeHost σ)

def Shelters (s after : State σ) : Prop := List.Forall₂ (Extended h) s.sessions after.sessions

variable {h} {s middle after : State σ}

theorem Shelters.of_same (same : after.sessions = s.sessions) : Shelters h s after := by
  unfold Shelters
  rw [same]
  exact extended_self _

theorem Shelters.trans (first : Shelters h s middle) (second : Shelters h middle after) : Shelters h s after :=
  forall₂_trans first second Extended.trans

theorem Transmits.sessions (transmits : Transmits s after) : after.sessions = s.sessions := by
  obtain ⟨accepts, events, rfl, -⟩ := transmits
  rfl

theorem sendResponseFrame_sessions (s : State σ) (frame : List UInt8) :
    (sendResponseFrame s frame).sessions = s.sessions := by
  rcases sendResponseFrame_cases s frame with sent | ⟨middle, sent, -, -, held⟩
  · exact sent.sessions
  · rw [held]
    exact sent.sessions

theorem flushPendingResponse_sessions (s : State σ) : (flushPendingResponse s).2.sessions = s.sessions := by
  rcases flushPendingResponse_cases s with ⟨same, -⟩ | ⟨middle, sent, same, -⟩ | ⟨middle, sent, same⟩
  · rw [same]
  · rw [same]
    exact sent.sessions
  · rw [same]
    exact sent.sessions

theorem refreshConnectionSession_sessions (s : State σ) : (refreshConnectionSession h s).sessions = s.sessions := by
  obtain ⟨host, trace, same⟩ := refreshConnectionSession_worked h s
  rw [same]
  rfl

theorem expirePendingBinary_sessions (s : State σ) : (expirePendingBinary h s).sessions = s.sessions := by
  obtain ⟨host, trace, same⟩ := expirePendingBinary_worked h s
  rw [same]
  rfl

theorem pushTelemetryResponse_sessions (s : State σ) (senderPrefix blob : List UInt8) :
    (pushTelemetryResponse s senderPrefix blob).sessions = s.sessions := by
  unfold pushTelemetryResponse
  split
  · rfl
  · exact (sendPushFrame_transmits _ _).sessions

theorem acknowledgeInflight_sessions (s : State σ) : (acknowledgeInflight s).sessions = s.sessions := by
  rcases acknowledgeInflight_cases s with ⟨-, same⟩ | ⟨-, -, same⟩ | ⟨-, same⟩
  · rw [same]
  · rw [same]
    rfl
  · rw [same, State.marked_eq]

theorem deliverHead_sessions (s : State σ) (head : Frame) : (deliverHead s head).sessions = s.sessions := by
  unfold deliverHead
  have written := (writeFrameToCurrentTransport_transmits (s.logWrite 0 head.buf.length) head.buf).sessions
  generalize writeFrameToCurrentTransport (s.logWrite 0 head.buf.length) head.buf = outcome at written
  obtain ⟨ok, middle⟩ := outcome
  cases ok with
  | false => exact written
  | true =>
    dsimp only
    split <;> exact written

theorem refillOfflineQueueFromStore_shelters (s : State σ) (notify : Bool) :
    Shelters h s (refillOfflineQueueFromStore h s notify) := by
  obtain ⟨queue, sessions, -, extended, -, transmits⟩ := refillOfflineQueueFromStore_extends h s notify
  unfold Shelters
  rw [transmits.sessions]
  exact extended

theorem syncNextMessage_shelters (s : State σ) : Shelters h s (syncNextMessage h s) := by
  unfold syncNextMessage
  dsimp only
  split
  · exact .of_same (sendResponseFrame_sessions _ _)
  have acknowledged := acknowledgeInflight_sessions { s with lastSyncTime := h.currentTime s.host }
  generalize acknowledgeInflight { s with lastSyncTime := h.currentTime s.host } = middle at acknowledged
  have filled : Shelters h s
      (if middle.current.offline.isEmpty then refillOfflineQueueFromStore h middle false else middle) := by
    split
    · exact Shelters.trans (.of_same acknowledged) (refillOfflineQueueFromStore_shelters middle false)
    · exact .of_same acknowledged
  generalize (if middle.current.offline.isEmpty then refillOfflineQueueFromStore h middle false else middle) = final
    at filled
  split
  · exact filled.trans (.of_same (sendResponseFrame_sessions _ _))
  · exact filled.trans (.of_same (deliverHead_sessions _ _))

theorem runCommand_shelters (build : Build) (s : State σ) (frame : List UInt8) {command : CompanionCommand}
    (other : command ≠ .importPrivateKey) : Shelters h s (runCommand h build s frame command) := by
  unfold runCommand
  have retained := @sessionCommand_retained σ h build frame s.current command
    ⟨s.host, !s.current.pendingResponse.isEmpty, s.trace⟩
  generalize (sessionCommand h build frame s.current command).run
    ⟨s.host, !s.current.pendingResponse.isEmpty, s.trace⟩ = outcome at retained
  obtain ⟨outcome, work⟩ := outcome
  dsimp only at retained ⊢
  have kept : (followBefore (s.worked outcome.connection work.host work.trace) outcome.follow).sessions =
      s.sessions := by
    have unchanged := retained.2.2.2.2 other
    generalize outcome.follow = follow at unchanged
    cases follow with
    | identityChanged => exact absurd rfl unchanged
    | disableTransport =>
      unfold followBefore disableTransport
      dsimp only
      split <;> rfl
    | nothing => rfl
    | refill => rfl
    | telemetry senderPrefix blob => rfl
  have after (s : State σ) : Shelters h s (followAfter h s outcome.follow) := by
    cases outcome.follow with
    | refill => exact refillOfflineQueueFromStore_shelters s true
    | telemetry senderPrefix blob => exact .of_same (pushTelemetryResponse_sessions s senderPrefix blob)
    | nothing => exact .of_same rfl
    | identityChanged => exact .of_same rfl
    | disableTransport => exact .of_same rfl
  cases outcome.reply with
  | none => exact Shelters.trans (.of_same kept) (after _)
  | some reply => exact Shelters.trans (.of_same ((sendResponseFrame_sessions _ _).trans kept)) (after _)

theorem dispatchCommand_shelters (build : Build) (s : State σ) {frame : List UInt8}
    (other : commandOf (frame.headD 0) ≠ some .importPrivateKey) : Shelters h s (dispatchCommand h build s frame) := by
  have logged (after : State σ) (rest : Shelters h { s with
      trace := { s.trace with reads := s.trace.reads ++ [(0, 1)] } } after) : Shelters h s after := rest
  unfold dispatchCommand
  dsimp only
  split
  · exact .of_same (sendResponseFrame_sessions _ _)
  rename_i command known
  split
  · exact .of_same (sendResponseFrame_sessions _ _)
  split
  · exact logged _ (syncNextMessage_shelters _)
  · refine logged _ (runCommand_shelters build _ frame fun same => other ?_)
    rw [known, same]

theorem handleFrame_shelters (build : Build) (s : State σ) {frame : List UInt8}
    (other : commandOf (frame.headD 0) ≠ some .importPrivateKey) : Shelters h s (handleFrame h build s frame).2 := by
  unfold handleFrame
  split
  · exact .of_same rfl
  have refreshed := refreshConnectionSession_sessions (h := h)
    (s.note (.received s.request (currentGeneration s) frame))
  generalize refreshConnectionSession h (s.note (.received s.request (currentGeneration s) frame)) = middle at refreshed
  dsimp only
  split
  · exact .of_same refreshed
  · have expired := (expirePendingBinary_sessions (h := h) middle).trans refreshed
    exact Shelters.trans (.of_same expired) (dispatchCommand_shelters build _ other)

theorem sendContact_sessions (s : State σ) (index : Nat) : (sendContact h s index).sessions = s.sessions := by
  unfold sendContact
  split
  · exact sendResponseFrame_sessions _ _
  · exact sendResponseFrame_sessions _ _

theorem serviceCurrentSession_sessions (s : State σ) : (serviceCurrentSession h s).sessions = s.sessions := by
  unfold serviceCurrentSession
  have flushed := (flushPendingResponse_sessions (expirePendingBinary h s)).trans (expirePendingBinary_sessions s)
  generalize flushPendingResponse (expirePendingBinary h s) = outcome at flushed
  obtain ⟨done, middle⟩ := outcome
  cases done with
  | false => exact flushed
  | true =>
    cases waiting : middle.current.contactIter with
    | none => simpa only [waiting] using flushed
    | some index =>
      simp only [waiting]
      exact iteInduction (motive := fun after : State σ => after.sessions = s.sessions) (fun _ => flushed)
        (fun _ => (sendContact_sessions middle index).trans flushed)

theorem ensureTransportSession_others (peer : Peer) (generation : UInt32) {index : Nat} {session : TransportSession}
    (found : s.sessions[index]? = some session) (used : session.slot.isSome = true) (other : session.slot ≠ some peer) :
    (ensureTransportSession h s peer generation).2.sessions[index]? = some session ∧
      (ensureTransportSession h s peer generation).1 ≠ some index := by
  obtain ⟨inside, rfl⟩ := List.getElem?_eq_some_iff.mp found
  unfold ensureTransportSession
  split
  · rename_i i known
    obtain ⟨bound, same, -⟩ := List.findIdx?_eq_some_iff_getElem.mp known
    have elsewhere : i ≠ index := by
      rintro rfl
      exact other (of_decide_eq_true same)
    dsimp only
    split
    · refine ⟨?_, fun same => elsewhere (Option.some.inj same)⟩
      exact (List.getElem?_set_ne elsewhere).trans found
    · exact ⟨found, fun same => elsewhere (Option.some.inj same)⟩
  · split
    · rename_i i free
      obtain ⟨bound, unused, -⟩ := List.findIdx?_eq_some_iff_getElem.mp free
      have elsewhere : i ≠ index := by
        rintro rfl
        rw [Option.isNone_iff_eq_none] at unused
        rw [unused] at used
        cases used
      exact ⟨(List.getElem?_set_ne elsewhere).trans found, fun same => elsewhere (Option.some.inj same)⟩
    · exact ⟨found, nofun⟩

theorem Shelters.getElem? (shelters : Shelters h s after) {index : Nat} {session : TransportSession}
    (found : s.sessions[index]? = some session) :
    ∃ kept, after.sessions[index]? = some kept ∧ Extended h session kept := by
  obtain ⟨inside, rfl⟩ := List.getElem?_eq_some_iff.mp found
  obtain ⟨length, related⟩ := List.forall₂_iff_get.mp shelters
  have bound : index < after.sessions.length := length ▸ inside
  exact ⟨after.sessions[index], List.getElem?_eq_getElem bound, related index inside bound⟩

theorem handleTransportFrame_others (build : Build) (s : State σ) {frame : List UInt8}
    (command : commandOf (frame.headD 0) ≠ some .importPrivateKey) (peer : Peer) (generation : UInt32) {index : Nat}
    {session : TransportSession} (found : s.sessions[index]? = some session) (used : session.slot.isSome = true)
    (other : session.slot ≠ some peer) :
    ∃ kept, (handleTransportFrame h build s frame peer generation).sessions[index]? = some kept ∧
      Extended h session kept := by
  unfold handleTransportFrame
  split
  · exact ⟨session, found, .refl _⟩
  obtain ⟨present, elsewhere⟩ := ensureTransportSession_others (h := h) peer generation found used other
  generalize ensureTransportSession h s peer generation = outcome at present elsewhere
  obtain ⟨owner, middle⟩ := outcome
  cases owner with
  | none => exact ⟨session, present, .refl _⟩
  | some owner =>
    dsimp only at present elsewhere ⊢
    unfold withSession
    dsimp only
    obtain ⟨kept, place, extended⟩ := Shelters.getElem? (s := { middle with
      current := loadTransportSession middle.current (middle.sessions.getD owner .blank), request := some peer,
      active := some owner }) (handleFrame_shelters build _ command) present
    refine ⟨kept, ?_, extended⟩
    rw [List.getElem?_modify_ne _ _ fun same => elsewhere (congrArg some same)]
    exact place

theorem serviceSession_others (s : State σ) (owner : Nat) {peer : Peer}
    (serviced : (s.sessions.getD owner .blank).slot = some peer) {index : Nat} {session : TransportSession}
    (found : s.sessions[index]? = some session) (used : session.slot.isSome = true) (other : session.slot ≠ some peer) :
    (serviceSession h s owner).sessions[index]? = some session := by
  have elsewhere : owner ≠ index := by
    rintro rfl
    rw [List.getD_eq_getElem?_getD, found] at serviced
    exact other serviced
  unfold serviceSession
  rw [serviced]
  dsimp only
  split
  · obtain ⟨present, -⟩ :=
      ensureTransportSession_others (h := h) peer (transportsClientGeneration s peer) found used other
    unfold withSession
    dsimp only
    rw [List.getElem?_modify_ne _ _ elsewhere, serviceCurrentSession_sessions, refreshConnectionSession_sessions]
    exact present
  · exact found

end Shelters

section Alike

variable {σ : Type} (h : CompanionBridgeHost σ) {past past' : List Event} {s t : State σ}

def State.beside (s : State σ) (sessions : List TransportSession) (time : UInt32) (inbox : List (List UInt8))
    (history : List Event) : State σ :=
  { s with sessions := sessions, lastSyncTime := time, inbox := inbox, history := history }

/-- Two states that a request on one session cannot tell apart, and what was noted in them since two
    points of the past. -/
def Alike (past past' : List Event) (s t : State σ) : Prop :=
  ∃ sessions time inbox events, t = s.beside sessions time inbox (past' ++ events) ∧ s.history = past ++ events ∧
    ∀ index, s.active = some index → sessions[index]? = s.sessions[index]?

def AlikeResult (past past' : List Event) (x y : Bool × State σ) : Prop := y.1 = x.1 ∧ Alike past past' x.2 y.2

theorem AlikeResult.split {x y : Bool × State σ} (alike : AlikeResult past past' x y) :
    ∃ ok final other, x = (ok, final) ∧ y = (ok, other) ∧ Alike past past' final other :=
  ⟨x.1, x.2, y.2, rfl, Prod.ext alike.1 rfl, alike.2⟩

theorem Alike.seen (alike : Alike past past' s t) {α : Type} (view : State σ → α)
    (blind : ∀ sessions time inbox history, view (s.beside sessions time inbox history) = view s) :
    view t = view s := by
  obtain ⟨sessions, time, inbox, events, rfl, -⟩ := alike
  exact blind ..

theorem Alike.map (alike : Alike past past' s t) (f : State σ → State σ)
    (commutes : ∀ sessions time inbox history,
      f (s.beside sessions time inbox history) = (f s).beside sessions time inbox history)
    (history : (f s).history = s.history) (active : (f s).active = s.active) (sessions : (f s).sessions = s.sessions) :
    Alike past past' (f s) (f t) := by
  obtain ⟨others, time, inbox, events, rfl, since, own⟩ := alike
  refine ⟨others, time, inbox, events, commutes .., history.trans since, ?_⟩
  rw [active, sessions]
  exact own

theorem Alike.update (alike : Alike past past' s t) (f : Connection → Connection) :
    Alike past past' (s.update f) (t.update f) := alike.map (·.update f) (fun _ _ _ _ => rfl) rfl rfl rfl

theorem Alike.note (alike : Alike past past' s t) (event : Event) : Alike past past' (s.note event) (t.note event) := by
  obtain ⟨sessions, time, inbox, events, rfl, since, own⟩ := alike
  refine ⟨sessions, time, inbox, events ++ [event], ?_, ?_, own⟩
  · simp [State.note, State.beside]
  · simp [State.note, since]

theorem attemptWrite_alike (alike : Alike past past' s t) (peer : Option Peer) (generation : UInt32)
    (frame : List UInt8) :
    AlikeResult past past' (attemptWrite s peer generation frame) (attemptWrite t peer generation frame) := by
  have taken : Alike past past' { s with links := { s.links with accepts := s.links.accepts.tail } }
      { t with links := { t.links with accepts := t.links.accepts.tail } } :=
    alike.map (fun s => { s with links := { s.links with accepts := s.links.accepts.tail } })
      (fun _ _ _ _ => rfl) rfl rfl rfl
  unfold attemptWrite
  dsimp only
  rw [alike.seen (·.links.accepts.headD true) (fun _ _ _ _ => rfl)]
  split
  · exact ⟨rfl, taken.note _⟩
  · exact ⟨rfl, taken⟩

theorem transportsSendToResult_alike (alike : Alike past past' s t) (peer : Peer) (frame : List UInt8) :
    AlikeResult past past' (transportsSendToResult s peer frame) (transportsSendToResult t peer frame) := by
  unfold transportsSendToResult
  rw [alike.seen (transportsClientConnected · peer) (fun _ _ _ _ => rfl),
    alike.seen (transportsClientGeneration · peer) (fun _ _ _ _ => rfl)]
  split
  · exact attemptWrite_alike alike _ _ _
  · exact ⟨rfl, alike⟩

theorem writeFrameToCurrentTransport_alike (alike : Alike past past' s t) (frame : List UInt8) :
    AlikeResult past past' (writeFrameToCurrentTransport s frame) (writeFrameToCurrentTransport t frame) := by
  unfold writeFrameToCurrentTransport
  rw [alike.seen (·.request) (fun _ _ _ _ => rfl), alike.seen (·.links) (fun _ _ _ _ => rfl)]
  split
  · exact transportsSendToResult_alike alike _ _
  · split
    · exact attemptWrite_alike alike _ _ _
    · exact ⟨rfl, alike⟩

theorem writeToAllClients_alike (frame : List UInt8) (peers : List Peer) (alike : Alike past past' s t) :
    (writeToAllClients frame peers t).1 = (writeToAllClients frame peers s).1 ∧
      Alike past past' (writeToAllClients frame peers s).2 (writeToAllClients frame peers t).2 := by
  induction peers generalizing s t with
  | nil => exact ⟨rfl, alike⟩
  | cons peer rest ih =>
    unfold writeToAllClients
    rw [alike.seen (transportsClientConnected · peer) (fun _ _ _ _ => rfl)]
    split
    · obtain ⟨sent, after⟩ := transportsSendToResult_alike alike peer frame
      obtain ⟨flags, final⟩ := ih after
      exact ⟨congrArg₂ (fun (sent : Bool) (flags : Bool × Bool) => (true, sent && flags.2)) sent flags, final⟩
    · exact ih alike

theorem transportsBroadcastResult_alike (alike : Alike past past' s t) (id : TransportId) (frame : List UInt8) :
    AlikeResult past past' (transportsBroadcastResult s id frame) (transportsBroadcastResult t id frame) := by
  obtain ⟨flags, after⟩ :=
    writeToAllClients_alike frame (allPeers.filter (fun peer => decide (peer.id = id))) alike
  exact ⟨congrArg (fun flags : Bool × Bool => flags.1 && flags.2) flags, after⟩

theorem sendPushFrame_alike (alike : Alike past past' s t) (frame : List UInt8) :
    AlikeResult past past' (sendPushFrame s frame) (sendPushFrame t frame) := by
  unfold sendPushFrame
  rw [alike.seen (·.attached) (fun _ _ _ _ => rfl)]
  split
  · split
    · obtain ⟨ble, first⟩ := transportsBroadcastResult_alike alike .ble frame
      obtain ⟨tcp, second⟩ := transportsBroadcastResult_alike first .tcp frame
      obtain ⟨ws, third⟩ := transportsBroadcastResult_alike second .ws frame
      refine ⟨?_, third⟩
      dsimp only
      rw [ble, tcp, ws]
    · exact writeFrameToCurrentTransport_alike alike frame
  · exact ⟨rfl, alike⟩

theorem notifyWaiting_alike (alike : Alike past past' s t) :
    Alike past past' (notifyWaiting s) (notifyWaiting t) := by
  unfold notifyWaiting
  rw [alike.seen isConnected (fun _ _ _ _ => rfl)]
  split
  · exact (sendPushFrame_alike alike _).2
  · exact alike

theorem sendResponseFrame_alike (alike : Alike past past' s t) (frame : List UInt8) :
    Alike past past' (sendResponseFrame s frame) (sendResponseFrame t frame) := by
  have logged : Alike past past' (s.logResponse frame) (t.logResponse frame) :=
    alike.map (·.logResponse frame) (fun _ _ _ _ => rfl) rfl rfl rfl
  unfold sendResponseFrame
  dsimp only
  rw [logged.seen (·.current.pendingResponse) (fun _ _ _ _ => rfl)]
  split
  · obtain ⟨ok, final, other, here, there, after⟩ := (writeFrameToCurrentTransport_alike logged frame).split
    rw [here, there]
    cases ok with
    | true => exact after
    | false => exact after.update _
  · exact logged

theorem flushPendingResponse_alike (alike : Alike past past' s t) :
    AlikeResult past past' (flushPendingResponse s) (flushPendingResponse t) := by
  unfold flushPendingResponse
  rw [alike.seen (·.current.pendingResponse) (fun _ _ _ _ => rfl),
    alike.seen currentTransportConnected (fun _ _ _ _ => rfl)]
  split
  · exact ⟨rfl, alike⟩
  split
  · exact ⟨rfl, alike⟩
  · obtain ⟨ok, final, other, here, there, after⟩ :=
      (writeFrameToCurrentTransport_alike alike s.current.pendingResponse).split
    rw [here, there]
    cases ok with
    | true =>
      refine ⟨rfl, ?_⟩
      dsimp only
      exact after.update _
    | false => exact ⟨rfl, after⟩

theorem pushTelemetryResponse_alike (alike : Alike past past' s t) (senderPrefix blob : List UInt8) :
    Alike past past' (pushTelemetryResponse s senderPrefix blob) (pushTelemetryResponse t senderPrefix blob) := by
  unfold pushTelemetryResponse
  rw [alike.seen isConnected (fun _ _ _ _ => rfl)]
  split
  · exact alike
  · refine (sendPushFrame_alike ?_ _).2
    exact alike.map (·.logWrite 0 _) (fun _ _ _ _ => rfl) rfl rfl rfl

theorem cancelBinaryReqs_alike (alike : Alike past past' s t) :
    Alike past past' (cancelBinaryReqs h s) (cancelBinaryReqs h t) :=
  alike.map (cancelBinaryReqs h) (fun _ _ _ _ => rfl) rfl rfl rfl

theorem refreshConnectionSession_alike (alike : Alike past past' s t) :
    Alike past past' (refreshConnectionSession h s) (refreshConnectionSession h t) := by
  unfold refreshConnectionSession
  dsimp only
  rw [alike.seen (·.current) (fun _ _ _ _ => rfl), alike.seen currentTransportConnected (fun _ _ _ _ => rfl),
    alike.seen currentGeneration (fun _ _ _ _ => rfl)]
  split
  · exact (cancelBinaryReqs_alike h (alike.update _)).update _
  · exact alike.update _

theorem cancelEach_alike (requests : List PendingBinaryRequest) (alike : Alike past past' s t) :
    Alike past past' (requests.foldl (fun s request => cancelBinaryReq h s request.tag) s)
      (requests.foldl (fun s request => cancelBinaryReq h s request.tag) t) := by
  induction requests generalizing s t with
  | nil => exact alike
  | cons request rest ih =>
    exact ih (alike.map (cancelBinaryReq h · request.tag) (fun _ _ _ _ => rfl) rfl rfl rfl)

theorem expirePendingBinary_alike (alike : Alike past past' s t) :
    Alike past past' (expirePendingBinary h s) (expirePendingBinary h t) := by
  unfold expirePendingBinary
  dsimp only
  rw [alike.seen (·.host) (fun _ _ _ _ => rfl), alike.seen (·.current) (fun _ _ _ _ => rfl)]
  exact cancelEach_alike h _ (alike.update _)

theorem disableTransport_alike (alike : Alike past past' s t) :
    Alike past past' (disableTransport s) (disableTransport t) := by
  refine alike.map disableTransport (fun sessions time inbox history => ?_) ?_ ?_ ?_
  all_goals
    unfold disableTransport
    dsimp only [State.beside]
    split <;> rfl

theorem onIdentityChanged_alike (alike : Alike past past' s t) :
    Alike past past' (onIdentityChanged s) (onIdentityChanged t) := by
  obtain ⟨sessions, time, inbox, events, rfl, since, own⟩ := alike
  refine ⟨_, time, inbox, events, rfl, since, fun index active => ?_⟩
  dsimp only [onIdentityChanged]
  rw [List.getElem?_map, List.getElem?_map]
  dsimp only [State.update, State.beside]
  rw [own index active]
  rfl

theorem Alike.acknowledges (alike : Alike past past' s t) : Acknowledges t ↔ Acknowledges s := by
  obtain ⟨sessions, time, inbox, events, rfl, -⟩ := alike
  exact ⟨fun a => ⟨a.claimed, a.connected, a.generation, a.head⟩,
    fun a => ⟨a.claimed, a.connected, a.generation, a.head⟩⟩

theorem acknowledgeInflight_alike (alike : Alike past past' s t) :
    Alike past past' (acknowledgeInflight s) (acknowledgeInflight t) := by
  by_cases acknowledges : Acknowledges s
  · rw [acknowledges.eq, (alike.acknowledges.mpr acknowledges).eq]
    obtain ⟨sessions, time, inbox, events, rfl, since, own⟩ := alike
    rw [State.marked_eq, State.marked_eq]
    refine ⟨sessions, time, inbox, events ++ [.marked s.request (currentGeneration s) s.current.inflightStoreId],
      ?_, ?_, own⟩
    · dsimp only [State.beside]
      rw [List.append_assoc]
      rfl
    · dsimp only
      rw [since, List.append_assoc]
  · rw [acknowledgeInflight_of_not acknowledges, acknowledgeInflight_of_not (mt alike.acknowledges.mp acknowledges),
      alike.seen (·.current) (fun _ _ _ _ => rfl)]
    split
    · exact alike
    · exact alike.update _

theorem deliverHead_alike (alike : Alike past past' s t) (head : Frame) :
    Alike past past' (deliverHead s head) (deliverHead t head) := by
  have logged : Alike past past' (s.logWrite 0 head.buf.length) (t.logWrite 0 head.buf.length) :=
    alike.map (·.logWrite 0 head.buf.length) (fun _ _ _ _ => rfl) rfl rfl rfl
  obtain ⟨ok, final, other, here, there, after⟩ := (writeFrameToCurrentTransport_alike logged head.buf).split
  unfold deliverHead
  rw [here, there]
  cases ok with
  | false => exact after
  | true =>
    dsimp only
    have request := after.seen (·.request) (fun _ _ _ _ => rfl)
    rw [request, after.seen currentGeneration (fun _ _ _ _ => rfl)]
    split
    · exact (after.note _).update _
    · exact (after.note _).update _

theorem addToOfflineQueueBuffer_nil {storeId : UInt32} {frame : List UInt8} (identified : storeId ≠ 0)
    (bounded : 0 < frame.length ∧ frame.length ≤ maxFrameSize) :
    (addToOfflineQueueBuffer [] storeId true frame).isSome = true := by
  simp [addToOfflineQueueBuffer, bounded, identified, offlineFrameExistsIn, appendFrame, offlineQueueSize]

theorem offerMessage_empty {host : σ} (other : σ) {msg : StoredMessage} {c d : Connection} {queue : List Frame}
    (accepted : offerMessage h host true msg c = some queue) (empty : d.offline = []) :
    (offerMessage h other true msg d).isSome = true := by
  obtain ⟨-, -, -, identified, -⟩ := addToOfflineQueueBuffer_some accepted
  unfold offerMessage
  rw [empty]
  exact addToOfflineQueueBuffer_nil (identified rfl) (length_buildMessageFrame ..)

theorem offerSessions_added {skip : Option Nat} {offer : Connection → Option (List Frame)}
    (added : (offerSessions s skip offer).1 = true) : ∃ c queue, offer c = some queue := by
  dsimp only [offerSessions] at added
  obtain ⟨⟨session, index⟩, -, took⟩ := List.any_eq_true.mp added
  dsimp only at took
  split at took
  · cases took
  · obtain ⟨queue, accepted⟩ := Option.isSome_iff_exists.mp took
    exact ⟨session.toConnection, queue, accepted⟩

theorem offerCurrent_added (s : State σ) (msg : StoredMessage) :
    ((offerCurrent h s true msg).1 || !s.current.offline.isEmpty) =
      !(offerCurrent h s true msg).2.current.offline.isEmpty := by
  unfold offerCurrent
  cases offered : offerMessage h s.host true msg s.current with
  | none => rfl
  | some queue =>
    obtain ⟨bounded, appended, -⟩ := addToOfflineQueueBuffer_some offered
    obtain ⟨rfl, -⟩ := appendFrame_durable rfl appended
    simp [State.update]

theorem offerSessions_follow (s t : State σ) {skip : Option Nat} {host : σ} {msg : StoredMessage}
    (added : (offerSessions t skip (offerMessage h host true msg)).1 = true) :
    ((offerCurrent h s true msg).1 || !s.current.offline.isEmpty) = true := by
  obtain ⟨c, queue, accepted⟩ := offerSessions_added added
  cases empty : s.current.offline with
  | cons head rest => simp
  | nil =>
    obtain ⟨taken, offered⟩ :=
      Option.isSome_iff_exists.mp (offerMessage_empty h s.host accepted empty)
    unfold offerCurrent
    rw [offered]
    rfl

theorem refillRecord_added (s : State σ) (msg : StoredMessage) :
    ((refillRecord h s msg).1 || !s.current.offline.isEmpty) = !(refillRecord h s msg).2.current.offline.isEmpty := by
  unfold refillRecord
  split
  · simp
  have own := offerCurrent_added h s msg
  have follow (t : State σ) (skip : Option Nat) (host : σ) := @offerSessions_follow σ h s t skip host msg
  generalize offerCurrent h s true msg = outcome at own follow
  obtain ⟨added, middle⟩ := outcome
  dsimp only at own follow ⊢
  split
  · have others := follow middle middle.active middle.host
    have kept : (offerSessions middle middle.active (offerMessage h middle.host true msg)).2.current =
      middle.current := rfl
    dsimp only
    rw [kept, ← own]
    cases taken : (offerSessions middle middle.active (offerMessage h middle.host true msg)).1 with
    | false => rw [Bool.or_false]
    | true => rw [others taken, Bool.or_true, Bool.true_or]
  · exact own

theorem refillRecords_added (s : State σ) (messages : List StoredMessage) :
    ((refillRecords h s messages).1 || !s.current.offline.isEmpty) =
      !(refillRecords h s messages).2.current.offline.isEmpty := by
  induction messages generalizing s with
  | nil => rfl
  | cons msg rest ih =>
    have first := refillRecord_added h s msg
    have later := ih (refillRecord h s msg).2
    rw [← first] at later
    unfold refillRecords
    dsimp only
    rw [← later]
    generalize (refillRecord h s msg).1 = a
    generalize (refillRecords h (refillRecord h s msg).2 rest).1 = b
    cases a <;> cases b <;> simp

theorem offerCurrent_alike (alike : Alike past past' s t) (msg : StoredMessage) :
    AlikeResult past past' (offerCurrent h s true msg) (offerCurrent h t true msg) := by
  unfold offerCurrent
  rw [alike.seen (fun s => offerMessage h s.host true msg s.current) (fun _ _ _ _ => rfl)]
  split
  · refine ⟨rfl, ?_⟩
    dsimp only
    exact alike.update _
  · exact ⟨rfl, alike⟩

theorem offerSessions_alike (alike : Alike past past' s t) (offer : Connection → Option (List Frame)) :
    Alike past past' (offerSessions s s.active offer).2 (offerSessions t t.active offer).2 := by
  obtain ⟨sessions, time, inbox, events, rfl, since, own⟩ := alike
  refine ⟨_, time, inbox, events, rfl, since, fun index active => ?_⟩
  have here := offerSessions_skipped s offer active
  have there := offerSessions_skipped (s.beside sessions time inbox (past' ++ events)) offer active
  exact (there.trans (own index active)).trans here.symm

theorem refillRecord_alike (alike : Alike past past' s t) (msg : StoredMessage) :
    Alike past past' (refillRecord h s msg).2 (refillRecord h t msg).2 := by
  unfold refillRecord
  split
  · exact alike
  obtain ⟨added, final, other, here, there, after⟩ := (offerCurrent_alike h alike msg).split
  rw [here, there]
  dsimp only
  rw [after.seen (fun s => s.request.isSome && s.attached) (fun _ _ _ _ => rfl)]
  split
  · dsimp only
    rw [after.seen (·.host) (fun _ _ _ _ => rfl)]
    exact offerSessions_alike after _
  · exact after

theorem refillRecords_alike (messages : List StoredMessage) (alike : Alike past past' s t) :
    Alike past past' (refillRecords h s messages).2 (refillRecords h t messages).2 := by
  induction messages generalizing s t with
  | nil => exact alike
  | cons msg rest ih => exact ih (refillRecord_alike h alike msg)

theorem refillOfflineQueueFromStore_alike (alike : Alike past past' s t) (notify : Bool) :
    Alike past past' (refillOfflineQueueFromStore h s notify) (refillOfflineQueueFromStore h t notify) := by
  unfold refillOfflineQueueFromStore
  rw [alike.seen (·.store) (fun _ _ _ _ => rfl)]
  have queue := alike.seen (·.current.offline) (fun _ _ _ _ => rfl)
  rw [queue]
  split
  · exact alike
  rename_i empty
  have filled := refillRecords_alike h (messageStoreLoadUnsent s.store offlineQueueSize) alike
  have here := refillRecords_added h s (messageStoreLoadUnsent s.store offlineQueueSize)
  have there := refillRecords_added h t (messageStoreLoadUnsent s.store offlineQueueSize)
  have idle : (!s.current.offline.isEmpty) = false := by simpa using empty
  rw [filled.seen (·.current.offline) (fun _ _ _ _ => rfl), queue, idle, Bool.or_false] at there
  rw [idle, Bool.or_false, ← there] at here
  generalize refillRecords h s (messageStoreLoadUnsent s.store offlineQueueSize) = x at filled here
  generalize refillRecords h t (messageStoreLoadUnsent s.store offlineQueueSize) = y at filled here
  obtain ⟨added, final⟩ := x
  obtain ⟨also, other⟩ := y
  dsimp only at filled here ⊢
  subst here
  split
  · exact notifyWaiting_alike filled
  · exact filled

theorem syncNextMessage_alike (alike : Alike past past' s t) :
    Alike past past' (syncNextMessage h s) (syncNextMessage h t) := by
  have timed : Alike past past' { s with lastSyncTime := h.currentTime s.host }
      { t with lastSyncTime := h.currentTime t.host } := by
    obtain ⟨sessions, time, inbox, events, rfl, since, own⟩ := alike
    exact ⟨sessions, h.currentTime s.host, inbox, events, rfl, since, own⟩
  unfold syncNextMessage
  dsimp only
  rw [alike.seen (·.current.versionNegotiated) (fun _ _ _ _ => rfl)]
  split
  · exact sendResponseFrame_alike timed _
  have acknowledged := acknowledgeInflight_alike timed
  generalize acknowledgeInflight { s with lastSyncTime := h.currentTime s.host } = x at acknowledged
  generalize acknowledgeInflight { t with lastSyncTime := h.currentTime t.host } = y at acknowledged
  obtain ⟨final, other, here, there, filled⟩ : ∃ final other,
      (if x.current.offline.isEmpty then refillOfflineQueueFromStore h x false else x) = final ∧
      (if y.current.offline.isEmpty then refillOfflineQueueFromStore h y false else y) = other ∧
      Alike past past' final other := by
    rw [acknowledged.seen (·.current.offline) (fun _ _ _ _ => rfl)]
    split
    · exact ⟨_, _, rfl, rfl, refillOfflineQueueFromStore_alike h acknowledged false⟩
    · exact ⟨_, _, rfl, rfl, acknowledged⟩
  rw [here, there, filled.seen (·.current.offline) (fun _ _ _ _ => rfl)]
  split
  · exact sendResponseFrame_alike filled _
  · exact deliverHead_alike filled _

theorem followBefore_alike (alike : Alike past past' s t) (follow : Follow) :
    Alike past past' (followBefore s follow) (followBefore t follow) := by
  cases follow with
  | identityChanged => exact onIdentityChanged_alike alike
  | disableTransport => exact disableTransport_alike alike
  | nothing => exact alike
  | refill => exact alike
  | telemetry senderPrefix blob => exact alike

theorem followAfter_alike (alike : Alike past past' s t) (follow : Follow) :
    Alike past past' (followAfter h s follow) (followAfter h t follow) := by
  cases follow with
  | refill => exact refillOfflineQueueFromStore_alike h alike true
  | telemetry senderPrefix blob => exact pushTelemetryResponse_alike alike senderPrefix blob
  | nothing => exact alike
  | identityChanged => exact alike
  | disableTransport => exact alike

theorem runCommand_alike (build : Build) (alike : Alike past past' s t) (frame : List UInt8)
    (command : CompanionCommand) :
    Alike past past' (runCommand h build s frame command) (runCommand h build t frame command) := by
  unfold runCommand
  rw [alike.seen (fun s => (sessionCommand h build frame s.current command).run
    ⟨s.host, !s.current.pendingResponse.isEmpty, s.trace⟩) (fun _ _ _ _ => rfl)]
  generalize (sessionCommand h build frame s.current command).run
    ⟨s.host, !s.current.pendingResponse.isEmpty, s.trace⟩ = outcome
  obtain ⟨outcome, work⟩ := outcome
  dsimp only
  have worked : Alike past past' (s.worked outcome.connection work.host work.trace)
      (t.worked outcome.connection work.host work.trace) :=
    alike.map (·.worked outcome.connection work.host work.trace) (fun _ _ _ _ => rfl) rfl rfl rfl
  have followed := followBefore_alike worked outcome.follow
  cases outcome.reply with
  | none => exact followAfter_alike h followed _
  | some reply => exact followAfter_alike h (sendResponseFrame_alike followed reply) _

theorem handleFrame_alike (build : Build) (alike : Alike past past' s t) (frame : List UInt8) :
    Alike past past' (handleFrame h build s frame).2 (handleFrame h build t frame).2 := by
  unfold handleFrame
  split
  · exact alike
  have noted := alike.note (.received s.request (currentGeneration s) frame)
  have refreshed := refreshConnectionSession_alike h noted
  dsimp only
  rw [alike.seen (·.request) (fun _ _ _ _ => rfl), alike.seen currentGeneration (fun _ _ _ _ => rfl),
    refreshed.seen (·.current.pendingResponse) (fun _ _ _ _ => rfl)]
  split
  · exact refreshed
  have expired := expirePendingBinary_alike h refreshed
  dsimp only
  generalize expirePendingBinary h (refreshConnectionSession h
    (s.note (.received s.request (currentGeneration s) frame))) = x at expired
  generalize expirePendingBinary h (refreshConnectionSession h
    (t.note (.received s.request (currentGeneration s) frame))) = y at expired
  unfold dispatchCommand
  have logged : Alike past past' { x with trace := { x.trace with reads := x.trace.reads ++ [(0, 1)] } }
      { y with trace := { y.trace with reads := y.trace.reads ++ [(0, 1)] } } :=
    expired.map (fun s => { s with trace := { s.trace with reads := s.trace.reads ++ [(0, 1)] } })
      (fun _ _ _ _ => rfl) rfl rfl rfl
  dsimp only
  split
  · exact sendResponseFrame_alike logged _
  split
  · exact sendResponseFrame_alike logged _
  split
  · exact syncNextMessage_alike h logged
  · exact runCommand_alike h build logged frame _

theorem sendContact_alike (alike : Alike past past' s t) (index : Nat) :
    Alike past past' (sendContact h s index) (sendContact h t index) := by
  have logged {x y : State σ} (alike : Alike past past' x y) (length : Nat) :
      Alike past past' (x.logWrite 0 length) (y.logWrite 0 length) :=
    alike.map (·.logWrite 0 length) (fun _ _ _ _ => rfl) rfl rfl rfl
  unfold sendContact
  rw [alike.seen (·.host) (fun _ _ _ _ => rfl), alike.seen (·.current) (fun _ _ _ _ => rfl)]
  split
  · exact sendResponseFrame_alike (logged (alike.update _) _) _
  · exact (sendResponseFrame_alike (logged alike _) _).update _

theorem serviceCurrentSession_alike (alike : Alike past past' s t) :
    Alike past past' (serviceCurrentSession h s) (serviceCurrentSession h t) := by
  unfold serviceCurrentSession
  obtain ⟨done, final, other, here, there, after⟩ :=
    (flushPendingResponse_alike (expirePendingBinary_alike h alike)).split
  rw [here, there]
  cases done with
  | false => exact after
  | true =>
    have iterator := after.seen (·.current.contactIter) (fun _ _ _ _ => rfl)
    have links := after.seen (·.links) (fun _ _ _ _ => rfl)
    have request := after.seen (·.request) (fun _ _ _ _ => rfl)
    simp only [iterator, links, request]
    cases final.current.contactIter with
    | none => exact after
    | some index =>
      have either (busy : Bool) : Alike past past' (if busy = true then final else sendContact h final index)
          (if busy = true then other else sendContact h other index) := by
        cases busy with
        | true => exact after
        | false => exact sendContact_alike h after index
      exact either _

end Alike

section Session

variable {σ : Type} (h : CompanionBridgeHost σ)

def State.sessionOf (s : State σ) (peer : Peer) : Option TransportSession :=
  s.sessions.find? fun session => decide (session.slot = some peer)

/-- What a request of the slot finds is the same in both states: device, store, links, which slots
    have sessions, and its own session. Everything else may differ, whichever session was last at work. -/
structure SameFor (peer : Peer) (s t : State σ) : Prop where
  attached : t.attached = s.attached
  host : t.host = s.host
  store : t.store = s.store
  links : t.links = s.links
  trace : t.trace = s.trace
  slots : t.sessions.map (·.slot) = s.sessions.map (·.slot)
  own : t.sessionOf peer = s.sessionOf peer

/-- What a request of the slot leads to: the device, the store, the links, its own session, the
    accesses it made and everything noted since. -/
structure SameOutcome (peer : Peer) (s t after after' : State σ) : Prop where
  host : after'.host = after.host
  store : after'.store = after.store
  links : after'.links = after.links
  trace : after'.trace = after.trace
  own : after'.sessionOf peer = after.sessionOf peer
  events : ∃ events, after.history = s.history ++ events ∧ after'.history = t.history ++ events

variable {h} {s t : State σ} {peer : Peer}

def State.indexOf (s : State σ) (peer : Peer) : Option Nat :=
  s.sessions.findIdx? fun session => decide (session.slot = some peer)

theorem sessionOf_eq (s : State σ) (peer : Peer) : s.sessionOf peer = (s.indexOf peer).bind (s.sessions[·]?) :=
  List.find?_eq_bind_findIdx?_getElem?

theorem indexOf_congr (slots : t.sessions.map (·.slot) = s.sessions.map (·.slot)) :
    t.indexOf peer = s.indexOf peer := by
  have search (sessions : List TransportSession) :
      sessions.findIdx? (fun session => decide (session.slot = some peer)) =
        (sessions.map (·.slot)).findIdx? (fun slot => decide (slot = some peer)) := by
    rw [List.findIdx?_map]
    rfl
  unfold State.indexOf
  rw [search, search, slots]

theorem freeIndex_congr (slots : t.sessions.map (·.slot) = s.sessions.map (·.slot)) :
    t.sessions.findIdx? (fun session => session.slot.isNone) =
      s.sessions.findIdx? (fun session => session.slot.isNone) := by
  have search (sessions : List TransportSession) :
      sessions.findIdx? (fun session => session.slot.isNone) = (sessions.map (·.slot)).findIdx? Option.isNone := by
    rw [List.findIdx?_map]
    rfl
  rw [search, search, slots]

theorem SameFor.stored (same : SameFor peer s t) {index : Nat} (found : s.indexOf peer = some index) :
    t.sessions[index]? = s.sessions[index]? := by
  have own := same.own
  rw [sessionOf_eq, sessionOf_eq, indexOf_congr same.slots, found] at own
  exact own

def State.withSessions (s : State σ) (sessions : List TransportSession) : State σ := { s with sessions := sessions }

theorem indexOf_set {index : Nat} (inside : index < s.sessions.length)
    (earlier : ∀ (i : Nat) (bound : i < index), s.sessions[i].slot ≠ some peer) {session : TransportSession}
    (slot : session.slot = some peer) : (s.withSessions (s.sessions.set index session)).indexOf peer = some index := by
  refine List.findIdx?_eq_some_iff_getElem.mpr ⟨by simpa [State.withSessions] using inside, ?_, fun i bound => ?_⟩
  · simp [State.withSessions, slot]
  · have apart : index ≠ i := by omega
    simp [State.withSessions, apart, earlier i bound]

theorem SameFor.set (same : SameFor peer s t) {index : Nat} (inside : index < s.sessions.length)
    (earlier : ∀ (i : Nat) (bound : i < index), s.sessions[i].slot ≠ some peer) (session : TransportSession)
    (slot : session.slot = some peer) :
    SameFor peer (s.withSessions (s.sessions.set index session)) (t.withSessions (t.sessions.set index session)) := by
  have slots : (t.sessions.set index session).map (·.slot) = (s.sessions.set index session).map (·.slot) := by
    rw [List.map_set, List.map_set, same.slots]
  have length : index < t.sessions.length := by
    have := congrArg List.length same.slots
    simp only [List.length_map] at this
    omega
  refine ⟨same.attached, same.host, same.store, same.links, same.trace, slots, ?_⟩
  rw [sessionOf_eq, sessionOf_eq, indexOf_congr (s := s.withSessions (s.sessions.set index session)) slots,
    indexOf_set inside earlier slot]
  dsimp only [State.withSessions, Option.bind_some]
  rw [List.getElem?_set_self inside, List.getElem?_set_self length]

theorem ensureTransportSession_same (same : SameFor peer s t) (generation : UInt32) :
    (ensureTransportSession h t peer generation).1 = (ensureTransportSession h s peer generation).1 ∧
      SameFor peer (ensureTransportSession h s peer generation).2 (ensureTransportSession h t peer generation).2 ∧
      (ensureTransportSession h s peer generation).2.history = s.history ∧
      (ensureTransportSession h t peer generation).2.history = t.history ∧
      ∀ index, (ensureTransportSession h s peer generation).1 = some index →
        (ensureTransportSession h s peer generation).2.indexOf peer = some index := by
  have index : t.indexOf peer = s.indexOf peer := indexOf_congr same.slots
  unfold ensureTransportSession
  unfold State.indexOf at index
  rw [index, freeIndex_congr same.slots]
  split
  · rename_i i found
    obtain ⟨inside, -, earlier⟩ := List.findIdx?_eq_some_iff_getElem.mp found
    have before (j : Nat) (bound : j < i) : s.sessions[j].slot ≠ some peer := by simpa using earlier j bound
    dsimp only
    rw [List.getD_eq_getElem?_getD, List.getD_eq_getElem?_getD, same.stored found]
    split
    · have set := same.set inside before (freshSession peer generation true) rfl
      refine ⟨rfl, ⟨set.attached, congrArg h.cancelBinaryReqs same.host, set.store, set.links, set.trace, set.slots,
        set.own⟩, rfl, rfl, fun j here => ?_⟩
      rw [← Option.some.inj here]
      exact indexOf_set inside before rfl
    · exact ⟨rfl, same, rfl, rfl, fun j here => found.trans here⟩
  · rename_i missing
    split
    · rename_i i free
      obtain ⟨inside, -⟩ := List.findIdx?_eq_some_iff_getElem.mp free
      have before (j : Nat) (bound : j < i) : s.sessions[j].slot ≠ some peer := by
        simpa using List.findIdx?_eq_none_iff.mp missing s.sessions[j] (List.getElem_mem _)
      refine ⟨rfl, same.set inside before _ rfl, rfl, rfl, fun j here => ?_⟩
      rw [← Option.some.inj here]
      exact indexOf_set inside before rfl
    · exact ⟨rfl, same, rfl, rfl, nofun⟩

theorem SameFor.opened (same : SameFor peer s t) {index : Nat} (found : s.indexOf peer = some index) :
    ∃ session, s.sessions[index]? = some session ∧ t.sessions[index]? = some session ∧
      Alike s.history t.history (s.opened index peer session) (t.opened index peer session) := by
  obtain ⟨inside, -⟩ := List.findIdx?_eq_some_iff_getElem.mp found
  have here : s.sessions[index]? = some s.sessions[index] := List.getElem?_eq_getElem inside
  have there := (same.stored found).trans here
  refine ⟨s.sessions[index], here, there, t.sessions, t.lastSyncTime, t.inbox, [], ?_, by simp [State.opened], ?_⟩
  · obtain ⟨attached, host, store, links, trace, -, -⟩ := same
    cases s
    cases t
    simp_all [State.opened, State.beside]
  · intro i active
    cases active
    exact there.trans here.symm

theorem slots_of_shelters {after : State σ} (shelters : Shelters h s after) :
    after.sessions.map (·.slot) = s.sessions.map (·.slot) := by
  unfold Shelters at shelters
  generalize s.sessions = old at shelters
  generalize after.sessions = new at shelters
  induction shelters with
  | nil => rfl
  | cons head _ ih =>
    obtain ⟨queue, -, rfl⟩ := head
    rw [List.map_cons, List.map_cons, ih]
    rfl

theorem withSession_same (same : SameFor peer s t) {index : Nat} (found : s.indexOf peer = some index)
    (work : State σ → State σ)
    (alike : ∀ x y, Alike s.history t.history x y → Alike s.history t.history (work x) (work y))
    (shelters : ∀ x, Shelters h x (work x)) (active : ∀ x, (work x).active = x.active) :
    SameOutcome peer s t (withSession s index peer work) (withSession t index peer work) := by
  obtain ⟨session, here, there, opened⟩ := same.opened found
  obtain ⟨sessions, time, inbox, events, equal, since, own⟩ := alike _ _ opened
  have kept : (work (s.opened index peer session)).sessions.map (·.slot) = s.sessions.map (·.slot) :=
    slots_of_shelters (shelters (s.opened index peer session))
  have also : (work (t.opened index peer session)).sessions.map (·.slot) = t.sessions.map (·.slot) :=
    slots_of_shelters (shelters (t.opened index peer session))
  have stored := own index (active _)
  rw [withSession_eq s here, withSession_eq t there]
  rw [equal] at also ⊢
  generalize work (s.opened index peer session) = x at kept since stored
  refine ⟨rfl, rfl, rfl, rfl, ?_, events, since, rfl⟩
  have saved (list : List TransportSession) (c : Connection) :
      (list.modify index (saveTransportSession c)).map (·.slot) = list.map (·.slot) := by
    refine List.ext_getElem? fun i => ?_
    rw [List.getElem?_map, List.getElem?_modify, List.getElem?_map]
    cases list[i]? with
    | none => rfl
    | some stored =>
      by_cases same : index = i
      · simp [same, saveTransportSession]
      · simp [same]
  rw [sessionOf_eq, sessionOf_eq, (indexOf_congr (((saved _ _).trans also).trans same.slots)).trans found,
    (indexOf_congr ((saved _ _).trans kept)).trans found]
  dsimp only [Option.bind_some, State.beside] at stored ⊢
  rw [List.getElem?_modify, List.getElem?_modify, stored]

theorem syncNextMessage_active (s : State σ) : (syncNextMessage h s).active = s.active := by
  unfold syncNextMessage
  dsimp only
  split
  · exact (sendResponseFrame_calm (h := h) _ _).active
  have acknowledged : (acknowledgeInflight { s with lastSyncTime := h.currentTime s.host }).active = s.active := by
    rcases acknowledgeInflight_cases { s with lastSyncTime := h.currentTime s.host } with
      ⟨-, same⟩ | ⟨-, -, same⟩ | ⟨-, same⟩
    · rw [same]
    · rw [same]
      rfl
    · rw [same, State.marked_eq]
  generalize acknowledgeInflight { s with lastSyncTime := h.currentTime s.host } = middle at acknowledged
  have filled : (if middle.current.offline.isEmpty then refillOfflineQueueFromStore h middle false else middle).active =
      s.active := by
    split
    · exact (refillOfflineQueueFromStore_calm middle false).active.trans acknowledged
    · exact acknowledged
  generalize (if middle.current.offline.isEmpty then refillOfflineQueueFromStore h middle false else middle) = final
    at filled
  split
  · exact (sendResponseFrame_calm (h := h) _ _).active.trans filled
  · rename_i head rest queue
    unfold deliverHead
    have written := (writeFrameToCurrentTransport_transmits (final.logWrite 0 head.buf.length) head.buf).calm (h := h)
    generalize writeFrameToCurrentTransport (final.logWrite 0 head.buf.length) head.buf = outcome at written
    obtain ⟨ok, last⟩ := outcome
    cases ok with
    | false => exact written.active.trans filled
    | true =>
      dsimp only
      split <;> exact written.active.trans filled

theorem handleFrame_active (build : Build) (s : State σ) (frame : List UInt8) :
    (handleFrame h build s frame).2.active = s.active := by
  unfold handleFrame
  split
  · rfl
  have refreshed :=
    (refreshConnectionSession_calm (h := h) (s.note (.received s.request (currentGeneration s) frame))).active
  generalize refreshConnectionSession h (s.note (.received s.request (currentGeneration s) frame)) = middle at refreshed
  dsimp only
  split
  · exact refreshed
  have expired := (expirePendingBinary_calm (h := h) middle).active.trans refreshed
  refine Eq.trans ?_ expired
  unfold dispatchCommand
  dsimp only
  split
  · exact (sendResponseFrame_calm (h := h) _ _).active
  split
  · exact (sendResponseFrame_calm (h := h) _ _).active
  split
  · exact syncNextMessage_active _
  · exact (runCommand_calm build _ _ _).active

theorem SameOutcome.since {x y after after' : State σ} (same : SameOutcome peer x y after after')
    (here : x.history = s.history) (there : y.history = t.history) : SameOutcome peer s t after after' := by
  refine ⟨same.host, same.store, same.links, same.trace, same.own, ?_⟩
  rw [← here, ← there]
  exact same.events

theorem handleTransportFrame_same (build : Build) (same : SameFor peer s t) {frame : List UInt8}
    (command : commandOf (frame.headD 0) ≠ some .importPrivateKey) (generation : UInt32) :
    SameOutcome peer s t (handleTransportFrame h build s frame peer generation)
      (handleTransportFrame h build t frame peer generation) := by
  have allowed : transportAllowedDuringOta t peer.id = transportAllowedDuringOta s peer.id := by
    unfold transportAllowedDuringOta
    rw [same.links]
  unfold handleTransportFrame
  rw [allowed]
  split
  · exact ⟨same.host, same.store, same.links, same.trace, same.own, [], by simp, by simp⟩
  obtain ⟨index, ensured, history, historyOther, place⟩ := ensureTransportSession_same (h := h) same generation
  generalize ensureTransportSession h s peer generation = x at *
  generalize ensureTransportSession h t peer generation = y at *
  obtain ⟨found, x⟩ := x
  obtain ⟨also, y⟩ := y
  dsimp only at index ensured history historyOther place ⊢
  subst index
  refine SameOutcome.since ?_ history historyOther
  cases also with
  | none => exact ⟨ensured.host, ensured.store, ensured.links, ensured.trace, ensured.own, [], by simp, by simp⟩
  | some index =>
    exact withSession_same ensured (place index rfl) (fun s => (handleFrame h build s frame).2)
      (fun _ _ alike => handleFrame_alike h build alike frame) (fun x => handleFrame_shelters build x command)
      (fun x => handleFrame_active build x frame)

theorem serviceSession_same (same : SameFor peer s t) {index : Nat} (found : s.indexOf peer = some index) :
    SameOutcome peer s t (serviceSession h s index) (serviceSession h t index) := by
  obtain ⟨inside, owned, -⟩ := List.findIdx?_eq_some_iff_getElem.mp found
  have slot : s.sessions[index].slot = some peer := of_decide_eq_true owned
  have here : s.sessions[index]? = some s.sessions[index] := List.getElem?_eq_getElem inside
  have there := (same.stored found).trans here
  have seen : transportAllowedDuringOta t peer.id = transportAllowedDuringOta s peer.id ∧
      transportsClientConnected t peer = transportsClientConnected s peer ∧
      transportsClientGeneration t peer = transportsClientGeneration s peer := by
    unfold transportsClientGeneration transportsClientConnected transportAllowedDuringOta
    rw [same.links, same.attached]
    exact ⟨rfl, rfl, rfl⟩
  unfold serviceSession
  rw [List.getD_eq_getElem?_getD, List.getD_eq_getElem?_getD, there, here, Option.getD_some, slot]
  dsimp only
  rw [seen.1, seen.2.1, seen.2.2]
  split
  · obtain ⟨-, ensured, history, historyOther, place⟩ :=
      ensureTransportSession_same (h := h) same (transportsClientGeneration s peer)
    have still : (ensureTransportSession h s peer (transportsClientGeneration s peer)).1 = some index := by
      unfold State.indexOf at found
      unfold ensureTransportSession
      rw [found]
      dsimp only
      split <;> rfl
    refine SameOutcome.since ?_ history historyOther
    exact withSession_same ensured (place index still)
      (fun s => serviceCurrentSession h (refreshConnectionSession h s))
      (fun _ _ alike => serviceCurrentSession_alike h (refreshConnectionSession_alike h alike))
      (fun x => Shelters.of_same (h := h)
        ((serviceCurrentSession_sessions _).trans (refreshConnectionSession_sessions x)))
      (fun x => (serviceCurrentSession_calm _).active.trans (refreshConnectionSession_calm x).active)
  · exact ⟨same.host, same.store, same.links, same.trace, same.own, [], by simp, by simp⟩

variable (h s peer) in
/-- A frame of one slot, identity imports apart, and a service step on its session leave the session
    of every other slot as it is, durable frames behind its queue apart; what they lead to depends on
    the slot's own session, the device, the store and the links only. -/
theorem session_isolation (build : Build) :
    (∀ frame generation, commandOf (frame.headD 0) ≠ some .importPrivateKey →
      ∀ (index : Nat) (session : TransportSession),
      s.sessions[index]? = some session → session.slot.isSome = true → session.slot ≠ some peer →
      ∃ kept, (handleTransportFrame h build s frame peer generation).sessions[index]? = some kept ∧
        Extended h session kept) ∧
    (∀ owner, (s.sessions.getD owner .blank).slot = some peer →
      ∀ (index : Nat) (session : TransportSession),
      s.sessions[index]? = some session → session.slot.isSome = true → session.slot ≠ some peer →
      (serviceSession h s owner).sessions[index]? = some session) ∧
    (∀ t frame generation, SameFor peer s t → commandOf (frame.headD 0) ≠ some .importPrivateKey →
      SameOutcome peer s t (handleTransportFrame h build s frame peer generation)
        (handleTransportFrame h build t frame peer generation)) ∧
    (∀ t index, SameFor peer s t → s.indexOf peer = some index →
      SameOutcome peer s t (serviceSession h s index) (serviceSession h t index)) ∧
    ∀ (current before : Connection) (session : TransportSession),
      loadTransportSession before (saveTransportSession current session) = current :=
  ⟨fun _ generation command _ _ found used other =>
      handleTransportFrame_others build s command peer generation found used other,
    fun owner serviced _ _ found used other => serviceSession_others s owner serviced found used other,
    fun _ _ generation same command => handleTransportFrame_same build same command generation,
    fun _ _ same found => serviceSession_same same found,
    fun _ _ _ => rfl⟩

end Session

end SigurdOS.Companion
