import SigurdOS.Companion.System

namespace SigurdOS.Companion

open Bytes MessageStore

section Claims

variable {σ : Type} (h : CompanionBridgeHost σ)

/-- The record's frame was written to the client over the connection of this generation. -/
def Delivered (history : List Event) (peer : Option Peer) (generation storeId : UInt32) : Prop :=
  ∃ frame, .delivered peer generation frame ∈ history ∧ frame.persistent = true ∧ frame.storeId = storeId ∧
    Genuine h frame

/-- After that delivery the same client asked for the next message over the same connection. -/
def Earned (history : List Event) (peer : Option Peer) (generation storeId : UInt32) : Prop :=
  ∃ before after frame, history = before ++ .received peer generation frame :: after ∧
    commandOf (frame.headD 0) = some .syncNextMessage ∧ Delivered h before peer generation storeId

def Honest (history : List Event) : Prop :=
  ∀ before after peer generation storeId, history = before ++ .marked peer generation storeId :: after →
    Earned h before peer generation storeId

structure Claims (history : List Event) (peer : Option Peer) (c : Connection) : Prop where
  inflight : c.inflightStoreId ≠ 0 → Delivered h history peer c.inflightGeneration c.inflightStoreId
  queue : ∀ frame ∈ c.offline, frame.persistent = true → Genuine h frame
  orderly : Orderly c.offline

structure Accounted (s : State σ) : Prop where
  current : Claims h s.history s.request s.current
  sessions : ∀ session ∈ s.sessions, Claims h s.history session.slot session.toConnection
  marks : Honest h s.history

variable {h} {history later : List Event} {peer : Option Peer} {generation storeId : UInt32} {c after : Connection}

theorem Delivered.mono (delivered : Delivered h history peer generation storeId) (grown : history ⊆ later) :
    Delivered h later peer generation storeId := by
  obtain ⟨frame, member, rest⟩ := delivered
  exact ⟨frame, grown member, rest⟩

theorem Claims.mono (claims : Claims h history peer c) (grown : history ⊆ later) : Claims h later peer c :=
  ⟨fun claimed => (claims.inflight claimed).mono grown, claims.queue, claims.orderly⟩

theorem Honest.append (honest : Honest h history) {events : List Event}
    (unmarked : ∀ peer generation storeId, .marked peer generation storeId ∉ events) :
    Honest h (history ++ events) := by
  intro before after peer generation storeId same
  rcases List.append_eq_append_iff.mp same with ⟨gap, rfl, tail⟩ | ⟨gap, rfl, tail⟩
  · refine absurd ?_ (unmarked peer generation storeId)
    rw [tail]
    simp
  · cases gap with
    | nil =>
      refine absurd ?_ (unmarked peer generation storeId)
      rw [List.nil_append] at tail
      rw [← tail]
      simp
    | cons event gap =>
      rw [List.cons_append] at tail
      obtain ⟨rfl, -⟩ := List.cons.inj tail
      exact honest before gap peer generation storeId rfl

theorem Honest.mark (honest : Honest h history) (earned : Earned h history peer generation storeId) :
    Honest h (history ++ [.marked peer generation storeId]) := by
  intro before after otherPeer otherGeneration otherId same
  rcases List.append_eq_append_iff.mp same with ⟨gap, rfl, tail⟩ | ⟨gap, rfl, tail⟩
  · cases gap with
    | nil =>
      rw [List.nil_append] at tail
      obtain ⟨head, -⟩ := List.cons.inj tail
      cases head
      rw [List.append_nil]
      exact earned
    | cons event gap =>
      rw [List.cons_append] at tail
      obtain ⟨-, none⟩ := List.cons.inj tail
      simp at none
  · cases gap with
    | nil =>
      rw [List.nil_append] at tail
      obtain ⟨head, -⟩ := List.cons.inj tail
      cases head
      rw [List.append_nil] at earned
      exact earned
    | cons event gap =>
      rw [List.cons_append] at tail
      obtain ⟨rfl, -⟩ := List.cons.inj tail
      exact honest before gap otherPeer otherGeneration otherId rfl

end Claims

section Calm

variable {σ : Type} (h : CompanionBridgeHost σ)

/-- The claim on the message in flight stays or goes, and what is new in the queue encodes records. -/
structure Passes (c after : Connection) : Prop where
  inflight : after.inflightStoreId = 0 ∨
    (after.inflightStoreId = c.inflightStoreId ∧ after.inflightGeneration = c.inflightGeneration)
  queue : ∀ frame ∈ after.offline, frame.persistent = true → frame ∈ c.offline ∨ Genuine h frame
  orderly : Orderly c.offline → Orderly after.offline

def Kept (session after : TransportSession) : Prop :=
  after.slot = session.slot ∧ Passes h session.toConnection after.toConnection

/-- Work that neither acknowledges nor delivers a message. -/
structure Calm (s after : State σ) : Prop where
  attached : after.attached = s.attached
  request : after.request = s.request
  active : after.active = s.active
  store : after.store = s.store
  history : ∃ events, after.history = s.history ++ events ∧ ∀ event ∈ events, event.isWrote = true
  current : Passes h s.current after.current
  sessions : List.Forall₂ (Kept h) s.sessions after.sessions

variable {h} {c middle after : Connection}

theorem Passes.refl (c : Connection) : Passes h c c := ⟨Or.inr ⟨rfl, rfl⟩, fun _ member _ => Or.inl member, id⟩

theorem Passes.trans (first : Passes h c middle) (second : Passes h middle after) : Passes h c after := by
  refine ⟨?_, fun frame member durable => ?_, second.orderly ∘ first.orderly⟩
  · rcases second.inflight with zero | ⟨id, generation⟩
    · exact Or.inl zero
    · rcases first.inflight with zero | ⟨oldId, oldGeneration⟩
      · exact Or.inl (id.trans zero)
      · exact Or.inr ⟨id.trans oldId, generation.trans oldGeneration⟩
  · rcases second.queue frame member durable with old | genuine
    · exact first.queue frame old durable
    · exact Or.inr genuine

theorem passes_idle (idle : after.inflightStoreId = 0) (empty : after.offline = []) : Passes h c after := by
  refine ⟨Or.inl idle, fun frame member => ?_, fun _ => empty ▸ orderly_nil⟩
  rw [empty] at member
  cases member

theorem Claims.passes {history : List Event} {peer : Option Peer} (claims : Claims h history peer c)
    (passes : Passes h c after) : Claims h history peer after := by
  refine ⟨fun claimed => ?_, fun frame member durable => ?_, passes.orderly claims.orderly⟩
  · rcases passes.inflight with zero | ⟨id, generation⟩
    · exact absurd zero claimed
    · rw [id] at claimed ⊢
      rw [generation]
      exact claims.inflight claimed
  · rcases passes.queue frame member durable with old | genuine
    · exact claims.queue frame old durable
    · exact genuine

variable {s between final : State σ}

theorem Kept.trans {session kept final : TransportSession} (first : Kept h session kept) (second : Kept h kept final) :
    Kept h session final := ⟨second.1.trans first.1, first.2.trans second.2⟩

theorem kept_self (sessions : List TransportSession) : List.Forall₂ (Kept h) sessions sessions :=
  List.forall₂_same.mpr (fun _ _ => ⟨rfl, .refl _⟩)

theorem Calm.refl (s : State σ) : Calm h s s := ⟨rfl, rfl, rfl, rfl, ⟨[], by simp, by simp⟩, .refl _, kept_self _⟩

theorem Calm.trans (first : Calm h s between) (second : Calm h between final) : Calm h s final where
  attached := second.attached.trans first.attached
  request := second.request.trans first.request
  active := second.active.trans first.active
  store := second.store.trans first.store
  history := by
    obtain ⟨events, same, wrote⟩ := first.history
    obtain ⟨more, further, also⟩ := second.history
    refine ⟨events ++ more, by rw [further, same, List.append_assoc], fun event member => ?_⟩
    rcases List.mem_append.mp member with old | new
    · exact wrote event old
    · exact also event new
  current := first.current.trans second.current
  sessions := forall₂_trans first.sessions second.sessions Kept.trans

theorem Transmits.calm (transmits : Transmits s final) : Calm h s final := by
  obtain ⟨accepts, events, rfl, wrote⟩ := transmits
  exact ⟨rfl, rfl, rfl, rfl, ⟨events, rfl, wrote⟩, .refl _, kept_self _⟩

theorem calm_worked {current : Connection} {host : σ} {trace : Trace} (passes : Passes h s.current current) :
    Calm h s (s.worked current host trace) :=
      ⟨rfl, rfl, rfl, rfl, ⟨[], by simp [State.worked], by simp⟩, passes, kept_self _⟩

theorem calm_update {f : Connection → Connection} (passes : Passes h s.current (f s.current)) :
    Calm h s (s.update f) := ⟨rfl, rfl, rfl, rfl, ⟨[], by simp [State.update], by simp⟩, passes, kept_self _⟩

theorem Grows.passes {queue : List Frame} (grows : Grows h c.offline queue) :
    Passes h c { c with offline := queue } := by
  obtain ⟨added, rfl, genuine, orderly⟩ := grows
  refine ⟨Or.inr ⟨rfl, rfl⟩, fun frame member _ => ?_, orderly⟩
  rcases List.mem_append.mp member with old | new
  · exact Or.inl old
  · exact Or.inr (genuine frame new).2

theorem Extended.kept {session longer : TransportSession} (extended : Extended h session longer) :
    Kept h session longer := by
  obtain ⟨queue, grows, rfl⟩ := extended
  exact ⟨rfl, Grows.passes (c := session.toConnection) grows⟩

theorem calm_withQueues {queue : List Frame} {sessions : List TransportSession}
    (grows : Grows h s.current.offline queue)
    (extended : List.Forall₂ (Extended h) s.sessions sessions) : Calm h s (s.withQueues queue sessions) :=
  ⟨rfl, rfl, rfl, rfl, ⟨[], by simp [State.withQueues], by simp⟩, grows.passes, extended.imp fun _ _ => Extended.kept⟩

theorem refillOfflineQueueFromStore_calm (s : State σ) (notify : Bool) :
    Calm h s (refillOfflineQueueFromStore h s notify) := by
  obtain ⟨queue, sessions, grows, extended, -, transmits⟩ := refillOfflineQueueFromStore_extends h s notify
  exact (calm_withQueues grows extended).trans transmits.calm

theorem refreshed_passes (s : State σ) : Passes h s.current (refreshed s) := by
  unfold refreshed
  split
  · exact passes_idle rfl rfl
  · exact ⟨Or.inr ⟨rfl, rfl⟩, fun _ member _ => Or.inl member, id⟩

theorem refreshConnectionSession_calm (s : State σ) : Calm h s (refreshConnectionSession h s) := by
  obtain ⟨host, trace, same⟩ := refreshConnectionSession_worked h s
  rw [same]
  exact calm_worked (refreshed_passes s)

theorem expirePendingBinary_calm (s : State σ) : Calm h s (expirePendingBinary h s) := by
  obtain ⟨host, trace, same⟩ := expirePendingBinary_worked h s
  rw [same]
  exact calm_worked ⟨Or.inr ⟨rfl, rfl⟩, fun _ member _ => Or.inl member, id⟩

theorem sendResponseFrame_calm (s : State σ) (frame : List UInt8) : Calm h s (sendResponseFrame s frame) := by
  have logged : Calm h s (s.logResponse frame) := calm_worked (.refl _)
  rcases sendResponseFrame_cases s frame with sent | ⟨middle, sent, -, -, held⟩
  · exact logged.trans sent.calm
  · rw [held]
    exact (logged.trans sent.calm).trans (calm_update ⟨Or.inr ⟨rfl, rfl⟩, fun _ member _ => Or.inl member, id⟩)

theorem flushPendingResponse_calm (s : State σ) : Calm h s (flushPendingResponse s).2 := by
  rcases flushPendingResponse_cases s with ⟨same, -⟩ | ⟨middle, sent, same, -⟩ | ⟨middle, sent, same⟩
  · rw [same]
    exact .refl s
  · rw [same]
    exact sent.calm
  · rw [same]
    dsimp only
    refine sent.calm.trans (calm_update ?_)
    exact ⟨Or.inr ⟨rfl, rfl⟩, fun _ member _ => Or.inl member, id⟩

theorem pushTelemetryResponse_calm (s : State σ) (senderPrefix blob : List UInt8) :
    Calm h s (pushTelemetryResponse s senderPrefix blob) := by
  unfold pushTelemetryResponse
  split
  · exact .refl s
  · exact (calm_worked (.refl _)).trans (sendPushFrame_transmits _ _).calm

theorem onIdentityChanged_calm (s : State σ) : Calm h s (onIdentityChanged s) := by
  refine ⟨rfl, rfl, rfl, rfl, ⟨[], by simp [onIdentityChanged, State.update], by simp⟩, ?_, ?_⟩
  · exact ⟨Or.inr ⟨rfl, rfl⟩, nofun, fun _ => orderly_nil⟩
  · unfold onIdentityChanged
    dsimp only
    rw [List.forall₂_map_right_iff]
    refine List.forall₂_same.mpr fun session _ => ?_
    split
    · exact ⟨rfl, .refl _⟩
    · rename_i peer used
      exact ⟨used.symm, passes_idle rfl rfl⟩

theorem disableTransport_calm (s : State σ) : Calm h s (disableTransport s) := by
  unfold disableTransport
  split <;> exact ⟨rfl, rfl, rfl, rfl, ⟨[], by simp, by simp⟩, .refl _, kept_self _⟩

theorem sendContact_calm (s : State σ) (index : Nat) : Calm h s (sendContact h s index) := by
  unfold sendContact
  split
  · refine (calm_update ?_).trans ((calm_worked (.refl _)).trans (sendResponseFrame_calm _ _))
    exact ⟨Or.inr ⟨rfl, rfl⟩, fun _ member _ => Or.inl member, id⟩
  · refine ((calm_worked (.refl _)).trans (sendResponseFrame_calm _ _)).trans (calm_update ?_)
    exact ⟨Or.inr ⟨rfl, rfl⟩, fun _ member _ => Or.inl member, id⟩

theorem serviceCurrentSession_calm (s : State σ) : Calm h s (serviceCurrentSession h s) := by
  unfold serviceCurrentSession
  have flushed := (expirePendingBinary_calm s).trans (flushPendingResponse_calm (expirePendingBinary h s))
  generalize flushPendingResponse (expirePendingBinary h s) = outcome at flushed
  obtain ⟨done, middle⟩ := outcome
  cases done with
  | false => exact flushed
  | true =>
    cases waiting : middle.current.contactIter with
    | none => simpa only [waiting] using flushed
    | some index =>
      simp only [waiting]
      exact iteInduction (fun _ => flushed) (fun _ => flushed.trans (sendContact_calm middle index))

theorem Retained.passes {command : CompanionCommand} {outcome : Outcome} (retained : Retained command c outcome) :
    Passes h c outcome.connection := by
  obtain ⟨retains, kept, cleared, -⟩ := retained
  by_cases query : command = .deviceQuery
  · refine ⟨Or.inr ⟨retains.inflightStoreId, retains.inflightGeneration⟩, fun frame member _ => ?_, fun _ => ?_⟩
    · rw [cleared query] at member
      cases member
    · rw [cleared query]
      exact orderly_nil
  · refine ⟨Or.inr ⟨retains.inflightStoreId, retains.inflightGeneration⟩, fun frame member _ => ?_, ?_⟩
    · rw [(kept query).offline] at member
      exact Or.inl member
    · rw [(kept query).offline]
      exact id

theorem followBefore_calm (s : State σ) (follow : Follow) : Calm h s (followBefore s follow) := by
  cases follow with
  | identityChanged => exact onIdentityChanged_calm s
  | disableTransport => exact disableTransport_calm s
  | nothing => exact .refl s
  | refill => exact .refl s
  | telemetry senderPrefix blob => exact .refl s

theorem followAfter_calm (s : State σ) (follow : Follow) : Calm h s (followAfter h s follow) := by
  cases follow with
  | refill => exact refillOfflineQueueFromStore_calm s true
  | telemetry senderPrefix blob => exact pushTelemetryResponse_calm s senderPrefix blob
  | nothing => exact .refl s
  | identityChanged => exact .refl s
  | disableTransport => exact .refl s

theorem runCommand_calm (build : Build) (s : State σ) (frame : List UInt8) (command : CompanionCommand) :
    Calm h s (runCommand h build s frame command) := by
  unfold runCommand
  have retained := @sessionCommand_retained σ h build frame s.current command
    ⟨s.host, !s.current.pendingResponse.isEmpty, s.trace⟩
  generalize (sessionCommand h build frame s.current command).run
    ⟨s.host, !s.current.pendingResponse.isEmpty, s.trace⟩ = outcome at retained
  obtain ⟨outcome, work⟩ := outcome
  dsimp only at retained ⊢
  have worked : Calm h s (s.worked outcome.connection work.host work.trace) := calm_worked retained.passes
  have followed := worked.trans (followBefore_calm _ outcome.follow)
  cases outcome.reply with
  | none => exact followed.trans (followAfter_calm _ _)
  | some reply => exact (followed.trans (sendResponseFrame_calm _ reply)).trans (followAfter_calm _ _)

end Calm

section Accounts

variable {σ : Type} {h : CompanionBridgeHost σ} {s after : State σ}

theorem unmarked_of_wrote {events : List Event} (wrote : ∀ event ∈ events, event.isWrote = true) (peer : Option Peer)
    (generation storeId : UInt32) : .marked peer generation storeId ∉ events := by
  intro member
  cases wrote _ member

theorem Accounted.calm (accounted : Accounted h s) (calm : Calm h s after) : Accounted h after := by
  obtain ⟨events, same, wrote⟩ := calm.history
  have grown : s.history ⊆ after.history := by
    rw [same]
    exact List.subset_append_left _ _
  refine ⟨?_, fun session member => ?_, ?_⟩
  · rw [calm.request]
    exact (accounted.current.passes calm.current).mono grown
  · obtain ⟨old, present, slot, passes⟩ := forall₂_mem_right calm.sessions member
    rw [slot]
    exact ((accounted.sessions old present).passes passes).mono grown
  · rw [same]
    exact accounted.marks.append (unmarked_of_wrote wrote)

theorem Accounted.note (accounted : Accounted h s) (event : Event)
    (unmarked : ∀ peer generation storeId, event ≠ .marked peer generation storeId) : Accounted h (s.note event) := by
  refine ⟨accounted.current.mono (List.subset_append_left _ _),
    fun session member => (accounted.sessions session member).mono (List.subset_append_left _ _),
    accounted.marks.append fun peer generation storeId member => ?_⟩
  exact unmarked peer generation storeId (List.mem_singleton.mp member).symm

def MarksEarned (h : CompanionBridgeHost σ) (s after : State σ) : Prop :=
  after.store = s.store ∨ ∃ peer generation storeId,
    after.store = (messageStoreMarkCompanionSent s.store storeId).2 ∧ Earned h after.history peer generation storeId

def Asked (s : State σ) : Prop :=
  ∃ before frame, s.history = before ++ [.received s.request (currentGeneration s) frame] ∧
    commandOf (frame.headD 0) = some .syncNextMessage

theorem Acknowledges.earned (acknowledges : Acknowledges s) (accounted : Accounted h s)
    (synced : s.current.connectionGeneration = currentGeneration s) (asked : Asked s) :
    Earned h s.history s.request (currentGeneration s) s.current.inflightStoreId := by
  obtain ⟨before, frame, same, sync⟩ := asked
  obtain ⟨delivered, member, rest⟩ := accounted.current.inflight acknowledges.claimed
  rw [acknowledges.generation, synced, same] at member
  refine ⟨before, [], frame, same, sync, delivered, ?_, rest⟩
  rcases List.mem_append.mp member with early | late
  · exact early
  · cases List.mem_singleton.mp late

theorem Earned.append {history : List Event} {peer : Option Peer} {generation storeId : UInt32}
    (earned : Earned h history peer generation storeId) (events : List Event) :
    Earned h (history ++ events) peer generation storeId := by
  obtain ⟨before, later, frame, rfl, rest⟩ := earned
  exact ⟨before, later ++ events, frame, by simp, rest⟩

structure Framed (s after : State σ) : Prop where
  attached : after.attached = s.attached
  request : after.request = s.request
  active : after.active = s.active
  slots : after.sessions.map (·.slot) = s.sessions.map (·.slot)

theorem acknowledgeInflight_accounted (accounted : Accounted h s)
    (synced : s.current.connectionGeneration = currentGeneration s) (asked : Asked s) :
    Accounted h (acknowledgeInflight s) ∧ MarksEarned h s (acknowledgeInflight s) ∧ Framed s (acknowledgeInflight s) ∧
      (acknowledgeInflight s).current.connectionGeneration = currentGeneration (acknowledgeInflight s) := by
  rcases acknowledgeInflight_cases s with ⟨-, same⟩ | ⟨-, -, same⟩ | ⟨acknowledges, same⟩
  · rw [same]
    exact ⟨accounted, Or.inl rfl, ⟨rfl, rfl, rfl, rfl⟩, synced⟩
  · rw [same]
    refine ⟨accounted.calm (calm_update ?_), Or.inl rfl, ⟨rfl, rfl, rfl, rfl⟩, synced⟩
    exact ⟨Or.inl rfl, fun _ member _ => Or.inl member, id⟩
  · have earned := acknowledges.earned accounted synced asked
    rw [same]
    rw [State.marked_eq]
    refine ⟨⟨?_, fun session member => ?_, accounted.marks.mark earned⟩,
      Or.inr ⟨_, _, _, rfl, earned.append _⟩, ⟨rfl, rfl, rfl, rfl⟩, ?_⟩
    · refine (accounted.current.mono (List.subset_append_left _ _)).passes
        ⟨Or.inl rfl, fun frame member _ => Or.inl ?_, fun orderly => ?_⟩
      · dsimp only [clearInflightMessage] at member
        split at member
        · exact List.mem_of_mem_tail member
        · exact member
      · dsimp only [clearInflightMessage]
        split
        · exact orderly.tail
        · exact orderly
    · exact (accounted.sessions session member).mono (List.subset_append_left _ _)
    · dsimp only [clearInflightMessage]
      split <;> exact synced

theorem Framed.trans {middle : State σ} (first : Framed s middle) (second : Framed middle after) : Framed s after :=
  ⟨second.attached.trans first.attached, second.request.trans first.request, second.active.trans first.active,
    second.slots.trans first.slots⟩

theorem Calm.framed (calm : Calm h s after) : Framed s after := by
  refine ⟨calm.attached, calm.request, calm.active, ?_⟩
  have sessions := calm.sessions
  generalize s.sessions = old at sessions
  generalize after.sessions = new at sessions
  induction sessions with
  | nil => rfl
  | cons head _ ih => rw [List.map_cons, List.map_cons, head.1, ih]

theorem deliverHead_accounted (accounted : Accounted h s) {head : Frame} (member : head ∈ s.current.offline)
    (synced : s.current.connectionGeneration = currentGeneration s) :
    Accounted h (deliverHead s head) ∧ (deliverHead s head).store = s.store ∧ Framed s (deliverHead s head) ∧
      s.history <+: (deliverHead s head).history := by
  unfold deliverHead
  have written := writeFrameToCurrentTransport_transmits (s.logWrite 0 head.buf.length) head.buf
  generalize writeFrameToCurrentTransport (s.logWrite 0 head.buf.length) head.buf = outcome at written
  obtain ⟨ok, middle⟩ := outcome
  obtain ⟨accepts, events, rfl, wrote⟩ := written
  have sent : Calm h s ((s.logWrite 0 head.buf.length).sent accepts events) :=
    (calm_worked (.refl _)).trans (Transmits.calm ⟨accepts, events, rfl, wrote⟩)
  have settled := accounted.calm sent
  cases ok with
  | false => exact ⟨settled, rfl, sent.framed, List.prefix_append _ _⟩
  | true =>
    have noted := settled.note (.delivered s.request (currentGeneration s) head) nofun
    have prefixed : s.history <+: (s.history ++ events) ++ [.delivered s.request (currentGeneration s) head] :=
      (List.prefix_append _ _).trans (List.prefix_append _ _)
    dsimp only
    split
    · rename_i durable
      refine ⟨⟨⟨fun _ => ⟨head, ?_, durable, rfl, accounted.current.queue head member durable⟩, noted.current.queue,
        noted.current.orderly⟩, noted.sessions, noted.marks⟩, rfl, ⟨rfl, rfl, rfl, rfl⟩, prefixed⟩
      change .delivered s.request s.current.connectionGeneration head ∈
        s.history ++ events ++ [.delivered s.request (currentGeneration s) head]
      rw [synced]
      exact List.mem_append_right _ (List.mem_singleton_self _)
    · refine ⟨noted.calm (calm_update ?_), rfl, ⟨rfl, rfl, rfl, rfl⟩, prefixed⟩
      exact ⟨Or.inr ⟨rfl, rfl⟩, fun _ present _ => Or.inl (List.mem_of_mem_tail present), Orderly.tail⟩

theorem MarksEarned.calm {middle : State σ} (earned : MarksEarned h s middle) (same : after.store = middle.store)
    (grown : middle.history <+: after.history) : MarksEarned h s after := by
  rcases earned with kept | ⟨peer, generation, storeId, marked, justified⟩
  · exact Or.inl (same.trans kept)
  · obtain ⟨events, longer⟩ := grown
    refine Or.inr ⟨peer, generation, storeId, same.trans marked, ?_⟩
    rw [← longer]
    exact justified.append events

theorem MarksEarned.before {middle : State σ} (earned : MarksEarned h middle after) (same : middle.store = s.store) :
    MarksEarned h s after := by
  unfold MarksEarned at earned
  rw [same] at earned
  exact earned

theorem Calm.grown (calm : Calm h s after) : s.history <+: after.history := by
  obtain ⟨events, same, -⟩ := calm.history
  rw [same]
  exact List.prefix_append _ _

theorem refillOfflineQueueFromStore_synced (s : State σ) (notify : Bool) :
    (refillOfflineQueueFromStore h s notify).current.connectionGeneration = s.current.connectionGeneration ∧
      currentGeneration (refillOfflineQueueFromStore h s notify) = currentGeneration s := by
  obtain ⟨queue, sessions, -, -, -, accepts, events, same, -⟩ := refillOfflineQueueFromStore_extends h s notify
  rw [same]
  exact ⟨rfl, rfl⟩

theorem syncNextMessage_accounted (accounted : Accounted h s)
    (synced : s.current.connectionGeneration = currentGeneration s) (asked : Asked s) :
    Accounted h (syncNextMessage h s) ∧ MarksEarned h s (syncNextMessage h s) ∧ Framed s (syncNextMessage h s) := by
  unfold syncNextMessage
  dsimp only
  have timed : Calm h s { s with lastSyncTime := h.currentTime s.host } :=
    ⟨rfl, rfl, rfl, rfl, ⟨[], by simp, by simp⟩, .refl _, kept_self _⟩
  split
  · have refused := timed.trans (sendResponseFrame_calm _ (errFrame .badState))
    exact ⟨accounted.calm refused, Or.inl refused.store, refused.framed⟩
  obtain ⟨settled, earned, framed, still⟩ := acknowledgeInflight_accounted (accounted.calm timed) synced asked
  have earned : MarksEarned h s (acknowledgeInflight { s with lastSyncTime := h.currentTime s.host }) := earned
  generalize acknowledgeInflight { s with lastSyncTime := h.currentTime s.host } =
    middle at settled earned framed still ⊢
  have framed := timed.framed.trans framed
  obtain ⟨filled, calm, stillFilled⟩ : ∃ filled, Calm h middle filled ∧
      filled.current.connectionGeneration = currentGeneration filled ∧
      (if middle.current.offline.isEmpty then refillOfflineQueueFromStore h middle false else middle) = filled := by
    split
    · obtain ⟨same, generation⟩ := refillOfflineQueueFromStore_synced (h := h) middle false
      exact ⟨_, refillOfflineQueueFromStore_calm middle false, by rw [same, generation, still], rfl⟩
    · exact ⟨middle, .refl _, still, rfl⟩
  obtain ⟨stillFilled, same⟩ := stillFilled
  rw [same]
  have accountedFilled := settled.calm calm
  split
  · have refused := calm.trans (sendResponseFrame_calm filled noMoreMessages)
    exact ⟨settled.calm refused, earned.calm refused.store refused.grown, framed.trans refused.framed⟩
  · rename_i head rest queue
    have present : head ∈ filled.current.offline := by
      rw [queue]
      exact List.mem_cons_self ..
    obtain ⟨done, store, delivered, grown⟩ := deliverHead_accounted accountedFilled present stillFilled
    exact ⟨done, earned.calm (store.trans calm.store) (calm.grown.trans grown),
      (framed.trans calm.framed).trans delivered⟩

theorem dispatchCommand_accounted (build : Build) (frame : List UInt8) (accounted : Accounted h s)
    (synced : s.current.connectionGeneration = currentGeneration s)
    (received : ∃ before, s.history = before ++ [.received s.request (currentGeneration s) frame]) :
    Accounted h (dispatchCommand h build s frame) ∧ MarksEarned h s (dispatchCommand h build s frame) ∧
      Framed s (dispatchCommand h build s frame) := by
  have quiet (after : State σ) (calm : Calm h s after) :
      Accounted h after ∧ MarksEarned h s after ∧ Framed s after :=
    ⟨accounted.calm calm, Or.inl calm.store, calm.framed⟩
  unfold dispatchCommand
  dsimp only
  have logged : Calm h s { s with trace := { s.trace with reads := s.trace.reads ++ [(0, 1)] } } :=
    calm_worked (.refl _)
  split
  · exact quiet _ (logged.trans (sendResponseFrame_calm _ _))
  rename_i command known
  split
  · exact quiet _ (logged.trans (sendResponseFrame_calm _ _))
  split
  · rename_i sync
    obtain ⟨before, same⟩ := received
    obtain ⟨settled, earned, framed⟩ :=
      syncNextMessage_accounted (accounted.calm logged) synced ⟨before, frame, same, by rw [known, sync]⟩
    exact ⟨settled, earned, logged.framed.trans framed⟩
  · exact quiet _ (logged.trans (runCommand_calm build _ frame command))

theorem handleFrame_accounted (build : Build) (frame : List UInt8) (accounted : Accounted h s) :
    Accounted h (handleFrame h build s frame).2 ∧ MarksEarned h s (handleFrame h build s frame).2 ∧
      Framed s (handleFrame h build s frame).2 := by
  unfold handleFrame
  split
  · exact ⟨accounted, Or.inl rfl, ⟨rfl, rfl, rfl, rfl⟩⟩
  have noted := accounted.note (.received s.request (currentGeneration s) frame) nofun
  have calm := refreshConnectionSession_calm (h := h) (s.note (.received s.request (currentGeneration s) frame))
  obtain ⟨host, trace, same⟩ :=
    refreshConnectionSession_worked h (s.note (.received s.request (currentGeneration s) frame))
  dsimp only
  rw [same] at calm ⊢
  split
  · exact ⟨noted.calm calm, Or.inl rfl, ⟨rfl, rfl, rfl, rfl⟩⟩
  · have expired := calm.trans (expirePendingBinary_calm _)
    obtain ⟨later, log, rest⟩ := expirePendingBinary_worked h
      ((s.note (.received s.request (currentGeneration s) frame)).worked
        (refreshed (s.note (.received s.request (currentGeneration s) frame))) host trace)
    rw [rest] at expired ⊢
    obtain ⟨settled, earned, framed⟩ :=
      dispatchCommand_accounted build frame (noted.calm expired) rfl ⟨s.history, rfl⟩
    exact ⟨settled, earned, framed.attached, framed.request, framed.active, framed.slots⟩

end Accounts

section Arrivals

variable {σ : Type} {h : CompanionBridgeHost σ}

theorem addToOfflineQueueBuffer_passes {c : Connection} {storeId : UInt32} {persistent : Bool} {frame : List UInt8}
    {queue : List Frame} (accepted : addToOfflineQueueBuffer c.offline storeId persistent frame = some queue)
    (genuine : persistent = true → ∀ bounded, Genuine h ⟨storeId, persistent, frame, bounded⟩) :
    Passes h c { c with offline := queue } := by
  obtain ⟨bounded, appended, short, -⟩ := addToOfflineQueueBuffer_some accepted
  obtain ⟨kept, rfl, sub, -⟩ := appendFrame_volatile appended short
  refine ⟨Or.inr ⟨rfl, rfl⟩, fun entry member durable => ?_,
    fun orderly => addToOfflineQueueBuffer_orderly orderly accepted⟩
  rcases List.mem_append.mp member with old | new
  · exact Or.inl (sub.subset old)
  · obtain rfl := List.mem_singleton.mp new
    exact Or.inr (genuine durable bounded)

theorem offerMessage_passes {host : σ} {persistent : Bool} {msg : StoredMessage} {c : Connection} {queue : List Frame}
    (incoming : msg.isSelf = false) (accepted : offerMessage h host persistent msg c = some queue) :
    Passes h c { c with offline := queue } :=
  addToOfflineQueueBuffer_passes accepted fun _ _ => ⟨host, c.appTargetVer, msg, incoming, rfl, rfl⟩

theorem offerSessions_calm (s : State σ) (skip : Option Nat) {offer : Connection → Option (List Frame)}
    (passes : ∀ c queue, offer c = some queue → Passes h c { c with offline := queue }) :
    Calm h s (offerSessions s skip offer).2 := by
  obtain ⟨sessions, kept, -, same⟩ := offerSessions_forall₂ s skip (Kept h)
    (fun _ => ⟨rfl, .refl _⟩) (fun session queue accepted => ⟨rfl, passes session.toConnection queue accepted⟩)
  rw [same]
  exact ⟨rfl, rfl, rfl, rfl, ⟨[], by simp [State.withQueues], by simp⟩, .refl _, kept⟩

theorem enqueueMessage_calm (s : State σ) (msg : StoredMessage) : Calm h s (enqueueMessage h s msg) := by
  unfold enqueueMessage
  split
  · exact .refl s
  rename_i incoming
  rw [Bool.not_eq_true] at incoming
  have notified (outcome : Bool × State σ) (calm : Calm h s outcome.2) :
      Calm h s (if outcome.1 then notifyWaiting outcome.2 else outcome.2) := by
    split
    · exact calm.trans (notifyWaiting_transmits _).calm
    · exact calm
  dsimp only
  split
  · exact notified _ (offerSessions_calm s none fun _ _ accepted => offerMessage_passes incoming accepted)
  · refine notified _ ?_
    unfold offerCurrent
    split
    · rename_i queue accepted
      dsimp only
      refine calm_update ?_
      exact offerMessage_passes incoming accepted
    · exact .refl s

end Arrivals

section Settled

variable {σ : Type} {h : CompanionBridgeHost σ} {s : State σ}

theorem enqueueChannelData_calm (s : State σ) (channelIndex snrQuarters pathLen : UInt8) (dataType : UInt16)
    (payload : List UInt8) : Calm h s (enqueueChannelData s channelIndex snrQuarters pathLen dataType payload) := by
  unfold enqueueChannelData
  split
  · exact .refl s
  dsimp only
  generalize channelDataFrame channelIndex snrQuarters pathLen dataType payload = frame
  have logged : Calm h s (s.logWrite 0 frame.length) := calm_worked (.refl _)
  have volatile (c : Connection) (queue : List Frame)
      (accepted : addToOfflineQueueBuffer c.offline 0 false frame = some queue) :
      Passes h c { c with offline := queue } := addToOfflineQueueBuffer_passes accepted nofun
  have notified (outcome : Bool × State σ) (calm : Calm h (s.logWrite 0 frame.length) outcome.2) :
      Calm h s (if outcome.1 then notifyWaiting outcome.2 else outcome.2) := by
    split
    · exact (logged.trans calm).trans (notifyWaiting_transmits _).calm
    · exact logged.trans calm
  split
  · exact notified _ (offerSessions_calm _ none volatile)
  · refine notified _ ?_
    split
    · rename_i queue accepted
      dsimp only
      refine calm_update ?_
      exact volatile _ queue accepted
    · exact .refl _

theorem pushBinaryResponse_calm (s : State σ) (tag : UInt32) (blob : List UInt8) :
    Calm h s (pushBinaryResponse h s tag blob).2 := by
  unfold pushBinaryResponse
  have expired := expirePendingBinary_calm (h := h) s
  generalize expirePendingBinary h s = middle at expired
  dsimp only
  split
  · exact expired
  generalize binaryResponseFrame tag blob = frame
  have logged : Calm h s (middle.logWrite 0 frame.length) := expired.trans (calm_worked (.refl _))
  have released (sent : State σ) (slot : Nat) (calm : Calm h s sent) :
      Calm h s (sent.update fun c => { c with pendingBinary := releaseRequest c.pendingBinary slot }) :=
    calm.trans (calm_update ⟨Or.inr ⟨rfl, rfl⟩, fun _ member _ => Or.inl member, id⟩)
  split
  · split
    · rename_i index peer generation slot owners
      have sent := logged.trans (transportsSendToResult_transmits _ peer frame).calm
      generalize transportsSendToResult (middle.logWrite 0 frame.length) peer frame = outcome at sent
      obtain ⟨ok, final⟩ := outcome
      cases ok with
      | false => exact sent
      | true =>
        dsimp only
        split
        · exact released final slot sent
        · refine sent.trans ⟨rfl, rfl, rfl, rfl, ⟨[], by simp, by simp⟩, .refl _, ?_⟩
          refine forall₂_modify (fun _ => ⟨rfl, .refl _⟩) (fun session => ⟨rfl, ?_⟩) _ _
          exact ⟨Or.inr ⟨rfl, rfl⟩, fun _ member _ => Or.inl member, id⟩
    · exact expired
  · split
    · exact expired
    · rename_i slot found
      split
      · exact expired
      · have sent := logged.trans (sendPushFrame_transmits _ frame).calm
        generalize sendPushFrame (middle.logWrite 0 frame.length) frame = outcome at sent
        obtain ⟨ok, final⟩ := outcome
        cases ok with
        | false => exact sent
        | true => exact released final slot sent

variable (h) in
/-- Between two steps no request is active. The bridge's own members are a connection only while it
    is detached. -/
structure Settled (s : State σ) : Prop where
  request : s.request = none
  active : s.active = none
  current : s.attached = false → Claims h s.history none s.current
  sessions : ∀ session ∈ s.sessions, Claims h s.history session.slot session.toConnection
  marks : Honest h s.history

theorem Settled.calm {after : State σ} (settled : Settled h s) (calm : Calm h s after) : Settled h after := by
  obtain ⟨events, same, wrote⟩ := calm.history
  have grown : s.history ⊆ after.history := by
    rw [same]
    exact List.subset_append_left _ _
  refine ⟨calm.request.trans settled.request, calm.active.trans settled.active, fun detached => ?_,
    fun session member => ?_, ?_⟩
  · rw [calm.attached] at detached
    exact ((settled.current detached).passes calm.current).mono grown
  · obtain ⟨old, present, slot, passes⟩ := forall₂_mem_right calm.sessions member
    rw [slot]
    exact ((settled.sessions old present).passes passes).mono grown
  · rw [same]
    exact settled.marks.append (unmarked_of_wrote wrote)

theorem Settled.accounted (settled : Settled h s) (detached : s.attached = false) : Accounted h s := by
  refine ⟨?_, settled.sessions, settled.marks⟩
  rw [settled.request]
  exact settled.current detached

theorem Accounted.settled {after : State σ} (accounted : Accounted h after) (framed : Framed s after)
    (settled : Settled h s) : Settled h after := by
  have request := framed.request.trans settled.request
  refine ⟨request, framed.active.trans settled.active, fun _ => ?_, accounted.sessions, accounted.marks⟩
  rw [← request]
  exact accounted.current

/-- The state in which the request of a slot works on its session. -/
def State.opened (s : State σ) (index : Nat) (peer : Peer) (session : TransportSession) : State σ :=
  { s with current := session.toConnection, request := some peer, active := some index }

theorem withSession_eq (s : State σ) {index : Nat} {session : TransportSession}
    (found : s.sessions[index]? = some session) (peer : Peer) (work : State σ → State σ) :
    withSession s index peer work = { work (s.opened index peer session) with
      sessions := (work (s.opened index peer session)).sessions.modify index
        (saveTransportSession (work (s.opened index peer session)).current)
      request := none
      active := none } := by
  unfold withSession
  rw [List.getD_eq_getElem?_getD, found]
  rfl

theorem Settled.opened (settled : Settled h s) {index : Nat} {session : TransportSession} {peer : Peer}
    (found : s.sessions[index]? = some session) (slot : session.slot = some peer) :
    Accounted h (s.opened index peer session) := by
  refine ⟨?_, settled.sessions, settled.marks⟩
  have claims := settled.sessions session (List.mem_of_getElem? found)
  rw [slot] at claims
  exact claims

theorem withSession_settled {index : Nat} {session : TransportSession} {peer : Peer}
    (found : s.sessions[index]? = some session) (slot : session.slot = some peer) (attached : s.attached = true)
    (work : State σ → State σ) (accounted : Accounted h (work (s.opened index peer session)))
    (framed : Framed (s.opened index peer session) (work (s.opened index peer session))) :
    Settled h (withSession s index peer work) ∧ (withSession s index peer work).attached = true := by
  rw [withSession_eq s found]
  generalize work (s.opened index peer session) = after at accounted framed
  have still : after.attached = true := framed.attached.trans attached
  refine ⟨⟨rfl, rfl, fun detached => ?_, fun kept member => ?_, accounted.marks⟩, still⟩
  · rw [show after.attached = false from detached] at still
    cases still
  · obtain ⟨i, here⟩ := List.mem_iff_getElem?.mp member
    have slots : (after.sessions[i]?).map (·.slot) = (s.sessions[i]?).map (·.slot) := by
      rw [← List.getElem?_map, ← List.getElem?_map, framed.slots]
      rfl
    dsimp only at here
    rw [List.getElem?_modify] at here
    cases stored : after.sessions[i]? with
    | none => simp [stored] at here
    | some old =>
      rw [stored] at here slots
      have written : (if index = i then saveTransportSession after.current old else old) = kept := Option.some.inj here
      have place := List.mem_of_getElem? stored
      by_cases same : index = i
      · rw [if_pos same] at written
        subst written
        rw [← same, found, Option.map_some, Option.map_some, slot] at slots
        have claims := accounted.current
        rw [framed.request] at claims
        change Claims h after.history old.slot after.current
        rw [Option.some.inj slots]
        exact claims
      · rw [if_neg same] at written
        subst written
        exact accounted.sessions _ place

theorem Settled.set (settled : Settled h s) (index : Nat) (session : TransportSession)
    (idle : session.inflightStoreId = 0) (empty : session.offline = []) :
    Settled h { s with sessions := s.sessions.set index session } := by
  refine ⟨settled.request, settled.active, settled.current, fun kept member => ?_, settled.marks⟩
  rcases List.mem_or_eq_of_mem_set member with old | rfl
  · exact settled.sessions kept old
  · refine ⟨fun claimed => absurd idle claimed, fun frame queued => ?_, empty ▸ orderly_nil⟩
    rw [empty] at queued
    cases queued

theorem ensureTransportSession_settled (settled : Settled h s) (peer : Peer) (generation : UInt32) :
    Settled h (ensureTransportSession h s peer generation).2 ∧
      (ensureTransportSession h s peer generation).2.attached = s.attached ∧
      (ensureTransportSession h s peer generation).2.store = s.store ∧
      ∀ index, (ensureTransportSession h s peer generation).1 = some index → ∃ session,
        (ensureTransportSession h s peer generation).2.sessions[index]? = some session ∧ session.slot = some peer := by
  unfold ensureTransportSession
  split
  · rename_i index found
    obtain ⟨inside, slot, -⟩ := List.findIdx?_eq_some_iff_getElem.mp found
    dsimp only
    split
    · refine ⟨?_, rfl, rfl, fun i same => ?_⟩
      · have fresh := settled.set index (freshSession peer generation true) rfl rfl
        exact ⟨fresh.request, fresh.active, fresh.current, fresh.sessions, fresh.marks⟩
      · obtain rfl := Option.some.inj same
        refine ⟨freshSession peer generation true, ?_, rfl⟩
        exact List.getElem?_set_self inside
    · refine ⟨settled, rfl, rfl, fun i same => ?_⟩
      obtain rfl := Option.some.inj same
      exact ⟨_, List.getElem?_eq_getElem inside, of_decide_eq_true slot⟩
  · split
    · rename_i index free
      obtain ⟨inside, -⟩ := List.findIdx?_eq_some_iff_getElem.mp free
      refine ⟨settled.set index _ rfl rfl, rfl, rfl, fun i same => ?_⟩
      obtain rfl := Option.some.inj same
      exact ⟨_, List.getElem?_set_self inside, rfl⟩
    · exact ⟨settled, rfl, rfl, nofun⟩

theorem handleTransportFrame_settled (build : Build) (settled : Settled h s) (attached : s.attached = true)
    (frame : List UInt8) (peer : Peer) (generation : UInt32) :
    Settled h (handleTransportFrame h build s frame peer generation) ∧
      MarksEarned h s (handleTransportFrame h build s frame peer generation) ∧
      (handleTransportFrame h build s frame peer generation).attached = true := by
  unfold handleTransportFrame
  split
  · exact ⟨settled, Or.inl rfl, attached⟩
  obtain ⟨ensured, still, store, owned⟩ := ensureTransportSession_settled settled peer generation
  generalize ensureTransportSession h s peer generation = outcome at ensured still store owned
  obtain ⟨found, middle⟩ := outcome
  dsimp only at ensured still store owned ⊢
  cases found with
  | none => exact ⟨ensured, Or.inl store, still.trans attached⟩
  | some index =>
    obtain ⟨session, present, slot⟩ := owned index rfl
    obtain ⟨accounted, earned, framed⟩ := handleFrame_accounted build frame (ensured.opened present slot)
    obtain ⟨done, kept⟩ := withSession_settled present slot (still.trans attached)
      (fun s => (handleFrame h build s frame).2) accounted framed
    refine ⟨done, ?_, kept⟩
    dsimp only
    rw [withSession_eq middle present]
    exact earned.before (s := s) store

theorem materializeSession_settled (settled : Settled h s) (attached : s.attached = true) (peer : Peer) :
    Settled h (materializeSession h s peer) ∧ (materializeSession h s peer).attached = true ∧
      (materializeSession h s peer).store = s.store := by
  unfold materializeSession
  split
  · obtain ⟨ensured, still, store, -⟩ :=
      ensureTransportSession_settled settled peer (transportsClientGeneration s peer)
    exact ⟨ensured, still.trans attached, store⟩
  · exact ⟨settled, attached, rfl⟩

theorem ensureTransportSession_slot (peer : Peer) (generation : UInt32) {index : Nat} {session : TransportSession}
    {owner : Peer} (found : s.sessions[index]? = some session) (slot : session.slot = some owner) :
    ∃ kept, (ensureTransportSession h s peer generation).2.sessions[index]? = some kept ∧ kept.slot = some owner := by
  obtain ⟨inside, rfl⟩ := List.getElem?_eq_some_iff.mp found
  unfold ensureTransportSession
  split
  · rename_i i known
    obtain ⟨bound, same, -⟩ := List.findIdx?_eq_some_iff_getElem.mp known
    dsimp only
    split
    · dsimp only
      rw [List.getElem?_set]
      split
      · rename_i here
        subst here
        have owned : s.sessions[i].slot = some peer := of_decide_eq_true same
        exact ⟨_, rfl, owned.symm.trans slot⟩
      · exact ⟨_, found, slot⟩
    · exact ⟨_, found, slot⟩
  · split
    · rename_i i free
      obtain ⟨bound, unused, -⟩ := List.findIdx?_eq_some_iff_getElem.mp free
      dsimp only
      rw [List.getElem?_set]
      split
      · rename_i here
        subst here
        rw [slot] at unused
        cases unused
      · exact ⟨_, found, slot⟩
    · exact ⟨_, found, slot⟩

theorem serviceSession_settled (settled : Settled h s) (attached : s.attached = true) (index : Nat) :
    Settled h (serviceSession h s index) ∧ (serviceSession h s index).attached = true ∧
      (serviceSession h s index).store = s.store := by
  unfold serviceSession
  split
  · exact ⟨settled, attached, rfl⟩
  rename_i peer slot
  obtain ⟨session, found, slot⟩ : ∃ session, s.sessions[index]? = some session ∧ session.slot = some peer := by
    rw [List.getD_eq_getElem?_getD] at slot
    cases present : s.sessions[index]? with
    | none =>
      rw [present] at slot
      cases slot
    | some session =>
      rw [present] at slot
      exact ⟨session, rfl, slot⟩
  split
  · obtain ⟨ensured, still, store, -⟩ :=
      ensureTransportSession_settled settled peer (transportsClientGeneration s peer)
    obtain ⟨kept, present, owner⟩ := ensureTransportSession_slot (h := h) peer (transportsClientGeneration s peer)
      found slot
    dsimp only
    generalize (ensureTransportSession h s peer (transportsClientGeneration s peer)).2 =
      middle at ensured still store present
    have calm : Calm h (middle.opened index peer kept)
        (serviceCurrentSession h (refreshConnectionSession h (middle.opened index peer kept))) :=
      (refreshConnectionSession_calm _).trans (serviceCurrentSession_calm _)
    obtain ⟨done, yet⟩ := withSession_settled present owner (still.trans attached)
      (fun s => serviceCurrentSession h (refreshConnectionSession h s))
      ((ensured.opened present owner).calm calm) calm.framed
    refine ⟨done, yet, ?_⟩
    rw [withSession_eq middle present]
    exact calm.store.trans store
  · exact ⟨settled, attached, rfl⟩

theorem foldl_settled {α : Type} {f : State σ → α → State σ}
    (each : ∀ {s}, Settled h s → s.attached = true → ∀ a,
      Settled h (f s a) ∧ (f s a).attached = true ∧ (f s a).store = s.store)
    (list : List α) {s : State σ} (settled : Settled h s) (attached : s.attached = true) :
    Settled h (list.foldl f s) ∧ (list.foldl f s).attached = true ∧ (list.foldl f s).store = s.store := by
  induction list generalizing s with
  | nil => exact ⟨settled, attached, rfl⟩
  | cons a rest ih =>
    obtain ⟨done, still, store⟩ := each settled attached a
    obtain ⟨all, kept, same⟩ := ih done still
    exact ⟨all, kept, same.trans store⟩

theorem serviceTransportSessions_settled (settled : Settled h s) (attached : s.attached = true) :
    Settled h (serviceTransportSessions h s) ∧ (serviceTransportSessions h s).attached = true ∧
      (serviceTransportSessions h s).store = s.store := by
  obtain ⟨first, still, store⟩ := foldl_settled (materializeSession_settled (h := h)) allPeers settled attached
  obtain ⟨second, kept, same⟩ := foldl_settled (serviceSession_settled (h := h))
    (List.range (allPeers.foldl (materializeSession h) s).sessions.length) first still
  exact ⟨second, kept, same.trans store⟩

theorem loop_settled (build : Build) (settled : Settled h s) (detached : s.attached = false) :
    Settled h (loop h build s) ∧ MarksEarned h s (loop h build s) := by
  have accounted := settled.accounted detached
  unfold loop
  have refreshed := refreshConnectionSession_calm (h := h) s
  generalize refreshConnectionSession h s = begun at refreshed
  dsimp only
  split
  · exact ⟨settled.calm refreshed, Or.inl refreshed.store⟩
  have flushed := (refreshed.trans (expirePendingBinary_calm begun)).trans
    (flushPendingResponse_calm (expirePendingBinary h begun))
  generalize flushPendingResponse (expirePendingBinary h begun) = outcome at flushed
  obtain ⟨done, middle⟩ := outcome
  dsimp only at flushed ⊢
  cases done with
  | false => exact ⟨settled.calm flushed, Or.inl flushed.store⟩
  | true =>
    dsimp only [takeInbox]
    have taken : Calm h s { middle with inbox := middle.inbox.tail } :=
      flushed.trans ⟨rfl, rfl, rfl, rfl, ⟨[], by simp, by simp⟩, .refl _, kept_self _⟩
    cases middle.inbox.head? with
    | none =>
      have served := taken.trans (serviceCurrentSession_calm _)
      exact ⟨settled.calm served, Or.inl served.store⟩
    | some frame =>
      dsimp only
      obtain ⟨handled, earned, framed⟩ := handleFrame_accounted build frame (accounted.calm taken)
      have served := serviceCurrentSession_calm (h := h)
        (handleFrame h build { middle with inbox := middle.inbox.tail } frame).2
      refine ⟨(handled.settled (taken.framed.trans framed) settled).calm served, ?_⟩
      exact (earned.before taken.store).calm served.store served.grown

variable (h) in
/-- The store changes through the environment, an arriving message, or one earned mark. -/
def StoreChange (s after : State σ) : Action σ → Prop
  | .storage store => after.store = store
  | .arrive msg => after.store = (messageStoreAppend s.store msg).2
  | _ => MarksEarned h s after

theorem storeAndEnqueue_settled (settled : Settled h s) (msg : StoredMessage) :
    Settled h (storeAndEnqueue h s msg) ∧ (storeAndEnqueue h s msg).store = (messageStoreAppend s.store msg).2 := by
  unfold storeAndEnqueue
  generalize messageStoreAppend s.store msg = outcome
  obtain ⟨stored, store⟩ := outcome
  have changed : Settled h { s with store := store } :=
    ⟨settled.request, settled.active, settled.current, settled.sessions, settled.marks⟩
  cases stored with
  | none => exact ⟨changed, rfl⟩
  | some storeId =>
    have calm := enqueueMessage_calm (h := h) { s with store := store } (msg.withId storeId)
    exact ⟨changed.calm calm, calm.store⟩

theorem step_settled (build : Build) (settled : Settled h s) (action : Action σ) :
    Settled h (step h build s action) ∧ StoreChange h s (step h build s action) action := by
  have kept (after : State σ) (calm : Calm h s after) : Settled h after ∧ MarksEarned h s after :=
    ⟨settled.calm calm, Or.inl calm.store⟩
  cases action with
  | relink links =>
    exact ⟨⟨settled.request, settled.active, settled.current, settled.sessions, settled.marks⟩, Or.inl rfl⟩
  | device host =>
    exact ⟨⟨settled.request, settled.active, settled.current, settled.sessions, settled.marks⟩, Or.inl rfl⟩
  | storage store => exact ⟨⟨settled.request, settled.active, settled.current, settled.sessions, settled.marks⟩, rfl⟩
  | serialFrame frame =>
    exact ⟨⟨settled.request, settled.active, settled.current, settled.sessions, settled.marks⟩, Or.inl rfl⟩
  | arrive msg => exact storeAndEnqueue_settled settled msg
  | channelData channelIndex snrQuarters pathLen dataType payload =>
    exact kept _ (enqueueChannelData_calm s channelIndex snrQuarters pathLen dataType payload)
  | binaryResponse tag blob => exact kept _ (pushBinaryResponse_calm s tag blob)
  | identityChanged => exact kept _ (onIdentityChanged_calm s)
  | dispatch peer frame =>
    simp only [step]
    split
    · rename_i attached
      unfold dispatchFrame
      split
      · exact ⟨settled, Or.inl rfl⟩
      · obtain ⟨done, earned, -⟩ :=
          handleTransportFrame_settled build settled attached frame peer (transportsClientGeneration s peer)
        exact ⟨done, earned⟩
    · exact ⟨settled, Or.inl rfl⟩
  | service =>
    simp only [step]
    split
    · rename_i attached
      obtain ⟨done, -, store⟩ := serviceTransportSessions_settled settled attached
      exact ⟨done, Or.inl store⟩
    · exact ⟨settled, Or.inl rfl⟩
  | round =>
    simp only [step]
    split
    · exact ⟨settled, Or.inl rfl⟩
    · rename_i detached
      exact loop_settled build settled (by simpa using detached)

theorem dispatchFrame_settled (build : Build) (settled : Settled h s) (attached : s.attached = true) (peer : Peer)
    (frame : List UInt8) :
    Settled h (dispatchFrame h build s peer frame) ∧ (dispatchFrame h build s peer frame).attached = true ∧
      dispatchFrame h build s peer frame = step h build s (.dispatch peer frame) := by
  have same : step h build s (.dispatch peer frame) = dispatchFrame h build s peer frame := by
    simp only [step, attached, if_true]
  refine ⟨same ▸ (step_settled build settled (.dispatch peer frame)).1, ?_, same.symm⟩
  unfold dispatchFrame
  split
  · exact attached
  · exact (handleTransportFrame_settled build settled attached frame peer _).2.2

theorem dispatchNext_settled (build : Build) (settled : Settled h s) (attached : s.attached = true) (id : TransportId)
    (next : Option (Nat × List UInt8)) : ∃ after actions,
      (match next with
        | some (client, frame) => dispatchFrame h build s ⟨id, client⟩ frame
        | none => s) = after ∧
      after = Runs.run (step h build) s actions ∧ Settled h after ∧ after.attached = true := by
  cases next with
  | none => exact ⟨s, [], rfl, rfl, settled, attached⟩
  | some received =>
    obtain ⟨client, frame⟩ := received
    obtain ⟨done, still, same⟩ := dispatchFrame_settled build settled attached ⟨id, client⟩ frame
    exact ⟨_, [.dispatch ⟨id, client⟩ frame], rfl, same, done, still⟩

theorem transportsLoop_eq_run (build : Build) (settled : Settled h s) (attached : s.attached = true)
    (tcp ws : Option (Nat × List UInt8)) :
    ∃ inbox actions, transportsLoop h build s tcp ws = Runs.run (step h build) { s with inbox := inbox } actions := by
  obtain ⟨inbox, first, serial, taken, run, settled, attached⟩ : ∃ inbox first actions,
      (if s.attached && s.links.serialEnabled then
        (takeInbox s).1.elim (takeInbox s).2 (dispatchFrame h build (takeInbox s).2 ⟨.ble, 0⟩)
      else s) = first ∧ first = Runs.run (step h build) { s with inbox := inbox } actions ∧ Settled h first ∧
      first.attached = true := by
    split
    · dsimp only [takeInbox]
      have taken : Settled h { s with inbox := s.inbox.tail } :=
        ⟨settled.request, settled.active, settled.current, settled.sessions, settled.marks⟩
      cases s.inbox.head? with
      | none => exact ⟨s.inbox.tail, _, [], rfl, rfl, taken, attached⟩
      | some frame =>
        obtain ⟨done, still, same⟩ := dispatchFrame_settled build taken attached ⟨.ble, 0⟩ frame
        exact ⟨s.inbox.tail, _, [.dispatch ⟨.ble, 0⟩ frame], rfl, same, done, still⟩
    · exact ⟨s.inbox, s, [], rfl, rfl, settled, attached⟩
  obtain ⟨second, tcpActions, tcpSame, tcpRun, settled, attached⟩ :=
    dispatchNext_settled build settled attached .tcp tcp
  obtain ⟨third, wsActions, wsSame, wsRun, settled, attached⟩ :=
    dispatchNext_settled build settled attached .ws ws
  refine ⟨inbox, serial ++ tcpActions ++ wsActions ++ [.service], ?_⟩
  have whole : transportsLoop h build s tcp ws = serviceTransportSessions h third := by
    rw [← wsSame, ← tcpSame, ← taken]
    unfold transportsLoop takeInbox
    cases s.inbox.head? with
    | none => rfl
    | some frame => rfl
  rw [whole, Runs.run_concat, Runs.run_append, Runs.run_append, ← run, ← tcpRun, ← wsRun]
  simp only [step, attached, if_true]

end Settled

end SigurdOS.Companion
