import SigurdOS.Companion.AtLeastOnce
import SigurdOS.Companion.Contacts

namespace SigurdOS.Companion

open Bytes MessageStore

section Expected

variable {σ : Type} (h : CompanionBridgeHost σ)

/-- A pass sends the contacts that changed after `since`, and all of them for 0. -/
def due (since : UInt32) (contact : CompanionContact) : Bool := decide (since = 0 ∨ since < contact.lastmod)

def dueBefore (host : σ) (since : UInt32) (index : Nat) : List CompanionContact :=
  ((List.range index).filterMap (h.getContact · host)).filter (due since)

def newest (contacts : List CompanionContact) : UInt32 :=
  contacts.foldl (fun recent contact => raised recent contact.lastmod) 0

def startFrame (host : σ) : List UInt8 := 2 :: word (UInt32.ofNat (h.contactCount host))

def framesBefore (host : σ) (since : UInt32) (index : Nat) : List (List UInt8) :=
  startFrame h host :: (dueBefore h host since index).map contactFrame

def passFrames (host : σ) (since : UInt32) : List (List UInt8) :=
  framesBefore h host since (h.contactCount host) ++ [endFrame (newest (dueBefore h host since (h.contactCount host)))]

variable {h} {host other : σ} {since : UInt32}

theorem SameContacts.dueBefore (same : SameContacts h host other) (since : UInt32) (index : Nat) :
    dueBefore h other since index = dueBefore h host since index := by
  have found : (h.getContact · other) = (h.getContact · host) := funext same.2
  unfold Companion.dueBefore
  rw [found]

theorem SameContacts.framesBefore (same : SameContacts h host other) (since : UInt32) (index : Nat) :
    framesBefore h other since index = framesBefore h host since index := by
  unfold Companion.framesBefore startFrame
  rw [same.dueBefore, same.1]

theorem SameContacts.passFrames (same : SameContacts h host other) (since : UInt32) :
    passFrames h other since = passFrames h host since := by
  unfold Companion.passFrames
  rw [same.framesBefore, same.dueBefore, same.1]

theorem dueBefore_skip {index : Nat}
    (skipped : ∀ contact, h.getContact index host = some contact → due since contact = false) :
    dueBefore h host since (index + 1) = dueBefore h host since index := by
  unfold dueBefore
  rw [List.range_succ, List.filterMap_append, List.filter_append]
  cases found : h.getContact index host with
  | none => simp [found]
  | some contact => simp [found, skipped contact found]

theorem dueBefore_send {index : Nat} {contact : CompanionContact} (found : h.getContact index host = some contact)
    (sends : due since contact = true) :
    dueBefore h host since (index + 1) = dueBefore h host since index ++ [contact] := by
  unfold dueBefore
  rw [List.range_succ, List.filterMap_append, List.filter_append]
  simp [found, sends]

theorem nextContact_due (remaining index : Nat) :
    (∃ contact next, nextContact h host since remaining index = some (contact, next) ∧ next ≤ index + remaining ∧
      dueBefore h host since next = dueBefore h host since index ++ [contact]) ∨
    nextContact h host since remaining index = none ∧
      dueBefore h host since (index + remaining) = dueBefore h host since index := by
  induction remaining generalizing index with
  | zero => exact Or.inr ⟨rfl, rfl⟩
  | succ remaining ih =>
    have passed : dueBefore h host since (index + 1) = dueBefore h host since index →
        (∃ contact next, nextContact h host since remaining (index + 1) = some (contact, next) ∧
          next ≤ index + (remaining + 1) ∧ dueBefore h host since next = dueBefore h host since index ++ [contact]) ∨
        nextContact h host since remaining (index + 1) = none ∧
          dueBefore h host since (index + (remaining + 1)) = dueBefore h host since index := by
      intro same
      have shift : index + (remaining + 1) = index + 1 + remaining := by omega
      rw [shift, ← same]
      exact ih (index + 1)
    unfold nextContact
    cases found : h.getContact index host with
    | none =>
      refine passed (dueBefore_skip fun contact here => ?_)
      rw [found] at here
      cases here
    | some contact =>
      dsimp only
      split
      · rename_i old
        refine passed (dueBefore_skip fun other here => ?_)
        obtain rfl := Option.some.inj (found.symm.trans here)
        simp [due, old.1, old.2]
      · rename_i new
        have sends : due since contact = true := by
          rw [not_and, UInt32.not_le] at new
          rw [due, decide_eq_true_iff]
          by_cases zero : since = 0
          · exact Or.inl zero
          · exact Or.inr (new zero)
        exact Or.inl ⟨contact, index + 1, rfl, by omega, dueBefore_send found sends⟩

theorem newest_concat (contacts : List CompanionContact) (contact : CompanionContact) :
    newest (contacts ++ [contact]) = raised (newest contacts) contact.lastmod := by
  simp [newest]

end Expected

section Bystanders

variable {σ : Type} {h : CompanionBridgeHost σ} {s middle after : State σ}

structure Bystander (s after : State σ) : Prop where
  request : after.request = s.request
  history : s.history <+: after.history
  iter : after.current.contactIter = s.current.contactIter
  since : after.current.iterFilterSince = s.current.iterFilterSince
  recent : after.current.mostRecentLastmod = s.current.mostRecentLastmod

theorem Bystander.trans (first : Bystander s middle) (second : Bystander middle after) : Bystander s after :=
  ⟨second.request.trans first.request, first.history.trans second.history, second.iter.trans first.iter,
    second.since.trans first.since, second.recent.trans first.recent⟩

theorem Bystander.of_same (request : after.request = s.request) (history : after.history = s.history)
    (iter : after.current.contactIter = s.current.contactIter)
    (since : after.current.iterFilterSince = s.current.iterFilterSince)
    (recent : after.current.mostRecentLastmod = s.current.mostRecentLastmod) : Bystander s after :=
  ⟨request, history ▸ List.prefix_rfl, iter, since, recent⟩

theorem Transmits.bystander (transmits : Transmits s after) : Bystander s after := by
  obtain ⟨accepts, events, rfl, -⟩ := transmits
  exact ⟨rfl, List.prefix_append _ _, rfl, rfl, rfl⟩

theorem sendResponseFrame_bystander (s : State σ) (frame : List UInt8) : Bystander s (sendResponseFrame s frame) := by
  have logged : Bystander s (s.logResponse frame) := .of_same rfl rfl rfl rfl rfl
  rcases sendResponseFrame_cases s frame with sent | ⟨middle, sent, -, -, held⟩
  · exact logged.trans sent.bystander
  · rw [held]
    exact (logged.trans sent.bystander).trans (.of_same rfl rfl rfl rfl rfl)

theorem refillOfflineQueueFromStore_bystander (s : State σ) (notify : Bool) :
    Bystander s (refillOfflineQueueFromStore h s notify) := by
  obtain ⟨queue, sessions, -, -, -, transmits⟩ := refillOfflineQueueFromStore_extends h s notify
  have queued : Bystander s (s.withQueues queue sessions) := .of_same rfl rfl rfl rfl rfl
  exact queued.trans transmits.bystander

theorem pushTelemetryResponse_bystander (s : State σ) (senderPrefix blob : List UInt8) :
    Bystander s (pushTelemetryResponse s senderPrefix blob) := by
  unfold pushTelemetryResponse
  split
  · exact .of_same rfl rfl rfl rfl rfl
  · have logged (length : Nat) : Bystander s (s.logWrite 0 length) := .of_same rfl rfl rfl rfl rfl
    exact (logged _).trans (sendPushFrame_transmits _ _).bystander

theorem acknowledgeInflight_bystander (s : State σ) : Bystander s (acknowledgeInflight s) := by
  rcases acknowledgeInflight_cases s with ⟨-, same⟩ | ⟨-, -, same⟩ | ⟨-, same⟩
  · rw [same]
    exact .of_same rfl rfl rfl rfl rfl
  · rw [same]
    exact .of_same rfl rfl rfl rfl rfl
  · rw [same, State.marked_eq]
    generalize (messageStoreMarkCompanionSent s.store s.current.inflightStoreId).1 = marked
    cases marked with
    | true => exact ⟨rfl, List.prefix_append _ _, rfl, rfl, rfl⟩
    | false => exact ⟨rfl, List.prefix_append _ _, rfl, rfl, rfl⟩

theorem deliverHead_bystander (s : State σ) (head : Frame) : Bystander s (deliverHead s head) := by
  have logged : Bystander s (s.logWrite 0 head.buf.length) := .of_same rfl rfl rfl rfl rfl
  have written := logged.trans
    (writeFrameToCurrentTransport_transmits (s.logWrite 0 head.buf.length) head.buf).bystander
  unfold deliverHead
  generalize writeFrameToCurrentTransport (s.logWrite 0 head.buf.length) head.buf = outcome at written
  obtain ⟨ok, middle⟩ := outcome
  cases ok with
  | false => exact written
  | true =>
    have noted : Bystander middle (middle.note (.delivered middle.request (currentGeneration middle) head)) :=
      ⟨rfl, List.prefix_append _ _, rfl, rfl, rfl⟩
    dsimp only
    split
    · exact (written.trans noted).trans (.of_same rfl rfl rfl rfl rfl)
    · exact (written.trans noted).trans (.of_same rfl rfl rfl rfl rfl)

theorem syncNextMessage_bystander (s : State σ) : Bystander s (syncNextMessage h s) := by
  have timed : Bystander s { s with lastSyncTime := h.currentTime s.host } := .of_same rfl rfl rfl rfl rfl
  unfold syncNextMessage
  dsimp only
  split
  · exact timed.trans (sendResponseFrame_bystander _ _)
  have acknowledged := timed.trans (acknowledgeInflight_bystander { s with lastSyncTime := h.currentTime s.host })
  generalize acknowledgeInflight { s with lastSyncTime := h.currentTime s.host } = middle at acknowledged
  have filled : Bystander s
      (if middle.current.offline.isEmpty then refillOfflineQueueFromStore h middle false else middle) := by
    split
    · exact acknowledged.trans (refillOfflineQueueFromStore_bystander middle false)
    · exact acknowledged
  generalize (if middle.current.offline.isEmpty then refillOfflineQueueFromStore h middle false else middle) = final
    at filled
  split
  · exact filled.trans (sendResponseFrame_bystander _ _)
  · exact filled.trans (deliverHead_bystander _ _)

end Bystanders

section Commands

variable {σ : Type} {h : CompanionBridgeHost σ} {build : Build} {frame : List UInt8} {connection : Connection}

def IterKept (connection : Connection) (outcome : Outcome) : Prop :=
  outcome.connection.contactIter = connection.contactIter ∧
    outcome.connection.iterFilterSince = connection.iterFilterSince ∧
    outcome.connection.mostRecentLastmod = connection.mostRecentLastmod

theorem sessionCommand_iterKept {command : CompanionCommand} (other : command ≠ .getContacts)
    (started : command ≠ .appStart) :
    Returns (sessionCommand h build frame connection command) (IterKept connection) := by
  intro work
  have kept := @sessionCommand_keeps σ h build frame connection _ command
    (fun c => (c.contactIter, c.iterFilterSince, c.mostRecentLastmod)) (fun _ _ => rfl) (fun _ _ _ => rfl)
    (fun same => absurd same started) (fun same => absurd same other) (fun _ _ _ _ => rfl) work
  simp only [Prod.mk.injEq] at kept
  exact kept

def importedKey (frame : List UInt8) : List UInt8 := ((cmdFrame frame).drop 1).take 64

def ImportsKey (h : CompanionBridgeHost σ) (host : σ) (frame : List UInt8) : Prop :=
  commandOf (frame.headD 0) = some .importPrivateKey ∧ (h.importPrivateKey (importedKey frame) host).1 = true

theorem importPrivateKey_follow {work : Work σ}
    (refused : (h.importPrivateKey (importedKey frame) work.host).1 = false) :
    ((importPrivateKey h frame connection).run work).1.follow ≠ .identityChanged := by
  have follow : ((importPrivateKey h frame connection).run work).1.follow =
      if (h.importPrivateKey (importedKey frame) work.host).1 then .identityChanged else .nothing := rfl
  rw [follow, refused]
  exact Follow.noConfusion

theorem followBefore_bystander {s : State σ} {follow : Follow} (unchanged : follow ≠ .identityChanged) :
    Bystander s (followBefore s follow) := by
  cases follow with
  | identityChanged => exact absurd rfl unchanged
  | disableTransport =>
    unfold followBefore disableTransport
    dsimp only
    split
    all_goals exact .of_same rfl rfl rfl rfl rfl
  | nothing => exact .of_same rfl rfl rfl rfl rfl
  | refill => exact .of_same rfl rfl rfl rfl rfl
  | telemetry senderPrefix blob => exact .of_same rfl rfl rfl rfl rfl

theorem followAfter_bystander (s : State σ) (follow : Follow) : Bystander s (followAfter h s follow) := by
  cases follow with
  | refill => exact refillOfflineQueueFromStore_bystander s true
  | telemetry senderPrefix blob => exact pushTelemetryResponse_bystander s senderPrefix blob
  | nothing => exact .of_same rfl rfl rfl rfl rfl
  | identityChanged => exact .of_same rfl rfl rfl rfl rfl
  | disableTransport => exact .of_same rfl rfl rfl rfl rfl

theorem runCommand_bystander {s : State σ} {command : CompanionCommand} (other : command ≠ .getContacts)
    (started : command ≠ .appStart)
    (refused : command = .importPrivateKey → (h.importPrivateKey (importedKey frame) s.host).1 = false) :
    Bystander s (runCommand h build s frame command) := by
  unfold runCommand
  have beside := @sessionCommand_iterKept σ h build frame s.current command other started
    ⟨s.host, !s.current.pendingResponse.isEmpty, s.trace⟩
  have follow : ((sessionCommand h build frame s.current command).run
      ⟨s.host, !s.current.pendingResponse.isEmpty, s.trace⟩).1.follow ≠ .identityChanged := by
    by_cases import_ : command = .importPrivateKey
    · subst import_
      exact importPrivateKey_follow (refused rfl)
    · exact (sessionCommand_retained h build frame command _).2.2.2.2 import_
  generalize (sessionCommand h build frame s.current command).run
    ⟨s.host, !s.current.pendingResponse.isEmpty, s.trace⟩ = outcome at beside follow
  obtain ⟨outcome, work⟩ := outcome
  dsimp only at beside follow ⊢
  have worked : Bystander s { s with current := outcome.connection, host := work.host, trace := work.trace } :=
    .of_same rfl rfl beside.1 beside.2.1 beside.2.2
  have followed := worked.trans (followBefore_bystander follow)
  cases outcome.reply with
  | none => exact followed.trans (followAfter_bystander _ _)
  | some reply => exact (followed.trans (sendResponseFrame_bystander _ reply)).trans (followAfter_bystander _ _)

theorem dispatchCommand_bystander {s : State σ} (other : commandOf (frame.headD 0) ≠ some .getContacts)
    (started : commandOf (frame.headD 0) ≠ some .appStart) (refused : ¬ ImportsKey h s.host frame) :
    Bystander s (dispatchCommand h build s frame) := by
  have read : Bystander s { s with trace := { s.trace with reads := s.trace.reads ++ [(0, 1)] } } :=
    .of_same rfl rfl rfl rfl rfl
  unfold dispatchCommand
  dsimp only
  split
  · exact read.trans (sendResponseFrame_bystander _ _)
  rename_i command known
  rw [known] at other started
  split
  · exact read.trans (sendResponseFrame_bystander _ _)
  split
  · exact read.trans (syncNextMessage_bystander _)
  · refine read.trans (runCommand_bystander (fun same => other (congrArg some same))
      (fun same => started (congrArg some same)) fun same => ?_)
    rw [← Bool.not_eq_true]
    intro taken
    exact refused ⟨by rw [known, same], taken⟩

theorem runCommand_idle {s : State σ} {command : CompanionCommand} (other : command ≠ .getContacts)
    (idle : s.current.contactIter = none) : (runCommand h build s frame command).current.contactIter = none := by
  unfold runCommand
  have rests : ((sessionCommand h build frame s.current command).run
      ⟨s.host, !s.current.pendingResponse.isEmpty, s.trace⟩).1.connection.contactIter = none := by
    by_cases started : command = .appStart
    · subst started
      rfl
    · exact (sessionCommand_iterKept other started _).1.trans idle
  generalize (sessionCommand h build frame s.current command).run
    ⟨s.host, !s.current.pendingResponse.isEmpty, s.trace⟩ = outcome at rests
  obtain ⟨outcome, work⟩ := outcome
  dsimp only at rests ⊢
  have followed : (followBefore { s with current := outcome.connection, host := work.host, trace := work.trace }
      outcome.follow).current.contactIter = none := by
    by_cases changed : outcome.follow = .identityChanged
    · rw [changed]
      rfl
    · exact (followBefore_bystander changed).iter.trans rests
  cases outcome.reply with
  | none => exact (followAfter_bystander _ _).iter.trans followed
  | some reply =>
    exact (followAfter_bystander _ _).iter.trans ((sendResponseFrame_bystander _ reply).iter.trans followed)

theorem dispatchCommand_grows (s : State σ) (frame : List UInt8) :
    (dispatchCommand h build s frame).request = s.request ∧
    s.history <+: (dispatchCommand h build s frame).history := by
  unfold dispatchCommand
  dsimp only
  split
  · have sent := sendResponseFrame_bystander
      { s with trace := { s.trace with reads := s.trace.reads ++ [(0, 1)] } } (errFrame .unsupportedCmd)
    exact ⟨sent.request, sent.history⟩
  rename_i command known
  split
  · have sent := sendResponseFrame_bystander
      { s with trace := { s.trace with reads := s.trace.reads ++ [(0, 1)] } } (errFrame .illegalArg)
    exact ⟨sent.request, sent.history⟩
  split
  · have synced := @syncNextMessage_bystander σ h
      { s with trace := { s.trace with reads := s.trace.reads ++ [(0, 1)] } }
    exact ⟨synced.request, synced.history⟩
  · have calm := @runCommand_calm σ h build { s with trace := { s.trace with reads := s.trace.reads ++ [(0, 1)] } }
      frame command
    obtain ⟨events, grown, -⟩ := calm.history
    exact ⟨calm.request, grown ▸ List.prefix_append _ _⟩

theorem dispatchCommand_idle {s : State σ} (other : commandOf (frame.headD 0) ≠ some .getContacts)
    (idle : s.current.contactIter = none) : (dispatchCommand h build s frame).current.contactIter = none := by
  unfold dispatchCommand
  dsimp only
  split
  · exact (sendResponseFrame_bystander _ _).iter.trans idle
  rename_i command known
  rw [known] at other
  split
  · exact (sendResponseFrame_bystander _ _).iter.trans idle
  split
  · exact (syncNextMessage_bystander _).iter.trans idle
  · exact runCommand_idle (fun same => other (congrArg some same)) idle

end Commands

section Output

variable {σ : Type} {h : CompanionBridgeHost σ} {build : Build} {s after : State σ} {frame : List UInt8}

def parked (s : State σ) : List (List UInt8) :=
  if s.current.pendingResponse = [] then [] else [s.current.pendingResponse]

theorem parked_nil (idle : s.current.pendingResponse = []) : parked s = [] := if_pos idle

theorem pending_of_parked_nil (none : parked s = []) : s.current.pendingResponse = [] := by
  unfold parked at none
  split at none
  · assumption
  · cases none

theorem pending_of_parked {frame : List UInt8} (one : parked s = [frame]) : s.current.pendingResponse = frame := by
  unfold parked at one
  split at one
  · cases one
  · exact List.singleton_inj.mp one

/-- A frame that was handed over has reached the client or waits in the response slot. -/
inductive Emits (s : State σ) (frame : List UInt8) (after : State σ) : Prop
  | arrived (client : inbound after = inbound s ++ [frame]) (slot : after.current.pendingResponse = [])
  | waits (client : inbound after = inbound s) (slot : after.current.pendingResponse = frame)

theorem sendResponseFrame_emits (idle : s.current.pendingResponse = []) (valid : validFrame frame = true) :
    Emits s frame (sendResponseFrame s frame) := by
  obtain ⟨streams, handed⟩ := sendResponseFrame_streams idle valid
  rw [outbound_of_idle idle] at handed
  rcases streams.arrives with kept | drained
  · have rest : inbound s ++ parked (sendResponseFrame s frame) = inbound s ++ [frame] := by
      rw [← kept]
      rw [← kept] at handed
      exact handed
    exact .waits kept (pending_of_parked (List.append_cancel_left rest))
  · have rest : inbound (sendResponseFrame s frame) ++ parked (sendResponseFrame s frame) =
        inbound (sendResponseFrame s frame) ++ [] := by
      rw [List.append_nil]
      exact drained.symm
    exact .arrived (drained.trans handed) (pending_of_parked_nil (List.append_cancel_left rest))

theorem flushPendingResponse_emits (s : State σ) :
    (flushPendingResponse s).1 = true ∧ (flushPendingResponse s).2.current.pendingResponse = [] ∧
        inbound (flushPendingResponse s).2 = inbound s ++ parked s ∨
      (flushPendingResponse s).1 = false ∧ s.current.pendingResponse ≠ [] ∧
        (flushPendingResponse s).2.current.pendingResponse = s.current.pendingResponse ∧
        inbound (flushPendingResponse s).2 = inbound s := by
  obtain ⟨-, same, drained⟩ := flushPendingResponse_streams s
  cases done : (flushPendingResponse s).1 with
  | true =>
    have empty := drained done
    rw [outbound_of_idle empty] at same
    exact Or.inl ⟨rfl, empty, same⟩
  | false =>
    rcases flushPendingResponse_cases s with ⟨flushed, -⟩ | ⟨middle, sent, flushed, filled⟩ | ⟨middle, -, flushed⟩
    · rw [flushed] at done
      cases done
    · obtain ⟨accepts, events, rfl, -⟩ := sent
      have kept : (flushPendingResponse s).2.current.pendingResponse = s.current.pendingResponse := by rw [flushed]; rfl
      have tail : parked (flushPendingResponse s).2 = parked s := by
        unfold parked
        rw [kept]
      refine Or.inr ⟨rfl, filled, kept, ?_⟩
      have whole : inbound (flushPendingResponse s).2 ++ parked (flushPendingResponse s).2 = inbound s ++ parked s :=
        same
      rw [tail] at whole
      exact List.append_cancel_right whole
    · rw [flushed] at done
      cases done

theorem Bystander.inbound (beside : Bystander s after) : inbound s <+: inbound after := by
  unfold Companion.inbound
  rw [beside.request]
  exact beside.history.filterMap _

theorem flushPendingResponse_bystander (s : State σ) : Bystander s (flushPendingResponse s).2 := by
  rcases flushPendingResponse_cases s with ⟨flushed, -⟩ | ⟨middle, sent, flushed, -⟩ | ⟨middle, sent, flushed⟩
  · rw [flushed]
    exact .of_same rfl rfl rfl rfl rfl
  · rw [flushed]
    exact sent.bystander
  · rw [flushed]
    exact sent.bystander.trans (.of_same rfl rfl rfl rfl rfl)

theorem expirePendingBinary_bystander (s : State σ) :
    Bystander s (expirePendingBinary h s) ∧ inbound (expirePendingBinary h s) = inbound s ∧
      (expirePendingBinary h s).current.pendingResponse = s.current.pendingResponse := by
  obtain ⟨host, trace, same⟩ := expirePendingBinary_worked h s
  rw [same]
  exact ⟨.of_same rfl rfl rfl rfl rfl, rfl, rfl⟩

def SameConnection (s : State σ) : Prop :=
  s.current.connectionGeneration = 0 ∨
    currentTransportConnected s = true ∧ currentGeneration s = s.current.connectionGeneration

theorem refreshConnectionSession_same (same : SameConnection s) :
    refreshConnectionSession h s = s.update fun c =>
      { c with connectionGeneration := currentGeneration s, wasConnected := currentTransportConnected s } := by
  have unchanged : (s.current.connectionGeneration != 0 &&
      (!currentTransportConnected s || currentGeneration s != s.current.connectionGeneration)) = false := by
    rcases same with zero | ⟨connected, generation⟩
    · rw [zero]
      rfl
    · rw [connected, generation]
      simp
  unfold refreshConnectionSession
  dsimp only
  rw [unchanged, Bool.and_false, if_neg Bool.false_ne_true]

def commandState (h : CompanionBridgeHost σ) (s : State σ) (frame : List UInt8) : State σ :=
  expirePendingBinary h (refreshConnectionSession h (s.note (.received s.request (currentGeneration s) frame)))

theorem commandState_beside (same : SameConnection s) (frame : List UInt8) :
    Bystander s (commandState h s frame) ∧ inbound (commandState h s frame) = inbound s ∧
      (commandState h s frame).current.pendingResponse = s.current.pendingResponse := by
  have noted : Companion.inbound (s.note (.received s.request (currentGeneration s) frame)) = inbound s := by
    simp [Companion.inbound, State.note, List.filterMap_append, Event.wroteTo]
  have refreshed := @refreshConnectionSession_same σ h (s.note (.received s.request (currentGeneration s) frame)) same
  obtain ⟨beside, client, slot⟩ := @expirePendingBinary_bystander σ h
    (refreshConnectionSession h (s.note (.received s.request (currentGeneration s) frame)))
  have early : Bystander s (refreshConnectionSession h (s.note (.received s.request (currentGeneration s) frame))) := by
    rw [refreshed]
    exact ⟨rfl, List.prefix_append _ _, rfl, rfl, rfl⟩
  refine ⟨early.trans beside, client.trans ?_, slot.trans ?_⟩
  · rw [refreshed]
    exact noted
  · rw [refreshed]
    rfl

theorem handleFrame_cases (same : SameConnection s) (frame : List UInt8) :
    Bystander s (handleFrame h build s frame).2 ∧ inbound (handleFrame h build s frame).2 = inbound s ∧
        (handleFrame h build s frame).2.current.pendingResponse = s.current.pendingResponse ∨
      s.current.pendingResponse = [] ∧
        (handleFrame h build s frame).2 = dispatchCommand h build (commandState h s frame) frame := by
  have refreshed := @refreshConnectionSession_same σ h (s.note (.received s.request (currentGeneration s) frame)) same
  have slot : (refreshConnectionSession h
      (s.note (.received s.request (currentGeneration s) frame))).current.pendingResponse =
      s.current.pendingResponse := by
    rw [refreshed]
    rfl
  unfold handleFrame
  split
  · exact Or.inl ⟨.of_same rfl rfl rfl rfl rfl, rfl, rfl⟩
  · dsimp only
    split
    · refine Or.inl ⟨?_, ?_, slot⟩
      · rw [refreshed]
        exact ⟨rfl, List.prefix_append _ _, rfl, rfl, rfl⟩
      · rw [refreshed]
        simp [Companion.inbound, State.note, State.update, List.filterMap_append, Event.wroteTo]
    · rename_i free
      refine Or.inr ⟨?_, rfl⟩
      rw [slot] at free
      simpa using free

end Output

section Watching

variable {σ : Type} (h : CompanionBridgeHost σ) (build : Build)

/-- The turns of a session, and the pushes that go out between them. -/
inductive PassMove (σ : Type) where
  | turn (move : Turn σ)
  | push (frame : List UInt8)

def passStep (s : State σ) : PassMove σ → State σ
  | .turn move => turn h build s move
  | .push frame => (sendPushFrame s frame).2

/-- A session with the frames its client has received since the last pass began, each marked with whether it belongs
    to the pass. `expected` are the frames of that pass, `earlier` what the client had received before it, and `slot`
    says whether the pending response belongs to the pass. Nothing but `state` is in the code. -/
structure Watched (σ : Type) where
  state : State σ
  expected : Option (List (List UInt8))
  earlier : List (List UInt8)
  stream : List (Bool × List UInt8)
  slot : Bool

def marked (own : Bool) (frames : List (List UInt8)) : List (Bool × List UInt8) := frames.map (own, ·)

def fresh (s after : State σ) : List (List UInt8) := (inbound after).drop (inbound s).length

def BeginsPass (s after : State σ) : Prop := s.current.contactIter = none ∧ after.current.contactIter ≠ none

instance (s after : State σ) : Decidable (BeginsPass s after) := inferInstanceAs (Decidable (_ ∧ _))

/-- A waiting frame arrives first; what the service itself hands over belongs to the pass, what a request hands over
    does not, unless it begins one. -/
def watch (w : Watched σ) (move : PassMove σ) : Watched σ :=
  let after := passStep h build w.state move
  let arrived := fresh w.state after
  let occupied := w.state.current.pendingResponse ≠ []
  match move with
  | .turn (.request frame) =>
    if BeginsPass w.state after then
      { state := after
        expected := some (passFrames h after.host (requestedSince frame))
        earlier := inbound w.state
        stream := marked true arrived
        slot := true }
    else
      { w with state := after, stream := w.stream ++ marked false arrived, slot := if occupied then w.slot else false }
  | .turn .service =>
    if occupied then
      { w with
        state := after
        stream := w.stream ++ (marked w.slot (arrived.take 1) ++ marked true (arrived.drop 1))
        slot := if arrived = [] then w.slot else true }
    else { w with state := after, stream := w.stream ++ marked true arrived, slot := true }
  | .turn .flush => { w with state := after, stream := w.stream ++ marked w.slot arrived }
  | _ => { w with state := after, stream := w.stream ++ marked false arrived }

def watching (s : State σ) : Watched σ := ⟨s, none, [], [], false⟩

namespace Watched

/-- The frames of the pass that have reached the client. -/
def written (w : Watched σ) : List (List UInt8) := (w.stream.filter Prod.fst).map Prod.snd

/-- The frame of the pass that waits in the response slot. -/
def waiting (w : Watched σ) : List (List UInt8) := if w.slot then parked w.state else []

end Watched

/-- The connection stays the same, and its client does not start anew while a pass runs. -/
def OnSameConnection (w : Watched σ) : PassMove σ → Prop
  | .turn .refresh => SameConnection w.state
  | .turn (.request frame) =>
    SameConnection w.state ∧ (w.state.current.contactIter ≠ none → commandOf (frame.headD 0) ≠ some .appStart)
  | _ => True

/-- The contacts stay as they are while a pass runs. -/
def PassSteady (w : Watched σ) (move : PassMove σ) : Prop :=
  (w.state.current.contactIter ≠ none → SameContacts h w.state.host (passStep h build w.state move).host) ∧
    OnSameConnection w move

/-- The device takes no other private key while a pass runs. -/
def KeepsKey (w : Watched σ) (move : PassMove σ) : Prop :=
  ∀ frame, move = .turn (.request frame) → w.state.current.contactIter ≠ none →
    ¬ ImportsKey h (commandState h w.state frame).host frame

def Unblocked (s : State σ) : Prop :=
  (flushPendingResponse (expirePendingBinary h s)).1 = true ∧
    ¬ ((flushPendingResponse (expirePendingBinary h s)).2.links.writeBusy = true ∧
      (s.request = none ∨ ∃ peer, s.request = some peer ∧ peer.id = .ble))

structure PassServed (w : Watched σ) (frames : List (List UInt8)) : Prop where
  recorded : inbound w.state = w.earlier ++ w.stream.map Prod.snd
  ordered : w.written <+: frames
  finished : w.state.current.contactIter = none → w.written ++ w.waiting = frames
  advances : w.state.current.contactIter ≠ none → PassSteady h build w (.turn .service) → Unblocked h w.state →
    ∃ frame, (watch h build w (.turn .service)).written ++ (watch h build w (.turn .service)).waiting =
      w.written ++ w.waiting ++ [frame]

variable {h build} {w next : Watched σ} {frames : List (List UInt8)}

/-- What a watched pass keeps: the frames handed over so far are those up to the iterator. -/
structure Underway (h : CompanionBridgeHost σ) (w : Watched σ) (frames : List (List UInt8)) : Prop where
  recorded : inbound w.state = w.earlier ++ w.stream.map Prod.snd
  running : ∀ index, w.state.current.contactIter = some index →
    index ≤ h.contactCount w.state.host ∧ frames = passFrames h w.state.host w.state.current.iterFilterSince ∧
      w.written ++ w.waiting = framesBefore h w.state.host w.state.current.iterFilterSince index ∧
      w.state.current.mostRecentLastmod = newest (dueBefore h w.state.host w.state.current.iterFilterSince index)
  finished : w.state.current.contactIter = none → w.written ++ w.waiting = frames

theorem marked_frames (own : Bool) (frames : List (List UInt8)) : (marked own frames).map Prod.snd = frames := by
  unfold marked
  rw [List.map_map]
  exact List.map_id frames

theorem marked_own (frames : List (List UInt8)) : ((marked true frames).filter Prod.fst).map Prod.snd = frames := by
  have all : (marked true frames).filter Prod.fst = marked true frames := by
    rw [List.filter_eq_self]
    intro entry inside
    obtain ⟨frame, -, rfl⟩ := List.mem_map.mp inside
    rfl
  rw [all, marked_frames]

theorem marked_other (frames : List (List UInt8)) : ((marked false frames).filter Prod.fst).map Prod.snd = [] := by
  have none : (marked false frames).filter Prod.fst = [] := by
    rw [List.filter_eq_nil_iff]
    intro entry inside
    obtain ⟨frame, -, rfl⟩ := List.mem_map.mp inside
    exact Bool.false_ne_true
  rw [none]
  rfl

theorem inbound_fresh {s after : State σ} (grown : inbound s <+: inbound after) :
    inbound after = inbound s ++ fresh s after := by
  obtain ⟨rest, grown⟩ := grown
  unfold fresh
  rw [← grown, List.drop_left]

theorem Underway.beside (under : Underway h w frames) (earlier : next.earlier = w.earlier)
    (grown : inbound w.state <+: inbound next.state)
    (streams : next.stream.map Prod.snd = w.stream.map Prod.snd ++ fresh w.state next.state)
    (handed : next.written ++ next.waiting = w.written ++ w.waiting)
    (rests : w.state.current.contactIter = none → next.state.current.contactIter = none)
    (kept : w.state.current.contactIter ≠ none →
      Bystander w.state next.state ∧ SameContacts h w.state.host next.state.host) : Underway h next frames := by
  refine ⟨?_, ?_, ?_⟩
  · rw [inbound_fresh grown, under.recorded, earlier, streams, List.append_assoc]
  · intro index running
    cases before : w.state.current.contactIter with
    | none => exact absurd ((rests before).symm.trans running) nofun
    | some place =>
      obtain ⟨beside, same⟩ := kept (by rw [before]; exact nofun)
      rw [beside.iter, before] at running
      obtain rfl := Option.some.inj running
      obtain ⟨inside, all, sent, recent⟩ := under.running place before
      rw [handed, beside.since, beside.recent, same.passFrames, same.framesBefore, same.dueBefore, same.1]
      exact ⟨inside, all, sent, recent⟩
  · intro ended
    cases before : w.state.current.contactIter with
    | none => rw [handed, under.finished before]
    | some place =>
      obtain ⟨beside, -⟩ := kept (by rw [before]; exact nofun)
      rw [beside.iter, before] at ended
      cases ended

theorem fresh_self {s after : State σ} (same : inbound after = inbound s) : fresh s after = [] := by
  unfold fresh
  rw [same, List.drop_length]

theorem written_append (stream more : List (Bool × List UInt8)) :
    ((stream ++ more).filter Prod.fst).map Prod.snd =
      (stream.filter Prod.fst).map Prod.snd ++ (more.filter Prod.fst).map Prod.snd := by
  rw [List.filter_append, List.map_append]

theorem Underway.aside (under : Underway h w frames) {after : State σ} (beside : Bystander w.state after)
    (slot : after.current.pendingResponse = w.state.current.pendingResponse)
    (same : w.state.current.contactIter ≠ none → SameContacts h w.state.host after.host) :
    Underway h { w with state := after, stream := w.stream ++ marked false (fresh w.state after) } frames := by
  refine under.beside rfl beside.inbound ?_ ?_ (fun idle => beside.iter.trans idle)
    (fun running => ⟨beside, same running⟩)
  · rw [List.map_append, marked_frames]
  · unfold Watched.written Watched.waiting parked
    dsimp only
    rw [written_append, marked_other, List.append_nil, slot]

theorem Underway.flushed (under : Underway h w frames) {after : State σ} (beside : Bystander w.state after)
    (same : w.state.current.contactIter ≠ none → SameContacts h w.state.host after.host)
    (emits : after.current.pendingResponse = [] ∧ inbound after = inbound w.state ++ parked w.state ∨
      after.current.pendingResponse = w.state.current.pendingResponse ∧ inbound after = inbound w.state) :
    Underway h { w with state := after, stream := w.stream ++ marked w.slot (fresh w.state after) } frames := by
  refine under.beside rfl beside.inbound ?_ ?_ (fun idle => beside.iter.trans idle)
    (fun running => ⟨beside, same running⟩)
  · rw [List.map_append, marked_frames]
  · unfold Watched.written Watched.waiting
    dsimp only
    rw [written_append, List.append_assoc]
    congr 1
    rcases emits with ⟨empty, arrived⟩ | ⟨slot, client⟩
    · have new : fresh w.state after = parked w.state := by rw [fresh, arrived, List.drop_left]
      rw [new, parked_nil empty]
      cases w.slot with
      | true => rw [marked_own, if_pos rfl, if_pos rfl, List.append_nil]
      | false => rw [marked_other, if_neg Bool.false_ne_true, if_neg Bool.false_ne_true, List.append_nil]
    · rw [fresh_self client]
      unfold parked
      rw [slot]
      rfl

theorem flush_drains {s : State σ} (done : (flushPendingResponse (expirePendingBinary h s)).1 = true) :
    (turn h build s .flush).current.pendingResponse = [] ∧
      inbound (turn h build s .flush) = inbound s ++ parked s := by
  obtain ⟨-, client, slot⟩ := @expirePendingBinary_bystander σ h s
  have waits : parked (expirePendingBinary h s) = parked s := by rw [parked, slot, ← parked]
  rcases flushPendingResponse_emits (expirePendingBinary h s) with ⟨-, empty, arrived⟩ | ⟨failed, -⟩
  · exact ⟨empty, by rw [← client, ← waits]; exact arrived⟩
  · rw [done] at failed
    cases failed

theorem flush_emits (s : State σ) :
    (turn h build s .flush).current.pendingResponse = [] ∧ inbound (turn h build s .flush) = inbound s ++ parked s ∨
      (turn h build s .flush).current.pendingResponse = s.current.pendingResponse ∧
        inbound (turn h build s .flush) = inbound s := by
  obtain ⟨-, client, slot⟩ := @expirePendingBinary_bystander σ h s
  rcases flushPendingResponse_emits (expirePendingBinary h s) with ⟨done, -⟩ | ⟨-, -, kept, same⟩
  · exact Or.inl (flush_drains done)
  · exact Or.inr ⟨kept.trans slot, same.trans client⟩

theorem flush_bystander (s : State σ) : Bystander s (turn h build s .flush) :=
  (expirePendingBinary_bystander s).1.trans (flushPendingResponse_bystander _)

theorem Underway.answered (under : Underway h w frames) {frame : List UInt8} (connection : SameConnection w.state)
    (same : w.state.current.contactIter ≠ none →
      SameContacts h w.state.host (handleFrame h build w.state frame).2.host)
    (allowed : w.state.current.contactIter ≠ none →
      commandOf (frame.headD 0) ≠ some .appStart ∧ ¬ ImportsKey h (commandState h w.state frame).host frame)
    (other : ¬ BeginsPass w.state (handleFrame h build w.state frame).2) :
    Underway h
      { w with
        state := (handleFrame h build w.state frame).2
        stream := w.stream ++ marked false (fresh w.state (handleFrame h build w.state frame).2)
        slot := if w.state.current.pendingResponse ≠ [] then w.slot else false } frames := by
  rcases @handleFrame_cases σ h build w.state connection frame with ⟨beside, -, slot⟩ | ⟨free, ran⟩
  · by_cases occupied : w.state.current.pendingResponse ≠ []
    · rw [if_pos occupied]
      exact under.aside beside slot same
    · rw [if_neg occupied]
      rw [not_not] at occupied
      have empty : parked (handleFrame h build w.state frame).2 = [] := parked_nil (slot.trans occupied)
      refine under.beside rfl beside.inbound ?_ ?_ (fun idle => beside.iter.trans idle)
        (fun running => ⟨beside, same running⟩)
      · rw [List.map_append, marked_frames]
      · simp [Watched.written, Watched.waiting, marked_other, parked_nil occupied]
  · obtain ⟨prepared, -, -⟩ := @commandState_beside σ h w.state connection frame
    obtain ⟨request, history⟩ := @dispatchCommand_grows σ h build (commandState h w.state frame) frame
    have grown : inbound w.state <+: inbound (handleFrame h build w.state frame).2 := by
      refine prepared.inbound.trans ?_
      rw [ran]
      unfold inbound
      rw [request]
      exact history.filterMap _
    have beside : w.state.current.contactIter ≠ none → Bystander w.state (handleFrame h build w.state frame).2 := by
      intro running
      obtain ⟨started, refused⟩ := allowed running
      rw [ran]
      by_cases contacts : commandOf (frame.headD 0) = some .getContacts
      · obtain ⟨trace, dispatched⟩ := @dispatchCommand_getContacts σ h build (commandState h w.state frame)
          frame contacts
        have still : (commandState h w.state frame).current.contactIter.isSome = true := by
          rw [prepared.iter]
          exact Option.isSome_iff_ne_none.mpr running
        have traced : Bystander (commandState h w.state frame) { commandState h w.state frame with trace := trace } :=
          .of_same rfl rfl rfl rfl rfl
        rw [dispatched, if_pos still]
        exact (prepared.trans traced).trans (sendResponseFrame_bystander _ _)
      · exact prepared.trans (dispatchCommand_bystander contacts started refused)
    refine under.beside rfl grown ?_ ?_ ?_ (fun running => ⟨beside running, same running⟩)
    · rw [List.map_append, marked_frames]
    · simp [Watched.written, Watched.waiting, marked_other, free, parked_nil]
    · intro idle
      rw [← not_ne_iff]
      exact fun begun => other ⟨idle, begun⟩

theorem begun_underway {s : State σ} {frame : List UInt8} (connection : SameConnection s)
    (begins : BeginsPass s (handleFrame h build s frame).2) (expected : Option (List (List UInt8))) :
    Underway h
      ⟨(handleFrame h build s frame).2, expected, inbound s,
        marked true (fresh s (handleFrame h build s frame).2), true⟩
      (passFrames h (handleFrame h build s frame).2.host (requestedSince frame)) := by
  obtain ⟨idle, begun⟩ := begins
  obtain ⟨prepared, client, slot⟩ := @commandState_beside σ h s connection frame
  rcases @handleFrame_cases σ h build s connection frame with ⟨beside, -, -⟩ | ⟨free, ran⟩
  · exact absurd (beside.iter.trans idle) begun
  have resting : (commandState h s frame).current.contactIter = none := prepared.iter.trans idle
  have contacts : commandOf (frame.headD 0) = some .getContacts := by
    by_contra other
    rw [ran] at begun
    exact begun (dispatchCommand_idle other resting)
  obtain ⟨trace, dispatched⟩ := @dispatchCommand_getContacts σ h build (commandState h s frame) frame contacts
  rw [resting, if_neg (by simp)] at dispatched
  rw [ran, dispatched]
  have emits := @sendResponseFrame_emits σ
    { commandState h s frame with
      current := { (commandState h s frame).current with
        iterFilterSince := requestedSince frame, contactIter := some 0, mostRecentLastmod := 0 }
      trace := trace } (2 :: word (UInt32.ofNat (h.contactCount (commandState h s frame).host))) (slot.trans free) rfl
  obtain ⟨streams, -⟩ := @sendResponseFrame_streams σ
    { commandState h s frame with
      current := { (commandState h s frame).current with
        iterFilterSince := requestedSince frame, contactIter := some 0, mostRecentLastmod := 0 }
      trace := trace } (2 :: word (UInt32.ofNat (h.contactCount (commandState h s frame).host))) (slot.trans free) rfl
  generalize sendResponseFrame
    { commandState h s frame with
      current := { (commandState h s frame).current with
        iterFilterSince := requestedSince frame, contactIter := some 0, mostRecentLastmod := 0 }
      trace := trace } (2 :: word (UInt32.ofNat (h.contactCount (commandState h s frame).host))) =
        after at emits streams
  have start : startFrame h after.host = 2 :: word (UInt32.ofNat (h.contactCount (commandState h s frame).host)) := by
    rw [streams.host]
    rfl
  have heard : ∀ state : State σ, inbound state = inbound (commandState h s frame) → inbound state = inbound s :=
    fun _ same => same.trans client
  refine ⟨?_, ?_, ?_⟩
  · rw [marked_frames]
    apply inbound_fresh
    cases emits with
    | arrived arrived empty =>
      rw [arrived]
      exact (heard _ rfl) ▸ List.prefix_append _ _
    | waits arrived filled => exact (heard _ arrived) ▸ List.prefix_rfl
  · intro index running
    have zero : index = 0 := (Option.some.inj ((streams.iter.symm.trans running))).symm
    have since : after.current.iterFilterSince = requestedSince frame := streams.since
    have recent : after.current.mostRecentLastmod = 0 := streams.recent
    subst zero
    dsimp only
    rw [since]
    refine ⟨Nat.zero_le _, rfl, ?_, recent⟩
    unfold framesBefore
    rw [start]
    unfold Watched.written Watched.waiting
    dsimp only
    rw [marked_own, if_pos rfl]
    cases emits with
    | arrived arrived empty =>
      have new : fresh s after = [2 :: word (UInt32.ofNat (h.contactCount (commandState h s frame).host))] := by
        have here : inbound after = inbound s ++
            [2 :: word (UInt32.ofNat (h.contactCount (commandState h s frame).host))] :=
          arrived.trans (congrArg (· ++ _) (heard _ rfl))
        rw [fresh, here, List.drop_left]
      rw [new, parked_nil empty]
      rfl
    | waits arrived filled =>
      rw [fresh_self (heard _ arrived), parked, filled]
      rfl
  · intro ended
    exact absurd (streams.iter.symm.trans ended) nofun

theorem sendContact_kept {s : State σ} (free : s.current.pendingResponse = []) (index : Nat) :
    (sendContact h s index).request = s.request ∧ (sendContact h s index).host = s.host ∧
      (sendContact h s index).current.iterFilterSince = s.current.iterFilterSince := by
  unfold sendContact
  split
  · rename_i contact next found
    obtain ⟨streams, -⟩ := @sendResponseFrame_streams σ ((s.update fun c => { c with
      contactIter := some next
      mostRecentLastmod := raised c.mostRecentLastmod contact.lastmod }).logWrite 0 (contactFrame contact).length)
      (contactFrame contact) free (validFrame_contactFrame contact)
    exact ⟨streams.request, streams.host, streams.since⟩
  · obtain ⟨streams, -⟩ := @sendResponseFrame_streams σ
      (s.logWrite 0 (endFrame s.current.mostRecentLastmod).length) (endFrame s.current.mostRecentLastmod) free rfl
    exact ⟨streams.request, streams.host, streams.since⟩

theorem Emits.of_same {s middle after final : State σ} {frame : List UInt8} (emits : Emits middle frame after)
    (before : inbound middle = inbound s) (client : inbound final = inbound after)
    (slot : final.current.pendingResponse = after.current.pendingResponse) : Emits s frame final := by
  cases emits with
  | arrived arrived empty => exact .arrived (by rw [client, arrived, before]) (slot.trans empty)
  | waits waits filled => exact .waits (by rw [client, waits, before]) (slot.trans filled)

theorem sendContact_emits {s : State σ} (free : s.current.pendingResponse = []) {index : Nat}
    (inside : index ≤ h.contactCount s.host) :
    (∃ contact next, Emits s (contactFrame contact) (sendContact h s index) ∧
        (sendContact h s index).current.contactIter = some next ∧ next ≤ h.contactCount s.host ∧
        dueBefore h s.host s.current.iterFilterSince next =
          dueBefore h s.host s.current.iterFilterSince index ++ [contact] ∧
        (sendContact h s index).current.mostRecentLastmod = raised s.current.mostRecentLastmod contact.lastmod) ∨
      Emits s (endFrame s.current.mostRecentLastmod) (sendContact h s index) ∧
        (sendContact h s index).current.contactIter = none ∧
        dueBefore h s.host s.current.iterFilterSince (h.contactCount s.host) =
          dueBefore h s.host s.current.iterFilterSince index := by
  have reach : index + (h.contactCount s.host - index) = h.contactCount s.host := by omega
  unfold sendContact
  rcases @nextContact_due σ h s.host s.current.iterFilterSince (h.contactCount s.host - index) index with
    ⟨contact, next, found, bound, sent⟩ | ⟨none, rest⟩
  · rw [found]
    rw [reach] at bound
    dsimp only
    obtain ⟨streams, -⟩ := @sendResponseFrame_streams σ ((s.update fun c => { c with
      contactIter := some next
      mostRecentLastmod := raised c.mostRecentLastmod contact.lastmod }).logWrite 0 (contactFrame contact).length)
      (contactFrame contact) free (validFrame_contactFrame contact)
    have emits := @sendResponseFrame_emits σ ((s.update fun c => { c with
      contactIter := some next
      mostRecentLastmod := raised c.mostRecentLastmod contact.lastmod }).logWrite 0 (contactFrame contact).length)
      (contactFrame contact) free (validFrame_contactFrame contact)
    exact Or.inl ⟨contact, next, emits.of_same rfl rfl rfl, streams.iter, bound, sent, streams.recent⟩
  · rw [none]
    rw [reach] at rest
    dsimp only
    have emits := @sendResponseFrame_emits σ
      (s.logWrite 0 (endFrame s.current.mostRecentLastmod).length) (endFrame s.current.mostRecentLastmod) free rfl
    exact Or.inr ⟨emits.of_same rfl rfl rfl, rfl, rest⟩

theorem Emits.grown {s after : State σ} {frame : List UInt8} (emits : Emits s frame after) :
    inbound s <+: inbound after := by
  cases emits with
  | arrived arrived empty => exact ⟨[frame], arrived.symm⟩
  | waits waits slot => exact waits ▸ List.prefix_rfl

theorem Emits.handed {s middle after : State σ} {frame : List UInt8} (emits : Emits middle frame after)
    (drained : inbound middle = inbound s ++ parked s) (filled : frame ≠ []) :
    ∃ rest, fresh s after = parked s ++ rest ∧ rest ++ parked after = [frame] := by
  cases emits with
  | arrived arrived empty =>
    refine ⟨[frame], ?_, ?_⟩
    · rw [fresh, arrived, drained, List.append_assoc, List.drop_left]
    · rw [parked_nil empty]
      rfl
  | waits waits slot =>
    refine ⟨[], ?_, ?_⟩
    · rw [fresh, waits, drained, List.drop_left, List.append_nil]
    · rw [parked, slot, if_neg filled]
      rfl

theorem framesBefore_concat {host : σ} {since : UInt32} {index next : Nat} {contact : CompanionContact}
    (sent : dueBefore h host since next = dueBefore h host since index ++ [contact]) :
    framesBefore h host since next = framesBefore h host since index ++ [contactFrame contact] := by
  unfold framesBefore
  rw [sent, List.map_append]
  rfl

theorem serviceCurrentSession_cases (s : State σ) :
    serviceCurrentSession h s = turn h build s .flush ∧ (s.current.contactIter ≠ none → ¬ Unblocked h s) ∨
      ∃ index, s.current.contactIter = some index ∧ (flushPendingResponse (expirePendingBinary h s)).1 = true ∧
        serviceCurrentSession h s = sendContact h (turn h build s .flush) index := by
  have beside : Bystander s (flushPendingResponse (expirePendingBinary h s)).2 := @flush_bystander σ h build s
  unfold serviceCurrentSession Unblocked turn
  dsimp only
  generalize flushPendingResponse (expirePendingBinary h s) = outcome at beside
  obtain ⟨done, middle⟩ := outcome
  cases done with
  | false => exact Or.inl ⟨rfl, fun _ unblocked => Bool.false_ne_true unblocked.1⟩
  | true =>
    dsimp only at beside ⊢
    rw [beside.iter, beside.request]
    cases running : s.current.contactIter with
    | none => exact Or.inl ⟨rfl, fun runs => absurd rfl runs⟩
    | some index =>
      dsimp only
      cases peer : s.request with
      | none =>
        dsimp only
        rw [Bool.and_true]
        split
        · rename_i busy
          exact Or.inl ⟨rfl, fun _ unblocked => unblocked.2 ⟨busy, Or.inl rfl⟩⟩
        · exact Or.inr ⟨index, rfl, rfl, rfl⟩
      | some slot =>
        dsimp only
        split
        · rename_i busy
          rw [Bool.and_eq_true, decide_eq_true_iff] at busy
          exact Or.inl ⟨rfl, fun _ unblocked => unblocked.2 ⟨busy.1, Or.inr ⟨slot, rfl, busy.2⟩⟩⟩
        · exact Or.inr ⟨index, rfl, rfl, rfl⟩

theorem watch_service_handed {rest : List (List UInt8)}
    (arrived : fresh w.state (serviceCurrentSession h w.state) = parked w.state ++ rest) :
    (watch h build w (.turn .service)).written ++ (watch h build w (.turn .service)).waiting =
      w.written ++ w.waiting ++ (rest ++ parked (serviceCurrentSession h w.state)) := by
  have new : fresh w.state (passStep h build w.state (.turn .service)) = parked w.state ++ rest := arrived
  unfold watch
  dsimp only
  rw [new]
  unfold Watched.written Watched.waiting
  by_cases occupied : w.state.current.pendingResponse ≠ []
  · have one : parked w.state = [w.state.current.pendingResponse] := if_neg occupied
    rw [if_pos occupied, one]
    dsimp only
    rw [written_append, written_append, List.singleton_append, List.take_succ_cons, List.take_zero, List.drop_succ_cons,
      List.drop_zero, marked_own, if_neg (List.cons_ne_nil _ _), if_pos rfl]
    cases w.slot with
    | true => rw [marked_own, if_pos rfl, List.append_assoc, List.append_assoc, List.append_assoc]; rfl
    | false =>
      rw [marked_other, if_neg Bool.false_ne_true, List.nil_append, List.append_nil, List.append_assoc]
      rfl
  · have empty : parked w.state = [] := parked_nil (not_not.mp occupied)
    rw [if_neg occupied, empty]
    dsimp only
    rw [written_append, List.nil_append, marked_own, if_pos rfl, ite_self, List.append_nil, List.append_assoc]
    rfl

theorem watch_service_stuck (occupied : w.state.current.pendingResponse ≠ [])
    (slot : (serviceCurrentSession h w.state).current.pendingResponse = w.state.current.pendingResponse)
    (client : inbound (serviceCurrentSession h w.state) = inbound w.state) :
    (watch h build w (.turn .service)).written ++ (watch h build w (.turn .service)).waiting =
      w.written ++ w.waiting := by
  have new : fresh w.state (passStep h build w.state (.turn .service)) = [] := fresh_self client
  unfold watch
  dsimp only
  rw [new, if_pos occupied]
  unfold Watched.written Watched.waiting
  dsimp only
  rw [written_append, if_pos rfl]
  have kept : parked (passStep h build w.state (.turn .service)) = parked w.state := by
    unfold parked passStep turn
    rw [slot]
  rw [kept]
  exact congrArg (· ++ _) (List.append_nil _)

theorem watch_service_state : (watch h build w (.turn .service)).state = serviceCurrentSession h w.state ∧
    (watch h build w (.turn .service)).earlier = w.earlier ∧
    (watch h build w (.turn .service)).stream.map Prod.snd =
      w.stream.map Prod.snd ++ fresh w.state (serviceCurrentSession h w.state) := by
  unfold watch
  dsimp only
  split
  · refine ⟨rfl, rfl, ?_⟩
    rw [List.map_append, List.map_append, marked_frames, marked_frames, List.take_append_drop]
    rfl
  · refine ⟨rfl, rfl, ?_⟩
    rw [List.map_append, marked_frames]
    rfl

theorem Underway.served (under : Underway h w frames)
    (same : w.state.current.contactIter ≠ none → SameContacts h w.state.host (serviceCurrentSession h w.state).host) :
    Underway h (watch h build w (.turn .service)) frames ∧
      (w.state.current.contactIter ≠ none → Unblocked h w.state →
        ∃ frame, (watch h build w (.turn .service)).written ++ (watch h build w (.turn .service)).waiting =
          w.written ++ w.waiting ++ [frame]) := by
  obtain ⟨state, earlier, streams⟩ := @watch_service_state σ h build w
  have flushed := @flush_bystander σ h build w.state
  rcases @serviceCurrentSession_cases σ h build w.state with ⟨rests, blocked⟩ | ⟨index, running, done, sends⟩
  · refine ⟨?_, fun runs unblocked => absurd unblocked (blocked runs)⟩
    have beside : Bystander w.state (watch h build w (.turn .service)).state := by
      rw [state, rests]
      exact flushed
    refine under.beside earlier beside.inbound ?_ ?_ (fun idle => beside.iter.trans idle)
      (fun runs => ⟨beside, by rw [state]; exact same runs⟩)
    · rw [state, streams]
    · rcases @flush_emits σ h build w.state with ⟨empty, arrived⟩ | ⟨slot, client⟩
      · have new : fresh w.state (serviceCurrentSession h w.state) = parked w.state ++ [] := by
          rw [fresh, rests, arrived, List.drop_left, List.append_nil]
        have quiet : parked (serviceCurrentSession h w.state) = [] := by
          rw [rests]
          exact parked_nil empty
        rw [watch_service_handed new, quiet, List.append_nil, List.append_nil]
      · by_cases occupied : w.state.current.pendingResponse = []
        · have new : fresh w.state (serviceCurrentSession h w.state) = parked w.state ++ [] := by
            rw [rests, fresh_self client, parked_nil occupied]
            rfl
          have quiet : parked (serviceCurrentSession h w.state) = [] := by
            rw [rests]
            exact parked_nil (slot.trans occupied)
          rw [watch_service_handed new, quiet, List.append_nil, List.append_nil]
        · exact watch_service_stuck occupied (by rw [rests]; exact slot) (by rw [rests]; exact client)
  · obtain ⟨inside, all, sent, recent⟩ := under.running index running
    have same := same (by rw [running]; exact nofun)
    obtain ⟨free, drained⟩ := @flush_drains σ h build w.state done
    obtain ⟨request, host, since⟩ := @sendContact_kept σ h (turn h build w.state .flush) free index
    rw [← sends] at request host since
    have step := @sendContact_emits σ h (turn h build w.state .flush) free index
    rw [← sends, ← host, same.1, flushed.since, flushed.recent] at step
    simp only [same.dueBefore] at step
    have handed {frame : List UInt8} (emits : Emits (turn h build w.state .flush) frame
        (serviceCurrentSession h w.state))
        (filled : frame ≠ []) :
        (watch h build w (.turn .service)).written ++ (watch h build w (.turn .service)).waiting =
            w.written ++ w.waiting ++ [frame] ∧
          inbound (watch h build w (.turn .service)).state =
            (watch h build w (.turn .service)).earlier ++ (watch h build w (.turn .service)).stream.map Prod.snd := by
      obtain ⟨rest, arrived, one⟩ := emits.handed drained filled
      refine ⟨by rw [watch_service_handed arrived, one], ?_⟩
      rw [state, inbound_fresh (flushed.inbound.trans emits.grown), under.recorded, earlier, streams, List.append_assoc]
    rcases step inside with ⟨contact, place, emits, iter, bound, due, raise⟩ | ⟨emits, ended, due⟩
    · obtain ⟨total, recorded⟩ := handed emits (List.cons_ne_nil _ _)
      refine ⟨⟨recorded, ?_, fun ended => ?_⟩, fun _ _ => ⟨_, total⟩⟩
      · intro index' running'
        rw [state, iter] at running'
        obtain rfl := Option.some.inj running'
        rw [total, state, since, flushed.since, raise, same.passFrames, same.framesBefore, same.dueBefore, same.1]
        refine ⟨bound, all, ?_, ?_⟩
        · rw [sent, framesBefore_concat due]
        · rw [recent, due, newest_concat]
      · rw [state, iter] at ended
        cases ended
    · obtain ⟨total, recorded⟩ := handed emits (List.cons_ne_nil _ _)
      refine ⟨⟨recorded, fun index' running' => ?_, fun _ => ?_⟩, fun _ _ => ⟨_, total⟩⟩
      · rw [state, ended] at running'
        cases running'
      · rw [total, all, sent, recent, passFrames, framesBefore, framesBefore, due]

theorem Transmits.slot {s after : State σ} (transmits : Transmits s after) :
    after.current.pendingResponse = s.current.pendingResponse := by
  obtain ⟨accepts, events, rfl, -⟩ := transmits
  rfl

theorem watch_underway {move : PassMove σ} (steady : PassSteady h build w move) (keepsKey : KeepsKey h w move)
    (under : ∀ frames, w.expected = some frames → Underway h w frames) (frames : List (List UInt8))
    (expected : (watch h build w move).expected = some frames) : Underway h (watch h build w move) frames := by
  obtain ⟨same, allowed⟩ := steady
  cases move with
  | push frame =>
    have sent := sendPushFrame_transmits w.state frame
    exact (under frames expected).aside sent.bystander sent.slot same
  | turn move =>
    cases move with
    | relink links => exact (under frames expected).aside (.of_same rfl rfl rfl rfl rfl) rfl same
    | device host => exact (under frames expected).aside (.of_same rfl rfl rfl rfl rfl) rfl same
    | take => exact (under frames expected).aside (.of_same rfl rfl rfl rfl rfl) rfl same
    | refresh =>
      have refreshed := @refreshConnectionSession_same σ h w.state allowed
      refine (under frames expected).aside ?_ ?_ same
      · unfold passStep turn
        rw [refreshed]
        exact .of_same rfl rfl rfl rfl rfl
      · unfold passStep turn
        rw [refreshed]
        rfl
    | flush =>
      exact (under frames expected).flushed (@flush_bystander σ h build w.state) same (@flush_emits σ h build w.state)
    | service =>
      have before : w.expected = some frames := by
        rw [← expected]
        unfold watch
        dsimp only
        split <;> rfl
      exact ((under frames before).served same).1
    | request frame =>
      obtain ⟨connection, allowed⟩ := allowed
      by_cases begins : BeginsPass w.state (handleFrame h build w.state frame).2
      · have watched : watch h build w (.turn (.request frame)) = _ := if_pos begins
        rw [watched] at expected ⊢
        obtain rfl := Option.some.inj expected
        exact begun_underway connection begins _
      · have watched : watch h build w (.turn (.request frame)) = _ := if_neg begins
        rw [watched] at expected ⊢
        exact (under frames expected).answered connection same
          (fun running => ⟨allowed running, keepsKey frame rfl running⟩) begins

theorem framesBefore_begins {host : σ} {since : UInt32} {index count : Nat} (inside : index ≤ count) :
    framesBefore h host since index <+: framesBefore h host since count := by
  have ranges : List.range index <+: List.range count := by
    obtain ⟨rest, rfl⟩ := Nat.exists_eq_add_of_le inside
    exact List.range_add ▸ List.prefix_append _ _
  have before : dueBefore h host since index <+: dueBefore h host since count := (ranges.filterMap _).filter _
  exact (List.prefix_cons_inj _).mpr (before.map _)

theorem Underway.ordered (under : Underway h w frames) : w.written ++ w.waiting <+: frames := by
  cases running : w.state.current.contactIter with
  | none => exact under.finished running ▸ List.prefix_rfl
  | some index =>
    obtain ⟨inside, all, sent, -⟩ := under.running index running
    rw [all, sent]
    exact (framesBefore_begins inside).trans (List.prefix_append _ _)

/-- The pass that a client began last is handed over frame by frame, and wholly once its iterator has come to rest. -/
theorem contact_pass_served (s : State σ) (moves : List (PassMove σ))
    (undisturbed : Runs.Along (watch h build) (fun w move => PassSteady h build w move ∧ KeepsKey h w move)
      (watching s) moves)
    (expected : (Runs.run (watch h build) (watching s) moves).expected = some frames) :
    PassServed h build (Runs.run (watch h build) (watching s) moves) frames := by
  have under : ∀ frames, (Runs.run (watch h build) (watching s) moves).expected = some frames →
      Underway h (Runs.run (watch h build) (watching s) moves) frames :=
    Runs.run_invariant_along (fun w => ∀ frames, w.expected = some frames → Underway h w frames)
      (fun frames begun => by cases begun)
      (fun w move under steady => watch_underway steady.1 steady.2 under) undisturbed
  have under := under frames expected
  refine ⟨under.recorded, (List.prefix_append _ _).trans under.ordered, under.finished, ?_⟩
  exact fun running steady unblocked => (under.served steady.1).2 running unblocked

theorem PassSteady.of_host {move : PassMove σ} (host : (passStep h build w.state move).host = w.state.host)
    (allowed : OnSameConnection w move) : PassSteady h build w move :=
  ⟨fun _ => ⟨congrArg h.contactCount host, fun index => congrArg (h.getContact index) host⟩, allowed⟩

end Watching

section Passes

/-- The first contact waits in the response slot after a failed write; other commands come in meanwhile. -/
def heldContactPass : List (PassMove Device) :=
  [.turn .refresh, .turn (.request getContactsFrame), .turn (.relink { Device.paired with accepts := [false] }),
    .turn .service, .turn (.request [5]), .turn .service, .turn (.request [5]), .push [0x83], .turn .service]

theorem heldContactPass_served :
    PassServed Device.host Device.build
      (Runs.run (watch Device.host Device.build) (watching contactsStart) heldContactPass)
      (passFrames Device.host (twoContacts 1 2) 0) := by
  refine contact_pass_served contactsStart heldContactPass ?_ (by decide +kernel)
  have other (w : Watched Device) : ¬ ImportsKey Device.host (commandState Device.host w.state [5]).host [5] :=
    fun imports => absurd imports.1 (by decide)
  refine ⟨⟨.of_host rfl (Or.inl rfl), nofun⟩, ⟨.of_host (by decide +kernel) ⟨Or.inr (by decide +kernel), nofun⟩, ?_⟩,
    ⟨.of_host rfl trivial, nofun⟩, ⟨.of_host (by decide +kernel) trivial, nofun⟩,
    ⟨.of_host (by decide +kernel) ⟨Or.inr (by decide +kernel), nofun⟩, ?_⟩,
    ⟨.of_host (by decide +kernel) trivial, nofun⟩,
    ⟨.of_host (by decide +kernel) ⟨Or.inr (by decide +kernel), nofun⟩, ?_⟩,
    ⟨.of_host (by decide +kernel) trivial, nofun⟩, ⟨.of_host (by decide +kernel) trivial, nofun⟩, trivial⟩
  · rintro frame ⟨⟩ -
    exact fun imports => absurd imports.1 (by decide)
  · rintro frame ⟨⟩ -
    exact other _
  · rintro frame ⟨⟩ -
    exact other _

/-- The device of two contacts, on a flash that takes a new identity. -/
def keyTakingHost : CompanionBridgeHost Device :=
  { Device.host with importPrivateKey := fun _ device => (true, device) }

def importKeyFrame : List UInt8 := 24 :: List.replicate 64 1

/-- The client imports a private key after CONTACTS_START. -/
def keyChangedMidway : List (PassMove Device) :=
  [.turn .refresh, .turn (.request getContactsFrame), .turn (.request importKeyFrame), .turn .service]

theorem keyChangedMidway_cut :
    Runs.Along (watch keyTakingHost Device.build) (PassSteady keyTakingHost Device.build) (watching contactsStart)
        keyChangedMidway ∧
      (Runs.run (watch keyTakingHost Device.build) (watching contactsStart) keyChangedMidway).expected =
        some (passFrames keyTakingHost (twoContacts 1 2) 0) ∧
      ¬ PassServed keyTakingHost Device.build
        (Runs.run (watch keyTakingHost Device.build) (watching contactsStart) keyChangedMidway)
        (passFrames keyTakingHost (twoContacts 1 2) 0) := by
  refine ⟨?_, by decide +kernel, fun served => ?_⟩
  · exact ⟨.of_host rfl (Or.inl rfl), .of_host (by decide +kernel) ⟨Or.inr (by decide +kernel), nofun⟩,
      .of_host (by decide +kernel) ⟨Or.inr (by decide +kernel), nofun⟩, .of_host (by decide +kernel) trivial, trivial⟩
  · exact absurd (served.finished (by decide +kernel)) (by decide +kernel)

end Passes

end SigurdOS.Companion
