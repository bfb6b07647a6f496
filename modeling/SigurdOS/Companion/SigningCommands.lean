import SigurdOS.Companion.Submission

namespace SigurdOS.Companion

open Bytes MessageStore

section Commands

variable {σ : Type} (h : CompanionBridgeHost σ) (build : Build) (s : State σ) (frame : List UInt8)

def CompanionBridgeHost.signingWith (sign : List UInt8 → σ → Filled signatureSize × σ) : CompanionBridgeHost σ :=
  { h with signData := sign }

def Connection.withSigning (c : Connection) (buf : List UInt8) (active : Bool) : Connection :=
  { c with signBuf := buf, signActive := active }

def signStartFrame : List UInt8 := [19, 0] ++ word (UInt32.ofNat maxSignData)

def signatureFrame (signature : Filled signatureSize) : List UInt8 :=
  if signature.bytes.length > 0 then 20 :: signature.bytes else errFrame .badState

/-- The command ends with this answer on the connection; it has handed over no other one. -/
def AnsweredWith (after : State σ) (connection : Connection) (host : σ) (reply : List UInt8) : Prop :=
  ∃ trace, trace.responses = s.trace.responses ∧ after = sendResponseFrame (s.worked connection host trace) reply

theorem runCommand_signStart : AnsweredWith s (runCommand h build s frame .signStart) (s.current.withSigning [] true)
    s.host signStartFrame := by
  refine ⟨_, ?_, rfl⟩
  rfl

theorem runCommand_signData_inactive (inactive : s.current.signActive = false) :
    AnsweredWith s (runCommand h build s frame .signData) s.current s.host (errFrame .badState) := by
  refine ⟨s.trace, rfl, ?_⟩
  unfold runCommand sessionCommand signData
  rw [if_pos (by rw [inactive]; rfl)]
  rfl

theorem runCommand_signData_full (active : s.current.signActive = true)
    (full : s.current.signBuf.length + (frame.length - 1) > maxSignData) :
    AnsweredWith s (runCommand h build s frame .signData) s.current s.host (errFrame .tableFull) := by
  refine ⟨s.trace, rfl, ?_⟩
  unfold runCommand sessionCommand signData
  rw [if_neg (by rw [active]; decide), if_pos full]
  rfl

theorem runCommand_signData_appends (active : s.current.signActive = true)
    (fits : s.current.signBuf.length + (frame.length - 1) ≤ maxSignData) :
    AnsweredWith s (runCommand h build s frame .signData)
      (s.current.withSigning (s.current.signBuf ++ frame.drop 1) s.current.signActive) s.host okFrame := by
  have payload : frame.drop 1 = ((cmdFrame frame).drop 1).take (frame.length - 1) := by
    cases frame with
    | nil => rfl
    | cons head rest => simp [cmdFrame]
  rw [payload]
  unfold AnsweredWith runCommand sessionCommand signData
  rw [if_neg (by rw [active]; decide), if_neg (Nat.not_lt.mpr fits)]
  refine ⟨_, ?_, rfl⟩
  rfl

theorem runCommand_signFinish_inactive (inactive : s.current.signActive = false) :
    AnsweredWith s (runCommand h build s frame .signFinish) s.current s.host (errFrame .badState) := by
  refine ⟨s.trace, rfl, ?_⟩
  unfold runCommand sessionCommand signFinish
  rw [if_pos (by rw [inactive]; rfl)]
  rfl

theorem signFinish_signs (c : Connection) (active : c.signActive = true) (work : Work σ) :
    ∃ trace, trace.responses = work.trace.responses ∧ (signFinish h c).run work =
      (answer (c.withSigning [] false) (signatureFrame (h.signData c.signBuf work.host).1),
        { work with host := (h.signData c.signBuf work.host).2, trace := trace }) := by
  have run : (signFinish h c).run work = (do
      logWrite 1 (h.signData c.signBuf work.host).1.bytes.length
      if (h.signData c.signBuf work.host).1.bytes.length > 0 then
        let reply ← respond [[20], (h.signData c.signBuf work.host).1.bytes]
        return answer (c.withSigning [] false) reply
      else return answer (c.withSigning [] false) (errFrame .badState) : Parse σ Outcome).run
        ((call (h.signData c.signBuf) : Parse σ _).run work).2 := by
    unfold signFinish
    rw [if_neg (by rw [active]; decide)]
    rfl
  rw [run]
  unfold signatureFrame
  by_cases signed : (h.signData c.signBuf work.host).1.bytes.length > 0
  · have reply : 20 :: (h.signData c.signBuf work.host).1.bytes = [20] ++
        ((h.signData c.signBuf work.host).1.bytes ++ []) := by
      simp
    rw [if_pos signed, if_pos signed, reply]
    refine ⟨_, ?_, rfl⟩
    rfl
  · rw [if_neg signed, if_neg signed]
    refine ⟨_, ?_, rfl⟩
    rfl

theorem runCommand_signFinish (active : s.current.signActive = true) :
    AnsweredWith s (runCommand h build s frame .signFinish) (s.current.withSigning [] false)
      (h.signData s.current.signBuf s.host).2 (signatureFrame (h.signData s.current.signBuf s.host).1) := by
  obtain ⟨trace, told, run⟩ := signFinish_signs h s.current active
    ⟨s.host, !s.current.pendingResponse.isEmpty, s.trace⟩
  refine ⟨trace, told, ?_⟩
  unfold runCommand sessionCommand
  dsimp only
  rw [run]
  rfl

theorem importPrivateKey_run (c : Connection) (work : Work σ) :
    ∃ trace, trace.responses = work.trace.responses ∧ (importPrivateKey h frame c).run work =
      (⟨c, some (okOr .illegalArg (h.importPrivateKey (importedKey frame) work.host).1),
        if (h.importPrivateKey (importedKey frame) work.host).1 then .identityChanged else .nothing⟩,
        { work with host := (h.importPrivateKey (importedKey frame) work.host).2, trace := trace }) := by
  refine ⟨_, ?_, rfl⟩
  rfl

theorem runCommand_importPrivateKey_done (done : (h.importPrivateKey (importedKey frame) s.host).1 = true) :
    ∃ trace, trace.responses = s.trace.responses ∧ runCommand h build s frame .importPrivateKey = sendResponseFrame
      (onIdentityChanged (s.worked s.current (h.importPrivateKey (importedKey frame) s.host).2 trace)) okFrame := by
  obtain ⟨trace, told, run⟩ := importPrivateKey_run h frame s.current
    ⟨s.host, !s.current.pendingResponse.isEmpty, s.trace⟩
  refine ⟨trace, told, ?_⟩
  unfold runCommand sessionCommand
  dsimp only
  rw [run]
  dsimp only
  rw [done]
  rfl

theorem runCommand_importPrivateKey_refused (refused : (h.importPrivateKey (importedKey frame) s.host).1 = false) :
    AnsweredWith s (runCommand h build s frame .importPrivateKey) s.current
      (h.importPrivateKey (importedKey frame) s.host).2 (errFrame .illegalArg) := by
  obtain ⟨trace, told, run⟩ := importPrivateKey_run h frame s.current
    ⟨s.host, !s.current.pendingResponse.isEmpty, s.trace⟩
  refine ⟨trace, told, ?_⟩
  unfold runCommand sessionCommand
  dsimp only
  rw [run]
  dsimp only
  rw [refused]
  rfl

def CompanionCommand.signs : CompanionCommand → Bool
  | .signStart | .signData | .signFinish | .importPrivateKey => true
  | _ => false

variable {h build s frame} {after : State σ}

theorem runCommand_signingKept {command : CompanionCommand} (other : command.signs = false) :
    SigningKept s (runCommand h build s frame command) := by
  unfold runCommand
  have retained := @sessionCommand_retained σ h build frame s.current command
    ⟨s.host, !s.current.pendingResponse.isEmpty, s.trace⟩
  have views := @sessionCommand_keeps σ h build frame s.current _ command
    (fun c => (c.signBuf, c.signActive, c.wasConnected, c.connectionGeneration)) (fun _ _ => rfl) (fun _ _ _ => rfl)
    (fun _ _ => rfl) (fun _ _ _ => rfl) (fun signs => by rcases signs with rfl | rfl | rfl <;> cases other)
    ⟨s.host, !s.current.pendingResponse.isEmpty, s.trace⟩
  generalize (sessionCommand h build frame s.current command).run
    ⟨s.host, !s.current.pendingResponse.isEmpty, s.trace⟩ = outcome at retained views
  obtain ⟨outcome, work⟩ := outcome
  simp only [Prod.mk.injEq] at retained views ⊢
  have worked : SigningKept s (s.worked outcome.connection work.host work.trace) :=
    ⟨rfl, rfl, fun _ connected => ⟨connected, rfl⟩, views.1, views.2.1, views.2.2.1, views.2.2.2, rfl⟩
  have unchanged := retained.2.2.2.2 (by rintro rfl; cases other)
  have before : SigningKept s (followBefore (s.worked outcome.connection work.host work.trace) outcome.follow) := by
    generalize outcome.follow = follow at unchanged
    cases follow with
    | identityChanged => exact absurd rfl unchanged
    | disableTransport => exact worked.trans (disableTransport_signingKept _)
    | nothing => exact worked
    | refill => exact worked
    | telemetry senderPrefix blob => exact worked
  have followed (t : State σ) : SigningKept t (followAfter h t outcome.follow) := by
    cases outcome.follow with
    | refill => exact refillOfflineQueueFromStore_signingKept t true
    | telemetry senderPrefix blob => exact pushTelemetryResponse_signingKept t senderPrefix blob
    | nothing => exact .refl t
    | identityChanged => exact .refl t
    | disableTransport => exact .refl t
  cases outcome.reply with
  | none => exact before.trans (followed _)
  | some reply => exact (before.trans (sendResponseFrame_signingKept _ reply)).trans (followed _)

/-- What a connection holds to be signed after a frame, by what the frame was answered. -/
def submitted (frame : List UInt8) (answers : List (List UInt8)) (held : Option (List UInt8)) : Option (List UInt8) :=
  match commandOf (frame.headD 0) with
  | some .signStart => if answers = [] then held else some []
  | some .signData => if answers = [okFrame] then held.map (· ++ frame.drop 1) else held
  | some .signFinish => if answers = [] then held else none
  | some .importPrivateKey => if answers = [okFrame] then none else held
  | _ => held

def Imported (frame : List UInt8) (answers : List (List UInt8)) : Prop :=
  commandOf (frame.headD 0) = some .importPrivateKey ∧ answers = [okFrame]

instance (frame : List UInt8) (answers : List (List UInt8)) : Decidable (Imported frame answers) :=
  inferInstanceAs (Decidable (_ ∧ _))

def Disarmed (s after : State σ) : Prop :=
  List.Forall₂ (fun session next => next.slot = session.slot ∧ next.generation = session.generation ∧
    (session.slot ≠ none → next.signActive = false ∧ next.signBuf.length ≤ maxSignData)) s.sessions after.sessions

def answers (s after : State σ) : List (List UInt8) := after.trace.responses.drop s.trace.responses.length

structure Dispatched (frame : List UInt8) (s after : State σ) : Prop where
  attached : after.attached = s.attached
  narrows : Narrows s after
  wasConnected : after.current.wasConnected = s.current.wasConnected
  connectionGeneration : after.current.connectionGeneration = s.current.connectionGeneration
  sessions : if Imported frame (answers s after) then Disarmed s after
    else after.sessions.map TransportSession.signing = s.sessions.map TransportSession.signing
  submission : after.current.submission = submitted frame (answers s after) s.current.submission
  bounded : s.current.signBuf.length ≤ maxSignData → after.current.signBuf.length ≤ maxSignData
  parked : s.request ≠ none → currentTransportConnected s = false → s.current.signActive = false →
    s.current.pendingResponse = [] → after.current.signActive = true → after.current.pendingResponse ≠ []

theorem SigningKept.dispatched (kept : SigningKept s after) (imports : ¬ Imported frame (answers s after))
    (same : submitted frame (answers s after) s.current.submission = s.current.submission) :
    Dispatched frame s after where
  attached := kept.attached
  narrows := kept.narrows
  wasConnected := kept.wasConnected
  connectionGeneration := kept.connectionGeneration
  sessions := by
    rw [if_neg imports]
    exact kept.sessions
  submission := kept.submission.trans same.symm
  bounded := fun bounded => kept.buffer ▸ bounded
  parked := fun _ _ inactive _ active => by
    rw [kept.signing, inactive] at active
    cases active

theorem sendResponseFrame_parks {reply : List UInt8} (request : s.request ≠ none)
    (gone : currentTransportConnected s = false)
    (idle : s.current.pendingResponse = []) (valid : validFrame reply = true) :
    (sendResponseFrame s reply).current.pendingResponse = reply := by
  obtain ⟨peer, slot⟩ := Option.ne_none_iff_exists'.mp request
  have cut : transportsClientConnected s peer = false := by
    unfold currentTransportConnected at gone
    rwa [slot] at gone
  have refused : writeFrameToCurrentTransport (s.logResponse reply) reply = (false, s.logResponse reply) := by
    have here : (s.logResponse reply).request = some peer := slot
    unfold writeFrameToCurrentTransport
    rw [here]
    dsimp only
    unfold transportsSendToResult
    change (if (validFrame reply && transportsClientConnected s peer) = true then _ else _) = _
    rw [cut, Bool.and_false, if_neg Bool.false_ne_true]
  unfold sendResponseFrame
  dsimp only
  rw [refused, if_pos]
  · rfl
  · change (validFrame reply && s.current.pendingResponse.isEmpty) = true
    rw [valid, idle]
    rfl

theorem AnsweredWith.dispatched {buf reply : List UInt8} {active : Bool} {host : σ}
    (answered : AnsweredWith s after (s.current.withSigning buf active) host reply) (valid : validFrame reply = true)
    (imports : ¬ Imported frame [reply])
    (held : (if active then some buf else none) = submitted frame [reply] s.current.submission)
    (bounded : s.current.signBuf.length ≤ maxSignData → buf.length ≤ maxSignData) : Dispatched frame s after := by
  obtain ⟨trace, told, rfl⟩ := answered
  have kept := sendResponseFrame_signingKept (s.worked (s.current.withSigning buf active) host trace) reply
  obtain ⟨-, responses⟩ := sendResponseFrame_writes (s.worked (s.current.withSigning buf active) host trace) reply
  have single : answers s (sendResponseFrame (s.worked (s.current.withSigning buf active) host trace) reply) =
      [reply] := by
    unfold answers
    rw [responses]
    change List.drop _ (trace.responses ++ [reply]) = _
    rw [told]
    exact List.drop_left
  refine ⟨kept.attached, kept.narrows, kept.wasConnected, kept.connectionGeneration, ?_, ?_, ?_, ?_⟩
  · rw [single, if_neg imports]
    exact kept.sessions
  · rw [single, ← held]
    exact kept.submission
  · intro fits
    rw [kept.buffer]
    exact bounded fits
  · intro request gone inactive idle signing
    rw [sendResponseFrame_parks (s := s.worked (s.current.withSigning buf active) host trace) request gone idle valid]
    rintro rfl
    cases valid

theorem AnsweredWith.refused {reply : List UInt8} {host : σ} (answered : AnsweredWith s after s.current host reply)
    (valid : validFrame reply = true) (imports : ¬ Imported frame [reply])
    (same : submitted frame [reply] s.current.submission = s.current.submission) : Dispatched frame s after := by
  have kept : AnsweredWith s after (s.current.withSigning s.current.signBuf s.current.signActive) host reply := answered
  exact kept.dispatched valid imports same.symm id

theorem signatureFrame_valid (signature : Filled signatureSize) : validFrame (signatureFrame signature) = true := by
  have fits := signature.fits
  unfold signatureFrame
  split
  · simp only [validFrame, List.length_cons, Bool.and_eq_true, decide_eq_true_eq]
    unfold signatureSize at fits
    unfold maxFrameSize
    omega
  · rfl

theorem imported_command {command : CompanionCommand} (known : commandOf (frame.headD 0) = some command)
    (other : command ≠ .importPrivateKey) (answers : List (List UInt8)) : ¬ Imported frame answers := by
  rintro ⟨imports, -⟩
  exact other (Option.some.inj (known.symm.trans imports))

theorem signStart_dispatched (known : commandOf (frame.headD 0) = some .signStart) :
    Dispatched frame s (runCommand h build s frame .signStart) := by
  refine (runCommand_signStart h build s frame).dispatched rfl (imported_command known nofun _) ?_ fun _ =>
    Nat.zero_le _
  unfold submitted
  rw [known]
  rfl

theorem Connection.submission_inactive {c : Connection} (inactive : c.signActive = false) : c.submission = none := by
  unfold Connection.submission
  rw [inactive]
  rfl

theorem Connection.submission_active {c : Connection} (active : c.signActive = true) :
    c.submission = some c.signBuf := by
  unfold Connection.submission
  rw [active]
  rfl

theorem Connection.inactive_of_submission {c : Connection} (empty : c.submission = none) : c.signActive = false := by
  cases active : c.signActive with
  | false => rfl
  | true =>
    rw [Connection.submission_active active] at empty
    cases empty

theorem signData_dispatched (known : commandOf (frame.headD 0) = some .signData) :
    Dispatched frame s (runCommand h build s frame .signData) := by
  have imports := imported_command known nofun
  have unheard (err : CompanionError) : submitted frame [errFrame err] s.current.submission = s.current.submission := by
    unfold submitted
    rw [known]
    exact if_neg (by cases err <;> decide)
  by_cases active : s.current.signActive = true
  · by_cases fits : s.current.signBuf.length + (frame.length - 1) ≤ maxSignData
    · refine (runCommand_signData_appends h build s frame active fits).dispatched rfl (imports _) ?_ fun _ => ?_
      · unfold submitted
        rw [known, Connection.submission_active active, active]
        rfl
      · rwa [List.length_append, List.length_drop]
    · exact (runCommand_signData_full h build s frame active (Nat.not_le.mp fits)).refused rfl (imports _) (unheard _)
  · rw [Bool.not_eq_true] at active
    exact (runCommand_signData_inactive h build s frame active).refused rfl (imports _) (unheard _)

theorem signFinish_dispatched (known : commandOf (frame.headD 0) = some .signFinish) :
    Dispatched frame s (runCommand h build s frame .signFinish) := by
  have imports := imported_command known nofun
  have ended (reply : List UInt8) : submitted frame [reply] s.current.submission = none := by
    unfold submitted
    rw [known]
    rfl
  by_cases active : s.current.signActive = true
  · exact (runCommand_signFinish h build s frame active).dispatched (signatureFrame_valid _) (imports _)
      (ended _).symm fun _ => Nat.zero_le _
  · rw [Bool.not_eq_true] at active
    refine (runCommand_signFinish_inactive h build s frame active).refused rfl (imports _) ?_
    rw [ended, Connection.submission_inactive active]

theorem onIdentityChanged_disarmed (s : State σ) : Disarmed s (onIdentityChanged s) := by
  unfold Disarmed
  rw [List.forall₂_iff_get]
  refine ⟨by simp [onIdentityChanged, State.update], fun index inside _ => ?_⟩
  simp only [List.get_eq_getElem, onIdentityChanged, List.getElem_map]
  split
  · rename_i unused
    exact ⟨rfl, rfl, fun used => absurd unused used⟩
  · rename_i peer slot
    exact ⟨slot.symm, rfl, fun _ => ⟨rfl, Nat.zero_le _⟩⟩

theorem importPrivateKey_dispatched (known : commandOf (frame.headD 0) = some .importPrivateKey) :
    Dispatched frame s (runCommand h build s frame .importPrivateKey) := by
  cases done : (h.importPrivateKey (importedKey frame) s.host).1 with
  | false =>
    have heard : ([errFrame .illegalArg] : List (List UInt8)) ≠ [okFrame] := by decide
    refine (runCommand_importPrivateKey_refused h build s frame done).refused rfl (fun imports => heard imports.2) ?_
    unfold submitted
    rw [known]
    exact if_neg heard
  | true =>
    obtain ⟨trace, told, same⟩ := runCommand_importPrivateKey_done h build s frame done
    rw [same]
    obtain ⟨worked, working⟩ : ∃ worked, worked =
      s.worked s.current (h.importPrivateKey (importedKey frame) s.host).2 trace := ⟨_, rfl⟩
    rw [← working]
    have kept := sendResponseFrame_signingKept (onIdentityChanged worked) okFrame
    have responses := (sendResponseFrame_writes (onIdentityChanged worked) okFrame).2
    have single : answers s (sendResponseFrame (onIdentityChanged worked) okFrame) = [okFrame] := by
      unfold answers
      rw [responses]
      subst working
      change List.drop _ (trace.responses ++ [okFrame]) = _
      rw [told]
      exact List.drop_left
    have disarmed : Disarmed s (sendResponseFrame (onIdentityChanged worked) okFrame) := by
      unfold Disarmed
      rw [sendResponseFrame_sessions]
      subst working
      exact onIdentityChanged_disarmed (s.worked s.current (h.importPrivateKey (importedKey frame) s.host).2 trace)
    subst working
    have inactive := kept.signing
    refine ⟨kept.attached, kept.narrows, kept.wasConnected, kept.connectionGeneration, ?_, ?_, ?_, ?_⟩
    · rw [single, if_pos ⟨known, rfl⟩]
      exact disarmed
    · rw [single, Connection.submission_inactive inactive]
      unfold submitted
      rw [known]
      rfl
    · intro _
      rw [kept.buffer]
      exact Nat.zero_le _
    · intro _ _ _ _ active
      rw [inactive] at active
      cases active

variable (h build) in
theorem runCommand_dispatched {command : CompanionCommand} (known : commandOf (frame.headD 0) = some command) :
    Dispatched frame s (runCommand h build s frame command) := by
  cases signs : command.signs with
  | false =>
    refine (runCommand_signingKept signs).dispatched (imported_command known (by rintro rfl; cases signs) _) ?_
    unfold submitted
    rw [known]
    cases command <;> first | rfl | cases signs
  | true =>
    cases command
    case signStart => exact signStart_dispatched known
    case signData => exact signData_dispatched known
    case signFinish => exact signFinish_dispatched known
    case importPrivateKey => exact importPrivateKey_dispatched known
    all_goals cases signs

variable (h build frame) in
theorem dispatchCommand_dispatched (s : State σ) : Dispatched frame s (dispatchCommand h build s frame) := by
  obtain ⟨logged, log⟩ : ∃ logged, logged = { s with trace := { s.trace with reads := s.trace.reads ++ [(0, 1)] } } :=
    ⟨_, rfl⟩
  have since {after : State σ} (dispatched : Dispatched frame logged after) : Dispatched frame s after := by
    subst log
    exact ⟨dispatched.attached, dispatched.narrows, dispatched.wasConnected, dispatched.connectionGeneration,
      dispatched.sessions, dispatched.submission, dispatched.bounded, dispatched.parked⟩
  unfold dispatchCommand
  dsimp only
  rw [← log]
  cases known : commandOf (frame.headD 0) with
  | none =>
    refine since ((sendResponseFrame_signingKept logged _).dispatched ?_ ?_)
    · rintro ⟨imports, -⟩
      rw [known] at imports
      cases imports
    · unfold submitted
      rw [known]
  | some command =>
    dsimp only
    split
    · rename_i short
      have refused : AnsweredWith logged (sendResponseFrame logged (errFrame .illegalArg)) logged.current logged.host
        (errFrame .illegalArg) := ⟨logged.trace, rfl, rfl⟩
      refine since (refused.refused rfl (fun imports => absurd imports.2 (by decide)) ?_)
      unfold submitted
      rw [known]
      cases command <;> first | rfl | cases short
    split
    · rename_i sync
      subst sync
      refine since ((syncNextMessage_signingKept logged).dispatched (imported_command known nofun _) ?_)
      unfold submitted
      rw [known]
    · exact since (runCommand_dispatched h build known)

end Commands

section Signature

variable {σ : Type} {h : CompanionBridgeHost σ} {build : Build} {frame : List UInt8}
  (sign : List UInt8 → σ → Filled signatureSize × σ)

theorem sessionCommand_signingWith {command : CompanionCommand} (other : command ≠ .signFinish) (c : Connection) :
    sessionCommand (h.signingWith sign) build frame c command = sessionCommand h build frame c command := by
  cases command <;> first | rfl | exact absurd rfl other

theorem refillRecords_signingWith (s : State σ) (messages : List StoredMessage) :
    refillRecords (h.signingWith sign) s messages = refillRecords h s messages := by
  induction messages generalizing s with
  | nil => rfl
  | cons msg rest ih =>
    unfold refillRecords
    have record : refillRecord (h.signingWith sign) s msg = refillRecord h s msg := rfl
    rw [record]
    simp only [ih]

theorem refillOfflineQueueFromStore_signingWith (s : State σ) (notify : Bool) :
    refillOfflineQueueFromStore (h.signingWith sign) s notify = refillOfflineQueueFromStore h s notify := by
  unfold refillOfflineQueueFromStore
  rw [refillRecords_signingWith]

theorem runCommand_signingWith (s : State σ) {command : CompanionCommand}
    (quiet : command ≠ .signFinish ∨ s.current.signActive = false) :
    runCommand (h.signingWith sign) build s frame command = runCommand h build s frame command := by
  have same : sessionCommand (h.signingWith sign) build frame s.current command =
      sessionCommand h build frame s.current command := by
    by_cases finish : command = .signFinish
    · subst finish
      have inactive := quiet.resolve_left fun other => other rfl
      unfold sessionCommand signFinish
      rw [if_pos (by rw [inactive]; rfl), if_pos (by rw [inactive]; rfl)]
    · exact sessionCommand_signingWith sign finish _
  have followed (t : State σ) (follow : Follow) :
      followAfter (h.signingWith sign) t follow = followAfter h t follow := by
    cases follow with
    | refill => exact refillOfflineQueueFromStore_signingWith sign t true
    | nothing => rfl
    | identityChanged => rfl
    | disableTransport => rfl
    | telemetry senderPrefix blob => rfl
  unfold runCommand
  rw [same]
  simp only [followed]

theorem syncNextMessage_signingWith (s : State σ) : syncNextMessage (h.signingWith sign) s = syncNextMessage h s := by
  unfold syncNextMessage
  simp only [refillOfflineQueueFromStore_signingWith]
  rfl

theorem dispatchCommand_signingWith (s : State σ)
    (quiet : commandOf (frame.headD 0) ≠ some .signFinish ∨ s.current.signActive = false) :
    dispatchCommand (h.signingWith sign) build s frame = dispatchCommand h build s frame := by
  unfold dispatchCommand
  cases known : commandOf (frame.headD 0) with
  | none => rfl
  | some command =>
    dsimp only
    rw [syncNextMessage_signingWith, runCommand_signingWith]
    rw [known] at quiet
    exact quiet.imp (fun other same => other (congrArg some same)) id

theorem nextContact_signingWith (host : σ) (since : UInt32) (remaining index : Nat) :
    nextContact (h.signingWith sign) host since remaining index = nextContact h host since remaining index := by
  induction remaining generalizing index with
  | zero => rfl
  | succ remaining ih =>
    unfold nextContact
    simp only [ih]
    rfl

theorem serviceCurrentSession_signingWith (s : State σ) :
    serviceCurrentSession (h.signingWith sign) s = serviceCurrentSession h s := by
  have sent (s : State σ) (index : Nat) : sendContact (h.signingWith sign) s index = sendContact h s index := by
    unfold sendContact
    rw [nextContact_signingWith]
    rfl
  unfold serviceCurrentSession
  simp only [sent]
  rfl

theorem serviceTransportSessions_signingWith (s : State σ) :
    serviceTransportSessions (h.signingWith sign) s = serviceTransportSessions h s := by
  have serviced : serviceSession (h.signingWith sign) = serviceSession h := by
    funext s index
    unfold serviceSession
    simp only [serviceCurrentSession_signingWith]
    rfl
  unfold serviceTransportSessions
  rw [serviced]
  rfl

end Signature

end SigurdOS.Companion
