import SigurdOS.Companion.SigningLedger

namespace SigurdOS.Companion

open Bytes MessageStore

section Signatures

variable {σ : Type} (h : CompanionBridgeHost σ) (build : Build)

def SignsNothing (s : State σ) (action : Action σ) : Prop :=
  ∀ sign, step (h.signingWith sign) build s action = step h build s action

def Signs (s : State σ) (action : Action σ) (data : List UInt8) : Prop :=
  ∃ host, ∀ sign, (step (h.signingWith sign) build s action).host = (sign data host).2 ∧
    newResponses (h.signingWith sign) build s action = [signatureFrame (sign data host).1]

/-- Only a `CMD_SIGN_FINISH` signs, and what it signs is what its client has handed over. -/
def SignedAsSubmitted (s : State σ) (ledger : Peer → Option (List UInt8)) : Action σ → Prop
  | .dispatch peer frame =>
    if commandOf (frame.headD 0) = some .signFinish then
      match ledger peer with
      | some data => data.length ≤ maxSignData ∧ (Signs h build s (.dispatch peer frame) data ∨
          newResponses h build s (.dispatch peer frame) = [] ∧ SignsNothing h build s (.dispatch peer frame))
      | none => SignsNothing h build s (.dispatch peer frame)
    else SignsNothing h build s (.dispatch peer frame)
  | action => SignsNothing h build s action

variable {h build} {s : State σ} {ledger : Peer → Option (List UInt8)} {frame : List UInt8}

theorem commandState_signingWith (sign : List UInt8 → σ → Filled signatureSize × σ) (s : State σ) (frame : List UInt8) :
    commandState (h.signingWith sign) s frame = commandState h s frame := rfl

theorem handleFrame_quiet (valid : validFrame frame = true) (quiet : commandOf (frame.headD 0) ≠ some .signFinish ∨
      (refreshed s).pendingResponse ≠ [] ∨ (refreshed s).signActive = false)
    (sign : List UInt8 → σ → Filled signatureSize × σ) :
    (handleFrame (h.signingWith sign) build s frame).2 = (handleFrame h build s frame).2 := by
  rw [handleFrame_eq valid, handleFrame_eq valid]
  cases waiting : (refreshed s).pendingResponse with
  | cons head rest => rfl
  | nil =>
    rw [if_pos (by rfl), if_pos (by rfl), commandState_signingWith, dispatchCommand_signingWith]
    refine quiet.imp id fun idle => ?_
    rw [(commandState_signing (h := h) s frame).1.signing]
    exact idle.resolve_left fun filled => filled waiting

variable (h build) in
theorem handleFrame_signs (valid : validFrame frame = true) (finish : commandOf (frame.headD 0) = some .signFinish)
    (idle : (refreshed s).pendingResponse = []) (active : (refreshed s).signActive = true)
    (sign : List UInt8 → σ → Filled signatureSize × σ) :
    (handleFrame (h.signingWith sign) build s frame).2.host =
        (sign (refreshed s).signBuf (commandState h s frame).host).2 ∧
      answers s (handleFrame (h.signingWith sign) build s frame).2 =
        [signatureFrame (sign (refreshed s).signBuf (commandState h s frame).host).1] := by
  obtain ⟨kept, told, -⟩ := commandState_signing (h := h) s frame
  rw [handleFrame_eq valid, idle, if_pos (by rfl), commandState_signingWith]
  generalize commandState h s frame = middle at *
  obtain ⟨logged, log⟩ : ∃ logged, logged =
    { middle with trace := { middle.trace with reads := middle.trace.reads ++ [(0, 1)] } } := ⟨_, rfl⟩
  have run : dispatchCommand (h.signingWith sign) build middle frame =
      runCommand (h.signingWith sign) build logged frame .signFinish := by
    unfold dispatchCommand
    dsimp only
    rw [finish, log]
    rfl
  have signing : logged.current.signActive = true := by
    rw [log]
    exact kept.signing.trans active
  have buffer : logged.current.signBuf = (refreshed s).signBuf := by
    rw [log]
    exact kept.buffer
  have host : logged.host = middle.host := by rw [log]
  have responses : logged.trace.responses = s.trace.responses := by
    rw [log]
    exact told
  obtain ⟨trace, answered, same⟩ := runCommand_signFinish (h.signingWith sign) build logged frame signing
  obtain ⟨writes, replied⟩ := sendResponseFrame_writes (logged.worked (logged.current.withSigning [] false)
    (sign logged.current.signBuf logged.host).2 trace) (signatureFrame (sign logged.current.signBuf logged.host).1)
  rw [run, same, ← buffer, ← host]
  refine ⟨writes.host, ?_⟩
  unfold answers
  refine (congrArg (List.drop _) replied).trans ?_
  change (trace.responses ++ _).drop _ = _
  rw [answered, responses]
  exact List.drop_left

theorem handleFrame_waits (valid : validFrame frame = true) (filled : (refreshed s).pendingResponse ≠ []) :
    answers s (handleFrame h build s frame).2 = [] := by
  obtain ⟨-, told, -⟩ := refreshConnectionSession_signing (h := h) s (.received s.request (currentGeneration s) frame)
  unfold answers
  rw [handleFrame_eq valid, if_neg (by simpa using filled), told]
  exact List.drop_length

theorem Signable.bounded (signable : Signable s ledger) {peer : Peer} {data : List UInt8}
    (submitted : ledger peer = some data) :
    data.length ≤ maxSignData := by
  rw [← signable.submission] at submitted
  unfold State.submission at submitted
  split at submitted
  · cases found : s.sessionOf peer with
    | none =>
      rw [found] at submitted
      cases submitted
    | some session =>
      have member : session ∈ s.sessions := List.mem_of_find?_eq_some found
      rw [found, Option.bind_some] at submitted
      unfold State.sessionOf at found
      have first := List.find?_some found
      have owned : session.slot = some peer := of_decide_eq_true first
      have sound := signable.sound session member (by rw [owned]; exact nofun)
      unfold State.held at submitted
      split at submitted
      · cases submitted
      · unfold Connection.submission at submitted
        split at submitted
        · obtain rfl := Option.some.inj submitted
          exact sound.bounded
        · cases submitted
  · cases submitted

theorem dispatch_signs (signable : Signable s ledger) (peer : Peer) (frame : List UInt8)
    (linked : transportsClientConnected s peer = true ∨ (s.sessionOf peer).isSome = true) :
    SignedAsSubmitted h build s ledger (.dispatch peer frame) := by
  have settled (silent : SignsNothing h build s (.dispatch peer frame))
      (unheard : ∀ data, commandOf (frame.headD 0) = some .signFinish → ledger peer = some data →
        newResponses h build s (.dispatch peer frame) = []) : SignedAsSubmitted h build s ledger
            (.dispatch peer frame) := by
    unfold SignedAsSubmitted
    dsimp only
    split
    · rename_i finish
      split
      · rename_i data submitted
        exact ⟨signable.bounded submitted, Or.inr ⟨unheard data finish submitted, silent⟩⟩
      · exact silent
    · exact silent
  rcases dispatch_visits (h := h) signable.attached peer frame
    with idle | ⟨valid, index, middle, session, ensures, place,
    slot, run⟩
  · exact settled (fun sign => (idle (h.signingWith sign) build rfl).trans (idle h build rfl).symm)
      fun _ _ _ => newResponses_idle (idle h build rfl)
  have known : transportsClientConnected s peer = true ∨ s.indexOf peer ≠ none := by
    refine linked.imp id fun found absent => ?_
    rw [sessionOf_eq, absent] at found
    cases found
  have opened : Signable middle ledger := signable.ensures ensures known
  have moved := ensures.not_moved place
  have sound : SoundSigning (refreshed (middle.opened index peer session)) :=
    (opened.sound session (List.mem_of_getElem? place) (by rw [slot]; exact nofun)).refreshed opened.identified
  have held : ledger peer = if transportsClientConnected middle peer then
      (refreshed (middle.opened index peer session)).submission else none := by
    rw [← opened.submission, submission_found ensures.found place, held_refreshed index moved]
  have taken (sign : List UInt8 → σ → Filled signatureSize × σ) :
      step (h.signingWith sign) build s (.dispatch peer frame) =
      (handleFrame (h.signingWith sign) build (middle.opened index peer session) frame).2.left index := by
    rw [run (h.signingWith sign) build rfl, withSession_eq middle place]
    rfl
  have replied (sign : List UInt8 → σ → Filled signatureSize × σ) :
      newResponses (h.signingWith sign) build s (.dispatch peer frame) = answers (middle.opened index peer session)
        (handleFrame (h.signingWith sign) build (middle.opened index peer session) frame).2 :=
    newResponses_left ensures.unchanged.2.2 (taken sign)
  by_cases quiet : commandOf (frame.headD 0) ≠ some .signFinish ∨
      (refreshed (middle.opened index peer session)).pendingResponse ≠ [] ∨
      (refreshed (middle.opened index peer session)).signActive = false
  · refine settled (fun sign => ?_) fun data finish submitted => ?_
    · rw [taken sign, handleFrame_quiet valid quiet sign]
      exact (taken h.signData).symm
    · refine (replied h.signData).trans (handleFrame_waits valid ?_)
      rcases quiet with other | filled | inactive
      · exact absurd finish other
      · exact filled
      · rw [held, Connection.submission_inactive inactive, ite_self] at submitted
        cases submitted
  · simp only [not_or, not_not, Bool.not_eq_false] at quiet
    obtain ⟨finish, idle, active⟩ := quiet
    have live : transportsClientConnected middle peer = true := by
      rcases sound.parked active with ⟨linked, -⟩ | filled
      · exact linked
      · exact absurd idle filled
    rw [if_pos live, Connection.submission_active active] at held
    unfold SignedAsSubmitted
    dsimp only
    rw [if_pos finish, held]
    refine ⟨sound.bounded, Or.inl ⟨(commandState h (middle.opened index peer session) frame).host, fun sign => ?_⟩⟩
    obtain ⟨host, answered⟩ := handleFrame_signs h build valid finish idle active sign
    rw [replied sign, taken sign]
    exact ⟨host, answered⟩

theorem action_signs (signable : Signable s ledger) (action : Action σ) (admitted : OnConnections s action) :
    SignedAsSubmitted h build s ledger action := by
  cases action with
  | dispatch peer frame => exact dispatch_signs signable peer frame admitted
  | service =>
    intro sign
    simp only [step, signable.attached, if_true]
    exact serviceTransportSessions_signingWith sign s
  | round =>
    intro sign
    simp only [step, signable.attached, if_true]
  | relink links => exact fun _ => rfl
  | device host => exact fun _ => rfl
  | storage store => exact fun _ => rfl
  | serialFrame frame => exact fun _ => rfl
  | arrive msg => exact fun _ => rfl
  | channelData channelIndex snrQuarters pathLen dataType payload => exact fun _ => rfl
  | binaryResponse tag blob => exact fun _ => rfl
  | identityChanged => exact fun _ => rfl

variable (h build) in
theorem runCommand_signData_answered (s : State σ) (frame : List UInt8) :
    ∃ connection reply, AnsweredWith s (runCommand h build s frame .signData) connection s.host reply := by
  cases active : s.current.signActive with
  | false => exact ⟨_, _, runCommand_signData_inactive h build s frame active⟩
  | true =>
    by_cases fits : s.current.signBuf.length + (frame.length - 1) ≤ maxSignData
    · exact ⟨_, _, runCommand_signData_appends h build s frame active fits⟩
    · exact ⟨_, _, runCommand_signData_full h build s frame active (Nat.not_le.mp fits)⟩

variable (h build) in
theorem handleFrame_signData_links (valid : validFrame frame = true) (data : commandOf (frame.headD 0) = some .signData)
    (s : State σ) : (handleFrame h build s frame).2.attached = s.attached ∧
      ∃ accepts, (handleFrame h build s frame).2.links = { s.links with accepts := accepts } := by
  have noted : Beside s (refreshConnectionSession h (s.note (.received s.request (currentGeneration s) frame))) := by
    obtain ⟨host, trace, same⟩ :=
      refreshConnectionSession_worked h (s.note (.received s.request (currentGeneration s) frame))
    rw [same]
    exact ⟨rfl, rfl, rfl, rfl, s.links.accepts, rfl⟩
  rw [handleFrame_eq valid]
  split
  · have prepared : Beside s (commandState h s frame) := noted.trans (expirePendingBinary_beside _).1
    generalize commandState h s frame = middle at prepared
    have replied {logged : State σ} {connection : Connection} {host : σ} {trace : Trace} {reply : List UInt8}
        (beside : Beside s logged) : Beside s (sendResponseFrame (logged.worked connection host trace) reply) := by
      have writes := (sendResponseFrame_writes (logged.worked connection host trace) reply).1.beside
      have worked : Beside logged (logged.worked connection host trace) :=
        ⟨rfl, rfl, rfl, rfl, logged.links.accepts, rfl⟩
      exact (beside.trans worked).trans writes
    have told : Beside s (dispatchCommand h build middle frame) := by
      unfold dispatchCommand
      dsimp only
      rw [data]
      dsimp only
      have logged : Beside s { middle with trace := { middle.trace with reads := middle.trace.reads ++ [(0, 1)] } } :=
        ⟨prepared.attached, prepared.request, prepared.active, prepared.sessions, prepared.links⟩
      generalize ({ middle with trace := { middle.trace with reads := middle.trace.reads ++ [(0, 1)] } } : State σ) =
        start
        at logged ⊢
      split
      · exact logged.trans (sendResponseFrame_writes start _).1.beside
      · obtain ⟨connection, reply, trace, -, same⟩ := runCommand_signData_answered h build start frame
        rw [if_neg (by decide), same]
        exact replied logged
    exact ⟨told.attached, told.links⟩
  · exact ⟨noted.attached, noted.links⟩

theorem signData_rejected (signable : Signable s ledger) {peer : Peer}
    (data : commandOf (frame.headD 0) = some .signData)
    (linked : transportsClientConnected s peer = true ∨ (s.sessionOf peer).isSome = true)
    (rejected : newResponses h build s (.dispatch peer frame) ≠ [okFrame]) :
    (step h build s (.dispatch peer frame)).submission = s.submission := by
  have links (other : Peer) : transportsClientConnected (step h build s (.dispatch peer frame)) other =
      transportsClientConnected s other ∧ transportsClientGeneration (step h build s (.dispatch peer frame)) other =
        transportsClientGeneration s other := by
    rcases dispatch_visits (h := h) signable.attached peer frame
      with idle | ⟨valid, index, middle, session, ensures, place,
      slot, run⟩
    · rw [idle h build rfl]
      exact ⟨rfl, rfl⟩
    · obtain ⟨attached, middleLinks, -⟩ := ensures.unchanged
      obtain ⟨still, accepts, kept⟩ :=
        handleFrame_signData_links h build valid data (middle.opened index peer session)
      rw [run h build rfl, withSession_eq middle place]
      refine transportsClientConnected_congr (still.trans attached) ⟨accepts, kept.trans ?_⟩ other
      rw [show (middle.opened index peer session).links = s.links from middleLinks]
  have after : Signable (step h build s (.dispatch peer frame)) (recorded h build s (.dispatch peer frame) ledger) :=
    signable.step (.dispatch peer frame) linked
  funext other
  rw [after.submission, signable.submission]
  have handed : handedOver h build s ledger other (.dispatch peer frame) = ledger other := by
    have imports := imported_command data nofun (newResponses h build s (.dispatch peer frame))
    have kept : submitted frame (newResponses h build s (.dispatch peer frame)) (ledger other) = ledger other := by
      unfold submitted
      rw [data]
      exact if_neg rejected
    unfold handedOver
    dsimp only
    rw [if_neg imports, kept, ite_self]
  unfold recorded
  rw [(links other).1, (links other).2, handed]
  split
  · rename_i dropped
    exact (signable.gone (dropped.resolve_right fun apart => apart rfl)).symm
  · rfl

variable (h build) in
/-- The bridge beside what its clients have handed over to be signed. -/
def signingStep (system : State σ × (Peer → Option (List UInt8))) (action : Action σ) :
    State σ × (Peer → Option (List UInt8)) :=
  (step h build system.1 action, recorded h build system.1 action system.2)

theorem boot_signable {host : σ} {store : Store} {links : Links}
    (identified : Identified (State.boot true host store links)) :
    Signable (State.boot true host store links) fun _ => none := by
  refine ⟨rfl, identified, fun session member used => ?_, fun session member used => ?_, fun peer => ?_⟩
  · obtain ⟨-, rfl⟩ := List.mem_replicate.mp member
    exact absurd rfl used
  · obtain ⟨-, rfl⟩ := List.mem_replicate.mp member
    exact absurd rfl used
  · unfold State.submission
    have absent : (State.boot true host store links).sessionOf peer = none := by
      unfold State.sessionOf
      rw [List.find?_eq_none]
      intro session member
      obtain ⟨-, rfl⟩ := List.mem_replicate.mp member
      simp [TransportSession.blank]
    rw [absent, Option.bind_none, ite_self]

theorem signing_run (actions : List (Action σ)) (signable : Signable s ledger)
    (meets : Runs.Along (step h build) OnConnections s actions) :
    Signable (Runs.run (signingStep h build) (s, ledger) actions).1
      (Runs.run (signingStep h build) (s, ledger) actions).2 ∧
      (Runs.run (signingStep h build) (s, ledger) actions).1 = Runs.run (step h build) s actions := by
  induction actions generalizing s ledger with
  | nil => exact ⟨signable, rfl⟩
  | cons action rest ih => exact ih (signable.step action meets.1) meets.2

variable (h build) in
/-- The signing sessions of all clients over a whole run. Every signature is one of what its client has handed over on
    its present connection, and a refused payload changes nothing. -/
theorem signing_sessions (host : σ) (store : Store) (links : Links)
    (identified : Identified (State.boot true host store links)) (actions : List (Action σ))
    (meets : Runs.Along (step h build) OnConnections (State.boot true host store links) actions) :
    ∀ before action after, actions = before ++ action :: after →
      let system := Runs.run (signingStep h build) (State.boot true host store links, fun _ => none) before
      SignedAsSubmitted h build system.1 system.2 action ∧
      ∀ peer frame, action = .dispatch peer frame → commandOf (frame.headD 0) = some .signData →
        newResponses h build system.1 action ≠ [okFrame] →
        (step h build system.1 action).submission = system.1.submission := by
  intro before action after split
  rw [split, Runs.along_append] at meets
  obtain ⟨earlier, admitted, -⟩ := meets
  obtain ⟨signable, same⟩ := signing_run before (boot_signable identified) earlier
  rw [← same] at admitted
  refine ⟨action_signs signable action admitted, fun peer frame dispatched data rejected => ?_⟩
  subst dispatched
  exact signData_rejected signable data admitted rejected

end Signatures

section TwoSigners

theorem twoClients_identified {s : State Device} {second : UInt32} (used : second ≠ 0)
    (links : s.links = twoClients second) :
    Identified s := by
  intro peer connected
  unfold transportsClientGeneration
  rw [if_pos connected]
  unfold transportsClientConnected at connected
  rw [links] at connected ⊢
  obtain ⟨id, client⟩ := peer
  cases id with
  | ble => simp [twoClients] at connected
  | ws => simp [twoClients] at connected
  | tcp =>
    by_cases first : client = 0
    · subst first
      change (1 : UInt32) ≠ 0
      decide
    · by_cases other : client = 1
      · subst other
        exact used
      · simp [twoClients, first, other] at connected

def bothSubmit : List (Action Device) :=
  [.service, .dispatch ⟨.tcp, 0⟩ [33], .dispatch ⟨.tcp, 1⟩ [33], .dispatch ⟨.tcp, 0⟩ [34, 5],
    .dispatch ⟨.tcp, 1⟩ [34, 6]]

def bothSubmitted : State Device × (Peer → Option (List UInt8)) :=
  Runs.run (signingStep Device.host Device.build) (twoClientsStart, fun _ => none) bothSubmit

theorem signFinish_signsOwn : SignedAsSubmitted Device.host Device.build bothSubmitted.1 bothSubmitted.2
      (.dispatch ⟨.tcp, 0⟩ [35]) ∧ bothSubmitted.2 ⟨.tcp, 0⟩ = some [5] ∧
    newResponses Device.host Device.build bothSubmitted.1 (.dispatch ⟨.tcp, 0⟩ [35]) ≠ [] := by
  have identified : Identified twoClientsStart := twoClients_identified (by decide) rfl
  have meets : Runs.Along (step Device.host Device.build) OnConnections twoClientsStart
      (bothSubmit ++ [.dispatch ⟨.tcp, 0⟩ [35]]) := by
    refine ⟨trivial, Or.inl rfl, Or.inl rfl, Or.inl rfl, Or.inl rfl, Or.inl rfl, trivial⟩
  exact ⟨(signing_sessions Device.host Device.build _ _ _ identified _ meets bothSubmit _ [] rfl).1, by decide +kernel,
    by decide +kernel⟩

def nobody : Links := ⟨false, false, 0, false, true, fun _ => none, []⟩

/-- A client's `CMD_SIGN_START` is taken when it is already gone; it comes back, and hands over a payload. -/
def startedWhileGone : State Device × (Peer → Option (List UInt8)) :=
  Runs.run (signingStep Device.host Device.build) (State.boot true Device.blank (Store.initial none) nobody,
    fun _ => none)
    [.dispatch ⟨.tcp, 0⟩ [33], .relink (twoClients 1), .service, .dispatch ⟨.tcp, 0⟩ [34, 5]]

def shown (data : List UInt8) (device : Device) : Filled signatureSize × Device :=
  (⟨data.take signatureSize, List.length_take_le _ _⟩, device)

/-- Its connection has begun no signing, and still its payload is signed. -/
theorem startedWhileGone_signs : startedWhileGone.2 ⟨.tcp, 0⟩ = none ∧
    newResponses (Device.host.signingWith shown) Device.build startedWhileGone.1 (.dispatch ⟨.tcp, 0⟩ [35]) =
      [[20, 5]] ∧
    ¬ SignedAsSubmitted Device.host Device.build startedWhileGone.1 startedWhileGone.2 (.dispatch ⟨.tcp, 0⟩ [35]) := by
  have absent : startedWhileGone.2 ⟨.tcp, 0⟩ = none := by decide +kernel
  have signed : newResponses (Device.host.signingWith shown) Device.build startedWhileGone.1
      (.dispatch ⟨.tcp, 0⟩ [35]) =
      [[20, 5]] := by decide +kernel
  have refused : newResponses Device.host Device.build startedWhileGone.1 (.dispatch ⟨.tcp, 0⟩ [35]) ≠ [[20, 5]] := by
    decide +kernel
  refine ⟨absent, signed, fun submitted => refused ?_⟩
  unfold SignedAsSubmitted at submitted
  dsimp only at submitted
  rw [if_pos (by decide), absent] at submitted
  unfold newResponses at signed ⊢
  rwa [← submitted shown]

end TwoSigners

end SigurdOS.Companion
