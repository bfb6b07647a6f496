import SigurdOS.Companion.SigningCommands

namespace SigurdOS.Companion

open Bytes MessageStore

section Ledger

variable {σ : Type} (h : CompanionBridgeHost σ) (build : Build)

def Identified (s : State σ) : Prop :=
  ∀ peer, transportsClientConnected s peer = true → transportsClientGeneration s peer ≠ 0

/-- What the session of a client holds to be signed on the client's link. -/
def State.held (s : State σ) (peer : Peer) (session : TransportSession) : Option (List UInt8) :=
  if Stale s peer session then none else session.submission

def State.submission (s : State σ) (peer : Peer) : Option (List UInt8) :=
  if transportsClientConnected s peer then (s.sessionOf peer).bind (s.held peer) else none

def handedOver (s : State σ) (ledger : Peer → Option (List UInt8)) (peer : Peer) : Action σ → Option (List UInt8)
  | .identityChanged => none
  | .dispatch client frame =>
    if Imported frame (newResponses h build s (.dispatch client frame)) then none
    else if client = peer then submitted frame (newResponses h build s (.dispatch client frame)) (ledger peer)
    else ledger peer
  | _ => ledger peer

/-- The payloads that a client has handed over since the `CMD_SIGN_START` of its present connection. -/
def recorded (s : State σ) (action : Action σ) (ledger : Peer → Option (List UInt8)) (peer : Peer) :
    Option (List UInt8) :=
  if transportsClientConnected (step h build s action) peer = false ∨
      transportsClientGeneration (step h build s action) peer ≠ transportsClientGeneration s peer then none
  else handedOver h build s ledger peer action

structure SoundSigning (c : Connection) : Prop where
  bounded : c.signBuf.length ≤ maxSignData
  parked : c.signActive = true → c.wasConnected = true ∧ c.connectionGeneration ≠ 0 ∨ c.pendingResponse ≠ []

structure Signable (s : State σ) (ledger : Peer → Option (List UInt8)) : Prop where
  attached : s.attached = true
  identified : Identified s
  opened : ∀ session ∈ s.sessions, session.slot ≠ none → session.generation ≠ 0
  sound : ∀ session ∈ s.sessions, session.slot ≠ none → SoundSigning session.toConnection
  submission : ∀ peer, s.submission peer = ledger peer

variable {h build} {s after : State σ} {ledger next : Peer → Option (List UInt8)}

theorem Narrows.identified (narrows : Narrows s after) (identified : Identified s) : Identified after := by
  intro peer connected
  obtain ⟨before, generation⟩ := narrows peer connected
  rw [generation]
  exact identified peer before

theorem held_signing (s : State σ) (peer : Peer) (session : TransportSession) :
    s.held peer session.signing = s.held peer session := rfl

theorem held_congr {peer : Peer} (session : TransportSession)
    (connected : transportsClientConnected after peer = transportsClientConnected s peer)
    (generation : transportsClientGeneration after peer = transportsClientGeneration s peer) :
    after.held peer session = s.held peer session := by
  have same : Stale after peer session ↔ Stale s peer session := by
    unfold Stale
    rw [connected, generation]
  unfold State.held
  simp only [same]

theorem submission_views (s : State σ) (peer : Peer) : s.submission peer =
    if transportsClientConnected s peer then
      (s.indexOf peer).bind fun index => (s.sessions.map TransportSession.signing)[index]?.bind (s.held peer)
    else none := by
  unfold State.submission
  rw [sessionOf_eq]
  cases s.indexOf peer with
  | none => rfl
  | some index =>
    dsimp only [Option.bind_some]
    rw [List.getElem?_map]
    cases s.sessions[index]? with
    | none => rfl
    | some session => rfl

theorem submission_congr {peer : Peer}
    (connected : transportsClientConnected after peer = transportsClientConnected s peer)
    (generation : transportsClientGeneration after peer = transportsClientGeneration s peer)
    (found : after.indexOf peer = s.indexOf peer) (views : ∀ index, s.indexOf peer = some index →
      (after.sessions.map TransportSession.signing)[index]? = (s.sessions.map TransportSession.signing)[index]?) :
    after.submission peer = s.submission peer := by
  have held : after.held peer = s.held peer := funext fun session => held_congr session connected generation
  rw [submission_views, submission_views, connected, found, held]
  cases place : s.indexOf peer with
  | none => rfl
  | some index =>
    dsimp only [Option.bind_some]
    rw [views index place]

theorem submission_gone {peer : Peer} (gone : transportsClientConnected s peer = false) : s.submission peer = none := by
  unfold State.submission
  rw [gone]
  rfl

theorem slots_of_views (views : after.sessions.map TransportSession.signing = s.sessions.map TransportSession.signing) :
    after.sessions.map (·.slot) = s.sessions.map (·.slot) := by
  have slots (sessions : List TransportSession) :
      sessions.map (·.slot) = (sessions.map TransportSession.signing).map (·.slot) := by
    rw [List.map_map]
    rfl
  rw [slots after.sessions, slots s.sessions, views]

theorem Signable.of_views (signable : Signable s ledger) (attached : after.attached = s.attached)
    (narrows : Narrows s after)
    (views : after.sessions.map TransportSession.signing = s.sessions.map TransportSession.signing)
    (follows : ∀ peer, next peer = if transportsClientConnected after peer then ledger peer else none) :
    Signable after next := by
  have former {session : TransportSession} (member : session ∈ after.sessions) :
      ∃ old ∈ s.sessions, old.signing = session.signing := by
    have inside := List.mem_map_of_mem (f := TransportSession.signing) member
    rw [views] at inside
    exact List.mem_map.mp inside
  refine ⟨attached.trans signable.attached, narrows.identified signable.identified, ?_, ?_, ?_⟩
  · intro session member used
    obtain ⟨old, present, same⟩ := former member
    have slot : old.signing.slot = session.signing.slot := by rw [same]
    have generation : old.signing.generation = session.signing.generation := by rw [same]
    intro closed
    exact signable.opened old present (fun free => used (slot.symm.trans free)) (generation.trans closed)
  · intro session member used
    obtain ⟨old, present, same⟩ := former member
    have slot : old.signing.slot = session.signing.slot := by rw [same]
    obtain ⟨bounded, parked⟩ := signable.sound old present fun free => used (slot.symm.trans free)
    have sound : SoundSigning old.signing.toConnection := ⟨bounded, parked⟩
    rw [same] at sound
    exact ⟨sound.1, sound.2⟩
  · intro peer
    rw [follows]
    cases connected : transportsClientConnected after peer with
    | false => exact submission_gone connected
    | true =>
      obtain ⟨before, generation⟩ := narrows peer connected
      rw [if_pos rfl, ← signable.submission peer]
      exact submission_congr (connected.trans before.symm) generation (indexOf_congr (slots_of_views views))
        fun index _ => by rw [views]

theorem submission_found {peer : Peer} {index : Nat} {session : TransportSession} (found : s.indexOf peer = some index)
    (place : s.sessions[index]? = some session) :
    s.submission peer = if transportsClientConnected s peer then s.held peer session else none := by
  unfold State.submission
  rw [sessionOf_eq, found]
  dsimp only [Option.bind_some]
  rw [place]
  rfl

theorem find?_set_of_not {α : Type} {p : α → Bool} {list : List α} {index : Nat} {old new : α}
    (place : list[index]? = some old) (before : p old = false) (replaced : p new = false) :
    (list.set index new).find? p = list.find? p := by
  induction list generalizing index with
  | nil => rfl
  | cons head rest ih =>
    cases index with
    | zero =>
      obtain rfl := Option.some.inj place
      simp [before, replaced]
    | succ index =>
      rw [List.set_cons_succ, List.find?_cons, List.find?_cons, ih place]

theorem Signable.set (signable : Signable s ledger) {index : Nat} {session replaced : TransportSession} {owner : Peer}
    (place : s.sessions[index]? = some session) (slot : session.slot = some owner ∨ session.slot = none)
    (owned : replaced.slot = some owner) (opened : replaced.generation ≠ 0) (sound : SoundSigning replaced.toConnection)
    (sessions : after.sessions = s.sessions.set index replaced) (attached : after.attached = s.attached)
    (links : after.links = s.links) (others : ∀ peer, peer ≠ owner → next peer = ledger peer)
    (own : after.submission owner = next owner) : Signable after next := by
  have linked (peer : Peer) := transportsClientConnected_congr attached ⟨s.links.accepts, links⟩ peer
  refine ⟨attached.trans signable.attached, ?_, ?_, ?_, ?_⟩
  · intro peer connected
    rw [(linked peer).2]
    exact signable.identified peer ((linked peer).1.symm.trans connected)
  · intro kept member used
    rw [sessions] at member
    rcases List.mem_or_eq_of_mem_set member with old | rfl
    · exact signable.opened kept old used
    · exact opened
  · intro kept member used
    rw [sessions] at member
    rcases List.mem_or_eq_of_mem_set member with old | rfl
    · exact signable.sound kept old used
    · exact sound
  · intro peer
    by_cases own' : peer = owner
    · rw [own', own]
    · have found : after.sessionOf peer = s.sessionOf peer := by
        unfold State.sessionOf
        rw [sessions]
        refine find?_set_of_not place ?_ ?_
        · rw [decide_eq_false_iff_not]
          rcases slot with taken | free
          · rw [taken]
            exact fun same => own' (Option.some.inj same).symm
          · rw [free]
            exact nofun
        · rw [decide_eq_false_iff_not, owned]
          exact fun same => own' (Option.some.inj same).symm
      have held : after.held peer = s.held peer :=
        funext fun session => held_congr session (linked peer).1 (linked peer).2
      rw [others peer own', ← signable.submission peer]
      unfold State.submission
      rw [found, held, (linked peer).1]

theorem held_fresh (s : State σ) (peer : Peer) (generation : UInt32) (connected : Bool) :
    s.held peer (freshSession peer generation connected) = none := by
  unfold State.held
  split
  · rfl
  · rfl

theorem Signable.ensures (signable : Signable s ledger) {peer : Peer} {outcome : Option Nat × State σ}
    (ensures : Ensures h s peer outcome) (linked : transportsClientConnected s peer = true ∨ s.indexOf peer ≠ none) :
    Signable outcome.2 ledger := by
  have fresh : SoundSigning (freshSession peer (transportsClientGeneration s peer) true).toConnection :=
    ⟨Nat.zero_le _, nofun⟩
  have silent {index : Nat} {middle : State σ} (ensured : Ensures h s peer (some index, middle))
      (place : middle.sessions[index]? = some (freshSession peer (transportsClientGeneration s peer) true)) :
      middle.submission peer = none := by
    rw [submission_found ensured.found place, held_fresh, ite_self]
  cases ensures with
  | known index session found place slot same => exact signable
  | full absent => exact signable
  | renewed index session found place slot moved =>
    have inside := (List.getElem?_eq_some_iff.mp place).1
    refine signable.set place (Or.inl slot) rfl moved.1 fresh rfl rfl rfl (fun _ _ => rfl) ?_
    rw [silent (.renewed index session found place slot moved) (List.getElem?_set_self inside), ← signable.submission,
      submission_found found place]
    have stale : Stale s peer session := Or.inl moved
    unfold State.held
    rw [if_pos stale, ite_self]
  | opened index session absent place free =>
    have inside := (List.getElem?_eq_some_iff.mp place).1
    refine signable.set place (Or.inr free) rfl
      (signable.identified peer (linked.resolve_right fun found => found absent)) fresh rfl rfl rfl (fun _ _ => rfl) ?_
    rw [silent (.opened index session absent place free) (List.getElem?_set_self inside), ← signable.submission,
      submission_views, absent, Option.bind_none, ite_self]

/-- The state when the request of a session ends. -/
def State.left (s : State σ) (index : Nat) : State σ :=
  { s with sessions := s.sessions.modify index (saveTransportSession s.current), request := none, active := none }

theorem Signable.visit (signable : Signable s ledger) {index : Nat} {session : TransportSession} {owner : Peer}
    (place : s.sessions[index]? = some session) (slot : session.slot = some owner)
    (attached : after.attached = s.attached)
    (narrows : Narrows s after)
    (views : after.sessions.map TransportSession.signing = s.sessions.map TransportSession.signing)
    (sound : SoundSigning after.current)
    (others : ∀ peer, peer ≠ owner ∨ s.indexOf peer ≠ some index →
      next peer = if transportsClientConnected after peer then ledger peer else none)
    (own : s.indexOf owner = some index → next owner = if transportsClientConnected after owner then
      after.held owner (saveTransportSession after.current session) else none) : Signable (after.left index) next := by
  obtain ⟨idle, rest⟩ : ∃ idle, idle = { after with request := none, active := none } := ⟨_, rfl⟩
  have early : Signable idle fun peer => if transportsClientConnected after peer then ledger peer else none := by
    subst rest
    exact signable.of_views attached narrows views fun _ => rfl
  have view : (after.sessions.map TransportSession.signing)[index]? = some session.signing := by
    rw [views, List.getElem?_map, place]
    rfl
  rw [List.getElem?_map, Option.map_eq_some_iff] at view
  obtain ⟨kept, here, same⟩ := view
  have keptSlot : kept.slot = some owner := by
    change kept.signing.slot = some owner
    rw [same]
    exact slot
  have keptGeneration : kept.generation = session.generation := by
    change kept.signing.generation = session.generation
    rw [same]
    rfl
  have opened := signable.opened session (List.mem_of_getElem? place) (by rw [slot]; exact nofun)
  have modified : (after.left index).sessions = after.sessions.set index (saveTransportSession after.current kept) := by
    obtain ⟨inside, rfl⟩ := List.getElem?_eq_some_iff.mp here
    exact List.modify_eq_set_get _ inside
  have found (peer : Peer) : (after.left index).indexOf peer = s.indexOf peer := by
    refine (indexOf_congr ?_).trans (indexOf_congr (slots_of_views views))
    rw [modified]
    exact slots_set here rfl
  have position : idle.sessions[index]? = some kept := by
    rw [rest]
    exact here
  have savedSlot : (saveTransportSession after.current kept).slot = some owner := keptSlot
  have savedSound : SoundSigning (saveTransportSession after.current kept).toConnection := ⟨sound.1, sound.2⟩
  refine early.set position (Or.inl keptSlot) savedSlot (fun closed => opened (keptGeneration.symm.trans closed))
    savedSound
    (by rw [modified, rest]) (by rw [rest]; rfl) (by rw [rest]; rfl) (fun peer apart => others peer (Or.inl apart)) ?_
  by_cases first : s.indexOf owner = some index
  · have stored : (after.left index).sessions[index]? = some (saveTransportSession after.current kept) := by
      rw [modified]
      exact List.getElem?_set_self (List.getElem?_eq_some_iff.mp here).1
    have alike : (saveTransportSession after.current kept).signing =
        (saveTransportSession after.current session).signing := by
      simp [TransportSession.signing, saveTransportSession, keptSlot, keptGeneration, slot]
    rw [own first, ← held_signing, ← alike, held_signing]
    exact submission_found ((found owner).trans first) stored
  · rw [others owner (Or.inr first), ← early.submission owner]
    have unmoved (peer : Peer) : idle.indexOf peer = s.indexOf peer := by
      rw [rest]
      exact indexOf_congr (slots_of_views views)
    subst rest
    refine submission_congr rfl rfl ((found owner).trans (unmoved owner).symm) fun j other => ?_
    have elsewhere : index ≠ j := by
      rintro rfl
      exact first ((unmoved owner).symm.trans other)
    rw [List.getElem?_map, List.getElem?_map, modified, List.getElem?_set_ne elsewhere]

/-- The link of the slot carries another connection than the one the session was opened on. -/
def Moved (s : State σ) (peer : Peer) (session : TransportSession) : Prop :=
  transportsClientGeneration s peer ≠ 0 ∧ session.generation ≠ 0 ∧
    transportsClientGeneration s peer ≠ session.generation

theorem refreshed_cases (s : State σ) :
    Dropped s ∧ (refreshed s).signBuf = [] ∧ (refreshed s).signActive = false ∧ (refreshed s).pendingResponse = [] ∨
      ¬ Dropped s ∧ (refreshed s).signBuf = s.current.signBuf ∧ (refreshed s).signActive = s.current.signActive ∧
        (refreshed s).pendingResponse = s.current.pendingResponse := by
  have decided : (s.current.wasConnected && (s.current.connectionGeneration != 0 &&
      (!currentTransportConnected s || currentGeneration s != s.current.connectionGeneration))) = true ↔ Dropped s := by
    simp [Dropped]
  unfold refreshed
  by_cases dropped : Dropped s
  · rw [if_pos (decided.mpr dropped)]
    exact Or.inl ⟨dropped, rfl, rfl, rfl⟩
  · rw [if_neg (fun changed => dropped (decided.mp changed))]
    exact Or.inr ⟨dropped, rfl, rfl, rfl⟩

theorem held_refreshed (index : Nat) {owner : Peer} {session : TransportSession} (still : ¬ Moved s owner session) :
    s.held owner session = (refreshed (s.opened index owner session)).submission := by
  unfold State.held
  rcases refreshed_cases (s.opened index owner session) with ⟨dropped, -, inactive, -⟩ | ⟨kept, buf, active, -⟩
  · have stale : Stale s owner session := Or.inr dropped
    rw [if_pos stale, Connection.submission_inactive inactive]
  · have fresh : ¬ Stale s owner session := fun stale => stale.elim still kept
    rw [if_neg fresh]
    unfold Connection.submission
    rw [buf, active]
    rfl

theorem SoundSigning.refreshed {index : Nat} {owner : Peer} {session : TransportSession}
    (sound : SoundSigning session.toConnection) (identified : Identified s) :
    SoundSigning (refreshed (s.opened index owner session)) := by
  rcases refreshed_cases (s.opened index owner session) with ⟨-, buf, inactive, -⟩ | ⟨kept, buf, active, pending⟩
  · refine ⟨by rw [buf]; exact Nat.zero_le _, fun signing => ?_⟩
    rw [inactive] at signing
    cases signing
  · refine ⟨by rw [buf]; exact sound.bounded, fun signing => ?_⟩
    rw [active] at signing
    cases live : transportsClientConnected s owner with
    | true => exact Or.inl ⟨live, identified owner live⟩
    | false =>
      refine Or.inr ?_
      rw [pending]
      refine (sound.parked signing).resolve_left fun linked => kept ⟨linked.1, linked.2, Or.inl live⟩

theorem held_saved {owner : Peer} {session : TransportSession} {c : Connection} (still : ¬ Moved s owner session)
    (live : transportsClientConnected s owner = true) (synced : c.connectionGeneration =
      transportsClientGeneration s owner) :
    s.held owner (saveTransportSession c session) = c.submission := by
  have fresh : ¬ Stale s owner (saveTransportSession c session) := by
    rintro (moved | ⟨-, -, cut | apart⟩)
    · exact still moved
    · rw [live] at cut
      cases cut
    · exact apart synced.symm
  unfold State.held
  rw [if_neg fresh]
  rfl

theorem held_moved {owner : Peer} {session : TransportSession} (moved : Moved s owner session) :
    s.held owner session = none := by
  have stale : Stale s owner session := Or.inl moved
  unfold State.held
  rw [if_pos stale]

theorem Signable.gone (signable : Signable s ledger) {peer : Peer} (gone : transportsClientConnected s peer = false) :
    ledger peer = none := by
  rw [← signable.submission, submission_gone gone]

theorem Signable.service (signable : Signable s ledger) : Signable (serviceTransportSessions h s) ledger := by
  refine serviceTransportSessions_keeps (fun s => Signable s ledger)
    (fun signable live => signable.ensures (ensureTransportSession_ensures _ _) (Or.inl live)) ?_ signable
  intro s index peer session signable place slot live
  obtain ⟨tends, generation⟩ := service_tends (h := h) (s.opened index peer session)
  obtain ⟨host, trace, worked⟩ := refreshConnectionSession_worked h (s.opened index peer session)
  have kept := serviceCurrentSession_signingKept (h := h) (refreshConnectionSession h (s.opened index peer session))
  rw [withSession_eq s place]
  change Signable ((serviceCurrentSession h (refreshConnectionSession h (s.opened index peer session))).left index)
    ledger
  generalize serviceCurrentSession h (refreshConnectionSession h (s.opened index peer session)) = after at *
  rw [worked] at kept
  have connected (other : Peer) : transportsClientConnected after other = transportsClientConnected s other :=
    tends.beside.connected other
  have generations (other : Peer) : transportsClientGeneration after other = transportsClientGeneration s other :=
    tends.beside.generation other
  have sound : SoundSigning (refreshed (s.opened index peer session)) :=
    (signable.sound session (List.mem_of_getElem? place) (by rw [slot]; exact nofun)).refreshed signable.identified
  have synced : after.current.wasConnected = true ∧ after.current.connectionGeneration ≠ 0 := by
    rw [kept.wasConnected, generation]
    exact ⟨live, signable.identified peer live⟩
  have still (other : Peer) : ledger other = if transportsClientConnected after other then ledger other else none := by
    rw [connected]
    cases linked : transportsClientConnected s other with
    | true => rfl
    | false => exact signable.gone linked
  refine signable.visit place slot tends.beside.attached kept.narrows kept.sessions
    ⟨by rw [kept.buffer]; exact sound.bounded, fun _ => Or.inl synced⟩ (fun other _ => still other) fun found => ?_
  rw [connected, if_pos live, held_congr _ (connected peer) (generations peer), ← signable.submission,
    submission_found found place, if_pos live]
  by_cases moved : Moved s peer session
  · have gone : Moved s peer (saveTransportSession after.current session) := moved
    rw [held_moved moved, held_moved gone]
  · rw [held_saved moved live generation, kept.submission]
    exact held_refreshed index moved

structure HandlesSigning (frame : List UInt8) (s after : State σ) : Prop where
  attached : after.attached = s.attached
  narrows : Narrows s after
  wasConnected : after.current.wasConnected = currentTransportConnected s
  connectionGeneration : after.current.connectionGeneration = currentGeneration s
  sessions : if Imported frame (answers s after) then Disarmed s after
    else after.sessions.map TransportSession.signing = s.sessions.map TransportSession.signing
  submission : after.current.submission = submitted frame (answers s after) (refreshed s).submission
  bounded : (refreshed s).signBuf.length ≤ maxSignData → after.current.signBuf.length ≤ maxSignData
  parked : s.request ≠ none → currentTransportConnected s = false → SoundSigning (refreshed s) →
    after.current.signActive = true → after.current.pendingResponse ≠ []

theorem submitted_imported {replies : List (List UInt8)} (imports : Imported frame replies)
    (held : Option (List UInt8)) :
    submitted frame replies held = none := by
  unfold submitted
  rw [imports.1, imports.2]
  rfl

theorem submitted_nil (frame : List UInt8) (held : Option (List UInt8)) : submitted frame [] held = held := by
  unfold submitted
  split <;> rfl

def State.lookedAt (s : State σ) : State σ := s.worked (refreshed s) s.host s.trace

theorem refreshConnectionSession_signing (s : State σ) (event : Event) :
    SigningKept s.lookedAt (refreshConnectionSession h (s.note event)) ∧
      (refreshConnectionSession h (s.note event)).trace.responses = s.trace.responses ∧
      (refreshConnectionSession h (s.note event)).current.pendingResponse = (refreshed s).pendingResponse := by
  have told := (refreshConnectionSession_current (h := h) (s.note event)).2
  obtain ⟨host, trace, same⟩ := refreshConnectionSession_worked h (s.note event)
  refine ⟨?_, told, ?_⟩
  · rw [same]
    exact ⟨rfl, rfl, fun _ connected => ⟨connected, rfl⟩, rfl, rfl, rfl, rfl, rfl⟩
  · rw [same]
    rfl

theorem commandState_signing (s : State σ) (frame : List UInt8) : SigningKept s.lookedAt (commandState h s frame) ∧
    (commandState h s frame).trace.responses = s.trace.responses ∧
    (commandState h s frame).current.pendingResponse = (refreshed s).pendingResponse := by
  obtain ⟨kept, told, waiting⟩ :=
    refreshConnectionSession_signing (h := h) s (.received s.request (currentGeneration s) frame)
  refine ⟨kept.trans (expirePendingBinary_signingKept _), (expirePendingBinary_responses _).trans told, ?_⟩
  exact (expirePendingBinary_bystander _).2.2.trans waiting

theorem handleFrame_eq (valid : validFrame frame = true) (s : State σ) : (handleFrame h build s frame).2 =
    if (refreshed s).pendingResponse.isEmpty then dispatchCommand h build (commandState h s frame) frame
    else refreshConnectionSession h (s.note (.received s.request (currentGeneration s) frame)) := by
  have waiting := (refreshConnectionSession_signing (h := h) s (.received s.request (currentGeneration s) frame)).2.2
  unfold handleFrame
  rw [valid, Bool.not_true, if_neg Bool.false_ne_true]
  dsimp only
  rw [waiting]
  cases (refreshed s).pendingResponse with
  | nil => rfl
  | cons head rest => rfl

variable (h build) in
theorem handleFrame_signing (valid : validFrame frame = true) (s : State σ) :
    HandlesSigning frame s (handleFrame h build s frame).2 := by
  rw [handleFrame_eq valid]
  cases waiting : (refreshed s).pendingResponse with
  | cons head rest =>
    obtain ⟨kept, told, slot⟩ :=
      refreshConnectionSession_signing (h := h) s (.received s.request (currentGeneration s) frame)
    rw [if_neg (by simp)]
    generalize refreshConnectionSession h (s.note (.received s.request (currentGeneration s) frame)) = after at *
    have silent : answers s after = [] := by
      unfold answers
      rw [told]
      exact List.drop_length
    refine ⟨kept.attached, kept.narrows, kept.wasConnected, kept.connectionGeneration, ?_, ?_, ?_, ?_⟩
    · rw [silent, if_neg (fun imports : Imported frame [] => nomatch imports.2)]
      exact kept.sessions
    · rw [silent, submitted_nil]
      exact kept.submission
    · rw [kept.buffer]
      exact id
    · intro _ _ _ _
      rw [slot, waiting]
      exact nofun
  | nil =>
    obtain ⟨kept, told, slot⟩ := commandState_signing (h := h) s frame
    have stored : (commandState h s frame).sessions = s.sessions :=
      (expirePendingBinary_sessions _).trans (refreshConnectionSession_sessions _)
    rw [if_pos (by rfl)]
    have dispatched := dispatchCommand_dispatched h build frame (commandState h s frame)
    generalize commandState h s frame = middle at *
    generalize dispatchCommand h build middle frame = after at *
    have same : answers s after = answers middle after := by
      unfold answers
      rw [told]
    refine ⟨dispatched.attached.trans kept.attached, ?_, dispatched.wasConnected.trans kept.wasConnected,
      dispatched.connectionGeneration.trans kept.connectionGeneration, ?_, ?_, ?_, ?_⟩
    · intro peer connected
      obtain ⟨between, generation⟩ := dispatched.narrows peer connected
      obtain ⟨before, same⟩ := kept.narrows peer between
      exact ⟨before, generation.trans same⟩
    · have disarmed := dispatched.sessions
      rw [same]
      unfold Disarmed at disarmed ⊢
      rwa [stored] at disarmed
    · rw [same, dispatched.submission, kept.submission]
      rfl
    · intro bounded
      refine dispatched.bounded ?_
      rw [kept.buffer]
      exact bounded
    · intro request gone sound
      have idle : middle.current.pendingResponse = [] := slot.trans waiting
      have cut : currentTransportConnected middle = false := by
        cases live : currentTransportConnected middle with
        | false => rfl
        | true =>
          obtain ⟨peer, own⟩ := Option.ne_none_iff_exists'.mp request
          have asked : middle.request = some peer := kept.request.trans own
          unfold currentTransportConnected at gone live
          rw [own] at gone
          rw [asked] at live
          have still : transportsClientConnected s peer = true := (kept.narrows peer live).1
          exact still.symm.trans gone
      have quiet : middle.current.signActive = false := by
        rw [kept.signing]
        cases signing : (refreshed s).signActive with
        | false => exact signing
        | true =>
          rcases sound.parked signing with ⟨linked, -⟩ | filled
          · exact absurd (gone.symm.trans linked) nofun
          · exact absurd waiting filled
      exact dispatched.parked (fun free => request (kept.request.symm.trans free)) cut quiet idle

theorem Ensures.not_moved {index : Nat} {peer : Peer} {middle : State σ} {session : TransportSession}
    (ensures : Ensures h s peer (some index, middle)) (place : middle.sessions[index]? = some session) :
    ¬ Moved middle peer session := by
  have fresh {sessions : List TransportSession} {old : TransportSession} (here : sessions[index]? = some old)
      (same : (sessions.set index (freshSession peer (transportsClientGeneration s peer) true))[index]? =
        some session) :
      ¬ Moved s peer session := by
    rw [List.getElem?_set_self (List.getElem?_eq_some_iff.mp here).1] at same
    obtain rfl := Option.some.inj same
    exact fun moved => moved.2.2 rfl
  cases ensures with
  | known index known found here slot same =>
    obtain rfl := Option.some.inj (here.symm.trans place)
    rintro ⟨linked, used, apart⟩
    exact same.elim used (Or.rec linked apart)
  | renewed index known found here slot moved => exact fresh here place
  | opened index known absent here free => exact fresh here place

theorem recorded_narrows {action : Action σ} (narrows : Narrows s (step h build s action))
    (ledger : Peer → Option (List UInt8))
    (peer : Peer) : recorded h build s action ledger peer =
      if transportsClientConnected (step h build s action) peer then
        handedOver h build s ledger peer action else none := by
  unfold recorded
  cases connected : transportsClientConnected (step h build s action) peer with
  | false => rw [if_pos (Or.inl rfl), if_neg Bool.false_ne_true]
  | true =>
    rw [if_neg (by rw [(narrows peer connected).2]; simp), if_pos rfl]

theorem Signable.disarmed (signable : Signable s ledger) (attached : after.attached = s.attached)
    (narrows : Narrows s after)
    (disarmed : Disarmed s after) : Signable after fun _ => none := by
  refine ⟨attached.trans signable.attached, narrows.identified signable.identified, ?_, ?_, ?_⟩
  · intro session member used
    obtain ⟨old, present, slot, generation, -⟩ := forall₂_mem_right disarmed member
    rw [generation]
    exact signable.opened old present fun free => used (slot.trans free)
  · intro session member used
    obtain ⟨old, present, slot, -, empty⟩ := forall₂_mem_right disarmed member
    obtain ⟨inactive, bounded⟩ := empty fun free => used (slot.trans free)
    refine ⟨bounded, fun signing => ?_⟩
    rw [inactive] at signing
    cases signing
  · intro peer
    unfold State.submission
    split
    · cases found : after.sessionOf peer with
      | none => rfl
      | some session =>
        have member := List.mem_of_find?_eq_some found
        unfold State.sessionOf at found
        have first := List.find?_some found
        have owned : session.slot = some peer := of_decide_eq_true first
        obtain ⟨old, present, slot, -, empty⟩ := forall₂_mem_right disarmed member
        have inactive := (empty fun free => nomatch owned.symm.trans (slot.trans free)).1
        dsimp only [Option.bind_some]
        unfold State.held
        rw [Connection.submission_inactive inactive, ite_self]
    · rfl

theorem Signable.follow (signable : Signable s ledger) {action : Action σ}
    (kept : SigningKept s (step h build s action))
    (still : ∀ peer, handedOver h build s ledger peer action = ledger peer) :
    Signable (step h build s action) (recorded h build s action ledger) := by
  refine signable.of_views kept.attached kept.narrows kept.sessions fun peer => ?_
  rw [recorded_narrows kept.narrows, still]

theorem newResponses_idle {action : Action σ} (idle : step h build s action = s) :
    newResponses h build s action = [] := by
  unfold newResponses
  rw [idle]
  exact List.drop_length

theorem newResponses_left {action : Action σ} {peer : Peer} {index : Nat} {middle : State σ}
    {session : TransportSession}
    (trace : middle.trace = s.trace) (same : step h build s action = after.left index) :
    newResponses h build s action = answers (middle.opened index peer session) after := by
  unfold newResponses answers
  rw [same, ← trace]
  rfl

section Frames

variable {peer : Peer} {index : Nat} {middle : State σ} {session : TransportSession}

theorem Signable.dispatch_idle (signable : Signable s ledger) (idle : step h build s (.dispatch peer frame) = s) :
    Signable (step h build s (.dispatch peer frame)) (recorded h build s (.dispatch peer frame) ledger) := by
  refine signable.follow (by rw [idle]; exact .refl s) fun other => ?_
  unfold handedOver
  dsimp only
  have silent : ¬ Imported frame [] := fun imports => absurd imports.2 (List.cons_ne_nil _ _).symm
  rw [newResponses_idle idle, if_neg silent, submitted_nil, ite_self]

theorem HandlesSigning.soundSigning (signing : HandlesSigning frame (middle.opened index peer session) after)
    (opened : Signable middle ledger) (sound : SoundSigning (refreshed (middle.opened index peer session))) :
    SoundSigning after.current := by
  refine ⟨signing.bounded sound.bounded, fun active => ?_⟩
  cases live : transportsClientConnected middle peer with
  | true =>
    refine Or.inl ⟨signing.wasConnected.trans live, ?_⟩
    rw [signing.connectionGeneration]
    exact opened.identified peer live
  | false => exact Or.inr (signing.parked (Option.some_ne_none _) live sound active)

/-- A frame that imports a key ends every signing, that of its own session too. -/
theorem HandlesSigning.imported (signing : HandlesSigning frame (middle.opened index peer session) after)
    (imports : Imported frame (answers (middle.opened index peer session) after))
    (sound : SoundSigning (refreshed (middle.opened index peer session))) : Disarmed middle (after.left index) := by
  have disarmed := signing.sessions
  rw [if_pos imports] at disarmed
  have quiet : after.current.signActive = false := by
    have empty := signing.submission
    rw [submitted_imported imports] at empty
    exact Connection.inactive_of_submission empty
  unfold Disarmed at disarmed ⊢
  rw [List.forall₂_iff_get] at disarmed ⊢
  obtain ⟨length, each⟩ := disarmed
  refine ⟨by simpa [State.left, State.opened] using length, fun i inside bound => ?_⟩
  have within : i < after.sessions.length := by simpa [State.left] using bound
  obtain ⟨slots, generations, empty⟩ := each i inside within
  simp only [State.left, List.get_eq_getElem, List.getElem_modify] at slots generations empty ⊢
  split
  · exact ⟨slots, generations, fun _ => ⟨quiet, signing.bounded sound.bounded⟩⟩
  · exact ⟨slots, generations, empty⟩

/-- What the client of the frame has handed over, its session holds when the request ends. -/
theorem HandlesSigning.held (signing : HandlesSigning frame (middle.opened index peer session) after)
    (opened : Signable middle ledger) (place : middle.sessions[index]? = some session)
    (found : middle.indexOf peer = some index) (moved : ¬ Moved middle peer session)
    (live : transportsClientConnected after peer = true) :
    after.held peer (saveTransportSession after.current session) =
      submitted frame (answers (middle.opened index peer session) after) (ledger peer) := by
  obtain ⟨before, generation⟩ := signing.narrows peer live
  have still : ¬ Moved after peer session := by
    unfold Moved
    rw [generation]
    exact moved
  have synced : after.current.connectionGeneration = transportsClientGeneration after peer :=
    signing.connectionGeneration.trans generation.symm
  have linked : transportsClientConnected middle peer = true := before
  have former : ledger peer = (refreshed (middle.opened index peer session)).submission := by
    rw [← opened.submission, submission_found found place, if_pos linked]
    exact held_refreshed index moved
  rw [held_saved still live synced, signing.submission, former]

theorem Signable.dispatch_imported (opened : Signable middle ledger)
    (signing : HandlesSigning frame (middle.opened index peer session) after)
    (imports : Imported frame (answers (middle.opened index peer session) after))
    (sound : SoundSigning (refreshed (middle.opened index peer session))) :
    Signable (after.left index) fun _ => none := by
  have disarmed := signing.imported imports sound
  exact opened.disarmed signing.attached signing.narrows disarmed

theorem Signable.dispatch_kept (opened : Signable middle ledger) (place : middle.sessions[index]? = some session)
    (slot : session.slot = some peer) (found : middle.indexOf peer = some index) (moved : ¬ Moved middle peer session)
    (signing : HandlesSigning frame (middle.opened index peer session) after)
    (imports : ¬ Imported frame (answers (middle.opened index peer session) after))
    (sound : SoundSigning (refreshed (middle.opened index peer session))) :
    Signable (after.left index) fun other =>
      if transportsClientConnected after other then
        if peer = other then submitted frame (answers (middle.opened index peer session) after) (ledger other)
        else ledger other
      else none := by
  have views := signing.sessions
  rw [if_neg imports] at views
  refine opened.visit place slot signing.attached signing.narrows views (signing.soundSigning opened sound)
    (fun other apart => ?_) fun _ => ?_
  · have stranger : ¬ peer = other := by
      rintro rfl
      exact apart.elim (fun other => other rfl) (fun unfound => unfound found)
    rw [if_neg stranger]
  · rw [if_pos rfl]
    split
    · next live => rw [signing.held opened place found moved live]
    · rfl

theorem Signable.dispatch (signable : Signable s ledger) (frame : List UInt8)
    (linked : transportsClientConnected s peer = true ∨ (s.sessionOf peer).isSome = true) :
    Signable (step h build s (.dispatch peer frame)) (recorded h build s (.dispatch peer frame) ledger) := by
  rcases dispatch_visits (h := h) signable.attached peer frame with
    idle | ⟨valid, index, middle, session, ensures, place, slot, run⟩
  · exact signable.dispatch_idle (idle h build rfl)
  have known : transportsClientConnected s peer = true ∨ s.indexOf peer ≠ none := by
    refine linked.imp id fun found absent => ?_
    rw [sessionOf_eq, absent] at found
    cases found
  have opened : Signable middle ledger := signable.ensures ensures known
  obtain ⟨attached, links, trace⟩ := ensures.unchanged
  have signing := handleFrame_signing h build valid (middle.opened index peer session)
  have taken := run h build rfl
  rw [withSession_eq middle place] at taken
  change step h build s (.dispatch peer frame) =
    (handleFrame h build (middle.opened index peer session) frame).2.left index at taken
  generalize (handleFrame h build (middle.opened index peer session) frame).2 = after at *
  have replied : newResponses h build s (.dispatch peer frame) = answers (middle.opened index peer session) after :=
    newResponses_left trace taken
  have sound : SoundSigning (refreshed (middle.opened index peer session)) :=
    (opened.sound session (List.mem_of_getElem? place) (by rw [slot]; exact Option.some_ne_none _)).refreshed
      opened.identified
  have narrows : Narrows s (step h build s (.dispatch peer frame)) := by
    rw [taken]
    intro other connected
    obtain ⟨before, generation⟩ := signing.narrows other connected
    have link := transportsClientConnected_congr attached ⟨s.links.accepts, links⟩ other
    exact ⟨link.1.symm.trans before, generation.trans link.2⟩
  have ledgers := recorded_narrows narrows ledger
  unfold handedOver at ledgers
  simp only [replied] at ledgers
  by_cases imports : Imported frame (answers (middle.opened index peer session) after)
  · simp only [if_pos imports, ite_self] at ledgers
    rw [funext ledgers, taken]
    exact opened.dispatch_imported signing imports sound
  · simp only [if_neg imports] at ledgers
    rw [funext ledgers, taken]
    exact opened.dispatch_kept place slot ensures.found (ensures.not_moved place) signing imports sound

end Frames

/-- A link comes up in a new generation, and a frame is taken while its client's connection stands or into the session
    that the client had. -/
def OnConnections (s : State σ) : Action σ → Prop
  | .relink links => Identified { s with links := links } ∧ ∀ session ∈ s.sessions, ∀ peer, session.slot = some peer →
      transportsClientGeneration { s with links := links } peer = session.generation →
      transportsClientGeneration s peer = session.generation
  | .dispatch peer _ => transportsClientConnected s peer = true ∨ (s.sessionOf peer).isSome = true
  | _ => True

theorem Signable.relink (signable : Signable s ledger) {links : Links} (admitted : OnConnections s (.relink links)) :
    Signable (step h build s (.relink links)) (recorded h build s (.relink links) ledger) := by
  obtain ⟨identified, anew⟩ := admitted
  refine ⟨signable.attached, identified, signable.opened, signable.sound, fun peer => ?_⟩
  change ({ s with links := links } : State σ).submission peer = recorded h build s (.relink links) ledger peer
  unfold recorded
  split
  · rename_i dropped
    rcases dropped with gone | apart
    · exact submission_gone gone
    · unfold State.submission
      split
      · rename_i live
        cases found : ({ s with links := links } : State σ).sessionOf peer with
        | none => rfl
        | some session =>
          have member : session ∈ s.sessions := List.mem_of_find?_eq_some found
          unfold State.sessionOf at found
          have first := List.find?_some found
          have owned : session.slot = some peer := of_decide_eq_true first
          have opened := signable.opened session member (by rw [owned]; exact nofun)
          refine held_moved ⟨identified peer live, opened, fun same => apart ?_⟩
          exact same.trans (anew session member peer owned same).symm
      · rfl
  · rename_i kept
    rw [not_or, Bool.not_eq_false, not_not] at kept
    obtain ⟨live, same⟩ := kept
    have before : transportsClientConnected s peer = true := by
      refine connected_of_generation (identified peer live) same.symm
    have unmoved : ({ s with links := links } : State σ).submission peer = s.submission peer :=
      submission_congr (live.trans before.symm) same rfl fun _ _ => rfl
    exact unmoved.trans (signable.submission peer)

theorem serviceTransportSessions_generation (s : State σ) (peer : Peer) :
    transportsClientGeneration (serviceTransportSessions h s) peer = transportsClientGeneration s peer := by
  refine serviceTransportSessions_keeps (h := h)
    (fun after => transportsClientGeneration after peer = transportsClientGeneration s peer) ?_ ?_ rfl
  · intro after owner same live
    obtain ⟨attached, links⟩ := ensureTransportSession_links (h := h) after owner
      (transportsClientGeneration after owner)
    exact (transportsClientConnected_congr attached ⟨after.links.accepts, links⟩ peer).2.trans same
  · intro after index owner session same place slot live
    obtain ⟨tends, -⟩ := service_tends (h := h) (after.opened index owner session)
    rw [withSession_set place owner tends.beside]
    exact (tends.beside.generation peer).trans same

theorem Signable.step (signable : Signable s ledger) (action : Action σ) (admitted : OnConnections s action) :
    Signable (Companion.step h build s action) (recorded h build s action ledger) := by
  cases action with
  | relink links => exact signable.relink admitted
  | device host => exact signable.follow (.of_same rfl rfl rfl rfl rfl) fun _ => rfl
  | storage store => exact signable.follow (.of_same rfl rfl rfl rfl rfl) fun _ => rfl
  | serialFrame frame => exact signable.follow (.of_same rfl rfl rfl rfl rfl) fun _ => rfl
  | arrive msg => exact signable.follow (storeAndEnqueue_signingKept s msg) fun _ => rfl
  | channelData channelIndex snrQuarters pathLen dataType payload =>
    exact signable.follow (enqueueChannelData_signingKept s channelIndex snrQuarters pathLen dataType payload)
      fun _ => rfl
  | binaryResponse tag blob => exact signable.follow (pushBinaryResponse_signingKept s tag blob) fun _ => rfl
  | identityChanged =>
    have narrows : Narrows s (Companion.step h build s .identityChanged) := fun _ connected => ⟨connected, rfl⟩
    have forgotten : recorded h build s .identityChanged ledger = fun _ => none := by
      funext peer
      rw [recorded_narrows narrows]
      exact ite_self _
    rw [forgotten]
    exact signable.disarmed rfl narrows (onIdentityChanged_disarmed s)
  | dispatch peer frame => exact signable.dispatch frame admitted
  | service =>
    have served : Companion.step h build s .service = serviceTransportSessions h s := by
      simp only [Companion.step, signable.attached, if_true]
    have after : Signable (serviceTransportSessions h s) ledger := signable.service
    have still : recorded h build s .service ledger = ledger := by
      funext peer
      unfold recorded
      rw [served, serviceTransportSessions_generation]
      split
      · rename_i dropped
        exact (after.gone (dropped.resolve_right fun apart => apart rfl)).symm
      · rfl
    rw [served, still]
    exact after
  | round =>
    have idle : Companion.step h build s .round = s := by
      simp only [Companion.step, signable.attached, if_true]
    exact signable.follow (by rw [idle]; exact .refl s) fun _ => rfl

end Ledger

end SigurdOS.Companion
