import SigurdOS.Companion.Requests

namespace SigurdOS.Companion

open Bytes MessageStore

section Visits

variable {σ : Type} {h : CompanionBridgeHost σ} {s : State σ}

def Stale (s : State σ) (peer : Peer) (session : TransportSession) : Prop :=
  (transportsClientGeneration s peer ≠ 0 ∧ session.generation ≠ 0 ∧
    transportsClientGeneration s peer ≠ session.generation) ∨
  (session.wasConnected = true ∧ session.connectionGeneration ≠ 0 ∧
    (transportsClientConnected s peer = false ∨ transportsClientGeneration s peer ≠ session.connectionGeneration))

instance (s : State σ) (peer : Peer) (session : TransportSession) : Decidable (Stale s peer session) :=
  inferInstanceAs (Decidable (_ ∨ _))

/-- The session that a slot gets: its own one, the same place anew when its link has moved on, or a free place. -/
inductive Ensures (h : CompanionBridgeHost σ) (s : State σ) (peer : Peer) : Option Nat × State σ → Prop
  | known (index : Nat) (session : TransportSession) (found : s.indexOf peer = some index)
      (place : s.sessions[index]? = some session) (slot : session.slot = some peer)
      (same : session.generation = 0 ∨ transportsClientGeneration s peer = 0 ∨
        transportsClientGeneration s peer = session.generation) : Ensures h s peer (some index, s)
  | renewed (index : Nat) (session : TransportSession) (found : s.indexOf peer = some index)
      (place : s.sessions[index]? = some session) (slot : session.slot = some peer)
      (moved : transportsClientGeneration s peer ≠ 0 ∧ session.generation ≠ 0 ∧
        transportsClientGeneration s peer ≠ session.generation) :
      Ensures h s peer (some index, { s with
        sessions := s.sessions.set index (freshSession peer (transportsClientGeneration s peer) true)
        host := h.cancelBinaryReqs s.host })
  | opened (index : Nat) (session : TransportSession) (absent : s.indexOf peer = none)
      (place : s.sessions[index]? = some session) (free : session.slot = none) :
      Ensures h s peer (some index, { s with
        sessions := s.sessions.set index (freshSession peer (transportsClientGeneration s peer) true) })
  | full (absent : s.indexOf peer = none) : Ensures h s peer (none, s)

theorem ensureTransportSession_ensures (s : State σ) (peer : Peer) :
    Ensures h s peer (ensureTransportSession h s peer (transportsClientGeneration s peer)) := by
  unfold ensureTransportSession
  split
  · rename_i index found
    obtain ⟨inside, owned, -⟩ := List.findIdx?_eq_some_iff_getElem.mp found
    have place : s.sessions[index]? = some s.sessions[index] := List.getElem?_eq_getElem inside
    have slot : s.sessions[index].slot = some peer := of_decide_eq_true owned
    dsimp only
    rw [List.getD_eq_getElem?_getD, place, Option.getD_some]
    split
    · rename_i moved
      exact .renewed index _ found place slot moved
    · rename_i kept
      refine .known index _ found place slot ?_
      by_contra apart
      rw [not_or, not_or] at apart
      exact kept ⟨apart.2.1, apart.1, apart.2.2⟩
  · rename_i absent
    split
    · rename_i index found
      obtain ⟨inside, unused, -⟩ := List.findIdx?_eq_some_iff_getElem.mp found
      exact .opened index _ absent (List.getElem?_eq_getElem inside) (Option.isNone_iff_eq_none.mp unused)
    · exact .full absent

def State.closed (s : State σ) (sessions : List TransportSession) (index : Nat) (session : TransportSession) :
    State σ :=
  { s with sessions := sessions.set index (saveTransportSession s.current session), request := none, active := none }

theorem withSession_set {index : Nat} {session : TransportSession} (place : s.sessions[index]? = some session)
    (peer : Peer) {work : State σ → State σ}
    (beside : Beside (s.opened index peer session) (work (s.opened index peer session))) :
    withSession s index peer work = (work (s.opened index peer session)).closed s.sessions index session := by
  obtain ⟨inside, here⟩ := List.getElem?_eq_some_iff.mp place
  have replaced (f : TransportSession → TransportSession) :
      (s.opened index peer session).sessions.modify index f = s.sessions.set index (f session) := by
    rw [← here]
    exact List.modify_eq_set_get f inside
  rw [withSession_eq s place, beside.sessions, replaced]
  rfl

theorem ensureTransportSession_links (s : State σ) (peer : Peer) (generation : UInt32) :
    (ensureTransportSession h s peer generation).2.attached = s.attached ∧
      (ensureTransportSession h s peer generation).2.links = s.links := by
  unfold ensureTransportSession
  split
  · dsimp only
    split
    · exact ⟨rfl, rfl⟩
    · exact ⟨rfl, rfl⟩
  · split
    · exact ⟨rfl, rfl⟩
    · exact ⟨rfl, rfl⟩

theorem Ensures.place {s middle : State σ} {peer : Peer} {index : Nat}
    (ensures : Ensures h s peer (some index, middle)) :
    ∃ session, middle.sessions[index]? = some session ∧ session.slot = some peer := by
  cases ensures with
  | known index session found place slot same => exact ⟨session, place, slot⟩
  | renewed index session found place slot moved =>
    exact ⟨_, List.getElem?_set_self (List.getElem?_eq_some_iff.mp place).1, rfl⟩
  | opened index session absent place free =>
    exact ⟨_, List.getElem?_set_self (List.getElem?_eq_some_iff.mp place).1, rfl⟩

theorem dispatch_visits (attached : s.attached = true) (peer : Peer) (frame : List UInt8) :
    (∀ other build, ensureTransportSession other = ensureTransportSession h →
      step other build s (.dispatch peer frame) = s) ∨
    validFrame frame = true ∧ ∃ index middle session, Ensures h s peer (some index, middle) ∧
      middle.sessions[index]? = some session ∧ session.slot = some peer ∧
      ∀ other build, ensureTransportSession other = ensureTransportSession h →
        step other build s (.dispatch peer frame) =
        withSession middle index peer fun s => (handleFrame other build s frame).2 := by
  simp only [step, attached, if_true]
  unfold dispatchFrame
  split
  · exact Or.inl fun _ _ _ => rfl
  rename_i accepted
  have valid : validFrame frame = true := by
    rw [Bool.or_eq_true, not_or, Bool.not_eq_true', Bool.not_eq_false] at accepted
    exact accepted.2
  unfold handleTransportFrame
  split
  · exact Or.inl fun _ _ _ => rfl
  have ensures := ensureTransportSession_ensures (h := h) s peer
  cases ensured : ensureTransportSession h s peer (transportsClientGeneration s peer) with
  | mk found middle =>
    rw [ensured] at ensures
    cases found with
    | none =>
      cases ensures
      refine Or.inl fun other build same => ?_
      rw [same, ensured]
    | some index =>
      obtain ⟨session, place, slot⟩ := ensures.place
      refine Or.inr ⟨valid, index, middle, session, ensures, place, slot, fun other build same => ?_⟩
      rw [same, ensured]

theorem dispatch_request (build : Build) (attached : s.attached = true) (peer : Peer) {frame : List UInt8}
    (request : isRequest frame) : step h build s (.dispatch peer frame) = s ∨ ∃ index middle session after,
      Ensures h s peer (some index, middle) ∧ middle.sessions[index]? = some session ∧ session.slot = some peer ∧
      Handles h (middle.opened index peer session) after ∧
      step h build s (.dispatch peer frame) = after.closed middle.sessions index session := by
  rcases dispatch_visits (h := h) attached peer frame
    with idle | ⟨valid, index, middle, session, ensures, place, slot, run⟩
  · exact Or.inl (idle h build rfl)
  · have handles := handleFrame_request (h := h) build (middle.opened index peer session) request valid
    refine Or.inr ⟨index, middle, session, _, ensures, place, slot, handles, ?_⟩
    rw [run h build rfl]
    exact withSession_set place peer handles.beside

theorem serviceTransportSessions_keeps (inv : State σ → Prop)
    (opens : ∀ {s : State σ} {peer : Peer}, inv s → transportsClientConnected s peer = true →
      inv (ensureTransportSession h s peer (transportsClientGeneration s peer)).2)
    (visits : ∀ {s : State σ} {index : Nat} {peer : Peer} {session : TransportSession}, inv s →
      s.sessions[index]? = some session → session.slot = some peer → transportsClientConnected s peer = true →
      inv (withSession s index peer fun s => serviceCurrentSession h (refreshConnectionSession h s)))
    (holds : inv s) : inv (serviceTransportSessions h s) := by
  have materialized (s : State σ) (peer : Peer) (holds : inv s) : inv (materializeSession h s peer) := by
    unfold materializeSession
    split
    · rename_i live
      rw [Bool.and_eq_true] at live
      exact opens holds live.2
    · exact holds
  have serviced (s : State σ) (index : Nat) (holds : inv s) : inv (serviceSession h s index) := by
    unfold serviceSession
    split
    · exact holds
    rename_i peer slot
    split
    · rename_i live
      rw [Bool.and_eq_true] at live
      obtain ⟨session, place, owner⟩ : ∃ session, s.sessions[index]? = some session ∧ session.slot = some peer := by
        rw [List.getD_eq_getElem?_getD] at slot
        cases here : s.sessions[index]? with
        | none =>
          rw [here] at slot
          cases slot
        | some session =>
          rw [here] at slot
          exact ⟨session, rfl, slot⟩
      obtain ⟨kept, present, still⟩ :=
        ensureTransportSession_slot (h := h) peer (transportsClientGeneration s peer) place owner
      obtain ⟨attached, links⟩ := ensureTransportSession_links (h := h) s peer (transportsClientGeneration s peer)
      refine visits (opens holds live.2) present still ?_
      exact (transportsClientConnected_congr attached ⟨s.links.accepts, links⟩ peer).1.trans live.2
    · exact holds
  unfold serviceTransportSessions
  dsimp only
  have opened := List.foldlRecOn allPeers (materializeSession h) holds fun s holds peer _ => materialized s peer holds
  exact List.foldlRecOn _ (serviceSession h) opened fun s holds index _ => serviced s index holds

end Visits

section Ledger

variable {σ : Type} (h : CompanionBridgeHost σ) (build : Build)

/-- A request of a connection that was answered with a tag and whose response has not been written. -/
structure Due where
  peer : Peer
  generation : UInt32
  tag : UInt32
  deriving DecidableEq

instance (frame : List UInt8) : Decidable (isRequest frame) := inferInstanceAs (Decidable (_ ∨ _))

def sentTag (response : List UInt8) : Option UInt32 :=
  if response.head? = some respCodeSent then some (read32 (response.drop 2)) else none

/-- The responses that a step hands over, and what it puts on the links. -/
def newResponses (s : State σ) (action : Action σ) : List (List UInt8) :=
  (step h build s action).trace.responses.drop s.trace.responses.length

def newEvents (s : State σ) (action : Action σ) : List Event :=
  (step h build s action).history.drop s.history.length

def account (s : State σ) (requests : List Due) : Action σ → List Due
  | .dispatch peer frame =>
    if isRequest frame then requests ++ (newResponses h build s (.dispatch peer frame)).filterMap fun response =>
      (sentTag response).map (Due.mk peer (transportsClientGeneration s peer))
    else requests
  | .binaryResponse tag blob => requests.filter fun request => !(request.tag == tag &&
      (newEvents h build s (.binaryResponse tag blob)).contains
        (.wrote (some request.peer) request.generation (binaryResponseFrame tag blob)))
  | _ => requests

def accountedStep (system : State σ × List Due) (action : Action σ) : State σ × List Due :=
  (step h build system.1 action, account h build system.1 system.2 action)

/-- Clients send requests, links drop and come back in new generations, the device lives on and
    answers. -/
def Admitted (s : State σ) : Action σ → Prop
  | .relink links => ∀ session ∈ s.sessions, ∀ peer, session.slot = some peer → session.generation ≠ 0 →
      transportsClientGeneration { s with links := links } peer = session.generation →
      transportsClientGeneration s peer = session.generation
  | .dispatch _ frame => isRequest frame
  | .device _ | .service | .binaryResponse _ _ | .identityChanged => True
  | _ => False

/-- Every request that a live session holds was answered over its connection and still waits. -/
structure Owned (s : State σ) (requests : List Due) : Prop where
  attached : s.attached = true
  request : s.request = none
  active : s.active = none
  owners : ∀ session ∈ s.sessions, ∀ peer, session.slot = some peer → session.generation ≠ 0 →
    transportsClientGeneration s peer = session.generation → ∀ pending ∈ session.pendingBinary, pending.tag ≠ 0 →
      ⟨peer, session.generation, pending.tag⟩ ∈ requests

variable {h build} {s : State σ} {requests : List Due}

theorem sentTag_sentFrame (result : CompanionSendResult) : sentTag (sentFrame result) = some result.expectedAck := by
  have head : (sentFrame result).head? = some respCodeSent := rfl
  unfold sentTag
  rw [if_pos head]
  exact congrArg some (read32_leBytes result.expectedAck _)

theorem boot_owned (host : σ) (store : Store) (links : Links) : Owned (State.boot true host store links) [] := by
  refine ⟨rfl, rfl, rfl, fun session member peer slot => ?_⟩
  obtain ⟨-, rfl⟩ := List.mem_replicate.mp member
  cases slot

theorem Owned.set {after : State σ} {index : Nat} {session : TransportSession} {added : List Due}
    (owned : Owned s requests)
    (attached : after.attached = s.attached) (request : after.request = none) (active : after.active = none)
    (links : ∃ accepts, after.links = { s.links with accepts := accepts })
    (sessions : after.sessions = s.sessions.set index session)
    (own : ∀ peer, session.slot = some peer → session.generation ≠ 0 →
      transportsClientGeneration s peer = session.generation → ∀ pending ∈ session.pendingBinary, pending.tag ≠ 0 →
      ⟨peer, session.generation, pending.tag⟩ ∈ requests ++ added) : Owned after (requests ++ added) := by
  refine ⟨attached.trans owned.attached, request, active,
    fun kept member peer slot opened live pending held tagged => ?_⟩
  rw [(transportsClientConnected_congr attached links peer).2] at live
  rw [sessions] at member
  rcases List.mem_or_eq_of_mem_set member with old | rfl
  · exact List.mem_append_left _ (owned.owners kept old peer slot opened live pending held tagged)
  · exact own peer slot opened live pending held tagged

theorem Owned.ensures (owned : Owned s requests) {peer : Peer} {outcome : Option Nat × State σ}
    (ensures : Ensures h s peer outcome) : Owned outcome.2 requests := by
  have fresh (pending : PendingBinaryRequest)
      (held : pending ∈ (freshSession peer (transportsClientGeneration s peer) true).pendingBinary) :
      pending.tag = 0 := by
    obtain ⟨-, rfl⟩ := List.mem_replicate.mp held
    rfl
  rw [← List.append_nil requests]
  cases ensures with
  | known index session found place slot same => rwa [List.append_nil]
  | full absent => rwa [List.append_nil]
  | renewed index session found place slot moved =>
    exact owned.set rfl owned.request owned.active ⟨s.links.accepts, rfl⟩ rfl
      fun _ _ _ _ pending held tagged => absurd (fresh pending held) tagged
  | opened index session absent place free =>
    exact owned.set rfl owned.request owned.active ⟨s.links.accepts, rfl⟩ rfl
      fun _ _ _ _ pending held tagged => absurd (fresh pending held) tagged

theorem Owned.service (owned : Owned s requests) : Owned (serviceTransportSessions h s) requests := by
  refine serviceTransportSessions_keeps (fun s => Owned s requests)
    (fun owned _ => owned.ensures (ensureTransportSession_ensures _ _))
    ?_ owned
  intro s index peer session owned place slot live
  obtain ⟨tends, -⟩ := service_tends (h := h) (s.opened index peer session)
  rw [withSession_set place peer tends.beside, ← List.append_nil requests]
  refine owned.set tends.beside.attached rfl rfl tends.beside.links rfl ?_
  intro other slot' opened current pending held tagged
  rw [List.append_nil]
  exact owned.owners session (List.mem_of_getElem? place) other slot' opened current pending
    (tends.table pending held tagged) tagged

theorem Handles.held {s after : State σ} (handles : Handles h s after) {pending : PendingBinaryRequest}
    (held : pending ∈ after.current.pendingBinary) (tagged : pending.tag ≠ 0) :
    pending ∈ s.current.pendingBinary ∨ ∃ result, pending.tag = result.expectedAck ∧
      after.trace.responses = s.trace.responses ++ [sentFrame result] := by
  cases handles with
  | skipped tends generation responses => exact Or.inl (tends.table pending held tagged)
  | answered middle tends connection host reply answer beside device table generation responses =>
    rw [table] at held
    cases answer with
    | refused err => exact Or.inl (tends.table pending held tagged)
    | failed send sends key data err => exact Or.inl (tends.table pending held tagged)
    | accepted send sends key data slot free place unused ok ack =>
      rcases List.mem_or_eq_of_mem_set held with old | rfl
      · exact Or.inl (tends.table pending old tagged)
      · exact Or.inr ⟨_, rfl, responses⟩

theorem Ensures.unchanged {peer : Peer} {outcome : Option Nat × State σ} (ensures : Ensures h s peer outcome) :
    outcome.2.attached = s.attached ∧ outcome.2.links = s.links ∧ outcome.2.trace = s.trace := by
  cases ensures <;> exact ⟨rfl, rfl, rfl⟩

theorem newResponses_eq {peer : Peer} {frame reply : List UInt8} {index : Nat} {middle after : State σ}
    {session : TransportSession} (ensures : Ensures h s peer (some index, middle))
    (same : step h build s (.dispatch peer frame) = after.closed middle.sessions index session)
    (responses : after.trace.responses = (middle.opened index peer session).trace.responses ++ [reply]) :
    newResponses h build s (.dispatch peer frame) = [reply] := by
  have trace : middle.trace = s.trace := ensures.unchanged.2.2
  unfold newResponses
  rw [same]
  change after.trace.responses.drop s.trace.responses.length = [reply]
  rw [responses, ← trace]
  exact List.drop_left

theorem Owned.dispatch (owned : Owned s requests) (peer : Peer) {frame : List UInt8} (request : isRequest frame) :
    Owned (step h build s (.dispatch peer frame)) (account h build s requests (.dispatch peer frame)) := by
  obtain ⟨added, new⟩ : ∃ added, added = (newResponses h build s (.dispatch peer frame)).filterMap fun response =>
    (sentTag response).map (Due.mk peer (transportsClientGeneration s peer)) := ⟨_, rfl⟩
  have grown : account h build s requests (.dispatch peer frame) = requests ++ added := by
    rw [new]
    exact if_pos request
  rw [grown]
  rcases dispatch_request (h := h) build owned.attached peer request with same | ⟨index, middle, session, after,
    ensures, place, slot, handles, same⟩
  · rw [same]
    exact ⟨owned.attached, owned.request, owned.active, fun session member peer slot opened live pending held tagged =>
      List.mem_append_left _ (owned.owners session member peer slot opened live pending held tagged)⟩
  obtain ⟨attached, links, trace⟩ := ensures.unchanged
  have beside := handles.beside
  have generations := transportsClientConnected_congr attached ⟨s.links.accepts, links⟩
  rw [same]
  refine (owned.ensures ensures).set beside.attached rfl rfl beside.links rfl ?_
  intro other slot' opened live pending held tagged
  obtain rfl : peer = other := Option.some.inj (slot.symm.trans slot')
  rcases handles.held held tagged with old | ⟨result, ack, responses⟩
  · exact List.mem_append_left _ ((owned.ensures ensures).owners session (List.mem_of_getElem? place) peer slot opened
      live pending old tagged)
  -- The ledger has the link's generation; a live session carries the same one.
  have linked : transportsClientGeneration s peer = session.generation := (generations peer).2.symm.trans live
  refine List.mem_append_right _ ?_
  rw [new, List.mem_filterMap]
  refine ⟨sentFrame result, ?_, ?_⟩
  · rw [newResponses_eq ensures same responses]
    exact List.mem_singleton_self _
  · rw [sentTag_sentFrame, Option.map_some, linked, ack]
    rfl

theorem Owned.identity (owned : Owned s requests) : Owned (onIdentityChanged s) requests := by
  refine ⟨owned.attached, owned.request, owned.active, fun session member peer slot opened live pending held
    tagged => ?_⟩
  obtain ⟨old, -, fresh⟩ := List.mem_map.mp member
  split at fresh
  · rename_i unused
    rw [← fresh, unused] at slot
    cases slot
  · subst fresh
    obtain ⟨-, rfl⟩ := List.mem_replicate.mp held
    exact absurd rfl tagged

theorem expirePendingBinary_history (s : State σ) : (expirePendingBinary h s).history = s.history := by
  obtain ⟨host, trace, same⟩ := expirePendingBinary_worked h s
  rw [same]
  rfl

theorem Owned.expire (owned : Owned s requests) : Owned (expirePendingBinary h s) requests := by
  obtain ⟨beside, -⟩ := expirePendingBinary_beside (h := h) s
  refine ⟨beside.attached.trans owned.attached, beside.request.trans owned.request,
    beside.active.trans owned.active, ?_⟩
  intro session member peer slot opened live
  rw [beside.generation] at live
  rw [beside.sessions] at member
  exact owned.owners session member peer slot opened live

theorem connected_of_generation {generation : UInt32} {peer : Peer} (used : generation ≠ 0)
    (linked : transportsClientGeneration s peer = generation) : transportsClientConnected s peer = true := by
  by_contra cut
  unfold transportsClientGeneration at linked
  rw [if_neg cut] at linked
  exact used linked.symm

theorem mem_requestOwners {tag : UInt32} {index slot : Nat} {peer : Peer} {generation : UInt32}
    (inactive : s.active = none) :
    (index, peer, generation, slot) ∈ requestOwners s tag ↔ ∃ session pending, s.sessions[index]? = some session ∧
      session.slot = some peer ∧ session.generation = generation ∧ generation ≠ 0 ∧
      transportsClientGeneration s peer = generation ∧ session.pendingBinary[slot]? = some pending ∧
          pending.tag = tag := by
  unfold requestOwners
  rw [List.mem_flatMap]
  constructor
  · rintro ⟨⟨session, i⟩, listed, held⟩
    rw [List.mem_zipIdx_iff_getElem?] at listed
    dsimp only at listed held
    split at held
    · cases held
    rename_i owner slotted
    split at held
    · cases held
    rename_i linked
    simp only [Bool.or_eq_true, Bool.not_eq_true', beq_iff_eq, bne_iff_ne, not_or, Bool.not_eq_false, ne_eq,
      not_not] at linked
    rw [if_neg (by rw [inactive]; exact nofun)] at held
    obtain ⟨⟨pending, k⟩, there, found⟩ := List.mem_filterMap.mp held
    rw [List.mem_zipIdx_iff_getElem?] at there
    dsimp only at there found
    split at found
    · rename_i tagged
      obtain ⟨rfl, rfl, rfl, rfl⟩ : i = index ∧ owner = peer ∧ transportsClientGeneration s owner = generation ∧
          k = slot := by simpa using found
      exact ⟨session, pending, listed, slotted, linked.2.symm, linked.1.2, rfl, there, tagged⟩
    · cases found
  · rintro ⟨session, pending, place, slotted, own, used, linked, there, tagged⟩
    refine ⟨(session, index), List.mem_zipIdx_iff_getElem?.mpr place, ?_⟩
    dsimp only
    rw [slotted]
    dsimp only
    rw [if_neg, if_neg (by rw [inactive]; exact nofun)]
    · refine List.mem_filterMap.mpr ⟨(pending, slot), List.mem_zipIdx_iff_getElem?.mpr there, ?_⟩
      dsimp only
      rw [if_pos tagged, linked]
    · rw [connected_of_generation used linked, linked, own]
      simpa using used

def State.released (s : State σ) (index slot : Nat) (accepts : List Bool) (event : Event) (trace : Trace) : State σ :=
  { s with
    sessions := s.sessions.modify index fun session =>
      { session with pendingBinary := releaseRequest session.pendingBinary slot }
    links := { s.links with accepts := accepts }
    history := s.history ++ [event]
    trace := trace }

/-- A response is dropped, or it is written to the one live session that holds its tag. -/
inductive Responds (s : State σ) (tag : UInt32) (blob : List UInt8) : State σ → Prop
  | dropped (accepts : List Bool) (trace : Trace)
      (reason : tag = 0 ∨ 6 + blob.length > maxFrameSize ∨ s.links.accepts.headD true = false ∨
        ∀ owner, requestOwners s tag ≠ [owner]) :
      Responds s tag blob { s with links := { s.links with accepts := accepts }, trace := trace }
  | written (index slot : Nat) (peer : Peer) (generation : UInt32) (trace : Trace) (used : tag ≠ 0)
      (owner : requestOwners s tag = [(index, peer, generation, slot)]) (taken : s.links.accepts.headD true = true) :
      Responds s tag blob (s.released index slot s.links.accepts.tail
        (.wrote (some peer) generation (binaryResponseFrame tag blob)) trace)

theorem pushBinaryResponse_responds (attached : s.attached = true) (inactive : s.active = none) (tag : UInt32)
    (blob : List UInt8) : Responds (expirePendingBinary h s) tag blob (pushBinaryResponse h s tag blob).2 := by
  obtain ⟨beside, -⟩ := expirePendingBinary_beside (h := h) s
  have attached := beside.attached.trans attached
  have inactive := beside.active.trans inactive
  unfold pushBinaryResponse
  dsimp only
  generalize expirePendingBinary h s = m at attached inactive
  split
  · rename_i refused
    exact .dropped m.links.accepts m.trace (refused.imp id Or.inl)
  rename_i fits
  rw [not_or, Nat.not_lt] at fits
  split
  · rename_i index peer generation slot owner
    have member : (index, peer, generation, slot) ∈ requestOwners m tag := by
      rw [owner]
      exact List.mem_singleton_self _
    obtain ⟨session, pending, -, -, -, used, linked, -, -⟩ := (mem_requestOwners inactive).mp member
    obtain ⟨logged, log⟩ : ∃ logged, logged = m.logWrite 0 (binaryResponseFrame tag blob).length := ⟨_, rfl⟩
    have sent : transportsSendToResult logged peer (binaryResponseFrame tag blob) =
        attemptWrite logged (some peer) generation (binaryResponseFrame tag blob) := by
      have valid : validFrame (binaryResponseFrame tag blob) = true := by
        have length : (binaryResponseFrame tag blob).length = 6 + blob.length := by
          simp [binaryResponseFrame, word]
          omega
        unfold validFrame
        rw [length, Bool.and_eq_true, decide_eq_true_iff, decide_eq_true_iff]
        exact ⟨by omega, fits.2⟩
      have live : transportsClientConnected logged peer = true := by
        rw [log]
        exact connected_of_generation used linked
      unfold transportsSendToResult
      rw [valid, live, log, ← linked]
      rfl
    rw [← log, sent]
    unfold attemptWrite
    dsimp only
    cases taken : m.links.accepts.headD true with
    | false =>
      rw [if_neg (by rw [log]; exact fun refused => Bool.false_ne_true (taken.symm.trans refused)), log]
      exact .dropped m.links.accepts.tail _ (Or.inr (Or.inr (Or.inl taken)))
    | true =>
      rw [if_pos (by rw [log]; exact taken), log]
      dsimp only
      rw [if_neg (by change m.active ≠ _; rw [inactive]; exact nofun)]
      exact .written index slot peer generation _ fits.1 owner taken
  · rename_i other
    exact .dropped m.links.accepts m.trace (Or.inr (Or.inr (Or.inr fun owner single => other _ _ _ _ single)))

theorem State.released_held {index slot : Nat} {accepts : List Bool} {event : Event} {trace : Trace} {i k : Nat}
    {kept : TransportSession} {pending : PendingBinaryRequest}
    (place : (s.released index slot accepts event trace).sessions[i]? = some kept)
    (held : kept.pendingBinary[k]? = some pending) (tagged : pending.tag ≠ 0) :
    ∃ session, s.sessions[i]? = some session ∧ session.slot = kept.slot ∧ session.generation = kept.generation ∧
      session.pendingBinary[k]? = some pending ∧ (i ≠ index ∨ k ≠ slot) := by
  dsimp only [State.released] at place
  rw [List.getElem?_modify] at place
  cases stored : s.sessions[i]? with
  | none =>
    rw [stored] at place
    cases place
  | some session =>
    rw [stored] at place
    by_cases here : index = i
    · subst here
      have written : { session with pendingBinary := releaseRequest session.pendingBinary slot } = kept := by
        simpa using place
      subst written
      dsimp only [releaseRequest] at held
      have elsewhere : slot ≠ k := by
        rintro rfl
        have free : pending = .free := by
          rw [List.getElem?_set, if_pos rfl] at held
          split at held
          · exact (Option.some.inj held).symm
          · cases held
        rw [free] at tagged
        exact tagged rfl
      rw [List.getElem?_set_ne elsewhere] at held
      exact ⟨session, rfl, rfl, rfl, held, Or.inr elsewhere.symm⟩
    · have untouched : session = kept := by simpa [here] using place
      subst untouched
      exact ⟨session, rfl, rfl, rfl, held, Or.inl (Ne.symm here)⟩

theorem Owned.respond (owned : Owned s requests) (tag : UInt32) (blob : List UInt8) :
    Owned (step h build s (.binaryResponse tag blob)) (account h build s requests (.binaryResponse tag blob)) := by
  have responds := pushBinaryResponse_responds (h := h) owned.attached owned.active tag blob
  have history := expirePendingBinary_history (h := h) s
  have owned : Owned (expirePendingBinary h s) requests := owned.expire
  unfold account newEvents
  dsimp only [step]
  rw [← history]
  generalize expirePendingBinary h s = m at responds owned
  generalize pushBinaryResponse h s tag blob = outcome at responds
  obtain ⟨done, after⟩ := outcome
  dsimp only at responds ⊢
  cases responds with
  | dropped accepts trace reason =>
    have none : m.history.drop m.history.length = [] := List.drop_length
    simp only [none, List.contains_nil, Bool.and_false, Bool.not_false, List.filter_true]
    exact ⟨owned.attached, owned.request, owned.active, owned.owners⟩
  | written index slot peer generation trace used owner taken =>
    refine ⟨owned.attached, owned.request, owned.active, fun kept member other slotted opened live pending held
      tagged => ?_⟩
    obtain ⟨i, place⟩ := List.mem_iff_getElem?.mp member
    obtain ⟨k, position⟩ := List.mem_iff_getElem?.mp held
    obtain ⟨session, stored, slots, generations, there, elsewhere⟩ := State.released_held place position tagged
    rw [← generations] at opened live
    rw [← slots] at slotted
    have linked : transportsClientGeneration m other = session.generation := live
    have due := owned.owners session (List.mem_of_getElem? stored) other slotted opened linked pending
      (List.mem_of_getElem? there) tagged
    rw [← generations]
    refine List.mem_filter.mpr ⟨due, ?_⟩
    rw [Bool.not_eq_true']
    by_contra answered
    rw [Bool.not_eq_false, Bool.and_eq_true, beq_iff_eq] at answered
    have second : (i, other, session.generation, k) ∈ requestOwners m tag :=
      (mem_requestOwners owned.active).mpr ⟨session, pending, stored, slotted, rfl, opened, linked, there, answered.1⟩
    rw [owner, List.mem_singleton] at second
    simp only [Prod.mk.injEq] at second
    rcases elsewhere with apart | apart
    · exact apart second.1
    · exact apart second.2.2.2

theorem accountedStep_owned (system : State σ × List Due) (action : Action σ) (owned : Owned system.1 system.2)
    (admitted : Admitted system.1 action) :
    Owned (accountedStep h build system action).1 (accountedStep h build system action).2 := by
  cases action with
  | relink links =>
    exact ⟨owned.attached, owned.request, owned.active, fun session member peer slot opened live =>
      owned.owners session member peer slot opened (admitted session member peer slot opened live)⟩
  | device host => exact ⟨owned.attached, owned.request, owned.active, owned.owners⟩
  | storage store => cases admitted
  | serialFrame frame => cases admitted
  | arrive msg => cases admitted
  | channelData channelIndex snrQuarters pathLen dataType payload => cases admitted
  | binaryResponse tag blob => exact owned.respond tag blob
  | identityChanged => exact owned.identity
  | dispatch peer frame => exact owned.dispatch peer admitted
  | service =>
    change Owned (if system.1.attached then serviceTransportSessions h system.1 else system.1) system.2
    rw [if_pos owned.attached]
    exact owned.service
  | round => cases admitted

theorem Owned.response (owned : Owned s requests) (tag : UInt32) (blob : List UInt8) :
    (step h build s (.binaryResponse tag blob)).history = s.history ∨
    ∃ peer, ⟨peer, transportsClientGeneration s peer, tag⟩ ∈ requests ∧
      (step h build s (.binaryResponse tag blob)).history = s.history ++
        [.wrote (some peer) (transportsClientGeneration s peer) (binaryResponseFrame tag blob)] := by
  have responds := pushBinaryResponse_responds (h := h) owned.attached owned.active tag blob
  have history := expirePendingBinary_history (h := h) s
  have beside := (expirePendingBinary_beside (h := h) s).1
  have owned : Owned (expirePendingBinary h s) requests := owned.expire
  dsimp only [step]
  rw [← history]
  generalize expirePendingBinary h s = m at responds owned beside
  generalize pushBinaryResponse h s tag blob = outcome at responds
  obtain ⟨done, after⟩ := outcome
  dsimp only at responds ⊢
  cases responds with
  | dropped accepts trace reason => exact Or.inl rfl
  | written index slot peer generation trace used owner taken =>
    have member : (index, peer, generation, slot) ∈ requestOwners m tag := by
      rw [owner]
      exact List.mem_singleton_self _
    obtain ⟨session, pending, place, slotted, rfl, opened, linked, there, tagged⟩ :=
      (mem_requestOwners owned.active).mp member
    have due := owned.owners session (List.mem_of_getElem? place) peer slotted opened linked pending
      (List.mem_of_getElem? there) (by rwa [tagged])
    rw [beside.generation] at linked
    refine Or.inr ⟨peer, ?_, ?_⟩
    · rw [linked, ← tagged]
      exact due
    · rw [linked]
      rfl

end Ledger

end SigurdOS.Companion
