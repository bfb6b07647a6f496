import SigurdOS.Companion.Ownership

namespace SigurdOS.Companion

open Bytes MessageStore

theorem flatMap_zipIdx_single {α β : Type} {f : α × Nat → List β} {list : List α} {index start : Nat} {value : α}
    (place : list[index]? = some value)
    (others : ∀ i other, i ≠ index → list[i]? = some other → f (other, start + i) = []) :
    (list.zipIdx start).flatMap f = f (value, start + index) := by
  induction list generalizing index start with
  | nil => cases place
  | cons first rest ih =>
    rw [List.zipIdx_cons, List.flatMap_cons]
    cases index with
    | zero =>
      obtain rfl : first = value := Option.some.inj place
      have empty : (rest.zipIdx (start + 1)).flatMap f = [] := by
        rw [List.flatMap_eq_nil_iff]
        rintro ⟨other, position⟩ member
        obtain ⟨reached, here⟩ := List.mem_zipIdx_iff_le_and_getElem?_sub.mp member
        dsimp only at reached here
        have later := others (position - start) other (by omega)
          (by rw [show position - start = position - (start + 1) + 1 by omega]; exact here)
        rwa [show start + (position - start) = position by omega] at later
      rw [empty, List.append_nil]
      rfl
    | succ index =>
      have head := others 0 first (by omega) rfl
      rw [show start + 0 = start from rfl] at head
      rw [head, List.nil_append, ih place fun i other apart here => ?_]
      · rw [show start + 1 + index = start + (index + 1) by omega]
      · have later := others (i + 1) other (by omega) here
        rwa [show start + (i + 1) = start + 1 + i by omega] at later

section Holds

variable {σ : Type} (h : CompanionBridgeHost σ)

/-- A request that was accepted: for whom, under which tag and until when. -/
structure Accepted where
  peer : Peer
  generation : UInt32
  tag : UInt32
  deadline : UInt32

def Slotted (tag deadline : UInt32) (slot : Nat) (table : List PendingBinaryRequest) : Prop :=
  ∀ (k : Nat) (request : PendingBinaryRequest), request.tag = tag →
    (table[k]? = some request ↔ k = slot ∧ request = ⟨tag, deadline⟩)

theorem Slotted.keeps {tag deadline : UInt32} {slot : Nat} {table after : List PendingBinaryRequest}
    (slotted : Slotted tag deadline slot table) (keeps : KeepsTag tag table after) : Slotted tag deadline slot after :=
  fun k request tagged => (keeps k request tagged).trans (slotted k request tagged)

structure OwnSession (accepted : Accepted) (slot : Nat) (session : TransportSession) : Prop where
  peer : session.slot = some accepted.peer
  generation : session.generation = accepted.generation
  connection : session.connectionGeneration = accepted.generation
  slotted : Slotted accepted.tag accepted.deadline slot session.pendingBinary

/-- The request is held by its session and by no other one, and the device waits for its answer. -/
structure Holds (waiting : UInt32 → UInt32 → σ → Prop) (accepted : Accepted) (index slot : Nat) (s : State σ) :
    Prop where
  used : accepted.tag ≠ 0
  attached : s.attached = true
  request : s.request = none
  active : s.active = none
  found : s.indexOf accepted.peer = some index
  own : ∃ session, s.sessions[index]? = some session ∧ OwnSession accepted slot session
  others : ∀ i session, i ≠ index → s.sessions[i]? = some session →
    ∀ request ∈ session.pendingBinary, request.tag ≠ accepted.tag
  copy : ∀ request ∈ s.current.pendingBinary, request.tag = accepted.tag → request = ⟨accepted.tag, accepted.deadline⟩
  linked : transportsClientGeneration s accepted.peer = accepted.generation
  waits : waiting accepted.tag accepted.deadline s.host

def Ahead (accepted : Accepted) (s : State σ) : Prop :=
  requestExpired (h.monotonicMillis s.host) ⟨accepted.tag, accepted.deadline⟩ = false

instance (accepted : Accepted) (s : State σ) : Decidable (Ahead h accepted s) := inferInstanceAs (Decidable (_ = false))

variable {h} {waiting : UInt32 → UInt32 → σ → Prop} {accepted : Accepted} {index slot : Nat} {s after : State σ}

theorem slots_set {sessions : List TransportSession} {i : Nat} {session next : TransportSession}
    (place : sessions[i]? = some session) (slot : next.slot = session.slot) :
    (sessions.set i next).map (·.slot) = sessions.map (·.slot) := by
  refine List.ext_getElem? fun k => ?_
  rw [List.getElem?_map, List.getElem?_map]
  by_cases same : i = k
  · subst same
    rw [List.getElem?_set_self (List.getElem?_eq_some_iff.mp place).1, place, Option.map_some, Option.map_some, slot]
  · rw [List.getElem?_set_ne same]

theorem Holds.set (holds : Holds waiting accepted index slot s) {i : Nat} {session next : TransportSession}
    (place : s.sessions[i]? = some session) (sessions : after.sessions = s.sessions.set i next)
    (peer : next.slot = session.slot) (generation : next.generation = session.generation)
    (connection : i = index → next.connectionGeneration = accepted.generation)
    (table : KeepsTag accepted.tag session.pendingBinary next.pendingBinary)
    (attached : after.attached = s.attached) (request : after.request = none) (active : after.active = none)
    (links : ∃ accepts, after.links = { s.links with accepts := accepts })
    (current : after.current.pendingBinary = s.current.pendingBinary ∨
      after.current.pendingBinary = next.pendingBinary)
    (waits : waiting accepted.tag accepted.deadline after.host) : Holds waiting accepted index slot after := by
  have replaced (k : Nat) : after.sessions[k]? = if i = k then some next else s.sessions[k]? := by
    rw [sessions, List.getElem?_set]
    simp [(List.getElem?_eq_some_iff.mp place).1]
  obtain ⟨mine, position, own⟩ := holds.own
  have former {k : Nat} {request : PendingBinaryRequest} (held : next.pendingBinary[k]? = some request)
      (tagged : request.tag = accepted.tag) : i = index ∧ request = ⟨accepted.tag, accepted.deadline⟩ := by
    have before := (table k request tagged).mp held
    by_cases here : i = index
    · subst here
      obtain rfl : session = mine := Option.some.inj (place.symm.trans position)
      exact ⟨rfl, ((own.slotted k request tagged).mp before).2⟩
    · exact absurd tagged (holds.others i session here place request (List.mem_of_getElem? before))
  refine ⟨holds.used, attached.trans holds.attached, request, active, ?_, ?_, ?_, ?_, ?_, waits⟩
  · rw [indexOf_congr ((congrArg (List.map (·.slot)) sessions).trans (slots_set place peer))]
    exact holds.found
  · by_cases here : i = index
    · subst here
      obtain rfl : session = mine := Option.some.inj (place.symm.trans position)
      exact ⟨next, (replaced i).trans (if_pos rfl), peer.trans own.peer, generation.trans own.generation,
        connection rfl, own.slotted.keeps table⟩
    · exact ⟨mine, ((replaced index).trans (if_neg here)).trans position, own⟩
  · intro k other apart there request member tagged
    rw [replaced] at there
    split at there
    · rename_i same
      obtain rfl := Option.some.inj there
      obtain ⟨k, held⟩ := List.mem_iff_getElem?.mp member
      exact apart (same.symm.trans (former held tagged).1)
    · exact holds.others k other apart there request member tagged
  · intro request member tagged
    rcases current with same | same
    · rw [same] at member
      exact holds.copy request member tagged
    · rw [same] at member
      obtain ⟨k, held⟩ := List.mem_iff_getElem?.mp member
      exact (former held tagged).2
  · exact (transportsClientConnected_congr attached links accepted.peer).2.trans holds.linked

theorem Holds.visit (holds : Holds waiting accepted index slot s) {i : Nat} {session : TransportSession} {peer : Peer}
    (place : s.sessions[i]? = some session) (beside : Beside (s.opened i peer session) after)
    (spares : Spares h waiting accepted.tag accepted.deadline (s.opened i peer session) after)
    (generation : i = index → after.current.connectionGeneration = accepted.generation) :
    Holds waiting accepted index slot (after.closed s.sessions i session) :=
  holds.set place rfl rfl rfl generation spares.table beside.attached rfl rfl beside.links (Or.inr rfl)
    (spares.waits holds.waits)

theorem indexOf_eq_some {peer : Peer} : s.indexOf peer = some index ↔
    (∃ session, s.sessions[index]? = some session ∧ session.slot = some peer) ∧
      ∀ i session, i < index → s.sessions[i]? = some session → session.slot ≠ some peer := by
  unfold State.indexOf
  rw [List.findIdx?_eq_some_iff_getElem]
  constructor
  · rintro ⟨inside, here, earlier⟩
    refine ⟨⟨_, List.getElem?_eq_getElem inside, of_decide_eq_true here⟩, fun i session before place same => ?_⟩
    obtain ⟨bound, rfl⟩ := List.getElem?_eq_some_iff.mp place
    exact earlier i before (decide_eq_true same)
  · rintro ⟨⟨session, place, slot⟩, earlier⟩
    obtain ⟨inside, rfl⟩ := List.getElem?_eq_some_iff.mp place
    refine ⟨inside, decide_eq_true slot, fun i before same => ?_⟩
    exact earlier i _ before (List.getElem?_eq_getElem (before.trans inside)) (of_decide_eq_true same)

theorem indexOf_eq_none {peer : Peer} : s.indexOf peer = none ↔ ∀ session ∈ s.sessions, session.slot ≠ some peer := by
  unfold State.indexOf
  rw [List.findIdx?_eq_none_iff]
  exact ⟨fun absent session member => of_decide_eq_false (absent session member),
    fun absent session member => decide_eq_false (absent session member)⟩

theorem Ensures.found {middle : State σ} {peer : Peer} (ensures : Ensures h s peer (some index, middle)) :
    middle.indexOf peer = some index := by
  have opened {session : TransportSession} (place : s.sessions[index]? = some session)
      (earlier : ∀ i session, i < index → s.sessions[i]? = some session → session.slot ≠ some peer) :
      (s.withSessions (s.sessions.set index (freshSession peer (transportsClientGeneration s peer) true))).indexOf
        peer =
        some index := by
    have inside := (List.getElem?_eq_some_iff.mp place).1
    exact indexOf_set inside (fun i bound => earlier i _ bound (List.getElem?_eq_getElem (bound.trans inside))) rfl
  cases ensures with
  | known index session found place slot same => exact found
  | renewed index session found place slot moved => exact opened place (indexOf_eq_some.mp found).2
  | opened index session absent place free =>
    exact opened place fun i other _ here => indexOf_eq_none.mp absent other (List.mem_of_getElem? here)

theorem Holds.ensures (holds : Holds waiting accepted index slot s) {peer : Peer} {outcome : Option Nat × State σ}
    (ensures : Ensures h s peer outcome)
    (steady : ∀ session ∈ s.sessions, session.slot = some peer → ¬ Stale s peer session) :
    Holds waiting accepted index slot outcome.2 ∧ outcome.2.host = s.host := by
  cases ensures with
  | known i session found place slot same => exact ⟨holds, rfl⟩
  | full absent => exact ⟨holds, rfl⟩
  | renewed i session found place slot moved =>
    exact absurd (Or.inl moved) (steady session (List.mem_of_getElem? place) slot)
  | opened i session absent place free =>
    obtain ⟨mine, position, own⟩ := holds.own
    have elsewhere : i ≠ index := by
      rintro rfl
      obtain rfl : session = mine := Option.some.inj (place.symm.trans position)
      exact absurd (free.symm.trans own.peer) nofun
    have stranger : peer ≠ accepted.peer := by
      rintro rfl
      exact indexOf_eq_none.mp absent mine (List.mem_of_getElem? position) own.peer
    have still : (s.sessions.set i (freshSession peer (transportsClientGeneration s peer) true))[index]? = some mine :=
      (List.getElem?_set_ne elsewhere).trans position
    refine ⟨⟨holds.used, holds.attached, holds.request, holds.active, ?_, ⟨mine, still, own⟩, ?_, holds.copy,
      holds.linked,
      holds.waits⟩, rfl⟩
    · refine indexOf_eq_some.mpr ⟨⟨mine, still, own.peer⟩, fun k other before there => ?_⟩
      dsimp only at there
      rw [List.getElem?_set] at there
      split at there
      · split at there
        · obtain rfl := Option.some.inj there
          exact fun same => stranger (Option.some.inj same)
        · cases there
      · exact (indexOf_eq_some.mp holds.found).2 k other before there
    · intro k other apart there request member
      dsimp only at there
      rw [List.getElem?_set] at there
      split at there
      · split at there
        · obtain rfl := Option.some.inj there
          obtain ⟨-, rfl⟩ := List.mem_replicate.mp member
          exact holds.used.symm
        · cases there
      · exact holds.others k other apart there request member

def Steady (s : State σ) : Prop :=
  ∀ session ∈ s.sessions, ∀ peer, session.slot = some peer → transportsClientConnected s peer = true →
    ¬ Stale s peer session

instance (s : State σ) : Decidable (Steady s) := inferInstanceAs (Decidable (∀ session ∈ s.sessions,
  ∀ peer ∈ session.slot, transportsClientConnected s peer = true → ¬ Stale s peer session))

theorem Holds.unexpired (holds : Holds waiting accepted index slot s) (ahead : Ahead h accepted s) {i : Nat}
    {session : TransportSession} (place : s.sessions[i]? = some session) (request : PendingBinaryRequest)
    (member : request ∈ session.pendingBinary) (tagged : request.tag = accepted.tag) :
    requestExpired (h.monotonicMillis s.host) request = false := by
  obtain ⟨mine, position, own⟩ := holds.own
  by_cases here : i = index
  · subst here
    obtain rfl : session = mine := Option.some.inj (place.symm.trans position)
    obtain ⟨k, held⟩ := List.mem_iff_getElem?.mp member
    rw [((own.slotted k request tagged).mp held).2]
    exact ahead
  · exact absurd tagged (holds.others i session here place request member)

theorem not_dropped {i : Nat} {session : TransportSession} {peer : Peer} (steady : ¬ Stale s peer session) :
    ¬ Dropped (s.opened i peer session) := fun dropped => steady (Or.inr dropped)

theorem Holds.own_peer (holds : Holds waiting accepted index slot s) {session : TransportSession} {peer : Peer}
    (place : s.sessions[index]? = some session) (owner : session.slot = some peer) : peer = accepted.peer := by
  obtain ⟨mine, position, own⟩ := holds.own
  obtain rfl : session = mine := Option.some.inj (place.symm.trans position)
  exact Option.some.inj (owner.symm.trans own.peer)

theorem Stale.congr {peer : Peer} {session : TransportSession} (attached : after.attached = s.attached)
    (links : ∃ accepts, after.links = { s.links with accepts := accepts }) :
    Stale after peer session ↔ Stale s peer session := by
  obtain ⟨connected, generation⟩ := transportsClientConnected_congr attached links peer
  unfold Stale
  rw [connected, generation]

theorem synced_not_stale {peer : Peer} {session : TransportSession} (live : transportsClientConnected s peer = true)
    (opened : session.generation = 0 ∨ transportsClientGeneration s peer = 0 ∨
      transportsClientGeneration s peer = session.generation)
    (synced : session.connectionGeneration = transportsClientGeneration s peer) : ¬ Stale s peer session := by
  rintro (⟨linked, used, apart⟩ | ⟨-, -, cut | apart⟩)
  · rcases opened with closed | unlinked | same
    · exact used closed
    · exact linked unlinked
    · exact apart same
  · rw [live] at cut
    cases cut
  · exact apart synced.symm

theorem fresh_not_stale (s : State σ) (peer : Peer) :
    ¬ Stale s peer (freshSession peer (transportsClientGeneration s peer) true) := by
  rintro (⟨-, -, apart⟩ | ⟨-, used, cut | apart⟩)
  · exact apart rfl
  · exact used (if_neg (by rw [cut]; exact Bool.false_ne_true))
  · exact apart rfl

theorem Ensures.not_stale {i : Nat} {peer : Peer} {middle : State σ} {session : TransportSession}
    (ensures : Ensures h s peer (some i, middle))
    (steady : ∀ session ∈ s.sessions, session.slot = some peer → ¬ Stale s peer session)
    (place : middle.sessions[i]? = some session) : ¬ Stale middle peer session := by
  cases ensures with
  | known i known found here slot same =>
    obtain rfl := Option.some.inj (here.symm.trans place)
    exact steady known (List.mem_of_getElem? here) slot
  | renewed i known found here slot moved =>
    exact absurd (Or.inl moved) (steady known (List.mem_of_getElem? here) slot)
  | opened i known absent here free =>
    have fresh := (List.getElem?_set_self (List.getElem?_eq_some_iff.mp here).1).symm.trans place
    obtain rfl := Option.some.inj fresh
    exact fresh_not_stale s peer

theorem Steady.ensures {peer : Peer} {outcome : Option Nat × State σ} (steady : Steady s)
    (ensures : Ensures h s peer outcome)
    (live : transportsClientConnected s peer = true) : Steady outcome.2 := by
  cases ensures with
  | known i session found place slot same => exact steady
  | full absent => exact steady
  | renewed i session found place slot moved =>
    exact absurd (Or.inl moved) (steady session (List.mem_of_getElem? place) peer slot live)
  | opened i session absent place free =>
    intro other member owner slotted connected
    rcases List.mem_or_eq_of_mem_set member with old | rfl
    · exact steady other old owner slotted connected
    · obtain rfl : peer = owner := Option.some.inj slotted
      exact fresh_not_stale s peer

theorem Steady.visit (steady : Steady s) {i : Nat} {session : TransportSession} {peer : Peer}
    (place : s.sessions[i]? = some session) (owner : session.slot = some peer)
    (live : transportsClientConnected s peer = true) (beside : Beside (s.opened i peer session) after)
    (generation : after.current.connectionGeneration = currentGeneration (s.opened i peer session)) :
    Steady (after.closed s.sessions i session) := by
  intro other member owner' slotted connected
  have alike : Stale (after.closed s.sessions i session) owner' other ↔ Stale s owner' other :=
    Stale.congr beside.attached beside.links
  have same : transportsClientConnected (after.closed s.sessions i session) owner' =
      transportsClientConnected s owner' :=
    (transportsClientConnected_congr beside.attached beside.links owner').1
  rw [alike]
  rw [same] at connected
  rcases List.mem_or_eq_of_mem_set member with old | rfl
  · exact steady other old owner' slotted connected
  · obtain rfl : peer = owner' := Option.some.inj (owner.symm.trans slotted)
    refine synced_not_stale connected ?_ generation
    by_contra apart
    rw [not_or, not_or] at apart
    exact steady session (List.mem_of_getElem? place) peer owner live (Or.inl ⟨apart.2.1, apart.1, apart.2.2⟩)

theorem Holds.service (mesh : Matches h waiting) (holds : Holds waiting accepted index slot s)
    (ahead : Ahead h accepted s)
    (steady : Steady s) : Holds waiting accepted index slot (serviceTransportSessions h s) := by
  refine (serviceTransportSessions_keeps (h := h) (fun s => Holds waiting accepted index slot s ∧ Ahead h accepted s ∧
    Steady s) ?_ ?_ ⟨holds, ahead, steady⟩).1
  · rintro s peer ⟨holds, ahead, steady⟩ live
    have ensures := ensureTransportSession_ensures (h := h) s peer
    obtain ⟨kept, host⟩ := holds.ensures ensures fun session member slot => steady session member peer slot live
    refine ⟨kept, ?_, ?_⟩
    · unfold Ahead
      rw [host]
      exact ahead
    · exact steady.ensures ensures live
  · rintro s i peer session ⟨holds, ahead, steady⟩ place owner live
    obtain ⟨tends, generation⟩ := service_tends (h := h) (s.opened i peer session)
    have kept := steady session (List.mem_of_getElem? place) peer owner live
    have spares : Spares h waiting accepted.tag accepted.deadline (s.opened i peer session) _ :=
      tends.spares mesh holds.used (not_dropped kept) (holds.unexpired ahead place)
    rw [withSession_set place peer tends.beside]
    refine ⟨holds.visit place tends.beside spares fun here => ?_, ?_, ?_⟩
    · subst here
      rw [generation, ← holds.linked, ← holds.own_peer place owner]
      rfl
    · change requestExpired (h.monotonicMillis (serviceCurrentSession h _).host) _ = false
      rw [spares.clock]
      exact ahead
    · exact steady.visit place owner live tends.beside generation

theorem Holds.dispatch (mesh : Matches h waiting) (build : Build) (holds : Holds waiting accepted index slot s)
    (ahead : Ahead h accepted s) (peer : Peer) {frame : List UInt8} (request : isRequest frame)
    (steady : ∀ session ∈ s.sessions, session.slot = some peer → ¬ Stale s peer session)
    (fresh : ∀ response ∈ newResponses h build s (.dispatch peer frame), sentTag response ≠ some accepted.tag) :
    Holds waiting accepted index slot (step h build s (.dispatch peer frame)) := by
  rcases dispatch_request (h := h) build holds.attached peer request with same | ⟨i, middle, session, after,
    ensures, place, owner, handles, same⟩
  · rw [same]
    exact holds
  obtain ⟨kept, host⟩ := holds.ensures ensures steady
  have still : ¬ Stale middle peer session := ensures.not_stale steady place
  dsimp only at kept host
  have ahead : Ahead h accepted middle := by
    unfold Ahead
    rw [host]
    exact ahead
  rw [same]
  refine kept.visit place handles.beside (handles.spares mesh kept.used (not_dropped still) (kept.unexpired ahead place)
    fun result responses tagged => ?_) fun here => ?_
  · refine fresh (sentFrame result) ?_ ((sentTag_sentFrame result).trans (congrArg some tagged))
    rw [newResponses_eq ensures same responses]
    exact List.mem_singleton_self _
  · subst here
    rw [handles.generation, ← kept.linked, ← kept.own_peer place owner]
    rfl

theorem Holds.expire (mesh : Matches h waiting) (holds : Holds waiting accepted index slot s)
    (ahead : Ahead h accepted s) :
    Holds waiting accepted index slot (expirePendingBinary h s) := by
  obtain ⟨beside, current⟩ := expirePendingBinary_beside (h := h) s
  have spares : Spares h waiting accepted.tag accepted.deadline s (expirePendingBinary h s) := by
    refine expirePendingBinary_spares mesh holds.used fun request member tagged => ?_
    rw [holds.copy request member tagged]
    exact ahead
  refine ⟨holds.used, beside.attached.trans holds.attached, beside.request.trans holds.request,
    beside.active.trans holds.active, ?_, ?_, ?_, ?_, (beside.generation _).trans holds.linked,
      spares.waits holds.waits⟩
  · rw [indexOf_congr (congrArg (List.map (·.slot)) beside.sessions)]
    exact holds.found
  · rw [beside.sessions]
    exact holds.own
  · rw [beside.sessions]
    exact holds.others
  · intro request member tagged
    rw [current] at member
    exact holds.copy request (unexpired_thins _ _ request member (by rw [tagged]; exact holds.used)) tagged

theorem Holds.respond (mesh : Matches h waiting) (build : Build) (holds : Holds waiting accepted index slot s)
    (ahead : Ahead h accepted s) {tag : UInt32} (apart : tag ≠ accepted.tag) (blob : List UInt8) :
    Holds waiting accepted index slot (step h build s (.binaryResponse tag blob)) := by
  have responds := pushBinaryResponse_responds (h := h) holds.attached holds.active tag blob
  have holds := holds.expire mesh ahead
  dsimp only [step]
  generalize expirePendingBinary h s = m at responds holds
  generalize pushBinaryResponse h s tag blob = outcome at responds
  obtain ⟨done, after⟩ := outcome
  dsimp only at responds ⊢
  cases responds with
  | dropped accepts trace reason =>
    exact ⟨holds.used, holds.attached, holds.request, holds.active, holds.found, holds.own, holds.others, holds.copy,
      holds.linked, holds.waits⟩
  | written i k peer generation trace used owner taken =>
    have member : (i, peer, generation, k) ∈ requestOwners m tag := by
      rw [owner]
      exact List.mem_singleton_self _
    obtain ⟨session, pending, place, slotted, rfl, opened, linked, there, tagged⟩ :=
      (mem_requestOwners holds.active).mp member
    have released : (m.released i k m.links.accepts.tail (.wrote (some peer) session.generation
        (binaryResponseFrame tag blob)) trace).sessions = m.sessions.set i { session with
          pendingBinary := releaseRequest session.pendingBinary k } := by
      obtain ⟨inside, rfl⟩ := List.getElem?_eq_some_iff.mp place
      exact List.modify_eq_set_get _ inside
    obtain ⟨mine, position, own⟩ := holds.own
    refine holds.set place released rfl rfl (fun here => ?_) ?_ rfl holds.request holds.active ⟨_, rfl⟩ (Or.inl rfl)
      holds.waits
    · subst here
      obtain rfl : session = mine := Option.some.inj (place.symm.trans position)
      exact own.connection
    · exact set_keepsTag there (by rw [tagged]; exact apart) holds.used.symm

theorem Holds.owners (holds : Holds waiting accepted index slot s) (opened : accepted.generation ≠ 0) :
    requestOwners s accepted.tag = [(index, accepted.peer, accepted.generation, slot)] := by
  obtain ⟨mine, position, own⟩ := holds.own
  have live := connected_of_generation opened holds.linked
  unfold requestOwners
  rw [flatMap_zipIdx_single position fun i other apart there => ?_]
  · dsimp only
    rw [own.peer]
    dsimp only
    rw [live, holds.linked, own.generation, holds.active, if_neg (by simpa using opened), if_neg nofun,
      List.filterMap_eq_flatMap_toList, flatMap_zipIdx_single
      ((own.slotted slot ⟨accepted.tag, accepted.deadline⟩ rfl).mpr ⟨rfl, rfl⟩) fun k request apart there => ?_]
    · simp
    · have other : request.tag ≠ accepted.tag := fun tagged => apart ((own.slotted k request tagged).mp there).1
      simp [other]
  · dsimp only
    split
    · rfl
    · split
      · rfl
      · rw [holds.active, if_neg nofun, List.filterMap_eq_nil_iff]
        rintro ⟨request, k⟩ member
        have held := List.mem_of_getElem? (List.mem_zipIdx_iff_getElem?.mp member)
        exact if_neg (holds.others i other apart there request held)

theorem Holds.delivers (build : Build) (mesh : Matches h waiting) (holds : Holds waiting accepted index slot s)
    (ahead : Ahead h accepted s) (opened : accepted.generation ≠ 0) {blob : List UInt8}
    (fits : 6 + blob.length ≤ maxFrameSize) :
    (step h build s (.binaryResponse accepted.tag blob)).history = s.history ++
      if s.links.accepts.headD true then
        [.wrote (some accepted.peer) accepted.generation (binaryResponseFrame accepted.tag blob)] else [] := by
  have responds := pushBinaryResponse_responds (h := h) holds.attached holds.active accepted.tag blob
  have history := expirePendingBinary_history (h := h) s
  have holds := holds.expire mesh ahead
  have owner := holds.owners opened
  have script : (expirePendingBinary h s).links.accepts = s.links.accepts := by
    obtain ⟨host, trace, same⟩ := expirePendingBinary_worked h s
    rw [same]
    rfl
  dsimp only [step]
  rw [← history, ← script]
  generalize expirePendingBinary h s = m at responds holds owner
  generalize pushBinaryResponse h s accepted.tag blob = outcome at responds
  obtain ⟨done, after⟩ := outcome
  dsimp only at responds ⊢
  cases responds with
  | dropped accepts trace reason =>
    rcases reason with unused | long | refused | unowned
    · exact absurd unused holds.used
    · exact absurd fits (Nat.not_le.mpr long)
    · rw [refused, if_neg Bool.false_ne_true, List.append_nil]
    · exact absurd owner (unowned _)
  | written i k peer generation trace used only taken =>
    obtain ⟨rfl, rfl, rfl, rfl⟩ : index = i ∧ accepted.peer = peer ∧ accepted.generation = generation ∧ slot = k := by
      simpa [owner] using only
    rw [taken, if_pos rfl]
    rfl

theorem Ensures.untagged {peer : Peer} {tag : UInt32} {outcome : Option Nat × State σ}
    (ensures : Ensures h s peer outcome)
    (used : tag ≠ 0) (new : ∀ session ∈ s.sessions, ∀ pending ∈ session.pendingBinary, pending.tag ≠ tag) :
    ∀ session ∈ outcome.2.sessions, ∀ pending ∈ session.pendingBinary, pending.tag ≠ tag := by
  have fresh (i : Nat) : ∀ session ∈ s.sessions.set i (freshSession peer (transportsClientGeneration s peer) true),
      ∀ pending ∈ session.pendingBinary, pending.tag ≠ tag := by
    intro session member pending held
    rcases List.mem_or_eq_of_mem_set member with old | rfl
    · exact new session old pending held
    · obtain ⟨-, rfl⟩ := List.mem_replicate.mp held
      exact used.symm
  cases ensures with
  | known i session found place slot same => exact new
  | full absent => exact new
  | renewed i session found place slot moved => exact fresh i
  | opened i session absent place free => exact fresh i

theorem Ensures.generation {peer : Peer} {i : Nat} {middle : State σ} {session : TransportSession}
    (ensures : Ensures h s peer (some i, middle)) (place : middle.sessions[i]? = some session)
    (opened : ∀ session ∈ s.sessions, session.slot = some peer → session.generation ≠ 0)
    (linked : transportsClientGeneration s peer ≠ 0) : session.generation = transportsClientGeneration s peer := by
  have fresh {known : TransportSession} (here : s.sessions[i]? = some known)
      (set : (s.sessions.set i (freshSession peer (transportsClientGeneration s peer) true))[i]? = some session) :
      session.generation = transportsClientGeneration s peer := by
    rw [List.getElem?_set_self (List.getElem?_eq_some_iff.mp here).1] at set
    obtain rfl := Option.some.inj set
    rfl
  cases ensures with
  | known i known found here slot same =>
    obtain rfl := Option.some.inj (here.symm.trans place)
    rcases same with closed | unlinked | same
    · exact absurd closed (opened known (List.mem_of_getElem? here) slot)
    · exact absurd unlinked linked
    · exact same.symm
  | renewed i known found here slot moved => exact fresh here place
  | opened i known absent here free => exact fresh here place

theorem Ensures.clock (mesh : Matches h waiting) {peer : Peer} {outcome : Option Nat × State σ}
    (ensures : Ensures h s peer outcome) : h.monotonicMillis outcome.2.host = h.monotonicMillis s.host := by
  cases ensures with
  | renewed i session found place slot moved => exact mesh.clock_reset
  | _ => rfl

theorem errFrame_ne_sentFrame (err : CompanionError) (result : CompanionSendResult) :
    errFrame err ≠ sentFrame result := by
  intro same
  have first : some (1 : UInt8) = some respCodeSent := congrArg List.head? same
  exact absurd first (by decide)

theorem slotted_set {tag deadline : UInt32} {slot : Nat} {free : PendingBinaryRequest}
    {table : List PendingBinaryRequest}
    (position : table[slot]? = some free) (new : ∀ pending ∈ table, pending.tag ≠ tag) :
    Slotted tag deadline slot (table.set slot ⟨tag, deadline⟩) := by
  intro k request tagged
  by_cases same : slot = k
  · subst same
    rw [List.getElem?_set_self (List.getElem?_eq_some_iff.mp position).1]
    simp [eq_comm]
  · rw [List.getElem?_set_ne same]
    constructor
    · intro held
      exact absurd tagged (new request (List.mem_of_getElem? held))
    · rintro ⟨here, -⟩
      exact absurd here.symm same

theorem accepted_holds (mesh : Matches h waiting) (build : Build) (attached : s.attached = true) {peer : Peer}
    {frame : List UInt8} (request : isRequest frame) {result : CompanionSendResult}
    (responses : (step h build s (.dispatch peer frame)).trace.responses = s.trace.responses ++ [sentFrame result])
    (linked : transportsClientGeneration s peer ≠ 0)
    (opened : ∀ session ∈ s.sessions, session.slot = some peer → session.generation ≠ 0)
    (new : ∀ session ∈ s.sessions, ∀ pending ∈ session.pendingBinary, pending.tag ≠ result.expectedAck) :
    ∃ index slot, Holds waiting ⟨peer, transportsClientGeneration s peer, result.expectedAck,
      h.monotonicMillis s.host + responseTimeout result⟩ index slot (step h build s (.dispatch peer frame)) := by
  rcases dispatch_request (h := h) build attached peer request with same | ⟨i, middle, session, after,
    ensures, place, owner, handles, same⟩
  · rw [same] at responses
    exact absurd (congrArg List.length responses) (by simp)
  have trace : middle.trace = s.trace := ensures.unchanged.2.2
  rw [same] at responses ⊢
  change after.trace.responses = s.trace.responses ++ [sentFrame result] at responses
  have synced := handles.generation
  cases handles with
  | skipped tends generation unanswered =>
    rw [show (middle.opened i peer session).trace = s.trace from trace, responses] at unanswered
    exact absurd (congrArg List.length unanswered) (by simp)
  | answered tended tends connection host reply answer beside device table generation answered =>
    rw [show (middle.opened i peer session).trace = s.trace from trace, responses] at answered
    have named : sentFrame result = reply := by simpa using answered
    cases answer with
    | refused err => exact absurd named.symm (errFrame_ne_sentFrame err result)
    | failed send sends key data err => exact absurd named.symm (errFrame_ne_sentFrame err result)
    | accepted send sends key data slot free position unused ok tagged =>
      obtain ⟨ack, timeout⟩ := sentFrame_inj named
      have used : result.expectedAck ≠ 0 := by
        rw [ack]
        exact tagged
      have clock : h.monotonicMillis tended.host = h.monotonicMillis s.host :=
        (tends.clock mesh).trans (ensures.clock mesh)
      have untagged := ensures.untagged used new
      have slotted : Slotted result.expectedAck (h.monotonicMillis s.host + responseTimeout result) slot
          after.current.pendingBinary := by
        rw [table, ack, timeout, ← clock, ← mesh.clock_sent sends]
        refine slotted_set position fun pending held tagged' => ?_
        have before := tends.table pending held (by rw [tagged']; exact tagged)
        exact untagged session (List.mem_of_getElem? place) pending before (tagged'.trans ack.symm)
      have alike := transportsClientConnected_congr ensures.unchanged.1 ⟨s.links.accepts, ensures.unchanged.2.1⟩ peer
      have whole := tends.beside.trans beside
      refine ⟨i, slot, used, ?_, rfl, rfl, ?_, ⟨saveTransportSession after.current session, ?_, owner, ?_, ?_, slotted⟩,
        ?_, ?_, ?_, ?_⟩
      · exact whole.attached.trans (ensures.unchanged.1.trans attached)
      · refine (indexOf_congr (s := middle) ?_).trans ensures.found
        exact slots_set place rfl
      · exact List.getElem?_set_self (List.getElem?_eq_some_iff.mp place).1
      · change session.generation = transportsClientGeneration s peer
        exact ensures.generation place opened linked
      · exact synced.trans alike.2
      · intro k other apart there pending held
        have elsewhere : middle.sessions[k]? = some other := by
          rw [← there]
          exact (List.getElem?_set_ne (Ne.symm apart)).symm
        exact untagged other (List.mem_of_getElem? elsewhere) pending held
      · intro pending held tagged'
        obtain ⟨k, here⟩ := List.mem_iff_getElem?.mp held
        exact ((slotted k pending tagged').mp here).2
      · exact (transportsClientConnected_congr whole.attached whole.links peer).2.trans alike.2
      · change waiting result.expectedAck (h.monotonicMillis s.host + responseTimeout result) after.host
        rw [device, ack, timeout, ← clock]
        exact mesh.accepted sends ok tagged

end Holds

section Promise

variable {σ : Type} (h : CompanionBridgeHost σ) (build : Build) (waiting : UInt32 → UInt32 → σ → Prop)

/-- A request is to stay until its deadline, the end of its connection, a change of the identity or its
    answer. What the device does by itself gives up no request that waits. -/
def Lasts (accepted : Accepted) (s : State σ) (action : Action σ) : Prop :=
  Ahead h accepted s ∧
    match action with
    | .relink links => transportsClientGeneration { s with links := links } accepted.peer = accepted.generation
    | .device host => waiting accepted.tag accepted.deadline host
    | .binaryResponse tag _ => tag ≠ accepted.tag
    | .identityChanged => False
    | _ => True

/-- No session is found on another connection than its own, and no other request gets the tag. -/
def Undisturbed (accepted : Accepted) (s : State σ) : Action σ → Prop
  | .dispatch peer frame => (∀ session ∈ s.sessions, session.slot = some peer → ¬ Stale s peer session) ∧
      ∀ response ∈ newResponses h build s (.dispatch peer frame), sentTag response ≠ some accepted.tag
  | .service => Steady s
  | _ => True

/-- The device waits for the answer, and an answer is written to the connection as soon as its link takes it. -/
def Deliverable (accepted : Accepted) (s : State σ) : Prop :=
  waiting accepted.tag accepted.deadline s.host ∧ ∀ blob : List UInt8, 6 + blob.length ≤ maxFrameSize →
    (step h build s (.binaryResponse accepted.tag blob)).history = s.history ++
      if s.links.accepts.headD true then
        [.wrote (some accepted.peer) accepted.generation (binaryResponseFrame accepted.tag blob)] else []

variable {h build waiting} {s : State σ} {accepted : Accepted} {index slot : Nat}

theorem Holds.step (mesh : Matches h waiting) (holds : Holds waiting accepted index slot s) (action : Action σ)
    (admitted : Admitted s action) (lasts : Lasts h waiting accepted s action)
    (undisturbed : Undisturbed h build accepted s action) :
    Holds waiting accepted index slot (Companion.step h build s action) := by
  obtain ⟨ahead, lasts⟩ := lasts
  cases action with
  | relink links =>
    exact ⟨holds.used, holds.attached, holds.request, holds.active, holds.found, holds.own, holds.others, holds.copy,
      lasts, holds.waits⟩
  | device host =>
    exact ⟨holds.used, holds.attached, holds.request, holds.active, holds.found, holds.own, holds.others, holds.copy,
      holds.linked, lasts⟩
  | storage store => cases admitted
  | serialFrame frame => cases admitted
  | arrive msg => cases admitted
  | channelData channelIndex snrQuarters pathLen dataType payload => cases admitted
  | binaryResponse tag blob => exact holds.respond mesh build ahead lasts blob
  | identityChanged => cases lasts
  | dispatch peer frame => exact holds.dispatch mesh build ahead peer admitted undisturbed.1 undisturbed.2
  | service =>
    simp only [Companion.step, holds.attached, if_true]
    exact holds.service mesh ahead undisturbed
  | round => cases admitted

theorem accounted_run (due : List Due) (actions : List (Action σ)) (owned : Owned s due)
    (admitted : Runs.Along (step h build) Admitted s actions) :
    Owned (Runs.run (accountedStep h build) (s, due) actions).1 (Runs.run (accountedStep h build) (s, due) actions).2 ∧
      (Runs.run (accountedStep h build) (s, due) actions).1 = Runs.run (step h build) s actions := by
  induction actions generalizing s due with
  | nil => exact ⟨owned, rfl⟩
  | cons action rest ih => exact ih _ (accountedStep_owned (s, due) action owned admitted.1) admitted.2

theorem Holds.run (mesh : Matches h waiting) (holds : Holds waiting accepted index slot s) (actions : List (Action σ))
    (admitted : Runs.Along (Companion.step h build) Admitted s actions)
    (meets : Runs.Along (Companion.step h build)
      (fun s action => Lasts h waiting accepted s action ∧ Undisturbed h build accepted s action) s actions) :
    Holds waiting accepted index slot (Runs.run (Companion.step h build) s actions) := by
  induction actions generalizing s with
  | nil => exact holds
  | cons action rest ih =>
    exact ih (holds.step mesh action admitted.1 meets.1.1 meets.1.2) admitted.2 meets.2

variable (h build) in
/-- The requests of all clients over a whole run. A response is written to at most one client, and only
    to one whose present connection waits for it. A request that was answered with a tag stays
    deliverable while it lasts and no other session is found on a new connection. -/
theorem binary_requests_owned (mesh : Matches h waiting) (host : σ) (store : Store) (links : Links)
    (actions : List (Action σ))
    (admitted : Runs.Along (step h build) Admitted (State.boot true host store links) actions) :
    (∀ before tag blob after, actions = before ++ .binaryResponse tag blob :: after →
      let system := Runs.run (accountedStep h build) (State.boot true host store links, []) before
      (step h build system.1 (.binaryResponse tag blob)).history = system.1.history ∨
      ∃ peer, ⟨peer, transportsClientGeneration system.1 peer, tag⟩ ∈ system.2 ∧
        (step h build system.1 (.binaryResponse tag blob)).history = system.1.history ++
          [.wrote (some peer) (transportsClientGeneration system.1 peer) (binaryResponseFrame tag blob)]) ∧
    ∀ before peer frame after result, actions = before ++ .dispatch peer frame :: after →
      let s := Runs.run (step h build) (State.boot true host store links) before
      let taken := step h build s (.dispatch peer frame)
      let accepted : Accepted := ⟨peer, transportsClientGeneration s peer, result.expectedAck,
        h.monotonicMillis s.host + responseTimeout result⟩
      taken.trace.responses = s.trace.responses ++ [sentFrame result] → transportsClientGeneration s peer ≠ 0 →
      (∀ session ∈ s.sessions, session.slot = some peer → session.generation ≠ 0) →
      (∀ session ∈ s.sessions, ∀ pending ∈ session.pendingBinary, pending.tag ≠ result.expectedAck) →
      Runs.Along (step h build) (fun s action => Lasts h waiting accepted s action ∧
        Undisturbed h build accepted s action)
        taken after →
      Ahead h accepted (Runs.run (step h build) taken after) →
      Deliverable h build waiting accepted (Runs.run (step h build) taken after) := by
  refine ⟨fun before tag blob after split => ?_, fun before peer frame after result split => ?_⟩
  · rw [split, Runs.along_append] at admitted
    exact (accounted_run [] before (boot_owned host store links) admitted.1).1.response tag blob
  · rw [split, Runs.along_append] at admitted
    obtain ⟨earlier, request, later⟩ := admitted
    obtain ⟨owned, same⟩ := accounted_run [] before (boot_owned host store links) earlier
    rw [same] at owned
    intro s taken accepted responses linked opened new meets ahead
    obtain ⟨index, slot, holds⟩ := accepted_holds mesh build owned.attached request responses linked opened new
    have last : Holds waiting accepted index slot _ := holds.run mesh after later meets
    exact ⟨last.waits, fun blob fits => last.delivers build mesh ahead linked fits⟩

end Promise

section TwoClients

/-- The request of the tag is in the table and its time has not run out. -/
def Device.waiting (tag deadline : UInt32) (device : Device) : Prop :=
  ∃ request ∈ device.requests, request.companionBinary = true ∧ request.tag = tag ∧
    request.sentAtMs + request.timeoutMs = deadline ∧ device.millis - request.sentAtMs < request.timeoutMs

instance (tag deadline : UInt32) (device : Device) : Decidable (Device.waiting tag deadline device) :=
  inferInstanceAs (Decidable (∃ request ∈ device.requests, _))

theorem Device.sendBinaryReq_cases (key data : List UInt8) (device : Device) :
    ((sendBinaryReq key data device).1.ok = false ∧ ((sendBinaryReq key data device).2 = device ∨
      (sendBinaryReq key data device).2 = device.expirePendingOperations)) ∨
    sendBinaryReq key data device = (⟨true, true, device.nextTag, requestTimeoutMs⟩,
        { device.expirePendingOperations with
      requests := device.expirePendingOperations.requests ++
        [⟨key, device.nextTag, true, device.millis, requestTimeoutMs⟩]
      nextTag := device.nextTag + 1 }) := by
  unfold sendBinaryReq
  split
  · exact Or.inl ⟨rfl, Or.inl rfl⟩
  · dsimp only
    split
    · exact Or.inl ⟨rfl, Or.inr rfl⟩
    · exact Or.inr rfl

theorem Device.waiting.expire {tag deadline : UInt32} {device : Device} (waits : device.waiting tag deadline) :
    device.expirePendingOperations.waiting tag deadline := by
  obtain ⟨request, member, binary, tagged, due, running⟩ := waits
  exact ⟨request, List.mem_filter.mpr ⟨member, decide_eq_true running⟩, binary, tagged, due, running⟩

theorem Device.sendBinaryReq_keeps {key data : List UInt8} {tag deadline : UInt32} {device : Device}
    (waits : device.waiting tag deadline) : (sendBinaryReq key data device).2.waiting tag deadline := by
  rcases sendBinaryReq_cases key data device with ⟨-, same | same⟩ | sent
  · rw [same]
    exact waits
  · rw [same]
    exact waits.expire
  · rw [sent]
    obtain ⟨request, member, kept⟩ := waits.expire
    exact ⟨request, List.mem_append_left _ member, kept⟩

theorem Device.sendBinaryReq_clock (key data : List UInt8) (device : Device) :
    (sendBinaryReq key data device).2.millis = device.millis := by
  rcases sendBinaryReq_cases key data device with ⟨-, same | same⟩ | sent
  · rw [same]
  · rw [same]
    rfl
  · rw [sent]
    rfl

theorem Device.mesh : Matches host waiting where
  accepted := by
    rintro send (rfl | rfl) key data device ok -
    · rcases sendBinaryReq_cases key data device with ⟨refused, -⟩ | sent
      · exact absurd (refused.symm.trans ok) nofun
      · change ((sendBinaryReq key data device).2).waiting (sendBinaryReq key data device).1.expectedAck
          (device.millis + responseTimeout (sendBinaryReq key data device).1)
        rw [sent]
        refine ⟨_, List.mem_append_right _ (List.mem_singleton_self _), rfl, rfl, rfl, ?_⟩
        change device.millis - device.millis < requestTimeoutMs
        rw [UInt32.sub_self]
        decide
    · cases ok
  sent := by
    rintro send (rfl | rfl) key data device tag deadline waits
    · exact sendBinaryReq_keeps waits
    · exact waits
  cancelled := by
    rintro tag deadline other device apart ⟨request, member, binary, tagged, rest⟩
    refine ⟨request, (List.mem_eraseP_of_neg ?_).mpr member, binary, tagged, rest⟩
    rw [binary, tagged, Bool.true_and, beq_iff_eq]
    exact apart.symm
  clock_sent := by
    rintro send (rfl | rfl) key data device
    · exact sendBinaryReq_clock key data device
    · rfl
  clock_cancelled := rfl
  clock_reset := rfl

def twoClients (second : UInt32) : Links :=
  ⟨false, false, 0, false, true, fun peer => if peer = ⟨.tcp, 0⟩ then some 1 else if peer = ⟨.tcp, 1⟩ then some second
    else none, []⟩

def knownContact : CompanionContact where
  pubKey := ⟨List.replicate pubKeySize 7, rfl⟩
  type := 1
  flags := 0
  outPathLen := 0
  outPath := ⟨List.replicate pathSize 0, zeros_length pathSize⟩
  name := ⟨[], noChars_fit32, noChars_nonzero⟩
  lastAdvertTimestamp := 0
  lastmod := 0
  gpsLat := 0
  gpsLon := 0

def binaryRequest : List UInt8 := 50 :: (List.replicate pubKeySize 7 ++ [1])

def sentOnce : CompanionSendResult := ⟨true, true, 1, Device.requestTimeoutMs⟩

/-- A device that knows one contact, with two clients. -/
def twoClientsStart : State Device :=
  State.boot true { Device.blank with contacts := [knownContact] } (Store.initial none) (twoClients 1)

/-- Both clients get their sessions and the first one sends a request. -/
def requestedOnce : State Device := Runs.run (step Device.host Device.build) twoClientsStart
  [.service, .dispatch ⟨.tcp, 0⟩ binaryRequest]

def firstRequest : Accepted := ⟨⟨.tcp, 0⟩, 1, 1, Device.requestTimeoutMs⟩

/-- While the second client stays on its connection a service round leaves the request deliverable. -/
theorem servicedRequest_deliverable : Deliverable Device.host Device.build Device.waiting firstRequest
    (Runs.run (step Device.host Device.build) requestedOnce [.service]) := by
  have request : isRequest binaryRequest := by decide
  have admitted : Runs.Along (step Device.host Device.build) Admitted twoClientsStart
      [.service, .dispatch ⟨.tcp, 0⟩ binaryRequest, .service] := ⟨trivial, request, trivial, trivial⟩
  have steady : Steady requestedOnce := by decide +kernel
  exact (binary_requests_owned Device.host Device.build Device.mesh _ _ _ _ admitted).2 [.service] ⟨.tcp, 0⟩
    binaryRequest
    [.service] sentOnce rfl (by decide +kernel) (by decide +kernel) (by decide +kernel) (by decide +kernel)
    ⟨⟨⟨by decide +kernel, trivial⟩, steady⟩, trivial⟩ (by decide +kernel)

/-- The second client comes back over a new connection. -/
def secondReconnects : List (Action Device) := [.relink (twoClients 2), .service]

/-- The first client stays connected and its deadline lies ahead, but the device has given up its request. -/
theorem foreignReconnect_cancels :
    Runs.Along (step Device.host Device.build) Admitted twoClientsStart
      ([.service, .dispatch ⟨.tcp, 0⟩ binaryRequest] ++ secondReconnects) ∧
    requestedOnce.trace.responses = (Runs.run (step Device.host Device.build) twoClientsStart
      [.service]).trace.responses ++
      [sentFrame sentOnce] ∧
    Runs.Along (step Device.host Device.build) (Lasts Device.host Device.waiting firstRequest) requestedOnce
      secondReconnects ∧
    Ahead Device.host firstRequest (Runs.run (step Device.host Device.build) requestedOnce secondReconnects) ∧
    ¬ Deliverable Device.host Device.build Device.waiting firstRequest
      (Runs.run (step Device.host Device.build) requestedOnce secondReconnects) := by
  have request : isRequest binaryRequest := by decide
  have fresh : ∀ session ∈ requestedOnce.sessions, ∀ peer ∈ session.slot, session.generation ≠ 0 →
      transportsClientGeneration { requestedOnce with links := twoClients 2 } peer = session.generation →
      transportsClientGeneration requestedOnce peer = session.generation := by decide +kernel
  refine ⟨⟨trivial, request, fresh, trivial, trivial⟩, by decide +kernel,
    ⟨⟨by decide +kernel, by decide +kernel⟩, ⟨by decide +kernel, trivial⟩, trivial⟩, by decide +kernel,
    fun deliverable => ?_⟩
  exact absurd deliverable.1 (by decide +kernel)

end TwoClients

end SigurdOS.Companion
