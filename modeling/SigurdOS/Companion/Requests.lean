import SigurdOS.Companion.Isolation
import SigurdOS.Companion.Device

namespace SigurdOS.Companion

open Bytes MessageStore

section Tables

variable {tag : UInt32} {table middle after : List PendingBinaryRequest}

def KeepsTag (tag : UInt32) (table after : List PendingBinaryRequest) : Prop :=
  ∀ (slot : Nat) (request : PendingBinaryRequest), request.tag = tag →
    (after[slot]? = some request ↔ table[slot]? = some request)

theorem KeepsTag.refl (tag : UInt32) (table : List PendingBinaryRequest) : KeepsTag tag table table :=
  fun _ _ _ => Iff.rfl

theorem KeepsTag.trans (first : KeepsTag tag table middle) (second : KeepsTag tag middle after) :
    KeepsTag tag table after :=
  fun slot request tagged => (second slot request tagged).trans (first slot request tagged)

def Thins (table after : List PendingBinaryRequest) : Prop :=
  ∀ request ∈ after, request.tag ≠ 0 → request ∈ table

theorem Thins.refl (table : List PendingBinaryRequest) : Thins table table := fun _ member _ => member

theorem Thins.trans (first : Thins table middle) (second : Thins middle after) : Thins table after :=
  fun request member tagged => first request (second request member tagged) tagged

theorem thins_free (table : List PendingBinaryRequest) (count : Nat) : Thins table (List.replicate count .free) := by
  intro request member tagged
  obtain ⟨-, rfl⟩ := List.mem_replicate.mp member
  exact absurd rfl tagged

theorem unexpired_thins (now : UInt32) (table : List PendingBinaryRequest) : Thins table (unexpired now table) := by
  intro request member tagged
  obtain ⟨original, present, same⟩ := List.mem_map.mp member
  split at same
  · subst same
    exact absurd rfl tagged
  · exact same ▸ present

theorem unexpired_keepsTag {now : UInt32} (used : tag ≠ 0)
    (waiting : ∀ request ∈ table, request.tag = tag → requestExpired now request = false) :
    KeepsTag tag table (unexpired now table) := by
  intro slot request tagged
  unfold unexpired
  rw [List.getElem?_map, Option.map_eq_some_iff]
  constructor
  · rintro ⟨original, place, same⟩
    split at same
    · subst same
      exact absurd tagged.symm used
    · exact same ▸ place
  · intro place
    refine ⟨request, place, ?_⟩
    rw [waiting request (List.mem_of_getElem? place) tagged]
    rfl

theorem set_keepsTag {slot : Nat} {old request : PendingBinaryRequest} (place : table[slot]? = some old)
    (apart : old.tag ≠ tag) (other : request.tag ≠ tag) : KeepsTag tag table (table.set slot request) := by
  intro i kept tagged
  obtain ⟨inside, here⟩ := List.getElem?_eq_some_iff.mp place
  by_cases same : slot = i
  · subst same
    rw [List.getElem?_set_self inside, place]
    constructor
    · intro written
      exact absurd (Option.some.inj written ▸ tagged) other
    · intro written
      exact absurd (Option.some.inj written ▸ tagged) apart
  · rw [List.getElem?_set_ne same]

end Tables

section Answers

variable {σ : Type} (h : CompanionBridgeHost σ)

def Sends (send : List UInt8 → List UInt8 → σ → CompanionSendResult × σ) : Prop :=
  send = h.sendBinaryReq ∨ send = h.sendAnonReq

def isRequest (frame : List UInt8) : Prop :=
  commandOf (frame.headD 0) = some .sendBinaryReq ∨ commandOf (frame.headD 0) = some .sendAnonReq

def sentFrame (result : CompanionSendResult) : List UInt8 := (sentFields result).flatten

def responseTimeout (result : CompanionSendResult) : UInt32 :=
  if result.estTimeout ≠ 0 then result.estTimeout else binaryRequestFallbackTimeoutMs

theorem sentFrame_inj {result other : CompanionSendResult} (same : sentFrame result = sentFrame other) :
    result.expectedAck = other.expectedAck ∧ responseTimeout result = responseTimeout other := by
  have word_inj {a b : UInt32} (equal : word a = word b) : a = b := by
    have numbers := congrArg leNumber equal
    unfold word at numbers
    rw [leNumber_leBytes_of_lt a.toNat_lt, leNumber_leBytes_of_lt b.toNat_lt] at numbers
    exact UInt32.toNat_inj.mp numbers
  have length (value : UInt32) : (word value).length = 4 := length_leBytes _ _
  unfold sentFrame sentFields at same
  simp only [List.flatten_cons, List.flatten_nil, List.append_nil, List.cons_append, List.nil_append,
    List.cons.injEq, true_and] at same
  obtain ⟨acks, timeouts⟩ := List.append_inj same.2 ((length _).trans (length _).symm)
  have timeout : result.estTimeout = other.estTimeout := word_inj timeouts
  exact ⟨word_inj acks, by rw [responseTimeout, responseTimeout, timeout]⟩

def Connection.tracking (connection : Connection) (slot : Nat) (request : PendingBinaryRequest) : Connection :=
  { connection with pendingBinary := connection.pendingBinary.set slot request }

/-- What a request does to its connection and the device: it is refused, or it takes a free slot under
    the tag that the reply names. -/
inductive Replied (connection : Connection) (host : σ) : Connection → σ → List UInt8 → Prop
  | refused (err : CompanionError) : Replied connection host connection host (errFrame err)
  | failed (send : List UInt8 → List UInt8 → σ → CompanionSendResult × σ) (sends : Sends h send)
      (key data : List UInt8) (err : CompanionError) :
      Replied connection host connection (send key data host).2 (errFrame err)
  | accepted (send : List UInt8 → List UInt8 → σ → CompanionSendResult × σ) (sends : Sends h send)
      (key data : List UInt8) (slot : Nat) (free : PendingBinaryRequest)
      (place : connection.pendingBinary[slot]? = some free) (unused : free.tag = 0)
      (ok : (send key data host).1.ok = true) (tagged : (send key data host).1.expectedAck ≠ 0) :
      Replied connection host
        (connection.tracking slot ⟨(send key data host).1.expectedAck,
          h.monotonicMillis (send key data host).2 + responseTimeout (send key data host).1⟩)
        (send key data host).2 (sentFrame (send key data host).1)

variable {h}

/-- The command ends with a result and a state of the device that have the property; it hands over no
    response by itself. -/
def Ends {α : Type} (command : Parse σ α) (work : Work σ) (property : α → σ → Prop) : Prop :=
  property (command.run work).1 (command.run work).2.host ∧
    (command.run work).2.trace.responses = work.trace.responses

section Ends

variable {α β : Type} {work : Work σ}

theorem ends_pure {property : α → σ → Prop} {value : α} (holds : property value work.host) :
    Ends (pure value : Parse σ α) work property := ⟨holds, rfl⟩

theorem ends_bind {property : β → σ → Prop} {between : α → σ → Prop} {first : Parse σ α} {second : α → Parse σ β}
    (starts : Ends first work between)
    (holds : ∀ value (middle : Work σ), between value middle.host → Ends (second value) middle property) :
    Ends (first >>= second) work property := by
  obtain ⟨reached, same⟩ := starts
  obtain ⟨done, still⟩ := holds (first.run work).1 (first.run work).2 reached
  exact ⟨done, still.trans same⟩

theorem ends_bytesAt (frame : List UInt8) (i count : Nat) :
    Ends (bytesAt frame i count) work fun _ host => host = work.host := ⟨rfl, rfl⟩

theorem ends_logWrite (offset length : Nat) : Ends (logWrite offset length) work fun _ host => host = work.host :=
  ⟨rfl, rfl⟩

theorem ends_ask (f : σ → α) : Ends (ask f) work fun value host => value = f host ∧ host = work.host :=
  ⟨⟨rfl, rfl⟩, rfl⟩

theorem ends_call (f : σ → α × σ) : Ends (call f) work fun value host => (value, host) = f work.host := ⟨rfl, rfl⟩

theorem ends_respondAt (fields : List (List UInt8)) (offset : Nat) :
    Ends (respondAt offset fields) work fun reply host => reply = fields.flatten ∧ host = work.host := by
  induction fields generalizing offset work with
  | nil => exact ends_pure ⟨rfl, rfl⟩
  | cons field rest ih =>
    refine ends_bind (ends_logWrite offset field.length) fun _ middle same => ?_
    refine ends_bind (ih _) fun later last ⟨bytes, still⟩ => ends_pure ⟨?_, still.trans same⟩
    rw [bytes, List.flatten_cons]

theorem ends_writeSentOrErr {result : CompanionSendResult} (ok : result.ok = true) :
    Ends (writeSentOrErr result) work fun reply host => reply = sentFrame result ∧ host = work.host := by
  unfold writeSentOrErr
  rw [if_pos ok]
  exact ends_respondAt _ _

end Ends

def RepliedBy (h : CompanionBridgeHost σ) (connection : Connection) (host : σ) (outcome : Outcome) (after : σ) : Prop :=
  ∃ connection' reply, outcome = answer connection' reply ∧ Replied h connection host connection' after reply

theorem trackedRequest_replied {send : List UInt8 → List UInt8 → σ → CompanionSendResult × σ} (sends : Sends h send)
    (frame : List UInt8) (connection : Connection) (work : Work σ) :
    Ends (trackedRequest h frame connection send) work (RepliedBy h connection work.host) := by
  unfold trackedRequest
  cases free : findFreePendingBinary connection.pendingBinary with
  | none => exact ends_pure ⟨connection, _, rfl, .refused .tableFull⟩
  | some slot =>
    obtain ⟨inside, unused, -⟩ := List.findIdx?_eq_some_iff_getElem.mp free
    have clear : connection.pendingBinary[slot].tag = 0 := beq_iff_eq.mp unused
    refine ends_bind (ends_bytesAt _ _ _) fun key first same => ends_bind (ends_bytesAt _ _ _) fun data second still =>
      ends_bind (ends_call _) fun result third called => ?_
    rw [still, same] at called
    obtain ⟨value, device⟩ := Prod.mk.inj called
    split
    · refine ends_pure ⟨connection, _, rfl, ?_⟩
      rw [device]
      exact .failed send sends key data .tableFull
    · rename_i accepted
      rw [not_or, Bool.not_eq_true', Bool.not_eq_false] at accepted
      refine ends_bind (ends_ask _) fun now fourth ⟨clock, alike⟩ =>
        ends_bind (ends_writeSentOrErr accepted.1) fun reply last ⟨sent, kept⟩ => ends_pure ⟨_, _, rfl, ?_⟩
      rw [value] at accepted
      rw [sent, clock, kept, alike, device, value]
      exact .accepted send sends key data slot _ (List.getElem?_eq_getElem inside) clear accepted.1 accepted.2

theorem request_replied (build : Build) (frame : List UInt8) {command : CompanionCommand}
    (request : command = .sendBinaryReq ∨ command = .sendAnonReq) (connection : Connection) (work : Work σ) :
    Ends (sessionCommand h build frame connection command) work (RepliedBy h connection work.host) := by
  rcases request with rfl | rfl
  · refine ends_bind (ends_bytesAt _ _ _) fun key first same => ends_bind (ends_ask _) fun contact second known => ?_
    have device : second.host = work.host := known.2.trans same
    split
    · refine ends_pure ⟨connection, _, rfl, ?_⟩
      rw [device]
      exact .refused .notFound
    · rw [← device]
      exact trackedRequest_replied (Or.inl rfl) frame connection second
  · exact trackedRequest_replied (Or.inr rfl) frame connection work

end Answers

section Tends

variable {σ : Type} (h : CompanionBridgeHost σ) {s middle after : State σ}

/-- Work on one connection: the links only take frames and the other sessions are not touched. -/
structure Beside (s after : State σ) : Prop where
  attached : after.attached = s.attached
  request : after.request = s.request
  active : after.active = s.active
  sessions : after.sessions = s.sessions
  links : ∃ accepts, after.links = { s.links with accepts := accepts }

theorem Beside.refl (s : State σ) : Beside s s := ⟨rfl, rfl, rfl, rfl, s.links.accepts, rfl⟩

theorem Beside.trans (first : Beside s middle) (second : Beside middle after) : Beside s after := by
  obtain ⟨earlier, links⟩ := first.links
  obtain ⟨accepts, links'⟩ := second.links
  refine ⟨second.attached.trans first.attached, second.request.trans first.request,
    second.active.trans first.active, second.sessions.trans first.sessions, accepts, ?_⟩
  rw [links', links]

theorem Transmits.beside (transmits : Transmits s after) : Beside s after := by
  obtain ⟨accepts, events, rfl, -⟩ := transmits
  exact ⟨rfl, rfl, rfl, rfl, accepts, rfl⟩

theorem transportsClientConnected_congr {t : State σ} (attached : t.attached = s.attached)
    (links : ∃ accepts, t.links = { s.links with accepts := accepts }) (peer : Peer) :
    transportsClientConnected t peer = transportsClientConnected s peer ∧
      transportsClientGeneration t peer = transportsClientGeneration s peer := by
  obtain ⟨accepts, links⟩ := links
  unfold transportsClientGeneration transportsClientConnected
  rw [attached, links]
  exact ⟨rfl, rfl⟩

theorem Beside.connected (beside : Beside s after) (peer : Peer) :
    transportsClientConnected after peer = transportsClientConnected s peer :=
  (transportsClientConnected_congr beside.attached beside.links peer).1

theorem Beside.generation (beside : Beside s after) (peer : Peer) :
    transportsClientGeneration after peer = transportsClientGeneration s peer :=
  (transportsClientConnected_congr beside.attached beside.links peer).2

/-- What the bridge relies on in the device: a request waits under its tag until its deadline, and is
    given up before only under its own tag. -/
structure Matches (waiting : UInt32 → UInt32 → σ → Prop) : Prop where
  accepted : ∀ {send}, Sends h send → ∀ {key data host}, (send key data host).1.ok = true →
    (send key data host).1.expectedAck ≠ 0 → waiting (send key data host).1.expectedAck
      (h.monotonicMillis host + responseTimeout (send key data host).1) (send key data host).2
  sent : ∀ {send}, Sends h send → ∀ {key data host tag deadline}, waiting tag deadline host →
    waiting tag deadline (send key data host).2
  cancelled : ∀ {tag deadline other host}, other ≠ tag → waiting tag deadline host →
    waiting tag deadline (h.cancelBinaryReq other host)
  clock_sent : ∀ {send}, Sends h send → ∀ {key data host},
    h.monotonicMillis (send key data host).2 = h.monotonicMillis host
  clock_cancelled : ∀ {tag host}, h.monotonicMillis (h.cancelBinaryReq tag host) = h.monotonicMillis host
  clock_reset : ∀ {host}, h.monotonicMillis (h.cancelBinaryReqs host) = h.monotonicMillis host

/-- A request under the tag keeps its slot in the connection and its place in the device. -/
structure Spares (waiting : UInt32 → UInt32 → σ → Prop) (tag deadline : UInt32) (s after : State σ) : Prop where
  table : KeepsTag tag s.current.pendingBinary after.current.pendingBinary
  waits : waiting tag deadline s.host → waiting tag deadline after.host
  clock : h.monotonicMillis after.host = h.monotonicMillis s.host

variable {h} {waiting : UInt32 → UInt32 → σ → Prop} {tag deadline : UInt32}

theorem Spares.trans (first : Spares h waiting tag deadline s middle)
    (second : Spares h waiting tag deadline middle after) :
    Spares h waiting tag deadline s after :=
  ⟨first.table.trans second.table, fun waits => second.waits (first.waits waits), second.clock.trans first.clock⟩

theorem spares_of_same (table : after.current.pendingBinary = s.current.pendingBinary) (host : after.host = s.host) :
    Spares h waiting tag deadline s after :=
  ⟨table ▸ .refl _ _, fun waits => host ▸ waits, congrArg h.monotonicMillis host⟩

def Dropped (s : State σ) : Prop :=
  s.current.wasConnected = true ∧ s.current.connectionGeneration ≠ 0 ∧
    (currentTransportConnected s = false ∨ currentGeneration s ≠ s.current.connectionGeneration)

variable (h) in
/-- The requests of the connection that have not elapsed stay, unless its link has changed. -/
structure Tends (s after : State σ) : Prop where
  beside : Beside s after
  table : Thins s.current.pendingBinary after.current.pendingBinary
  clock : ∀ {waiting : UInt32 → UInt32 → σ → Prop}, Matches h waiting →
    h.monotonicMillis after.host = h.monotonicMillis s.host
  spares : ∀ {waiting : UInt32 → UInt32 → σ → Prop} {tag deadline : UInt32}, Matches h waiting → tag ≠ 0 → ¬ Dropped s →
    (∀ request ∈ s.current.pendingBinary, request.tag = tag →
      requestExpired (h.monotonicMillis s.host) request = false) → Spares h waiting tag deadline s after

theorem refreshConnectionSession_unchanged (kept : ¬ Dropped s) : refreshConnectionSession h s =
    s.update fun c => { c with
      connectionGeneration := currentGeneration s, wasConnected := currentTransportConnected s } := by
  unfold refreshConnectionSession
  dsimp only
  rw [if_neg]
  intro changed
  simp only [Bool.and_eq_true, Bool.or_eq_true, bne_iff_ne, Bool.not_eq_true'] at changed
  exact kept changed

theorem refreshConnectionSession_tends (s : State σ) : Tends h s (refreshConnectionSession h s) := by
  refine ⟨?_, ?_, fun mesh => ?_, fun _ _ kept _ => ?_⟩
  · obtain ⟨host, trace, same⟩ := refreshConnectionSession_worked h s
    rw [same]
    exact ⟨rfl, rfl, rfl, rfl, s.links.accepts, rfl⟩
  · obtain ⟨host, trace, same⟩ := refreshConnectionSession_worked h s
    rw [same]
    change Thins s.current.pendingBinary (refreshed s).pendingBinary
    unfold refreshed
    dsimp only
    split
    · exact thins_free _ _
    · exact .refl _
  · unfold refreshConnectionSession
    dsimp only
    split
    · exact mesh.clock_reset
    · rfl
  · rw [refreshConnectionSession_unchanged kept]
    exact spares_of_same rfl rfl

theorem refreshConnectionSession_current (s : State σ) :
    (refreshConnectionSession h s).current.connectionGeneration = currentGeneration s ∧
      (refreshConnectionSession h s).trace.responses = s.trace.responses := by
  unfold refreshConnectionSession
  dsimp only
  split
  · exact ⟨rfl, rfl⟩
  · exact ⟨rfl, rfl⟩

theorem cancelEach_clock (mesh : Matches h waiting) (requests : List PendingBinaryRequest) (s : State σ) :
    h.monotonicMillis (requests.foldl (fun s request => cancelBinaryReq h s request.tag) s).host =
      h.monotonicMillis s.host := by
  induction requests generalizing s with
  | nil => rfl
  | cons request rest ih => exact (ih _).trans mesh.clock_cancelled

theorem cancelEach_spares (mesh : Matches h waiting) (requests : List PendingBinaryRequest)
    (others : ∀ request ∈ requests, request.tag ≠ tag) :
    Spares h waiting tag deadline s (requests.foldl (fun s request => cancelBinaryReq h s request.tag) s) := by
  induction requests generalizing s with
  | nil => exact spares_of_same rfl rfl
  | cons request rest ih =>
    have first : Spares h waiting tag deadline s (cancelBinaryReq h s request.tag) :=
      ⟨.refl _ _, mesh.cancelled (others request List.mem_cons_self), mesh.clock_cancelled⟩
    exact first.trans (ih fun other member => others other (List.mem_cons_of_mem _ member))

theorem expirePendingBinary_responses (s : State σ) :
    (expirePendingBinary h s).trace.responses = s.trace.responses := by
  unfold expirePendingBinary
  dsimp only
  generalize s.current.pendingBinary.filter _ = requests
  generalize started : s.update _ = middle
  have same : middle.trace.responses = s.trace.responses := by rw [← started]; rfl
  rw [← same]
  clear started same
  induction requests generalizing middle with
  | nil => rfl
  | cons request rest ih => exact ih (cancelBinaryReq h middle request.tag)

theorem expirePendingBinary_beside (s : State σ) : Beside s (expirePendingBinary h s) ∧
    (expirePendingBinary h s).current = { s.current with
      pendingBinary := unexpired (h.monotonicMillis s.host) s.current.pendingBinary } := by
  obtain ⟨host, trace, same⟩ := expirePendingBinary_worked h s
  rw [same]
  exact ⟨⟨rfl, rfl, rfl, rfl, s.links.accepts, rfl⟩, rfl⟩

theorem expirePendingBinary_spares (mesh : Matches h waiting) (used : tag ≠ 0)
    (fresh : ∀ request ∈ s.current.pendingBinary, request.tag = tag →
      requestExpired (h.monotonicMillis s.host) request = false) :
    Spares h waiting tag deadline s (expirePendingBinary h s) := by
  have thinned : Spares h waiting tag deadline s (s.update fun c => { c with
      pendingBinary := unexpired (h.monotonicMillis s.host) s.current.pendingBinary }) :=
    ⟨unexpired_keepsTag used fresh, id, rfl⟩
  refine thinned.trans (cancelEach_spares mesh _ fun request expired tagged => ?_)
  obtain ⟨member, elapsed⟩ := List.mem_filter.mp expired
  rw [fresh request member tagged] at elapsed
  cases elapsed

theorem expire_refresh_tends (s : State σ) : Tends h s (expirePendingBinary h (refreshConnectionSession h s)) := by
  have first := refreshConnectionSession_tends (h := h) s
  obtain ⟨beside, current⟩ := expirePendingBinary_beside (h := h) (refreshConnectionSession h s)
  refine ⟨first.beside.trans beside, first.table.trans ?_, fun mesh => ?_,
    fun {waiting tag deadline} mesh used kept fresh => ?_⟩
  · rw [current]
    exact unexpired_thins _ _
  · exact (cancelEach_clock mesh _ _).trans (first.clock mesh)
  · have refreshed : Spares h waiting tag deadline s (refreshConnectionSession h s) :=
      first.spares mesh used kept fresh
    refine refreshed.trans (expirePendingBinary_spares mesh used fun request member tagged => ?_)
    obtain ⟨slot, place⟩ := List.mem_iff_getElem?.mp member
    rw [refreshed.clock]
    exact fresh request (List.mem_of_getElem? ((refreshed.table slot request tagged).mp place)) tagged

structure Writes (s after : State σ) : Prop where
  beside : Beside s after
  table : after.current.pendingBinary = s.current.pendingBinary
  generation : after.current.connectionGeneration = s.current.connectionGeneration
  host : after.host = s.host

theorem Writes.refl (s : State σ) : Writes s s := ⟨.refl s, rfl, rfl, rfl⟩

theorem Writes.trans (first : Writes s middle) (second : Writes middle after) : Writes s after :=
  ⟨first.beside.trans second.beside, second.table.trans first.table, second.generation.trans first.generation,
    second.host.trans first.host⟩

theorem Transmits.writes (transmits : Transmits s after) : Writes s after := by
  obtain ⟨accepts, events, rfl, -⟩ := transmits
  exact ⟨⟨rfl, rfl, rfl, rfl, accepts, rfl⟩, rfl, rfl, rfl⟩

theorem Transmits.responses (transmits : Transmits s after) : after.trace.responses = s.trace.responses := by
  obtain ⟨accepts, events, rfl, -⟩ := transmits
  rfl

theorem Writes.update {f : Connection → Connection} (writes : Writes s after)
    (table : ∀ c, (f c).pendingBinary = c.pendingBinary)
    (generation : ∀ c, (f c).connectionGeneration = c.connectionGeneration) : Writes s (after.update f) :=
  ⟨⟨writes.beside.attached, writes.beside.request, writes.beside.active, writes.beside.sessions, writes.beside.links⟩,
    (table _).trans writes.table, (generation _).trans writes.generation, writes.host⟩

theorem sendResponseFrame_writes (s : State σ) (frame : List UInt8) :
    Writes s (sendResponseFrame s frame) ∧
      (sendResponseFrame s frame).trace.responses = s.trace.responses ++ [frame] := by
  have logged : Writes s (s.logResponse frame) := ⟨⟨rfl, rfl, rfl, rfl, s.links.accepts, rfl⟩, rfl, rfl, rfl⟩
  rcases sendResponseFrame_cases s frame with sent | ⟨middle, sent, -, -, same⟩
  · exact ⟨logged.trans sent.writes, sent.responses⟩
  · rw [same]
    exact ⟨(logged.trans sent.writes).update (fun _ => rfl) (fun _ => rfl), sent.responses⟩

theorem flushPendingResponse_writes (s : State σ) : Writes s (flushPendingResponse s).2 := by
  rcases flushPendingResponse_cases s with ⟨same, -⟩ | ⟨middle, sent, same, -⟩ | ⟨middle, sent, same⟩
  · rw [same]
    exact .refl s
  · rw [same]
    exact sent.writes
  · rw [same]
    dsimp only
    exact sent.writes.update (fun _ => rfl) (fun _ => rfl)

theorem sendContact_writes (s : State σ) (index : Nat) : Writes s (sendContact h s index) := by
  unfold sendContact
  split
  · rename_i contact next found
    have noted : Writes s ((s.update fun c => { c with
        contactIter := some next
        mostRecentLastmod :=
          if contact.lastmod > c.mostRecentLastmod then contact.lastmod else c.mostRecentLastmod }).logWrite 0
        (contactFields respCodeContact contact).flatten.length) :=
      ⟨⟨rfl, rfl, rfl, rfl, s.links.accepts, rfl⟩, rfl, rfl, rfl⟩
    exact noted.trans (sendResponseFrame_writes _ _).1
  · have noted : Writes s (s.logWrite 0 (respCodeEndOfContacts :: word s.current.mostRecentLastmod).length) :=
      ⟨⟨rfl, rfl, rfl, rfl, s.links.accepts, rfl⟩, rfl, rfl, rfl⟩
    exact (noted.trans (sendResponseFrame_writes _ _).1).update (fun _ => rfl) (fun _ => rfl)

theorem serviceCurrentSession_writes (s : State σ) :
    Writes (expirePendingBinary h s) (serviceCurrentSession h s) := by
  have flushed := flushPendingResponse_writes (expirePendingBinary h s)
  unfold serviceCurrentSession
  generalize flushPendingResponse (expirePendingBinary h s) = outcome at flushed
  obtain ⟨done, middle⟩ := outcome
  cases done with
  | false => exact flushed
  | true =>
    dsimp only at flushed ⊢
    cases waiting : middle.current.contactIter with
    | none => exact flushed
    | some index =>
      dsimp only
      exact iteInduction (motive := fun after : State σ => Writes (expirePendingBinary h s) after) (fun _ => flushed)
        (fun _ => flushed.trans (sendContact_writes middle index))

theorem service_tends (s : State σ) : Tends h s (serviceCurrentSession h (refreshConnectionSession h s)) ∧
    (serviceCurrentSession h (refreshConnectionSession h s)).current.connectionGeneration = currentGeneration s := by
  have first := expire_refresh_tends (h := h) s
  have second := serviceCurrentSession_writes (h := h) (refreshConnectionSession h s)
  obtain ⟨-, current⟩ := expirePendingBinary_beside (h := h) (refreshConnectionSession h s)
  refine ⟨⟨first.beside.trans second.beside, ?_, fun mesh => ?_, fun mesh used kept fresh => ?_⟩, ?_⟩
  · rw [second.table]
    exact first.table
  · rw [second.host]
    exact first.clock mesh
  · exact (first.spares mesh used kept fresh).trans (spares_of_same second.table second.host)
  · rw [second.generation, current]
    exact (refreshConnectionSession_current (h := h) s).1

variable (h) in
/-- A frame with a request either finds the response slot taken, or is answered. -/
inductive Handles (s after : State σ) : Prop
  | skipped (tends : Tends h s after) (generation : after.current.connectionGeneration = currentGeneration s)
      (responses : after.trace.responses = s.trace.responses)
  | answered (middle : State σ) (tends : Tends h s middle) (connection : Connection) (host : σ) (reply : List UInt8)
      (answer : Replied h middle.current middle.host connection host reply) (beside : Beside middle after)
      (device : after.host = host)
      (table : after.current.pendingBinary = connection.pendingBinary)
      (generation : after.current.connectionGeneration = currentGeneration s)
      (responses : after.trace.responses = s.trace.responses ++ [reply])

theorem Handles.beside (handles : Handles h s after) : Beside s after := by
  cases handles with
  | skipped tends generation responses => exact tends.beside
  | answered middle tends connection host reply answer beside device table generation responses =>
    exact tends.beside.trans beside

theorem Replied.generation {connection : Connection} {host device : σ} {updated : Connection} {reply : List UInt8}
    (answered : Replied h connection host updated device reply) :
    updated.connectionGeneration = connection.connectionGeneration := by
  cases answered <;> rfl

theorem Handles.generation (handles : Handles h s after) :
    after.current.connectionGeneration = currentGeneration s := by
  cases handles with
  | skipped tends generation responses => exact generation
  | answered middle tends connection host reply answer beside device table generation responses => exact generation

theorem Handles.spares (handles : Handles h s after) (mesh : Matches h waiting) (used : tag ≠ 0) (kept : ¬ Dropped s)
    (fresh : ∀ request ∈ s.current.pendingBinary, request.tag = tag →
      requestExpired (h.monotonicMillis s.host) request = false)
    (other : ∀ result, after.trace.responses = s.trace.responses ++ [sentFrame result] → result.expectedAck ≠ tag) :
    Spares h waiting tag deadline s after := by
  cases handles with
  | skipped tends generation responses => exact tends.spares mesh used kept fresh
  | answered middle tends connection host reply answer beside device table generation responses =>
    have first : Spares h waiting tag deadline s middle := tends.spares mesh used kept fresh
    refine first.trans ?_
    cases answer with
    | refused err => exact spares_of_same table device
    | failed send sends key data err =>
      refine ⟨table ▸ .refl _ _, fun waits => ?_, ?_⟩
      · rw [device]
        exact mesh.sent sends waits
      · rw [device]
        exact mesh.clock_sent sends
    | accepted send sends key data slot free place unused ok tagged =>
      refine ⟨?_, fun waits => ?_, ?_⟩
      · rw [table]
        exact set_keepsTag place (by rw [unused]; exact used.symm) (other _ responses)
      · rw [device]
        exact mesh.sent sends waits
      · rw [device]
        exact mesh.clock_sent sends

theorem Handles.reply {connection : Connection} {host : σ} {trace : Trace} {reply : List UInt8}
    (tends : Tends h s middle)
    (generation : middle.current.connectionGeneration = currentGeneration s)
    (same : trace.responses = s.trace.responses)
    (answered : Replied h middle.current middle.host connection host reply) :
    Handles h s (sendResponseFrame (middle.worked connection host trace) reply) := by
  obtain ⟨writes, responses⟩ := sendResponseFrame_writes (middle.worked connection host trace) reply
  refine .answered middle tends connection host reply answered ?_ writes.host writes.table ?_ ?_
  · exact ⟨writes.beside.attached, writes.beside.request, writes.beside.active, writes.beside.sessions,
      writes.beside.links⟩
  · exact writes.generation.trans (answered.generation.trans generation)
  · rw [responses, ← same]
    rfl

theorem runCommand_request (build : Build) (s : State σ) (frame : List UInt8) {command : CompanionCommand}
    (known : command = .sendBinaryReq ∨ command = .sendAnonReq) : ∃ connection host trace reply,
    runCommand h build s frame command = sendResponseFrame (s.worked connection host trace) reply ∧
      trace.responses = s.trace.responses ∧ Replied h s.current s.host connection host reply := by
  unfold runCommand
  obtain ⟨⟨connection, reply, answer, answered⟩, still⟩ := request_replied (h := h) build frame known s.current
    ⟨s.host, !s.current.pendingResponse.isEmpty, s.trace⟩
  generalize StateT.run (sessionCommand h build frame s.current command)
    ⟨s.host, !s.current.pendingResponse.isEmpty, s.trace⟩ = outcome at answer answered still ⊢
  obtain ⟨result, work⟩ := outcome
  dsimp only at answer answered still
  subst answer
  exact ⟨connection, work.host, work.trace, reply, rfl, still, answered⟩

theorem handleFrame_request (build : Build) (s : State σ) {frame : List UInt8} (request : isRequest frame)
    (valid : validFrame frame = true) : Handles h s (handleFrame h build s frame).2 := by
  obtain ⟨noted, arrival⟩ : ∃ noted, noted = s.note (.received s.request (currentGeneration s) frame) := ⟨_, rfl⟩
  have tends {after : State σ} (tends : Tends h noted after) : Tends h s after := by
    subst arrival
    refine ⟨⟨tends.beside.attached, tends.beside.request, tends.beside.active, tends.beside.sessions,
      tends.beside.links⟩, tends.table, tends.clock, fun {waiting tag deadline} mesh used kept fresh => ?_⟩
    have spares : Spares h waiting tag deadline _ after := tends.spares mesh used kept fresh
    exact ⟨spares.table, spares.waits, spares.clock⟩
  have same : noted.trace.responses = s.trace.responses := by rw [arrival]; rfl
  have current : currentGeneration noted = currentGeneration s := by rw [arrival]; rfl
  unfold handleFrame
  rw [valid, Bool.not_true, if_neg Bool.false_ne_true, ← arrival]
  dsimp only
  obtain ⟨generation, responses⟩ := refreshConnectionSession_current (h := h) noted
  split
  · exact .skipped (tends (refreshConnectionSession_tends noted)) (generation.trans current) (responses.trans same)
  have tended := tends (expire_refresh_tends noted)
  have told := (expirePendingBinary_responses (h := h) (refreshConnectionSession h noted)).trans (responses.trans same)
  have carried : (expirePendingBinary h (refreshConnectionSession h noted)).current.connectionGeneration =
      currentGeneration s := by
    rw [(expirePendingBinary_beside (h := h) _).2]
    exact generation.trans current
  dsimp only
  generalize expirePendingBinary h (refreshConnectionSession h noted) = middle at tended told carried
  obtain ⟨command, found, known⟩ : ∃ command, commandOf (frame.headD 0) = some command ∧
      (command = .sendBinaryReq ∨ command = .sendAnonReq) := by
    rcases request with found | found
    · exact ⟨_, found, Or.inl rfl⟩
    · exact ⟨_, found, Or.inr rfl⟩
  unfold dispatchCommand
  dsimp only
  rw [found]
  dsimp only
  split
  · change Handles h s (sendResponseFrame (middle.worked middle.current middle.host
      { middle.trace with reads := middle.trace.reads ++ [(0, 1)] }) (errFrame .illegalArg))
    exact Handles.reply tended carried told (.refused .illegalArg)
  rw [if_neg (by rcases known with rfl | rfl <;> decide)]
  obtain ⟨connection, host, trace, reply, same, still, answered⟩ := runCommand_request (h := h) build
    { middle with trace := { middle.trace with reads := middle.trace.reads ++ [(0, 1)] } } frame known
  rw [same]
  change Handles h s (sendResponseFrame (middle.worked connection host trace) reply)
  exact Handles.reply tended carried (still.trans told) answered

end Tends

end SigurdOS.Companion
