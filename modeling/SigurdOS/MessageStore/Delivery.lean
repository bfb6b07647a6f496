import SigurdOS.MessageStore.Retrieval
import SigurdOS.MessageStore.Soundness

namespace SigurdOS.MessageStore

open Bytes SigurdOS.Hal Runs

/-- A failed operation changed no record: the readers see what they saw, in a file that is still there. -/
structure Unchanged (s after : Store) : Prop where
  records : after.records = s.records
  file : s.live ≠ none → after.live ≠ none

def FailsOver (s : Store) (msg : StoredMessage) : Prop := s.backend ≠ none ∧ (appendOnce s msg).1 = none

/-- The steps on one store. An append or a delivery update may fail but then changes no record. -/
def Harmless (s : Store) (input : Op × List Fault) : Prop :=
  match input.1 with
  | .append msg => ¬ FailsOver (s.withFaults input.2) msg ∧
      ((perform (s.withFaults input.2) input.1).1 = false → Unchanged s (execFaulty s input))
  | .mark _ => (perform (s.withFaults input.2) input.1).1 = false → Unchanged s (execFaulty s input)
  | .clear => False
  | .reboot => input.2 = []

def appendedMessages (inputs : List (Op × List Fault)) : List StoredMessage :=
  inputs.filterMap (fun input => match input.1 with
    | .append msg => some msg
    | _ => none)

def Stems (appended : List StoredMessage) (stored : StoredMessage) : Prop :=
  ∃ msg ∈ appended, Evolves ((storedMessageNormalize msg).withId stored.storeId) stored

theorem Stems.mono {appended more : List StoredMessage} {stored : StoredMessage} (stems : Stems appended stored)
    (sub : ∀ msg ∈ appended, msg ∈ more) : Stems more stored := by
  obtain ⟨msg, member, evolves⟩ := stems
  exact ⟨msg, sub msg member, evolves⟩

theorem Stems.evolves {appended : List StoredMessage} {old new : StoredMessage} (stems : Stems appended old)
    (evolves : Evolves old new) : Stems appended new := by
  obtain ⟨msg, member, before⟩ := stems
  refine ⟨msg, member, ?_⟩
  rw [evolves.storeId]
  exact before.trans evolves

/-- The complete records in the live file, also one that the header does not count yet. -/
def Store.fileRecords (s : Store) : List StoredMessage := ((s.live.map rawRecords).getD []).filterMap readRecordRaw

/-- Each record after a step is one from before it with its delivery state moved on, or it is the message
    that was just appended, under an ID that no record had. -/
def Follows (op : Op) (before after : List StoredMessage) : Prop :=
  ∀ new ∈ after, (∃ old ∈ before, Evolves old new) ∨ (new.storeId ∉ before.map (·.storeId) ∧
    ∃ msg, op = .append msg ∧ new = (storedMessageNormalize msg).withId new.storeId)

theorem Follows.refl (op : Op) (records : List StoredMessage) : Follows op records records :=
  fun new member => Or.inl ⟨new, member, .refl new⟩

section Pending

variable {s after : Store} {property weaker : StoredMessage → Prop}

def Pending (s : Store) (property : StoredMessage → Prop) : Prop :=
  ∀ data, s.files.file.temp = some data → validateStoreForRecovery (backendRecoveryMaxRecords s) data = true →
    ∃ log : Log, data = log.encode ∧ log.messages.length ≤ backendRecoveryMaxRecords s ∧
      ∀ stored ∈ log.messages, property stored

theorem pending_of_none (gone : s.files.file.temp = none) : Pending s property := by
  intro data pending
  rw [gone] at pending
  cases pending

theorem Pending.mono (pending : Pending s property) (backend : after.backend = s.backend)
    (temp : after.files.file.temp = none ∨ after.files.file.temp = s.files.file.temp)
    (implies : ∀ stored, property stored → weaker stored) : Pending after weaker := by
  rcases temp with gone | same
  · exact pending_of_none gone
  · intro data held valid
    rw [backendRecoveryMaxRecords_congr backend] at valid ⊢
    obtain ⟨log, whole, fits, all⟩ := pending data (same.symm.trans held) valid
    exact ⟨log, whole, fits, fun stored member => implies stored (all stored member)⟩

theorem Pending.replaced (pending : Pending s property) {messages : List StoredMessage} {nextId : UInt32} {ok : Bool}
    {file : AtomicFile} (replaced : Replaced s messages nextId ok file) (faults : List Fault)
    (normal : ∀ msg ∈ messages, storedMessageNormalize msg = msg) (fits : messages.length ≤ backendRecoveryMaxRecords s)
    (all : ∀ stored ∈ messages, property stored) : Pending ((s.setFile file).withFaults faults) property := by
  intro data held valid
  rcases replaced.temp normal fits held valid with old | ⟨log, same, -, whole, -⟩
  · exact pending data old valid
  · exact ⟨log, whole, same ▸ fits, same ▸ all⟩

end Pending

/-- The shapes of a store on such a run, with the records that are in its file, published or not.
    Whatever a stale temp holds descends from these records, so that promoting it takes nothing back. -/
inductive Faithful (s : Store) : List StoredMessage → Prop
  | missing (live : s.live = none) (unindexed : s.identityIndexValid = false) (pending : Pending s fun _ => False) :
      Faithful s []
  | torn (image : Image) (left : Left s image) (required : s.appendRecoveryRequired = true)
      (few : s.records.length ≤ backendMaxRecords s)
      (pending : Pending s (fun stored => ∃ old ∈ image.messages, Evolves old stored)) : Faithful s image.messages
  | exact (log : Log) (holds : Holds s log) (reconciled : s.appendRecoveryRequired = false)
      (bound : log.messages.length ≤ backendMaxRecords s) (indexed : s.identityIndexValid = true → Indexed s log)
      (pending : Pending s (fun stored => ∃ old ∈ log.messages, Evolves old stored)) : Faithful s log.messages

structure Tracked (s : Store) (durable : List StoredMessage) : Prop where
  faithful : Faithful s durable
  queue : s.retryQueue = []
  registered : s.backend ≠ none → s.files.file.temp = none

theorem initial_tracked (backend : Option MessageStoreBackend) : Tracked (Store.initial backend) [] :=
  ⟨.missing rfl rfl (pending_of_none rfl), rfl, fun _ => rfl⟩

section Shape

variable {s after : Store} {durable : List StoredMessage}

/-- A file determines the records in it. -/
theorem Left.fileRecords {image : Image} (left : Left s image) : s.fileRecords = image.messages := by
  have payload := left.readPayload
  rw [← length_rawRecords_image, length_rawRecords, readPayload_raw left.live] at payload
  rw [Store.fileRecords, left.live, Option.map_some, Option.getD_some, Option.some.inj payload, filterMap_written,
    List.map_congr_left image.normal, List.map_id']

theorem Left.unique {image other : Image} (left : Left s image) (again : Left s other) :
    other.messages = image.messages := again.fileRecords.symm.trans left.fileRecords

theorem Faithful.fileRecords (faithful : Faithful s durable) : s.fileRecords = durable := by
  cases faithful with
  | missing live =>
    rw [Store.fileRecords, live]
    rfl
  | torn image left => exact left.fileRecords
  | exact log holds => exact holds.left.fileRecords

theorem Faithful.left (faithful : Faithful s durable) (live : s.live ≠ none) :
    ∃ image, Left s image ∧ image.messages = durable ∧
      Pending s (fun stored => ∃ old ∈ image.messages, Evolves old stored) := by
  cases faithful with
  | missing missing => exact absurd missing live
  | torn image left required few pending => exact ⟨image, left, rfl, pending⟩
  | exact log holds reconciled bound indexed pending => exact ⟨.ofLog log, holds.left, rfl, pending⟩

theorem Faithful.few (faithful : Faithful s durable) : s.records.length ≤ backendMaxRecords s := by
  cases faithful with
  | missing live =>
    rw [records_missing live]
    exact Nat.zero_le _
  | torn image left required few => exact few
  | exact log holds reconciled bound =>
    rw [holds.reads.records_eq]
    exact bound

theorem Faithful.records_sub (faithful : Faithful s durable) : ∀ stored ∈ s.records, stored ∈ durable := by
  cases faithful with
  | missing live =>
    rw [records_missing live]
    simp
  | torn image left => exact left.records_sub
  | exact log holds => exact holds.left.records_sub

theorem Faithful.unique (faithful : Faithful s durable) : (durable.map (·.storeId)).Nodup := by
  cases faithful with
  | missing => exact .nil
  | torn image => exact image.unique
  | exact log => exact log.unique

theorem Faithful.appendable (faithful : Faithful s durable) : Appendable s := by
  cases faithful with
  | missing live unindexed => exact .missing live unindexed
  | torn image left required => exact .torn image left required
  | exact log holds reconciled bound indexed => exact .exact log holds reconciled bound indexed

theorem Ready.messages_eq {log : Log} (ready : Ready s log after) (faithful : Faithful s durable) :
    log.messages = durable := by
  cases ready.origin with
  | created live empty =>
    cases faithful with
    | missing => rw [empty]; rfl
    | torn image left => rw [left.live] at live; cases live
    | exact other holds => rw [holds.live] at live; cases live
  | exact reconciled live =>
    cases faithful with
    | missing missing => rw [live] at missing; cases missing
    | torn image left required => rw [reconciled] at required; cases required
    | exact other holds =>
      have bound := ready.bound
      rw [ready.frames.maxRecords] at bound
      have recovery := backendRecoveryMaxRecords_eq s
      rw [holds.unique ⟨live, by omega⟩]
  | repaired required image left messages =>
    cases faithful with
    | missing missing => rw [left.live] at missing; cases missing
    | torn other again => rw [messages]; exact again.unique left
    | exact other holds reconciled => rw [reconciled] at required; cases required

end Shape

section Append

variable {s after : Store} {durable : List StoredMessage} {log pushed : Log} {msg : StoredMessage}
  {result : Option UInt32}

theorem Ready.pending (ready : Ready s log after) (tracked : Tracked s durable) :
    Pending after (fun stored => ∃ old ∈ log.messages, Evolves old stored) := by
  have messages := ready.messages_eq tracked.faithful
  rcases ready.temp with (gone | ⟨registered, same⟩) | ⟨live, same⟩
  · exact pending_of_none gone
  · exact pending_of_none (same.trans (tracked.registered registered))
  · obtain ⟨image, left, durable, pending⟩ := tracked.faithful.left live
    rw [messages, ← durable]
    exact pending.mono ready.frames.backend (Or.inr same) (fun _ => id)

theorem Pending.grow {before : Store}
    (pending : Pending before (fun stored => ∃ old ∈ log.messages, Evolves old stored))
    (backend : after.backend = before.backend) (temp : after.files.file.temp = before.files.file.temp)
    {messages : List StoredMessage} (sub : ∀ old ∈ log.messages, old ∈ messages) :
    Pending after (fun stored => ∃ old ∈ messages, Evolves old stored) :=
  pending.mono backend (Or.inr temp) (fun _ ⟨old, member, evolves⟩ => ⟨old, sub old member, evolves⟩)

theorem Compacted.pending {before : Store} {maxRecords : Nat} (compaction : Compacted before log maxRecords true after)
    (registered : before.backend ≠ none → before.files.file.temp = none) (property : StoredMessage → Prop) :
    Pending after property := by
  cases compaction with
  | done temp faults rest cleared =>
    apply pending_of_none
    rcases cleared with gone | ⟨chosen, same⟩
    · exact gone
    · exact same.trans (registered chosen)

theorem Compacted.faithful {before : Store} (tracked : Tracked s durable) (ready : Ready s log before)
    (messages : pushed.messages = log.messages ++ [(storedMessageNormalize msg).withId log.nextId])
    (full : log.messages.length = backendMaxRecords before) {faults : List Fault} {capacity : Nat}
    (compaction : Compacted (((before.setLive pushed.encode).withFaults faults).requireRecovery false) pushed
      (backendCompactToRecords before) true after)
    (enough : backendMaxRecords before ≤ capacity) :
    ∃ now, Faithful (after.withIndex ((pushed.compacted (backendCompactToRecords before)).messages.map indexEntry)
      capacity) now ∧ ∀ stored ∈ now, stored ∈ pushed.messages := by
  have length := length_push messages
  have recovery := backendRecoveryMaxRecords_eq before
  have compacts := backendCompactToRecords_le before
  have sub := compactedRecords_sublist (backendCompactToRecords before) pushed.messages
  have size : (pushed.compacted (backendCompactToRecords before)).messages.length = backendCompactToRecords before :=
    length_compacted (by omega)
  have settled : before.backend ≠ none → before.files.file.temp = none := by
    intro registered
    rw [ready.frames.backend] at registered
    exact ready.tempEither.elim id (fun same => same.trans (tracked.registered registered))
  have clear := compaction.pending settled (fun stored =>
    ∃ old ∈ (pushed.compacted (backendCompactToRecords before)).messages, Evolves old stored)
  cases compaction with
  | done temp others left cleared =>
    refine ⟨_, .exact (pushed.compacted (backendCompactToRecords before))
      ⟨rfl, show _ ≤ backendRecoveryMaxRecords before by omega⟩ rfl (show _ ≤ backendMaxRecords before by omega)
      (fun _ => ⟨rfl, rfl, enough⟩) clear, sub.subset⟩

/-- A failing compaction leaves the record published, so that the readers see it, or it loses the file. -/
theorem Compacted.changes {before : Store} (tracked : Tracked s durable) (ready : Ready s log before)
    (messages : pushed.messages = log.messages ++ [(storedMessageNormalize msg).withId log.nextId])
    (full : log.messages.length = backendMaxRecords before) {faults : List Fault}
    (compaction : Compacted (((before.setLive pushed.encode).withFaults faults).requireRecovery false) pushed
      (backendCompactToRecords before) false after) : ¬ Unchanged s after := by
  intro unchanged
  have length := length_push messages
  have recovery := backendRecoveryMaxRecords_eq before
  have few := tracked.faithful.few
  rw [← ready.frames.maxRecords] at few
  cases compaction with
  | failed file others left broken replaced =>
    cases replaced with
    | kept temp stale =>
      have holds : Holds ((((before.setLive pushed.encode).withFaults faults).requireRecovery false).setFile
          ⟨some pushed.encode, temp⟩ |>.withFaults others) pushed :=
        ⟨rfl, show _ ≤ backendRecoveryMaxRecords before by omega⟩
      have records : pushed.messages = s.records := holds.reads.records_eq.symm.trans unchanged.records
      rw [← records] at few
      omega
    | pending other same next fits default fault =>
      have live : s.live = none := by
        by_contra held
        exact unchanged.file held rfl
      have positive := backendMaxRecords_pos before
      cases tracked.faithful with
      | missing => rw [ready.messages_eq tracked.faithful] at full; simp at full; omega
      | torn image left => rw [left.live] at live; cases live
      | exact other holds => rw [holds.live] at live; cases live

theorem Appended.faithful {before : Store} (tracked : Tracked s durable) (ready : Ready s log before)
    (messages : pushed.messages = log.messages ++ [(storedMessageNormalize msg).withId log.nextId])
    (outcome : Appended before log pushed ((storedMessageNormalize msg).withId log.nextId) result after)
    (unchanged : result = none → Unchanged s after) :
    ∃ now, Faithful after now ∧ ∀ stored ∈ now, stored ∈ pushed.messages := by
  have length := length_push messages
  have recovery := backendRecoveryMaxRecords_eq before
  have limit := backendMaxRecords_lt before
  have bound := ready.bound
  have pending := ready.pending tracked
  have grows : ∀ old ∈ log.messages, old ∈ pushed.messages := by
    rw [messages]
    exact fun old member => List.mem_append_left _ member
  have few := tracked.faithful.few
  rw [← ready.frames.maxRecords] at few
  cases outcome with
  | tornRecord written faults rest script =>
    obtain ⟨image, encode, -, -, either⟩ := exists_image_tornRecord messages written
    have sub : ∀ stored ∈ image.messages, stored ∈ pushed.messages := by
      rcases either with same | same <;> rw [same]
      · exact grows
      · exact fun _ => id
    have holds : ∀ old ∈ log.messages, old ∈ image.messages := by
      rcases either with same | same <;> rw [same]
      · exact fun _ => id
      · exact grows
    refine ⟨image.messages, .torn image ⟨congrArg some encode.symm, show _ ≤ backendRecoveryMaxRecords before from ?_⟩
      rfl ?_ (pending.grow rfl rfl holds), sub⟩
    · rcases either with same | same <;> rw [same] <;> omega
    · rw [(unchanged rfl).records]
      exact few
  | tornHeader written faults rest script =>
    obtain ⟨image, encode, whole⟩ := exists_image_tornHeader messages (by omega) written
    refine ⟨image.messages, .torn image ⟨congrArg some encode.symm, show _ ≤ backendRecoveryMaxRecords before from ?_⟩
      rfl ?_ (pending.grow rfl rfl (whole ▸ grows)), by rw [whole]; exact fun _ => id⟩
    · rw [whole]
      omega
    · rw [(unchanged rfl).records]
      exact few
  | stored faults rest room =>
    refine ⟨pushed.messages, .exact pushed ⟨rfl, show _ ≤ backendRecoveryMaxRecords before by omega⟩ rfl
      (show _ ≤ backendMaxRecords before by omega) (fun _ => ⟨rfl, rfl, ready.indexed.capacity⟩)
      (pending.grow rfl rfl grows), fun _ => id⟩
  | compacted published compactedStore capacity full faults rest state compaction enough =>
    subst state
    exact compaction.faithful tracked ready messages full enough
  | uncompacted published uncompactedStore full faults rest state compaction =>
    subst state
    exact absurd (unchanged rfl) (compaction.changes tracked ready messages full)

theorem Replaced.registered {messages : List StoredMessage} {nextId : UInt32} {ok : Bool} {file : AtomicFile}
    (replaced : Replaced s messages nextId ok file) (registered : s.backend ≠ none)
    (settled : s.files.file.temp = none) : file.temp = none := by
  cases replaced with
  | done log temp same next fits cleared => exact cleared.settled settled
  | kept temp left =>
    rcases left with gone | same | ⟨default, -⟩
    · exact gone
    · exact same.trans settled
    · exact absurd default registered
  | pending log same next fits default => exact absurd default registered

theorem Compacted.registered {maxRecords : Nat} {ok : Bool} (compaction : Compacted s log maxRecords ok after)
    (registered : s.backend ≠ none) (settled : s.files.file.temp = none) : after.files.file.temp = none := by
  cases compaction with
  | done temp faults rest cleared => exact cleared.settled settled
  | failed file faults rest broken replaced => exact replaced.registered registered settled

theorem Attempted.registered {norm : StoredMessage} (attempt : Attempted s norm result after)
    (registered : s.backend ≠ none) (settled : s.files.file.temp = none) : after.files.file.temp = none := by
  cases attempt with
  | unrepaired image left required after repair =>
    cases repair with
    | done _ _ _ _ rewritten => rcases rewritten with impossible | impossible <;> cases impossible
    | failed file faults rest broken replaced => exact replaced.registered registered settled
  | overfull image left required crowded temp faults rest cleared =>
    exact cleared.elim id (fun same => same.trans settled)
  | stranded => exact settled
  | uncreated missing file faults rest broken replaced => exact replaced.registered registered settled
  | found log after ready => exact ready.tempEither.elim id (fun same => same.trans settled)
  | appended log pushed before ready absent messages next result after outcome =>
    have gone : before.files.file.temp = none := ready.tempEither.elim id (fun same => same.trans settled)
    have chosen : before.backend ≠ none := by rw [ready.frames.backend]; exact registered
    cases outcome with
    | tornRecord => exact gone
    | tornHeader => exact gone
    | stored => exact gone
    | compacted published compactedStore capacity full faults rest state compaction =>
      subst state
      exact compaction.registered chosen gone
    | uncompacted published uncompactedStore full faults rest state compaction =>
      subst state
      exact compaction.registered chosen gone

theorem Faithful.kept (faithful : Faithful s durable) {messages : List StoredMessage} {nextId : UInt32}
    {file : AtomicFile} {faults : List Fault} (replaced : Replaced s messages nextId false file)
    (unchanged : Unchanged s ((s.setFile file).withFaults faults))
    (normal : ∀ msg ∈ messages, storedMessageNormalize msg = msg) (fits : messages.length ≤ backendRecoveryMaxRecords s)
    (live : s.live ≠ none) (evolves : ∀ stored ∈ messages, ∃ old ∈ durable, Evolves old stored) :
    Faithful ((s.setFile file).withFaults faults) durable := by
  have same : ((s.setFile file).withFaults faults).live = s.live := by
    cases replaced with
    | kept temp stale => rfl
    | pending => exact absurd rfl (unchanged.file live)
  cases faithful with
  | missing missing => exact absurd missing live
  | torn image left required few pending =>
    refine .torn image (left.congr same rfl) required ?_ (pending.replaced replaced faults normal fits evolves)
    rw [unchanged.records]
    exact few
  | exact log holds reconciled bound indexed pending =>
    refine .exact log ⟨same.trans holds.live, holds.fits⟩ reconciled bound (fun valid => ?_)
      (pending.replaced replaced faults normal fits evolves)
    have tracked := indexed valid
    exact ⟨tracked.valid, tracked.entries, tracked.capacity⟩

theorem Attempted.faithful (tracked : Tracked s durable)
    (attempt : Attempted s (storedMessageNormalize msg) result after)
    (unchanged : result = none → Unchanged s after) :
    ∃ now, Faithful after now ∧ Follows (.append msg) durable now := by
  cases attempt with
  | unrepaired image left required after repair =>
    have live : s.live ≠ none := by rw [left.live]; simp
    obtain ⟨other, again, same, -⟩ := tracked.faithful.left live
    cases repair with
    | done _ _ _ _ rewritten => rcases rewritten with impossible | impossible <;> cases impossible
    | failed file faults rest broken replaced =>
      refine ⟨durable, tracked.faithful.kept replaced (unchanged rfl) (image.repaired left.short).normal left.fits live
        (fun stored member => ⟨stored, ?_, .refl stored⟩), .refl _ _⟩
      rw [← same, left.unique again]
      exact member
  | overfull image left required crowded temp faults rest cleared =>
    have holds : Holds (((s.setFile ⟨some (image.repaired left.short).encode, temp⟩).withFaults
        faults).requireRecovery false).withoutIndex (image.repaired left.short) := ⟨rfl, left.fits⟩
    have records : image.messages = s.records := holds.reads.records_eq.symm.trans (unchanged rfl).records
    have few := tracked.faithful.few
    rw [← records] at few
    omega
  | stranded missing required =>
    cases tracked.faithful with
    | missing live unindexed pending =>
      exact ⟨[], .missing live rfl pending, .refl _ _⟩
    | torn image left => rw [left.live] at missing; cases missing
    | exact log holds => rw [holds.live] at missing; cases missing
  | uncreated missing file faults rest broken replaced =>
    cases tracked.faithful with
    | missing live unindexed pending =>
      have gone : ((s.setFile file).withFaults faults).live = none := by
        cases replaced with
        | kept temp stale => exact live
        | pending => rfl
      have pending := pending.replaced replaced faults (by simp) (Nat.zero_le _) (by simp)
      exact ⟨[], .missing gone unindexed pending, .refl _ _⟩
    | torn image left => rw [left.live] at missing; cases missing
    | exact log holds => rw [holds.live] at missing; cases missing
  | found log after ready id found =>
    rw [← ready.messages_eq tracked.faithful]
    exact ⟨log.messages, .exact log ready.holds ready.reconciled ready.bound (fun _ => ready.indexed)
      (ready.pending tracked), .refl _ _⟩
  | appended log pushed before ready absent messages next result after outcome =>
    obtain ⟨now, faithful, sub⟩ := outcome.faithful tracked ready messages unchanged
    refine ⟨now, faithful, fun stored member => ?_⟩
    rw [← ready.messages_eq tracked.faithful]
    have inside := sub stored member
    rw [messages] at inside
    rcases List.mem_append.mp inside with old | new
    · exact Or.inl ⟨stored, old, .refl stored⟩
    · obtain rfl := List.mem_singleton.mp new
      exact Or.inr ⟨log.nextFresh, msg, rfl, rfl⟩

end Append

section Step

variable {s : Store} {durable : List StoredMessage}

theorem Unchanged.withFaults {after : Store} (unchanged : Unchanged s after) (faults : List Fault) :
    Unchanged (s.withFaults faults) after := ⟨unchanged.records, unchanged.file⟩

theorem messageStoreAppend_once (queue : s.retryQueue = []) {msg : StoredMessage} (stays : ¬ FailsOver s msg)
    (attempt : Attempted s (storedMessageNormalize msg) (appendOnce s msg).1 (appendOnce s msg).2) :
    messageStoreAppend s msg = appendOnce s msg := by
  have idle : retryQueuedOnDefaultBackend s = s := by
    rw [retryQueuedOnDefaultBackend, queue]
    split <;> rfl
  have frames := attempt.frames
  have failed : (appendOnce s msg).1 = none → s.backend = none := by
    intro none
    by_contra registered
    exact stays ⟨registered, none⟩
  rw [messageStoreAppend, idle]
  generalize appendOnce s msg = outcome at frames failed ⊢
  obtain ⟨result, after⟩ := outcome
  cases result with
  | some id => rfl
  | none =>
    dsimp only at frames ⊢
    rw [frames.backend, failed rfl]
    rfl

theorem messageStoreAppend_tracked (tracked : Tracked s durable) {msg : StoredMessage}
    (stays : ¬ FailsOver s msg)
    (unchanged : (messageStoreAppend s msg).1 = none → Unchanged s (messageStoreAppend s msg).2) :
    ∃ now, Tracked (messageStoreAppend s msg).2 now ∧ Follows (.append msg) durable now := by
  have attempt := appendOnce_attempted tracked.faithful.appendable msg
  rw [messageStoreAppend_once tracked.queue stays attempt] at unchanged ⊢
  obtain ⟨now, faithful, follows⟩ := attempt.faithful tracked unchanged
  have frames := attempt.frames
  refine ⟨now, ⟨faithful, frames.queue tracked.queue, ?_⟩, follows⟩
  rw [frames.backend]
  exact fun registered => attempt.registered registered (tracked.registered registered)

theorem Faithful.reads (faithful : Faithful s durable) {count : Nat} {nextId : UInt32}
    (header : readHeader s = some (count, nextId)) :
    s.live ≠ none ∧ Reads s s.records nextId ∧ s.records.length = count ∧
      (∀ stored ∈ s.records, storedMessageNormalize stored = stored) := by
  have live : s.live ≠ none := by
    intro missing
    rw [readHeader_missing missing] at header
    cases header
  obtain ⟨image, left, -⟩ := faithful.left live
  rcases left.visible with ⟨-, none⟩ | ⟨-, reads⟩
  · rw [none] at header
    cases header
  · obtain ⟨same, next⟩ := Prod.mk.inj (Option.some.inj (reads.header.symm.trans header))
    rw [reads.records_eq]
    exact ⟨live, next ▸ reads, same, fun stored member => image.normal stored (List.mem_of_mem_take member)⟩

theorem Faithful.marked (faithful : Faithful s durable) {selects : StoredMessage → Bool} {log : Log}
    (marked : List.Forall₂ (Marked selects) s.records log.messages) {temp : Option (List UInt8)} (faults : List Fault)
    (cleared : Cleared s temp) (registered : s.backend ≠ none → s.files.file.temp = none) (live : s.live ≠ none) :
    Faithful ((s.setFile ⟨some log.encode, temp⟩).withFaults faults) log.messages := by
  have length := marked.length_eq
  have few := faithful.few
  have recovery := backendRecoveryMaxRecords_eq s
  have holds : Holds ((s.setFile ⟨some log.encode, temp⟩).withFaults faults) log :=
    ⟨rfl, show _ ≤ backendRecoveryMaxRecords s by omega⟩
  have gone : temp = none := cleared.elim id (fun kept => kept.2.trans (registered kept.1))
  cases required : s.appendRecoveryRequired with
  | true =>
    refine .torn (.ofLog log) holds.left required ?_ (pending_of_none gone)
    rw [holds.reads.records_eq, ← length]
    exact few
  | false =>
    refine .exact log holds required (by rw [← length]; exact few) (fun valid => ?_) (pending_of_none gone)
    cases faithful with
    | missing missing => exact absurd missing live
    | torn image left needed => rw [needed] at required; cases required
    | exact other held reconciled bound indexed =>
      have tracked := indexed valid
      refine ⟨valid, ?_, tracked.capacity⟩
      rw [Marked.map_eq indexEntry_evolves marked, held.reads.records_eq]
      exact tracked.entries

theorem messageStoreMark_tracked (tracked : Tracked s durable) (mark : Mark)
    (unchanged : (messageStoreMark s mark).1 = false → Unchanged s (messageStoreMark s mark).2) :
    (∃ now, Tracked (messageStoreMark s mark).2 now ∧ Follows (.mark mark) durable now) ∧
      List.Forall₂ (Marked mark.selects) s.records (messageStoreMark s mark).2.records := by
  rcases messageStoreMark_cases s mark with same | same | ⟨count, nextId, updated, header, marked, replaced⟩
  · rw [same]
    exact ⟨⟨durable, tracked, .refl _ _⟩, marked_self _ _⟩
  · rw [same]
    exact ⟨⟨durable, tracked, .refl _ _⟩, marked_self _ _⟩
  · obtain ⟨live, reads, length, normal⟩ := tracked.faithful.reads header
    have visible : messageStoreLoadAll s count = s.records := by
      rw [← length]
      exact reads.loadAll
    rw [visible] at marked
    have few := tracked.faithful.few
    have recovery := backendRecoveryMaxRecords_eq s
    have normalUpdated := Marked.normal marked normal
    have lengthUpdated := marked.length_eq
    obtain ⟨file, faults, after, rest, outcome⟩ := replaceFile_replaced s nextId normalUpdated
    rw [replaced] at unchanged ⊢
    rw [after] at unchanged ⊢
    generalize (replaceFile s updated nextId).1 = ok at outcome unchanged
    have registered := tracked.registered
    cases ok with
    | false =>
      have evolves : ∀ stored ∈ updated, ∃ old ∈ durable, Evolves old stored := by
        intro stored member
        obtain ⟨old, inside, evolves⟩ := Marked.exists_old marked stored member
        exact ⟨old, tracked.faithful.records_sub old inside, evolves⟩
      refine ⟨⟨durable, ⟨tracked.faithful.kept outcome (unchanged rfl) normalUpdated (by omega) live evolves,
        tracked.queue, fun chosen => outcome.registered chosen (registered chosen)⟩, .refl _ _⟩, ?_⟩
      rw [(unchanged rfl).records]
      exact marked_self _ _
    | true =>
      cases outcome with
      | done log temp same next fits cleared =>
        subst same
        have holds : Holds ((s.setFile ⟨some log.encode, temp⟩).withFaults faults) log :=
          ⟨rfl, show _ ≤ backendRecoveryMaxRecords s by omega⟩
        refine ⟨⟨log.messages, ⟨tracked.faithful.marked marked faults cleared registered live, tracked.queue,
          fun chosen => cleared.settled (registered chosen)⟩, fun new inside => ?_⟩, ?_⟩
        · obtain ⟨old, before, evolves⟩ := Marked.exists_old marked new inside
          exact Or.inl ⟨old, tracked.faithful.records_sub old before, evolves⟩
        · rw [holds.reads.records_eq]
          exact marked

/-- The file that the boot goes on with: none, or one whose records take nothing back. -/
theorem Recovered.source {file : AtomicFile} (tracked : Tracked s durable) (recovered : Recovered s file) :
    file.temp = none ∧ (file.live = none ∨ ∃ image : Image, file.live = some image.encode ∧
      image.messages.length ≤ backendRecoveryMaxRecords s ∧
      ∀ new ∈ image.messages, ∃ old ∈ durable, Evolves old new) := by
  have source : s.live = none ∨ ∃ image : Image, s.live = some image.encode ∧
      image.messages.length ≤ backendRecoveryMaxRecords s ∧
      ∀ new ∈ image.messages, ∃ old ∈ durable, Evolves old new := by
    by_cases missing : s.live = none
    · exact Or.inl missing
    · obtain ⟨image, left, rfl, -⟩ := tracked.faithful.left missing
      exact Or.inr ⟨image, left.live, left.fits, fun new inside => ⟨new, inside, .refl new⟩⟩
  cases recovered with
  | settled kept => exact ⟨kept.elim tracked.registered id, source⟩
  | discarded data default pending invalid => exact ⟨rfl, source⟩
  | promoted data default pending valid =>
    refine ⟨rfl, Or.inr ?_⟩
    by_cases missing : s.live = none
    · cases tracked.faithful with
      | missing live unindexed promoted =>
        obtain ⟨log, rfl, fits, none⟩ := promoted data pending valid
        exact ⟨.ofLog log, by rw [Image.encode_ofLog], fits, fun new inside => (none new inside).elim⟩
      | torn image left => rw [left.live] at missing; cases missing
      | exact log holds => rw [holds.live] at missing; cases missing
    · obtain ⟨image, left, rfl, promoted⟩ := tracked.faithful.left missing
      obtain ⟨log, rfl, fits, evolved⟩ := promoted data pending valid
      exact ⟨.ofLog log, by rw [Image.encode_ofLog], fits, evolved⟩

theorem Rests.tracked {after : Store} {log : Log} (rests : Rests after log) (queue : after.retryQueue = []) :
    Tracked after log.messages :=
  ⟨.exact log rests.holds rests.reconciled rests.bound (fun _ => rests.indexed) (pending_of_none rests.settled),
    queue, fun _ => rests.settled⟩

theorem messageStoreBegin_tracked (tracked : Tracked s durable) (working : s.faults = []) :
    ∃ now, Tracked (messageStoreBegin s.powerOn).2 now ∧ Follows .reboot durable now := by
  have sure : s.powerOn.nextFault.recoverStep = none := by
    rw [nextFault_of_working (s := s.powerOn) working]
    rfl
  obtain ⟨file, recovered, begins⟩ := messageStoreBegin_recovered sure
  have before : Recovered s file := by
    cases recovered with
    | settled kept => exact .settled kept
    | promoted data default pending valid => exact .promoted data default pending valid
    | discarded data default pending invalid => exact .discarded data default pending invalid
  obtain ⟨settled, source⟩ := before.source tracked
  rw [begins]
  have idle : ((s.powerOn.report .clean).afterCall.setFile file).faults = [] := by
    show s.faults.tail = []
    rw [working]
    rfl
  rcases source with missing | ⟨image, live, fits, descends⟩
  · obtain ⟨ok, other, faults, rest, replaced, works, outcome⟩ :=
      beginMigrate_missing (s := (s.powerOn.report .clean).afterCall.setFile file) missing
    obtain rfl := works idle
    rcases outcome with ⟨impossible, -⟩ | ⟨capacity, -, enough, done⟩
    · cases impossible
    · rw [done]
      cases replaced with
      | done log temp same next _ cleared =>
        obtain rfl : log = Log.empty := Log.ext same next
        have rests : Rests (((((s.powerOn.report .clean).afterCall.setFile file).setFile
            ⟨some Log.empty.encode, temp⟩).withFaults faults |>.withIndex [] capacity).requireRecovery false)
            Log.empty :=
          ⟨List.suffix_nil.mp (idle ▸ rest), cleared.settled settled, rfl, ⟨rfl, Nat.zero_le _⟩, ⟨rfl, rfl, enough⟩,
            Nat.zero_le _⟩
        exact ⟨[], rests.tracked rfl, by simp [Follows]⟩
  · have left : Left ((s.powerOn.report .clean).afterCall.setFile file) image := ⟨live, fits⟩
    obtain ⟨-, final, boots⟩ := begun_rests (beginMigrate_left left) idle settled left.fits
    have sub : ∀ stored ∈ final.messages, stored ∈ image.messages := by
      rw [boots.messages]
      exact fun stored member => (recordsAfter_sublist _ _).subset member
    exact ⟨final.messages, boots.rests.tracked boots.queue, fun new inside => Or.inl (descends new (sub new inside))⟩

theorem Tracked.withFaults (tracked : Tracked s durable) (faults : List Fault) :
    Tracked (s.withFaults faults) durable := by
  refine ⟨?_, tracked.queue, tracked.registered⟩
  cases tracked.faithful with
  | missing live unindexed pending => exact .missing live unindexed pending
  | torn image left required few pending => exact .torn image ⟨left.live, left.fits⟩ required few pending
  | exact log holds reconciled bound indexed pending =>
    refine .exact log ⟨holds.live, holds.fits⟩ reconciled bound (fun valid => ?_) pending
    have tracked := indexed valid
    exact ⟨tracked.valid, tracked.entries, tracked.capacity⟩

theorem exec_tracked {input : Op × List Fault} (tracked : Tracked s durable) (harmless : Harmless s input) :
    ∃ now, Tracked (execFaulty s input) now ∧ Follows input.1 durable now := by
  obtain ⟨op, faults⟩ := input
  have start := tracked.withFaults faults
  cases op with
  | append msg =>
    obtain ⟨stays, unchanged⟩ := harmless
    refine messageStoreAppend_tracked start stays (fun failed => (unchanged ?_).withFaults faults)
    show (messageStoreAppend (s.withFaults faults) msg).1.isSome = false
    rw [failed]
    rfl
  | mark mark => exact (messageStoreMark_tracked start mark (fun failed => (harmless failed).withFaults faults)).1
  | clear => exact harmless.elim
  | reboot => exact messageStoreBegin_tracked start harmless

end Step

section Run

variable {backend : Option MessageStoreBackend} {inputs before middle : List (Op × List Fault)}

theorem run_tracked (harmless : Along execFaulty Harmless (Store.initial backend) inputs) :
    ∃ durable, Tracked (run execFaulty (Store.initial backend) inputs) durable := by
  apply run_invariant_along (fun s => ∃ durable, Tracked s durable) ⟨[], initial_tracked backend⟩ _ harmless
  rintro s input ⟨durable, tracked⟩ meets
  obtain ⟨now, kept, -⟩ := exec_tracked tracked meets
  exact ⟨now, kept⟩

theorem exec_follows {input : Op × List Fault}
    (harmless : Along execFaulty Harmless (Store.initial backend) (before ++ [input])) :
    Follows input.1 (run execFaulty (Store.initial backend) before).fileRecords
      (run execFaulty (Store.initial backend) (before ++ [input])).fileRecords := by
  obtain ⟨early, now, -⟩ := along_append.mp harmless
  obtain ⟨durable, tracked⟩ := run_tracked early
  obtain ⟨after, kept, follows⟩ := exec_tracked tracked now
  rw [run_concat, tracked.faithful.fileRecords, kept.faithful.fileRecords]
  exact follows

theorem run_follows (harmless : Along execFaulty Harmless (Store.initial backend) (before ++ middle)) :
    ∀ new ∈ (run execFaulty (Store.initial backend) (before ++ middle)).fileRecords,
      (∃ old ∈ (run execFaulty (Store.initial backend) before).fileRecords, Evolves old new) ∨
        Stems (appendedMessages middle) new := by
  induction middle using List.reverseRecOn with
  | nil =>
    intro new inside
    rw [List.append_nil] at inside
    exact Or.inl ⟨new, inside, .refl new⟩
  | append_singleton rest input ih =>
    intro new inside
    rw [← List.append_assoc] at harmless inside
    rw [appendedMessages, List.filterMap_append]
    rcases exec_follows harmless new inside with ⟨old, between, evolves⟩ | ⟨-, msg, appends, stored⟩
    · rcases ih (along_append.mp harmless).1 old between with ⟨first, start, moved⟩ | stems
      · exact Or.inl ⟨first, start, moved.trans evolves⟩
      · exact Or.inr ((stems.evolves evolves).mono fun _ => List.mem_append_left _)
    · refine Or.inr ⟨msg, List.mem_append_right _ ?_, stored ▸ .refl _⟩
      simp [appends]

/-- What a run keeps of the delivery states. From each step to the next a record in the file stays and
    only moves on, or it is the message just appended; so between any two states it stems from a record of
    the first or from a message appended since. The readers see records of the file, and an update touches
    nothing but the flags of what it selects. -/
structure DeliveryKept (start : Store) (inputs : List (Op × List Fault)) : Prop where
  visible : ∀ stored ∈ (run execFaulty start inputs).records, stored ∈ (run execFaulty start inputs).fileRecords
  unique : ((run execFaulty start inputs).fileRecords.map (·.storeId)).Nodup
  stems : ∀ stored ∈ (run execFaulty start inputs).fileRecords, Stems (appendedMessages inputs) stored
  both : ∀ stored ∈ (run execFaulty start inputs).fileRecords, stored.acked = true → stored.confirmationLost = true →
    ∃ msg ∈ appendedMessages inputs, msg.acked = true ∧ msg.confirmationLost = true
  step : ∀ before input rest, inputs = before ++ input :: rest →
    Follows input.1 (run execFaulty start before).fileRecords (run execFaulty start (before ++ [input])).fileRecords
  evolves : ∀ before middle rest, inputs = before ++ middle ++ rest →
    ∀ new ∈ (run execFaulty start (before ++ middle)).fileRecords,
      (∃ old ∈ (run execFaulty start before).fileRecords, Evolves old new) ∨ Stems (appendedMessages middle) new
  frame : ∀ before mark faults rest, inputs = before ++ (.mark mark, faults) :: rest →
    List.Forall₂ (Marked mark.selects) (run execFaulty start before).records
      (run execFaulty start (before ++ [(.mark mark, faults)])).records

theorem delivery_state_monotone (harmless : Along execFaulty Harmless (Store.initial backend) inputs) :
    DeliveryKept (Store.initial backend) inputs := by
  obtain ⟨durable, tracked⟩ := run_tracked harmless
  have stems : ∀ stored ∈ (run execFaulty (Store.initial backend) inputs).fileRecords,
      Stems (appendedMessages inputs) stored := by
    intro stored inside
    rcases @run_follows backend [] inputs harmless stored inside with ⟨old, first, -⟩ | stems
    · cases first
    · exact stems
  constructor
  case visible =>
    rw [tracked.faithful.fileRecords]
    exact tracked.faithful.records_sub
  case unique =>
    rw [tracked.faithful.fileRecords]
    exact tracked.faithful.unique
  case stems => exact stems
  case both =>
    intro stored member acked lost
    obtain ⟨msg, appended, evolves⟩ := stems stored member
    exact ⟨msg, appended, evolves.both acked lost⟩
  case step =>
    rintro before input rest rfl
    rw [List.append_cons] at harmless
    exact exec_follows (along_append.mp harmless).1
  case evolves =>
    rintro before middle rest rfl
    exact run_follows (along_append.mp harmless).1
  case frame =>
    rintro before mark faults rest rfl
    obtain ⟨early, now, -⟩ := along_append.mp harmless
    obtain ⟨durable, tracked⟩ := run_tracked early
    rw [run_concat]
    exact (messageStoreMark_tracked (tracked.withFaults faults) mark
      (fun failed => (now failed).withFaults faults)).2

/-- An update that fails beside its finished copy, then the boot that promotes the copy. -/
def lateUpdateInputs : List (Op × List Fault) :=
  [(.append (sampleMessage 1 true), []), (.mark .orphanedPendingLost, [.replace .removeLive]), (.reboot, [])]

theorem late_update_kept : DeliveryKept (Store.initial none) lateUpdateInputs := by
  apply delivery_state_monotone
  refine ⟨⟨fun failsOver => failsOver.1 rfl, fun failed => ?_⟩, fun _ => ⟨?_, ?_⟩, rfl, trivial⟩
  · exact absurd failed (by decide +kernel)
  · decide +kernel
  · exact fun _ => by decide +kernel

end Run

end SigurdOS.MessageStore
