import SigurdOS.MessageStore.Retrieval
import SigurdOS.MessageStore.Soundness

namespace SigurdOS.MessageStore

open Bytes SigurdOS.Hal Runs

section Ready

variable {s after : Store}

structure Serviceable (s : Store) (log : Log) : Prop where
  holds : Holds s log
  reconciled : s.appendRecoveryRequired = false
  indexed : Indexed s log
  bound : log.messages.length ≤ backendMaxRecords s

theorem Finished.serviceable {log : Log} (holds : Holds s log) (finish : Finished s log true after) :
    ∃ final, Serviceable after final := by
  cases finish with
  | within capacity bound enough =>
    exact ⟨log, ⟨holds.live, holds.fits⟩, rfl, ⟨rfl, rfl, enough⟩, bound⟩
  | compacted compactedStore capacity crowded compaction enough =>
    have compacts := backendCompactToRecords_le s
    have recovery := backendRecoveryMaxRecords_eq s
    have length : (log.compacted (backendCompactToRecords s)).messages.length = backendCompactToRecords s :=
      length_compacted crowded
    cases compaction with
    | done temp faults rest cleared =>
      exact ⟨_, ⟨rfl, show _ ≤ backendRecoveryMaxRecords s by omega⟩, rfl, ⟨rfl, rfl, enough⟩,
        show _ ≤ backendMaxRecords s by omega⟩

theorem messageStoreBegin_serviceable (sound : Sound s) (survives : ∀ fault ∈ s.faults, fault.survivable = true)
    (unindexed : s.identityIndexValid = false) (done : (messageStoreBegin s).1 = true) :
    ∃ log, Serviceable (messageStoreBegin s).2 log := by
  obtain ⟨file, recovered, begins⟩ := messageStoreBegin_recovered (recoverStep_of_survivable survives)
  have found := recovered.sound sound unindexed
  rw [begins] at done ⊢
  generalize (s.report .clean).afterCall.setFile file = start at found done ⊢
  rcases found.file with missing | ⟨image, left⟩
  · obtain ⟨ok, file, faults, rest, replaced, -, ⟨rfl, failed⟩ | ⟨capacity, rfl, enough, finished⟩⟩ :=
      beginMigrate_missing missing
    · rw [failed] at done
      cases done
    · rw [finished]
      cases replaced with
      | done log temp same next _ cleared =>
        obtain rfl : log = Log.empty := Log.ext same next
        exact ⟨.empty, ⟨rfl, Nat.zero_le _⟩, rfl, ⟨rfl, rfl, enough⟩, Nat.zero_le _⟩
  · have begun := beginMigrate_left left
    generalize beginMigrate start = outcome at begun done ⊢
    obtain ⟨ok, after⟩ := outcome
    obtain rfl : ok = true := done
    cases begun with
    | finished _ result repaired _ went repair finish =>
      obtain ⟨temp, faults, rfl, -⟩ := repair.settled went
      split at finish
      · exact finish.serviceable ⟨rfl, left.fits⟩
      · exact finish.serviceable ⟨rfl, left.fits⟩

theorem Serviceable.appendable {log : Log} (serviceable : Serviceable s log) : Appendable s :=
  .exact log serviceable.holds serviceable.reconciled serviceable.bound (fun _ => serviceable.indexed)

theorem Attempted.succeeds {norm : StoredMessage} {result : Option UInt32} (attempt : Attempted s norm result after)
    (working : s.faults = []) (few : ∀ image, Left s image → image.messages.length ≤ backendMaxRecords s)
    (fresh : s.live = none → s.appendRecoveryRequired = false) : result.isSome = true := by
  cases attempt with
  | unrepaired image left required after repair =>
    cases repair with
    | done _ _ _ _ rewritten => rcases rewritten with impossible | impossible <;> cases impossible
    | failed _ _ _ broken => exact absurd working broken
  | overfull image left required crowded => exact absurd (few image left) (by omega)
  | stranded missing required =>
    rw [fresh missing] at required
    cases required
  | uncreated _ _ _ _ broken => exact absurd working broken
  | found => rfl
  | appended log pushed before ready absent messages next result after appended =>
    have idle : before.faults = [] := List.suffix_nil.mp (working ▸ ready.frames.faults)
    cases appended with
    | tornRecord _ _ _ script => rw [idle] at script; cases script
    | tornHeader _ _ _ script => rw [idle] at script; cases script
    | stored => rfl
    | compacted => rfl
    | uncompacted published after full faults rest state compaction =>
      subst state
      cases compaction with
      | failed _ _ _ broken => exact absurd (List.suffix_nil.mp (idle ▸ rest)) broken

end Ready

section Public

variable {s : Store} {msg : StoredMessage}

def RetriesSafe (s : Store) : Nat → Prop
  | 0 => True
  | rounds + 1 =>
    match s.retryQueue with
    | [] => True
    | msg :: _ =>
      AppendSafe s msg ∧
        match appendOnce s msg with
        | (none, _) => True
        | (some _, after) => RetriesSafe (retryQueuePopFront after) rounds

/-- The condition at each record that the public append writes: the queued ones, then the new one. -/
def MessageAppendSafe (s : Store) (msg : StoredMessage) : Prop :=
  (s.backend = none → RetriesSafe s s.retryQueue.length) ∧ AppendSafe (retryQueuedOnDefaultBackend s) msg

/-- The steps of a run that the store survives. -/
def Survives (s : Store) (input : Op × List Fault) : Prop :=
  (∀ fault ∈ input.2, fault.survivable = true) ∧
    match input.1 with
    | .append msg => MessageAppendSafe (s.withFaults input.2) msg
    | _ => True

theorem Sound.queue (sound : Sound s) (queue : List StoredMessage) (dropped : UInt32) :
    Sound { s with retryQueue := queue, retryQueueDropCount := dropped } :=
  sound.of_bytes rfl rfl rfl rfl sound.temp sound.unindexed sound.indexed

theorem Sound.withFaults (sound : Sound s) (faults : List Fault) : Sound (s.withFaults faults) :=
  sound.of_bytes rfl rfl rfl rfl sound.temp sound.unindexed sound.indexed

theorem retryQueued_sound (sound : Sound s) (survives : ∀ fault ∈ s.faults, fault.survivable = true) (rounds : Nat)
    (safe : RetriesSafe s rounds) : Sound (retryQueued s rounds) ∧ (retryQueued s rounds).backend = s.backend ∧
      (retryQueued s rounds).faults <:+ s.faults := by
  induction rounds generalizing s with
  | zero => exact ⟨sound, rfl, List.suffix_refl _⟩
  | succ rounds ih =>
    unfold retryQueued
    unfold RetriesSafe at safe
    cases queue : s.retryQueue with
    | nil => exact ⟨sound, rfl, List.suffix_refl _⟩
    | cons msg rest =>
      rw [queue] at safe
      dsimp only at safe ⊢
      obtain ⟨kept, frames⟩ := appendOnce_sound sound survives safe.1
      generalize appendOnce s msg = outcome at safe kept frames ⊢
      obtain ⟨id, after⟩ := outcome
      cases id with
      | none => exact ⟨kept, frames.backend, frames.faults⟩
      | some id =>
        dsimp only at safe kept frames ⊢
        have popped : Sound (retryQueuePopFront after) := kept.queue after.retryQueue.tail after.retryQueueDropCount
        obtain ⟨final, backend, faults⟩ := ih popped
          (fun fault member => survives fault (frames.faults.subset member)) safe.2
        exact ⟨final, backend.trans frames.backend, faults.trans frames.faults⟩

theorem retryQueuedOnDefaultBackend_sound (sound : Sound s) (survives : ∀ fault ∈ s.faults, fault.survivable = true)
    (safe : s.backend = none → RetriesSafe s s.retryQueue.length) :
    Sound (retryQueuedOnDefaultBackend s) ∧ (retryQueuedOnDefaultBackend s).backend = s.backend ∧
      (retryQueuedOnDefaultBackend s).faults <:+ s.faults := by
  unfold retryQueuedOnDefaultBackend
  split
  · exact ⟨sound, rfl, List.suffix_refl _⟩
  · rename_i default
    exact retryQueued_sound sound survives _ (safe (by simpa using default))

theorem failover_sound (sound : Sound s) (registered : s.backend ≠ none) :
    Sound { messageStoreSelectBackend s none with backendDegraded := true } := by
  have unused := sound.other registered
  have differs : ¬ (s.backend.isSome = (none : Option MessageStoreBackend).isSome) := by
    intro same
    exact registered (Option.isNone_iff_eq_none.mp (by simpa using same))
  unfold messageStoreSelectBackend
  rw [if_neg differs]
  dsimp only
  rw [unused]
  exact ⟨Or.inl rfl, nofun, rfl, fun _ => ⟨rfl, rfl⟩, fun _ => nofun, fun impossible => absurd rfl impossible⟩

theorem retryQueuePush_sound (sound : Sound s) (msg : StoredMessage) : Sound (retryQueuePush s msg) := by
  unfold retryQueuePush
  split
  · exact sound.queue s.retryQueue _
  · exact sound.queue _ s.retryQueueDropCount

theorem Serviceable.appendSafe {log : Log} (serviceable : Serviceable s log) (msg : StoredMessage) :
    AppendSafe s msg := by
  have limit := backendRecoveryMaxRecords_lt s
  have fits := serviceable.holds.fits
  refine Or.inr (Or.inl ⟨log.encode, serviceable.holds.live, ?_, Or.inr (validateStore_encode log fits (by omega))⟩)
  rw [← Image.encode_ofLog, length_rawRecords_image]
  exact serviceable.bound

theorem appendFailover_sound (sound : Sound s) (survives : ∀ fault ∈ s.faults, fault.survivable = true)
    (registered : s.backend ≠ none) : Sound (appendFailover s msg).2 := by
  have selected := failover_sound sound registered
  have script : ∀ fault ∈ ({ messageStoreSelectBackend s none with backendDegraded := true } : Store).faults,
      fault.survivable = true := by
    intro fault member
    apply survives fault
    unfold messageStoreSelectBackend at member
    dsimp only at member
    split at member
    · exact member
    · exact member
  have unindexed : ({ messageStoreSelectBackend s none with backendDegraded := true } : Store).identityIndexValid =
    false := rfl
  obtain ⟨begun, frames⟩ := messageStoreBegin_sound selected script unindexed
  have serviceable := messageStoreBegin_serviceable selected script unindexed
  unfold appendFailover
  dsimp only
  generalize messageStoreBegin { messageStoreSelectBackend s none with backendDegraded := true } = outcome
    at begun frames serviceable ⊢
  obtain ⟨ok, booted⟩ := outcome
  cases ok with
  | false => exact retryQueuePush_sound begun msg
  | true =>
    dsimp only at begun frames serviceable ⊢
    obtain ⟨log, ready⟩ := serviceable rfl
    obtain ⟨kept, -⟩ := appendOnce_sound begun (fun fault member => script fault (frames.faults.subset member))
      (ready.appendSafe msg)
    generalize appendOnce booted msg = appended at kept ⊢
    obtain ⟨id, after⟩ := appended
    cases id with
    | none => exact retryQueuePush_sound kept msg
    | some id => exact kept

theorem messageStoreAppend_sound (sound : Sound s) (survives : ∀ fault ∈ s.faults, fault.survivable = true)
    (safe : MessageAppendSafe s msg) : Sound (messageStoreAppend s msg).2 := by
  obtain ⟨retried, backend, suffix⟩ := retryQueuedOnDefaultBackend_sound sound survives safe.1
  have script : ∀ fault ∈ (retryQueuedOnDefaultBackend s).faults, fault.survivable = true :=
    fun fault member => survives fault (suffix.subset member)
  obtain ⟨kept, frames⟩ := appendOnce_sound retried script safe.2
  unfold messageStoreAppend
  generalize appendOnce (retryQueuedOnDefaultBackend s) msg = outcome at kept frames ⊢
  obtain ⟨id, after⟩ := outcome
  cases id with
  | some id => exact kept
  | none =>
    dsimp only at kept frames ⊢
    split
    · exact kept
    · rename_i registered
      refine appendFailover_sound kept (fun fault member => script fault (frames.faults.subset member)) ?_
      intro default
      exact registered (by rw [default]; rfl)

end Public

section Working

variable {s after : Store} {log : Log}

theorem Begun.succeeds {ok : Bool} (begun : Begun s log ok after) (working : s.faults = []) : ok = true := by
  cases begun with
  | unrepaired _ repair =>
    cases repair with
    | done _ _ _ _ rewritten => rcases rewritten with impossible | impossible <;> cases impossible
    | failed _ _ _ broken => exact absurd working broken
  | finished _ result repaired _ went repair finish =>
    have idle : (if result = .clean then repaired else repaired.report result).faults = [] := by
      have suffix := repair.frames.faults
      rw [working] at suffix
      split
      · exact List.suffix_nil.mp suffix
      · exact List.suffix_nil.mp suffix
    cases finish with
    | within => rfl
    | compacted => rfl
    | failed _ _ compaction =>
      cases compaction with
      | failed _ _ _ broken => exact absurd idle broken

theorem messageStoreBegin_succeeds (sound : Sound s) (working : s.faults = [])
    (unindexed : s.identityIndexValid = false) :
    (messageStoreBegin s).1 = true := by
  have survives : ∀ fault ∈ s.faults, fault.survivable = true := by
    rw [working]
    simp
  obtain ⟨file, recovered, begins⟩ := messageStoreBegin_recovered (recoverStep_of_survivable survives)
  have found := recovered.sound sound unindexed
  have idle : ((s.report .clean).afterCall.setFile file).faults = [] := by
    have tail : ((s.report .clean).afterCall.setFile file).faults = s.faults.tail := rfl
    rw [tail, working]
    rfl
  rw [begins]
  generalize (s.report .clean).afterCall.setFile file = start at found idle ⊢
  rcases found.file with missing | ⟨image, left⟩
  · obtain ⟨ok, file, faults, -, -, works, ⟨rfl, -⟩ | ⟨capacity, -, -, done⟩⟩ := beginMigrate_missing missing
    · exact absurd (works idle) (by simp)
    · rw [done]
  · exact (beginMigrate_left left).succeeds idle

theorem appendOnce_succeeds {msg : StoredMessage} (sound : Sound s) (working : s.faults = [])
    (safe : AppendSafe s msg) : (appendOnce s msg).1.isSome = true := by
  have attempted (safe : s.live = none ∨ ∃ bytes, s.live = some bytes ∧ (rawRecords bytes).length ≤
      backendMaxRecords s ∧
      (s.appendRecoveryRequired = true ∨ validateStore (backendRecoveryMaxRecords s) bytes = true)) :
      (appendOnce s msg).1.isSome = true := by
    refine (appendOnce_attempted (sound.appendable safe) msg).succeeds working ?_
      (fun missing => (sound.unindexed missing).2)
    intro image left
    rcases safe with missing | ⟨bytes, live, few, -⟩
    · rw [left.live] at missing
      cases missing
    · obtain rfl : bytes = image.encode := Option.some.inj (live.symm.trans left.live)
      rw [length_rawRecords_image] at few
      exact few
  rcases safe with missing | exact | ⟨reconciled, found⟩
  · exact attempted (Or.inl missing)
  · exact attempted (Or.inr exact)
  · rw [appendOnce_found reconciled found]
    exact found

theorem messageStoreAppend_succeeds {msg : StoredMessage} (sound : Sound s) (working : s.faults = [])
    (safe : MessageAppendSafe s msg) : (messageStoreAppend s msg).1.isSome = true := by
  have survives : ∀ fault ∈ s.faults, fault.survivable = true := by
    rw [working]
    simp
  obtain ⟨retried, -, suffix⟩ := retryQueuedOnDefaultBackend_sound sound survives safe.1
  have done := appendOnce_succeeds retried (List.suffix_nil.mp (working ▸ suffix)) safe.2
  unfold messageStoreAppend
  generalize appendOnce (retryQueuedOnDefaultBackend s) msg = outcome at done ⊢
  obtain ⟨id, after⟩ := outcome
  cases id with
  | none => cases done
  | some id => rfl

end Working

section Run

theorem exec_sound {s : Store} {input : Op × List Fault} (sound : Sound s) (survives : Survives s input) :
    Sound (execFaulty s input) := by
  obtain ⟨op, script⟩ := input
  have start := sound.withFaults script
  have faults : ∀ fault ∈ (s.withFaults script).faults, fault.survivable = true := survives.1
  unfold execFaulty exec
  cases op with
  | append msg =>
    have kept := messageStoreAppend_sound start faults survives.2
    exact kept
  | mark mark => exact (messageStoreMark_sound start faults mark).1
  | clear => exact (messageStoreClear_sound start faults).1
  | reboot => exact (messageStoreBegin_sound start.powerOn faults rfl).1

theorem run_sound (backend : Option MessageStoreBackend) {inputs : List (Op × List Fault)}
    (survives : Along execFaulty Survives (Store.initial backend) inputs) :
    Sound (run execFaulty (Store.initial backend) inputs) :=
  run_invariant_along Sound (initial_sound backend) (fun _ _ sound meets => exec_sound sound meets) survives

/-- The store can be read, booted and appended to once the faults have stopped. -/
structure Readable (s : Store) : Prop where
  bound : ∀ bytes, s.live = some bytes → (parseHeader bytes).count ≤ backendRecoveryMaxRecords s
  intact : s.files.corrupt = none
  boots : ∃ after log, messageStoreBegin (s.withFaults []).powerOn = (true, after) ∧ after.files.corrupt = none ∧
    Serviceable after log ∧ ∀ msg, (messageStoreAppend after msg).1.isSome = true
  appends : ∀ msg, MessageAppendSafe (s.withFaults []) msg →
    (messageStoreAppend (s.withFaults []) msg).1.isSome = true

theorem Sound.readable {s : Store} (sound : Sound s) : Readable s where
  bound := by
    intro bytes live
    rcases sound.file with missing | ⟨image, left⟩
    · rw [live] at missing
      cases missing
    · obtain rfl : bytes = image.encode := Option.some.inj (live.symm.trans left.live)
      have fits := left.fits
      have counted := image.counted
      rw [image.parseHeader_encode left.short]
      exact counted.trans fits
  intact := sound.corrupt
  boots := by
    have start := (sound.withFaults []).powerOn
    have survives : ∀ fault ∈ (s.withFaults []).powerOn.faults, fault.survivable = true := by
      intro fault member
      cases member
    have done := messageStoreBegin_succeeds start rfl rfl
    obtain ⟨booted, frames⟩ := messageStoreBegin_sound start survives rfl
    obtain ⟨log, ready⟩ := messageStoreBegin_serviceable start survives rfl done
    generalize messageStoreBegin (s.withFaults []).powerOn = outcome at done booted frames ready ⊢
    obtain ⟨ok, after⟩ := outcome
    obtain rfl : ok = true := done
    have queue : after.retryQueue = [] := frames.queue rfl
    have idle : retryQueuedOnDefaultBackend after = after := by
      rw [retryQueuedOnDefaultBackend, queue]
      split <;> rfl
    refine ⟨after, log, rfl, booted.corrupt, ready, fun msg => ?_⟩
    apply messageStoreAppend_succeeds booted (List.suffix_nil.mp frames.faults)
    refine ⟨fun _ => ?_, ?_⟩
    · rw [queue]
      trivial
    · rw [idle]
      exact ready.appendSafe msg
  appends := fun _ safe => messageStoreAppend_succeeds (sound.withFaults []) rfl safe

/-- In a run that appends only to stores within the limit, in a file that is exact or known to need
    the repair, no failure makes the store unreadable. -/
theorem failures_keep_readable (backend : Option MessageStoreBackend) {inputs : List (Op × List Fault)}
    (survives : Along execFaulty Survives (Store.initial backend) inputs) :
    Readable (run execFaulty (Store.initial backend) inputs) :=
  (run_sound backend survives).readable

/-- A record that tears, then a header that tears, then a boot. -/
def tornInputs : List (Op × List Fault) :=
  [(.append (sampleMessage 1 false), [.none, .append 5]),
    (.append (sampleMessage 1 false), [.none, .none, .header 7]), (.reboot, [])]

def afterTornRecord : Store := execFaulty (Store.initial none) (.append (sampleMessage 1 false), [.none, .append 5])

theorem appendSafe_of_required {s : Store} {msg : StoredMessage} (required : s.appendRecoveryRequired = true)
    (few : (s.live.map rawRecords).any (·.length ≤ backendMaxRecords s) = true) : AppendSafe s msg := by
  cases live : s.live with
  | none => exact Or.inl live
  | some bytes =>
    rw [live] at few
    exact Or.inr (Or.inl ⟨bytes, live, of_decide_eq_true few, Or.inl required⟩)

theorem torn_failures_readable : Readable (run execFaulty (Store.initial none) tornInputs) := by
  apply failures_keep_readable
  refine ⟨⟨by decide, fun _ => trivial, Or.inl rfl⟩, ⟨by decide, fun _ => ?_, ?_⟩, ⟨by decide, trivial⟩, trivial⟩
  · have queue : afterTornRecord.retryQueue.length = 0 := by decide +kernel
    show RetriesSafe _ afterTornRecord.retryQueue.length
    rw [queue]
    trivial
  · exact appendSafe_of_required (by decide +kernel) (by decide +kernel)

end Run

section Overflow

variable {s : Store} {log : Log} {norm msg : StoredMessage}

theorem storeAppend_done {old data : List UInt8} (live : s.live = some old) (idle : s.nextFault = .none) :
    storeAppend s data = (true, s.afterCall.setLive (old ++ data)) := by
  rw [storeAppend, idle, live]
  rfl

theorem writeHeaderState_done {old : List UInt8} {nextId : UInt32} (live : s.live = some old) (nonzero : nextId ≠ 0)
    (idle : s.nextFault = .none) (count : Nat) :
    writeHeaderState s count nextId =
      (true, s.afterCall.setLive (overlay (encodeHeader count nextId) old headerSize)) := by
  rw [writeHeaderState, if_neg nonzero, idle, live]
  rfl

theorem replaceFile_blocked (default : s.backend = none) (fault : s.nextFault = .replace .removeTemp)
    (messages : List StoredMessage) (nextId : UInt32) : replaceFile s messages nextId = (false, s.afterCall) := by
  rw [replaceFile, default, fault]
  rfl

theorem appendNew_uncompacted (holds : Holds s log) (indexed : Indexed s log) (default : s.backend = none)
    (full : log.messages.length = backendMaxRecords s) (normal : storedMessageNormalize norm = norm)
    (script : s.faults = [.none, .none, .replace .removeTemp]) :
    ∃ pushed : Log, pushed.messages = log.messages ++ [norm.withId log.nextId] ∧
      appendNew s norm = (none, ((s.setLive pushed.encode).withFaults []).requireRecovery false) := by
  have limit := backendMaxRecords_lt s
  have recovery := backendRecoveryMaxRecords_eq s
  have compacts := backendCompactToRecords_le s
  obtain ⟨pushed, messages, next⟩ := log.exists_push normal (by omega)
  have length := length_push messages
  have nonzero : log.following ≠ 0 := next ▸ pushed.nextNonzero
  have live : (s.requireRecovery true).live = some log.encode := holds.live
  have first : (s.requireRecovery true).nextFault = .none := by
    rw [Store.nextFault, show (s.requireRecovery true).faults = _ from script]
    rfl
  refine ⟨pushed, messages, ?_⟩
  rw [appendNew, holds.readHeader]
  dsimp only
  rw [nextUnusedIdAfter_indexed indexed, if_neg nonzero, storeAppend_done live first]
  dsimp only
  have second : ((s.requireRecovery true).afterCall.setLive (log.encode ++ writeRecordRaw (norm.withId
      log.nextId))).nextFault = .none := by
    rw [Store.nextFault, show Store.faults _ = s.faults.tail from rfl, script]
    rfl
  rw [publishRecord, writeHeaderState_done rfl nonzero second, ← next, encode_push messages]
  dsimp only
  have state : ((((s.requireRecovery true).afterCall.setLive (log.encode ++ writeRecordRaw (norm.withId
      log.nextId))).afterCall.setLive pushed.encode).requireRecovery false) =
        ((s.setLive pushed.encode).withFaults [.replace .removeTemp]).requireRecovery false := by
    have rest : s.faults.tail.tail = [.replace .removeTemp] := by rw [script]; rfl
    rw [← rest]
    rfl
  rw [state]
  have held : Holds (((s.setLive pushed.encode).withFaults [.replace .removeTemp]).requireRecovery false) pushed :=
    ⟨rfl, show _ ≤ backendRecoveryMaxRecords s by omega⟩
  have crowded : log.messages.length + 1 > backendMaxRecords (((s.setLive pushed.encode).withFaults
      [.replace .removeTemp]).requireRecovery false) := show _ > backendMaxRecords s by omega
  have chosen : (((s.setLive pushed.encode).withFaults [.replace .removeTemp]).requireRecovery false).backend = none :=
    default
  have less : backendCompactToRecords (((s.setLive pushed.encode).withFaults
      [.replace .removeTemp]).requireRecovery false) < pushed.messages.length :=
    show backendCompactToRecords s < _ by omega
  rw [if_pos crowded, compactPublished,
    compactStoreToRecent_over held.reads pushed.nextNonzero (backendCompactToRecords_pos _) less,
    replaceFile_blocked chosen rfl]
  rfl

theorem appendOnce_over (holds : Holds s log) (crowded : log.messages.length = backendMaxRecords s + 1)
    (reconciled : s.appendRecoveryRequired = false) (working : s.faults = []) {stale : List StoredMessage}
    (valid : s.identityIndexValid = true) (entries : s.identityIndex = stale.map indexEntry)
    (inside : ∀ stored ∈ stale, stored ∈ log.messages) (few : stale.length ≤ log.messages.length)
    (absent : ∀ stored ∈ stale, storedMessageSameIdentity stored (storedMessageNormalize msg) = false) :
    ∃ after following rest, appendOnce s msg = (none, after) ∧ after.backend = s.backend ∧
      after.live = some (encodeHeader (backendMaxRecords s + 2) following ++ rest) := by
  have limit := backendMaxRecords_lt s
  have recovery := backendRecoveryMaxRecords_eq s
  have ready : reconcileTail s = (true, s) := by
    rw [reconcileTail, reconciled]
    rfl
  have unknown : messageExists s (storedMessageNormalize msg) = (none, s) := by
    have scan := findSome_matchIndexed holds (storedMessageNormalize msg) inside
    have nobody : stale.find? (fun stored => storedMessageSameIdentity stored (storedMessageNormalize msg)) = none := by
      rw [List.find?_eq_none]
      intro stored member
      rw [absent stored member]
      simp
    rw [messageExists, if_pos valid]
    dsimp only
    rw [entries, scan, nobody]
    rfl
  have fresh : nextUnusedIdAfter s log.nextId ≠ 0 := by
    rw [nextUnusedIdAfter, entries]
    exact (firstUnused_fresh (nextAfter_ne_zero _) (by simp) (by rw [List.length_map]; omega)).1
  generalize following : nextUnusedIdAfter s log.nextId = next at fresh
  generalize record : writeRecordRaw ((storedMessageNormalize msg).withId log.nextId) = data
  refine ⟨((s.setLive (encodeHeader (backendMaxRecords s + 2) next ++
    (log.encode ++ data).drop headerSize)).requireRecovery
    false), next, (log.encode ++ data).drop headerSize, ?_, rfl, rfl⟩
  have idle : (s.requireRecovery true).nextFault = .none := nextFault_of_working working
  have idleNext : ((s.requireRecovery true).setLive (log.encode ++ data)).nextFault = .none :=
    nextFault_of_working working
  have unread : readHeader ((s.setLive (encodeHeader (backendMaxRecords s + 2) next ++
      (log.encode ++ data).drop headerSize)).requireRecovery false) = none :=
    readHeader_over rfl (by omega) (show _ > backendRecoveryMaxRecords s by omega)
  rw [appendOnce, ready]
  dsimp only
  rw [writeHeaderIfNeeded_holds holds]
  dsimp only
  rw [unknown]
  dsimp only
  rw [appendNew, holds.readHeader]
  dsimp only
  rw [following, if_neg fresh, record, storeAppend_done (show (s.requireRecovery true).live = some log.encode from
    holds.live) idle, afterCall_of_working (show (s.requireRecovery true).faults = [] from working)]
  dsimp only
  rw [publishRecord, writeHeaderState_done (show _ = some (log.encode ++ data) from rfl) fresh idleNext,
    afterCall_of_working (show ((s.requireRecovery true).setLive (log.encode ++ data)).faults = [] from working),
    overlay_header, crowded]
  dsimp only
  change (if backendMaxRecords s + 1 + 1 > backendMaxRecords s then compactPublished ((s.setLive (encodeHeader
    (backendMaxRecords s + 2) next ++ (log.encode ++ data).drop headerSize)).requireRecovery false) _ else _) = _
  rw [if_pos (by omega), compactPublished, compactStoreToRecent, if_neg (by
    exact Nat.ne_of_gt (backendCompactToRecords_pos _)), unread]

theorem run_execFaulty_working {start : Store} {log : Log} (steady : Steady start log) (ops : List Op) :
    run execFaulty start (ops.map (fun op => (op, []))) = run exec start ops := by
  induction ops generalizing start log with
  | nil => rfl
  | cons op rest ih =>
    have working : start.faults = [] := by
      rcases steady with serves | ⟨blank, -⟩
      · exact serves.working
      · exact blank.working
    have same : execFaulty start (op, []) = exec start op := by
      have idle : start.withFaults [] = start := by rw [← working]; rfl
      rw [execFaulty, idle]
    obtain ⟨after, kept, -⟩ := exec_steady steady op
    rw [List.map_cons, run_cons, run_cons, same]
    exact ih kept

theorem messageStoreAppend_default {result : Option UInt32} {after : Store}
    (once : appendOnce s msg = (result, after)) (default : after.backend = none) (queue : s.retryQueue = []) :
    messageStoreAppend s msg = (result, after) := by
  have idle : retryQueuedOnDefaultBackend s = s := by
    rw [retryQueuedOnDefaultBackend, queue]
    split <;> rfl
  rw [messageStoreAppend, idle, once]
  cases result with
  | some id => rfl
  | none =>
    dsimp only
    rw [default]
    rfl

theorem execFaulty_append {faults : List Fault} {result : Option UInt32} {after : Store}
    (done : messageStoreAppend (s.withFaults faults) msg = (result, after)) :
    execFaulty s (.append msg, faults) = after := by
  rw [execFaulty, exec, perform, done]

def failedCompaction : List Fault := [.none, .none, .replace .removeTemp]

/-- A default store after a compaction that failed: one record over the limit, the index without it. -/
structure Overfull (s : Store) (log : Log) (stale : List StoredMessage) : Prop where
  holds : Holds s log
  crowded : log.messages.length = backendMaxRecords s + 1
  default : s.backend = none
  queue : s.retryQueue = []
  working : s.faults = []
  reconciled : s.appendRecoveryRequired = false
  valid : s.identityIndexValid = true
  entries : s.identityIndex = stale.map indexEntry
  inside : ∀ stored ∈ stale, stored ∈ log.messages
  few : stale.length ≤ log.messages.length

theorem overfull_of_full (serves : Serves s log) (default : s.backend = none)
    (full : log.messages.length = backendMaxRecords s) (absent : log.lookup (storedMessageNormalize msg) = none) :
    ∃ after pushed, messageStoreAppend (s.withFaults failedCompaction) msg = (none, after) ∧
      Overfull after pushed log.messages := by
  have holds : Holds (s.withFaults failedCompaction) log := ⟨serves.holds.live, serves.holds.fits⟩
  have indexed : Indexed (s.withFaults failedCompaction) log :=
    ⟨serves.indexed.valid, serves.indexed.entries, serves.indexed.capacity⟩
  have reconciled : (s.withFaults failedCompaction).appendRecoveryRequired = false := serves.reconciled
  have ready : reconcileTail (s.withFaults failedCompaction) = (true, s.withFaults failedCompaction) := by
    rw [reconcileTail, reconciled]
    rfl
  obtain ⟨pushed, messages, failed⟩ := appendNew_uncompacted holds indexed default full
    (storedMessageNormalize_idempotent msg) rfl
  have length := length_push messages
  have recovery := backendRecoveryMaxRecords_eq s
  have once : appendOnce (s.withFaults failedCompaction) msg = (none, (((s.withFaults failedCompaction).setLive
      pushed.encode).withFaults []).requireRecovery false) := by
    rw [appendOnce, ready]
    dsimp only
    rw [writeHeaderIfNeeded_holds holds]
    dsimp only
    rw [messageExists_indexed holds indexed, absent]
    exact failed
  refine ⟨_, pushed, messageStoreAppend_default once default serves.queue, ?_⟩
  exact {
    holds := ⟨rfl, show _ ≤ backendRecoveryMaxRecords s by omega⟩
    crowded := show _ = backendMaxRecords s + 1 by omega
    default := default
    queue := serves.queue
    working := rfl
    reconciled := rfl
    valid := serves.indexed.valid
    entries := serves.indexed.entries
    inside := by rw [messages]; exact fun stored member => List.mem_append_left _ member
    few := by omega }

/-- A full default store, a compaction that fails and one more message. -/
def overflowInputs : List (Op × List Fault) :=
  (arrivals 512).map (fun op => (op, [])) ++
    [(.append (sampleMessage 513 false), failedCompaction), (.append (sampleMessage 514 false), [])]

/-- The header counts 514 records where the readers accept 513. -/
theorem failed_compaction_overflows :
    (∀ input ∈ overflowInputs, ∀ fault ∈ input.2, fault.survivable = true) ∧
      ∃ bytes, (run execFaulty (Store.initial none) overflowInputs).live = some bytes ∧
        (parseHeader bytes).count > backendRecoveryMaxRecords (run execFaulty (Store.initial none) overflowInputs) ∧
        readHeader (run execFaulty (Store.initial none) overflowInputs) = none := by
  refine ⟨?_, ?_⟩
  · intro input member fault inside
    rcases List.mem_append.mp member with early | late
    · obtain ⟨op, -, rfl⟩ := List.mem_map.mp early
      cases inside
    · rcases List.mem_cons.mp late with rfl | last
      · rcases List.mem_cons.mp inside with rfl | more
        · rfl
        · rcases List.mem_cons.mp more with rfl | more
          · rfl
          · obtain rfl := List.mem_singleton.mp more
            rfl
      · obtain rfl := List.mem_singleton.mp last
        cases inside
  · obtain ⟨log, steady, default, messages, -⟩ := arrivals_steady (Nat.le_refl 512)
    have start := run_execFaulty_working (Or.inr ⟨initial_blank none, rfl⟩) (arrivals 512)
    have length : log.messages.length = 512 := by
      rw [messages, arrivedRecords, List.length_map, List.length_range]
    have absent (stamp : Nat) (later : 512 < stamp) (small : stamp < 2 ^ 32) : ∀ stored ∈ log.messages,
        storedMessageSameIdentity stored (storedMessageNormalize (sampleMessage (UInt32.ofNat stamp) false)) =
            false := by
      rw [messages, sampleMessage_normal (ofNat_ne_zero (by omega) small)]
      exact arrivedRecords_absent later small false
    rw [overflowInputs, run_append, start]
    generalize run exec (Store.initial none) (arrivals 512) = s at steady default
    rcases steady with serves | ⟨-, rfl⟩
    · have unknown : log.lookup (storedMessageNormalize (sampleMessage 513 false)) = none :=
        Log.lookup_eq_none.mpr (absent 513 (by decide) (by decide))
      obtain ⟨middle, pushed, first, overfull⟩ := overfull_of_full serves default (by
        rw [backendMaxRecords_default default, length]) unknown
      obtain ⟨final, following, rest, again, backend, live⟩ := appendOnce_over overfull.holds overfull.crowded
        overfull.reconciled overfull.working overfull.valid overfull.entries overfull.inside overfull.few
        (absent 514 (by decide) (by decide))
      have second := messageStoreAppend_default again (backend.trans overfull.default) overfull.queue
      have idle : middle.withFaults [] = middle := by rw [← overfull.working]; rfl
      have state : run execFaulty s [(.append (sampleMessage 513 false), failedCompaction),
          (.append (sampleMessage 514 false), [])] = final := by
        rw [run_cons, execFaulty_append first, run_cons, execFaulty_append ((congrArg
          (messageStoreAppend · (sampleMessage 514 false)) idle).trans second), run_nil]
      have limit : backendRecoveryMaxRecords final = 513 := by
        rw [backendRecoveryMaxRecords_eq, backendMaxRecords_default (backend.trans overfull.default)]
      rw [backendMaxRecords_default overfull.default] at live
      rw [state]
      refine ⟨_, live, ?_, readHeader_over live (by decide) (by omega)⟩
      rw [parseHeader_encodeHeader following rest (by decide), limit]
      exact show 512 + 2 > 513 by decide
    · cases length

end Overflow

end SigurdOS.MessageStore
