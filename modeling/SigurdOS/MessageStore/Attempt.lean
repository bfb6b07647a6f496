import SigurdOS.MessageStore.Service

namespace SigurdOS.MessageStore

open Bytes SigurdOS.Hal

structure Frames (s after : Store) : Prop where
  backend : after.backend = s.backend
  otherFiles : after.otherFiles = s.otherFiles
  corrupt : after.files.corrupt = s.files.corrupt
  queue : s.retryQueue = [] → after.retryQueue = []
  faults : after.faults <:+ s.faults

theorem Frames.refl (s : Store) : Frames s s := ⟨rfl, rfl, rfl, id, List.suffix_refl _⟩

theorem Frames.trans {s middle after : Store} (first : Frames s middle) (second : Frames middle after) :
    Frames s after :=
  ⟨second.backend.trans first.backend, second.otherFiles.trans first.otherFiles, second.corrupt.trans first.corrupt,
    fun empty => second.queue (first.queue empty), second.faults.trans first.faults⟩

theorem backendMaxRecords_congr {s after : Store} (backend : after.backend = s.backend) :
    backendMaxRecords after = backendMaxRecords s := by
  rw [backendMaxRecords, backendMaxRecords, backend]

theorem backendRecoveryMaxRecords_congr {s after : Store} (backend : after.backend = s.backend) :
    backendRecoveryMaxRecords after = backendRecoveryMaxRecords s := by
  rw [backendRecoveryMaxRecords_eq, backendRecoveryMaxRecords_eq, backendMaxRecords_congr backend]

theorem Frames.maxRecords {s after : Store} (frames : Frames s after) :
    backendMaxRecords after = backendMaxRecords s := backendMaxRecords_congr frames.backend

theorem Frames.recoveryMaxRecords {s after : Store} (frames : Frames s after) :
    backendRecoveryMaxRecords after = backendRecoveryMaxRecords s := backendRecoveryMaxRecords_congr frames.backend

inductive Origin (s : Store) (log : Log) : Prop
  | exact (reconciled : s.appendRecoveryRequired = false) (live : s.live = some log.encode)
  | repaired (required : s.appendRecoveryRequired = true) (image : Image) (left : Left s image)
      (messages : log.messages = image.messages)
  | created (live : s.live = none) (empty : log = .empty)

/-- The store an append finds once the tail is reconciled, the file exists and the index is built. -/
structure Ready (s : Store) (log : Log) (after : Store) : Prop where
  holds : Holds after log
  indexed : Indexed after log
  bound : log.messages.length ≤ backendMaxRecords after
  reconciled : after.appendRecoveryRequired = false
  temp : Cleared s after.files.file.temp ∨ s.live ≠ none ∧ after.files.file.temp = s.files.file.temp
  frames : Frames s after
  compactedAway : after.compactedAway = s.compactedAway
  origin : Origin s log

theorem Ready.tempEither {s after : Store} {log : Log} (ready : Ready s log after) :
    after.files.file.temp = none ∨ after.files.file.temp = s.files.file.temp :=
  ready.temp.elim Cleared.either (fun kept => Or.inr kept.2)

inductive Appendable (s : Store) : Prop
  | missing (live : s.live = none) (unindexed : s.identityIndexValid = false)
  | torn (image : Image) (left : Left s image) (required : s.appendRecoveryRequired = true)
  | exact (log : Log) (holds : Holds s log) (reconciled : s.appendRecoveryRequired = false)
      (bound : log.messages.length ≤ backendMaxRecords s) (indexed : s.identityIndexValid = true → Indexed s log)

inductive Attempted (s : Store) (norm : StoredMessage) : Option UInt32 → Store → Prop
  | unrepaired (image : Image) (left : Left s image) (required : s.appendRecoveryRequired = true) (after : Store)
      (repair : Repaired s (image.repaired left.short) .failed after) : Attempted s norm none after
  | overfull (image : Image) (left : Left s image) (required : s.appendRecoveryRequired = true)
      (crowded : backendMaxRecords s < image.messages.length) (temp : Option (List UInt8)) (faults : List Fault)
      (rest : faults <:+ s.faults) (cleared : temp = none ∨ temp = s.files.file.temp) :
      Attempted s norm none (((s.setFile ⟨some (image.repaired left.short).encode, temp⟩).withFaults
        faults).requireRecovery false).withoutIndex
  | stranded (missing : s.live = none) (required : s.appendRecoveryRequired = true) :
      Attempted s norm none (s.requireRecovery false).withoutIndex
  | uncreated (missing : s.live = none) (file : AtomicFile) (faults : List Fault) (rest : faults <:+ s.faults)
      (broken : s.faults ≠ []) (replaced : Replaced s [] 1 false file) :
      Attempted s norm none ((s.setFile file).withFaults faults)
  | found (log : Log) (after : Store) (ready : Ready s log after) (id : UInt32) (found : log.lookup norm = some id) :
      Attempted s norm (some id) after
  | appended (log pushed : Log) (before : Store) (ready : Ready s log before) (absent : log.lookup norm = none)
      (messages : pushed.messages = log.messages ++ [norm.withId log.nextId]) (next : pushed.nextId = log.following)
      (result : Option UInt32) (after : Store)
      (appended : Appended before log pushed (norm.withId log.nextId) result after) : Attempted s norm result after

section Reconcile

variable {s : Store} {image : Image} {log : Log}

theorem Repaired.settled {result : RecoveryResult} {after : Store} (repair : Repaired s log result after)
    (went : result ≠ .failed) :
    ∃ temp faults, after = (s.setFile ⟨some log.encode, temp⟩).withFaults faults ∧ faults <:+ s.faults ∧
      (temp = none ∨ temp = s.files.file.temp) ∧ result ≠ .unsupportedVersion := by
  cases repair with
  | clean exact =>
    refine ⟨s.files.file.temp, s.faults, ?_, List.suffix_refl _, Or.inr rfl, by decide⟩
    rw [← exact]
    rfl
  | done _ temp faults rest rewritten cleared =>
    refine ⟨temp, faults, rfl, rest, cleared.either, ?_⟩
    rcases rewritten with rfl | rfl <;> decide
  | failed => exact absurd rfl went

theorem reconcileTail_left (left : Left s image) (required : s.appendRecoveryRequired = true) :
    (∃ after, Repaired s (image.repaired left.short) .failed after ∧ reconcileTail s = (false, after)) ∨
    ∃ temp faults, faults <:+ s.faults ∧ (temp = none ∨ temp = s.files.file.temp) ∧
      reconcileTail s = rebuildIdentityIndex (((s.setFile ⟨some (image.repaired left.short).encode, temp⟩).withFaults
        faults).requireRecovery false) := by
  have repair := repairInterruptedAppend_left left
  unfold reconcileTail
  rw [if_pos required]
  generalize repairInterruptedAppend s = outcome at repair ⊢
  obtain ⟨result, after⟩ := outcome
  dsimp only at repair
  by_cases failed : result = .failed
  · subst failed
    exact Or.inl ⟨after, repair, rfl⟩
  · obtain ⟨temp, faults, rfl, rest, cleared, supported⟩ := repair.settled failed
    refine Or.inr ⟨temp, faults, rest, cleared, ?_⟩
    cases result with
    | failed => exact absurd rfl failed
    | unsupportedVersion => exact absurd rfl supported
    | clean => rfl
    | migrated => rfl
    | repaired => rfl
    | salvaged => rfl
    | quarantined => rfl

theorem exists_indexed (holds : Holds s log) (bound : log.messages.length ≤ backendMaxRecords s)
    (trusted : s.identityIndexValid = true → Indexed s log) (norm : StoredMessage) :
    ∃ after, Indexed after log ∧ after.files = s.files ∧ Frames s after ∧ after.compactedAway = s.compactedAway ∧
      after.appendRecoveryRequired = s.appendRecoveryRequired ∧ messageExists s norm = (log.lookup norm, after) := by
  cases valid : s.identityIndexValid with
  | true =>
    refine ⟨s, trusted valid, rfl, .refl s, rfl, rfl, messageExists_indexed holds (trusted valid) norm⟩
  | false =>
    obtain ⟨capacity, enough, rebuilt⟩ := rebuildIdentityIndex_holds holds bound
    have indexed : Indexed (s.withIndex (log.messages.map indexEntry) capacity) log := ⟨rfl, rfl, enough⟩
    refine ⟨_, indexed, rfl, ⟨rfl, rfl, rfl, id, List.suffix_refl _⟩, rfl, rfl, ?_⟩
    have same := messageExists_indexed (s := s.withIndex (log.messages.map indexEntry) capacity)
      ⟨holds.live, holds.fits⟩ indexed norm
    unfold messageExists at same ⊢
    rw [valid, if_neg (by simp), rebuilt]
    exact same

theorem appendOnce_holds {before : Store} (ready : reconcileTail s = (true, before)) (holds : Holds before log)
    (bound : log.messages.length ≤ backendMaxRecords before)
    (trusted : before.identityIndexValid = true → Indexed before log) (msg : StoredMessage) :
    ∃ after, Indexed after log ∧ after.files = before.files ∧ Frames before after ∧
      after.compactedAway = before.compactedAway ∧ after.appendRecoveryRequired = before.appendRecoveryRequired ∧
      appendOnce s msg = match log.lookup (storedMessageNormalize msg) with
        | some id => (some id, after)
        | none => appendNew after (storedMessageNormalize msg) := by
  obtain ⟨after, indexed, files, frames, away, required, exists_⟩ :=
    exists_indexed holds bound trusted (storedMessageNormalize msg)
  refine ⟨after, indexed, files, frames, away, required, ?_⟩
  rw [appendOnce, ready]
  dsimp only
  rw [writeHeaderIfNeeded_holds holds]
  dsimp only
  rw [exists_]
  cases log.lookup (storedMessageNormalize msg) <;> rfl

theorem attempted_of_ready {after : Store} (ready : Ready s log after) {norm : StoredMessage}
    (normal : storedMessageNormalize norm = norm) {outcome : Option UInt32 × Store}
    (result : outcome = match log.lookup norm with
      | some id => (some id, after)
      | none => appendNew after norm) : Attempted s norm outcome.1 outcome.2 := by
  subst result
  cases lookup : log.lookup norm with
  | some id => exact .found log after ready id lookup
  | none =>
    obtain ⟨pushed, messages, next, appended⟩ := appendNew_appended ready.holds ready.indexed ready.bound normal
    exact .appended log pushed after ready lookup messages next _ _ appended

end Reconcile

section Frame

variable {s after : Store} {log pushed : Log} {norm : StoredMessage} {result : Option UInt32}

theorem Repaired.frames {outcome : RecoveryResult} (repair : Repaired s log outcome after) : Frames s after := by
  cases repair with
  | clean _ => exact .refl s
  | done _ _ _ rest => exact ⟨rfl, rfl, rfl, id, rest⟩
  | failed _ _ rest => exact ⟨rfl, rfl, rfl, id, rest⟩

theorem Compacted.frames {maxRecords : Nat} {ok : Bool} (compaction : Compacted s log maxRecords ok after) :
    Frames s after := by
  cases compaction with
  | done _ _ rest => exact ⟨rfl, rfl, rfl, id, rest⟩
  | failed _ _ rest => exact ⟨rfl, rfl, rfl, id, rest⟩

theorem Appended.frames (appended : Appended s log pushed norm result after) : Frames s after := by
  cases appended with
  | tornRecord _ _ rest => exact ⟨rfl, rfl, rfl, id, rest⟩
  | tornHeader _ _ rest => exact ⟨rfl, rfl, rfl, id, rest⟩
  | stored _ rest => exact ⟨rfl, rfl, rfl, id, rest⟩
  | compacted before _ _ _ _ rest published compaction =>
    subst published
    have frames := compaction.frames
    exact ⟨frames.backend, frames.otherFiles, frames.corrupt, frames.queue, frames.faults.trans rest⟩
  | uncompacted before _ _ _ rest published compaction =>
    subst published
    have frames := compaction.frames
    exact ⟨frames.backend, frames.otherFiles, frames.corrupt, frames.queue, frames.faults.trans rest⟩

theorem Attempted.frames (attempt : Attempted s norm result after) : Frames s after := by
  cases attempt with
  | unrepaired _ _ _ _ repair => exact repair.frames
  | overfull _ _ _ _ _ _ rest => exact ⟨rfl, rfl, rfl, id, rest⟩
  | stranded => exact ⟨rfl, rfl, rfl, id, List.suffix_refl _⟩
  | uncreated _ _ _ rest => exact ⟨rfl, rfl, rfl, id, rest⟩
  | found _ _ ready => exact ready.frames
  | appended _ _ _ ready _ _ _ _ _ appended => exact ready.frames.trans appended.frames

end Frame

section Once

variable {s : Store}

theorem appendOnce_torn {image : Image} (left : Left s image) (required : s.appendRecoveryRequired = true)
    (msg : StoredMessage) :
    Attempted s (storedMessageNormalize msg) (appendOnce s msg).1 (appendOnce s msg).2 := by
  rcases reconcileTail_left left required with ⟨after, repair, failed⟩ | ⟨temp, faults, rest, cleared, rebuilds⟩
  · rw [appendOnce, failed]
    exact .unrepaired image left required after repair
  · have holds : Holds (((s.setFile ⟨some (image.repaired left.short).encode, temp⟩).withFaults faults).requireRecovery
        false) (image.repaired left.short) := ⟨rfl, left.fits⟩
    by_cases crowded : backendMaxRecords s < image.messages.length
    · rw [rebuildIdentityIndex_over holds crowded] at rebuilds
      rw [appendOnce, rebuilds]
      exact .overfull image left required crowded temp faults rest cleared
    · have bound : image.messages.length ≤ backendMaxRecords s := by omega
      obtain ⟨capacity, enough, rebuilt⟩ := rebuildIdentityIndex_holds holds bound
      rw [rebuilt] at rebuilds
      have indexed : Indexed ((((s.setFile ⟨some (image.repaired left.short).encode, temp⟩).withFaults
          faults).requireRecovery false).withIndex ((image.repaired left.short).messages.map indexEntry) capacity)
          (image.repaired left.short) := ⟨rfl, rfl, enough⟩
      obtain ⟨after, kept, files, frames, away, reconciled, result⟩ :=
        appendOnce_holds rebuilds ⟨rfl, left.fits⟩ bound (fun _ => indexed) msg
      have ready : Ready s (image.repaired left.short) after := {
        holds := ⟨by rw [Store.live, files]; rfl, by rw [frames.recoveryMaxRecords]; exact left.fits⟩
        indexed := kept
        bound := by rw [frames.maxRecords]; exact bound
        reconciled := reconciled
        temp := by
          rw [files]
          exact cleared.imp (fun gone => Or.inl gone) (fun same => ⟨by rw [left.live]; simp, same⟩)
        frames := ⟨frames.backend, frames.otherFiles, frames.corrupt, frames.queue, frames.faults.trans rest⟩
        compactedAway := away
        origin := .repaired required image left rfl }
      exact attempted_of_ready ready (storedMessageNormalize_idempotent msg) result

theorem appendOnce_exact {log : Log} (holds : Holds s log) (reconciled : s.appendRecoveryRequired = false)
    (bound : log.messages.length ≤ backendMaxRecords s) (trusted : s.identityIndexValid = true → Indexed s log)
    (msg : StoredMessage) :
    Attempted s (storedMessageNormalize msg) (appendOnce s msg).1 (appendOnce s msg).2 := by
  have ready : reconcileTail s = (true, s) := by
    rw [reconcileTail, reconciled]
    rfl
  obtain ⟨after, kept, files, frames, away, required, result⟩ := appendOnce_holds ready holds bound trusted msg
  have ready : Ready s log after := {
    holds := ⟨by rw [Store.live, files]; exact holds.live, by rw [frames.recoveryMaxRecords]; exact holds.fits⟩
    indexed := kept
    bound := by rw [frames.maxRecords]; exact bound
    reconciled := required.trans reconciled
    temp := by rw [files]; exact Or.inr ⟨by rw [holds.live]; simp, rfl⟩
    frames := frames
    compactedAway := away
    origin := .exact reconciled holds.live }
  exact attempted_of_ready ready (storedMessageNormalize_idempotent msg) result

theorem appendOnce_missing (live : s.live = none) (unindexed : s.identityIndexValid = false) (msg : StoredMessage) :
    Attempted s (storedMessageNormalize msg) (appendOnce s msg).1 (appendOnce s msg).2 := by
  cases required : s.appendRecoveryRequired with
  | true =>
    have stranded : reconcileTail s = (false, (s.requireRecovery false).withoutIndex) := by
      rw [reconcileTail, required, if_pos rfl, repairInterruptedAppend, live]
      dsimp only
      rw [rebuildIdentityIndex, readHeader_missing (show (s.requireRecovery false).live = none from live)]
    rw [appendOnce, stranded]
    exact .stranded live required
  | false =>
    have ready : reconcileTail s = (true, s) := by
      rw [reconcileTail, required]
      rfl
    have creates : writeHeaderIfNeeded s = replaceFile s [] 1 := by
      rw [writeHeaderIfNeeded, readHeader_missing live]
      dsimp only
      rw [live, if_neg (by simp), atomicReplaceStore_of_nextId s [] (by decide)]
    have normal : ∀ msg ∈ ([] : List StoredMessage), storedMessageNormalize msg = msg := by simp
    obtain ⟨file, faults, after, rest, replaced⟩ := replaceFile_replaced s 1 normal
    have works : s.faults = [] → (replaceFile s [] 1).1 = true := by
      intro working
      obtain ⟨temp, -, done⟩ := replaceFile_works Log.empty working (Nat.zero_le _)
      exact congrArg Prod.fst done
    rw [← creates] at after replaced works
    generalize created : writeHeaderIfNeeded s = outcome at after replaced works
    obtain ⟨ok, before⟩ := outcome
    dsimp only at after replaced works
    subst after
    cases ok with
    | false =>
      rw [appendOnce, ready]
      dsimp only
      rw [created]
      exact .uncreated live file faults rest (fun working => absurd (works working) (by simp)) replaced
    | true =>
      cases replaced with
      | done log temp same next fits cleared =>
        obtain rfl : log = Log.empty := Log.ext same next
        have holds : Holds ((s.setFile ⟨some Log.empty.encode, temp⟩).withFaults faults) Log.empty :=
          ⟨rfl, Nat.zero_le _⟩
        obtain ⟨after, indexed, files, frames, away, kept, exists_⟩ := exists_indexed holds (Nat.zero_le _)
          (fun valid => absurd (unindexed.symm.trans valid) (by simp)) (storedMessageNormalize msg)
        have ready' : Ready s Log.empty after := {
          holds := ⟨by rw [Store.live, files]; rfl, Nat.zero_le _⟩
          indexed := indexed
          bound := Nat.zero_le _
          reconciled := kept.trans required
          temp := by rw [files]; exact Or.inl cleared
          frames := ⟨frames.backend, frames.otherFiles, frames.corrupt, frames.queue, frames.faults.trans rest⟩
          compactedAway := away
          origin := .created live rfl }
        refine attempted_of_ready ready' (storedMessageNormalize_idempotent msg) ?_
        rw [appendOnce, ready]
        dsimp only
        rw [created]
        dsimp only
        rw [exists_]
        rfl

theorem appendOnce_attempted (appendable : Appendable s) (msg : StoredMessage) :
    Attempted s (storedMessageNormalize msg) (appendOnce s msg).1 (appendOnce s msg).2 := by
  cases appendable with
  | missing live unindexed => exact appendOnce_missing live unindexed msg
  | torn image left required => exact appendOnce_torn left required msg
  | exact log holds reconciled bound indexed => exact appendOnce_exact holds reconciled bound indexed msg

end Once

end SigurdOS.MessageStore
