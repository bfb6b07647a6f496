import SigurdOS.MessageStore.Boot
import SigurdOS.MessageStore.Marks

namespace SigurdOS.MessageStore

open Bytes SigurdOS.Hal

def Log.Distinct (log : Log) : Prop :=
  log.messages.Pairwise (fun earlier later => storedMessageSameIdentity earlier later = false)

/-- A store at rest on a working medium: the file is a log within the limit, the index mirrors it
    and nothing is pending. -/
structure Rests (s : Store) (log : Log) : Prop where
  working : s.faults = []
  settled : s.files.file.temp = none
  reconciled : s.appendRecoveryRequired = false
  holds : Holds s log
  indexed : Indexed s log
  bound : log.messages.length ≤ backendMaxRecords s

structure Serves (s : Store) (log : Log) : Prop extends Rests s log where
  queue : s.retryQueue = []
  distinct : log.Distinct

structure Blank (s : Store) : Prop where
  working : s.faults = []
  settled : s.files.file.temp = none
  reconciled : s.appendRecoveryRequired = false
  queue : s.retryQueue = []
  live : s.live = none
  unindexed : s.identityIndexValid = false
  index : s.identityIndex = []

theorem initial_blank (backend : Option MessageStoreBackend) : Blank (Store.initial backend) :=
  ⟨rfl, rfl, rfl, rfl, rfl, rfl, rfl⟩

/-- What an append leaves of the records and the new one. -/
def recordsAfter (s : Store) (messages : List StoredMessage) : List StoredMessage :=
  if messages.length > backendMaxRecords s then compactedRecords (backendCompactToRecords s) messages else messages

section Append

variable {s : Store} {log : Log}

theorem Log.Distinct.push {pushed : Log} {norm : StoredMessage} {id : UInt32} (distinct : log.Distinct)
    (absent : log.lookup norm = none) (messages : pushed.messages = log.messages ++ [norm.withId id]) :
    pushed.Distinct := by
  rw [Log.Distinct, messages, List.pairwise_append]
  refine ⟨distinct, List.pairwise_singleton _ _, ?_⟩
  intro stored member other last
  obtain rfl := List.mem_singleton.mp last
  rw [sameIdentity_withId]
  exact Log.lookup_eq_none.mp absent stored member

theorem Log.Distinct.compacted (distinct : log.Distinct) (maxRecords : Nat) : (log.compacted maxRecords).Distinct :=
  List.Pairwise.sublist (compactedRecords_sublist _ _) distinct

theorem appendOnce_of_lookup (serves : Serves s log) (msg : StoredMessage) :
    appendOnce s msg =
      match log.lookup (storedMessageNormalize msg) with
      | some id => (some id, s)
      | none => appendNew s (storedMessageNormalize msg) := by
  have ready : reconcileTail s = (true, s) := by
    rw [reconcileTail, serves.reconciled]
    rfl
  rw [appendOnce, ready]
  dsimp only
  rw [writeHeaderIfNeeded_holds serves.holds]
  dsimp only
  rw [messageExists_indexed serves.holds serves.indexed]
  cases log.lookup (storedMessageNormalize msg) with
  | none => rfl
  | some id => rfl

theorem appendNew_serves (serves : Serves s log) {norm : StoredMessage} (normal : storedMessageNormalize norm = norm)
    (absent : log.lookup norm = none) :
    ∃ after stored, appendNew s norm = (some log.nextId, after) ∧ Serves after stored ∧
      after.backend = s.backend ∧ stored.nextId = log.following ∧
      stored.messages = recordsAfter s (log.messages ++ [norm.withId log.nextId]) := by
  obtain ⟨pushed, messages, next, appended⟩ := appendNew_appended serves.holds serves.indexed serves.bound normal
  have length := length_push messages
  have recovery := backendRecoveryMaxRecords_eq s
  have bound := serves.bound
  have distinct : pushed.Distinct := serves.distinct.push absent messages
  generalize appendNew s norm = outcome at appended ⊢
  obtain ⟨result, after⟩ := outcome
  dsimp only at appended
  cases appended with
  | tornRecord written faults rest script => rw [serves.working] at script; cases script
  | tornHeader written faults rest script => rw [serves.working] at script; cases script
  | stored faults rest room =>
    have none : faults = [] := List.suffix_nil.mp (serves.working ▸ rest)
    refine ⟨_, pushed, rfl, ?_, rfl, next, ?_⟩
    · exact {
        working := none
        settled := serves.settled
        reconciled := rfl
        queue := serves.queue
        holds := ⟨rfl, show _ ≤ backendRecoveryMaxRecords s by omega⟩
        indexed := ⟨rfl, rfl, serves.indexed.capacity⟩
        bound := show _ ≤ backendMaxRecords s by omega
        distinct := distinct }
    · rw [recordsAfter, ← messages, if_neg (by omega)]
  | compacted before after capacity full faults rest published compaction enough =>
    have compacts := backendCompactToRecords_le s
    have shorter : (pushed.compacted (backendCompactToRecords s)).messages.length = backendCompactToRecords s :=
      length_compacted (by omega)
    cases compaction with
    | done temp others left cleared =>
      subst published
      have none : others = [] := List.suffix_nil.mp (serves.working ▸ left.trans rest)
      have gone : temp = Option.none := cleared.settled serves.settled
      refine ⟨_, pushed.compacted (backendCompactToRecords s), rfl, ?_, rfl, next, ?_⟩
      · exact {
          working := none
          settled := gone
          reconciled := rfl
          queue := serves.queue
          holds := ⟨rfl, show _ ≤ backendRecoveryMaxRecords s by omega⟩
          indexed := ⟨rfl, rfl, enough⟩
          bound := show _ ≤ backendMaxRecords s by omega
          distinct := distinct.compacted _ }
      · rw [recordsAfter, ← messages, if_pos (by omega)]
        rfl
  | uncompacted before after full faults rest published compaction =>
    cases compaction with
    | failed file others left broken replaced =>
      subst published
      exact absurd (List.suffix_nil.mp (serves.working ▸ rest)) broken

end Append

section Mark

variable {s : Store} {log : Log} {selects : StoredMessage → Bool} {before after : List StoredMessage}

theorem Marked.map_eq {α : Type} {f : StoredMessage → α} (same : ∀ {old new}, Evolves old new → f new = f old)
    (marked : List.Forall₂ (Marked selects) before after) : after.map f = before.map f := by
  induction marked with
  | nil => rfl
  | cons head _ ih => rw [List.map_cons, List.map_cons, same head.evolves, ih]

theorem Marked.exists_old {selects : StoredMessage → Bool} {before after : List StoredMessage}
    (marked : List.Forall₂ (Marked selects) before after) :
    ∀ new ∈ after, ∃ old ∈ before, Evolves old new := by
  induction marked with
  | nil => simp
  | cons here _ ih =>
    intro new member
    rcases List.mem_cons.mp member with rfl | later
    · exact ⟨_, List.mem_cons_self, here.evolves⟩
    · obtain ⟨old, inside, evolves⟩ := ih new later
      exact ⟨old, List.mem_cons_of_mem _ inside, evolves⟩

theorem Marked.normal (marked : List.Forall₂ (Marked selects) before after)
    (normal : ∀ msg ∈ before, storedMessageNormalize msg = msg) : ∀ msg ∈ after, storedMessageNormalize msg = msg := by
  induction marked with
  | nil => exact normal
  | cons head _ ih =>
    intro msg member
    rcases List.mem_cons.mp member with rfl | later
    · exact head.evolves.normal (normal _ (by simp))
    · exact ih (fun other inside => normal other (List.mem_cons_of_mem _ inside)) msg later

theorem indexEntry_evolves {old new : StoredMessage} (evolves : Evolves old new) : indexEntry new = indexEntry old := by
  rw [indexEntry, evolves.identityHash, evolves.storeId, indexEntry]

theorem Marked.distinct (marked : List.Forall₂ (Marked selects) before after)
    (distinct : before.Pairwise (fun earlier later => storedMessageSameIdentity earlier later = false)) :
    after.Pairwise (fun earlier later => storedMessageSameIdentity earlier later = false) := by
  induction marked with
  | nil => exact distinct
  | @cons old new oldRest newRest head rest ih =>
    rw [List.pairwise_cons] at distinct ⊢
    refine ⟨?_, ih distinct.2⟩
    intro later member
    obtain ⟨index, bound, rfl⟩ := List.getElem_of_mem member
    have oldBound : index < oldRest.length := rest.length_eq ▸ bound
    have step := List.Forall₂.get rest oldBound bound
    rw [List.get_eq_getElem, List.get_eq_getElem] at step
    rw [head.evolves.sameIdentity step.evolves]
    exact distinct.1 _ (List.getElem_mem oldBound)

theorem Log.exists_marked (log : Log) (marked : List.Forall₂ (Marked selects) log.messages after) :
    ∃ updated : Log, updated.messages = after ∧ updated.nextId = log.nextId :=
  ⟨log.rewrite after (Marked.map_eq Evolves.storeId marked) (Marked.normal marked log.normal), rfl, rfl⟩

theorem messageStoreMark_serves (serves : Serves s log) (mark : Mark) :
    ∃ ok after marked, messageStoreMark s mark = (ok, after) ∧ Serves after marked ∧ after.backend = s.backend ∧
      marked.nextId = log.nextId ∧ List.Forall₂ (Marked mark.selects) log.messages marked.messages := by
  rcases messageStoreMark_cases s mark with unchanged | unchanged | ⟨count, nextId, updated, header, marked, replaced⟩
  · exact ⟨false, s, log, unchanged, serves, rfl, rfl, marked_self _ _⟩
  · exact ⟨true, s, log, unchanged, serves, rfl, rfl, marked_self _ _⟩
  · rw [serves.holds.readHeader] at header
    obtain ⟨rfl, rfl⟩ := Prod.mk.inj (Option.some.inj header)
    rw [serves.holds.loadAll_count] at marked
    obtain ⟨rewritten, rfl, next⟩ := log.exists_marked marked
    have length := marked.length_eq
    have recovery := backendRecoveryMaxRecords_eq s
    have bound := serves.bound
    obtain ⟨temp, cleared, done⟩ := replaceFile_works rewritten serves.working (by omega)
    rw [← next, done] at replaced
    refine ⟨true, _, rewritten, replaced, ?_, rfl, next, marked⟩
    exact {
      working := serves.working
      settled := cleared.settled serves.settled
      reconciled := serves.reconciled
      queue := serves.queue
      holds := ⟨rfl, show _ ≤ backendRecoveryMaxRecords s by omega⟩
      indexed := ⟨serves.indexed.valid, by
        rw [Marked.map_eq indexEntry_evolves marked]
        exact serves.indexed.entries, serves.indexed.capacity⟩
      bound := show _ ≤ backendMaxRecords s by omega
      distinct := Marked.distinct marked serves.distinct }

end Mark

section Boot

variable {s : Store} {log : Log}

theorem recoverReplacement_settled (working : s.faults = []) (settled : s.files.file.temp = none) :
    recoverReplacement s = (true, s) := by
  unfold recoverReplacement
  rw [nextFault_of_working working, afterCall_of_working working]
  split
  · rfl
  · rw [atomicFileRecover_without_temp _ _ settled]
    rfl

theorem messageStoreBegin_settled (working : s.faults = []) (settled : s.files.file.temp = none) :
    messageStoreBegin s = beginMigrate (s.report .clean) := by
  have recovered := recoverReplacement_settled (s := s.report .clean) working settled
  rw [messageStoreBegin, recovered]
  dsimp only
  rw [if_neg (by simp)]

structure BootsTo (s : Store) (log : Log) (after : Store) (final : Log) : Prop where
  rests : Rests after final
  messages : final.messages = recordsAfter s log.messages
  nextId : final.nextId = log.nextId
  backend : after.backend = s.backend
  queue : after.retryQueue = s.retryQueue
  corrupt : after.files.corrupt = s.files.corrupt

theorem finished_rests {ok : Bool} {after : Store} (finish : Finished s log ok after) (working : s.faults = [])
    (settled : s.files.file.temp = none) (holds : Holds s log) :
    ok = true ∧ ∃ final, BootsTo s log after final := by
  cases finish with
  | within capacity bound enough =>
    refine ⟨rfl, log, ?_, ?_, rfl, rfl, rfl, rfl⟩
    · exact ⟨working, settled, rfl, ⟨holds.live, holds.fits⟩, ⟨rfl, rfl, enough⟩, bound⟩
    · rw [recordsAfter, if_neg (by omega)]
  | compacted compactedStore capacity crowded compaction enough =>
    have compacts := backendCompactToRecords_le s
    have recovery := backendRecoveryMaxRecords_eq s
    have length : (log.compacted (backendCompactToRecords s)).messages.length = backendCompactToRecords s :=
      length_compacted crowded
    cases compaction with
    | done temp faults rest cleared =>
      have none : faults = [] := List.suffix_nil.mp (working ▸ rest)
      have gone : temp = Option.none := cleared.settled settled
      refine ⟨rfl, log.compacted (backendCompactToRecords s), ?_, ?_, rfl, rfl, rfl, rfl⟩
      · exact ⟨none, gone, rfl, ⟨rfl, show _ ≤ backendRecoveryMaxRecords s by omega⟩, ⟨rfl, rfl, enough⟩,
          show _ ≤ backendMaxRecords s by omega⟩
      · rw [recordsAfter, if_pos crowded]
        rfl
  | failed _ crowded compaction =>
    cases compaction with
    | failed _ _ _ broken => exact absurd working broken

theorem begun_rests {ok : Bool} {after : Store} (begun : Begun s log ok after) (working : s.faults = [])
    (settled : s.files.file.temp = none) (fits : log.messages.length ≤ backendRecoveryMaxRecords s) :
    ok = true ∧ ∃ final, BootsTo s log after final := by
  cases begun with
  | unrepaired _ repair =>
    cases repair with
    | done _ _ _ _ rewritten => rcases rewritten with impossible | impossible <;> cases impossible
    | failed _ _ _ broken => exact absurd working broken
  | finished _ result repaired _ _ repair finish =>
    cases repair with
    | clean exact =>
      rw [if_pos rfl] at finish
      exact finished_rests finish working settled ⟨exact, fits⟩
    | done _ temp faults rest rewritten cleared =>
      have none : faults = [] := List.suffix_nil.mp (working ▸ rest)
      have gone : temp = Option.none := cleared.settled settled
      have dirty : result ≠ .clean := by rcases rewritten with rfl | rfl <;> decide
      rw [if_neg dirty] at finish
      obtain ⟨done, final, boots⟩ := finished_rests finish none gone ⟨rfl, fits⟩
      exact ⟨done, final, boots.rests, boots.messages, boots.nextId, boots.backend, boots.queue, boots.corrupt⟩
    | failed _ _ _ broken => exact absurd working broken

theorem recordsAfter_sublist (s : Store) (messages : List StoredMessage) :
    (recordsAfter s messages).Sublist messages := by
  unfold recordsAfter
  split
  · exact compactedRecords_sublist _ _
  · exact List.Sublist.refl _

theorem recordsAfter_within {messages : List StoredMessage} (within : messages.length ≤ backendMaxRecords s) :
    recordsAfter s messages = messages := by
  rw [recordsAfter, if_neg (by omega)]

theorem messageStoreBegin_serves (serves : Serves s log) :
    ∃ after booted, messageStoreBegin s.powerOn = (true, after) ∧ Serves after booted ∧ after.backend = s.backend ∧
      booted.messages = log.messages ∧ booted.nextId = deriveNextId log.messages := by
  have left : Left (s.powerOn.report .clean) (.ofLog log) :=
    ⟨serves.holds.left.live, serves.holds.left.fits⟩
  have begun := beginMigrate_left left
  rw [messageStoreBegin_settled (s := s.powerOn) serves.working serves.settled]
  generalize beginMigrate (s.powerOn.report .clean) = outcome at begun ⊢
  obtain ⟨ok, after⟩ := outcome
  obtain ⟨rfl, final, boots⟩ := begun_rests begun serves.working serves.settled serves.holds.fits
  have messages : final.messages = log.messages := boots.messages.trans (recordsAfter_within serves.bound)
  refine ⟨after, final, rfl, ⟨boots.rests, boots.queue, ?_⟩, boots.backend, messages, boots.nextId⟩
  rw [Log.Distinct, messages]
  exact serves.distinct

end Boot

section Missing

variable {s : Store}

theorem readHeader_missing (live : s.live = none) : readHeader s = none := by rw [readHeader, live]

theorem writeHeaderIfNeeded_missing (working : s.faults = []) (settled : s.files.file.temp = none)
    (live : s.live = none) :
    writeHeaderIfNeeded s = (true, s.setFile ⟨some Log.empty.encode, none⟩) := by
  have fits : Log.empty.messages.length ≤ backendRecoveryMaxRecords s := Nat.zero_le _
  obtain ⟨temp, cleared, done⟩ := replaceFile_works Log.empty working fits
  have gone : temp = none := cleared.settled settled
  rw [writeHeaderIfNeeded, readHeader_missing live]
  dsimp only
  rw [live, if_neg (by simp), atomicReplaceStore_of_nextId s [] (by decide)]
  rw [gone] at done
  exact done

theorem appendOnce_blank (blank : Blank s) (msg : StoredMessage) :
    ∃ fresh, Serves fresh Log.empty ∧ fresh.backend = s.backend ∧ appendOnce s msg = appendOnce fresh msg := by
  have holds : Holds (s.setFile ⟨some Log.empty.encode, none⟩) Log.empty := ⟨rfl, Nat.zero_le _⟩
  obtain ⟨capacity, enough, rebuilt⟩ := rebuildIdentityIndex_holds holds (Nat.zero_le _)
  have served : Serves ((s.setFile ⟨some Log.empty.encode, none⟩).withIndex [] capacity) Log.empty := {
    working := blank.working
    settled := rfl
    reconciled := blank.reconciled
    queue := blank.queue
    holds := ⟨rfl, Nat.zero_le _⟩
    indexed := ⟨rfl, rfl, enough⟩
    bound := Nat.zero_le _
    distinct := .nil }
  refine ⟨_, served, rfl, ?_⟩
  have ready : reconcileTail s = (true, s) := by
    rw [reconcileTail, blank.reconciled]
    rfl
  have unindexed : (s.setFile ⟨some Log.empty.encode, none⟩).identityIndexValid = false := blank.unindexed
  rw [appendOnce_of_lookup served, appendOnce, ready]
  dsimp only
  rw [writeHeaderIfNeeded_missing blank.working blank.settled blank.live]
  dsimp only
  rw [messageExists, unindexed, if_neg (by simp), rebuilt]
  rfl

theorem messageStoreBegin_blank (blank : Blank s) :
    ∃ after, messageStoreBegin s.powerOn = (true, after) ∧ Serves after Log.empty ∧ after.backend = s.backend := by
  have missing : (s.powerOn.report .clean).live = none := blank.live
  have migrated : migrateOlderStore (s.powerOn.report .clean) = (.clean, s.powerOn.report .clean) := by
    rw [migrateOlderStore, missing]
  have repaired : repairInterruptedAppend (s.powerOn.report .clean) = (.clean, s.powerOn.report .clean) := by
    rw [repairInterruptedAppend, missing]
  have created := writeHeaderIfNeeded_missing (s := s.powerOn.report .clean) blank.working blank.settled blank.live
  have holds : Holds ((s.powerOn.report .clean).setFile ⟨some Log.empty.encode, none⟩) Log.empty :=
    ⟨rfl, Nat.zero_le _⟩
  have same : beginFinish (s.powerOn.report .clean) =
      beginFinish ((s.powerOn.report .clean).setFile ⟨some Log.empty.encode, none⟩) := by
    rw [beginFinish, beginFinish, created, writeHeaderIfNeeded_holds holds]
  rw [messageStoreBegin_settled (s := s.powerOn) blank.working blank.settled, beginMigrate, migrated]
  dsimp only
  rw [if_pos rfl, beginRepair, repaired]
  dsimp only
  rw [if_pos rfl, same]
  have finish := beginFinish_finished holds
  generalize beginFinish _ = outcome at finish ⊢
  obtain ⟨ok, after⟩ := outcome
  obtain ⟨rfl, final, boots⟩ := finished_rests finish blank.working rfl holds
  have empty : final = Log.empty := Log.ext boots.messages boots.nextId
  subst empty
  exact ⟨after, rfl, ⟨boots.rests, boots.queue, .nil⟩, boots.backend⟩

end Missing

/-- A store at rest whose readers see the records of the log; a missing file reads as empty. -/
def Steady (s : Store) (log : Log) : Prop := Serves s log ∨ (Blank s ∧ log = Log.empty)

section Steady

variable {s : Store} {log : Log}

theorem messageStoreAppend_of_appendOnce {msg : StoredMessage} {id : UInt32} {after : Store}
    (queue : s.retryQueue = []) (done : appendOnce s msg = (some id, after)) :
    messageStoreAppend s msg = (some id, after) := by
  have idle : retryQueuedOnDefaultBackend s = s := by
    rw [retryQueuedOnDefaultBackend, queue]
    split <;> rfl
  rw [messageStoreAppend, idle, done]

theorem messageStoreAppend_steady (steady : Steady s log) (msg : StoredMessage) :
    (∃ stored ∈ log.messages, storedMessageSameIdentity stored (storedMessageNormalize msg) = true ∧
      messageStoreAppend s msg = (some stored.storeId, s) ∧ Serves s log) ∨
    (log.lookup (storedMessageNormalize msg) = none ∧
      ∃ after stored, messageStoreAppend s msg = (some log.nextId, after) ∧ Serves after stored ∧
        after.backend = s.backend ∧ stored.nextId = log.following ∧
        stored.messages = recordsAfter s (log.messages ++ [(storedMessageNormalize msg).withId log.nextId])) := by
  have normal := storedMessageNormalize_idempotent msg
  rcases steady with serves | ⟨blank, rfl⟩
  · have once := appendOnce_of_lookup serves msg
    cases found : log.lookup (storedMessageNormalize msg) with
    | some id =>
      rw [found] at once
      obtain ⟨stored, member, same, rfl⟩ := Log.lookup_eq_some found
      exact Or.inl ⟨stored, member, same, messageStoreAppend_of_appendOnce serves.queue once, serves⟩
    | none =>
      rw [found] at once
      obtain ⟨after, stored, done, served, backend, next, messages⟩ := appendNew_serves serves normal found
      exact Or.inr ⟨rfl, after, stored, messageStoreAppend_of_appendOnce serves.queue (once.trans done), served,
        backend, next, messages⟩
  · obtain ⟨fresh, serves, backend, same⟩ := appendOnce_blank blank msg
    obtain ⟨after, stored, done, served, kept, next, messages⟩ := appendNew_serves serves normal rfl
    have once : appendOnce s msg = (some Log.empty.nextId, after) := by
      rw [same, appendOnce_of_lookup serves]
      exact done
    refine Or.inr ⟨rfl, after, stored, messageStoreAppend_of_appendOnce blank.queue once, served, kept.trans backend,
      next, ?_⟩
    rw [messages, recordsAfter, recordsAfter, backendMaxRecords, backendMaxRecords, backendCompactToRecords,
      backendCompactToRecords, backend]

theorem messageStoreMark_steady (steady : Steady s log) (mark : Mark) :
    ∃ ok after marked, messageStoreMark s mark = (ok, after) ∧ Steady after marked ∧ after.backend = s.backend ∧
      marked.nextId = log.nextId ∧ List.Forall₂ (Marked mark.selects) log.messages marked.messages := by
  rcases steady with serves | ⟨blank, rfl⟩
  · obtain ⟨ok, after, marked, done, served, rest⟩ := messageStoreMark_serves serves mark
    exact ⟨ok, after, marked, done, Or.inl served, rest⟩
  · rcases messageStoreMark_cases s mark with unchanged | unchanged | ⟨count, nextId, updated, header, _⟩
    · exact ⟨false, s, Log.empty, unchanged, Or.inr ⟨blank, rfl⟩, rfl, rfl, .nil⟩
    · exact ⟨true, s, Log.empty, unchanged, Or.inr ⟨blank, rfl⟩, rfl, rfl, .nil⟩
    · rw [readHeader_missing blank.live] at header
      cases header

theorem messageStoreBegin_steady (steady : Steady s log) :
    ∃ after booted, messageStoreBegin s.powerOn = (true, after) ∧ Serves after booted ∧ after.backend = s.backend ∧
      booted.messages = log.messages ∧ booted.nextId = deriveNextId log.messages := by
  rcases steady with serves | ⟨blank, rfl⟩
  · exact messageStoreBegin_serves serves
  · obtain ⟨after, done, served, backend⟩ := messageStoreBegin_blank blank
    exact ⟨after, Log.empty, done, served, backend, rfl, rfl⟩

theorem messageStoreClear_steady (steady : Steady s log) :
    ∃ after, messageStoreClear s = (true, after) ∧ Serves after Log.empty ∧ after.backend = s.backend := by
  have quiet : s.faults = [] ∧ s.files.file.temp = none := by
    rcases steady with serves | ⟨blank, -⟩
    · exact ⟨serves.working, serves.settled⟩
    · exact ⟨blank.working, blank.settled⟩
  have fits : Log.empty.messages.length ≤ backendRecoveryMaxRecords s := Nat.zero_le _
  obtain ⟨temp, cleared, done⟩ := replaceFile_works Log.empty quiet.1 fits
  have gone : temp = none := cleared.settled quiet.2
  have replaced : atomicReplaceStore s [] 1 = (true, s.setFile ⟨some Log.empty.encode, none⟩) := by
    rw [atomicReplaceStore_of_nextId s [] (by decide), ← gone]
    exact done
  rw [messageStoreClear, replaced]
  refine ⟨_, rfl, ?_, rfl⟩
  have enough := le_identityIndexCapacity (s.setFile ⟨some Log.empty.encode, none⟩) (backendMaxRecords s)
  exact ⟨⟨quiet.1, rfl, rfl, ⟨rfl, Nat.zero_le _⟩, ⟨rfl, rfl, enough⟩, Nat.zero_le _⟩, rfl, .nil⟩

end Steady

end SigurdOS.MessageStore
