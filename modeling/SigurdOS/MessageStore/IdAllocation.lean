import SigurdOS.MessageStore.Retrieval

namespace SigurdOS.MessageStore

open Runs

/-- The answer to an append: the ID with the message it is for, and whether a record of the message's
    identity was in the store. -/
structure Answer where
  id : UInt32
  message : StoredMessage
  repeated : Bool

def answered (s : Store) : Op → Option Answer
  | .append msg => (messageStoreAppend s msg).1.map fun id =>
      ⟨id, storedMessageNormalize msg, s.records.any (storedMessageSameIdentity · (storedMessageNormalize msg))⟩
  | _ => none

def answersAlong : Store → List Op → List Answer
  | _, [] => []
  | s, op :: rest => (answered s op).toList ++ answersAlong (exec s op) rest

/-- A message that is stored gets an ID above all earlier ones, and one that is answered as a repetition
    gets the ID under which a message of its identity was stored. -/
structure NeverReused (answers : List Answer) : Prop where
  ascending : answers.Pairwise fun earlier later => later.repeated = false → earlier.id < later.id
  original : ∀ answer ∈ answers, answer.repeated = true → ∃ first ∈ answers, first.repeated = false ∧
    first.id = answer.id ∧ storedMessageSameIdentity first.message answer.message = true

/-- The store is not cleared, no new message is stored while the next ID is the last one before the
    wrap-around, and at a reboot the record with the last assigned ID is still there. -/
def KeepsNextId (s : Store) : Op → Prop
  | .append msg => ∀ count, readHeader s = some (count, 0xFFFFFFFF) →
      ∃ stored ∈ s.records, storedMessageSameIdentity stored (storedMessageNormalize msg) = true
  | .mark _ => True
  | .clear => False
  | .reboot => ∀ count nextId, readHeader s = some (count, nextId) →
      nextId = 1 ∨ ∃ stored ∈ s.records, nextAfter stored.storeId = nextId

def Log.Ascending (log : Log) : Prop := ∀ id ∈ log.messages.map (·.storeId), id < log.nextId

/-- The IDs given out lie below the next one, and each record was stored under its ID by one of the answers. -/
structure Accounts (answers : List Answer) (log : Log) : Prop where
  below : ∀ answer ∈ answers, answer.id < log.nextId
  source : ∀ stored ∈ log.messages, ∃ first ∈ answers, first.repeated = false ∧ first.id = stored.storeId ∧
    ∀ msg, storedMessageSameIdentity first.message msg = storedMessageSameIdentity stored msg

section Step

variable {s : Store} {log : Log}

theorem nextAfter_lt {id : UInt32} (notMax : id ≠ 0xFFFFFFFF) : id < nextAfter id := by
  rw [UInt32.lt_iff_toNat_lt, nextAfter_toNat notMax]
  omega

theorem deriveNextId_of_ascending (ascending : log.Ascending)
    (newest : log.nextId = 1 ∨ ∃ stored ∈ log.messages, nextAfter stored.storeId = log.nextId) :
    deriveNextId log.messages = log.nextId := by
  rcases newest with first | ⟨stored, member, next⟩
  · have none : log.messages = [] := by
      rw [List.eq_nil_iff_forall_not_mem]
      intro msg member
      have below := ascending _ (List.mem_map_of_mem member)
      rw [first, UInt32.lt_iff_toNat_lt] at below
      change msg.storeId.toNat < 1 at below
      exact log.nonzero msg member (UInt32.toNat_inj.mp (show msg.storeId.toNat = 0 by omega))
    rw [none, first, deriveNextId_nil]
  · have inside := ascending _ (List.mem_map_of_mem member)
    have notMax : stored.storeId ≠ 0xFFFFFFFF := by
      intro last
      rw [last, UInt32.lt_iff_toNat_lt, ← next, last] at inside
      exact absurd inside (by decide)
    rw [← next]
    apply deriveNextId_of_newest _ (List.mem_map_of_mem member) notMax
    intro id other
    have below := UInt32.lt_iff_toNat_lt.mp (ascending id other)
    rw [← next, nextAfter_toNat notMax] at below
    rw [UInt32.le_iff_toNat_le]
    omega

theorem notMax_of_keeps {msg : StoredMessage} (steady : Steady s log) (keeps : KeepsNextId s (.append msg))
    (absent : log.lookup (storedMessageNormalize msg) = none) : log.nextId ≠ 0xFFFFFFFF := by
  rcases steady with serves | ⟨-, rfl⟩
  · intro last
    obtain ⟨stored, member, same⟩ := keeps log.messages.length (last ▸ serves.holds.readHeader)
    rw [Steady.records (Or.inl serves)] at member
    rw [Log.lookup_eq_none.mp absent stored member] at same
    cases same
  · decide

/-- A step keeps the next ID above the stored ones, and an append that stores its message moves it on. -/
theorem Evolution.ascending {op : Op} {after : Log} (evolution : Evolution s log op after) (steady : Steady s log)
    (ascending : log.Ascending) (keeps : KeepsNextId s op) :
    after.Ascending ∧ log.nextId ≤ after.nextId ∧
      ∀ msg, op = .append msg → log.lookup (storedMessageNormalize msg) = none → log.nextId < after.nextId := by
  cases evolution with
  | found msg stored member same =>
    refine ⟨ascending, UInt32.le_refl _, ?_⟩
    rintro _ ⟨⟩ absent
    rw [Log.lookup_eq_none.mp absent stored member] at same
    cases same
  | stored msg _ absent next messages =>
    have notMax := notMax_of_keeps steady keeps absent
    rw [log.following_of_ascending ascending notMax] at next
    have above := nextAfter_lt notMax
    rw [next]
    refine ⟨?_, UInt32.le_of_lt above, fun _ _ _ => above⟩
    intro id member
    rw [messages] at member
    have inside := ((recordsAfter_sublist s _).map (·.storeId)).subset member
    rw [List.map_append, List.map_singleton, List.mem_append, List.mem_singleton] at inside
    rw [next]
    rcases inside with old | rfl
    · exact UInt32.lt_trans (ascending id old) above
    · exact above
  | marked mark _ next messages =>
    rw [next]
    refine ⟨?_, UInt32.le_refl _, nofun⟩
    intro id member
    rw [Marked.map_eq Evolves.storeId messages] at member
    rw [next]
    exact ascending id member
  | cleared => exact absurd keeps id
  | rebooted _ messages next =>
    have newest : log.nextId = 1 ∨ ∃ stored ∈ log.messages, nextAfter stored.storeId = log.nextId := by
      rcases steady with serves | ⟨-, rfl⟩
      · rw [← Steady.records (Or.inl serves)]
        exact keeps _ _ serves.holds.readHeader
      · exact Or.inl rfl
    rw [deriveNextId_of_ascending ascending newest] at next
    rw [next]
    refine ⟨?_, UInt32.le_refl _, nofun⟩
    intro id member
    rw [messages] at member
    rw [next]
    exact ascending id member

/-- Within a step the records stay, move on or go; only the message that is stored now comes in. -/
theorem Evolution.source {op : Op} {after : Log} (evolution : Evolution s log op after) :
    ∀ new ∈ after.messages, (∃ old ∈ log.messages, Evolves old new) ∨
      ∃ msg, op = .append msg ∧ log.lookup (storedMessageNormalize msg) = none ∧
        new = (storedMessageNormalize msg).withId log.nextId := by
  intro new member
  cases evolution with
  | found => exact Or.inl ⟨new, member, .refl new⟩
  | stored msg _ absent next messages =>
    rw [messages] at member
    rcases List.mem_append.mp ((recordsAfter_sublist s _).subset member) with old | added
    · exact Or.inl ⟨new, old, .refl new⟩
    · exact Or.inr ⟨msg, rfl, absent, List.mem_singleton.mp added⟩
  | marked mark _ next messages => exact Or.inl (Marked.exists_old messages new member)
  | cleared => cases member
  | rebooted _ messages next => exact Or.inl ⟨new, messages ▸ member, .refl new⟩

theorem answered_append (steady : Steady s log) (msg : StoredMessage) :
    (∃ stored ∈ log.messages, storedMessageSameIdentity stored (storedMessageNormalize msg) = true ∧
      answered s (.append msg) = some ⟨stored.storeId, storedMessageNormalize msg, true⟩) ∨
    (log.lookup (storedMessageNormalize msg) = none ∧
      answered s (.append msg) = some ⟨log.nextId, storedMessageNormalize msg, false⟩) := by
  simp only [answered, steady.records]
  rcases messageStoreAppend_steady steady msg with ⟨stored, member, same, done, -⟩ | ⟨absent, after, stored, done, -⟩
  · have known : log.messages.any (storedMessageSameIdentity · (storedMessageNormalize msg)) = true :=
      List.any_eq_true.mpr ⟨stored, member, same⟩
    exact Or.inl ⟨stored, member, same, by rw [done, known, Option.map_some]⟩
  · have unknown : log.messages.any (storedMessageSameIdentity · (storedMessageNormalize msg)) = false :=
      List.any_eq_false.mpr fun stored member => Bool.eq_false_iff.mp (Log.lookup_eq_none.mp absent stored member)
    exact Or.inr ⟨absent, by rw [done, unknown, Option.map_some]⟩

theorem NeverReused.concat {answers : List Answer} {answer : Answer} (never : NeverReused answers)
    (fresh : answer.repeated = false → ∀ earlier ∈ answers, earlier.id < answer.id)
    (known : answer.repeated = true → ∃ first ∈ answers, first.repeated = false ∧ first.id = answer.id ∧
      storedMessageSameIdentity first.message answer.message = true) : NeverReused (answers ++ [answer]) where
  ascending := by
    rw [List.pairwise_append]
    refine ⟨never.ascending, List.pairwise_singleton _ _, fun earlier member later last => ?_⟩
    obtain rfl := List.mem_singleton.mp last
    exact fun stored => fresh stored earlier member
  original := by
    intro other member repeated
    have before : ∃ first ∈ answers, first.repeated = false ∧ first.id = other.id ∧
        storedMessageSameIdentity first.message other.message = true := by
      rcases List.mem_append.mp member with old | new
      · exact never.original other old repeated
      · obtain rfl := List.mem_singleton.mp new
        exact known repeated
    obtain ⟨first, inside, rest⟩ := before
    exact ⟨first, List.mem_append_left _ inside, rest⟩

theorem Accounts.evolve {answers more : List Answer} {op : Op} {after : Log} (accounts : Accounts answers log)
    (evolution : Evolution s log op after) (grows : log.nextId ≤ after.nextId)
    (bounded : ∀ answer ∈ more, answer.id < after.nextId)
    (added : ∀ msg, op = .append msg → log.lookup (storedMessageNormalize msg) = none →
      ⟨log.nextId, storedMessageNormalize msg, false⟩ ∈ more) : Accounts (answers ++ more) after where
  below := by
    intro answer member
    rcases List.mem_append.mp member with old | new
    · exact UInt32.lt_of_lt_of_le (accounts.below answer old) grows
    · exact bounded answer new
  source := by
    intro stored member
    rcases evolution.source stored member with ⟨old, inside, evolves⟩ | ⟨msg, rfl, absent, rfl⟩
    · obtain ⟨first, listed, new, id, same⟩ := accounts.source old inside
      refine ⟨first, List.mem_append_left _ listed, new, id.trans evolves.storeId.symm, fun msg => ?_⟩
      exact (same msg).trans (evolves.sameIdentity (.refl msg)).symm
    · exact ⟨_, List.mem_append_right _ (added msg rfl absent), rfl, rfl, fun _ => rfl⟩

/-- What is kept along a run: the answers so far and a log that they account for. -/
def Allocates (answers : List Answer) (s : Store) : Prop :=
  NeverReused answers ∧ ∃ log : Log, Steady s log ∧ log.Ascending ∧ Accounts answers log

theorem Allocates.exec {answers : List Answer} (allocates : Allocates answers s) {op : Op} (keeps : KeepsNextId s op) :
    Allocates (answers ++ (answered s op).toList) (exec s op) := by
  obtain ⟨never, log, steady, ascending, accounts⟩ := allocates
  obtain ⟨after, kept, -, evolution⟩ := exec_steady steady op
  obtain ⟨above, grows, moves⟩ := evolution.ascending steady ascending keeps
  cases op with
  | append msg =>
    rcases answered_append steady msg with ⟨stored, member, same, answer⟩ | ⟨absent, answer⟩
    · rw [answer, Option.toList_some]
      have id := ascending _ (List.mem_map_of_mem member)
      refine ⟨never.concat nofun fun _ => ?_, after, kept, above, accounts.evolve evolution grows ?_ ?_⟩
      · obtain ⟨first, listed, new, first_id, alike⟩ := accounts.source stored member
        exact ⟨first, listed, new, first_id, (alike _).trans same⟩
      · intro _ last
        obtain rfl := List.mem_singleton.mp last
        exact UInt32.lt_of_lt_of_le id grows
      · rintro _ ⟨⟩ absent
        rw [Log.lookup_eq_none.mp absent stored member] at same
        cases same
    · rw [answer, Option.toList_some]
      refine ⟨never.concat (fun _ => accounts.below) nofun, after, kept, above, accounts.evolve evolution grows ?_ ?_⟩
      · intro _ last
        obtain rfl := List.mem_singleton.mp last
        exact moves msg rfl absent
      · rintro _ ⟨⟩ _
        exact List.mem_singleton_self _
  | mark mark => exact ⟨by simpa [answered] using never, after, kept, above,
      accounts.evolve evolution grows (by simp [answered]) nofun⟩
  | clear => exact absurd keeps id
  | reboot => exact ⟨by simpa [answered] using never, after, kept, above,
      accounts.evolve evolution grows (by simp [answered]) nofun⟩

end Step

section Run

variable {s : Store} {ops : List Op}

theorem run_allocates {answers : List Answer} (allocates : Allocates answers s) (meets : Along exec KeepsNextId s ops) :
    Allocates (answers ++ answersAlong s ops) (run exec s ops) := by
  induction ops generalizing s answers with
  | nil =>
    rw [answersAlong, List.append_nil]
    exact allocates
  | cons op rest ih =>
    rw [answersAlong, ← List.append_assoc, run_cons]
    exact ih (allocates.exec meets.1) meets.2

theorem initial_allocates (backend : Option MessageStoreBackend) : Allocates [] (Store.initial backend) :=
  ⟨⟨.nil, by simp⟩, Log.empty, Or.inr ⟨initial_blank backend, rfl⟩, by simp [Log.Ascending, Log.empty],
    ⟨by simp, by simp [Log.empty]⟩⟩

end Run

/-- As long as no reboot finds the last assigned ID gone and no append wraps around, every message that is
    stored gets an ID above all earlier ones and every other append is answered with the ID of a message
    of the same identity, and the next ID of the header never decreases. -/
theorem ids_never_reused (backend : Option MessageStoreBackend) (ops : List Op)
    (keeps : Along exec KeepsNextId (Store.initial backend) ops) :
    NeverReused (answersAlong (Store.initial backend) ops) ∧
      ∀ before op rest, ops = before ++ op :: rest → ∀ count nextId newCount newNextId,
        readHeader (run exec (Store.initial backend) before) = some (count, nextId) →
        readHeader (run exec (Store.initial backend) (before ++ [op])) = some (newCount, newNextId) →
        nextId ≤ newNextId := by
  refine ⟨(run_allocates (initial_allocates backend) keeps).1, ?_⟩
  rintro before op rest rfl count nextId newCount newNextId header newHeader
  obtain ⟨first, here, -⟩ := along_append.mp keeps
  obtain ⟨-, log, reached, above, -⟩ := run_allocates (initial_allocates backend) first
  obtain ⟨after, kept, -, evolution⟩ := exec_steady reached op
  rw [run_concat] at newHeader
  rw [reached.header header, kept.header newHeader]
  exact (evolution.ascending reached above here).2.1

theorem arrivals_keep {count : Nat} (within : count ≤ 512) :
    Along exec KeepsNextId (Store.initial none) (arrivals count) := by
  induction count with
  | zero => exact True.intro
  | succ count ih =>
    have ops : arrivals (count + 1) = arrivals count ++ [.append (sampleMessage (UInt32.ofNat (count + 1)) false)] := by
      rw [arrivals, List.range_succ, List.map_append, List.map_singleton]
      rfl
    obtain ⟨log, steady, -, -, next⟩ := arrivals_steady (show count ≤ 512 by omega)
    rw [ops, along_append]
    refine ⟨ih (by omega), ?_, True.intro⟩
    intro stored header
    have number := congrArg UInt32.toNat ((steady.header header).trans next)
    rw [toNat_ofNat32 (by omega)] at number
    change 2 ^ 32 - 1 = count + 1 at number
    omega

/-- Three messages, the third of them once more, and a reboot. -/
def repeatedArrivals : List Op := arrivals 3 ++ [.append (sampleMessage 3 false), .reboot]

theorem ids_never_reused_arrivals : Along exec KeepsNextId (Store.initial none) repeatedArrivals ∧
    NeverReused (answersAlong (Store.initial none) repeatedArrivals) := by
  have keeps : Along exec KeepsNextId (Store.initial none) repeatedArrivals := by
    obtain ⟨log, steady, -, messages, next⟩ := arrivals_steady (show 3 ≤ 512 by decide)
    have newest : (sampleMessage 3 false).withId 3 ∈ log.messages := by
      rw [messages]
      exact List.mem_map.mpr ⟨2, by decide, rfl⟩
    have known : storedMessageSameIdentity ((sampleMessage 3 false).withId 3)
        (storedMessageNormalize (sampleMessage 3 false)) = true := by
      rw [sampleMessage_normal (by decide)]
      exact storedMessageSameIdentity_self _
    have same : exec (run exec (Store.initial none) (arrivals 3)) (.append (sampleMessage 3 false)) =
        run exec (Store.initial none) (arrivals 3) := by
      rcases messageStoreAppend_steady steady (sampleMessage 3 false) with ⟨_, _, _, done, _⟩ | ⟨absent, -⟩
      · rw [exec, perform, done]
      · rw [Log.lookup_eq_none.mp absent _ newest] at known
        cases known
    rw [repeatedArrivals, along_append]
    refine ⟨arrivals_keep (by decide), fun _ _ => ⟨_, steady.records ▸ newest, known⟩, ?_, True.intro⟩
    intro count nextId header
    rw [same] at header ⊢
    refine Or.inr ⟨_, steady.records ▸ newest, ?_⟩
    rw [steady.header header, next]
    rfl
  exact ⟨keeps, (ids_never_reused none _ keeps).1⟩

theorem answersAlong_append (s : Store) (before after : List Op) :
    answersAlong s (before ++ after) = answersAlong s before ++ answersAlong (run exec s before) after := by
  induction before generalizing s with
  | nil => rfl
  | cons op rest ih => rw [List.cons_append, answersAlong, ih, answersAlong, List.append_assoc, run_cons]

theorem compacted_backlog {newest : StoredMessage} (sent : unsentIncoming newest = false) :
    (compactedRecords 448 (arrivedRecords 512 ++ [newest])).Sublist (arrivedRecords 512) ∧
      (sampleMessage 512 false).withId 512 ∈ compactedRecords 448 (arrivedRecords 512 ++ [newest]) := by
  have unsent : (arrivedRecords 512 ++ [newest]).countP unsentIncoming = 512 := by
    rw [List.countP_append, countP_arrivedRecords, List.countP_singleton, sent]
    rfl
  have length : (arrivedRecords 512).length = 512 := by rw [arrivedRecords, List.length_map, List.length_range]
  have split : compactedRecords 448 (arrivedRecords 512 ++ [newest]) =
      Retention.skipOldest unsentIncoming 64 1 (arrivedRecords 512) := by
    rw [compactedRecords, unsentToDrop, othersToDrop, unsentToDrop, unsent, List.length_append, length,
      List.length_singleton, Retention.skipOldest_append_singleton, sent, countP_arrivedRecords, length]
    simp
  have last : arrivedRecords 512 = arrivedRecords 511 ++ [(sampleMessage 512 false).withId 512] :=
    arrivedRecords_succ 511
  rw [split]
  refine ⟨Retention.skipOldest_sublist _ _ _ _, ?_⟩
  rw [last, Retention.skipOldest_append_singleton, countP_arrivedRecords]
  exact List.mem_append_right _ (by decide)

theorem full_backlog_append :
    ∃ full kept, messageStoreAppend (run exec (Store.initial none) (arrivals 512)) (sampleMessage 513 true) =
        (some 513, full) ∧
        answered (run exec (Store.initial none) (arrivals 512)) (.append (sampleMessage 513 true)) =
          some ⟨513, storedMessageNormalize (sampleMessage 513 true), false⟩ ∧
        Serves full kept ∧ kept.nextId = 514 ∧ kept.messages.Sublist (arrivedRecords 512) ∧
        (sampleMessage 512 false).withId 512 ∈ kept.messages := by
  obtain ⟨log, steady, default, messages, next⟩ := arrivals_steady (Nat.le_refl 512)
  generalize run exec (Store.initial none) (arrivals 512) = s at steady default ⊢
  have normal : storedMessageNormalize (sampleMessage 513 true) = _ := sampleMessage_normal (by decide) true
  have ascending : log.Ascending := by
    intro id member
    have below := arrivedRecords_below (show 512 < 2 ^ 32 by decide) id (messages ▸ member)
    rw [next, UInt32.lt_iff_toNat_lt]
    exact Nat.lt_succ_of_le below
  have follow : log.following = 514 := by
    rw [log.following_of_ascending ascending (by rw [next]; decide), next]
    rfl
  rcases messageStoreAppend_steady steady (sampleMessage 513 true) with
    ⟨stored, member, same, -⟩ | ⟨absent, full, kept, done, served, -, nextFull, records⟩
  · have different : storedMessageSameIdentity stored (sampleMessage 513 true) = false :=
      arrivedRecords_absent (show 512 < 513 by decide) (by decide) true stored (messages ▸ member)
    rw [normal, different] at same
    cases same
  · have id : log.nextId = 513 := next
    have length : (arrivedRecords 512).length = 512 := by rw [arrivedRecords, List.length_map, List.length_range]
    have survivors := compacted_backlog (show unsentIncoming ((sampleMessage 513 true).withId 513) = false from rfl)
    rw [recordsAfter, normal, messages, id, backendMaxRecords_default default, backendCompactToRecords_default default,
      List.length_append, length, List.length_singleton, if_pos (Nat.lt_succ_self 512)] at records
    have handed : answered s (.append (sampleMessage 513 true)) =
        some ⟨513, storedMessageNormalize (sampleMessage 513 true), false⟩ := by
      rcases answered_append steady (sampleMessage 513 true) with ⟨stored, member, same, -⟩ | ⟨-, answer⟩
      · rw [Log.lookup_eq_none.mp absent stored member] at same
        cases same
      · rw [answer, id]
    rw [id] at done
    refine ⟨full, kept, done, handed, served, nextFull.trans follow, ?_⟩
    rw [records]
    exact survivors

/-- The dropped record of the full default store costs its ID: the reboot derives it again and the
    next message receives it. -/
theorem id_reused_after_reboot :
    storedMessageSameIdentity (storedMessageNormalize (sampleMessage 513 true))
        (storedMessageNormalize (sampleMessage 514 false)) = false ∧
      (∃ answers, answersAlong (Store.initial none)
        ((arrivals 512 ++ [.append (sampleMessage 513 true)]) ++ [.reboot, .append (sampleMessage 514 false)]) =
          answers ++ [⟨513, storedMessageNormalize (sampleMessage 513 true), false⟩,
            ⟨513, storedMessageNormalize (sampleMessage 514 false), false⟩]) ∧
      ∃ count newCount,
        readHeader (run exec (Store.initial none) (arrivals 512 ++ [.append (sampleMessage 513 true)])) =
          some (count, 514) ∧
        readHeader (run exec (Store.initial none) ((arrivals 512 ++ [.append (sampleMessage 513 true)]) ++ [.reboot])) =
          some (newCount, 513) := by
  have normal : storedMessageNormalize (sampleMessage 514 false) = _ := sampleMessage_normal (by decide) false
  obtain ⟨full, kept, done, handed, served, next, sub, newest⟩ := full_backlog_append
  have stored : exec (run exec (Store.initial none) (arrivals 512)) (.append (sampleMessage 513 true)) = full := by
    rw [exec, perform, done]
  obtain ⟨rebooted, booted, begun, serves, -, same, derived⟩ := messageStoreBegin_serves served
  have up : exec full .reboot = rebooted := by rw [exec, perform, begun]
  have again : booted.nextId = 513 := by
    rw [derived, deriveNextId_of_newest _ (List.mem_map_of_mem newest) (show (512 : UInt32) ≠ 0xFFFFFFFF by decide)]
    · rfl
    · intro id member
      exact arrivedRecords_below (show 512 < 2 ^ 32 by decide) id ((sub.map _).subset member)
  have reused : answered rebooted (.append (sampleMessage 514 false)) =
      some ⟨513, storedMessageNormalize (sampleMessage 514 false), false⟩ := by
    rcases answered_append (Or.inl serves) (sampleMessage 514 false) with ⟨found, member, matched, -⟩ | ⟨-, answer⟩
    · have different : storedMessageSameIdentity found (sampleMessage 514 false) = false :=
        arrivedRecords_absent (show 512 < 514 by decide) (by decide) false found (sub.subset (same ▸ member))
      rw [normal, different] at matched
      cases matched
    · rw [answer, again]
  refine ⟨?_, ⟨answersAlong (Store.initial none) (arrivals 512), ?_⟩, ?_⟩
  · rw [normal, sampleMessage_normal (by decide) true]
    exact Bool.eq_false_iff.mpr (fun equal => absurd (sampleMessage_sameIdentity equal) (by decide))
  · rw [answersAlong_append, answersAlong_append, run_concat, stored]
    simp only [answersAlong, handed, up, reused]
    simp [answered]
  · rw [run_concat, run_concat, run_concat, stored, up]
    exact ⟨_, _, next ▸ served.holds.readHeader, again ▸ serves.holds.readHeader⟩

end SigurdOS.MessageStore
