import SigurdOS.MessageStore.Retrieval
import SigurdOS.Ui.ChatHistory

namespace SigurdOS.Ui

open Bytes Hal Runs MessageStore SigurdOS.Utils

section Convert

def directPrefix : List UInt8 := [0x44, 0x4D, 0x3A, 0x20]

def attributedText (sender : CString legacyChatHistorySenderLen) (text : CString legacyChatHistoryTextLen) :
    CString textLen :=
  let name := sender.chars.take (textLen - 1)
  let front := if name.length + 2 < textLen then name ++ [0x3A, 0x20] else name
  { chars := front ++ text.chars.take (utf8TruncateBytes text.chars (textLen - 1 - front.length))
    fits := by
      have kept := utf8TruncateBytes_le_max text.chars (textLen - 1 - front.length)
      have taken := List.length_take_le (utf8TruncateBytes text.chars (textLen - 1 - front.length)) text.chars
      have short : front.length ≤ textLen - 1 := by
        have bound : name.length ≤ textLen - 1 := List.length_take_le _ _
        dsimp only [front]
        split
        · rw [List.length_append]
          change name.length + 2 ≤ textLen - 1
          omega
        · exact bound
      rw [List.length_append]
      omega
    nonzero := by
      have named : ∀ byte ∈ name, byte ≠ 0 := fun byte member => sender.nonzero byte (List.mem_of_mem_take member)
      have mark : ∀ byte ∈ ([0x3A, 0x20] : List UInt8), byte ≠ 0 := by decide
      intro byte member
      rcases List.mem_append.mp member with before | behind
      · dsimp only [front] at before
        split at before
        · rcases List.mem_append.mp before with inside | after
          · exact named byte inside
          · exact mark byte after
        · exact named byte before
      · exact text.nonzero byte (List.mem_of_mem_take behind) }

def legacyChatMessageToStored (channel : CString legacyChatHistoryChannelNameLen) (legacy : LegacyChatMessage) :
    StoredMessage :=
  let isChannel := channel.chars.take 4 != directPrefix
  { storeId := 0
    conversation := channel.truncate (conversationLen - 1)
    sender := legacy.sender.truncate (senderLen - 1)
    text :=
      if isChannel && !legacy.isSelf && !legacy.sender.chars.isEmpty then attributedText legacy.sender legacy.text
      else truncatedText legacy.text.chars
    timestamp := legacy.timestamp
    senderPrefix := ⟨List.replicate prefixLen 0, zeros_length prefixLen⟩
    rssi := 0
    snrQuarters := 0
    pathLen := 0xFF
    txtType := 0
    attempt := 0
    extraLen := 0
    extra := ⟨List.replicate extraSize 0, zeros_length extraSize⟩
    isSelf := legacy.isSelf
    isChannel := isChannel
    acked := false
    confirmationLost := false
    -- Self-authored records are never mirrored to the companion app.
    companionSent := legacy.isSelf
    routeFlood := false
    routeKnown := false
    attemptKnown := false }

def LegacyEntry.stored (entry : LegacyEntry) : StoredMessage := legacyChatMessageToStored entry.1 entry.2

def migrateLegacyHistoryMessage (channel : CString legacyChatHistoryChannelNameLen) (legacy : LegacyChatMessage)
    (s : Store) : Bool × Store :=
  if channel.chars = [] then (false, s)
  else
    let (storeId, s) := messageStoreAppend s (legacyChatMessageToStored channel legacy)
    (storeId.isSome, s)

end Convert

section Attempts

/-- The callback with the number of calls it still answers; it refuses the message after them. -/
def refusing {σ : Type} (writeMessage : LegacyChatHistoryMessageFn σ)
    (channel : CString legacyChatHistoryChannelNameLen) (legacy : LegacyChatMessage) : Nat × σ → Bool × Nat × σ
  | (0, s) => (false, 0, s)
  | (left + 1, s) =>
    let (ok, s) := writeMessage channel legacy s
    (ok, left, s)

/-- An attempt that nothing cuts, one whose callback fails after so many messages, and one that loses the
    power after so many messages or, when there are no more of them, before the files are removed. -/
inductive MigrationAttempt where
  | whole
  | refusedAfter (messages : Nat)
  | powerLostAfter (messages : Nat)
  deriving DecidableEq

/-- `accepted` is a history variable that no function reads: the most messages of the file that an attempt
    has brought into the store. -/
structure Migration where
  file : AtomicFile
  store : Store
  accepted : Nat

def Migration.start (file : AtomicFile) (store : Store) : Migration := ⟨file, store, 0⟩

@[simp] theorem Migration.start_file (file : AtomicFile) (store : Store) : (Migration.start file store).file = file :=
  rfl

def migrationStep (m : Migration) : MigrationAttempt → Migration
  | .whole =>
    let done := legacyChatHistoryMigrate migrateLegacyHistoryMessage m.file m.store
    ⟨done.file, done.state, max m.accepted (loadHistory migrateLegacyHistoryMessage m.file m.store).2.1⟩
  | .refusedAfter messages =>
    let done := legacyChatHistoryMigrate (refusing migrateLegacyHistoryMessage) m.file (messages, m.store)
    let loaded := (loadHistory (refusing migrateLegacyHistoryMessage) m.file (messages, m.store)).2.1
    ⟨done.file, done.state.2, max m.accepted loaded⟩
  | .powerLostAfter messages =>
    let cut := loadHistory (refusing migrateLegacyHistoryMessage) m.file (messages, m.store)
    ⟨recoveredHistory m.file, (messageStoreBegin cut.2.2.2.powerOn).2, max m.accepted cut.2.1⟩

end Attempts

section Content

def known (records : List StoredMessage) (msg : StoredMessage) : Bool :=
  records.any (fun stored => storedMessageSameIdentity stored (storedMessageNormalize msg))

def withoutIds (records : List StoredMessage) : List StoredMessage := records.map (·.withId 0)

def absorb (maxRecords compactTo : Nat) (records : List StoredMessage) (msg : StoredMessage) : List StoredMessage :=
  if known records msg then records
  else
    let grown := records ++ [(storedMessageNormalize msg).withId 0]
    if grown.length > maxRecords then compactedRecords compactTo grown else grown

structure Content (maxRecords compactTo : Nat) (s : Store) (records : List StoredMessage) : Prop where
  steady : ∃ log, Steady s log ∧ withoutIds log.messages = records
  limit : backendMaxRecords s = maxRecords
  target : backendCompactToRecords s = compactTo

variable {maxRecords compactTo : Nat} {s : Store} {records : List StoredMessage}

theorem known_withoutIds (records : List StoredMessage) (msg : StoredMessage) :
    known (withoutIds records) msg = known records msg := by
  rw [known, withoutIds, List.any_map]
  rfl

theorem known_iff {msg : StoredMessage} : known records msg = true ↔
    ∃ stored ∈ records, storedMessageSameIdentity stored (storedMessageNormalize msg) = true := List.any_eq_true

theorem Content.records_eq (content : Content maxRecords compactTo s records) : withoutIds s.records = records := by
  obtain ⟨log, steady, same⟩ := content.steady
  rw [steady.records, same]

theorem Content.of_steady {log : Log} (steady : Steady s log) :
    Content (backendMaxRecords s) (backendCompactToRecords s) s (withoutIds log.messages) :=
  ⟨⟨log, steady, rfl⟩, rfl, rfl⟩

theorem backendLimits_eq {after : Store} (same : after.backend = s.backend) :
    backendMaxRecords after = backendMaxRecords s ∧ backendCompactToRecords after = backendCompactToRecords s := by
  unfold backendMaxRecords backendCompactToRecords
  rw [same]
  exact ⟨rfl, rfl⟩

theorem withoutIds_recordsAfter (s : Store) (messages : List StoredMessage) (msg : StoredMessage) (id : UInt32) :
    withoutIds (recordsAfter s (messages ++ [msg.withId id])) =
      if (withoutIds messages ++ [msg.withId 0]).length > backendMaxRecords s then
        compactedRecords (backendCompactToRecords s) (withoutIds messages ++ [msg.withId 0])
      else withoutIds messages ++ [msg.withId 0] := by
  have grown : withoutIds (messages ++ [msg.withId id]) = withoutIds messages ++ [msg.withId 0] := List.map_append
  have length : (withoutIds messages ++ [msg.withId 0]).length = (messages ++ [msg.withId id]).length := by
    rw [← grown, withoutIds, List.length_map]
  rw [recordsAfter, length, ← grown]
  split
  · exact (compactedRecords_map (f := (·.withId 0)) (fun _ => rfl) _ _).symm
  · rfl

theorem Content.append (content : Content maxRecords compactTo s records) (msg : StoredMessage) :
    ∃ id after, messageStoreAppend s msg = (some id, after) ∧
      Content maxRecords compactTo after (absorb maxRecords compactTo records msg) := by
  obtain ⟨⟨log, steady, rfl⟩, rfl, rfl⟩ := content
  rcases messageStoreAppend_steady steady msg with
    ⟨stored, member, same, done, serves⟩ | ⟨absent, after, next, done, served, backend, -, messages⟩
  · have found : known (withoutIds log.messages) msg = true := by
      rw [known_withoutIds]
      exact known_iff.mpr ⟨stored, member, same⟩
    rw [absorb, if_pos found]
    exact ⟨_, s, done, .of_steady steady⟩
  · have missing : ¬ known (withoutIds log.messages) msg = true := by
      rw [known_withoutIds, known_iff]
      rintro ⟨stored, member, same⟩
      rw [Log.lookup_eq_none.mp absent stored member] at same
      cases same
    obtain ⟨limit, target⟩ := backendLimits_eq backend
    rw [absorb, if_neg missing, ← withoutIds_recordsAfter s _ _ log.nextId, ← messages]
    exact ⟨_, after, done, ⟨next, Or.inl served, rfl⟩, limit, target⟩

theorem Content.reboot (content : Content maxRecords compactTo s records) :
    Content maxRecords compactTo (messageStoreBegin s.powerOn).2 records := by
  obtain ⟨⟨log, steady, rfl⟩, rfl, rfl⟩ := content
  obtain ⟨after, booted, done, served, backend, messages, -⟩ := messageStoreBegin_steady steady
  obtain ⟨limit, target⟩ := backendLimits_eq backend
  rw [done]
  exact ⟨⟨booted, Or.inl served, by rw [messages]⟩, limit, target⟩

end Content

section Offers

def named (entry : LegacyEntry) : Bool := !entry.1.chars.isEmpty

def historyOf (file : AtomicFile) : List LegacyEntry × Bool :=
  match (recoveredHistory file).live with
  | none => ([], false)
  | some bytes => legacyMessages bytes

/-- The messages a migration gets to: the callback refuses a message of a channel without a name. -/
def deliverable (file : AtomicFile) : List LegacyEntry := (historyOf file).1.takeWhile named

def Complete (file : AtomicFile) : Prop := (historyOf file).2 = true ∧ ∀ entry ∈ (historyOf file).1, named entry = true

instance (file : AtomicFile) : Decidable (Complete file) := inferInstanceAs (Decidable (_ ∧ _))

def MigrationAttempt.reaches : MigrationAttempt → List LegacyEntry → List LegacyEntry
  | .whole, entries => entries
  | .refusedAfter messages, entries => entries.take messages
  | .powerLostAfter messages, entries => entries.take messages

def absorbAll (maxRecords compactTo : Nat) (records : List StoredMessage) (entries : List LegacyEntry) :
    List StoredMessage := run (fun records entry => absorb maxRecords compactTo records entry.stored) records entries

theorem absorbAll_singleton (maxRecords compactTo : Nat) (records : List StoredMessage) (entry : LegacyEntry) :
    absorbAll maxRecords compactTo records [entry] = absorb maxRecords compactTo records entry.stored := rfl

theorem loadHistory_eq {σ : Type} (writeMessage : LegacyChatHistoryMessageFn σ) (file : AtomicFile) (s : σ) :
    loadHistory writeMessage file s =
      ((offer writeMessage (historyOf file).1 0 s).1 && (historyOf file).2,
        (offer writeMessage (historyOf file).1 0 s).2) := by
  rw [loadHistory, historyOf]
  cases (recoveredHistory file).live with
  | none => rfl
  | some bytes => exact loadFromReader_eq bytes s

theorem migrate_file {σ : Type} (writeMessage : LegacyChatHistoryMessageFn σ) (file : AtomicFile) (s : σ) :
    (legacyChatHistoryMigrate writeMessage file s).file =
        (if (loadHistory writeMessage file s).1 then ⟨none, none⟩ else recoveredHistory file) ∧
      (legacyChatHistoryMigrate writeMessage file s).state = (loadHistory writeMessage file s).2.2 := by
  rw [legacyChatHistoryMigrate]
  split
  · rename_i missing
    rw [loadHistory, missing]
    exact ⟨rfl, rfl⟩
  · rcases loadHistory writeMessage file s with ⟨_ | _, reached⟩ <;> exact ⟨rfl, rfl⟩

theorem offer_refusing {σ : Type} (writeMessage : LegacyChatHistoryMessageFn σ)
    (entries : List LegacyEntry) (left loaded : Nat) (s : σ) :
    (offer (refusing writeMessage) entries loaded (left, s)).1 =
        ((offer writeMessage (entries.take left) loaded s).1 && decide (entries.length ≤ left)) ∧
      (offer (refusing writeMessage) entries loaded (left, s)).2.1 =
        (offer writeMessage (entries.take left) loaded s).2.1 ∧
      (offer (refusing writeMessage) entries loaded (left, s)).2.2.2 =
        (offer writeMessage (entries.take left) loaded s).2.2 := by
  induction entries generalizing left loaded s with
  | nil => simp [offer]
  | cons entry rest ih =>
    obtain ⟨name, record⟩ := entry
    cases left with
    | zero => simp [offer, refusing]
    | succ left =>
      rw [List.take_succ_cons, offer, offer, refusing]
      rcases writeMessage name record s with ⟨_ | _, after⟩
      · exact ⟨rfl, rfl, rfl⟩
      · simpa only [List.length_cons, Nat.succ_le_succ_iff] using ih left (loaded + 1) after

variable {maxRecords compactTo : Nat} {s : Store} {records : List StoredMessage}

theorem Content.offer (content : Content maxRecords compactTo s records) (entries : List LegacyEntry) (loaded : Nat) :
    ∃ after, Ui.offer migrateLegacyHistoryMessage entries loaded s =
        (entries.all named, loaded + (entries.takeWhile named).length, after) ∧
      Content maxRecords compactTo after (absorbAll maxRecords compactTo records (entries.takeWhile named)) := by
  induction entries generalizing loaded s records with
  | nil => exact ⟨s, rfl, content⟩
  | cons entry rest ih =>
    obtain ⟨name, record⟩ := entry
    by_cases empty : name.chars = []
    · have unnamed : named (name, record) = false := by simp [named, empty]
      rw [List.all_cons, List.takeWhile_cons_of_neg (by simp [unnamed]), unnamed, Ui.offer,
        migrateLegacyHistoryMessage, if_pos empty]
      exact ⟨s, rfl, content⟩
    · have has : named (name, record) = true := by simp [named, empty]
      obtain ⟨id, after, done, next⟩ := content.append (legacyChatMessageToStored name record)
      obtain ⟨last, reached, final⟩ := ih next (loaded + 1)
      have count : loaded + ((rest.takeWhile named).length + 1) = loaded + 1 + (rest.takeWhile named).length := by omega
      rw [List.all_cons, List.takeWhile_cons_of_pos has, has, Bool.true_and, List.length_cons, count, Ui.offer,
        migrateLegacyHistoryMessage, if_neg empty, done]
      exact ⟨last, reached, final⟩

theorem Complete.deliverable {file : AtomicFile} (complete : Complete file) :
    deliverable file = (historyOf file).1 := List.takeWhile_eq_self_iff.mpr complete.2

theorem complete_of_valid {file : AtomicFile} {bytes : List UInt8} (live : (recoveredHistory file).live = some bytes)
    (valid : validateHistory bytes = true) (names : ∀ entry ∈ (legacyMessages bytes).1, named entry = true) :
    Complete file := by
  rw [Complete, historyOf, live]
  exact ⟨legacyMessages_of_valid valid, names⟩

theorem Content.load (content : Content maxRecords compactTo s records) (file : AtomicFile) :
    ∃ after, loadHistory migrateLegacyHistoryMessage file s =
        (decide (Complete file), (deliverable file).length, after) ∧
      Content maxRecords compactTo after (absorbAll maxRecords compactTo records (deliverable file)) := by
  obtain ⟨after, done, next⟩ := content.offer (historyOf file).1 0
  have whole : ((historyOf file).1.all named && (historyOf file).2) = decide (Complete file) := by
    rw [Bool.eq_iff_iff, decide_eq_true_eq, Bool.and_eq_true, List.all_eq_true, and_comm]
    rfl
  refine ⟨after, ?_, next⟩
  rw [loadHistory_eq, done, whole, Nat.zero_add, deliverable]

theorem Content.load_refusing (content : Content maxRecords compactTo s records) (file : AtomicFile) (messages : Nat) :
    ((loadHistory (refusing migrateLegacyHistoryMessage) file (messages, s)).1 = true →
        Complete file ∧ (deliverable file).take messages = deliverable file) ∧
      (loadHistory (refusing migrateLegacyHistoryMessage) file (messages, s)).2.1 =
        ((deliverable file).take messages).length ∧
      Content maxRecords compactTo (loadHistory (refusing migrateLegacyHistoryMessage) file (messages, s)).2.2.2
        (absorbAll maxRecords compactTo records ((deliverable file).take messages)) := by
  obtain ⟨after, done, next⟩ := content.offer ((historyOf file).1.take messages) 0
  obtain ⟨ok, loaded, state⟩ := offer_refusing migrateLegacyHistoryMessage (historyOf file).1 messages 0 s
  rw [done, ← List.take_takeWhile] at loaded state
  rw [← List.take_takeWhile] at next
  rw [loadHistory_eq]
  refine ⟨?_, loaded.trans (Nat.zero_add _), state ▸ next⟩
  intro finished
  rw [ok, done, Bool.and_eq_true, Bool.and_eq_true, decide_eq_true_eq] at finished
  obtain ⟨⟨all, enough⟩, whole⟩ := finished
  rw [List.take_of_length_le enough, List.all_eq_true] at all
  have complete : Complete file := ⟨whole, all⟩
  refine ⟨complete, ?_⟩
  rw [complete.deliverable, List.take_of_length_le enough]

theorem migrationStep_content {m : Migration} (content : Content maxRecords compactTo m.store records)
    (attempt : MigrationAttempt) :
    Content maxRecords compactTo (migrationStep m attempt).store
        (absorbAll maxRecords compactTo records (attempt.reaches (deliverable m.file))) ∧
      (migrationStep m attempt).accepted = max m.accepted (attempt.reaches (deliverable m.file)).length ∧
      ((migrationStep m attempt).file = recoveredHistory m.file ∨
        (Complete m.file ∧ attempt.reaches (deliverable m.file) = deliverable m.file ∧
          (migrationStep m attempt).file = ⟨none, none⟩)) := by
  cases attempt with
  | whole =>
    obtain ⟨after, done, next⟩ := content.load m.file
    obtain ⟨file, state⟩ := migrate_file migrateLegacyHistoryMessage m.file m.store
    rw [done] at file state
    rw [migrationStep, done, file, state]
    refine ⟨next, rfl, ?_⟩
    by_cases complete : Complete m.file
    · exact Or.inr ⟨complete, rfl, by simp [complete]⟩
    · exact Or.inl (by simp [complete])
  | refusedAfter messages =>
    obtain ⟨finished, loaded, next⟩ := content.load_refusing m.file messages
    obtain ⟨file, state⟩ := migrate_file (refusing migrateLegacyHistoryMessage) m.file (messages, m.store)
    rw [migrationStep, file, state]
    refine ⟨next, congrArg (max m.accepted) loaded, ?_⟩
    split
    · rename_i ended
      exact Or.inr ⟨(finished ended).1, (finished ended).2, rfl⟩
    · exact Or.inl rfl
  | powerLostAfter messages =>
    obtain ⟨-, loaded, next⟩ := content.load_refusing m.file messages
    exact ⟨next.reboot, congrArg (max m.accepted) loaded, Or.inl rfl⟩

theorem whole_file {m : Migration} (content : Content maxRecords compactTo m.store records) :
    (migrationStep m .whole).file = if Complete m.file then ⟨none, none⟩ else recoveredHistory m.file := by
  obtain ⟨after, done, -⟩ := content.load m.file
  rw [migrationStep, (migrate_file migrateLegacyHistoryMessage m.file m.store).1, done]
  dsimp only
  split <;> simp_all

end Offers

section Retries

/-- A row of attempts at a migration into a store as a run on a working medium leaves it. -/
def migrating (backend : Option MessageStoreBackend) (ops : List Op) (file : AtomicFile)
    (attempts : List MigrationAttempt) : Migration :=
  run migrationStep (.start file (run exec (Store.initial backend) ops)) attempts

/-- The store still has, for the duplicate check, every message that the attempt offers it again. -/
def Recalls (m : Migration) (attempt : MigrationAttempt) : Prop :=
  ∀ entry ∈ (attempt.reaches (deliverable m.file)).take m.accepted,
    ∃ stored ∈ m.store.records, storedMessageSameIdentity stored (storedMessageNormalize entry.stored) = true

/-- What an attempt leaves to the next one: the same file and the records of the migration so far, or no
    file and the records of the whole migration. -/
def Resumable (maxRecords compactTo : Nat) (file : AtomicFile) (records : List StoredMessage) (m : Migration) : Prop :=
  (recoveredHistory m.file = recoveredHistory file ∧
    Content maxRecords compactTo m.store
      (absorbAll maxRecords compactTo records ((deliverable file).take m.accepted))) ∨
  (m.file = ⟨none, none⟩ ∧ Complete file ∧
    Content maxRecords compactTo m.store (absorbAll maxRecords compactTo records (deliverable file)))

variable {maxRecords compactTo : Nat} {file : AtomicFile} {records : List StoredMessage} {m : Migration}

theorem historyOf_recovered {other : AtomicFile} (same : recoveredHistory other = recoveredHistory file) :
    historyOf other = historyOf file := by rw [historyOf, historyOf, same]

theorem deliverable_removed : deliverable ⟨none, none⟩ = [] := rfl

theorem reaches_nil (attempt : MigrationAttempt) : attempt.reaches [] = [] := by
  cases attempt <;> simp [MigrationAttempt.reaches]

theorem reaches_eq_take (attempt : MigrationAttempt) (entries : List LegacyEntry) :
    attempt.reaches entries = entries.take (attempt.reaches entries).length := by
  cases attempt <;> simp [MigrationAttempt.reaches]

theorem absorb_known {msg : StoredMessage} (has : known records msg = true) :
    absorb maxRecords compactTo records msg = records := by rw [absorb, if_pos has]

theorem deliverable_recovered {other : AtomicFile} (same : recoveredHistory other = recoveredHistory file) :
    deliverable other = deliverable file := by rw [deliverable, historyOf_recovered same, deliverable]

theorem complete_recovered {other : AtomicFile} (same : recoveredHistory other = recoveredHistory file) :
    Complete other ↔ Complete file := by rw [Complete, historyOf_recovered same, Complete]

theorem resumed_content (same : recoveredHistory m.file = recoveredHistory file)
    (content : Content maxRecords compactTo m.store
      (absorbAll maxRecords compactTo records ((deliverable file).take m.accepted)))
    {attempt : MigrationAttempt} (recalls : Recalls m attempt) :
    Content maxRecords compactTo (migrationStep m attempt).store
      (absorbAll maxRecords compactTo records ((deliverable file).take (migrationStep m attempt).accepted)) := by
  have entries := deliverable_recovered same
  obtain ⟨next, accepted, -⟩ := migrationStep_content content attempt
  have idle : ∀ entry ∈ ((deliverable file).take (attempt.reaches (deliverable file)).length).take m.accepted,
      absorb maxRecords compactTo (absorbAll maxRecords compactTo records ((deliverable file).take m.accepted))
        entry.stored = absorbAll maxRecords compactTo records ((deliverable file).take m.accepted) := by
    intro entry member
    rw [← reaches_eq_take, ← entries] at member
    apply absorb_known
    rw [← content.records_eq, known_withoutIds, known_iff]
    exact recalls entry member
  have resumed : absorbAll maxRecords compactTo
      (absorbAll maxRecords compactTo records ((deliverable file).take m.accepted))
      ((deliverable file).take (attempt.reaches (deliverable file)).length) =
        absorbAll maxRecords compactTo records
          ((deliverable file).take (max m.accepted (attempt.reaches (deliverable file)).length)) :=
    run_take_resumed idle
  rw [entries, reaches_eq_take, resumed, ← entries, ← accepted] at next
  exact entries ▸ next

theorem resumable_step (resumable : Resumable maxRecords compactTo file records m) {attempt : MigrationAttempt}
    (recalls : Recalls m attempt) : Resumable maxRecords compactTo file records (migrationStep m attempt) := by
  rcases resumable with ⟨same, content⟩ | ⟨gone, complete, content⟩
  · have next := resumed_content same content recalls
    obtain ⟨-, accepted, files⟩ := migrationStep_content content attempt
    rcases files with kept | ⟨complete, reached, removed⟩
    · refine Or.inl ⟨?_, next⟩
      rw [kept, recoveredHistory_idempotent, same]
    · refine Or.inr ⟨removed, (complete_recovered same).mp complete, ?_⟩
      rw [accepted, reached, deliverable_recovered same, List.take_of_length_le (Nat.le_max_right _ _)] at next
      exact next
  · obtain ⟨next, -, files⟩ := migrationStep_content content attempt
    rw [gone, deliverable_removed, reaches_nil] at next
    refine Or.inr ⟨?_, complete, next⟩
    rcases files with kept | ⟨-, -, removed⟩
    · rw [kept, gone]
      rfl
    · exact removed

theorem resumable_whole (resumable : Resumable maxRecords compactTo file records m) (recalls : Recalls m .whole)
    {s : Store} (content : Content maxRecords compactTo s records) :
    withoutIds (migrationStep m .whole).store.records =
        withoutIds (migrationStep (.start file s) .whole).store.records ∧
      (migrationStep m .whole).file = (migrationStep (.start file s) .whole).file := by
  have once : Content maxRecords compactTo (migrationStep (.start file s) .whole).store
      (absorbAll maxRecords compactTo records (deliverable file)) :=
    (migrationStep_content (m := .start file s) content .whole).1
  rw [once.records_eq, whole_file (m := .start file s) content, Migration.start_file]
  rcases resumable with ⟨same, reached⟩ | ⟨gone, complete, reached⟩
  · have final := resumed_content same reached recalls
    obtain ⟨-, accepted, -⟩ := migrationStep_content reached .whole
    have all : (deliverable file).take (migrationStep m .whole).accepted = deliverable file := by
      rw [accepted, deliverable_recovered same]
      exact List.take_of_length_le (Nat.le_max_right _ _)
    rw [all] at final
    refine ⟨final.records_eq, ?_⟩
    rw [whole_file reached, same]
    simp only [complete_recovered same]
  · obtain ⟨final, -, -⟩ := migrationStep_content reached .whole
    rw [gone, deliverable_removed] at final
    refine ⟨final.records_eq, ?_⟩
    rw [whole_file reached, gone, if_pos complete]
    rfl

end Retries

section Removal

/-- The append that the callback makes of a message returns an ID. -/
def AppendAccepted (s : Store) (entry : LegacyEntry) : Prop := (messageStoreAppend s entry.stored).1.isSome = true

def appendEntry (s : Store) (entry : LegacyEntry) : Store := (messageStoreAppend s entry.stored).2

theorem append_of_accepted {s : Store} {entry : LegacyEntry}
    (accepted : Accepted migrateLegacyHistoryMessage s entry) :
    AppendAccepted s entry ∧ (migrateLegacyHistoryMessage entry.1 entry.2 s).2 = appendEntry s entry := by
  unfold Accepted at accepted
  rw [migrateLegacyHistoryMessage] at accepted ⊢
  split at accepted
  · cases accepted
  · rename_i present
    rw [if_neg present]
    exact ⟨accepted, rfl⟩

theorem accepted_of_refusing {reached : Nat × Store} {entry : LegacyEntry}
    (accepted : Accepted (refusing migrateLegacyHistoryMessage) reached entry) :
    Accepted migrateLegacyHistoryMessage reached.2 entry ∧
      (refusing migrateLegacyHistoryMessage entry.1 entry.2 reached).2.2 =
        (migrateLegacyHistoryMessage entry.1 entry.2 reached.2).2 := by
  obtain ⟨left, s⟩ := reached
  cases left with
  | zero => cases accepted
  | succ left => exact ⟨accepted, rfl⟩

theorem removed_after_append (m : Migration) (attempt : MigrationAttempt) {bytes : List UInt8}
    (live : (recoveredHistory m.file).live = some bytes) (removed : (migrationStep m attempt).file.live = none) :
    (legacyMessages bytes).2 = true ∧ Along appendEntry AppendAccepted m.store (legacyMessages bytes).1 := by
  cases attempt with
  | whole =>
    obtain ⟨ended, accepted⟩ := removed_after_accepted live removed
    exact ⟨ended, along_project id (fun _ _ => append_of_accepted) accepted⟩
  | refusedAfter messages =>
    obtain ⟨ended, accepted⟩ := removed_after_accepted live removed
    refine ⟨ended, along_project Prod.snd ?_ accepted⟩
    intro reached entry taken
    obtain ⟨inner, same⟩ := accepted_of_refusing taken
    rw [same]
    exact append_of_accepted inner
  | powerLostAfter messages =>
    rw [migrationStep, live] at removed
    cases removed

end Removal

section Room

variable {maxRecords compactTo : Nat} {records : List StoredMessage}

theorem known_append {msg : StoredMessage} (has : known records msg = true) (more : List StoredMessage) :
    known (records ++ more) msg = true := by
  rw [known, List.any_append, Bool.or_eq_true]
  exact Or.inl has

theorem known_absorbed (msg : StoredMessage) : known (records ++ [(storedMessageNormalize msg).withId 0]) msg = true :=
  known_iff.mpr ⟨_, List.mem_append_right _ (List.mem_singleton_self _), storedMessageSameIdentity_self _⟩

theorem absorbAll_roomy (compactTo : Nat) (entries : List LegacyEntry)
    (room : records.length + entries.length ≤ maxRecords) :
    records <+: absorbAll maxRecords compactTo records entries ∧
      ∀ entry ∈ entries, known (absorbAll maxRecords compactTo records entries) entry.stored = true := by
  induction entries generalizing records with
  | nil => exact ⟨List.prefix_refl _, fun _ member => nomatch member⟩
  | cons entry rest ih =>
    rw [List.length_cons] at room
    obtain ⟨next, grows, has, short⟩ : ∃ next, records <+: next ∧ known next entry.stored = true ∧
        absorb maxRecords compactTo records entry.stored = next ∧ next.length + rest.length ≤ maxRecords := by
      by_cases has : known records entry.stored = true
      · exact ⟨records, List.prefix_refl _, has, absorb_known has, by omega⟩
      · have length : (records ++ [(storedMessageNormalize entry.stored).withId 0]).length = records.length + 1 :=
          List.length_append
        refine ⟨_, List.prefix_append _ _, known_absorbed entry.stored, ?_, by omega⟩
        rw [absorb, if_neg has, if_neg (by omega)]
    obtain ⟨later, others⟩ := ih short.2
    have whole : absorbAll maxRecords compactTo records (entry :: rest) = absorbAll maxRecords compactTo next rest := by
      rw [absorbAll, run_cons, short.1, absorbAll]
    rw [whole]
    refine ⟨grows.trans later, ?_⟩
    intro other member
    rcases List.mem_cons.mp member with rfl | inside
    · obtain ⟨added, same⟩ := later
      rw [← same]
      exact known_append has added
    · exact others other inside

theorem recalls_of_room {file : AtomicFile} {m : Migration} (resumable : Resumable maxRecords compactTo file records m)
    (room : records.length + m.accepted ≤ maxRecords) (attempt : MigrationAttempt) : Recalls m attempt := by
  intro entry member
  rcases resumable with ⟨same, content⟩ | ⟨gone, -, -⟩
  · rw [deliverable_recovered same, reaches_eq_take, List.take_take] at member
    replace member := (List.take_prefix_take_left (Nat.min_le_left _ _)).subset member
    have short : ((deliverable file).take m.accepted).length ≤ m.accepted := List.length_take_le _ _
    obtain ⟨-, all⟩ := absorbAll_roomy compactTo ((deliverable file).take m.accepted)
      (show records.length + _ ≤ maxRecords by omega)
    have has := all entry member
    rw [← content.records_eq, known_withoutIds] at has
    exact known_iff.mp has
  · rw [gone, deliverable_removed, reaches_nil, List.take_nil] at member
    cases member

theorem roomy_step {file : AtomicFile} {m : Migration} {most : Nat} {attempt : MigrationAttempt}
    (resumable : Resumable maxRecords compactTo file records m) (bounded : m.accepted ≤ most)
    (few : (attempt.reaches (deliverable file)).length ≤ most) (room : records.length + m.accepted ≤ maxRecords) :
    Resumable maxRecords compactTo file records (migrationStep m attempt) ∧
      (migrationStep m attempt).accepted ≤ most := by
  refine ⟨resumable_step resumable (recalls_of_room resumable room attempt), ?_⟩
  rcases resumable with ⟨same, content⟩ | ⟨gone, -, content⟩
  · rw [(migrationStep_content content attempt).2.1, deliverable_recovered same]
    exact Nat.max_le.mpr ⟨bounded, few⟩
  · rw [(migrationStep_content content attempt).2.1, gone, deliverable_removed, reaches_nil]
    exact Nat.max_le.mpr ⟨bounded, Nat.zero_le _⟩

theorem roomy_retries_recalled (backend : Option MessageStoreBackend) (ops : List Op) (file : AtomicFile)
    (attempts : List MigrationAttempt) {most : Nat}
    (few : ∀ attempt ∈ attempts, (attempt.reaches (deliverable file)).length ≤ most)
    (room : (run exec (Store.initial backend) ops).records.length + most ≤
      backendMaxRecords (run exec (Store.initial backend) ops)) :
    Along migrationStep Recalls (.start file (run exec (Store.initial backend) ops)) (attempts ++ [.whole]) := by
  obtain ⟨log, steady⟩ := run_steady backend ops
  generalize run exec (Store.initial backend) ops = s at steady room ⊢
  have content := Content.of_steady steady
  have length : (withoutIds log.messages).length = s.records.length := by
    rw [withoutIds, List.length_map, steady.records]
  have reached : Along migrationStep Recalls (.start file s) attempts ∧ _ := along_of_invariant
    (fun m => Resumable (backendMaxRecords s) (backendCompactToRecords s) file (withoutIds log.messages) m ∧
      m.accepted ≤ most)
    (show _ ∧ (Migration.start file s).accepted ≤ most from ⟨Or.inl ⟨rfl, content⟩, Nat.zero_le _⟩)
    (fun m reached attempt => recalls_of_room reached.1 (by omega) attempt)
    (fun m attempt inside reached => roomy_step reached.1 reached.2 (few attempt inside) (by omega))
  obtain ⟨along, resumable, bounded⟩ := reached
  exact along_append.mpr ⟨along, recalls_of_room resumable (by omega) .whole, trivial⟩

end Room

section Sample

/-- One self-authored message in channel `a`. -/
def sampleHistory : List UInt8 :=
  leBytes 4 historyMagic ++ [historyVersion, 1] ++ (0x61 :: List.replicate 31 0) ++ [1] ++ List.replicate 192 0 ++
    leBytes 4 513 ++ [1]

def sampleEntry : LegacyEntry :=
  (⟨[0x61], by decide, by decide⟩, ⟨⟨[], by decide, noChars_nonzero⟩, ⟨[], by decide, noChars_nonzero⟩, 513, true⟩)

theorem deliverable_sample : deliverable ⟨some sampleHistory, none⟩ = [sampleEntry] := by decide +kernel

theorem sampleHistory_valid : validateHistory sampleHistory = true := by decide +kernel

theorem sampleHistory_complete : Complete ⟨some sampleHistory, none⟩ :=
  complete_of_valid rfl sampleHistory_valid (by decide +kernel)

end Sample

/-- As long as the store still knows each message that a retry offers it again, attempts that are cut anywhere
    change nothing about the outcome; and a legacy file goes only when all of it has been appended. -/
theorem migration_retries_recalled (backend : Option MessageStoreBackend) (ops : List Op) (file : AtomicFile)
    (attempts : List MigrationAttempt) :
    (Along migrationStep Recalls (.start file (run exec (Store.initial backend) ops)) (attempts ++ [.whole]) →
      withoutIds (migrating backend ops file (attempts ++ [.whole])).store.records =
          withoutIds (migrating backend ops file [.whole]).store.records ∧
        (migrating backend ops file (attempts ++ [.whole])).file = (migrating backend ops file [.whole]).file) ∧
      ∀ attempt bytes, (recoveredHistory (migrating backend ops file attempts).file).live = some bytes →
        (migrating backend ops file (attempts ++ [attempt])).file.live = none →
        (legacyMessages bytes).2 = true ∧
          Along appendEntry AppendAccepted (migrating backend ops file attempts).store (legacyMessages bytes).1 := by
  obtain ⟨log, steady⟩ := run_steady backend ops
  unfold migrating
  generalize run exec (Store.initial backend) ops = s at steady ⊢
  have content := Content.of_steady steady
  constructor
  · intro recalls
    obtain ⟨early, last, -⟩ := along_append.mp recalls
    have reached := run_invariant_along (Resumable _ _ file (withoutIds log.messages)) (Or.inl ⟨rfl, content⟩)
      (fun _ _ resumable recalls => resumable_step resumable recalls) early
    rw [run_concat]
    exact resumable_whole reached last content
  · intro attempt bytes live removed
    rw [run_concat] at removed
    exact removed_after_append _ attempt live removed

theorem cutBeforeRemoval_recalled :
    Along migrationStep Recalls (.start ⟨some sampleHistory, none⟩ (run exec (Store.initial none) []))
        ([.powerLostAfter 1] ++ [.whole]) ∧
      withoutIds (migrating none [] ⟨some sampleHistory, none⟩ ([.powerLostAfter 1] ++ [.whole])).store.records =
        withoutIds (migrating none [] ⟨some sampleHistory, none⟩ [.whole]).store.records := by
  have few : ∀ attempt ∈ [MigrationAttempt.powerLostAfter 1],
      (attempt.reaches (deliverable ⟨some sampleHistory, none⟩)).length ≤ 1 := by
    intro attempt member
    obtain rfl := List.mem_singleton.mp member
    exact List.length_take_le _ _
  have recalls := roomy_retries_recalled none [] ⟨some sampleHistory, none⟩ [.powerLostAfter 1] few (by decide)
  obtain ⟨agrees, -⟩ := migration_retries_recalled none [] ⟨some sampleHistory, none⟩ [.powerLostAfter 1]
  exact ⟨recalls, (agrees recalls).1⟩

section FullBacklog

variable {maxRecords compactTo : Nat} {records : List StoredMessage} {msg : StoredMessage}

theorem known_isSelf (incoming : ∀ stored ∈ records, stored.isSelf = false) (sent : msg.isSelf = true) :
    known records msg = false := by
  rw [Bool.eq_false_iff, ne_eq, known_iff]
  rintro ⟨stored, member, same⟩
  unfold storedMessageSameIdentity at same
  simp only [Bool.and_eq_true, beq_iff_eq] at same
  have equal : stored.isSelf = msg.isSelf := same.1.2
  rw [incoming stored member, sent] at equal
  cases equal

theorem isSelf_of_unsent {stored : StoredMessage} (unsent : unsentIncoming stored = true) : stored.isSelf = false := by
  rw [unsentIncoming, Bool.and_eq_true] at unsent
  simpa using unsent.1

theorem absorb_sent_dropped (positive : 0 < compactTo) (smaller : compactTo < maxRecords)
    (full : records.length = maxRecords) (backlog : ∀ stored ∈ records, unsentIncoming stored = true)
    (sent : msg.isSelf = true) :
    (absorb maxRecords compactTo records msg).length = compactTo ∧
      (absorb maxRecords compactTo (absorb maxRecords compactTo records msg) msg).length = compactTo + 1 := by
  have incoming : ∀ stored ∈ records, stored.isSelf = false :=
    fun stored member => isSelf_of_unsent (backlog stored member)
  have unsent : unsentIncoming ((storedMessageNormalize msg).withId 0) = false := by
    have self : ((storedMessageNormalize msg).withId 0).isSelf = true := sent
    rw [unsentIncoming, self]
    rfl
  have fresh : (storedMessageNormalize msg).withId 0 ∉ records := by
    intro member
    rw [backlog _ member] at unsent
    cases unsent
  have crowded : maxRecords < (records ++ [(storedMessageNormalize msg).withId 0]).length := by
    rw [List.length_append, List.length_singleton]
    omega
  have dropped : absorb maxRecords compactTo records msg =
      compactedRecords compactTo (records ++ [(storedMessageNormalize msg).withId 0]) := by
    rw [absorb, known_isSelf incoming sent, if_neg (by simp), if_pos crowded]
  have length : (absorb maxRecords compactTo records msg).length = compactTo := by
    rw [dropped]
    exact length_compactedRecords (by omega)
  have gone : (storedMessageNormalize msg).withId 0 ∉ absorb maxRecords compactTo records msg := by
    have counted : records.countP unsentIncoming = records.length := List.countP_eq_length.mpr backlog
    rw [dropped, newest_mem_compactedRecords positive fresh (by omega), unsent, counted]
    rintro (undelivered | room)
    · cases undelivered
    · omega
  have others : ∀ stored ∈ absorb maxRecords compactTo records msg, stored.isSelf = false := by
    intro stored member
    have inside := (compactedRecords_sublist compactTo _).subset (dropped ▸ member)
    rcases List.mem_append.mp inside with old | new
    · exact incoming stored old
    · exact absurd (List.mem_singleton.mp new ▸ member) gone
  refine ⟨length, ?_⟩
  rw [absorb, known_isSelf others sent, if_neg (by simp), if_neg]
  · rw [List.length_append, length, List.length_singleton]
  · rw [List.length_append, length, List.length_singleton]
    omega

/-- The message of the sample file on top of the full default store: the power lost before the removal of the
    file leaves one record more than the uninterrupted migration. -/
theorem droppedMessage_migrated_again :
    validateHistory sampleHistory = true ∧
      (migrating none (arrivals 512) ⟨some sampleHistory, none⟩ ([.powerLostAfter 1] ++ [.whole])).file.live = none ∧
      withoutIds (migrating none (arrivals 512) ⟨some sampleHistory, none⟩
          ([.powerLostAfter 1] ++ [.whole])).store.records ≠
        withoutIds (migrating none (arrivals 512) ⟨some sampleHistory, none⟩ [.whole]).store.records := by
  obtain ⟨log, steady, default, messages, -⟩ := arrivals_steady (Nat.le_refl 512)
  unfold migrating
  generalize run exec (Store.initial none) (arrivals 512) = s at steady default ⊢
  have content : Content 512 448 s (withoutIds (arrivedRecords 512)) :=
    ⟨⟨log, steady, by rw [messages]⟩, backendMaxRecords_default default, backendCompactToRecords_default default⟩
  have full : (withoutIds (arrivedRecords 512)).length = 512 := by
    rw [withoutIds, List.length_map, arrivedRecords, List.length_map, List.length_range]
  have backlog : ∀ stored ∈ withoutIds (arrivedRecords 512), unsentIncoming stored = true := by
    intro stored member
    obtain ⟨record, inside, rfl⟩ := List.mem_map.mp member
    obtain ⟨i, -, rfl⟩ := List.mem_map.mp inside
    rfl
  obtain ⟨once, twice⟩ := absorb_sent_dropped (show 0 < 448 by decide) (show 448 < 512 by decide) full backlog
    (show sampleEntry.stored.isSelf = true from rfl)
  obtain ⟨single, -, -⟩ := migrationStep_content (m := .start ⟨some sampleHistory, none⟩ s) content .whole
  obtain ⟨cut, -, -⟩ := migrationStep_content (m := .start ⟨some sampleHistory, none⟩ s) content (.powerLostAfter 1)
  have kept : (migrationStep (.start ⟨some sampleHistory, none⟩ s) (.powerLostAfter 1)).file =
      ⟨some sampleHistory, none⟩ := rfl
  rw [run_append]
  simp only [run_cons, run_nil]
  generalize migrationStep (.start ⟨some sampleHistory, none⟩ s) (.powerLostAfter 1) = m at cut kept ⊢
  rw [Migration.start_file, deliverable_sample] at single cut
  obtain ⟨retried, -, -⟩ := migrationStep_content cut .whole
  rw [kept, deliverable_sample] at retried
  refine ⟨sampleHistory_valid, ?_, ?_⟩
  · rw [whole_file cut, kept, if_pos sampleHistory_complete]
  · rw [retried.records_eq, single.records_eq]
    intro same
    have lengths := congrArg List.length same
    simp only [MigrationAttempt.reaches, List.take_succ_cons, List.take_zero, absorbAll_singleton, twice,
      once] at lengths
    cases lengths

end FullBacklog

end SigurdOS.Ui
