import SigurdOS.Bytes.Fields
import SigurdOS.Hal.AtomicFile
import SigurdOS.Library.Runs

namespace SigurdOS.Ui

open Bytes Hal Runs

def legacyChatHistoryChannelNameLen : Nat := 32
def legacyChatHistorySenderLen : Nat := 32
def legacyChatHistoryTextLen : Nat := 160
def legacyChatHistoryMaxChannels : Nat := 16
def legacyChatHistoryMaxMessages : Nat := 200
def historyMagic : Nat := 0x536d534c
def historyVersion : UInt8 := 1
def historyHeaderBytes : Nat := 4 + 1 + 1
def historyChannelBytes : Nat := legacyChatHistoryChannelNameLen + 1
def historyRecordBytes : Nat := legacyChatHistorySenderLen + legacyChatHistoryTextLen + 4 + 1
def historyMaxFileSize : Nat :=
  historyHeaderBytes + legacyChatHistoryMaxChannels *
    (historyChannelBytes + legacyChatHistoryMaxMessages * historyRecordBytes)

structure LegacyChatMessage where
  sender : CString legacyChatHistorySenderLen
  text : CString legacyChatHistoryTextLen
  timestamp : UInt32
  isSelf : Bool
  deriving DecidableEq

abbrev LegacyEntry := CString legacyChatHistoryChannelNameLen × LegacyChatMessage

abbrev LegacyChatHistoryMessageFn (σ : Type) :=
  CString legacyChatHistoryChannelNameLen → LegacyChatMessage → σ → Bool × σ

section Format

def readHeader (bytes : List UInt8) : Option Nat :=
  if historyHeaderBytes ≤ bytes.length ∧ bytes.length ≤ historyMaxFileSize ∧ leNumber (bytes.take 4) = historyMagic ∧
      bytes.getD 4 0 = historyVersion ∧ (bytes.getD 5 0).toNat ≤ legacyChatHistoryMaxChannels then
    some (bytes.getD 5 0).toNat
  else none

/-- The name and the message count of the channel at the reader's position, and what follows them. -/
def readChannel (rest : List UInt8) : Option (CString legacyChatHistoryChannelNameLen × Nat × List UInt8) :=
  if rest.length < historyChannelBytes then none
  else
    let messageCount := (rest.getD legacyChatHistoryChannelNameLen 0).toNat
    if messageCount > legacyChatHistoryMaxMessages then none
    else some (.decode _ (rest.take legacyChatHistoryChannelNameLen), messageCount, rest.drop historyChannelBytes)

def readMessage (rest : List UInt8) : Option (LegacyChatMessage × List UInt8) :=
  if rest.length < historyRecordBytes then none
  else
    some
      ({ sender := .decode _ (rest.take legacyChatHistorySenderLen)
         text := .decode _ ((rest.drop legacyChatHistorySenderLen).take legacyChatHistoryTextLen)
         timestamp :=
           UInt32.ofNat (leNumber ((rest.drop (legacyChatHistorySenderLen + legacyChatHistoryTextLen)).take 4))
         isSelf := rest.getD (legacyChatHistorySenderLen + legacyChatHistoryTextLen + 4) 0 != 0 },
        rest.drop historyRecordBytes)

def validateChannels (bytes : List UInt8) : Nat → Nat → Bool
  | 0, expectedSize => expectedSize == bytes.length
  | channels + 1, expectedSize =>
    match readChannel (bytes.drop expectedSize) with
    | none => false
    | some (_, messageCount, _) =>
      let expectedSize := expectedSize + (historyChannelBytes + messageCount * historyRecordBytes)
      if expectedSize > bytes.length then false else validateChannels bytes channels expectedSize

def validateHistory (bytes : List UInt8) : Bool :=
  match readHeader bytes with
  | none => false
  | some channelCount => validateChannels bytes channelCount historyHeaderBytes

end Format

section Load

variable {σ : Type} (writeMessage : LegacyChatHistoryMessageFn σ)

/-- The messages of one channel, handed to the callback: where the reader stands afterwards, `none` once
    the load has failed, and the number of messages accepted so far. -/
def loadMessages (name : CString legacyChatHistoryChannelNameLen) :
    Nat → List UInt8 → Nat → σ → Option (List UInt8) × Nat × σ
  | 0, rest, loaded, s => (some rest, loaded, s)
  | messages + 1, rest, loaded, s =>
    match readMessage rest with
    | none => (none, loaded, s)
    | some (record, rest) =>
      match writeMessage name record s with
      | (false, s) => (none, loaded, s)
      | (true, s) => loadMessages name messages rest (loaded + 1) s

def loadChannels : Nat → List UInt8 → Nat → σ → Bool × Nat × σ
  | 0, _, loaded, s => (true, loaded, s)
  | channels + 1, rest, loaded, s =>
    match readChannel rest with
    | none => (false, loaded, s)
    | some (name, messageCount, rest) =>
      match loadMessages writeMessage name messageCount rest loaded s with
      | (none, loaded, s) => (false, loaded, s)
      | (some rest, loaded, s) => loadChannels channels rest loaded s

def loadFromReader (bytes : List UInt8) (s : σ) : Bool × Nat × σ :=
  match readHeader bytes with
  | none => (false, 0, s)
  | some channelCount => loadChannels writeMessage channelCount (bytes.drop historyHeaderBytes) 0 s

end Load

inductive LegacyChatHistoryResult where
  | notFound
  | migrated
  | failed
  deriving DecidableEq

section Migrate

variable {σ : Type} (writeMessage : LegacyChatHistoryMessageFn σ)

/-- The legacy files after the recovery that every migration starts with. -/
def recoveredHistory (file : AtomicFile) : AtomicFile := (atomicFileRecover file validateHistory none).2

def loadHistory (file : AtomicFile) (s : σ) : Bool × Nat × σ :=
  match (recoveredHistory file).live with
  | none => (false, 0, s)
  | some bytes => loadFromReader writeMessage bytes s

structure Migrated (σ : Type) where
  result : LegacyChatHistoryResult
  migratedCount : Nat
  file : AtomicFile
  state : σ

def legacyChatHistoryMigrate (file : AtomicFile) (s : σ) : Migrated σ :=
  if (recoveredHistory file).live = none then ⟨.notFound, 0, recoveredHistory file, s⟩
  else
    match loadHistory writeMessage file s with
    | (false, _, s) => ⟨.failed, 0, recoveredHistory file, s⟩
    | (true, loaded, s) => ⟨.migrated, loaded, ⟨none, none⟩, s⟩

end Migrate

section Stream

/-- The messages of a channel that can be read, and where the reader stands behind the last of them. -/
def channelMessages (name : CString legacyChatHistoryChannelNameLen) :
    Nat → List UInt8 → List LegacyEntry × Option (List UInt8)
  | 0, rest => ([], some rest)
  | messages + 1, rest =>
    match readMessage rest with
    | none => ([], none)
    | some (record, rest) =>
      let (later, stop) := channelMessages name messages rest
      ((name, record) :: later, stop)

def historyMessages : Nat → List UInt8 → List LegacyEntry × Bool
  | 0, _ => ([], true)
  | channels + 1, rest =>
    match readChannel rest with
    | none => ([], false)
    | some (name, messageCount, rest) =>
      match channelMessages name messageCount rest with
      | (here, none) => (here, false)
      | (here, some rest) =>
        let (later, whole) := historyMessages channels rest
        (here ++ later, whole)

/-- The messages a load streams when every one is accepted, and whether it reaches the end of the file. -/
def legacyMessages (bytes : List UInt8) : List LegacyEntry × Bool :=
  match readHeader bytes with
  | none => ([], false)
  | some channelCount => historyMessages channelCount (bytes.drop historyHeaderBytes)

variable {σ : Type} (writeMessage : LegacyChatHistoryMessageFn σ)

def offer : List LegacyEntry → Nat → σ → Bool × Nat × σ
  | [], loaded, s => (true, loaded, s)
  | (name, record) :: rest, loaded, s =>
    match writeMessage name record s with
    | (false, s) => (false, loaded, s)
    | (true, s) => offer rest (loaded + 1) s

variable {writeMessage}

theorem offer_append (first second : List LegacyEntry) (loaded : Nat) (s : σ) :
    offer writeMessage (first ++ second) loaded s =
      match offer writeMessage first loaded s with
      | (false, loaded, s) => (false, loaded, s)
      | (true, loaded, s) => offer writeMessage second loaded s := by
  induction first generalizing loaded s with
  | nil => rfl
  | cons entry rest ih =>
    obtain ⟨name, record⟩ := entry
    rw [List.cons_append, offer, offer]
    rcases writeMessage name record s with ⟨_ | _, after⟩
    · rfl
    · exact ih (loaded + 1) after

theorem loadMessages_eq (name : CString legacyChatHistoryChannelNameLen) (messages : Nat) (rest : List UInt8)
    (loaded : Nat) (s : σ) :
    loadMessages writeMessage name messages rest loaded s =
      match offer writeMessage (channelMessages name messages rest).1 loaded s with
      | (false, loaded, s) => (none, loaded, s)
      | (true, loaded, s) => ((channelMessages name messages rest).2, loaded, s) := by
  induction messages generalizing rest loaded s with
  | zero => rfl
  | succ messages ih =>
    rw [loadMessages, channelMessages]
    cases readMessage rest with
    | none => rfl
    | some read =>
      obtain ⟨record, rest⟩ := read
      dsimp only
      rw [offer]
      rcases writeMessage name record s with ⟨_ | _, after⟩
      · rfl
      · exact ih rest (loaded + 1) after

theorem loadChannels_eq (channels : Nat) (rest : List UInt8) (loaded : Nat) (s : σ) :
    loadChannels writeMessage channels rest loaded s =
      ((offer writeMessage (historyMessages channels rest).1 loaded s).1 && (historyMessages channels rest).2,
        (offer writeMessage (historyMessages channels rest).1 loaded s).2) := by
  induction channels generalizing rest loaded s with
  | zero => rfl
  | succ channels ih =>
    rw [loadChannels, historyMessages]
    cases readChannel rest with
    | none => rfl
    | some read =>
      obtain ⟨name, messageCount, rest⟩ := read
      dsimp only
      rw [loadMessages_eq]
      rcases channelMessages name messageCount rest with ⟨here, _ | rest⟩
      · rcases offer writeMessage here loaded s with ⟨_ | _, reached⟩ <;> rfl
      · dsimp only
        rw [offer_append]
        rcases offer writeMessage here loaded s with ⟨_ | _, loaded, after⟩
        · rfl
        · exact ih rest loaded after

theorem loadFromReader_eq (bytes : List UInt8) (s : σ) :
    loadFromReader writeMessage bytes s =
      ((offer writeMessage (legacyMessages bytes).1 0 s).1 && (legacyMessages bytes).2,
        (offer writeMessage (legacyMessages bytes).1 0 s).2) := by
  rw [loadFromReader, legacyMessages]
  cases readHeader bytes with
  | none => rfl
  | some channelCount => exact loadChannels_eq channelCount _ 0 s

/-- What the callback says of the message it is handed in the state it is called in. -/
def Accepted (writeMessage : LegacyChatHistoryMessageFn σ) (s : σ) (entry : LegacyEntry) : Prop :=
  (writeMessage entry.1 entry.2 s).1 = true

theorem accepted_of_offer {entries : List LegacyEntry} {loaded : Nat} {s : σ}
    (accepted : (offer writeMessage entries loaded s).1 = true) :
    Along (fun s entry => (writeMessage entry.1 entry.2 s).2) (Accepted writeMessage) s entries := by
  induction entries generalizing loaded s with
  | nil => trivial
  | cons entry rest ih =>
    obtain ⟨name, record⟩ := entry
    rw [offer] at accepted
    cases written : writeMessage name record s with
    | mk ok after =>
      rw [written] at accepted
      cases ok with
      | false => cases accepted
      | true =>
        refine ⟨congrArg Prod.fst written, ?_⟩
        dsimp only
        rw [written]
        exact ih accepted

end Stream

section Valid

theorem readChannel_drop {rest after : List UInt8} {name : CString legacyChatHistoryChannelNameLen} {messageCount : Nat}
    (read : readChannel rest = some (name, messageCount, after)) : after = rest.drop historyChannelBytes := by
  unfold readChannel at read
  split at read
  · cases read
  · dsimp only at read
    split at read
    · cases read
    · cases read
      rfl

theorem channelMessages_within (name : CString legacyChatHistoryChannelNameLen) {messages : Nat} {rest : List UInt8}
    (enough : messages * historyRecordBytes ≤ rest.length) :
    (channelMessages name messages rest).2 = some (rest.drop (messages * historyRecordBytes)) := by
  induction messages generalizing rest with
  | zero => simp [channelMessages]
  | succ messages ih =>
    rw [Nat.succ_mul] at enough
    have long : ¬ rest.length < historyRecordBytes := by omega
    have later : messages * historyRecordBytes ≤ (rest.drop historyRecordBytes).length := by
      rw [List.length_drop]
      omega
    rw [channelMessages, readMessage, if_neg long]
    dsimp only
    rw [ih later, List.drop_drop, Nat.succ_mul, Nat.add_comm]

theorem historyMessages_of_validate {bytes : List UInt8} {channels expectedSize : Nat}
    (valid : validateChannels bytes channels expectedSize = true) :
    (historyMessages channels (bytes.drop expectedSize)).2 = true := by
  induction channels generalizing expectedSize with
  | zero => rfl
  | succ channels ih =>
    rw [validateChannels] at valid
    rw [historyMessages]
    cases read : readChannel (bytes.drop expectedSize) with
    | none =>
      rw [read] at valid
      cases valid
    | some channel =>
      obtain ⟨name, messageCount, rest⟩ := channel
      rw [read] at valid
      obtain rfl := readChannel_drop read
      dsimp only at valid ⊢
      split at valid
      · cases valid
      · have enough : messageCount * historyRecordBytes ≤
            ((bytes.drop expectedSize).drop historyChannelBytes).length := by
          rw [List.drop_drop, List.length_drop]
          omega
        have stop := channelMessages_within name enough
        rw [List.drop_drop, List.drop_drop] at stop
        have rest := ih valid
        rw [List.drop_drop]
        rcases streamed : channelMessages name messageCount (bytes.drop (expectedSize + historyChannelBytes)) with
          ⟨here, after⟩
        rw [streamed] at stop
        obtain rfl : after = _ := stop
        rw [← Nat.add_assoc] at rest
        exact rest

theorem legacyMessages_of_valid {bytes : List UInt8} (valid : validateHistory bytes = true) :
    (legacyMessages bytes).2 = true := by
  unfold validateHistory at valid
  unfold legacyMessages
  cases header : readHeader bytes with
  | none =>
    rw [header] at valid
    cases valid
  | some channelCount =>
    rw [header] at valid
    exact historyMessages_of_validate valid

end Valid

section Files

theorem recoveredHistory_temp (file : AtomicFile) : (recoveredHistory file).temp = none := by
  unfold recoveredHistory atomicFileRecover
  cases pending : file.temp with
  | none => exact pending
  | some data =>
    dsimp only
    split <;> rfl

@[simp] theorem recoveredHistory_idempotent (file : AtomicFile) :
    recoveredHistory (recoveredHistory file) = recoveredHistory file := by
  have settled := atomicFileRecover_without_temp validateHistory none (recoveredHistory_temp file)
  change (atomicFileRecover (recoveredHistory file) validateHistory none).2 = recoveredHistory file
  rw [settled]

variable {σ : Type} {writeMessage : LegacyChatHistoryMessageFn σ}

theorem removed_after_accepted {file : AtomicFile} {s : σ} {bytes : List UInt8}
    (live : (recoveredHistory file).live = some bytes)
    (removed : (legacyChatHistoryMigrate writeMessage file s).file.live = none) :
    (legacyMessages bytes).2 = true ∧
      Along (fun s entry => (writeMessage entry.1 entry.2 s).2) (Accepted writeMessage) s (legacyMessages bytes).1 := by
  have present : ¬ (recoveredHistory file).live = none := by simp [live]
  rw [legacyChatHistoryMigrate, if_neg present] at removed
  have loads : loadHistory writeMessage file s = loadFromReader writeMessage bytes s := by rw [loadHistory, live]
  rw [loads] at removed
  cases outcome : loadFromReader writeMessage bytes s with
  | mk ok reached =>
    rw [outcome] at removed
    cases ok with
    | false => exact absurd removed present
    | true =>
      rw [loadFromReader_eq] at outcome
      have both := (Bool.and_eq_true _ _).mp (congrArg Prod.fst outcome)
      exact ⟨both.2, accepted_of_offer both.1⟩

end Files

end SigurdOS.Ui
