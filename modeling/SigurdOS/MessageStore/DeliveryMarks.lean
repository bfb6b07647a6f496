import SigurdOS.Mesh.Conversations
import SigurdOS.MessageStore.Soundness

namespace SigurdOS.MessageStore

open Bytes SigurdOS.Hal
open Mesh (ContactLookup StoredContact resolveContact formatDmConversation storedConversationSize dmText)

/-- What the layer of the acknowledgements tells of a message it sent. -/
inductive DeliveryReport where
  | acked
  | confirmationLost
  deriving DecidableEq

/-- The conversation of the contact, or of the reference itself when it names none. -/
def reportConversation (lookup : ContactLookup) (contacts : List StoredContact) (dest : List UInt8) : List UInt8 :=
  formatDmConversation storedConversationSize
    (match resolveContact lookup contacts dest with
    | some (_, contact) => contact.name.chars
    | none => dest)

def registerAckedMessage (lookup : ContactLookup) (contacts : List StoredContact) (s : Store) (dest : List UInt8)
    (ts : UInt32) : Store :=
  (messageStoreMarkAcked s (reportConversation lookup contacts dest) ts).2

def registerConfirmationLost (lookup : ContactLookup) (contacts : List StoredContact) (s : Store) (dest : List UInt8)
    (ts : UInt32) : Store :=
  if dest = [] then s else (messageStoreMarkConfirmationLost s (reportConversation lookup contacts dest) ts).2

namespace DeliveryReport

def register (lookup : ContactLookup) (contacts : List StoredContact) (s : Store) (dest : List UInt8) (ts : UInt32) :
    DeliveryReport → Store
  | acked => registerAckedMessage lookup contacts s dest ts
  | confirmationLost => registerConfirmationLost lookup contacts s dest ts

/-- What a report makes of a record that it addresses. -/
def update : DeliveryReport → StoredMessage → StoredMessage
  | acked, msg => { msg with acked := true, confirmationLost := false }
  | confirmationLost, msg => if msg.acked then msg else { msg with confirmationLost := true }

def updated (report : DeliveryReport) (conversation : List UInt8) (ts : UInt32) (msg : StoredMessage) : StoredMessage :=
  if addressed conversation ts msg then report.update msg else msg

/-- The file is one that the module leaves, or missing. -/
def OwnFile (s : Store) : Prop := s.live = none ∨ ∃ image, Left s image

section Records

variable {s : Store} {conversation : List UInt8} {ts : UInt32} {report : DeliveryReport}

end Records

section Reading

variable {s : Store}

theorem OwnFile.reads (own : OwnFile s) {count : Nat} {nextId : UInt32} (header : readHeader s = some (count, nextId)) :
    messageStoreLoadAll s count = s.records ∧ s.records.length = count ∧ nextId ≠ 0 ∧
      (∀ msg ∈ s.records, storedMessageNormalize msg = msg) ∧ (∀ msg ∈ s.records, msg.storeId ≠ 0) ∧
      (s.records.map (·.storeId)).Nodup ∧ s.records.length ≤ backendRecoveryMaxRecords s := by
  have loaded : messageStoreLoadAll s count = s.records := by rw [Store.records, messageStoreCount, header]
  rcases own with missing | ⟨image, left⟩
  · rw [readHeader, missing] at header
    cases header
  rcases left.visible with ⟨-, unread⟩ | ⟨nonzero, reads⟩
  · rw [unread] at header
    cases header
  have same := Option.some.inj (header.symm.trans reads.header)
  obtain ⟨rfl, rfl⟩ := Prod.mk.inj same
  have records := reads.records_eq
  have fits := left.fits
  rw [loaded, records]
  refine ⟨rfl, rfl, nonzero, ?_, ?_, ?_, ?_⟩
  · exact fun msg member => image.normal msg (List.mem_of_mem_take member)
  · exact fun msg member => image.nonzero msg (List.mem_of_mem_take member)
  · rw [List.map_take]
    exact image.unique.sublist (List.take_sublist _ _)
  · rw [List.length_take]
    omega

end Reading

section Replace

variable {s : Store} {messages : List StoredMessage} {nextId : UInt32}

end Replace

section Register

variable {s : Store} {ts : UInt32} {report : DeliveryReport}

def selects (conversation : List UInt8) (ts : UInt32) : DeliveryReport → StoredMessage → Bool
  | acked => ackSelects conversation ts
  | confirmationLost => lostSelects conversation ts

end Register

section Direct

/-- A direct message of second five in the conversation `DM: A`. -/
def direct (isSelf : Bool) : StoredMessage where
  storeId := 1
  conversation := ⟨[68, 77, 58, 32, 65], by decide, by decide⟩
  sender := ⟨[65], by decide, by decide⟩
  text := ⟨[104, 105], by decide, by decide⟩
  timestamp := 5
  senderPrefix := ⟨[1, 2, 3, 4, 5, 6], sixBytes_length⟩
  rssi := 0
  snrQuarters := 0
  pathLen := 0
  txtType := 0
  attempt := 0
  extraLen := 0
  extra := ⟨List.replicate extraSize 0, zeros_length extraSize⟩
  isSelf := isSelf
  isChannel := false
  acked := false
  confirmationLost := false
  companionSent := true
  routeFlood := false
  routeKnown := true
  attemptKnown := true

end Direct

end DeliveryReport

end SigurdOS.MessageStore
