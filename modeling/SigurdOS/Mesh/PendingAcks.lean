import SigurdOS.Library.Runs
import SigurdOS.Library.SlotTable
import SigurdOS.Mesh.ContactMutations

namespace SigurdOS.Mesh

open Bytes SlotTable
open MessageStore (read32)

section Policy

def pendingAckMinLifetimeMs : Nat := 30000

def pendingAckMaxLifetimeMs : Nat := 300000

def pendingAckLifetimeMs (estimatedTimeoutMs : UInt32) : UInt32 :=
  UInt32.ofNat (min (max (estimatedTimeoutMs.toNat * 2 + 10000) pendingAckMinLifetimeMs) pendingAckMaxLifetimeMs)

def pendingAckDeadlineReached (nowMs deadlineMs : UInt32) : Bool := 0 ≤ (nowMs - deadlineMs).toInt32

def clearMatchingEntries {ε : Type} {size : Nat} (fresh : ε) (agrees : ε → Bool) (entries : Fin size → ε) :
    Fin size → ε :=
  fun slot => if agrees (entries slot) then fresh else entries slot

end Policy

/-- A slot of the table. The number of the outgoing message is not in the firmware: it tells apart
    messages that agree in everything else. -/
structure PendingAck where
  message : Nat
  destKey : FixedBytes 32
  timestamp : UInt32
  expectedAck : UInt32
  sentAtMs : UInt32
  expiresAtMs : UInt32
  inUse : Bool
  deriving DecidableEq

def PendingAck.awaits (message : Nat) (pending : PendingAck) : Bool := pending.inUse && pending.message == message

def PendingAck.fresh : PendingAck := ⟨0, .ofList 32 [], 0, 0, 0, 0, false⟩

/-- What the wrapper is told of a message: its acknowledgement, with the value and the round trip that the
    phone gets, or that the confirmation is lost. -/
inductive DeliveryReport where
  | acked (message : Nat) (contactId : List UInt8) (timestamp ackVal tripMs : UInt32)
  | confirmationLost (message : Nat) (contactId : List UInt8) (timestamp : UInt32)
  deriving DecidableEq

inductive AckedContact where
  | none
  | lookup (destKey : FixedBytes 32)
  | checkConnections (ackVal : UInt32)
  deriving DecidableEq

structure AckTable where
  pendingAcks : Fin 16 → PendingAck
  ackDropCount : UInt32
  ackExpiredCount : UInt32

namespace AckTable

def init : AckTable := ⟨fun _ => .fresh, 0, 0⟩

def lost (pending : PendingAck) : DeliveryReport :=
  .confirmationLost pending.message (contactIdFromPubKey pending.destKey) pending.timestamp

def expired (nowMs : UInt32) (pending : PendingAck) : Bool :=
  pending.inUse && pendingAckDeadlineReached nowMs pending.expiresAtMs

def expirePendingAcks (table : AckTable) (nowMs : UInt32) : AckTable × List DeliveryReport :=
  ({ table with
      pendingAcks := fun slot =>
        if expired nowMs (table.pendingAcks slot) then { table.pendingAcks slot with inUse := false }
        else table.pendingAcks slot
      ackExpiredCount := table.ackExpiredCount + UInt32.ofNat (tally (expired nowMs) table.pendingAcks) },
    (List.finRange 16).filterMap fun slot =>
      if expired nowMs (table.pendingAcks slot) then some (lost (table.pendingAcks slot)) else none)

def oldest (table : AckTable) (nowMs : UInt32) : Fin 16 :=
  ((List.finRange 16).drop 1).foldl (fun oldest slot =>
    if nowMs - (table.pendingAcks slot).sentAtMs > nowMs - (table.pendingAcks oldest).sentAtMs then slot else oldest) 0

/-- The clock is read once for the expiry and once for the entry. -/
def addPendingAck (table : AckTable) (message : Nat) (pubKey : FixedBytes 32)
    (timestamp expectedAck estimatedTimeoutMs expiryMs nowMs : UInt32) : AckTable × List DeliveryReport :=
  if expectedAck = 0 then (table, [])
  else
    let (table, reports) := table.expirePendingAcks expiryMs
    let entry : PendingAck :=
      ⟨message, pubKey, timestamp, expectedAck, nowMs, nowMs + pendingAckLifetimeMs estimatedTimeoutMs, true⟩
    match firstSlot (!·.inUse) table.pendingAcks with
    | some slot => ({ table with pendingAcks := Function.update table.pendingAcks slot entry }, reports)
    | none =>
      let slot := table.oldest nowMs
      ({ table with
          pendingAcks := Function.update table.pendingAcks slot entry
          ackDropCount := table.ackDropCount + 1 },
        reports ++ [lost (table.pendingAcks slot)])

def processAck (table : AckTable) (data : Option (FixedBytes 4)) (expiryMs nowMs : UInt32) :
    AckedContact × AckTable × List DeliveryReport :=
  match data with
  | none => (.none, table, [])
  | some data =>
    let (table, reports) := table.expirePendingAcks expiryMs
    let ackVal := read32 data.bytes
    match firstSlot (fun pending => pending.inUse && pending.expectedAck == ackVal) table.pendingAcks with
    | some slot =>
      let pending := table.pendingAcks slot
      (.lookup pending.destKey,
        { table with pendingAcks := Function.update table.pendingAcks slot { pending with inUse := false } },
        reports ++ [.acked pending.message (contactIdFromPubKey pending.destKey) pending.timestamp ackVal
          (nowMs - pending.sentAtMs)])
    | none => (if ackVal = 0 then .none else .checkConnections ackVal, table, reports)

/-- What the removal of a contact does to the table. -/
def teardownContactRuntime (table : AckTable) (pubKey : FixedBytes 32) : AckTable :=
  { table with pendingAcks := clearMatchingEntries .fresh (·.destKey == pubKey) table.pendingAcks }

end AckTable

structure OutgoingMessage where
  pubKey : FixedBytes 32
  timestamp : UInt32
  expectedAck : UInt32
  deriving DecidableEq

/-- Every call carries its own readings of the clock. -/
inductive AckEvent where
  | addPendingAck (pubKey : FixedBytes 32) (timestamp expectedAck estimatedTimeoutMs expiryMs nowMs : UInt32)
  | processAck (data : Option (FixedBytes 4)) (expiryMs nowMs : UInt32)
  | expirePendingAcks (nowMs : UInt32)
  | removeContact (pubKey : FixedBytes 32)

/-- The table with the messages registered so far, each under its number, and all that was reported. -/
structure AckLedger where
  table : AckTable
  registered : List OutgoingMessage
  reports : List DeliveryReport

namespace AckLedger

def start : AckLedger := ⟨.init, [], []⟩

def step (ledger : AckLedger) : AckEvent → AckLedger
  | .addPendingAck pubKey timestamp expectedAck estimatedTimeoutMs expiryMs nowMs =>
    let (table, reports) := ledger.table.addPendingAck ledger.registered.length pubKey timestamp expectedAck
      estimatedTimeoutMs expiryMs nowMs
    { table
      registered := ledger.registered ++ if expectedAck = 0 then [] else [⟨pubKey, timestamp, expectedAck⟩]
      reports := ledger.reports ++ reports }
  | .processAck data expiryMs nowMs =>
    let (_, table, reports) := ledger.table.processAck data expiryMs nowMs
    { ledger with table, reports := ledger.reports ++ reports }
  | .expirePendingAcks nowMs =>
    let (table, reports) := ledger.table.expirePendingAcks nowMs
    { ledger with table, reports := ledger.reports ++ reports }
  | .removeContact pubKey => { ledger with table := ledger.table.teardownContactRuntime pubKey }

def pendingCount (ledger : AckLedger) (message : Nat) : Nat :=
  tally (PendingAck.awaits message) ledger.table.pendingAcks

def ackedCount (ledger : AckLedger) (message : Nat) : Nat :=
  ledger.reports.countP fun
    | .acked number .. => number == message
    | .confirmationLost .. => false

def lostCount (ledger : AckLedger) (message : Nat) : Nat :=
  ledger.reports.countP fun
    | .acked .. => false
    | .confirmationLost number .. => number == message

/-- The report is true of the message it names; an acknowledgement has the value the message waited for. -/
def Credible (registered : List OutgoingMessage) : DeliveryReport → Prop
  | .acked number contactId timestamp ackVal _ => ∃ message, registered[number]? = some message ∧
      contactId = contactIdFromPubKey message.pubKey ∧ timestamp = message.timestamp ∧ ackVal = message.expectedAck
  | .confirmationLost number contactId timestamp => ∃ message, registered[number]? = some message ∧
      contactId = contactIdFromPubKey message.pubKey ∧ timestamp = message.timestamp

/-- Every registered message is pending, or was reported once, and the entries and reports are of such messages. -/
structure Accounted (ledger : AckLedger) : Prop where
  once : ∀ message < ledger.registered.length,
    ledger.pendingCount message + ledger.ackedCount message + ledger.lostCount message = 1
  pending : ∀ slot, (ledger.table.pendingAcks slot).inUse = true →
    ledger.registered[(ledger.table.pendingAcks slot).message]? = some ⟨(ledger.table.pendingAcks slot).destKey,
      (ledger.table.pendingAcks slot).timestamp, (ledger.table.pendingAcks slot).expectedAck⟩
  credible : ∀ report ∈ ledger.reports, Credible ledger.registered report

/-- A contact is removed only while no message to it waits for its acknowledgement. -/
def NoneAwaited (ledger : AckLedger) : AckEvent → Prop
  | .removeContact pubKey => ∀ slot, (ledger.table.pendingAcks slot).inUse = true →
      (ledger.table.pendingAcks slot).destKey ≠ pubKey
  | _ => True

end AckLedger

section Settling

def DeliveryReport.about (message : Nat) : DeliveryReport → Bool
  | .acked number .. => number == message
  | .confirmationLost number .. => number == message

def Closes (pending : PendingAck) (report : DeliveryReport) : Prop :=
  report = AckTable.lost pending ∨ ∃ tripMs, report = .acked pending.message (contactIdFromPubKey pending.destKey)
    pending.timestamp pending.expectedAck tripMs

theorem Closes.about {pending : PendingAck} {report : DeliveryReport} (closes : Closes pending report)
    (message : Nat) : report.about message = (pending.message == message) := by
  obtain rfl | ⟨tripMs, rfl⟩ := closes <;> rfl

structure Settles (before after : Fin 16 → PendingAck) (reports : List DeliveryReport) : Prop where
  counted : ∀ message, tally (PendingAck.awaits message) after + reports.countP (DeliveryReport.about message) =
    tally (PendingAck.awaits message) before
  kept : ∀ slot, (after slot).inUse = true → after slot = before slot
  said : ∀ report ∈ reports, ∃ slot, (before slot).inUse = true ∧ Closes (before slot) report

variable {before between after : Fin 16 → PendingAck} {reports later : List DeliveryReport}

theorem Settles.refl (table : Fin 16 → PendingAck) : Settles table table [] where
  counted _ := rfl
  kept _ _ := rfl
  said := nofun

theorem Settles.trans (first : Settles before between reports) (second : Settles between after later) :
    Settles before after (reports ++ later) where
  counted message := by
    have one := first.counted message
    have two := second.counted message
    rw [List.countP_append]
    omega
  kept slot used := by
    have same := second.kept slot used
    rw [same, first.kept slot (same ▸ used)]
  said report member := by
    rcases List.mem_append.mp member with early | late
    · exact first.said report early
    · obtain ⟨slot, used, closes⟩ := second.said report late
      have same := first.kept slot used
      exact ⟨slot, same ▸ used, same ▸ closes⟩

theorem settles_close {table : Fin 16 → PendingAck} {slot : Fin 16} {report : DeliveryReport}
    (used : (table slot).inUse = true) (closes : Closes (table slot) report) :
    Settles table (Function.update table slot { table slot with inUse := false }) [report] where
  counted message := by
    have moved := tally_update (PendingAck.awaits message) table slot { table slot with inUse := false }
    simp only [PendingAck.awaits, used, Bool.true_and, Bool.false_and, Bool.toNat_false] at moved
    rw [countP_cons_toNat, closes.about]
    simpa using moved
  kept other open_ := by
    by_cases here : other = slot
    · subst here
      simp at open_
    · rw [Function.update_of_ne here]
  said other member := by
    obtain rfl := List.mem_singleton.mp member
    exact ⟨slot, used, closes⟩

theorem settles_expirePendingAcks (table : AckTable) (nowMs : UInt32) :
    Settles table.pendingAcks (table.expirePendingAcks nowMs).1.pendingAcks (table.expirePendingAcks nowMs).2 where
  counted message := by
    simp only [AckTable.expirePendingAcks]
    apply tally_reported
    intro slot
    split
    · next gone =>
      have used : (table.pendingAcks slot).inUse = true := (Bool.and_eq_true_iff.mp gone).1
      simp [PendingAck.awaits, used, AckTable.lost, DeliveryReport.about]
    · simp
  kept slot used := by
    simp only [AckTable.expirePendingAcks] at used ⊢
    split at used
    · cases used
    · next still => rw [if_neg still]
  said report member := by
    obtain ⟨slot, -, said⟩ := List.mem_filterMap.mp member
    split at said
    · next gone =>
      obtain rfl := Option.some.inj said
      exact ⟨slot, (Bool.and_eq_true_iff.mp gone).1, .inl rfl⟩
    · cases said

theorem teardown_inUse {table : AckTable} {pubKey : FixedBytes 32} {slot : Fin 16}
    (used : ((table.teardownContactRuntime pubKey).pendingAcks slot).inUse = true) :
    (table.teardownContactRuntime pubKey).pendingAcks slot = table.pendingAcks slot ∧
      (table.pendingAcks slot).destKey ≠ pubKey := by
  simp only [AckTable.teardownContactRuntime, clearMatchingEntries] at used ⊢
  split at used
  · cases used
  · next different => exact ⟨if_neg different, by simpa using different⟩

theorem settles_teardown {table : AckTable} {pubKey : FixedBytes 32}
    (unawaited : ∀ slot, (table.pendingAcks slot).inUse = true → (table.pendingAcks slot).destKey ≠ pubKey) :
    Settles table.pendingAcks (table.teardownContactRuntime pubKey).pendingAcks [] where
  counted message := by
    apply tally_congr
    intro slot
    simp only [AckTable.teardownContactRuntime, clearMatchingEntries]
    by_cases used : (table.pendingAcks slot).inUse = true
    · simp [unawaited slot used]
    · split <;> simp [PendingAck.awaits, PendingAck.fresh, used]
  kept _ used := (teardown_inUse used).1
  said := nofun

end Settling

namespace AckLedger

variable {ledger : AckLedger} {table : AckTable} {reports : List DeliveryReport} {message : OutgoingMessage}

theorem reportedCount (ledger : AckLedger) (number : Nat) :
    ledger.ackedCount number + ledger.lostCount number = ledger.reports.countP (DeliveryReport.about number) := by
  unfold ackedCount lostCount
  induction ledger.reports with
  | nil => rfl
  | cons report rest ih =>
    simp only [countP_cons_toNat]
    cases report with
    | acked => simp only [DeliveryReport.about, Bool.toNat_false]; omega
    | confirmationLost => simp only [DeliveryReport.about, Bool.toNat_false]; omega

theorem Credible.extended {registered : List OutgoingMessage} {report : DeliveryReport}
    (credible : Credible registered report) (message : OutgoingMessage) :
    Credible (registered ++ [message]) report := by
  have extend {number : Nat} {known : OutgoingMessage} (found : registered[number]? = some known) :
      (registered ++ [message])[number]? = some known := by
    rw [List.getElem?_append_left (List.getElem?_eq_some_iff.mp found).1, found]
  cases report with
  | acked =>
    obtain ⟨known, found, agrees⟩ := credible
    exact ⟨known, extend found, agrees⟩
  | confirmationLost =>
    obtain ⟨known, found, agrees⟩ := credible
    exact ⟨known, extend found, agrees⟩

theorem Accounted.settle (accounted : Accounted ledger)
    (settles : Settles ledger.table.pendingAcks table.pendingAcks reports) :
    Accounted { ledger with table, reports := ledger.reports ++ reports } where
  once number known := by
    have before := accounted.once number known
    have moved := settles.counted number
    rw [Nat.add_assoc, reportedCount] at before ⊢
    rw [List.countP_append]
    simp only [pendingCount] at before ⊢
    omega
  pending slot used := by
    have same := settles.kept slot used
    have registered := accounted.pending slot (same ▸ used)
    rw [same]
    exact registered
  credible report member := by
    rcases List.mem_append.mp member with early | late
    · exact accounted.credible report early
    · obtain ⟨slot, used, closes⟩ := settles.said report late
      have registered := accounted.pending slot used
      obtain rfl | ⟨tripMs, rfl⟩ := closes
      · exact ⟨_, registered, rfl, rfl⟩
      · exact ⟨_, registered, rfl, rfl, rfl⟩

theorem Credible.known {registered : List OutgoingMessage} {report : DeliveryReport} {number : Nat}
    (credible : Credible registered report) (about : report.about number = true) : number < registered.length := by
  cases report with
  | acked =>
    obtain ⟨message, found, -⟩ := credible
    exact (beq_iff_eq.mp about) ▸ (List.getElem?_eq_some_iff.mp found).1
  | confirmationLost =>
    obtain ⟨message, found, -⟩ := credible
    exact (beq_iff_eq.mp about) ▸ (List.getElem?_eq_some_iff.mp found).1

theorem Accounted.unreported (accounted : Accounted ledger) :
    ledger.reports.countP (DeliveryReport.about ledger.registered.length) = 0 := by
  rw [List.countP_eq_zero]
  intro report member about
  exact Nat.lt_irrefl _ ((accounted.credible report member).known about)

theorem Accounted.unawaited (accounted : Accounted ledger) :
    tally (PendingAck.awaits ledger.registered.length) ledger.table.pendingAcks = 0 := by
  apply Nat.eq_zero_of_not_pos
  rw [tally_pos_iff]
  rintro ⟨slot, waiting⟩
  simp only [PendingAck.awaits, Bool.and_eq_true, beq_iff_eq] at waiting
  have registered := (List.getElem?_eq_some_iff.mp (accounted.pending slot waiting.1)).1
  omega

theorem Accounted.register (accounted : Accounted ledger) {slot : Fin 16} {entry : PendingAck}
    (free : (ledger.table.pendingAcks slot).inUse = false) (used : entry.inUse = true)
    (numbered : entry.message = ledger.registered.length)
    (taken : table.pendingAcks = Function.update ledger.table.pendingAcks slot entry)
    (same : message = ⟨entry.destKey, entry.timestamp, entry.expectedAck⟩) :
    Accounted { ledger with table, registered := ledger.registered ++ [message] } where
  once number known := by
    have moved := tally_update (PendingAck.awaits number) ledger.table.pendingAcks slot entry
    rw [← taken] at moved
    have freed : (ledger.table.pendingAcks slot).awaits number = false := by simp [PendingAck.awaits, free]
    have awaited : entry.awaits number = (ledger.registered.length == number) := by
      simp [PendingAck.awaits, used, numbered]
    rw [freed, awaited, Bool.toNat_false, Nat.add_zero] at moved
    rw [List.length_append, List.length_singleton] at known
    rw [Nat.add_assoc, reportedCount]
    simp only [pendingCount]
    rw [moved]
    by_cases new : number = ledger.registered.length
    · subst new
      rw [accounted.unawaited, accounted.unreported]
      simp
    · have before := accounted.once number (by omega)
      rw [Nat.add_assoc, reportedCount] at before
      simp only [pendingCount] at before
      have other : (ledger.registered.length == number) = false := by simpa using Ne.symm new
      rw [other, Bool.toNat_false]
      exact before
  pending other waiting := by
    simp only [taken] at waiting ⊢
    by_cases here : other = slot
    · subst here
      rw [Function.update_self, numbered, same]
      simp
    · rw [Function.update_of_ne here] at waiting ⊢
      have registered := accounted.pending other waiting
      rw [List.getElem?_append_left (List.getElem?_eq_some_iff.mp registered).1, registered]
  credible report member := (accounted.credible report member).extended message

theorem Accounted.evict (accounted : Accounted ledger) {slot : Fin 16} {entry : PendingAck}
    (waiting : (ledger.table.pendingAcks slot).inUse = true) (used : entry.inUse = true)
    (numbered : entry.message = ledger.registered.length)
    (taken : table.pendingAcks = Function.update ledger.table.pendingAcks slot entry)
    (same : message = ⟨entry.destKey, entry.timestamp, entry.expectedAck⟩) :
    Accounted ⟨table, ledger.registered ++ [message],
      ledger.reports ++ [AckTable.lost (ledger.table.pendingAcks slot)]⟩ := by
  let freed : AckTable := { ledger.table with
    pendingAcks := Function.update ledger.table.pendingAcks slot { ledger.table.pendingAcks slot with inUse := false } }
  have settled : Accounted ⟨freed, ledger.registered,
      ledger.reports ++ [AckTable.lost (ledger.table.pendingAcks slot)]⟩ :=
    accounted.settle (settles_close waiting (.inl rfl))
  have retaken : table.pendingAcks = Function.update freed.pendingAcks slot entry := by
    rw [taken, Function.update_idem]
  exact settled.register (by simp [freed]) used numbered retaken same

theorem accounted_start : Accounted start where
  once := nofun
  pending := nofun
  credible := nofun

section Steps

variable (accounted : Accounted ledger)

include accounted

theorem Accounted.expire (nowMs : UInt32) : Accounted (ledger.step (.expirePendingAcks nowMs)) :=
  accounted.settle (settles_expirePendingAcks ledger.table nowMs)

theorem Accounted.acknowledge (data : Option (FixedBytes 4)) (expiryMs nowMs : UInt32) :
    Accounted (ledger.step (.processAck data expiryMs nowMs)) := by
  apply accounted.settle
  cases data with
  | none => exact .refl _
  | some data =>
    have expiry := settles_expirePendingAcks ledger.table expiryMs
    dsimp only [AckTable.processAck]
    split
    · next slot found =>
      have matching := firstSlot_some found
      simp only [Bool.and_eq_true, beq_iff_eq] at matching
      apply expiry.trans
      apply settles_close matching.1
      exact .inr ⟨_, by rw [matching.2]⟩
    · exact expiry

theorem Accounted.add (pubKey : FixedBytes 32) (timestamp expectedAck estimatedTimeoutMs expiryMs nowMs : UInt32) :
    Accounted (ledger.step (.addPendingAck pubKey timestamp expectedAck estimatedTimeoutMs expiryMs nowMs)) := by
  by_cases unregistered : expectedAck = 0
  · simpa [step, AckTable.addPendingAck, unregistered] using accounted
  · have expiry := settles_expirePendingAcks ledger.table expiryMs
    simp only [step, AckTable.addPendingAck, unregistered, if_false]
    split
    · next slot found =>
      have free := firstSlot_some found
      have settled := accounted.settle expiry
      exact settled.register (by simpa using free) rfl rfl rfl rfl
    · next full =>
      have waiting := firstSlot_none full ((ledger.table.expirePendingAcks expiryMs).1.oldest nowMs)
      have settled := accounted.settle expiry
      rw [← List.append_assoc]
      exact settled.evict (by simpa using waiting) rfl rfl rfl rfl

theorem Accounted.remove {pubKey : FixedBytes 32} (unawaited : ledger.NoneAwaited (.removeContact pubKey)) :
    Accounted (ledger.step (.removeContact pubKey)) := by
  have settled := accounted.settle (settles_teardown unawaited)
  rw [List.append_nil] at settled
  exact settled

theorem Accounted.unawaited_of_remove {pubKey : FixedBytes 32}
    (still : Accounted (ledger.step (.removeContact pubKey))) : ledger.NoneAwaited (.removeContact pubKey) := by
  intro slot used same
  have registered := accounted.pending slot used
  have known := (List.getElem?_eq_some_iff.mp registered).1
  have before := accounted.once _ known
  have after := still.once _ known
  have waiting : 0 < ledger.pendingCount (ledger.table.pendingAcks slot).message :=
    tally_pos_iff.mpr ⟨slot, by simp [PendingAck.awaits, used]⟩
  have reported (number : Nat) : (ledger.step (.removeContact pubKey)).ackedCount number +
      (ledger.step (.removeContact pubKey)).lostCount number = ledger.ackedCount number + ledger.lostCount number := rfl
  have remains : 0 < (ledger.step (.removeContact pubKey)).pendingCount (ledger.table.pendingAcks slot).message := by
    have unchanged := reported (ledger.table.pendingAcks slot).message
    omega
  obtain ⟨other, waits⟩ := tally_pos_iff.mp remains
  simp only [PendingAck.awaits, Bool.and_eq_true, beq_iff_eq] at waits
  obtain ⟨kept, different⟩ := teardown_inUse waits.1
  have owner := still.pending other waits.1
  rw [waits.2] at owner
  have agree : _ = _ := Option.some.inj (owner.symm.trans registered)
  have key : ((ledger.step (.removeContact pubKey)).table.pendingAcks other).destKey =
      (ledger.table.pendingAcks slot).destKey := congrArg OutgoingMessage.pubKey agree
  apply different
  rw [← same, ← key]
  exact congrArg PendingAck.destKey kept.symm

end Steps

theorem accounted_step_iff (ledger : AckLedger) (event : AckEvent) (accounted : Accounted ledger) :
    Accounted (ledger.step event) ↔ ledger.NoneAwaited event := by
  cases event with
  | addPendingAck => exact iff_of_true (accounted.add ..) trivial
  | processAck => exact iff_of_true (accounted.acknowledge ..) trivial
  | expirePendingAcks => exact iff_of_true (accounted.expire _) trivial
  | removeContact => exact ⟨accounted.unawaited_of_remove, accounted.remove⟩

end AckLedger

/-- Throughout a run every registered message is pending, acknowledged once or lost once, exactly as long as no
    contact is removed while one of its messages waits. -/
theorem pending_acks_accounted_iff (events : List AckEvent) :
    (∀ before, before <+: events → (Runs.run AckLedger.step .start before).Accounted) ↔
      Runs.Along AckLedger.step AckLedger.NoneAwaited .start events :=
  Runs.run_invariant_iff _ AckLedger.accounted_start AckLedger.accounted_step_iff events

/-- A message is sent and its contact removed. -/
theorem removedContact_silences :
    ¬ (Runs.run AckLedger.step .start
      [.addPendingAck (.ofList 32 [7]) 1000 42 5000 100 100, .removeContact (.ofList 32 [7])]).Accounted := by
  intro accounted
  have unaccounted := accounted.once 0 (by decide)
  revert unaccounted
  decide

end SigurdOS.Mesh
