import SigurdOS.MessageStore.Operations

namespace SigurdOS.MessageStore

/-- What a delivery update may do to one record: only the three delivery flags move, `acked` and
    `companionSent` are never taken back, and no update sets `acked` and `confirmationLost` together. -/
structure Evolves (before after : StoredMessage) : Prop where
  fields : after = { before with
    acked := after.acked, confirmationLost := after.confirmationLost, companionSent := after.companionSent }
  acked : before.acked = true → after.acked = true
  sent : before.companionSent = true → after.companionSent = true
  both : after.acked = true → after.confirmationLost = true → before.acked = true ∧ before.confirmationLost = true

namespace Evolves

variable {first second third : StoredMessage}

theorem refl (msg : StoredMessage) : Evolves msg msg := ⟨rfl, id, id, fun acked lost => ⟨acked, lost⟩⟩

theorem trans (before : Evolves first second) (after : Evolves second third) : Evolves first third where
  fields := by
    have old := before.fields
    have new := after.fields
    rw [old] at new
    exact new
  acked := fun acked => after.acked (before.acked acked)
  sent := fun sent => after.sent (before.sent sent)
  both := by
    intro acked lost
    obtain ⟨ackedBefore, lostBefore⟩ := after.both acked lost
    exact before.both ackedBefore lostBefore

theorem storeId (evolves : Evolves first second) : second.storeId = first.storeId := by rw [evolves.fields]

theorem isSelf (evolves : Evolves first second) : second.isSelf = first.isSelf := by rw [evolves.fields]

theorem normal (evolves : Evolves first second) (normal : storedMessageNormalize first = first) :
    storedMessageNormalize second = second := by
  have kept := congrArg (fun msg : StoredMessage => { msg with
    acked := second.acked, confirmationLost := second.confirmationLost, companionSent := second.companionSent }) normal
  rw [evolves.fields]
  exact kept

theorem sameIdentity {other otherSecond : StoredMessage} (evolves : Evolves first second)
    (otherEvolves : Evolves other otherSecond) :
    storedMessageSameIdentity second otherSecond = storedMessageSameIdentity first other := by
  rw [evolves.fields, otherEvolves.fields]
  rfl

theorem identityHash (evolves : Evolves first second) : identityHash second = identityHash first := by
  rw [evolves.fields]
  rfl

end Evolves

inductive Mark where
  | acked (conversation : List UInt8) (timestamp : UInt32)
  | confirmationLost (conversation : List UInt8) (timestamp : UInt32)
  | orphanedPendingLost
  | companionSent (storeId : UInt32)

def Mark.selects : Mark → StoredMessage → Bool
  | .acked conversation timestamp => ackSelects conversation timestamp
  | .confirmationLost conversation timestamp => lostSelects conversation timestamp
  | .orphanedPendingLost => orphanSelects
  | .companionSent storeId => fun msg => msg.storeId == storeId

def messageStoreMark (s : Store) : Mark → Bool × Store
  | .acked conversation timestamp => messageStoreMarkAcked s conversation timestamp
  | .confirmationLost conversation timestamp => messageStoreMarkConfirmationLost s conversation timestamp
  | .orphanedPendingLost =>
    let (changed, s) := messageStoreMarkOrphanedPendingLost s
    (changed != 0, s)
  | .companionSent storeId => messageStoreMarkCompanionSent s storeId

/-- One record across an update of the records that `selects` picks. -/
structure Marked (selects : StoredMessage → Bool) (before after : StoredMessage) : Prop where
  evolves : Evolves before after
  frame : selects before = false → after = before

theorem Marked.refl (selects : StoredMessage → Bool) (msg : StoredMessage) : Marked selects msg msg :=
  ⟨.refl msg, fun _ => rfl⟩

theorem marked_self (selects : StoredMessage → Bool) (messages : List StoredMessage) :
    List.Forall₂ (Marked selects) messages messages := by
  induction messages with
  | nil => exact .nil
  | cons msg rest ih => exact .cons (.refl selects msg) ih

theorem updateMatching_marked {selects : StoredMessage → Bool} {update : StoredMessage → StoredMessage}
    (evolves : ∀ msg, selects msg = true → Evolves msg (update msg)) (messages : List StoredMessage) :
    List.Forall₂ (Marked selects) messages (updateMatching selects update messages) := by
  induction messages with
  | nil => exact .nil
  | cons msg rest ih =>
    refine .cons ?_ ih
    dsimp only
    by_cases selected : selects msg = true
    · rw [if_pos selected]
      refine ⟨evolves msg selected, fun unselected => ?_⟩
      rw [unselected] at selected
      cases selected
    · rw [if_neg selected]
      exact .refl selects msg

theorem ack_evolves (msg : StoredMessage) : Evolves msg { msg with acked := true, confirmationLost := false } where
  fields := rfl
  acked := fun _ => rfl
  sent := id
  both := nofun

theorem lost_evolves {msg : StoredMessage} (unacked : msg.acked = false) :
    Evolves msg { msg with confirmationLost := true } where
  fields := rfl
  acked := id
  sent := id
  both := by
    intro acked _
    rw [unacked] at acked
    cases acked

theorem lostSelects_unacked {conversation : List UInt8} {timestamp : UInt32} {msg : StoredMessage}
    (selected : lostSelects conversation timestamp msg = true) : msg.acked = false := by
  simp only [lostSelects, Bool.and_eq_true, Bool.not_eq_true'] at selected
  exact selected.1

theorem orphanSelects_unacked {msg : StoredMessage} (selected : orphanSelects msg = true) : msg.acked = false := by
  simp only [orphanSelects, Bool.and_eq_true, Bool.not_eq_true'] at selected
  exact selected.1.2

theorem sent_evolves (msg : StoredMessage) : Evolves msg { msg with companionSent := true } where
  fields := rfl
  acked := id
  sent := fun _ => rfl
  both := fun acked lost => ⟨acked, lost⟩

theorem sendFirst_marked (storeId : UInt32) (messages : List StoredMessage) :
    List.Forall₂ (Marked (fun msg => msg.storeId == storeId)) messages (sendFirst storeId messages) := by
  induction messages with
  | nil => exact .nil
  | cons msg rest ih =>
    unfold sendFirst
    split
    · rename_i same
      refine .cons ⟨sent_evolves msg, fun unselected => ?_⟩ (marked_self _ rest)
      simp [same] at unselected
    · exact .cons (.refl _ msg) ih

theorem atomicReplaceStore_keeps_next_id {s : Store} {count : Nat} {nextId : UInt32}
    (header : readHeader s = some (count, nextId)) (messages : List StoredMessage) :
    atomicReplaceStore s messages 0 = replaceFile s messages nextId := by
  rw [atomicReplaceStore, if_pos rfl, header]

/-- An update either leaves the store alone or replaces the file by what the readers see, updated
    record by record. This needs nothing about the file. -/
theorem messageStoreMark_cases (s : Store) (mark : Mark) :
    messageStoreMark s mark = (false, s) ∨ messageStoreMark s mark = (true, s) ∨
    ∃ count nextId updated, readHeader s = some (count, nextId) ∧
      List.Forall₂ (Marked mark.selects) (messageStoreLoadAll s count) updated ∧
      messageStoreMark s mark = replaceFile s updated nextId := by
  cases mark with
  | acked conversation timestamp =>
    simp only [messageStoreMark, messageStoreMarkAcked]
    split
    · exact Or.inl rfl
    · split
      · exact Or.inl rfl
      · rename_i count nextId header
        split
        · exact Or.inl rfl
        · split
          · refine Or.inr (Or.inr ⟨count, nextId, _, header, ?_, atomicReplaceStore_keeps_next_id header _⟩)
            exact updateMatching_marked (fun msg _ => ack_evolves msg) _
          · exact Or.inl rfl
  | confirmationLost conversation timestamp =>
    simp only [messageStoreMark, messageStoreMarkConfirmationLost]
    split
    · exact Or.inl rfl
    · split
      · exact Or.inl rfl
      · rename_i count nextId header
        split
        · exact Or.inl rfl
        · split
          · refine Or.inr (Or.inr ⟨count, nextId, _, header, ?_, atomicReplaceStore_keeps_next_id header _⟩)
            exact updateMatching_marked (fun msg selected => lost_evolves (lostSelects_unacked selected)) _
          · exact Or.inl rfl
  | orphanedPendingLost =>
    simp only [messageStoreMark, messageStoreMarkOrphanedPendingLost]
    split
    · exact Or.inl rfl
    · rename_i count nextId header
      split
      · exact Or.inl rfl
      · split
        · exact Or.inl rfl
        · rename_i changes
          refine Or.inr (Or.inr ⟨count, nextId, updateMatching orphanSelects
            (fun msg => { msg with confirmationLost := true }) (messageStoreLoadAll s count), header, ?_, ?_⟩)
          · exact updateMatching_marked (fun msg selected => lost_evolves (orphanSelects_unacked selected)) _
          · rw [atomicReplaceStore_keeps_next_id header]
            rcases replaceFile s _ nextId with ⟨ok, after⟩
            cases ok
            · rfl
            · simp [changes]
  | companionSent storeId =>
    simp only [messageStoreMark, messageStoreMarkCompanionSent]
    split
    · exact Or.inl rfl
    · split
      · exact Or.inl rfl
      · rename_i count nextId header
        split
        · exact Or.inl rfl
        · split
          · exact Or.inl rfl
          · split
            · exact Or.inl rfl
            · split
              · exact Or.inr (Or.inl rfl)
              · exact Or.inr (Or.inr ⟨count, nextId, _, header, sendFirst_marked storeId _,
                  atomicReplaceStore_keeps_next_id header _⟩)

end SigurdOS.MessageStore
