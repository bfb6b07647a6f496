import SigurdOS.Mesh.ContactDurability
import SigurdOS.Mesh.IdentityStore
import SigurdOS.Mesh.PendingOperations

namespace SigurdOS.Mesh

open Bytes Hal

structure IdentityOps (ι : Type) where
  validatePrivateKey : List UInt8 → Bool
  readFrom : List UInt8 → ι
  writeTo : ι → List UInt8
  resetContacts : List StoredContact → List StoredContact

structure IdentityOps.Lawful {ι : Type} (identities : IdentityOps ι) : Prop where
  reset_empties : ∀ contacts, identities.resetContacts contacts = []

/-- The identity in use with its file, the contact book and the tables with the logins. -/
structure MeshNode (ι : Type) where
  selfId : ι
  identityFile : AtomicFile
  book : ContactBook
  runtime : MeshRuntime

section Import

variable {ι : Type} (identities : IdentityOps ι) (ops : ContactOps)

def prvKeySize : Nat := 64

def pubKeySize : Nat := 32

def saveIdentity (file : AtomicFile) (id : ι) (fault : Option ReplaceFault) : Bool × AtomicFile :=
  let buf := identities.writeTo id
  if buf.length ≠ prvKeySize ∧ buf.length ≠ prvKeySize + pubKeySize then (false, file)
  else identityStoreSave file buf fault

def writeStoredContact (contacts : List StoredContact) (stored : StoredContact) : Bool × List StoredContact :=
  (true, (ops.addContact contacts stored.reread).getD contacts)

def loadContacts (book : ContactBook) : ContactBook :=
  let loaded := contactStoreLoad (writeStoredContact ops) book.file book.contacts
  { book with contacts := loaded.2.1, file := loaded.2.2 }

def meshImportSelfIdentity (node : MeshNode ι) (privateKey : List UInt8) (fault : Option ReplaceFault) :
    Bool × MeshNode ι :=
  if identities.validatePrivateKey privateKey = false then (false, node)
  else
    let candidate := identities.readFrom privateKey
    match saveIdentity identities node.identityFile candidate fault with
    | (false, identityFile) => (false, { node with identityFile := identityFile })
    | (true, identityFile) =>
      (true, {
        selfId := candidate
        identityFile := identityFile
        book := loadContacts ops { node.book with contacts := identities.resetContacts node.book.contacts }
        runtime := node.runtime.invalidateAllLoginSessions })

end Import

section Stored

/-- The newest valid copy of the contact file: the pending one, if there is one, else the live one. -/
def newestContacts (file : AtomicFile) : List StoredContact :=
  ((file.temp.bind readValidatedContacts).or (file.live.bind readValidatedContacts)).getD []

theorem recovered_newest (file : AtomicFile) :
    (((atomicFileRecover file validateContacts none).2.live.bind readValidatedContacts).getD []) =
      newestContacts file := by
  obtain ⟨live, temp⟩ := file
  unfold newestContacts
  cases temp with
  | none =>
    rw [atomicFileRecover_without_temp _ _ rfl]
    rfl
  | some pending =>
    dsimp only [Option.bind_some]
    cases read : readValidatedContacts pending with
    | some contacts =>
      rw [atomicFileRecover_promotes rfl (by rw [validateContacts, read]; rfl)]
      dsimp only [Option.bind_some]
      rw [read]
      rfl
    | none =>
      rw [atomicFileRecover_discards rfl (by rw [validateContacts, read]; rfl)]
      rfl

theorem readRecords_accepted {version : UInt8} {records : List (List UInt8)} {seen contacts : List StoredContact}
    (read : readRecords version records seen = some contacts) :
    contacts.length = seen.length + records.length ∧
      ((∀ contact ∈ seen, contact.acceptable = true) → ∀ contact ∈ contacts, contact.acceptable = true) := by
  induction records generalizing seen with
  | nil =>
    obtain rfl := Option.some.inj read
    exact ⟨rfl, id⟩
  | cons record rest ih =>
    rw [readRecords] at read
    split at read
    · cases read
    · rename_i contact _
      split at read
      · cases read
      · rename_i valid
        split at read
        · cases read
        · obtain ⟨length, accepted⟩ := ih read
          rw [not_or, Bool.not_eq_false, Bool.not_eq_false] at valid
          refine ⟨?_, fun before => accepted ?_⟩
          · rw [length, List.length_append, List.length_singleton, List.length_cons]
            omega
          · intro other member
            rcases List.mem_append.mp member with earlier | here
            · exact before other earlier
            · rw [List.mem_singleton.mp here]
              exact valid.2

theorem readValidatedContacts_accepted {data : List UInt8} {contacts : List StoredContact}
    (read : readValidatedContacts data = some contacts) :
    contacts.length ≤ maxContacts ∧ ∀ contact ∈ contacts, contact.acceptable = true := by
  unfold readValidatedContacts at read
  split at read
  · cases read
  · split at read
    · cases read
    · rename_i version count headerSize _
      split at read
      · cases read
      · rename_i counted
        rw [not_or, not_le, not_lt] at counted
        dsimp only at read
        generalize (if 2 ≤ version then contactRecordSize else contactV1RecordSize) = recordSize at read
        split at read
        · cases read
        · obtain ⟨length, accepted⟩ := readRecords_accepted read
          rw [List.length_nil, length_slots] at length
          exact ⟨by omega, accepted nofun⟩

theorem newestContacts_accepted (file : AtomicFile) :
    (newestContacts file).length ≤ maxContacts ∧ ∀ contact ∈ newestContacts file, contact.acceptable = true := by
  unfold newestContacts
  cases found : (file.temp.bind readValidatedContacts).or (file.live.bind readValidatedContacts) with
  | none => exact ⟨Nat.zero_le _, nofun⟩
  | some contacts =>
    rcases Option.or_eq_some_iff.mp found with pending | ⟨-, live⟩
    · obtain ⟨data, -, read⟩ := Option.bind_eq_some_iff.mp pending
      exact readValidatedContacts_accepted read
    · obtain ⟨data, -, read⟩ := Option.bind_eq_some_iff.mp live
      exact readValidatedContacts_accepted read

end Stored

section Reload

variable {ops : ContactOps}

theorem deliverContacts_written (lawful : ops.Lawful) {stored table : List StoredContact}
    (accepted : ∀ contact ∈ stored, contact.acceptable = true) (room : table.length + stored.length ≤ maxContacts) :
    (deliverContacts (writeStoredContact ops) stored table).2 = table ++ stored := by
  induction stored generalizing table with
  | nil => rw [List.append_nil]; rfl
  | cons contact rest ih =>
    rw [List.length_cons] at room
    rw [deliverContacts, writeStoredContact, reread_of_acceptable (accepted contact List.mem_cons_self),
      lawful.add_appends _ _ (by omega)]
    dsimp only [Option.getD_some]
    have grown : (table ++ [contact]).length + rest.length ≤ maxContacts := by
      rw [List.length_append, List.length_singleton]
      omega
    rw [ih (fun other member => accepted other (List.mem_cons_of_mem _ member)) grown, List.append_assoc,
      List.singleton_append]

theorem loadContacts_contacts (lawful : ops.Lawful) {book : ContactBook} (empty : book.contacts = []) :
    (loadContacts ops book).contacts = newestContacts book.file := by
  have newest := recovered_newest book.file
  obtain ⟨room, accepted⟩ := newestContacts_accepted book.file
  unfold loadContacts contactStoreLoad
  dsimp only
  rw [← newest] at room accepted ⊢
  cases read : (atomicFileRecover book.file validateContacts none).2.live.bind readValidatedContacts with
  | none => exact empty
  | some contacts =>
    rw [read, Option.getD_some] at room accepted
    dsimp only [Option.getD_some]
    rw [empty, deliverContacts_written lawful accepted (by rw [List.length_nil]; omega), List.nil_append]

end Reload

section Kept

variable {ι : Type} {identities : IdentityOps ι} {ops : ContactOps} {node after : MeshNode ι}

def StoredContact.kept (contact : StoredContact) :
    FixedBytes 32 × CString 32 × UInt8 × UInt8 × UInt8 × FixedBytes 64 :=
  (contact.pubKey, contact.name, contact.type, contact.flags, contact.outPathLen, contact.outPath)

theorem meshImportSelfIdentity_cases (result : Bool × MeshNode ι) (privateKey : List UInt8)
    (fault : Option ReplaceFault) (imported : meshImportSelfIdentity identities ops node privateKey fault = result) :
    (result.1 = false ∧ result.2.selfId = node.selfId ∧ result.2.book = node.book ∧ result.2.runtime = node.runtime) ∨
    (result.1 = true ∧ identities.validatePrivateKey privateKey = true ∧
      result.2.selfId = identities.readFrom privateKey ∧
      result.2.book = loadContacts ops { node.book with contacts := identities.resetContacts node.book.contacts }) := by
  subst imported
  unfold meshImportSelfIdentity
  split
  · exact Or.inl ⟨rfl, rfl, rfl, rfl⟩
  · rename_i valid
    dsimp only
    split
    · exact Or.inl ⟨rfl, rfl, rfl, rfl⟩
    · exact Or.inr ⟨rfl, by simpa using valid, rfl, rfl⟩

/-- An import gives the table that the storage holds, whatever was changed since the last save. -/
theorem import_keeps_contacts_iff (identityLawful : identities.Lawful) (lawful : ops.Lawful) (node : MeshNode ι)
    (privateKey : List UInt8) (fault : Option ReplaceFault) :
    ((meshImportSelfIdentity identities ops node privateKey fault).1 = true →
      (((meshImportSelfIdentity identities ops node privateKey fault).2.book.contacts.map StoredContact.kept).Perm
          (node.book.contacts.map StoredContact.kept) ↔
        ((newestContacts node.book.file).map StoredContact.kept).Perm (node.book.contacts.map StoredContact.kept))) ∧
    ((meshImportSelfIdentity identities ops node privateKey fault).1 = false →
      (meshImportSelfIdentity identities ops node privateKey fault).2.selfId = node.selfId ∧
        (meshImportSelfIdentity identities ops node privateKey fault).2.book = node.book) := by
  rcases meshImportSelfIdentity_cases _ privateKey fault rfl with ⟨failed, same, book, -⟩ | ⟨done, -, -, book⟩
  · refine ⟨fun done => ?_, fun _ => ⟨same, book⟩⟩
    rw [failed] at done
    cases done
  · refine ⟨fun _ => ?_, fun failed => ?_⟩
    · rw [book, loadContacts_contacts lawful (identityLawful.reset_empties _)]
    · rw [done] at failed
      cases failed

def keyIdentities : IdentityOps (List UInt8) where
  validatePrivateKey := fun privateKey => privateKey.length == 64
  readFrom := fun privateKey => privateKey
  writeTo := fun privateKey => privateKey
  resetContacts := fun _ => []

theorem keyIdentities_lawful : keyIdentities.Lawful where
  reset_empties := fun _ => rfl

def directNode (stored : List StoredContact) : MeshNode (List UInt8) where
  selfId := List.replicate 64 1
  identityFile := ⟨none, none⟩
  book := { directBook 7 with file := ⟨storedForm stored, none⟩, dirty := true }
  runtime := .init

def importedKey : List UInt8 := List.replicate 64 2

theorem savedNode_keeps_contacts :
    ((meshImportSelfIdentity keyIdentities listOps (directNode [directContact 7]) importedKey none).2.book.contacts.map
      StoredContact.kept).Perm ([directContact 7].map StoredContact.kept) :=
  ((import_keeps_contacts_iff keyIdentities_lawful listOps_lawful (directNode [directContact 7]) importedKey none).1
    (by decide +kernel)).mpr (by decide +kernel)

/-- The contact came in after the last save, and the import loses it. -/
theorem unsavedNode_loses_contacts :
    ¬ ∀ (node : MeshNode (List UInt8)) (privateKey : List UInt8) (fault : Option ReplaceFault),
      (meshImportSelfIdentity keyIdentities listOps node privateKey fault).1 = true →
      ((meshImportSelfIdentity keyIdentities listOps node privateKey fault).2.book.contacts.map StoredContact.kept).Perm
        (node.book.contacts.map StoredContact.kept) := by
  intro keeps
  have kept := keeps (directNode []) importedKey none (by decide +kernel)
  revert kept
  decide +kernel

end Kept

end SigurdOS.Mesh
