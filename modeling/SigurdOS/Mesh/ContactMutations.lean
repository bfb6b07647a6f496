import SigurdOS.Mesh.ContactStore
import SigurdOS.Mesh.Regions

namespace SigurdOS.Mesh

open Bytes Hal

/-- MeshCore's search of its contact table, which finds a contact with the key wherever there is one. -/
structure ContactLookup where
  lookupContactByPubKey : List StoredContact → FixedBytes 32 → Option (Nat × StoredContact)
  lookup_found : ∀ {contacts pubKey index contact}, lookupContactByPubKey contacts pubKey = some (index, contact) →
    contacts[index]? = some contact ∧ contact.pubKey = pubKey
  lookup_missing : ∀ {contacts pubKey}, lookupContactByPubKey contacts pubKey = none →
    ∀ contact ∈ contacts, contact.pubKey ≠ pubKey

section FirstContact

def firstContact (contacts : List StoredContact) (pubKey : FixedBytes 32) : Option (Nat × StoredContact) :=
  match contacts.findIdx? (·.pubKey == pubKey) with
  | none => none
  | some index => contacts[index]?.map (index, ·)

variable {contacts : List StoredContact} {index : Nat} {contact : StoredContact} {pubKey : FixedBytes 32}

theorem firstContact_found (found : firstContact contacts pubKey = some (index, contact)) :
    contacts[index]? = some contact ∧ contact.pubKey = pubKey := by
  unfold firstContact at found
  split at found
  · cases found
  · rename_i place located
    obtain ⟨held, there, same⟩ := Option.map_eq_some_iff.mp found
    obtain ⟨rfl, rfl⟩ := Prod.mk.inj same
    obtain ⟨inside, agrees, -⟩ := List.findIdx?_eq_some_iff_getElem.mp located
    rw [List.getElem?_eq_getElem inside] at there
    rw [Option.some.inj there] at agrees
    exact ⟨by rw [List.getElem?_eq_getElem inside, there], by simpa using agrees⟩

theorem firstContact_missing (missing : firstContact contacts pubKey = none) :
    ∀ contact ∈ contacts, contact.pubKey ≠ pubKey := by
  intro contact member same
  unfold firstContact at missing
  split at missing
  · rename_i located
    have apart := List.findIdx?_eq_none_iff.mp located contact member
    simp [same] at apart
  · rename_i place located
    obtain ⟨inside, -, -⟩ := List.findIdx?_eq_some_iff_getElem.mp located
    rw [List.getElem?_eq_getElem inside] at missing
    cases missing

/-- The search in the order of the table. -/
def ContactLookup.first : ContactLookup := ⟨firstContact, firstContact_found, firstContact_missing⟩

end FirstContact

/-- MeshCore's operations on its contact table that the mutations call. -/
structure ContactOps extends ContactLookup where
  resetPathTo : StoredContact → StoredContact
  addContact : List StoredContact → StoredContact → Option (List StoredContact)
  removeContact : List StoredContact → StoredContact → Option (List StoredContact)

/-- The contact table with its file. Each save takes the next entry of the script of faults. -/
structure ContactBook where
  contacts : List StoredContact
  file : AtomicFile
  dirty : Bool
  saveFaults : List (Option ContactFault)
  deriving DecidableEq

section Lookup

def contactIdToPubKey (contactId : List UInt8) : Option (FixedBytes 32) :=
  if contactId.length ≠ 64 then none else (decodeNibbles contactId).map (.ofList 32)

def contactIdFromPubKey (pubKey : FixedBytes 32) : List UInt8 :=
  pubKey.bytes.flatMap fun byte => [scopeKeyHexDigit (byte.toNat / 16), scopeKeyHexDigit (byte.toNat % 16)]

structure ContactReferenceResolver where
  found : Option Nat
  ambiguous : Bool

def ContactReferenceResolver.consider (reference : List UInt8) (resolver : ContactReferenceResolver)
    (candidate : StoredContact × Nat) : ContactReferenceResolver :=
  if resolver.ambiguous then resolver
  else
    let agrees :=
      match contactIdToPubKey reference with
      | some pubKey => pubKey == candidate.1.pubKey
      | none => reference == candidate.1.name.chars
    if agrees = false then resolver
    else if resolver.found.isSome then { resolver with ambiguous := true }
    else { resolver with found := some candidate.2 }

def ContactReferenceResolver.result (resolver : ContactReferenceResolver) : Option Nat :=
  if resolver.ambiguous then none else resolver.found

def resolveContact (lookup : ContactLookup) (contacts : List StoredContact) (reference : List UInt8) :
    Option (Nat × StoredContact) :=
  if reference.isEmpty then none
  else
    let resolver := contacts.zipIdx.foldl (ContactReferenceResolver.consider reference) ⟨none, false⟩
    match resolver.result.bind fun index => contacts[index]? with
    | none => none
    | some contact => lookup.lookupContactByPubKey contacts contact.pubKey

end Lookup

section Revision

def highWater (contacts : List StoredContact) : UInt32 :=
  contacts.foldl (fun high contact => if contact.lastmod > high then contact.lastmod else high) 0

def nextContactRevision (clockValue highWater : UInt32) : Option UInt32 :=
  if highWater = 0xFFFFFFFF then none
  else
    let revision := if clockValue ≤ highWater then highWater + 1 else clockValue
    some (if revision = 0 then 1 else revision)

def nextStoreRevision (clockValue highWater : UInt32) : Option UInt32 :=
  if highWater = 0xFFFFFFFF then none else some (if clockValue > highWater then clockValue else highWater + 1)

def assignLocalContactRevision (contacts : List StoredContact) (clockValue : UInt32) (contact : StoredContact) :
    Option StoredContact :=
  (nextContactRevision clockValue (highWater contacts)).map fun revision => { contact with lastmod := revision }

end Revision

def saveContacts (book : ContactBook) : Bool × ContactBook :=
  let (saved, file) := contactStoreSaveAll book.file book.contacts (book.saveFaults.headD none)
  (saved, { book with file := file, saveFaults := book.saveFaults.tail, dirty := !saved && book.dirty })

def applyAndCommit {σ : Type} (apply commit : σ → Bool × σ) (rollback : σ → σ) (state : σ) : Bool × σ :=
  match apply state with
  | (false, state) => (false, state)
  | (true, state) =>
    match commit state with
    | (true, state) => (true, state)
    | (false, state) => (false, rollback state)

def ContactBook.put (book : ContactBook) (index : Nat) (contact : StoredContact) : ContactBook :=
  { book with contacts := book.contacts.set index contact }

section Calls

variable (ops : ContactOps)

def meshResetContactPathByPubKeyDurable (book : ContactBook) (clock : UInt32) (pubKey : FixedBytes 32) :
    Bool × ContactBook :=
  match ops.lookupContactByPubKey book.contacts pubKey with
  | none => (false, book)
  | some (index, before) =>
    applyAndCommit
      (fun book =>
        let reset := book.put index (ops.resetPathTo before)
        match assignLocalContactRevision reset.contacts clock (ops.resetPathTo before) with
        | none => (false, reset)
        | some revised => (true, reset.put index revised))
      saveContacts (fun book => book.put index before) book

def setContactFlags (book : ContactBook) (clock : UInt32) (reference : List UInt8) (change : UInt8 → UInt8) :
    Bool × ContactBook :=
  match resolveContact ops.toContactLookup book.contacts reference with
  | none => (false, book)
  | some (index, before) =>
    let flagged := { before with flags := change before.flags }
    let changed := book.put index flagged
    match assignLocalContactRevision changed.contacts clock flagged with
    | none => (false, changed.put index before)
    | some revised =>
      match saveContacts (changed.put index revised) with
      | (true, saved) => (true, saved)
      | (false, unsaved) => (false, unsaved.put index before)

def setContactFavourite (book : ContactBook) (clock : UInt32) (name : List UInt8) (favourite : Bool) :
    Bool × ContactBook :=
  setContactFlags ops book clock name fun flags => if favourite then flags ||| 0x01 else flags &&& ~~~0x01

def setContactPerm (book : ContactBook) (clock : UInt32) (name : List UInt8) (perm : UInt8) : Bool × ContactBook :=
  setContactFlags ops book clock name fun flags => (flags &&& 1) ||| ((perm &&& (3 : UInt8)) <<< (1 : UInt8))

def addAndSave (book : ContactBook) (contact : StoredContact) : Bool × ContactBook :=
  match ops.addContact book.contacts contact with
  | none => (false, book)
  | some contacts =>
    match saveContacts { book with contacts := contacts } with
    | (true, saved) => (true, saved)
    | (false, unsaved) =>
      match ops.lookupContactByPubKey unsaved.contacts contact.pubKey with
      | none => (false, unsaved)
      | some (_, added) =>
        (false, { unsaved with contacts := (ops.removeContact unsaved.contacts added).getD unsaved.contacts })

def blankContact (pubKey : FixedBytes 32) (name : CString 32) (type : UInt8) : StoredContact where
  pubKey := pubKey
  name := name.truncate 31
  type := type
  flags := 0
  outPathLen := 0xFF
  outPath := .ofList 64 []
  lastAdvertTimestamp := 0
  lastmod := 0
  gpsLat := 0
  gpsLon := 0
  syncSince := 0

def addContactChecked (book : ContactBook) (clock : UInt32) (name : CString 32) (pubKey : FixedBytes 32)
    (type : UInt8) :
    Bool × ContactBook :=
  if contactCandidateValid name pubKey type = false then (false, book)
  else if book.contacts.length ≥ maxContacts then (false, book)
  else if book.contacts.any (fun existing => contactCandidateDuplicates pubKey existing.pubKey) then (false, book)
  else
    match assignLocalContactRevision book.contacts clock (blankContact pubKey name type) with
    | none => (false, book)
    | some contact => addAndSave ops book contact

/-- The contact of a companion frame over the one that exists, of which the sync cursor stays. -/
def companionContact (update : StoredContact) (existing : Option StoredContact) (revision : UInt32) :
    StoredContact where
  pubKey := update.pubKey
  name := update.name.truncate 31
  type := update.type
  flags := update.flags
  outPathLen := update.outPathLen
  outPath := .ofList 64 (if update.outPathLen ≠ 0xFF ∧ update.outPathLen > 0 then
    update.outPath.bytes.take (byteCount update.outPathLen) else [])
  lastAdvertTimestamp := update.lastAdvertTimestamp
  lastmod := revision
  gpsLat := update.gpsLat
  gpsLon := update.gpsLon
  syncSince := (existing.map StoredContact.syncSince).getD 0

def addOrUpdateContact (book : ContactBook) (clock : UInt32) (update : StoredContact) : Bool × ContactBook :=
  if storedLengthValid update.outPathLen = false then (false, book)
  else if contactCandidateValid update.name update.pubKey update.type = false then (false, book)
  else if update.flags &&& 0xF8 ≠ 0 then (false, book)
  else if book.contacts.any (fun candidate => candidate.pubKey != update.pubKey &&
      contactCandidateDuplicates update.pubKey candidate.pubKey) then (false, book)
  else
    match nextStoreRevision clock (highWater book.contacts) with
    | none => (false, book)
    | some revision =>
      match ops.lookupContactByPubKey book.contacts update.pubKey with
      | some (index, existing) =>
        match saveContacts (book.put index (companionContact update (some existing) revision)) with
        | (true, saved) => (true, saved)
        | (false, unsaved) => (false, unsaved.put index existing)
      | none =>
        if book.contacts.length ≥ maxContacts then (false, book)
        else addAndSave ops book (companionContact update none revision)

def readStoredContactWithoutKey (contacts : List StoredContact) (pubKey : FixedBytes 32) (index : Nat) :
    Option StoredContact := (contacts.filter (·.pubKey != pubKey))[index]?

def meshRemoveContactByPubKeyDurable (book : ContactBook) (pubKey : FixedBytes 32) : Bool × ContactBook :=
  match ops.lookupContactByPubKey book.contacts pubKey with
  | none => (false, book)
  | some (_, live) =>
    match contactStoreSave book.file (book.contacts.length - 1) (readStoredContactWithoutKey book.contacts pubKey)
        (book.saveFaults.headD none) with
    | (false, file) => (false, { book with file := file, saveFaults := book.saveFaults.tail })
    | (true, file) =>
      let stored := { book with file := file, saveFaults := book.saveFaults.tail, dirty := false }
      match ops.removeContact stored.contacts live with
      | none => (false, (saveContacts stored).2)
      | some contacts => (true, { stored with contacts := contacts })

/-- The durable mutations of the contact table; a reference is a name or a contact id. -/
inductive ContactCall where
  | resetPath (pubKey : FixedBytes 32)
  | resetPathTo (reference : List UInt8)
  | setFavourite (reference : List UInt8) (favourite : Bool)
  | setPerm (reference : List UInt8) (perm : UInt8)
  | add (name : CString 32) (pubKey : FixedBytes 32) (type : UInt8)
  | addOrUpdate (update : StoredContact)
  | remove (pubKey : FixedBytes 32)
  | removeContact (reference : List UInt8)

def performContactCall (book : ContactBook) (clock : UInt32) : ContactCall → Bool × ContactBook
  | .resetPath pubKey => meshResetContactPathByPubKeyDurable ops book clock pubKey
  | .resetPathTo reference =>
    match resolveContact ops.toContactLookup book.contacts reference with
    | none => (false, book)
    | some (_, contact) => meshResetContactPathByPubKeyDurable ops book clock contact.pubKey
  | .setFavourite reference favourite => setContactFavourite ops book clock reference favourite
  | .setPerm reference perm => setContactPerm ops book clock reference perm
  | .add name pubKey type => addContactChecked ops book clock name pubKey type
  | .addOrUpdate update => addOrUpdateContact ops book clock update
  | .remove pubKey => meshRemoveContactByPubKeyDurable ops book pubKey
  | .removeContact reference =>
    match resolveContact ops.toContactLookup book.contacts reference with
    | none => (false, book)
    | some (_, contact) => meshRemoveContactByPubKeyDurable ops book contact.pubKey

end Calls

structure ContactOps.Lawful (ops : ContactOps) : Prop where
  reset_only_path : ∀ contact, ops.resetPathTo contact =
    { contact with outPathLen := (ops.resetPathTo contact).outPathLen, outPath := (ops.resetPathTo contact).outPath }
  reset_valid : ∀ contact, contactValid (ops.resetPathTo contact) = true
  add_appends : ∀ contacts contact, contacts.length < maxContacts →
    ops.addContact contacts contact = some (contacts ++ [contact])
  remove_only : ∀ contacts contact, contact ∈ contacts →
    ops.removeContact contacts contact = some (contacts.filter (·.pubKey != contact.pubKey))

/-- The names of the table are terminated, and its paths encodable. -/
structure TableSound (contacts : List StoredContact) : Prop where
  room : contacts.length ≤ maxContacts
  distinct : (contacts.map StoredContact.pubKey).Nodup
  paths : ∀ contact ∈ contacts, contactValid contact = true
  terminated : ∀ contact ∈ contacts, contact.name.chars.length ≤ 31

section Table

variable {contacts : List StoredContact} {index : Nat} {before after contact : StoredContact} {pubKey : FixedBytes 32}

variable {lookup : ContactLookup}

theorem lookup_none_iff : lookup.lookupContactByPubKey contacts pubKey = none ↔
    ∀ contact ∈ contacts, contact.pubKey ≠ pubKey := by
  refine ⟨lookup.lookup_missing, fun apart => ?_⟩
  cases found : lookup.lookupContactByPubKey contacts pubKey with
  | none => rfl
  | some place =>
    obtain ⟨there, same⟩ := lookup.lookup_found found
    exact absurd same (apart place.2 (List.mem_of_getElem? there))

theorem lookup_of_mem (member : contact ∈ contacts) (same : contact.pubKey = pubKey) :
    ∃ index held, lookup.lookupContactByPubKey contacts pubKey = some (index, held) := by
  cases found : lookup.lookupContactByPubKey contacts pubKey with
  | none => exact absurd same (lookup.lookup_missing found contact member)
  | some place => exact ⟨place.1, place.2, rfl⟩

theorem resolve_spec {reference : List UInt8}
    (found : resolveContact lookup contacts reference = some (index, contact)) : contacts[index]? = some contact := by
  unfold resolveContact at found
  split at found
  · cases found
  · dsimp only at found
    split at found
    · cases found
    · exact (lookup.lookup_found found).1

theorem set_back (there : contacts[index]? = some before) : (contacts.set index after).set index before = contacts := by
  obtain ⟨inside, rfl⟩ := List.getElem?_eq_some_iff.mp there
  rw [List.set_set, List.set_getElem_self]

theorem map_set_of_same {β : Type} {f : StoredContact → β} (there : contacts[index]? = some before)
    (same : f after = f before) : (contacts.set index after).map f = contacts.map f := by
  obtain ⟨inside, rfl⟩ := List.getElem?_eq_some_iff.mp there
  rw [List.map_set, same, ← List.map_set, List.set_getElem_self]

theorem TableSound.put (sound : TableSound contacts) (there : contacts[index]? = some before)
    (key : after.pubKey = before.pubKey) (path : contactValid after = true) (named : after.name.chars.length ≤ 31) :
    TableSound (contacts.set index after) where
  room := by
    rw [List.length_set]
    exact sound.room
  distinct := by
    rw [map_set_of_same there key]
    exact sound.distinct
  paths := by
    intro contact member
    rcases List.mem_or_eq_of_mem_set member with old | rfl
    · exact sound.paths contact old
    · exact path
  terminated := by
    intro contact member
    rcases List.mem_or_eq_of_mem_set member with old | rfl
    · exact sound.terminated contact old
    · exact named

theorem TableSound.append (sound : TableSound contacts) (space : contacts.length < maxContacts)
    (fresh : ∀ old ∈ contacts, old.pubKey ≠ contact.pubKey) (path : contactValid contact = true)
    (named : contact.name.chars.length ≤ 31) : TableSound (contacts ++ [contact]) where
  room := by
    rw [List.length_append, List.length_singleton]
    omega
  distinct := by
    rw [List.map_append, List.nodup_append]
    refine ⟨sound.distinct, by simp, ?_⟩
    intro key listed other new same
    obtain ⟨old, member, rfl⟩ := List.mem_map.mp listed
    exact fresh old member (same.trans (by simpa using new))
  paths := by
    intro other member
    rcases List.mem_append.mp member with old | new
    · exact sound.paths other old
    · rw [List.mem_singleton.mp new]
      exact path
  terminated := by
    intro other member
    rcases List.mem_append.mp member with old | new
    · exact sound.terminated other old
    · rw [List.mem_singleton.mp new]
      exact named

theorem TableSound.filter (sound : TableSound contacts) (keep : StoredContact → Bool) :
    TableSound (contacts.filter keep) where
  room := (List.length_filter_le _ _).trans sound.room
  distinct := sound.distinct.sublist (List.filter_sublist.map _)
  paths := fun contact member => sound.paths contact (List.mem_of_mem_filter member)
  terminated := fun contact member => sound.terminated contact (List.mem_of_mem_filter member)

theorem reread_of_terminated (sound : TableSound contacts) (member : contact ∈ contacts) :
    contact.reread = contact := by
  rw [StoredContact.reread, CString.truncate_of_le (sound.terminated contact member)]

theorem length_filter_key (sound : TableSound contacts) (there : contacts[index]? = some contact)
    (same : contact.pubKey = pubKey) : (contacts.filter (·.pubKey != pubKey)).length = contacts.length - 1 := by
  have listed : pubKey ∈ contacts.map StoredContact.pubKey :=
    List.mem_map.mpr ⟨contact, List.mem_of_getElem? there, same⟩
  have once := List.count_eq_one_of_mem sound.distinct listed
  rw [List.count, List.countP_map] at once
  have split := List.length_eq_countP_add_countP (fun contact : StoredContact => contact.pubKey == pubKey)
    (l := contacts)
  have rest : (contacts.filter (·.pubKey != pubKey)).length =
      contacts.countP fun contact => !(contact.pubKey == pubKey) := List.countP_eq_length_filter.symm
  have alike : (contacts.countP fun contact => contact.pubKey == pubKey) = 1 := once
  have others : (contacts.countP fun contact => decide ¬(contact.pubKey == pubKey) = true) =
      contacts.countP fun contact => !(contact.pubKey == pubKey) := by
    congr 1
    funext contact
    cases contact.pubKey == pubKey with
    | true => rfl
    | false => rfl
  omega

end Table

section Save

variable {contacts : List StoredContact} {file after : AtomicFile} {fault : Option ContactFault}

def storedForm (contacts : List StoredContact) : Option (List UInt8) :=
  if contacts = [] then none else some (contactBytes contacts)

/-- The live file is lost by a save that fails: at the rename, or when only the temporary file of an emptied store
    cannot be removed. -/
def LosesFile (file : AtomicFile) (contacts : List StoredContact) (fault : Option ContactFault) : Prop :=
  file.live ≠ none ∧
    ((contacts ≠ [] ∧ contacts.all StoredContact.acceptable = true ∧ fault = some (.replace .rename)) ∨
      (contacts = [] ∧ fault = some .removeTemp ∧ file.temp ≠ none))

theorem all_reread (sound : TableSound contacts) :
    contacts.all (fun contact => contact.reread.acceptable) = contacts.all StoredContact.acceptable := by
  rw [Bool.eq_iff_iff, List.all_eq_true, List.all_eq_true]
  apply forall₂_congr
  intro contact member
  rw [reread_of_terminated sound member]

theorem loaded_stored (sound : TableSound contacts) (accepted : contacts.all StoredContact.acceptable = true) :
    loadedContacts ⟨storedForm contacts, none⟩ = contacts := by
  unfold storedForm
  split
  · rename_i empty
    rw [empty]
    rfl
  · rename_i filled
    have written := readValidatedContacts_written filled sound.room sound.paths sound.distinct
    rw [all_reread sound, accepted, if_pos rfl] at written
    rw [loadedContacts_of_live, written, Option.getD_some]
    calc contacts.map StoredContact.reread = contacts.map id :=
          List.map_congr_left fun contact member => reread_of_terminated sound member
      _ = contacts := List.map_id _

theorem removeStore_outcome {ok : Bool} (removed : removeStore file fault = (ok, after)) :
    (ok = true → after = ⟨none, none⟩) ∧ (ok = false → (after.live = file.live ↔ ¬ LosesFile file [] fault)) := by
  unfold removeStore at removed
  dsimp only at removed
  obtain ⟨rfl, rfl⟩ := Prod.mk.inj removed
  unfold LosesFile
  dsimp only
  by_cases stuckTemp : fault = some .removeTemp
  · rw [if_pos stuckTemp, if_neg (by rw [stuckTemp]; decide)]
    cases temp : file.temp with
    | none => exact ⟨fun _ => rfl, nofun⟩
    | some pending =>
      refine ⟨nofun, fun _ => ?_⟩
      cases live : file.live with
      | none => simp
      | some held => simp [stuckTemp]
  · rw [if_neg stuckTemp]
    by_cases stuckLive : fault = some .removeLive
    · rw [if_pos stuckLive]
      cases live : file.live with
      | none => exact ⟨fun _ => rfl, nofun⟩
      | some held => exact ⟨nofun, fun _ => by simp [stuckTemp]⟩
    · rw [if_neg stuckLive]
      exact ⟨fun _ => rfl, nofun⟩

theorem replaceContacts_outcome (sound : TableSound contacts) (filled : contacts ≠ []) {ok : Bool}
    (replaced : atomicFileReplace file (some (contactBytes contacts)) validateContacts
      (fault.bind ContactFault.replaceFault) = (ok, after)) :
    (ok = true → after = ⟨some (contactBytes contacts), none⟩ ∧ contacts.all StoredContact.acceptable = true) ∧
      (ok = false → (after.live = file.live ↔ ¬ LosesFile file contacts fault)) := by
  have valid := validateContacts_written filled sound.room sound.paths sound.distinct
  rw [all_reread sound] at valid
  have renames : fault.bind ContactFault.replaceFault = some .rename ↔ fault = some (.replace .rename) := by
    constructor
    · intro chosen
      obtain ⟨step, rfl, inner⟩ := Option.bind_eq_some_iff.mp chosen
      cases step with
      | replace reason => rw [Option.some.inj inner]
      | _ => cases inner
    · rintro rfl
      rfl
  rcases atomicFileReplace_cases replaced with ⟨rfl, data, same, accepted, rfl⟩ | ⟨rfl, live, -⟩ |
    ⟨rfl, rename, data, same, accepted, rfl⟩
  · obtain rfl := Option.some.inj same
    exact ⟨fun _ => ⟨rfl, valid ▸ accepted⟩, nofun⟩
  · refine ⟨nofun, fun _ => ⟨fun _ => ?_, fun _ => live⟩⟩
    rintro ⟨held, ⟨-, accepted, rename⟩ | ⟨empty, -⟩⟩
    · rw [← renames] at rename
      rw [rename, atomicFileReplace] at replaced
      rw [valid, accepted, if_pos rfl] at replaced
      obtain ⟨-, rfl⟩ := Prod.mk.inj replaced
      exact held live.symm
    · exact filled empty
  · obtain rfl := Option.some.inj same
    refine ⟨nofun, fun _ => ?_⟩
    have lost : LosesFile file contacts fault ↔ file.live ≠ none :=
      ⟨And.left, fun held => ⟨held, Or.inl ⟨filled, valid ▸ accepted, renames.mp rename⟩⟩⟩
    rw [lost, not_not]
    exact eq_comm

theorem saveAll_outcome (sound : TableSound contacts) {ok : Bool}
    (saved : contactStoreSaveAll file contacts fault = (ok, after)) :
    (ok = true → after.live = storedForm contacts ∧ loadedContacts after = contacts) ∧
      (ok = false → (after.live = file.live ↔ ¬ LosesFile file contacts fault)) := by
  unfold contactStoreSaveAll contactStoreSave at saved
  split at saved
  · rename_i unmounted
    obtain ⟨rfl, rfl⟩ := Prod.mk.inj saved
    refine ⟨nofun, fun _ => ⟨fun _ => ?_, fun _ => rfl⟩⟩
    rintro ⟨-, ⟨-, -, other⟩ | ⟨-, other, -⟩⟩
    · rw [unmounted] at other
      cases other
    · rw [unmounted] at other
      cases other
  · split at saved
    · rename_i empty
      obtain rfl := List.length_eq_zero_iff.mp empty
      obtain ⟨done, failed⟩ := removeStore_outcome saved
      refine ⟨fun ok => ?_, failed⟩
      rw [done ok]
      exact ⟨rfl, rfl⟩
    · rename_i counted
      have filled : contacts ≠ [] := fun empty => counted (by rw [empty]; rfl)
      rw [writeContacts_all sound.room sound.paths] at saved
      obtain ⟨done, failed⟩ := replaceContacts_outcome sound filled saved
      refine ⟨fun ok => ?_, failed⟩
      obtain ⟨rfl, accepted⟩ := done ok
      have form : storedForm contacts = some (contactBytes contacts) := if_neg filled
      rw [← form]
      exact ⟨rfl, loaded_stored sound accepted⟩

theorem saved_keeps (sound : TableSound contacts) (saved : contactStoreSaveAll file contacts fault = (true, after)) :
    ¬ LosesFile file contacts fault := by
  rintro ⟨-, ⟨filled, accepted, rfl⟩ | ⟨rfl, rfl, pending⟩⟩
  · have valid := validateContacts_written filled sound.room sound.paths sound.distinct
    rw [all_reread sound, accepted] at valid
    rw [contactStoreSaveAll, contactStoreSave, if_neg (by decide), if_neg (by simpa using filled),
      writeContacts_all sound.room sound.paths,
        show (some (ContactFault.replace .rename)).bind ContactFault.replaceFault =
        some .rename from rfl, atomicFileReplace] at saved
    rw [valid, if_pos rfl] at saved
    cases saved
  · rw [contactStoreSaveAll, contactStoreSave, if_neg (by decide), if_pos List.length_nil, removeStore] at saved
    have removed := (Prod.mk.inj saved).1
    rw [Bool.and_eq_true, if_pos rfl] at removed
    exact pending (Option.isNone_iff_eq_none.mp removed.2)

end Save

section Plans

/-- What a call comes to: nothing, a changed table that is not saved, or a table to be saved. -/
inductive ContactPlan where
  | refuse
  | spoil (contacts : List StoredContact)
  | commit (contacts : List StoredContact)

def ContactPlan.outcome (book : ContactBook) : ContactPlan → Bool × List StoredContact × AtomicFile
  | .refuse => (false, book.contacts, book.file)
  | .spoil contacts => (false, contacts, book.file)
  | .commit contacts =>
    match contactStoreSaveAll book.file contacts (book.saveFaults.headD none) with
    | (true, file) => (true, contacts, file)
    | (false, file) => (false, book.contacts, file)

def resetPlan (ops : ContactOps) (contacts : List StoredContact) (clock : UInt32) (pubKey : FixedBytes 32) :
    ContactPlan :=
  match ops.lookupContactByPubKey contacts pubKey with
  | none => .refuse
  | some (index, before) =>
    let reset := contacts.set index (ops.resetPathTo before)
    match assignLocalContactRevision reset clock (ops.resetPathTo before) with
    | none => .spoil reset
    | some revised => .commit (contacts.set index revised)

def flagsPlan (ops : ContactOps) (contacts : List StoredContact) (clock : UInt32) (reference : List UInt8)
    (change : UInt8 → UInt8) : ContactPlan :=
  match resolveContact ops.toContactLookup contacts reference with
  | none => .refuse
  | some (index, before) =>
    let flagged := { before with flags := change before.flags }
    match assignLocalContactRevision (contacts.set index flagged) clock flagged with
    | none => .refuse
    | some revised => .commit (contacts.set index revised)

def removePlan (ops : ContactOps) (contacts : List StoredContact) (pubKey : FixedBytes 32) : ContactPlan :=
  match ops.lookupContactByPubKey contacts pubKey with
  | none => .refuse
  | some _ => .commit (contacts.filter (·.pubKey != pubKey))

variable {ops : ContactOps} {book : ContactBook}

def summary (result : Bool × ContactBook) : Bool × List StoredContact × AtomicFile :=
  (result.1, result.2.contacts, result.2.file)

theorem save_summary (book : ContactBook) (contacts : List StoredContact) (restore : ContactBook → List StoredContact)
    (restores : ∀ unsaved : ContactBook, unsaved.contacts = contacts → restore unsaved = book.contacts) :
    summary (match saveContacts { book with contacts := contacts } with
      | (true, saved) => (true, saved)
      | (false, unsaved) => (false, { unsaved with contacts := restore unsaved })) =
      (ContactPlan.commit contacts).outcome book := by
  unfold saveContacts ContactPlan.outcome summary
  dsimp only
  cases contactStoreSaveAll book.file contacts (book.saveFaults.headD none) with
  | mk ok file =>
    cases ok with
    | true => rfl
    | false =>
      dsimp only
      rw [restores _ rfl]

theorem resetPath_summary (clock : UInt32) (pubKey : FixedBytes 32) :
    summary (meshResetContactPathByPubKeyDurable ops book clock pubKey) =
      (resetPlan ops book.contacts clock pubKey).outcome book := by
  unfold meshResetContactPathByPubKeyDurable resetPlan
  cases found : ops.lookupContactByPubKey book.contacts pubKey with
  | none => rfl
  | some place =>
    obtain ⟨index, before⟩ := place
    obtain ⟨there, -⟩ := ops.lookup_found found
    dsimp only
    unfold applyAndCommit
    dsimp only
    cases assigned : assignLocalContactRevision (book.put index (ops.resetPathTo before)).contacts clock
        (ops.resetPathTo before) with
    | none =>
      have missing : assignLocalContactRevision (book.contacts.set index (ops.resetPathTo before)) clock
          (ops.resetPathTo before) = none := assigned
      rw [missing]
      rfl
    | some revised =>
      have kept : assignLocalContactRevision (book.contacts.set index (ops.resetPathTo before)) clock
          (ops.resetPathTo before) = some revised := assigned
      rw [kept]
      have changed : (book.put index (ops.resetPathTo before)).put index revised =
          { book with contacts := book.contacts.set index revised } := by
        rw [ContactBook.put, ContactBook.put]
        dsimp only
        rw [List.set_set]
      have restored := save_summary book (book.contacts.set index revised)
        (fun unsaved => unsaved.contacts.set index before) (fun unsaved same => by rw [same]; exact set_back there)
      dsimp only
      rw [changed, ← restored]
      cases saveContacts { book with contacts := book.contacts.set index revised } with
      | mk ok unsaved =>
        cases ok with
        | true => rfl
        | false => rfl

theorem setContactFlags_summary (clock : UInt32) (reference : List UInt8) (change : UInt8 → UInt8) :
    summary (setContactFlags ops book clock reference change) =
      (flagsPlan ops book.contacts clock reference change).outcome book := by
  unfold setContactFlags flagsPlan
  cases found : resolveContact ops.toContactLookup book.contacts reference with
  | none => rfl
  | some place =>
    obtain ⟨index, before⟩ := place
    have there := resolve_spec found
    dsimp only [ContactBook.put]
    cases assignLocalContactRevision (book.contacts.set index { before with flags := change before.flags }) clock
        { before with flags := change before.flags } with
    | none =>
      dsimp only
      rw [set_back there]
      rfl
    | some revised =>
      dsimp only
      rw [List.set_set]
      refine save_summary book (book.contacts.set index revised) (fun unsaved => unsaved.contacts.set index before)
        fun unsaved same => ?_
      rw [same]
      exact set_back there

theorem filter_append_key {contacts : List StoredContact} {contact : StoredContact}
    (fresh : ∀ old ∈ contacts, old.pubKey ≠ contact.pubKey) :
    (contacts ++ [contact]).filter (·.pubKey != contact.pubKey) = contacts := by
  rw [List.filter_append, List.filter_eq_self.mpr fun old member => by simpa using fresh old member]
  simp

theorem addAndSave_summary (lawful : ops.Lawful) {contact : StoredContact} (space : book.contacts.length < maxContacts)
    (fresh : ∀ old ∈ book.contacts, old.pubKey ≠ contact.pubKey) :
    summary (addAndSave ops book contact) = (ContactPlan.commit (book.contacts ++ [contact])).outcome book := by
  unfold addAndSave
  rw [lawful.add_appends _ _ space]
  dsimp only
  obtain ⟨index, held, found⟩ :=
    lookup_of_mem (List.mem_append_right book.contacts (List.mem_singleton_self contact)) rfl
  obtain ⟨there, same⟩ := ops.lookup_found found
  have removed : ops.removeContact (book.contacts ++ [contact]) held = some book.contacts := by
    rw [lawful.remove_only _ _ (List.mem_of_getElem? there), same, filter_append_key fresh]
  have restored := save_summary book (book.contacts ++ [contact]) (fun _ => book.contacts) (fun _ _ => rfl)
  rw [← restored]
  unfold saveContacts
  dsimp only
  cases contactStoreSaveAll book.file (book.contacts ++ [contact]) (book.saveFaults.headD none) with
  | mk ok file =>
    cases ok with
    | true => rfl
    | false =>
      dsimp only
      rw [found]
      dsimp only
      rw [removed]
      rfl

theorem remove_summary (lawful : ops.Lawful) (sound : TableSound book.contacts) (pubKey : FixedBytes 32) :
    summary (meshRemoveContactByPubKeyDurable ops book pubKey) =
      (removePlan ops book.contacts pubKey).outcome book := by
  unfold meshRemoveContactByPubKeyDurable removePlan
  cases found : ops.lookupContactByPubKey book.contacts pubKey with
  | none => rfl
  | some place =>
    obtain ⟨index, live⟩ := place
    obtain ⟨there, same⟩ := ops.lookup_found found
    have counted := length_filter_key sound there same
    have saved : contactStoreSave book.file (book.contacts.length - 1)
        (readStoredContactWithoutKey book.contacts pubKey) (book.saveFaults.headD none) =
        contactStoreSaveAll book.file (book.contacts.filter (·.pubKey != pubKey)) (book.saveFaults.headD none) := by
      rw [contactStoreSaveAll, counted]
      rfl
    have removed : ops.removeContact book.contacts live = some (book.contacts.filter (·.pubKey != pubKey)) := by
      rw [lawful.remove_only _ _ (List.mem_of_getElem? there), same]
    dsimp only
    rw [saved, removed]
    unfold ContactPlan.outcome summary
    dsimp only
    cases contactStoreSaveAll book.file (book.contacts.filter (·.pubKey != pubKey)) (book.saveFaults.headD none) with
    | mk ok file =>
      cases ok with
      | true => rfl
      | false => rfl

def addPlan (contacts : List StoredContact) (clock : UInt32) (name : CString 32) (pubKey : FixedBytes 32)
    (type : UInt8) :
    ContactPlan :=
  if contactCandidateValid name pubKey type = false ∨ contacts.length ≥ maxContacts ∨
      contacts.any (fun existing => contactCandidateDuplicates pubKey existing.pubKey) then .refuse
  else
    match assignLocalContactRevision contacts clock (blankContact pubKey name type) with
    | none => .refuse
    | some contact => .commit (contacts ++ [contact])

def updateRefused (update : StoredContact) : Bool :=
  !(storedLengthValid update.outPathLen && contactCandidateValid update.name update.pubKey update.type &&
    update.flags &&& 0xF8 == 0)

def updatePlan (ops : ContactOps) (contacts : List StoredContact) (clock : UInt32) (update : StoredContact) :
    ContactPlan :=
  if updateRefused update then .refuse
  else
    match nextStoreRevision clock (highWater contacts) with
    | none => .refuse
    | some revision =>
      match ops.lookupContactByPubKey contacts update.pubKey with
      | some (index, existing) => .commit (contacts.set index (companionContact update (some existing) revision))
      | none =>
        if contacts.length ≥ maxContacts then .refuse else .commit (contacts ++ [companionContact update none revision])

def contactPlan (ops : ContactOps) (contacts : List StoredContact) (clock : UInt32) : ContactCall → ContactPlan
  | .resetPath pubKey => resetPlan ops contacts clock pubKey
  | .resetPathTo reference =>
    match resolveContact ops.toContactLookup contacts reference with
    | none => .refuse
    | some (_, contact) => resetPlan ops contacts clock contact.pubKey
  | .setFavourite reference favourite =>
    flagsPlan ops contacts clock reference fun flags => if favourite then flags ||| 0x01 else flags &&& ~~~0x01
  | .setPerm reference perm =>
    flagsPlan ops contacts clock reference fun flags => (flags &&& 1) ||| ((perm &&& (3 : UInt8)) <<< (1 : UInt8))
  | .add name pubKey type => addPlan contacts clock name pubKey type
  | .addOrUpdate update => updatePlan ops contacts clock update
  | .remove pubKey => removePlan ops contacts pubKey
  | .removeContact reference =>
    match resolveContact ops.toContactLookup contacts reference with
    | none => .refuse
    | some (_, contact) => removePlan ops contacts contact.pubKey

theorem any_duplicate_iff {contacts : List StoredContact} {pubKey : FixedBytes 32} :
    contacts.any (fun existing => contactCandidateDuplicates pubKey existing.pubKey) = true ↔
      ∃ contact ∈ contacts, contact.pubKey = pubKey := by
  rw [List.any_eq_true]
  constructor
  · rintro ⟨contact, member, same⟩
    exact ⟨contact, member, (eq_of_beq same).symm⟩
  · rintro ⟨contact, member, same⟩
    exact ⟨contact, member, beq_iff_eq.mpr same.symm⟩

theorem assign_cases (contacts : List StoredContact) (clock : UInt32) (contact : StoredContact) :
    (highWater contacts = 0xFFFFFFFF ∧ assignLocalContactRevision contacts clock contact = none) ∨
      (highWater contacts ≠ 0xFFFFFFFF ∧
        ∃ revision, assignLocalContactRevision contacts clock contact = some { contact with lastmod := revision }) := by
  unfold assignLocalContactRevision nextContactRevision
  split
  · rename_i exhausted
    exact Or.inl ⟨exhausted, rfl⟩
  · rename_i room
    exact Or.inr ⟨room, _, rfl⟩

theorem add_summary (lawful : ops.Lawful) (clock : UInt32) (name : CString 32) (pubKey : FixedBytes 32) (type : UInt8) :
    summary (addContactChecked ops book clock name pubKey type) =
      (addPlan book.contacts clock name pubKey type).outcome book := by
  unfold addContactChecked addPlan
  split
  · rename_i invalid
    rw [if_pos (Or.inl invalid)]
    rfl
  · rename_i valid
    split
    · rename_i full
      rw [if_pos (Or.inr (Or.inl full))]
      rfl
    · rename_i space
      split
      · rename_i listed
        rw [if_pos (Or.inr (Or.inr listed))]
        rfl
      · rename_i fresh
        rw [if_neg (by simp only [not_or]; exact ⟨valid, space, fresh⟩)]
        have apart (contact : StoredContact) (same : contact.pubKey = pubKey) :
            ∀ old ∈ book.contacts, old.pubKey ≠ contact.pubKey := by
          intro old member equal
          exact fresh (any_duplicate_iff.mpr ⟨old, member, equal.trans same⟩)
        rcases assign_cases book.contacts clock (blankContact pubKey name type) with ⟨-, none⟩ | ⟨-, revision, some⟩
        · rw [none]
          rfl
        · rw [some]
          exact addAndSave_summary lawful (by omega) (apart _ rfl)

theorem update_summary (lawful : ops.Lawful) (clock : UInt32) (update : StoredContact) :
    summary (addOrUpdateContact ops book clock update) = (updatePlan ops book.contacts clock update).outcome book := by
  have unrelated : book.contacts.any (fun candidate => candidate.pubKey != update.pubKey &&
      contactCandidateDuplicates update.pubKey candidate.pubKey) = false := by
    rw [List.any_eq_false]
    intro candidate _
    by_cases same : candidate.pubKey = update.pubKey
    · simp [same]
    · simp [same, contactCandidateDuplicates, Ne.symm same]
  unfold addOrUpdateContact updatePlan updateRefused
  split
  · rename_i path
    simp only [path, Bool.false_and, Bool.not_false, if_true]
    rfl
  · rename_i path
    rw [Bool.not_eq_false] at path
    split
    · rename_i candidate
      simp only [path, candidate, Bool.and_false, Bool.false_and, Bool.not_false, if_true]
      rfl
    · rename_i candidate
      rw [Bool.not_eq_false] at candidate
      split
      · rename_i flags
        have marked : (update.flags &&& 0xF8 == 0) = false := by simpa using flags
        simp only [path, candidate, marked, Bool.and_false, Bool.not_false, if_true]
        rfl
      · rename_i flags
        have unmarked : (update.flags &&& 0xF8 == 0) = true := by simpa using flags
        simp only [path, candidate, unmarked, Bool.and_self, Bool.not_true, unrelated, Bool.false_eq_true, if_false]
        cases nextStoreRevision clock (highWater book.contacts) with
        | none => rfl
        | some revision =>
          dsimp only
          cases found : ops.lookupContactByPubKey book.contacts update.pubKey with
          | some place =>
            obtain ⟨index, existing⟩ := place
            obtain ⟨there, -⟩ := ops.lookup_found found
            exact save_summary book (book.contacts.set index (companionContact update (some existing) revision))
              (fun unsaved => unsaved.contacts.set index existing)
              (fun unsaved same => by rw [same]; exact set_back there)
          | none =>
            dsimp only
            split
            · rfl
            · exact addAndSave_summary lawful (by omega) (lookup_none_iff.mp found)

theorem performContactCall_summary (lawful : ops.Lawful) (sound : TableSound book.contacts) (clock : UInt32)
    (call : ContactCall) :
    summary (performContactCall ops book clock call) = (contactPlan ops book.contacts clock call).outcome book := by
  cases call with
  | resetPath pubKey => exact resetPath_summary clock pubKey
  | resetPathTo reference =>
    rw [performContactCall, contactPlan]
    cases resolveContact ops.toContactLookup book.contacts reference with
    | none => rfl
    | some place => exact resetPath_summary clock place.2.pubKey
  | setFavourite reference favourite => exact setContactFlags_summary clock reference _
  | setPerm reference perm => exact setContactFlags_summary clock reference _
  | add name pubKey type => exact add_summary lawful clock name pubKey type
  | addOrUpdate update => exact update_summary lawful clock update
  | remove pubKey => exact remove_summary lawful sound pubKey
  | removeContact reference =>
    rw [performContactCall, contactPlan]
    cases resolveContact ops.toContactLookup book.contacts reference with
    | none => rfl
    | some place => exact remove_summary lawful sound place.2.pubKey

end Plans

end SigurdOS.Mesh
