import SigurdOS.Mesh.ContactDurability
import SigurdOS.Mesh.Conversations

namespace SigurdOS.Mesh

open Bytes

/-- The contact as the screens see it. `φ` stands for the floating point numbers. -/
structure ContactInfo (φ : Type) where
  id : List UInt8
  name : List UInt8
  type : UInt8
  perm : UInt8
  hasLocation : Bool
  latitude : φ
  longitude : φ
  rssi : Int
  snr : φ
  lastSeen : UInt32
  favourite : Bool
  nameAmbiguous : Bool
  hasPath : Bool
  pathLen : UInt8
  deriving DecidableEq

/-- The conversion of a coordinate, and the signal that was last measured for a key. -/
structure ContactReadings (φ : Type) where
  degrees : UInt32 → φ
  getContactRSSI : FixedBytes 32 → Int
  getContactSNR : FixedBytes 32 → φ

/-- The contact table, with the one slot that `getContact` copies into. -/
structure MeshContacts where
  contacts : List StoredContact
  contactCache : StoredContact

/-- What a reference to a contact points at: the shared slot or an entry of the table. -/
inductive ContactRef where
  | contactCache
  | live (index : Nat)
  deriving DecidableEq

def outPathUnknown : UInt8 := 0xFF

section Views

variable {φ : Type} (readings : ContactReadings φ)

def MeshContacts.deref (mesh : MeshContacts) : ContactRef → StoredContact
  | .contactCache => mesh.contactCache
  | .live index => mesh.contacts.getD index mesh.contactCache

def MeshContacts.getContact (mesh : MeshContacts) (index : Nat) : Option ContactRef × MeshContacts :=
  match mesh.contacts[index]? with
  | none => (none, mesh)
  | some contact => (some .contactCache, { mesh with contactCache := contact })

/-- The loop for another contact of the same name. Each turn copies a contact into the slot. -/
def findNamesake (src : ContactRef) : List Nat → MeshContacts → Bool × MeshContacts
  | [], mesh => (false, mesh)
  | index :: rest, mesh =>
    match mesh.getContact index with
    | (none, mesh) => findNamesake src rest mesh
    | (some other, mesh) =>
      if (mesh.deref other).pubKey ≠ (mesh.deref src).pubKey ∧ (mesh.deref other).name = (mesh.deref src).name then
        (true, mesh)
      else findNamesake src rest mesh

def fillContactInfo (mesh : MeshContacts) (src : ContactRef) : ContactInfo φ × MeshContacts :=
  let contact := mesh.deref src
  let (ambiguous, mesh) := findNamesake src (List.range mesh.contacts.length) mesh
  ({ id := contactIdFromPubKey contact.pubKey
     name := contact.name.chars.take 31
     type := contact.type
     perm := (contact.flags >>> 1) &&& 0x03
     hasLocation := contact.gpsLat != 0 || contact.gpsLon != 0
     latitude := readings.degrees contact.gpsLat
     longitude := readings.degrees contact.gpsLon
     rssi := readings.getContactRSSI contact.pubKey
     snr := readings.getContactSNR contact.pubKey
     lastSeen := contact.lastAdvertTimestamp
     favourite := contact.flags &&& 0x01 != 0
     nameAmbiguous := ambiguous
     hasPath := (mesh.deref src).outPathLen != outPathUnknown
     pathLen := (mesh.deref src).outPathLen }, mesh)

def exportEntries (max : Nat) : List Nat → List (ContactInfo φ) → MeshContacts → List (ContactInfo φ) × MeshContacts
  | [], out, mesh => (out, mesh)
  | index :: rest, out, mesh =>
    if max ≤ out.length then (out, mesh)
    else
      match mesh.getContact index with
      | (none, mesh) => exportEntries max rest out mesh
      | (some contact, mesh) =>
        if (mesh.deref contact).name.chars.isEmpty then exportEntries max rest out mesh
        else
          let (info, mesh) := fillContactInfo readings mesh contact
          exportEntries max rest (out ++ [info]) mesh

def markNamesakes (out : List (ContactInfo φ)) : List (ContactInfo φ) :=
  out.zipIdx.map fun (info, place) =>
    { info with
      nameAmbiguous := info.nameAmbiguous ||
        out.zipIdx.any fun (other, otherPlace) => otherPlace != place && other.name == info.name }

def exportContactsFull (mesh : MeshContacts) (max : Nat) : List (ContactInfo φ) :=
  markNamesakes (exportEntries readings max (List.range mesh.contacts.length) [] mesh).1

def getContactById (lookup : ContactLookup) (mesh : MeshContacts) (contactId : List UInt8) : Option (ContactInfo φ) :=
  match contactIdToPubKey contactId with
  | none => none
  | some pubKey =>
    match lookup.lookupContactByPubKey mesh.contacts pubKey with
    | none => none
    | some (index, _) => some (fillContactInfo readings mesh (.live index)).1

/-- The entry that an export writes for the contact at an index: contacts without a name get none. -/
def exportedFor (mesh : MeshContacts) (max index : Nat) : Option (ContactInfo φ) :=
  let named (contact : StoredContact) : Bool := !contact.name.chars.isEmpty
  match mesh.contacts[index]? with
  | none => none
  | some contact =>
    if named contact then (exportContactsFull readings mesh max)[(mesh.contacts.take index).countP named]? else none

def viewOf (contact pathOwner : StoredContact) (ambiguous : Bool) : ContactInfo φ where
  id := contactIdFromPubKey contact.pubKey
  name := contact.name.chars.take 31
  type := contact.type
  perm := (contact.flags >>> 1) &&& 0x03
  hasLocation := contact.gpsLat != 0 || contact.gpsLon != 0
  latitude := readings.degrees contact.gpsLat
  longitude := readings.degrees contact.gpsLon
  rssi := readings.getContactRSSI contact.pubKey
  snr := readings.getContactSNR contact.pubKey
  lastSeen := contact.lastAdvertTimestamp
  favourite := contact.flags &&& 0x01 != 0
  nameAmbiguous := ambiguous
  hasPath := pathOwner.outPathLen != outPathUnknown
  pathLen := pathOwner.outPathLen

/-- Everything but the mark for a name that another contact has as well. -/
def ContactInfo.fields (info : ContactInfo φ) : ContactInfo φ := { info with nameAmbiguous := false }

theorem viewOf_eq_iff (contact pathOwner other : StoredContact) :
    viewOf readings contact pathOwner false = viewOf readings contact other false ↔
      pathOwner.outPathLen = other.outPathLen := by
  refine ⟨congrArg ContactInfo.pathLen, fun same => ?_⟩
  unfold viewOf
  rw [same]

end Views

section Loops

variable {φ : Type} (readings : ContactReadings φ)

theorem findNamesake_contacts (src : ContactRef) (indices : List Nat) (mesh : MeshContacts) :
    (findNamesake src indices mesh).2.contacts = mesh.contacts := by
  induction indices generalizing mesh with
  | nil => rfl
  | cons index rest ih =>
    rw [findNamesake, MeshContacts.getContact]
    cases mesh.contacts[index]? with
    | none => exact ih mesh
    | some contact =>
      dsimp only
      split
      · rfl
      · exact ih _

theorem findNamesake_cache (indices : List Nat) (mesh : MeshContacts) :
    findNamesake .contactCache indices mesh =
      (false, ⟨mesh.contacts, (indices.filterMap (mesh.contacts[·]?)).getLast?.getD mesh.contactCache⟩) := by
  induction indices generalizing mesh with
  | nil => rfl
  | cons index rest ih =>
    rw [findNamesake, MeshContacts.getContact, List.filterMap_cons]
    cases mesh.contacts[index]? with
    | none => exact ih mesh
    | some contact =>
      dsimp only
      rw [if_neg (fun differs => differs.1 rfl), ih]
      dsimp only
      rw [List.getLast?_cons, Option.getD_some]

theorem filterMap_range_getElem? (contacts : List StoredContact) :
    (List.range contacts.length).filterMap (contacts[·]?) = contacts := by
  induction contacts with
  | nil => rfl
  | cons contact rest ih =>
    rw [List.length_cons, List.range_succ_eq_map, List.filterMap_cons, List.filterMap_map]
    exact congrArg (contact :: ·) ih

variable {mesh : MeshContacts} {contact last : StoredContact} {index max : Nat}

theorem fillContactInfo_cache (final : mesh.contacts.getLast? = some last) :
    fillContactInfo readings mesh .contactCache =
      (viewOf readings mesh.contactCache last false, { mesh with contactCache := last }) := by
  unfold fillContactInfo
  rw [findNamesake_cache, filterMap_range_getElem?, final]
  rfl

theorem fillContactInfo_live (there : mesh.contacts[index]? = some contact) :
    (fillContactInfo readings mesh (.live index)).1.fields = viewOf readings contact contact false := by
  have before : mesh.deref (.live index) = contact := by
    rw [MeshContacts.deref, List.getD_eq_getElem?_getD, there, Option.getD_some]
  have after : (findNamesake (.live index) (List.range mesh.contacts.length) mesh).2.deref (.live index) = contact := by
    rw [MeshContacts.deref, findNamesake_contacts, List.getD_eq_getElem?_getD, there, Option.getD_some]
  unfold fillContactInfo
  dsimp only
  rw [before, after]
  rfl

theorem exportEntries_eq (final : mesh.contacts.getLast? = some last) (indices : List Nat)
    (out : List (ContactInfo φ)) :
    (exportEntries readings max indices out mesh).1 =
      out ++ (((indices.filterMap (mesh.contacts[·]?)).filter (fun contact => !contact.name.chars.isEmpty)).take
        (max - out.length)).map fun contact => viewOf readings contact last false := by
  induction indices generalizing out mesh with
  | nil => simp [exportEntries]
  | cons index rest ih =>
    rw [exportEntries]
    split
    · rename_i full
      rw [Nat.sub_eq_zero_of_le full, List.take_zero, List.map_nil, List.append_nil]
    · rename_i space
      rw [MeshContacts.getContact, List.filterMap_cons]
      cases mesh.contacts[index]? with
      | none => exact ih final out
      | some contact =>
        dsimp only
        have skipped := @ih ⟨mesh.contacts, contact⟩ final out
        have filled := @fillContactInfo_cache φ readings ⟨mesh.contacts, contact⟩ last final
        have listed := @ih ⟨mesh.contacts, last⟩ final (out ++ [viewOf readings contact last false])
        split
        · rename_i unnamed
          rw [List.filter_cons_of_neg (by simpa [MeshContacts.deref] using unnamed)]
          exact skipped
        · rename_i named
          rw [List.filter_cons_of_pos (by simpa [MeshContacts.deref] using named), filled]
          dsimp only
          rw [listed]
          obtain ⟨more, room⟩ : ∃ more, max - out.length = more + 1 := ⟨max - out.length - 1, by omega⟩
          have rest_room : max - (out ++ [viewOf readings contact last false]).length = more := by
            rw [List.length_append, List.length_singleton]
            omega
          rw [rest_room, room, List.take_succ_cons, List.map_cons, List.append_assoc, List.singleton_append]

theorem markNamesakes_fields (out : List (ContactInfo φ)) :
    (markNamesakes out).map ContactInfo.fields = out.map ContactInfo.fields := by
  unfold markNamesakes
  rw [List.map_map]
  calc out.zipIdx.map _ = out.zipIdx.map (ContactInfo.fields ∘ Prod.fst) := List.map_congr_left fun _ _ => rfl
    _ = out.map ContactInfo.fields := by rw [← List.map_map, List.zipIdx_map_fst]

theorem filter_countP_take (named : StoredContact → Bool) {contacts : List StoredContact}
    (there : contacts[index]? = some contact) (listed : named contact = true) :
    (contacts.filter named)[(contacts.take index).countP named]? = some contact := by
  induction contacts generalizing index with
  | nil => cases there
  | cons head rest ih =>
    cases index with
    | zero =>
      obtain rfl : head = contact := Option.some.inj there
      rw [List.filter_cons, if_pos listed]
      rfl
    | succ index =>
      rw [List.getElem?_cons_succ] at there
      rw [List.take_succ_cons, List.countP_cons, List.filter_cons]
      split
      · rw [List.getElem?_cons_succ]
        exact ih there
      · exact ih there

theorem exportedFor_fields {entry : ContactInfo φ} (there : mesh.contacts[index]? = some contact)
    (final : mesh.contacts.getLast? = some last) (written : exportedFor readings mesh max index = some entry) :
    entry.fields = viewOf readings contact last false := by
  rw [exportedFor, there] at written
  dsimp only at written
  split at written
  · rename_i named
    have place := filter_countP_take (fun contact => !contact.name.chars.isEmpty) there named
    have exported := congrArg (Option.map ContactInfo.fields) written
    rw [← List.getElem?_map, exportContactsFull, markNamesakes_fields, exportEntries_eq readings final,
      filterMap_range_getElem?, List.nil_append, List.map_map, List.getElem?_map] at exported
    obtain ⟨found, taken, same⟩ := Option.map_eq_some_iff.mp exported
    rw [List.getElem?_take] at taken
    split at taken
    · obtain rfl : contact = found := Option.some.inj (place.symm.trans taken)
      exact same.symm
    · cases taken
  · cases written

theorem getContactById_fields (lookup : ContactLookup) (distinct : (mesh.contacts.map StoredContact.pubKey).Nodup)
    (there : mesh.contacts[index]? = some contact) :
    ∃ single, getContactById readings lookup mesh (contactIdFromPubKey contact.pubKey) = some single ∧
      single.fields = viewOf readings contact contact false := by
  obtain ⟨place, held, found⟩ := lookup_of_mem (List.mem_of_getElem? there) rfl
  obtain ⟨placed, same⟩ := lookup.lookup_found found
  obtain rfl : held = contact :=
    List.inj_on_of_nodup_map distinct (List.mem_of_getElem? placed) (List.mem_of_getElem? there) same
  refine ⟨(fillContactInfo readings mesh (.live place)).1, ?_, fillContactInfo_live readings placed⟩
  rw [getContactById, contactIdToPubKey_own]
  dsimp only
  rw [found]

end Loops

section Agreement

variable {φ : Type}

theorem contact_views_agree_iff (readings : ContactReadings φ) (lookup : ContactLookup) (mesh : MeshContacts)
    (max index : Nat) (contact last : StoredContact) (entry : ContactInfo φ)
    (distinct : (mesh.contacts.map StoredContact.pubKey).Nodup) (there : mesh.contacts[index]? = some contact)
    (final : mesh.contacts.getLast? = some last) (written : exportedFor readings mesh max index = some entry) :
    ((getContactById readings lookup mesh (contactIdFromPubKey contact.pubKey)).map ContactInfo.fields =
        some entry.fields ↔
      contact.outPathLen = last.outPathLen) ∧
    ∀ (other : MeshContacts) (otherLast : StoredContact) (otherEntry : ContactInfo φ),
      other.contacts[index]? = some contact → other.contacts.getLast? = some otherLast →
      exportedFor readings other max index = some otherEntry →
      (otherEntry.fields = entry.fields ↔ otherLast.outPathLen = last.outPathLen) := by
  have fields := exportedFor_fields readings there final written
  obtain ⟨single, found, own⟩ := getContactById_fields readings lookup distinct there
  refine ⟨?_, fun other otherLast otherEntry otherThere otherFinal otherWritten => ?_⟩
  · rw [found, Option.map_some, Option.some_inj, own, fields]
    exact viewOf_eq_iff readings contact contact last
  · rw [exportedFor_fields readings otherThere otherFinal otherWritten, fields]
    exact viewOf_eq_iff readings contact otherLast last

def integerReadings : ContactReadings Int where
  degrees := fun degrees => degrees.toNat
  getContactRSSI := fun _ => 0
  getContactSNR := fun _ => 0

/-- Two contacts, of which the first has a direct path and the second the given one. -/
def twoContacts (pathLen : UInt8) : MeshContacts where
  contacts := [directContact 0,
    { sampleContact 2 [66, 111] (by decide) (by decide) with outPathLen := pathLen }]
  contactCache := directContact 0

def integerView (mesh : MeshContacts) (index : Nat) : ContactInfo Int :=
  (exportedFor integerReadings mesh 8 index).getD (viewOf integerReadings mesh.contactCache mesh.contactCache false)

theorem sameLength_views_agree :
    (getContactById integerReadings .first (twoContacts 0)
        (contactIdFromPubKey (directContact 0).pubKey)).map ContactInfo.fields =
      some (integerView (twoContacts 0) 0).fields :=
  (contact_views_agree_iff integerReadings .first (twoContacts 0) 8 0 (directContact 0)
    { sampleContact 2 [66, 111] (by decide) (by decide) with outPathLen := 0 } (integerView (twoContacts 0) 0)
    (by decide +kernel) rfl rfl (by decide +kernel)).1.mpr rfl

/-- The exported entry of the first contact says that no path is known. -/
theorem differentLength_views_differ :
    ¬ ∀ (mesh : MeshContacts) (max index : Nat) (contact : StoredContact) (entry : ContactInfo Int),
      (mesh.contacts.map StoredContact.pubKey).Nodup → mesh.contacts[index]? = some contact →
      exportedFor integerReadings mesh max index = some entry →
      (getContactById integerReadings .first mesh (contactIdFromPubKey contact.pubKey)).map ContactInfo.fields =
        some entry.fields := by
  intro agree
  have same := agree (twoContacts 0xFF) 8 0 (directContact 0) (integerView (twoContacts 0xFF) 0) (by decide +kernel) rfl
    (by decide +kernel)
  revert same
  decide +kernel

end Agreement

end SigurdOS.Mesh
