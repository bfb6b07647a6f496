import SigurdOS.Mesh.ContactDurability
import SigurdOS.Mesh.PathDiscovery

namespace SigurdOS.Mesh

open Bytes Hal

structure ContactTransport where
  send : StoredContact → Transmission
  shareContactZeroHop : StoredContact → Bool
  exportContact : StoredContact → List UInt8

structure CompanionDevice where
  radioTxAllowed : Bool
  book : ContactBook
  runtime : MeshRuntime
  discoveries : DiscoveryTable

inductive CompanionOperation where
  | login
  | statusReq
  | telemetryReq
  | binaryReq (data : List UInt8)
  | pathDiscovery
  | shareContact
  | exportContact (outCap : Nat)
  | resetPath
  deriving DecidableEq

structure CompanionCall where
  pubKey : FixedBytes 32
  operation : CompanionOperation
  nowMs : UInt32
  sentMs : UInt32
  rtc : UInt32
  deriving DecidableEq

/-- Whether the phone is told of a success, the contact that was acted on, and the device behind it. -/
structure CompanionOutcome where
  accepted : Bool
  target : Option StoredContact
  device : CompanionDevice

def advertBlobMinLen : Nat := 32 + 4 + 64

def advertBlobMaxLen : Nat := 2 + 32 + 32 + 4 + 64 + 32

def advertBlobFitsOutput (length capacity : Nat) : Bool :=
  advertBlobMinLen ≤ length ∧ length ≤ advertBlobMaxLen ∧ length ≤ capacity

/-- The loop of `findUniqueContact` with what it found so far. -/
def findNamed (name : CString 32) : List StoredContact → Option StoredContact → Option StoredContact
  | [], found => found
  | candidate :: rest, found =>
    if candidate.name ≠ name then findNamed name rest found
    else if found.isSome then none
    else findNamed name rest (some candidate)

def findUniqueContact (contacts : List StoredContact) (name : CString 32) : Option StoredContact :=
  if name.chars = [] then none else findNamed name contacts none

namespace CompanionDevice

variable (ops : ContactOps) (transport : ContactTransport) (device : CompanionDevice) (call : CompanionCall)

def contacts : List StoredContact := device.book.contacts

def refused : CompanionOutcome := ⟨false, none, device⟩

/-- The adapters look the contact up first and, where they transmit, only when the radio may. -/
def withContact (act : StoredContact → CompanionOutcome) : CompanionOutcome :=
  match ops.lookupContactByPubKey device.contacts call.pubKey with
  | none => device.refused
  | some (_, contact) => act contact

def transmitting (act : CompanionOutcome) : CompanionOutcome :=
  if device.radioTxAllowed then act else device.refused

def sendLogin : CompanionOutcome :=
  device.transmitting <| device.withContact ops call fun contact =>
    let (sent, runtime) := device.runtime.sendLoginCompanion contact.name.chars contact.pubKey call.nowMs
      call.sentMs (transport.send contact)
    ⟨sent.isSome, some contact, { device with runtime }⟩

def sendReqByPubKey (reqType : UInt8) : CompanionOutcome :=
  device.transmitting <| device.withContact ops call fun contact =>
    let (sent, runtime) :=
      device.runtime.sendRequest contact.pubKey reqType call.nowMs call.sentMs (transport.send contact)
    ⟨sent.any fun answer => answer.1 != 0, some contact, { device with runtime }⟩

def sendBinaryReq (data : List UInt8) : CompanionOutcome :=
  if data.isEmpty then device.refused
  else
    device.transmitting <| device.withContact ops call fun contact =>
      let (sent, runtime) :=
        device.runtime.sendBinaryRequestCompanion contact.pubKey data call.nowMs call.sentMs (transport.send contact)
      ⟨sent.isSome, some contact, { device with runtime }⟩

/-- The contact is looked up by its key, then by its name, then by the key of the one that was found. -/
def sendPathDiscovery : CompanionOutcome :=
  device.transmitting <| device.withContact ops call fun contact =>
    match findUniqueContact device.contacts contact.name with
    | none => device.refused
    | some named =>
      match ops.lookupContactByPubKey device.contacts named.pubKey with
      | none => device.refused
      | some (_, recipient) =>
        let (tag, discoveries) :=
          device.discoveries.sendPathDiscovery named.pubKey true call.nowMs call.sentMs (transport.send recipient)
        ⟨tag.isSome, some recipient, { device with discoveries }⟩

def shareContactByPubKey : CompanionOutcome :=
  device.withContact ops call fun contact => ⟨transport.shareContactZeroHop contact, some contact, device⟩

def exportContactByPubKey (outCap : Nat) : CompanionOutcome :=
  device.withContact ops call fun contact =>
    let blob := if outCap < advertBlobMaxLen then [] else transport.exportContact contact
    ⟨!blob.isEmpty && advertBlobFitsOutput blob.length outCap, some contact, device⟩

def resetPathByPubKey : CompanionOutcome :=
  let (done, book) := meshResetContactPathByPubKeyDurable ops device.book call.rtc call.pubKey
  ⟨done, (ops.lookupContactByPubKey device.contacts call.pubKey).map Prod.snd, { device with book }⟩

def perform : CompanionOutcome :=
  match call.operation with
  | .login => device.sendLogin ops transport call
  | .statusReq => device.sendReqByPubKey ops transport call reqTypeGetStatus
  | .telemetryReq => device.sendReqByPubKey ops transport call reqTypeGetTelemetryData
  | .binaryReq data => device.sendBinaryReq ops transport call data
  | .pathDiscovery => device.sendPathDiscovery ops transport call
  | .shareContact => device.shareContactByPubKey ops transport call
  | .exportContact outCap => device.exportContactByPubKey ops transport call outCap
  | .resetPath => device.resetPathByPubKey ops call

def withTable (table : List StoredContact) : CompanionDevice :=
  { device with book := { device.book with contacts := table } }

end CompanionDevice

section Names

variable {contacts table : List StoredContact} {pubKey : FixedBytes 32} {index : Nat} {contact other : StoredContact}

/-- The two tables differ in nothing but names of contacts with other keys. -/
def OthersRenamed (pubKey : FixedBytes 32) (contacts table : List StoredContact) : Prop :=
  List.Forall₂ (fun contact renamed : StoredContact =>
    renamed = { contact with name := renamed.name } ∧ (contact.pubKey = pubKey → renamed = contact)) contacts table

def NameUnique (contacts : List StoredContact) (pubKey : FixedBytes 32) : Prop :=
  ∃ contact ∈ contacts, contact.pubKey = pubKey ∧ contact.name.chars ≠ [] ∧
    ∀ other ∈ contacts, other.name = contact.name → other = contact

theorem OthersRenamed.map {β : Type} (renamed : OthersRenamed pubKey contacts table) (field : StoredContact → β)
    (nameless : ∀ contact name, field { contact with name := name } = field contact) :
    table.map field = contacts.map field := by
  induction renamed with
  | nil => rfl
  | cons pair _ ih =>
    have same : field _ = field _ := (congrArg field pair.1).trans (nameless _ _)
    rw [List.map_cons, List.map_cons, ih, same]

theorem OthersRenamed.getElem? (renamed : OthersRenamed pubKey contacts table) (there : contacts[index]? = some contact)
    (same : contact.pubKey = pubKey) : table[index]? = some contact := by
  obtain ⟨inside, rfl⟩ := List.getElem?_eq_some_iff.mp there
  have bound : index < table.length := renamed.length_eq ▸ inside
  have pair := List.Forall₂.get renamed inside bound
  rw [List.getElem?_eq_getElem bound]
  exact congrArg some (pair.2 same)

theorem OthersRenamed.symm (renamed : OthersRenamed pubKey contacts table) : OthersRenamed pubKey table contacts := by
  refine List.Forall₂.flip (renamed.imp ?_)
  rintro contact other ⟨same, kept⟩
  have key : other.pubKey = contact.pubKey := by rw [same]
  constructor
  · rw [same]
  · exact fun held => (kept (key.symm.trans held)).symm

theorem OthersRenamed.mem (renamed : OthersRenamed pubKey contacts table) (member : contact ∈ contacts)
    (same : contact.pubKey = pubKey) : contact ∈ table := by
  obtain ⟨index, there⟩ := List.mem_iff_getElem?.mp member
  exact List.mem_of_getElem? (renamed.getElem? there same)

theorem OthersRenamed.mem_iff (renamed : OthersRenamed pubKey contacts table) (same : contact.pubKey = pubKey) :
    contact ∈ table ↔ contact ∈ contacts :=
  ⟨fun member => renamed.symm.mem member same, fun member => renamed.mem member same⟩

theorem OthersRenamed.lookup {lookup : ContactLookup} (renamed : OthersRenamed pubKey contacts table)
    (distinct : (contacts.map StoredContact.pubKey).Nodup) :
    (lookup.lookupContactByPubKey table pubKey).map Prod.snd =
      (lookup.lookupContactByPubKey contacts pubKey).map Prod.snd := by
  cases found : lookup.lookupContactByPubKey contacts pubKey with
  | none =>
    have absent : lookup.lookupContactByPubKey table pubKey = none := by
      apply lookup_none_iff.mpr
      intro contact member same
      exact lookup.lookup_missing found contact ((renamed.mem_iff same).mp member) same
    rw [absent]
  | some place =>
    obtain ⟨there, same⟩ := lookup.lookup_found found
    have listed := List.mem_of_getElem? there
    obtain ⟨index, held, found_table⟩ := @lookup_of_mem table place.2 pubKey lookup (renamed.mem listed same) same
    obtain ⟨there_table, same_held⟩ := lookup.lookup_found found_table
    have listed_held := (renamed.mem_iff same_held).mp (List.mem_of_getElem? there_table)
    rw [found_table, Option.map_some, Option.map_some,
      List.inj_on_of_nodup_map distinct listed_held listed (same_held.trans same.symm)]

theorem OthersRenamed.highWater (renamed : OthersRenamed pubKey contacts table) :
    highWater table = highWater contacts := by
  have folded (list : List StoredContact) : Mesh.highWater list =
      (list.map StoredContact.lastmod).foldl (fun high lastmod => if lastmod > high then lastmod else high) 0 := by
    rw [List.foldl_map]
    rfl
  rw [folded, folded, renamed.map StoredContact.lastmod fun _ _ => rfl]

theorem findNamed_eq (name : CString 32) (contacts : List StoredContact) (found : Option StoredContact) :
    findNamed name contacts found =
      match found.toList ++ contacts.filter (·.name = name) with
      | [contact] => some contact
      | _ => none := by
  induction contacts generalizing found with
  | nil => cases found <;> rfl
  | cons candidate rest ih =>
    unfold findNamed
    by_cases same : candidate.name = name
    · rw [if_neg (not_not.mpr same), List.filter_cons_of_pos (by simpa using same)]
      cases found with
      | none => exact ih (some candidate)
      | some first => rfl
    · rw [if_pos same, List.filter_cons_of_neg (by simpa using same)]
      exact ih found

theorem eq_singleton_of_nodup {list : List StoredContact} (distinct : list.Nodup) (member : contact ∈ list)
    (only : ∀ other ∈ list, other = contact) : list = [contact] := by
  have repeated := List.eq_replicate_of_mem only
  rw [repeated, List.nodup_replicate] at distinct
  have positive := List.length_pos_of_mem member
  have once : list.length = 1 := by omega
  rw [repeated, once, List.replicate_one]

theorem nameUnique_iff (sound : TableSound contacts) (member : contact ∈ contacts) :
    NameUnique contacts contact.pubKey ↔
      contact.name.chars ≠ [] ∧ ∀ other ∈ contacts, other.name = contact.name → other = contact := by
  constructor
  · rintro ⟨holder, listed, same, named, only⟩
    obtain rfl : holder = contact := List.inj_on_of_nodup_map sound.distinct listed member same
    exact ⟨named, only⟩
  · rintro ⟨named, only⟩
    exact ⟨contact, member, rfl, named, only⟩

theorem findUniqueContact_unique (sound : TableSound contacts) (member : contact ∈ contacts)
    (unique : NameUnique contacts contact.pubKey) : findUniqueContact contacts contact.name = some contact := by
  obtain ⟨named, only⟩ := (nameUnique_iff sound member).mp unique
  have once : contacts.filter (·.name = contact.name) = [contact] := by
    apply eq_singleton_of_nodup (sound.distinct.of_map.filter _)
    · simpa using member
    · intro other listed
      obtain ⟨present, same⟩ := List.mem_filter.mp listed
      exact only other present (by simpa using same)
  rw [findUniqueContact, if_neg named, findNamed_eq, once]
  rfl

theorem findUniqueContact_ambiguous (sound : TableSound contacts) (member : contact ∈ contacts)
    (ambiguous : ¬ NameUnique contacts contact.pubKey) : findUniqueContact contacts contact.name = none := by
  rw [nameUnique_iff sound member] at ambiguous
  unfold findUniqueContact
  split
  · rfl
  · next named =>
    rw [findNamed_eq]
    split
    · next found once =>
      refine absurd ⟨named, fun other listed same => ?_⟩ ambiguous
      have inside : contact ∈ contacts.filter (·.name = contact.name) := by simpa using member
      have beside : other ∈ contacts.filter (·.name = contact.name) := by simpa using ⟨listed, same⟩
      rw [show contacts.filter (·.name = contact.name) = [found] from once, List.mem_singleton] at inside beside
      exact beside.trans inside.symm
    · rfl

end Names

section Reset

variable {ops : ContactOps} {book : ContactBook} {contacts : List StoredContact} {pubKey : FixedBytes 32}
  {clock : UInt32}

def SaveFails (fault : Option ContactFault) : Prop :=
  fault = some .mount ∨ fault.bind ContactFault.replaceFault ≠ none

theorem saveAll_fst {file : AtomicFile} {fault : Option ContactFault} (sound : TableSound contacts)
    (filled : contacts ≠ []) : (contactStoreSaveAll file contacts fault).1 = true ↔
      contacts.all StoredContact.acceptable = true ∧ ¬ SaveFails fault := by
  have valid := validateContacts_written filled sound.room sound.paths sound.distinct
  rw [all_reread sound] at valid
  have counted : contacts.length ≠ 0 := by simpa using filled
  unfold contactStoreSaveAll contactStoreSave SaveFails
  rw [if_neg counted, writeContacts_all sound.room sound.paths]
  by_cases unmounted : fault = some .mount
  · simp [unmounted]
  · rw [if_neg unmounted]
    cases struck : fault.bind ContactFault.replaceFault with
    | none =>
      simp only [atomicFileReplace, valid]
      split <;> simp_all
    | some step =>
      have failed : (atomicFileReplace file (some (contactBytes contacts)) validateContacts (some step)).1 = false := by
        unfold atomicFileReplace
        cases step <;> simp <;> split <;> rfl
      simp [failed]

theorem reset_accepted_iff (lawful : ops.Lawful) (sound : TableSound book.contacts) :
    (meshResetContactPathByPubKeyDurable ops book clock pubKey).1 = true ↔
      Committable ops book.contacts (.resetPath pubKey) ∧ ¬ SaveFails (book.saveFaults.headD none) := by
  have spec : PlanSpec book.contacts (resetPlan ops book.contacts clock pubKey)
      (ResetExhausted ops book.contacts (.resetPath pubKey)) (Committable ops book.contacts (.resetPath pubKey))
      False :=
    resetPlan_spec lawful sound
  have result : (meshResetContactPathByPubKeyDurable ops book clock pubKey).1 =
      ((resetPlan ops book.contacts clock pubKey).outcome book).1 := congrArg Prod.fst (resetPath_summary clock pubKey)
  rw [result, spec.commits]
  cases planned : resetPlan ops book.contacts clock pubKey with
  | refuse =>
    constructor
    · nofun
    · rintro ⟨⟨table, same, -⟩, -⟩
      cases same
  | spoil spoiled =>
    constructor
    · nofun
    · rintro ⟨⟨table, same, -⟩, -⟩
      cases same
  | commit table =>
    have filled : table ≠ [] := fun empty => spec.empties.mpr (empty ▸ planned)
    have saved : (contactStoreSaveAll book.file table (book.saveFaults.headD none)).1 = true ↔
        table.all StoredContact.acceptable = true ∧ ¬ SaveFails (book.saveFaults.headD none) :=
      saveAll_fst (spec.sound table planned) filled
    have stored : ((ContactPlan.commit table).outcome book).1 =
        (contactStoreSaveAll book.file table (book.saveFaults.headD none)).1 := by
      unfold ContactPlan.outcome
      dsimp only
      generalize contactStoreSaveAll book.file table (book.saveFaults.headD none) = outcome
      obtain ⟨ok, file⟩ := outcome
      cases ok with
      | true => rfl
      | false => rfl
    rw [stored, saved]
    constructor
    · rintro ⟨accepted, whole⟩
      exact ⟨⟨table, rfl, filled, accepted⟩, whole⟩
    · rintro ⟨⟨other, same, -, accepted⟩, whole⟩
      cases same
      exact ⟨accepted, whole⟩

theorem filter_set {index : Nat} {before after : StoredContact} (there : contacts[index]? = some before)
    (was : before.pubKey = pubKey) (stays : after.pubKey = pubKey) :
    (contacts.set index after).filter (·.pubKey != pubKey) = contacts.filter (·.pubKey != pubKey) := by
  obtain ⟨inside, rfl⟩ := List.getElem?_eq_some_iff.mp there
  have parts : contacts = contacts.take index ++ contacts[index] :: contacts.drop (index + 1) := by simp
  rw [List.set_eq_take_append_cons_drop, if_pos inside, List.filter_append, List.filter_cons_of_neg (by simp [stays])]
  conv_rhs => rw [parts, List.filter_append, List.filter_cons_of_neg (by simp [was])]

theorem reset_others (lawful : ops.Lawful) :
    (meshResetContactPathByPubKeyDurable ops book clock pubKey).2.contacts.filter (·.pubKey != pubKey) =
      book.contacts.filter (·.pubKey != pubKey) := by
  have result : (meshResetContactPathByPubKeyDurable ops book clock pubKey).2.contacts =
      ((resetPlan ops book.contacts clock pubKey).outcome book).2.1 :=
    congrArg (fun summary => summary.2.1) (resetPath_summary clock pubKey)
  rw [result]
  unfold resetPlan
  cases found : ops.lookupContactByPubKey book.contacts pubKey with
  | none => rfl
  | some place =>
    obtain ⟨index, before⟩ := place
    obtain ⟨there, same⟩ := ops.lookup_found found
    have reset : (ops.resetPathTo before).pubKey = pubKey := (reset_key lawful before).trans same
    dsimp only
    rcases assign_cases (book.contacts.set index (ops.resetPathTo before)) clock (ops.resetPathTo before) with
      ⟨-, none⟩ | ⟨-, revision, some⟩
    · rw [none]
      exact filter_set there same reset
    · rw [some]
      unfold ContactPlan.outcome
      dsimp only
      split
      · exact filter_set there same reset
      · rfl

end Reset

/-- An accepted operation acted on the contact with the key, and the contacts with other keys stay. -/
structure ActsOnKey (device : CompanionDevice) (pubKey : FixedBytes 32) (outcome : CompanionOutcome) : Prop where
  target : outcome.accepted = true →
    ∃ contact ∈ device.contacts, contact.pubKey = pubKey ∧ outcome.target = some contact
  others : outcome.device.contacts.filter (·.pubKey != pubKey) = device.contacts.filter (·.pubKey != pubKey)

section Operations

variable (ops : ContactOps) (transport : ContactTransport) (device : CompanionDevice) (call : CompanionCall)

/-- The operation acts by key in both tables, and is accepted in both or in neither. -/
structure AddressedByKey (table : List StoredContact) : Prop where
  here : ActsOnKey device call.pubKey (device.perform ops transport call)
  there : ActsOnKey (device.withTable table) call.pubKey ((device.withTable table).perform ops transport call)
  alike : (device.perform ops transport call).accepted = ((device.withTable table).perform ops transport call).accepted

def DiscoverySendable : Prop :=
  device.radioTxAllowed = true ∧ ∃ contact ∈ device.contacts, contact.pubKey = call.pubKey ∧
    (device.discoveries.sendPathDiscovery call.pubKey true call.nowMs call.sentMs (transport.send contact)).1 ≠ none

def ResetSavable : Prop :=
  (∃ contact ∈ device.contacts, contact.pubKey = call.pubKey) ∧ highWater device.contacts ≠ 0xFFFFFFFF ∧
    ¬ SaveFails (device.book.saveFaults.headD none)

variable {ops transport device call}

theorem sendPathDiscovery_accepted (sound : TableSound device.contacts) :
    (device.sendPathDiscovery ops transport call).accepted = true ↔
      DiscoverySendable transport device call ∧ NameUnique device.contacts call.pubKey := by
  unfold CompanionDevice.sendPathDiscovery CompanionDevice.transmitting DiscoverySendable
  cases allowed : device.radioTxAllowed with
  | false => simp [CompanionDevice.refused]
  | true =>
    unfold CompanionDevice.withContact
    rw [if_pos rfl]
    cases found : ops.lookupContactByPubKey device.contacts call.pubKey with
    | none =>
      have absent := lookup_none_iff.mp found
      constructor
      · nofun
      · rintro ⟨⟨-, contact, member, same, -⟩, -⟩
        exact absurd same (absent contact member)
    | some place =>
      obtain ⟨index, contact⟩ := place
      obtain ⟨there, same⟩ := ops.lookup_found found
      have member := List.mem_of_getElem? there
      have key {other : StoredContact} (listed : other ∈ device.contacts) (alike : other.pubKey = call.pubKey) :
          other = contact := List.inj_on_of_nodup_map sound.distinct listed member (alike.trans same.symm)
      dsimp only
      by_cases unique : NameUnique device.contacts call.pubKey
      · rw [findUniqueContact_unique sound member (by rwa [same])]
        dsimp only
        rw [same, found]
        constructor
        · intro sent
          exact ⟨⟨rfl, contact, member, same, Option.isSome_iff_ne_none.mp sent⟩, unique⟩
        · rintro ⟨⟨-, other, listed, alike, sent⟩, -⟩
          obtain rfl := key listed alike
          exact Option.isSome_iff_ne_none.mpr sent
      · rw [findUniqueContact_ambiguous sound member (by rwa [same])]
        constructor
        · nofun
        · intro both
          exact absurd both.2 unique

theorem refused_acts {pubKey : FixedBytes 32} : ActsOnKey device pubKey device.refused where
  target := nofun
  others := rfl

theorem handed_acts {outcome : CompanionOutcome} {contact : StoredContact} (member : contact ∈ device.contacts)
    (same : contact.pubKey = call.pubKey) (target : outcome.target = some contact)
    (book : outcome.device.book = device.book) : ActsOnKey device call.pubKey outcome where
  target _ := ⟨contact, member, same, target⟩
  others := by rw [CompanionDevice.contacts, book, CompanionDevice.contacts]

theorem withContact_acts {act : StoredContact → CompanionOutcome}
    (acts : ∀ contact ∈ device.contacts, contact.pubKey = call.pubKey → ActsOnKey device call.pubKey (act contact)) :
    ActsOnKey device call.pubKey (device.withContact ops call act) := by
  unfold CompanionDevice.withContact
  cases found : ops.lookupContactByPubKey device.contacts call.pubKey with
  | none => exact refused_acts
  | some place =>
    obtain ⟨there, same⟩ := ops.lookup_found found
    exact acts place.2 (List.mem_of_getElem? there) same

theorem transmitting_acts {act : CompanionOutcome} (acts : ActsOnKey device call.pubKey act) :
    ActsOnKey device call.pubKey (device.transmitting act) := by
  unfold CompanionDevice.transmitting
  split
  · exact acts
  · exact refused_acts

theorem sendPathDiscovery_acts (sound : TableSound device.contacts) :
    ActsOnKey device call.pubKey (device.sendPathDiscovery ops transport call) := by
  apply transmitting_acts
  apply withContact_acts
  intro contact member same
  by_cases unique : NameUnique device.contacts call.pubKey
  · rw [findUniqueContact_unique sound member (by rwa [same])]
    dsimp only
    cases found : ops.lookupContactByPubKey device.contacts contact.pubKey with
    | none => exact refused_acts
    | some place =>
      obtain ⟨there, alike⟩ := ops.lookup_found found
      exact handed_acts (List.mem_of_getElem? there) (alike.trans same) rfl rfl
  · rw [findUniqueContact_ambiguous sound member (by rwa [same])]
    exact refused_acts

theorem resetPath_acts (lawful : ops.Lawful) : ActsOnKey device call.pubKey (device.resetPathByPubKey ops call) where
  target done := by
    cases found : ops.lookupContactByPubKey device.contacts call.pubKey with
    | none =>
      have missing : ops.lookupContactByPubKey device.book.contacts call.pubKey = none := found
      simp [CompanionDevice.resetPathByPubKey, meshResetContactPathByPubKeyDurable, missing] at done
    | some place =>
      obtain ⟨there, same⟩ := ops.lookup_found found
      refine ⟨place.2, List.mem_of_getElem? there, same, ?_⟩
      rw [CompanionDevice.resetPathByPubKey, found]
      rfl
  others := reset_others lawful

theorem perform_acts (lawful : ops.Lawful) (sound : TableSound device.contacts) :
    ActsOnKey device call.pubKey (device.perform ops transport call) := by
  unfold CompanionDevice.perform
  cases call.operation with
  | login => exact transmitting_acts (withContact_acts fun contact member same => handed_acts member same rfl rfl)
  | statusReq => exact transmitting_acts (withContact_acts fun contact member same => handed_acts member same rfl rfl)
  | telemetryReq =>
    exact transmitting_acts (withContact_acts fun contact member same => handed_acts member same rfl rfl)
  | binaryReq data =>
    dsimp only [CompanionDevice.sendBinaryReq]
    split
    · exact refused_acts
    · exact transmitting_acts (withContact_acts fun contact member same => handed_acts member same rfl rfl)
  | pathDiscovery => exact sendPathDiscovery_acts sound
  | shareContact => exact withContact_acts fun contact member same => handed_acts member same rfl rfl
  | exportContact outCap => exact withContact_acts fun contact member same => handed_acts member same rfl rfl
  | resetPath => exact resetPath_acts lawful

section Tables

variable {table : List StoredContact}

theorem withContact_alike (sound : TableSound device.contacts)
    (renamed : OthersRenamed call.pubKey device.contacts table) {act other : StoredContact → CompanionOutcome}
    (alike : ∀ contact, (act contact).accepted = (other contact).accepted) :
    (device.withContact ops call act).accepted = ((device.withTable table).withContact ops call other).accepted := by
  have same : (ops.lookupContactByPubKey (device.withTable table).contacts call.pubKey).map Prod.snd =
      (ops.lookupContactByPubKey device.contacts call.pubKey).map Prod.snd := renamed.lookup sound.distinct
  unfold CompanionDevice.withContact
  cases found : ops.lookupContactByPubKey device.contacts call.pubKey with
  | none =>
    rw [found, Option.map_none, Option.map_eq_none_iff] at same
    rw [same]
    rfl
  | some place =>
    rw [found, Option.map_some] at same
    obtain ⟨held, found_table, here⟩ := Option.map_eq_some_iff.mp same
    rw [found_table]
    dsimp only
    rw [here]
    exact alike place.2

theorem transmitting_alike {act other : CompanionOutcome} (alike : act.accepted = other.accepted) :
    (device.transmitting act).accepted = ((device.withTable table).transmitting other).accepted := by
  have same : (device.withTable table).radioTxAllowed = device.radioTxAllowed := rfl
  unfold CompanionDevice.transmitting
  rw [same]
  cases device.radioTxAllowed with
  | true => exact alike
  | false => rfl

theorem sendable_withTable (renamed : OthersRenamed call.pubKey device.contacts table) :
    DiscoverySendable transport (device.withTable table) call ↔ DiscoverySendable transport device call := by
  unfold DiscoverySendable
  apply and_congr_right'
  apply exists_congr
  intro contact
  by_cases same : contact.pubKey = call.pubKey
  · have member : contact ∈ (device.withTable table).contacts ↔ contact ∈ device.contacts := renamed.mem_iff same
    rw [member]
    rfl
  · simp [same]

theorem savable_withTable (renamed : OthersRenamed call.pubKey device.contacts table) :
    ResetSavable (device.withTable table) call ↔ ResetSavable device call := by
  have water : highWater (device.withTable table).contacts = highWater device.contacts := renamed.highWater
  have known : (∃ contact ∈ (device.withTable table).contacts, contact.pubKey = call.pubKey) ↔
      ∃ contact ∈ device.contacts, contact.pubKey = call.pubKey := by
    apply exists_congr
    intro contact
    apply and_congr_left
    exact fun same => renamed.mem_iff same
  unfold ResetSavable
  rw [known, water]
  rfl

theorem resetPath_accepted (lawful : ops.Lawful) (sound : TableSound device.contacts) :
    (device.resetPathByPubKey ops call).accepted = true ↔
      ResetSavable device call ∧ device.contacts.all StoredContact.acceptable = true := by
  have accepted : (device.resetPathByPubKey ops call).accepted = true ↔
      Committable ops device.contacts (.resetPath call.pubKey) ∧ ¬ SaveFails (device.book.saveFaults.headD none) :=
    reset_accepted_iff lawful sound
  unfold ResetSavable
  constructor
  · intro done
    obtain ⟨⟨known, left, all⟩, whole⟩ := accepted.mp done
    exact ⟨⟨known, left, whole⟩, all⟩
  · rintro ⟨⟨known, left, whole⟩, all⟩
    exact accepted.mpr ⟨⟨known, left, all⟩, whole⟩

/-- Where nothing else refuses a discovery the names agree on whether the contact's is unique, and where nothing else
refuses a reset they agree on whether the store takes them all. -/
structure NamesAgree (transport : ContactTransport) (device : CompanionDevice) (call : CompanionCall)
    (table : List StoredContact) : Prop where
  discovery : call.operation = .pathDiscovery → DiscoverySendable transport device call →
    (NameUnique device.contacts call.pubKey ↔ NameUnique table call.pubKey)
  reset : call.operation = .resetPath → ResetSavable device call →
    (device.contacts.all StoredContact.acceptable = true ↔ table.all StoredContact.acceptable = true)

theorem accepted_alike_iff (lawful : ops.Lawful) (sound : TableSound device.contacts) (soundTable : TableSound table)
    (renamed : OthersRenamed call.pubKey device.contacts table) :
    (device.perform ops transport call).accepted = ((device.withTable table).perform ops transport call).accepted ↔
      NamesAgree transport device call table := by
  have agree (discovery : call.operation ≠ .pathDiscovery) (reset : call.operation ≠ .resetPath) :
      NamesAgree transport device call table :=
    ⟨fun same => absurd same discovery, fun same => absurd same reset⟩
  unfold CompanionDevice.perform
  cases named : call.operation with
  | login =>
    refine iff_of_true (transmitting_alike (withContact_alike sound renamed fun _ => rfl)) (agree ?_ ?_) <;>
      simp [named]
  | statusReq =>
    refine iff_of_true (transmitting_alike (withContact_alike sound renamed fun _ => rfl)) (agree ?_ ?_) <;>
      simp [named]
  | telemetryReq =>
    refine iff_of_true (transmitting_alike (withContact_alike sound renamed fun _ => rfl)) (agree ?_ ?_) <;>
      simp [named]
  | binaryReq data =>
    refine iff_of_true ?_ (agree ?_ ?_)
    · dsimp only [CompanionDevice.sendBinaryReq]
      split
      · rfl
      · exact transmitting_alike (withContact_alike sound renamed fun _ => rfl)
    · simp [named]
    · simp [named]
  | shareContact => refine iff_of_true (withContact_alike sound renamed fun _ => rfl) (agree ?_ ?_) <;> simp [named]
  | exportContact outCap =>
    refine iff_of_true (withContact_alike sound renamed fun _ => rfl) (agree ?_ ?_) <;> simp [named]
  | pathDiscovery =>
    have first : (device.sendPathDiscovery ops transport call).accepted = true ↔
        DiscoverySendable transport device call ∧ NameUnique device.contacts call.pubKey :=
      sendPathDiscovery_accepted sound
    have second : ((device.withTable table).sendPathDiscovery ops transport call).accepted = true ↔
        DiscoverySendable transport (device.withTable table) call ∧ NameUnique table call.pubKey :=
      sendPathDiscovery_accepted soundTable
    rw [sendable_withTable renamed] at second
    dsimp only
    rw [Bool.eq_iff_iff, first, second, and_congr_right_iff]
    exact ⟨fun names => ⟨fun _ => names, fun reset => by simp [named] at reset⟩, fun names => names.discovery named⟩
  | resetPath =>
    have first : (device.resetPathByPubKey ops call).accepted = true ↔
        ResetSavable device call ∧ device.contacts.all StoredContact.acceptable = true :=
          resetPath_accepted lawful sound
    have second : ((device.withTable table).resetPathByPubKey ops call).accepted = true ↔
        ResetSavable (device.withTable table) call ∧ table.all StoredContact.acceptable = true :=
      resetPath_accepted lawful soundTable
    rw [savable_withTable renamed] at second
    dsimp only
    rw [Bool.eq_iff_iff, first, second, and_congr_right_iff]
    exact ⟨fun names => ⟨fun discovery => by simp [named] at discovery, fun _ => names⟩, fun names => names.reset named⟩

theorem addressed_by_key_iff (lawful : ops.Lawful) (sound : TableSound device.contacts) (soundTable : TableSound table)
    (renamed : OthersRenamed call.pubKey device.contacts table) :
    AddressedByKey ops transport device call table ↔ NamesAgree transport device call table := by
  rw [← accepted_alike_iff lawful sound soundTable renamed]
  constructor
  · exact AddressedByKey.alike
  · intro alike
    exact ⟨perform_acts lawful sound, perform_acts lawful soundTable, alike⟩

end Tables

end Operations

section Namesakes

def ann : CString 32 := ⟨[65, 110, 110], ann_fits, ann_nonzero⟩

def bob : CString 32 := ⟨[66, 111, 98], by decide, by decide⟩

def annAnd (name : CString 32) : List StoredContact :=
  [sampleContact 1 [65, 110, 110] ann_fits ann_nonzero, { sampleContact 2 [] noChars_fit32 noChars_nonzero with name }]

def annDevice (name : CString 32) : CompanionDevice :=
  ⟨true, ⟨annAnd name, ⟨none, none⟩, false, []⟩, .init, fun _ => .fresh⟩

def promptTransport : ContactTransport := ⟨fun _ => ⟨false, 1, 0⟩, fun _ => true, fun _ => []⟩

def discoverAnn : CompanionCall := ⟨.ofList 32 [1], .pathDiscovery, 0, 0, 0⟩

theorem annAnd_sound {name : CString 32} (short : name.chars.length ≤ 31) : TableSound (annAnd name) where
  room := show 2 ≤ maxContacts by decide
  distinct := by
    change [FixedBytes.ofList 32 [1], FixedBytes.ofList 32 [2]].Nodup
    decide
  paths := by
    intro contact member
    rcases List.mem_pair.mp member with rfl | rfl
    · exact show storedLengthValid 0xFF = true by decide
    · exact show storedLengthValid 0xFF = true by decide
  terminated := by
    intro contact member
    rcases List.mem_pair.mp member with rfl | rfl
    · exact Nat.le_of_ble_eq_true rfl
    · exact short

theorem annAnd_renamed (name other : CString 32) : OthersRenamed (.ofList 32 [1]) (annAnd name) (annAnd other) := by
  refine .cons ⟨rfl, fun _ => rfl⟩ (.cons ⟨rfl, fun same => ?_⟩ .nil)
  have apart : FixedBytes.ofList 32 [2] ≠ .ofList 32 [1] := by decide
  exact absurd same apart

theorem annAnd_unique {name : CString 32} (apart : name ≠ ann) : NameUnique (annAnd name) (.ofList 32 [1]) := by
  refine ⟨_, List.mem_cons_self .., rfl, List.cons_ne_nil _ _, ?_⟩
  intro other member same
  rcases List.mem_pair.mp member with rfl | rfl
  · rfl
  · exact absurd same apart

theorem annDiscovered_whatever : AddressedByKey listOps promptTransport (annDevice bob) discoverAnn
    (annAnd ⟨[67, 105, 100], by decide, by decide⟩) := by
  have sound : TableSound (annDevice bob).contacts := annAnd_sound (by decide)
  rw [addressed_by_key_iff listOps_lawful sound (annAnd_sound (by decide)) (annAnd_renamed _ _)]
  refine ⟨fun _ _ => iff_of_true (annAnd_unique ?_) (annAnd_unique ?_), nofun⟩
  · decide
  · decide

/-- Ann's path is discovered next to Bob, but not next to another Ann. -/
theorem namesake_refusesDiscovery : ¬ ∀ table, TableSound table → OthersRenamed (.ofList 32 [1]) (annAnd bob) table →
    AddressedByKey listOps promptTransport (annDevice bob) discoverAnn table := by
  intro addressed
  have alike := (addressed (annAnd ann) (annAnd_sound (by decide)) (annAnd_renamed _ _)).alike
  have sent : ((annDevice bob).perform listOps promptTransport discoverAnn).accepted = true := by decide +kernel
  have refused : (((annDevice bob).withTable (annAnd ann)).perform listOps promptTransport discoverAnn).accepted =
      false := by
    decide +kernel
  rw [sent, refused] at alike
  cases alike

end Namesakes

end SigurdOS.Mesh
