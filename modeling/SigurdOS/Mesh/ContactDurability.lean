import SigurdOS.Mesh.ContactMutations

namespace SigurdOS.Mesh

open Bytes Hal

variable {ops : ContactOps} {book : ContactBook} {contacts table : List StoredContact} {clock : UInt32}
  {index : Nat} {before after : StoredContact} {pubKey : FixedBytes 32}

section Revisions

theorem highWater_set (there : contacts[index]? = some before) (same : after.lastmod = before.lastmod) :
    highWater (contacts.set index after) = highWater contacts := by
  have folded (contacts : List StoredContact) : highWater contacts =
      (contacts.map StoredContact.lastmod).foldl (fun high lastmod => if lastmod > high then lastmod else high) 0 := by
    rw [List.foldl_map]
    rfl
  rw [folded, folded, map_set_of_same there same]

theorem reset_key (lawful : ops.Lawful) (contact : StoredContact) :
    (ops.resetPathTo contact).pubKey = contact.pubKey := by
  rw [lawful.reset_only_path]

theorem reset_name (lawful : ops.Lawful) (contact : StoredContact) : (ops.resetPathTo contact).name = contact.name := by
  rw [lawful.reset_only_path]

theorem reset_lastmod (lawful : ops.Lawful) (contact : StoredContact) :
    (ops.resetPathTo contact).lastmod = contact.lastmod := by
  rw [lawful.reset_only_path]

theorem reset_type (lawful : ops.Lawful) (contact : StoredContact) : (ops.resetPathTo contact).type = contact.type := by
  rw [lawful.reset_only_path]

end Revisions

section Tables

theorem all_set_of_same (there : contacts[index]? = some before) (same : after.acceptable = before.acceptable) :
    (contacts.set index after).all StoredContact.acceptable = contacts.all StoredContact.acceptable := by
  have mapped (contacts : List StoredContact) : contacts.all StoredContact.acceptable =
      (contacts.map StoredContact.acceptable).all id := by
    rw [List.all_map]
    rfl
  rw [mapped, mapped, map_set_of_same there same]

theorem set_ne_nil (there : contacts[index]? = some before) : contacts.set index after ≠ [] := by
  intro empty
  have length := congrArg List.length empty
  rw [List.length_set, List.length_nil] at length
  obtain ⟨inside, -⟩ := List.getElem?_eq_some_iff.mp there
  omega

def OthersAcceptable (contacts : List StoredContact) (pubKey : FixedBytes 32) : Prop :=
  ∀ contact ∈ contacts, contact.pubKey ≠ pubKey → contact.acceptable = true

theorem all_set_iff (sound : TableSound contacts) (there : contacts[index]? = some before)
    (accepted : after.acceptable = true) :
    (contacts.set index after).all StoredContact.acceptable = true ↔ OthersAcceptable contacts before.pubKey := by
  rw [List.all_eq_true]
  obtain ⟨inside, rfl⟩ := List.getElem?_eq_some_iff.mp there
  constructor
  · intro all contact member apart
    obtain ⟨place, bound, rfl⟩ := List.getElem_of_mem member
    have other : index ≠ place := by
      rintro rfl
      exact apart rfl
    apply all
    rw [List.mem_iff_getElem]
    exact ⟨place, by simpa using bound, List.getElem_set_ne other _⟩
  · intro others contact member
    obtain ⟨place, bound, rfl⟩ := List.getElem_of_mem member
    rw [List.getElem_set]
    split
    · exact accepted
    · rename_i other
      rw [List.length_set] at bound
      refine others _ (List.getElem_mem bound) fun same => other ?_
      have distinct := List.nodup_iff_injective_getElem.mp sound.distinct
      have equal := @distinct ⟨index, by simpa using inside⟩ ⟨place, by simpa using bound⟩ (by simpa using same.symm)
      exact congrArg Fin.val equal

theorem all_filter_iff : (contacts.filter (·.pubKey != pubKey)).all StoredContact.acceptable = true ↔
    OthersAcceptable contacts pubKey := by
  rw [List.all_eq_true]
  constructor
  · intro all contact member apart
    exact all contact (List.mem_filter.mpr ⟨member, by simpa using apart⟩)
  · intro others contact member
    obtain ⟨listed, apart⟩ := List.mem_filter.mp member
    exact others contact listed (by simpa using apart)

theorem all_append_iff {contact : StoredContact} (accepted : contact.acceptable = true) :
    (contacts ++ [contact]).all StoredContact.acceptable = true ↔ contacts.all StoredContact.acceptable = true := by
  rw [List.all_append, Bool.and_eq_true]
  simp [accepted]

end Tables

section Plans

/-- The call passes its checks, and the store accepts the table that it changes. -/
def Committable (ops : ContactOps) (contacts : List StoredContact) : ContactCall → Prop
  | .resetPath pubKey => (∃ contact ∈ contacts, contact.pubKey = pubKey) ∧ highWater contacts ≠ 0xFFFFFFFF ∧
      contacts.all StoredContact.acceptable = true
  | .resetPathTo reference => resolveContact ops.toContactLookup contacts reference ≠ none ∧
      highWater contacts ≠ 0xFFFFFFFF ∧ contacts.all StoredContact.acceptable = true
  | .setFavourite reference _ => resolveContact ops.toContactLookup contacts reference ≠ none ∧
      highWater contacts ≠ 0xFFFFFFFF ∧ contacts.all StoredContact.acceptable = true
  | .setPerm reference _ => resolveContact ops.toContactLookup contacts reference ≠ none ∧
      highWater contacts ≠ 0xFFFFFFFF ∧ contacts.all StoredContact.acceptable = true
  | .add name pubKey type => contactCandidateValid name pubKey type = true ∧ contacts.length < maxContacts ∧
      (∀ contact ∈ contacts, contact.pubKey ≠ pubKey) ∧ highWater contacts ≠ 0xFFFFFFFF ∧
      contacts.all StoredContact.acceptable = true
  | .addOrUpdate update => updateRefused update = false ∧ highWater contacts ≠ 0xFFFFFFFF ∧
      ((∃ contact ∈ contacts, contact.pubKey = update.pubKey) ∨ contacts.length < maxContacts) ∧
      OthersAcceptable contacts update.pubKey
  | .remove pubKey => (∃ contact ∈ contacts, contact.pubKey = pubKey) ∧ 1 < contacts.length ∧
      OthersAcceptable contacts pubKey
  | .removeContact reference => ∃ index contact,
      resolveContact ops.toContactLookup contacts reference = some (index, contact) ∧
      1 < contacts.length ∧ OthersAcceptable contacts contact.pubKey

def RemovesLast (ops : ContactOps) (contacts : List StoredContact) : ContactCall → Prop
  | .remove pubKey => contacts.length = 1 ∧ ∃ contact ∈ contacts, contact.pubKey = pubKey
  | .removeContact reference => contacts.length = 1 ∧ resolveContact ops.toContactLookup contacts reference ≠ none
  | _ => False

/-- A path is to be reset, but no revision is left. -/
def ResetExhausted (ops : ContactOps) (contacts : List StoredContact) : ContactCall → Prop
  | .resetPath pubKey => ∃ contact ∈ contacts, contact.pubKey = pubKey ∧ highWater contacts = 0xFFFFFFFF ∧
      ops.resetPathTo contact ≠ contact
  | .resetPathTo reference => ∃ index contact,
      resolveContact ops.toContactLookup contacts reference = some (index, contact) ∧
      highWater contacts = 0xFFFFFFFF ∧ ops.resetPathTo contact ≠ contact
  | _ => False

structure PlanSpec (contacts : List StoredContact) (plan : ContactPlan) (spoils commits empties : Prop) : Prop where
  sound : ∀ table, plan = .commit table → TableSound table
  spoils : spoils ↔ ∃ table, plan = .spoil table ∧ table ≠ contacts
  commits : commits ↔ ∃ table, plan = .commit table ∧ table ≠ [] ∧ table.all StoredContact.acceptable = true
  empties : empties ↔ plan = .commit []

theorem PlanSpec.refused {spoils commits empties : Prop} (noSpoil : ¬ spoils) (noCommit : ¬ commits)
    (noEmpty : ¬ empties) :
    PlanSpec contacts .refuse spoils commits empties where
  sound := nofun
  spoils := ⟨fun holds => absurd holds noSpoil, nofun⟩
  commits := ⟨fun holds => absurd holds noCommit, nofun⟩
  empties := ⟨fun holds => absurd holds noEmpty, nofun⟩

theorem PlanSpec.spoiled {spoils commits empties : Prop} (differs : spoils ↔ table ≠ contacts) (noCommit : ¬ commits)
    (noEmpty : ¬ empties) : PlanSpec contacts (.spoil table) spoils commits empties where
  sound := nofun
  spoils := by
    rw [differs]
    constructor
    · exact fun apart => ⟨table, rfl, apart⟩
    · rintro ⟨other, same, apart⟩
      cases same
      exact apart
  commits := ⟨fun holds => absurd holds noCommit, nofun⟩
  empties := ⟨fun holds => absurd holds noEmpty, nofun⟩

theorem PlanSpec.committed {spoils commits empties : Prop} (sound : TableSound table) (noSpoil : ¬ spoils)
    (accepted : commits ↔ table ≠ [] ∧ table.all StoredContact.acceptable = true) (empty : empties ↔ table = []) :
    PlanSpec contacts (.commit table) spoils commits empties where
  sound := by
    intro other same
    cases same
    exact sound
  spoils := ⟨fun holds => absurd holds noSpoil, nofun⟩
  commits := by
    rw [accepted]
    constructor
    · exact fun both => ⟨table, rfl, both⟩
    · rintro ⟨other, same, both⟩
      cases same
      exact both
  empties := by
    rw [empty]
    constructor
    · rintro rfl
      rfl
    · intro same
      cases same
      rfl

theorem PlanSpec.put {spoils commits : Prop} (sound : TableSound contacts) (there : contacts[index]? = some before)
    (key : after.pubKey = before.pubKey) (path : contactValid after = true) (name : after.name = before.name)
    (type : after.type = before.type) (noSpoil : ¬ spoils)
    (accepted : commits ↔ contacts.all StoredContact.acceptable = true) :
    PlanSpec contacts (.commit (contacts.set index after)) spoils commits False := by
  have same : after.acceptable = before.acceptable := by
    rw [StoredContact.acceptable, StoredContact.acceptable, key, name, type]
  have named : after.name.chars.length ≤ 31 := by
    rw [name]
    exact sound.terminated before (List.mem_of_getElem? there)
  refine .committed (sound.put there key path named) noSpoil ?_ ⟨False.elim, set_ne_nil there⟩
  rw [accepted, all_set_of_same there same]
  exact ⟨fun all => ⟨set_ne_nil there, all⟩, And.right⟩

theorem candidate_short {name : CString 32} {type : UInt8} (valid : contactCandidateValid name pubKey type = true) :
    name.chars.length ≤ 31 := by
  unfold contactCandidateValid at valid
  simp only [Bool.and_eq_true, Bool.not_eq_true', Bool.or_eq_false_iff, beq_eq_false_iff_ne] at valid
  have fits := name.fits
  have apart := valid.1.1.1.2
  omega

theorem resetPlan_spec (lawful : ops.Lawful) (sound : TableSound contacts) :
    PlanSpec contacts (resetPlan ops contacts clock pubKey) (ResetExhausted ops contacts (.resetPath pubKey))
      (Committable ops contacts (.resetPath pubKey)) False := by
  unfold resetPlan
  cases found : ops.lookupContactByPubKey contacts pubKey with
  | none =>
    have apart := lookup_none_iff.mp found
    refine .refused ?_ ?_ id
    · rintro ⟨contact, member, same, -⟩
      exact apart contact member same
    · rintro ⟨⟨contact, member, same⟩, -⟩
      exact apart contact member same
  | some place =>
    obtain ⟨index, before⟩ := place
    obtain ⟨there, same⟩ := ops.lookup_found found
    have member := List.mem_of_getElem? there
    have unique {other : StoredContact} (listed : other ∈ contacts) (key : other.pubKey = pubKey) : other = before :=
      List.inj_on_of_nodup_map sound.distinct listed member (key.trans same.symm)
    have water : highWater (contacts.set index (ops.resetPathTo before)) = highWater contacts :=
      highWater_set there (reset_lastmod lawful before)
    dsimp only
    rcases assign_cases (contacts.set index (ops.resetPathTo before)) clock (ops.resetPathTo before) with
      ⟨exhausted, none⟩ | ⟨left, revision, some⟩
    · rw [none]
      rw [water] at exhausted
      refine .spoiled ?_ (fun both => both.2.1 exhausted) id
      constructor
      · rintro ⟨contact, listed, key, -, moved⟩ unchanged
        obtain rfl := unique listed key
        obtain ⟨inside, rfl⟩ := List.getElem?_eq_some_iff.mp there
        have value := congrArg (·[index]?) unchanged
        simp only [List.getElem?_set_self inside, List.getElem?_eq_getElem inside, Option.some.injEq] at value
        exact moved value
      · intro changed
        refine ⟨before, member, same, exhausted, fun unmoved => changed ?_⟩
        rw [unmoved]
        obtain ⟨inside, rfl⟩ := List.getElem?_eq_some_iff.mp there
        exact List.set_getElem_self inside
    · rw [some]
      rw [water] at left
      refine .put sound there (reset_key lawful before) (lawful.reset_valid before) (reset_name lawful before)
        (reset_type lawful before) ?_ ?_
      · rintro ⟨contact, -, -, exhausted, -⟩
        exact left exhausted
      · exact ⟨fun both => both.2.2, fun all => ⟨⟨before, member, same⟩, left, all⟩⟩

theorem flagsPlan_spec (sound : TableSound contacts) {reference : List UInt8} (change : UInt8 → UInt8) :
    PlanSpec contacts (flagsPlan ops contacts clock reference change) False
      (resolveContact ops.toContactLookup contacts reference ≠ none ∧ highWater contacts ≠ 0xFFFFFFFF ∧
        contacts.all StoredContact.acceptable = true) False := by
  unfold flagsPlan
  cases found : resolveContact ops.toContactLookup contacts reference with
  | none => exact .refused id (fun both => both.1 rfl) id
  | some place =>
    obtain ⟨index, before⟩ := place
    have there := resolve_spec found
    have water : highWater (contacts.set index { before with flags := change before.flags }) = highWater contacts :=
      highWater_set there rfl
    dsimp only
    rcases assign_cases (contacts.set index { before with flags := change before.flags }) clock
        { before with flags := change before.flags } with ⟨exhausted, none⟩ | ⟨left, revision, some⟩
    · rw [none]
      rw [water] at exhausted
      exact .refused id (fun both => both.2.1 exhausted) id
    · rw [some]
      rw [water] at left
      exact .put sound there rfl (sound.paths before (List.mem_of_getElem? there)) rfl rfl id
        ⟨fun both => both.2.2, fun all => ⟨Option.some_ne_none _, left, all⟩⟩

theorem addPlan_spec (sound : TableSound contacts) {name : CString 32} {type : UInt8} :
    PlanSpec contacts (addPlan contacts clock name pubKey type) False (Committable ops contacts (.add name pubKey type))
      False := by
  unfold addPlan
  split
  · rename_i refused
    refine .refused id ?_ id
    rintro ⟨valid, space, fresh, -⟩
    rcases refused with invalid | full | listed
    · rw [valid] at invalid
      cases invalid
    · omega
    · obtain ⟨contact, member, same⟩ := any_duplicate_iff.mp listed
      exact fresh contact member same
  · rename_i passes
    simp only [not_or, Bool.not_eq_false, not_le] at passes
    obtain ⟨valid, space, single⟩ := passes
    have fresh : ∀ contact ∈ contacts, contact.pubKey ≠ pubKey :=
      fun contact member same => single (any_duplicate_iff.mpr ⟨contact, member, same⟩)
    rcases assign_cases contacts clock (blankContact pubKey name type) with ⟨exhausted, none⟩ | ⟨left, revision, some⟩
    · rw [none]
      exact .refused id (fun both => both.2.2.2.1 exhausted) id
    · rw [some]
      have kept : name.truncate 31 = name := CString.truncate_of_le (candidate_short valid)
      have accepted : ({ blankContact pubKey name type with lastmod := revision } : StoredContact).acceptable =
          true := by
        change contactCandidateValid (name.truncate 31) pubKey type = true
        rw [kept]
        exact valid
      refine .committed (sound.append space fresh (by rfl) (List.length_take_le _ _)) id ?_ ⟨False.elim, by simp⟩
      rw [all_append_iff accepted]
      exact ⟨fun both => ⟨by simp, both.2.2.2.2⟩, fun both => ⟨valid, space, fresh, left, both.2⟩⟩

theorem nextStoreRevision_cases (clock water : UInt32) : (water = 0xFFFFFFFF ∧ nextStoreRevision clock water = none) ∨
    (water ≠ 0xFFFFFFFF ∧ ∃ revision, nextStoreRevision clock water = some revision) := by
  unfold nextStoreRevision
  split
  · rename_i exhausted
    exact Or.inl ⟨exhausted, rfl⟩
  · rename_i left
    exact Or.inr ⟨left, _, rfl⟩

theorem updatePlan_spec (sound : TableSound contacts) {update : StoredContact} :
    PlanSpec contacts (updatePlan ops contacts clock update) False (Committable ops contacts (.addOrUpdate update))
      False := by
  unfold updatePlan
  split
  · rename_i refused
    refine .refused id (fun both => ?_) id
    rw [both.1] at refused
    cases refused
  · rename_i passes
    rw [Bool.not_eq_true] at passes
    have checks := passes
    simp only [updateRefused, Bool.not_eq_false', Bool.and_eq_true] at checks
    obtain ⟨⟨path, valid⟩, -⟩ := checks
    have kept : update.name.truncate 31 = update.name := CString.truncate_of_le (candidate_short valid)
    have accepted (existing : Option StoredContact) (revision : UInt32) :
        (companionContact update existing revision).acceptable = true := by
      change contactCandidateValid (update.name.truncate 31) update.pubKey update.type = true
      rw [kept]
      exact valid
    rcases nextStoreRevision_cases clock (highWater contacts) with ⟨exhausted, none⟩ | ⟨left, revision, some⟩
    · rw [none]
      exact .refused id (fun both => both.2.1 exhausted) id
    · rw [some]
      dsimp only
      cases found : ops.lookupContactByPubKey contacts update.pubKey with
      | some place =>
        obtain ⟨index, existing⟩ := place
        obtain ⟨there, same⟩ := ops.lookup_found found
        have listed : ∃ contact ∈ contacts, contact.pubKey = update.pubKey :=
          ⟨existing, List.mem_of_getElem? there, same⟩
        refine .committed (sound.put there same.symm path (List.length_take_le _ _)) id ?_
          ⟨False.elim, set_ne_nil there⟩
        rw [all_set_iff sound there (accepted _ _), same]
        exact ⟨fun both => ⟨set_ne_nil there, both.2.2.2⟩, fun both => ⟨passes, left, Or.inl listed, both.2⟩⟩
      | none =>
        have fresh := lookup_none_iff.mp found
        dsimp only
        split
        · rename_i full
          refine .refused id ?_ id
          rintro ⟨-, -, ⟨contact, member, same⟩ | space, -⟩
          · exact fresh contact member same
          · omega
        · rename_i space
          have others : OthersAcceptable contacts update.pubKey ↔ contacts.all StoredContact.acceptable = true := by
            rw [List.all_eq_true]
            exact ⟨fun all contact member => all contact member (fresh contact member),
              fun all contact member _ => all contact member⟩
          refine .committed (sound.append (by omega) fresh path (List.length_take_le _ _)) id ?_ ⟨False.elim, by simp⟩
          rw [all_append_iff (accepted _ _), ← others]
          exact ⟨fun both => ⟨by simp, both.2.2.2⟩, fun both => ⟨passes, left, Or.inr (by omega), both.2⟩⟩

theorem removePlan_spec (sound : TableSound contacts) :
    PlanSpec contacts (removePlan ops contacts pubKey) False (Committable ops contacts (.remove pubKey))
      (RemovesLast ops contacts (.remove pubKey)) := by
  unfold removePlan
  cases found : ops.lookupContactByPubKey contacts pubKey with
  | none =>
    have apart := lookup_none_iff.mp found
    refine .refused id ?_ ?_
    · rintro ⟨⟨contact, member, same⟩, -⟩
      exact apart contact member same
    · rintro ⟨-, contact, member, same⟩
      exact apart contact member same
  | some place =>
    obtain ⟨index, live⟩ := place
    obtain ⟨there, same⟩ := ops.lookup_found found
    have listed : ∃ contact ∈ contacts, contact.pubKey = pubKey := ⟨live, List.mem_of_getElem? there, same⟩
    have counted := length_filter_key sound there same
    have positive : 0 < contacts.length := List.length_pos_of_mem (List.mem_of_getElem? there)
    have empty : contacts.filter (·.pubKey != pubKey) = [] ↔ contacts.length = 1 := by
      rw [← List.length_eq_zero_iff, counted]
      omega
    refine .committed (sound.filter _) id ?_ ?_
    · rw [all_filter_iff, ne_eq, empty]
      exact ⟨fun both => ⟨by have many := both.2.1; omega, both.2.2⟩, fun both => ⟨listed, by omega, both.2⟩⟩
    · rw [empty]
      exact ⟨And.left, fun only => ⟨only, listed⟩⟩

theorem PlanSpec.congr {plan : ContactPlan} {spoils commits empties spoils' commits' empties' : Prop}
    (spec : PlanSpec contacts plan spoils commits empties) (spoil : spoils' ↔ spoils) (commit : commits' ↔ commits)
    (empty : empties' ↔ empties) : PlanSpec contacts plan spoils' commits' empties' :=
  ⟨spec.sound, spoil.trans spec.spoils, commit.trans spec.commits, empty.trans spec.empties⟩

theorem contactPlan_spec (lawful : ops.Lawful) (sound : TableSound contacts) (call : ContactCall) :
    PlanSpec contacts (contactPlan ops contacts clock call) (ResetExhausted ops contacts call)
      (Committable ops contacts call) (RemovesLast ops contacts call) := by
  have unique {first second : StoredContact} (one : first ∈ contacts) (two : second ∈ contacts)
      (same : first.pubKey = second.pubKey) : first = second :=
    List.inj_on_of_nodup_map sound.distinct one two same
  cases call with
  | resetPath pubKey => exact resetPlan_spec lawful sound
  | resetPathTo reference =>
    rw [contactPlan]
    cases found : resolveContact ops.toContactLookup contacts reference with
    | none =>
      refine .refused ?_ (fun both => both.1 found) id
      rintro ⟨index, contact, resolved, -⟩
      rw [found] at resolved
      cases resolved
    | some place =>
      obtain ⟨index, contact⟩ := place
      have member := List.mem_of_getElem? (resolve_spec found)
      refine (resetPlan_spec lawful sound).congr ?_ ?_ Iff.rfl
      · constructor
        · rintro ⟨other, held, resolved, exhausted, moved⟩
          rw [found] at resolved
          obtain ⟨-, rfl⟩ := Prod.mk.inj (Option.some.inj resolved)
          exact ⟨contact, member, rfl, exhausted, moved⟩
        · rintro ⟨other, listed, same, exhausted, moved⟩
          rw [unique listed member same] at moved
          exact ⟨index, contact, found, exhausted, moved⟩
      · exact ⟨fun both => ⟨⟨contact, member, rfl⟩, both.2⟩,
          fun both => ⟨by rw [found]; exact Option.some_ne_none _, both.2⟩⟩
  | setFavourite reference favourite =>
    exact flagsPlan_spec sound fun flags => if favourite then flags ||| 0x01 else flags &&& ~~~0x01
  | setPerm reference perm =>
    exact flagsPlan_spec sound fun flags => (flags &&& 1) ||| ((perm &&& (3 : UInt8)) <<< (1 : UInt8))
  | add name pubKey type => exact addPlan_spec sound
  | addOrUpdate update => exact updatePlan_spec sound
  | remove pubKey => exact removePlan_spec sound
  | removeContact reference =>
    rw [contactPlan]
    cases found : resolveContact ops.toContactLookup contacts reference with
    | none =>
      refine .refused id ?_ (fun both => both.2 found)
      rintro ⟨index, contact, resolved, -⟩
      rw [found] at resolved
      cases resolved
    | some place =>
      obtain ⟨index, contact⟩ := place
      have listed : ∃ other ∈ contacts, other.pubKey = contact.pubKey :=
        ⟨contact, List.mem_of_getElem? (resolve_spec found), rfl⟩
      refine (removePlan_spec sound).congr Iff.rfl ?_ ?_
      · constructor
        · rintro ⟨other, held, resolved, both⟩
          rw [found] at resolved
          obtain ⟨-, rfl⟩ := Prod.mk.inj (Option.some.inj resolved)
          exact ⟨listed, both⟩
        · exact fun both => ⟨index, contact, found, both.2⟩
      · exact ⟨fun both => ⟨both.1, listed⟩, fun both => ⟨both.1, by rw [found]; exact Option.some_ne_none _⟩⟩

end Plans

/-- A call that fails leaves the table and the file; one that succeeds has stored the table that it leaves. -/
structure Durable (book : ContactBook) (result : Bool × ContactBook) : Prop where
  failed : result.1 = false → result.2.contacts = book.contacts ∧ result.2.file.live = book.file.live
  done : result.1 = true →
    result.2.file.live = storedForm result.2.contacts ∧ loadedContacts result.2.file = result.2.contacts

theorem durable_of_summary {result : Bool × ContactBook} {plan : ContactPlan}
    (same : summary result = plan.outcome book)
    (sound : ∀ table, plan = .commit table → TableSound table) :
    Durable book result ↔ (∀ table, plan = .spoil table → table = book.contacts) ∧
      ∀ table, plan = .commit table → ¬ LosesFile book.file table (book.saveFaults.headD none) := by
  obtain ⟨ok, after⟩ := result
  cases plan with
  | refuse =>
    obtain ⟨rfl, contacts, file⟩ : ok = false ∧ after.contacts = book.contacts ∧ after.file = book.file := by
      simpa [summary, ContactPlan.outcome] using same
    exact ⟨fun _ => ⟨nofun, nofun⟩, fun _ => ⟨fun _ => ⟨contacts, by rw [file]⟩, nofun⟩⟩
  | spoil table =>
    obtain ⟨rfl, contacts, file⟩ : ok = false ∧ after.contacts = table ∧ after.file = book.file := by
      simpa [summary, ContactPlan.outcome] using same
    constructor
    · intro durable
      refine ⟨fun other equal => ?_, nofun⟩
      cases equal
      exact contacts.symm.trans (durable.failed rfl).1
    · intro both
      exact ⟨fun _ => ⟨contacts.trans (both.1 table rfl), by rw [file]⟩, nofun⟩
  | commit table =>
    unfold ContactPlan.outcome at same
    dsimp only at same
    cases outcome : contactStoreSaveAll book.file table (book.saveFaults.headD none) with
    | mk saved file =>
      obtain ⟨done, failed⟩ := saveAll_outcome (sound table rfl) outcome
      rw [outcome] at same
      cases saved with
      | true =>
        obtain ⟨rfl, contacts, files⟩ : ok = true ∧ after.contacts = table ∧ after.file = file := by
          simpa [summary] using same
        obtain ⟨stored, loaded⟩ := done rfl
        refine ⟨fun _ => ⟨nofun, fun other equal loses => ?_⟩, fun _ => ⟨nofun, fun _ => ?_⟩⟩
        · cases equal
          exact saved_keeps (sound table rfl) outcome loses
        · rw [contacts, files]
          exact ⟨stored, loaded⟩
      | false =>
        obtain ⟨rfl, contacts, files⟩ : ok = false ∧ after.contacts = book.contacts ∧ after.file = file := by
          simpa [summary] using same
        constructor
        · intro durable
          refine ⟨nofun, fun other equal => ?_⟩
          cases equal
          rw [← failed rfl, ← files]
          exact (durable.failed rfl).2
        · intro both
          refine ⟨fun _ => ⟨contacts, ?_⟩, nofun⟩
          rw [files]
          exact (failed rfl).mpr (both.2 table rfl)

/-- Every call is durable unless it resets a path with no revision left, or its save loses the file. -/
theorem contact_calls_durable_iff (lawful : ops.Lawful) (book : ContactBook) (sound : TableSound book.contacts)
    (clock : UInt32) (call : ContactCall) :
    Durable book (performContactCall ops book clock call) ↔
      ¬ ResetExhausted ops book.contacts call ∧
      (book.saveFaults.headD none = some (.replace .rename) → book.file.live = none ∨
        ¬ Committable ops book.contacts call) ∧
      (book.saveFaults.headD none = some .removeTemp →
        book.file.live = none ∨ book.file.temp = none ∨ ¬ RemovesLast ops book.contacts call) := by
  have spec := @contactPlan_spec ops book.contacts clock lawful sound call
  rw [durable_of_summary (performContactCall_summary lawful sound clock call) spec.sound, spec.spoils, spec.commits,
    spec.empties]
  constructor
  · rintro ⟨kept, keeps⟩
    refine ⟨?_, fun rename => ?_, fun stuck => ?_⟩
    · rintro ⟨table, planned, changed⟩
      exact changed (kept table planned)
    · by_cases live : book.file.live = none
      · exact Or.inl live
      · refine Or.inr ?_
        rintro ⟨table, planned, filled, accepted⟩
        exact keeps table planned ⟨live, Or.inl ⟨filled, accepted, rename⟩⟩
    · by_cases live : book.file.live = none
      · exact Or.inl live
      · by_cases temp : book.file.temp = none
        · exact Or.inr (Or.inl temp)
        · exact Or.inr (Or.inr fun planned => keeps [] planned ⟨live, Or.inr ⟨rfl, stuck, temp⟩⟩)
  · rintro ⟨unspoiled, renamed, removed⟩
    constructor
    · intro table planned
      by_contra changed
      exact unspoiled ⟨table, planned, changed⟩
    · rintro table planned ⟨live, ⟨filled, accepted, rename⟩ | ⟨rfl, stuck, temp⟩⟩
      · rcases renamed rename with missing | refused
        · exact live missing
        · exact refused ⟨table, planned, filled, accepted⟩
      · rcases removed stuck with missing | settled | other
        · exact live missing
        · exact temp settled
        · exact other planned

/-- The contact table as a list with MeshCore's mark of an unknown path. -/
def listOps : ContactOps where
  toContactLookup := .first
  resetPathTo := fun contact => { contact with outPathLen := 0xFF }
  addContact := fun contacts contact => if contacts.length < maxContacts then some (contacts ++ [contact]) else none
  removeContact := fun contacts contact =>
    if contact ∈ contacts then some (contacts.filter (·.pubKey != contact.pubKey)) else none

theorem listOps_lawful : listOps.Lawful where
  reset_only_path := fun _ => rfl
  reset_valid := fun _ => rfl
  add_appends := fun _ _ space => if_pos space
  remove_only := fun _ _ member => if_pos member

/-- A contact with a direct path and a given revision. -/
def directContact (revision : UInt32) : StoredContact :=
  { sampleContact 1 [65, 110, 110] ann_fits ann_nonzero with outPathLen := 0, lastmod := revision }

def directBook (revision : UInt32) : ContactBook := ⟨[directContact revision], ⟨none, none⟩, false, []⟩

theorem directBook_sound (revision : UInt32) : TableSound (directBook revision).contacts where
  room := show 1 ≤ maxContacts by decide
  distinct := List.nodup_singleton _
  paths := by
    intro contact member
    rw [List.mem_singleton.mp member]
    exact show storedLengthValid 0 = true by decide
  terminated := by
    intro contact member
    rw [List.mem_singleton.mp member]
    exact Nat.le_of_ble_eq_true rfl

theorem directReset_durable :
    Durable (directBook 7) (performContactCall listOps (directBook 7) 5 (.resetPath (directContact 7).pubKey)) := by
  rw [contact_calls_durable_iff listOps_lawful (directBook 7) (directBook_sound 7)]
  refine ⟨?_, nofun, nofun⟩
  rintro ⟨contact, member, -, exhausted, -⟩
  exact absurd exhausted (by decide)

/-- The largest revision is in use: the path is gone from the memory, and the call has failed. -/
theorem exhaustedReset_not_durable :
    ¬ ∀ (ops : ContactOps), ops.Lawful → ∀ (book : ContactBook), TableSound book.contacts →
      ∀ (clock : UInt32) (call : ContactCall), Durable book (performContactCall ops book clock call) := by
  intro durable
  have kept := durable listOps listOps_lawful (directBook 0xFFFFFFFF) (directBook_sound _) 5
    (.resetPath (directContact 0xFFFFFFFF).pubKey)
  exact absurd (kept.failed (by decide +kernel)).1 (by decide +kernel)

end SigurdOS.Mesh
