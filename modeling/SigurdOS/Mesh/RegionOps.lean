import Mathlib.Data.List.Perm.Subperm
import SigurdOS.Library.Runs
import SigurdOS.Mesh.Regions

namespace SigurdOS.Mesh

open Bytes Hal

section Faults

/-- One step fails: the removal that follows a failed write or validation goes through. -/
def SaveFault.Single : SaveFault → Prop
  | .replace (.write _ cleaned) => cleaned = true
  | .replace (.validate cleaned) => cleaned = true
  | .recover (.validate cleaned) => cleaned = true
  | _ => True

/-- The step comes before the new envelope is validated, so that nothing of it can survive. -/
def SaveFault.PreCommit : SaveFault → Prop
  | .replace .removeLive => False
  | .replace .rename => False
  | .cleanAfter => False
  | _ => True

def SaveFault.ReadsPending (file : AtomicFile) : SaveFault → Prop
  | .recover (.validate _) => ∀ pending, file.temp = some pending → validateAnyCurrentRegionFile pending = false
  | _ => True

/-- Nothing fails, or a single step before the commit. -/
def Tolerable (file : AtomicFile) (fault : Option SaveFault) : Prop :=
  ∀ step, fault = some step → step.Single ∧ step.PreCommit ∧ step.ReadsPending file

variable {file after : AtomicFile} {fault : Option SaveFault}

theorem settledLive_of_unusable (unusable : ∀ pending, file.temp = some pending →
    validateAnyCurrentRegionFile pending = false) : settledLive file = file.live := by
  unfold settledLive
  cases held : file.temp with
  | none => rfl
  | some pending =>
    dsimp only
    rw [unusable pending held, if_neg Bool.false_ne_true]

theorem recover_keeps_settled {recovered : Bool} (tolerable : Tolerable file fault)
    (outcome : atomicFileRecover file validateAnyCurrentRegionFile (fault.bind SaveFault.recoverFault) =
      (recovered, after)) :
    settledLive after = settledLive file ∧
      (recovered = true → ∀ pending, after.temp = some pending → validateAnyCurrentRegionFile pending = false) := by
  cases held : file.temp with
  | none =>
    rw [atomicFileRecover_without_temp _ _ held] at outcome
    obtain ⟨-, rfl⟩ := Prod.mk.inj outcome
    exact ⟨rfl, fun _ pending some => absurd (held.symm.trans some) nofun⟩
  | some pending =>
    have promoted (valid : validateAnyCurrentRegionFile pending = true) : settledLive file = some pending := by
      rw [settledLive, held]
      exact if_pos valid
    have kept (invalid : validateAnyCurrentRegionFile pending = false) : settledLive file = file.live := by
      rw [settledLive, held]
      exact if_neg (by rw [invalid]; exact Bool.false_ne_true)
    generalize chosen : fault.bind SaveFault.recoverFault = step at outcome
    have misread (cleaned : Bool) (same : step = some (.validate cleaned)) :
        cleaned = true ∧ validateAnyCurrentRegionFile pending = false := by
      rw [same] at chosen
      obtain ⟨save, rfl, inner⟩ := Option.bind_eq_some_iff.mp chosen
      cases save with
      | recover reason =>
        obtain rfl := Option.some.inj inner
        obtain ⟨single, -, reads⟩ := tolerable _ rfl
        exact ⟨single, reads pending held⟩
      | _ => cases inner
    unfold atomicFileRecover at outcome
    rw [held] at outcome
    dsimp only at outcome
    split at outcome
    · rename_i cleaned
      obtain ⟨rfl, invalid⟩ := misread cleaned rfl
      obtain ⟨-, rfl⟩ := Prod.mk.inj outcome
      exact ⟨(kept invalid).symm, fun _ _ absurdity => absurd absurdity nofun⟩
    · cases valid : validateAnyCurrentRegionFile pending with
      | false =>
        rw [valid, if_neg Bool.false_ne_true] at outcome
        obtain ⟨-, rfl⟩ := Prod.mk.inj outcome
        exact ⟨(kept valid).symm, fun _ _ absurdity => absurd absurdity nofun⟩
      | true =>
        rw [valid, if_pos rfl] at outcome
        split at outcome
        · obtain ⟨rfl, rfl⟩ := Prod.mk.inj outcome
          exact ⟨rfl, nofun⟩
        · obtain ⟨rfl, rfl⟩ := Prod.mk.inj outcome
          refine ⟨?_, nofun⟩
          rw [promoted valid]
          exact if_pos valid
        · obtain ⟨rfl, rfl⟩ := Prod.mk.inj outcome
          exact ⟨(promoted valid).symm, fun _ _ absurdity => absurd absurdity nofun⟩

theorem replace_keeps_settled {content : Option (List UInt8)} {before : AtomicFile} (tolerable : Tolerable before fault)
    (unusable : ∀ pending, file.temp = some pending → validateAnyCurrentRegionFile pending = false)
    (failed : atomicFileReplace file content validateTransactionalRegionFile (fault.bind SaveFault.replaceFault) =
      (false, after)) : settledLive after = settledLive file := by
  have dropped : settledLive { file with temp := none } = settledLive file :=
    (settledLive_of_unusable unusable).symm
  generalize chosen : fault.bind SaveFault.replaceFault = step at failed
  have allowed (reason : ReplaceFault) (same : step = some reason) :
      (SaveFault.replace reason).Single ∧ (SaveFault.replace reason).PreCommit := by
    rw [same] at chosen
    obtain ⟨save, rfl, inner⟩ := Option.bind_eq_some_iff.mp chosen
    cases save with
    | replace other =>
      obtain rfl := Option.some.inj inner
      exact ⟨(tolerable _ rfl).1, (tolerable _ rfl).2.1⟩
    | _ => cases inner
  unfold atomicFileReplace at failed
  split at failed
  · obtain ⟨-, rfl⟩ := Prod.mk.inj failed
    rfl
  · obtain ⟨-, rfl⟩ := Prod.mk.inj failed
    exact dropped
  · rename_i written cleaned
    obtain rfl : cleaned = true := (allowed _ rfl).1
    obtain ⟨-, rfl⟩ := Prod.mk.inj failed
    exact dropped
  · rename_i cleaned
    obtain rfl : cleaned = true := (allowed _ rfl).1
    obtain ⟨-, rfl⟩ := Prod.mk.inj failed
    exact dropped
  · split at failed
    · obtain ⟨-, rfl⟩ := Prod.mk.inj failed
      exact dropped
    · split at failed
      · split at failed
        · exact absurd (allowed _ rfl).2 id
        · exact absurd (allowed _ rfl).2 id
        · cases failed
      · obtain ⟨-, rfl⟩ := Prod.mk.inj failed
        exact dropped

theorem envelopeSave_failed {legacy : Option (List UInt8)} {keyCount : Int} {readKey : Nat → Option RegionKey}
    (tolerable : Tolerable file fault)
    (failed : regionStoreSaveTransactionalFile file legacy keyCount readKey (fault.bind SaveFault.recoverFault)
      (fault.bind SaveFault.replaceFault) = (false, after)) : settledLive after = settledLive file := by
  unfold regionStoreSaveTransactionalFile at failed
  split at failed
  · obtain ⟨-, rfl⟩ := Prod.mk.inj failed
    rfl
  · split at failed
    · obtain ⟨-, rfl⟩ := Prod.mk.inj failed
      rfl
    · split at failed
      · obtain ⟨-, rfl⟩ := Prod.mk.inj failed
        rfl
      · cases outcome : atomicFileRecover file validateAnyCurrentRegionFile (fault.bind SaveFault.recoverFault) with
        | mk recovered middle =>
          obtain ⟨settled, unusable⟩ := recover_keeps_settled tolerable outcome
          rw [outcome] at failed
          dsimp only at failed
          split at failed
          · obtain ⟨-, rfl⟩ := Prod.mk.inj failed
            exact settled
          · rename_i proceeds
            rw [← settled]
            apply replace_keeps_settled tolerable ?_ failed
            cases recovered with
            | true => exact unusable rfl
            | false =>
              intro pending held
              rw [not_and_or, not_or, held] at proceeds
              rcases proceeds with recovered | ⟨unusable, -⟩
              · exact absurd rfl recovered
              · exact Bool.not_eq_true _ ▸ unusable

theorem envelopeSave_done {source : List UInt8} {keys : List RegionKey} {recoverFault : Option RecoverFault}
    {replaceFault : Option ReplaceFault}
    (done : regionStoreSaveTransactionalFile file (some source) keys.length (fun index => keys[index]?) recoverFault
      replaceFault = (true, after)) :
    validateLegacyRegionFile source = true ∧ keys.length ≤ regionMaxPrivateKeys ∧ KeysFit source keys ∧
      after = ⟨some (envelope source keys), none⟩ := by
  unfold regionStoreSaveTransactionalFile at done
  split at done
  · cases done
  · rename_i inRange
    dsimp only at done
    split at done
    · cases done
    · rename_i accepted
      rw [Bool.not_eq_false] at accepted
      have bound : keys.length ≤ regionMaxPrivateKeys := by omega
      obtain ⟨records, valid⟩ := Option.isSome_iff_exists.mp accepted
      obtain ⟨header, limit, -, -⟩ := validateRegionStructure_spec valid
      split at done
      · cases done
      · rw [writeTransactionalRegionEnvelope_eq header (limit.trans (by decide)) bound] at done
        rcases atomicFileReplace_cases done with ⟨-, data, same, stored, rfl⟩ | ⟨refused, -⟩ | ⟨refused, -⟩
        · obtain rfl := Option.some.inj same
          exact ⟨accepted, bound, (validate_envelope_iff accepted bound).mp stored, rfl⟩
        · cases refused
        · cases refused

end Faults

variable {μ : Type}

/-- What the regions rely on in MeshCore: an ordered table of regions with a home and a default region,
    whose save and load are inverse. -/
structure RegionTable.Lawful (table : RegionTable μ) : Prop where
  load_save : ∀ map, table.load (table.save map) = (true, map)
  ids_distinct : ∀ map, ((table.regions map).map RegionEntry.id).Nodup
  ids_nonzero : ∀ map, ∀ region ∈ table.regions map, region.id ≠ 0
  names_valid : ∀ map, ∀ region ∈ table.regions map, regionNameValid region.name = true
  same_refl : ∀ name, regionNameValid name = true → table.sameName name name = true
  same_private : ∀ name other, regionNameValid name = true → regionNameValid other = true →
    table.sameName name other = true → isPrivateName other = isPrivateName name
  findById_eq : ∀ map id, id ≠ 0 → table.findById map id = (table.regions map).find? (·.id == id)
  findByName_eq : ∀ map name, regionNameValid name = true →
    table.findByName map name = (table.regions map).find? fun region => table.sameName name region.name
  put_cases : ∀ map name parent region after, regionNameValid name = true →
    table.putRegion map name parent = some (region, after) →
    (table.findByName map name = none ∧ region.name = name ∧ region.parent = parent ∧
      table.regions after = table.regions map ++ [region]) ∨
    ∃ old, table.findByName map name = some old ∧ region = { old with parent := parent } ∧
      table.regions after = (table.regions map).map fun entry =>
        if entry.id = old.id then { entry with parent := parent } else entry
  put_default : ∀ map name parent region after, table.putRegion map name parent = some (region, after) →
    (table.getDefaultRegion after).map RegionEntry.id = (table.getDefaultRegion map).map RegionEntry.id
  flags_kept : ∀ map id flags, table.regions (table.setFlags map id flags) =
    (table.regions map).map fun region => if region.id = id then { region with flags := flags } else region
  flags_default : ∀ map id flags, (table.getDefaultRegion (table.setFlags map id flags)).map RegionEntry.id =
    (table.getDefaultRegion map).map RegionEntry.id
  remove_rest : ∀ map region after, table.removeRegion map region = some after →
    table.regions after = (table.regions map).filter (·.id != region.id)
  remove_default : ∀ map region after, region ∈ table.regions map → table.removeRegion map region = some after →
    table.getDefaultRegion map ≠ some region → table.getDefaultRegion after = table.getDefaultRegion map
  home_kept : ∀ map region, table.regions (table.setHomeRegion map region) = table.regions map
  home_default : ∀ map region, table.getDefaultRegion (table.setHomeRegion map region) = table.getDefaultRegion map
  default_listed : ∀ map region, table.getDefaultRegion map = some region → region ∈ table.regions map
  default_kept : ∀ map region, table.regions (table.setDefaultRegion map region) = table.regions map
  default_set : ∀ map region, region ∈ table.regions map →
    table.getDefaultRegion (table.setDefaultRegion map (some region)) = some region

def HasPrivate (table : RegionTable μ) (map : μ) (id : UInt16) : Prop :=
  ∃ region ∈ table.regions map, region.id = id ∧ isPrivateName region.name = true

/-- Every key of the store belongs to a private region, at most one to each, and none is null. -/
structure KeysOwned (table : RegionTable μ) (map : μ) (keys : List RegionKey) : Prop where
  owned : ∀ key ∈ keys, HasPrivate table map key.1
  single : (keys.map Prod.fst).Nodup
  filled : ∀ key ∈ keys, isNull key.2 = false
  room : keys.length ≤ table.maxTksEntries

section Keys

variable {table : RegionTable μ} {map after : μ} {keys : List RegionKey}

theorem loadKeysFor_of_mem (single : (keys.map Prod.fst).Nodup) {key : RegionKey} (member : key ∈ keys) {maxNum : Nat}
    (positive : 0 < maxNum) : loadKeysFor keys key.1 maxNum = [key.2] := by
  have only : keys.filter (·.1 == key.1) = [key] := by
    induction keys with
    | nil => cases member
    | cons head rest ih =>
      rw [List.map_cons, List.nodup_cons] at single
      rcases List.mem_cons.mp member with rfl | later
      · have none : rest.filter (·.1 == key.1) = [] := by
          rw [List.filter_eq_nil_iff]
          intro other listed same
          exact single.1 (List.mem_map.mpr ⟨other, listed, by simpa using same⟩)
        rw [List.filter_cons, if_pos (by simp), none]
      · have apart : ¬ (head.1 == key.1) = true := by
          intro same
          exact single.1 (List.mem_map.mpr ⟨key, later, by simpa using Eq.symm (by simpa using same)⟩)
        rw [List.filter_cons, if_neg apart]
        exact ih single.2 later
  rw [loadKeysFor, only, List.map_cons, List.map_nil, List.take_of_length_le positive]

theorem loadKeysFor_of_absent {id : UInt16} (absent : ∀ key ∈ keys, key.1 ≠ id) (maxNum : Nat) :
    loadKeysFor keys id maxNum = [] := by
  have none : keys.filter (·.1 == id) = [] := by
    rw [List.filter_eq_nil_iff]
    intro key member same
    exact absent key member (by simpa using same)
  rw [loadKeysFor, none, List.map_nil, List.take_nil]

theorem KeysOwned.moves (owned : KeysOwned table map keys)
    (kept : ∀ id, HasPrivate table map id → HasPrivate table after id) : KeysOwned table after keys :=
  ⟨fun key member => kept _ (owned.owned key member), owned.single, owned.filled, owned.room⟩

theorem KeysOwned.save (owned : KeysOwned table map keys) {id : UInt16} {key : FixedBytes 16}
    (region : HasPrivate table map id) (filled : isNull key = false) {added : List RegionKey}
    (saved : saveKeysFor table.maxTksEntries keys id [key] = some added) : KeysOwned table map added := by
  unfold saveKeysFor at saved
  split at saved
  · cases saved
  · dsimp only at saved
    split at saved
    · cases saved
    · rename_i room
      obtain rfl := Option.some.inj saved
      have earlier {other : RegionKey} (member : other ∈ keys.filter (·.1 != id)) : other ∈ keys ∧ other.1 ≠ id := by
        obtain ⟨listed, apart⟩ := List.mem_filter.mp member
        exact ⟨listed, by simpa using apart⟩
      have cases {other : RegionKey} (member : other ∈ keys.filter (·.1 != id) ++ [key].map (id, ·)) :
          (other ∈ keys ∧ other.1 ≠ id) ∨ other = (id, key) := by
        rcases List.mem_append.mp member with old | new
        · exact Or.inl (earlier old)
        · exact Or.inr (by simpa using new)
      refine ⟨fun other member => ?_, ?_, fun other member => ?_, ?_⟩
      · rcases cases member with ⟨old, -⟩ | rfl
        · exact owned.owned other old
        · exact region
      · rw [List.map_append, List.nodup_append]
        refine ⟨owned.single.sublist (List.filter_sublist.map _), by simp, ?_⟩
        intro first listed second new same
        obtain ⟨other, member, rfl⟩ := List.mem_map.mp listed
        exact (earlier member).2 (by simpa [same] using new)
      · rcases cases member with ⟨old, -⟩ | rfl
        · exact owned.filled other old
        · exact filled
      · rw [List.length_append, List.length_map]
        omega

theorem KeysOwned.filter (owned : KeysOwned table map keys) (keep : RegionKey → Bool) :
    KeysOwned table map (keys.filter keep) where
  owned := fun key member => owned.owned key (List.mem_of_mem_filter member)
  single := owned.single.sublist (List.filter_sublist.map _)
  filled := fun key member => owned.filled key (List.mem_of_mem_filter member)
  room := (List.length_filter_le _ _).trans owned.room

theorem KeysOwned.remove (owned : KeysOwned table map keys) (id : UInt16) :
    KeysOwned table map ((removeKeys keys id).getD keys) := by
  unfold removeKeys
  split
  · exact owned
  · exact owned.filter _

def SameKeys (left right : List RegionKey) : Prop :=
  ∀ id maxNum, loadKeysFor left id maxNum = loadKeysFor right id maxNum

theorem sameKeys_of_mem {left right : List RegionKey} (leftSingle : (left.map Prod.fst).Nodup)
    (rightSingle : (right.map Prod.fst).Nodup) (same : ∀ key, key ∈ left ↔ key ∈ right) : SameKeys left right := by
  intro id maxNum
  by_cases positive : 0 < maxNum
  · by_cases present : ∃ key ∈ left, key.1 = id
    · obtain ⟨key, member, rfl⟩ := present
      rw [loadKeysFor_of_mem leftSingle member positive,
        loadKeysFor_of_mem rightSingle ((same key).mp member) positive]
    · push Not at present
      rw [loadKeysFor_of_absent present,
        loadKeysFor_of_absent fun key member => present key ((same key).mpr member)]
  · obtain rfl : maxNum = 0 := by omega
    rw [loadKeysFor, loadKeysFor, List.take_zero, List.take_zero]

theorem mem_privateRegionKeys (owned : KeysOwned table map keys) (key : RegionKey) :
    key ∈ privateRegionKeys table map keys ↔ key ∈ keys := by
  unfold privateRegionKeys
  rw [List.mem_filterMap]
  constructor
  · rintro ⟨region, -, found⟩
    split at found
    · split at found
      · rename_i held loaded
        split at found
        · cases found
        · obtain rfl := Option.some.inj found
          have listed : held ∈ loadKeysFor keys region.id 1 := by rw [loaded]; exact List.mem_singleton_self held
          obtain ⟨⟨id, stored⟩, member, rfl⟩ := List.mem_map.mp (List.mem_of_mem_take listed)
          obtain ⟨inside, same⟩ := List.mem_filter.mp member
          obtain rfl : id = region.id := by simpa using same
          exact inside
      · cases found
    · cases found
  · intro member
    obtain ⟨region, listed, same, isPrivate⟩ := owned.owned key member
    refine ⟨region, listed, ?_⟩
    rw [if_pos isPrivate, same, loadKeysFor_of_mem owned.single member Nat.one_pos]
    dsimp only
    rw [owned.filled key member, if_neg Bool.false_ne_true]

theorem privateRegionKeys_single (lawful : table.Lawful) (map : μ) (keys : List RegionKey) :
    ((privateRegionKeys table map keys).map Prod.fst).Nodup := by
  have sublist : ((privateRegionKeys table map keys).map Prod.fst).Sublist
      ((table.regions map).map RegionEntry.id) := by
    unfold privateRegionKeys
    induction table.regions map with
    | nil => exact List.Sublist.slnil
    | cons region rest ih =>
      rw [List.filterMap_cons, List.map_cons]
      split
      · exact ih.cons _
      · rename_i key found
        have same : key.1 = region.id := by
          split at found
          · split at found
            · split at found
              · cases found
              · rw [← Option.some.inj found]
            · cases found
          · cases found
        rw [List.map_cons, same]
        exact ih.cons_cons _
  exact (lawful.ids_distinct map).sublist sublist

theorem privateRegionKeys_length (lawful : table.Lawful) (owned : KeysOwned table map keys) :
    (privateRegionKeys table map keys).length ≤ table.maxTksEntries := by
  have nodup : (privateRegionKeys table map keys).Nodup :=
    List.Nodup.of_map _ (privateRegionKeys_single lawful map keys)
  have subset : privateRegionKeys table map keys ⊆ keys :=
    fun key member => (mem_privateRegionKeys owned key).mp member
  exact (List.subperm_of_subset nodup subset).length_le.trans owned.room

theorem loadInOrder_privateKeys (lawful : table.Lawful) {done left : List RegionKey}
    (single : ((done ++ left).map Prod.fst).Nodup) (listed : ∀ key ∈ left, HasPrivate table map key.1)
    (filled : ∀ key ∈ left, isNull key.2 = false) (room : (done ++ left).length ≤ table.maxTksEntries) :
    loadInOrder (loadPrivateRegionKey table map) left done = (true, done ++ left) := by
  induction left generalizing done with
  | nil => rw [loadInOrder, List.append_nil]
  | cons key rest ih =>
    obtain ⟨region, member, same, isPrivate⟩ := listed key List.mem_cons_self
    have nonzero : key.1 ≠ 0 := same ▸ lawful.ids_nonzero map region member
    have found : table.findById map key.1 = some region := by
      rw [lawful.findById_eq map _ nonzero, List.find?_eq_some_iff_getElem]
      obtain ⟨index, inside, there⟩ := List.getElem_of_mem member
      refine ⟨by simpa using same, index, inside, there, fun earlier before => ?_⟩
      rw [Bool.not_eq_true', beq_eq_false_iff_ne]
      intro equal
      have apart := List.pairwise_iff_getElem.mp (List.pairwise_map.mp (lawful.ids_distinct map)) earlier index
        (before.trans inside) inside before
      rw [there, same] at apart
      exact apart equal
    have fresh : done.filter (·.1 != key.1) = done := by
      rw [List.filter_eq_self]
      intro other present
      rw [List.map_append, List.nodup_append] at single
      have apart := single.2.2 other.1 (List.mem_map_of_mem present) key.1 (by simp)
      simpa using apart
    have bound : done.length + 1 ≤ table.maxTksEntries := by
      rw [List.length_append, List.length_cons] at room
      omega
    have saved : saveKeysFor table.maxTksEntries done key.1 [key.2] = some (done ++ [key]) := by
      rw [saveKeysFor, if_neg (by simp [nonzero]; omega)]
      dsimp only
      rw [fresh, if_neg (by simp; omega)]
      rfl
    have accepted : loadPrivateRegionKey table map done key = (true, done ++ [key]) := by
      rw [loadPrivateRegionKey, if_neg nonzero, found]
      dsimp only
      rw [if_neg (by simp [isPrivate, filled key List.mem_cons_self]), saved]
    have regroup : done ++ key :: rest = done ++ [key] ++ rest := List.append_cons _ _ _
    rw [loadInOrder, accepted]
    dsimp only
    rw [regroup] at single room ⊢
    exact ih single (fun other inside => listed other (List.mem_cons_of_mem _ inside))
      (fun other inside => filled other (List.mem_cons_of_mem _ inside)) room

end Keys

section Save

variable {table : RegionTable μ} {state after : Regions μ}

structure Unmoved (before after : Regions μ) : Prop where
  map : after.map = before.map
  keys : after.keys = before.keys
  activeName : after.activeName = before.activeName
  prefs : after.prefs = before.prefs
  prefsFaults : after.prefsFaults = before.prefsFaults

theorem regionsSave_unmoved (table : RegionTable μ) (state : Regions μ) :
    Unmoved state (regionsSave table state).2 := by
  unfold regionsSave
  dsimp only
  split
  · exact ⟨rfl, rfl, rfl, rfl, rfl⟩
  · split
    · exact ⟨rfl, rfl, rfl, rfl, rfl⟩
    · exact ⟨rfl, rfl, rfl, rfl, rfl⟩

theorem regionsSave_failed (tolerable : Tolerable state.file (state.saveFaults.headD none))
    (failed : regionsSave table state = (false, after)) : settledLive after.file = settledLive state.file := by
  unfold regionsSave at failed
  dsimp only at failed
  generalize state.saveFaults.headD none = fault at *
  split at failed
  · rw [← (Prod.mk.inj failed).2]
  · split at failed
    · rw [← (Prod.mk.inj failed).2]
    · obtain ⟨refused, rfl⟩ := Prod.mk.inj failed
      have late : (fault == some SaveFault.cleanAfter) = false := by
        rw [beq_eq_false_iff_ne]
        intro same
        exact absurd (tolerable _ same).2.1 id
      rw [late, Bool.and_false, Bool.not_false, Bool.and_true] at refused
      cases serialized : serializeMap table state.map fault with
      | mk written raw =>
        rw [serialized] at refused
        dsimp only at refused ⊢
        cases written with
        | false => rw [if_neg Bool.false_ne_true]
        | true =>
          rw [if_pos rfl] at refused ⊢
          cases outcome : regionStoreSaveTransactionalFile state.file raw
              (countPrivateRegionKeys table state.map state.keys) (readPrivateRegionKey table state.map state.keys)
              (fault.bind SaveFault.recoverFault) (fault.bind SaveFault.replaceFault) with
          | mk ok stored =>
            rw [outcome] at refused
            obtain rfl : ok = false := refused
            exact envelopeSave_failed tolerable outcome

theorem regionsSave_done (done : regionsSave table state = (true, after)) :
    validateLegacyRegionFile (table.save state.map) = true ∧
      (privateRegionKeys table state.map state.keys).length ≤ regionMaxPrivateKeys ∧
      KeysFit (table.save state.map) (privateRegionKeys table state.map state.keys) ∧
      after.file = ⟨some (envelope (table.save state.map) (privateRegionKeys table state.map state.keys)), none⟩ := by
  unfold regionsSave at done
  dsimp only at done
  generalize state.saveFaults.headD none = fault at *
  split at done
  · cases done
  · split at done
    · cases done
    · obtain ⟨accepted, rfl⟩ := Prod.mk.inj done
      have both := Bool.and_eq_true_iff.mp accepted
      have written : serializeMap table state.map fault = (true, some (table.save state.map)) := by
        unfold serializeMap
        split
        · have refused := both.1
          simp [serializeMap] at refused
        · rfl
      rw [written] at both ⊢
      dsimp only at both ⊢
      rw [if_pos rfl] at both ⊢
      cases outcome : regionStoreSaveTransactionalFile state.file (some (table.save state.map))
          (countPrivateRegionKeys table state.map state.keys) (readPrivateRegionKey table state.map state.keys)
          (fault.bind SaveFault.recoverFault) (fault.bind SaveFault.replaceFault) with
      | mk ok stored =>
        rw [outcome] at both
        obtain rfl : ok = true := both.1
        exact envelopeSave_done outcome

end Save

section Reboot

variable {table : RegionTable μ} {state after : Regions μ}

/-- The module as a reboot's `regionsLoad` sets it up from what is stored. -/
def reboot (table : RegionTable μ) (state : Regions μ) : Bool × Regions μ :=
  regionsLoad table true
    { map := table.fresh, keys := [], dirty := false, activeName := [], activeScope := none, file := state.file
      raw := state.raw, prefs := state.prefs, saveFaults := [], prefsFaults := [] }

theorem recover_eq_settled (file : AtomicFile) :
    (atomicFileRecover file validateAnyCurrentRegionFile none).2 = ⟨settledLive file, none⟩ :=
  AtomicFile.ext (recover_live file) (recover_settles file)

theorem regionStorePrepareLoad_congr {file other : AtomicFile} (same : settledLive file = settledLive other) :
    regionStorePrepareLoad file = regionStorePrepareLoad other := by
  unfold regionStorePrepareLoad
  rw [recover_eq_settled, recover_eq_settled, same]

theorem prefsSet_frame (state : Regions μ) (prefs : RegionPrefs) :
    (prefsSet state prefs).2.map = state.map ∧ (prefsSet state prefs).2.keys = state.keys := by
  unfold prefsSet
  split <;> exact ⟨rfl, rfl⟩

theorem upgradeRegions_frame (table : RegionTable μ) (state : Regions μ) (transactional : Bool) :
    (upgradeRegions table state transactional).2.map = state.map ∧
      (upgradeRegions table state transactional).2.keys = state.keys := by
  unfold upgradeRegions
  have unmoved := regionsSave_unmoved table state
  split
  · exact ⟨rfl, rfl⟩
  · generalize regionsSave table state = outcome at *
    obtain ⟨saved, after⟩ := outcome
    cases saved with
    | true => exact ⟨unmoved.map, unmoved.keys⟩
    | false => exact ⟨unmoved.map, unmoved.keys⟩

theorem adoptRegions_frame (table : RegionTable μ) (state : Regions μ) (transactional : Bool) :
    (adoptRegions table state transactional).map =
        (adoptedState table state (checkedPrefs state.prefs).1 transactional).map ∧
      (adoptRegions table state transactional).keys =
        (adoptedState table state (checkedPrefs state.prefs).1 transactional).keys := by
  unfold adoptRegions
  dsimp only
  have upgraded := upgradeRegions_frame table (adoptedState table state (checkedPrefs state.prefs).1 transactional)
    transactional
  split
  · exact ⟨(prefsSet_frame _ _).1.trans upgraded.1, (prefsSet_frame _ _).2.trans upgraded.2⟩
  · exact upgraded

theorem reboot_congr (table : RegionTable μ) {other : Regions μ}
    (file : settledLive state.file = settledLive other.file)
    (prefs : state.prefs = other.prefs) :
    (reboot table state).1 = (reboot table other).1 ∧ (reboot table state).2.map = (reboot table other).2.map ∧
      (reboot table state).2.keys = (reboot table other).2.keys := by
  unfold reboot regionsLoad
  rw [if_neg (by decide), if_neg (by decide)]
  dsimp only
  rw [regionStorePrepareLoad_congr file, prefs]
  generalize regionStorePrepareLoad other.file = prepared
  obtain ⟨format, stored⟩ := prepared
  dsimp only
  split
  · exact ⟨rfl, rfl, rfl⟩
  · rename_i data _
    split
    · exact ⟨rfl, rfl, rfl⟩
    · rename_i map _
      split
      · exact ⟨rfl, rfl, rfl⟩
      · refine ⟨rfl, ?_, ?_⟩
        · rw [(adoptRegions_frame table _ _).1, (adoptRegions_frame table _ _).1]
          rfl
        · rw [(adoptRegions_frame table _ _).2, (adoptRegions_frame table _ _).2]
          rfl

/-- The map of a state has a default region, or none that the preferences would bring back. -/
def ScopeSettled (table : RegionTable μ) (map : μ) (prefs : RegionPrefs) : Prop :=
  table.getDefaultRegion map = none → prefs.activeRegion = [] ∨ regionNameValid prefs.activeRegion = false ∨
    table.findByName map prefs.activeRegion = none

theorem checkedPrefs_active (prefs : RegionPrefs) : (checkedPrefs prefs).1.activeRegion =
    if !prefs.activeRegion.isEmpty && !regionNameValid prefs.activeRegion then [] else prefs.activeRegion := by
  unfold checkedPrefs
  by_cases invalid : (!prefs.activeRegion.isEmpty && !regionNameValid prefs.activeRegion) = true
  · rw [if_pos invalid]
    simp [invalid]
  · rw [if_neg invalid]
    simp only [if_neg invalid]
    split
    · rfl
    · rfl

theorem migratesDefault_of_settled {map : μ} {prefs : RegionPrefs} (settled : ScopeSettled table map prefs) :
    migratesDefault table map (checkedPrefs prefs).1 = false := by
  unfold migratesDefault canonicalRegion
  cases default : table.getDefaultRegion map with
  | some region => rfl
  | none =>
    rw [checkedPrefs_active]
    dsimp only
    rcases settled default with none | invalid | missing
    · simp [none]
    · by_cases empty : prefs.activeRegion = []
      · simp [empty]
      · simp [invalid, empty]
    · split
      · simp
      · simp [missing]

theorem reboot_of_envelope (lawful : table.Lawful) {map : μ} {keys : List RegionKey}
    (accepted : validateLegacyRegionFile (table.save map) = true)
    (bound : (privateRegionKeys table map keys).length ≤ regionMaxPrivateKeys)
    (fit : KeysFit (table.save map) (privateRegionKeys table map keys)) (owned : KeysOwned table map keys)
    (file : state.file = ⟨some (envelope (table.save map) (privateRegionKeys table map keys)), none⟩)
    (settled : ScopeSettled table map state.prefs) :
    (reboot table state).1 = true ∧ (reboot table state).2.map = map ∧
      SameKeys (reboot table state).2.keys keys := by
  have valid := (validate_envelope_iff accepted bound).mpr fit
  have prepared : regionStorePrepareLoad state.file = (.transactional, state.file) := by
    rw [file]
    simp [regionStorePrepareLoad, atomicFileRecover, valid]
  have extracted : regionStoreExtractTransactionalMap state.file = some (table.save map) := by
    rw [file]
    exact extract_envelope accepted bound fit none
  have loaded : storedKeys table map state.file true =
      (((privateRegionKeys table map keys).length : Int), privateRegionKeys table map keys) := by
    rw [storedKeys, if_pos rfl, file, loadKeys_envelope accepted bound fit none, loadInOrder_privateKeys lawful]
    · simp
    · exact privateRegionKeys_single lawful map keys
    · exact fun key member => owned.owned key ((mem_privateRegionKeys owned key).mp member)
    · exact fun key member => owned.filled key ((mem_privateRegionKeys owned key).mp member)
    · exact privateRegionKeys_length lawful owned
  have same : SameKeys (privateRegionKeys table map keys) keys :=
    sameKeys_of_mem (privateRegionKeys_single lawful map keys) owned.single (mem_privateRegionKeys owned)
  unfold reboot regionsLoad
  rw [if_neg (by decide)]
  dsimp only
  rw [prepared]
  dsimp only
  rw [extracted]
  dsimp only
  rw [lawful.load_save]
  dsimp only
  rw [show (RegionStoreFormat.transactional == RegionStoreFormat.transactional) = true from rfl, loaded]
  dsimp only
  rw [if_neg (by omega)]
  dsimp only
  rw [(adoptRegions_frame table _ _).1, (adoptRegions_frame table _ _).2]
  unfold adoptedState
  dsimp only
  rw [migratesDefault_of_settled settled]
  exact ⟨rfl, rfl, same⟩

end Reboot

section Changes

variable {table : RegionTable μ} {map after : μ} {region : RegionEntry} {keys : List RegionKey}

theorem find_listed (lawful : table.Lawful) {name : List UInt8} (valid : regionNameValid name = true)
    (found : table.findByName map name = some region) :
    region ∈ table.regions map ∧ isPrivateName region.name = isPrivateName name := by
  rw [lawful.findByName_eq map name valid] at found
  have same := List.find?_some found
  have listed := List.mem_of_find?_eq_some found
  exact ⟨listed, lawful.same_private _ _ valid (lawful.names_valid map region listed) same⟩

theorem find_none_iff (lawful : table.Lawful) {name : List UInt8} (valid : regionNameValid name = true) :
    table.findByName map name = none ↔ ∀ region ∈ table.regions map, table.sameName name region.name = false := by
  rw [lawful.findByName_eq map name valid, List.find?_eq_none]
  simp only [Bool.not_eq_true]

theorem put_listed (lawful : table.Lawful) {name : List UInt8} {parent : UInt16} (valid : regionNameValid name = true)
    (put : table.putRegion map name parent = some (region, after)) :
    region ∈ table.regions after ∧ isPrivateName region.name = isPrivateName name := by
  rcases lawful.put_cases _ _ _ _ _ valid put with ⟨-, same, -, entries⟩ | ⟨old, found, rfl, entries⟩
  · rw [entries, same]
    exact ⟨List.mem_append_right _ (List.mem_singleton_self region), rfl⟩
  · obtain ⟨listed, marked⟩ := find_listed lawful valid found
    refine ⟨?_, marked⟩
    rw [entries, List.mem_map]
    exact ⟨old, listed, if_pos rfl⟩

theorem put_keeps (lawful : table.Lawful) {name : List UInt8} {parent : UInt16} (valid : regionNameValid name = true)
    (put : table.putRegion map name parent = some (region, after)) {old : RegionEntry}
    (listed : old ∈ table.regions map) :
    ∃ kept ∈ table.regions after, kept.id = old.id ∧ kept.name = old.name := by
  rcases lawful.put_cases _ _ _ _ _ valid put with ⟨-, -, -, entries⟩ | ⟨moved, -, -, entries⟩
  · rw [entries]
    exact ⟨old, List.mem_append_left _ listed, rfl, rfl⟩
  · rw [entries]
    refine ⟨_, List.mem_map_of_mem listed, ?_, ?_⟩
    · split <;> rfl
    · split <;> rfl

theorem put_new (lawful : table.Lawful) {name : List UInt8} {parent : UInt16} (valid : regionNameValid name = true)
    (put : table.putRegion map name parent = some (region, after)) (new : table.findByName map name = none)
    {old : RegionEntry} (listed : old ∈ table.regions map) : old.id ≠ region.id := by
  rcases lawful.put_cases _ _ _ _ _ valid put with ⟨-, -, -, entries⟩ | ⟨moved, found, -, -⟩
  · have distinct := lawful.ids_distinct after
    rw [entries, List.map_append, List.nodup_append] at distinct
    exact distinct.2.2 _ (List.mem_map_of_mem listed) _ (List.mem_singleton_self _)
  · rw [new] at found
    cases found

theorem put_found (lawful : table.Lawful) {name : List UInt8} {parent : UInt16} (valid : regionNameValid name = true)
    (put : table.putRegion map name parent = some (region, after)) {old : RegionEntry}
    (found : table.findByName map name = some old) : region.id = old.id := by
  rcases lawful.put_cases _ _ _ _ _ valid put with ⟨new, -⟩ | ⟨moved, same, rfl, -⟩
  · rw [new] at found
    cases found
  · rw [same] at found
    obtain rfl := Option.some.inj found
    rfl

theorem put_finds (lawful : table.Lawful) {name other : List UInt8} {parent : UInt16}
    (valid : regionNameValid name = true)
    (otherValid : regionNameValid other = true) (put : table.putRegion map name parent = some (region, after))
    (missing : table.findByName map other = none) {found : RegionEntry}
    (finds : table.findByName after other = some found) :
    found = region ∧ region.name = name ∧ table.sameName other name = true := by
  rw [lawful.findByName_eq after other otherValid] at finds
  have absent := (find_none_iff lawful otherValid).mp missing
  have same := List.find?_some finds
  have inside := List.mem_of_find?_eq_some finds
  rcases lawful.put_cases _ _ _ _ _ valid put with ⟨-, named, -, entries⟩ | ⟨moved, -, -, entries⟩
  · rw [entries, List.mem_append] at inside
    rcases inside with old | new
    · rw [absent found old] at same
      cases same
    · obtain rfl := List.mem_singleton.mp new
      exact ⟨rfl, named, named ▸ same⟩
  · rw [entries] at inside
    obtain ⟨old, listed, rfl⟩ := List.mem_map.mp inside
    have kept : table.sameName other old.name = true := by
      split at same <;> exact same
    rw [absent old listed] at kept
    cases kept

theorem put_keeps_private (lawful : table.Lawful) {name : List UInt8} {parent : UInt16}
    (valid : regionNameValid name = true) (put : table.putRegion map name parent = some (region, after)) {id : UInt16}
    (has : HasPrivate table map id) : HasPrivate table after id := by
  obtain ⟨old, listed, rfl, isPrivate⟩ := has
  obtain ⟨kept, inside, same, name⟩ := put_keeps lawful valid put listed
  exact ⟨kept, inside, same, name ▸ isPrivate⟩

theorem flags_keep_private (lawful : table.Lawful) {flagged : UInt16} {flags : UInt8} {id : UInt16}
    (has : HasPrivate table map id) : HasPrivate table (table.setFlags map flagged flags) id := by
  obtain ⟨old, listed, same, isPrivate⟩ := has
  refine ⟨if old.id = flagged then { old with flags := flags } else old, ?_, ?_, ?_⟩
  · rw [lawful.flags_kept]
    exact List.mem_map_of_mem listed
  · split <;> exact same
  · split <;> exact isPrivate

theorem putAllowed_keeps (lawful : table.Lawful) {name : List UInt8} {parent : UInt16}
    (valid : regionNameValid name = true) (put : putAllowed table map name parent = some (region, after)) {id : UInt16}
    (has : HasPrivate table map id) : HasPrivate table after id := by
  unfold putAllowed at put
  split at put
  · cases put
  · rename_i placed next stored
    obtain ⟨-, rfl⟩ := Prod.mk.inj (Option.some.inj put)
    exact flags_keep_private lawful (put_keeps_private lawful valid stored has)

theorem putAllowed_private (lawful : table.Lawful) {name : List UInt8} {parent : UInt16}
    (valid : regionNameValid name = true) (put : putAllowed table map name parent = some (region, after))
    (isPrivate : isPrivateName name = true) : HasPrivate table after region.id := by
  unfold putAllowed at put
  split at put
  · cases put
  · rename_i placed next stored
    obtain ⟨rfl, rfl⟩ := Prod.mk.inj (Option.some.inj put)
    obtain ⟨listed, same⟩ := put_listed lawful valid stored
    exact flags_keep_private lawful ⟨placed, listed, rfl, same.trans isPrivate⟩

/-- The names that `addRegion` and `addPrivateRegion` let through. -/
structure NamesValid (name parentName : List UInt8) : Prop where
  name : regionNameValid name = true
  parent : parentName.isEmpty = false → regionNameValid parentName = true

theorem namesValid_iff {name parentName : List UInt8} : NamesValid name parentName ↔
    ¬ (regionNameValid name = false ∨ (!parentName.isEmpty && !regionNameValid parentName) = true) := by
  rw [not_or, Bool.not_eq_false, Bool.not_eq_true, Bool.and_eq_false_iff, Bool.not_eq_false', Bool.not_eq_false']
  constructor
  · intro valid
    refine ⟨valid.name, ?_⟩
    cases empty : parentName.isEmpty with
    | true => exact Or.inl rfl
    | false => exact Or.inr (valid.parent empty)
  · rintro ⟨name, parent⟩
    refine ⟨name, fun filled => ?_⟩
    rw [filled] at parent
    exact parent.resolve_left Bool.false_ne_true

theorem putParent_cases {parentName : List UInt8} {parentId : UInt16}
    (put : putParent table map parentName = some (parentId, after)) :
    (parentName.isEmpty = true ∧ parentId = 0 ∧ after = map) ∨
    (∃ parent, parentName.isEmpty = false ∧ table.findByName map parentName = some parent ∧ parentId = parent.id ∧
      after = map) ∨
    ∃ parent, parentName.isEmpty = false ∧ table.findByName map parentName = none ∧ parentId = parent.id ∧
      table.putRegion map parentName 0 = some (parent, after) := by
  unfold putParent at put
  split at put
  · rename_i empty
    obtain ⟨rfl, rfl⟩ := Prod.mk.inj (Option.some.inj put)
    exact Or.inl ⟨empty, rfl, rfl⟩
  · rename_i filled
    rw [Bool.not_eq_true] at filled
    split at put
    · rename_i parent found
      obtain ⟨rfl, rfl⟩ := Prod.mk.inj (Option.some.inj put)
      exact Or.inr (Or.inl ⟨parent, filled, found, rfl, rfl⟩)
    · rename_i absent
      split at put
      · cases put
      · rename_i parent next stored
        obtain ⟨rfl, rfl⟩ := Prod.mk.inj (Option.some.inj put)
        exact Or.inr (Or.inr ⟨parent, filled, absent, rfl, stored⟩)

theorem putAllowed_spec {name : List UInt8} {parent : UInt16}
    (put : putAllowed table map name parent = some (region, after)) :
    ∃ placed next, table.putRegion map name parent = some (placed, next) ∧ region = { placed with flags := 0 } ∧
      after = table.setFlags next placed.id 0 := by
  unfold putAllowed at put
  split at put
  · cases put
  · rename_i placed next stored
    obtain ⟨rfl, rfl⟩ := Prod.mk.inj (Option.some.inj put)
    exact ⟨placed, next, stored, rfl, rfl⟩

theorem putWithParent_spec {name parentName : List UInt8}
    (put : putWithParent table map name parentName = some (region, after)) :
    ∃ parentId middle, putParent table map parentName = some (parentId, middle) ∧
      putAllowed table middle name parentId = some (region, after) := by
  unfold putWithParent at put
  split at put
  · cases put
  · rename_i parentId middle placed
    exact ⟨parentId, middle, placed, put⟩

theorem putParent_keeps (lawful : table.Lawful) {parentName : List UInt8} {parentId : UInt16}
    (valid : parentName.isEmpty = false → regionNameValid parentName = true)
    (put : putParent table map parentName = some (parentId, after)) {id : UInt16} (has : HasPrivate table map id) :
    HasPrivate table after id := by
  rcases putParent_cases put with ⟨-, -, rfl⟩ | ⟨parent, -, -, -, rfl⟩ | ⟨parent, filled, -, -, stored⟩
  · exact has
  · exact has
  · exact put_keeps_private lawful (valid filled) stored has

theorem putWithParent_keeps (lawful : table.Lawful) {name parentName : List UInt8} (valid : NamesValid name parentName)
    (put : putWithParent table map name parentName = some (region, after)) {id : UInt16}
    (has : HasPrivate table map id) : HasPrivate table after id := by
  obtain ⟨parentId, middle, placed, allowed⟩ := putWithParent_spec put
  exact putAllowed_keeps lawful valid.name allowed (putParent_keeps lawful valid.parent placed has)

theorem putWithParent_private (lawful : table.Lawful) {name parentName : List UInt8}
    (valid : regionNameValid name = true)
    (put : putWithParent table map name parentName = some (region, after)) (isPrivate : isPrivateName name = true) :
    HasPrivate table after region.id := by
  obtain ⟨parentId, middle, -, allowed⟩ := putWithParent_spec put
  exact putAllowed_private lawful valid allowed isPrivate

theorem putWithParent_fresh (lawful : table.Lawful) {name parentName : List UInt8} (valid : NamesValid name parentName)
    (put : putWithParent table map name parentName = some (region, after)) (new : table.findByName map name = none) :
    ∀ old ∈ table.regions map, old.id ≠ region.id := by
  intro old listed
  obtain ⟨parentId, middle, placing, allowed⟩ := putWithParent_spec put
  obtain ⟨placed, next, stored, rfl, -⟩ := putAllowed_spec allowed
  rcases putParent_cases placing with ⟨-, -, rfl⟩ | ⟨parent, -, -, -, rfl⟩ | ⟨parent, filled, absent, -, parentPut⟩
  · exact put_new lawful valid.name stored new listed
  · exact put_new lawful valid.name stored new listed
  · have parentNew := put_new lawful (valid.parent filled) parentPut absent listed
    cases found : table.findByName middle name with
    | none =>
      obtain ⟨kept, inside, id, -⟩ := put_keeps lawful (valid.parent filled) parentPut listed
      rw [← id]
      exact put_new lawful valid.name stored found inside
    | some existing =>
      obtain ⟨rfl, -⟩ := put_finds lawful (valid.parent filled) valid.name parentPut new found
      rw [← put_found lawful valid.name stored found] at parentNew
      exact parentNew

theorem setDefaultScopeInMemory_keeps (lawful : table.Lawful) {name : List UInt8}
    (changed : setDefaultScopeInMemory table map name = some after) {id : UInt16} (has : HasPrivate table map id) :
    HasPrivate table after id := by
  have same (map : μ) (region : Option RegionEntry) :
      HasPrivate table (table.setDefaultRegion map region) id ↔ HasPrivate table map id := by
    rw [HasPrivate, HasPrivate, lawful.default_kept]
  unfold setDefaultScopeInMemory at changed
  split at changed
  · obtain rfl := Option.some.inj changed
    exact (same _ _).mpr has
  · split at changed
    · cases changed
    · rename_i valid
      rw [Bool.not_eq_false] at valid
      dsimp only at changed
      split at changed
      · cases changed
      · rename_i region next found
        obtain rfl := Option.some.inj changed
        refine (same _ _).mpr (flags_keep_private lawful ?_)
        split at found
        · obtain ⟨-, rfl⟩ := Prod.mk.inj (Option.some.inj found)
          exact has
        · exact put_keeps_private lawful valid found has

theorem dropRegion_regions (lawful : table.Lawful) (dropped : dropRegion table map region = some after) :
    table.regions after = (table.regions map).filter (·.id != region.id) := by
  unfold dropRegion at dropped
  split at dropped
  · cases dropped
  · rename_i rest removed
    obtain rfl := Option.some.inj dropped
    rw [← lawful.remove_rest _ _ _ removed]
    split
    · rw [lawful.default_kept]
      split
      · rw [lawful.home_kept]
      · rfl
    · split
      · rw [lawful.home_kept]
      · rfl

theorem dropRegion_keeps (lawful : table.Lawful) (dropped : dropRegion table map region = some after) {id : UInt16}
    (has : HasPrivate table map id) (other : id ≠ region.id) : HasPrivate table after id := by
  obtain ⟨old, listed, same, isPrivate⟩ := has
  refine ⟨old, ?_, same, isPrivate⟩
  rw [dropRegion_regions lawful dropped]
  exact List.mem_filter.mpr ⟨listed, by simpa [same] using other⟩

theorem saveKeysFor_eq {maxEntries : Nat} {id : UInt16} {added : List (FixedBytes 16)} {saved : List RegionKey}
    (done : saveKeysFor maxEntries keys id added = some saved) :
    id ≠ 0 ∧ saved = keys.filter (·.1 != id) ++ added.map (id, ·) := by
  unfold saveKeysFor at done
  split at done
  · cases done
  · rename_i usable
    dsimp only at done
    split at done
    · cases done
    · exact ⟨fun zero => usable (Or.inl zero), (Option.some.inj done).symm⟩

theorem restoreKeys_eq (owned : KeysOwned table map keys) {id : UInt16} (nonzero : id ≠ 0) {changed : List RegionKey}
    (others : changed.filter (·.1 != id) = keys.filter (·.1 != id)) :
    restoreKeys table changed id (loadKeysFor keys id 4) =
      keys.filter (·.1 != id) ++ (loadKeysFor keys id 4).map (id, ·) := by
  unfold restoreKeys
  by_cases present : ∃ key ∈ keys, key.1 = id
  · obtain ⟨key, member, rfl⟩ := present
    have loaded := loadKeysFor_of_mem owned.single member (show 0 < 4 by decide)
    have fits : (keys.filter (·.1 != key.1)).length + 1 ≤ table.maxTksEntries := by
      have fewer : (keys.filter (·.1 != key.1)).length < keys.length :=
        List.length_filter_lt_length_iff_exists.mpr ⟨key, member, by simp⟩
      have room := owned.room
      omega
    have saved : saveKeysFor table.maxTksEntries changed key.1 [key.2] =
        some (keys.filter (·.1 != key.1) ++ [key.2].map (key.1, ·)) := by
      rw [saveKeysFor, if_neg (by simp [nonzero]; omega)]
      dsimp only
      rw [others, if_neg (by simp; omega)]
    rw [loaded, saved]
    rfl
  · push Not at present
    rw [loadKeysFor_of_absent present, removeKeys, if_neg nonzero, others]
    simp

theorem restoredKeys_owned (owned : KeysOwned table map keys) {id : UInt16} :
    KeysOwned table map (keys.filter (·.1 != id) ++ (loadKeysFor keys id 4).map (id, ·)) ∧
      SameKeys (keys.filter (·.1 != id) ++ (loadKeysFor keys id 4).map (id, ·)) keys := by
  by_cases present : ∃ key ∈ keys, key.1 = id
  · obtain ⟨key, member, rfl⟩ := present
    rw [loadKeysFor_of_mem owned.single member (by decide)]
    have same (other : RegionKey) : other ∈ keys.filter (·.1 != key.1) ++ [key.2].map (key.1, ·) ↔ other ∈ keys := by
      rw [List.mem_append, List.mem_filter, List.map_cons, List.map_nil, List.mem_singleton]
      constructor
      · rintro (⟨listed, -⟩ | rfl)
        · exact listed
        · exact member
      · intro listed
        by_cases equal : other.1 = key.1
        · exact Or.inr (List.inj_on_of_nodup_map owned.single listed member equal)
        · exact Or.inl ⟨listed, by simpa using equal⟩
    have single : ((keys.filter (·.1 != key.1) ++ [key.2].map (key.1, ·)).map Prod.fst).Nodup := by
      rw [List.map_append, List.nodup_append]
      refine ⟨owned.single.sublist (List.filter_sublist.map _), by simp, ?_⟩
      intro first listed second new equal
      obtain ⟨other, inside, rfl⟩ := List.mem_map.mp listed
      have apart := (List.mem_filter.mp inside).2
      simp only [List.map_cons, List.map_nil, List.mem_singleton] at new
      simp [equal, new] at apart
    have length : (keys.filter (·.1 != key.1) ++ [key.2].map (key.1, ·)).length ≤ table.maxTksEntries := by
      have fewer : (keys.filter (·.1 != key.1)).length < keys.length :=
        List.length_filter_lt_length_iff_exists.mpr ⟨key, member, by simp⟩
      have room := owned.room
      rw [List.length_append, List.length_map, List.length_singleton]
      omega
    exact ⟨⟨fun other inside => owned.owned other ((same other).mp inside), single,
      fun other inside => owned.filled other ((same other).mp inside), length⟩,
        sameKeys_of_mem single owned.single same⟩
  · push Not at present
    have all : keys.filter (·.1 != id) = keys := by
      rw [List.filter_eq_self]
      intro key member
      simpa using present key member
    rw [loadKeysFor_of_absent present, all, List.map_nil, List.append_nil]
    exact ⟨owned, fun _ _ => rfl⟩

end Changes

end SigurdOS.Mesh
