import SigurdOS.Bytes.Slots
import SigurdOS.Mesh.RegionOps

namespace SigurdOS.Mesh

open Bytes

/-- The rows of a region map in their order, with the ids of the home and the default region. -/
structure RegionRows where
  rows : List RegionEntry
  homeId : UInt16
  defaultId : UInt16
  nextId : UInt16
  distinct : (rows.map RegionEntry.id).Nodup
  nonzero : ∀ row ∈ rows, row.id ≠ 0
  named : ∀ row ∈ rows, regionNameValid row.name = true
  below : ∀ row ∈ rows, row.id.toNat < nextId.toNat
  started : 0 < nextId.toNat
  ranged : defaultId.toNat < nextId.toNat
  deriving DecidableEq

namespace RegionRows

def empty : RegionRows := ⟨[], 0, 0, 1, by simp, by simp, by simp, by simp, by decide, by decide⟩

def unhashed (name : List UInt8) : List UInt8 := if name.head? = some 35 then name.tail else name

def sameName (name other : List UInt8) : Bool := unhashed name == unhashed other

def findByName (map : RegionRows) (name : List UInt8) : Option RegionEntry :=
  map.rows.find? fun row => sameName name row.name

def findById (map : RegionRows) (id : UInt16) : Option RegionEntry := map.rows.find? (·.id == id)

/-- The rows with some of them changed, but neither their ids nor their names. -/
def update (map : RegionRows) (change : RegionEntry → RegionEntry) (ids : ∀ row, (change row).id = row.id)
    (names : ∀ row, (change row).name = row.name) : RegionRows where
  rows := map.rows.map change
  homeId := map.homeId
  defaultId := map.defaultId
  nextId := map.nextId
  distinct := by
    have same : RegionEntry.id ∘ change = RegionEntry.id := funext ids
    rw [List.map_map, same]
    exact map.distinct
  nonzero := by
    intro row member
    obtain ⟨old, listed, rfl⟩ := List.mem_map.mp member
    rw [ids]
    exact map.nonzero old listed
  named := by
    intro row member
    obtain ⟨old, listed, rfl⟩ := List.mem_map.mp member
    rw [names]
    exact map.named old listed
  below := by
    intro row member
    obtain ⟨old, listed, rfl⟩ := List.mem_map.mp member
    rw [ids]
    exact map.below old listed
  started := map.started
  ranged := map.ranged

def setParent (map : RegionRows) (id parent : UInt16) : RegionRows :=
  map.update (fun row => if row.id = id then { row with parent := parent } else row)
    (fun row => by split <;> rfl) (fun row => by split <;> rfl)

def setFlags (map : RegionRows) (id : UInt16) (flags : UInt8) : RegionRows :=
  map.update (fun row => if row.id = id then { row with flags := flags } else row)
    (fun row => by split <;> rfl) (fun row => by split <;> rfl)

theorem nextId_succ {map : RegionRows} (room : map.nextId.toNat < 65535) :
    (map.nextId + 1).toNat = map.nextId.toNat + 1 := by
  rw [UInt16.toNat_add]
  exact Nat.mod_eq_of_lt (by simpa using by omega)

def append (map : RegionRows) (name : List UInt8) (parent : UInt16) (flags : UInt8)
    (valid : regionNameValid name = true)
    (room : map.nextId.toNat < 65535) : RegionRows where
  rows := map.rows ++ [⟨map.nextId, parent, flags, name⟩]
  homeId := map.homeId
  defaultId := map.defaultId
  nextId := map.nextId + 1
  distinct := by
    rw [List.map_append, List.nodup_append]
    refine ⟨map.distinct, by simp, ?_⟩
    intro first listed second new same
    obtain ⟨row, member, rfl⟩ := List.mem_map.mp listed
    have less := map.below row member
    rw [same, List.mem_singleton.mp new] at less
    exact absurd less (lt_irrefl _)
  nonzero := by
    intro row member
    rcases List.mem_append.mp member with old | new
    · exact map.nonzero row old
    · rw [List.mem_singleton.mp new]
      intro zero
      have started := map.started
      rw [show map.nextId = 0 from zero] at started
      exact absurd started (by decide)
  named := by
    intro row member
    rcases List.mem_append.mp member with old | new
    · exact map.named row old
    · rw [List.mem_singleton.mp new]
      exact valid
  below := by
    intro row member
    rw [nextId_succ room]
    rcases List.mem_append.mp member with old | new
    · exact (map.below row old).trans (Nat.lt_succ_self _)
    · rw [List.mem_singleton.mp new]
      exact Nat.lt_succ_self _
  started := by
    rw [nextId_succ room]
    exact Nat.succ_pos _
  ranged := by
    rw [nextId_succ room]
    exact map.ranged.trans (Nat.lt_succ_self _)

def denyFlood : UInt8 := 1

def maxRegions : Nat := 32

def putRegion (map : RegionRows) (name : List UInt8) (parent : UInt16) : Option (RegionEntry × RegionRows) :=
  if valid : regionNameValid name = true then
    match map.findByName name with
    | some old => if old.id = parent then none else some ({ old with parent := parent }, map.setParent old.id parent)
    | none =>
      if room : map.nextId.toNat < 65535 then
        if map.rows.length < maxRegions then
          some (⟨map.nextId, parent, denyFlood, name⟩, map.append name parent denyFlood valid room)
        else none
      else none
  else none

def removeRegion (map : RegionRows) (region : RegionEntry) : Option RegionRows :=
  if map.rows.any (·.parent == region.id) || !map.rows.any (·.id == region.id) then none
  else
    some { map with
      rows := map.rows.filter (·.id != region.id)
      distinct := map.distinct.sublist (List.filter_sublist.map _)
      nonzero := fun row member => map.nonzero row (List.mem_of_mem_filter member)
      named := fun row member => map.named row (List.mem_of_mem_filter member)
      below := fun row member => map.below row (List.mem_of_mem_filter member) }

def roleId (map : RegionRows) (region : Option RegionEntry) : UInt16 :=
  ((region.bind fun region => map.findById region.id).map RegionEntry.id).getD 0

theorem roleId_lt (map : RegionRows) (region : Option RegionEntry) : (map.roleId region).toNat < map.nextId.toNat := by
  unfold roleId
  cases found : region.bind fun region => map.findById region.id with
  | none => exact map.started
  | some row =>
    obtain ⟨asked, -, listed⟩ := Option.bind_eq_some_iff.mp found
    exact map.below row (List.mem_of_find?_eq_some listed)

def setHomeRegion (map : RegionRows) (region : Option RegionEntry) : RegionRows :=
  { map with homeId := map.roleId region }

def setDefaultRegion (map : RegionRows) (region : Option RegionEntry) : RegionRows :=
  { map with defaultId := map.roleId region, ranged := map.roleId_lt region }

def encodeRow (row : RegionEntry) : List UInt8 :=
  leBytes 2 row.id.toNat ++ leBytes 2 row.parent.toNat ++
    (row.name ++ List.replicate (31 - row.name.length) 0) ++ [row.flags] ++ List.replicate 128 0

def save (map : RegionRows) : List UInt8 :=
  [0, 0, 0] ++ leBytes 2 map.defaultId.toNat ++ leBytes 2 map.homeId.toNat ++ [0] ++ leBytes 2 map.nextId.toNat ++
    map.rows.flatMap encodeRow

def decodeRow (raw : List UInt8) : RegionEntry where
  id := UInt16.ofNat (regionReadU16 raw)
  parent := UInt16.ofNat (regionReadU16 (raw.drop 2))
  flags := (raw.drop 35).headD 0
  name := terminated ((raw.drop 4).take 31)

def load (data : List UInt8) : Bool × RegionRows :=
  let rows := (slots regionLegacyRecordSize ((data.length - regionLegacyHeaderSize) / regionLegacyRecordSize)
    (data.drop regionLegacyHeaderSize)).map decodeRow
  let defaultId := UInt16.ofNat (regionReadU16 (data.drop 3))
  let nextId := UInt16.ofNat (regionReadU16 (data.drop 8))
  if sound : (rows.map RegionEntry.id).Nodup ∧ (∀ row ∈ rows, row.id ≠ 0) ∧
      (∀ row ∈ rows, regionNameValid row.name = true) ∧ (∀ row ∈ rows, row.id.toNat < nextId.toNat) ∧
      0 < nextId.toNat ∧ defaultId.toNat < nextId.toNat then
    (true, ⟨rows, UInt16.ofNat (regionReadU16 (data.drop 5)), defaultId, nextId, sound.1, sound.2.1, sound.2.2.1,
      sound.2.2.2.1, sound.2.2.2.2.1, sound.2.2.2.2.2⟩)
  else (false, empty)

theorem name_fits {name : List UInt8} (valid : regionNameValid name = true) : name.length ≤ 30 := by
  unfold regionNameValid at valid
  simp only [Bool.and_eq_true, decide_eq_true_eq] at valid
  exact valid.1.2

theorem bodyChar_nonzero {char : UInt8} (body : regionNameBodyChar char = true) : char ≠ 0 := by
  rintro rfl
  exact absurd body (by decide)

theorem name_nonzero {name : List UInt8} (valid : regionNameValid name = true) : ∀ byte ∈ name, byte ≠ 0 := by
  unfold regionNameValid at valid
  simp only [Bool.and_eq_true, List.all_eq_true] at valid
  have body := valid.2
  intro byte member
  split at body
  · rename_i marked
    cases name with
    | nil => cases member
    | cons mark rest =>
      rcases List.mem_cons.mp member with rfl | later
      · rcases marked with same | same
        · rw [Option.some.inj same]
          decide
        · rw [Option.some.inj same]
          decide
      · exact bodyChar_nonzero (body byte later)
  · exact bodyChar_nonzero (body byte member)

theorem length_encodeRow {row : RegionEntry} (valid : regionNameValid row.name = true) :
    (encodeRow row).length = regionLegacyRecordSize := by
  have fits := name_fits valid
  rw [encodeRow]
  simp only [List.length_append, length_leBytes, List.length_replicate, List.length_singleton]
  rw [regionLegacyRecordSize]
  omega

theorem readU16_leBytes (value : UInt16) (rest : List UInt8) :
    UInt16.ofNat (regionReadU16 (leBytes 2 value.toNat ++ rest)) = value := by
  rw [regionReadU16, List.take_left' (length_leBytes 2 _), leNumber_leBytes_of_lt value.toNat_lt]
  exact UInt16.ofNat_toNat

theorem decodeRow_encodeRow {row : RegionEntry} (valid : regionNameValid row.name = true) :
    decodeRow (encodeRow row) = row := by
  have fits := name_fits valid
  have width : (row.name ++ List.replicate (31 - row.name.length) 0).length = 31 := by
    rw [List.length_append, List.length_replicate]
    omega
  have padded : ∃ more, List.replicate (31 - row.name.length) (0 : UInt8) = 0 :: more := by
    rw [show 31 - row.name.length = (30 - row.name.length) + 1 from by omega, List.replicate_succ]
    exact ⟨_, rfl⟩
  have skipped (count : Nat) (front : List UInt8) (rest : List UInt8) (length : front.length = count) :
      (front ++ rest).drop count = rest := List.drop_left' length
  rcases row with ⟨id, parent, flags, name⟩
  unfold decodeRow encodeRow
  dsimp only at *
  simp only [List.append_assoc]
  rw [readU16_leBytes, skipped 2 _ _ (length_leBytes 2 _), readU16_leBytes]
  congr 1
  · rw [← List.append_assoc, ← List.append_assoc, ← List.append_assoc, skipped 35]
    · rfl
    · rw [List.append_assoc, List.length_append, List.length_append, length_leBytes, length_leBytes, width]
  · rw [← List.append_assoc, skipped 4 _ _ (by rw [List.length_append, length_leBytes, length_leBytes]),
      ← List.append_assoc, List.take_left' width]
    obtain ⟨more, zeros⟩ := padded
    rw [zeros, terminated_append_zero (name_nonzero valid)]

theorem load_save (map : RegionRows) : load map.save = (true, map) := by
  have width : ∀ row ∈ map.rows, (encodeRow row).length = regionLegacyRecordSize :=
    fun row member => length_encodeRow (map.named row member)
  have body : map.save.drop regionLegacyHeaderSize = map.rows.flatMap encodeRow := by
    apply List.drop_left'
    simp only [List.length_append, length_leBytes]
    rfl
  have count : (map.save.length - regionLegacyHeaderSize) / regionLegacyRecordSize = map.rows.length := by
    rw [← List.length_drop, body, length_flatMap_of_width encodeRow map.rows width]
    exact Nat.mul_div_cancel_left _ (by decide)
  have rows : (slots regionLegacyRecordSize ((map.save.length - regionLegacyHeaderSize) / regionLegacyRecordSize)
      (map.save.drop regionLegacyHeaderSize)).map decodeRow = map.rows := by
    rw [count, body]
    have cut := slots_flatMap encodeRow map.rows [] width
    rw [List.append_nil] at cut
    rw [cut, List.map_map]
    calc map.rows.map (decodeRow ∘ encodeRow) = map.rows.map id :=
          List.map_congr_left fun row member => decodeRow_encodeRow (map.named row member)
      _ = map.rows := List.map_id _
  have field (count : Nat) (front rest : List UInt8) (value : UInt16) (length : front.length = count)
      (same : map.save = front ++ (leBytes 2 value.toNat ++ rest)) :
      UInt16.ofNat (regionReadU16 (map.save.drop count)) = value := by
    rw [same, List.drop_left' length, readU16_leBytes]
  have default : UInt16.ofNat (regionReadU16 (map.save.drop 3)) = map.defaultId :=
    field 3 [0, 0, 0] (leBytes 2 map.homeId.toNat ++ [0] ++ leBytes 2 map.nextId.toNat ++
      map.rows.flatMap encodeRow) _ rfl
      (by simp only [save, List.append_assoc])
  have home : UInt16.ofNat (regionReadU16 (map.save.drop 5)) = map.homeId :=
    field 5 ([0, 0, 0] ++ leBytes 2 map.defaultId.toNat) ([0] ++ leBytes 2 map.nextId.toNat ++
      map.rows.flatMap encodeRow) _
      (by simp) (by simp only [save, List.append_assoc])
  have next : UInt16.ofNat (regionReadU16 (map.save.drop 8)) = map.nextId :=
    field 8 ([0, 0, 0] ++ leBytes 2 map.defaultId.toNat ++ leBytes 2 map.homeId.toNat ++ [0])
      (map.rows.flatMap encodeRow) _
      (by simp) (by simp only [save, List.append_assoc])
  unfold load
  simp only [rows, default, home, next]
  rw [dif_pos ⟨map.distinct, map.nonzero, map.named, map.below, map.started, map.ranged⟩]

theorem findById_of_mem {map : RegionRows} {row : RegionEntry} (member : row ∈ map.rows) :
    map.findById row.id = some row := by
  rw [findById, List.find?_eq_some_iff_getElem]
  obtain ⟨index, inside, there⟩ := List.getElem_of_mem member
  refine ⟨by simp, index, inside, there, fun earlier before => ?_⟩
  rw [Bool.not_eq_true', beq_eq_false_iff_ne]
  intro equal
  have apart := List.pairwise_iff_getElem.mp (List.pairwise_map.mp map.distinct) earlier index
    (before.trans inside) inside before
  exact apart (equal.trans (congrArg RegionEntry.id there.symm))

theorem findById_ids {map other : RegionRows} {id : UInt16}
    (same : id ∈ map.rows.map RegionEntry.id ↔ id ∈ other.rows.map RegionEntry.id) :
    (map.findById id).map RegionEntry.id = (other.findById id).map RegionEntry.id := by
  have shape (table : RegionRows) : (table.findById id).map RegionEntry.id =
      if id ∈ table.rows.map RegionEntry.id then some id else none := by
    split
    · rename_i member
      obtain ⟨row, listed, rfl⟩ := List.mem_map.mp member
      rw [findById_of_mem listed]
      rfl
    · rename_i missing
      rw [Option.map_eq_none_iff, findById, List.find?_eq_none]
      intro row listed equal
      exact missing (List.mem_map.mpr ⟨row, listed, by simpa using equal⟩)
  rw [shape, shape]
  simp only [same]

theorem ids_update (map : RegionRows) (change : RegionEntry → RegionEntry) (ids : ∀ row, (change row).id = row.id)
    (names : ∀ row, (change row).name = row.name) :
    (map.update change ids names).rows.map RegionEntry.id = map.rows.map RegionEntry.id := by
  have same : RegionEntry.id ∘ change = RegionEntry.id := funext ids
  change (map.rows.map change).map RegionEntry.id = _
  rw [List.map_map, same]

theorem removeRegion_rows {map after : RegionRows} {region : RegionEntry}
    (removed : map.removeRegion region = some after) :
    after.rows = map.rows.filter (·.id != region.id) ∧ after.defaultId = map.defaultId ∧ after.homeId = map.homeId := by
  unfold removeRegion at removed
  split at removed
  · cases removed
  · obtain rfl := Option.some.inj removed
    exact ⟨rfl, rfl, rfl⟩

theorem removeRegion_role {map after : RegionRows} {region : RegionEntry}
    (removed : map.removeRegion region = some after)
    {id : UInt16} (other : map.findById id ≠ some region) (listed : region ∈ map.rows) :
    after.findById id = map.findById id := by
  have apart : id ≠ region.id := by
    rintro rfl
    exact other (findById_of_mem listed)
  unfold findById
  rw [(removeRegion_rows removed).1, List.find?_filter]
  congr 1
  funext row
  by_cases same : row.id = id
  · simp [same, apart]
  · simp [same]

theorem unhashed_private {name : List UInt8} (valid : regionNameValid name = true) :
    isPrivateName (unhashed name) = isPrivateName name := by
  unfold unhashed
  split
  · rename_i hashed
    cases name with
    | nil => rfl
    | cons mark rest =>
      obtain rfl := Option.some.inj hashed
      unfold regionNameValid at valid
      simp only [List.head?_cons, true_or, if_true, List.tail_cons, Bool.and_eq_true, List.all_eq_true] at valid
      cases rest with
      | nil => rfl
      | cons first others =>
        have body := valid.2 first List.mem_cons_self
        rw [isPrivateName, isPrivateName, List.tail_cons, List.head?_cons, List.head?_cons]
        cases dollar : some first == some (36 : UInt8) with
        | false => rfl
        | true =>
          have same : first = 36 := by simpa using dollar
          rw [same] at body
          exact absurd body (by decide)
  · rfl

end RegionRows

def orderedTable (transportKey : RegionEntry → FixedBytes 16) : RegionTable RegionRows where
  fresh := .empty
  sameName := RegionRows.sameName
  regions := RegionRows.rows
  findByName := RegionRows.findByName
  findById := RegionRows.findById
  putRegion := RegionRows.putRegion
  setFlags := RegionRows.setFlags
  removeRegion := RegionRows.removeRegion
  getHomeRegion := fun map => map.findById map.homeId
  setHomeRegion := RegionRows.setHomeRegion
  getDefaultRegion := fun map => map.findById map.defaultId
  setDefaultRegion := RegionRows.setDefaultRegion
  getTransportKeysFor := fun _ region => [transportKey region]
  save := RegionRows.save
  load := RegionRows.load
  regionDenyFlood := RegionRows.denyFlood
  maxTksEntries := 16

theorem orderedTable_lawful (transportKey : RegionEntry → FixedBytes 16) : (orderedTable transportKey).Lawful where
  load_save := RegionRows.load_save
  ids_distinct := RegionRows.distinct
  ids_nonzero := RegionRows.nonzero
  names_valid := RegionRows.named
  same_refl := fun name _ => beq_self_eq_true _
  same_private := by
    intro name other valid otherValid same
    have equal : RegionRows.unhashed name = RegionRows.unhashed other :=
      by simpa [orderedTable, RegionRows.sameName] using same
    rw [← RegionRows.unhashed_private valid, ← RegionRows.unhashed_private otherValid, equal]
  findById_eq := fun _ _ _ => rfl
  findByName_eq := fun _ _ _ => rfl
  put_cases := by
    intro map name parent region after valid put
    change RegionRows.putRegion map name parent = _ at put
    unfold RegionRows.putRegion at put
    rw [dif_pos valid] at put
    split at put
    · rename_i old found
      split at put
      · cases put
      · obtain ⟨rfl, rfl⟩ := Prod.mk.inj (Option.some.inj put)
        exact Or.inr ⟨old, found, rfl, rfl⟩
    · rename_i missing
      split at put
      · split at put
        · obtain ⟨rfl, rfl⟩ := Prod.mk.inj (Option.some.inj put)
          exact Or.inl ⟨missing, rfl, rfl, rfl⟩
        · cases put
      · cases put
  put_default := by
    intro map name parent region after put
    change RegionRows.putRegion map name parent = _ at put
    unfold RegionRows.putRegion at put
    split at put
    · split at put
      · split at put
        · cases put
        · obtain ⟨-, rfl⟩ := Prod.mk.inj (Option.some.inj put)
          apply RegionRows.findById_ids
          rw [RegionRows.setParent, RegionRows.ids_update]
      · split at put
        · split at put
          · obtain ⟨-, rfl⟩ := Prod.mk.inj (Option.some.inj put)
            apply RegionRows.findById_ids
            have apart : map.defaultId ≠ map.nextId := fun same => absurd map.ranged (by rw [same]; exact lt_irrefl _)
            simp [RegionRows.append, apart]
          · cases put
        · cases put
    · cases put
  flags_kept := fun _ _ _ => rfl
  flags_default := by
    intro map id flags
    apply RegionRows.findById_ids
    change map.defaultId ∈ (map.setFlags id flags).rows.map RegionEntry.id ↔ _
    rw [RegionRows.setFlags, RegionRows.ids_update]
    rfl
  remove_rest := fun _ _ _ removed => (RegionRows.removeRegion_rows removed).1
  remove_default := by
    intro map region after listed removed other
    change after.findById after.defaultId = map.findById map.defaultId
    rw [(RegionRows.removeRegion_rows removed).2.1]
    exact RegionRows.removeRegion_role removed other listed
  home_kept := fun _ _ => rfl
  home_default := fun _ _ => rfl
  default_listed := fun _ _ found => List.mem_of_find?_eq_some found
  default_kept := fun _ _ => rfl
  default_set := by
    intro map region member
    change map.findById (map.roleId (some region)) = some region
    rw [RegionRows.roleId, Option.bind_some, RegionRows.findById_of_mem member]
    exact RegionRows.findById_of_mem member

end SigurdOS.Mesh
