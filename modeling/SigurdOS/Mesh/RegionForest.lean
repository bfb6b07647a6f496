import SigurdOS.Bytes.Slots
import SigurdOS.Library.BoundedWalk
import SigurdOS.Mesh.RegionEnvelope

namespace SigurdOS.Mesh

open Bytes BoundedWalk

section Names

/-- The name field: a name, its terminator within the first 31 bytes, and anything behind it. -/
def NamesRegion (record : List UInt8) : Prop :=
  ∃ name rest, record.drop 4 = name ++ 0 :: rest ∧ name ≠ [] ∧ name.length < 31 ∧ (∀ byte ∈ name, byte ≠ 0) ∧
    regionNameValid name = true

theorem namesRegion_iff (record : List UInt8) :
    NamesRegion record ↔ 0 ∈ (record.drop 4).take 31 ∧ (record.drop 4).head? ≠ some 0 ∧
      regionNameValid (terminated (record.drop 4)) = true := by
  constructor
  · rintro ⟨name, rest, field, filled, short, nonzero, valid⟩
    rw [field]
    refine ⟨?_, ?_, ?_⟩
    · obtain ⟨more, room⟩ : ∃ more, 31 - name.length = more + 1 := ⟨31 - name.length - 1, by omega⟩
      rw [List.take_append, room, List.take_succ_cons]
      exact List.mem_append_right _ List.mem_cons_self
    · cases name with
      | nil => exact absurd rfl filled
      | cons first name =>
        intro zero
        exact nonzero first List.mem_cons_self (Option.some.inj zero)
    · rw [terminated_append_zero nonzero]
      exact valid
  · rintro ⟨ended, first, valid⟩
    obtain ⟨name, behind, front, fresh⟩ := List.eq_append_cons_of_mem ended
    have field : record.drop 4 = name ++ 0 :: (behind ++ (record.drop 4).drop 31) := by
      have whole := List.take_append_drop 31 (record.drop 4)
      rw [front, List.append_assoc, List.cons_append] at whole
      exact whole.symm
    have nonzero : ∀ byte ∈ name, byte ≠ 0 := by
      rintro byte member rfl
      exact fresh member
    rw [field, terminated_append_zero nonzero] at valid
    refine ⟨name, _, field, ?_, ?_, nonzero, valid⟩
    · rintro rfl
      rw [field] at first
      exact first rfl
    · have length := congrArg List.length front
      rw [List.length_append, List.length_cons, List.length_take] at length
      omega

end Names

section Records

theorem readRegionRecords_flatten_iff {raw : List (List UInt8)}
    (width : ∀ record ∈ raw, record.length = regionLegacyRecordSize) (rest : List UInt8)
    (seen records : List RegionRecord) (distinct : (seen.map RegionRecord.id).Nodup) :
    readRegionRecords raw.length (raw.flatten ++ rest) seen = some records ↔
      records = seen ++ raw.map parseRegionRecord ∧
      (∀ record ∈ raw, regionReadU16 record ≠ 0 ∧ NamesRegion record) ∧
      (seen.map RegionRecord.id ++ raw.map regionReadU16).Nodup := by
  induction raw generalizing seen with
  | nil => simp [readRegionRecords, distinct, eq_comm]
  | cons record raw ih =>
    have head : record.length = regionLegacyRecordSize := width record List.mem_cons_self
    have tail := ih (fun other member => width other (List.mem_cons_of_mem _ member))
    rw [List.length_cons, readRegionRecords, List.flatten_cons, List.append_assoc, readBytes_append head]
    dsimp only
    have id : (parseRegionRecord record).id = regionReadU16 record := rfl
    have named := namesRegion_iff record
    rw [List.forall_mem_cons, List.map_cons, List.map_cons, id]
    split
    · rename_i refused
      refine iff_of_false (by simp) ?_
      rintro ⟨-, ⟨⟨nonzero, names⟩, -⟩, -⟩
      obtain ⟨ended, first, _⟩ := named.mp names
      rcases refused with zero | unended | empty
      · exact absurd zero nonzero
      · exact absurd ended unended
      · exact absurd empty first
    · rename_i shaped
      rw [not_or, not_or, not_not] at shaped
      split
      · rename_i invalid
        refine iff_of_false (by simp) ?_
        rintro ⟨-, ⟨⟨-, names⟩, -⟩, -⟩
        rw [(named.mp names).2.2] at invalid
        cases invalid
      · rename_i valid
        have names := named.mpr ⟨shaped.2.1, shaped.2.2, by simpa using valid⟩
        split
        · rename_i repeated
          refine iff_of_false (by simp) ?_
          rintro ⟨-, -, nodup⟩
          rw [List.any_eq_true] at repeated
          obtain ⟨earlier, member, same⟩ := repeated
          have listed : regionReadU16 record ∈ seen.map RegionRecord.id :=
            List.mem_map.mpr ⟨earlier, member, by simpa using same⟩
          exact absurd rfl (List.nodup_append.mp nodup |>.2.2 _ listed _ List.mem_cons_self)
        · rename_i fresh
          have unlisted : regionReadU16 record ∉ seen.map RegionRecord.id := by
            intro listed
            obtain ⟨earlier, member, same⟩ := List.mem_map.mp listed
            exact fresh (List.any_eq_true.mpr ⟨earlier, member, by simpa using same⟩)
          have grown : ((seen ++ [parseRegionRecord record]).map RegionRecord.id).Nodup := by
            rw [List.map_append, List.map_singleton, id, List.nodup_append]
            refine ⟨distinct, List.nodup_singleton _, ?_⟩
            rintro first listed second single rfl
            rw [List.mem_singleton.mp single] at listed
            exact unlisted listed
          rw [tail (seen ++ [parseRegionRecord record]) grown, List.map_append, List.map_singleton, id,
            List.append_assoc, List.singleton_append, List.append_assoc, List.singleton_append]
          constructor
          · rintro ⟨same, good, nodup⟩
            exact ⟨same, ⟨⟨shaped.1, names⟩, good⟩, nodup⟩
          · rintro ⟨same, ⟨-, good⟩, nodup⟩
            exact ⟨same, good, nodup⟩

theorem readRegionRecords_enough {count : Nat} {stream : List UInt8} {seen records : List RegionRecord}
    (read : readRegionRecords count stream seen = some records) : count * regionLegacyRecordSize ≤ stream.length := by
  induction count generalizing stream seen with
  | zero => omega
  | succ count ih =>
    rw [readRegionRecords] at read
    unfold readBytes at read
    split at read
    · cases read
    · rename_i taken
      split at taken
      · rename_i enough
        obtain ⟨rfl, rfl⟩ := Prod.mk.inj (Option.some.inj taken)
        dsimp only at read
        split at read
        · cases read
        · split at read
          · cases read
          · split at read
            · cases read
            · have behind := ih read
              rw [List.length_drop] at behind
              rw [Nat.succ_mul]
              omega
      · cases taken

end Records

section Walks

/-- `child` and `parent` are the ids of one record of the map. -/
def ParentOf (raw : List (List UInt8)) (child parent : Nat) : Prop :=
  ∃ record ∈ raw, regionReadU16 record = child ∧ regionReadU16 (record.drop 2) = parent

def parentIn (records : List RegionRecord) (id : Nat) : Option Nat :=
  (records.find? (·.id == id)).map RegionRecord.parent

theorem reachesRoot_eq (records : List RegionRecord) (depth cursor : Nat) :
    reachesRoot records depth cursor = reachesWithin (parentIn records) 0 depth cursor := by
  induction depth generalizing cursor with
  | zero => rfl
  | succ depth ih =>
    rw [reachesRoot, reachesWithin, parentIn]
    split
    · rfl
    · cases records.find? (·.id == cursor) with
      | none => rfl
      | some record => exact ih record.parent

variable {raw : List (List UInt8)}

theorem parentIn_map_iff (distinct : (raw.map regionReadU16).Nodup) (child parent : Nat) :
    parentIn (raw.map parseRegionRecord) child = some parent ↔ ParentOf raw child parent := by
  unfold parentIn
  rw [Option.map_eq_some_iff]
  constructor
  · rintro ⟨found, first, rfl⟩
    obtain ⟨record, member, rfl⟩ := List.mem_map.mp (List.mem_of_find?_eq_some first)
    exact ⟨record, member, by simpa [parseRegionRecord] using List.find?_some first, rfl⟩
  · rintro ⟨record, member, rfl, rfl⟩
    cases found : (raw.map parseRegionRecord).find? (·.id == regionReadU16 record) with
    | none =>
      have missed := List.find?_eq_none.mp found _ (List.mem_map_of_mem member)
      exact absurd (beq_self_eq_true (regionReadU16 record)) missed
    | some entry =>
      obtain ⟨other, listed, rfl⟩ := List.mem_map.mp (List.mem_of_find?_eq_some found)
      have same : regionReadU16 other = regionReadU16 record := by simpa [parseRegionRecord] using List.find?_some found
      obtain rfl := List.inj_on_of_nodup_map distinct listed member same
      exact ⟨_, rfl, rfl⟩

theorem leads_parentIn (distinct : (raw.map regionReadU16).Nodup) :
    Leads (parentIn (raw.map parseRegionRecord)) = ParentOf raw := by
  funext child parent
  exact propext (parentIn_map_iff distinct child parent)

theorem parentIn_zero (distinct : (raw.map regionReadU16).Nodup) (nonzero : ∀ record ∈ raw, regionReadU16 record ≠ 0) :
    parentIn (raw.map parseRegionRecord) 0 = none := by
  cases parent : parentIn (raw.map parseRegionRecord) 0 with
  | none => rfl
  | some id =>
    obtain ⟨record, member, zero, -⟩ := (parentIn_map_iff distinct 0 id).mp parent
    exact absurd zero (nonzero record member)

theorem reachesRoot_iff (distinct : (raw.map regionReadU16).Nodup) (nonzero : ∀ record ∈ raw, regionReadU16 record ≠ 0)
    (cursor : Nat) :
    reachesRoot (raw.map parseRegionRecord) raw.length cursor = true ↔
      Relation.ReflTransGen (ParentOf raw) cursor 0 := by
  have inside : ∀ id, (parentIn (raw.map parseRegionRecord) id).isSome → id ∈ raw.map regionReadU16 := by
    intro id known
    obtain ⟨parent, found⟩ := Option.isSome_iff_exists.mp known
    obtain ⟨record, member, rfl, -⟩ := (parentIn_map_iff distinct id parent).mp found
    exact List.mem_map_of_mem member
  have bounded := reachesWithin_length_iff (parentIn_zero distinct nonzero) inside cursor
  rw [List.length_map, leads_parentIn distinct] at bounded
  rw [reachesRoot_eq]
  exact bounded

theorem parentOf_acyclic (distinct : (raw.map regionReadU16).Nodup) (nonzero : ∀ record ∈ raw, regionReadU16 record ≠ 0)
    {cursor : Nat} (rooted : Relation.ReflTransGen (ParentOf raw) cursor 0) :
    ¬ Relation.TransGen (ParentOf raw) cursor cursor := by
  rw [← leads_parentIn distinct] at rooted ⊢
  exact acyclic_of_reaches (parentIn_zero distinct nonzero) rooted

end Walks

section Maps

/-- A header and records that form a forest below the wildcard. -/
structure RegionForest (magic header : List UInt8) (raw : List (List UInt8)) : Prop where
  header_size : header.length = 10
  magic_eq : header.take 3 = magic
  few : raw.length ≤ 32
  record_size : ∀ record ∈ raw, record.length = 164
  nonzero : ∀ record ∈ raw, regionReadU16 record ≠ 0
  distinct : (raw.map regionReadU16).Nodup
  named : ∀ record ∈ raw, NamesRegion record
  next_nonzero : regionReadU16 (header.drop 8) ≠ 0
  next_above : ∀ record ∈ raw, regionReadU16 record < regionReadU16 (header.drop 8)
  default_present : regionReadU16 (header.drop 3) = 0 ∨ regionReadU16 (header.drop 3) ∈ raw.map regionReadU16
  home_present : regionReadU16 (header.drop 5) = 0 ∨ regionReadU16 (header.drop 5) ∈ raw.map regionReadU16
  rooted : ∀ record ∈ raw, Relation.ReflTransGen (ParentOf raw) (regionReadU16 record) 0

def WellFormedRegionMap (magic map : List UInt8) : Prop :=
  ∃ header raw, map = header ++ raw.flatten ∧ RegionForest magic header raw

theorem length_flatten_of_width {size : Nat} {raw : List (List UInt8)} (width : ∀ record ∈ raw, record.length = size) :
    raw.flatten.length = size * raw.length := by
  have total := length_flatMap_of_width id raw width
  rwa [List.flatMap_id] at total

theorem exists_layout {map : List UInt8} {count : Nat}
    (size : map.length = regionLegacyHeaderSize + regionLegacyRecordSize * count) :
    ∃ (header : List UInt8) (raw : List (List UInt8)), map = header ++ raw.flatten ∧
      header.length = regionLegacyHeaderSize ∧ raw.length = count ∧
      ∀ record ∈ raw, record.length = regionLegacyRecordSize := by
  have behind : (map.drop regionLegacyHeaderSize).length = regionLegacyRecordSize * count := by
    rw [List.length_drop]
    omega
  refine ⟨map.take regionLegacyHeaderSize, slots regionLegacyRecordSize count (map.drop regionLegacyHeaderSize),
    ?_, ?_, length_slots _ _ _, slots_length_of_mem behind.ge⟩
  · have joined := flatten_slots behind.ge
    rw [← behind, List.take_length] at joined
    rw [joined, List.take_append_drop]
  · rw [List.length_take]
    omega

variable {data rest header : List UInt8} {raw : List (List UInt8)} {offset : Nat}

theorem regionIdPresent_map_iff (id : Nat) :
    regionIdPresent id (raw.map parseRegionRecord) = true ↔ id = 0 ∨ id ∈ raw.map regionReadU16 := by
  simp [regionIdPresent, parseRegionRecord]

theorem parentOf_rooted_iff (distinct : (raw.map regionReadU16).Nodup)
    (nonzero : ∀ record ∈ raw, regionReadU16 record ≠ 0) {record : List UInt8} (member : record ∈ raw) :
    Relation.ReflTransGen (ParentOf raw) (regionReadU16 record) 0 ↔
      Relation.ReflTransGen (ParentOf raw) (regionReadU16 (record.drop 2)) 0 := by
  refine ⟨fun rooted => ?_, Relation.ReflTransGen.head ⟨record, member, rfl, rfl⟩⟩
  rcases Relation.ReflTransGen.cases_head rooted with zero | ⟨parent, ⟨other, listed, same, rfl⟩, rest⟩
  · exact absurd zero (nonzero record member)
  · obtain rfl := List.inj_on_of_nodup_map distinct listed member same
    exact rest

theorem rooted_iff (distinct : (raw.map regionReadU16).Nodup) (nonzero : ∀ record ∈ raw, regionReadU16 record ≠ 0) :
    ((raw.map parseRegionRecord).all fun record => record.parent != record.id &&
      regionIdPresent record.parent (raw.map parseRegionRecord) &&
      reachesRoot (raw.map parseRegionRecord) raw.length record.parent) = true ↔
    ∀ record ∈ raw, Relation.ReflTransGen (ParentOf raw) (regionReadU16 record) 0 := by
  rw [List.all_map, List.all_eq_true]
  apply forall₂_congr
  intro record member
  rw [parentOf_rooted_iff distinct nonzero member, ← reachesRoot_iff distinct nonzero, Function.comp_apply,
    Bool.and_eq_true, Bool.and_eq_true]
  refine ⟨fun tests => tests.2, fun reached => ⟨⟨?_, ?_⟩, reached⟩⟩
  · have rooted := (reachesRoot_iff distinct nonzero _).mp reached
    rw [bne_iff_ne]
    intro own
    exact parentOf_acyclic distinct nonzero rooted (Relation.TransGen.single ⟨record, member, own.symm, rfl⟩)
  · rw [regionIdPresent_map_iff]
    rcases Relation.ReflTransGen.cases_head ((reachesRoot_iff distinct nonzero _).mp reached) with
      zero | ⟨_, ⟨other, listed, same, -⟩, -⟩
    · exact Or.inl zero
    · exact Or.inr (List.mem_map.mpr ⟨other, listed, same⟩)

theorem validateRegionStructure_layout (current : Bool) (headerSize : header.length = regionLegacyHeaderSize)
    (width : ∀ record ∈ raw, record.length = regionLegacyRecordSize)
    (content : data.drop offset = header ++ (raw.flatten ++ rest)) :
    (validateRegionStructure data offset (header ++ raw.flatten).length current).isSome = true ↔
      RegionForest (if current then regionMagic else [0, 0, 0]) header raw := by
  have size : (header ++ raw.flatten).length = regionLegacyHeaderSize + regionLegacyRecordSize * raw.length := by
    rw [List.length_append, headerSize, length_flatten_of_width width]
  have positive : 0 < regionLegacyRecordSize := by decide
  have records : (header ++ raw.flatten).length - regionLegacyHeaderSize = regionLegacyRecordSize * raw.length := by
    omega
  have shaped : ¬ ((header ++ raw.flatten).length < regionLegacyHeaderSize ∨
      ((header ++ raw.flatten).length - regionLegacyHeaderSize) % regionLegacyRecordSize ≠ 0) := by
    rw [records, Nat.mul_mod_right, size]
    omega
  unfold validateRegionStructure
  rw [if_neg shaped, records, Nat.mul_div_cancel_left _ positive, content, readBytes_append headerSize]
  dsimp only
  generalize (if current then regionMagic else [0, 0, 0]) = magic
  split
  · rename_i many
    exact ⟨nofun, fun forest => absurd forest.few (Nat.not_le_of_gt many)⟩
  · rename_i few
    split
    · rename_i other
      exact ⟨nofun, fun forest => absurd forest.magic_eq other⟩
    · rename_i same
      have read := fun found => readRegionRecords_flatten_iff width rest [] found List.nodup_nil
      simp only [List.nil_append, List.map_nil] at read
      split
      · rename_i none_read
        refine ⟨nofun, fun forest => ?_⟩
        have listed :=
          (read _).mpr ⟨rfl, fun record member => ⟨forest.nonzero record member, forest.named record member⟩,
          forest.distinct⟩
        rw [none_read] at listed
        cases listed
      · rename_i found listed
        obtain ⟨rfl, good, distinct⟩ := (read _).mp listed
        have nonzero : ∀ record ∈ raw, regionReadU16 record ≠ 0 := fun record member => (good record member).1
        have rooted := rooted_iff distinct nonzero
        split
        · rename_i refused
          refine ⟨nofun, fun forest => ?_⟩
          rcases refused with zero | low | noDefault | noHome
          · exact absurd zero forest.next_nonzero
          · rw [List.any_map, List.any_eq_true] at low
            obtain ⟨record, member, below⟩ := low
            exact absurd (forest.next_above record member) (Nat.not_lt_of_ge (of_decide_eq_true below))
          · rw [(regionIdPresent_map_iff _).mpr forest.default_present] at noDefault
            cases noDefault
          · rw [(regionIdPresent_map_iff _).mpr forest.home_present] at noHome
            cases noHome
        · rename_i accepted
          rw [not_or, not_or, not_or, Bool.not_eq_false, Bool.not_eq_false, regionIdPresent_map_iff,
            regionIdPresent_map_iff] at accepted
          obtain ⟨nextNonzero, nextAbove, defaultPresent, homePresent⟩ := accepted
          have above : ∀ record ∈ raw, regionReadU16 record < regionReadU16 (header.drop 8) := by
            intro record member
            by_contra low
            refine nextAbove (List.any_eq_true.mpr ⟨parseRegionRecord record, List.mem_map_of_mem member, ?_⟩)
            exact decide_eq_true (Nat.le_of_not_lt low)
          split
          · rename_i walks
            refine ⟨fun _ => ?_, fun _ => rfl⟩
            exact ⟨headerSize, not_not.mp same, Nat.le_of_not_lt few, width, nonzero, distinct,
              fun record member => (good record member).2, nextNonzero, above, defaultPresent, homePresent,
              rooted.mp walks⟩
          · rename_i stuck
            exact ⟨nofun, fun forest => absurd (rooted.mpr forest.rooted) stuck⟩

theorem validateRegionStructure_inside {size : Nat} {current : Bool}
    (valid : (validateRegionStructure data offset size current).isSome = true) :
    offset + size ≤ data.length ∧ ∃ count, size = regionLegacyHeaderSize + regionLegacyRecordSize * count := by
  unfold validateRegionStructure at valid
  split at valid
  · cases valid
  · rename_i shaped
    rw [not_or, not_lt, not_not] at shaped
    obtain ⟨header, whole⟩ := shaped
    have exact_size := Nat.mul_div_cancel' (Nat.dvd_of_mod_eq_zero whole)
    refine ⟨?_, (size - regionLegacyHeaderSize) / regionLegacyRecordSize, by omega⟩
    dsimp only at valid
    split at valid
    · cases valid
    · split at valid
      · cases valid
      · rename_i taken stream read
        generalize (if current then regionMagic else [0, 0, 0]) = magic at valid
        obtain ⟨rfl, rfl⟩ := readBytes_some read
        split at valid
        · cases valid
        · split at valid
          · cases valid
          · rename_i found listed
            have enough := readRegionRecords_enough listed
            rw [Nat.mul_comm, exact_size, List.length_drop, List.length_drop] at enough
            have positive : 0 < regionLegacyHeaderSize := by decide
            unfold readBytes at read
            split at read
            · rename_i front
              rw [List.length_drop] at front
              omega
            · cases read

theorem validateRegionStructure_iff_forest (data : List UInt8) (offset size : Nat) (current : Bool) :
    ((validateRegionStructure data offset size current).isSome = true ↔
      offset + size ≤ data.length ∧
        WellFormedRegionMap (if current then regionMagic else [0, 0, 0]) ((data.drop offset).take size)) ∧
    ∀ header raw, RegionForest (if current then regionMagic else [0, 0, 0]) header raw →
      ∀ id ∈ raw.map regionReadU16, ¬ Relation.TransGen (ParentOf raw) id id := by
  refine ⟨⟨fun valid => ?_, ?_⟩, fun header raw forest id member => ?_⟩
  · obtain ⟨inside, count, rfl⟩ := validateRegionStructure_inside valid
    have size : ((data.drop offset).take (regionLegacyHeaderSize + regionLegacyRecordSize * count)).length =
        regionLegacyHeaderSize + regionLegacyRecordSize * count := by
      rw [List.length_take, List.length_drop]
      omega
    obtain ⟨header, raw, map, headerSize, -, width⟩ := exists_layout size
    have content := (List.take_append_drop (regionLegacyHeaderSize + regionLegacyRecordSize * count)
      (data.drop offset)).symm
    rw [map, List.append_assoc] at content
    rw [← size, map] at valid
    exact ⟨inside, header, raw, map, (validateRegionStructure_layout current headerSize width content).mp valid⟩
  · rintro ⟨inside, header, raw, map, forest⟩
    have whole : (header ++ raw.flatten).length = size := by
      rw [← map, List.length_take, List.length_drop]
      omega
    have content := (List.take_append_drop size (data.drop offset)).symm
    rw [map, List.append_assoc] at content
    rw [← whole]
    exact (validateRegionStructure_layout current forest.header_size forest.record_size content).mpr forest
  · obtain ⟨record, listed, rfl⟩ := List.mem_map.mp member
    exact parentOf_acyclic forest.distinct forest.nonzero (forest.rooted record listed)

end Maps

end SigurdOS.Mesh
