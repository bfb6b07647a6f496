import Mathlib.Data.List.Nodup
import SigurdOS.Mesh.RegionStore

namespace SigurdOS.Mesh

open Bytes Hal

section Streams

theorem readBytes_of_le {stream : List UInt8} {length : Nat} (enough : length ≤ stream.length) :
    readBytes stream length = some (stream.take length, stream.drop length) := if_pos enough

theorem readBytes_some {stream taken rest : List UInt8} {length : Nat}
    (read : readBytes stream length = some (taken, rest)) :
    taken = stream.take length ∧ rest = stream.drop length := by
  unfold readBytes at read
  split at read
  · exact ⟨(Prod.mk.inj (Option.some.inj read)).1.symm, (Prod.mk.inj (Option.some.inj read)).2.symm⟩
  · cases read

theorem readBytes_append {front : List UInt8} {length : Nat} (width : front.length = length) (rest : List UInt8) :
    readBytes (front ++ rest) length = some (front, rest) := by
  have enough : length ≤ (front ++ rest).length := by
    rw [List.length_append]
    omega
  rw [readBytes_of_le enough, List.take_left' width, List.drop_left' width]

theorem readBytes_extend {stream : List UInt8} {length : Nat} (enough : length ≤ stream.length) (rest : List UInt8) :
    readBytes (stream ++ rest) length = some (stream.take length, stream.drop length ++ rest) := by
  have longer : length ≤ (stream ++ rest).length := by
    rw [List.length_append]
    omega
  rw [readBytes_of_le longer, List.take_append_of_le_length enough, List.drop_append_of_le_length enough]

theorem regionCrcUpdate_append (crc : UInt32) (front rest : List UInt8) :
    regionCrcUpdate crc (front ++ rest) = regionCrcUpdate (regionCrcUpdate crc front) rest := List.foldl_append

theorem streamChunks_eq {fuel remaining : Nat} {stream : List UInt8} (fuelled : remaining ≤ fuel)
    (enough : remaining ≤ stream.length) (crc : UInt32) (output : List UInt8) :
    streamChunks fuel remaining stream crc output =
      some (regionCrcUpdate crc (stream.take remaining), output ++ stream.take remaining) := by
  induction fuel generalizing remaining stream crc output with
  | zero =>
    obtain rfl : remaining = 0 := by omega
    simp [streamChunks, regionCrcUpdate]
  | succ fuel ih =>
    rw [streamChunks]
    by_cases finished : remaining = 0
    · subst finished
      simp [regionCrcUpdate]
    · have first : min remaining 128 ≤ stream.length := by omega
      have whole : stream.take remaining =
          stream.take (min remaining 128) ++ (stream.drop (min remaining 128)).take
              (remaining - min remaining 128) := by
        rw [← List.take_add]
        congr 1
        omega
      rw [if_neg finished]
      dsimp only
      rw [readBytes_of_le first]
      dsimp only
      rw [ih (by omega) (by rw [List.length_drop]; omega), whole, regionCrcUpdate_append, List.append_assoc]

end Streams

section Structure

theorem readRegionRecords_extend {count : Nat} {stream : List UInt8} (rest : List UInt8)
    (enough : count * regionLegacyRecordSize ≤ stream.length) (seen : List RegionRecord) :
    readRegionRecords count (stream ++ rest) seen = readRegionRecords count stream seen := by
  induction count generalizing stream seen with
  | zero => rfl
  | succ count ih =>
    have record : regionLegacyRecordSize ≤ stream.length := by
      rw [Nat.succ_mul] at enough
      omega
    have behind : count * regionLegacyRecordSize ≤ (stream.drop regionLegacyRecordSize).length := by
      rw [Nat.succ_mul] at enough
      rw [List.length_drop]
      omega
    rw [readRegionRecords, readRegionRecords, readBytes_extend record, readBytes_of_le record]
    dsimp only
    rw [ih behind]

theorem validateRegionStructure_embedded (front map rest : List UInt8) (current : Bool) :
    validateRegionStructure (front ++ (map ++ rest)) front.length map.length current =
      validateRegionStructure map 0 map.length current := by
  unfold validateRegionStructure
  rw [List.drop_left, List.drop_zero]
  split
  · rfl
  · rename_i shape
    rw [not_or, not_lt, not_not] at shape
    obtain ⟨header, whole⟩ := shape
    rw [readBytes_extend header, readBytes_of_le header]
    dsimp only
    have records : (map.length - regionLegacyHeaderSize) / regionLegacyRecordSize * regionLegacyRecordSize ≤
        (map.drop regionLegacyHeaderSize).length := by
      rw [List.length_drop]
      exact Nat.div_mul_le_self _ _
    rw [readRegionRecords_extend rest records]

def regionRecordAt (map : List UInt8) (index : Nat) : List UInt8 :=
  (map.drop (regionLegacyHeaderSize + index * regionLegacyRecordSize)).take regionLegacyRecordSize

def regionRecordCount (map : List UInt8) : Nat := (map.length - regionLegacyHeaderSize) / regionLegacyRecordSize

/-- The map has a region with this id whose name starts with `$`. -/
def NamesPrivateRegion (map : List UInt8) (id : UInt16) : Prop :=
  ∃ index < regionRecordCount map, regionReadU16 (regionRecordAt map index) = id.toNat ∧
    ((regionRecordAt map index).drop 4).head? = some 36

theorem readRegionRecords_spec {count : Nat} {stream : List UInt8} {seen records : List RegionRecord}
    (read : readRegionRecords count stream seen = some records) (distinct : (seen.map RegionRecord.id).Nodup) :
    records = seen ++ (List.range count).map (fun index =>
        parseRegionRecord ((stream.drop (index * regionLegacyRecordSize)).take regionLegacyRecordSize)) ∧
      (records.map RegionRecord.id).Nodup := by
  induction count generalizing stream seen with
  | zero =>
    obtain rfl := Option.some.inj read
    exact ⟨by simp, distinct⟩
  | succ count ih =>
    rw [readRegionRecords] at read
    split at read
    · cases read
    · rename_i record rest taken
      obtain ⟨rfl, rfl⟩ := readBytes_some taken
      dsimp only at read
      split at read
      · cases read
      · split at read
        · cases read
        · split at read
          · cases read
          · rename_i fresh
            have grown : ((seen ++ [parseRegionRecord (stream.take regionLegacyRecordSize)]).map
                RegionRecord.id).Nodup := by
              rw [List.map_append, List.nodup_append]
              refine ⟨distinct, by simp, ?_⟩
              intro id listed other single same
              obtain ⟨record, member, rfl⟩ := List.mem_map.mp listed
              obtain rfl := List.mem_singleton.mp single
              apply fresh
              rw [List.any_eq_true]
              exact ⟨record, member, by simpa using same⟩
            obtain ⟨shape, nodup⟩ := ih read grown
            refine ⟨?_, nodup⟩
            rw [shape, List.range_succ_eq_map, List.map_cons, List.map_map, List.append_assoc, List.singleton_append,
              Nat.zero_mul, List.drop_zero]
            congr 2
            apply List.map_congr_left
            intro index _
            rw [List.drop_drop, Function.comp_apply, Nat.succ_mul, Nat.add_comm regionLegacyRecordSize]

theorem validateRegionStructure_spec {map : List UInt8} {current : Bool} {records : List RegionRecord}
    (valid : validateRegionStructure map 0 map.length current = some records) :
    regionLegacyHeaderSize ≤ map.length ∧
      map.length ≤ regionLegacyHeaderSize + regionMaxRecords * regionLegacyRecordSize ∧
      records = (List.range (regionRecordCount map)).map (fun index => parseRegionRecord (regionRecordAt map index)) ∧
      (records.map RegionRecord.id).Nodup := by
  unfold validateRegionStructure at valid
  split at valid
  · cases valid
  · rename_i shape
    rw [not_or, not_lt, not_not] at shape
    obtain ⟨header, whole⟩ := shape
    dsimp only at valid
    split at valid
    · cases valid
    · rename_i few
      rw [List.drop_zero, readBytes_of_le header] at valid
      dsimp only at valid
      generalize (if current then regionMagic else [0, 0, 0]) = magic at valid
      split at valid
      · cases valid
      · split at valid
        · cases valid
        · rename_i found read
          split at valid
          · cases valid
          · split at valid
            · obtain rfl := Option.some.inj valid
              obtain ⟨listed, distinct⟩ := readRegionRecords_spec read List.nodup_nil
              refine ⟨header, ?_, ?_, distinct⟩
              · have exact_size := Nat.div_add_mod (map.length - regionLegacyHeaderSize) regionLegacyRecordSize
                have bounded : regionLegacyRecordSize *
                    ((map.length - regionLegacyHeaderSize) / regionLegacyRecordSize) ≤
                    regionLegacyRecordSize * regionMaxRecords := Nat.mul_le_mul_left _ (Nat.le_of_not_lt few)
                rw [Nat.mul_comm regionMaxRecords]
                omega
              · rw [listed, List.nil_append]
                apply List.map_congr_left
                intro index _
                rw [List.drop_drop, regionRecordAt]
            · cases valid

theorem regionPrivateIdPresent_iff {records : List RegionRecord} (distinct : (records.map RegionRecord.id).Nodup)
    (id : Nat) : regionPrivateIdPresent records id = true ↔ ∃ record ∈ records, record.id = id ∧ record.isPrivate := by
  unfold regionPrivateIdPresent
  cases found : records.find? (·.id == id) with
  | none =>
    rw [List.find?_eq_none] at found
    constructor
    · nofun
    · rintro ⟨record, member, same, -⟩
      exact absurd (by simpa using same) (found record member)
  | some record =>
    have member := List.mem_of_find?_eq_some found
    have same : record.id = id := by simpa using List.find?_some found
    constructor
    · exact fun isPrivate => ⟨record, member, same, isPrivate⟩
    · rintro ⟨other, listed, equal, isPrivate⟩
      obtain rfl := List.inj_on_of_nodup_map distinct member listed (same.trans equal.symm)
      exact isPrivate

theorem regionPrivateIdPresent_iff_names {map : List UInt8} {current : Bool} {records : List RegionRecord}
    (valid : validateRegionStructure map 0 map.length current = some records) (id : UInt16) :
    regionPrivateIdPresent records id.toNat = true ↔ NamesPrivateRegion map id := by
  obtain ⟨-, -, listed, distinct⟩ := validateRegionStructure_spec valid
  rw [regionPrivateIdPresent_iff distinct, listed]
  constructor
  · rintro ⟨record, member, same, isPrivate⟩
    obtain ⟨index, inside, rfl⟩ := List.mem_map.mp member
    exact ⟨index, List.mem_range.mp inside, same, by simpa [parseRegionRecord] using isPrivate⟩
  · rintro ⟨index, inside, same, isPrivate⟩
    exact ⟨_, List.mem_map.mpr ⟨index, List.mem_range.mpr inside, rfl⟩, same,
      by simpa [parseRegionRecord] using isPrivate⟩

end Structure

section Keys

theorem foldl_or_eq_zero {bytes : List UInt8} {combined : UInt8} :
    bytes.foldl (· ||| ·) combined = 0 ↔ combined = 0 ∧ ∀ byte ∈ bytes, byte = 0 := by
  induction bytes generalizing combined with
  | nil => simp
  | cons byte rest ih =>
    rw [List.foldl_cons, ih, UInt8.or_eq_zero_iff, List.forall_mem_cons, and_assoc]

theorem regionReadU16_keyRecord (key : RegionKey) : regionReadU16 (keyRecord key) = key.1.toNat := by
  rw [regionReadU16, keyRecord, List.take_left' (length_leBytes 2 _), leNumber_leBytes_of_lt]
  exact key.1.toNat_lt

theorem drop_keyRecord (key : RegionKey) : (keyRecord key).drop 2 = key.2.bytes :=
  List.drop_left' (length_leBytes 2 _)

theorem length_keyRecord (key : RegionKey) : (keyRecord key).length = regionKeyRecordSize := by
  rw [keyRecord, List.length_append, length_leBytes, key.2.length_eq]
  rfl

theorem length_keyRecords (keys : List RegionKey) :
    (keys.flatMap keyRecord).length = keys.length * regionKeyRecordSize := by
  induction keys with
  | nil => rfl
  | cons key rest ih => rw [List.flatMap_cons, List.length_append, ih, length_keyRecord, List.length_cons, Nat.succ_mul,
      Nat.add_comm]

theorem validateKeyRecords_iff {records : List RegionRecord} {keys : List RegionKey} (rest : List UInt8)
    (seen : List Nat) :
    validateKeyRecords records keys.length (keys.flatMap keyRecord ++ rest) seen = true ↔
      (keys.map Prod.fst).Nodup ∧ ∀ key ∈ keys, key.1 ≠ 0 ∧ regionPrivateIdPresent records key.1.toNat = true ∧
        (∃ byte ∈ key.2.bytes, byte ≠ 0) ∧ key.1.toNat ∉ seen := by
  induction keys generalizing seen with
  | nil => simp [validateKeyRecords]
  | cons key keys ih =>
    have zero : key.1.toNat = 0 ↔ key.1 = 0 := UInt16.toNat_inj (b := 0)
    rw [List.length_cons, validateKeyRecords, List.flatMap_cons, List.append_assoc,
      readBytes_append (length_keyRecord key)]
    dsimp only
    rw [regionReadU16_keyRecord, drop_keyRecord, List.map_cons, List.nodup_cons, List.forall_mem_cons]
    simp only [zero]
    split
    · rename_i refused
      refine ⟨nofun, fun good => ?_⟩
      rcases refused with none | absent
      · exact absurd none good.2.1.1
      · exact absurd (absent.symm.trans good.2.1.2.1) nofun
    · rename_i present
      rw [not_or, Bool.not_eq_false] at present
      split
      · rename_i null
        refine ⟨nofun, fun good => ?_⟩
        obtain ⟨byte, member, nonzero⟩ := good.2.1.2.2.1
        exact absurd ((foldl_or_eq_zero.mp null).2 byte member) nonzero
      · rename_i nonzero
        have byte : ∃ byte ∈ key.2.bytes, byte ≠ 0 := by
          by_contra all
          push Not at all
          exact nonzero (foldl_or_eq_zero.mpr ⟨rfl, all⟩)
        split
        · rename_i repeated
          refine ⟨nofun, fun good => ?_⟩
          simp only [List.any_eq_true, beq_iff_eq] at repeated
          obtain ⟨id, member, rfl⟩ := repeated
          exact absurd member good.2.1.2.2.2
        · rename_i fresh
          have unseen : key.1.toNat ∉ seen := by simpa using fresh
          have later (other : RegionKey) : other.1.toNat ∉ seen ++ [key.1.toNat] ↔
              other.1.toNat ∉ seen ∧ other.1 ≠ key.1 := by
            rw [List.mem_append, List.mem_singleton, not_or, UInt16.toNat_inj]
          simp only [ih, later]
          constructor
          · rintro ⟨distinct, good⟩
            refine ⟨⟨?_, distinct⟩, ⟨present.1, present.2, byte, unseen⟩, fun other member => ?_⟩
            · intro listed
              obtain ⟨other, member, same⟩ := List.mem_map.mp listed
              exact (good other member).2.2.2.2 same
            · obtain ⟨nonzero, known, filled, unseen, -⟩ := good other member
              exact ⟨nonzero, known, filled, unseen⟩
          · rintro ⟨⟨absent, distinct⟩, -, good⟩
            refine ⟨distinct, fun other member => ?_⟩
            obtain ⟨nonzero, known, filled, unseen⟩ := good other member
            exact ⟨nonzero, known, filled, unseen, fun same => absent (same ▸ List.mem_map_of_mem member)⟩

end Keys

section Envelope

def envelopeBody (map : List UInt8) (keys : List RegionKey) : List UInt8 :=
  regionTransactionalHeader map.length keys.length ++ (map ++ keys.flatMap keyRecord)

def envelopeCrc (map : List UInt8) (keys : List RegionKey) : Nat :=
  (regionCrcUpdate 0xFFFFFFFF (envelopeBody map keys) ^^^ 0xFFFFFFFF).toNat

def envelope (map : List UInt8) (keys : List RegionKey) : List UInt8 :=
  envelopeBody map keys ++ leBytes 4 (envelopeCrc map keys)

variable {map : List UInt8} {keys : List RegionKey}

theorem length_regionTransactionalHeader (size count : Nat) :
    (regionTransactionalHeader size count).length = regionTransactionalHeaderSize := by
  simp [regionTransactionalHeader, regionTransactionalMagic, regionTransactionalHeaderSize]

theorem writeKeyRecords_eq {readKey : Nat → Option RegionKey} {start : Nat}
    (reads : ∀ index, readKey (start + index) = keys[index]?) (crc : UInt32) (output : List UInt8) :
    writeKeyRecords readKey keys.length start crc output =
      some (regionCrcUpdate crc (keys.flatMap keyRecord), output ++ keys.flatMap keyRecord) := by
  induction keys generalizing start crc output with
  | nil => simp [writeKeyRecords, regionCrcUpdate]
  | cons key rest ih =>
    have first : readKey start = some key := reads 0
    have later : ∀ index, readKey (start + 1 + index) = rest[index]? := by
      intro index
      rw [Nat.add_assoc, Nat.add_comm 1, reads (index + 1), List.getElem?_cons_succ]
    rw [List.length_cons, writeKeyRecords, first]
    dsimp only
    rw [ih later, List.flatMap_cons, regionCrcUpdate_append, List.append_assoc]

theorem writeTransactionalRegionEnvelope_eq (header : regionLegacyHeaderSize ≤ map.length)
    (size : map.length ≤ 0xFFFFFFFF) (bound : keys.length ≤ regionMaxPrivateKeys) :
    writeTransactionalRegionEnvelope map keys.length (fun index => keys[index]?) = some (envelope map keys) := by
  have accepted : ¬ (map.length < regionLegacyHeaderSize ∨ map.length > 0xFFFFFFFF ∨ (keys.length : Int) < 0 ∨
      (keys.length : Int) > regionMaxPrivateKeys) := by omega
  unfold writeTransactionalRegionEnvelope
  rw [if_neg accepted]
  dsimp only
  rw [streamChunks_eq le_rfl le_rfl, List.take_length, Int.toNat_natCast]
  dsimp only
  rw [writeKeyRecords_eq (by simp)]
  dsimp only
  rw [← regionCrcUpdate_append, ← regionCrcUpdate_append]
  simp only [envelope, envelopeBody, envelopeCrc, List.append_assoc]

theorem length_envelopeBody (map : List UInt8) (keys : List RegionKey) : (envelopeBody map keys).length =
    regionTransactionalHeaderSize + map.length + keys.length * regionKeyRecordSize := by
  rw [envelopeBody, List.length_append, List.length_append, length_regionTransactionalHeader, length_keyRecords,
    Nat.add_assoc]

theorem length_envelope (map : List UInt8) (keys : List RegionKey) : (envelope map keys).length =
    regionTransactionalHeaderSize + map.length + keys.length * regionKeyRecordSize + regionChecksumSize := by
  rw [envelope, List.length_append, length_envelopeBody, length_leBytes]
  rfl

structure HeaderReads (map : List UInt8) (keys : List RegionKey) : Prop where
  read : ∃ stream, readBytes (envelope map keys) regionTransactionalHeaderSize =
    some (regionTransactionalHeader map.length keys.length, stream) ∧
      stream = map ++ (keys.flatMap keyRecord ++ leBytes 4 (envelopeCrc map keys))
  magic : (regionTransactionalHeader map.length keys.length).take 3 = regionTransactionalMagic
  reserved : (regionTransactionalHeader map.length keys.length).drop 8 = [0, 0]
  rawSize : regionReadU32 ((regionTransactionalHeader map.length keys.length).drop 3) = map.length
  keyCount : (((regionTransactionalHeader map.length keys.length).drop 7).headD 0).toNat = keys.length

theorem headerReads (map : List UInt8) (keys : List RegionKey) (size : map.length ≤ 0xFFFFFFFF)
    (bound : keys.length ≤ regionMaxPrivateKeys) :
    HeaderReads map keys where
  read := by
    refine ⟨_, ?_, rfl⟩
    rw [envelope, envelopeBody, List.append_assoc, List.append_assoc,
      readBytes_append (length_regionTransactionalHeader _ _)]
  magic := by
    rw [regionTransactionalHeader, List.append_assoc]
    exact List.take_left' rfl
  reserved := by
    have split : regionTransactionalHeader map.length keys.length =
        (regionTransactionalMagic ++ leBytes 4 map.length ++ [UInt8.ofNat keys.length]) ++ [0, 0] := by
      rw [List.append_assoc]
      rfl
    rw [split, List.drop_left' (by simp [regionTransactionalMagic])]
  rawSize := by
    rw [regionTransactionalHeader, List.append_assoc, List.drop_left' (by rfl), regionReadU32,
      List.take_left' (length_leBytes 4 _), leNumber_leBytes_of_lt]
    omega
  keyCount := by
    rw [regionTransactionalHeader, List.drop_left' (by simp [regionTransactionalMagic])]
    have small : keys.length ≤ 16 := bound
    exact Nat.mod_eq_of_lt (by omega)

theorem drop_envelope (map : List UInt8) (keys : List RegionKey) :
    (envelope map keys).drop (regionTransactionalHeaderSize + map.length) =
      keys.flatMap keyRecord ++ leBytes 4 (envelopeCrc map keys) := by
  rw [envelope, envelopeBody, ← List.append_assoc, List.append_assoc]
  apply List.drop_left'
  rw [List.length_append, length_regionTransactionalHeader]

/-- The ids are distinct and each key, not null, belongs to a private region of the map. -/
def KeysFit (map : List UInt8) (keys : List RegionKey) : Prop :=
  (keys.map Prod.fst).Nodup ∧
    ∀ key ∈ keys, key.1 ≠ 0 ∧ NamesPrivateRegion map key.1 ∧ ∃ byte ∈ key.2.bytes, byte ≠ 0

theorem validate_envelope_iff (accepted : validateLegacyRegionFile map = true)
    (bound : keys.length ≤ regionMaxPrivateKeys) :
    validateTransactionalRegionFile (envelope map keys) = true ↔ KeysFit map keys := by
  obtain ⟨records, valid⟩ := Option.isSome_iff_exists.mp accepted
  obtain ⟨headerFits, limit, -, -⟩ := validateRegionStructure_spec valid
  have size : map.length ≤ 0xFFFFFFFF := limit.trans (by decide)
  have fields := headerReads map keys size bound
  obtain ⟨stream, read, -⟩ := fields.read
  have length := length_envelope map keys
  have large : ¬ (envelope map keys).length <
      regionTransactionalHeaderSize + regionLegacyHeaderSize + regionChecksumSize := by omega
  have sizes : ¬ (keys.length > regionMaxPrivateKeys ∨ (envelope map keys).length ≠
      regionTransactionalHeaderSize + map.length + keys.length * regionKeyRecordSize + regionChecksumSize) := by omega
  have shape : envelope map keys = regionTransactionalHeader map.length keys.length ++
      (map ++ (keys.flatMap keyRecord ++ leBytes 4 (envelopeCrc map keys))) := by
    simp only [envelope, envelopeBody, List.append_assoc]
  have structured : validateRegionStructure (envelope map keys) regionTransactionalHeaderSize map.length false =
      some records := by
    rw [shape, ← length_regionTransactionalHeader map.length keys.length, validateRegionStructure_embedded, valid]
  have content : (envelope map keys).length - regionChecksumSize = (envelopeBody map keys).length := by
    rw [length, length_envelopeBody, Nat.add_sub_cancel]
  have crc : streamChunks (envelopeBody map keys).length (envelopeBody map keys).length (envelope map keys)
      0xFFFFFFFF [] =
      some (regionCrcUpdate 0xFFFFFFFF (envelopeBody map keys), envelopeBody map keys) := by
    rw [streamChunks_eq le_rfl (by rw [envelope, List.length_append]; omega), envelope, List.take_left, List.nil_append]
  have stored : readBytes ((envelope map keys).drop (envelopeBody map keys).length) regionChecksumSize =
      some (leBytes 4 (envelopeCrc map keys), []) := by
    have whole := readBytes_append (length_leBytes 4 (envelopeCrc map keys)) []
    rw [List.append_nil] at whole
    rw [envelope, List.drop_left]
    exact whole
  have number : regionReadU32 (leBytes 4 (envelopeCrc map keys)) = envelopeCrc map keys := by
    rw [regionReadU32, List.take_of_length_le (by simp), leNumber_leBytes_of_lt]
    exact UInt32.toNat_lt _
  have keysValid : validateKeyRecords records keys.length
      (keys.flatMap keyRecord ++ leBytes 4 (envelopeCrc map keys)) [] = true ↔ KeysFit map keys := by
    rw [validateKeyRecords_iff]
    simp only [KeysFit, regionPrivateIdPresent_iff_names valid, List.not_mem_nil, not_false_eq_true, and_true]
  unfold validateTransactionalRegionFile
  rw [if_neg large, read]
  dsimp only
  rw [if_neg (by simp [fields.magic, fields.reserved]), fields.rawSize, fields.keyCount, if_neg sizes, structured]
  dsimp only
  rw [drop_envelope, content, crc]
  dsimp only
  rw [stored]
  dsimp only
  rw [number, ← keysValid]
  cases validateKeyRecords records keys.length (keys.flatMap keyRecord ++ leBytes 4 (envelopeCrc map keys)) [] with
  | false => simp
  | true => simp [envelopeCrc]

theorem extract_envelope (accepted : validateLegacyRegionFile map = true)
    (bound : keys.length ≤ regionMaxPrivateKeys) (fit : KeysFit map keys) (temp : Option (List UInt8)) :
    regionStoreExtractTransactionalMap ⟨some (envelope map keys), temp⟩ = some map := by
  obtain ⟨records, valid⟩ := Option.isSome_iff_exists.mp accepted
  obtain ⟨-, limit, -, -⟩ := validateRegionStructure_spec valid
  have fields := headerReads map keys (limit.trans (by decide)) bound
  obtain ⟨stream, read, rest⟩ := fields.read
  have enough : map.length ≤ stream.length := by
    rw [rest, List.length_append]
    omega
  unfold regionStoreExtractTransactionalMap copyTransactionalRegionMap
  dsimp only
  rw [(validate_envelope_iff accepted bound).mpr fit, if_neg (by decide), read]
  dsimp only
  rw [fields.rawSize, streamChunks_eq le_rfl enough, rest, List.take_left, List.nil_append]
  dsimp only
  rw [accepted, if_pos rfl]

/-- The callback on the keys in order, until it refuses one. -/
def loadInOrder {σ : Type} (loadKey : σ → RegionKey → Bool × σ) : List RegionKey → σ → Bool × σ
  | [], ctx => (true, ctx)
  | key :: rest, ctx =>
    match loadKey ctx key with
    | (true, ctx) => loadInOrder loadKey rest ctx
    | (false, ctx) => (false, ctx)

theorem loadKeyRecords_eq {σ : Type} (loadKey : σ → RegionKey → Bool × σ) (rest : List UInt8) (ctx : σ) :
    loadKeyRecords loadKey keys.length (keys.flatMap keyRecord ++ rest) ctx = loadInOrder loadKey keys ctx := by
  induction keys generalizing ctx with
  | nil => rfl
  | cons key keys ih =>
    have same : (UInt16.ofNat (regionReadU16 (keyRecord key)), FixedBytes.ofList 16 ((keyRecord key).drop 2)) =
        key := by
      rw [regionReadU16_keyRecord, drop_keyRecord, UInt16.ofNat_toNat, FixedBytes.ofList_bytes]
    rw [List.length_cons, loadKeyRecords, List.flatMap_cons, List.append_assoc, readBytes_append (length_keyRecord key)]
    dsimp only
    rw [same, loadInOrder]
    cases loadKey ctx key with
    | mk accepted next =>
      cases accepted with
      | true => exact ih next
      | false => rfl

theorem loadKeys_envelope (accepted : validateLegacyRegionFile map = true)
    (bound : keys.length ≤ regionMaxPrivateKeys) (fit : KeysFit map keys) (temp : Option (List UInt8)) {σ : Type}
    (loadKey : σ → RegionKey → Bool × σ) (ctx : σ) :
    regionStoreLoadTransactionalKeys loadKey ⟨some (envelope map keys), temp⟩ ctx =
      match loadInOrder loadKey keys ctx with
      | (true, ctx) => ((keys.length : Int), ctx)
      | (false, ctx) => (-1, ctx) := by
  obtain ⟨records, valid⟩ := Option.isSome_iff_exists.mp accepted
  obtain ⟨-, limit, -, -⟩ := validateRegionStructure_spec valid
  have fields := headerReads map keys (limit.trans (by decide)) bound
  obtain ⟨stream, read, -⟩ := fields.read
  unfold regionStoreLoadTransactionalKeys
  dsimp only
  rw [(validate_envelope_iff accepted bound).mpr fit, if_neg (by decide), read]
  dsimp only
  rewrite [fields.rawSize, fields.keyCount, drop_envelope, loadKeyRecords_eq]
  cases loadInOrder loadKey keys ctx with
  | mk loaded next =>
    cases loaded with
    | true => rfl
    | false => rfl

end Envelope

section Save

variable {map : List UInt8} {keys : List RegionKey}

/-- What a save without faults starts from: no pending replacement, one that can be finished, or a live
    file to fall back to. -/
def Startable (file : AtomicFile) : Prop :=
  ∀ pending, file.temp = some pending → validateAnyCurrentRegionFile pending = false →
    file.live.any validateAnyCurrentRegionFile = true ∨ file.live.any validateLegacyRegionFile = true

theorem startable_of_pending {live : Option (List UInt8)} {pending : List UInt8}
    (current : validateAnyCurrentRegionFile pending = true) : Startable ⟨live, some pending⟩ := by
  intro other held invalid
  obtain rfl := Option.some.inj held
  exact absurd (invalid.symm.trans current) nofun

/-- The live file once a completed pending replacement has been finished. -/
def settledLive (file : AtomicFile) : Option (List UInt8) :=
  match file.temp with
  | some pending => if validateAnyCurrentRegionFile pending then some pending else file.live
  | none => file.live

theorem recover_live (file : AtomicFile) :
    (atomicFileRecover file validateAnyCurrentRegionFile none).2.live = settledLive file := by
  unfold settledLive
  cases held : file.temp with
  | none => rw [atomicFileRecover_without_temp _ _ held]
  | some pending =>
    cases valid : validateAnyCurrentRegionFile pending with
    | true =>
      rw [atomicFileRecover_promotes held valid]
      simp [valid]
    | false =>
      rw [atomicFileRecover_discards held valid]
      simp [valid]

theorem recover_settles (file : AtomicFile) :
    (atomicFileRecover file validateAnyCurrentRegionFile none).2.temp = none := by
  unfold atomicFileRecover
  split
  · assumption
  · dsimp only
    split
    · rfl
    · rfl

theorem recover_fails_iff (file : AtomicFile) :
    (atomicFileRecover file validateAnyCurrentRegionFile none).1 = false ↔
      ∃ pending, file.temp = some pending ∧ validateAnyCurrentRegionFile pending = false ∧
        file.live.any validateAnyCurrentRegionFile = false := by
  cases held : file.temp with
  | none =>
    rw [atomicFileRecover_without_temp _ _ held]
    simp
  | some pending =>
    cases valid : validateAnyCurrentRegionFile pending with
    | true =>
      rw [atomicFileRecover_promotes held valid]
      simp [valid]
    | false =>
      rw [atomicFileRecover_discards held valid]
      simp [valid]

theorem recover_live_of_failed {file : AtomicFile}
    (failed : (atomicFileRecover file validateAnyCurrentRegionFile none).1 = false) :
    (atomicFileRecover file validateAnyCurrentRegionFile none).2.live = file.live := by
  obtain ⟨pending, held, invalid, -⟩ := (recover_fails_iff file).mp failed
  rw [atomicFileRecover_discards held invalid]

theorem save_eq_replace (file : AtomicFile) (accepted : validateLegacyRegionFile map = true)
    (bound : keys.length ≤ regionMaxPrivateKeys) :
    (Startable file ∧ regionStoreSaveTransactionalFile file (some map) keys.length (fun index => keys[index]?)
      none none =
      atomicFileReplace (atomicFileRecover file validateAnyCurrentRegionFile none).2 (some (envelope map keys))
        validateTransactionalRegionFile none) ∨
    (¬ Startable file ∧ regionStoreSaveTransactionalFile file (some map) keys.length (fun index => keys[index]?)
      none none =
      (false, (atomicFileRecover file validateAnyCurrentRegionFile none).2)) := by
  obtain ⟨records, valid⟩ := Option.isSome_iff_exists.mp accepted
  obtain ⟨header, limit, -, -⟩ := validateRegionStructure_spec valid
  have inRange : ¬ ((keys.length : Int) < 0 ∨ (keys.length : Int) > regionMaxPrivateKeys) := by omega
  have written := writeTransactionalRegionEnvelope_eq header (limit.trans (by decide)) bound
  have settled := recover_settles file
  have live := @recover_live_of_failed file
  have fails := recover_fails_iff file
  unfold regionStoreSaveTransactionalFile
  rw [if_neg inRange]
  dsimp only
  rw [accepted, if_neg (by decide), written]
  generalize atomicFileRecover file validateAnyCurrentRegionFile none = outcome at *
  obtain ⟨recovered, after⟩ := outcome
  dsimp only at settled live fails ⊢
  rw [settled]
  cases recovered with
  | true =>
    refine Or.inl ⟨fun pending held invalid => ?_, by simp⟩
    by_contra unusable
    rw [not_or, Bool.not_eq_true] at unusable
    exact absurd (fails.mpr ⟨pending, held, invalid, unusable.1⟩) nofun
  | false =>
    obtain ⟨pending, held, invalid, stale⟩ := fails.mp rfl
    have none : file.live.any validateTransactionalRegionFile = false ∧
        file.live.any validateCurrentRegionFile = false := by
      cases present : file.live with
      | none => exact ⟨rfl, rfl⟩
      | some data =>
        rw [present] at stale
        exact Bool.or_eq_false_iff.mp stale
    rw [live rfl, none.1, none.2]
    cases legacy : file.live.any validateLegacyRegionFile with
    | true => exact Or.inl ⟨fun _ _ _ => Or.inr legacy, by simp⟩
    | false =>
      refine Or.inr ⟨fun startable => ?_, by simp⟩
      rcases startable pending held invalid with current | usable
      · exact absurd (stale.symm.trans current) nofun
      · exact absurd (legacy.symm.trans usable) nofun

/-- A save without faults succeeds exactly for keys that fit the map, and what it stores is read back
    exactly. A save that is turned away leaves the live file, or the pending replacement it has finished. -/
theorem region_envelope_round_trip (file : AtomicFile) (map : List UInt8)
    (accepted : validateLegacyRegionFile map = true) (keys : List RegionKey)
    (bound : keys.length ≤ regionMaxPrivateKeys) {saved : Bool} {after : AtomicFile}
    (outcome : regionStoreSaveTransactionalFile file (some map) keys.length (fun index => keys[index]?) none none =
      (saved, after)) :
    (saved = true ↔ KeysFit map keys ∧ Startable file) ∧
    (saved = true → regionStorePrepareLoad after = (.transactional, after) ∧
      regionStoreExtractTransactionalMap after = some map ∧
      ∀ {σ : Type} (loadKey : σ → RegionKey → Bool × σ) (ctx : σ),
        regionStoreLoadTransactionalKeys loadKey after ctx =
          match loadInOrder loadKey keys ctx with
          | (true, ctx) => ((keys.length : Int), ctx)
          | (false, ctx) => (-1, ctx)) ∧
    (saved = false → after.live = settledLive file) := by
  rcases save_eq_replace file accepted bound with ⟨startable, same⟩ | ⟨refused, same⟩
  · rw [same] at outcome
    by_cases fit : KeysFit map keys
    · have valid := (validate_envelope_iff accepted bound).mpr fit
      rw [atomicFileReplace_success valid] at outcome
      obtain ⟨rfl, rfl⟩ := Prod.mk.inj outcome
      refine ⟨by simp [fit, startable], fun _ => ⟨?_, ?_, ?_⟩, by simp⟩
      · simp [regionStorePrepareLoad, atomicFileRecover, valid]
      · exact extract_envelope accepted bound fit none
      · exact loadKeys_envelope accepted bound fit none
    · have invalid : validateTransactionalRegionFile (envelope map keys) = false := by
        rw [← Bool.not_eq_true, validate_envelope_iff accepted bound]
        exact fit
      rw [atomicFileReplace_invalid invalid] at outcome
      obtain ⟨rfl, rfl⟩ := Prod.mk.inj outcome
      exact ⟨by simp [fit], by simp, fun _ => recover_live file⟩
  · rw [same] at outcome
    obtain ⟨rfl, rfl⟩ := Prod.mk.inj outcome
    exact ⟨by simp [refused], by simp, fun _ => recover_live file⟩

/-- A map with the one private region `$a`. -/
def sampleMap : List UInt8 := [0, 0, 0, 0, 0, 0, 0, 0, 2, 0] ++ ([1, 0, 0, 0, 36, 97] ++ List.replicate 158 0)

def sampleKey : RegionKey := (1, .ofList 16 [7])

theorem sampleMap_accepted : validateLegacyRegionFile sampleMap = true := by decide +kernel

theorem sampleKey_fits : KeysFit sampleMap [sampleKey] := by
  refine ⟨by simp, fun key member => ?_⟩
  obtain rfl := List.mem_singleton.mp member
  exact ⟨by decide, ⟨0, by decide +kernel, by decide +kernel, by decide +kernel⟩, 7, by decide, by decide⟩

theorem sampleSave_reads_back : ∃ after,
    regionStoreSaveTransactionalFile ⟨none, none⟩ (some sampleMap) 1 (fun index => [sampleKey][index]?) none none =
      (true, after) ∧ regionStoreExtractTransactionalMap after = some sampleMap := by
  cases outcome : regionStoreSaveTransactionalFile ⟨none, none⟩ (some sampleMap) 1
      (fun index => [sampleKey][index]?) none none with
  | mk saved after =>
    obtain ⟨succeeds, reads, -⟩ :=
      region_envelope_round_trip ⟨none, none⟩ sampleMap sampleMap_accepted [sampleKey] (by decide) outcome
    have done := succeeds.mpr ⟨sampleKey_fits, nofun⟩
    exact ⟨after, by rw [done], (reads done).2.1⟩

/-- A save with a repeated id is turned away, but has promoted a pending replacement before. -/
theorem refusedSave_changes_live :
    ¬ ∀ (file : AtomicFile) (map : List UInt8) (keys : List RegionKey), validateLegacyRegionFile map = true →
      keys.length ≤ regionMaxPrivateKeys →
      (regionStoreSaveTransactionalFile file (some map) keys.length (fun index => keys[index]?) none none).1 = false →
      (regionStoreSaveTransactionalFile file (some map) keys.length (fun index => keys[index]?) none none).2.live =
        file.live := by
  intro unchanged
  have valid : validateTransactionalRegionFile (envelope sampleMap []) = true :=
    (validate_envelope_iff sampleMap_accepted (by decide)).mpr ⟨List.nodup_nil, nofun⟩
  have current : validateAnyCurrentRegionFile (envelope sampleMap []) = true := Bool.or_eq_true_iff.mpr (Or.inl valid)
  have repeated : validateTransactionalRegionFile (envelope sampleMap [sampleKey, sampleKey]) = false := by
    rw [← Bool.not_eq_true, validate_envelope_iff sampleMap_accepted (by decide)]
    exact fun fit => absurd fit.1 (by simp)
  have saved : regionStoreSaveTransactionalFile ⟨none, some (envelope sampleMap [])⟩ (some sampleMap)
      (([sampleKey, sampleKey].length : Nat) : Int) (fun index => [sampleKey, sampleKey][index]?) none none =
      (false, ⟨some (envelope sampleMap []), none⟩) := by
    rcases @save_eq_replace sampleMap [sampleKey, sampleKey] ⟨none, some (envelope sampleMap [])⟩ sampleMap_accepted
      (by decide) with ⟨-, saved⟩ | ⟨refused, -⟩
    · rw [saved, atomicFileRecover_promotes rfl current, atomicFileReplace_invalid repeated]
    · exact absurd (startable_of_pending current) refused
  have same := unchanged ⟨none, some (envelope sampleMap [])⟩ sampleMap [sampleKey, sampleKey] sampleMap_accepted
    (by decide) (by rw [saved])
  rw [saved] at same
  cases same

end Save

end SigurdOS.Mesh
