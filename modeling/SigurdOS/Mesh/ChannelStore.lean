import SigurdOS.Bytes.Fields
import SigurdOS.Library.KeyValue
import SigurdOS.Library.Runs

namespace SigurdOS.Mesh

open Bytes KeyValue

def channelStoreMax : Nat := 16

def channelCommitMagic : UInt32 := 0x43484E31

def checksumUpdate (checksum : UInt32) (data : List UInt8) : UInt32 :=
  data.foldl (fun checksum byte => (checksum ^^^ byte.toUInt32) * 16777619) checksum

/-- A channel as the buffers between the store and its callers hold it. -/
structure StoredChannel where
  name : FixedBytes 32
  secret : FixedBytes 32
  hash : FixedBytes 32
  deriving DecidableEq

inductive Value where
  | u8 (value : UInt8)
  | u32 (value : UInt32)
  | text (chars : List UInt8)
  | blob (bytes : List UInt8)
  deriving DecidableEq

abbrev Key := List Char

abbrev ChannelStoreKv := Store Key Value

def activeKey : Key := ['c', 'h', '_', 'a', 'c', 't', 'i', 'v', 'e']

def bankKey (bank index : Nat) (field : Char) : Key :=
  ['c', bank.digitChar, '_', (index / 10).digitChar, (index % 10).digitChar, '_', field]

def bankMetaKey (bank : Nat) (field : List Char) : Key := ['c', bank.digitChar, '_'] ++ field

def countField : List Char := ['c', 'n', 't']

def crcField : List Char := ['c', 'r', 'c']

def commitField : List Char := ['o', 'k']

def legacyCountKey : Key := ['c', 'h', '_', 'c', 'n', 't']

def legacyKey (index : Nat) (field : List Char) : Key := ['c', 'h', '_'] ++ Nat.toDigits 10 index ++ '_' :: field

namespace ChannelStoreKv

def has (entries : Key → Option Value) (key : Key) : Bool := (entries key).isSome

def getU8 (entries : Key → Option Value) (key : Key) (fallback : UInt8) : UInt8 :=
  match entries key with
  | some (.u8 value) => value
  | _ => fallback

def getU32 (entries : Key → Option Value) (key : Key) (fallback : UInt32) : UInt32 :=
  match entries key with
  | some (.u32 value) => value
  | _ => fallback

/-- The size of the string with its terminator, and the zeroed 32-byte buffer it is copied to. -/
def getString (entries : Key → Option Value) (key : Key) : Nat × FixedBytes 32 :=
  match entries key with
  | some (.text chars) => if chars.length + 1 ≤ 32 then (chars.length + 1, .ofList 32 chars) else (0, .ofList 32 [])
  | _ => (0, .ofList 32 [])

def getBytes (entries : Key → Option Value) (key : Key) : Nat × FixedBytes 32 :=
  match entries key with
  | some (.blob bytes) => if bytes.length ≤ 32 then (bytes.length, .ofList 32 bytes) else (0, .ofList 32 [])
  | _ => (0, .ofList 32 [])

end ChannelStoreKv

open ChannelStoreKv

def named (name : FixedBytes 32) : Bool := name.bytes.headD 0 != 0

def channelChecksum (checksum : UInt32) (channel : StoredChannel) : UInt32 :=
  checksumUpdate (checksumUpdate (checksumUpdate checksum channel.name.bytes) channel.secret.bytes) channel.hash.bytes

def countChecksum (count : Nat) : UInt32 := checksumUpdate 2166136261 [UInt8.ofNat count]

section Load

variable (entries : Key → Option Value)

/-- The loop of `validateBank` from an index on, with its running checksum. -/
def validateEntries (bank : Nat) : Nat → Nat → UInt32 → Option UInt32
  | 0, _, checksum => some checksum
  | remaining + 1, index, checksum =>
    let (nameLength, name) := getString entries (bankKey bank index 'n')
    if nameLength = 0 ∨ named name = false then none
    else
      let (secretLength, secret) := getBytes entries (bankKey bank index 's')
      if secretLength ≠ 32 then none
      else
        let (hashLength, hash) := getBytes entries (bankKey bank index 'h')
        if hashLength ≠ 32 then none
        else validateEntries bank remaining (index + 1) (channelChecksum checksum ⟨name, secret, hash⟩)

def validateBank (bank : Nat) : Option Nat :=
  let countKey := bankMetaKey bank countField
  let crcKey := bankMetaKey bank crcField
  let commitKey := bankMetaKey bank commitField
  if has entries countKey = false ∨ has entries crcKey = false ∨ has entries commitKey = false then none
  else
    let count := (getU8 entries countKey 0xFF).toNat
    if count > channelStoreMax then none
    else
      match validateEntries entries bank count 0 (countChecksum count) with
      | none => none
      | some checksum =>
        let storedCrc := getU32 entries crcKey 0
        let commit := getU32 entries commitKey 0
        if storedCrc ≠ checksum ∨ commit ≠ channelCommitMagic ^^^ checksum then none else some count

variable {σ : Type} (load : σ → StoredChannel → Bool × σ)

/-- One call of the load callback, counted when it accepts. -/
def deliver (state : Nat × σ) (channel : StoredChannel) : Nat × σ :=
  match load state.2 channel with
  | (true, ctx) => (state.1 + 1, ctx)
  | (false, ctx) => (state.1, ctx)

def applyEntries (bank : Nat) : Nat → Nat → Nat × σ → Nat × σ
  | 0, _, state => state
  | remaining + 1, index, state =>
    let name := (getString entries (bankKey bank index 'n')).2
    let secret := (getBytes entries (bankKey bank index 's')).2
    let hash := (getBytes entries (bankKey bank index 'h')).2
    applyEntries bank remaining (index + 1) (deliver load state ⟨name, secret, hash⟩)

def applyBank (bank count : Nat) (ctx : σ) : Nat × σ := applyEntries entries load bank count 0 (0, ctx)

def legacyEntries : Nat → Nat → Nat × σ → Nat × σ
  | 0, _, state => state
  | remaining + 1, index, state =>
    let (nameLength, name) := getString entries (legacyKey index ['n', 'a', 'm', 'e'])
    let (secretLength, secret) := getBytes entries (legacyKey index ['s', 'e', 'c'])
    let (hashLength, hash) := getBytes entries (legacyKey index ['h', 'a', 's', 'h'])
    if nameLength = 0 ∨ secretLength ≠ 32 ∨ hashLength ≠ 32 then legacyEntries remaining (index + 1) state
    else if named name then legacyEntries remaining (index + 1) (deliver load state ⟨name, secret, hash⟩)
    else legacyEntries remaining (index + 1) state

def loadLegacy (ctx : σ) : Nat × σ :=
  if has entries legacyCountKey = false then (0, ctx)
  else
    let count := (getU8 entries legacyCountKey 0).toNat
    if count > channelStoreMax then (0, ctx) else legacyEntries entries load count 0 (0, ctx)

/-- The corruption flag of the load, and what the callback was given: its count and context. -/
def channelStoreLoadTransactional (ctx : σ) : Bool × Nat × σ :=
  let marked := has entries activeKey
  let active := if marked then getU8 entries activeKey 0xFF else 0xFF
  let banks : List Nat := if active ≤ 1 then [active.toNat, active.toNat ^^^ 1] else if marked then [0, 1] else []
  match banks.findSome? fun bank => (validateBank entries bank).map (bank, ·) with
  | some (bank, count) => (false, applyBank entries load bank count ctx)
  | none => if marked then (true, 0, ctx) else (false, loadLegacy entries load ctx)

end Load

section Save

def channelWrites (target index : Nat) (channel : StoredChannel) : List (Key × Value) :=
  [(bankKey target index 'n', .text (terminated channel.name.bytes)),
   (bankKey target index 's', .blob channel.secret.bytes), (bankKey target index 'h', .blob channel.hash.bytes)]

def saveEntries (target : Nat) (read : Nat → Option StoredChannel) :
    Nat → Nat → UInt32 → ChannelStoreKv → Option UInt32 × ChannelStoreKv
  | 0, _, checksum, kv => (some checksum, kv)
  | remaining + 1, index, checksum, kv =>
    match read index with
    | none => (none, kv)
    | some channel =>
      if named channel.name = false then (none, kv)
      else
        match kv.putAll (channelWrites target index channel) with
        | (true, kv) => saveEntries target read remaining (index + 1) (channelChecksum checksum channel) kv
        | (false, kv) => (none, kv)

def saveTarget (entries : Key → Option Value) : Nat :=
  let active := if has entries activeKey then getU8 entries activeKey 0xFF else 0xFF
  if active ≤ 1 then active.toNat ^^^ 1 else 0

def commitWrites (target count : Nat) (checksum : UInt32) : List (Key × Value) :=
  [(bankMetaKey target countField, .u8 (UInt8.ofNat count)), (bankMetaKey target crcField, .u32 checksum),
   (bankMetaKey target commitField, .u32 (channelCommitMagic ^^^ checksum)), (activeKey, .u8 (UInt8.ofNat target))]

def channelStoreSaveTransactional (kv : ChannelStoreKv) (count : Int) (read : Nat → Option StoredChannel) :
    Bool × ChannelStoreKv :=
  if count < 0 ∨ count > channelStoreMax then (false, kv)
  else
    let target := saveTarget kv.entries
    match kv.put (bankMetaKey target commitField) (.u32 0) with
    | (false, kv) => (false, kv)
    | (true, kv) =>
      match saveEntries target read count.toNat 0 (countChecksum count.toNat) kv with
      | (none, kv) => (false, kv)
      | (some checksum, kv) => kv.putAll (commitWrites target count.toNat checksum)

end Save

section Banks

def InBank (bank : Nat) (key : Key) : Prop := ∃ rest, key = 'c' :: bank.digitChar :: rest

theorem bankKey_inBank (bank index : Nat) (field : Char) : InBank bank (bankKey bank index field) := ⟨_, rfl⟩

theorem bankMetaKey_inBank (bank : Nat) (field : List Char) : InBank bank (bankMetaKey bank field) := ⟨_, rfl⟩

theorem activeKey_not_inBank {bank : Nat} (bound : bank ≤ 1) : ¬ InBank bank activeKey := by
  rintro ⟨rest, same⟩
  interval_cases bank <;> simp [activeKey] at same

theorem legacyCountKey_not_inBank {bank : Nat} (bound : bank ≤ 1) : ¬ InBank bank legacyCountKey := by
  rintro ⟨rest, same⟩
  interval_cases bank <;> simp [legacyCountKey] at same

theorem legacyKey_not_inBank {bank : Nat} (bound : bank ≤ 1) (index : Nat) (field : List Char) :
    ¬ InBank bank (legacyKey index field) := by
  rintro ⟨rest, same⟩
  interval_cases bank <;> simp [legacyKey] at same

theorem other_not_inBank {bank : Nat} (bound : bank ≤ 1) {key : Key} (inside : InBank (bank ^^^ 1) key) :
    ¬ InBank bank key := by
  rintro ⟨rest, same⟩
  obtain ⟨other, rfl⟩ := inside
  interval_cases bank <;> cases same

theorem digitChar_inj {low high : Nat} (lowBound : low < 10) (highBound : high < 10)
    (same : low.digitChar = high.digitChar) : low = high := by
  interval_cases low <;> interval_cases high <;> first | rfl | cases same

theorem bankKey_inj {bank low high : Nat} {field other : Char} (lowBound : low < 16) (highBound : high < 16)
    (same : bankKey bank low field = bankKey bank high other) : low = high ∧ field = other := by
  simp only [bankKey, List.cons.injEq, true_and, and_true] at same
  obtain ⟨tens, ones, fields⟩ := same
  have tens := digitChar_inj (by omega) (by omega) tens
  have ones := digitChar_inj (by omega) (by omega) ones
  exact ⟨by omega, fields⟩

theorem bankKey_ne_meta {bank index : Nat} {field : Char} {letters : List Char}
    (listed : letters ∈ [countField, crcField, commitField]) : bankKey bank index field ≠ bankMetaKey bank letters := by
  intro same
  have lengths := congrArg List.length same
  simp only [List.mem_cons, List.not_mem_nil, or_false] at listed
  rcases listed with rfl | rfl | rfl <;> simp [bankKey, bankMetaKey, countField, crcField, commitField] at lengths

end Banks

section Writes

def entryWrites (target start : Nat) (channels : List StoredChannel) : List (Key × Value) :=
  (channels.zipIdx start).flatMap fun entry => channelWrites target entry.2 entry.1

def bankChecksum (channels : List StoredChannel) : UInt32 :=
  channels.foldl channelChecksum (countChecksum channels.length)

def bodyWrites (target : Nat) (channels : List StoredChannel) : List (Key × Value) :=
  entryWrites target 0 channels ++
    [(bankMetaKey target countField, .u8 (UInt8.ofNat channels.length)),
     (bankMetaKey target crcField, .u32 (bankChecksum channels)),
     (bankMetaKey target commitField, .u32 (channelCommitMagic ^^^ bankChecksum channels))]

def bankWrites (target : Nat) (channels : List StoredChannel) : List (Key × Value) :=
  (bankMetaKey target commitField, .u32 0) :: bodyWrites target channels

theorem saveEntries_eq_putAll {target : Nat} {read : Nat → Option StoredChannel} {channels : List StoredChannel}
    {start : Nat} (reads : ∀ index, read (start + index) = channels[index]?)
    (names : ∀ channel ∈ channels, named channel.name = true) (checksum : UInt32) (kv : ChannelStoreKv) :
    saveEntries target read channels.length start checksum kv =
      match kv.putAll (entryWrites target start channels) with
      | (true, kv) => (some (channels.foldl channelChecksum checksum), kv)
      | (false, kv) => (none, kv) := by
  induction channels generalizing start checksum kv with
  | nil => rfl
  | cons channel rest ih =>
    have first : read start = some channel := reads 0
    have later : ∀ index, read (start + 1 + index) = rest[index]? := by
      intro index
      rw [Nat.add_assoc, Nat.add_comm 1, reads (index + 1), List.getElem?_cons_succ]
    have isNamed : named channel.name = true := names channel List.mem_cons_self
    have unfolded : entryWrites target start (channel :: rest) =
        channelWrites target start channel ++ entryWrites target (start + 1) rest := by
      rw [entryWrites, List.zipIdx_cons, List.flatMap_cons, entryWrites]
    rw [List.length_cons, saveEntries, first, unfolded, putAll_append]
    dsimp only
    rw [isNamed, if_neg (by decide)]
    cases outcome : kv.putAll (channelWrites target start channel) with
    | mk done next =>
      cases done with
      | false => rfl
      | true => exact ih later (fun channel member => names channel (List.mem_cons_of_mem _ member)) _ next

theorem save_eq_putAll {channels : List StoredChannel} (bound : channels.length ≤ channelStoreMax)
    (names : ∀ channel ∈ channels, named channel.name = true) (kv : ChannelStoreKv) :
    channelStoreSaveTransactional kv channels.length (fun index => channels[index]?) =
      kv.putAll (bankWrites (saveTarget kv.entries) channels ++
        [(activeKey, .u8 (UInt8.ofNat (saveTarget kv.entries)))]) := by
  have inRange : ¬ ((channels.length : Int) < 0 ∨ (channels.length : Int) > channelStoreMax) := by omega
  rw [channelStoreSaveTransactional, if_neg inRange]
  dsimp only
  generalize saveTarget kv.entries = target
  rw [bankWrites, bodyWrites, List.cons_append, Store.putAll, Int.toNat_natCast]
  cases outcome : kv.put (bankMetaKey target commitField) (.u32 0) with
  | mk done next =>
    cases done with
    | false => rfl
    | true =>
      dsimp only
      rw [saveEntries_eq_putAll (by simp) names, List.append_assoc, putAll_append]
      cases next.putAll (entryWrites target 0 channels) with
      | mk done final =>
        cases done with
        | false => rfl
        | true => rfl

theorem entryWrites_spec {target : Nat} {channels : List StoredChannel} {write : Key × Value}
    (member : write ∈ entryWrites target 0 channels) :
    ∃ index channel, channels[index]? = some channel ∧ write ∈ channelWrites target index channel := by
  rw [entryWrites, List.mem_flatMap] at member
  obtain ⟨⟨channel, index⟩, listed, inside⟩ := member
  exact ⟨index, channel, List.mem_zipIdx_iff_getElem?.mp listed, inside⟩

theorem entryWrites_mem {target index : Nat} {channels : List StoredChannel} {channel : StoredChannel}
    (present : channels[index]? = some channel) {write : Key × Value}
    (inside : write ∈ channelWrites target index channel) : write ∈ entryWrites target 0 channels := by
  rw [entryWrites, List.mem_flatMap]
  exact ⟨(channel, index), List.mem_zipIdx_iff_getElem?.mpr present, inside⟩

theorem channelWrites_key {target index : Nat} {channel : StoredChannel} {write : Key × Value}
    (inside : write ∈ channelWrites target index channel) : ∃ field, write.1 = bankKey target index field := by
  simp only [channelWrites, List.mem_cons, List.not_mem_nil, or_false] at inside
  rcases inside with rfl | rfl | rfl
  · exact ⟨_, rfl⟩
  · exact ⟨_, rfl⟩
  · exact ⟨_, rfl⟩

theorem bankWrites_inBank {target : Nat} {channels : List StoredChannel} :
    ∀ write ∈ bankWrites target channels, InBank target write.1 := by
  intro write member
  simp only [bankWrites, bodyWrites, List.mem_cons, List.mem_append, List.not_mem_nil, or_false] at member
  rcases member with rfl | member | rfl | rfl | rfl
  · exact bankMetaKey_inBank _ _
  · obtain ⟨index, channel, -, inside⟩ := entryWrites_spec member
    obtain ⟨field, same⟩ := channelWrites_key inside
    exact same ▸ bankKey_inBank _ _ _
  · exact bankMetaKey_inBank _ _
  · exact bankMetaKey_inBank _ _
  · exact bankMetaKey_inBank _ _

end Writes

section Held

structure BankHolds (entries : Key → Option Value) (bank : Nat) (channels : List StoredChannel) : Prop where
  count : entries (bankMetaKey bank countField) = some (.u8 (UInt8.ofNat channels.length))
  crc : entries (bankMetaKey bank crcField) = some (.u32 (bankChecksum channels))
  commit : entries (bankMetaKey bank commitField) = some (.u32 (channelCommitMagic ^^^ bankChecksum channels))
  held : ∀ index channel, channels[index]? = some channel →
    ∀ write ∈ channelWrites bank index channel, entries write.1 = some write.2

theorem BankHolds.congr {entries after : Key → Option Value} {bank : Nat} {channels : List StoredChannel}
    (holds : BankHolds entries bank channels) (same : ∀ key, InBank bank key → after key = entries key) :
    BankHolds after bank channels where
  count := (same _ (bankMetaKey_inBank _ _)).trans holds.count
  crc := (same _ (bankMetaKey_inBank _ _)).trans holds.crc
  commit := (same _ (bankMetaKey_inBank _ _)).trans holds.commit
  held := by
    intro index channel present write inside
    obtain ⟨field, key⟩ := channelWrites_key inside
    have inBank : InBank bank write.1 := key ▸ bankKey_inBank _ _ _
    exact (same _ inBank).trans (holds.held index channel present write inside)

theorem channelWrites_agree {bank index : Nat} {channel : StoredChannel} {first second : Key × Value}
    (left : first ∈ channelWrites bank index channel) (right : second ∈ channelWrites bank index channel)
    (same : first.1 = second.1) : first.2 = second.2 := by
  simp only [channelWrites, List.mem_cons, List.not_mem_nil, or_false] at left right
  rcases left with rfl | rfl | rfl <;> rcases right with rfl | rfl | rfl <;>
    first | rfl | simp [bankKey] at same

theorem entryWrites_ne_meta {bank : Nat} {channels : List StoredChannel} {entry : Key × Value}
    (inside : entry ∈ entryWrites bank 0 channels) {letters : List Char}
    (known : letters ∈ [countField, crcField, commitField]) : entry.1 ≠ bankMetaKey bank letters := by
  obtain ⟨index, channel, -, inside⟩ := entryWrites_spec inside
  obtain ⟨field, key⟩ := channelWrites_key inside
  exact key ▸ bankKey_ne_meta known

theorem entryWrites_agree {bank : Nat} {channels : List StoredChannel} (bound : channels.length ≤ channelStoreMax)
    {first second : Key × Value} (left : first ∈ entryWrites bank 0 channels)
    (right : second ∈ entryWrites bank 0 channels) (same : first.1 = second.1) : first.2 = second.2 := by
  have inRange {index : Nat} {channel : StoredChannel} (present : channels[index]? = some channel) : index < 16 :=
    (List.getElem?_eq_some_iff.mp present).1.trans_le bound
  obtain ⟨low, channel, present, inside⟩ := entryWrites_spec left
  obtain ⟨high, other, there, within⟩ := entryWrites_spec right
  obtain ⟨field, key⟩ := channelWrites_key inside
  obtain ⟨letter, name⟩ := channelWrites_key within
  have keys : bankKey bank low field = bankKey bank high letter := by rw [← key, ← name, same]
  obtain ⟨rfl, -⟩ := bankKey_inj (inRange present) (inRange there) keys
  obtain rfl := Option.some.inj (present.symm.trans there)
  exact channelWrites_agree inside within same

theorem bodyWrites_agree {bank : Nat} {channels : List StoredChannel} (bound : channels.length ≤ channelStoreMax)
    {first second : Key × Value} (left : first ∈ bodyWrites bank channels) (right : second ∈ bodyWrites bank channels)
    (same : first.1 = second.1) : first.2 = second.2 := by
  simp only [bodyWrites, List.mem_append, List.mem_cons, List.not_mem_nil, or_false] at left right
  rcases left with left | rfl | rfl | rfl
  · rcases right with right | rfl | rfl | rfl
    · exact entryWrites_agree bound left right same
    · exact absurd same (entryWrites_ne_meta left (by simp))
    · exact absurd same (entryWrites_ne_meta left (by simp))
    · exact absurd same (entryWrites_ne_meta left (by simp))
  all_goals
    rcases right with right | rfl | rfl | rfl
    · exact absurd same.symm (entryWrites_ne_meta right (by simp))
    all_goals first | rfl | simp [bankMetaKey, countField, crcField, commitField] at same

theorem written_bankHolds {channels : List StoredChannel} (bound : channels.length ≤ channelStoreMax)
    (entries : Key → Option Value) (bank : Nat) :
    BankHolds (written entries (bankWrites bank channels)) bank channels := by
  have stored (key : Key) (value : Value) (member : (key, value) ∈ bodyWrites bank channels) :
      written entries (bankWrites bank channels) key = some value := by
    rw [bankWrites, written, List.foldl_cons]
    exact written_eq member fun other listed same => bodyWrites_agree bound listed member same
  exact {
    count := stored _ _ (by simp [bodyWrites])
    crc := stored _ _ (by simp [bodyWrites])
    commit := stored _ _ (by simp [bodyWrites])
    held := fun index channel present write inside =>
      stored _ _ (List.mem_append_left _ (entryWrites_mem present inside)) }

def NulPadded (name : FixedBytes 32) : Prop :=
  (terminated name.bytes).length < 32 ∧ name = .ofList 32 (terminated name.bytes) ∧ named name = true

instance (name : FixedBytes 32) : Decidable (NulPadded name) := inferInstanceAs (Decidable (_ ∧ _ ∧ _))

variable {entries : Key → Option Value} {bank : Nat} {channels : List StoredChannel}

theorem getString_of_padded {key : Key} {name : FixedBytes 32} (padded : NulPadded name)
    (held : entries key = some (.text (terminated name.bytes))) :
    getString entries key = ((terminated name.bytes).length + 1, name) := by
  rw [getString, held]
  dsimp only
  rw [if_pos (by have := padded.1; omega), ← padded.2.1]

theorem getBytes_of_held {key : Key} {bytes : FixedBytes 32} (held : entries key = some (.blob bytes.bytes)) :
    getBytes entries key = (32, bytes) := by
  rw [getBytes, held]
  dsimp only
  rw [bytes.length_eq, if_pos le_rfl, FixedBytes.ofList_bytes]

theorem validateEntries_held (padded : ∀ channel ∈ channels, NulPadded channel.name) {start : Nat}
    (held : ∀ index channel, channels[index]? = some channel →
      ∀ write ∈ channelWrites bank (start + index) channel, entries write.1 = some write.2) (checksum : UInt32) :
    validateEntries entries bank channels.length start checksum = some (channels.foldl channelChecksum checksum) := by
  induction channels generalizing start checksum with
  | nil => rfl
  | cons channel rest ih =>
    have here := held 0 channel rfl
    have named := padded channel List.mem_cons_self
    rw [List.length_cons, validateEntries,
      getString_of_padded named (here (_, .text _) (by simp [channelWrites])),
      getBytes_of_held (here (bankKey bank start 's', .blob channel.secret.bytes) (by simp [channelWrites])),
      getBytes_of_held (here (bankKey bank start 'h', .blob channel.hash.bytes) (by simp [channelWrites]))]
    dsimp only
    rw [if_neg (by simp [named.2.2]), if_neg (by simp), if_neg (by simp), List.foldl_cons]
    apply ih fun channel member => padded channel (List.mem_cons_of_mem _ member)
    intro index channel present write inside
    exact held (index + 1) channel present write (by rwa [Nat.add_assoc, Nat.add_comm 1 index] at inside)

theorem applyEntries_held {σ : Type} (load : σ → StoredChannel → Bool × σ)
    (padded : ∀ channel ∈ channels, NulPadded channel.name) {start : Nat}
    (held : ∀ index channel, channels[index]? = some channel →
      ∀ write ∈ channelWrites bank (start + index) channel, entries write.1 = some write.2) (state : Nat × σ) :
    applyEntries entries load bank channels.length start state = channels.foldl (deliver load) state := by
  induction channels generalizing start state with
  | nil => rfl
  | cons channel rest ih =>
    have here := held 0 channel rfl
    have named := padded channel List.mem_cons_self
    rw [List.length_cons, applyEntries,
      getString_of_padded named (here (_, .text _) (by simp [channelWrites])),
      getBytes_of_held (here (bankKey bank start 's', .blob channel.secret.bytes) (by simp [channelWrites])),
      getBytes_of_held (here (bankKey bank start 'h', .blob channel.hash.bytes) (by simp [channelWrites])),
      List.foldl_cons]
    apply ih fun channel member => padded channel (List.mem_cons_of_mem _ member)
    intro index channel present write inside
    exact held (index + 1) channel present write (by rwa [Nat.add_assoc, Nat.add_comm 1 index] at inside)

theorem validateBank_held (holds : BankHolds entries bank channels) (bound : channels.length ≤ channelStoreMax)
    (padded : ∀ channel ∈ channels, NulPadded channel.name) : validateBank entries bank = some channels.length := by
  have small : channels.length ≤ 16 := bound
  have count : (getU8 entries (bankMetaKey bank countField) 0xFF).toNat = channels.length := by
    rw [getU8, holds.count]
    exact Nat.mod_eq_of_lt (by omega)
  have present :
      ¬ (has entries (bankMetaKey bank countField) = false ∨ has entries (bankMetaKey bank crcField) = false ∨
      has entries (bankMetaKey bank commitField) = false) := by
    simp [has, holds.count, holds.crc, holds.commit]
  have crc : getU32 entries (bankMetaKey bank crcField) 0 = bankChecksum channels := by rw [getU32, holds.crc]
  have commit : getU32 entries (bankMetaKey bank commitField) 0 = channelCommitMagic ^^^ bankChecksum channels := by
    rw [getU32, holds.commit]
  have checked : validateEntries entries bank channels.length 0 (countChecksum channels.length) =
      some (bankChecksum channels) :=
    validateEntries_held padded (fun index channel there => by simpa using holds.held index channel there) _
  unfold validateBank
  dsimp only
  rw [if_neg present, count, if_neg (by omega), checked]
  dsimp only
  rw [crc, commit, if_neg (by simp)]

theorem applyBank_held {σ : Type} (load : σ → StoredChannel → Bool × σ) (ctx : σ)
    (holds : BankHolds entries bank channels) (padded : ∀ channel ∈ channels, NulPadded channel.name) :
    applyBank entries load bank channels.length ctx = channels.foldl (deliver load) (0, ctx) :=
  applyEntries_held load padded (fun index channel there => by simpa using holds.held index channel there) _

end Held

section Runs

/-- One call, and how many of its puts take effect before it stops (`none`: it runs to its end). -/
structure SaveCall where
  channels : List StoredChannel
  puts : Option Nat

/-- The medium, and the channels of the last call whose `ch_active` put took effect. -/
structure ChannelHistory where
  entries : Key → Option Value
  committed : Option (List StoredChannel)

def saveStep (history : ChannelHistory) (call : SaveCall) : ChannelHistory :=
  match channelStoreSaveTransactional ⟨history.entries, call.puts⟩ call.channels.length
      (fun index => call.channels[index]?) with
  | (true, kv) => ⟨kv.entries, some call.channels⟩
  | (false, kv) => ⟨kv.entries, history.committed⟩

def SaveCall.WellFormed (call : SaveCall) : Prop :=
  call.channels.length ≤ channelStoreMax ∧ ∀ channel ∈ call.channels, NulPadded channel.name

instance (call : SaveCall) : Decidable call.WellFormed := inferInstanceAs (Decidable (_ ∧ _))

/-- The active bank holds the committed channels; before the first commit only bank keys have changed. -/
def Consistent (initial : Key → Option Value) (history : ChannelHistory) : Prop :=
  match history.committed with
  | none => history.entries activeKey = none ∧
      ∀ key, ¬ InBank 0 key → ¬ InBank 1 key → history.entries key = initial key
  | some channels => ∃ bank, bank ≤ 1 ∧ history.entries activeKey = some (.u8 (UInt8.ofNat bank)) ∧
      BankHolds history.entries bank channels ∧ channels.length ≤ channelStoreMax ∧
      ∀ channel ∈ channels, NulPadded channel.name

variable {initial : Key → Option Value} {history : ChannelHistory}

theorem saveTarget_le_one (entries : Key → Option Value) : saveTarget entries ≤ 1 := by
  unfold saveTarget
  dsimp only
  generalize (if has entries activeKey then getU8 entries activeKey 0xFF else 0xFF) = active
  split
  · rename_i small
    have bound : active.toNat ≤ 1 := small
    interval_cases active.toNat <;> decide
  · exact Nat.zero_le 1

theorem saveTarget_of_active {entries : Key → Option Value} {bank : Nat} (bound : bank ≤ 1)
    (active : entries activeKey = some (.u8 (UInt8.ofNat bank))) : saveTarget entries = bank ^^^ 1 := by
  unfold saveTarget has getU8
  rw [active]
  interval_cases bank <;> decide

theorem saveStep_consistent {call : SaveCall} (consistent : Consistent initial history) (wellFormed : call.WellFormed) :
    Consistent initial (saveStep history call) := by
  have names : ∀ channel ∈ call.channels, named channel.name = true :=
    fun channel member => (wellFormed.2 channel member).2.2
  have target := saveTarget_le_one history.entries
  rw [saveStep, save_eq_putAll wellFormed.1 names]
  generalize known : saveTarget history.entries = bank at target
  cases outcome : Store.putAll ⟨history.entries, call.puts⟩
      (bankWrites bank call.channels ++ [(activeKey, .u8 (UInt8.ofNat bank))]) with
  | mk done after =>
    cases done with
    | true =>
      refine ⟨bank, target, ?_, ?_, wellFormed⟩ <;> dsimp only
      · rw [putAll_done outcome, written_concat, Function.update_self]
      · rw [putAll_done outcome, written_concat]
        apply (written_bankHolds wellFormed.1 history.entries bank).congr
        intro key inside
        have apart : key ≠ activeKey := by
          rintro rfl
          exact activeKey_not_inBank target inside
        rw [Function.update_of_ne apart]
    | false =>
      -- Without the last put only the target bank has changed, and that is never the active one.
      have frame (key : Key) (outside : ¬ InBank bank key) : after.entries key = history.entries key := by
        rw [putAll_concat_failed outcome]
        exact putAll_frame fun write member same => outside (same ▸ bankWrites_inBank write member)
      unfold Consistent at consistent ⊢
      dsimp only
      cases committed : history.committed with
      | none =>
        rw [committed] at consistent
        obtain ⟨unmarked, untouched⟩ := consistent
        refine ⟨(frame _ (activeKey_not_inBank target)).trans unmarked, fun key first second => ?_⟩
        have outside : ¬ InBank bank key := by interval_cases bank <;> assumption
        exact (frame key outside).trans (untouched key first second)
      | some channels =>
        rw [committed] at consistent
        obtain ⟨active, bound, marker, holds, wellFormed⟩ := consistent
        refine ⟨active, bound, (frame _ (activeKey_not_inBank target)).trans marker, ?_, wellFormed⟩
        apply holds.congr
        intro key inside
        rw [saveTarget_of_active bound marker] at known
        have apart : InBank (bank ^^^ 1) key := by
          rw [← known]
          interval_cases active <;> exact inside
        exact frame key (other_not_inBank target apart)

theorem loadLegacy_congr {entries after : Key → Option Value} {σ : Type} (load : σ → StoredChannel → Bool × σ) (ctx : σ)
    (count : after legacyCountKey = entries legacyCountKey)
    (same : ∀ index field, after (legacyKey index field) = entries (legacyKey index field)) :
    loadLegacy after load ctx = loadLegacy entries load ctx := by
  have strings (index : Nat) (field : List Char) :
      getString after (legacyKey index field) = getString entries (legacyKey index field) := by
    rw [getString, same, ← getString]
  have blobs (index : Nat) (field : List Char) :
      getBytes after (legacyKey index field) = getBytes entries (legacyKey index field) := by
    rw [getBytes, same, ← getBytes]
  have body (remaining index : Nat) (state : Nat × σ) :
      legacyEntries after load remaining index state = legacyEntries entries load remaining index state := by
    induction remaining generalizing index state with
    | zero => rfl
    | succ remaining ih =>
      simp only [legacyEntries, strings, blobs, ih]
  have number : getU8 after legacyCountKey 0 = getU8 entries legacyCountKey 0 := by rw [getU8, count, ← getU8]
  have present : has after legacyCountKey = has entries legacyCountKey := by rw [has, count, ← has]
  rw [loadLegacy, loadLegacy, present, number]
  dsimp only
  rw [body]

/-- After any run of saves, interrupted at any put, the load delivers the channels of the last
    committed call, or what the legacy keys hold when none has committed. -/
theorem channel_saves_crash_atomic (initial : Key → Option Value) (unmarked : initial activeKey = none)
    (calls : List SaveCall) (wellFormed : ∀ call ∈ calls, call.WellFormed) {σ : Type}
    (load : σ → StoredChannel → Bool × σ) (ctx : σ) :
    channelStoreLoadTransactional (Runs.run saveStep ⟨initial, none⟩ calls).entries load ctx =
      (false, match (Runs.run saveStep ⟨initial, none⟩ calls).committed with
        | some channels => channels.foldl (deliver load) (0, ctx)
        | none => loadLegacy initial load ctx) := by
  have start : Consistent initial ⟨initial, none⟩ := ⟨unmarked, fun _ _ _ => rfl⟩
  have consistent : Consistent initial (Runs.run saveStep ⟨initial, none⟩ calls) := by
    generalize (⟨initial, none⟩ : ChannelHistory) = history at start
    induction calls generalizing history with
    | nil => exact start
    | cons call rest ih =>
      exact ih (fun call member => wellFormed call (List.mem_cons_of_mem _ member)) _
        (saveStep_consistent start (wellFormed call List.mem_cons_self))
  generalize Runs.run saveStep ⟨initial, none⟩ calls = history at consistent
  unfold Consistent at consistent
  unfold channelStoreLoadTransactional
  cases committed : history.committed with
  | none =>
    rw [committed] at consistent
    obtain ⟨absent, untouched⟩ := consistent
    have marked : has history.entries activeKey = false := by rw [has, absent]; rfl
    have legacy : loadLegacy history.entries load ctx = loadLegacy initial load ctx := by
      apply loadLegacy_congr
      · exact untouched _ (legacyCountKey_not_inBank (by omega)) (legacyCountKey_not_inBank le_rfl)
      · exact fun index field => untouched _ (legacyKey_not_inBank (by omega) _ _) (legacyKey_not_inBank le_rfl _ _)
    rw [marked, ← legacy]
    rfl
  | some channels =>
    rw [committed] at consistent
    obtain ⟨bank, bound, marker, holds, small, padded⟩ := consistent
    have marked : has history.entries activeKey = true := by rw [has, marker]; rfl
    have active : getU8 history.entries activeKey 0xFF = UInt8.ofNat bank := by rw [getU8, marker]
    have number : (UInt8.ofNat bank).toNat = bank := Nat.mod_eq_of_lt (by omega)
    have first : UInt8.ofNat bank ≤ 1 := by
      change (UInt8.ofNat bank).toNat ≤ 1
      omega
    rw [marked, active]
    dsimp only
    rw [if_pos rfl, if_pos first, number, List.findSome?_cons, validateBank_held holds small padded]
    dsimp only [Option.map_some]
    rw [applyBank_held load ctx holds padded]

def sampleChannel (letter byte : UInt8) : StoredChannel :=
  ⟨.ofList 32 [letter], .ofList 32 [byte], .ofList 32 [byte, byte]⟩

/-- Two channels are committed, then a save of one channel loses power at its seventh put. -/
theorem interruptedSave_keeps_channels :
    channelStoreLoadTransactional (Runs.run saveStep ⟨fun _ => none, none⟩
      [⟨[sampleChannel 65 1, sampleChannel 66 2], none⟩, ⟨[sampleChannel 67 3], some 6⟩]).entries
      (fun seen channel => (true, seen ++ [channel])) [] =
    (false, 2, [sampleChannel 65 1, sampleChannel 66 2]) := by
  refine (channel_saves_crash_atomic (fun _ => none) rfl
    [⟨[sampleChannel 65 1, sampleChannel 66 2], none⟩, ⟨[sampleChannel 67 3], some 6⟩] (by decide)
    (fun seen channel => (true, seen ++ [channel])) []).trans ?_
  decide +kernel

end Runs

end SigurdOS.Mesh
