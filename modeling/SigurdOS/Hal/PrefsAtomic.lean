import SigurdOS.Hal.Prefs

namespace SigurdOS.Prefs

open Bytes KeyValue StagedCommit

section Reads

def prefsKeys (mode : BlePrefsWriteMode) : List String := (prefsWriteAll setDefaults mode).map Prod.fst

theorem prefsWriteAll_keys (prefs : NodePrefs) (mode : BlePrefsWriteMode) :
    (prefsWriteAll prefs mode).map Prod.fst = prefsKeys mode := by
  cases mode <;> rfl

theorem handleKeys_nodup (mode : BlePrefsWriteMode) : (prefsKeys mode ++ ["tr_tcp", "tr_ws", "lang"]).Nodup := by
  cases mode <;> decide +kernel

theorem prefsKeys_nodup (mode : BlePrefsWriteMode) : (prefsKeys mode).Nodup :=
  (List.nodup_append.mp (handleKeys_nodup mode)).1

theorem apart_prefsKeys {key : String} (later : key ∈ ["tr_tcp", "tr_ws", "lang"]) (mode : BlePrefsWriteMode) :
    key ∉ prefsKeys mode :=
  fun inside => (List.nodup_append.mp (handleKeys_nodup mode)).2.2 key inside key later rfl

theorem prefsWriteAll_frame {mode : BlePrefsWriteMode} {key : String} (absent : key ∉ prefsKeys mode)
    (prefs : NodePrefs) (nvs : Entries) : written nvs (prefsWriteAll prefs mode) key = nvs key := by
  apply written_absent
  rwa [prefsWriteAll_keys]

/-- The entries hold what the shared writer sets. -/
def Reads (nvs : Entries) (prefs : NodePrefs) (mode : BlePrefsWriteMode) : Prop :=
  ∀ write ∈ prefsWriteAll prefs mode, nvs write.1 = some write.2

theorem reads_written (nvs : Entries) (prefs : NodePrefs) (mode : BlePrefsWriteMode) :
    Reads (written nvs (prefsWriteAll prefs mode)) prefs mode := by
  apply written_reads
  rw [prefsWriteAll_keys]
  exact prefsKeys_nodup mode

theorem Reads.written {nvs : Entries} {prefs : NodePrefs} {mode : BlePrefsWriteMode} (reads : Reads nvs prefs mode)
    {writes : List (String × NvsValue)} (others : ∀ key ∈ prefsKeys mode, key ∉ writes.map Prod.fst) :
    Reads (written nvs writes) prefs mode := by
  intro write member
  have key : write.1 ∈ prefsKeys mode := by
    rw [← prefsWriteAll_keys prefs mode]
    exact List.mem_map_of_mem member
  rw [written_absent (others write.1 key)]
  exact reads write member

theorem txPowerBound_inside {power : Int8} (low : -9 ≤ power) (high : power ≤ 22) : txPowerBound power = power := by
  rw [txPowerBound, if_neg (Int8.not_lt.mpr low), if_neg (Int8.not_lt.mpr high)]

theorem readPrefs_reads {nvs : Entries} {prefs : NodePrefs} {mode : BlePrefsWriteMode} (reads : Reads nvs prefs mode)
    (bounded : prefs.bounded = prefs) (power : txPowerBound prefs.txPowerDbm = prefs.txPowerDbm) (bleBuild : Bool)
    (before : NodePrefs) :
    readPrefs bleBuild nvs before = prefs.withApart (readPrefs bleBuild nvs before) := by
  have layout := congrArg NodePrefs.kbdLayout bounded
  have brightness := congrArg NodePrefs.displayBrightness bounded
  have airtime := congrArg NodePrefs.airtimeFactor bounded
  have gps := congrArg NodePrefs.gpsInterval bounded
  have track := congrArg NodePrefs.gpsTrackInterval bounded
  have hash := congrArg NodePrefs.pathHashMode bounded
  simp only [NodePrefs.bounded] at layout brightness airtime gps track hash
  simp only [Reads, prefsWriteAll, List.forall_mem_append, List.forall_mem_cons] at reads
  obtain ⟨⟨first, -⟩, last⟩ := reads
  simp only [readPrefs, NodePrefs.withApart, getString, getFloat, getUChar, getChar, getBool, getUShort, getInt,
    getULong, isKey, flag, first, last, bufferString_chars, blobFloat_toBytes, flag_one, Option.getD_some,
    Option.isSome_some, if_true, layout, brightness, airtime, gps, track, hash, power]

end Reads

section Stored

def stored (bleBuild : Bool) (nvs : Option Entries) : NodePrefs := (prefsLoad bleBuild none setDefaults nvs).2.1

theorem prefsGet_boot (bleBuild : Bool) (nvs : Option Entries) :
    (prefsGet bleBuild (.boot nvs)).1 = stored bleBuild nvs := rfl

theorem stored_some (bleBuild : Bool) (nvs : Entries) :
    stored bleBuild (some nvs) = (normalizeAndValidate (readPrefs bleBuild nvs setDefaults)).2 := by
  rw [stored, prefsLoad]
  split <;> rfl

theorem stored_apart (bleBuild : Bool) (nvs : Entries) :
    (stored bleBuild (some nvs)).language = knownLanguage (getUChar nvs "lang" 0) ∧
      (stored bleBuild (some nvs)).transportTcpEnabled = getBool nvs "tr_tcp" false ∧
      (stored bleBuild (some nvs)).transportWsEnabled = getBool nvs "tr_ws" false ∧
      (stored bleBuild (some nvs)).bleEnabled =
        (if bleBuild then (bleState bleBuild nvs).enabled else getBool nvs "ble_en" bleBuild) ∧
      (stored bleBuild (some nvs)).bleUserSet =
        (if bleBuild then (bleState bleBuild nvs).userSet else getBool nvs "ble_user" false) := by
  rw [stored_some]
  exact apart_normalized _

theorem candidate_eq (prefs : NodePrefs) :
    candidate prefs = (normalizeAndValidate prefs).2.withApart
      { prefs with language := knownLanguage prefs.language } := by
  obtain ⟨language, tcp, ws, enabled, user⟩ := apart_normalized prefs
  rw [candidate, language, NodePrefs.withApart, ← tcp, ← ws, ← enabled, ← user]

theorem candidate_normal (prefs : NodePrefs) : (normalizeAndValidate (candidate prefs)).2 = candidate prefs := by
  rw [candidate_eq, normalizeAndValidate_withApart, normalizeAndValidate_idem]

theorem candidate_bounded (prefs : NodePrefs) : (candidate prefs).bounded = candidate prefs := by
  have bounded := bounded_normalized (candidate prefs)
  rwa [candidate_normal] at bounded

theorem candidate_power (prefs : NodePrefs) :
    txPowerBound (candidate prefs).txPowerDbm = (candidate prefs).txPowerDbm :=
  txPowerBound_inside (txPowerDbm_normalized prefs).1 (txPowerDbm_normalized prefs).2

@[simp] theorem knownLanguage_idem (language : UInt8) :
    knownLanguage (knownLanguage language) = knownLanguage language := by
  by_cases unknown : languageCount ≤ language
  · have english : knownLanguage language = 0 := if_pos unknown
    rw [english]
    rfl
  · have kept : knownLanguage language = language := if_neg unknown
    rw [kept, kept]

theorem candidate_language (prefs : NodePrefs) :
    knownLanguage (candidate prefs).language = (candidate prefs).language :=
  knownLanguage_idem _

theorem stored_reads {nvs : Entries} {prefs : NodePrefs} {mode : BlePrefsWriteMode}
    (reads : Reads nvs (candidate prefs) mode) (bleBuild : Bool) :
    stored bleBuild (some nvs) = (candidate prefs).withApart (stored bleBuild (some nvs)) := by
  obtain ⟨language, tcp, ws, enabled, user⟩ := apart_normalized (readPrefs bleBuild nvs setDefaults)
  have read := readPrefs_reads reads (candidate_bounded prefs) (candidate_power prefs) bleBuild setDefaults
  have kept : (normalizeAndValidate (readPrefs bleBuild nvs setDefaults)).2 =
      (candidate prefs).withApart (readPrefs bleBuild nvs setDefaults) := by
    rw [read, normalizeAndValidate_withApart, candidate_normal]
    rfl
  rw [stored_some]
  conv_rhs => rw [NodePrefs.withApart, language, tcp, ws, enabled, user]
  exact kept

/-- The record with the fields of the first so many handles from `new`, the others from `old`. -/
def mixed (bleBuild : Bool) (new old : NodePrefs) : Nat → NodePrefs
  | 0 => old
  | more + 1 => new.withApart
      { language := if 2 ≤ more then new.language else old.language
        transportTcpEnabled := if 1 ≤ more then new.transportTcpEnabled else old.transportTcpEnabled
        transportWsEnabled := if 1 ≤ more then new.transportWsEnabled else old.transportWsEnabled
        bleEnabled := if bleBuild then new.bleEnabled else old.bleEnabled
        bleUserSet := if bleBuild then new.bleUserSet else old.bleUserSet
        __ := old }

theorem bleState_reads {nvs : Entries} {prefs : NodePrefs} (reads : Reads nvs prefs .write) :
    bleState true nvs = ⟨prefs.bleEnabled, prefs.bleUserSet, false⟩ := by
  simp only [Reads, prefsWriteAll, List.forall_mem_append, List.forall_mem_cons] at reads
  obtain ⟨⟨-, ble⟩, -⟩ := reads
  simp [bleState, resolveBlePrefs, getBool, getUChar, isKey, flag, ble, blePrefsSchemaVersion]

theorem stored_mixed {bleBuild : Bool} {nvs after : Entries} {prefs : NodePrefs} {more : Nat}
    (reads : Reads after (candidate prefs) (bleMode bleBuild))
    (ble : bleBuild = false → after "ble_en" = nvs "ble_en" ∧ after "ble_user" = nvs "ble_user")
    (tcp : after "tr_tcp" = if 1 ≤ more then some (flag (candidate prefs).transportTcpEnabled) else nvs "tr_tcp")
    (ws : after "tr_ws" = if 1 ≤ more then some (flag (candidate prefs).transportWsEnabled) else nvs "tr_ws")
    (lang : after "lang" = if 2 ≤ more then some (.u8 (candidate prefs).language) else nvs "lang") :
    stored bleBuild (some after) = mixed bleBuild (candidate prefs) (stored bleBuild (some nvs)) (more + 1) := by
  rw [stored_reads reads, mixed]
  obtain ⟨languageNow, tcpNow, wsNow, enabledNow, userNow⟩ := stored_apart bleBuild after
  obtain ⟨languageThen, tcpThen, wsThen, enabledThen, userThen⟩ := stored_apart bleBuild nvs
  have language : (stored bleBuild (some after)).language =
      if 2 ≤ more then (candidate prefs).language else (stored bleBuild (some nvs)).language := by
    rw [languageNow, languageThen]
    by_cases committed : 2 ≤ more
    · rw [if_pos committed] at lang ⊢
      rw [getUChar_found lang, candidate_language]
    · rw [if_neg committed] at lang ⊢
      rw [getUChar_same lang]
  have transportTcp : (stored bleBuild (some after)).transportTcpEnabled =
      if 1 ≤ more then (candidate prefs).transportTcpEnabled else (stored bleBuild (some nvs)).transportTcpEnabled := by
    rw [tcpNow, tcpThen]
    by_cases committed : 1 ≤ more
    · rw [if_pos committed] at tcp ⊢
      exact getBool_found tcp false
    · rw [if_neg committed] at tcp ⊢
      exact getBool_same tcp false
  have transportWs : (stored bleBuild (some after)).transportWsEnabled =
      if 1 ≤ more then (candidate prefs).transportWsEnabled else (stored bleBuild (some nvs)).transportWsEnabled := by
    rw [wsNow, wsThen]
    by_cases committed : 1 ≤ more
    · rw [if_pos committed] at ws ⊢
      exact getBool_found ws false
    · rw [if_neg committed] at ws ⊢
      exact getBool_same ws false
  have enabled : (stored bleBuild (some after)).bleEnabled =
      if bleBuild then (candidate prefs).bleEnabled else (stored bleBuild (some nvs)).bleEnabled := by
    rw [enabledNow, enabledThen]
    cases bleBuild with
    | true => simp [bleState_reads reads]
    | false => exact getBool_same (ble rfl).1 false
  have user : (stored bleBuild (some after)).bleUserSet =
      if bleBuild then (candidate prefs).bleUserSet else (stored bleBuild (some nvs)).bleUserSet := by
    rw [userNow, userThen]
    cases bleBuild with
    | true => simp [bleState_reads reads]
    | false => exact getBool_same (ble rfl).2 false
  rw [NodePrefs.withApart, language, transportTcp, transportWs, enabled, user]
  rfl

def prefsHandles (bleBuild : Bool) (prefs : NodePrefs) : List (List (String × NvsValue)) :=
  [prefsWriteAll prefs (bleMode bleBuild), transportWrites prefs, languageWrites prefs.language]

theorem transport_apart (mode : BlePrefsWriteMode) (prefs : NodePrefs) :
    ∀ key ∈ prefsKeys mode, key ∉ (transportWrites prefs).map Prod.fst := by
  intro key inside member
  have listed : key ∈ ["tr_tcp", "tr_ws"] := member
  exact apart_prefsKeys (List.mem_append_left ["lang"] listed) mode inside

theorem language_apart (mode : BlePrefsWriteMode) (language : UInt8) :
    ∀ key ∈ prefsKeys mode, key ∉ (languageWrites language).map Prod.fst := by
  intro key inside member
  have listed : key ∈ ["lang"] := member
  exact apart_prefsKeys (List.mem_append_right ["tr_tcp", "tr_ws"] listed) mode inside

theorem stored_committed (bleBuild : Bool) (nvs : Entries) (prefs : NodePrefs) {count : Nat} (bound : count ≤ 3) :
    stored bleBuild (some (((prefsHandles bleBuild (candidate prefs)).take count).foldl written nvs)) =
      mixed bleBuild (candidate prefs) (stored bleBuild (some nvs)) count := by
  have main := reads_written nvs (candidate prefs) (bleMode bleBuild)
  have apart : ∀ key, key ∉ prefsKeys (bleMode bleBuild) →
      written nvs (prefsWriteAll (candidate prefs) (bleMode bleBuild)) key = nvs key :=
    fun key absent => prefsWriteAll_frame absent (candidate prefs) nvs
  have tcp := apart "tr_tcp" (apart_prefsKeys (by simp) _)
  have ws := apart "tr_ws" (apart_prefsKeys (by simp) _)
  have lang := apart "lang" (apart_prefsKeys (by simp) _)
  have ble : bleBuild = false →
      written nvs (prefsWriteAll (candidate prefs) (bleMode bleBuild)) "ble_en" = nvs "ble_en" ∧
        written nvs (prefsWriteAll (candidate prefs) (bleMode bleBuild)) "ble_user" = nvs "ble_user" := by
    rintro rfl
    exact ⟨apart "ble_en" (by decide +kernel), apart "ble_user" (by decide +kernel)⟩
  generalize made : written nvs (prefsWriteAll (candidate prefs) (bleMode bleBuild)) = shared at main tcp ws lang ble
  have transport : Reads (written shared (transportWrites (candidate prefs))) (candidate prefs) (bleMode bleBuild) :=
    main.written (transport_apart _ _)
  have language := transport.written (language_apart (bleMode bleBuild) (candidate prefs).language)
  have cases : count = 0 ∨ count = 1 ∨ count = 2 ∨ count = 3 := by omega
  rcases cases with rfl | rfl | rfl | rfl
  · rfl
  · have folded : ((prefsHandles bleBuild (candidate prefs)).take 1).foldl written nvs = shared := made
    rw [folded]
    exact stored_mixed main ble tcp ws lang
  · have folded : ((prefsHandles bleBuild (candidate prefs)).take 2).foldl written nvs =
        written shared (transportWrites (candidate prefs)) := by
      rw [← made]
      rfl
    rw [folded]
    apply stored_mixed transport
    · simpa [written, transportWrites] using ble
    · simp [written, transportWrites]
    · simp [written, transportWrites]
    · simpa [written, transportWrites] using lang
  · have folded : ((prefsHandles bleBuild (candidate prefs)).take 3).foldl written nvs =
        written (written shared (transportWrites (candidate prefs))) (languageWrites (candidate prefs).language) := by
      rw [← made]
      rfl
    rw [folded]
    apply stored_mixed language
    · simpa [written, transportWrites, languageWrites] using ble
    · simp [written, transportWrites, languageWrites]
    · simp [written, transportWrites, languageWrites]
    · simp [written, languageWrites]

theorem prefsSave_eq (bleBuild : Bool) (prefs : NodePrefs) (fault : Option Fault) (nvs : Option Entries) :
    prefsSave bleBuild prefs fault nvs =
      transactAll fault (prefsHandles bleBuild { prefs with language := knownLanguage prefs.language }) nvs := by
  rw [prefsSave, prefsHandles, transactAll, writePrefsToNvs]
  dsimp only
  generalize transact fault _ nvs = shared
  rcases shared with ⟨_ | stop, fault, nvs⟩
  · dsimp only [writeTransportPrefsToNvs]
    rw [transactAll]
    generalize transact fault _ nvs = transport
    rcases transport with ⟨_ | stop, fault, nvs⟩
    · exact (transactAll_single _ _ _).symm
    · rfl
  · rfl

theorem prefsSave_candidate (bleBuild : Bool) (prefs : NodePrefs) (fault : Option Fault) (nvs : Option Entries) :
    prefsSave bleBuild (candidate prefs) fault nvs =
      transactAll fault (prefsHandles bleBuild (candidate prefs)) nvs := by
  rw [prefsSave_eq, candidate_language]

/-- The load that a BLE migration precedes, done or interrupted, gives what the load before it gave. -/
theorem stored_prefsLoad (bleBuild : Bool) (fault : Option Fault) (prefs : NodePrefs) (nvs : Option Entries) :
    stored bleBuild (prefsLoad bleBuild fault prefs nvs).2.2 = stored bleBuild nvs := by
  cases nvs with
  | none => rfl
  | some entries =>
    rw [prefsLoad]
    split
    · rename_i migrates
      have build : bleBuild = true := by
        cases bleBuild with
        | true => rfl
        | false => cases migrates
      subst build
      rcases transact_entries fault (bleMigrationWrites (bleState true entries)) (some entries) with kept | kept | kept
      · exact congrArg (stored true) kept
      · exact congrArg (stored true) kept
      · rw [persistBleMigration, kept, stored_some, stored_some]
        have state : bleState true (written entries (bleMigrationWrites (bleState true entries))) =
            ⟨(bleState true entries).enabled, (bleState true entries).userSet, false⟩ := by
          generalize bleState true entries = state
          simp [bleState, resolveBlePrefs, getBool, getUChar, isKey, flag, written, bleMigrationWrites,
            blePrefsSchemaVersion]
        have read : readPrefs true (written entries (bleMigrationWrites (bleState true entries))) setDefaults =
            readPrefs true entries setDefaults := by
          simp only [readPrefs, state, if_true]
          generalize bleState true entries = state
          simp [getString, getFloat, getUChar, getChar, getBool, getUShort, getInt, getULong, isKey, written,
            bleMigrationWrites]
          rfl
        exact congrArg (fun prefs => (normalizeAndValidate prefs).2) read
    · rfl

end Stored

section Claim

theorem prefsHandles_operations (bleBuild : Bool) (prefs : NodePrefs) :
    ((prefsHandles bleBuild prefs).map operations).sum = if bleBuild then 60 else 57 := by
  cases bleBuild <;> rfl

/-- Without a namespace the defaults are given as they are; from an empty one they are loaded, with the build's own BLE
    default. -/
theorem stored_empty (bleBuild : Bool) :
    stored bleBuild none = setDefaults ∧
      stored bleBuild (some (opened none)) = { setDefaults with bleEnabled := bleBuild } := by
  cases bleBuild <;> decide +kernel

theorem stored_opened (bleBuild : Bool) {nvs : Option Entries} (kept : nvs.isSome ∨ bleBuild = true) :
    stored bleBuild (some (opened nvs)) = stored bleBuild nvs := by
  cases nvs with
  | some entries => rfl
  | none =>
    obtain rfl : bleBuild = true := by simpa using kept
    rw [(stored_empty true).1, (stored_empty true).2]
    rfl

theorem stored_reached (bleBuild : Bool) (nvs : Option Entries) (prefs : NodePrefs) {count : Nat} (begun : count ≠ 0) :
    stored bleBuild (reached count (prefsHandles bleBuild (candidate prefs)) nvs) =
      mixed bleBuild (candidate prefs) (stored bleBuild (some (opened nvs)))
        (committed count (prefsHandles bleBuild (candidate prefs))) := by
  have handled : prefsHandles bleBuild (candidate prefs) ≠ [] := List.cons_ne_nil _ _
  have present := reached_isSome handled begun nvs
  obtain ⟨entries, found⟩ := Option.isSome_iff_exists.mp present
  have current := opened_reached count (prefsHandles bleBuild (candidate prefs)) nvs
  rw [found] at current ⊢
  have read : entries = _ := current
  rw [read, stored_committed bleBuild (opened nvs) prefs (committed_le count _)]

theorem prefsGet_eq (bleBuild : Bool) (device : Device) :
    (prefsGet bleBuild device).1 = if device.loaded then device.prefs else stored bleBuild device.nvs := by
  unfold prefsGet
  split <;> rfl

/-- `prefs_get` and the load of the next boot give the record. -/
def Device.Gives (bleBuild : Bool) (device : Device) (prefs : NodePrefs) : Prop :=
  (prefsGet bleBuild device).1 = prefs ∧ (prefsGet bleBuild (.boot device.nvs)).1 = prefs

def NodePrefs.persisted (bleBuild : Bool) (prefs : NodePrefs) : NodePrefs :=
  if bleBuild then prefs else { prefs with bleEnabled := false, bleUserSet := false }

def Device.GivesPersisted (bleBuild : Bool) (device : Device) (prefs : NodePrefs) : Prop :=
  (prefsGet bleBuild device).1.persisted bleBuild = prefs.persisted bleBuild ∧
    (prefsGet bleBuild (.boot device.nvs)).1.persisted bleBuild = prefs.persisted bleBuild

def AllOrNothing (bleBuild : Bool) (device : Device) (old new : NodePrefs) (fault : Option Fault) : Prop :=
  match prefsSet bleBuild new fault device with
  | (none, after) => after.GivesPersisted bleBuild (normalizeAndValidate new).2
  | (some _, after) => after.Gives bleBuild old

instance (bleBuild : Bool) (device : Device) (prefs : NodePrefs) : Decidable (device.Gives bleBuild prefs) :=
  inferInstanceAs (Decidable (_ ∧ _))

instance (bleBuild : Bool) (device : Device) (prefs : NodePrefs) : Decidable (device.GivesPersisted bleBuild prefs) :=
  inferInstanceAs (Decidable (_ ∧ _))

instance (bleBuild : Bool) (device : Device) (old new : NodePrefs) (fault : Option Fault) :
    Decidable (AllOrNothing bleBuild device old new fault) :=
  match outcome : prefsSet bleBuild new fault device with
  | (none, after) =>
    decidable_of_iff (after.GivesPersisted bleBuild (normalizeAndValidate new).2) (by rw [AllOrNothing, outcome])
  | (some _, after) => decidable_of_iff (after.Gives bleBuild old) (by rw [AllOrNothing, outcome])

/-- The fault that strikes the save, if any does. -/
def struck (bleBuild : Bool) (new : NodePrefs) (fault : Option Fault) : Option Fault :=
  fault.filter fun fault => fault.Strikes ((prefsHandles bleBuild (candidate new)).map operations).sum

/-- The handles committed before the fault hold what `old` holds, and creating the namespace changes no default. -/
def Unseen (bleBuild : Bool) (device : Device) (old new : NodePrefs) (fault : Fault) : Prop :=
  fault.after = 0 ∨ (device.nvs.isSome ∨ bleBuild = true) ∧
    mixed bleBuild (candidate new) old (committed fault.after (prefsHandles bleBuild (candidate new))) = old

theorem persisted_mixed (bleBuild : Bool) (new old : NodePrefs) :
    (mixed bleBuild new old 3).persisted bleBuild = new.persisted bleBuild := by
  cases bleBuild <;> rfl

theorem persisted_candidate_iff (bleBuild : Bool) (new : NodePrefs) :
    (candidate new).persisted bleBuild = (normalizeAndValidate new).2.persisted bleBuild ↔
      new.language < languageCount := by
  have language := (apart_normalized new).1
  have known : knownLanguage new.language = new.language ↔ new.language < languageCount := by
    unfold knownLanguage languageCount
    grind
  rw [← known]
  constructor
  · intro same
    have field := congrArg NodePrefs.language same
    cases bleBuild with
    | true => exact language ▸ field
    | false => exact language ▸ field
  · intro kept
    have same : candidate new = (normalizeAndValidate new).2 := by
      rw [candidate, language, kept, ← language]
    rw [same]

theorem prefsSet_unstruck {bleBuild : Bool} {new : NodePrefs} {fault : Option Fault}
    (unstruck : struck bleBuild new fault = none) (device : Device) :
    ∃ nvs, prefsSet bleBuild new fault device = (none, { device with nvs := nvs, prefs := candidate new }) ∧
      stored bleBuild nvs = mixed bleBuild (candidate new) (stored bleBuild (some (opened device.nvs))) 3 := by
  have saved : (transactAll fault (prefsHandles bleBuild (candidate new)) device.nvs).1 = none ∧
      (transactAll fault (prefsHandles bleBuild (candidate new)) device.nvs).2.2 =
        reached ((prefsHandles bleBuild (candidate new)).map operations).sum (prefsHandles bleBuild (candidate new))
          device.nvs := by
    cases fault with
    | none => simp [transactAll_none]
    | some fault => exact transactAll_spared (by simpa [struck, Option.filter] using unstruck) device.nvs
  have begun : ((prefsHandles bleBuild (candidate new)).map operations).sum ≠ 0 := by
    rw [prefsHandles_operations]
    cases bleBuild <;> decide
  have read := stored_reached bleBuild device.nvs new begun
  rw [committed_all] at read
  refine ⟨_, ?_, read⟩
  rw [prefsSet, prefsSave_candidate]
  rcases outcome : transactAll fault (prefsHandles bleBuild (candidate new)) device.nvs with ⟨stop, later, nvs⟩
  rw [outcome] at saved
  obtain ⟨rfl, rfl⟩ := saved
  rfl

theorem prefsSet_struck {bleBuild : Bool} {new : NodePrefs} {fault : Option Fault} {strike : Fault}
    (strikes : struck bleBuild new fault = some strike) (device : Device) :
    prefsSet bleBuild new fault device =
      (some strike.stop,
        match strike.stop with
        | .failed => { device with nvs := reached strike.after (prefsHandles bleBuild (candidate new)) device.nvs }
        | .cut => .boot (reached strike.after (prefsHandles bleBuild (candidate new)) device.nvs)) := by
  obtain ⟨rfl, inside⟩ := Option.filter_eq_some_iff.mp strikes
  have handled : prefsHandles bleBuild (candidate new) ≠ [] := List.cons_ne_nil _ _
  obtain ⟨stopped, current⟩ := transactAll_struck handled (of_decide_eq_true inside) device.nvs
  rw [prefsSet, prefsSave_candidate]
  rcases outcome : transactAll (some strike) (prefsHandles bleBuild (candidate new)) device.nvs with ⟨stop, later, nvs⟩
  rw [outcome] at stopped current
  obtain ⟨stop, after⟩ := strike
  dsimp only at stopped current
  rw [stopped, current]
  cases stop <;> rfl

theorem gives_after_iff (bleBuild : Bool) {device : Device} {old : NodePrefs} (gives : device.Gives bleBuild old)
    (stop : Stop) (nvs : Option Entries) :
    (match stop with
      | .failed => { device with nvs := nvs }
      | .cut => Device.boot nvs).Gives bleBuild old ↔ stored bleBuild nvs = old := by
  obtain ⟨now, -⟩ := gives
  rw [prefsGet_eq] at now
  cases stop with
  | failed =>
    rw [Device.Gives, prefsGet_eq, prefsGet_boot]
    constructor
    · exact fun both => both.2
    · intro read
      refine ⟨?_, read⟩
      cases loaded : device.loaded with
      | true => simpa [loaded] using now
      | false => simpa using read
  | cut => exact ⟨fun both => both.2, fun read => ⟨read, read⟩⟩

theorem stored_created {new : NodePrefs} (count : Nat) :
    mixed false new (stored false (some (opened none))) count ≠ stored false none := by
  intro same
  have enabled := congrArg NodePrefs.bleEnabled same
  rw [(stored_empty false).1, (stored_empty false).2] at enabled
  cases count <;> cases enabled

theorem unseen_iff (bleBuild : Bool) {device : Device} {old : NodePrefs} (before : stored bleBuild device.nvs = old)
    (new : NodePrefs) (strike : Fault) :
    stored bleBuild (reached strike.after (prefsHandles bleBuild (candidate new)) device.nvs) = old ↔
      Unseen bleBuild device old new strike := by
  unfold Unseen
  by_cases begun : strike.after = 0
  · rw [begun, reached_zero]
    exact ⟨fun _ => .inl rfl, fun _ => before⟩
  · rw [stored_reached bleBuild device.nvs new begun]
    by_cases kept : device.nvs.isSome ∨ bleBuild = true
    · rw [stored_opened bleBuild kept, before]
      simp [begun, kept]
    · simp only [begun, kept, false_and, or_self, iff_false]
      obtain ⟨absent, build⟩ := not_or.mp kept
      have none : device.nvs = none := by simpa using absent
      have plain : bleBuild = false := by simpa using build
      rw [none] at before ⊢
      subst plain
      rw [← before]
      exact stored_created _

/-- The save is all or nothing exactly when no fault strikes and the language is known, or a fault strikes and nothing
    that was committed before it shows. -/
theorem prefs_set_all_or_nothing (bleBuild : Bool) {device : Device} {old : NodePrefs}
    (gives : device.Gives bleBuild old) (new : NodePrefs) (fault : Option Fault) :
    AllOrNothing bleBuild device old new fault ↔
      match struck bleBuild new fault with
      | none => new.language < languageCount
      | some strike => Unseen bleBuild device old new strike := by
  cases strikes : struck bleBuild new fault with
  | none =>
    obtain ⟨nvs, saved, read⟩ := prefsSet_unstruck strikes device
    have flash : (stored bleBuild nvs).persisted bleBuild = (candidate new).persisted bleBuild := by
      rw [read, persisted_mixed]
    rw [AllOrNothing, saved, ← persisted_candidate_iff bleBuild new]
    dsimp only [Device.GivesPersisted]
    rw [prefsGet_boot, prefsGet_eq, flash]
    cases device.loaded with
    | true => exact and_self_iff
    | false =>
      simp only [Bool.false_eq_true, if_false, flash]
      exact and_self_iff
  | some strike =>
    rw [AllOrNothing, prefsSet_struck strikes]
    exact (gives_after_iff bleBuild gives strike.stop _).trans (unseen_iff bleBuild gives.2 new strike)

def renamed : NodePrefs := { setDefaults with nodeName := literal "Alice" }

/-- The commit of the shared writer fails. -/
theorem failed_commit_keeps_name :
    (Device.mk none setDefaults true).Gives true setDefaults ∧
      AllOrNothing true ⟨none, setDefaults, true⟩ setDefaults renamed (some ⟨.failed, 52⟩) :=
  ⟨by decide +kernel, (prefs_set_all_or_nothing true (by decide +kernel) renamed (some ⟨.failed, 52⟩)).mpr
    (Or.inr ⟨Or.inr rfl, rfl⟩)⟩

/-- The transport handle cannot be opened: the save fails, and the next boot has the new name. -/
theorem failed_save_renames :
    (Device.mk none setDefaults true).Gives true setDefaults ∧
      (prefsSet true renamed (some ⟨.failed, 53⟩) ⟨none, setDefaults, true⟩).1 = some .failed ∧
      ¬AllOrNothing true ⟨none, setDefaults, true⟩ setDefaults renamed (some ⟨.failed, 53⟩) := by
  decide +kernel

end Claim

end SigurdOS.Prefs
