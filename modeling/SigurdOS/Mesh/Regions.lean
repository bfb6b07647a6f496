import SigurdOS.Mesh.RegionEnvelope

namespace SigurdOS.Mesh

open Bytes Hal

structure RegionEntry where
  id : UInt16
  parent : UInt16
  flags : UInt8
  name : List UInt8
  deriving DecidableEq

/-- The operations of MeshCore's `RegionMap` and the constants of its transport key store. A pointer
    to an entry is modelled by the entry itself, a write through it by `setFlags`; `sameName` is how
    a name that is looked up is compared with that of an entry. -/
structure RegionTable (μ : Type) where
  fresh : μ
  sameName : List UInt8 → List UInt8 → Bool
  regions : μ → List RegionEntry
  findByName : μ → List UInt8 → Option RegionEntry
  findById : μ → UInt16 → Option RegionEntry
  putRegion : μ → List UInt8 → UInt16 → Option (RegionEntry × μ)
  setFlags : μ → UInt16 → UInt8 → μ
  removeRegion : μ → RegionEntry → Option μ
  getHomeRegion : μ → Option RegionEntry
  setHomeRegion : μ → Option RegionEntry → μ
  getDefaultRegion : μ → Option RegionEntry
  setDefaultRegion : μ → Option RegionEntry → μ
  getTransportKeysFor : μ → RegionEntry → List (FixedBytes 16)
  save : μ → List UInt8
  load : List UInt8 → Bool × μ
  regionDenyFlood : UInt8
  maxTksEntries : Nat

def isPrivateName (name : List UInt8) : Bool := name.head? == some 36

def isNull (key : FixedBytes 16) : Bool := key.bytes.all (· == 0)

section KeyStore

def loadKeysFor (keys : List RegionKey) (id : UInt16) (maxNum : Nat) : List (FixedBytes 16) :=
  ((keys.filter (·.1 == id)).map Prod.snd).take maxNum

def saveKeysFor (maxEntries : Nat) (keys : List RegionKey) (id : UInt16) (added : List (FixedBytes 16)) :
    Option (List RegionKey) :=
  if id = 0 ∨ added.length > maxEntries then none
  else
    let others := keys.filter (·.1 != id)
    if others.length + added.length > maxEntries then none else some (others ++ added.map (id, ·))

def removeKeys (keys : List RegionKey) (id : UInt16) : Option (List RegionKey) :=
  if id = 0 then none else some (keys.filter (·.1 != id))

end KeyStore

section ScopeKey

def scopeKeyHexNibble (char : UInt8) : Option Nat :=
  if 48 ≤ char ∧ char ≤ 57 then some (char.toNat - 48)
  else if 97 ≤ char ∧ char ≤ 102 then some (char.toNat - 87)
  else if 65 ≤ char ∧ char ≤ 70 then some (char.toNat - 55)
  else none

def decodeNibbles : List UInt8 → Option (List UInt8)
  | high :: low :: rest =>
    match scopeKeyHexNibble high, scopeKeyHexNibble low, decodeNibbles rest with
    | some high, some low, some bytes => some (UInt8.ofNat (high * 16 + low) :: bytes)
    | _, _, _ => none
  | _ => some []

def scopeKeyHexDecode (hex : List UInt8) : Option (FixedBytes 16) :=
  if hex.length ≠ 32 then none
  else
    match decodeNibbles hex with
    | none => none
    | some bytes => if bytes.all (· == 0) then none else some (.ofList 16 bytes)

def scopeKeyHexDigit (nibble : Nat) : UInt8 :=
  if nibble < 10 then UInt8.ofNat (48 + nibble) else UInt8.ofNat (87 + nibble)

def scopeKeyHexEncode (key : FixedBytes 16) : List UInt8 :=
  key.bytes.flatMap fun byte => [scopeKeyHexDigit (byte.toNat / 16), scopeKeyHexDigit (byte.toNat % 16)]

end ScopeKey

/-- The fields of `NodePrefs` that the regions read and write. -/
structure RegionPrefs where
  activeRegion : List UInt8
  defaultScopeKeyHex : List UInt8
  deriving DecidableEq

/-- The storage step of one `regionsSave` that fails. A failed serialization may leave part of the raw file. -/
inductive SaveFault where
  | mount
  | cleanBefore
  | serialize (left : Option (List UInt8))
  | recover (fault : RecoverFault)
  | replace (fault : ReplaceFault)
  | cleanAfter
  deriving DecidableEq

/-- The regions module with its storage. Each `regionsSave` and each `prefs_set` takes the next entry
    of its script of faults; past its end nothing fails. -/
structure Regions (μ : Type) where
  map : μ
  keys : List RegionKey
  dirty : Bool
  activeName : List UInt8
  activeScope : Option (FixedBytes 16)
  file : AtomicFile
  raw : Option (List UInt8)
  prefs : RegionPrefs
  saveFaults : List (Option SaveFault)
  prefsFaults : List Bool

variable {μ : Type} (table : RegionTable μ)

def prefsSet (state : Regions μ) (prefs : RegionPrefs) : Bool × Regions μ :=
  match state.prefsFaults.headD false with
  | true => (false, { state with prefsFaults := state.prefsFaults.tail })
  | false => (true, { state with prefs := prefs, prefsFaults := state.prefsFaults.tail })

def privateRegionKeys (map : μ) (keys : List RegionKey) : List RegionKey :=
  (table.regions map).filterMap fun region =>
    if isPrivateName region.name then
      match loadKeysFor keys region.id 1 with
      | [key] => if isNull key then none else some (region.id, key)
      | _ => none
    else none

def countPrivateRegionKeys (map : μ) (keys : List RegionKey) : Int := (privateRegionKeys table map keys).length

def readPrivateRegionKey (map : μ) (keys : List RegionKey) (index : Nat) : Option RegionKey :=
  (privateRegionKeys table map keys)[index]?

def loadPrivateRegionKey (map : μ) (keys : List RegionKey) (key : RegionKey) : Bool × List RegionKey :=
  if key.1 = 0 then (false, keys)
  else
    match table.findById map key.1 with
    | none => (false, keys)
    | some region =>
      if isPrivateName region.name = false ∨ isNull key.2 then (false, keys)
      else
        match saveKeysFor table.maxTksEntries keys key.1 [key.2] with
        | none => (false, keys)
        | some keys => (true, keys)

def SaveFault.recoverFault : SaveFault → Option RecoverFault
  | .recover fault => some fault
  | _ => none

def SaveFault.replaceFault : SaveFault → Option ReplaceFault
  | .replace fault => some fault
  | _ => none

def serializeMap (map : μ) : Option SaveFault → Bool × Option (List UInt8)
  | some (.serialize left) => (false, left)
  | _ => (true, some (table.save map))

def regionsSave (state : Regions μ) : Bool × Regions μ :=
  let fault := state.saveFaults.headD none
  let state := { state with saveFaults := state.saveFaults.tail }
  if fault = some .mount then (false, { state with dirty := true })
  else if state.raw.isSome ∧ fault = some .cleanBefore then (false, { state with dirty := true })
  else
    let (serialized, raw) := serializeMap table state.map fault
    let (ok, file) :=
      if serialized then
        regionStoreSaveTransactionalFile state.file raw (countPrivateRegionKeys table state.map state.keys)
          (readPrivateRegionKey table state.map state.keys) (fault.bind SaveFault.recoverFault)
          (fault.bind SaveFault.replaceFault)
      else (false, state.file)
    let cleaned := !(raw.isSome && fault == some .cleanAfter)
    (ok && cleaned, { state with file := file, raw := if cleaned then none else raw, dirty := !ok || !cleaned })

def restoreRegionMap (state : Regions μ) (snapshot : μ) (wasDirty : Bool) : Regions μ :=
  { state with map := snapshot, dirty := wasDirty }

def checkedPrefs (prefs : RegionPrefs) : RegionPrefs × Bool :=
  let named : RegionPrefs × Bool :=
    if !prefs.activeRegion.isEmpty && !regionNameValid prefs.activeRegion then (⟨[], []⟩, true) else (prefs, false)
  if !named.1.defaultScopeKeyHex.isEmpty && (scopeKeyHexDecode named.1.defaultScopeKeyHex).isNone then
    ({ named.1 with defaultScopeKeyHex := [] }, true)
  else named

/-- RegionMap's default is the canonical scope; without one the active_region preference is migrated. -/
def canonicalRegion (map : μ) (np : RegionPrefs) : Option RegionEntry :=
  match table.getDefaultRegion map with
  | some region => some region
  | none => if np.activeRegion.isEmpty then none else table.findByName map np.activeRegion

def migratesDefault (map : μ) (np : RegionPrefs) : Bool :=
  (table.getDefaultRegion map).isNone && (canonicalRegion table map np).isSome

def overlaidKeys (keys : List RegionKey) (canonical : Option RegionEntry) (np : RegionPrefs) : List RegionKey :=
  match canonical with
  | none => keys
  | some region =>
    if isPrivateName region.name && np.activeRegion == region.name && np.defaultScopeKeyHex.length == 32 then
      match scopeKeyHexDecode np.defaultScopeKeyHex with
      | none => keys
      | some key => if isNull key then keys else (saveKeysFor table.maxTksEntries keys region.id [key]).getD keys
    else keys

def adoptedState (state : Regions μ) (np : RegionPrefs) (transactional : Bool) : Regions μ :=
  let canonical := canonicalRegion table state.map np
  let migrates := migratesDefault table state.map np
  { state with
    map := if migrates then table.setDefaultRegion state.map canonical else state.map
    dirty := state.dirty || migrates
    activeName := (canonical.map fun region => region.name.take 30).getD []
    keys := if transactional then state.keys else overlaidKeys table state.keys canonical np }

def upgradeRegions (state : Regions μ) (transactional : Bool) : Bool × Regions μ :=
  if transactional then (false, state)
  else
    match regionsSave table state with
    | (true, saved) => (true, saved)
    | (false, unsaved) => (false, { unsaved with dirty := true })

/-- The preferences in step with the canonical scope, and whether they have to be written. -/
def syncedPrefs (np : RegionPrefs) (dropped committed : Bool) (activeName : List UInt8) : RegionPrefs × Bool :=
  let cleared : RegionPrefs × Bool :=
    if committed && !np.defaultScopeKeyHex.isEmpty then ({ np with defaultScopeKeyHex := [] }, true) else (np, dropped)
  if cleared.1.activeRegion != activeName then ({ cleared.1 with activeRegion := activeName }, true) else cleared

/-- The part of `regionsLoad` behind a map and keys that were read. -/
def adoptRegions (state : Regions μ) (transactional : Bool) : Regions μ :=
  let (np, dropped) := checkedPrefs state.prefs
  let (upgraded, state) := upgradeRegions table (adoptedState table state np transactional) transactional
  let (np, dropped) := syncedPrefs np dropped (transactional || upgraded) state.activeName
  if dropped then (prefsSet state np).2 else state

def storedKeys (map : μ) (file : AtomicFile) (transactional : Bool) : Int × List RegionKey :=
  if transactional then regionStoreLoadTransactionalKeys (loadPrivateRegionKey table map) file [] else (0, [])

def regionsLoad (mounted : Bool) (state : Regions μ) : Bool × Regions μ :=
  if mounted = false then (false, { state with dirty := true })
  else
    let (format, file) := regionStorePrepareLoad state.file
    let transactional := format == .transactional
    let source :=
      match format with
      | .invalid => none
      | .transactional => regionStoreExtractTransactionalMap file
      | _ => file.live
    let state := { state with file := file, raw := if transactional then none else state.raw, keys := [] }
    match source with
    | none => (false, { state with dirty := true, activeName := [] })
    | some data =>
      match table.load data with
      | (false, map) => (false, { state with map := map, dirty := true, activeName := [] })
      | (true, map) =>
        let (count, keys) := storedKeys table map file transactional
        if count < 0 then (false, { state with map := map, keys := keys, dirty := true, activeName := [] })
        else (true, adoptRegions table { state with map := map, keys := keys, dirty := false } transactional)

section Operations

def findRegion (state : Regions μ) (name : List UInt8) : Option RegionEntry :=
  if regionNameValid name then table.findByName state.map name else none

def putParent (map : μ) (parentName : List UInt8) : Option (UInt16 × μ) :=
  if parentName.isEmpty then some (0, map)
  else
    match table.findByName map parentName with
    | some parent => some (parent.id, map)
    | none =>
      match table.putRegion map parentName 0 with
      | none => none
      | some (parent, map) => some (parent.id, map)

def putAllowed (map : μ) (name : List UInt8) (parentId : UInt16) : Option (RegionEntry × μ) :=
  match table.putRegion map name parentId with
  | none => none
  | some (region, map) => some ({ region with flags := 0 }, table.setFlags map region.id 0)

/-- The in-memory part that `addRegion` and `addPrivateRegion` share. -/
def putWithParent (map : μ) (name parentName : List UInt8) : Option (RegionEntry × μ) :=
  match putParent table map parentName with
  | none => none
  | some (parentId, map) => putAllowed table map name parentId

def addRegion (state : Regions μ) (name parentName : List UInt8) : Option RegionEntry × Regions μ :=
  if regionNameValid name = false ∨ (!parentName.isEmpty && !regionNameValid parentName) then (none, state)
  else
    match putWithParent table state.map name parentName with
    | none => (none, state)
    | some (region, map) =>
      match regionsSave table { state with map := map } with
      | (true, saved) => (some region, saved)
      | (false, unsaved) => (none, restoreRegionMap unsaved state.map state.dirty)

def addPrivateRegion (state : Regions μ) (name : List UInt8) (key : FixedBytes 16) (parentName : List UInt8) :
    Option RegionEntry × Regions μ :=
  if isPrivateName name = false ∨ regionNameValid name = false ∨
      (!parentName.isEmpty && !regionNameValid parentName) ∨ (table.findByName state.map name).isSome then (none, state)
  else if isNull key then (none, state)
  else
    match putWithParent table state.map name parentName with
    | none => (none, state)
    | some (region, map) =>
      match saveKeysFor table.maxTksEntries state.keys region.id [key] with
      | none => (none, { state with keys := (removeKeys state.keys region.id).getD state.keys })
      | some keys =>
        match regionsSave table { state with map := map, keys := keys } with
        | (true, saved) => (some region, saved)
        | (false, unsaved) =>
          (none, restoreRegionMap { unsaved with keys := (removeKeys keys region.id).getD keys } state.map state.dirty)

def restoreKeys (keys : List RegionKey) (id : UInt16) (previous : List (FixedBytes 16)) : List RegionKey :=
  if previous.isEmpty then (removeKeys keys id).getD keys
  else (saveKeysFor table.maxTksEntries keys id previous).getD keys

def setPrivateRegionKey (state : Regions μ) (name : List UInt8) (key : FixedBytes 16) : Bool × Regions μ :=
  if isPrivateName name = false then (false, state)
  else
    match findRegion table state name with
    | none => (false, state)
    | some region =>
      if isPrivateName region.name = false ∨ isNull key then (false, state)
      else
        let previous := loadKeysFor state.keys region.id 4
        match saveKeysFor table.maxTksEntries state.keys region.id [key] with
        | none => (false, state)
        | some keys =>
          match regionsSave table { state with keys := keys } with
          | (true, saved) => (true, saved)
          | (false, unsaved) =>
            (false, { unsaved with keys := restoreKeys table keys region.id previous, dirty := state.dirty })

def removePrivateRegionKey (state : Regions μ) (region : RegionEntry) : Bool × Regions μ :=
  if region.id = 0 ∨ isPrivateName region.name = false then (false, state)
  else
    let previous := loadKeysFor state.keys region.id 4
    if previous.isEmpty then (false, state)
    else
      match removeKeys state.keys region.id with
      | none => (false, state)
      | some keys =>
        match regionsSave table { state with keys := keys } with
        | (true, saved) => (true, saved)
        | (false, unsaved) =>
          (false, { unsaved with keys := restoreKeys table keys region.id previous, dirty := state.dirty })

def getPrivateRegionKey (state : Regions μ) (name : List UInt8) : Option (FixedBytes 16) :=
  if isPrivateName name = false then none
  else
    match findRegion table state name with
    | none => none
    | some region => if isPrivateName region.name = false then none else (loadKeysFor state.keys region.id 1).head?

/-- The map without a region that is found, with its roles as home and default given up. -/
def dropRegion (map : μ) (region : RegionEntry) : Option μ :=
  match table.removeRegion map region with
  | none => none
  | some after =>
    let after := if table.getHomeRegion map = some region then table.setHomeRegion after none else after
    some (if table.getDefaultRegion map = some region then table.setDefaultRegion after none else after)

def wasActive (state : Regions μ) (region : RegionEntry) : Bool :=
  !state.activeName.isEmpty && state.activeName == region.name

def wasDefault (state : Regions μ) (region : RegionEntry) : Bool :=
  decide (table.getDefaultRegion state.map = some region)

def prefsWithout (state : Regions μ) (region : RegionEntry) : RegionPrefs where
  activeRegion := if wasActive state region then [] else state.prefs.activeRegion
  defaultScopeKeyHex := if wasDefault table state region then [] else state.prefs.defaultScopeKeyHex

/-- The end of `removeRegion`, behind the save of the map without the region. -/
def finishRemoval (state saved : Regions μ) (name : List UInt8) (region : RegionEntry) : Bool × Regions μ :=
  let restore (now : Regions μ) := { restoreRegionMap now state.map state.dirty with activeName := state.activeName }
  match (if wasActive state region || wasDefault table state region then prefsSet saved
    (prefsWithout table state region)
    else (true, saved)) with
  | (false, refused) => (false, (regionsSave table (restore refused)).2)
  | (true, saved) =>
    if isPrivateName name then
      match removeKeys saved.keys region.id with
      | some keys => (true, { saved with keys := keys })
      | none => (false, (regionsSave table (prefsSet (restore saved) state.prefs).2).2)
    else (true, saved)

def removeRegion (state : Regions μ) (name : List UInt8) : Bool × Regions μ :=
  if regionNameValid name = false then (false, state)
  else
    match table.findByName state.map name with
    | none => (false, state)
    | some region =>
      match dropRegion table state.map region with
      | none => (false, state)
      | some map =>
        match regionsSave table
            { state with map := map, activeName := if wasActive state region then [] else state.activeName } with
        | (false, unsaved) =>
          (false, { restoreRegionMap unsaved state.map state.dirty with activeName := state.activeName })
        | (true, saved) => finishRemoval table state saved name region

def nullName : List UInt8 := [60, 110, 117, 108, 108, 62]

def regionScopeIsClear (name : List UInt8) : Bool := name.isEmpty || name == nullName

def setDefaultScopeInMemory (map : μ) (name : List UInt8) : Option μ :=
  if regionScopeIsClear name then some (table.setDefaultRegion map none)
  else if regionNameValid name = false then none
  else
    let found :=
      match table.findByName map name with
      | some region => some (region, map)
      | none => table.putRegion map name 0
    match found with
    | none => none
    | some (region, map) =>
      -- The default scope must allow flood.
      let flags := region.flags &&& ~~~table.regionDenyFlood
      some (table.setDefaultRegion (table.setFlags map region.id flags) (some { region with flags := flags }))

def saveOrRestore (state : Regions μ) (map : μ) : Bool × Regions μ :=
  match regionsSave table { state with map := map } with
  | (true, saved) => (true, saved)
  | (false, unsaved) => (false, restoreRegionMap unsaved state.map state.dirty)

def setDefaultScope (state : Regions μ) (name : List UInt8) : Bool × Regions μ :=
  match setDefaultScopeInMemory table state.map name with
  | none => (false, state)
  | some map => saveOrRestore table state map

def setHomeRegion (state : Regions μ) (name : List UInt8) : Bool × Regions μ :=
  if name.isEmpty then saveOrRestore table state (table.setHomeRegion state.map none)
  else
    match table.findByName state.map name with
    | none => (false, state)
    | some region => saveOrRestore table state (table.setHomeRegion state.map (some region))

def setRegionFloodAllowed (state : Regions μ) (name : List UInt8) (allowed : Bool) : Bool × Regions μ :=
  match findRegion table state name with
  | none => (false, state)
  | some region =>
    let flags := if allowed then region.flags &&& ~~~table.regionDenyFlood else region.flags ||| table.regionDenyFlood
    saveOrRestore table state (table.setFlags state.map region.id flags)

def commitActiveRegionPrefs (state : Regions μ) (name : List UInt8) (keyHex : Option (List UInt8)) (replaceKey : Bool) :
    Bool × Regions μ :=
  if !name.isEmpty && !regionNameValid name then (false, state)
  else if replaceKey && keyHex.any fun hex => !isPrivateName name || (scopeKeyHexDecode hex).isNone then (false, state)
  else
    let np : RegionPrefs := ⟨name.take 30, if replaceKey then [] else state.prefs.defaultScopeKeyHex⟩
    match prefsSet state np with
    | (false, refused) => (false, refused)
    | (true, committed) =>
      match setDefaultScope table committed name with
      | (false, unsaved) => (false, (prefsSet (restoreRegionMap unsaved state.map state.dirty) state.prefs).2)
      | (true, saved) => (true, { saved with activeName := name.take 30 })

def setActiveRegionName (state : Regions μ) (name : List UInt8) : Bool × Regions μ :=
  commitActiveRegionPrefs table state name none false

def placePrivate (map : μ) (name : List UInt8) : Option (RegionEntry × μ) :=
  match table.findByName map name with
  | some region => if isPrivateName region.name then some (region, map) else none
  | none => putAllowed table map name 0

/-- The activation of a private region with its key, undone as a whole when it cannot be committed. -/
def activatePrivate (state : Regions μ) (name : List UInt8) (key : FixedBytes 16) : Bool × Regions μ :=
  match placePrivate table state.map name with
  | none => (false, state)
  | some (region, map) =>
    let previous := if (table.findByName state.map name).isSome then loadKeysFor state.keys region.id 4 else []
    match saveKeysFor table.maxTksEntries state.keys region.id [key] with
    | none => (false, state)
    | some keys =>
      match commitActiveRegionPrefs table { state with map := map, keys := keys } name none true with
      | (true, saved) => (true, saved)
      | (false, refused) =>
        let restored := restoreRegionMap
          { refused with keys := restoreKeys table refused.keys region.id previous } state.map state.dirty
        (false, (prefsSet { restored with activeName := state.activeName } state.prefs).2)

def setActiveRegionNameWithKey (state : Regions μ) (name : List UInt8) (keyHex : Option (List UInt8)) :
    Bool × Regions μ :=
  if name.isEmpty then
    if keyHex.isNone then commitActiveRegionPrefs table state name none true else (false, state)
  else
    match keyHex with
    | none => if isPrivateName name then (false, state) else commitActiveRegionPrefs table state name none true
    | some hex =>
      if isPrivateName name = false ∨ regionNameValid name = false then (false, state)
      else
        match scopeKeyHexDecode hex with
        | none => (false, state)
        | some key => activatePrivate table state name key

def installPrivateRegionKey (state : Regions μ) (region : RegionEntry) (key : FixedBytes 16) : Bool × Regions μ :=
  if region.id ≠ 0 ∧ isPrivateName region.name then setPrivateRegionKey table state region.name key else (false, state)

def regionTransportKeysFor (state : Regions μ) (region : RegionEntry) (maxNum : Nat) : List (FixedBytes 16) :=
  if isPrivateName region.name then
    if region.id = 0 then [] else loadKeysFor state.keys region.id maxNum
  else (table.getTransportKeysFor state.map region).take maxNum

def installScope (state : Regions μ) (name : List UInt8) (key : FixedBytes 16) : Option RegionEntry × Regions μ :=
  match findRegion table state name with
  | none => addPrivateRegion table state name key []
  | some region =>
    match installPrivateRegionKey table state region key with
    | (true, saved) => (some region, saved)
    | (false, unsaved) => (none, unsaved)

def uninstallScope (before state : Regions μ) (name : List UInt8) (region : RegionEntry) : Regions μ :=
  match findRegion table before name with
  | none => (removeRegion table state name).2
  | some _ =>
    match getPrivateRegionKey table before name with
    | some previous => (installPrivateRegionKey table state region previous).2
    | none => (removePrivateRegionKey table state region).2

def setPrivateFloodScope (state : Regions μ) (name : List UInt8) (key : FixedBytes 16) : Bool × Regions μ :=
  match installScope table state name key with
  | (none, refused) => (false, refused)
  | (some region, installed) =>
    match setActiveRegionNameWithKey table installed name (some (scopeKeyHexEncode key)) with
    | (true, saved) => (true, { saved with activeScope := some key })
    | (false, refused) => (false, uninstallScope table state refused name region)

def placePublic (state : Regions μ) (name : List UInt8) : Option RegionEntry × Regions μ :=
  match findRegion table state name with
  | some region => (some region, state)
  | none => addRegion table state name []

def setPublicFloodScope (state : Regions μ) (name : List UInt8) : Bool × Regions μ :=
  match placePublic table state name with
  | (none, refused) => (false, refused)
  | (some region, state) =>
    match regionTransportKeysFor table state region 1 with
    | [] => (false, state)
    | scope :: _ =>
      match setActiveRegionNameWithKey table state name none with
      | (false, refused) => (false, refused)
      | (true, saved) => (true, { saved with activeScope := some scope })

def setDefaultFloodScope (state : Regions μ) (name : List UInt8) (key : Option (FixedBytes 16)) : Bool × Regions μ :=
  if name.isEmpty then
    match setActiveRegionNameWithKey table state [] none with
    | (false, refused) => (false, refused)
    | (true, saved) => (true, { saved with activeScope := none })
  else if isPrivateName name then
    match key with
    | none => (false, state)
    | some key => setPrivateFloodScope table state name key
  else setPublicFloodScope table state name

end Operations

end SigurdOS.Mesh
