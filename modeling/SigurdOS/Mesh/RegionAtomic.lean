import SigurdOS.Mesh.RegionOps

namespace SigurdOS.Mesh

open Bytes Hal

variable {μ : Type} {table : RegionTable μ}

/-- The calls that change the map or a key and save once. -/
inductive RegionCall where
  | addRegion (name parentName : List UInt8)
  | addPrivateRegion (name : List UInt8) (key : FixedBytes 16) (parentName : List UInt8)
  | setPrivateRegionKey (name : List UInt8) (key : FixedBytes 16)
  | removePrivateRegionKey (name : List UInt8)
  | removeRegion (name : List UInt8)
  | setDefaultScope (name : List UInt8)
  | setHomeRegion (name : List UInt8)
  | setRegionFloodAllowed (name : List UInt8) (allowed : Bool)

def performCall (table : RegionTable μ) (state : Regions μ) : RegionCall → Bool × Regions μ
  | .addRegion name parentName =>
    ((addRegion table state name parentName).1.isSome, (addRegion table state name parentName).2)
  | .addPrivateRegion name key parentName =>
    ((addPrivateRegion table state name key parentName).1.isSome, (addPrivateRegion table state name key parentName).2)
  | .setPrivateRegionKey name key => setPrivateRegionKey table state name key
  | .removePrivateRegionKey name =>
    match findRegion table state name with
    | none => (false, state)
    | some region => removePrivateRegionKey table state region
  | .removeRegion name => removeRegion table state name
  | .setDefaultScope name => setDefaultScope table state name
  | .setHomeRegion name => setHomeRegion table state name
  | .setRegionFloodAllowed name allowed => setRegionFloodAllowed table state name allowed

/-- A call that fails leaves the map with its default scope, the keys and what a reboot reproduces; after one
    that succeeds a reboot reproduces the new state. -/
structure AllOrNothing (table : RegionTable μ) (before : Regions μ) (ok : Bool) (after : Regions μ) : Prop where
  failed : ok = false → after.map = before.map ∧ SameKeys after.keys before.keys ∧
    (reboot table after).1 = (reboot table before).1 ∧ (reboot table after).2.map = (reboot table before).2.map ∧
    SameKeys (reboot table after).2.keys (reboot table before).2.keys
  done : ok = true → (reboot table after).1 = true ∧ (reboot table after).2.map = after.map ∧
    SameKeys (reboot table after).2.keys after.keys

theorem SameKeys.refl (keys : List RegionKey) : SameKeys keys keys := fun _ _ => rfl

theorem AllOrNothing.unsaved {before after : Regions μ} (map : after.map = before.map)
    (keys : SameKeys after.keys before.keys) (file : settledLive after.file = settledLive before.file)
    (prefs : after.prefs = before.prefs) : AllOrNothing table before false after where
  failed := by
    intro _
    obtain ⟨same, maps, stores⟩ := reboot_congr table file prefs
    exact ⟨map, keys, same, maps, stores ▸ SameKeys.refl _⟩
  done := nofun

theorem AllOrNothing.unchanged (state : Regions μ) : AllOrNothing table state false state :=
  .unsaved rfl (SameKeys.refl _) rfl rfl

theorem privateRegionKeys_congr {map : μ} {keys other : List RegionKey}
    (same : ∀ region ∈ table.regions map, loadKeysFor keys region.id 1 = loadKeysFor other region.id 1) :
    privateRegionKeys table map keys = privateRegionKeys table map other := by
  unfold privateRegionKeys
  apply List.filterMap_congr
  intro region listed
  rw [same region listed]

theorem AllOrNothing.saved (lawful : table.Lawful) {before changed saved after : Regions μ}
    (done : regionsSave table changed = (true, saved)) (map : after.map = changed.map) (file : after.file = saved.file)
    (owned : KeysOwned table after.map after.keys)
    (persisted : privateRegionKeys table changed.map changed.keys = privateRegionKeys table changed.map after.keys)
    (settled : ScopeSettled table after.map after.prefs) : AllOrNothing table before true after where
  failed := nofun
  done := by
    intro _
    obtain ⟨accepted, bound, fit, stored⟩ := regionsSave_done done
    rw [← file] at stored
    rw [persisted, ← map] at bound fit stored
    rw [← map] at accepted
    exact reboot_of_envelope lawful accepted bound fit owned stored settled

section Calls

variable {state : Regions μ}

theorem saveOrRestore_atomic (lawful : table.Lawful) (owned : KeysOwned table state.map state.keys)
    (tolerable : Tolerable state.file (state.saveFaults.headD none)) {map : μ}
    (kept : ∀ id, HasPrivate table state.map id → HasPrivate table map id)
    (settled : ScopeSettled table map state.prefs) :
    AllOrNothing table state (saveOrRestore table state map).1 (saveOrRestore table state map).2 := by
  unfold saveOrRestore
  have unmoved := regionsSave_unmoved table { state with map := map }
  cases outcome : regionsSave table { state with map := map } with
  | mk ok after =>
    rw [outcome] at unmoved
    dsimp only at unmoved
    cases ok with
    | true =>
      refine .saved lawful outcome unmoved.map rfl ?_ ?_ ?_
      · rw [unmoved.map, unmoved.keys]
        exact owned.moves kept
      · rw [unmoved.keys]
      · rw [unmoved.map, unmoved.prefs]
        exact settled
    | false =>
      have file := @regionsSave_failed μ table { state with map := map } after tolerable outcome
      exact .unsaved rfl (unmoved.keys ▸ SameKeys.refl _) file unmoved.prefs

theorem addRegion_eq (name parentName : List UInt8) :
    ((addRegion table state name parentName).1.isSome, (addRegion table state name parentName).2) = (false, state) ∨
    ∃ region map, NamesValid name parentName ∧ putWithParent table state.map name parentName = some (region, map) ∧
      ((addRegion table state name parentName).1.isSome, (addRegion table state name parentName).2) =
        saveOrRestore table state map := by
  unfold addRegion saveOrRestore
  split
  · exact Or.inl rfl
  · rename_i valid
    cases put : putWithParent table state.map name parentName with
    | none => exact Or.inl rfl
    | some placed =>
      obtain ⟨region, map⟩ := placed
      refine Or.inr ⟨region, map, namesValid_iff.mpr valid, rfl, ?_⟩
      dsimp only
      cases regionsSave table { state with map := map } with
      | mk ok after =>
        cases ok with
        | true => rfl
        | false => rfl

theorem changed_atomic (lawful : table.Lawful)
    (tolerable : Tolerable state.file (state.saveFaults.headD none)) {map : μ}
    {keys : List RegionKey} (owned : KeysOwned table map keys) (settled : ScopeSettled table map state.prefs)
    {ok : Bool} {after : Regions μ}
    (outcome : regionsSave table { state with map := map, keys := keys } = (ok, after)) :
    (ok = true → AllOrNothing table state true after) ∧
      (ok = false → ∀ restored dirty, SameKeys restored state.keys →
        AllOrNothing table state false { after with map := state.map, keys := restored, dirty := dirty }) := by
  have unmoved := regionsSave_unmoved table { state with map := map, keys := keys }
  rw [outcome] at unmoved
  dsimp only at unmoved
  constructor
  · rintro rfl
    refine .saved lawful outcome unmoved.map rfl ?_ ?_ ?_
    · rw [unmoved.map, unmoved.keys]
      exact owned
    · rw [unmoved.keys]
    · rw [unmoved.map, unmoved.prefs]
      exact settled
  · rintro rfl restored dirty same
    have file := @regionsSave_failed μ table { state with map := map, keys := keys } after tolerable outcome
    exact .unsaved rfl same file unmoved.prefs

def saveOrRestoreKeys (table : RegionTable μ) (state : Regions μ) (keys : List RegionKey) (id : UInt16) :
    Bool × Regions μ :=
  match regionsSave table { state with keys := keys } with
  | (true, saved) => (true, saved)
  | (false, unsaved) =>
    (false, { unsaved with keys := restoreKeys table keys id (loadKeysFor state.keys id 4), dirty := state.dirty })

theorem saveOrRestoreKeys_atomic (lawful : table.Lawful) (owned : KeysOwned table state.map state.keys)
    (tolerable : Tolerable state.file (state.saveFaults.headD none))
    (settled : ScopeSettled table state.map state.prefs)
    {keys : List RegionKey} {id : UInt16} (changed : KeysOwned table state.map keys) (nonzero : id ≠ 0)
    (others : keys.filter (·.1 != id) = state.keys.filter (·.1 != id)) :
    AllOrNothing table state (saveOrRestoreKeys table state keys id).1 (saveOrRestoreKeys table state keys id).2 := by
  unfold saveOrRestoreKeys
  have unmoved := regionsSave_unmoved table { state with keys := keys }
  cases outcome : regionsSave table { state with keys := keys } with
  | mk ok after =>
    obtain ⟨done, failed⟩ := changed_atomic lawful tolerable changed settled outcome
    rw [outcome] at unmoved
    cases ok with
    | true => exact done rfl
    | false =>
      have restored := failed rfl (restoreKeys table keys id (loadKeysFor state.keys id 4)) state.dirty
        (by rw [restoreKeys_eq owned nonzero others]; exact (restoredKeys_owned owned).2)
      rw [← unmoved.map] at restored
      exact restored

theorem saveOrRestoreKeys_owned (owned : KeysOwned table state.map state.keys) {keys : List RegionKey} {id : UInt16}
    (changed : KeysOwned table state.map keys) (nonzero : id ≠ 0)
    (others : keys.filter (·.1 != id) = state.keys.filter (·.1 != id)) :
    KeysOwned table (saveOrRestoreKeys table state keys id).2.map (saveOrRestoreKeys table state keys id).2.keys := by
  unfold saveOrRestoreKeys
  have unmoved := regionsSave_unmoved table { state with keys := keys }
  generalize regionsSave table { state with keys := keys } = outcome at *
  obtain ⟨ok, after⟩ := outcome
  dsimp only at unmoved
  cases ok with
  | true =>
    rw [unmoved.map, unmoved.keys]
    exact changed
  | false =>
    dsimp only
    rw [unmoved.map, restoreKeys_eq owned nonzero others]
    exact (restoredKeys_owned owned).1

/-- The keys that a call tries to save for one region, with the region's other keys as they were. -/
structure KeyChange (table : RegionTable μ) (state : Regions μ) (keys : List RegionKey) (id : UInt16) : Prop where
  changed : KeysOwned table state.map keys
  nonzero : id ≠ 0
  others : keys.filter (·.1 != id) = state.keys.filter (·.1 != id)

theorem findRegion_eq_some {name : List UInt8} {region : RegionEntry}
    (found : findRegion table state name = some region) :
    regionNameValid name = true ∧ table.findByName state.map name = some region := by
  unfold findRegion at found
  split at found
  · rename_i valid
    exact ⟨valid, found⟩
  · cases found

theorem setPrivateRegionKey_eq (lawful : table.Lawful) (owned : KeysOwned table state.map state.keys)
    (name : List UInt8)
    (key : FixedBytes 16) : setPrivateRegionKey table state name key = (false, state) ∨
      ∃ keys id, KeyChange table state keys id ∧
        setPrivateRegionKey table state name key = saveOrRestoreKeys table state keys id := by
  unfold setPrivateRegionKey
  split
  · exact Or.inl rfl
  · split
    · exact Or.inl rfl
    · rename_i region held
      obtain ⟨valid, found⟩ := findRegion_eq_some held
      split
      · exact Or.inl rfl
      · rename_i usable
        rw [not_or, Bool.not_eq_false, Bool.not_eq_true] at usable
        dsimp only
        split
        · exact Or.inl rfl
        · rename_i keys saved
          obtain ⟨listed, -⟩ := find_listed lawful valid found
          have changed := owned.save ⟨region, listed, rfl, usable.1⟩ usable.2 saved
          obtain ⟨nonzero, shape⟩ := saveKeysFor_eq saved
          have others : keys.filter (·.1 != region.id) = state.keys.filter (·.1 != region.id) := by
            rw [shape]
            simp
          exact Or.inr ⟨keys, region.id, ⟨changed, nonzero, others⟩, rfl⟩

theorem removePrivateRegionKey_eq (owned : KeysOwned table state.map state.keys) (region : RegionEntry) :
    removePrivateRegionKey table state region = (false, state) ∨
      ∃ keys id, KeyChange table state keys id ∧
        removePrivateRegionKey table state region = saveOrRestoreKeys table state keys id := by
  unfold removePrivateRegionKey
  split
  · exact Or.inl rfl
  · rename_i usable
    rw [not_or] at usable
    dsimp only
    split
    · exact Or.inl rfl
    · rw [removeKeys, if_neg usable.1]
      dsimp only
      exact Or.inr ⟨_, region.id, ⟨owned.filter _, usable.1, by simp⟩, rfl⟩

def saveOrRestoreBoth (table : RegionTable μ) (state : Regions μ) (map : μ) (keys : List RegionKey) :
    Bool × Regions μ :=
  match regionsSave table { state with map := map, keys := keys } with
  | (true, saved) => (true, saved)
  | (false, unsaved) => (false, { unsaved with map := state.map, keys := state.keys, dirty := state.dirty })

theorem filter_of_fresh (owned : KeysOwned table state.map state.keys) {id : UInt16}
    (fresh : ∀ old ∈ table.regions state.map, old.id ≠ id) : state.keys.filter (·.1 != id) = state.keys := by
  rw [List.filter_eq_self]
  intro key member
  obtain ⟨region, listed, same, -⟩ := owned.owned key member
  have apart := fresh region listed
  rw [same] at apart
  simpa using apart

theorem addPrivateRegion_eq (lawful : table.Lawful) (owned : KeysOwned table state.map state.keys) (name : List UInt8)
    (key : FixedBytes 16) (parentName : List UInt8) :
    ((addPrivateRegion table state name key parentName).1.isSome,
        (addPrivateRegion table state name key parentName).2) = (false, state) ∨
      ∃ region map keys, NamesValid name parentName ∧
        putWithParent table state.map name parentName = some (region, map) ∧ KeysOwned table map keys ∧
        ((addPrivateRegion table state name key parentName).1.isSome,
          (addPrivateRegion table state name key parentName).2) = saveOrRestoreBoth table state map keys := by
  unfold addPrivateRegion saveOrRestoreBoth
  split
  · exact Or.inl rfl
  · rename_i usable
    simp only [not_or, Bool.not_eq_false, Bool.not_eq_true, Option.isSome_eq_false_iff, Option.isNone_iff_eq_none]
      at usable
    obtain ⟨isPrivate, named, parented, new⟩ := usable
    have valid : NamesValid name parentName := namesValid_iff.mpr (by simp [named, parented])
    split
    · exact Or.inl rfl
    · rename_i filled
      rw [Bool.not_eq_true] at filled
      cases put : putWithParent table state.map name parentName with
      | none => exact Or.inl rfl
      | some placed =>
        obtain ⟨region, map⟩ := placed
        dsimp only
        have untouched := filter_of_fresh owned (putWithParent_fresh lawful valid put new)
        split
        · rename_i full
          left
          dsimp only
          rw [removeKeys]
          split
          · rfl
          · rw [Option.getD_some, untouched]
            rfl
        · rename_i keys saved
          have moved := owned.moves fun id has => putWithParent_keeps lawful valid put has
          have changed := moved.save (putWithParent_private lawful named put isPrivate) filled saved
          obtain ⟨nonzero, shape⟩ := saveKeysFor_eq saved
          have restored : (removeKeys keys region.id).getD keys = state.keys := by
            rw [removeKeys, if_neg nonzero, Option.getD_some, shape]
            simp [untouched]
          refine Or.inr ⟨region, map, keys, valid, rfl, changed, ?_⟩
          cases regionsSave table { state with map := map, keys := keys } with
          | mk ok after =>
            cases ok with
            | true => rfl
            | false => rw [restored]; rfl

def keysWithout (state : Regions μ) (name : List UInt8) (region : RegionEntry) : List RegionKey :=
  if isPrivateName name then state.keys.filter (·.1 != region.id) else state.keys

theorem keysWithout_apart (lawful : table.Lawful) (owned : KeysOwned table state.map state.keys) {name : List UInt8}
    {region : RegionEntry} (valid : regionNameValid name = true)
    (found : table.findByName state.map name = some region) :
    keysWithout state name region = state.keys.filter (·.1 != region.id) := by
  unfold keysWithout
  split
  · rfl
  · rename_i isPublic
    obtain ⟨listed, marked⟩ := find_listed lawful valid found
    symm
    rw [List.filter_eq_self]
    intro key member
    obtain ⟨holder, inside, same, isPrivate⟩ := owned.owned key member
    rw [bne_iff_ne]
    intro equal
    obtain rfl := List.inj_on_of_nodup_map (lawful.ids_distinct _) inside listed (same.trans equal)
    exact isPublic (marked ▸ isPrivate)

theorem keysWithout_owned (lawful : table.Lawful) (owned : KeysOwned table state.map state.keys) {name : List UInt8}
    {region : RegionEntry} {map : μ} (valid : regionNameValid name = true) (found : table.findByName state.map name =
      some region)
    (dropped : dropRegion table state.map region = some map) :
    KeysOwned table map (keysWithout state name region) := by
  rw [keysWithout_apart lawful owned valid found]
  have filtered := owned.filter (·.1 != region.id)
  refine ⟨fun key member => ?_, filtered.single, filtered.filled, filtered.room⟩
  exact dropRegion_keeps lawful dropped (filtered.owned key member) (by simpa using (List.mem_filter.mp member).2)

theorem keysWithout_persisted (lawful : table.Lawful) (owned : KeysOwned table state.map state.keys) {name : List UInt8}
    {region : RegionEntry} {map : μ} (valid : regionNameValid name = true) (found : table.findByName state.map name =
      some region)
    (dropped : dropRegion table state.map region = some map) :
    privateRegionKeys table map state.keys = privateRegionKeys table map (keysWithout state name region) := by
  rw [keysWithout_apart lawful owned valid found]
  apply privateRegionKeys_congr
  intro other listed
  rw [dropRegion_regions lawful dropped, List.mem_filter] at listed
  have apart : other.id ≠ region.id := by simpa using listed.2
  have same : (state.keys.filter (·.1 != region.id)).filter (·.1 == other.id) =
      state.keys.filter (·.1 == other.id) := by
    rw [List.filter_filter]
    apply List.filter_congr
    intro key _
    by_cases equal : key.1 = other.id
    · simp [equal, apart]
    · simp [equal]
  rw [loadKeysFor, loadKeysFor, same]

theorem finishRemoval_done (lawful : table.Lawful) {saved : Regions μ} {name : List UInt8} {region : RegionEntry}
    (listed : region ∈ table.regions state.map) (keys : saved.keys = state.keys) (prefs : saved.prefs = state.prefs)
    (commits : saved.prefsFaults.headD false = false) :
    ∃ after, finishRemoval table state saved name region = (true, after) ∧ after.map = saved.map ∧
      after.file = saved.file ∧ after.keys = keysWithout state name region ∧
      after.prefs.activeRegion = (prefsWithout table state region).activeRegion := by
  unfold finishRemoval keysWithout
  have nonzero := lawful.ids_nonzero _ _ listed
  have erased : removeKeys state.keys region.id = some (state.keys.filter (·.1 != region.id)) := by
    rw [removeKeys, if_neg nonzero]
  split
  · rename_i refused changed
    split at changed
    · rw [prefsSet, commits] at changed
      cases changed
    · cases changed
  · rename_i middle changed
    have kept : middle.map = saved.map ∧ middle.file = saved.file ∧ middle.keys = state.keys ∧
        middle.prefs.activeRegion = (prefsWithout table state region).activeRegion := by
      split at changed
      · rw [prefsSet, commits] at changed
        obtain ⟨-, rfl⟩ := Prod.mk.inj changed
        exact ⟨rfl, rfl, keys, rfl⟩
      · rename_i neither
        obtain ⟨-, rfl⟩ := Prod.mk.inj changed
        refine ⟨rfl, rfl, keys, ?_⟩
        rw [Bool.not_eq_true, Bool.or_eq_false_iff] at neither
        rw [prefsWithout, neither.1, prefs]
        rfl
    obtain ⟨same, file, store, active⟩ := kept
    rw [store, erased]
    dsimp only
    split
    · exact ⟨_, rfl, same, file, rfl, active⟩
    · exact ⟨_, rfl, same, file, store, active⟩

theorem removeRegion_atomic (lawful : table.Lawful) (owned : KeysOwned table state.map state.keys)
    (tolerable : Tolerable state.file (state.saveFaults.headD none)) (commits : state.prefsFaults.headD false = false)
    (name : List UInt8)
    (settled : ∀ region map, findRegion table state name = some region → table.findByName state.map name = some region →
      dropRegion table state.map region = some map → ScopeSettled table map (prefsWithout table state region)) :
    AllOrNothing table state (removeRegion table state name).1 (removeRegion table state name).2 := by
  unfold removeRegion
  split
  · exact .unchanged state
  · rename_i valid
    rw [Bool.not_eq_false] at valid
    split
    · exact .unchanged state
    · rename_i region found
      split
      · exact .unchanged state
      · rename_i map dropped
        have unmoved := regionsSave_unmoved table
          { state with map := map, activeName := if wasActive state region then [] else state.activeName }
        cases outcome : regionsSave table
            { state with map := map, activeName := if wasActive state region then [] else state.activeName } with
        | mk ok saved =>
          rw [outcome] at unmoved
          dsimp only at unmoved
          cases ok with
          | false =>
            have file := @regionsSave_failed μ table
              { state with map := map, activeName := if wasActive state region then []
              else state.activeName } saved tolerable outcome
            exact .unsaved rfl (unmoved.keys ▸ SameKeys.refl _) file unmoved.prefs
          | true =>
            obtain ⟨listed, -⟩ := find_listed lawful valid found
            obtain ⟨after, finished, maps, files, keys, active⟩ :=
              @finishRemoval_done μ table state lawful saved name region
              listed unmoved.keys unmoved.prefs (by rw [unmoved.prefsFaults]; exact commits)
            dsimp only
            rw [finished]
            have scope := settled region map (by rw [findRegion, if_pos valid, found]) found dropped
            refine .saved lawful outcome (maps.trans unmoved.map) files ?_ ?_ ?_
            · rw [maps, unmoved.map, keys]
              exact keysWithout_owned lawful owned valid found dropped
            · rw [keys]
              exact keysWithout_persisted lawful owned valid found dropped
            · intro none
              rw [maps, unmoved.map] at none ⊢
              rw [active]
              exact scope none

theorem prefsSet_owned (owned : KeysOwned table state.map state.keys) (prefs : RegionPrefs) :
    KeysOwned table (prefsSet state prefs).2.map (prefsSet state prefs).2.keys := by
  rw [(prefsSet_frame state prefs).1, (prefsSet_frame state prefs).2]
  exact owned

theorem saveOrRestore_owned (owned : KeysOwned table state.map state.keys) {map : μ}
    (kept : ∀ id, HasPrivate table state.map id → HasPrivate table map id) :
    KeysOwned table (saveOrRestore table state map).2.map (saveOrRestore table state map).2.keys := by
  unfold saveOrRestore
  have unmoved := regionsSave_unmoved table { state with map := map }
  generalize regionsSave table { state with map := map } = outcome at *
  obtain ⟨ok, after⟩ := outcome
  dsimp only at unmoved
  cases ok with
  | true =>
    rw [unmoved.map, unmoved.keys]
    exact owned.moves kept
  | false =>
    change KeysOwned table state.map after.keys
    rw [unmoved.keys]
    exact owned

theorem finishRemoval_store {saved : Regions μ} {name : List UInt8} {region : RegionEntry}
    (keys : saved.keys = state.keys) :
    ((finishRemoval table state saved name region).2.map = state.map ∧
      (finishRemoval table state saved name region).2.keys = state.keys) ∨
    ((finishRemoval table state saved name region).2.map = saved.map ∧
      (finishRemoval table state saved name region).2.keys = keysWithout state name region) := by
  unfold finishRemoval keysWithout
  dsimp only
  have frame : (if wasActive state region || wasDefault table state region then
      prefsSet saved (prefsWithout table state region) else (true, saved)).2.map = saved.map ∧
      (if wasActive state region || wasDefault table state region then
      prefsSet saved (prefsWithout table state region) else (true, saved)).2.keys = state.keys := by
    split
    · exact ⟨(prefsSet_frame _ _).1, (prefsSet_frame _ _).2.trans keys⟩
    · exact ⟨rfl, keys⟩
  generalize (if wasActive state region || wasDefault table state region then
      prefsSet saved (prefsWithout table state region) else (true, saved)) = outcome at *
  obtain ⟨ok, middle⟩ := outcome
  dsimp only at frame
  cases ok with
  | false =>
    refine Or.inl ⟨(regionsSave_unmoved table _).map, (regionsSave_unmoved table _).keys.trans frame.2⟩
  | true =>
    dsimp only
    split
    · rw [frame.2]
      cases removed : removeKeys state.keys region.id with
      | some left =>
        unfold removeKeys at removed
        split at removed
        · cases removed
        · exact Or.inr ⟨frame.1, (Option.some.inj removed).symm⟩
      | none =>
        dsimp only
        rw [(regionsSave_unmoved table _).map, (regionsSave_unmoved table _).keys, (prefsSet_frame _ _).1,
          (prefsSet_frame _ _).2]
        exact Or.inl ⟨rfl, frame.2⟩
    · exact Or.inr frame

theorem removeRegion_owned (lawful : table.Lawful) (owned : KeysOwned table state.map state.keys) (name : List UInt8) :
    KeysOwned table (removeRegion table state name).2.map (removeRegion table state name).2.keys := by
  unfold removeRegion
  split
  · exact owned
  · rename_i valid
    rw [Bool.not_eq_false] at valid
    split
    · exact owned
    · rename_i region found
      split
      · exact owned
      · rename_i map dropped
        have unmoved := regionsSave_unmoved table
          { state with map := map, activeName := if wasActive state region then [] else state.activeName }
        generalize regionsSave table
          { state with map := map, activeName := if wasActive state region then [] else state.activeName } =
            outcome at *
        obtain ⟨ok, saved⟩ := outcome
        dsimp only at unmoved
        cases ok with
        | false =>
          change KeysOwned table state.map saved.keys
          rw [unmoved.keys]
          exact owned
        | true =>
          rcases @finishRemoval_store μ table state saved name region unmoved.keys with ⟨map, keys⟩ | ⟨map, keys⟩
          · rw [map, keys]
            exact owned
          · rw [map, keys, unmoved.map]
            exact keysWithout_owned lawful owned valid found dropped

theorem saveOrRestoreBoth_owned (owned : KeysOwned table state.map state.keys) {map : μ} {keys : List RegionKey}
    (changed : KeysOwned table map keys) :
    KeysOwned table (saveOrRestoreBoth table state map keys).2.map (saveOrRestoreBoth table state map keys).2.keys := by
  unfold saveOrRestoreBoth
  have unmoved := regionsSave_unmoved table { state with map := map, keys := keys }
  generalize regionsSave table { state with map := map, keys := keys } = outcome at *
  obtain ⟨ok, after⟩ := outcome
  dsimp only at unmoved
  cases ok with
  | true =>
    rw [unmoved.map, unmoved.keys]
    exact changed
  | false => exact owned

theorem setDefaultScope_owned (lawful : table.Lawful) (owned : KeysOwned table state.map state.keys)
    (name : List UInt8) :
    KeysOwned table (setDefaultScope table state name).2.map (setDefaultScope table state name).2.keys := by
  unfold setDefaultScope
  split
  · exact owned
  · rename_i map changed
    exact saveOrRestore_owned owned fun id => setDefaultScopeInMemory_keeps lawful changed

theorem home_keeps_private (lawful : table.Lawful) {map : μ} (region : Option RegionEntry) (id : UInt16)
    (has : HasPrivate table map id) : HasPrivate table (table.setHomeRegion map region) id := by
  rw [HasPrivate, lawful.home_kept]
  exact has

theorem performCall_owned (lawful : table.Lawful) (owned : KeysOwned table state.map state.keys) (call : RegionCall) :
    KeysOwned table (performCall table state call).2.map (performCall table state call).2.keys := by
  cases call with
  | addRegion name parentName =>
    rcases @addRegion_eq μ table state name parentName with same | ⟨region, map, valid, put, same⟩
    · rw [performCall, same]
      exact owned
    · rw [performCall, same]
      exact saveOrRestore_owned owned fun id => putWithParent_keeps lawful valid put
  | addPrivateRegion name key parentName =>
    rcases addPrivateRegion_eq lawful owned name key parentName
      with same | ⟨region, map, keys, valid, put, changed, same⟩
    · rw [performCall, same]
      exact owned
    · rw [performCall, same]
      exact saveOrRestoreBoth_owned owned changed
  | setPrivateRegionKey name key =>
    rcases setPrivateRegionKey_eq lawful owned name key with same | ⟨keys, id, change, same⟩
    · rw [performCall, same]
      exact owned
    · rw [performCall, same]
      exact saveOrRestoreKeys_owned owned change.changed change.nonzero change.others
  | removePrivateRegionKey name =>
    rw [performCall]
    split
    · exact owned
    · rename_i region _
      rcases removePrivateRegionKey_eq owned region with same | ⟨keys, id, change, same⟩
      · rw [same]
        exact owned
      · rw [same]
        exact saveOrRestoreKeys_owned owned change.changed change.nonzero change.others
  | removeRegion name => exact removeRegion_owned lawful owned name
  | setDefaultScope name => exact setDefaultScope_owned lawful owned name
  | setHomeRegion name =>
    rw [performCall, setHomeRegion]
    split
    · exact saveOrRestore_owned owned (home_keeps_private lawful none)
    · split
      · exact owned
      · exact saveOrRestore_owned owned (home_keeps_private lawful _)
  | setRegionFloodAllowed name allowed =>
    rw [performCall, setRegionFloodAllowed]
    split
    · exact owned
    · exact saveOrRestore_owned owned fun id => flags_keep_private lawful

def grownMap (table : RegionTable μ) (map : μ) (name parentName : List UInt8) : Option μ :=
  if regionNameValid name = false ∨ (!parentName.isEmpty && !regionNameValid parentName) then none
  else (putWithParent table map name parentName).map Prod.snd

theorem grownMap_iff {map after : μ} {name parentName : List UInt8} : grownMap table map name parentName = some after ↔
    NamesValid name parentName ∧ ∃ region, putWithParent table map name parentName = some (region, after) := by
  unfold grownMap
  rw [namesValid_iff]
  split
  · rename_i refused
    exact ⟨nofun, fun both => absurd refused both.1⟩
  · rename_i valid
    rw [Option.map_eq_some_iff]
    constructor
    · rintro ⟨⟨region, grown⟩, put, rfl⟩
      exact ⟨valid, region, put⟩
    · rintro ⟨-, region, put⟩
      exact ⟨(region, after), put, rfl⟩

def intendedMap (table : RegionTable μ) (state : Regions μ) : RegionCall → Option μ
  | .addRegion name parentName => grownMap table state.map name parentName
  | .addPrivateRegion name _ parentName => grownMap table state.map name parentName
  | .setPrivateRegionKey _ _ => some state.map
  | .removePrivateRegionKey _ => some state.map
  | .removeRegion name => (findRegion table state name).bind (dropRegion table state.map)
  | .setDefaultScope name => setDefaultScopeInMemory table state.map name
  | .setHomeRegion name =>
    if name.isEmpty then some (table.setHomeRegion state.map none)
    else (table.findByName state.map name).map fun region => table.setHomeRegion state.map (some region)
  | .setRegionFloodAllowed name allowed =>
    (findRegion table state name).map fun region => table.setFlags state.map region.id
      (if allowed then region.flags &&& ~~~table.regionDenyFlood else region.flags ||| table.regionDenyFlood)

/-- The preferences that a call leaves: removing the active region clears it there too. -/
def prefsLeft (table : RegionTable μ) (state : Regions μ) : RegionCall → RegionPrefs
  | .removeRegion name => ((table.findByName state.map name).map (prefsWithout table state)).getD state.prefs
  | _ => state.prefs

/-- The map to be saved has a default region, or none that the stored active_region would bring back. -/
def ScopeKept (table : RegionTable μ) (state : Regions μ) (call : RegionCall) : Prop :=
  ∀ map, intendedMap table state call = some map → ScopeSettled table map (prefsLeft table state call)

theorem performCall_atomic (lawful : table.Lawful) (owned : KeysOwned table state.map state.keys)
    (tolerable : Tolerable state.file (state.saveFaults.headD none)) (commits : state.prefsFaults.headD false = false)
    (call : RegionCall) (scope : ScopeKept table state call) :
    AllOrNothing table state (performCall table state call).1 (performCall table state call).2 := by
  cases call with
  | addRegion name parentName =>
    rcases @addRegion_eq μ table state name parentName with same | ⟨region, map, valid, put, same⟩
    · rw [performCall, same]
      exact .unchanged state
    · rw [performCall, same]
      exact saveOrRestore_atomic lawful owned tolerable (fun id => putWithParent_keeps lawful valid put)
        (scope map (grownMap_iff.mpr ⟨valid, region, put⟩))
  | addPrivateRegion name key parentName =>
    rcases addPrivateRegion_eq lawful owned name key parentName
      with same | ⟨region, map, keys, valid, put, changed, same⟩
    · rw [performCall, same]
      exact .unchanged state
    · rw [performCall, same, saveOrRestoreBoth]
      have settled := scope map (grownMap_iff.mpr ⟨valid, region, put⟩)
      cases outcome : regionsSave table { state with map := map, keys := keys } with
      | mk ok after =>
        obtain ⟨done, failed⟩ := changed_atomic lawful tolerable changed settled outcome
        cases ok with
        | true => exact done rfl
        | false => exact failed rfl _ _ (SameKeys.refl _)
  | setPrivateRegionKey name key =>
    rcases setPrivateRegionKey_eq lawful owned name key with same | ⟨keys, id, change, same⟩
    · rw [performCall, same]
      exact .unchanged state
    · rw [performCall, same]
      exact saveOrRestoreKeys_atomic lawful owned tolerable (scope _ rfl) change.changed change.nonzero change.others
  | removePrivateRegionKey name =>
    rw [performCall]
    split
    · exact .unchanged state
    · rename_i region _
      rcases removePrivateRegionKey_eq owned region with same | ⟨keys, id, change, same⟩
      · rw [same]
        exact .unchanged state
      · rw [same]
        exact saveOrRestoreKeys_atomic lawful owned tolerable (scope _ rfl) change.changed change.nonzero change.others
  | removeRegion name =>
    apply removeRegion_atomic lawful owned tolerable commits name
    intro region map held found dropped
    have settled := scope map (by rw [intendedMap, held]; exact dropped)
    rw [prefsLeft, found] at settled
    exact settled
  | setDefaultScope name =>
    rw [performCall, setDefaultScope]
    split
    · exact .unchanged state
    · rename_i map changed
      exact saveOrRestore_atomic lawful owned tolerable (fun id => setDefaultScopeInMemory_keeps lawful changed)
        (scope map changed)
  | setHomeRegion name =>
    rw [performCall, setHomeRegion]
    split
    · rename_i empty
      exact saveOrRestore_atomic lawful owned tolerable (home_keeps_private lawful none)
        (scope _ (by rw [intendedMap, if_pos empty]))
    · rename_i nonempty
      split
      · exact .unchanged state
      · rename_i region found
        exact saveOrRestore_atomic lawful owned tolerable (home_keeps_private lawful _)
          (scope _ (by rw [intendedMap, if_neg nonempty, found]; rfl))
  | setRegionFloodAllowed name allowed =>
    rw [performCall, setRegionFloodAllowed]
    split
    · exact .unchanged state
    · rename_i region found
      exact saveOrRestore_atomic lawful owned tolerable (fun id => flags_keep_private lawful)
        (scope _ (by rw [intendedMap, found]; rfl))

end Calls

section ScopeCalls

variable {state : Regions μ}

theorem commitActiveRegionPrefs_store (name : List UInt8) (keyHex : Option (List UInt8)) (replaceKey : Bool) :
    (commitActiveRegionPrefs table state name keyHex replaceKey).2.keys = state.keys ∧
      ((commitActiveRegionPrefs table state name keyHex replaceKey).2.map = state.map ∨
        setDefaultScopeInMemory table state.map name =
          some (commitActiveRegionPrefs table state name keyHex replaceKey).2.map) := by
  unfold commitActiveRegionPrefs
  split
  · exact ⟨rfl, Or.inl rfl⟩
  · split
    · exact ⟨rfl, Or.inl rfl⟩
    · dsimp only
      have frame := prefsSet_frame state ⟨name.take 30, if replaceKey then [] else state.prefs.defaultScopeKeyHex⟩
      generalize prefsSet state ⟨name.take 30, if replaceKey then [] else state.prefs.defaultScopeKeyHex⟩ = outcome at *
      obtain ⟨ok, committed⟩ := outcome
      dsimp only at frame
      cases ok with
      | false => exact ⟨frame.2, Or.inl frame.1⟩
      | true =>
        dsimp only
        unfold setDefaultScope
        rw [frame.1]
        cases changed : setDefaultScopeInMemory table state.map name with
        | none =>
          dsimp only
          rw [(prefsSet_frame _ _).1, (prefsSet_frame _ _).2]
          exact ⟨frame.2, Or.inl rfl⟩
        | some map =>
          dsimp only
          unfold saveOrRestore
          have unmoved := regionsSave_unmoved table { committed with map := map }
          generalize regionsSave table { committed with map := map } = outcome at *
          obtain ⟨ok, after⟩ := outcome
          dsimp only at unmoved
          cases ok with
          | true => exact ⟨unmoved.keys.trans frame.2, Or.inr (congrArg some unmoved.map.symm)⟩
          | false =>
            dsimp only
            rw [(prefsSet_frame _ _).1, (prefsSet_frame _ _).2]
            exact ⟨unmoved.keys.trans frame.2, Or.inl rfl⟩

theorem commitActiveRegionPrefs_owned (lawful : table.Lawful) (owned : KeysOwned table state.map state.keys)
    (name : List UInt8) (keyHex : Option (List UInt8)) (replaceKey : Bool) :
    KeysOwned table (commitActiveRegionPrefs table state name keyHex replaceKey).2.map
      (commitActiveRegionPrefs table state name keyHex replaceKey).2.keys := by
  obtain ⟨keys, maps⟩ := @commitActiveRegionPrefs_store μ table state name keyHex replaceKey
  rw [keys]
  rcases maps with same | changed
  · rw [same]
    exact owned
  · exact owned.moves fun id => setDefaultScopeInMemory_keeps lawful changed

theorem placePrivate_spec (lawful : table.Lawful) (owned : KeysOwned table state.map state.keys) {name : List UInt8}
    {region : RegionEntry} {map : μ} (valid : regionNameValid name = true) (isPrivate : isPrivateName name = true)
    (placed : placePrivate table state.map name = some (region, map)) :
    (∀ id, HasPrivate table state.map id → HasPrivate table map id) ∧ HasPrivate table map region.id ∧
      (if (table.findByName state.map name).isSome then loadKeysFor state.keys region.id 4 else []) =
        loadKeysFor state.keys region.id 4 := by
  unfold placePrivate at placed
  cases found : table.findByName state.map name with
  | some existing =>
    rw [found] at placed
    dsimp only at placed
    split at placed
    · obtain ⟨rfl, rfl⟩ := Prod.mk.inj (Option.some.inj placed)
      obtain ⟨listed, marked⟩ := find_listed lawful valid found
      exact ⟨fun _ has => has, ⟨existing, listed, rfl, marked.trans isPrivate⟩, rfl⟩
    · cases placed
  | none =>
    rw [found] at placed
    have fresh : ∀ old ∈ table.regions state.map, old.id ≠ region.id := by
      have parentless : putWithParent table state.map name [] = some (region, map) := placed
      exact putWithParent_fresh lawful ⟨valid, by simp⟩ parentless found
    refine ⟨fun id => putAllowed_keeps lawful valid placed, putAllowed_private lawful valid placed isPrivate, ?_⟩
    rw [loadKeysFor_of_absent]
    · rfl
    · intro key member same
      obtain ⟨holder, listed, id, -⟩ := owned.owned key member
      exact fresh holder listed (id.trans same)

theorem activatePrivate_owned (lawful : table.Lawful) (owned : KeysOwned table state.map state.keys) {name : List UInt8}
    {key : FixedBytes 16} (valid : regionNameValid name = true) (isPrivate : isPrivateName name = true)
    (filled : isNull key = false) :
    KeysOwned table (activatePrivate table state name key).2.map (activatePrivate table state name key).2.keys := by
  unfold activatePrivate
  split
  · exact owned
  · rename_i region map placed
    obtain ⟨kept, own, previous⟩ := placePrivate_spec lawful owned valid isPrivate placed
    dsimp only
    split
    · exact owned
    · rename_i keys saved
      have changed := (owned.moves kept).save own filled saved
      obtain ⟨nonzero, shape⟩ := saveKeysFor_eq saved
      have others : keys.filter (·.1 != region.id) = state.keys.filter (·.1 != region.id) := by
        rw [shape]
        simp
      have store := @commitActiveRegionPrefs_store μ table { state with map := map, keys := keys } name none true
      have committed := @commitActiveRegionPrefs_owned μ table { state with map := map, keys := keys } lawful
        changed name
        none true
      generalize commitActiveRegionPrefs table { state with map := map, keys := keys } name none true = outcome at *
      obtain ⟨ok, after⟩ := outcome
      dsimp only at store committed
      cases ok with
      | true => exact committed
      | false =>
        dsimp only
        rw [(prefsSet_frame _ _).1, (prefsSet_frame _ _).2, previous, store.1]
        change KeysOwned table state.map (restoreKeys table keys region.id (loadKeysFor state.keys region.id 4))
        rw [restoreKeys_eq owned nonzero others]
        exact (restoredKeys_owned owned).1

theorem length_decodeNibbles : ∀ {hex bytes : List UInt8}, decodeNibbles hex = some bytes →
    bytes.length = hex.length / 2
  | [], _, decoded => by rw [← Option.some.inj decoded]; rfl
  | [_], _, decoded => by rw [← Option.some.inj decoded]; simp
  | high :: low :: rest, bytes, decoded => by
    rw [decodeNibbles] at decoded
    split at decoded
    · rename_i inner
      have length := length_decodeNibbles inner
      rw [← Option.some.inj decoded, List.length_cons, length, List.length_cons, List.length_cons]
      omega
    · cases decoded

theorem scopeKeyHexDecode_filled {hex : List UInt8} {key : FixedBytes 16} (decoded : scopeKeyHexDecode hex = some key) :
    isNull key = false := by
  unfold scopeKeyHexDecode at decoded
  split at decoded
  · cases decoded
  · rename_i width
    rw [not_not] at width
    split at decoded
    · cases decoded
    · rename_i bytes nibbles
      split at decoded
      · cases decoded
      · rename_i nonzero
        have length := length_decodeNibbles nibbles
        rw [width] at length
        obtain rfl := Option.some.inj decoded
        rw [isNull, FixedBytes.ofList_of_length length]
        exact Bool.not_eq_true _ ▸ nonzero

theorem setActiveRegionNameWithKey_owned (lawful : table.Lawful) (owned : KeysOwned table state.map state.keys)
    (name : List UInt8) (keyHex : Option (List UInt8)) :
    KeysOwned table (setActiveRegionNameWithKey table state name keyHex).2.map
      (setActiveRegionNameWithKey table state name keyHex).2.keys := by
  unfold setActiveRegionNameWithKey
  split
  · split
    · exact commitActiveRegionPrefs_owned lawful owned _ _ _
    · exact owned
  · split
    · split
      · exact owned
      · exact commitActiveRegionPrefs_owned lawful owned _ _ _
    · split
      · exact owned
      · rename_i usable
        rw [not_or, Bool.not_eq_false, Bool.not_eq_false] at usable
        split
        · exact owned
        · rename_i key decoded
          exact activatePrivate_owned lawful owned usable.2 usable.1 (scopeKeyHexDecode_filled decoded)

theorem addRegion_owned (lawful : table.Lawful) (owned : KeysOwned table state.map state.keys)
    (name parentName : List UInt8) :
    KeysOwned table (addRegion table state name parentName).2.map (addRegion table state name parentName).2.keys :=
  performCall_owned lawful owned (.addRegion name parentName)

theorem addPrivateRegion_owned (lawful : table.Lawful) (owned : KeysOwned table state.map state.keys)
    (name : List UInt8)
    (key : FixedBytes 16) (parentName : List UInt8) :
    KeysOwned table (addPrivateRegion table state name key parentName).2.map
      (addPrivateRegion table state name key parentName).2.keys :=
  performCall_owned lawful owned (.addPrivateRegion name key parentName)

theorem installPrivateRegionKey_owned (lawful : table.Lawful) (owned : KeysOwned table state.map state.keys)
    (region : RegionEntry) (key : FixedBytes 16) :
    KeysOwned table (installPrivateRegionKey table state region key).2.map
      (installPrivateRegionKey table state region key).2.keys := by
  unfold installPrivateRegionKey
  split
  · exact performCall_owned lawful owned (.setPrivateRegionKey region.name key)
  · exact owned

theorem removePrivateRegionKey_owned (owned : KeysOwned table state.map state.keys) (region : RegionEntry) :
    KeysOwned table (removePrivateRegionKey table state region).2.map
        (removePrivateRegionKey table state region).2.keys := by
  rcases removePrivateRegionKey_eq owned region with same | ⟨keys, id, change, same⟩
  · rw [same]
    exact owned
  · rw [same]
    exact saveOrRestoreKeys_owned owned change.changed change.nonzero change.others

theorem installScope_owned (lawful : table.Lawful) (owned : KeysOwned table state.map state.keys) (name : List UInt8)
    (key : FixedBytes 16) :
    KeysOwned table (installScope table state name key).2.map (installScope table state name key).2.keys := by
  unfold installScope
  split
  · exact addPrivateRegion_owned lawful owned _ _ _
  · rename_i region _
    have installed := installPrivateRegionKey_owned lawful owned region key
    generalize installPrivateRegionKey table state region key = outcome at *
    obtain ⟨ok, after⟩ := outcome
    cases ok with
    | true => exact installed
    | false => exact installed

theorem uninstallScope_owned (lawful : table.Lawful) (owned : KeysOwned table state.map state.keys) (before : Regions μ)
    (name : List UInt8) (region : RegionEntry) :
    KeysOwned table (uninstallScope table before state name region).map
      (uninstallScope table before state name region).keys := by
  unfold uninstallScope
  split
  · exact removeRegion_owned lawful owned name
  · split
    · exact installPrivateRegionKey_owned lawful owned region _
    · exact removePrivateRegionKey_owned owned region

theorem setPrivateFloodScope_owned (lawful : table.Lawful) (owned : KeysOwned table state.map state.keys)
    (name : List UInt8) (key : FixedBytes 16) :
    KeysOwned table (setPrivateFloodScope table state name key).2.map
      (setPrivateFloodScope table state name key).2.keys := by
  unfold setPrivateFloodScope
  have installed := installScope_owned lawful owned name key
  generalize installScope table state name key = outcome at *
  obtain ⟨placed, after⟩ := outcome
  dsimp only at installed
  cases placed with
  | none => exact installed
  | some region =>
    have active := setActiveRegionNameWithKey_owned lawful installed name (some (scopeKeyHexEncode key))
    dsimp only
    generalize setActiveRegionNameWithKey table after name (some (scopeKeyHexEncode key)) = outcome at *
    obtain ⟨ok, last⟩ := outcome
    dsimp only at active
    cases ok with
    | true => exact active
    | false => exact uninstallScope_owned lawful active state name region

theorem placePublic_owned (lawful : table.Lawful) (owned : KeysOwned table state.map state.keys) (name : List UInt8) :
    KeysOwned table (placePublic table state name).2.map (placePublic table state name).2.keys := by
  unfold placePublic
  split
  · exact owned
  · exact addRegion_owned lawful owned _ _

theorem setPublicFloodScope_owned (lawful : table.Lawful) (owned : KeysOwned table state.map state.keys)
    (name : List UInt8) :
    KeysOwned table (setPublicFloodScope table state name).2.map (setPublicFloodScope table state name).2.keys := by
  unfold setPublicFloodScope
  have placed := placePublic_owned lawful owned name
  generalize placePublic table state name = outcome at *
  obtain ⟨found, after⟩ := outcome
  dsimp only at placed
  cases found with
  | none => exact placed
  | some region =>
    dsimp only
    split
    · exact placed
    · have active := setActiveRegionNameWithKey_owned lawful placed name none
      generalize setActiveRegionNameWithKey table after name none = outcome at *
      obtain ⟨ok, last⟩ := outcome
      dsimp only at active
      cases ok with
      | true => exact active
      | false => exact active

theorem setDefaultFloodScope_owned (lawful : table.Lawful) (owned : KeysOwned table state.map state.keys)
    (name : List UInt8) (key : Option (FixedBytes 16)) :
    KeysOwned table (setDefaultFloodScope table state name key).2.map
      (setDefaultFloodScope table state name key).2.keys := by
  unfold setDefaultFloodScope
  split
  · have active := setActiveRegionNameWithKey_owned lawful owned [] none
    generalize setActiveRegionNameWithKey table state [] none = outcome at *
    obtain ⟨ok, after⟩ := outcome
    cases ok with
    | false => exact active
    | true => exact active
  · split
    · split
      · exact owned
      · exact setPrivateFloodScope_owned lawful owned _ _
    · exact setPublicFloodScope_owned lawful owned _

end ScopeCalls

section Load

variable {state : Regions μ}

theorem loadKeyRecords_invariant {σ : Type} {loadKey : σ → RegionKey → Bool × σ} (inv : σ → Prop)
    (kept : ∀ ctx key, inv ctx → inv (loadKey ctx key).2) (count : Nat) (stream : List UInt8) {ctx : σ}
    (initial : inv ctx) :
    inv (loadKeyRecords loadKey count stream ctx).2 := by
  induction count generalizing stream ctx with
  | zero => exact initial
  | succ count ih =>
    rw [loadKeyRecords]
    split
    · exact initial
    · rename_i record rest _
      have next := kept ctx (UInt16.ofNat (regionReadU16 record), .ofList 16 (record.drop 2)) initial
      generalize loadKey ctx (UInt16.ofNat (regionReadU16 record), .ofList 16 (record.drop 2)) = outcome at *
      obtain ⟨ok, after⟩ := outcome
      cases ok with
      | true => exact ih rest next
      | false => exact next

theorem emptyKeys_owned (map : μ) : KeysOwned table map [] := ⟨nofun, List.nodup_nil, nofun, Nat.zero_le _⟩

theorem loadPrivateRegionKey_owned (lawful : table.Lawful) {map : μ} (keys : List RegionKey) (key : RegionKey)
    (owned : KeysOwned table map keys) : KeysOwned table map (loadPrivateRegionKey table map keys key).2 := by
  unfold loadPrivateRegionKey
  split
  · exact owned
  · rename_i nonzero
    split
    · exact owned
    · rename_i region found
      split
      · exact owned
      · rename_i usable
        rw [not_or, Bool.not_eq_false, Bool.not_eq_true] at usable
        split
        · exact owned
        · rename_i saved
          rw [lawful.findById_eq map _ nonzero] at found
          have same : region.id = key.1 := by simpa using List.find?_some found
          exact owned.save ⟨region, List.mem_of_find?_eq_some found, same, usable.1⟩ usable.2 saved

theorem transactionalKeys_owned (lawful : table.Lawful) (map : μ) (file : AtomicFile) :
    KeysOwned table map (regionStoreLoadTransactionalKeys (loadPrivateRegionKey table map) file []).2 := by
  unfold regionStoreLoadTransactionalKeys
  split
  · exact emptyKeys_owned map
  · rename_i data _
    split
    · exact emptyKeys_owned map
    · split
      · exact emptyKeys_owned map
      · rename_i header _ _
        dsimp only
        have loaded := loadKeyRecords_invariant (KeysOwned table map) (loadPrivateRegionKey_owned lawful)
          ((header.drop 7).headD 0).toNat (data.drop (regionTransactionalHeaderSize + regionReadU32 (header.drop 3)))
          (emptyKeys_owned map)
        generalize loadKeyRecords (loadPrivateRegionKey table map) ((header.drop 7).headD 0).toNat
          (data.drop (regionTransactionalHeaderSize + regionReadU32 (header.drop 3))) [] = outcome at *
        obtain ⟨ok, keys⟩ := outcome
        cases ok with
        | true => exact loaded
        | false => exact loaded

theorem storedKeys_owned (lawful : table.Lawful) (map : μ) (file : AtomicFile) (transactional : Bool) :
    KeysOwned table map (storedKeys table map file transactional).2 := by
  unfold storedKeys
  split
  · exact transactionalKeys_owned lawful map file
  · exact emptyKeys_owned map

theorem checkedPrefs_valid (prefs : RegionPrefs) (filled : (checkedPrefs prefs).1.activeRegion.isEmpty = false) :
    regionNameValid (checkedPrefs prefs).1.activeRegion = true := by
  rw [checkedPrefs_active] at filled ⊢
  split
  · rename_i invalid
    rw [if_pos invalid] at filled
    cases filled
  · rename_i usable
    rw [if_neg usable] at filled
    simpa [filled] using usable

theorem canonicalRegion_listed (lawful : table.Lawful) {map : μ} {prefs : RegionPrefs} {region : RegionEntry}
    (canonical : canonicalRegion table map (checkedPrefs prefs).1 = some region) : region ∈ table.regions map := by
  unfold canonicalRegion at canonical
  split at canonical
  · rename_i default
    obtain rfl := Option.some.inj canonical
    exact lawful.default_listed _ _ default
  · split at canonical
    · cases canonical
    · rename_i filled
      exact (find_listed lawful (checkedPrefs_valid prefs (Bool.not_eq_true _ ▸ filled)) canonical).1

theorem overlaidKeys_owned (lawful : table.Lawful) {map : μ} {keys : List RegionKey} (owned : KeysOwned table map keys)
    (prefs : RegionPrefs) : KeysOwned table map
      (overlaidKeys table keys (canonicalRegion table map (checkedPrefs prefs).1) (checkedPrefs prefs).1) := by
  unfold overlaidKeys
  split
  · exact owned
  · rename_i region canonical
    have listed := canonicalRegion_listed lawful canonical
    split
    · rename_i usable
      rw [Bool.and_eq_true, Bool.and_eq_true] at usable
      split
      · exact owned
      · rename_i key _
        split
        · exact owned
        · rename_i filled
          cases saved : saveKeysFor table.maxTksEntries keys region.id [key] with
          | none => exact owned
          | some added => exact owned.save ⟨region, listed, rfl, usable.1.1⟩ (Bool.not_eq_true _ ▸ filled) saved
    · exact owned

theorem adoptRegions_owned (lawful : table.Lawful) (owned : KeysOwned table state.map state.keys)
    (transactional : Bool) :
    KeysOwned table (adoptRegions table state transactional).map (adoptRegions table state transactional).keys := by
  rw [(adoptRegions_frame table _ _).1, (adoptRegions_frame table _ _).2]
  unfold adoptedState
  dsimp only
  have keys : KeysOwned table state.map (if transactional then state.keys else
      overlaidKeys table state.keys (canonicalRegion table state.map (checkedPrefs state.prefs).1)
        (checkedPrefs state.prefs).1) := by
    split
    · exact owned
    · exact overlaidKeys_owned lawful owned _
  apply keys.moves
  intro id has
  split
  · rw [HasPrivate, lawful.default_kept]
    exact has
  · exact has

theorem regionsLoad_owned (lawful : table.Lawful) (owned : KeysOwned table state.map state.keys) (mounted : Bool) :
    KeysOwned table (regionsLoad table mounted state).2.map (regionsLoad table mounted state).2.keys := by
  unfold regionsLoad
  split
  · exact owned
  · dsimp only
    split
    · exact emptyKeys_owned _
    · split
      · exact emptyKeys_owned _
      · rename_i map _
        split
        · exact storedKeys_owned lawful map _ _
        · exact adoptRegions_owned lawful (storedKeys_owned lawful map _ _) _

end Load

end SigurdOS.Mesh
