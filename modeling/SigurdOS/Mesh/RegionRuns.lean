import SigurdOS.Mesh.OrderedTable
import SigurdOS.Mesh.RegionAtomic

namespace SigurdOS.Mesh

open Bytes Hal

variable {μ : Type} {table : RegionTable μ}

section Scope

def KeepsDefault (table : RegionTable μ) (state : Regions μ) : RegionCall → Prop
  | .setDefaultScope name => regionScopeIsClear name = false
  | .removeRegion name =>
    ∃ scope, table.getDefaultRegion state.map = some scope ∧ table.findByName state.map name ≠ some scope
  | _ => table.getDefaultRegion state.map ≠ none

/-- The names of the regions that a call may put into the map without making them the default. -/
def RegionCall.puts : RegionCall → List (List UInt8)
  | .addRegion name parentName => [name, parentName]
  | .addPrivateRegion name _ parentName => [name, parentName]
  | _ => []

def Removes (table : RegionTable μ) (state : Regions μ) (region : RegionEntry) : RegionCall → Prop
  | .removeRegion name => table.findByName state.map name = some region
  | _ => False

/-- A map without a default region is not left beside a stored active_region that names one of its regions. -/
def ScopeSafe (table : RegionTable μ) (state : Regions μ) (call : RegionCall) : Prop :=
  (prefsLeft table state call).activeRegion = [] ∨
  regionNameValid (prefsLeft table state call).activeRegion = false ∨
  KeepsDefault table state call ∨
  (∀ region ∈ table.regions state.map,
      table.sameName (prefsLeft table state call).activeRegion region.name = true → Removes table state region call) ∧
    ∀ name ∈ call.puts, table.sameName (prefsLeft table state call).activeRegion name = false

variable {map after : μ} {region : RegionEntry} {active : List UInt8}

theorem putAllowed_default (lawful : table.Lawful) {name : List UInt8} {parent : UInt16}
    (put : putAllowed table map name parent = some (region, after)) :
    (table.getDefaultRegion after).map RegionEntry.id = (table.getDefaultRegion map).map RegionEntry.id := by
  obtain ⟨placed, next, stored, -, rfl⟩ := putAllowed_spec put
  rw [lawful.flags_default, lawful.put_default _ _ _ _ _ stored]

theorem putWithParent_default (lawful : table.Lawful) {name parentName : List UInt8}
    (put : putWithParent table map name parentName = some (region, after)) :
    (table.getDefaultRegion after).map RegionEntry.id = (table.getDefaultRegion map).map RegionEntry.id := by
  obtain ⟨parentId, middle, placing, allowed⟩ := putWithParent_spec put
  rw [putAllowed_default lawful allowed]
  rcases putParent_cases placing with ⟨-, -, rfl⟩ | ⟨parent, -, -, -, rfl⟩ | ⟨parent, -, -, -, stored⟩
  · rfl
  · rfl
  · exact lawful.put_default _ _ _ _ _ stored

theorem none_of_same_default {map after : μ} (same : (table.getDefaultRegion after).map RegionEntry.id =
    (table.getDefaultRegion map).map RegionEntry.id) (none : table.getDefaultRegion after = none) :
    table.getDefaultRegion map = Option.none := by
  rw [none] at same
  exact Option.map_eq_none_iff.mp same.symm

theorem flags_unmatched (lawful : table.Lawful) (id : UInt16) (flags : UInt8)
    (unmatched : ∀ region ∈ table.regions map, table.sameName active region.name = false) :
    ∀ region ∈ table.regions (table.setFlags map id flags), table.sameName active region.name = false := by
  intro region listed
  rw [lawful.flags_kept] at listed
  obtain ⟨old, member, rfl⟩ := List.mem_map.mp listed
  split
  · exact unmatched old member
  · exact unmatched old member

theorem put_unmatched (lawful : table.Lawful) {name : List UInt8} {parent : UInt16}
    (valid : regionNameValid name = true)
    (put : table.putRegion map name parent = some (region, after)) (apart : table.sameName active name = false)
    (unmatched : ∀ region ∈ table.regions map, table.sameName active region.name = false) :
    ∀ region ∈ table.regions after, table.sameName active region.name = false := by
  intro entry listed
  rcases lawful.put_cases _ _ _ _ _ valid put with ⟨-, named, -, entries⟩ | ⟨moved, -, -, entries⟩
  · rw [entries, List.mem_append] at listed
    rcases listed with old | new
    · exact unmatched entry old
    · rw [List.mem_singleton.mp new, named]
      exact apart
  · rw [entries] at listed
    obtain ⟨old, member, rfl⟩ := List.mem_map.mp listed
    split
    · exact unmatched old member
    · exact unmatched old member

theorem putWithParent_unmatched (lawful : table.Lawful) {name parentName : List UInt8}
    (valid : NamesValid name parentName)
    (put : putWithParent table map name parentName = some (region, after))
    (apart : ∀ added ∈ [name, parentName], table.sameName active added = false)
    (unmatched : ∀ region ∈ table.regions map, table.sameName active region.name = false) :
    ∀ region ∈ table.regions after, table.sameName active region.name = false := by
  obtain ⟨parentId, middle, placing, allowed⟩ := putWithParent_spec put
  obtain ⟨placed, next, stored, -, rfl⟩ := putAllowed_spec allowed
  apply flags_unmatched lawful
  apply put_unmatched lawful valid.name stored (apart name (by simp))
  rcases putParent_cases placing with ⟨-, -, rfl⟩ | ⟨parent, -, -, -, rfl⟩ | ⟨parent, filled, -, -, parentPut⟩
  · exact unmatched
  · exact unmatched
  · exact put_unmatched lawful (valid.parent filled) parentPut (apart parentName (by simp)) unmatched

theorem setDefaultScopeInMemory_default (lawful : table.Lawful) {name : List UInt8}
    (changed : setDefaultScopeInMemory table map name = some after) (kept : regionScopeIsClear name = false) :
    table.getDefaultRegion after ≠ none := by
  unfold setDefaultScopeInMemory at changed
  rw [kept, if_neg Bool.false_ne_true] at changed
  split at changed
  · cases changed
  · rename_i valid
    rw [Bool.not_eq_false] at valid
    dsimp only at changed
    split at changed
    · cases changed
    · rename_i placed next found
      obtain rfl := Option.some.inj changed
      have listed : placed ∈ table.regions next := by
        split at found
        · rename_i existing
          obtain ⟨rfl, rfl⟩ := Prod.mk.inj (Option.some.inj found)
          exact (find_listed lawful valid existing).1
        · exact (put_listed lawful valid found).1
      rw [lawful.default_set]
      · exact Option.some_ne_none _
      · rw [lawful.flags_kept, List.mem_map]
        exact ⟨placed, listed, if_pos rfl⟩

theorem dropRegion_default (lawful : table.Lawful) (listed : region ∈ table.regions map)
    (dropped : dropRegion table map region = some after) (other : table.getDefaultRegion map ≠ some region) :
    table.getDefaultRegion after = table.getDefaultRegion map := by
  unfold dropRegion at dropped
  split at dropped
  · cases dropped
  · rename_i rest removed
    obtain rfl := Option.some.inj dropped
    rw [if_neg other]
    split
    · rw [lawful.home_default, lawful.remove_default _ _ _ listed removed other]
    · exact lawful.remove_default _ _ _ listed removed other

theorem scopeSettled_of_unmatched (lawful : table.Lawful) {prefs : RegionPrefs}
    (unmatched : ∀ region ∈ table.regions map, table.sameName prefs.activeRegion region.name = false) :
    ScopeSettled table map prefs := by
  intro _
  cases valid : regionNameValid prefs.activeRegion with
  | false => exact Or.inr (Or.inl rfl)
  | true => exact Or.inr (Or.inr ((find_none_iff lawful valid).mpr unmatched))

theorem intendedMap_default (lawful : table.Lawful) {state : Regions μ} {call : RegionCall}
    (kept : KeepsDefault table state call) (intended : intendedMap table state call = some map) :
    table.getDefaultRegion map ≠ none := by
  intro none
  cases call with
  | addRegion name parentName =>
    obtain ⟨-, region, put⟩ := grownMap_iff.mp intended
    exact kept (none_of_same_default (putWithParent_default lawful put) none)
  | addPrivateRegion name key parentName =>
    obtain ⟨-, region, put⟩ := grownMap_iff.mp intended
    exact kept (none_of_same_default (putWithParent_default lawful put) none)
  | setPrivateRegionKey name key =>
    obtain rfl := Option.some.inj intended
    exact kept none
  | removePrivateRegionKey name =>
    obtain rfl := Option.some.inj intended
    exact kept none
  | removeRegion name =>
    obtain ⟨region, held, dropped⟩ := Option.bind_eq_some_iff.mp intended
    obtain ⟨valid, found⟩ := findRegion_eq_some held
    obtain ⟨scope, default, other⟩ := kept
    have apart : table.getDefaultRegion state.map ≠ some region := by
      rw [default]
      intro same
      exact other (found.trans same.symm)
    rw [dropRegion_default lawful (find_listed lawful valid found).1 dropped apart, default] at none
    cases none
  | setDefaultScope name => exact setDefaultScopeInMemory_default lawful intended kept none
  | setHomeRegion name =>
    rw [intendedMap] at intended
    split at intended
    · obtain rfl := Option.some.inj intended
      exact kept ((lawful.home_default _ _).symm.trans none)
    · obtain ⟨region, -, rfl⟩ := Option.map_eq_some_iff.mp intended
      exact kept ((lawful.home_default _ _).symm.trans none)
  | setRegionFloodAllowed name allowed =>
    obtain ⟨region, -, rfl⟩ := Option.map_eq_some_iff.mp intended
    exact kept (none_of_same_default (lawful.flags_default _ _ _) none)

theorem dropRegion_unmatched (lawful : table.Lawful) (dropped : dropRegion table map region = some after)
    (unmatched : ∀ entry ∈ table.regions map, table.sameName active entry.name = true → region = entry) :
    ∀ entry ∈ table.regions after, table.sameName active entry.name = false := by
  intro entry listed
  rw [dropRegion_regions lawful dropped, List.mem_filter] at listed
  rw [← Bool.not_eq_true]
  intro same
  obtain rfl := unmatched entry listed.1 same
  simp at listed

theorem intendedMap_unmatched (lawful : table.Lawful) {state : Regions μ} {call : RegionCall}
    (unmatched : ∀ region ∈ table.regions state.map,
      table.sameName active region.name = true → Removes table state region call)
    (apart : ∀ name ∈ call.puts, table.sameName active name = false)
    (intended : intendedMap table state call = some map) : KeepsDefault table state call ∨
      ∀ region ∈ table.regions map, table.sameName active region.name = false := by
  have none (never : ∀ region, ¬ Removes table state region call) :
      ∀ region ∈ table.regions state.map, table.sameName active region.name = false := by
    intro region listed
    rw [← Bool.not_eq_true]
    exact fun same => never region (unmatched region listed same)
  cases call with
  | addRegion name parentName =>
    obtain ⟨valid, region, put⟩ := grownMap_iff.mp intended
    exact Or.inr (putWithParent_unmatched lawful valid put apart (none fun _ => id))
  | addPrivateRegion name key parentName =>
    obtain ⟨valid, region, put⟩ := grownMap_iff.mp intended
    exact Or.inr (putWithParent_unmatched lawful valid put apart (none fun _ => id))
  | setPrivateRegionKey name key =>
    obtain rfl := Option.some.inj intended
    exact Or.inr (none fun _ => id)
  | removePrivateRegionKey name =>
    obtain rfl := Option.some.inj intended
    exact Or.inr (none fun _ => id)
  | removeRegion name =>
    obtain ⟨region, held, dropped⟩ := Option.bind_eq_some_iff.mp intended
    obtain ⟨-, found⟩ := findRegion_eq_some held
    refine Or.inr (dropRegion_unmatched lawful dropped fun entry listed same => ?_)
    exact Option.some.inj (found.symm.trans (unmatched entry listed same))
  | setDefaultScope name =>
    cases clear : regionScopeIsClear name with
    | false => exact Or.inl clear
    | true =>
      rw [intendedMap, setDefaultScopeInMemory, clear, if_pos rfl] at intended
      obtain rfl := Option.some.inj intended
      rw [lawful.default_kept]
      exact Or.inr (none fun _ => id)
  | setHomeRegion name =>
    rw [intendedMap] at intended
    split at intended
    · obtain rfl := Option.some.inj intended
      rw [lawful.home_kept]
      exact Or.inr (none fun _ => id)
    · obtain ⟨region, -, rfl⟩ := Option.map_eq_some_iff.mp intended
      rw [lawful.home_kept]
      exact Or.inr (none fun _ => id)
  | setRegionFloodAllowed name allowed =>
    obtain ⟨region, -, rfl⟩ := Option.map_eq_some_iff.mp intended
    exact Or.inr (flags_unmatched lawful _ _ (none fun _ => id))

theorem ScopeSafe.kept (lawful : table.Lawful) {state : Regions μ} {call : RegionCall}
    (safe : ScopeSafe table state call) : ScopeKept table state call := by
  intro map intended
  rcases safe with empty | invalid | kept | ⟨unmatched, apart⟩
  · exact fun _ => Or.inl empty
  · exact fun _ => Or.inr (Or.inl invalid)
  · exact fun none => absurd none (intendedMap_default lawful kept intended)
  · rcases intendedMap_unmatched lawful unmatched apart intended with kept | none
    · exact fun none => absurd none (intendedMap_default lawful kept intended)
    · exact scopeSettled_of_unmatched lawful none

end Scope

section Runs

inductive RegionAction where
  | call (call : RegionCall)
  | setActiveRegionName (name : List UInt8)
  | setActiveRegionNameWithKey (name : List UInt8) (keyHex : Option (List UInt8))
  | setDefaultFloodScope (name : List UInt8) (key : Option (FixedBytes 16))
  | setPrefs (prefs : RegionPrefs)
  | load (mounted : Bool)
  | restart (mounted : Bool)

/-- An action with the steps of its saves and preference commits that fail. -/
structure RegionEvent where
  action : RegionAction
  saveFaults : List (Option SaveFault)
  prefsFaults : List Bool

/-- The module after power on, with what is stored and nothing loaded. -/
def poweredOn (table : RegionTable μ) (file : AtomicFile) (raw : Option (List UInt8)) (prefs : RegionPrefs) :
    Regions μ where
  map := table.fresh
  keys := []
  dirty := false
  activeName := []
  activeScope := none
  file := file
  raw := raw
  prefs := prefs
  saveFaults := []
  prefsFaults := []

def performAction (table : RegionTable μ) (state : Regions μ) : RegionAction → Regions μ
  | .call call => (performCall table state call).2
  | .setActiveRegionName name => (setActiveRegionName table state name).2
  | .setActiveRegionNameWithKey name keyHex => (setActiveRegionNameWithKey table state name keyHex).2
  | .setDefaultFloodScope name key => (setDefaultFloodScope table state name key).2
  | .setPrefs prefs => (prefsSet state prefs).2
  | .load mounted => (regionsLoad table mounted state).2
  | .restart mounted => (regionsLoad table mounted { poweredOn table state.file state.raw state.prefs with
      saveFaults := state.saveFaults, prefsFaults := state.prefsFaults }).2

def facing (state : Regions μ) (saveFaults : List (Option SaveFault)) (prefsFaults : List Bool) : Regions μ :=
  { state with saveFaults := saveFaults, prefsFaults := prefsFaults }

def regionStep (table : RegionTable μ) (state : Regions μ) (event : RegionEvent) : Regions μ :=
  performAction table (facing state event.saveFaults event.prefsFaults) event.action

theorem performAction_owned (lawful : table.Lawful) {state : Regions μ} (owned : KeysOwned table state.map state.keys)
    (action : RegionAction) :
    KeysOwned table (performAction table state action).map (performAction table state action).keys := by
  cases action with
  | call call => exact performCall_owned lawful owned call
  | setActiveRegionName name => exact commitActiveRegionPrefs_owned lawful owned name none false
  | setActiveRegionNameWithKey name keyHex => exact setActiveRegionNameWithKey_owned lawful owned name keyHex
  | setDefaultFloodScope name key => exact setDefaultFloodScope_owned lawful owned name key
  | setPrefs prefs => exact prefsSet_owned owned prefs
  | load mounted => exact regionsLoad_owned lawful owned mounted
  | restart mounted => exact regionsLoad_owned lawful (emptyKeys_owned _) mounted

theorem regionStep_owned (lawful : table.Lawful) (state : Regions μ) (event : RegionEvent)
    (owned : KeysOwned table state.map state.keys) :
    KeysOwned table (regionStep table state event).map (regionStep table state event).keys :=
  @performAction_owned μ table lawful (facing state event.saveFaults event.prefsFaults) owned event.action

theorem reached_owned (lawful : table.Lawful) (file : AtomicFile) (raw : Option (List UInt8)) (prefs : RegionPrefs)
    (events : List RegionEvent) :
    KeysOwned table (Runs.run (regionStep table) (poweredOn table file raw prefs) events).map
      (Runs.run (regionStep table) (poweredOn table file raw prefs) events).keys :=
  Runs.run_invariant (fun state : Regions μ => KeysOwned table state.map state.keys) (emptyKeys_owned _)
    (regionStep_owned lawful) events

/-- A call from any state that is reached, with at most one step of its save failing before the commit. -/
theorem region_calls_all_or_nothing (lawful : table.Lawful) (file : AtomicFile) (raw : Option (List UInt8))
    (prefs : RegionPrefs) (events : List RegionEvent) (call : RegionCall) (fault : Option SaveFault) {state : Regions μ}
    (reached : state = Runs.run (regionStep table) (poweredOn table file raw prefs) events)
    (tolerable : Tolerable state.file fault) (scope : ScopeSafe table state call) :
    AllOrNothing table state (performCall table (facing state [fault] []) call).1
      (performCall table (facing state [fault] []) call).2 := by
  have owned := reached_owned lawful file raw prefs events
  rw [← reached] at owned
  have atomic := @performCall_atomic μ table (facing state [fault] []) lawful owned tolerable rfl call
    (scope.kept lawful)
  exact ⟨atomic.failed, atomic.done⟩

def sampleTable : RegionTable RegionRows := orderedTable fun _ => .ofList 16 [7]

def sampleRegion : List UInt8 := [110, 111, 114, 100]

def samplePrivate : List UInt8 := [36, 104, 117, 115]

def sampleCall : RegionCall := .addPrivateRegion samplePrivate (.ofList 16 [1]) sampleRegion

def samplePoint : Regions RegionRows :=
  Runs.run (regionStep sampleTable) (poweredOn sampleTable ⟨none, none⟩ none ⟨[], []⟩)
    [⟨.call (.addRegion sampleRegion []), [], []⟩]

/-- A private region below one that was added before; the temporary file of its save cannot be written. -/
theorem refusedPrivate_all_or_nothing :
    (performCall sampleTable (facing samplePoint [some (.replace (.write 3 true))] []) sampleCall).1 = false ∧
      AllOrNothing sampleTable samplePoint false
        (performCall sampleTable (facing samplePoint [some (.replace (.write 3 true))] []) sampleCall).2 := by
  have failed : (performCall sampleTable (facing samplePoint [some (.replace (.write 3 true))] []) sampleCall).1 =
      false := by decide +kernel
  have atomic := region_calls_all_or_nothing (orderedTable_lawful fun _ => .ofList 16 [7]) ⟨none, none⟩ none ⟨[], []⟩
    [⟨.call (.addRegion sampleRegion []), [], []⟩] sampleCall (some (.replace (.write 3 true)))
    (show samplePoint = _ from rfl)
    (by
      rintro step same
      obtain rfl := Option.some.inj same
      exact ⟨rfl, trivial, trivial⟩)
    (Or.inl (by decide +kernel))
  change AllOrNothing sampleTable samplePoint _ _ at atomic
  refine ⟨failed, ?_⟩
  rw [← failed]
  exact atomic

/-- The raw file cannot be removed behind the commit: the call fails, and the next boot has the region. -/
theorem uncleanedSave_survives_reboot :
    ¬ ∀ (table : RegionTable RegionRows), table.Lawful → ∀ (file : AtomicFile) (raw : Option (List UInt8))
      (prefs : RegionPrefs) (events : List RegionEvent) (call : RegionCall) (fault : SaveFault)
      (state : Regions RegionRows),
      state = Runs.run (regionStep table) (poweredOn table file raw prefs) events → fault.Single →
      AllOrNothing table state (performCall table (facing state [some fault] []) call).1
        (performCall table (facing state [some fault] []) call).2 := by
  intro atomic
  have all := atomic sampleTable (orderedTable_lawful _) ⟨none, none⟩ none ⟨[], []⟩ [] (.addRegion sampleRegion [])
    .cleanAfter _ rfl trivial
  obtain ⟨-, -, same, -, -⟩ := all.failed (by decide +kernel)
  exact absurd same (by decide +kernel)

end Runs

end SigurdOS.Mesh
