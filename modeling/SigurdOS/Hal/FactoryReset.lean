import SigurdOS.Library.Runs

namespace SigurdOS.Hal

section Policy

inductive ResetMarkerStage where
  | armed | nvs | spiffs
  deriving DecidableEq

inductive NvsNamespace where
  | passwords | chatScopes | prefs
  deriving DecidableEq

inductive NvsAction where
  | clear | replaceWithSafePrefs
  deriving DecidableEq

structure NvsTarget where
  name : NvsNamespace
  action : NvsAction
  deriving DecidableEq

def nvsTargets : List NvsTarget :=
  [⟨.passwords, .clear⟩, ⟨.chatScopes, .clear⟩, ⟨.prefs, .replaceWithSafePrefs⟩]

structure SafePrefs where
  bleEnabled : Bool
  bleUserSet : Bool
  bleBondResetPending : Bool
  deriving DecidableEq

def factoryResetDefaults : SafePrefs := ⟨false, true, true⟩

/-- The history of the message store on the card, in the order in which the reset removes its files. -/
inductive SdFile where
  | temp | ready | corrupt | live
  deriving DecidableEq

def sdHistoryFiles : List SdFile := [.temp, .ready, .corrupt, .live]

end Policy

inductive ResetEffect where
  | removed (file : SdFile)
  | cleared (name : NvsNamespace)
  | replaced (name : NvsNamespace) (prefs : SafePrefs)
  | formatted
  deriving DecidableEq

/-- Who called `factoryReset`: the application, or `setup` with a marker set. -/
inductive ResetCaller where
  | runtime | setup
  deriving DecidableEq

inductive ResetPoint where
  | off
  | bootMarker
  | selectStore (resume : Bool)
  | runtime
  | readMarker (caller : ResetCaller)
  | armInterlock (caller : ResetCaller)
  | armMarker (caller : ResetCaller)
  | preflight (caller : ResetCaller) (resuming : Bool)
  | abortMarker (caller : ResetCaller)
  | sdHistory
  | removeFile (file : SdFile) (rest : List SdFile) (removed : Bool)
  | saveSnapshot
  | stopWarm (stage : ResetMarkerStage)
  | nvsMarker
  | applyTarget (target : NvsTarget) (rest : List NvsTarget)
  | spiffsMarker (rest : List NvsTarget)
  | formatSpiffs
  | clearMarker
  | restart
  | refused (caller : ResetCaller)
  | halted
  deriving DecidableEq

/-- What the device had erased, and what was on the card, when a reset cleared its marker. -/
structure ResetCompletion where
  effects : List ResetEffect
  files : SdFile → Bool

/-- The stores that the reset works on and the point that it has reached. The effects are those since the reset was
    begun. -/
structure ResetDevice where
  point : ResetPoint
  marker : Option ResetMarkerStage
  files : SdFile → Bool
  usingSd : Bool
  effects : List ResetEffect
  completions : List ResetCompletion

/-- A step is done, or it fails or the power is cut, with its effect or without. -/
inductive StepOutcome where
  | done
  | fails (effect : Bool)
  | cut (effect : Bool)
  deriving DecidableEq

/-- The outcome of the next step, whether the card is there, and what a message store that has run since would leave
    on it. -/
structure StepInput where
  outcome : StepOutcome
  card : Bool
  files : SdFile → Bool
  usingSd : Bool

namespace ResetDevice

def act (device : ResetDevice) (outcome : StepOutcome) (effect : ResetDevice → ResetDevice) (next failed : ResetPoint) :
    ResetDevice :=
  match outcome with
  | .done => { effect device with point := next }
  | .fails true => { effect device with point := failed }
  | .fails false => { device with point := failed }
  | .cut true => { effect device with point := .off }
  | .cut false => { device with point := .off }

def commitMarker (device : ResetDevice) (outcome : StepOutcome) (effect : ResetDevice → ResetDevice)
    (next failed : ResetPoint) : ResetDevice :=
  match outcome with
  | .fails _ => { device with point := failed }
  | outcome => device.act outcome effect next failed

def nextFile : List SdFile → Bool → ResetPoint
  | [], true => .saveSnapshot
  | [], false => .off
  | file :: rest, removed => .removeFile file rest removed

def nextTarget : List NvsTarget → ResetPoint
  | [] => .formatSpiffs
  | target :: rest => .applyTarget target rest

def targetEffect (target : NvsTarget) : ResetEffect :=
  match target.action with
  | .clear => .cleared target.name
  | .replaceWithSafePrefs => .replaced target.name factoryResetDefaults

def erase (effect : ResetEffect) (device : ResetDevice) : ResetDevice :=
  { device with effects := device.effects ++ [effect] }

def removeSdFile (file : SdFile) (device : ResetDevice) : ResetDevice :=
  { device with
    files := fun other => if other = file then false else device.files other
    effects := device.effects ++ [.removed file] }

/-- `sdMessageStoreSelect` may move history to the card and back; without a card it stays with the default store. -/
def sdMessageStoreSelect (input : StepInput) (device : ResetDevice) : ResetDevice :=
  if input.card then { device with files := input.files, usingSd := input.usingSd }
  else { device with usingSd := false }

/-- One step of `setup` or of `factoryReset`. A terminal failure restarts the device, with the marker in place. -/
def step (device : ResetDevice) (input : StepInput) : ResetDevice :=
  match device.point with
  | .off => { device with point := .bootMarker, usingSd := false }
  | .bootMarker =>
    let next : ResetPoint :=
      match device.marker with
      | none => .selectStore false
      | some .armed => .selectStore true
      | some _ => .readMarker .setup
    device.act input.outcome id next (.readMarker .setup)
  | .selectStore resume =>
    let next : ResetPoint := if resume then .readMarker .setup else .runtime
    device.act input.outcome (sdMessageStoreSelect input) next next
  | .runtime =>
    match input.outcome with
    | .cut _ => { device with point := .off }
    | _ => { device with point := .readMarker .runtime, files := input.files, usingSd := input.usingSd }
  | .readMarker caller =>
    match device.marker with
    | none => { device with effects := [] }.act input.outcome id (.armInterlock caller) .off
    | some .armed => device.act input.outcome id (.preflight caller true) .off
    | some stage => device.act input.outcome id (.stopWarm stage) .off
  -- The interlock turns BLE off in the preferences and erases nothing.
  | .armInterlock caller => device.act input.outcome id (.armMarker caller) (.refused caller)
  | .armMarker caller =>
    device.commitMarker input.outcome (fun device => { device with marker := some .armed }) (.preflight caller false)
      (.refused caller)
  | .preflight caller resuming =>
    { device with usingSd := device.usingSd && input.outcome == StepOutcome.done }.act input.outcome id .sdHistory
      (if resuming then .off else .abortMarker caller)
  | .abortMarker caller =>
    device.commitMarker input.outcome (fun device => { device with marker := none }) (.refused caller) .off
  -- Without a card the reset passes exactly if the store was not on the card.
  | .sdHistory =>
    let next : ResetPoint :=
      if input.card then nextFile sdHistoryFiles true else if device.usingSd then .off else .saveSnapshot
    { device with usingSd := false }.act input.outcome id next next
  -- A file that stays does not keep the others from being removed.
  | .removeFile file rest removed =>
    device.act input.outcome (removeSdFile file) (nextFile rest removed) (nextFile rest false)
  | .saveSnapshot => device.act input.outcome id (.stopWarm .armed) .off
  | .stopWarm stage => device.act input.outcome id (if stage = .spiffs then .formatSpiffs else .nvsMarker) .off
  | .nvsMarker =>
    device.commitMarker input.outcome (fun device => { device with marker := some .nvs }) (nextTarget nvsTargets) .off
  | .applyTarget target rest =>
    let next := if target.action = .replaceWithSafePrefs then .spiffsMarker rest else nextTarget rest
    device.act input.outcome (erase (targetEffect target)) next .off
  | .spiffsMarker rest =>
    device.commitMarker input.outcome (fun device => { device with marker := some .spiffs }) (nextTarget rest) .off
  | .formatSpiffs => device.act input.outcome (erase .formatted) .clearMarker .off
  | .clearMarker =>
    device.commitMarker input.outcome (fun device => { device with
      marker := none
      completions := device.completions ++ [⟨device.effects, device.files⟩] }) .restart .off
  | .restart => { device with point := .off }
  | .refused .runtime => device.act input.outcome id .runtime .runtime
  | .refused .setup => device.act input.outcome id .halted .halted
  | .halted => device.act input.outcome id .halted .halted

/-- `factoryReset` is called while the history is on a mounted card. -/
def start (files : SdFile → Bool) : ResetDevice := ⟨.readMarker .runtime, none, files, true, [], []⟩

end ResetDevice

/-- The target was cleared, or replaced by preferences with BLE off and the purge of its bonds pending. -/
def TargetReset (effects : List ResetEffect) (target : NvsTarget) : Prop :=
  match target.action with
  | .clear => .cleared target.name ∈ effects
  | .replaceWithSafePrefs => ∃ prefs, .replaced target.name prefs ∈ effects ∧ prefs.bleEnabled = false ∧
      prefs.bleBondResetPending = true

/-- Every target was reset, the file system formatted after that, and no file of the history is on the card. -/
structure Wiped (completion : ResetCompletion) : Prop where
  erased : ∃ before after, completion.effects = before ++ .formatted :: after ∧
    ∀ target ∈ nvsTargets, TargetReset before target
  history : ∀ file, completion.files file = false

structure ResetSafe (device : ResetDevice) : Prop where
  completed : ∀ completion ∈ device.completions, Wiped completion
  refused : ∀ caller, device.point = .refused caller → device.marker = none → device.effects = []
  held : device.marker ≠ none → device.point ≠ .runtime ∧ device.point ≠ .refused .runtime

/-- The reset does not pass by a card that is not there and has files of the history on it. -/
def CardReached (device : ResetDevice) (input : StepInput) : Prop :=
  device.point = .sdHistory → device.usingSd = false → input.card = false → (∀ effect, input.outcome ≠ .cut effect) →
    ∀ file, device.files file = false

variable {device : ResetDevice} {input : StepInput} {outcome : StepOutcome}

/-- What the stores hold at every point of the reset, and so after a power cut at any step. -/
structure ResetStored (device : ResetDevice) : Prop where
  nvs : device.marker = some .nvs → ∀ file, device.files file = false
  spiffs : device.marker = some .spiffs →
    (∀ file, device.files file = false) ∧ ∀ target ∈ nvsTargets, TargetReset device.effects target
  completed : ∀ completion ∈ device.completions, Wiped completion

def ReachedAt (device : ResetDevice) : ResetPoint → Prop
  | .off | .bootMarker | .readMarker .setup | .restart | .halted => True
  | .selectStore true | .sdHistory => device.marker = some .armed
  | .selectStore false | .runtime | .readMarker .runtime => device.marker = none
  | .armInterlock _ | .armMarker _ | .refused _ => device.marker = none ∧ device.effects = []
  | .preflight _ resuming => device.marker = some .armed ∧ (resuming = false → device.effects = [])
  | .abortMarker _ => device.marker = some .armed ∧ device.effects = []
  | .removeFile file rest removed => device.marker = some .armed ∧
      (removed = true → ∀ other ∉ file :: rest, device.files other = false)
  | .saveSnapshot => device.marker = some .armed ∧ ∀ file, device.files file = false
  | .stopWarm stage => device.marker = some stage ∧ ∀ file, device.files file = false
  | .nvsMarker => ∀ file, device.files file = false
  | .applyTarget target rest => device.marker = some .nvs ∧
      ∃ applied, nvsTargets = applied ++ target :: rest ∧ ∀ other ∈ applied, TargetReset device.effects other
  | .spiffsMarker rest => device.marker = some .nvs ∧ rest = [] ∧
      ∀ target ∈ nvsTargets, TargetReset device.effects target
  | .formatSpiffs => device.marker = some .spiffs
  | .clearMarker => device.marker = some .spiffs ∧ Wiped ⟨device.effects, device.files⟩

structure ResetInv (device : ResetDevice) : Prop where
  stored : ResetStored device
  reached : ReachedAt device device.point

theorem nvsTargets_last {applied rest : List NvsTarget} {target : NvsTarget}
    (split : nvsTargets = applied ++ target :: rest) : target.action = .replaceWithSafePrefs ↔ rest = [] := by
  rcases applied with _ | ⟨first, _ | ⟨second, _ | ⟨third, more⟩⟩⟩
  all_goals simp only [nvsTargets, List.nil_append, List.cons_append, List.cons.injEq] at split
  · obtain ⟨rfl, rfl⟩ := split
    decide
  · obtain ⟨-, rfl, rfl⟩ := split
    decide
  · obtain ⟨-, -, rfl, rfl⟩ := split
    decide
  · simp at split

theorem TargetReset.mono {effects : List ResetEffect} {target : NvsTarget} (reset : TargetReset effects target)
    (effect : ResetEffect) : TargetReset (effects ++ [effect]) target := by
  unfold TargetReset at reset ⊢
  split at reset
  · exact List.mem_append_left _ reset
  · obtain ⟨prefs, replaced, safe⟩ := reset
    exact ⟨prefs, List.mem_append_left _ replaced, safe⟩

theorem targetEffect_resets (effects : List ResetEffect) (target : NvsTarget) :
    TargetReset (effects ++ [ResetDevice.targetEffect target]) target := by
  obtain ⟨name, action⟩ := target
  cases action with
  | clear => simp [TargetReset, ResetDevice.targetEffect]
  | replaceWithSafePrefs => exact ⟨factoryResetDefaults, by simp [ResetDevice.targetEffect], rfl, rfl⟩

section Steps

variable {effect : ResetDevice → ResetDevice} {next failed : ResetPoint}

theorem act_inv (before : ResetStored device) (after : ResetStored (effect device))
    (done : ReachedAt (effect device) next) (without : ReachedAt device failed)
    (despite : ReachedAt (effect device) failed) : ResetInv (device.act outcome effect next failed) := by
  match outcome with
  | .done => exact ⟨⟨after.nvs, after.spiffs, after.completed⟩, done⟩
  | .fails true => exact ⟨⟨after.nvs, after.spiffs, after.completed⟩, despite⟩
  | .fails false => exact ⟨⟨before.nvs, before.spiffs, before.completed⟩, without⟩
  | .cut true => exact ⟨⟨after.nvs, after.spiffs, after.completed⟩, trivial⟩
  | .cut false => exact ⟨⟨before.nvs, before.spiffs, before.completed⟩, trivial⟩

theorem act_idle (stored : ResetStored device) (done : ReachedAt device next) (without : ReachedAt device failed) :
    ResetInv (device.act outcome id next failed) :=
  act_inv stored stored done without without

theorem commitMarker_inv (before : ResetStored device) (after : ResetStored (effect device))
    (done : ReachedAt (effect device) next) (without : ReachedAt device failed) :
    ResetInv (device.commitMarker outcome effect next failed) := by
  match outcome with
  | .fails _ => exact ⟨⟨before.nvs, before.spiffs, before.completed⟩, without⟩
  | .done => exact ⟨⟨after.nvs, after.spiffs, after.completed⟩, done⟩
  | .cut true => exact ⟨⟨after.nvs, after.spiffs, after.completed⟩, trivial⟩
  | .cut false => exact ⟨⟨before.nvs, before.spiffs, before.completed⟩, trivial⟩

theorem resetStored_of_early {changed : ResetDevice} (stored : ResetStored device)
    (early : changed.marker = none ∨ changed.marker = some .armed)
    (same : changed.completions = device.completions) : ResetStored changed where
  nvs := by
    intro nvs
    simp [nvs] at early
  spiffs := by
    intro spiffs
    simp [spiffs] at early
  completed := by
    rw [same]
    exact stored.completed

end Steps

theorem nextFile_reached {removed : Bool} {rest : List SdFile} (armed : device.marker = some .armed)
    (gone : removed = true → ∀ other ∉ rest, device.files other = false) :
    ReachedAt device (ResetDevice.nextFile rest removed) := by
  match rest, removed with
  | [], true => exact ⟨armed, fun file => gone rfl file List.not_mem_nil⟩
  | [], false => trivial
  | file :: rest, removed => exact ⟨armed, gone⟩

theorem removeFile_inv {file : SdFile} {rest : List SdFile} {removed : Bool}
    (stored : ResetStored device) (reached : ReachedAt device (.removeFile file rest removed)) :
    ResetInv (device.act outcome (ResetDevice.removeSdFile file) (ResetDevice.nextFile rest removed)
      (ResetDevice.nextFile rest false)) := by
  obtain ⟨armed, gone⟩ := reached
  have after : ResetStored (device.removeSdFile file) := resetStored_of_early stored (.inr armed) rfl
  have still : (device.removeSdFile file).marker = some .armed := armed
  apply act_inv stored after
  · apply nextFile_reached still
    intro all other outside
    by_cases same : other = file
    · simp [ResetDevice.removeSdFile, same]
    · have kept : device.files other = false := gone all other (by simp [same, outside])
      simp [ResetDevice.removeSdFile, same, kept]
  · exact nextFile_reached armed nofun
  · exact nextFile_reached still nofun

theorem applyTarget_inv {target : NvsTarget} {rest : List NvsTarget}
    (stored : ResetStored device) (reached : ReachedAt device (.applyTarget target rest)) :
    ResetInv (device.act outcome (ResetDevice.erase (ResetDevice.targetEffect target))
      (if target.action = .replaceWithSafePrefs then .spiffsMarker rest else ResetDevice.nextTarget rest) .off) := by
  obtain ⟨nvs, applied, split, reset⟩ := reached
  have after : ResetStored (device.erase (ResetDevice.targetEffect target)) :=
    ⟨stored.nvs, fun spiffs => by simp [ResetDevice.erase, nvs] at spiffs, stored.completed⟩
  have applied_reset : ∀ other ∈ applied ++ [target],
      TargetReset (device.effects ++ [ResetDevice.targetEffect target]) other := by
    intro other inside
    rcases List.mem_append.mp inside with early | last
    · exact (reset other early).mono _
    · rw [List.mem_singleton.mp last]
      exact targetEffect_resets device.effects target
  refine act_inv stored after ?_ trivial trivial
  have last := nvsTargets_last split
  by_cases replace : target.action = .replaceWithSafePrefs
  · rw [if_pos replace]
    have none : rest = [] := last.mp replace
    refine ⟨nvs, none, ?_⟩
    rwa [split, none]
  · rw [if_neg replace]
    obtain ⟨following, later, rfl⟩ := List.exists_cons_of_ne_nil (mt last.mpr replace)
    exact ⟨nvs, applied ++ [target], by simpa using split, applied_reset⟩

theorem formatSpiffs_inv (stored : ResetStored device) (spiffs : device.marker = some .spiffs) :
    ResetInv (device.act outcome (ResetDevice.erase .formatted) .clearMarker .off) := by
  obtain ⟨gone, reset⟩ := stored.spiffs spiffs
  have after : ResetStored (device.erase .formatted) :=
    ⟨stored.nvs, fun _ => ⟨gone, fun target inside => (reset target inside).mono _⟩, stored.completed⟩
  exact act_inv stored after ⟨spiffs, ⟨⟨device.effects, [], rfl, reset⟩, gone⟩⟩ trivial trivial

theorem clearMarker_inv (stored : ResetStored device) (wiped : Wiped ⟨device.effects, device.files⟩) :
    ResetInv (device.commitMarker outcome (fun device => { device with
      marker := none
      completions := device.completions ++ [⟨device.effects, device.files⟩] }) .restart .off) := by
  have completed : ∀ completion ∈ device.completions ++ [⟨device.effects, device.files⟩], Wiped completion := by
    intro completion inside
    rcases List.mem_append.mp inside with earlier | last
    · exact stored.completed completion earlier
    · rwa [List.mem_singleton.mp last]
  exact commitMarker_inv stored ⟨nofun, nofun, completed⟩ trivial trivial

theorem sdHistory_reached (armed : device.marker = some .armed)
    (gone : device.usingSd = false → input.card = false → ∀ file, device.files file = false) :
    ReachedAt { device with usingSd := false } (if input.card = true then ResetDevice.nextFile sdHistoryFiles true
      else if device.usingSd = true then .off else .saveSnapshot) := by
  split
  · refine ⟨armed, fun _ other outside => ?_⟩
    cases other <;> simp at outside
  · next absent =>
    split
    · trivial
    · next unused => exact ⟨armed, gone (by simpa using unused) (by simpa using absent)⟩

theorem sdHistory_inv (stored : ResetStored device) (armed : device.marker = some .armed)
    (gone : device.usingSd = false → input.card = false → (∀ effect, input.outcome ≠ .cut effect) →
      ∀ file, device.files file = false) :
    let next : ResetPoint := if input.card = true then ResetDevice.nextFile sdHistoryFiles true
      else if device.usingSd = true then .off else .saveSnapshot
    ResetInv ({ device with usingSd := false }.act input.outcome id next next) := by
  have after : ResetStored { device with usingSd := false } := ⟨stored.nvs, stored.spiffs, stored.completed⟩
  by_cases cut : ∃ effect, input.outcome = .cut effect
  · obtain ⟨effect, cut⟩ := cut
    rw [cut]
    cases effect <;> exact ⟨⟨after.nvs, after.spiffs, after.completed⟩, trivial⟩
  · have reached := sdHistory_reached armed fun unused absent =>
      gone unused absent fun effect outcome => cut ⟨effect, outcome⟩
    exact act_idle after reached reached

theorem selectStore_inv {resume : Bool} (stored : ResetStored device)
    (reached : ReachedAt device (.selectStore resume)) :
    let next : ResetPoint := if resume = true then .readMarker .setup else .runtime
    ResetInv (device.act input.outcome (ResetDevice.sdMessageStoreSelect input) next next) := by
  have marker : (device.sdMessageStoreSelect input).marker = device.marker := by
    unfold ResetDevice.sdMessageStoreSelect
    split <;> rfl
  have completions : (device.sdMessageStoreSelect input).completions = device.completions := by
    unfold ResetDevice.sdMessageStoreSelect
    split <;> rfl
  cases resume with
  | true =>
    have armed := marker.trans reached
    exact act_inv stored (resetStored_of_early stored (.inr armed) completions) trivial trivial trivial
  | false =>
    have absent := marker.trans reached
    exact act_inv stored (resetStored_of_early stored (.inl absent) completions) absent reached absent

theorem readMarker_inv {caller : ResetCaller} (stored : ResetStored device)
    (at_read : device.point = .readMarker caller) : ResetInv (device.step input) := by
  obtain ⟨point, marker, files, usingSd, effects, completions⟩ := device
  subst at_read
  match marker with
  | none =>
    have fresh : ResetStored ⟨.readMarker caller, none, files, usingSd, [], completions⟩ :=
      resetStored_of_early stored (.inl rfl) rfl
    exact act_idle fresh ⟨rfl, rfl⟩ trivial
  | some .armed => exact act_idle stored ⟨rfl, nofun⟩ trivial
  | some .nvs => exact act_idle stored ⟨rfl, stored.nvs rfl⟩ trivial
  | some .spiffs => exact act_idle stored ⟨rfl, (stored.spiffs rfl).1⟩ trivial

theorem step_inv (inv : ResetInv device) (allowed : CardReached device input) : ResetInv (device.step input) := by
  obtain ⟨point, marker, files, usingSd, effects, completions⟩ := device
  obtain ⟨stored, reached⟩ := inv
  cases point with
  | off => exact ⟨⟨stored.nvs, stored.spiffs, stored.completed⟩, trivial⟩
  | bootMarker =>
    match marker with
    | none => exact act_idle stored rfl trivial
    | some .armed => exact act_idle stored rfl trivial
    | some .nvs => exact act_idle stored trivial trivial
    | some .spiffs => exact act_idle stored trivial trivial
  | selectStore resume => exact selectStore_inv stored reached
  | runtime =>
    match outcome : input.outcome with
    | .done | .fails _ =>
      simp only [ResetDevice.step, outcome]
      exact ⟨resetStored_of_early stored (.inl reached) rfl, reached⟩
    | .cut _ =>
      simp only [ResetDevice.step, outcome]
      exact ⟨resetStored_of_early stored (.inl reached) rfl, trivial⟩
  | readMarker caller => exact readMarker_inv stored rfl
  | armInterlock caller => exact act_idle stored reached reached
  | armMarker caller =>
    exact commitMarker_inv stored (resetStored_of_early stored (.inr rfl) rfl) ⟨rfl, fun _ => reached.2⟩ reached
  | preflight caller resuming =>
    obtain ⟨armed, fresh⟩ := reached
    cases resuming with
    | true => exact act_idle (resetStored_of_early stored (.inr armed) rfl) armed trivial
    | false => exact act_idle (resetStored_of_early stored (.inr armed) rfl) armed ⟨armed, fresh rfl⟩
  | abortMarker caller =>
    exact commitMarker_inv stored (resetStored_of_early stored (.inl rfl) rfl) ⟨rfl, reached.2⟩ trivial
  | sdHistory => exact sdHistory_inv stored reached (allowed rfl)
  | removeFile file rest removed => exact removeFile_inv stored reached
  | saveSnapshot => exact act_idle stored reached trivial
  | stopWarm stage =>
    obtain ⟨marked, gone⟩ := reached
    cases stage with
    | armed => exact act_idle stored gone trivial
    | nvs => exact act_idle stored gone trivial
    | spiffs => exact act_idle stored marked trivial
  | nvsMarker =>
    exact commitMarker_inv stored ⟨fun _ => reached, nofun, stored.completed⟩ ⟨rfl, [], rfl, nofun⟩ trivial
  | applyTarget target rest => exact applyTarget_inv stored reached
  | spiffsMarker rest =>
    obtain ⟨nvs, rfl, reset⟩ := reached
    exact commitMarker_inv stored ⟨nofun, fun _ => ⟨stored.nvs nvs, reset⟩, stored.completed⟩ rfl trivial
  | formatSpiffs => exact formatSpiffs_inv stored reached
  | clearMarker => exact clearMarker_inv stored reached.2
  | restart => exact ⟨⟨stored.nvs, stored.spiffs, stored.completed⟩, trivial⟩
  | refused caller =>
    cases caller with
    | runtime => exact act_idle stored reached.1 reached.1
    | setup => exact act_idle stored trivial trivial
  | halted => exact act_idle stored trivial trivial

theorem ResetInv.safe (inv : ResetInv device) : ResetSafe device where
  completed := inv.stored.completed
  refused := by
    intro caller refused _
    have reached := inv.reached
    rw [refused] at reached
    exact reached.2
  held := by
    intro marked
    have reached := inv.reached
    constructor
    · intro runtime
      rw [runtime] at reached
      exact marked reached
    · intro refused
      rw [refused] at reached
      exact marked reached.1

theorem start_inv (files : SdFile → Bool) : ResetInv (.start files) := ⟨⟨nofun, nofun, nofun⟩, rfl⟩

theorem factory_reset_complete (files : SdFile → Bool) (inputs : List StepInput)
    (meets : Runs.Along ResetDevice.step CardReached (.start files) inputs) :
    ResetSafe (Runs.run ResetDevice.step (.start files) inputs) :=
  (Runs.run_invariant_along ResetInv (start_inv files) (fun _ _ inv allowed => step_inv inv allowed) meets).safe

/-- The next step with this outcome; the card is there and the store is on it, or it is not there. -/
def plainStep (outcome : StepOutcome) (card : Bool) : StepInput := ⟨outcome, card, fun _ => true, card⟩

/-- The power is cut at the first file of the history, and the next boot resumes with the card. -/
def resumedReset : List StepInput :=
  List.replicate 5 (plainStep .done true) ++ plainStep (.cut true) true :: List.replicate 19 (plainStep .done true)

theorem resumedReset_complete :
    (Runs.run ResetDevice.step (.start fun _ => true) resumedReset).completions.length = 1 ∧
      ResetSafe (Runs.run ResetDevice.step (.start fun _ => true) resumedReset) := by
  refine ⟨rfl, factory_reset_complete _ _ (Runs.along_of_forall ?_ _)⟩
  intro device input inside _ _ absent
  simp only [resumedReset, List.mem_append, List.mem_replicate, List.mem_cons] at inside
  rcases inside with ⟨-, rfl⟩ | rfl | ⟨-, rfl⟩ <;> simp [plainStep] at absent

/-- The power is cut before the history is touched, and the next boot is without the card. -/
def cardlessResume : List StepInput :=
  List.replicate 3 (plainStep .done true) ++ plainStep (.cut false) true :: List.replicate 15 (plainStep .done false)

theorem cardlessResume_keeps_history :
    ¬ ∀ (files : SdFile → Bool) (inputs : List StepInput),
      ResetSafe (Runs.run ResetDevice.step (.start files) inputs) := by
  intro complete
  obtain ⟨completion, only⟩ : ∃ completion,
      (Runs.run ResetDevice.step (.start fun _ => true) cardlessResume).completions = [completion] ∧
        completion.files .live = true := ⟨_, rfl, rfl⟩
  have wiped := (complete (fun _ => true) cardlessResume).completed completion (by simp [only])
  simp [wiped.history] at only

end SigurdOS.Hal
