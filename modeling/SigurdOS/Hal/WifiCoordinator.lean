import SigurdOS.Library.Runs

namespace SigurdOS.Wifi

inductive Owner where
  | none
  | sta
  | scan
  | apOta
  | gitHubOta
  deriving DecidableEq

inductive RadioMode where
  | off
  | sta
  | ap
  | apSta
  deriving DecidableEq

structure Frame where
  owner : Owner
  requestedMode : RadioMode
  observedMode : RadioMode
  deriving DecidableEq

/-- The coordinator with its lease stack (the top first), one release request bit for each owner and the radio.
    Each change of the radio mode takes the next entry of `faults`; past its end none fails. -/
structure Coordinator where
  frames : List Frame
  idleMode : RadioMode
  requests : Owner → Bool
  radio : RadioMode
  faults : List Bool

def maxDepth : Nat := 2

namespace Coordinator

def currentOwner (state : Coordinator) : Owner :=
  match state.frames with
  | [] => .none
  | top :: _ => top.owner

def currentMode (state : Coordinator) : RadioMode :=
  match state.frames with
  | [] => state.idleMode
  | top :: _ => top.requestedMode

def hasOwner (state : Coordinator) (owner : Owner) : Bool := state.frames.any (·.owner == owner)

def canAcquire (state : Coordinator) (requested : Owner) : Bool :=
  if requested = .none then false
  else
    state.currentOwner == .none || state.currentOwner == requested ||
      (state.currentOwner == .sta && requested != .sta)

/-- `Coordinator::acquire`: only the lease is taken, under the mode that is observed. -/
def pushLease (state : Coordinator) (requested : Owner) (requestedMode : RadioMode) : Bool × Coordinator :=
  if state.canAcquire requested = false then (false, state)
  else if state.currentOwner = requested then (state.currentMode == requestedMode, state)
  else if state.frames.length ≥ maxDepth then (false, state)
  else (true, { state with frames := ⟨requested, requestedMode, state.radio⟩ :: state.frames })

structure ReleasePlan where
  releasedOwner : Owner
  restoredOwner : Owner
  restoredMode : RadioMode
  depth : Nat

def restoredMode (top : Frame) : List Frame → RadioMode
  | [] => top.observedMode
  | lower :: _ => lower.requestedMode

def prepareRelease (state : Coordinator) (owner : Owner) : Option ReleasePlan :=
  match state.frames with
  | [] => none
  | top :: below =>
    if top.owner = owner then
      some ⟨owner, (below.head?.map Frame.owner).getD .none, restoredMode top below, state.frames.length⟩
    else none

def commitRelease (state : Coordinator) (plan : ReleasePlan) : Bool × Coordinator :=
  match state.frames with
  | [] => (false, state)
  | top :: below =>
    if plan.depth ≠ state.frames.length ∨ top.owner ≠ plan.releasedOwner then (false, state)
    else (true, { state with frames := below, idleMode := plan.restoredMode })

def applyRadioMode (state : Coordinator) (mode : RadioMode) : Bool × Coordinator :=
  if state.radio = mode then (true, state)
  else
    match state.faults.headD false with
    | true => (false, { state with faults := state.faults.tail })
    | false => (true, { state with radio := mode, faults := state.faults.tail })

/-- `releaseWith(owner, applyRadioMode)`, which is all that `wifi::release` does. -/
def release (state : Coordinator) (owner : Owner) : Bool × Coordinator :=
  match state.prepareRelease owner with
  | none => (false, state)
  | some plan =>
    match state.applyRadioMode plan.restoredMode with
    | (false, state) => (false, state)
    | (true, state) => state.commitRelease plan

def requestRelease (state : Coordinator) (owner : Owner) : Coordinator :=
  { state with requests := fun other => state.requests other || (other == owner && owner != .none) }

def acquire (state : Coordinator) (owner : Owner) (requestedMode : RadioMode) : Bool × Coordinator :=
  if state.currentOwner = owner then (state.currentMode == requestedMode, state)
  else
    match state.pushLease owner requestedMode with
    | (false, state) => (false, state)
    | (true, state) =>
      match state.applyRadioMode requestedMode with
      | (true, state) => (true, state)
      | (false, state) =>
        match state.release owner with
        | (true, state) => (false, state)
        | (false, state) => (false, if state.hasOwner owner then state.requestRelease owner else state)

def reserveForWorker (state : Coordinator) (owner : Owner) (requestedMode : RadioMode) : Bool × Coordinator :=
  if state.currentOwner = owner then (state.currentMode == requestedMode, state)
  else state.pushLease owner requestedMode

/-- The release of one owner in `servicePendingReleases`, tried again in the next call when the driver fails. -/
def serviceOwner (pending : Owner → Bool) (state : Coordinator) (owner : Owner) : Coordinator :=
  if pending owner then
    match state.release owner with
    | (true, state) => state
    | (false, state) => if state.hasOwner owner then state.requestRelease owner else state
  else state

def servicePendingReleases (state : Coordinator) : Coordinator :=
  [Owner.scan, .apOta, .gitHubOta, .sta].foldl (serviceOwner state.requests)
    { state with requests := fun _ => false }

end Coordinator

/-- The calls of the main loop and the release requests of the workers. A request never waits for the main loop and
    the calls do not look at the requests, `servicePendingReleases` apart, which takes all of them at once: a request
    that comes during a call is one that comes before or after it. -/
inductive WifiEvent where
  | acquire (owner : Owner) (mode : RadioMode)
  | reserveForWorker (owner : Owner) (mode : RadioMode)
  | release (owner : Owner)
  | requestRelease (owner : Owner)
  | servicePendingReleases

open Coordinator

/-- The answer of an event, true for one without, and the state behind it. -/
def perform (state : Coordinator) : WifiEvent → Bool × Coordinator
  | .acquire owner mode => state.acquire owner mode
  | .reserveForWorker owner mode => state.reserveForWorker owner mode
  | .release owner => state.release owner
  | .requestRelease owner => (true, state.requestRelease owner)
  | .servicePendingReleases => (true, state.servicePendingReleases)

def wifiStep (state : Coordinator) (event : WifiEvent) : Coordinator := (perform state event).2

def poweredOn (radio : RadioMode) (faults : List Bool) : Coordinator := ⟨[], .off, fun _ => false, radio, faults⟩

section Calls

variable {state after : Coordinator} {owner : Owner} {mode : RadioMode} {answer : Bool}

/-- A release changes nothing but the script of faults, or removes the top lease and restores the mode below it. -/
inductive Released (state : Coordinator) (owner : Owner) : Bool → Coordinator → Prop
  | refused (faults : List Bool) : Released state owner false { state with faults := faults }
  | done (top : Frame) (below : List Frame) (faults : List Bool) (stack : state.frames = top :: below)
      (owned : top.owner = owner) :
      Released state owner true
        { state with
          frames := below, idleMode := restoredMode top below, radio := restoredMode top below, faults := faults }

theorem applyRadioMode_cases (state : Coordinator) (mode : RadioMode) :
    (∃ faults, state.applyRadioMode mode = (true, { state with radio := mode, faults := faults })) ∨
      ∃ faults, state.applyRadioMode mode = (false, { state with faults := faults }) := by
  unfold applyRadioMode
  split
  · rename_i same
    exact Or.inl ⟨state.faults, by rw [← same]⟩
  · split
    · exact Or.inr ⟨_, rfl⟩
    · exact Or.inl ⟨_, rfl⟩

theorem release_released (state : Coordinator) (owner : Owner) :
    Released state owner (state.release owner).1 (state.release owner).2 := by
  unfold release prepareRelease
  cases stack : state.frames with
  | nil => exact .refused state.faults
  | cons top below =>
    dsimp only
    by_cases owned : top.owner = owner
    · rw [if_pos owned]
      dsimp only
      rcases applyRadioMode_cases state (restoredMode top below) with ⟨faults, applied⟩ | ⟨faults, failed⟩
      · rw [applied]
        dsimp only [commitRelease]
        rw [stack]
        dsimp only
        rw [if_neg (by simp [owned])]
        exact .done top below faults stack owned
      · rw [failed]
        exact .refused faults
    · rw [if_neg owned]
      exact .refused state.faults

inductive Shape : List Frame → Prop
  | empty : Shape []
  | single (lease : Frame) (real : lease.owner ≠ .none) : Shape [lease]
  | suspended (top sta : Frame) (real : top.owner ≠ .none) (other : top.owner ≠ .sta) (below : sta.owner = .sta) :
      Shape [top, sta]

theorem Shape.push (shape : Shape state.frames) (allowed : state.canAcquire owner = true)
    (new : state.currentOwner ≠ owner) (observed : RadioMode) :
    Shape (⟨owner, mode, observed⟩ :: state.frames) ∧ state.hasOwner owner = false ∧ owner ≠ .none := by
  have real : owner ≠ .none := by
    rintro rfl
    cases allowed
  have rule : state.currentOwner = .none ∨ state.currentOwner = .sta ∧ owner ≠ .sta := by
    simpa [canAcquire, real, new] using allowed
  unfold currentOwner at new rule
  unfold hasOwner
  generalize state.frames = frames at *
  cases shape with
  | empty => exact ⟨.single _ real, rfl, real⟩
  | single lease leased =>
    dsimp only at new rule
    rcases rule with free | ⟨sta, other⟩
    · exact absurd free leased
    · exact ⟨.suspended _ _ real other sta, by simp [new], real⟩
  | suspended top sta leased apart below =>
    dsimp only at new rule
    rcases rule with free | ⟨same, -⟩
    · exact absurd free leased
    · exact absurd same apart

/-- What a call for a lease can do. In the last case neither the new mode nor the old one could be set: the lease
    stays, with a request to release it. -/
inductive Acquired (state : Coordinator) (owner : Owner) (mode : RadioMode) : Bool → Coordinator → Prop
  | kept (same : state.currentOwner = owner) : Acquired state owner mode (state.currentMode == mode) state
  | refused : Acquired state owner mode false state
  | taken (faults : List Bool) (allowed : state.canAcquire owner = true) (new : state.currentOwner ≠ owner) :
      Acquired state owner mode true
        { state with frames := ⟨owner, mode, state.radio⟩ :: state.frames, radio := mode, faults := faults }
  | undone (faults : List Bool) :
      Acquired state owner mode false
        { state with
          idleMode := restoredMode ⟨owner, mode, state.radio⟩ state.frames
          radio := restoredMode ⟨owner, mode, state.radio⟩ state.frames, faults := faults }
  | stuck (faults : List Bool) (allowed : state.canAcquire owner = true) (new : state.currentOwner ≠ owner) :
      Acquired state owner mode false
        ({ state with frames := ⟨owner, mode, state.radio⟩ :: state.frames, faults := faults }.requestRelease owner)

theorem pushLease_cases (new : state.currentOwner ≠ owner) :
    state.pushLease owner mode = (false, state) ∨ state.canAcquire owner = true ∧ state.pushLease owner mode =
      (true, { state with frames := ⟨owner, mode, state.radio⟩ :: state.frames }) := by
  unfold pushLease
  split
  · exact Or.inl rfl
  · rename_i allowed
    rw [Bool.not_eq_false] at allowed
    split
    · exact Or.inl rfl
    · exact Or.inr ⟨allowed, rfl⟩

theorem acquire_acquired (state : Coordinator) (owner : Owner) (mode : RadioMode) :
    Acquired state owner mode (state.acquire owner mode).1 (state.acquire owner mode).2 := by
  unfold acquire
  split
  · rename_i same
    exact .kept same
  · rename_i new
    rcases @pushLease_cases state owner mode new with refused | ⟨allowed, pushed⟩
    · rw [refused]
      exact .refused
    · rw [pushed]
      dsimp only
      rcases applyRadioMode_cases { state with frames := ⟨owner, mode, state.radio⟩ :: state.frames } mode with
        ⟨faults, applied⟩ | ⟨faults, failed⟩
      · rw [applied]
        exact .taken faults allowed new
      · rw [failed]
        dsimp only
        have released := release_released
          { state with frames := ⟨owner, mode, state.radio⟩ :: state.frames, faults := faults } owner
        generalize release { state with frames := ⟨owner, mode, state.radio⟩ :: state.frames, faults := faults } owner =
          outcome at released ⊢
        obtain ⟨ok, last⟩ := outcome
        dsimp only at released
        cases released with
        | refused faults =>
          have held :
              hasOwner { state with frames := ⟨owner, mode, state.radio⟩ :: state.frames, faults := faults } owner =
              true := by simp [hasOwner]
          dsimp only
          rw [if_pos held]
          exact .stuck faults allowed new
        | done top below faults stack owned =>
          obtain ⟨rfl, rfl⟩ := List.cons.inj stack
          exact .undone faults

end Calls

section Steps

variable {state : Coordinator} {owner : Owner}

theorem reserveForWorker_cases (state : Coordinator) (owner : Owner) (mode : RadioMode) :
    (state.reserveForWorker owner mode).2 = state ∨
      state.canAcquire owner = true ∧ state.currentOwner ≠ owner ∧ state.reserveForWorker owner mode =
        (true, { state with frames := ⟨owner, mode, state.radio⟩ :: state.frames }) := by
  unfold reserveForWorker
  split
  · exact Or.inl rfl
  · rename_i new
    rcases @pushLease_cases state owner mode new with refused | ⟨allowed, pushed⟩
    · exact Or.inl (congrArg Prod.snd refused)
    · exact Or.inr ⟨allowed, new, pushed⟩

/-- The release of one owner in the service loop, and the request that it leaves when it fails. -/
inductive Serviced (state : Coordinator) (owner : Owner) : Coordinator → Prop
  | absent (faults : List Bool) (missing : state.hasOwner owner = false) :
      Serviced state owner { state with faults := faults }
  | retried (faults : List Bool) (held : state.hasOwner owner = true) :
      Serviced state owner ({ state with faults := faults }.requestRelease owner)
  | removed (after : Coordinator) (released : Released state owner true after) : Serviced state owner after

theorem serviceOwner_serviced {pending : Owner → Bool} (asked : pending owner = true) :
    Serviced state owner (serviceOwner pending state owner) := by
  unfold serviceOwner
  rw [if_pos asked]
  have released := release_released state owner
  generalize state.release owner = outcome at released ⊢
  obtain ⟨ok, after⟩ := outcome
  dsimp only at released
  cases ok with
  | true => exact .removed after released
  | false =>
    cases released with
    | refused faults =>
      dsimp only
      split
      · rename_i held
        exact .retried faults held
      · rename_i missing
        exact .absent faults (Bool.not_eq_true _ ▸ missing)

theorem serviceOwner_skipped {pending : Owner → Bool} (unasked : ¬ pending owner = true) :
    serviceOwner pending state owner = state := if_neg unasked

theorem service_invariant {inv : Coordinator → Prop} {pending : Owner → Bool} {owners : List Owner}
    (kept : ∀ owner ∈ owners, pending owner = true → ∀ state after, inv state → Serviced state owner after → inv after)
    (initial : inv state) : inv (owners.foldl (serviceOwner pending) state) := by
  induction owners generalizing state with
  | nil => exact initial
  | cons owner rest ih =>
    apply ih (fun other later => kept other (List.mem_cons_of_mem _ later))
    by_cases asked : pending owner = true
    · exact kept owner List.mem_cons_self asked _ _ initial (serviceOwner_serviced asked)
    · rw [serviceOwner_skipped asked]
      exact initial

theorem Shape.tail {top : Frame} {below : List Frame} (shape : Shape (top :: below)) : Shape below := by
  cases shape with
  | single => exact .empty
  | suspended _ sta _ _ owned => exact .single sta (by rw [owned]; decide)

theorem Released.shape {answer : Bool} {after : Coordinator} (released : Released state owner answer after)
    (shape : Shape state.frames) : Shape after.frames := by
  cases released with
  | refused => exact shape
  | done top below faults stack owned =>
    rw [stack] at shape
    exact shape.tail

theorem wifiStep_shape (state : Coordinator) (event : WifiEvent) (shape : Shape state.frames) :
    Shape (wifiStep state event).frames := by
  unfold wifiStep
  cases event with
  | acquire owner mode =>
    have acquired := acquire_acquired state owner mode
    dsimp only [perform]
    generalize state.acquire owner mode = outcome at acquired ⊢
    obtain ⟨answer, after⟩ := outcome
    dsimp only at acquired ⊢
    cases acquired with
    | kept => exact shape
    | refused => exact shape
    | taken faults allowed new => exact (shape.push allowed new _).1
    | undone => exact shape
    | stuck faults allowed new => exact (shape.push allowed new _).1
  | reserveForWorker owner mode =>
    dsimp only [perform]
    rcases reserveForWorker_cases state owner mode with same | ⟨allowed, new, pushed⟩
    · rw [same]
      exact shape
    · rw [pushed]
      exact (shape.push allowed new _).1
  | release owner => exact (release_released state owner).shape shape
  | requestRelease owner => exact shape
  | servicePendingReleases =>
    apply @service_invariant { state with requests := fun _ => false } (fun next => Shape next.frames) _ _ ?_ shape
    intro owner _ _ before after held serviced
    cases serviced with
    | absent => exact held
    | retried => exact held
    | removed after released => exact released.shape held

theorem Released.holds {answer : Bool} {after : Coordinator} {other : Owner}
    (released : Released state owner answer after) (held : state.hasOwner other = true) (apart : other ≠ owner) :
    after.hasOwner other = true := by
  cases released with
  | refused => exact held
  | done top below faults stack owned =>
    unfold hasOwner at held ⊢
    rw [stack, List.any_cons, owned, beq_false_of_ne (Ne.symm apart), Bool.false_or] at held
    exact held

theorem wifiStep_holds {event : WifiEvent} (held : state.hasOwner owner = true) (kept : event ≠ .release owner)
    (quiet : event = .servicePendingReleases → state.requests owner = false) :
    (wifiStep state event).hasOwner owner = true := by
  have pushed (lease : Frame) : (lease :: state.frames).any (·.owner == owner) = true := by
    rw [List.any_cons, Bool.or_eq_true]
    exact Or.inr held
  unfold wifiStep
  cases event with
  | acquire other mode =>
    have acquired := acquire_acquired state other mode
    dsimp only [perform]
    generalize state.acquire other mode = outcome at acquired ⊢
    obtain ⟨answer, after⟩ := outcome
    dsimp only at acquired ⊢
    cases acquired with
    | kept => exact held
    | refused => exact held
    | taken => exact pushed _
    | undone => exact held
    | stuck => exact pushed _
  | reserveForWorker other mode =>
    dsimp only [perform]
    rcases reserveForWorker_cases state other mode with same | ⟨-, -, taken⟩
    · rw [same]
      exact held
    · rw [taken]
      exact pushed _
  | release other => exact (release_released state other).holds held (fun same => kept (same ▸ rfl))
  | requestRelease other => exact held
  | servicePendingReleases =>
    apply @service_invariant { state with requests := fun _ => false } (fun next => next.hasOwner owner = true)
      _ _ ?_ held
    intro other _ asked before after there serviced
    have apart : owner ≠ other := by
      rintro rfl
      exact absurd ((quiet rfl).symm.trans asked) Bool.false_ne_true
    cases serviced with
    | absent => exact there
    | retried => exact there
    | removed after released => exact released.holds there apart

theorem requestRelease_other {other : Owner} (apart : owner ≠ other) :
    (state.requestRelease other).requests owner = state.requests owner := by
  simp [requestRelease, apart]

theorem wifiStep_requests {event : WifiEvent} (shape : Shape state.frames) (held : state.hasOwner owner = true)
    (quiet : state.requests owner = false) (unasked : event ≠ .requestRelease owner) :
    (wifiStep state event).requests owner = false := by
  unfold wifiStep
  cases event with
  | acquire other mode =>
    have acquired := acquire_acquired state other mode
    dsimp only [perform]
    generalize state.acquire other mode = outcome at acquired ⊢
    obtain ⟨answer, after⟩ := outcome
    dsimp only at acquired ⊢
    cases acquired with
    | kept => exact quiet
    | refused => exact quiet
    | taken => exact quiet
    | undone => exact quiet
    | stuck faults allowed new =>
      have apart : owner ≠ other := by
        rintro rfl
        exact absurd (held.symm.trans (@Shape.push _ _ mode shape allowed new state.radio).2.1) Bool.true_eq_false.mp
      rw [requestRelease_other apart]
      exact quiet
  | reserveForWorker other mode =>
    dsimp only [perform]
    rcases reserveForWorker_cases state other mode with same | ⟨-, -, taken⟩
    · rw [same]
      exact quiet
    · rw [taken]
      exact quiet
  | release other =>
    have released := release_released state other
    dsimp only [perform]
    generalize state.release other = outcome at released ⊢
    obtain ⟨answer, after⟩ := outcome
    dsimp only at released ⊢
    cases released with
    | refused => exact quiet
    | done => exact quiet
  | requestRelease other =>
    have apart : owner ≠ other := fun same => unasked (same ▸ rfl)
    exact (requestRelease_other apart).trans quiet
  | servicePendingReleases =>
    apply @service_invariant { state with requests := fun _ => false } (fun next => next.requests owner = false)
      _ _ ?_ rfl
    intro other _ asked before after clear serviced
    have apart : owner ≠ other := by
      rintro rfl
      exact absurd (quiet.symm.trans asked) Bool.false_ne_true
    cases serviced with
    | absent => exact clear
    | retried => exact (requestRelease_other apart).trans clear
    | removed after released =>
      cases released with
      | done => exact clear

end Steps

section Law

/-- Leases go one after the other from the top, each together with the mode below it being set. -/
inductive Unwound : Coordinator → Coordinator → Prop
  | held {state after : Coordinator} (same : after.frames = state.frames) : Unwound state after
  | removed {state middle after : Coordinator} (top : Frame) (below : List Frame) (stack : state.frames = top :: below)
      (left : middle.frames = below) (restored : middle.radio = restoredMode top below) (rest : Unwound middle after) :
      Unwound state after

variable {state after : Coordinator}

theorem Unwound.of_frames {other : Coordinator} (same : other.frames = state.frames) (unwound : Unwound state after) :
    Unwound other after := by
  cases unwound with
  | held kept => exact .held (kept.trans same.symm)
  | removed top below stack left restored rest => exact .removed top below (same.trans stack) left restored rest

theorem Unwound.trans {last : Coordinator} (first : Unwound state after) (second : Unwound after last) :
    Unwound state last := by
  induction first with
  | held same => exact second.of_frames same.symm
  | removed top below stack left restored _ ih => exact .removed top below stack left restored (ih second)

theorem Released.unwound {owner : Owner} {answer : Bool} (released : Released state owner answer after) :
    Unwound state after := by
  cases released with
  | refused => exact .held rfl
  | done top below faults stack owned => exact .removed top below stack rfl rfl (.held rfl)

theorem wifiStep_unwound (state : Coordinator) (event : WifiEvent) : Unwound state (wifiStep state event) ∨
    ∃ lease, (wifiStep state event).frames = lease :: state.frames := by
  unfold wifiStep
  cases event with
  | acquire owner mode =>
    have acquired := acquire_acquired state owner mode
    dsimp only [perform]
    generalize state.acquire owner mode = outcome at acquired ⊢
    obtain ⟨answer, after⟩ := outcome
    dsimp only at acquired ⊢
    cases acquired with
    | kept => exact Or.inl (.held rfl)
    | refused => exact Or.inl (.held rfl)
    | taken => exact Or.inr ⟨_, rfl⟩
    | undone => exact Or.inl (.held rfl)
    | stuck => exact Or.inr ⟨_, rfl⟩
  | reserveForWorker owner mode =>
    dsimp only [perform]
    rcases reserveForWorker_cases state owner mode with same | ⟨-, -, taken⟩
    · rw [same]
      exact Or.inl (.held rfl)
    · rw [taken]
      exact Or.inr ⟨_, rfl⟩
  | release owner => exact Or.inl (release_released state owner).unwound
  | requestRelease owner => exact Or.inl (.held rfl)
  | servicePendingReleases =>
    left
    apply @service_invariant { state with requests := fun _ => false } (Unwound state) _ _ ?_ (.held rfl)
    intro owner _ _ before after unwound serviced
    cases serviced with
    | absent => exact unwound.trans (.held rfl)
    | retried => exact unwound.trans (.held rfl)
    | removed after released => exact unwound.trans released.unwound

def Tuned (excused : Owner → Prop) (state : Coordinator) : Prop :=
  ∀ top below, state.frames = top :: below → state.radio = top.requestedMode ∨ excused top.owner

theorem Tuned.mono {excused more : Owner → Prop} (tuned : Tuned excused state)
    (wider : ∀ owner, state.hasOwner owner = true → excused owner → more owner) : Tuned more state := by
  intro top below stack
  have held : state.hasOwner top.owner = true := by simp [hasOwner, stack]
  exact (tuned top below stack).imp_right (wider top.owner held)

theorem tuned_of_released {owner : Owner} {excused : Owner → Prop} (released : Released state owner true after) :
    Tuned excused after := by
  cases released with
  | done top below faults stack owned =>
    intro lower rest left
    have shape : below = lower :: rest := left
    rw [shape]
    exact Or.inl rfl

theorem Serviced.tuned {owner : Owner} {rest : List Owner} {pending : Owner → Bool} {reserved : Owner → Prop}
    (serviced : Serviced state owner after) (real : owner ≠ .none)
    (tuned : Tuned (fun other => state.requests other = true ∨ reserved other ∨
      pending other = true ∧ other ∈ owner :: rest) state) :
    Tuned (fun other => after.requests other = true ∨ reserved other ∨ pending other = true ∧ other ∈ rest) after := by
  cases serviced with
  | absent faults missing =>
    intro top below stack
    have held : state.hasOwner top.owner = true := by simp [hasOwner, show state.frames = top :: below from stack]
    rcases tuned top below stack with same | asked | excused | ⟨asked, listed⟩
    · exact Or.inl same
    · exact Or.inr (Or.inl asked)
    · exact Or.inr (Or.inr (Or.inl excused))
    · rcases List.mem_cons.mp listed with same | later
      · rw [same] at held
        exact absurd (held.symm.trans missing) Bool.true_eq_false.mp
      · exact Or.inr (Or.inr (Or.inr ⟨asked, later⟩))
  | retried faults held =>
    intro top below stack
    rcases tuned top below stack with same | asked | excused | ⟨asked, listed⟩
    · exact Or.inl same
    · exact Or.inr (Or.inl (by simp [requestRelease, asked]))
    · exact Or.inr (Or.inr (Or.inl excused))
    · rcases List.mem_cons.mp listed with same | later
      · exact Or.inr (Or.inl (by simp [requestRelease, same, real]))
      · exact Or.inr (Or.inr (Or.inr ⟨asked, later⟩))
  | removed after released => exact tuned_of_released released

theorem service_tuned {reserved : Owner → Prop} (shape : Shape state.frames)
    (tuned : Tuned (fun owner => state.requests owner = true ∨ reserved owner) state) :
    Tuned (fun owner => state.servicePendingReleases.requests owner = true ∨ reserved owner)
      state.servicePendingReleases := by
  have loop (owners : List Owner) (real : Owner.none ∉ owners) (middle : Coordinator)
      (start : Tuned (fun owner => middle.requests owner = true ∨ reserved owner ∨
        state.requests owner = true ∧ owner ∈ owners) middle) :
      Tuned (fun owner => (owners.foldl (serviceOwner state.requests) middle).requests owner = true ∨ reserved owner)
        (owners.foldl (serviceOwner state.requests) middle) := by
    induction owners generalizing middle with
    | nil => exact start.mono fun owner _ excused => by simpa using excused
    | cons owner rest ih =>
      rw [List.mem_cons, not_or] at real
      apply ih real.2
      by_cases asked : state.requests owner = true
      · exact (serviceOwner_serviced asked).tuned (Ne.symm real.1) start
      · rw [serviceOwner_skipped asked]
        apply start.mono
        rintro other - (own | excused | ⟨wanted, listed⟩)
        · exact Or.inl own
        · exact Or.inr (Or.inl excused)
        · rcases List.mem_cons.mp listed with rfl | later
          · exact absurd wanted asked
          · exact Or.inr (Or.inr ⟨wanted, later⟩)
  apply loop _ (by decide)
  intro top below stack
  have real : top.owner ≠ .none := by
    change state.frames = top :: below at stack
    rw [stack] at shape
    cases shape with
    | single _ real => exact real
    | suspended _ _ real => exact real
  have listed : top.owner ∈ [Owner.scan, .apOta, .gitHubOta, .sta] := by
    cases owner : top.owner with
    | none => exact absurd owner real
    | _ => simp
  rcases tuned top below stack with same | asked | excused
  · exact Or.inl same
  · exact Or.inr (Or.inr (Or.inr ⟨asked, listed⟩))
  · exact Or.inr (Or.inr (Or.inl excused))

def afterEvents (radio : RadioMode) (faults : List Bool) (events : List WifiEvent) : Coordinator :=
  Runs.run wifiStep (poweredOn radio faults) events

def ReservedForWorker (radio : RadioMode) (faults : List Bool) (events : List WifiEvent) (owner : Owner) : Prop :=
  ∃ early mode later, events = early ++ .reserveForWorker owner mode :: later ∧
    (afterEvents radio faults early).hasOwner owner = false ∧
    ∀ part, part <+: later → (afterEvents radio faults (early ++ .reserveForWorker owner mode :: part)).hasOwner
      owner = true

variable {radio : RadioMode} {faults : List Bool} {events : List WifiEvent} {owner : Owner}

theorem afterEvents_concat (before : List WifiEvent) (event : WifiEvent) :
    afterEvents radio faults (before ++ [event]) = wifiStep (afterEvents radio faults before) event :=
  Runs.run_concat _ _ _

theorem ReservedForWorker.concat {event : WifiEvent} (reserved : ReservedForWorker radio faults events owner)
    (held : (afterEvents radio faults (events ++ [event])).hasOwner owner = true) :
    ReservedForWorker radio faults (events ++ [event]) owner := by
  obtain ⟨early, mode, later, rfl, absent, holding⟩ := reserved
  refine ⟨early, mode, later ++ [event], by simp, absent, ?_⟩
  intro part inside
  rcases List.prefix_concat_iff.mp inside with rfl | shorter
  · simpa using held
  · exact holding part shorter

theorem shape_after (radio : RadioMode) (faults : List Bool) (events : List WifiEvent) :
    Shape (afterEvents radio faults events).frames :=
  Runs.run_invariant (fun state : Coordinator => Shape state.frames) .empty wifiStep_shape events

theorem wifiStep_tuned {event : WifiEvent} {reserved : Owner → Prop} (shape : Shape state.frames)
    (tuned : Tuned (fun owner => state.requests owner = true ∨ reserved owner) state) :
    Tuned (fun owner => (wifiStep state event).requests owner = true ∨ reserved owner ∨
      ∃ mode, event = .reserveForWorker owner mode ∧ state.hasOwner owner = false) (wifiStep state event) := by
  have same {other : Coordinator} (frames : other.frames = state.frames) (mode : other.radio = state.radio)
      (more : ∀ owner, state.requests owner = true → other.requests owner = true) :
      Tuned (fun owner => other.requests owner = true ∨ reserved owner ∨
        ∃ mode, event = .reserveForWorker owner mode ∧ state.hasOwner owner = false) other := by
    intro top below stack
    rw [frames] at stack
    rw [mode]
    rcases tuned top below stack with set | asked | excused
    · exact Or.inl set
    · exact Or.inr (Or.inl (more _ asked))
    · exact Or.inr (Or.inr (Or.inl excused))
  unfold wifiStep at *
  cases event with
  | acquire owner mode =>
    have acquired := acquire_acquired state owner mode
    dsimp only [perform] at same ⊢
    generalize state.acquire owner mode = outcome at acquired ⊢
    obtain ⟨answer, after⟩ := outcome
    dsimp only at acquired ⊢
    cases acquired with
    | kept => exact same rfl rfl fun _ asked => asked
    | refused => exact same rfl rfl fun _ asked => asked
    | taken =>
      intro top below stack
      obtain ⟨rfl, -⟩ := List.cons.inj stack
      exact Or.inl rfl
    | undone =>
      intro top below stack
      have shape : state.frames = top :: below := stack
      left
      change restoredMode _ state.frames = _
      rw [shape]
      rfl
    | stuck faults allowed new =>
      have real := (@Shape.push _ _ mode shape allowed new state.radio).2.2
      intro top below stack
      obtain ⟨rfl, -⟩ := List.cons.inj stack
      exact Or.inr (Or.inl (by simp [requestRelease, real]))
  | reserveForWorker owner mode =>
    dsimp only [perform] at same ⊢
    rcases reserveForWorker_cases state owner mode with unchanged | ⟨allowed, new, pushed⟩
    · rw [unchanged]
      exact same rfl rfl fun _ asked => asked
    · have absent := (@Shape.push _ _ mode shape allowed new state.radio).2.1
      rw [pushed]
      intro top below stack
      obtain ⟨rfl, -⟩ := List.cons.inj stack
      exact Or.inr (Or.inr (Or.inr ⟨mode, rfl, absent⟩))
  | release owner =>
    have released := release_released state owner
    dsimp only [perform] at same ⊢
    generalize state.release owner = outcome at released ⊢
    obtain ⟨answer, after⟩ := outcome
    dsimp only at released ⊢
    cases answer with
    | true => exact tuned_of_released released
    | false =>
      cases released with
      | refused faults => exact same rfl rfl fun _ asked => asked
  | requestRelease owner => exact same rfl rfl fun _ asked => by simp [perform, requestRelease, asked]
  | servicePendingReleases =>
    apply (service_tuned shape tuned).mono
    rintro owner - (asked | excused)
    · exact Or.inl asked
    · exact Or.inr (Or.inl excused)

theorem tuned_after (radio : RadioMode) (faults : List Bool) (events : List WifiEvent) :
    Tuned (fun owner => (afterEvents radio faults events).requests owner = true ∨
      ReservedForWorker radio faults events owner) (afterEvents radio faults events) := by
  induction events using List.reverseRecOn with
  | nil => exact fun top below stack => absurd stack (by simp [afterEvents, poweredOn])
  | append_singleton before event ih =>
    have stepped := @wifiStep_tuned _ event _ (shape_after radio faults before) ih
    rw [← afterEvents_concat] at stepped
    apply stepped.mono
    rintro owner held (asked | reserved | ⟨mode, rfl, absent⟩)
    · exact Or.inl asked
    · exact Or.inr (reserved.concat held)
    · refine Or.inr ⟨before, mode, [], rfl, absent, ?_⟩
      intro part inside
      obtain rfl := List.prefix_nil.mp inside
      exact held

def WifiEvent.AsksFor (owner : Owner) : WifiEvent → Prop
  | .acquire asking _ => asking = owner
  | .reserveForWorker asking _ => asking = owner
  | _ => False

/-- What the holders of leases rely on after a run of events. -/
structure LeaseLaw (radio : RadioMode) (faults : List Bool) (events : List WifiEvent) : Prop where
  shape : Shape (afterEvents radio faults events).frames
  /-- A lease that was granted and then held is given up by its owner, or on a request made since. -/
  removal : ∀ early call middle last owner, events = early ++ [call] ++ middle ++ [last] → call.AsksFor owner →
    (perform (afterEvents radio faults early) call).1 = true →
    (∀ part, part <+: middle → (afterEvents radio faults (early ++ [call] ++ part)).hasOwner owner = true) →
    (afterEvents radio faults events).hasOwner owner = false →
    last = .release owner ∨ last = .servicePendingReleases ∧ .requestRelease owner ∈ middle
  /-- An owner that acquires finds the radio in its mode, unless its lease is one that a worker sets up. -/
  tuned : ∀ before owner mode, events = before ++ [.acquire owner mode] → owner ≠ .none →
    (perform (afterEvents radio faults before) (.acquire owner mode)).1 = true →
    (afterEvents radio faults events).radio = mode ∨ ReservedForWorker radio faults before owner
  /-- A lease goes together with the mode below it being set. -/
  unwound : ∀ before last, events = before ++ [last] →
    Unwound (afterEvents radio faults before) (afterEvents radio faults events) ∨
      ∃ lease, (afterEvents radio faults events).frames = lease :: (afterEvents radio faults before).frames

/-- No lease is asked for while a release request of its owner is still pending. -/
def Unrequested (state : Coordinator) (event : WifiEvent) : Prop :=
  ∀ owner, event.AsksFor owner → state.requests owner = false

theorem granted_requests {call : WifiEvent} (asks : call.AsksFor owner) (granted : (perform state call).1 = true) :
    (wifiStep state call).requests owner = state.requests owner := by
  unfold wifiStep
  cases call with
  | acquire asking mode =>
    have acquired := acquire_acquired state asking mode
    dsimp only [perform] at granted ⊢
    generalize state.acquire asking mode = outcome at acquired granted ⊢
    obtain ⟨answer, after⟩ := outcome
    dsimp only at acquired granted ⊢
    subst granted
    generalize same : true = answer at acquired
    cases acquired with
    | kept => rfl
    | refused => cases same
    | taken => rfl
    | undone => cases same
    | stuck => cases same
  | reserveForWorker asking mode =>
    dsimp only [perform]
    rcases reserveForWorker_cases state asking mode with unchanged | ⟨-, -, pushed⟩
    · rw [unchanged]
    · rw [pushed]
  | _ => exact absurd asks id

theorem requests_since {early middle : List WifiEvent} {call : WifiEvent}
    (granted : (afterEvents radio faults (early ++ [call])).requests owner = false)
    (held : ∀ part, part <+: middle → (afterEvents radio faults (early ++ [call] ++ part)).hasOwner owner = true)
    (unasked : .requestRelease owner ∉ middle) :
    (afterEvents radio faults (early ++ [call] ++ middle)).requests owner = false := by
  induction middle using List.reverseRecOn with
  | nil => simpa using granted
  | append_singleton before event ih =>
    rw [List.mem_append, not_or, List.mem_singleton] at unasked
    have quiet := ih (fun part inside => held part (inside.trans (List.prefix_append _ _))) unasked.1
    rw [← List.append_assoc, afterEvents_concat]
    exact wifiStep_requests (shape_after _ _ _) (held before (List.prefix_append _ _)) quiet (Ne.symm unasked.2)

theorem removal_after {early middle : List WifiEvent} {call last : WifiEvent}
    (unrequested : Unrequested (afterEvents radio faults early) call) (asks : call.AsksFor owner)
    (granted : (perform (afterEvents radio faults early) call).1 = true)
    (held : ∀ part, part <+: middle → (afterEvents radio faults (early ++ [call] ++ part)).hasOwner owner = true)
    (gone : (afterEvents radio faults (early ++ [call] ++ middle ++ [last])).hasOwner owner = false) :
    last = .release owner ∨ last = .servicePendingReleases ∧ .requestRelease owner ∈ middle := by
  have clear : (afterEvents radio faults (early ++ [call])).requests owner = false := by
    rw [afterEvents_concat, granted_requests asks granted]
    exact unrequested owner asks
  by_contra neither
  rw [not_or, not_and] at neither
  have stays : (wifiStep (afterEvents radio faults (early ++ [call] ++ middle)) last).hasOwner owner = true := by
    apply wifiStep_holds (held middle (List.prefix_refl _)) neither.1
    intro service
    exact requests_since clear held (neither.2 service)
  rw [afterEvents_concat, stays] at gone
  cases gone

theorem acquired_tuned {before : List WifiEvent} {mode : RadioMode}
    (unrequested : Unrequested (afterEvents radio faults before) (.acquire owner mode)) (real : owner ≠ .none)
    (granted : (perform (afterEvents radio faults before) (.acquire owner mode)).1 = true) :
    (afterEvents radio faults (before ++ [.acquire owner mode])).radio = mode ∨
      ReservedForWorker radio faults before owner := by
  have tuned := tuned_after radio faults before
  have clear := unrequested owner rfl
  rw [afterEvents_concat]
  unfold wifiStep
  generalize afterEvents radio faults before = state at *
  have acquired := acquire_acquired state owner mode
  dsimp only [perform] at granted ⊢
  generalize state.acquire owner mode = outcome at acquired granted ⊢
  obtain ⟨answer, after⟩ := outcome
  dsimp only at acquired granted ⊢
  generalize answered : answer = granting at acquired
  cases acquired with
  | kept same =>
    cases stack : state.frames with
    | nil =>
      rw [currentOwner, stack] at same
      exact absurd same.symm real
    | cons top below =>
      have wanted : top.requestedMode = mode := by
        rw [granted] at answered
        simpa [currentMode, stack] using answered.symm
      have holder : top.owner = owner := by
        rw [currentOwner, stack] at same
        exact same
      rcases tuned top below stack with set | asked | reserved
      · exact Or.inl (set.trans wanted)
      · rw [holder, clear] at asked
        cases asked
      · exact Or.inr (holder ▸ reserved)
  | refused => cases granted.symm.trans answered
  | taken => exact Or.inl rfl
  | undone => cases granted.symm.trans answered
  | stuck => cases granted.symm.trans answered

/-- Every run in which no lease is asked for while a release request of its owner is pending. -/
theorem wifi_leases_owned (radio : RadioMode) (faults : List Bool) (events : List WifiEvent)
    (unrequested : Runs.Along wifiStep Unrequested (poweredOn radio faults) events) : LeaseLaw radio faults events where
  shape := shape_after radio faults events
  removal := by
    rintro early call middle last owner rfl asks granted held gone
    rw [List.append_assoc, List.append_assoc] at unrequested
    obtain ⟨-, first, -⟩ := Runs.along_append.mp unrequested
    exact removal_after first asks granted held gone
  tuned := by
    rintro before owner mode rfl real granted
    obtain ⟨-, last, -⟩ := Runs.along_append.mp unrequested
    exact acquired_tuned last real granted
  unwound := by
    rintro before last rfl
    rw [afterEvents_concat]
    exact wifiStep_unwound _ _

/-- A GitHub update that fails asks for its release and is started again before the main loop has served it. -/
def restartedUpdate : List WifiEvent :=
  [.acquire .gitHubOta .sta, .requestRelease .gitHubOta, .acquire .gitHubOta .sta, .servicePendingReleases]

theorem servedUpdate_owned : LeaseLaw .off [false, true]
    [.acquire .gitHubOta .sta, .requestRelease .gitHubOta, .servicePendingReleases, .servicePendingReleases,
      .acquire .gitHubOta .sta] := by
  apply wifi_leases_owned
  refine ⟨?_, ?_, ?_, ?_, ?_, trivial⟩
  all_goals
    intro owner asks
    first | exact absurd asks id | (obtain rfl : _ = owner := asks; decide)

theorem restartedUpdate_loses_lease : ¬ LeaseLaw .off [] restartedUpdate := by
  intro law
  have removed := law.removal [.acquire .gitHubOta .sta, .requestRelease .gitHubOta] (.acquire .gitHubOta .sta) []
    .servicePendingReleases .gitHubOta rfl rfl (by decide) (by
      intro part inside
      obtain rfl := List.prefix_nil.mp inside
      decide) (by decide)
  rcases removed with same | ⟨-, asked⟩
  · cases same
  · cases asked

end Law

end SigurdOS.Wifi
