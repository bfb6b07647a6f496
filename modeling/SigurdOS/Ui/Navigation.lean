import SigurdOS.Bytes.Fields
import SigurdOS.Library.Runs

namespace SigurdOS.Ui

open Bytes Runs

inductive Screen where
  | home
  | chat
  | contacts
  | channels
  | network
  | heard
  | map
  | advertise
  | settings
  | trace
  | terminal
  | signal
  | radioSetup
  | repeaters
  | onboarding
  | contactDetail
  | settingsRadio
  | settingsGPS
  | settingsDisplay
  | settingsSystem
  | nodeStats
  | telemetry
  | nodeStatus
  | wifiNetworks
  | bluetooth
  | regions
  | repeaterDetail
  | customRadioSetup
  | messageSearch
  | meshDashboard
  | fileBrowser
  | transports
  | lock
  | count
  deriving DecidableEq

def navigationScreenValid (screen : Screen) : Bool := screen != .count

def isPinProtectedRoute : Screen → Bool
  | .settings | .terminal | .radioSetup | .settingsRadio | .settingsGPS | .settingsDisplay | .settingsSystem
  | .nodeStats | .wifiNetworks | .bluetooth | .transports | .regions | .customRadioSetup | .fileBrowser
  | .contactDetail | .repeaterDetail => true
  | _ => false

inductive PendingNavigationType where
  | none
  | forward
  | back
  | refresh
  deriving DecidableEq

structure PendingNavigation where
  type : PendingNavigationType := .none
  source : Screen := .home
  target : Screen := .home
  deriving DecidableEq

def maxHistory : Nat := 16

def contactIdBufferLen : Nat := 65

structure Navigation where
  current : Screen := .home
  history : List Screen := []
  contactDetailName : List UInt8 := []
  repeaterDetailName : List UInt8 := []
  repeaterDetailSkipLogin : Bool := false
  forcedNavigation : Bool := false
  forcedScreen : Screen := .home
  lockActive : Bool := false
  lockedPrevious : Screen := .home
  pending : PendingNavigation := {}
  deriving DecidableEq

structure Shown where
  screen : Screen
  name : List UInt8
  deriving DecidableEq

/-- The text that `copy_route_name` leaves in the buffer, `none` when the name is missing or empty. -/
def copyRouteName (name : List UInt8) : Option (List UInt8) :=
  if terminated name = [] then none else some ((terminated name).take (contactIdBufferLen - 1))

namespace Navigation

def pushHistory (nav : Navigation) (screen : Screen) : Navigation :=
  { nav with history := (screen :: nav.history).take maxHistory }

def clearPendingNavigation (nav : Navigation) : Navigation := { nav with pending := {} }

def routeReady (nav : Navigation) (screen : Screen) : Bool :=
  if navigationScreenValid screen = false then false
  else
    match screen with
    | .contactDetail => nav.contactDetailName != []
    | .repeaterDetail => nav.repeaterDetailName != []
    | _ => true

def routeNeedsPin (devicePin : Nat) (grace : Bool) (screen : Screen) : Bool :=
  isPinProtectedRoute screen && devicePin != 0 && !grace

def dispatchScreenUnchecked (nav : Navigation) : Screen → Option Shown
  | .contactDetail => if nav.contactDetailName ≠ [] then some ⟨.contactDetail, nav.contactDetailName⟩ else none
  | .repeaterDetail => if nav.repeaterDetailName ≠ [] then some ⟨.repeaterDetail, nav.repeaterDetailName⟩ else none
  | .count => none
  | screen => some ⟨screen, []⟩

def navigateForwardUnchecked (nav : Navigation) (screen : Screen) : Navigation × Option Shown :=
  if nav.routeReady screen = false then (nav, none)
  else
    let moved := { nav.pushHistory nav.current with current := screen }
    (moved, moved.dispatchScreenUnchecked screen)

def navigateBackUnchecked (nav : Navigation) (target : Screen) : Navigation × Option Shown :=
  if nav.routeReady target = false ∨ nav.history.head? ≠ some target then (nav, none)
  else
    let moved := { nav with history := nav.history.tail, current := target }
    (moved, moved.dispatchScreenUnchecked target)

/-- `authorize_route` followed by what its caller does with the answer. The prompt replaces the screen until the PIN
    is entered or the prompt is cancelled. -/
def authorizeRoute (devicePin : Nat) (grace : Bool) (nav : Navigation) (screen : Screen) (type : PendingNavigationType)
    (granted : Navigation × Option Shown) : Navigation × Option Shown :=
  if routeNeedsPin devicePin grace screen then ({ nav with pending := ⟨type, nav.current, screen⟩ }, none)
  else granted

def lockScreenEnter (nav : Navigation) : Navigation × Option Shown :=
  if nav.lockActive = true ∨ nav.current = .lock then (nav, none)
  else
    let locked :=
      { nav.clearPendingNavigation with
        lockedPrevious := if nav.routeReady nav.current then nav.current else .home
        lockActive := true
        current := .lock }
    (locked, locked.dispatchScreenUnchecked .lock)

def navigateTo (devicePin : Nat) (grace : Bool) (nav : Navigation) (screen : Screen) : Navigation × Option Shown :=
  if nav.routeReady screen = false then (nav, none)
  else if screen = .lock then
    if nav.pending.type ≠ .none then (nav, none) else nav.lockScreenEnter
  else if nav.lockActive then (nav, none)
  else if screen = nav.current then (nav, none)
  else if nav.forcedNavigation = true ∧ screen ≠ nav.forcedScreen then (nav, none)
  else if nav.pending.type ≠ .none then (nav, none)
  else nav.authorizeRoute devicePin grace screen .forward (nav.navigateForwardUnchecked screen)

def navigateToForced (nav : Navigation) (screen : Screen) : Navigation × Option Shown :=
  if nav.lockActive then (nav, none)
  else if screen ≠ .onboarding ∨ nav.routeReady screen = false then (nav, none)
  else
    let forced :=
      { nav.clearPendingNavigation with
        history := []
        forcedNavigation := true
        forcedScreen := screen
        current := screen }
    (forced, forced.dispatchScreenUnchecked screen)

def showDetail (devicePin : Nat) (grace : Bool) (nav : Navigation) (screen : Screen) : Navigation × Option Shown :=
  if nav.current = screen then
    nav.authorizeRoute devicePin grace screen .refresh (nav, nav.dispatchScreenUnchecked screen)
  else nav.navigateTo devicePin grace screen

def ignoresDetail (nav : Navigation) : Bool := nav.forcedNavigation || nav.lockActive || nav.pending.type != .none

def navigateToContactDetail (devicePin : Nat) (grace : Bool) (nav : Navigation) (contactName : List UInt8) :
    Navigation × Option Shown :=
  if nav.ignoresDetail then (nav, none)
  else
    match copyRouteName contactName with
    | none => (nav, none)
    | some name => { nav with contactDetailName := name }.showDetail devicePin grace .contactDetail

def navigateToRepeaterDetail (devicePin : Nat) (grace : Bool) (nav : Navigation) (contactName : List UInt8)
    (skipLogin : Bool) : Navigation × Option Shown :=
  if nav.ignoresDetail then (nav, none)
  else
    match copyRouteName contactName with
    | none => (nav, none)
    | some name =>
      { nav with repeaterDetailName := name, repeaterDetailSkipLogin := skipLogin }.showDetail devicePin grace
        .repeaterDetail

def goBack (devicePin : Nat) (grace : Bool) (nav : Navigation) : Navigation × Option Shown :=
  if nav.forcedNavigation || nav.lockActive then (nav, none)
  else if nav.pending.type ≠ .none then (nav, none)
  else
    match nav.history with
    | [] => (nav, none)
    | target :: _ => nav.authorizeRoute devicePin grace target .back (nav.navigateBackUnchecked target)

def lockScreenUnlocked (nav : Navigation) : Navigation × Option Shown :=
  if nav.lockActive = false then (nav, none)
  else
    let previous := nav.lockedPrevious
    let unlocked :=
      { nav with
        lockActive := false
        lockedPrevious := .home
        current := if nav.routeReady previous = true ∧ previous ≠ .lock then previous else .home }
    (unlocked, unlocked.dispatchScreenUnchecked unlocked.current)

def refreshCurrentScreen (devicePin : Nat) (grace : Bool) (nav : Navigation) : Navigation × Option Shown :=
  if nav.lockActive then (nav, none)
  else if nav.routeReady nav.current = false then (nav, none)
  else if nav.pending.type ≠ .none then (nav, none)
  else nav.authorizeRoute devicePin grace nav.current .refresh (nav, nav.dispatchScreenUnchecked nav.current)

def navigationPinUnlocked (nav : Navigation) (target : Screen) : Navigation × Option Shown :=
  let pending := nav.pending
  let cleared := nav.clearPendingNavigation
  if pending.type = .none then (cleared, none)
  else if cleared.routeReady target = false ∨ (cleared.forcedNavigation = true ∧ target ≠ cleared.forcedScreen) then
    (cleared, none)
  else if pending.target ≠ target ∨ pending.source ≠ cleared.current then (cleared, none)
  else
    match pending.type with
    | .forward => if target ≠ cleared.current then cleared.navigateForwardUnchecked target else (cleared, none)
    | .back => if cleared.history.head? = some target then cleared.navigateBackUnchecked target else (cleared, none)
    | .refresh =>
      if cleared.current = target then (cleared, cleared.dispatchScreenUnchecked target) else (cleared, none)
    | .none => (cleared, none)

def navigationPinCancelled (nav : Navigation) : Navigation × Option Shown :=
  let pending := nav.pending
  let cleared := nav.clearPendingNavigation
  if pending.type ≠ .none ∧ pending.source = cleared.current ∧ cleared.routeReady pending.source = true then
    (cleared, cleared.dispatchScreenUnchecked pending.source)
  else (cleared, none)

end Navigation

/-- The calls of the router; `grace` says whether `pin_grace_active()` holds during the call. -/
inductive NavEvent where
  | navigateTo (screen : Screen) (grace : Bool)
  | navigateToForced (screen : Screen)
  | contactDetail (name : List UInt8) (grace : Bool)
  | repeaterDetail (name : List UInt8) (skipLogin grace : Bool)
  | goBack (grace : Bool)
  | refresh (grace : Bool)
  | lockEnter
  | lockUnlocked
  | pinUnlocked (target : Screen)
  | pinCancelled

open Navigation

def handle (devicePin : Nat) (nav : Navigation) : NavEvent → Navigation × Option Shown
  | .navigateTo screen grace => nav.navigateTo devicePin grace screen
  | .navigateToForced screen => nav.navigateToForced screen
  | .contactDetail name grace => nav.navigateToContactDetail devicePin grace name
  | .repeaterDetail name skipLogin grace => nav.navigateToRepeaterDetail devicePin grace name skipLogin
  | .goBack grace => nav.goBack devicePin grace
  | .refresh grace => nav.refreshCurrentScreen devicePin grace
  | .lockEnter => nav.lockScreenEnter
  | .lockUnlocked => nav.lockScreenUnlocked
  | .pinUnlocked target => nav.navigationPinUnlocked target
  | .pinCancelled => nav.navigationPinCancelled

/-- The router with what the user sees behind the prompt, and with both as they were before the call that opened
    the last prompt. -/
structure Session where
  nav : Navigation
  displayed : Shown
  opened : Option (Navigation × Shown)

def navStep (devicePin : Nat) (session : Session) (event : NavEvent) : Session :=
  let outcome := handle devicePin session.nav event
  { nav := outcome.1
    displayed := outcome.2.getD session.displayed
    opened :=
      if session.nav.pending.type = .none ∧ outcome.1.pending.type ≠ .none then some (session.nav, session.displayed)
      else session.opened }

def powerOn : Session := ⟨{}, ⟨.home, []⟩, none⟩

def NavEvent.grace : NavEvent → Bool
  | .navigateTo _ grace | .contactDetail _ grace | .repeaterDetail _ _ grace | .goBack grace | .refresh grace => grace
  | _ => false

/-- A screen that a correct PIN opens: the target of the prompt, or what the lock screen was hiding. -/
def OpenedByPin (shown : Shown) : NavEvent → Prop
  | .pinUnlocked target => shown.screen = target
  | .lockUnlocked => True
  | _ => False

/-- What one call may do. `restored` and `undone` are about a cancelled prompt. -/
structure Gated (devicePin : Nat) (session : Session) (event : NavEvent) : Prop where
  authorized : ∀ shown, (handle devicePin session.nav event).2 = some shown →
    isPinProtectedRoute shown.screen = true →
      event.grace = true ∨ OpenedByPin shown event ∨
        event = .pinCancelled ∧ ∃ before, session.opened = some (before, shown)
  restored : event = .pinCancelled → ∀ shown, (handle devicePin session.nav event).2 = some shown →
    ∃ before, session.opened = some (before, shown)
  undone : event = .pinCancelled → session.nav.pending.type ≠ .none →
    ∃ before shown, session.opened = some (before, shown) ∧
      (handle devicePin session.nav event).1.current = before.current ∧
      (handle devicePin session.nav event).1.history = before.history ∧
      (handle devicePin session.nav event).1.contactDetailName = before.contactDetailName ∧
      (handle devicePin session.nav event).1.repeaterDetailName = before.repeaterDetailName

/-- A detail request that the PIN gate stops brings no name but the one that is stored already. -/
def KeepsName (session : Session) : NavEvent → Prop
  | .contactDetail name grace =>
    grace = true ∨ session.nav.ignoresDetail = true ∨ ∀ copied ∈ copyRouteName name, copied =
      session.nav.contactDetailName
  | .repeaterDetail name _ grace =>
    grace = true ∨ session.nav.ignoresDetail = true ∨
      ∀ copied ∈ copyRouteName name, copied = session.nav.repeaterDetailName
  | _ => True

section Routes

variable {devicePin : Nat} {grace : Bool} {nav : Navigation}

def Navigation.nameOf (nav : Navigation) : Screen → List UInt8
  | .contactDetail => nav.contactDetailName
  | .repeaterDetail => nav.repeaterDetailName
  | _ => []

theorem dispatch_of_ready {screen : Screen} (ready : ¬ nav.routeReady screen = false) :
    nav.dispatchScreenUnchecked screen = some ⟨screen, nav.nameOf screen⟩ := by
  cases screen with
  | contactDetail =>
    have named : nav.contactDetailName ≠ [] := by simpa [routeReady, navigationScreenValid] using ready
    exact if_pos named
  | repeaterDetail =>
    have named : nav.repeaterDetailName ≠ [] := by simpa [routeReady, navigationScreenValid] using ready
    exact if_pos named
  | count => exact absurd rfl ready
  | _ => rfl

/-- What a request can do once its name is stored: nothing, a prompt, a new screen, or the lock screen. -/
inductive Routed (grace : Bool) (nav : Navigation) : Navigation × Option Shown → Prop
  | stays : Routed grace nav (nav, none)
  | prompts (type : PendingNavigationType) (target : Screen) (idle : nav.pending.type = .none)
      (unlocked : nav.lockActive = false) (denied : grace = false) :
      Routed grace nav ({ nav with pending := ⟨type, nav.current, target⟩ }, none)
  | shows (target : Screen) (history : List Screen) (idle : nav.pending.type = .none)
      (allowed : isPinProtectedRoute target = true → grace = true) :
      Routed grace nav ({ nav with history := history, current := target }, some ⟨target, nav.nameOf target⟩)
  | locks (previous : Screen) :
      Routed grace nav
        ({ nav.clearPendingNavigation with lockedPrevious := previous, lockActive := true, current := .lock },
          some ⟨.lock, []⟩)

theorem authorizeRoute_routed {screen : Screen} {type : PendingNavigationType} {granted : Navigation × Option Shown}
    (secured : devicePin ≠ 0) (idle : nav.pending.type = .none) (unlocked : nav.lockActive = false)
    (opens : (isPinProtectedRoute screen = true → grace = true) → Routed grace nav granted) :
    Routed grace nav (nav.authorizeRoute devicePin grace screen type granted) := by
  unfold authorizeRoute
  split
  · rename_i needed
    simp only [routeNeedsPin, Bool.and_eq_true, Bool.not_eq_true'] at needed
    exact .prompts type screen idle unlocked needed.2
  · rename_i free
    apply opens
    intro gated
    simpa [routeNeedsPin, gated, secured] using free

theorem navigateForwardUnchecked_cases (nav : Navigation) (screen : Screen) :
    nav.navigateForwardUnchecked screen = (nav, none) ∨ ∃ history, nav.navigateForwardUnchecked screen =
      ({ nav with history := history, current := screen }, some ⟨screen, nav.nameOf screen⟩) := by
  unfold navigateForwardUnchecked
  split
  · exact Or.inl rfl
  · rename_i ready
    have dispatched := @dispatch_of_ready { nav.pushHistory nav.current with current := screen } screen ready
    dsimp only
    rw [dispatched]
    exact Or.inr ⟨_, rfl⟩

theorem navigateBackUnchecked_cases (nav : Navigation) (target : Screen) :
    nav.navigateBackUnchecked target = (nav, none) ∨ ∃ history, nav.navigateBackUnchecked target =
      ({ nav with history := history, current := target }, some ⟨target, nav.nameOf target⟩) := by
  unfold navigateBackUnchecked
  split
  · exact Or.inl rfl
  · rename_i free
    rw [not_or] at free
    have dispatched := @dispatch_of_ready { nav with history := nav.history.tail, current := target } target free.1
    dsimp only
    rw [dispatched]
    exact Or.inr ⟨_, rfl⟩

theorem Routed.of_cases {target : Screen} {outcome : Navigation × Option Shown} (idle : nav.pending.type = .none)
    (cases : outcome = (nav, none) ∨ ∃ history, outcome =
      ({ nav with history := history, current := target }, some ⟨target, nav.nameOf target⟩))
    (allowed : isPinProtectedRoute target = true → grace = true) : Routed grace nav outcome := by
  rcases cases with same | ⟨history, shown⟩
  · rw [same]
    exact .stays
  · rw [shown]
    exact .shows target history idle allowed

theorem lockScreenEnter_routed : Routed grace nav nav.lockScreenEnter := by
  unfold lockScreenEnter
  split
  · exact .stays
  · exact .locks _

theorem navigateTo_routed (secured : devicePin ≠ 0) (screen : Screen) :
    Routed grace nav (nav.navigateTo devicePin grace screen) := by
  unfold navigateTo
  split
  · exact .stays
  · split
    · split
      · exact .stays
      · exact lockScreenEnter_routed
    · split
      · exact .stays
      · rename_i unlocked
        split
        · exact .stays
        · split
          · exact .stays
          · split
            · exact .stays
            · rename_i idle
              rw [not_not] at idle
              apply authorizeRoute_routed secured idle (Bool.not_eq_true _ ▸ unlocked)
              exact Routed.of_cases idle (navigateForwardUnchecked_cases nav screen)

theorem goBack_routed (secured : devicePin ≠ 0) : Routed grace nav (nav.goBack devicePin grace) := by
  unfold goBack
  split
  · exact .stays
  · rename_i free
    rw [Bool.or_eq_true, not_or] at free
    split
    · exact .stays
    · rename_i idle
      rw [not_not] at idle
      split
      · exact .stays
      · apply authorizeRoute_routed secured idle (Bool.not_eq_true _ ▸ free.2)
        exact Routed.of_cases idle (navigateBackUnchecked_cases nav _)

theorem refreshCurrentScreen_routed (secured : devicePin ≠ 0) :
    Routed grace nav (nav.refreshCurrentScreen devicePin grace) := by
  unfold refreshCurrentScreen
  split
  · exact .stays
  · rename_i unlocked
    split
    · exact .stays
    · rename_i ready
      split
      · exact .stays
      · rename_i idle
        rw [not_not] at idle
        apply authorizeRoute_routed secured idle (Bool.not_eq_true _ ▸ unlocked)
        intro allowed
        rw [dispatch_of_ready ready]
        exact .shows nav.current nav.history idle allowed

theorem showDetail_routed {screen : Screen} (secured : devicePin ≠ 0) (idle : nav.pending.type = .none)
    (unlocked : nav.lockActive = false) (ready : ¬ nav.routeReady screen = false) :
    Routed grace nav (nav.showDetail devicePin grace screen) := by
  unfold showDetail
  split
  · rename_i here
    apply authorizeRoute_routed secured idle unlocked
    intro allowed
    rw [dispatch_of_ready ready]
    have shown := Routed.shows screen nav.history idle allowed
    rw [← here] at shown ⊢
    exact shown
  · exact navigateTo_routed secured screen

theorem showDetail_here {screen : Screen} (here : nav.current = screen) (ready : ¬ nav.routeReady screen = false) :
    nav.showDetail devicePin true screen = (nav, some ⟨nav.current, nav.nameOf nav.current⟩) := by
  unfold showDetail authorizeRoute
  rw [if_pos here, if_neg (by simp [routeNeedsPin]), dispatch_of_ready ready, here]

theorem navigationPinUnlocked_cases (nav : Navigation) (target : Screen) :
    nav.navigationPinUnlocked target = (nav.clearPendingNavigation, none) ∨
      ∃ history, nav.navigationPinUnlocked target =
        ({ nav.clearPendingNavigation with history := history, current := target },
        some ⟨target, nav.nameOf target⟩) := by
  unfold navigationPinUnlocked
  dsimp only
  split
  · exact Or.inl rfl
  · split
    · exact Or.inl rfl
    · rename_i free
      rw [not_or] at free
      split
      · exact Or.inl rfl
      · split
        · split
          · exact navigateForwardUnchecked_cases nav.clearPendingNavigation target
          · exact Or.inl rfl
        · split
          · exact navigateBackUnchecked_cases nav.clearPendingNavigation target
          · exact Or.inl rfl
        · split
          · rename_i here
            have dispatched := dispatch_of_ready free.1
            refine Or.inr ⟨nav.history, ?_⟩
            rw [dispatched, ← here]
            rfl
          · exact Or.inl rfl
        · exact Or.inl rfl

theorem lockScreenUnlocked_cases (nav : Navigation) :
    nav.lockScreenUnlocked = (nav, none) ∨ nav.lockActive = true ∧ ∃ screen, nav.lockScreenUnlocked =
      ({ nav with lockActive := false, lockedPrevious := .home, current := screen },
      some ⟨screen, nav.nameOf screen⟩) := by
  unfold lockScreenUnlocked
  split
  · exact Or.inl rfl
  · rename_i locked
    refine Or.inr ⟨Bool.not_eq_false _ ▸ locked, _, congrArg (Prod.mk _) (dispatch_of_ready ?_)⟩
    split
    · rename_i ready
      rw [Bool.not_eq_false]
      exact ready.1
    · exact Bool.noConfusion

theorem navigationPinCancelled_cases (nav : Navigation) :
    nav.navigationPinCancelled = (nav.clearPendingNavigation, none) ∨
      nav.pending.type ≠ .none ∧ nav.navigationPinCancelled =
        (nav.clearPendingNavigation, some ⟨nav.current, nav.nameOf nav.current⟩) := by
  unfold navigationPinCancelled
  dsimp only
  split
  · rename_i restored
    have dispatched := dispatch_of_ready (by rw [Bool.not_eq_false]; exact restored.2.2)
    rw [dispatched, restored.2.1]
    exact Or.inr ⟨restored.1, rfl⟩
  · exact Or.inl rfl

theorem navigateToForced_cases (nav : Navigation) (screen : Screen) :
    nav.navigateToForced screen = (nav, none) ∨ nav.navigateToForced screen =
      ({ nav.clearPendingNavigation with
          history := [], forcedNavigation := true, forcedScreen := .onboarding, current := .onboarding },
        some ⟨.onboarding, []⟩) := by
  unfold navigateToForced
  split
  · exact Or.inl rfl
  · split
    · exact Or.inl rfl
    · rename_i first_boot
      rw [not_or, not_not] at first_boot
      rw [first_boot.1]
      exact Or.inr rfl

theorem copyRouteName_nonempty {name copied : List UInt8} (some_copy : copyRouteName name = some copied) :
    copied ≠ [] := by
  unfold copyRouteName at some_copy
  split at some_copy
  · cases some_copy
  · rename_i real
    rw [← Option.some.inj some_copy]
    intro empty
    rcases List.take_eq_nil_iff.mp empty with zero | none
    · exact absurd zero (by decide)
    · exact real none

theorem navigateToContactDetail_cases (nav : Navigation) (name : List UInt8) :
    nav.navigateToContactDetail devicePin grace name = (nav, none) ∨
      ∃ copied, copyRouteName name = some copied ∧ nav.ignoresDetail = false ∧
        ¬ { nav with contactDetailName := copied }.routeReady .contactDetail = false ∧
        nav.navigateToContactDetail devicePin grace name =
          { nav with contactDetailName := copied }.showDetail devicePin grace .contactDetail := by
  unfold navigateToContactDetail
  split
  · exact Or.inl rfl
  · rename_i free
    cases copy : copyRouteName name with
    | none => exact Or.inl rfl
    | some copied =>
      refine Or.inr ⟨copied, rfl, Bool.not_eq_true _ ▸ free, ?_, rfl⟩
      simp [routeReady, navigationScreenValid, copyRouteName_nonempty copy]

theorem navigateToRepeaterDetail_cases (nav : Navigation) (name : List UInt8) (skipLogin : Bool) :
    nav.navigateToRepeaterDetail devicePin grace name skipLogin = (nav, none) ∨
      ∃ copied, copyRouteName name = some copied ∧ nav.ignoresDetail = false ∧
        ¬ { nav with repeaterDetailName := copied, repeaterDetailSkipLogin := skipLogin }.routeReady .repeaterDetail =
          false ∧
        nav.navigateToRepeaterDetail devicePin grace name skipLogin =
          { nav with repeaterDetailName := copied, repeaterDetailSkipLogin := skipLogin }.showDetail devicePin grace
            .repeaterDetail := by
  unfold navigateToRepeaterDetail
  split
  · exact Or.inl rfl
  · rename_i free
    cases copy : copyRouteName name with
    | none => exact Or.inl rfl
    | some copied =>
      refine Or.inr ⟨copied, rfl, Bool.not_eq_true _ ▸ free, ?_, rfl⟩
      simp [routeReady, navigationScreenValid, copyRouteName_nonempty copy]

end Routes

structure SameRoute (before nav : Navigation) : Prop where
  current : nav.current = before.current
  history : nav.history = before.history
  contact : nav.contactDetailName = before.contactDetailName
  repeater : nav.repeaterDetailName = before.repeaterDetailName

theorem SameRoute.nameOf {before nav : Navigation} (same : SameRoute before nav) (screen : Screen) :
    nav.nameOf screen = before.nameOf screen := by
  cases screen with
  | contactDetail => exact same.contact
  | repeaterDetail => exact same.repeater
  | _ => rfl

/-- What is displayed is the current screen with its stored name, and while a prompt is open the router still stands
    where it stood before the call that opened it. -/
structure NavInv (session : Session) : Prop where
  shown : session.displayed = ⟨session.nav.current, session.nav.nameOf session.nav.current⟩
  locked : session.nav.lockActive = true → session.nav.pending.type = .none
  prompt : session.nav.pending.type ≠ .none →
    ∃ before, session.opened = some (before, session.displayed) ∧ SameRoute before session.nav

section Sessions

variable {devicePin : Nat} {grace : Bool} {session : Session}

theorem NavInv.of_idle {nav : Navigation} {displayed : Shown} {opened : Option (Navigation × Shown)}
    (shown : displayed = ⟨nav.current, nav.nameOf nav.current⟩) (idle : nav.pending.type = .none) :
    NavInv ⟨nav, displayed, opened⟩ :=
  ⟨shown, fun _ => idle, fun open_ => absurd idle open_⟩

theorem NavInv.routed {before nav : Navigation} {displayed : Shown} {opened : Option (Navigation × Shown)}
    {outcome : Navigation × Option Shown} (inv : NavInv ⟨nav, displayed, opened⟩)
    (pending : before.pending = nav.pending) (same : grace = false → SameRoute before nav)
    (routed : Routed grace nav outcome) :
    NavInv ⟨outcome.1, outcome.2.getD displayed,
      if before.pending.type = .none ∧ outcome.1.pending.type ≠ .none then some (before, displayed) else opened⟩ := by
  cases routed with
  | stays =>
    have closed : ¬ (before.pending.type = .none ∧ nav.pending.type ≠ .none) := by
      rw [pending]
      exact fun both => both.2 both.1
    dsimp only
    rw [if_neg closed]
    exact inv
  | prompts type target idle unlocked denied =>
    refine ⟨inv.shown, ?_, ?_⟩
    · intro locked
      exact absurd (unlocked.symm.trans locked) Bool.false_ne_true
    · intro asked
      have route := same denied
      exact ⟨before,
        if_pos ⟨by rw [pending]; exact idle, asked⟩, route.current, route.history, route.contact, route.repeater⟩
  | shows target history idle allowed => exact NavInv.of_idle rfl idle
  | locks previous => exact NavInv.of_idle rfl rfl

theorem NavInv.detail {named : Navigation} {screen : Screen} (inv : NavInv session) (secured : devicePin ≠ 0)
    (free : session.nav.ignoresDetail = false) (pending : session.nav.pending = named.pending)
    (unlocked : named.lockActive = session.nav.lockActive) (here : named.current = session.nav.current)
    (ready : ¬ named.routeReady screen = false)
    (others : ∀ other, other ≠ screen → named.nameOf other = session.nav.nameOf other)
    (same : grace = false → SameRoute session.nav named) :
    NavInv ⟨(named.showDetail devicePin grace screen).1,
      (named.showDetail devicePin grace screen).2.getD session.displayed,
      if session.nav.pending.type = .none ∧ (named.showDetail devicePin grace screen).1.pending.type ≠ .none then
        some (session.nav, session.displayed) else session.opened⟩ := by
  simp only [ignoresDetail, Bool.or_eq_false_iff, bne_eq_false_iff_eq] at free
  obtain ⟨⟨-, open_⟩, idle⟩ := free
  have quiet : named.pending.type = .none := pending ▸ idle
  have routed := @showDetail_routed devicePin grace named screen secured quiet (unlocked.trans open_) ready
  have carried : named.nameOf named.current = session.nav.nameOf session.nav.current →
      NavInv ⟨named, session.displayed, session.opened⟩ := by
    intro name
    refine NavInv.of_idle ?_ quiet
    rw [inv.shown, name, here]
  cases grace with
  | false => exact (carried (by rw [(same rfl).nameOf, here])).routed pending same routed
  | true =>
    by_cases at_screen : named.current = screen
    · rw [showDetail_here at_screen ready]
      exact NavInv.of_idle rfl quiet
    · exact (carried (by rw [others _ at_screen, here])).routed pending same routed

theorem navStep_inv (secured : devicePin ≠ 0) (event : NavEvent) (inv : NavInv session)
    (keeps : KeepsName session event) :
    NavInv (navStep devicePin session event) := by
  have start : NavInv ⟨session.nav, session.displayed, session.opened⟩ := inv
  have itself : SameRoute session.nav session.nav := ⟨rfl, rfl, rfl, rfl⟩
  have unmoved := start.routed rfl (fun _ => itself) (@Routed.stays false session.nav)
  unfold navStep
  cases event with
  | navigateTo screen grace => exact start.routed rfl (fun _ => itself) (navigateTo_routed secured screen)
  | goBack grace => exact start.routed rfl (fun _ => itself) (goBack_routed secured)
  | refresh grace => exact start.routed rfl (fun _ => itself) (refreshCurrentScreen_routed secured)
  | lockEnter => exact start.routed rfl (fun _ => itself) (@lockScreenEnter_routed false session.nav)
  | navigateToForced screen =>
    dsimp only [handle]
    rcases navigateToForced_cases session.nav screen with same | forced
    · rw [same]
      exact unmoved
    · rw [forced]
      exact NavInv.of_idle rfl rfl
  | contactDetail name grace =>
    dsimp only [handle]
    rcases @navigateToContactDetail_cases devicePin grace session.nav name
      with same | ⟨copied, copy, free, ready, stored⟩
    · rw [same]
      exact unmoved
    rw [stored]
    refine inv.detail secured free rfl rfl rfl ready ?_ ?_
    · intro other apart
      cases other with
      | contactDetail => exact absurd rfl apart
      | _ => rfl
    · intro denied
      rcases keeps with granted | ignored | known
      · exact absurd (denied.symm.trans granted) Bool.false_ne_true
      · exact absurd (free.symm.trans ignored) Bool.false_ne_true
      · exact ⟨rfl, rfl, known copied copy, rfl⟩
  | repeaterDetail name skipLogin grace =>
    dsimp only [handle]
    rcases @navigateToRepeaterDetail_cases devicePin grace session.nav name skipLogin with
      same | ⟨copied, copy, free, ready, stored⟩
    · rw [same]
      exact unmoved
    rw [stored]
    refine inv.detail secured free rfl rfl rfl ready ?_ ?_
    · intro other apart
      cases other with
      | repeaterDetail => exact absurd rfl apart
      | _ => rfl
    · intro denied
      rcases keeps with granted | ignored | known
      · exact absurd (denied.symm.trans granted) Bool.false_ne_true
      · exact absurd (free.symm.trans ignored) Bool.false_ne_true
      · exact ⟨rfl, rfl, rfl, known copied copy⟩
  | lockUnlocked =>
    dsimp only [handle]
    rcases lockScreenUnlocked_cases session.nav with same | ⟨locked, screen, shown⟩
    · rw [same]
      exact unmoved
    · rw [shown]
      exact NavInv.of_idle rfl (inv.locked locked)
  | pinUnlocked target =>
    dsimp only [handle]
    rcases navigationPinUnlocked_cases session.nav target with same | ⟨history, shown⟩
    · rw [same]
      exact NavInv.of_idle inv.shown rfl
    · rw [shown]
      exact NavInv.of_idle rfl rfl
  | pinCancelled =>
    dsimp only [handle]
    rcases navigationPinCancelled_cases session.nav with same | ⟨-, shown⟩
    · rw [same]
      exact NavInv.of_idle inv.shown rfl
    · rw [shown]
      exact NavInv.of_idle rfl rfl

theorem Routed.authorized {nav : Navigation} {outcome : Navigation × Option Shown} {shown : Shown}
    (routed : Routed grace nav outcome) (dispatched : outcome.2 = some shown)
    (gated : isPinProtectedRoute shown.screen = true) : grace = true := by
  cases routed with
  | stays => cases dispatched
  | prompts => cases dispatched
  | shows target history idle allowed =>
    cases dispatched
    exact allowed gated
  | locks =>
    cases dispatched
    cases gated

theorem detail_authorized {nav named : Navigation} {screen : Screen} {shown : Shown} (secured : devicePin ≠ 0)
    (free : nav.ignoresDetail = false) (ready : ¬ named.routeReady screen = false)
    (pending : nav.pending = named.pending) (unlocked : named.lockActive = nav.lockActive)
    (dispatched : (named.showDetail devicePin grace screen).2 = some shown)
    (gated : isPinProtectedRoute shown.screen = true) : grace = true := by
  simp only [ignoresDetail, Bool.or_eq_false_iff, bne_eq_false_iff_eq] at free
  exact (showDetail_routed secured (pending ▸ free.2) (unlocked.trans free.1.2) ready).authorized dispatched gated

theorem NavInv.restored {shown : Shown} (inv : NavInv session)
    (dispatched : session.nav.navigationPinCancelled.2 = some shown) :
    ∃ before, session.opened = some (before, shown) := by
  rcases navigationPinCancelled_cases session.nav with same | ⟨asked, again⟩
  · rw [same] at dispatched
    cases dispatched
  · rw [again, ← inv.shown] at dispatched
    obtain rfl : session.displayed = shown := Option.some.inj dispatched
    obtain ⟨before, opened, -⟩ := inv.prompt asked
    exact ⟨before, opened⟩

theorem NavInv.undone (inv : NavInv session) (asked : session.nav.pending.type ≠ .none) :
    ∃ before shown, session.opened = some (before, shown) ∧ SameRoute before session.nav.navigationPinCancelled.1 := by
  obtain ⟨before, opened, same⟩ := inv.prompt asked
  refine ⟨before, session.displayed, opened, ?_⟩
  rcases navigationPinCancelled_cases session.nav with cleared | ⟨-, cleared⟩
  · rw [cleared]
    exact ⟨same.current, same.history, same.contact, same.repeater⟩
  · rw [cleared]
    exact ⟨same.current, same.history, same.contact, same.repeater⟩

theorem NavInv.authorized {event : NavEvent} {shown : Shown} (secured : devicePin ≠ 0) (inv : NavInv session)
    (dispatched : (handle devicePin session.nav event).2 = some shown)
    (gated : isPinProtectedRoute shown.screen = true) :
    event.grace = true ∨ OpenedByPin shown event ∨
      event = .pinCancelled ∧ ∃ before, session.opened = some (before, shown) := by
  cases event with
  | navigateTo screen grace => exact Or.inl ((navigateTo_routed secured screen).authorized dispatched gated)
  | goBack grace => exact Or.inl ((goBack_routed secured).authorized dispatched gated)
  | refresh grace => exact Or.inl ((refreshCurrentScreen_routed secured).authorized dispatched gated)
  | lockEnter => exact Or.inl (lockScreenEnter_routed.authorized dispatched gated)
  | navigateToForced screen =>
    dsimp only [handle] at dispatched
    rcases navigateToForced_cases session.nav screen with same | forced
    · rw [same] at dispatched
      cases dispatched
    · rw [forced] at dispatched
      cases dispatched
      cases gated
  | contactDetail name grace =>
    dsimp only [handle] at dispatched
    rcases @navigateToContactDetail_cases devicePin grace session.nav name
      with same | ⟨copied, copy, free, ready, stored⟩
    · rw [same] at dispatched
      cases dispatched
    · rw [stored] at dispatched
      exact Or.inl (detail_authorized secured free ready rfl rfl dispatched gated)
  | repeaterDetail name skipLogin grace =>
    dsimp only [handle] at dispatched
    rcases @navigateToRepeaterDetail_cases devicePin grace session.nav name skipLogin with
      same | ⟨copied, copy, free, ready, stored⟩
    · rw [same] at dispatched
      cases dispatched
    · rw [stored] at dispatched
      exact Or.inl (detail_authorized secured free ready rfl rfl dispatched gated)
  | lockUnlocked => exact Or.inr (Or.inl trivial)
  | pinUnlocked target =>
    dsimp only [handle] at dispatched
    rcases navigationPinUnlocked_cases session.nav target with same | ⟨history, opened⟩
    · rw [same] at dispatched
      cases dispatched
    · rw [opened] at dispatched
      cases dispatched
      exact Or.inr (Or.inl rfl)
  | pinCancelled => exact Or.inr (Or.inr ⟨rfl, inv.restored dispatched⟩)

end Sessions

theorem navigation_gated {devicePin : Nat} (secured : devicePin ≠ 0) {events : List NavEvent}
    (meets : Along (navStep devicePin) KeepsName powerOn events) {before : List NavEvent} {event : NavEvent}
    {after : List NavEvent} (step : events = before ++ event :: after) :
    Gated devicePin (run (navStep devicePin) powerOn before) event := by
  have early : Along (navStep devicePin) KeepsName powerOn before := by
    rw [step] at meets
    exact (along_append.mp meets).1
  have inv : NavInv (run (navStep devicePin) powerOn before) :=
    run_invariant_along NavInv (NavInv.of_idle rfl rfl)
      (fun session event held keeps => navStep_inv secured event held keeps) early
  refine ⟨fun shown dispatched gated => inv.authorized secured dispatched gated, ?_, ?_⟩
  · rintro rfl shown dispatched
    exact inv.restored dispatched
  · rintro rfl asked
    obtain ⟨snapshot, shown, opened, same⟩ := inv.undone asked
    exact ⟨snapshot, shown, opened, same.current, same.history, same.contact, same.repeater⟩

def cancelledSettings : List NavEvent :=
  [.contactDetail [65] true, .navigateTo .settings false, .pinCancelled]

/-- The detail screen of contact `A` is restored when the settings are not unlocked. -/
theorem cancelledSettings_gated :
    Gated 1234 (run (navStep 1234) powerOn [.contactDetail [65] true, .navigateTo .settings false]) .pinCancelled :=
  @navigation_gated 1234 (by decide) cancelledSettings ⟨Or.inl rfl, trivial, trivial, trivial⟩ _ _ [] rfl

/-- While the detail screen of contact `A` is shown and the grace has lapsed, a request for contact `B` is denied and
    cancelled. -/
theorem cancelledContact_shows_other :
    (run (navStep 1234) powerOn [.contactDetail [65] true, .contactDetail [66] false]).displayed =
        ⟨.contactDetail, [65]⟩ ∧
      (run (navStep 1234) powerOn [.contactDetail [65] true, .contactDetail [66] false, .pinCancelled]).displayed =
        ⟨.contactDetail, [66]⟩ ∧
      ¬ Gated 1234 (run (navStep 1234) powerOn [.contactDetail [65] true, .contactDetail [66] false])
      .pinCancelled := by
  refine ⟨by decide, by decide, ?_⟩
  intro gated
  obtain ⟨before, opened⟩ := gated.restored rfl ⟨.contactDetail, [66]⟩ (by decide)
  have shown : (run (navStep 1234) powerOn [.contactDetail [65] true, .contactDetail [66] false]).opened.map Prod.snd =
      some ⟨.contactDetail, [65]⟩ := by decide
  rw [opened] at shown
  have equal : (⟨.contactDetail, [66]⟩ : Shown) = ⟨.contactDetail, [65]⟩ := Option.some.inj shown
  exact absurd equal (by decide)

end SigurdOS.Ui
