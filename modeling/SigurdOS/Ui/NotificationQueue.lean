import Mathlib.Data.List.Nodup
import Mathlib.Tactic.SplitIfs

/-! The notification that is shown, and those that wait behind it. -/

namespace SigurdOS.Ui.NotificationQueue

section Items

inductive NotificationEvent where
  | directMessage
  | mention
  | companionConnected
  | companionDisconnected
  | loginSuccess
  | loginFailure
  | lowBattery
  | storageFull
  | otaFailure
  | uiError
  deriving DecidableEq

inductive NotificationLevel where
  | info
  | important
  | critical
  deriving DecidableEq

def NotificationLevel.rank : NotificationLevel → Nat
  | .info => 0
  | .important => 1
  | .critical => 2

structure NotificationPolicy where
  level : NotificationLevel
  durationMs : UInt32
  sticky : Bool

def notificationPolicy : NotificationEvent → NotificationPolicy
  | .mention | .loginFailure | .uiError => ⟨.important, 6000, false⟩
  | .lowBattery | .storageFull | .otaFailure => ⟨.critical, 0, true⟩
  | _ => ⟨.info, 4000, false⟩

structure NotificationItem where
  event : NotificationEvent
  level : NotificationLevel
  durationMs : UInt32
  sticky : Bool
  text : List UInt8
  deriving DecidableEq

/-- The item of a post, with as much of a text as its 96 bytes hold. -/
def itemOf (event : NotificationEvent) (text : Option (List UInt8)) : NotificationItem :=
  let policy := notificationPolicy event
  ⟨event, policy.level, policy.durationMs, policy.sticky, ((text.getD []).takeWhile (· ≠ 0)).take 95⟩

def sameItem (lhs rhs : NotificationItem) : Bool := decide (lhs.event = rhs.event ∧ lhs.text = rhs.text)

end Items

section Queue

def capacity : Nat := 4

structure Queue where
  current : NotificationItem
  pending : List NotificationItem
  startedMs : UInt32
  active : Bool

def NotificationItem.default : NotificationItem := ⟨.directMessage, .info, 0, false, []⟩

def Queue.reset : Queue := ⟨.default, [], 0, false⟩

def Queue.activate (q : Queue) (item : NotificationItem) (now : UInt32) : Queue :=
  { q with current := item, startedMs := now, active := true }

/-- The first of the lowest level from the place `i` on, of those that are not sticky. -/
def selectVictim (best : Option (Nat × NotificationLevel)) :
    Nat → List NotificationItem → Option (Nat × NotificationLevel)
  | _, [] => best
  | i, item :: rest =>
    if item.sticky then selectVictim best (i + 1) rest
    else if best.all fun found => item.level.rank < found.2.rank then selectVictim (some (i, item.level)) (i + 1) rest
    else selectVictim best (i + 1) rest

def makeRoom (pending : List NotificationItem) (incoming : NotificationItem) : Option (List NotificationItem) :=
  if pending.length < capacity - 1 then some pending
  else
    match selectVictim none 0 pending with
    | none => none
    | some (victim, level) => if level.rank > incoming.level.rank then none else some (pending.eraseIdx victim)

def Queue.enqueue (q : Queue) (item : NotificationItem) : Queue :=
  match makeRoom q.pending item with
  | none => q
  | some pending => { q with pending := pending ++ [item] }

def Queue.enqueueFront (q : Queue) (item : NotificationItem) : Queue :=
  match makeRoom q.pending item with
  | none => q
  | some pending => { q with pending := item :: pending }

def Queue.post (q : Queue) (event : NotificationEvent) (text : Option (List UInt8)) (now : UInt32) : Queue :=
  let item := itemOf event text
  if q.active && sameItem q.current item then q
  else if q.pending.any (sameItem · item) then q
  else if q.active = false then q.activate item now
  else if item.level.rank > q.current.level.rank then (q.enqueueFront q.current).activate item now
  else q.enqueue item

def Queue.advance (q : Queue) (now : UInt32) : Queue :=
  match q.pending with
  | [] => { q with active := false, current := .default }
  | next :: rest => { q with pending := rest }.activate next now

def Queue.tick (q : Queue) (now : UInt32) : Queue :=
  if q.active = false ∨ q.current.sticky = true then q
  else if now - q.startedMs < q.current.durationMs then q
  else q.advance now

inductive Action where
  | post (event : NotificationEvent) (text : Option (List UInt8)) (now : UInt32)
  | tick (now : UInt32)
  | dismiss (now : UInt32)
  | reset

def step (q : Queue) : Action → Queue
  | .post event text now => q.post event text now
  | .tick now => q.tick now
  | .dismiss now => q.advance now
  | .reset => .reset

def run (actions : List Action) (q : Queue) : Queue := actions.foldl step q

end Queue

section Held

variable {q : Queue} {item : NotificationItem}

def Queue.held (q : Queue) : List NotificationItem := (if q.active then [q.current] else []) ++ q.pending

def NotificationItem.identity (item : NotificationItem) : NotificationEvent × List UInt8 := (item.event, item.text)

def NotificationItem.Policy (item : NotificationItem) : Prop :=
  item.level = (notificationPolicy item.event).level ∧ item.durationMs = (notificationPolicy item.event).durationMs ∧
    item.sticky = (notificationPolicy item.event).sticky

structure Orderly (q : Queue) : Prop where
  room : q.pending.length < capacity
  idle : q.active = false → q.pending = []
  distinct : (q.held.map NotificationItem.identity).Nodup
  policy : ∀ item ∈ q.held, item.Policy

theorem itemOf_policy (event : NotificationEvent) (text : Option (List UInt8)) : (itemOf event text).Policy :=
  ⟨rfl, rfl, rfl⟩

theorem sticky_iff (policy : item.Policy) : item.sticky = true ↔ item.level = .critical := by
  rw [policy.1, policy.2.2]
  cases item.event <;> decide

theorem policy_ext {other : NotificationItem} (policy : item.Policy) (policy' : other.Policy)
    (same : item.identity = other.identity) : item = other := by
  obtain ⟨event, level, duration, sticky, text⟩ := item
  obtain ⟨event', level', duration', sticky', text'⟩ := other
  obtain ⟨rfl, rfl⟩ := Prod.mk.inj same
  have levels := policy.1.trans policy'.1.symm
  have durations := policy.2.1.trans policy'.2.1.symm
  have stickies := policy.2.2.trans policy'.2.2.symm
  simp only at levels durations stickies
  rw [levels, durations, stickies]

theorem sameItem_iff {other : NotificationItem} : sameItem item other = true ↔ item.identity = other.identity := by
  simp [sameItem, NotificationItem.identity]

theorem selectVictim_spec {best : Option (Nat × NotificationLevel)} {before rest : List NotificationItem}
    (found : ∀ i level, best = some (i, level) →
      ∃ item, (before ++ rest)[i]? = some item ∧ item.sticky = false ∧ item.level = level)
    (none : best = none → ∀ item ∈ before, item.sticky = true) :
    (∀ i level, selectVictim best before.length rest = some (i, level) →
      ∃ item, (before ++ rest)[i]? = some item ∧ item.sticky = false ∧ item.level = level) ∧
      (selectVictim best before.length rest = Option.none → ∀ item ∈ before ++ rest, item.sticky = true) := by
  induction rest generalizing best before with
  | nil =>
    rw [List.append_nil] at found ⊢
    exact ⟨found, none⟩
  | cons item rest ih =>
    have whole : before ++ item :: rest = (before ++ [item]) ++ rest := by simp
    have count : before.length + 1 = (before ++ [item]).length := by simp
    have here : (before ++ item :: rest)[before.length]? = some item := by simp
    unfold selectVictim
    rw [whole, count]
    rw [whole] at found here
    split_ifs with sticky lower
    · apply ih found
      intro absent other member
      rcases List.mem_append.mp member with old | new
      · exact none absent other old
      · rw [List.mem_singleton.mp new]
        exact sticky
    · apply ih
      · intro i level new
        cases new
        exact ⟨item, here, Bool.not_eq_true _ ▸ sticky, rfl⟩
      · intro absent
        cases absent
    · apply ih found
      intro absent
      rw [absent] at lower
      exact absurd rfl lower

theorem selectVictim_some {pending : List NotificationItem} {victim : Nat} {level : NotificationLevel}
    (chosen : selectVictim none 0 pending = some (victim, level)) :
    ∃ item, pending[victim]? = some item ∧ item.sticky = false := by
  obtain ⟨spec, _⟩ := @selectVictim_spec none [] pending (by simp) (by simp)
  obtain ⟨item, here, loose, _⟩ := spec victim level chosen
  exact ⟨item, here, loose⟩

theorem selectVictim_none {pending : List NotificationItem} (chosen : selectVictim none 0 pending = none) :
    ∀ item ∈ pending, item.sticky = true := by
  obtain ⟨_, spec⟩ := @selectVictim_spec none [] pending (by simp) (by simp)
  exact spec chosen

theorem makeRoom_some {pending after : List NotificationItem} (room : pending.length < capacity)
    (made : makeRoom pending item = some after) :
    after.length + 1 < capacity ∧ after.Sublist pending ∧ ∀ old ∈ pending, old.sticky = true → old ∈ after := by
  unfold makeRoom at made
  split at made
  · rename_i few
    cases made
    exact ⟨by omega, List.Sublist.refl _, fun old member _ => member⟩
  · rename_i full
    split at made
    · cases made
    · rename_i victim level chosen
      split at made
      · cases made
      · cases made
        obtain ⟨gone, here, loose⟩ := selectVictim_some chosen
        obtain ⟨inside, found⟩ := List.getElem?_eq_some_iff.mp here
        refine ⟨?_, List.eraseIdx_sublist _ _, fun old member sticky => ?_⟩
        · rw [List.length_eraseIdx_of_lt inside]
          omega
        · rw [List.mem_eraseIdx_iff_getElem?]
          obtain ⟨i, at_i⟩ := List.mem_iff_getElem?.mp member
          refine ⟨i, fun same => ?_, at_i⟩
          rw [same, here] at at_i
          rw [Option.some.inj at_i, sticky] at loose
          cases loose

theorem makeRoom_none {pending : List NotificationItem} (critical : item.level = .critical)
    (refused : makeRoom pending item = none) :
    capacity - 1 ≤ pending.length ∧ ∀ old ∈ pending, old.sticky = true := by
  unfold makeRoom at refused
  split at refused
  · cases refused
  · rename_i full
    split at refused
    · rename_i chosen
      exact ⟨by omega, selectVictim_none chosen⟩
    · rename_i victim level chosen
      split at refused
      · rename_i higher
        rw [critical] at higher
        cases level <;> simp [NotificationLevel.rank] at higher
      · cases refused

end Held

section Steps

variable {q : Queue} {item : NotificationItem} {now : UInt32}

theorem held_activate : (q.activate item now).held = item :: q.pending := rfl

theorem held_active (active : q.active = true) : q.held = q.current :: q.pending := by
  simp [Queue.held, active]

theorem held_idle (idle : q.active = false) : q.held = q.pending := by
  simp [Queue.held, idle]

/-- What a post does: the item comes in, and of the others none that is sticky goes. -/
inductive Came (q : Queue) (item : NotificationItem) : Queue → Prop where
  | present (held : item.identity ∈ q.held.map NotificationItem.identity) : Came q item q
  | refused (active : q.active = true) (full : q.held.length = capacity) (sticky : ∀ old ∈ q.held, old.sticky = true) :
    Came q item q
  | dropped (loose : item.level ≠ .critical) : Came q item q
  | entered (next : Queue) (rest : List NotificationItem) (new : item.identity ∉ q.held.map NotificationItem.identity)
      (active : next.active = true) (room : next.pending.length < capacity) (kept : rest.Sublist q.held)
      (held : next.held.Perm (item :: rest)) (sticky : ∀ old ∈ q.held, old.sticky = true → old ∈ rest) :
      Came q item next

theorem any_sameItem {items : List NotificationItem} :
    items.any (sameItem · item) = true ↔ item.identity ∈ items.map NotificationItem.identity := by
  simp only [List.any_eq_true, sameItem_iff, List.mem_map]

theorem preempted_loose {current : NotificationItem} (policy : current.Policy)
    (higher : item.level.rank > current.level.rank) : current.sticky = false := by
  have loose : current.level ≠ .critical := by
    intro critical
    rw [critical] at higher
    cases level : item.level <;> simp [NotificationLevel.rank, level] at higher
  rw [Bool.eq_false_iff]
  exact fun sticky => loose ((sticky_iff policy).mp sticky)

theorem sticky_cons {shown : NotificationItem} {before after : List NotificationItem}
    (kept : ∀ old ∈ before, old.sticky = true → old ∈ after) :
    ∀ old ∈ shown :: before, old.sticky = true → old ∈ shown :: after := by
  intro old member sticky
  rcases List.mem_cons.mp member with front | waiting
  · rw [front]
    exact List.mem_cons_self
  · exact List.mem_cons_of_mem _ (kept old waiting sticky)

theorem came_enqueueFront (active : q.active = true) (room : q.pending.length < capacity)
    (new : item.identity ∉ q.held.map NotificationItem.identity) (loose : q.current.sticky = false) :
    Came q item ((q.enqueueFront q.current).activate item now) := by
  have held := held_active active
  unfold Queue.enqueueFront
  split
  · refine Came.entered _ q.pending new rfl room ?_ ?_ ?_
    · simp [held]
    · rw [held_activate]
    · intro old member sticky
      rw [held] at member
      rcases List.mem_cons.mp member with shown | waiting
      · rw [shown, loose] at sticky
        cases sticky
      · exact waiting
  · rename_i after made
    obtain ⟨fits, fewer, kept⟩ := makeRoom_some room made
    refine Came.entered _ (q.current :: after) new rfl ?_ ?_ ?_ ?_
    · show after.length + 1 < capacity
      exact fits
    · rw [held]
      exact fewer.cons_cons _
    · rw [held_activate]
    · rw [held]
      exact sticky_cons kept

theorem came_enqueue (active : q.active = true) (orderly : Orderly q)
    (new : item.identity ∉ q.held.map NotificationItem.identity)
    (shown : item.level = .critical → q.current.sticky = true) : Came q item (q.enqueue item) := by
  have held := held_active active
  unfold Queue.enqueue
  split
  · rename_i refused
    by_cases critical : item.level = .critical
    · obtain ⟨full, sticky⟩ := makeRoom_none critical refused
      have room := orderly.room
      apply Came.refused active
      · rw [held, List.length_cons]
        omega
      · rw [held]
        exact List.forall_mem_cons.mpr ⟨shown critical, sticky⟩
    · exact Came.dropped critical
  · rename_i after made
    obtain ⟨fits, fewer, kept⟩ := makeRoom_some orderly.room made
    have entering : ({ q with pending := after ++ [item] } : Queue).held = q.current :: (after ++ [item]) :=
      held_active active
    refine Came.entered _ (q.current :: after) new active ?_ ?_ ?_ ?_
    · simpa using fits
    · rw [held]
      exact fewer.cons_cons _
    · rw [entering, ← List.cons_append]
      exact List.perm_append_comm
    · rw [held]
      exact sticky_cons kept

theorem post_came (event : NotificationEvent) (text : Option (List UInt8)) (orderly : Orderly q) :
    Came q (itemOf event text) (q.post event text now) := by
  unfold Queue.post
  generalize itemOf event text = item
  simp only
  split_ifs with shown waiting idle higher
  · rw [Bool.and_eq_true, sameItem_iff] at shown
    apply Came.present
    rw [held_active shown.1]
    simp [shown.2]
  · apply Came.present
    obtain ⟨old, member, same⟩ := List.mem_map.mp (any_sameItem.mp waiting)
    exact List.mem_map.mpr ⟨old, List.mem_append_right _ member, same⟩
  · have absent : item.identity ∉ q.held.map NotificationItem.identity := by
      rw [held_idle idle]
      exact fun member => waiting (any_sameItem.mpr member)
    refine Came.entered _ q.held absent rfl orderly.room (List.Sublist.refl _) ?_ fun old member _ => member
    rw [held_activate, held_idle idle]
  all_goals
    have active : q.active = true := by simpa using idle
    have absent : item.identity ∉ q.held.map NotificationItem.identity := by
      rw [held_active active, List.map_cons, List.mem_cons, not_or]
      rw [active, Bool.true_and, sameItem_iff] at shown
      exact ⟨fun same => shown same.symm, fun member => waiting (any_sameItem.mpr member)⟩
    have policy := orderly.policy q.current (by simp [held_active active])
  · exact came_enqueueFront active orderly.room absent (preempted_loose policy higher)
  · apply came_enqueue active orderly absent
    intro critical
    rw [sticky_iff policy]
    rw [critical] at higher
    cases level : q.current.level <;> simp [NotificationLevel.rank, level] at higher
    rfl

theorem came_orderly {next : Queue} (orderly : Orderly q) (policy : item.Policy) (came : Came q item next) :
    Orderly next := by
  cases came with
  | present => exact orderly
  | refused => exact orderly
  | dropped => exact orderly
  | entered _ rest new active room kept held _ =>
    refine ⟨room, fun idle => ?_, ?_, fun old member => ?_⟩
    · rw [active] at idle
      cases idle
    · rw [(held.map _).nodup_iff, List.map_cons, List.nodup_cons]
      exact ⟨fun member => new ((kept.map _).subset member), orderly.distinct.sublist (kept.map _)⟩
    · rcases List.mem_cons.mp (held.subset member) with entered | stayed
      · rw [entered]
        exact policy
      · exact orderly.policy old (kept.subset stayed)

theorem advance_held (orderly : Orderly q) : (q.advance now).held = q.held.tail := by
  unfold Queue.advance
  cases waiting : q.pending with
  | nil =>
    cases active : q.active <;> simp [waiting, Queue.held, active]
  | cons next rest =>
    have active : q.active = true := by
      rw [← Bool.not_eq_false]
      intro idle
      rw [orderly.idle idle] at waiting
      cases waiting
    rw [held_active active, waiting]
    rfl

theorem advance_orderly (orderly : Orderly q) : Orderly (q.advance now) := by
  have held : (q.advance now).held.Sublist q.held := by
    rw [advance_held orderly]
    exact List.tail_sublist _
  have room := orderly.room
  refine ⟨?_, ?_, orderly.distinct.sublist (held.map _), fun item member => orderly.policy item (held.subset member)⟩
  · unfold Queue.advance
    split
    · exact room
    · rename_i next rest waiting
      rw [waiting, List.length_cons] at room
      show rest.length < capacity
      omega
  · unfold Queue.advance
    split
    · rename_i waiting
      exact fun _ => waiting
    · intro idle
      cases idle

theorem reset_orderly : Orderly .reset :=
  ⟨by decide, fun _ => rfl, List.nodup_nil, fun _ member => absurd member List.not_mem_nil⟩

theorem step_orderly (action : Action) (orderly : Orderly q) : Orderly (step q action) := by
  cases action with
  | post event text now => exact came_orderly orderly (itemOf_policy event text) (post_came event text orderly)
  | tick now =>
    show Orderly (q.tick now)
    unfold Queue.tick
    split_ifs
    · exact orderly
    · exact orderly
    · exact advance_orderly orderly
  | dismiss now => exact advance_orderly orderly
  | reset => exact reset_orderly

theorem run_orderly (actions : List Action) (orderly : Orderly q) : Orderly (run actions q) := by
  induction actions generalizing q with
  | nil => exact orderly
  | cons action rest ih => exact ih (step_orderly action orderly)

theorem run_append (before after : List Action) (q : Queue) : run (before ++ after) q = run after (run before q) :=
  List.foldl_append

end Steps

section Alerts

variable {q : Queue} {item : NotificationItem}

/-- The user takes the shown notification away, or all of them. -/
def Action.Clears : Action → Prop
  | .dismiss _ | .reset => True
  | .post _ _ _ | .tick _ => False

theorem came_held {next : Queue} {old : NotificationItem} (came : Came q item next) (member : old ∈ q.held)
    (sticky : old.sticky = true) : old ∈ next.held := by
  cases came with
  | present => exact member
  | refused => exact member
  | dropped => exact member
  | entered _ rest _ _ _ _ held kept =>
    exact held.symm.subset (List.mem_cons_of_mem _ (kept old member sticky))

theorem step_held {action : Action} (orderly : Orderly q) (stays : ¬ action.Clears) (member : item ∈ q.held)
    (sticky : item.sticky = true) : item ∈ (step q action).held := by
  cases action with
  | post event text now => exact came_held (post_came event text orderly) member sticky
  | tick now =>
    show item ∈ (q.tick now).held
    unfold Queue.tick
    split_ifs with rests early
    · exact member
    · exact member
    · simp only [not_or, Bool.not_eq_false, Bool.not_eq_true] at rests
      rw [advance_held orderly, held_active rests.1]
      rw [held_active rests.1] at member
      rcases List.mem_cons.mp member with shown | waiting
      · rw [shown, rests.2] at sticky
        cases sticky
      · exact waiting
  | dismiss now => exact absurd trivial stays
  | reset => exact absurd trivial stays

theorem run_held {actions : List Action} (orderly : Orderly q) (stays : ∀ action ∈ actions, ¬ action.Clears)
    (member : item ∈ q.held) (sticky : item.sticky = true) : item ∈ (run actions q).held := by
  induction actions generalizing q with
  | nil => exact member
  | cons action rest ih =>
    obtain ⟨first, later⟩ := List.forall_mem_cons.mp stays
    exact ih (step_orderly action orderly) later (step_held orderly first member sticky)

theorem came_critical {next : Queue} (orderly : Orderly q) (policy : item.Policy) (critical : item.level = .critical)
    (came : Came q item next) :
    item ∈ next.held ∨ (q.held.length = capacity ∧ ∀ old ∈ q.held, old.level = .critical) := by
  cases came with
  | present held =>
    obtain ⟨old, member, same⟩ := List.mem_map.mp held
    rw [← policy_ext (orderly.policy old member) policy same]
    exact Or.inl member
  | refused active full sticky =>
    exact Or.inr ⟨full, fun old member => (sticky_iff (orderly.policy old member)).mp (sticky old member)⟩
  | dropped loose => exact absurd critical loose
  | entered _ rest _ _ _ _ held _ => exact Or.inl (held.symm.subset List.mem_cons_self)

/-- What every sequence of posts, ticks and dismissals keeps. -/
theorem notifications_orderly (actions : List Action) : Orderly (run actions .reset) :=
  run_orderly actions reset_orderly

/-- A critical alert is held until the user clears it, unless four others were held when it came. -/
theorem alerts_kept (before after : List Action) (event : NotificationEvent) (text : Option (List UInt8)) (now : UInt32)
    (critical : (notificationPolicy event).level = .critical) (stays : ∀ action ∈ after, ¬ action.Clears) :
    itemOf event text ∈ (run (before ++ .post event text now :: after) .reset).held ∨
      ((run before .reset).held.length = 4 ∧ ∀ old ∈ (run before .reset).held, old.level = .critical) := by
  rw [run_append]
  have orderly := run_orderly before reset_orderly
  generalize run before .reset = q at orderly
  have came : Came q (itemOf event text) (q.post event text now) := post_came event text orderly
  rcases came_critical orderly (itemOf_policy event text) critical came with entered | full
  · have sticky := (sticky_iff (itemOf_policy event text)).mpr critical
    have posted := step_orderly (.post event text now) orderly
    have kept := run_held posted stays entered sticky
    exact Or.inl kept
  · exact Or.inr full

theorem alerts_kept_once :
    itemOf .lowBattery none ∈ (run ([] ++ .post .lowBattery none 5 :: [.post .mention none 6, .tick 9000])
      .reset).held ∨
      ((run [] .reset).held.length = 4 ∧ ∀ old ∈ (run [] .reset).held, old.level = .critical) :=
  alerts_kept [] [.post .mention none 6, .tick 9000] .lowBattery none 5 rfl (by simp [Action.Clears])

end Alerts

section Expiry

variable {q : Queue}

/-- Ticks that come at least the longest duration after one another, on the wrapping clock. -/
def Spaced (last : UInt32) : List UInt32 → Prop
  | [] => True
  | now :: rest => 6000 ≤ now - last ∧ Spaced now rest

theorem policy_calm {item : NotificationItem} (policy : item.Policy) (calm : item.level ≠ .critical) :
    item.sticky = false ∧ item.durationMs ≤ 6000 := by
  constructor
  · rw [Bool.eq_false_iff]
    exact fun sticky => calm ((sticky_iff policy).mp sticky)
  · rw [policy.1] at calm
    rw [policy.2.1]
    revert calm
    cases item.event <;> decide

theorem tick_idle (idle : q.active = false) (now : UInt32) : q.tick now = q := by
  simp [Queue.tick, idle]

theorem ticks_idle (idle : q.active = false) (times : List UInt32) : run (times.map .tick) q = q := by
  induction times with
  | nil => rfl
  | cons now rest ih =>
    have first : step q (.tick now) = q := tick_idle idle now
    rw [List.map_cons, run, List.foldl_cons, first]
    exact ih

theorem tick_calm {now : UInt32} (orderly : Orderly q) (active : q.active = true)
    (calm : q.current.level ≠ .critical) (late : 6000 ≤ now - q.startedMs) : q.tick now = q.advance now := by
  have shown : q.current ∈ q.held := by simp [held_active active]
  obtain ⟨loose, short⟩ := policy_calm (orderly.policy q.current shown) calm
  have lapsed : ¬ now - q.startedMs < q.current.durationMs := by
    rw [UInt32.not_lt]
    exact UInt32.le_trans short late
  simp [Queue.tick, active, loose, lapsed]

theorem ticks_drop {times : List UInt32} (orderly : Orderly q) (calm : ∀ item ∈ q.held, item.level ≠ .critical)
    (spaced : Spaced q.startedMs times) : (run (times.map .tick) q).held = q.held.drop times.length := by
  induction times generalizing q with
  | nil => rfl
  | cons now rest ih =>
    cases active : q.active with
    | false =>
      rw [ticks_idle active, held_idle active, orderly.idle active]
      rfl
    | true =>
      have first : step q (.tick now) = q.advance now :=
        tick_calm orderly active (calm q.current (by simp [held_active active])) spaced.1
      have held := @advance_held q now orderly
      rw [List.map_cons, run, List.foldl_cons, first, List.length_cons, ← List.drop_tail, ← held]
      cases waiting : q.pending with
      | nil =>
        have idle : (q.advance now).active = false := by simp [Queue.advance, waiting]
        have still := ticks_idle idle rest
        rw [run] at still
        rw [still, held_idle idle, (advance_orderly orderly).idle idle, List.drop_nil]
      | cons next others =>
        have started : (q.advance now).startedMs = now := by simp [Queue.advance, waiting, Queue.activate]
        apply ih (advance_orderly orderly)
        · rw [held]
          exact fun item member => calm item (List.mem_of_mem_tail member)
        · rw [started]
          exact spaced.2

/-- Where no alert is critical, the notifications go one by one in the order they wait in. -/
theorem notifications_expire (actions : List Action) (times : List UInt32)
    (calm : ∀ item ∈ (run actions .reset).held, item.level ≠ .critical)
    (spaced : Spaced (run actions .reset).startedMs times) :
    (run (actions ++ times.map .tick) .reset).held = (run actions .reset).held.drop times.length := by
  rw [run_append]
  exact ticks_drop (run_orderly actions reset_orderly) calm spaced

theorem notifications_expire_wrapped :
    (run ([.post .mention none 4294967000, .post .directMessage none 5] ++ [7000, 14000].map .tick) .reset).held =
      (run [.post .mention none 4294967000, .post .directMessage none 5] .reset).held.drop 2 :=
  notifications_expire [.post .mention none 4294967000, .post .directMessage none 5] [7000, 14000] (by decide)
    ⟨by decide, by decide, trivial⟩

end Expiry

end SigurdOS.Ui.NotificationQueue
