import Mathlib.Algebra.BigOperators.Group.Finset.Basic
import SigurdOS.Library.Runs
import SigurdOS.Ui.ChatRegistry

namespace SigurdOS.Ui

open Bytes Rebuild

def intMax : Nat := 2 ^ 31 - 1

def unreadCapacity : Nat := maxConversations

def unreadNameCapacity : Nat := 37

structure UnreadEntry where
  name : ConversationName
  count : Nat
  mention : Bool
  deriving DecidableEq

abbrev ChatUnreadStore := List UnreadEntry

namespace ChatUnreadStore

variable (store : ChatUnreadStore) (conversation : ConversationName)

def update (change : UnreadEntry → UnreadEntry) : ChatUnreadStore → ChatUnreadStore
  | [] => []
  | entry :: rest => if entry.name = conversation then change entry :: rest else entry :: update change rest

def has : Bool := store.any (·.name = conversation)

def findOrCreate : Option ChatUnreadStore :=
  if conversation = Conversation.noName then none
  else if has store conversation then some store
  else if unreadCapacity ≤ store.length ∨ unreadNameCapacity ≤ conversation.chars.length then none
  else some (store ++ [⟨conversation, 0, false⟩])

def bump (mention : Bool) (entry : UnreadEntry) : UnreadEntry :=
  { entry with
    count := if entry.count < intMax then entry.count + 1 else entry.count
    mention := entry.mention || mention }

def increment (mention : Bool) : Bool × ChatUnreadStore :=
  match findOrCreate store conversation with
  | none => (false, store)
  | some store => (true, update conversation (bump mention) store)

def reset (entry : UnreadEntry) : UnreadEntry := { entry with count := 0, mention := false }

def clear : ChatUnreadStore := update conversation reset store

def entryOf : Option UnreadEntry := store.find? (·.name = conversation)

def count : Nat := ((entryOf store conversation).map UnreadEntry.count).getD 0

def totalFrom : Nat → ChatUnreadStore → Nat
  | result, [] => result
  | result, entry :: rest => if entry.count > intMax - result then intMax else totalFrom (result + entry.count) rest

def total : Nat := totalFrom 0 store

def hasMentions : Bool := store.any fun entry => 0 < entry.count && entry.mention

end ChatUnreadStore

namespace ChatRegistry

variable (registry : ChatRegistry)

def names : List ConversationName := registry.conversations.map Conversation.name

def change (name : ConversationName) (info : Conversation → ChannelMeta × ChatMessageBuffer) : ChatRegistry where
  conversations := registry.conversations.map fun entry =>
    if entry.name = name then ⟨entry.name, (info entry).1, (info entry).2⟩ else entry
  active := registry.active
  room := by
    rw [List.length_map]
    exact registry.room
  distinct := by
    rw [List.map_map]
    convert registry.distinct using 2
    funext entry
    dsimp only [Function.comp_apply]
    split <;> rfl
  named := by
    intro entry member
    obtain ⟨source, listed, rfl⟩ := List.mem_map.mp member
    have named := registry.named source listed
    split
    · exact named
    · exact named

/-- The entry for a new name; nothing happens when it is there already, empty, or the registry is full. -/
def register (name : ConversationName) : ChatRegistry :=
  if new : name ∉ registry.names ∧ name ≠ Conversation.noName ∧ registry.conversations.length < maxConversations then
    { conversations := registry.conversations ++ [.fresh name]
      active := registry.active
      room := by
        rw [List.length_append, List.length_singleton]
        exact new.2.2
      distinct := by
        rw [List.map_append, List.nodup_append]
        refine ⟨registry.distinct, List.nodup_singleton _, ?_⟩
        rintro known listed other last rfl
        obtain rfl : known = name := List.mem_singleton.mp last
        exact new.1 listed
      named := by
        intro entry member
        rcases List.mem_append.mp member with old | last
        · exact registry.named entry old
        · obtain rfl := List.mem_singleton.mp last
          exact decide_eq_true new.2.1 }
  else registry

end ChatRegistry

/-- An incoming message that is not on screen, with what its text makes of the buffer and the preview. -/
structure Arrival where
  conversation : ConversationName
  named : conversation ≠ Conversation.noName
  mention : Bool
  appended : ChatMessageBuffer → ChatMessageBuffer
  preview : List UInt8
  timestamp : UInt32

structure ChatScreen where
  registry : ChatRegistry
  unread : ChatUnreadStore
  refusals : Nat

namespace ChatScreen

variable (screen : ChatScreen)

def addMsgAt (arrival : Arrival) : ChatScreen :=
  let registry := screen.registry.register arrival.conversation
  if arrival.conversation ∉ registry.names then screen
  else
    let (accepted, unread) := screen.unread.increment arrival.conversation arrival.mention
    { registry := registry.change arrival.conversation fun entry =>
        let buffer := arrival.appended entry.buffer
        let noted : ChannelMeta :=
          if buffer.isSome then { entry.channelMeta with preview := arrival.preview, timestamp := arrival.timestamp }
          else entry.channelMeta
        ({ noted with unread := unread.count arrival.conversation }, buffer)
      unread
      refusals := if accepted then screen.refusals else screen.refusals + 1 }

def openChannelMessaging (index : Nat) : ChatScreen :=
  match screen.registry.conversations[index]? with
  | none => screen
  | some entry =>
    { screen with
      registry :=
        { screen.registry.change entry.name fun entry => ({ entry.channelMeta with unread := 0 }, entry.buffer) with
          active := index }
      unread := screen.unread.clear entry.name }

def refresh (mesh : MeshChannels) : ChatScreen :=
  { screen with registry := (refreshChannels screen.unread.count mesh screen.registry).1 }

end ChatScreen

inductive ChatEvent where
  | arrives (arrival : Arrival)
  | opens (index : Nat)
  | refreshes (mesh : MeshChannels)

/-- The screen, with the unseen messages of each conversation since it was opened and whether one mentioned us. -/
structure ChatRun where
  screen : ChatScreen
  unseen : ConversationName → Nat
  mentioned : ConversationName → Bool

def ChatRun.step (run : ChatRun) : ChatEvent → ChatRun
  | .arrives arrival =>
    if arrival.conversation ∉ (run.screen.registry.register arrival.conversation).names then run
    else
      { screen := run.screen.addMsgAt arrival
        unseen := Function.update run.unseen arrival.conversation (run.unseen arrival.conversation + 1)
        mentioned := Function.update run.mentioned arrival.conversation
          (run.mentioned arrival.conversation || arrival.mention) }
  | .opens index =>
    match run.screen.registry.conversations[index]? with
    | none => run
    | some entry =>
      { screen := run.screen.openChannelMessaging index
        unseen := Function.update run.unseen entry.name 0
        mentioned := Function.update run.mentioned entry.name false }
  | .refreshes mesh => { run with screen := run.screen.refresh mesh }

def ChatRun.started : ChatRun := ⟨⟨emptyRegistry, [], 0⟩, fun _ => 0, fun _ => false⟩

structure UnreadExact (run : ChatRun) : Prop where
  counts : ∀ conversation ∈ run.screen.registry.names,
    run.screen.unread.count conversation = run.unseen conversation
  accepted : run.screen.refusals = 0
  total : run.screen.unread.total = min intMax ((run.screen.registry.names.map run.screen.unread.count).sum)
  mentions : run.screen.unread.hasMentions = true ↔
    ∃ conversation, 0 < run.unseen conversation ∧ run.mentioned conversation = true

/-- A noted message finds a slot or a free one for a name that fits, below the largest count; and no conversation with
unseen messages leaves the registry. -/
def UnreadSafe (run : ChatRun) : ChatEvent → Prop
  | .arrives arrival => arrival.conversation ∈ (run.screen.registry.register arrival.conversation).names →
      (run.screen.unread.has arrival.conversation = true ∨
        arrival.conversation.chars.length < unreadNameCapacity ∧ run.screen.unread.length < unreadCapacity) ∧
      run.unseen arrival.conversation < intMax
  | .opens _ => True
  | .refreshes mesh => ∀ conversation ∈ run.screen.registry.names, 0 < run.unseen conversation →
      conversation ∈ (expected mesh.channels.names run.screen.registry.conversations).map Conversation.name

namespace ChatUnreadStore

variable {store : ChatUnreadStore} {conversation other : ConversationName}

def mentionOf (store : ChatUnreadStore) (conversation : ConversationName) : Bool :=
  ((entryOf store conversation).map UnreadEntry.mention).getD false

def names (store : ChatUnreadStore) : List ConversationName := store.map UnreadEntry.name

theorem has_iff : has store conversation = true ↔ conversation ∈ names store := by
  simp [has, names]

theorem entryOf_update {change : UnreadEntry → UnreadEntry} (keeps : ∀ entry, (change entry).name = entry.name) :
    entryOf (update conversation change store) other =
      if other = conversation then (entryOf store conversation).map change else entryOf store other := by
  unfold entryOf
  induction store with
  | nil => simp [update]
  | cons entry rest ih =>
    unfold update
    by_cases here : entry.name = conversation
    · rw [if_pos here, List.find?_cons, List.find?_cons, List.find?_cons, keeps, here]
      by_cases same : other = conversation
      · simp [same]
      · simp [same, Ne.symm same]
    · rw [if_neg here, List.find?_cons, List.find?_cons, List.find?_cons, ih]
      by_cases same : other = conversation
      · simp [same, here]
      · simp only [same, if_false]

theorem names_update {change : UnreadEntry → UnreadEntry} (keeps : ∀ entry, (change entry).name = entry.name) :
    names (update conversation change store) = names store := by
  unfold names
  induction store with
  | nil => rfl
  | cons entry rest ih =>
    unfold update
    split
    · rw [List.map_cons, List.map_cons, keeps]
    · rw [List.map_cons, List.map_cons, ih]

theorem entryOf_none (absent : conversation ∉ names store) : entryOf store conversation = none := by
  rw [entryOf, List.find?_eq_none]
  intro entry member
  have apart : entry.name ≠ conversation := fun same => absent (same ▸ List.mem_map_of_mem member)
  simpa using apart

theorem entryOf_append (absent : conversation ∉ names store) :
    entryOf (store ++ [⟨conversation, 0, false⟩]) other =
      if other = conversation then some ⟨conversation, 0, false⟩ else entryOf store other := by
  have before := entryOf_none absent
  unfold entryOf at *
  rw [List.find?_append]
  by_cases same : other = conversation
  · subst same
    simp [before]
  · simp [same, Ne.symm same]

theorem findOrCreate_some (named : conversation ≠ Conversation.noName) (distinct : (names store).Nodup)
    (slot : has store conversation = true ∨
      conversation.chars.length < unreadNameCapacity ∧ store.length < unreadCapacity) :
    ∃ found, findOrCreate store conversation = some found ∧ (names found).Nodup ∧ conversation ∈ names found ∧
      ∀ other, count found other = count store other ∧ mentionOf found other = mentionOf store other := by
  unfold findOrCreate
  rw [if_neg named]
  by_cases known : has store conversation = true
  · rw [if_pos known]
    exact ⟨store, rfl, distinct, has_iff.mp known, fun _ => ⟨rfl, rfl⟩⟩
  · obtain ⟨short, space⟩ := slot.resolve_left known
    have absent : conversation ∉ names store := fun member => known (has_iff.mpr member)
    have appended : names (store ++ [⟨conversation, 0, false⟩]) = names store ++ [conversation] := List.map_append
    rw [if_neg known, if_neg (by omega)]
    refine ⟨_, rfl, ?_, ?_, ?_⟩
    · rw [appended, List.nodup_append]
      refine ⟨distinct, List.nodup_singleton _, ?_⟩
      rintro name listed other last rfl
      obtain rfl : name = conversation := List.mem_singleton.mp last
      exact absent listed
    · rw [appended]
      exact List.mem_append_right _ (List.mem_singleton_self _)
    · intro other
      unfold count mentionOf
      rw [entryOf_append absent]
      by_cases same : other = conversation
      · rw [if_pos same, same, entryOf_none absent]
        exact ⟨rfl, rfl⟩
      · rw [if_neg same]
        exact ⟨rfl, rfl⟩

structure Counted (store after : ChatUnreadStore) (conversation : ConversationName) (mention : Bool) : Prop where
  distinct : (names after).Nodup
  counts : count after = Function.update (count store) conversation
    (if count store conversation < intMax then count store conversation + 1 else count store conversation)
  mentions : mentionOf after = Function.update (mentionOf store) conversation (mentionOf store conversation || mention)

theorem increment_accepted (named : conversation ≠ Conversation.noName) (distinct : (names store).Nodup)
    (slot : has store conversation = true ∨
      conversation.chars.length < unreadNameCapacity ∧ store.length < unreadCapacity) (mention : Bool) :
    (increment store conversation mention).1 = true ∧
      Counted store (increment store conversation mention).2 conversation mention := by
  obtain ⟨found, same, apart, member, kept⟩ := findOrCreate_some named distinct slot
  have keeps : ∀ entry, (bump mention entry).name = entry.name := fun _ => rfl
  obtain ⟨entry, there⟩ : ∃ entry, entryOf found conversation = some entry := by
    rw [← Option.isSome_iff_exists, entryOf, List.find?_isSome]
    obtain ⟨entry, listed, named⟩ := List.mem_map.mp member
    exact ⟨entry, listed, by simpa using named⟩
  unfold increment
  rw [same]
  refine ⟨rfl, ⟨?_, ?_, ?_⟩⟩
  · exact (names_update keeps).symm ▸ apart
  · funext other
    rw [← (kept conversation).1]
    by_cases here : other = conversation
    · subst here
      rw [Function.update_self]
      simp [count, entryOf_update keeps, there, bump]
    · rw [Function.update_of_ne here, ← (kept other).1]
      simp [count, entryOf_update keeps, here]
  · funext other
    rw [← (kept conversation).2]
    by_cases here : other = conversation
    · subst here
      rw [Function.update_self]
      simp [mentionOf, entryOf_update keeps, there, bump]
    · rw [Function.update_of_ne here, ← (kept other).2]
      simp [mentionOf, entryOf_update keeps, here]

theorem clear_counts : count (clear store conversation) = Function.update (count store) conversation 0 := by
  have keeps : ∀ entry, (reset entry).name = entry.name := fun _ => rfl
  funext other
  unfold count clear
  rw [entryOf_update keeps]
  by_cases here : other = conversation
  · subst here
    rw [if_pos rfl, Function.update_self]
    cases entryOf store other <;> rfl
  · rw [if_neg here, Function.update_of_ne here]

theorem clear_mentions : mentionOf (clear store conversation) =
    Function.update (mentionOf store) conversation false := by
  have keeps : ∀ entry, (reset entry).name = entry.name := fun _ => rfl
  funext other
  unfold mentionOf clear
  rw [entryOf_update keeps]
  by_cases here : other = conversation
  · subst here
    rw [if_pos rfl, Function.update_self]
    cases entryOf store other <;> rfl
  · rw [if_neg here, Function.update_of_ne here]

theorem totalFrom_eq (result : Nat) (store : ChatUnreadStore) (bounded : result ≤ intMax) :
    totalFrom result store = min intMax (result + (store.map UnreadEntry.count).sum) := by
  induction store generalizing result with
  | nil =>
    rw [List.map_nil, List.sum_nil, Nat.add_zero]
    exact (Nat.min_eq_right bounded).symm
  | cons entry rest ih =>
    rw [totalFrom, List.map_cons, List.sum_cons]
    split
    · omega
    · rw [ih _ (by omega)]
      congr 1
      omega

theorem entryOf_of_mem {entry : UnreadEntry} (distinct : (names store).Nodup) (member : entry ∈ store) :
    entryOf store entry.name = some entry := by
  cases found : entryOf store entry.name with
  | none =>
    have absent := List.find?_eq_none.mp found entry member
    simp at absent
  | some other =>
    have same : other.name = entry.name := by simpa using List.find?_some found
    rw [List.inj_on_of_nodup_map distinct (List.mem_of_find?_eq_some found) member same]

theorem count_of_not_mem (absent : conversation ∉ names store) : count store conversation = 0 := by
  rw [count, entryOf_none absent]
  rfl

theorem sum_counts (distinct : (names store).Nodup) {registered : List ConversationName} (once : registered.Nodup)
    (covers : ∀ conversation, 0 < count store conversation → conversation ∈ registered) :
    (store.map UnreadEntry.count).sum = (registered.map (count store)).sum := by
  have slots : store.map UnreadEntry.count = (names store).map (count store) := by
    rw [names, List.map_map]
    apply List.map_congr_left
    intro entry member
    rw [Function.comp_apply, count, entryOf_of_mem distinct member]
    rfl
  rw [slots, ← List.sum_toFinset _ distinct, ← List.sum_toFinset _ once]
  apply Finset.sum_congr_of_eq_on_inter
  · intro conversation _ outside
    by_contra counted
    exact outside (List.mem_toFinset.mpr (covers conversation (Nat.pos_of_ne_zero counted)))
  · intro conversation _ outside
    exact count_of_not_mem (fun member => outside (List.mem_toFinset.mpr member))
  · intro _ _ _
    rfl

theorem hasMentions_iff (distinct : (names store).Nodup) : hasMentions store = true ↔
    ∃ conversation, 0 < count store conversation ∧ mentionOf store conversation = true := by
  unfold hasMentions
  rw [List.any_eq_true]
  constructor
  · rintro ⟨entry, member, both⟩
    refine ⟨entry.name, ?_⟩
    rw [count, mentionOf, entryOf_of_mem distinct member]
    simpa using both
  · rintro ⟨conversation, counted, mentioned⟩
    cases found : entryOf store conversation with
    | none => simp [count, found] at counted
    | some entry =>
      refine ⟨entry, List.mem_of_find?_eq_some found, ?_⟩
      simp only [count, mentionOf, found, Option.map_some, Option.getD_some] at counted mentioned
      simp [counted, mentioned]

end ChatUnreadStore

section Run

variable {run : ChatRun}

theorem ChatRegistry.names_change (registry : ChatRegistry) (name : ConversationName)
    (info : Conversation → ChannelMeta × ChatMessageBuffer) : (registry.change name info).names = registry.names := by
  unfold ChatRegistry.names ChatRegistry.change
  rw [List.map_map]
  apply List.map_congr_left
  intro entry _
  rw [Function.comp_apply]
  split <;> rfl

theorem ChatRegistry.mem_register (registry : ChatRegistry) {name known : ConversationName}
    (member : known ∈ registry.names) : known ∈ (registry.register name).names := by
  unfold ChatRegistry.register
  split
  · obtain ⟨entry, listed, same⟩ := List.mem_map.mp member
    exact List.mem_map.mpr ⟨entry, List.mem_append_left _ listed, same⟩
  · exact member

theorem names_refresh (screen : ChatScreen) (mesh : MeshChannels) : (screen.refresh mesh).registry.names =
    (expected mesh.channels.names screen.registry.conversations).map Conversation.name := by
  have entries := rebuilt_registry screen.unread.count mesh screen.registry
  change (rebuilt screen.unread.count mesh.channels.names screen.registry.conversations).1.map Conversation.name = _
  rw [entries, withUnread_names]

/-- The store counts every conversation, and only registered ones have something unseen. -/
structure UnreadTracks (run : ChatRun) : Prop where
  distinct : run.screen.unread.names.Nodup
  counts : run.screen.unread.count = run.unseen
  mentions : run.screen.unread.mentionOf = run.mentioned
  staying : ∀ conversation, 0 < run.unseen conversation → conversation ∈ run.screen.registry.names
  accepted : run.screen.refusals = 0

theorem UnreadTracks.started : UnreadTracks .started where
  distinct := .nil
  counts := rfl
  mentions := rfl
  staying := nofun
  accepted := rfl

theorem UnreadTracks.exact (tracks : UnreadTracks run) : UnreadExact run where
  counts conversation _ := congrFun tracks.counts conversation
  accepted := tracks.accepted
  total := by
    have covers : ∀ conversation, 0 < run.screen.unread.count conversation →
        conversation ∈ run.screen.registry.names := by
      rw [tracks.counts]
      exact tracks.staying
    have sum := ChatUnreadStore.sum_counts tracks.distinct run.screen.registry.distinct covers
    rw [ChatUnreadStore.total, ChatUnreadStore.totalFrom_eq 0 _ (Nat.zero_le _), Nat.zero_add, sum]
    rfl
  mentions := by
    rw [ChatUnreadStore.hasMentions_iff tracks.distinct, tracks.counts, tracks.mentions]

theorem UnreadTracks.arrives (tracks : UnreadTracks run) (arrival : Arrival)
    (safe : UnreadSafe run (.arrives arrival)) :
    UnreadTracks (run.step (.arrives arrival)) := by
  unfold ChatRun.step
  dsimp only
  split
  · exact tracks
  · next noted =>
    have registered := not_not.mp noted
    obtain ⟨slot, below⟩ := safe registered
    obtain ⟨accepted, counted⟩ :=
      ChatUnreadStore.increment_accepted arrival.named tracks.distinct slot arrival.mention
    unfold ChatScreen.addMsgAt
    dsimp only
    rw [if_neg noted, accepted]
    refine ⟨counted.distinct, ?_, ?_, ?_, tracks.accepted⟩
    · dsimp only
      rw [counted.counts, tracks.counts, if_pos below]
    · dsimp only
      rw [counted.mentions, tracks.mentions]
    · intro conversation unseen
      dsimp only at unseen ⊢
      rw [ChatRegistry.names_change]
      by_cases here : conversation = arrival.conversation
      · exact here ▸ registered
      · rw [Function.update_of_ne here] at unseen
        exact ChatRegistry.mem_register _ (tracks.staying conversation unseen)

theorem UnreadTracks.opens (tracks : UnreadTracks run) (index : Nat) : UnreadTracks (run.step (.opens index)) := by
  unfold ChatRun.step
  dsimp only
  cases there : run.screen.registry.conversations[index]? with
  | none => exact tracks
  | some entry =>
    have keeps : ∀ entry, (ChatUnreadStore.reset entry).name = entry.name := fun _ => rfl
    unfold ChatScreen.openChannelMessaging
    rw [there]
    refine ⟨?_, ?_, ?_, ?_, tracks.accepted⟩
    · exact (ChatUnreadStore.names_update keeps).symm ▸ tracks.distinct
    · rw [← tracks.counts]
      exact ChatUnreadStore.clear_counts
    · rw [← tracks.mentions]
      exact ChatUnreadStore.clear_mentions
    · intro conversation unseen
      dsimp only at unseen ⊢
      change conversation ∈ (run.screen.registry.change entry.name _).names
      rw [ChatRegistry.names_change]
      by_cases here : conversation = entry.name
      · rw [here, Function.update_self] at unseen
        exact absurd unseen (Nat.lt_irrefl 0)
      · rw [Function.update_of_ne here] at unseen
        exact tracks.staying conversation unseen

theorem UnreadTracks.refreshes (tracks : UnreadTracks run) (mesh : MeshChannels)
    (safe : UnreadSafe run (.refreshes mesh)) : UnreadTracks (run.step (.refreshes mesh)) where
  distinct := tracks.distinct
  counts := tracks.counts
  mentions := tracks.mentions
  staying conversation unseen := by
    have stays := safe conversation (tracks.staying conversation unseen) unseen
    rw [← names_refresh] at stays
    exact stays
  accepted := tracks.accepted

theorem UnreadTracks.step (tracks : UnreadTracks run) {event : ChatEvent} (safe : UnreadSafe run event) :
    UnreadTracks (run.step event) := by
  cases event with
  | arrives arrival => exact tracks.arrives arrival safe
  | opens index => exact tracks.opens index
  | refreshes mesh => exact tracks.refreshes mesh safe

/-- In every run whose steps are all safe the counters are exact in every state reached. -/
theorem unread_counters_exact (events : List ChatEvent) (safe : Runs.Along ChatRun.step UnreadSafe .started events) :
    ∀ before, before <+: events → UnreadExact (Runs.run ChatRun.step .started before) := by
  rintro before ⟨after, rfl⟩
  have early := (Runs.along_append.mp safe).1
  apply UnreadTracks.exact
  apply Runs.run_invariant_along UnreadTracks .started _ early
  intro run event tracks safe
  exact tracks.step safe

/-- A message of a contact under the name that the registry keeps for it. -/
def directArrival : Arrival where
  conversation := ⟨[0x44, 0x4D, 0x3A, 0x20] ++ List.replicate 64 0x61, by decide, by decide⟩
  named := by decide
  mention := false
  appended := id
  preview := []
  timestamp := 1

def channelArrival : Arrival where
  conversation := ⟨[0x23, 0x61], by decide, by decide⟩
  named := by decide
  mention := true
  appended := id
  preview := []
  timestamp := 1

theorem channelArrival_counted : UnreadExact (Runs.run ChatRun.step .started [.arrives channelArrival, .opens 0]) := by
  apply unread_counters_exact [.arrives channelArrival, .opens 0] _ _ List.prefix_rfl
  refine ⟨fun _ => ⟨Or.inr ⟨by decide, by decide⟩, by decide⟩, trivial, trivial⟩

/-- The first message of any contact is not counted. -/
theorem directArrival_notCounted : ¬ UnreadExact (Runs.run ChatRun.step .started [.arrives directArrival]) := by
  intro exact
  have none := exact.accepted
  revert none
  decide

end Run

end SigurdOS.Ui
