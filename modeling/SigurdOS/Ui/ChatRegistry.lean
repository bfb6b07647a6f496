import Mathlib.Data.List.Nodup
import Mathlib.Data.List.Perm.Basic
import SigurdOS.Bytes.Fields

namespace SigurdOS.Ui

open Bytes

def maxConversations : Nat := 24

def maxMeshChannels : Nat := 8

def channelNameCap : Nat := 4 + 65

/-- A row of the registry: "DM: " and a whole contact identifier fit. -/
abbrev ConversationName := CString (channelNameCap - 1)

instance : LawfulBEq ConversationName := inferInstance

structure ChannelMessage where
  sender : List UInt8
  text : List UInt8
  timestamp : UInt32
  storeId : UInt32
  isSelf : Bool
  acked : Bool
  confirmationLost : Bool
  deriving DecidableEq

structure MessageArray where
  address : Nat
  capacity : UInt16
  messages : List ChannelMessage
  deriving DecidableEq

abbrev ChatMessageBuffer := Option MessageArray

structure ChannelMeta where
  preview : List UInt8
  timestamp : UInt32
  unread : Nat
  deriving DecidableEq

def ChannelMeta.zeroed : ChannelMeta := ⟨[], 0, 0⟩

/-- The three arrays of the registry side by side. An empty name marks a copy as consumed. -/
structure Conversation where
  name : ConversationName
  channelMeta : ChannelMeta
  buffer : ChatMessageBuffer
  deriving DecidableEq

namespace Conversation

def noName : ConversationName := ⟨[], Nat.zero_le _, noChars_nonzero⟩

def fresh (name : ConversationName) : Conversation := ⟨name, .zeroed, none⟩

def consumed (conversation : Conversation) : Conversation := { conversation with name := noName, buffer := none }

def isNamed (conversation : Conversation) : Bool := conversation.name ≠ noName

def isDm (conversation : Conversation) : Bool := conversation.name.chars.take 3 = [0x44, 0x4D, 0x3A]

def withUnread (unreadCount : ConversationName → Nat) (conversation : Conversation) : Conversation :=
  { conversation with channelMeta := { conversation.channelMeta with unread := unreadCount conversation.name } }

end Conversation

structure ExportedChannels where
  names : List ConversationName
  room : names.length ≤ maxMeshChannels
  distinct : names.Nodup
  named : Conversation.noName ∉ names

/-- What the mesh answers: an export, whether it joins the public channel, and the export after that. -/
structure MeshChannels where
  exported : ExportedChannels
  joined : Bool
  exportedAfter : ExportedChannels

def placeholder : ExportedChannels where
  names := [⟨[0x23, 0x67, 0x65, 0x6E, 0x65, 0x72, 0x61, 0x6C], by decide, by decide⟩]
  room := by decide
  distinct := List.nodup_singleton _
  named := by decide

def MeshChannels.channels (mesh : MeshChannels) : ExportedChannels :=
  if mesh.exported.names ≠ [] then mesh.exported
  else if mesh.joined ∧ mesh.exportedAfter.names ≠ [] then mesh.exportedAfter
  else placeholder

structure ChatRegistry where
  conversations : List Conversation
  active : Int
  room : conversations.length ≤ maxConversations
  distinct : (conversations.map Conversation.name).Nodup
  named : ∀ conversation ∈ conversations, conversation.isNamed = true

namespace Rebuild

/-- The inner loop: the first old conversation with the name is taken over and marked as consumed. -/
def claim (name : ConversationName) : List Conversation → Option Conversation × List Conversation
  | [] => (none, [])
  | old :: rest =>
    if old.isNamed ∧ old.name = name then (some old, old.consumed :: rest)
    else ((claim name rest).1, old :: (claim name rest).2)

/-- One new entry for each name; its own buffer has been taken before, so that there is nothing to free. -/
def remap : List ConversationName → List Conversation → List Conversation × List Conversation
  | [], old => ([], old)
  | name :: names, old =>
    let entry := (claim name old).1.getD (.fresh name)
    (entry :: (remap names (claim name old).2).1, (remap names (claim name old).2).2)

/-- The loop over the old conversations: the new ones, what is left of the old ones, and the arrays freed. -/
def restoreDms (conversations : List Conversation) :
    List Conversation → List Conversation × List Conversation × List MessageArray
  | [] => (conversations, [], [])
  | old :: rest =>
    if old.isNamed = false ∨ old.isDm = false then
      let result := restoreDms conversations rest
      (result.1, old :: result.2.1, result.2.2)
    else if maxConversations ≤ conversations.length then
      let result := restoreDms conversations rest
      (result.1, { old with buffer := none } :: result.2.1, old.buffer.toList ++ result.2.2)
    else
      let result := restoreDms (conversations ++ [old]) rest
      (result.1, { old with buffer := none } :: result.2.1, result.2.2)

def findActive (activeName : ConversationName) (conversations : List Conversation) : Int :=
  if activeName = Conversation.noName then 0
  else
    match conversations.findIdx? (·.name = activeName) with
    | none => 0
    | some index => index

def activeName (registry : ChatRegistry) : ConversationName :=
  if 0 ≤ registry.active then
    (registry.conversations[registry.active.toNat]?.map Conversation.name).getD Conversation.noName
  else Conversation.noName

def rebuilt (unreadCount : ConversationName → Nat) (names : List ConversationName) (old : List Conversation) :
    List Conversation × List MessageArray :=
  let (conversations, left) := remap names old
  let (conversations, left, freed) := restoreDms conversations left
  (conversations.map (Conversation.withUnread unreadCount), freed ++ left.filterMap Conversation.buffer)

section Lists

variable {name : ConversationName} {names : List ConversationName} {old conversations : List Conversation}

def remaining (old : List Conversation) : List Conversation := old.filter Conversation.isNamed

theorem claim_fst (name : ConversationName) (old : List Conversation) :
    (claim name old).1 = (remaining old).find? (·.name = name) := by
  induction old with
  | nil => rfl
  | cons first rest ih =>
    unfold claim remaining
    by_cases named : first.isNamed
    · rw [List.filter_cons_of_pos named]
      by_cases same : first.name = name
      · rw [if_pos ⟨named, same⟩, List.find?_cons_of_pos (by simpa using same)]
      · rw [if_neg (fun both => same both.2), List.find?_cons_of_neg (by simpa using same)]
        exact ih
    · rw [List.filter_cons_of_neg named, if_neg (fun both => named both.1)]
      exact ih

theorem claim_remaining (name : ConversationName) (distinct : ((remaining old).map Conversation.name).Nodup) :
    remaining (claim name old).2 = (remaining old).filter (·.name ≠ name) := by
  induction old with
  | nil => rfl
  | cons first rest ih =>
    unfold claim
    by_cases named : first.isNamed
    · have split : remaining (first :: rest) = first :: remaining rest := List.filter_cons_of_pos named
      rw [split, List.map_cons, List.nodup_cons] at distinct
      by_cases same : first.name = name
      · have others : (remaining rest).filter (·.name ≠ name) = remaining rest := by
          rw [List.filter_eq_self]
          intro other member
          have apart : other.name ≠ name := by
            rintro rfl
            exact distinct.1 (same ▸ List.mem_map_of_mem member)
          simpa using apart
        rw [if_pos ⟨named, same⟩, split, List.filter_cons_of_neg (by simpa using same), others]
        exact List.filter_cons_of_neg (p := Conversation.isNamed) (a := first.consumed) nofun
      · rw [if_neg (fun both => same both.2), split, List.filter_cons_of_pos (by simpa using same), ← ih distinct.2]
        exact List.filter_cons_of_pos named
    · have split : remaining (first :: rest) = remaining rest := List.filter_cons_of_neg named
      rw [split] at distinct
      rw [if_neg (fun both => named both.1), split, ← ih distinct]
      exact List.filter_cons_of_neg named

def keptOrFresh (old : List Conversation) (name : ConversationName) : Conversation :=
  (old.find? (·.name = name)).getD (.fresh name)

theorem remap_fst (distinct : ((remaining old).map Conversation.name).Nodup) (once : names.Nodup) :
    (remap names old).1 = names.map (keptOrFresh (remaining old)) := by
  induction names generalizing old with
  | nil => rfl
  | cons name names ih =>
    have left := claim_remaining name distinct
    have still : ((remaining (claim name old).2).map Conversation.name).Nodup := by
      rw [left]
      exact distinct.sublist (List.filter_sublist.map _)
    have later := ih still (List.nodup_cons.mp once).2
    unfold remap
    dsimp only
    rw [later, left, claim_fst, List.map_cons]
    congr 1
    apply List.map_congr_left
    intro other member
    have apart : other ≠ name := fun same => (List.nodup_cons.mp once).1 (same ▸ member)
    unfold keptOrFresh
    rw [List.find?_filter]
    congr 2
    funext conversation
    by_cases same : conversation.name = other
    · simp [same, apart]
    · simp [same]

theorem remap_remaining (distinct : ((remaining old).map Conversation.name).Nodup) :
    remaining (remap names old).2 = (remaining old).filter (·.name ∉ names) := by
  induction names generalizing old with
  | nil => simp [remap]
  | cons name names ih =>
    have left := claim_remaining name distinct
    have still : ((remaining (claim name old).2).map Conversation.name).Nodup := by
      rw [left]
      exact distinct.sublist (List.filter_sublist.map _)
    have later := ih still
    unfold remap
    dsimp only
    rw [later, left, List.filter_filter]
    apply List.filter_congr
    intro conversation _
    simp [not_or, Bool.and_comm]

theorem restoreDms_fst (old conversations : List Conversation) :
    (restoreDms conversations old).1 =
      conversations ++ ((remaining old).filter Conversation.isDm).take (maxConversations - conversations.length) := by
  induction old generalizing conversations with
  | nil => simp [restoreDms, remaining]
  | cons first rest ih =>
    unfold restoreDms
    by_cases skipped : first.isNamed = false ∨ first.isDm = false
    · have same : (remaining (first :: rest)).filter Conversation.isDm = (remaining rest).filter Conversation.isDm := by
        unfold remaining
        rw [List.filter_filter, List.filter_filter, List.filter_cons_of_neg]
        rcases skipped with unnamed | channel
        · simp [unnamed]
        · simp [channel]
      rw [if_pos skipped, same]
      exact ih conversations
    · have both : first.isNamed = true ∧ first.isDm = true := by simpa using skipped
      have split : (remaining (first :: rest)).filter Conversation.isDm =
          first :: (remaining rest).filter Conversation.isDm := by
        unfold remaining
        rw [List.filter_cons_of_pos both.1, List.filter_cons_of_pos both.2]
      rw [if_neg skipped, split]
      split
      · next full =>
        have none : maxConversations - conversations.length = 0 := by omega
        rw [ih, none]
        rfl
      · next space =>
        have more : maxConversations - conversations.length =
            maxConversations - (conversations ++ [first]).length + 1 := by
          rw [List.length_append, List.length_singleton]
          omega
        rw [ih, more, List.take_succ_cons, List.append_assoc]
        rfl

section Custody

def owned (conversations : List Conversation) : List MessageArray := conversations.filterMap Conversation.buffer

theorem owned_cons (first : Conversation) (rest : List Conversation) :
    owned (first :: rest) = first.buffer.toList ++ owned rest := by
  cases first with
  | mk name info buffer => cases buffer <;> rfl

theorem owned_append (first second : List Conversation) : owned (first ++ second) = owned first ++ owned second :=
  List.filterMap_append

theorem claim_owned (name : ConversationName) (old : List Conversation) :
    (owned (claim name old).1.toList ++ owned (claim name old).2).Perm (owned old) := by
  induction old with
  | nil => exact .nil
  | cons first rest ih =>
    unfold claim
    split
    · rw [Option.toList_some, owned_cons, owned_cons, owned_cons]
      simp [owned, Conversation.consumed]
    · rw [owned_cons, owned_cons]
      exact (List.perm_append_comm_assoc ..).trans (ih.append_left _)

theorem remap_owned (names : List ConversationName) (old : List Conversation) :
    (owned (remap names old).1 ++ owned (remap names old).2).Perm (owned old) := by
  induction names generalizing old with
  | nil => exact .refl _
  | cons name names ih =>
    have claimed := claim_owned name old
    have entry : ((claim name old).1.getD (.fresh name)).buffer.toList = owned (claim name old).1.toList := by
      cases (claim name old).1 with
      | none => rfl
      | some found => cases found with | mk name info buffer => cases buffer <;> rfl
    unfold remap
    dsimp only
    rw [owned_cons, entry, List.append_assoc]
    exact ((ih _).append_left _).trans claimed

theorem restoreDms_owned (old conversations : List Conversation) :
    (owned (restoreDms conversations old).1 ++ ((restoreDms conversations old).2.2 ++
      owned (restoreDms conversations old).2.1)).Perm (owned conversations ++ owned old) := by
  induction old generalizing conversations with
  | nil => simp [restoreDms, owned]
  | cons first rest ih =>
    have emptied : ({ first with buffer := none } : Conversation).buffer.toList = [] := rfl
    have alone : owned [first] = first.buffer.toList := by
      rw [owned_cons]
      exact List.append_nil _
    simp only [List.perm_iff_count, List.count_append] at ih ⊢
    intro array
    unfold restoreDms
    split
    · have rest := ih conversations array
      simp only [owned_cons, List.count_append]
      omega
    · split
      · have rest := ih conversations array
        simp only [owned_cons, emptied, List.count_append, List.nil_append]
        omega
      · have rest := ih (conversations ++ [first]) array
        rw [owned_append, alone, List.count_append] at rest
        simp only [owned_cons, emptied, List.count_append, List.nil_append]
        omega

end Custody

/-- The names in their order, then the old direct conversations that are not among them, as far as there is room. -/
def expected (names : List ConversationName) (old : List Conversation) : List Conversation :=
  names.map (keptOrFresh old) ++
    (old.filter fun conversation => conversation.isDm ∧ conversation.name ∉ names).take
      (maxConversations - names.length)

theorem remaining_of_named (named : ∀ conversation ∈ old, conversation.isNamed = true) : remaining old = old :=
  List.filter_eq_self.mpr named

theorem rebuilt_fst (unreadCount : ConversationName → Nat) (distinct : (old.map Conversation.name).Nodup)
    (named : ∀ conversation ∈ old, conversation.isNamed = true) (once : names.Nodup) :
    (rebuilt unreadCount names old).1 = (expected names old).map (Conversation.withUnread unreadCount) := by
  have whole := remaining_of_named named
  have apart : ((remaining old).map Conversation.name).Nodup := by rwa [whole]
  unfold rebuilt expected
  dsimp only
  rw [restoreDms_fst, remap_fst apart once, remap_remaining apart, whole, List.filter_filter, List.length_map]
  congr 4
  funext conversation
  simp

theorem owned_withUnread (unreadCount : ConversationName → Nat) (conversations : List Conversation) :
    owned (conversations.map (Conversation.withUnread unreadCount)) = owned conversations := by
  unfold owned
  rw [List.filterMap_map]
  rfl

theorem rebuilt_owned (unreadCount : ConversationName → Nat) (names : List ConversationName) (old : List Conversation) :
    (owned (rebuilt unreadCount names old).1 ++ (rebuilt unreadCount names old).2).Perm (owned old) := by
  have moved := remap_owned names old
  have restored := restoreDms_owned (remap names old).2 (remap names old).1
  unfold rebuilt
  dsimp only
  rw [owned_withUnread]
  exact restored.trans moved

theorem keptOrFresh_name (old : List Conversation) (name : ConversationName) : (keptOrFresh old name).name = name := by
  unfold keptOrFresh
  cases found : old.find? (·.name = name) with
  | none => rfl
  | some conversation => simpa using List.find?_some found

theorem expected_names (names : List ConversationName) (old : List Conversation) :
    (expected names old).map Conversation.name = names ++
      ((old.filter fun conversation => conversation.isDm ∧ conversation.name ∉ names).map Conversation.name).take
        (maxConversations - names.length) := by
  have same : Conversation.name ∘ keptOrFresh old = id := by
    funext name
    exact keptOrFresh_name old name
  unfold expected
  rw [List.map_append, List.map_map, same, List.map_id, List.map_take]

theorem expected_distinct (once : names.Nodup) (distinct : (old.map Conversation.name).Nodup) :
    ((expected names old).map Conversation.name).Nodup := by
  rw [expected_names, List.nodup_append]
  refine ⟨once, ?_, ?_⟩
  · exact (distinct.sublist (List.filter_sublist.map _)).sublist (List.take_sublist ..)
  · rintro name listed other taken rfl
    obtain ⟨conversation, member, rfl⟩ := List.mem_map.mp (List.mem_of_mem_take taken)
    have apart := (List.mem_filter.mp member).2
    simp [listed] at apart

theorem expected_room (room : names.length ≤ maxMeshChannels) : (expected names old).length ≤ maxConversations := by
  have fits : maxMeshChannels ≤ maxConversations := by decide
  unfold expected
  rw [List.length_append, List.length_map, List.length_take]
  omega

theorem expected_named (present : Conversation.noName ∉ names)
    (named : ∀ conversation ∈ old, conversation.isNamed = true) :
    ∀ conversation ∈ expected names old, conversation.isNamed = true := by
  intro conversation member
  rcases List.mem_append.mp member with exported | direct
  · obtain ⟨name, listed, rfl⟩ := List.mem_map.mp exported
    have apart : name ≠ Conversation.noName := fun same => present (same ▸ listed)
    simpa [Conversation.isNamed, keptOrFresh_name] using apart
  · exact named conversation (List.mem_of_mem_filter (List.mem_of_mem_take direct))

theorem expected_source (distinct : (old.map Conversation.name).Nodup) {entry source : Conversation}
    (listed : entry ∈ expected names old) (member : source ∈ old) (same : entry.name = source.name) :
    entry = source := by
  rcases List.mem_append.mp listed with exported | direct
  · obtain ⟨name, -, rfl⟩ := List.mem_map.mp exported
    rw [keptOrFresh_name] at same
    unfold keptOrFresh
    cases found : old.find? (·.name = name) with
    | none =>
      have absent := List.find?_eq_none.mp found source member
      simp [same] at absent
    | some conversation =>
      have named : conversation.name = name := by simpa using List.find?_some found
      exact List.inj_on_of_nodup_map distinct (List.mem_of_find?_eq_some found) member (named.trans same)
  · exact List.inj_on_of_nodup_map distinct (List.mem_of_mem_filter (List.mem_of_mem_take direct)) member same

theorem expected_new {entry : Conversation} (listed : entry ∈ expected names old)
    (new : entry.name ∉ old.map Conversation.name) : entry = .fresh entry.name := by
  rcases List.mem_append.mp listed with exported | direct
  · obtain ⟨name, -, rfl⟩ := List.mem_map.mp exported
    rw [keptOrFresh_name] at new ⊢
    have missing : old.find? (·.name = name) = none := by
      rw [List.find?_eq_none]
      intro conversation member
      have apart : conversation.name ≠ name := fun same => new (same ▸ List.mem_map_of_mem member)
      simpa using apart
    rw [keptOrFresh, missing]
    rfl
  · exact absurd (List.mem_map_of_mem (List.mem_of_mem_filter (List.mem_of_mem_take direct))) new

theorem findActive_of_mem {activeName : ConversationName} (named : activeName ≠ Conversation.noName)
    (survives : activeName ∈ conversations.map Conversation.name) :
    ∃ index : Nat, findActive activeName conversations = index ∧
      conversations[index]?.map Conversation.name = some activeName := by
  obtain ⟨conversation, member, same⟩ := List.mem_map.mp survives
  unfold findActive
  rw [if_neg named]
  cases found : conversations.findIdx? (·.name = activeName) with
  | none =>
    have absent := List.findIdx?_eq_none_iff.mp found conversation member
    simp [same] at absent
  | some index =>
    obtain ⟨inside, agrees, -⟩ := List.findIdx?_eq_some_iff_getElem.mp found
    refine ⟨index, rfl, ?_⟩
    rw [List.getElem?_eq_getElem inside]
    simpa using agrees

theorem findActive_of_not_mem {activeName : ConversationName}
    (gone : activeName ∉ conversations.map Conversation.name) : findActive activeName conversations = 0 := by
  unfold findActive
  split
  · rfl
  · cases found : conversations.findIdx? (·.name = activeName) with
    | none => rfl
    | some index =>
      obtain ⟨inside, agrees, -⟩ := List.findIdx?_eq_some_iff_getElem.mp found
      refine absurd (List.mem_map.mpr ⟨_, List.getElem_mem inside, ?_⟩) gone
      simpa using agrees

theorem withUnread_names (unreadCount : ConversationName → Nat) (conversations : List Conversation) :
    (conversations.map (Conversation.withUnread unreadCount)).map Conversation.name =
      conversations.map Conversation.name := by
  rw [List.map_map]
  rfl

end Lists

end Rebuild

open Rebuild

variable (unreadCount : ConversationName → Nat) (mesh : MeshChannels) (registry : ChatRegistry)

theorem rebuilt_registry : (rebuilt unreadCount mesh.channels.names registry.conversations).1 =
    (expected mesh.channels.names registry.conversations).map (Conversation.withUnread unreadCount) :=
  rebuilt_fst unreadCount registry.distinct registry.named mesh.channels.distinct

theorem rebuilt_room :
    (rebuilt unreadCount mesh.channels.names registry.conversations).1.length ≤ maxConversations := by
  rw [rebuilt_registry, List.length_map]
  exact expected_room mesh.channels.room

theorem rebuilt_distinct :
    ((rebuilt unreadCount mesh.channels.names registry.conversations).1.map Conversation.name).Nodup := by
  rw [rebuilt_registry, withUnread_names]
  exact expected_distinct mesh.channels.distinct registry.distinct

theorem rebuilt_named : ∀ conversation ∈ (rebuilt unreadCount mesh.channels.names registry.conversations).1,
    conversation.isNamed = true := by
  intro conversation member
  rw [rebuilt_registry] at member
  obtain ⟨entry, listed, rfl⟩ := List.mem_map.mp member
  exact expected_named mesh.channels.named registry.named entry listed

/-- The new registry and the arrays that were freed. The unread counts are those of the names. -/
def refreshChannels : ChatRegistry × List MessageArray :=
  ({ conversations := (rebuilt unreadCount mesh.channels.names registry.conversations).1
     active := findActive (activeName registry) (rebuilt unreadCount mesh.channels.names registry.conversations).1
     room := rebuilt_room unreadCount mesh registry
     distinct := rebuilt_distinct unreadCount mesh registry
     named := rebuilt_named unreadCount mesh registry },
    (rebuilt unreadCount mesh.channels.names registry.conversations).2)

/-- What a rebuild keeps. The unread count of an entry is that of its name, whatever it was before. -/
structure RebuildPreserves (names : List ConversationName) (before after : ChatRegistry) (freed : List MessageArray) :
    Prop where
  order : after.conversations.map Conversation.name = names ++
    ((before.conversations.filter fun old => old.isDm ∧ old.name ∉ names).map Conversation.name).take
      (maxConversations - names.length)
  kept : ∀ old ∈ before.conversations, ∀ entry ∈ after.conversations, entry.name = old.name →
    entry = old.withUnread unreadCount
  fresh : ∀ entry ∈ after.conversations, entry.name ∉ before.conversations.map Conversation.name →
    entry = (Conversation.fresh entry.name).withUnread unreadCount
  freed_once : (owned after.conversations ++ freed).Perm (owned before.conversations)
  survived : activeName before ∈ after.conversations.map Conversation.name → activeName after = activeName before
  lost : activeName before ∉ after.conversations.map Conversation.name → after.active = 0

theorem refresh_channels_preserves :
    RebuildPreserves unreadCount mesh.channels.names registry (refreshChannels unreadCount mesh registry).1
      (refreshChannels unreadCount mesh registry).2 := by
  have entries := rebuilt_registry unreadCount mesh registry
  have originOf {entry : Conversation} (listed : entry ∈ (refreshChannels unreadCount mesh registry).1.conversations) :
      ∃ source ∈ expected mesh.channels.names registry.conversations, entry = source.withUnread unreadCount := by
    change entry ∈ (rebuilt unreadCount mesh.channels.names registry.conversations).1 at listed
    rw [entries] at listed
    obtain ⟨source, member, same⟩ := List.mem_map.mp listed
    exact ⟨source, member, same.symm⟩
  refine ⟨?order, ?kept, ?fresh, rebuilt_owned unreadCount _ _, ?survived, ?lost⟩
  case order =>
    change (rebuilt unreadCount mesh.channels.names registry.conversations).1.map Conversation.name = _
    rw [entries, withUnread_names, expected_names]
  case kept =>
    intro old member entry listed same
    obtain ⟨source, from_, rfl⟩ := originOf listed
    rw [expected_source registry.distinct from_ member same]
  case fresh =>
    intro entry listed new
    obtain ⟨source, from_, rfl⟩ := originOf listed
    rw [expected_new from_ new]
    rfl
  case survived =>
    intro survives
    have named : activeName registry ≠ Conversation.noName := by
      intro none
      obtain ⟨entry, listed, same⟩ := List.mem_map.mp survives
      have present := (refreshChannels unreadCount mesh registry).1.named entry listed
      simp [Conversation.isNamed, same, none] at present
    obtain ⟨index, found, there⟩ := findActive_of_mem named survives
    have active : (refreshChannels unreadCount mesh registry).1.active = index := found
    unfold activeName
    rw [active, if_pos (Int.natCast_nonneg index), Int.toNat_natCast, there]
    rfl
  case lost => exact findActive_of_not_mem

def emptyRegistry : ChatRegistry := ⟨[], 0, Nat.zero_le _, .nil, nofun⟩

/-- A channel that had left with three unread messages comes back: its entry is not a new one. -/
theorem returningChannel_unread : ¬ ∀ (unreadCount : ConversationName → Nat) (mesh : MeshChannels)
    (registry : ChatRegistry), ∀ entry ∈ (refreshChannels unreadCount mesh registry).1.conversations,
      entry.name ∉ registry.conversations.map Conversation.name → entry = .fresh entry.name := by
  intro empty
  have zero := empty (fun _ => 3) ⟨placeholder, false, placeholder⟩ emptyRegistry
  revert zero
  decide

end SigurdOS.Ui
