import Mathlib.Data.List.FinRange
import Mathlib.Data.Set.Card
import SigurdOS.Library.Runs

/-! The routing scopes of the conversations, each in a slot of its own. -/

namespace SigurdOS.Hal.ChatScopes

open Runs

section Store

structure ChatScopePreference where
  conversation : List UInt8
  scopeName : List UInt8
  scopeKey : List UInt8
  deriving DecidableEq

def maxChatScopes : Nat := 32
def conversationSize : Nat := 38
def scopeNameSize : Nat := 31
def scopeKeySize : Nat := 16
def preferenceSize : Nat := 85

/-- The keys `s00` to `s31` of the namespace; any of them may hold any blob. -/
abbrev Slots := Fin maxChatScopes → Option (List UInt8)

def cString (field : List UInt8) : List UInt8 := field.takeWhile (· ≠ 0)

def padded (size : Nat) (text : List UInt8) : List UInt8 := text ++ List.replicate (size - text.length) 0

def ChatScopePreference.blob (preference : ChatScopePreference) : List UInt8 :=
  preference.conversation ++ preference.scopeName ++ preference.scopeKey

def readScope (slot : Option (List UInt8)) : Option ChatScopePreference :=
  match slot with
  | none => none
  | some blob =>
    if blob.length = preferenceSize then
      some ⟨blob.take conversationSize, (blob.drop conversationSize).take scopeNameSize,
        blob.drop (conversationSize + scopeNameSize)⟩
    else none

def chatScopePreferenceValid (candidate : ChatScopePreference) : Bool :=
  candidate.conversation.headD 0 != 0 && candidate.scopeName.headD 0 != 0 &&
    candidate.conversation.contains 0 && candidate.scopeName.contains 0 && candidate.scopeKey.any (· != 0)

def loadChatScopePreferences (slots : Slots) (max : Nat) : List ChatScopePreference :=
  ((List.finRange maxChatScopes).filterMap fun slot =>
    (readScope (slots slot)).filter chatScopePreferenceValid).take max

def saveSlot (slots : Slots) (conversation : List UInt8) :
    List (Fin maxChatScopes) → Option (Fin maxChatScopes) → Option (Fin maxChatScopes)
  | [], slot => slot
  | i :: rest, slot =>
    match readScope (slots i) with
    | none => saveSlot slots conversation rest (slot.or (some i))
    | some existing =>
      if chatScopePreferenceValid existing = false then saveSlot slots conversation rest (slot.or (some i))
      else if cString existing.conversation = conversation then some i
      else saveSlot slots conversation rest slot

def saveChatScopePreference (slots : Slots) (conversation scopeName scopeKey : List UInt8) : Bool × Slots :=
  if conversation = [] ∨ scopeName = [] then (false, slots)
  else if conversation.length ≥ conversationSize ∨ scopeName.length ≥ scopeNameSize then (false, slots)
  else
    let replacement : ChatScopePreference :=
      ⟨padded conversationSize conversation, padded scopeNameSize scopeName, scopeKey⟩
    if chatScopePreferenceValid replacement = false then (false, slots)
    else
      match saveSlot slots conversation (List.finRange maxChatScopes) none with
      | none => (false, slots)
      | some slot => (true, Function.update slots slot (some replacement.blob))

/-- Whether the removal takes the slot for the conversation's; it does not ask whether the rest is valid. -/
def removes (conversation : List UInt8) (slot : Option (List UInt8)) : Bool :=
  match readScope slot with
  | none => false
  | some existing => existing.conversation.contains 0 && cString existing.conversation == conversation

def removeChatScopePreference (slots : Slots) (conversation : List UInt8) : Bool × Slots :=
  if conversation = [] then (false, slots)
  else
    match (List.finRange maxChatScopes).find? fun slot => removes conversation (slots slot) with
    | none => (false, slots)
    | some slot => (true, Function.update slots slot none)

end Store

section Claims

abbrev Name := { text : List UInt8 // text ≠ [] ∧ 0 ∉ text }

structure Scope where
  name : List UInt8
  key : List UInt8
  deriving DecidableEq

abbrev GivenScope :=
  { scope : Scope // scope.name ≠ [] ∧ scope.name.length ≤ 30 ∧ 0 ∉ scope.name ∧ scope.key.length = scopeKeySize ∧
      ∃ byte ∈ scope.key, byte ≠ 0 }

inductive ScopeOp where
  | save (conversation : Name) (scope : GivenScope)
  | remove (conversation : Name)

def perform (slots : Slots) : ScopeOp → Bool × Slots
  | .save conversation scope => saveChatScopePreference slots conversation.val scope.val.name scope.val.key
  | .remove conversation => removeChatScopePreference slots conversation.val

def scopeStep (slots : Slots) (op : ScopeOp) : Slots := (perform slots op).2

def ChatScopePreference.scope (preference : ChatScopePreference) : Scope :=
  ⟨cString preference.scopeName, preference.scopeKey⟩

/-- The map that a load of all the slots represents. -/
def scopeMap (slots : Slots) (conversation : List UInt8) : Option Scope :=
  ((loadChatScopePreferences slots maxChatScopes).find? fun preference =>
    cString preference.conversation == conversation).map ChatScopePreference.scope

abbrev FiniteMap := List UInt8 → Option Scope

def FiniteMap.Full (map : FiniteMap) : Prop := {conversation | map conversation ≠ none}.ncard = 32

open Classical in
noncomputable def mapStep (map : FiniteMap) : ScopeOp → FiniteMap
  | .save conversation scope =>
    if map conversation.val = none ∧ map.Full then map else Function.update map conversation.val (some scope.val)
  | .remove conversation => Function.update map conversation.val none

/-- Whether a slot in front of the conversation's own has its name without being valid. -/
def Shadowed (slots : Slots) (conversation : List UInt8) : Prop :=
  ∃ front own : Fin maxChatScopes, front < own ∧ removes conversation (slots front) = true ∧
    (readScope (slots front)).any chatScopePreferenceValid = false ∧
      removes conversation (slots own) = true ∧ (readScope (slots own)).any chatScopePreferenceValid = true

/-- The name has room in its field, or no slot shadows the one to be removed. -/
def Fits (slots : Slots) : ScopeOp → Prop
  | .save conversation _ => conversation.val.length < conversationSize
  | .remove conversation => ¬Shadowed slots conversation.val

def owner (slot : Option (List UInt8)) : Option (List UInt8) :=
  ((readScope slot).filter chatScopePreferenceValid).map fun preference => cString preference.conversation

def OneEach (slots : Slots) : Prop :=
  ∀ i j name, owner (slots i) = some name → owner (slots j) = some name → i = j

structure StepHolds (slots : Slots) (op : ScopeOp) : Prop where
  map : scopeMap (scopeStep slots op) = mapStep (scopeMap slots) op
  saved : ∀ conversation scope, op = .save conversation scope → (perform slots op).1 = false →
    scopeMap slots conversation.val = none ∧ FiniteMap.Full (scopeMap slots)
  removed : ∀ conversation, op = .remove conversation → (perform slots op).1 = true →
    scopeMap (scopeStep slots op) conversation.val = none
  failed : (perform slots op).1 = false → scopeStep slots op = slots

structure ScopesHold (start : FiniteMap) (ops : List ScopeOp) (slots : Slots) : Prop where
  loaded : ∀ max, ((loadChatScopePreferences slots max).map fun preference => cString preference.conversation).Nodup
  map : scopeMap slots = run mapStep start ops
  steps : ∀ op, Fits slots op → StepHolds slots op

end Claims

section Entries

variable {slots : Slots} {conversation : List UInt8}

def entry (slot : Option (List UInt8)) : Option ChatScopePreference :=
  (readScope slot).filter chatScopePreferenceValid

theorem owner_some {slot : Option (List UInt8)} {name : List UInt8} :
    owner slot = some name ↔ ∃ preference, entry slot = some preference ∧ cString preference.conversation = name :=
  Option.map_eq_some_iff

theorem owner_none {slot : Option (List UInt8)} : owner slot = none ↔ entry slot = none := Option.map_eq_none_iff

theorem load_all (slots : Slots) : loadChatScopePreferences slots maxChatScopes =
    (List.finRange maxChatScopes).filterMap fun slot => entry (slots slot) := by
  apply List.take_of_length_le
  exact Nat.le_trans (List.length_filterMap_le _ _) (Nat.le_of_eq List.length_finRange)

def names (slots : Slots) : List (List UInt8) := (List.finRange maxChatScopes).filterMap fun slot => owner (slots slot)

theorem load_names (slots : Slots) :
    (loadChatScopePreferences slots maxChatScopes).map (fun preference => cString preference.conversation) =
      names slots := by
  rw [load_all, List.map_filterMap]
  rfl

theorem names_nodup (oneEach : OneEach slots) : (names slots).Nodup :=
  (List.nodup_finRange maxChatScopes).filterMap fun i j name member member' => oneEach i j name member member'

theorem load_nodup (oneEach : OneEach slots) (max : Nat) :
    ((loadChatScopePreferences slots max).map fun preference => cString preference.conversation).Nodup := by
  have all := names_nodup oneEach
  rw [← load_names] at all
  refine all.sublist (List.Sublist.map _ ?_)
  rw [load_all]
  exact List.take_sublist max _

theorem scopeMap_some (oneEach : OneEach slots) {name : List UInt8} {scope : Scope} :
    scopeMap slots name = some scope ↔
      ∃ i preference, entry (slots i) = some preference ∧ cString preference.conversation = name ∧
        preference.scope = scope := by
  unfold scopeMap
  rw [load_all, Option.map_eq_some_iff]
  constructor
  · rintro ⟨preference, found, same⟩
    obtain ⟨i, _, read⟩ := List.mem_filterMap.mp (List.mem_of_find?_eq_some found)
    have named := List.find?_some found
    exact ⟨i, preference, read, beq_iff_eq.mp named, same⟩
  · rintro ⟨i, preference, read, named, same⟩
    cases found : ((List.finRange maxChatScopes).filterMap fun slot => entry (slots slot)).find? fun preference =>
        cString preference.conversation == name with
    | none =>
      have member : preference ∈ (List.finRange maxChatScopes).filterMap fun slot => entry (slots slot) :=
        List.mem_filterMap.mpr ⟨i, List.mem_finRange i, read⟩
      exact absurd (beq_iff_eq.mpr named) (List.find?_eq_none.mp found preference member)
    | some first =>
      obtain ⟨j, _, readFirst⟩ := List.mem_filterMap.mp (List.mem_of_find?_eq_some found)
      have namedFirst := List.find?_some found
      obtain rfl := oneEach i j name (owner_some.mpr ⟨preference, read, named⟩)
        (owner_some.mpr ⟨first, readFirst, beq_iff_eq.mp namedFirst⟩)
      rw [read] at readFirst
      exact ⟨first, rfl, by rw [← Option.some.inj readFirst]; exact same⟩

theorem scopeMap_none (oneEach : OneEach slots) {name : List UInt8} :
    scopeMap slots name = none ↔ ∀ i, owner (slots i) ≠ some name := by
  constructor
  · intro absent i owned
    obtain ⟨preference, read, named⟩ := owner_some.mp owned
    have found := (scopeMap_some oneEach).mpr ⟨i, preference, read, named, rfl⟩
    rw [absent] at found
    cases found
  · intro unowned
    by_contra present
    obtain ⟨scope, found⟩ := Option.ne_none_iff_exists'.mp present
    obtain ⟨i, preference, read, named, _⟩ := (scopeMap_some oneEach).mp found
    exact unowned i (owner_some.mpr ⟨preference, read, named⟩)

theorem scopeMap_full (oneEach : OneEach slots) :
    FiniteMap.Full (scopeMap slots) ↔ ∀ i, owner (slots i) ≠ none := by
  have stored : {name | scopeMap slots name ≠ none} = ((names slots).toFinset : Set (List UInt8)) := by
    ext name
    simp only [Set.mem_ofPred_eq, List.coe_toFinset, ne_eq, scopeMap_none oneEach, not_forall, not_not]
    constructor
    · rintro ⟨i, owned⟩
      exact List.mem_filterMap.mpr ⟨i, List.mem_finRange i, owned⟩
    · intro member
      obtain ⟨i, _, owned⟩ := List.mem_filterMap.mp member
      exact ⟨i, owned⟩
  have count := List.filterMap_length_eq_length (l := List.finRange maxChatScopes) (f := fun slot => owner (slots slot))
  rw [List.length_finRange] at count
  unfold FiniteMap.Full
  rw [stored, Set.ncard_coe_finset, List.toFinset_card_of_nodup (names_nodup oneEach)]
  change (names slots).length = maxChatScopes ↔ _
  rw [names, count]
  constructor
  · intro all i
    exact Option.isSome_iff_ne_none.mp (all i (List.mem_finRange i))
  · intro all i _
    exact Option.isSome_iff_ne_none.mpr (all i)

end Entries

section Update

variable {slots : Slots} {i : Fin maxChatScopes} {conversation : List UInt8}

def Takes (slots : Slots) (conversation : List UInt8) (i : Fin maxChatScopes) : Prop :=
  owner (slots i) = some conversation ∨ (owner (slots i) = none ∧ ∀ j, owner (slots j) ≠ some conversation)

theorem Takes.others (oneEach : OneEach slots) (takes : Takes slots conversation i) {j : Fin maxChatScopes}
    (apart : j ≠ i) : owner (slots j) ≠ some conversation := by
  rcases takes with own | ⟨_, unowned⟩
  · exact fun owned => apart (oneEach j i conversation owned own)
  · exact unowned j

theorem update_oneEach (oneEach : OneEach slots) (takes : Takes slots conversation i) {blob : Option (List UInt8)}
    (owned : owner blob = some conversation ∨ owner blob = none) : OneEach (Function.update slots i blob) := by
  have here : ∀ name, owner blob = some name → name = conversation := by
    intro name named
    rcases owned with same | none
    · exact Option.some.inj (named.symm.trans same)
    · rw [none] at named
      cases named
  intro one other name nameOne nameOther
  by_cases first : one = i <;> by_cases second : other = i
  · rw [first, second]
  · subst first
    rw [Function.update_self] at nameOne
    rw [Function.update_of_ne second, here name nameOne] at nameOther
    exact absurd nameOther (takes.others oneEach second)
  · subst second
    rw [Function.update_self] at nameOther
    rw [Function.update_of_ne first, here name nameOther] at nameOne
    exact absurd nameOne (takes.others oneEach first)
  · rw [Function.update_of_ne first] at nameOne
    rw [Function.update_of_ne second] at nameOther
    exact oneEach one other name nameOne nameOther

theorem update_map (oneEach : OneEach slots) (takes : Takes slots conversation i) {blob : Option (List UInt8)}
    (owned : owner blob = some conversation ∨ owner blob = none) :
    scopeMap (Function.update slots i blob) =
      Function.update (scopeMap slots) conversation ((entry blob).map ChatScopePreference.scope) := by
  have oneEach' := update_oneEach oneEach takes owned
  funext name
  ext scope
  rw [scopeMap_some oneEach']
  by_cases same : name = conversation
  · subst same
    rw [Function.update_self, Option.map_eq_some_iff]
    constructor
    · rintro ⟨j, preference, read, named, given⟩
      by_cases here : j = i
      · subst here
        rw [Function.update_self] at read
        exact ⟨preference, read, given⟩
      · rw [Function.update_of_ne here] at read
        exact absurd (owner_some.mpr ⟨preference, read, named⟩) (takes.others oneEach here)
    · rintro ⟨preference, read, given⟩
      refine ⟨i, preference, by rw [Function.update_self]; exact read, ?_, given⟩
      rcases owned with own | none
      · obtain ⟨other, readOther, named⟩ := owner_some.mp own
        rw [read] at readOther
        rw [Option.some.inj readOther]
        exact named
      · rw [owner_none, read] at none
        cases none
  · rw [Function.update_of_ne same, scopeMap_some oneEach]
    constructor
    · rintro ⟨j, preference, read, named, given⟩
      by_cases here : j = i
      · subst here
        rw [Function.update_self] at read
        have own := owner_some.mpr ⟨preference, read, named⟩
        rcases owned with other | none
        · exact absurd (Option.some.inj (own.symm.trans other)) same
        · rw [none] at own
          cases own
      · rw [Function.update_of_ne here] at read
        exact ⟨j, preference, read, named, given⟩
    · rintro ⟨j, preference, read, named, given⟩
      have apart : j ≠ i := by
        rintro rfl
        have own := owner_some.mpr ⟨preference, read, named⟩
        rcases takes with mine | ⟨none, _⟩
        · exact same (Option.some.inj (own.symm.trans mine))
        · rw [none] at own
          cases own
      exact ⟨j, preference, by rw [Function.update_of_ne apart]; exact read, named, given⟩

end Update

section Replacement

variable {text : List UInt8} {size : Nat}

theorem padded_length (short : text.length < size) : (padded size text).length = size := by
  simp [padded]
  omega

theorem cString_padded (plain : 0 ∉ text) (short : text.length < size) : cString (padded size text) = text := by
  have stop : (List.replicate (size - text.length) (0 : UInt8)).takeWhile (· ≠ 0) = [] := by
    obtain ⟨more, same⟩ := Nat.exists_eq_add_of_lt short
    have one : size - text.length = more + 1 := by omega
    rw [one, List.replicate_succ]
    rfl
  unfold cString padded
  rw [List.takeWhile_append_of_pos, stop, List.append_nil]
  intro byte member
  exact decide_eq_true fun zero => plain (zero ▸ member)

theorem padded_headD (some : text ≠ []) (plain : 0 ∉ text) : ((padded size text).headD 0 != 0) = true := by
  cases text with
  | nil => exact absurd rfl some
  | cons byte rest =>
    apply bne_iff_ne.mpr
    rintro rfl
    exact plain List.mem_cons_self

theorem padded_contains (short : text.length < size) : (padded size text).contains 0 = true := by
  apply List.contains_iff_mem.mpr
  apply List.mem_append_right
  exact List.mem_replicate.mpr ⟨Nat.sub_ne_zero_of_lt short, rfl⟩

def replacement (conversation : Name) (scope : GivenScope) : ChatScopePreference :=
  ⟨padded conversationSize conversation.val, padded scopeNameSize scope.val.name, scope.val.key⟩

variable {conversation : Name} {scope : GivenScope}

theorem name_short (scope : GivenScope) : scope.val.name.length < scopeNameSize := Nat.lt_succ_of_le scope.property.2.1

theorem replacement_valid (short : conversation.val.length < conversationSize) :
    chatScopePreferenceValid (replacement conversation scope) = true := by
  obtain ⟨named, _, plain, _, byte, member, nonzero⟩ := scope.property
  unfold chatScopePreferenceValid replacement
  simp only [padded_headD conversation.property.1 conversation.property.2, padded_headD named plain,
    padded_contains short, padded_contains (name_short scope), Bool.true_and, List.any_eq_true]
  exact ⟨byte, member, bne_iff_ne.mpr nonzero⟩

theorem replacement_read (short : conversation.val.length < conversationSize) :
    readScope (some (replacement conversation scope).blob) = some (replacement conversation scope) := by
  have first := padded_length short
  have second := padded_length (name_short scope)
  have third := scope.property.2.2.2.1
  have whole : conversationSize + (scopeNameSize + scopeKeySize) = preferenceSize := rfl
  unfold readScope replacement ChatScopePreference.blob
  simp only [List.length_append, first, second, third, List.append_assoc]
  rw [if_pos whole, List.take_left' first, List.drop_left' first, List.take_left' second, ← List.drop_drop,
    List.drop_left' first, List.drop_left' second]

theorem replacement_entry (short : conversation.val.length < conversationSize) :
    entry (some (replacement conversation scope).blob) = some (replacement conversation scope) := by
  unfold entry
  rw [replacement_read short, Option.filter_some, if_pos (replacement_valid short)]

theorem replacement_owner (scope : GivenScope) (short : conversation.val.length < conversationSize) :
    owner (some (replacement conversation scope).blob) = some conversation.val :=
  owner_some.mpr ⟨_, replacement_entry short, cString_padded conversation.property.2 short⟩

theorem replacement_scope : (replacement conversation scope).scope = scope.val := by
  unfold ChatScopePreference.scope replacement
  rw [cString_padded scope.property.2.2.1 (name_short scope)]

end Replacement

section Save

variable {slots : Slots}

theorem saveSlot_eq (slots : Slots) (conversation : List UInt8) (order : List (Fin maxChatScopes))
    (slot : Option (Fin maxChatScopes)) : saveSlot slots conversation order slot =
      (order.find? fun i => owner (slots i) = some conversation).or
        (slot.or (order.find? fun i => owner (slots i) = none)) := by
  induction order generalizing slot with
  | nil => simp [saveSlot]
  | cons i rest ih =>
    unfold saveSlot
    cases read : readScope (slots i) with
    | none =>
      have unowned : owner (slots i) = none := by rw [owner, read]; rfl
      simp [ih, unowned]
    | some existing =>
      by_cases valid : chatScopePreferenceValid existing = true
      · have owned : owner (slots i) = some (cString existing.conversation) := by
          rw [owner, read, Option.filter_some, if_pos valid, Option.map_some]
        by_cases named : cString existing.conversation = conversation
        · simp [valid, owned, named]
        · simp [ih, valid, owned, named]
      · have unowned : owner (slots i) = none := by
          rw [owner, read, Option.filter_some, if_neg valid, Option.map_none]
        simp [ih, valid, unowned]

theorem saveSlot_some {conversation : List UInt8} {i : Fin maxChatScopes}
    (found : saveSlot slots conversation (List.finRange maxChatScopes) none = some i) : Takes slots conversation i := by
  rw [saveSlot_eq, Option.none_or] at found
  cases own : (List.finRange maxChatScopes).find? fun i => owner (slots i) = some conversation with
  | some j =>
    rw [own, Option.some_or] at found
    have owned := List.find?_some own
    obtain rfl := Option.some.inj found
    exact Or.inl (of_decide_eq_true owned)
  | none =>
    rw [own, Option.none_or] at found
    have unowned := List.find?_some found
    have nobody := List.find?_eq_none.mp own
    exact Or.inr ⟨of_decide_eq_true unowned, fun j owned => nobody j (List.mem_finRange j) (decide_eq_true owned)⟩

theorem saveSlot_none {conversation : List UInt8}
    (full : saveSlot slots conversation (List.finRange maxChatScopes) none = none) (i : Fin maxChatScopes) :
    owner (slots i) ≠ some conversation ∧ owner (slots i) ≠ none := by
  rw [saveSlot_eq, Option.none_or, Option.or_eq_none_iff] at full
  have nobody := List.find?_eq_none.mp full.1 i (List.mem_finRange i)
  have nothing := List.find?_eq_none.mp full.2 i (List.mem_finRange i)
  exact ⟨fun owned => nobody (decide_eq_true owned), fun unowned => nothing (decide_eq_true unowned)⟩

theorem save_eq {conversation : Name} {scope : GivenScope} (short : conversation.val.length < conversationSize) :
    saveChatScopePreference slots conversation.val scope.val.name scope.val.key =
      match saveSlot slots conversation.val (List.finRange maxChatScopes) none with
      | none => (false, slots)
      | some slot => (true, Function.update slots slot (some (replacement conversation scope).blob)) := by
  have given : ¬(conversation.val = [] ∨ scope.val.name = []) := by
    rintro (empty | empty)
    · exact conversation.property.1 empty
    · exact scope.property.1 empty
  have room : ¬(conversation.val.length ≥ conversationSize ∨ scope.val.name.length ≥ scopeNameSize) := by
    have named := name_short scope
    omega
  unfold saveChatScopePreference
  rw [if_neg given, if_neg room]
  exact if_neg (by rw [← replacement, replacement_valid short]; decide)

end Save

section Remove

variable {slots : Slots} {conversation : List UInt8}

theorem owner_iff {slot : Option (List UInt8)} : owner slot = some conversation ↔
    removes conversation slot = true ∧ (readScope slot).any chatScopePreferenceValid = true := by
  unfold owner removes
  cases readScope slot with
  | none => simp
  | some existing =>
    rw [Option.any_some, Option.filter_some]
    constructor
    · intro owned
      by_cases valid : chatScopePreferenceValid existing = true
      · rw [if_pos valid, Option.map_some, Option.some_inj] at owned
        have ended : existing.conversation.contains 0 = true := by
          simp only [chatScopePreferenceValid, Bool.and_eq_true] at valid
          exact valid.1.1.2
        exact ⟨Bool.and_eq_true_iff.mpr ⟨ended, beq_iff_eq.mpr owned⟩, valid⟩
      · rw [if_neg valid] at owned
        cases owned
    · rintro ⟨named, valid⟩
      rw [if_pos valid, Option.map_some]
      exact congrArg some (beq_iff_eq.mp (Bool.and_eq_true_iff.mp named).2)

theorem remove_none (nobody : (List.finRange maxChatScopes).find? (fun slot => removes conversation (slots slot)) =
    none)
    (i : Fin maxChatScopes) : owner (slots i) ≠ some conversation := by
  intro owned
  exact List.find?_eq_none.mp nobody i (List.mem_finRange i) (owner_iff.mp owned).1

theorem remove_some {i : Fin maxChatScopes} (clear : ¬Shadowed slots conversation)
    (found : (List.finRange maxChatScopes).find? (fun slot => removes conversation (slots slot)) = some i) :
    Takes slots conversation i := by
  obtain ⟨named, position, inside, here, before⟩ := List.find?_eq_some_iff_getElem.mp found
  by_cases valid : (readScope (slots i)).any chatScopePreferenceValid = true
  · exact Or.inl (owner_iff.mpr ⟨named, valid⟩)
  · have unowned : owner (slots i) = none := by
      by_contra present
      obtain ⟨name, owned⟩ := Option.ne_none_iff_exists'.mp present
      exact valid (owner_iff.mp owned).2
    refine Or.inr ⟨unowned, fun j owned => ?_⟩
    obtain ⟨match', valid'⟩ := owner_iff.mp owned
    rcases lt_trichotomy i j with later | same | earlier
    · exact clear ⟨i, j, later, named, Bool.eq_false_iff.mpr valid, match', valid'⟩
    · rw [same] at unowned
      rw [unowned] at owned
      cases owned
    · have at' : i.val = position := by rw [← here, List.getElem_finRange]; rfl
      have missed := before j.val (at' ▸ earlier)
      rw [List.getElem_finRange] at missed
      exact absurd match' (by simpa using missed)

end Remove

section Steps

variable {slots : Slots} {op : ScopeOp}

theorem save_holds {conversation : Name} {scope : GivenScope} (oneEach : OneEach slots)
    (short : conversation.val.length < conversationSize) :
    OneEach (scopeStep slots (.save conversation scope)) ∧ StepHolds slots (.save conversation scope) := by
  have result : perform slots (.save conversation scope) = _ := save_eq short
  cases found : saveSlot slots conversation.val (List.finRange maxChatScopes) none with
  | none =>
    rw [found] at result
    have refused := saveSlot_none found
    have absent := (scopeMap_none oneEach).mpr fun i => (refused i).1
    have full := (scopeMap_full oneEach).mpr fun i => (refused i).2
    have same : scopeStep slots (.save conversation scope) = slots := congrArg Prod.snd result
    refine ⟨same.symm ▸ oneEach, ?_, ?_, nofun, fun _ => same⟩
    · rw [same, mapStep, if_pos ⟨absent, full⟩]
    · rintro _ _ ⟨⟩ _
      exact ⟨absent, full⟩
  | some i =>
    rw [found] at result
    have takes := saveSlot_some found
    have owned := replacement_owner scope short
    have room : ¬(scopeMap slots conversation.val = none ∧ FiniteMap.Full (scopeMap slots)) := by
      rintro ⟨absent, full⟩
      rcases takes with own | ⟨unowned, _⟩
      · exact (scopeMap_none oneEach).mp absent i own
      · exact (scopeMap_full oneEach).mp full i unowned
    have after : scopeStep slots (.save conversation scope) = _ := congrArg Prod.snd result
    have succeeded : (perform slots (.save conversation scope)).1 = true := congrArg Prod.fst result
    refine ⟨?_, ?_, ?_, nofun, ?_⟩
    · rw [after]
      exact update_oneEach oneEach takes (Or.inl owned)
    · rw [after, update_map oneEach takes (Or.inl owned), mapStep, if_neg room, replacement_entry short,
        Option.map_some, replacement_scope]
    · rintro _ _ ⟨⟩ failed
      rw [succeeded] at failed
      cases failed
    · intro failed
      rw [succeeded] at failed
      cases failed

theorem remove_holds {conversation : Name} (oneEach : OneEach slots) (clear : ¬Shadowed slots conversation.val) :
    OneEach (scopeStep slots (.remove conversation)) ∧ StepHolds slots (.remove conversation) := by
  have result : perform slots (.remove conversation) = _ := if_neg conversation.property.1
  cases found : (List.finRange maxChatScopes).find? fun slot => removes conversation.val (slots slot) with
  | none =>
    rw [found] at result
    have absent := (scopeMap_none oneEach).mpr (remove_none found)
    have same : scopeStep slots (.remove conversation) = slots := congrArg Prod.snd result
    refine ⟨same.symm ▸ oneEach, ?_, nofun, ?_, fun _ => same⟩
    · rw [same, mapStep, ← absent, Function.update_eq_self]
    · rintro _ ⟨⟩ removed
      rw [same]
      exact absent
  | some i =>
    rw [found] at result
    have takes := remove_some clear found
    have after : scopeStep slots (.remove conversation) = _ := congrArg Prod.snd result
    have succeeded : (perform slots (.remove conversation)).1 = true := congrArg Prod.fst result
    have gone : scopeMap (scopeStep slots (.remove conversation)) =
        Function.update (scopeMap slots) conversation.val none := by
      rw [after]
      exact update_map oneEach takes (Or.inr rfl)
    refine ⟨?_, gone, nofun, ?_, ?_⟩
    · rw [after]
      exact update_oneEach oneEach takes (Or.inr rfl)
    · rintro _ ⟨⟩ removed
      rw [gone, Function.update_self]
    · intro failed
      rw [succeeded] at failed
      cases failed

theorem scopeStep_holds (oneEach : OneEach slots) (fits : Fits slots op) :
    OneEach (scopeStep slots op) ∧ StepHolds slots op := by
  cases op with
  | save conversation scope => exact save_holds oneEach fits
  | remove conversation => exact remove_holds oneEach fits

/-- Slots with one valid entry each stay so, and represent the map with the same operations done. -/
theorem scopes_hold (slots : Slots) (oneEach : OneEach slots) (ops : List ScopeOp)
    (fits : Along scopeStep Fits slots ops) : ScopesHold (scopeMap slots) ops (run scopeStep slots ops) := by
  induction ops generalizing slots with
  | nil => exact ⟨load_nodup oneEach, rfl, fun op fit => (scopeStep_holds oneEach fit).2⟩
  | cons op rest ih =>
    obtain ⟨oneEach', step⟩ := scopeStep_holds oneEach fits.1
    obtain ⟨loaded, map, steps⟩ := ih _ oneEach' fits.2
    refine ⟨loaded, ?_, steps⟩
    rw [run_cons, map, step.map]
    rfl

end Steps

section Runs

def noSlots : Slots := fun _ => none

theorem noSlots_oneEach : OneEach noSlots := nofun

def region : GivenScope :=
  ⟨⟨[101, 117], List.replicate 16 7⟩, by decide⟩

def channel : Name := ⟨[35, 97], by decide⟩

/-- `DM: ` and the 64 digits of a contact. -/
def direct : Name := ⟨[68, 77, 58, 32] ++ List.replicate 64 48, by decide⟩

theorem scopes_hold_channel :
    ScopesHold (scopeMap noSlots) [.save channel region, .remove channel]
      (run scopeStep noSlots [.save channel region, .remove channel]) := by
  refine scopes_hold noSlots noSlots_oneEach _ ⟨?_, ?_, trivial⟩
  · change 2 < 38
    decide
  · unfold Fits Shadowed
    decide +kernel

/-- An entry of the channel whose scope has no name, in front of its valid one. -/
def shadowed : Slots := fun slot =>
  if slot.val = 0 then some (padded preferenceSize channel.val)
  else if slot.val = 1 then some (replacement channel region).blob
  else none

theorem shadowed_oneEach : OneEach shadowed := by
  have second : ∀ i name, owner (shadowed i) = some name → i.val = 1 := by
    intro i name owned
    unfold shadowed at owned
    split at owned
    · have unowned : owner (some (padded preferenceSize channel.val)) = none := by decide
      rw [unowned] at owned
      cases owned
    · split at owned
      · assumption
      · cases owned
  intro i j name owned owned'
  exact Fin.ext ((second i name owned).trans (second j name owned').symm)

/-- The name of a direct conversation never fits; a removal stops at the slot in front of the valid one. -/
theorem scopes_lost :
    (perform noSlots (.save direct region) = (false, noSlots) ∧
      scopeMap (run scopeStep noSlots [.save direct region]) ≠ run mapStep (scopeMap noSlots) [.save direct region]) ∧
      OneEach shadowed ∧ (perform shadowed (.remove channel)).1 = true ∧
        scopeMap (run scopeStep shadowed [.remove channel]) channel.val = some region.val := by
  have refused : perform noSlots (.save direct region) = (false, noSlots) := rfl
  refine ⟨⟨refused, fun same => ?_⟩, shadowed_oneEach, by decide +kernel, by decide +kernel⟩
  have room : ¬FiniteMap.Full (scopeMap noSlots) := fun full =>
    (scopeMap_full noSlots_oneEach).mp full ⟨0, by decide⟩ rfl
  have stored : mapStep (scopeMap noSlots) (.save direct region) direct.val = some region.val := by
    rw [mapStep, if_neg fun full => room full.2, Function.update_self]
  have absent : scopeMap (scopeStep noSlots (.save direct region)) direct.val = none := by decide +kernel
  rw [run_cons, run_nil, run_cons, run_nil] at same
  rw [same, stored] at absent
  cases absent

end Runs

end SigurdOS.Hal.ChatScopes
