import SigurdOS.Library.Runs
import SigurdOS.Mesh.ChannelValidation

namespace SigurdOS.Mesh

open Bytes

section Slots

def maxGroupChannels : Nat := 8

structure ChannelDetails where
  name : CString 32
  secret : FixedBytes 32
  hash : UInt8
  deriving DecidableEq

/-- MeshCore's digests: of the secret of a channel, and of the name of a hashtag channel. -/
structure ChannelDigest where
  hash : FixedBytes 32 → UInt8
  secret : List UInt8 → FixedBytes 16

namespace ChannelDetails

def zeroed : ChannelDetails := ⟨⟨[], Nat.zero_le _, nofun⟩, .ofList 32 [], 0⟩

def isEmpty (details : ChannelDetails) : Bool := details.name.chars.isEmpty

/-- What `setChannel` stores: the hash is computed again from the secret. -/
def hashed (digest : ChannelDigest) (details : ChannelDetails) : ChannelDetails :=
  { details with hash := digest.hash details.secret }

end ChannelDetails

/-- MeshCore's table of channels, whose slots are in the list, beside its digests. -/
structure ChannelOps extends ChannelDigest where
  setChannel : List ChannelDetails → Nat → ChannelDetails → Bool × List ChannelDetails

structure ChannelOps.Lawful (ops : ChannelOps) : Prop where
  set_inside : ∀ slots idx details, idx < maxGroupChannels →
    ops.setChannel slots idx details = (true, slots.set idx (details.hashed ops.toChannelDigest))

def getChannelCount (slots : List ChannelDetails) : Nat :=
  (slots.takeWhile fun details => !details.isEmpty).length

/-- `set_contiguous_channel_slot` up to its writes: the new slots, unless the update is refused. -/
def setContiguousChannelSlot (slots : List ChannelDetails) (index : Nat) (replacement : ChannelDetails) :
    Option (List ChannelDetails) :=
  let held := slots.getD index .zeroed
  let firstEmpty := slots.findIdx ChannelDetails.isEmpty
  if index ≥ maxGroupChannels ∨ (replacement.isEmpty = false ∧ held.isEmpty = true ∧ firstEmpty < index) then none
  else
    let populated := (slots.set index replacement).filter fun details => !details.isEmpty
    some (populated ++ List.replicate (maxGroupChannels - populated.length) .zeroed)

section Writes

variable (ops : ChannelOps)

/-- The writes of `set_contiguous_channel_slot`, which stop at one that is refused. -/
def writeSlots : Nat → List ChannelDetails → List ChannelDetails → Bool × List ChannelDetails
  | _, [], slots => (true, slots)
  | idx, details :: rest, slots =>
    match ops.setChannel slots idx details with
    | (false, slots) => (false, slots)
    | (true, slots) => writeSlots (idx + 1) rest slots

def restoreChannels : Nat → List ChannelDetails → List ChannelDetails → Bool × List ChannelDetails
  | _, [], slots => (true, slots)
  | idx, details :: rest, slots =>
    let (kept, slots) := ops.setChannel slots idx details
    let (restored, slots) := restoreChannels (idx + 1) rest slots
    (kept && restored, slots)

end Writes

def setChannelSlot (ops : ChannelOps) (slots : List ChannelDetails) (idx : Int) (details : ChannelDetails) :
    Bool × List ChannelDetails :=
  if idx < 0 ∨ maxGroupChannels ≤ idx then (false, slots)
  else
    match setContiguousChannelSlot slots idx.toNat details with
    | none => (false, slots)
    | some updated => writeSlots ops 0 updated slots

def removeChannel (ops : ChannelOps) (slots : List ChannelDetails) (idx : Int) : Bool × List ChannelDetails :=
  if idx < 0 ∨ getChannelCount slots ≤ idx then (false, slots) else setChannelSlot ops slots idx .zeroed

/-- The channel that `addChannelBool` adds, if the name and the key are accepted. -/
def pskChannel (name psk : List UInt8) : Option ChannelDetails :=
  if channelNameValid (terminated name) = false then none
  else
    match channelPskDecode16 psk (.ofList 16 []) with
    | (false, _) => none
    | (true, key) => some ⟨.decode 32 name, .ofList 32 key.bytes, 0⟩

def addChannelBool (ops : ChannelOps) (slots : List ChannelDetails) (name psk : List UInt8) :
    Bool × List ChannelDetails :=
  match pskChannel name psk with
  | none => (false, slots)
  | some candidate =>
    let idx := getChannelCount slots
    match (slots.take idx).find? fun existing => existing.name.chars == terminated name with
    | some existing => (existing.secret == candidate.secret, slots)
    | none => if maxGroupChannels ≤ idx then (false, slots) else ops.setChannel slots idx candidate

def hashtagChannel (digest : ChannelDigest) (name : List UInt8) : Option ChannelDetails :=
  match hashtagChannelNameNormalise (terminated name) 32 with
  | .error _ => none
  | .ok normalized => some ⟨.decode 32 normalized, .ofList 32 (digest.secret normalized).bytes, 0⟩

def addHashtagChannel (ops : ChannelOps) (slots : List ChannelDetails) (name : List UInt8) :
    Bool × List ChannelDetails :=
  match hashtagChannel ops.toChannelDigest name with
  | none => (false, slots)
  | some candidate =>
    let idx := getChannelCount slots
    if maxGroupChannels ≤ idx then (false, slots)
    else if (slots.take idx).any fun existing => existing.name == candidate.name then (true, slots)
    else ops.setChannel slots idx candidate

end Slots

section Operations

inductive ChannelCall where
  | addChannelBool (name psk : List UInt8)
  | addHashtagChannel (name : List UInt8)
  | removeChannel (idx : Int)
  | setChannelSlot (idx : Int) (details : ChannelDetails)

/-- A call on the mesh, by itself or inside `mutateChannelsDurably` with the outcome of its save. -/
structure ChannelOperation where
  call : ChannelCall
  durable : Option Bool

def mutateChannels (ops : ChannelOps) (slots : List ChannelDetails) : ChannelCall → Bool × List ChannelDetails
  | .addChannelBool name psk => addChannelBool ops slots name psk
  | .addHashtagChannel name => addHashtagChannel ops slots name
  | .removeChannel idx => removeChannel ops slots idx
  | .setChannelSlot idx details => setChannelSlot ops slots idx details

def mutateChannelsDurably (ops : ChannelOps) (slots : List ChannelDetails) (call : ChannelCall) (saves : Bool) :
    Bool × List ChannelDetails :=
  match mutateChannels ops slots call with
  | (false, after) => (false, after)
  | (true, after) => if saves then (true, after) else (false, (restoreChannels ops 0 slots after).2)

def performChannelOperation (ops : ChannelOps) (slots : List ChannelDetails) (operation : ChannelOperation) :
    Bool × List ChannelDetails :=
  match operation.durable with
  | none => mutateChannels ops slots operation.call
  | some saves => mutateChannelsDurably ops slots operation.call saves

def channelStep (ops : ChannelOps) (slots : List ChannelDetails) (operation : ChannelOperation) :
    List ChannelDetails := (performChannelOperation ops slots operation).2

def emptyChannels (digest : ChannelDigest) : List ChannelDetails :=
  List.replicate maxGroupChannels (ChannelDetails.zeroed.hashed digest)

end Operations

section Specification

structure GapFree (digest : ChannelDigest) (slots channels : List ChannelDetails) : Prop where
  layout : slots = channels ++ List.replicate (maxGroupChannels - channels.length) (ChannelDetails.zeroed.hashed digest)
  room : channels.length ≤ maxGroupChannels
  occupied : ∀ channel ∈ channels, channel.isEmpty = false
  hashed : ∀ channel ∈ channels, channel.hashed digest = channel

/-- The channels after a call on a list of them, or `none` where the call is to be refused. -/
def plannedChannels (digest : ChannelDigest) (channels : List ChannelDetails) :
    ChannelCall → Option (List ChannelDetails)
  | .addChannelBool name psk =>
    match pskChannel name psk with
    | none => none
    | some candidate =>
      match channels.find? fun existing => existing.name.chars == terminated name with
      | some existing => if existing.secret = candidate.secret then some channels else none
      | none => if channels.length < maxGroupChannels then some (channels ++ [candidate.hashed digest]) else none
  | .addHashtagChannel name =>
    match hashtagChannel digest name with
    | none => none
    | some candidate =>
      if maxGroupChannels ≤ channels.length then none
      else if channels.any fun existing => existing.name == candidate.name then some channels
      else some (channels ++ [candidate.hashed digest])
  | .removeChannel idx => if 0 ≤ idx ∧ idx < channels.length then some (channels.eraseIdx idx.toNat) else none
  | .setChannelSlot idx details =>
    if idx < 0 ∨ maxGroupChannels ≤ idx then none
    else if details.isEmpty then some (channels.eraseIdx idx.toNat)
    else if idx < channels.length then some (channels.set idx.toNat (details.hashed digest))
    else if idx = channels.length then some (channels ++ [details.hashed digest])
    else none

/-- What an operation does to a table of the given channels: it is refused or unsaved and every slot stays, or the
    channels become the planned ones. -/
structure ChannelOperationSound (ops : ChannelOps) (slots channels : List ChannelDetails)
    (operation : ChannelOperation) : Prop where
  accepted : (performChannelOperation ops slots operation).1 = true ↔
    plannedChannels ops.toChannelDigest channels operation.call ≠ none ∧ operation.durable ≠ some false
  planned : ∀ next, plannedChannels ops.toChannelDigest channels operation.call = some next →
    operation.durable ≠ some false →
    GapFree ops.toChannelDigest (channelStep ops slots operation) next
  unchanged : (performChannelOperation ops slots operation).1 = false → channelStep ops slots operation = slots

end Specification

section Lists

variable {α : Type} {p : α → Bool} {kept : List α} {value blank : α}

theorem filter_set_refused (all : ∀ other ∈ kept, p other = true) (refused : p value = false) (index : Nat) :
    (kept.set index value).filter p = kept.eraseIdx index := by
  induction kept generalizing index with
  | nil => rfl
  | cons head rest ih =>
    have tail : ∀ other ∈ rest, p other = true := fun other inside => all other (List.mem_cons_of_mem _ inside)
    cases index with
    | zero =>
      rw [List.set_cons_zero, List.filter_cons_of_neg (by simp [refused]), List.eraseIdx_cons_zero,
        List.filter_eq_self.mpr tail]
    | succ index =>
      rw [List.set_cons_succ, List.filter_cons_of_pos (all head List.mem_cons_self), ih tail, List.eraseIdx_cons_succ]

theorem filter_set_accepted (all : ∀ other ∈ kept, p other = true) (accepted : p value = true) (index : Nat) :
    (kept.set index value).filter p = kept.set index value := by
  apply List.filter_eq_self.mpr
  intro other inside
  rcases List.mem_or_eq_of_mem_set inside with earlier | rfl
  · exact all other earlier
  · exact accepted

theorem filter_replicate_set (blanks : p blank = false) (count index : Nat) (inside : index < count) :
    ((List.replicate count blank).set index value).filter p = if p value then [value] else [] := by
  induction count generalizing index with
  | zero => omega
  | succ count ih =>
    have rest : (List.replicate count blank).filter p = [] := by simp [blanks]
    rw [List.replicate_succ]
    cases index with
    | zero =>
      rw [List.set_cons_zero, List.filter_cons, rest]
    | succ index =>
      rw [List.set_cons_succ, List.filter_cons_of_neg (by simp [blanks]), ih index (by omega)]

end Lists

section Layout

variable {digest : ChannelDigest} {slots channels populated : List ChannelDetails} {details : ChannelDetails}

theorem zeroed_isEmpty : (ChannelDetails.zeroed.hashed digest).isEmpty = true := rfl

theorem emptyChannels_gapFree : GapFree digest (emptyChannels digest) [] := ⟨rfl, Nat.zero_le _, nofun, nofun⟩

theorem gapFree_of_populated (room : populated.length ≤ maxGroupChannels)
    (occupied : ∀ channel ∈ populated, channel.isEmpty = false) :
    GapFree digest
      ((populated ++ List.replicate (maxGroupChannels - populated.length) ChannelDetails.zeroed).map
        (ChannelDetails.hashed digest))
      (populated.map (ChannelDetails.hashed digest)) where
  layout := by rw [List.map_append, List.map_replicate, List.length_map]
  room := by rwa [List.length_map]
  occupied := by
    intro channel inside
    obtain ⟨original, member, rfl⟩ := List.mem_map.mp inside
    exact occupied original member
  hashed := by
    intro channel inside
    obtain ⟨original, member, rfl⟩ := List.mem_map.mp inside
    rfl

namespace GapFree

theorem map_hashed (gapFree : GapFree digest slots channels) : channels.map (ChannelDetails.hashed digest) = channels :=
  (List.map_congr_left gapFree.hashed).trans (List.map_id _)

theorem restored (gapFree : GapFree digest slots channels) : slots.map (ChannelDetails.hashed digest) = slots := by
  rw [gapFree.layout, List.map_append, gapFree.map_hashed, List.map_replicate]
  rfl

theorem width (gapFree : GapFree digest slots channels) : slots.length = maxGroupChannels := by
  rw [gapFree.layout, List.length_append, List.length_replicate]
  exact Nat.add_sub_cancel' gapFree.room

theorem count (gapFree : GapFree digest slots channels) : getChannelCount slots = channels.length := by
  have occupied : ∀ channel ∈ channels, (!channel.isEmpty) = true := fun channel inside => by
    rw [gapFree.occupied channel inside]
    rfl
  rw [getChannelCount, gapFree.layout, List.takeWhile_append_of_pos occupied]
  have blanks : ∀ count, (List.replicate count (ChannelDetails.zeroed.hashed digest)).takeWhile
      (fun details => !details.isEmpty) = [] := by
    intro count
    cases count <;> rfl
  rw [blanks, List.append_nil]

theorem taken (gapFree : GapFree digest slots channels) : slots.take (getChannelCount slots) = channels := by
  rw [gapFree.count, gapFree.layout, List.take_left]

theorem firstEmpty (gapFree : GapFree digest slots channels) :
    slots.findIdx ChannelDetails.isEmpty = channels.length := by
  have none : channels.findIdx ChannelDetails.isEmpty = channels.length :=
    List.findIdx_eq_length.mpr gapFree.occupied
  have blanks : ∀ count,
      (List.replicate count (ChannelDetails.zeroed.hashed digest)).findIdx ChannelDetails.isEmpty = 0 := by
    intro count
    cases count <;> rfl
  rw [gapFree.layout, List.findIdx_append, none, if_neg (Nat.lt_irrefl _), blanks, Nat.zero_add]

theorem held (gapFree : GapFree digest slots channels) {index : Nat} (beyond : channels.length ≤ index) :
    (slots.getD index .zeroed).isEmpty = true := by
  rw [gapFree.layout, List.getD_append_right _ _ _ _ beyond]
  by_cases inside : index - channels.length < maxGroupChannels - channels.length
  · rw [List.getD_replicate _ inside]
    rfl
  · rw [List.getD_eq_default _ _ (by simpa using inside)]
    rfl

theorem append (gapFree : GapFree digest slots channels) (room : channels.length < maxGroupChannels)
    (named : details.isEmpty = false) :
    GapFree digest (slots.set channels.length (details.hashed digest)) (channels ++ [details.hashed digest]) where
  layout := by
    obtain ⟨rest, count⟩ : ∃ rest, maxGroupChannels - channels.length = rest + 1 :=
      ⟨_, (Nat.sub_add_cancel (by omega)).symm⟩
    have left : maxGroupChannels - (channels.length + 1) = rest := by omega
    rw [gapFree.layout, List.set_append_right _ _ (Nat.le_refl _), Nat.sub_self, count, List.replicate_succ,
      List.set_cons_zero, List.length_append, List.length_singleton, left, List.append_assoc, List.singleton_append]
  room := by
    rw [List.length_append, List.length_singleton]
    exact room
  occupied := by
    intro channel inside
    rcases List.mem_append.mp inside with earlier | last
    · exact gapFree.occupied channel earlier
    · rw [List.mem_singleton.mp last]
      exact named
  hashed := by
    intro channel inside
    rcases List.mem_append.mp inside with earlier | last
    · exact gapFree.hashed channel earlier
    · rw [List.mem_singleton.mp last]
      rfl

theorem populated_set (gapFree : GapFree digest slots channels) {index : Nat} (inside : index < maxGroupChannels) :
    (slots.set index details).filter (fun details => !details.isEmpty) =
      if details.isEmpty then channels.eraseIdx index
      else if index < channels.length then channels.set index details
      else channels ++ [details] := by
  have occupied : ∀ channel ∈ channels, (!channel.isEmpty) = true := fun channel member => by
    rw [gapFree.occupied channel member]
    rfl
  by_cases early : index < channels.length
  · have blanks : (List.replicate (maxGroupChannels - channels.length) (ChannelDetails.zeroed.hashed digest)).filter
        (fun details => !details.isEmpty) = [] := by simp [zeroed_isEmpty]
    rw [gapFree.layout, List.set_append_left _ _ early, List.filter_append, blanks, List.append_nil]
    by_cases empty : details.isEmpty = true
    · rw [if_pos empty, filter_set_refused occupied (by simp [empty])]
    · rw [if_neg empty, if_pos early, filter_set_accepted occupied (by simp [empty])]
  · have late : channels.length ≤ index := Nat.le_of_not_lt early
    rw [gapFree.layout, List.set_append_right _ _ late, List.filter_append, List.filter_eq_self.mpr occupied,
      filter_replicate_set (by simp [zeroed_isEmpty]) _ _ (by omega)]
    by_cases empty : details.isEmpty = true
    · simp [empty, List.eraseIdx_of_length_le late]
    · simp [empty, early]

end GapFree

end Layout

section Refinement

variable {digest : ChannelDigest} {ops : ChannelOps} {slots channels : List ChannelDetails} {details : ChannelDetails}

def Follows (digest : ChannelDigest) (slots : List ChannelDetails) (plan : Option (List ChannelDetails))
    (result : Bool × List ChannelDetails) : Prop :=
  match plan with
  | none => result = (false, slots)
  | some next => result.1 = true ∧ GapFree digest result.2 next

theorem updated_gapFree (gapFree : GapFree digest slots channels) {index : Nat} (inside : index < maxGroupChannels)
    (near : details.isEmpty = false → index ≤ channels.length) :
    ∃ updated, setContiguousChannelSlot slots index details = some updated ∧
      GapFree digest (updated.map (ChannelDetails.hashed digest))
        (((slots.set index details).filter fun details => !details.isEmpty).map (ChannelDetails.hashed digest)) := by
  have allowed : ¬ (index ≥ maxGroupChannels ∨ (details.isEmpty = false ∧
      (slots.getD index .zeroed).isEmpty = true ∧ slots.findIdx ChannelDetails.isEmpty < index)) := by
    rintro (outside | ⟨named, -, gap⟩)
    · omega
    · rw [gapFree.firstEmpty] at gap
      exact absurd (near named) (Nat.not_le.mpr gap)
  refine ⟨_, by rw [setContiguousChannelSlot, if_neg allowed], gapFree_of_populated ?_ ?_⟩
  · have bound := List.length_filter_le (fun details : ChannelDetails => !details.isEmpty) (slots.set index details)
    rwa [List.length_set, gapFree.width] at bound
  · intro channel member
    simpa using (List.mem_filter.mp member).2

/-- Writes of all slots store every channel with its hash, behind those that were written before. -/
theorem writes_hashed (lawful : ops.Lawful) (values done rest : List ChannelDetails)
    (same : values.length = rest.length) (room : done.length + rest.length ≤ maxGroupChannels) :
    writeSlots ops done.length values (done ++ rest) =
        (true, done ++ values.map (ChannelDetails.hashed ops.toChannelDigest)) ∧
      restoreChannels ops done.length values (done ++ rest) =
        (true, done ++ values.map (ChannelDetails.hashed ops.toChannelDigest)) := by
  induction values generalizing done rest with
  | nil =>
    obtain rfl := List.length_eq_zero_iff.mp same.symm
    exact ⟨rfl, rfl⟩
  | cons value values ih =>
    obtain _ | ⟨old, rest⟩ := rest
    · cases same
    · rw [List.length_cons] at room
      have written : ops.setChannel (done ++ old :: rest) done.length value =
          (true, done ++ [value.hashed ops.toChannelDigest] ++ rest) := by
        rw [lawful.set_inside _ _ _ (by omega), List.set_append_right _ _ (Nat.le_refl _), Nat.sub_self,
          List.set_cons_zero, List.append_assoc, List.singleton_append]
      have later := ih (done ++ [value.hashed ops.toChannelDigest]) rest (Nat.succ.inj same)
        (by rw [List.length_append, List.length_singleton]; omega)
      rw [List.length_append, List.length_singleton] at later
      rw [writeSlots, restoreChannels, written]
      dsimp only
      rw [later.1, later.2, List.append_assoc, List.singleton_append]
      exact ⟨rfl, rfl⟩

theorem writeSlots_eq (lawful : ops.Lawful) {updated : List ChannelDetails} (width : slots.length = maxGroupChannels)
    (full : updated.length = maxGroupChannels) :
    writeSlots ops 0 updated slots = (true, updated.map (ChannelDetails.hashed ops.toChannelDigest)) :=
  (writes_hashed lawful updated [] slots (full.trans width.symm) (by rw [List.length_nil]; omega)).1

theorem restoreChannels_eq (lawful : ops.Lawful) {after : List ChannelDetails}
    (gapFree : GapFree ops.toChannelDigest slots channels) (width : after.length = maxGroupChannels) :
    (restoreChannels ops 0 slots after).2 = slots := by
  have restored := (writes_hashed lawful slots [] after (gapFree.width.trans width.symm)
    (by rw [List.length_nil]; omega)).2
  rw [List.length_nil, List.nil_append, List.nil_append] at restored
  rw [restored]
  exact gapFree.restored

theorem setChannelSlot_follows (lawful : ops.Lawful) (gapFree : GapFree ops.toChannelDigest slots channels)
    (idx : Int) (details : ChannelDetails) :
    Follows ops.toChannelDigest slots (plannedChannels ops.toChannelDigest channels (.setChannelSlot idx details))
      (setChannelSlot ops slots idx details) := by
  rw [plannedChannels, setChannelSlot]
  by_cases outside : idx < 0 ∨ maxGroupChannels ≤ idx
  · rw [if_pos outside, if_pos outside]
    rfl
  · rw [if_neg outside, if_neg outside]
    obtain ⟨index, rfl⟩ : ∃ index : Nat, idx = index := ⟨idx.toNat, by omega⟩
    have inside : index < maxGroupChannels := by omega
    rw [Int.toNat_natCast]
    by_cases near : details.isEmpty = false → index ≤ channels.length
    · obtain ⟨updated, accepted, after⟩ := updated_gapFree gapFree inside near
      have written := writeSlots_eq lawful gapFree.width (by simpa using after.width)
      rw [accepted]
      dsimp only
      rw [written]
      rw [gapFree.populated_set inside] at after
      by_cases empty : details.isEmpty = true
      · have kept : (channels.eraseIdx index).map (ChannelDetails.hashed ops.toChannelDigest) =
            channels.eraseIdx index :=
          (List.map_congr_left fun channel member => gapFree.hashed channel (List.mem_of_mem_eraseIdx member)).trans
            (List.map_id _)
        rw [if_pos empty, kept] at after
        rw [if_pos empty]
        exact ⟨rfl, after⟩
      · rw [if_neg empty] at after
        rw [if_neg empty]
        by_cases early : index < channels.length
        · rw [if_pos early, List.map_set, gapFree.map_hashed] at after
          rw [if_pos (Int.ofNat_lt.mpr early)]
          exact ⟨rfl, after⟩
        · have last : index = channels.length := Nat.le_antisymm (near (by simpa using empty)) (Nat.le_of_not_lt early)
          rw [if_neg early, List.map_append, gapFree.map_hashed] at after
          rw [if_neg (by omega), if_pos (by omega)]
          exact ⟨rfl, after⟩
    · obtain ⟨named, far⟩ := Classical.not_imp.mp near
      have late : channels.length < index := Nat.lt_of_not_le far
      have refused : setContiguousChannelSlot slots index details = none := by
        rw [setContiguousChannelSlot, if_pos]
        refine .inr ⟨named, gapFree.held late.le, ?_⟩
        rwa [gapFree.firstEmpty]
      rw [refused, if_neg (by simp [named]), if_neg (by omega), if_neg (by omega)]
      rfl

theorem removeChannel_follows (lawful : ops.Lawful) (gapFree : GapFree ops.toChannelDigest slots channels) (idx : Int) :
    Follows ops.toChannelDigest slots (plannedChannels ops.toChannelDigest channels (.removeChannel idx))
      (removeChannel ops slots idx) := by
  rw [plannedChannels, removeChannel, gapFree.count]
  by_cases inside : 0 ≤ idx ∧ idx < channels.length
  · have room := gapFree.room
    have within : ¬ (idx < 0 ∨ (channels.length : Int) ≤ idx) := by omega
    have slot : ¬ (idx < 0 ∨ (maxGroupChannels : Int) ≤ idx) := by omega
    have follows := setChannelSlot_follows lawful gapFree idx .zeroed
    have blank : ChannelDetails.zeroed.isEmpty = true := rfl
    rw [plannedChannels, if_neg slot, if_pos blank] at follows
    rw [if_pos inside, if_neg within]
    exact follows
  · rw [if_neg inside, if_pos (by omega)]
    rfl

theorem setChannel_append (lawful : ops.Lawful) (gapFree : GapFree ops.toChannelDigest slots channels)
    (room : channels.length < maxGroupChannels) (named : details.isEmpty = false) :
    Follows ops.toChannelDigest slots (some (channels ++ [details.hashed ops.toChannelDigest]))
      (ops.setChannel slots channels.length details) := by
  rw [lawful.set_inside slots _ details room]
  exact ⟨rfl, gapFree.append room named⟩

theorem decode_named {name : List UInt8} (filled : terminated name ≠ []) :
    (CString.decode 32 name).chars.isEmpty = false := by
  cases name with
  | nil => exact absurd rfl filled
  | cons first rest =>
    have nonzero : first ≠ 0 := by
      rintro rfl
      exact filled rfl
    change (terminated ((first :: rest).take 31)).isEmpty = false
    simp [terminated, nonzero]

theorem pskChannel_named {name psk : List UInt8} (accepted : pskChannel name psk = some details) :
    details.isEmpty = false := by
  unfold pskChannel at accepted
  split at accepted
  · cases accepted
  · next valid =>
    split at accepted
    · cases accepted
    · cases accepted
      apply decode_named
      intro nothing
      rw [nothing] at valid
      exact valid (by decide)

theorem hashtagChannel_named {name : List UInt8} (accepted : hashtagChannel digest name = some details) :
    details.isEmpty = false := by
  unfold hashtagChannel at accepted
  split at accepted
  · cases accepted
  · next normalized normal =>
    cases accepted
    apply decode_named
    unfold hashtagChannelNameNormalise at normal
    split at normal
    · cases normal
    · dsimp only at normal
      generalize (if (trimmed (terminated name)).head? = some (ascii '#') then (trimmed (terminated name)).tail
        else trimmed (terminated name)) = body at normal
      split at normal
      · cases normal
      · split at normal
        · cases normal
        · cases normal
          exact List.cons_ne_nil _ _

theorem addChannelBool_follows (lawful : ops.Lawful) (gapFree : GapFree ops.toChannelDigest slots channels)
    (name psk : List UInt8) :
    Follows ops.toChannelDigest slots (plannedChannels ops.toChannelDigest channels (.addChannelBool name psk))
      (addChannelBool ops slots name psk) := by
  rw [plannedChannels, addChannelBool]
  cases accepted : pskChannel name psk with
  | none => rfl
  | some candidate =>
    dsimp only
    rw [gapFree.taken, gapFree.count]
    cases known : channels.find? fun existing => existing.name.chars == terminated name with
    | some existing =>
      dsimp only
      by_cases same : existing.secret = candidate.secret
      · rw [if_pos same]
        exact ⟨by simp [same], gapFree⟩
      · rw [if_neg same]
        exact Prod.ext (by simpa using same) rfl
    | none =>
      dsimp only
      by_cases room : channels.length < maxGroupChannels
      · rw [if_pos room, if_neg (Nat.not_le.mpr room)]
        exact setChannel_append lawful gapFree room (pskChannel_named accepted)
      · rw [if_neg room, if_pos (Nat.le_of_not_lt room)]
        rfl

theorem addHashtagChannel_follows (lawful : ops.Lawful) (gapFree : GapFree ops.toChannelDigest slots channels)
    (name : List UInt8) :
    Follows ops.toChannelDigest slots (plannedChannels ops.toChannelDigest channels (.addHashtagChannel name))
      (addHashtagChannel ops slots name) := by
  rw [plannedChannels, addHashtagChannel]
  cases accepted : hashtagChannel ops.toChannelDigest name with
  | none => rfl
  | some candidate =>
    dsimp only
    rw [gapFree.taken, gapFree.count]
    by_cases full : maxGroupChannels ≤ channels.length
    · rw [if_pos full, if_pos full]
      rfl
    · rw [if_neg full, if_neg full]
      split
      · exact ⟨rfl, gapFree⟩
      · exact setChannel_append lawful gapFree (Nat.lt_of_not_le full) (hashtagChannel_named accepted)

theorem mutateChannels_follows (lawful : ops.Lawful) (gapFree : GapFree ops.toChannelDigest slots channels)
    (call : ChannelCall) :
    Follows ops.toChannelDigest slots (plannedChannels ops.toChannelDigest channels call)
      (mutateChannels ops slots call) := by
  cases call with
  | addChannelBool name psk => exact addChannelBool_follows lawful gapFree name psk
  | addHashtagChannel name => exact addHashtagChannel_follows lawful gapFree name
  | removeChannel idx => exact removeChannel_follows lawful gapFree idx
  | setChannelSlot idx details => exact setChannelSlot_follows lawful gapFree idx details

theorem operation_sound (lawful : ops.Lawful) (gapFree : GapFree ops.toChannelDigest slots channels)
    (operation : ChannelOperation) :
    ChannelOperationSound ops slots channels operation := by
  obtain ⟨call, durable⟩ := operation
  have follows := mutateChannels_follows lawful gapFree call
  cases plan : plannedChannels ops.toChannelDigest channels call with
  | none =>
    rw [plan] at follows
    have refused : performChannelOperation ops slots ⟨call, durable⟩ = (false, slots) := by
      cases durable with
      | none => exact follows
      | some saves =>
        have same : mutateChannels ops slots call = (false, slots) := follows
        simp only [performChannelOperation, mutateChannelsDurably, same]
    exact ⟨by simp [refused, plan], by simp [plan], fun _ => by rw [channelStep, refused]⟩
  | some next =>
    rw [plan] at follows
    cases result : mutateChannels ops slots call with
    | mk ok after =>
    rw [result] at follows
    obtain ⟨rfl, gapFreeAfter⟩ : ok = true ∧ GapFree ops.toChannelDigest after next := follows
    by_cases unsaved : durable = some false
    · subst unsaved
      have back : performChannelOperation ops slots ⟨call, some false⟩ = (false, slots) := by
        simp only [performChannelOperation, mutateChannelsDurably, result,
          restoreChannels_eq lawful gapFree gapFreeAfter.width, Bool.false_eq_true, ite_false]
      exact ⟨by simp [back], fun _ _ saved => absurd rfl saved, fun _ => by rw [channelStep, back]⟩
    · have kept : performChannelOperation ops slots ⟨call, durable⟩ = (true, after) := by
        match durable, unsaved with
        | none, _ => exact result
        | some true, _ => simp only [performChannelOperation, mutateChannelsDurably, result, ite_true]
        | some false, wrong => exact absurd rfl wrong
      refine ⟨by simp [kept, plan, unsaved], fun planned same _ => ?_, by simp [kept]⟩
      rw [plan, Option.some.injEq] at same
      rw [channelStep, kept, ← same]
      exact gapFreeAfter

end Refinement

section Runs

structure ChannelTableSound (ops : ChannelOps) (slots : List ChannelDetails) : Prop where
  gapFree : ∃ channels, GapFree ops.toChannelDigest slots channels
  operations : ∀ channels, GapFree ops.toChannelDigest slots channels → ∀ operation,
    ChannelOperationSound ops slots channels operation

theorem channelStep_gapFree {ops : ChannelOps} (lawful : ops.Lawful) {slots : List ChannelDetails}
    (gapFree : ∃ channels, GapFree ops.toChannelDigest slots channels) (operation : ChannelOperation) :
    ∃ channels, GapFree ops.toChannelDigest (channelStep ops slots operation) channels := by
  obtain ⟨channels, gapFree⟩ := gapFree
  have sound := operation_sound lawful gapFree operation
  cases result : (performChannelOperation ops slots operation).1 with
  | false =>
    rw [sound.unchanged result]
    exact ⟨channels, gapFree⟩
  | true =>
    obtain ⟨some_planned, saved⟩ := sound.accepted.mp result
    obtain ⟨next, plan⟩ := Option.ne_none_iff_exists'.mp some_planned
    exact ⟨next, sound.planned next plan saved⟩

theorem channel_slots_gap_free (ops : ChannelOps) (lawful : ops.Lawful) (operations : List ChannelOperation) :
    ChannelTableSound ops (Runs.run (channelStep ops) (emptyChannels ops.toChannelDigest) operations) where
  gapFree := Runs.run_invariant (fun slots => ∃ channels, GapFree ops.toChannelDigest slots channels)
    ⟨[], emptyChannels_gapFree⟩ (fun _ operation gapFree => channelStep_gapFree lawful gapFree operation) operations
  operations := fun _ gapFree operation => operation_sound lawful gapFree operation

def publicKey : FixedBytes 32 :=
  .ofList 32 [139, 51, 135, 233, 197, 205, 234, 106, 201, 229, 237, 186, 161, 21, 205, 114]

def testKey : FixedBytes 16 :=
  .ofList 16 [156, 216, 252, 242, 42, 71, 51, 59, 89, 29, 150, 162, 184, 72, 183, 63]

/-- The digests of the public channel's key, of the key of the channel `#test` and of the empty key. -/
def publicAndTestDigest : ChannelDigest where
  hash secret := if secret = publicKey then 17 else if secret = .ofList 32 testKey.bytes then 217 else 55
  secret _ := testKey

def publicAndTest : ChannelOps where
  toChannelDigest := publicAndTestDigest
  setChannel slots idx details :=
    if idx < maxGroupChannels then (true, slots.set idx (details.hashed publicAndTestDigest)) else (false, slots)

theorem publicAndTest_lawful : publicAndTest.Lawful where
  set_inside _ _ _ inside := if_pos inside

/-- Both channels are added, and the removal of the first is not saved. -/
def addedAndKept : List ChannelOperation :=
  [⟨.addChannelBool [80, 117, 98, 108, 105, 99, 0] ("izOH6cXN6mrJ5e26oRXNcg==".toList.map ascii), some true⟩,
    ⟨.addHashtagChannel [35, 116, 101, 115, 116, 0], none⟩, ⟨.removeChannel 0, some false⟩]

theorem channel_slots_gap_free_public :
    ChannelTableSound publicAndTest
        (Runs.run (channelStep publicAndTest) (emptyChannels publicAndTestDigest) addedAndKept) ∧
      getChannelCount (Runs.run (channelStep publicAndTest) (emptyChannels publicAndTestDigest) addedAndKept) = 2 :=
  ⟨channel_slots_gap_free publicAndTest publicAndTest_lawful addedAndKept, by decide +kernel⟩

end Runs

end SigurdOS.Mesh
