import SigurdOS.Library.Runs
import SigurdOS.Mesh.PendingOperations

namespace SigurdOS.Mesh

open Bytes SlotTable
open MessageStore (read32)

structure DiscoveryPending where
  destKey : FixedBytes 32
  tag : UInt32
  inUse : Bool
  completed : Bool
  timedOut : Bool
  startedAtMs : UInt32
  timeoutMs : UInt32
  deriving DecidableEq

def DiscoveryPending.fresh : DiscoveryPending := ⟨.ofList 32 [], 0, false, false, false, 0, 0⟩

def discoveryCompletionRetentionMs : UInt32 := 30000

abbrev DiscoveryTable := Fin 4 → DiscoveryPending

/-- A path response of a contact. `isResponse` is the comparison of its extra type with that of responses. -/
structure PathResponse where
  pubKey : FixedBytes 32
  inPath : List UInt8
  inPathLen : UInt8
  outPath : List UInt8
  outPathLen : UInt8
  isResponse : Bool
  extra : List UInt8
  deriving DecidableEq

structure DiscoveredPath where
  pubKey : FixedBytes 32
  inPath : List UInt8
  inPathLen : UInt8
  outPath : List UInt8
  outPathLen : UInt8
  deriving DecidableEq

/-- The discovery that was marked completed, what the phone is told, whether MeshCore handles the path as well, and the
    table behind it. -/
structure PathOutcome where
  completed : Option (Fin 4)
  reported : Option DiscoveredPath
  forwarded : Bool
  table : DiscoveryTable

namespace DiscoveryTable

section Table

def expirePending (nowMs : UInt32) (pending : DiscoveryPending) : DiscoveryPending :=
  if pending.inUse && pendingOperationElapsed pending.startedAtMs pending.timeoutMs nowMs then
    if pending.completed then .fresh else { pending with inUse := false, completed := false, timedOut := true }
  else pending

def expirePendingOperations (table : DiscoveryTable) (nowMs : UInt32) : DiscoveryTable :=
  fun slot => expirePending nowMs (table slot)

def selectReusablePendingSlot (table : DiscoveryTable) : Option (Fin 4) :=
  (firstSlot (fun pending => !pending.inUse && !pending.timedOut) table).or
    (firstSlot (fun pending => !pending.inUse && pending.timedOut) table)

def sendPathDiscovery (table : DiscoveryTable) (pubKey : FixedBytes 32) (known : Bool) (nowMs sentMs : UInt32)
    (transmission : Transmission) : Option UInt32 × DiscoveryTable :=
  if known = false then (none, table)
  else
    let table := clearMatchingEntries .fresh
      (fun pending => !pending.inUse && pending.timedOut && pending.destKey == pubKey)
      (expirePendingOperations table nowMs)
    match selectReusablePendingSlot table with
    | none => (none, table)
    | some slot =>
      if transmission.failed || transmission.tag == 0 then (none, Function.update table slot .fresh)
      else
        (some transmission.tag, Function.update table slot
          ⟨pubKey, transmission.tag, true, false, false, sentMs, normalizeTimeout transmission.estTimeout⟩)

def isDiscoveryComplete (table : DiscoveryTable) (pubKey : FixedBytes 32) (nowMs : UInt32) : Bool × DiscoveryTable :=
  let table := expirePendingOperations table nowMs
  match firstSlot (fun pending => pending.inUse && pending.completed && pending.destKey == pubKey) table with
  | none => (false, table)
  | some slot => (true, Function.update table slot .fresh)

def discoveryPending (table : DiscoveryTable) (pubKey : FixedBytes 32) (nowMs : UInt32) : Bool × DiscoveryTable :=
  let table := expirePendingOperations table nowMs
  ((firstSlot (fun pending => pending.inUse && !pending.completed && pending.destKey == pubKey) table).isSome, table)

def teardownContactRuntime (table : DiscoveryTable) (pubKey : FixedBytes 32) : DiscoveryTable :=
  clearMatchingEntries .fresh (·.destKey == pubKey) table

def answered (table : DiscoveryTable) (response : PathResponse) : Option (Fin 4) :=
  if response.isResponse = true ∧ 4 < response.extra.length then
    firstSlot (fun pending => pending.inUse && pending.tag == read32 response.extra) table
  else none

def DiscoveryPending.complete (pending : DiscoveryPending) (nowMs : UInt32) : DiscoveryPending :=
  { pending with
    completed := true
    timedOut := false
    startedAtMs := nowMs
    timeoutMs := discoveryCompletionRetentionMs }

/-- `validPathLen` is MeshCore's check of a length. -/
def onContactPathRecv (validPathLen : UInt8 → Bool) (table : DiscoveryTable) (response : PathResponse)
    (nowMs : UInt32) : PathOutcome :=
  let table := expirePendingOperations table nowMs
  match answered table response with
  | none => ⟨none, none, true, table⟩
  | some slot =>
    let reported : Option DiscoveredPath :=
      if validPathLen response.inPathLen && validPathLen response.outPathLen then
        some ⟨response.pubKey, response.inPath, response.inPathLen, response.outPath, response.outPathLen⟩
      else none
    ⟨some slot, reported, false, Function.update table slot (DiscoveryPending.complete (table slot) nowMs)⟩

end Table

section Binding

variable {validPathLen : UInt8 → Bool} {table : DiscoveryTable} {response : PathResponse} {nowMs : UInt32}

/-- Only a discovery that waits for this tag from this contact is completed and reported; the others stay. -/
structure BoundToDestination (before : DiscoveryTable) (response : PathResponse) (outcome : PathOutcome) : Prop where
  completed : ∀ slot, outcome.completed = some slot →
    (before slot).inUse = true ∧ (before slot).tag = read32 response.extra ∧ (before slot).destKey = response.pubKey
  reported : outcome.reported ≠ none → outcome.completed ≠ none
  others : ∀ slot, outcome.completed ≠ some slot → outcome.table slot = before slot

/-- The lowest entry in use with the tag was sent to the contact with the key. -/
def FirstSentTo (table : DiscoveryTable) (tag : UInt32) (pubKey : FixedBytes 32) : Prop :=
  ∀ slot, (table slot).inUse = true → (table slot).tag = tag →
    (∀ lower < slot, (table lower).inUse = true → (table lower).tag ≠ tag) → (table slot).destKey = pubKey

theorem onContactPathRecv_others : ∀ slot, (onContactPathRecv validPathLen table response nowMs).completed ≠ some slot →
    (onContactPathRecv validPathLen table response nowMs).table slot = expirePendingOperations table nowMs slot := by
  intro slot
  unfold onContactPathRecv
  dsimp only
  cases answered (expirePendingOperations table nowMs) response with
  | none => exact fun _ => rfl
  | some found =>
    intro other
    exact Function.update_of_ne (fun same => other (congrArg some same.symm)) _ _

theorem onContactPathRecv_completed : (onContactPathRecv validPathLen table response nowMs).completed =
    answered (expirePendingOperations table nowMs) response := by
  unfold onContactPathRecv
  dsimp only
  cases answered (expirePendingOperations table nowMs) response with
  | none => rfl
  | some slot => rfl

theorem onContactPathRecv_reported (reported : (onContactPathRecv validPathLen table response nowMs).reported ≠ none) :
    (onContactPathRecv validPathLen table response nowMs).completed ≠ none := by
  unfold onContactPathRecv at reported ⊢
  dsimp only at reported ⊢
  cases found : answered (expirePendingOperations table nowMs) response with
  | none =>
    rw [found] at reported
    exact absurd rfl reported
  | some slot => nofun

theorem answered_eq_some_iff {slot : Fin 4} : answered table response = some slot ↔
    (response.isResponse = true ∧ 4 < response.extra.length) ∧
      ((table slot).inUse = true ∧ (table slot).tag = read32 response.extra) ∧
      ∀ lower < slot, (table lower).inUse = true → (table lower).tag ≠ read32 response.extra := by
  have waits (other : Fin 4) : ((table other).inUse && (table other).tag == read32 response.extra) = true ↔
      (table other).inUse = true ∧ (table other).tag = read32 response.extra := by
    rw [Bool.and_eq_true, beq_iff_eq]
  have idle (other : Fin 4) : ((table other).inUse && (table other).tag == read32 response.extra) = false ↔
      ((table other).inUse = true → (table other).tag ≠ read32 response.extra) := by
    rw [← Bool.not_eq_true, waits, not_and]
  unfold answered
  split
  · rename_i shaped
    rw [firstSlot_eq_some_iff, waits, and_iff_right shaped]
    simp only [idle]
  · rename_i other
    exact ⟨nofun, fun ⟨shaped, _⟩ => absurd shaped other⟩

theorem bound_iff_firstSentTo :
    BoundToDestination (expirePendingOperations table nowMs) response
        (onContactPathRecv validPathLen table response nowMs) ↔
      (response.isResponse = true ∧ 4 < response.extra.length →
        FirstSentTo (expirePendingOperations table nowMs) (read32 response.extra) response.pubKey) := by
  constructor
  · intro bound shaped slot used tagged lowest
    have found := answered_eq_some_iff.mpr ⟨shaped, ⟨used, tagged⟩, lowest⟩
    rw [← @onContactPathRecv_completed validPathLen] at found
    exact (bound.completed slot found).2.2
  · intro first
    refine ⟨fun slot found => ?_, onContactPathRecv_reported, onContactPathRecv_others⟩
    rw [onContactPathRecv_completed, answered_eq_some_iff] at found
    obtain ⟨shaped, ⟨used, tagged⟩, lowest⟩ := found
    exact ⟨used, tagged, first shaped slot used tagged lowest⟩

end Binding

end DiscoveryTable

open DiscoveryTable

/-- What is done with the discoveries. A poll asks for one that waits or that timed out. -/
inductive DiscoveryEvent where
  | sendPathDiscovery (pubKey : FixedBytes 32) (known : Bool) (nowMs sentMs : UInt32) (transmission : Transmission)
  | onContactPathRecv (response : PathResponse) (nowMs : UInt32)
  | isDiscoveryComplete (pubKey : FixedBytes 32) (nowMs : UInt32)
  | poll (pubKey : FixedBytes 32) (nowMs : UInt32)
  | expirePendingOperations (nowMs : UInt32)
  | teardownContactRuntime (pubKey : FixedBytes 32)

def discoveryStep (validPathLen : UInt8 → Bool) (table : DiscoveryTable) : DiscoveryEvent → DiscoveryTable
  | .sendPathDiscovery pubKey known nowMs sentMs transmission =>
    (sendPathDiscovery table pubKey known nowMs sentMs transmission).2
  | .onContactPathRecv response nowMs => (onContactPathRecv validPathLen table response nowMs).table
  | .isDiscoveryComplete pubKey nowMs => (isDiscoveryComplete table pubKey nowMs).2
  | .poll pubKey nowMs => (discoveryPending table pubKey nowMs).2
  | .expirePendingOperations nowMs => expirePendingOperations table nowMs
  | .teardownContactRuntime pubKey => teardownContactRuntime table pubKey

section Recorded

def Recorded (events : List DiscoveryEvent) (pubKey : FixedBytes 32) (tag : UInt32) : Prop :=
  ∃ nowMs sentMs transmission, .sendPathDiscovery pubKey true nowMs sentMs transmission ∈ events ∧
    transmission.failed = false ∧ transmission.tag = tag

/-- Every entry in use holds the key and the tag of a discovery that was sent. -/
def AllRecorded (events : List DiscoveryEvent) (table : DiscoveryTable) : Prop :=
  ∀ slot, (table slot).inUse = true → Recorded events (table slot).destKey (table slot).tag

variable {events : List DiscoveryEvent} {table : DiscoveryTable}

theorem AllRecorded.congr {changed : DiscoveryTable} (recorded : AllRecorded events table)
    (kept : ∀ slot, (changed slot).inUse = true → (table slot).inUse = true ∧
      (changed slot).destKey = (table slot).destKey ∧ (changed slot).tag = (table slot).tag) :
    AllRecorded events changed := by
  intro slot used
  obtain ⟨used, key, tag⟩ := kept slot used
  rw [key, tag]
  exact recorded slot used

theorem AllRecorded.expire (recorded : AllRecorded events table) (nowMs : UInt32) :
    AllRecorded events (expirePendingOperations table nowMs) := by
  apply recorded.congr
  intro slot used
  simp only [expirePendingOperations, expirePending] at used ⊢
  split at used
  · split at used
    · cases used
    · cases used
  · rename_i running
    rw [if_neg running]
    exact ⟨used, rfl, rfl⟩

theorem AllRecorded.clear (recorded : AllRecorded events table) (agrees : DiscoveryPending → Bool) :
    AllRecorded events (clearMatchingEntries .fresh agrees table) := by
  apply recorded.congr
  intro slot used
  simp only [clearMatchingEntries] at used ⊢
  split at used
  · cases used
  · rename_i other
    rw [if_neg other]
    exact ⟨used, rfl, rfl⟩

theorem AllRecorded.update (recorded : AllRecorded events table) (slot : Fin 4) {pending : DiscoveryPending}
    (known : pending.inUse = true → Recorded events pending.destKey pending.tag) :
    AllRecorded events (Function.update table slot pending) := by
  intro other used
  by_cases here : other = slot
  · subst here
    rw [Function.update_self] at used ⊢
    exact known used
  · rw [Function.update_of_ne here] at used ⊢
    exact recorded other used

theorem AllRecorded.append (recorded : AllRecorded events table) (event : DiscoveryEvent) :
    AllRecorded (events ++ [event]) table := by
  intro slot used
  obtain ⟨nowMs, sentMs, transmission, member, sent, tagged⟩ := recorded slot used
  exact ⟨nowMs, sentMs, transmission, List.mem_append_left _ member, sent, tagged⟩

theorem AllRecorded.step (recorded : AllRecorded events table) (validPathLen : UInt8 → Bool) (event : DiscoveryEvent) :
    AllRecorded (events ++ [event]) (discoveryStep validPathLen table event) := by
  have before := recorded.append event
  cases event with
  | sendPathDiscovery pubKey known nowMs sentMs transmission =>
    rw [discoveryStep, sendPathDiscovery]
    split
    · exact before
    · rename_i reachable
      rw [Bool.not_eq_false] at reachable
      subst reachable
      have cleared := (before.expire nowMs).clear
        (fun pending => !pending.inUse && pending.timedOut && pending.destKey == pubKey)
      dsimp only
      split
      · exact cleared
      · split
        · exact cleared.update _ nofun
        · rename_i sent
          rw [Bool.or_eq_true, not_or, Bool.not_eq_true] at sent
          exact cleared.update _ fun _ => ⟨nowMs, sentMs, transmission, by simp, sent.1, rfl⟩
  | onContactPathRecv response nowMs =>
    have expired := before.expire nowMs
    rw [discoveryStep, onContactPathRecv]
    split
    · exact expired
    · rename_i slot _
      exact expired.update slot fun used => expired slot used
  | isDiscoveryComplete pubKey nowMs =>
    have expired := before.expire nowMs
    rw [discoveryStep, isDiscoveryComplete]
    split
    · exact expired
    · exact expired.update _ nofun
  | poll pubKey nowMs => exact before.expire nowMs
  | expirePendingOperations nowMs => exact before.expire nowMs
  | teardownContactRuntime pubKey => exact before.clear _

theorem run_allRecorded (validPathLen : UInt8 → Bool) (events : List DiscoveryEvent) :
    AllRecorded events (Runs.run (discoveryStep validPathLen) (fun _ => .fresh) events) :=
  Runs.run_history AllRecorded nofun (fun _ event _ recorded _ => recorded.step validPathLen event)
    (Runs.along_of_forall (fun _ _ _ => trivial) _)

end Recorded

/-- A response is bound to its contact exactly when the lowest entry with its tag was sent to that contact; and what an
    entry holds is what a send of the run recorded. -/
theorem path_discovery_bound_iff (validPathLen : UInt8 → Bool) :
    (∀ (table : DiscoveryTable) (response : PathResponse) (nowMs : UInt32),
      BoundToDestination (expirePendingOperations table nowMs) response
          (onContactPathRecv validPathLen table response nowMs) ↔
        (response.isResponse = true ∧ 4 < response.extra.length →
          FirstSentTo (expirePendingOperations table nowMs) (read32 response.extra) response.pubKey)) ∧
    ∀ events, AllRecorded events (Runs.run (discoveryStep validPathLen) (fun _ => .fresh) events) :=
  ⟨fun _ _ _ => bound_iff_firstSentTo, run_allRecorded validPathLen⟩

def foreignResponse : PathResponse where
  pubKey := .ofList 32 [2]
  inPath := []
  inPathLen := 0
  outPath := []
  outPathLen := 0
  isResponse := true
  extra := [7, 0, 0, 0, 1]

def oneDiscovery : DiscoveryTable :=
  Runs.run (discoveryStep fun _ => true) (fun _ => .fresh)
    [.sendPathDiscovery (.ofList 32 [1]) true 0 0 ⟨false, 7, 5000⟩]

theorem foreignResponse_completes :
    ¬ ∀ (table : DiscoveryTable) (response : PathResponse) (nowMs : UInt32),
      BoundToDestination (expirePendingOperations table nowMs) response
        (onContactPathRecv (fun _ => true) table response nowMs) := by
  intro bound
  have key := ((bound oneDiscovery foreignResponse 100).completed 0 (by decide)).2.2
  revert key
  decide

end SigurdOS.Mesh
