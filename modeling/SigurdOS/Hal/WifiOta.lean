import SigurdOS.Bytes.Fields
import SigurdOS.Bytes.LittleEndian
import SigurdOS.Library.Runs

namespace SigurdOS.Ota

open Bytes Runs

def otaDevicePinEligible (devicePin : UInt32) : Bool := devicePin ≥ 100000

/-- The digits of an entered PIN, `none` for another character or a value above `UINT32_MAX`. -/
def enteredValue : Nat → List UInt8 → Option Nat
  | value, [] => some value
  | value, char :: rest =>
    if char < 48 ∨ char > 57 then none
    else if value > (4294967295 - (char.toNat - 48)) / 10 then none
    else enteredValue (value * 10 + (char.toNat - 48)) rest

def otaPinAccepts (devicePin : UInt32) (entered : List UInt8) : Bool :=
  if devicePin = 0 ∨ terminated entered = [] then false
  else if otaDevicePinEligible devicePin = false then false
  else enteredValue 0 (terminated entered) == some devicePin.toNat

def otaUpdateSizeUnknown : Nat := 0xFFFFFFFF

def otaUpdateBeginSize (multipartTotalSize : Nat) : Nat :=
  if multipartTotalSize = 0 then otaUpdateSizeUnknown else multipartTotalSize

structure OtaUploadSessionState where
  authenticated : Bool := false
  started : Bool := false
  completed : Bool := false
  failed : Bool := false
  epochChecked : Bool := false
  received : Nat := 0

def otaUploadAcceptsChunk (state : OtaUploadSessionState) : Bool :=
  state.authenticated && state.started && !state.completed && !state.failed

def otaUploadCanFinish (state : OtaUploadSessionState) (multipartTotalSize : Nat) : Bool :=
  otaUploadAcceptsChunk state && state.epochChecked && decide (state.received > 0) &&
    decide (state.received = multipartTotalSize)

inductive OtaEpochStatus where
  | allowed
  | downgrade
  | malformed
  deriving DecidableEq

def otaAppDescMagic : Nat := 0xABCD5432

def otaAppDescOffset : Nat := 32

def otaEpochMinBytes : Nat := 40

def otaReadLe32 (bytes : List UInt8) : Nat := leNumber (bytes.take 4)

def otaCheckSecurityEpoch (image : List UInt8) (currentEpoch : Nat) : OtaEpochStatus :=
  if image.length < otaEpochMinBytes ∨ image.head? ≠ some 0xE9 ∨
      otaReadLe32 (image.drop otaAppDescOffset) ≠ otaAppDescMagic then .malformed
  else if otaReadLe32 (image.drop (otaAppDescOffset + 4)) < currentEpoch then .downgrade
  else .allowed

inductive OtaWriteResult where
  | accepted
  | emptyChunk
  | shortWrite
  | exceedsExpected
  | counterOverflow
  deriving DecidableEq

def sizeMax : Nat := 4294967295

def otaRecordExactWrite (current requested written expectedTotal : Nat) : OtaWriteResult × Nat :=
  if requested = 0 then (.emptyChunk, current)
  else if written ≠ requested then (.shortWrite, current)
  else if current > sizeMax - written then (.counterOverflow, current)
  else if expectedTotal ≠ 0 ∧ current + written > expectedTotal then (.exceedsExpected, current)
  else (.accepted, current + written)

def maxPinFailures : Nat := 5

structure Server where
  upload : OtaUploadSessionState
  csrfToken : List UInt8
  pinFailCount : Nat
  rebootPending : Bool
  stopRequested : Bool

/-- The callbacks of the web server and a stop request from another task. The form arguments, the chunks, the sizes
    and what the Arduino `Update` object and the image check answer are the data of the event. -/
inductive OtaEvent where
  | page (random : Fin 16 → UInt8)
  | start (csrf pin : List UInt8) (devicePin : UInt32) (totalSize : Nat) (begins : Nat → Bool)
  | write (chunk : List UInt8) (written : Nat)
  | finish (totalSize : Nat) (ends verifies : Bool)
  | aborted
  | complete (hasError : Bool)
  | stop

inductive OtaCall where
  | checkPin (accepted : Bool)
  | updateWrite (chunk : List UInt8)
  | updateEnd
  | reboot
  deriving DecidableEq

def hexDigit (nibble : Nat) : UInt8 := if nibble < 10 then UInt8.ofNat (48 + nibble) else UInt8.ofNat (87 + nibble)

def tokenText (random : Fin 16 → UInt8) : List UInt8 :=
  (List.ofFn random).flatMap (fun byte => [hexDigit (byte.toNat / 16), hexDigit (byte.toNat % 16)])

namespace Server

def abortUploadAndCloseClient (server : Server) : Server :=
  { server with upload := { server.upload with failed := true, started := false } }

def uploadStart (server : Server) (csrf pin : List UInt8) (devicePin : UInt32) (totalSize : Nat)
    (begins : Nat → Bool) : Server × List OtaCall :=
  let fresh : Server := { server with upload := {} }
  if csrf = [] ∨ csrf ≠ fresh.csrfToken then (fresh.abortUploadAndCloseClient, [])
  else if fresh.pinFailCount ≥ maxPinFailures then (fresh.abortUploadAndCloseClient, [])
  else if otaPinAccepts devicePin pin = false then
    ({ fresh with pinFailCount := fresh.pinFailCount + 1 }.abortUploadAndCloseClient, [.checkPin false])
  else
    let opened : Server := { fresh with upload := { fresh.upload with authenticated := true } }
    if begins (otaUpdateBeginSize totalSize) = false then (opened.abortUploadAndCloseClient, [.checkPin true])
    else ({ opened with upload := { opened.upload with started := true } }, [.checkPin true])

def writeChunk (server : Server) (chunk : List UInt8) (written : Nat) : Server × List OtaCall :=
  match otaRecordExactWrite server.upload.received chunk.length written 0 with
  | (.accepted, nextReceived) =>
    ({ server with upload := { server.upload with received := nextReceived } }, [.updateWrite chunk])
  | _ => (server.abortUploadAndCloseClient, [.updateWrite chunk])

def uploadWrite (epoch : Nat) (server : Server) (chunk : List UInt8) (written : Nat) : Server × List OtaCall :=
  if otaUploadAcceptsChunk server.upload = false then (server, [])
  else if server.upload.epochChecked then server.writeChunk chunk written
  else if otaCheckSecurityEpoch chunk epoch ≠ .allowed then (server.abortUploadAndCloseClient, [])
  else { server with upload := { server.upload with epochChecked := true } }.writeChunk chunk written

def uploadEnd (server : Server) (totalSize : Nat) (ends verifies : Bool) : Server × List OtaCall :=
  if otaUploadCanFinish server.upload totalSize = false then
    ({ server with upload := { server.upload with failed := true, started := false } }, [])
  else if ends && verifies then
    ({ server with upload := { server.upload with started := false, completed := true } }, [.updateEnd])
  else ({ server with upload := { server.upload with failed := true, started := false } }, [.updateEnd])

def completion (server : Server) (hasError : Bool) : Server × List OtaCall :=
  if !server.upload.completed || server.upload.failed || hasError then (server, [])
  else ({ server with rebootPending := true, stopRequested := true }, [.reboot])

def handle (epoch : Nat) (server : Server) : OtaEvent → Server × List OtaCall
  | .page random => ({ server with csrfToken := tokenText random }, [])
  | .start csrf pin devicePin totalSize begins =>
    if server.stopRequested then (server.abortUploadAndCloseClient, [])
    else server.uploadStart csrf pin devicePin totalSize begins
  | .write chunk written =>
    if server.stopRequested then (server.abortUploadAndCloseClient, []) else server.uploadWrite epoch chunk written
  | .finish totalSize ends verifies =>
    if server.stopRequested then (server.abortUploadAndCloseClient, []) else server.uploadEnd totalSize ends verifies
  | .aborted => (server.abortUploadAndCloseClient, [])
  | .complete hasError => server.completion hasError
  | .stop => ({ server with stopRequested := true }, [])

end Server

def otaStep (epoch : Nat) (server : Server) (event : OtaEvent) : Server := (server.handle epoch event).1

/-- `startSession` resets the counter of wrong PINs; the token of an earlier session stays until a page is served. -/
def startSession (leftToken : List UInt8) : Server := ⟨{}, leftToken, 0, false, false⟩

def OtaEvent.isStart : OtaEvent → Bool
  | .start .. => true
  | _ => false

def servedToken (leftToken : List UInt8) (history : List OtaEvent) : List UInt8 :=
  history.foldl (fun token event => match event with | .page random => tokenText random | _ => token) leftToken

/-- The chunks of the WRITE callbacks, with the count that `Update.write` returns for each. -/
def chunks (history : List OtaEvent) : List (List UInt8 × Nat) :=
  history.filterMap (fun event => match event with | .write chunk written => some (chunk, written) | _ => none)

def calls (epoch : Nat) : Server → List OtaEvent → List OtaCall
  | _, [] => []
  | server, event :: rest => (server.handle epoch event).2 ++ calls epoch (otaStep epoch server event) rest

section Law

variable (epoch : Nat) (leftToken : List UInt8)

def session (history : List OtaEvent) : Server := run (otaStep epoch) (startSession leftToken) history

def wrongPins (history : List OtaEvent) : Nat :=
  (calls epoch (startSession leftToken) history).count (.checkPin false)

/-- A START that carries the token of the session and an accepted PIN, behind fewer than five wrong ones. -/
def Authenticated (earlier : List OtaEvent) : OtaEvent → Prop
  | .start csrf pin devicePin _ _ =>
    csrf ≠ [] ∧ csrf = servedToken leftToken earlier ∧ otaPinAccepts devicePin pin = true ∧
      wrongPins epoch leftToken earlier < maxPinFailures
  | _ => False

def FirstChunkAllowed (parts : List (List UInt8 × Nat)) : Prop :=
  ∀ first ∈ parts.head?, otaCheckSecurityEpoch first.1 epoch = .allowed

def WrittenInFull (parts : List (List UInt8 × Nat)) : Prop := ∀ part ∈ parts, part.2 = part.1.length

def totalLength (parts : List (List UInt8 × Nat)) : Nat := (parts.map (fun part => part.1.length)).sum

/-- The history ends with an authenticated START and the callbacks `during` its upload. -/
structure UploadSince (history earlier during : List OtaEvent) (request : OtaEvent) : Prop where
  split : history = earlier ++ request :: during
  last : ∀ event ∈ during, event.isStart = false
  authenticated : Authenticated epoch leftToken earlier request

/-- Since the last START an authenticated upload was written in full, with as many bytes as the END reports, and
    `Update.end` and the image check succeeded. -/
def FinishedUpload (history : List OtaEvent) : Prop :=
  ∃ earlier during later request totalSize,
    UploadSince epoch leftToken history earlier (during ++ .finish totalSize true true :: later) request ∧
      WrittenInFull (chunks during) ∧ FirstChunkAllowed epoch (chunks during) ∧
      totalLength (chunks during) = totalSize

def UploadFails (server : Server) : OtaEvent → Prop
  | .start csrf pin devicePin totalSize begins =>
    server.stopRequested = true ∨ csrf = [] ∨ csrf ≠ server.csrfToken ∨ server.pinFailCount ≥ maxPinFailures ∨
      otaPinAccepts devicePin pin = false ∨ begins (otaUpdateBeginSize totalSize) = false
  | .write chunk written =>
    server.stopRequested = true ∨ otaUploadAcceptsChunk server.upload = true ∧
      (server.upload.epochChecked = false ∧ otaCheckSecurityEpoch chunk epoch ≠ .allowed ∨
        (otaRecordExactWrite server.upload.received chunk.length written 0).1 ≠ .accepted)
  | .finish totalSize ends verifies =>
    server.stopRequested = true ∨ otaUploadCanFinish server.upload totalSize = false ∨ ends = false ∨ verifies = false
  | .aborted => True
  | _ => False

structure UploadSafety (history : List OtaEvent) : Prop where
  flash_guarded : ∀ before event after chunk, history = before ++ event :: after →
    .updateWrite chunk ∈ ((session epoch leftToken before).handle epoch event).2 →
      ∃ earlier during request, UploadSince epoch leftToken before earlier during request ∧
        (∃ written, event = .write chunk written) ∧ FirstChunkAllowed epoch (chunks (during ++ [event]))
  few_wrong_pins : wrongPins epoch leftToken history ≤ maxPinFailures
  reboot_earned : ∀ before event after, history = before ++ event :: after →
    .reboot ∈ ((session epoch leftToken before).handle epoch event).2 → FinishedUpload epoch leftToken before
  failure_final : ∀ before event later, history = before ++ event :: later →
    UploadFails epoch (session epoch leftToken before) event →
    (∀ middle request rest, later = middle ++ request :: rest →
      ¬ Authenticated epoch leftToken (before ++ event :: middle) request) →
    (session epoch leftToken history).upload.failed = true ∧
      ∀ call ∈ calls epoch (session epoch leftToken (before ++ [event])) later, call = .checkPin false

end Law

section Callbacks

variable {epoch : Nat} {server : Server}

def Granted (server : Server) (csrf pin : List UInt8) (devicePin : UInt32) : Prop :=
  csrf ≠ [] ∧ csrf = server.csrfToken ∧ otaPinAccepts devicePin pin = true ∧ server.pinFailCount < maxPinFailures

/-- A chunk that gets to `Update.write`. -/
def Admitted (epoch : Nat) (server : Server) (chunk : List UInt8) : Prop :=
  otaUploadAcceptsChunk server.upload = true ∧
    (server.upload.epochChecked = true ∨ otaCheckSecurityEpoch chunk epoch = .allowed)

/-- All that a callback can do. The upload that a failing callback leaves matters only in its `failed` flag. -/
inductive Handled (epoch : Nat) (server : Server) : OtaEvent → Server × List OtaCall → Prop
  | page (random : Fin 16 → UInt8) : Handled epoch server (.page random)
    ({ server with csrfToken := tokenText random }, [])
  | failed (event : OtaEvent) (upload : OtaUploadSessionState) (other : ∀ random, event ≠ .page random)
      (failed : upload.failed = true) : Handled epoch server event ({ server with upload := upload }, [])
  | wrongPin (csrf pin : List UInt8) (devicePin : UInt32) (totalSize : Nat) (begins : Nat → Bool)
      (upload : OtaUploadSessionState) (failed : upload.failed = true) (few : server.pinFailCount < maxPinFailures) :
      Handled epoch server (.start csrf pin devicePin totalSize begins)
        ({ server with upload := upload, pinFailCount := server.pinFailCount + 1 }, [.checkPin false])
  | unbegun (csrf pin : List UInt8) (devicePin : UInt32) (totalSize : Nat) (begins : Nat → Bool)
      (upload : OtaUploadSessionState) (failed : upload.failed = true) (granted : Granted server csrf pin devicePin) :
      Handled epoch server (.start csrf pin devicePin totalSize begins)
        ({ server with upload := upload }, [.checkPin true])
  | opened (csrf pin : List UInt8) (devicePin : UInt32) (totalSize : Nat) (begins : Nat → Bool)
      (granted : Granted server csrf pin devicePin) :
      Handled epoch server (.start csrf pin devicePin totalSize begins)
        ({ server with upload := { authenticated := true, started := true } }, [.checkPin true])
  | ignored (chunk : List UInt8) (written : Nat) (closed : otaUploadAcceptsChunk server.upload = false) :
      Handled epoch server (.write chunk written) (server, [])
  | failedWrite (chunk : List UInt8) (written : Nat) (upload : OtaUploadSessionState) (failed : upload.failed = true)
      (admitted : Admitted epoch server chunk) :
      Handled epoch server (.write chunk written) ({ server with upload := upload }, [.updateWrite chunk])
  | stored (chunk : List UInt8) (admitted : Admitted epoch server chunk) :
      Handled epoch server (.write chunk chunk.length)
        ({ server with
            upload := { server.upload with epochChecked := true, received := server.upload.received + chunk.length } },
          [.updateWrite chunk])
  | failedEnd (totalSize : Nat) (ends verifies : Bool) (upload : OtaUploadSessionState)
      (failed : upload.failed = true) (able : otaUploadCanFinish server.upload totalSize = true) :
      Handled epoch server (.finish totalSize ends verifies) ({ server with upload := upload }, [.updateEnd])
  | completed (totalSize : Nat) (able : otaUploadCanFinish server.upload totalSize = true) :
      Handled epoch server (.finish totalSize true true)
        ({ server with upload := { server.upload with started := false, completed := true } }, [.updateEnd])
  | incomplete (hasError : Bool) : Handled epoch server (.complete hasError) (server, [])
  | reboot (hasError : Bool) (complete : server.upload.completed = true) (sound : server.upload.failed = false) :
      Handled epoch server (.complete hasError) ({ server with rebootPending := true, stopRequested := true },
        [.reboot])
  | stop : Handled epoch server .stop ({ server with stopRequested := true }, [])

theorem uploadStart_handled (server : Server) (csrf pin : List UInt8) (devicePin : UInt32) (totalSize : Nat)
    (begins : Nat → Bool) :
    Handled epoch server (.start csrf pin devicePin totalSize begins)
      (server.uploadStart csrf pin devicePin totalSize begins) := by
  unfold Server.uploadStart
  dsimp only
  by_cases refused : csrf = [] ∨ csrf ≠ server.csrfToken
  · rw [if_pos refused]
    exact .failed _ _ (by simp) rfl
  rw [if_neg refused]
  push Not at refused
  by_cases locked : server.pinFailCount ≥ maxPinFailures
  · rw [if_pos locked]
    exact .failed _ _ (by simp) rfl
  rw [if_neg locked]
  by_cases wrong : otaPinAccepts devicePin pin = false
  · rw [if_pos wrong]
    exact .wrongPin csrf pin devicePin totalSize begins _ rfl (Nat.lt_of_not_le locked)
  rw [if_neg wrong]
  rw [Bool.not_eq_false] at wrong
  have granted : Granted server csrf pin devicePin := ⟨refused.1, refused.2, wrong, Nat.lt_of_not_le locked⟩
  split
  · exact .unbegun csrf pin devicePin totalSize begins _ rfl granted
  · exact .opened csrf pin devicePin totalSize begins granted

theorem otaRecordExactWrite_accepted {current requested written next : Nat}
    (accepted : otaRecordExactWrite current requested written 0 = (.accepted, next)) :
    written = requested ∧ next = current + requested := by
  unfold otaRecordExactWrite at accepted
  split at accepted
  · cases accepted
  · split at accepted
    · cases accepted
    · rename_i full
      rw [not_not] at full
      split at accepted
      · cases accepted
      · rw [if_neg (by simp)] at accepted
        exact ⟨full, by rw [← full]; exact (Prod.mk.inj accepted).2.symm⟩

theorem writeChunk_handled {chunk : List UInt8} {written : Nat} (admitted : Admitted epoch server chunk) :
    Handled epoch server (.write chunk written)
      ({ server with upload := { server.upload with epochChecked := true } }.writeChunk chunk written) := by
  unfold Server.writeChunk
  split
  · rename_i next recorded
    obtain ⟨rfl, rfl⟩ := otaRecordExactWrite_accepted recorded
    exact .stored chunk admitted
  · exact .failedWrite chunk written _ rfl admitted

theorem uploadWrite_handled (server : Server) (chunk : List UInt8) (written : Nat) :
    Handled epoch server (.write chunk written) (server.uploadWrite epoch chunk written) := by
  unfold Server.uploadWrite
  by_cases closed : otaUploadAcceptsChunk server.upload = false
  · rw [if_pos closed]
    exact .ignored chunk written closed
  rw [if_neg closed]
  rw [Bool.not_eq_false] at closed
  by_cases checked : server.upload.epochChecked = true
  · rw [if_pos checked]
    have same : { server with upload := { server.upload with epochChecked := true } } = server := by
      rw [← checked]
    have handled := @writeChunk_handled epoch server chunk written ⟨closed, .inl checked⟩
    rw [same] at handled
    exact handled
  rw [if_neg checked]
  by_cases allowed : otaCheckSecurityEpoch chunk epoch = .allowed
  · rw [if_neg (not_not.mpr allowed)]
    exact writeChunk_handled ⟨closed, .inr allowed⟩
  · rw [if_pos allowed]
    exact .failed _ _ (by simp) rfl

theorem uploadEnd_handled (server : Server) (totalSize : Nat) (ends verifies : Bool) :
    Handled epoch server (.finish totalSize ends verifies) (server.uploadEnd totalSize ends verifies) := by
  unfold Server.uploadEnd
  by_cases unable : otaUploadCanFinish server.upload totalSize = false
  · rw [if_pos unable]
    exact .failed _ _ (by simp) rfl
  rw [if_neg unable]
  rw [Bool.not_eq_false] at unable
  by_cases good : (ends && verifies) = true
  · rw [if_pos good]
    obtain ⟨rfl, rfl⟩ := Bool.and_eq_true_iff.mp good
    exact .completed totalSize unable
  · rw [if_neg good]
    exact .failedEnd totalSize ends verifies _ rfl unable

theorem completion_handled (server : Server) (hasError : Bool) :
    Handled epoch server (.complete hasError) (server.completion hasError) := by
  unfold Server.completion
  split
  · exact .incomplete hasError
  · rename_i good
    simp only [Bool.or_eq_true, Bool.not_eq_true', not_or, Bool.not_eq_false, Bool.not_eq_true] at good
    exact .reboot hasError good.1.1 good.1.2

theorem handle_handled (epoch : Nat) (server : Server) (event : OtaEvent) :
    Handled epoch server event (server.handle epoch event) := by
  cases event with
  | page random => exact .page random
  | start csrf pin devicePin totalSize begins =>
    dsimp only [Server.handle]
    split
    · exact .failed _ _ (by simp) rfl
    · exact uploadStart_handled server csrf pin devicePin totalSize begins
  | write chunk written =>
    dsimp only [Server.handle]
    split
    · exact .failed _ _ (by simp) rfl
    · exact uploadWrite_handled server chunk written
  | finish totalSize ends verifies =>
    dsimp only [Server.handle]
    split
    · exact .failed _ _ (by simp) rfl
    · exact uploadEnd_handled server totalSize ends verifies
  | aborted => exact .failed _ _ (by simp) rfl
  | complete hasError => exact completion_handled server hasError
  | stop => exact .stop

end Callbacks

section History

variable {epoch : Nat} {leftToken : List UInt8} {history : List OtaEvent} {server : Server}

theorem calls_append (server : Server) (before after : List OtaEvent) :
    calls epoch server (before ++ after) = calls epoch server before ++
        calls epoch (run (otaStep epoch) server before) after := by
  induction before generalizing server with
  | nil => rfl
  | cons event rest ih => rw [List.cons_append, calls, ih, calls, List.append_assoc, run_cons]

theorem wrongPins_concat (history : List OtaEvent) (event : OtaEvent) :
    wrongPins epoch leftToken (history ++ [event]) =
      wrongPins epoch leftToken history +
        ((session epoch leftToken history).handle epoch event).2.count (.checkPin false) := by
  unfold wrongPins
  rw [calls_append, List.count_append]
  simp only [calls, List.append_nil, session]

theorem servedToken_concat (event : OtaEvent) (other : ∀ random, event ≠ .page random) :
    servedToken leftToken (history ++ [event]) = servedToken leftToken history := by
  unfold servedToken
  rw [List.foldl_append]
  cases event with
  | page random => exact absurd rfl (other random)
  | _ => rfl

theorem chunks_append (before after : List OtaEvent) : chunks (before ++ after) = chunks before ++ chunks after :=
  List.filterMap_append

theorem UploadSince.extend {earlier during : List OtaEvent} {request event : OtaEvent}
    (since : UploadSince epoch leftToken history earlier during request) (later : event.isStart = false) :
    UploadSince epoch leftToken (history ++ [event]) earlier (during ++ [event]) request := by
  refine ⟨?_, ?_, since.authenticated⟩
  · rw [since.split, List.append_assoc, List.cons_append]
  · intro other inside
    rcases List.mem_append.mp inside with early | new
    · exact since.last other early
    · rw [List.mem_singleton.mp new]
      exact later

theorem FinishedUpload.extend {event : OtaEvent} (finished : FinishedUpload epoch leftToken history)
    (later : event.isStart = false) : FinishedUpload epoch leftToken (history ++ [event]) := by
  obtain ⟨earlier, during, idle, request, totalSize, since, rest⟩ := finished
  have extended := since.extend later
  rw [List.append_assoc, List.cons_append] at extended
  exact ⟨earlier, during, idle ++ [event], request, totalSize, extended, rest⟩

/-- An upload that still takes chunks has been authenticated and written in full so far. -/
def OpenUpload (epoch : Nat) (leftToken : List UInt8) (history : List OtaEvent) (upload : OtaUploadSessionState) :
    Prop :=
  ∃ earlier during request, UploadSince epoch leftToken history earlier during request ∧
    WrittenInFull (chunks during) ∧ FirstChunkAllowed epoch (chunks during) ∧
    totalLength (chunks during) = upload.received ∧ (upload.epochChecked = true ↔ chunks during ≠ [])

theorem OpenUpload.extend {upload : OtaUploadSessionState} {event : OtaEvent}
    (opened : OpenUpload epoch leftToken history upload) (later : event.isStart = false) (empty : chunks [event] = []) :
    OpenUpload epoch leftToken (history ++ [event]) upload := by
  obtain ⟨earlier, during, request, since, rest⟩ := opened
  refine ⟨earlier, during ++ [event], request, since.extend later, ?_⟩
  rw [chunks_append, empty, List.append_nil]
  exact rest

theorem OpenUpload.first_allowed {chunk : List UInt8} {written : Nat}
    (opened : OpenUpload epoch leftToken history server.upload) (admitted : Admitted epoch server chunk) :
    ∃ earlier during request, UploadSince epoch leftToken history earlier during request ∧
      WrittenInFull (chunks during) ∧ totalLength (chunks during) = server.upload.received ∧
      FirstChunkAllowed epoch (chunks (during ++ [.write chunk written])) := by
  obtain ⟨earlier, during, request, since, full, allowed, total, checked⟩ := opened
  refine ⟨earlier, during, request, since, full, total, ?_⟩
  rw [chunks_append]
  cases parts : chunks during with
  | nil =>
    intro first inside
    obtain rfl : (chunk, written) = first := Option.some.inj inside
    rcases admitted.2 with before | passed
    · exact absurd parts (checked.mp before)
    · exact passed
  | cons part rest =>
    rw [parts] at allowed
    exact allowed

theorem OpenUpload.stored {chunk : List UInt8} (opened : OpenUpload epoch leftToken history server.upload)
    (admitted : Admitted epoch server chunk) :
    OpenUpload epoch leftToken (history ++ [.write chunk chunk.length])
      { server.upload with epochChecked := true, received := server.upload.received + chunk.length } := by
  obtain ⟨earlier, during, request, since, full, total, allowed⟩ := opened.first_allowed admitted
  refine ⟨earlier, during ++ [.write chunk chunk.length], request, since.extend rfl, ?_, allowed, ?_, ?_⟩
  · rw [chunks_append]
    intro part inside
    rcases List.mem_append.mp inside with early | new
    · exact full part early
    · rw [List.mem_singleton.mp new]
  · have appended : totalLength (chunks during ++ [(chunk, chunk.length)]) =
        totalLength (chunks during) + chunk.length := by
      simp [totalLength]
    rw [chunks_append]
    exact appended.trans (by rw [total])
  · rw [chunks_append]
    simp [chunks]

structure SessionInv (epoch : Nat) (leftToken : List UInt8) (history : List OtaEvent) (server : Server) : Prop where
  token : server.csrfToken = servedToken leftToken history
  pins : server.pinFailCount = wrongPins epoch leftToken history
  bounded : server.pinFailCount ≤ maxPinFailures
  opened : otaUploadAcceptsChunk server.upload = true → OpenUpload epoch leftToken history server.upload
  finished : server.upload.completed = true → server.upload.failed = false → FinishedUpload epoch leftToken history

theorem Granted.authenticated {csrf pin : List UInt8} {devicePin : UInt32} {totalSize : Nat} {begins : Nat → Bool}
    (granted : Granted server csrf pin devicePin) (inv : SessionInv epoch leftToken history server) :
    Authenticated epoch leftToken history (.start csrf pin devicePin totalSize begins) :=
  ⟨granted.1, granted.2.1.trans inv.token, granted.2.2.1, inv.pins ▸ granted.2.2.2⟩

theorem SessionInv.of_failed (token : server.csrfToken = servedToken leftToken history)
    (pins : server.pinFailCount = wrongPins epoch leftToken history) (bounded : server.pinFailCount ≤ maxPinFailures)
    (failed : server.upload.failed = true) : SessionInv epoch leftToken history server where
  token := token
  pins := pins
  bounded := bounded
  opened accepts := by simp [otaUploadAcceptsChunk, failed] at accepts
  finished _ sound := by simp [failed] at sound

theorem SessionInv.idle {after : Server} {event : OtaEvent} (inv : SessionInv epoch leftToken history server)
    (upload : after.upload = server.upload) (later : event.isStart = false) (empty : chunks [event] = [])
    (token : after.csrfToken = servedToken leftToken (history ++ [event]))
    (pins : after.pinFailCount = wrongPins epoch leftToken (history ++ [event]))
    (bounded : after.pinFailCount ≤ maxPinFailures) : SessionInv epoch leftToken (history ++ [event]) after := by
  refine ⟨token, pins, bounded, ?_, ?_⟩
  · rw [upload]
    exact fun accepts => (inv.opened accepts).extend later empty
  · rw [upload]
    exact fun complete sound => (inv.finished complete sound).extend later

theorem SessionInv.handled {event : OtaEvent} {outcome : Server × List OtaCall}
    (inv : SessionInv epoch leftToken history server) (handled : Handled epoch server event outcome)
    (counted : wrongPins epoch leftToken (history ++ [event]) =
      wrongPins epoch leftToken history + outcome.2.count (.checkPin false)) :
    SessionInv epoch leftToken (history ++ [event]) outcome.1 := by
  have other_token : (∀ random, event ≠ .page random) →
      server.csrfToken = servedToken leftToken (history ++ [event]) := by
    intro other
    rw [servedToken_concat event other]
    exact inv.token
  have same_pins : outcome.2.count (.checkPin false) = 0 →
      server.pinFailCount = wrongPins epoch leftToken (history ++ [event]) := by
    intro none
    rw [counted, none]
    exact inv.pins
  cases handled with
  | page random =>
    refine inv.idle rfl rfl rfl ?_ (same_pins rfl) inv.bounded
    rw [servedToken, List.foldl_append]
    rfl
  | failed event upload other failed => exact .of_failed (other_token other) (same_pins rfl) inv.bounded failed
  | wrongPin csrf pin devicePin totalSize begins upload failed few =>
    refine .of_failed (other_token (by simp)) ?_ few failed
    rw [counted, ← inv.pins]
    rfl
  | unbegun csrf pin devicePin totalSize begins upload failed granted =>
    exact .of_failed (other_token (by simp)) (same_pins rfl) inv.bounded failed
  | opened csrf pin devicePin totalSize begins granted =>
    have since : UploadSince epoch leftToken (history ++ [.start csrf pin devicePin totalSize begins]) history []
        (.start csrf pin devicePin totalSize begins) := ⟨rfl, by simp, granted.authenticated inv⟩
    refine ⟨other_token (by simp), same_pins rfl, inv.bounded, fun _ => ?_, fun complete _ => by cases complete⟩
    exact ⟨history, [], _, since, by simp [chunks, WrittenInFull], by simp [chunks, FirstChunkAllowed], rfl, by
      simp [chunks]⟩
  | ignored chunk written closed =>
    refine ⟨other_token (by simp), same_pins rfl, inv.bounded, fun accepts => ?_,
      fun complete sound => (inv.finished complete sound).extend rfl⟩
    rw [closed] at accepts
    cases accepts
  | failedWrite chunk written upload failed admitted =>
    exact .of_failed (other_token (by simp)) (same_pins rfl) inv.bounded failed
  | stored chunk admitted =>
    refine ⟨other_token (by simp), same_pins rfl, inv.bounded, fun _ => (inv.opened admitted.1).stored admitted, ?_⟩
    intro complete sound
    exact (inv.finished complete sound).extend rfl
  | failedEnd totalSize ends verifies upload failed able =>
    exact .of_failed (other_token (by simp)) (same_pins rfl) inv.bounded failed
  | completed totalSize able =>
    simp only [otaUploadCanFinish, Bool.and_eq_true, decide_eq_true_eq] at able
    obtain ⟨⟨⟨accepts, -⟩, -⟩, received⟩ := able
    obtain ⟨earlier, during, request, since, full, allowed, total, -⟩ := inv.opened accepts
    refine ⟨other_token (by simp), same_pins rfl, inv.bounded, fun accepts => ?_, fun _ _ => ?_⟩
    · simp [otaUploadAcceptsChunk] at accepts
    · exact ⟨earlier, during, [], request, totalSize, since.extend rfl, full, allowed, total.trans received⟩
  | incomplete hasError => exact inv.idle rfl rfl rfl (other_token (by simp)) (same_pins rfl) inv.bounded
  | reboot hasError complete sound => exact inv.idle rfl rfl rfl (other_token (by simp)) (same_pins rfl) inv.bounded
  | stop => exact inv.idle rfl rfl rfl (other_token (by simp)) (same_pins rfl) inv.bounded

theorem session_concat (history : List OtaEvent) (event : OtaEvent) :
    session epoch leftToken (history ++ [event]) = ((session epoch leftToken history).handle epoch event).1 :=
  run_concat _ _ _

theorem session_inv (epoch : Nat) (leftToken : List UInt8) (history : List OtaEvent) :
    SessionInv epoch leftToken history (session epoch leftToken history) := by
  induction history using List.reverseRecOn with
  | nil =>
    refine ⟨rfl, rfl, Nat.zero_le _, ?_, ?_⟩
    · intro accepts
      cases accepts
    · intro complete
      cases complete
  | append_singleton before event ih =>
    rw [session_concat]
    exact ih.handled (handle_handled epoch _ event) (wrongPins_concat before event)

theorem UploadFails.failed {event : OtaEvent} (fails : UploadFails epoch server event) :
    (otaStep epoch server event).upload.failed = true := by
  unfold otaStep
  cases event with
  | page random => exact fails.elim
  | start csrf pin devicePin totalSize begins =>
    dsimp only [Server.handle]
    split
    · rfl
    · rename_i running
      unfold Server.uploadStart
      dsimp only
      split
      · rfl
      · rename_i matching
        push Not at matching
        split
        · rfl
        · rename_i few
          split
          · rfl
          · rename_i accepted
            split
            · rfl
            · rename_i begun
              rcases fails with stopped | empty | different | locked | wrong | unbegun
              · exact absurd stopped running
              · exact absurd empty matching.1
              · exact absurd matching.2 different
              · exact absurd locked few
              · exact absurd wrong accepted
              · exact absurd unbegun begun
  | write chunk written =>
    dsimp only [Server.handle]
    split
    · rfl
    · rename_i running
      obtain ⟨accepts, reason⟩ := fails.resolve_left running
      unfold Server.uploadWrite
      rw [if_neg (by simp [accepts])]
      have refused : ∀ other : Server, other.upload.received = server.upload.received →
          (otaRecordExactWrite server.upload.received chunk.length written 0).1 ≠ .accepted →
          (other.writeChunk chunk written).1.upload.failed = true := by
        intro other same unwritten
        unfold Server.writeChunk
        rw [same]
        split
        · rename_i recorded
          rw [recorded] at unwritten
          exact absurd rfl unwritten
        · rfl
      split
      · rename_i checked
        exact refused server rfl (reason.resolve_left (fun both => by simp [checked] at both))
      · split
        · rfl
        · rename_i allowed
          exact refused _ rfl (reason.resolve_left (fun both => allowed both.2))
  | finish totalSize ends verifies =>
    dsimp only [Server.handle]
    split
    · rfl
    · rename_i running
      unfold Server.uploadEnd
      split
      · rfl
      · rename_i able
        split
        · rename_i good
          obtain ⟨rfl, rfl⟩ := Bool.and_eq_true_iff.mp good
          rcases fails with stopped | unable | bad | bad
          · exact absurd stopped running
          · exact absurd unable able
          · cases bad
          · cases bad
        · rfl
  | aborted => rfl
  | complete hasError => exact fails.elim
  | stop => exact fails.elim

theorem SessionInv.stays_failed {event : OtaEvent} {outcome : Server × List OtaCall}
    (inv : SessionInv epoch leftToken history server) (handled : Handled epoch server event outcome)
    (failed : server.upload.failed = true) (unauthenticated : ¬ Authenticated epoch leftToken history event) :
    outcome.1.upload.failed = true ∧ ∀ call ∈ outcome.2, call = .checkPin false := by
  have closed : otaUploadAcceptsChunk server.upload = false := by simp [otaUploadAcceptsChunk, failed]
  have unable : ∀ totalSize, otaUploadCanFinish server.upload totalSize = false := by
    intro totalSize
    simp [otaUploadCanFinish, closed]
  cases handled with
  | page random => exact ⟨failed, by simp⟩
  | failed event upload other failed => exact ⟨failed, by simp⟩
  | wrongPin csrf pin devicePin totalSize begins upload failed few => exact ⟨failed, by simp⟩
  | unbegun csrf pin devicePin totalSize begins upload failed granted =>
    exact absurd (granted.authenticated inv) unauthenticated
  | opened csrf pin devicePin totalSize begins granted => exact absurd (granted.authenticated inv) unauthenticated
  | ignored chunk written closed => exact ⟨failed, by simp⟩
  | failedWrite chunk written upload failed admitted => exact absurd admitted.1 (by simp [closed])
  | stored chunk admitted => exact absurd admitted.1 (by simp [closed])
  | failedEnd totalSize ends verifies upload failed able => exact absurd able (by simp [unable])
  | completed totalSize able => exact absurd able (by simp [unable])
  | incomplete hasError => exact ⟨failed, by simp⟩
  | reboot hasError complete sound =>
    rw [failed] at sound
    cases sound
  | stop => exact ⟨failed, by simp⟩

theorem session_stays_failed (later : List OtaEvent) {before : List OtaEvent}
    (failed : (session epoch leftToken before).upload.failed = true)
    (unauthenticated : ∀ middle request rest, later = middle ++ request :: rest →
      ¬ Authenticated epoch leftToken (before ++ middle) request) :
    (session epoch leftToken (before ++ later)).upload.failed = true ∧
      ∀ call ∈ calls epoch (session epoch leftToken before) later, call = .checkPin false := by
  induction later generalizing before with
  | nil => exact ⟨by rwa [List.append_nil], by simp [calls]⟩
  | cons event rest ih =>
    have refused : ¬ Authenticated epoch leftToken before event := by
      have first := unauthenticated [] event rest rfl
      rwa [List.append_nil] at first
    obtain ⟨still, quiet⟩ :=
      (session_inv epoch leftToken before).stays_failed (handle_handled epoch _ event) failed refused
    rw [← session_concat] at still
    obtain ⟨last, silent⟩ := ih still (by
      intro middle request after split
      rw [List.append_assoc]
      exact unauthenticated (event :: middle) request after (by rw [split]; rfl))
    rw [List.append_assoc] at last
    refine ⟨last, ?_⟩
    intro call inside
    rw [calls, List.mem_append] at inside
    rcases inside with now | afterwards
    · exact quiet call now
    · rw [session_concat] at silent
      exact silent call afterwards

end History

theorem ota_upload_safe (epoch : Nat) (leftToken : List UInt8) (history : List OtaEvent) :
    UploadSafety epoch leftToken history where
  flash_guarded := by
    rintro before event after chunk - inside
    have inv := session_inv epoch leftToken before
    have handled := handle_handled epoch (session epoch leftToken before) event
    generalize (session epoch leftToken before).handle epoch event = outcome at inside handled
    have written : ∀ other written, event = .write other written →
        Admitted epoch (session epoch leftToken before) other →
        chunk = other → ∃ earlier during request, UploadSince epoch leftToken before earlier during request ∧
          (∃ written, event = .write chunk written) ∧ FirstChunkAllowed epoch (chunks (during ++ [event])) := by
      rintro other written rfl admitted rfl
      obtain ⟨earlier, during, request, since, -, -, allowed⟩ := (inv.opened admitted.1).first_allowed admitted
      exact ⟨earlier, during, request, since, ⟨written, rfl⟩, allowed⟩
    cases handled with
    | failedWrite other count upload failed admitted =>
      exact written other count rfl admitted (OtaCall.updateWrite.inj (List.mem_singleton.mp inside))
    | stored other admitted =>
      exact written other _ rfl admitted (OtaCall.updateWrite.inj (List.mem_singleton.mp inside))
    | _ => simp at inside
  few_wrong_pins := by
    have inv := session_inv epoch leftToken history
    rw [← inv.pins]
    exact inv.bounded
  reboot_earned := by
    rintro before event after - inside
    have handled := handle_handled epoch (session epoch leftToken before) event
    generalize (session epoch leftToken before).handle epoch event = outcome at inside handled
    cases handled with
    | reboot hasError complete sound => exact (session_inv epoch leftToken before).finished complete sound
    | _ => simp at inside
  failure_final := by
    rintro before event later rfl fails unauthenticated
    have failed : (session epoch leftToken (before ++ [event])).upload.failed = true := by
      rw [session_concat]
      exact fails.failed
    have final := session_stays_failed later failed (by
      intro middle request rest split
      rw [List.append_assoc]
      exact unauthenticated middle request rest split)
    rw [List.append_assoc] at final
    exact final

def sampleImage : List UInt8 := 0xE9 :: List.replicate 31 0 ++ [0x32, 0x54, 0xCD, 0xAB, 7, 0, 0, 0]

example : calls 7 (startSession [65])
    [.start [65] [49, 50, 51, 52, 53, 54] 123456 0 (fun _ => true), .write sampleImage 40, .finish 40 true true,
      .complete false] = [.checkPin true, .updateWrite sampleImage, .updateEnd, .reboot] := by decide +kernel

end SigurdOS.Ota
