import SigurdOS.Companion.Requests

namespace SigurdOS.Companion

open Bytes MessageStore

def pushCodeTraceData : UInt8 := 0x89

/-- The result of a trace. An array that a caller passes as null is `none`. -/
structure TraceResult where
  tag : UInt32
  auth : UInt32
  flags : UInt8
  pathHashes : Option (List UInt8)
  pathSnrs : Option (List UInt8)
  pathLen : UInt8
  finalSnrQuarters : UInt8

def traceHashSize (flags : UInt8) : Nat := 1 <<< (flags &&& 0x03).toNat

section Push

variable {σ : Type} (s : State σ) (result : TraceResult)

def traceDataFrame : Option (List UInt8) :=
  let pathLen := result.pathLen.toNat
  let snrCount := pathLen / traceHashSize result.flags
  if pathLen > Path.maxEncodedPathBytes ∨ pathLen % traceHashSize result.flags ≠ 0 ∨
      (0 < pathLen ∧ result.pathHashes = none) then none
  else if 0 < snrCount ∧ result.pathSnrs = none then none
  else if 12 + pathLen + snrCount + 1 > maxFrameSize then none
  else some ([pushCodeTraceData, 0, result.pathLen, result.flags] ++ word result.tag ++ word result.auth ++
    (result.pathHashes.getD []).take pathLen ++ (result.pathSnrs.getD []).take snrCount ++ [result.finalSnrQuarters])

def pushTraceData : Bool × State σ :=
  if !isConnected s then (false, s)
  else
    match traceDataFrame result with
    | none => (false, s)
    | some frame => sendPushFrame (s.logWrite 0 frame.length) frame

/-- The last result that the mesh keeps, with arrays of `MAX_PATH_SIZE` bytes. -/
structure LastTrace where
  tag : UInt32
  len : UInt8
  hashBytes : UInt8
  snrs : List UInt8
  hashes : List UInt8
  hasResult : Bool

def copyOver (bytes array : List UInt8) : List UInt8 := bytes ++ array.drop bytes.length

def LastTrace.record (last : LastTrace) (pathSnrs pathHashes : List UInt8) : LastTrace where
  tag := result.tag
  len := UInt8.ofNat (result.pathLen.toNat / traceHashSize result.flags)
  hashBytes := result.pathLen
  snrs := copyOver (pathSnrs.take (result.pathLen.toNat / traceHashSize result.flags)) last.snrs
  hashes := copyOver (pathHashes.take result.pathLen.toNat) last.hashes
  hasResult := true

/-- The bridge is `none` until something has created it. -/
def onTraceRecv (last : LastTrace) (bridge : Option (State σ)) : LastTrace × Option (State σ) :=
  let pathLen := result.pathLen.toNat
  if pathLen > Path.maxEncodedPathBytes ∨ pathLen % traceHashSize result.flags ≠ 0 ∨
      (0 < pathLen ∧ (result.pathSnrs = none ∨ result.pathHashes = none)) then (last, bridge)
  else (last.record result (result.pathSnrs.getD []) (result.pathHashes.getD []),
    bridge.map fun s => (pushTraceData s result).2)

end Push

section Answers

variable {σ : Type} {frame : List UInt8} {result : TraceResult}

/-- The result has the flags and the path length of the request, with one SNR sample a hop. -/
structure TraceResult.Answers (result : TraceResult) (frame : List UInt8) : Prop where
  flags : result.flags = frame.getD 9 0
  pathLen : result.pathLen.toNat = frame.length - 10
  hashes : ∃ hashes, result.pathHashes = some hashes ∧ hashes.length = frame.length - 10
  snrs : ∃ snrs, result.pathSnrs = some snrs ∧
    snrs.length = (frame.length - 10) / traceHashSize (frame.getD 9 0)

/-- The result goes out to the clients in a frame that fits. -/
def TraceAccepted (bridge : State σ) (result : TraceResult) : Prop :=
  ∃ frame, validFrame frame = true ∧
    pushTraceData bridge result = sendPushFrame (bridge.logWrite 0 frame.length) frame

theorem traceDataFrame_accepts (answers : result.Answers frame)
    (whole : (frame.length - 10) % traceHashSize (frame.getD 9 0) = 0)
    (short : frame.length - 10 ≤ Path.maxEncodedPathBytes) :
    ∃ pushed, traceDataFrame result = some pushed ∧ validFrame pushed = true := by
  obtain ⟨flags, pathLen, ⟨hashes, hashesGiven, hashesLength⟩, snrs, snrsGiven, snrsLength⟩ := answers
  have hops : (frame.length - 10) / traceHashSize (frame.getD 9 0) ≤ frame.length - 10 := Nat.div_le_self ..
  unfold Path.maxEncodedPathBytes at short
  unfold traceDataFrame
  rw [pathLen, flags, hashesGiven, snrsGiven, if_neg, if_neg (by simp), if_neg (by unfold maxFrameSize; omega)]
  rotate_left
  · unfold Path.maxEncodedPathBytes
    rw [whole]
    simp only [reduceCtorEq, and_false, or_false]
    omega
  refine ⟨_, rfl, ?_⟩
  simp only [validFrame, maxFrameSize, Option.getD_some, List.length_append, List.length_cons, List.length_nil,
    List.length_take, length_leBytes, word, hashesLength, snrsLength, Bool.and_eq_true, decide_eq_true_eq]
  omega

theorem traceDataFrame_refuses (answers : result.Answers frame) (long : Path.maxEncodedPathBytes < frame.length - 10) :
    traceDataFrame result = none := by
  unfold traceDataFrame
  rw [answers.pathLen]
  apply if_pos
  exact Or.inl long

theorem onTraceRecv_accepts (answers : result.Answers frame)
    (whole : (frame.length - 10) % traceHashSize (frame.getD 9 0) = 0)
    (short : frame.length - 10 ≤ Path.maxEncodedPathBytes)
    (last : LastTrace) (bridge : Option (State σ)) :
    (onTraceRecv result last bridge).2 = bridge.map fun s => (pushTraceData s result).2 := by
  obtain ⟨flags, pathLen, ⟨hashes, hashesGiven, -⟩, snrs, snrsGiven, -⟩ := answers
  unfold onTraceRecv
  rw [pathLen, flags, hashesGiven, snrsGiven, if_neg]
  simp only [whole, reduceCtorEq, or_self, and_false, or_false, ne_eq, not_true_eq_false]
  omega

theorem onTraceRecv_refuses (answers : result.Answers frame) (long : Path.maxEncodedPathBytes < frame.length - 10)
    (last : LastTrace) (bridge : Option (State σ)) : onTraceRecv result last bridge = (last, bridge) := by
  unfold onTraceRecv
  rw [answers.pathLen]
  apply if_pos
  exact Or.inl long

end Answers

section Requests

variable {σ : Type} {h : CompanionBridgeHost σ} {build : Build} {s : State σ} {frame : List UInt8}

theorem ends_byteAt {work : Work σ} (frame : List UInt8) (i : Nat) :
    Ends (byteAt frame i) work fun value _ => value = (cmdFrame frame).getD i 0 := ⟨rfl, rfl⟩

theorem ends_wordAt {work : Work σ} (frame : List UInt8) (i : Nat) :
    Ends (wordAt frame i) work fun _ _ => True := ⟨trivial, rfl⟩

theorem sendTracePath_sent (work : Work σ) : Ends (sendTracePath h frame) work fun reply _ =>
    reply.head? = some respCodeSent →
      (frame.length - 10) % traceHashSize ((cmdFrame frame).getD 9 0) = 0 := by
  unfold sendTracePath
  refine ends_bind (ends_byteAt frame 9) fun flags first given => ?_
  subst given
  dsimp only
  split
  · apply ends_pure
    simp [errFrame, respCodeSent]
  · rename_i shaped
    have whole : (frame.length - 10) % traceHashSize ((cmdFrame frame).getD 9 0) = 0 := by
      rw [not_or, not_not] at shaped
      exact shaped.2
    refine ends_bind (ends_wordAt _ _) fun tag second _ => ends_bind (ends_wordAt _ _) fun auth third _ =>
      ends_bind (ends_bytesAt _ _ _) fun path fourth _ => ends_bind (ends_call _) fun result fifth _ => ?_
    split
    · have sent := @ends_respondAt σ fifth [[respCodeSent, 0], word tag, word result.estTimeout] 0
      exact ⟨fun _ => whole, sent.2⟩
    · exact ends_pure fun _ => whole

theorem runCommand_trace (build : Build) (s : State σ) (frame : List UInt8) : ∃ reply,
    (runCommand h build s frame .sendTracePath).trace.responses = s.trace.responses ++ [reply] ∧
      (reply.head? = some respCodeSent →
        (frame.length - 10) % traceHashSize ((cmdFrame frame).getD 9 0) = 0) := by
  have ends := @sendTracePath_sent σ h frame ⟨s.host, !s.current.pendingResponse.isEmpty, s.trace⟩
  refine ⟨_, ?_, ends.1⟩
  have replied := sendResponseFrame_writes (s.worked s.current
    ((sendTracePath h frame).run ⟨s.host, !s.current.pendingResponse.isEmpty, s.trace⟩).2.host
    ((sendTracePath h frame).run ⟨s.host, !s.current.pendingResponse.isEmpty, s.trace⟩).2.trace)
    ((sendTracePath h frame).run ⟨s.host, !s.current.pendingResponse.isEmpty, s.trace⟩).1
  rw [← ends.2]
  exact replied.2

/-- The bridge takes the frame as a trace request, and the mesh sends it. -/
structure TraceTransmitted (h : CompanionBridgeHost σ) (build : Build) (s : State σ) (frame : List UInt8) : Prop where
  command : commandOf (frame.headD 0) = some .sendTracePath
  taken : (handleFrame h build s frame).1 = true
  sent : ∃ reply, (handleFrame h build s frame).2.trace.responses = s.trace.responses ++ [reply] ∧
    reply.head? = some respCodeSent

theorem TraceTransmitted.shape (transmitted : TraceTransmitted h build s frame) : 10 < frame.length ∧
    frame.length ≤ maxFrameSize ∧ (frame.length - 10) % traceHashSize (frame.getD 9 0) = 0 := by
  obtain ⟨command, taken, reply, sent, code⟩ := transmitted
  obtain ⟨noted, arrival⟩ : ∃ noted, noted = s.note (.received s.request (currentGeneration s) frame) := ⟨_, rfl⟩
  have told : (expirePendingBinary h (refreshConnectionSession h noted)).trace.responses = s.trace.responses := by
    rw [expirePendingBinary_responses, (refreshConnectionSession_current noted).2, arrival]
    rfl
  unfold handleFrame at taken sent
  rw [← arrival] at taken sent
  split at taken
  · cases taken
  rename_i valid
  rw [if_neg valid] at sent
  dsimp only at taken sent
  split at taken
  · cases taken
  rename_i free
  rw [if_neg free] at sent
  unfold dispatchCommand at sent
  rw [command] at sent
  dsimp only at sent
  split at sent
  · rw [(sendResponseFrame_writes _ _).2, told] at sent
    have same : errFrame .illegalArg = reply := by simpa using sent
    subst same
    cases code
  rename_i long
  have minimum : 11 ≤ frame.length := by simpa [commandMinimumLength] using long
  have bounded : 0 < frame.length ∧ frame.length ≤ maxFrameSize := by
    simpa [validFrame, List.length_pos_iff] using valid
  rw [if_neg (by simp)] at sent
  generalize expirePendingBinary h (refreshConnectionSession h noted) = ready at told sent
  obtain ⟨answer, answered, whole⟩ := runCommand_trace (h := h) build
    { ready with trace := { ready.trace with reads := ready.trace.reads ++ [(0, 1)] } } frame
  rw [answered, told] at sent
  obtain rfl : answer = reply := by simpa using sent
  refine ⟨by omega, bounded.2, ?_⟩
  have flags : (cmdFrame frame).getD 9 0 = frame.getD 9 0 := by
    simp [cmdFrame, List.getElem?_append, show 9 < frame.length by omega]
  rw [← flags]
  exact whole code

theorem pushTraceData_accepts {result : TraceResult} {bridge : State σ} {pushed : List UInt8}
    (connected : isConnected bridge = true) (formed : traceDataFrame result = some pushed) :
    pushTraceData bridge result = sendPushFrame (bridge.logWrite 0 pushed.length) pushed := by
  simp [pushTraceData, connected, formed]

theorem pushTraceData_refuses {result : TraceResult} (formed : traceDataFrame result = none) (bridge : State σ) :
    pushTraceData bridge result = (false, bridge) := by
  simp [pushTraceData, formed]

theorem not_traceAccepted {result : TraceResult} (formed : traceDataFrame result = none) (bridge : State σ) :
    ¬ TraceAccepted bridge result := by
  intro ⟨pushed, _, same⟩
  rw [pushTraceData_refuses formed] at same
  obtain ⟨accepts, events, sent, -⟩ := sendPushFrame_transmits (bridge.logWrite 0 pushed.length) pushed
  have written := congrArg (fun after : Bool × State σ => after.2.trace.writes.length) same
  rw [sent] at written
  simp [State.sent, State.logWrite] at written

def emptyResult (frame : List UInt8) : TraceResult where
  tag := 0
  auth := 0
  flags := frame.getD 9 0
  pathHashes := some (List.replicate (frame.length - 10) 0)
  pathSnrs := some (List.replicate ((frame.length - 10) / traceHashSize (frame.getD 9 0)) 0)
  pathLen := UInt8.ofNat (frame.length - 10)
  finalSnrQuarters := 0

theorem emptyResult_answers (bounded : frame.length ≤ maxFrameSize) : (emptyResult frame).Answers frame := by
  unfold maxFrameSize at bounded
  constructor
  · rfl
  · simp [emptyResult]
    omega
  · exact ⟨_, rfl, by simp⟩
  · exact ⟨_, rfl, by simp⟩

/-- A trace that the bridge lets through is answerable exactly when its path is within the bound of the
    path codec. The result of a longer one is dropped by the mesh, so that the trace only times out. -/
theorem trace_answerable_iff (h : CompanionBridgeHost σ) (build : Build) (s : State σ) (frame : List UInt8)
    (transmitted : TraceTransmitted h build s frame) :
    ((∀ (bridge : State σ) (result : TraceResult), isConnected bridge = true → result.Answers frame →
        TraceAccepted bridge result) ↔ frame.length - 10 ≤ Path.maxEncodedPathBytes) ∧
      ∀ (last : LastTrace) (bridge : Option (State σ)) (result : TraceResult), result.Answers frame →
        if frame.length - 10 ≤ Path.maxEncodedPathBytes then
          (onTraceRecv result last bridge).2 = bridge.map fun s => (pushTraceData s result).2
        else onTraceRecv result last bridge = (last, bridge) := by
  obtain ⟨-, bounded, whole⟩ := transmitted.shape
  constructor
  · constructor
    · intro accepted
      by_contra long
      have connected : isConnected { s with links := { s.links with serialConnected := true } } = true := by
        simp [isConnected]
      have answers := emptyResult_answers bounded
      have refused := traceDataFrame_refuses answers (by omega)
      exact not_traceAccepted refused _ (accepted _ _ connected answers)
    · intro short bridge result connected answers
      obtain ⟨pushed, formed, valid⟩ := traceDataFrame_accepts answers whole short
      exact ⟨pushed, valid, pushTraceData_accepts connected formed⟩
  · intro last bridge result answers
    split
    · rename_i short
      exact onTraceRecv_accepts answers whole short last bridge
    · rename_i long
      exact onTraceRecv_refuses answers (by omega) last bridge

end Requests

namespace Device

/-- The adapter with a mesh that sends every trace. -/
def tracingHost : CompanionBridgeHost Device :=
  { host with sendTracePath := fun tag _ _ _ device => (⟨true, false, tag, 4000⟩, device) }

def pairedBridge : State Device := State.boot false blank (MessageStore.Store.initial none) paired

/-- A request with two-byte hashes along the path. -/
def traceRequest (path : List UInt8) : List UInt8 := [36, 1, 0, 0, 0, 2, 0, 0, 0, 1] ++ path

end Device

open Device

theorem oneHopTrace_answerable : (∀ (bridge : State Device) (result : TraceResult), isConnected bridge = true →
    result.Answers (traceRequest [7, 8]) → TraceAccepted bridge result) ↔ 2 ≤ Path.maxEncodedPathBytes :=
  (trace_answerable_iff tracingHost build pairedBridge (traceRequest [7, 8])
    ⟨by decide, by decide +kernel, [6, 0, 1, 0, 0, 0, 160, 15, 0, 0], by decide +kernel, rfl⟩).1

/-- Thirty-three hops of two bytes pass the bound on hops, and their result does not fit the path arrays. -/
theorem thirtyThreeHops_unanswered : ¬ ∀ (frame : List UInt8), TraceTransmitted tracingHost build pairedBridge frame →
    ∀ (bridge : State Device) (result : TraceResult), isConnected bridge = true → result.Answers frame →
      TraceAccepted bridge result := by
  intro answered
  have transmitted : TraceTransmitted tracingHost build pairedBridge (traceRequest (List.replicate 66 7)) :=
    ⟨by decide, by decide +kernel, [6, 0, 1, 0, 0, 0, 160, 15, 0, 0], by decide +kernel, rfl⟩
  have answers := @emptyResult_answers (traceRequest (List.replicate 66 7)) (by decide)
  exact not_traceAccepted (traceDataFrame_refuses answers (by decide)) pairedBridge
    (answered _ transmitted pairedBridge _ (by decide) answers)

end SigurdOS.Companion
