import SigurdOS.Bytes.LittleEndian
import SigurdOS.Companion.Host
import SigurdOS.Library.Runs

namespace SigurdOS.Comms

open Bytes Companion Runs

/-- One turn of the loop in `writeBytes`: whether the network may be used, whether the socket is writable, how many of
    the remaining bytes `write` takes, and whether the time limit has passed. -/
structure SocketTick where
  allowed : Bool
  writable : Bool
  count : Nat
  expired : Bool

/-- The answer and the bytes that the socket took; the time limit passes at the end of the ticks. -/
def writeBytes : List UInt8 → List SocketTick → Bool × List UInt8
  | [], _ => (true, [])
  | _ :: _, [] => (false, [])
  | byte :: data, tick :: ticks =>
    if tick.allowed = false then (false, [])
    else if tick.writable = true ∧ 0 < tick.count then
      let outcome := writeBytes ((byte :: data).drop tick.count) ticks
      (outcome.1, (byte :: data).take tick.count ++ outcome.2)
    else if tick.expired then (false, [])
    else writeBytes (byte :: data) ticks

def encodedFrame (payload : List UInt8) : List UInt8 := 62 :: leBytes 2 payload.length ++ payload

def FrameFits (payload : List UInt8) : Prop := 0 < payload.length ∧ payload.length ≤ maxFrameSize

instance (payload : List UInt8) : Decidable (FrameFits payload) := inferInstanceAs (Decidable (_ ∧ _))

def encodeCompanionTransportFrame (capacity : Nat) (payload : List UInt8) : Option (List UInt8) :=
  if ¬ FrameFits payload ∨ capacity < payload.length + 3 then none else some (encodedFrame payload)

structure WriteCall where
  frame : List UInt8
  allowed : Bool
  ticks : List SocketTick

def writeToClient (call : WriteCall) : Nat × List UInt8 :=
  if ¬ FrameFits call.frame ∨ call.allowed = false then (0, [])
  else
    match encodeCompanionTransportFrame (maxFrameSize + 3) call.frame with
    | none => (0, [])
    | some encoded =>
      match writeBytes encoded call.ticks with
      | (true, taken) => (call.frame.length, taken)
      | (false, taken) => (0, taken)

/-- What the client has received and the frames reported as sent. `torn` says that a call stopped within its frame;
    no code reads it. -/
structure ClientStream where
  received : List UInt8
  reported : List (List UInt8)
  torn : Bool
  deriving DecidableEq

def tcpStep (stream : ClientStream) (call : WriteCall) : ClientStream :=
  let outcome := writeToClient call
  { received := stream.received ++ outcome.2
    reported := if outcome.1 ≠ 0 then stream.reported ++ [call.frame] else stream.reported
    torn := stream.torn || (outcome.1 == 0 && outcome.2 != []) }

def freshStream : ClientStream := ⟨[], [], false⟩

inductive ParserState where
  | seekMarker
  | lengthLow
  | lengthHigh
  | payload
  deriving DecidableEq

/-- `CompanionFrameParser`, with the payload received so far as a list. -/
structure FrameParser where
  state : ParserState := .seekMarker
  expected : Nat := 0
  received : List UInt8 := []
  ready : Bool := false
  deriving DecidableEq

def FrameParser.push (marker : UInt8) (parser : FrameParser) (byte : UInt8) : FrameParser :=
  if parser.ready then parser
  else
    match parser.state with
    | .seekMarker => if byte = marker then { parser with state := .lengthLow } else parser
    | .lengthLow => { parser with state := .lengthHigh, expected := byte.toNat }
    | .lengthHigh =>
      let expected := parser.expected + 256 * byte.toNat
      if expected = 0 ∨ expected > maxFrameSize then
        if byte = marker then { state := .lengthLow } else {}
      else { parser with state := .payload, expected := expected, received := [] }
    | .payload =>
      let received := parser.received ++ [byte]
      if received.length = parser.expected then
        { parser with state := .seekMarker, received := received, ready := true }
      else { parser with received := received }

def receiveByte (marker : UInt8) (client : FrameParser × List (List UInt8)) (byte : UInt8) :
    FrameParser × List (List UInt8) :=
  let parser := client.1.push marker byte
  if parser.ready then ({ parser with expected := 0, received := [], ready := false }, client.2 ++ [parser.received])
  else (parser, client.2)

def decodedFrames (marker : UInt8) (stream : List UInt8) : List (List UInt8) :=
  (stream.foldl (receiveByte marker) ({}, [])).2

/-- The stream is made of the reported frames and at most the beginning of one more, and decodes to the reported
    frames. -/
structure Framed (stream : ClientStream) : Prop where
  whole : ∃ rest next, stream.received = (stream.reported.map encodedFrame).flatten ++ rest ∧ FrameFits next ∧
    rest <+: encodedFrame next ∧ rest.length < (encodedFrame next).length
  decoded : decodedFrames 62 stream.received = stream.reported

def TakesNothing : List SocketTick → Prop
  | [] => True
  | tick :: ticks =>
    tick.allowed = false ∨ ¬ (tick.writable = true ∧ 0 < tick.count) ∧ (tick.expired = true ∨ TakesNothing ticks)

/-- Behind a torn frame a call is refused at once or finds a socket that takes nothing. -/
def StreamWhole (stream : ClientStream) (call : WriteCall) : Prop :=
  stream.torn = true → ¬ FrameFits call.frame ∨ call.allowed = false ∨ TakesNothing call.ticks

section Writing

theorem writeBytes_spec (data : List UInt8) (ticks : List SocketTick) :
    writeBytes data ticks = (true, data) ∨
      ∃ taken, writeBytes data ticks = (false, taken) ∧ taken <+: data ∧ taken.length < data.length := by
  induction ticks generalizing data with
  | nil =>
    cases data with
    | nil => exact Or.inl rfl
    | cons byte data => exact Or.inr ⟨[], rfl, List.nil_prefix, Nat.zero_lt_succ _⟩
  | cons tick ticks ih =>
    cases data with
    | nil => exact Or.inl rfl
    | cons byte data =>
      have nothing : ([] : List UInt8) <+: byte :: data ∧ ([] : List UInt8).length < (byte :: data).length :=
        ⟨List.nil_prefix, Nat.zero_lt_succ _⟩
      unfold writeBytes
      split
      · exact Or.inr ⟨[], rfl, nothing⟩
      · split
        · rcases ih ((byte :: data).drop tick.count) with done | ⟨taken, failed, early, short⟩
          · rw [done]
            exact Or.inl (congrArg (Prod.mk true) (List.take_append_drop _ _))
          · rw [failed]
            refine Or.inr ⟨_, rfl, ?_, ?_⟩
            · have joined := (List.prefix_append_right_inj ((byte :: data).take tick.count)).mpr early
              rwa [List.take_append_drop] at joined
            · have split := congrArg List.length (List.take_append_drop tick.count (byte :: data))
              rw [List.length_append] at split ⊢
              dsimp only
              omega
        · split
          · exact Or.inr ⟨[], rfl, nothing⟩
          · exact ih (byte :: data)

theorem writeBytes_nothing {data : List UInt8} {ticks : List SocketTick} (some_data : data ≠ [])
    (silent : TakesNothing ticks) : writeBytes data ticks = (false, []) := by
  induction ticks with
  | nil =>
    cases data with
    | nil => exact absurd rfl some_data
    | cons byte data => rfl
  | cons tick ticks ih =>
    cases data with
    | nil => exact absurd rfl some_data
    | cons byte data =>
      unfold writeBytes
      rcases silent with refused | ⟨idle, beyond | later⟩
      · rw [if_pos refused]
      · rw [if_neg idle, if_pos beyond]
        split <;> rfl
      · rw [if_neg idle, ih later]
        split
        · rfl
        · split <;> rfl

theorem writeToClient_open {call : WriteCall} (fits : FrameFits call.frame) (allowed : ¬ call.allowed = false) :
    writeToClient call =
      match writeBytes (encodedFrame call.frame) call.ticks with
      | (true, taken) => (call.frame.length, taken)
      | (false, taken) => (0, taken) := by
  have encoded : encodeCompanionTransportFrame (maxFrameSize + 3) call.frame = some (encodedFrame call.frame) := by
    unfold encodeCompanionTransportFrame
    rw [if_neg]
    rw [not_or, not_not]
    exact ⟨fits, by have := fits.2; omega⟩
  unfold writeToClient
  rw [if_neg (not_or.mpr ⟨not_not.mpr fits, allowed⟩), encoded]

theorem writeToClient_spec (call : WriteCall) :
    FrameFits call.frame ∧ writeToClient call = (call.frame.length, encodedFrame call.frame) ∨
      writeToClient call = (0, []) ∨
      FrameFits call.frame ∧ ∃ taken, writeToClient call = (0, taken) ∧ taken ≠ [] ∧
        taken <+: encodedFrame call.frame ∧ taken.length < (encodedFrame call.frame).length := by
  by_cases refused : ¬ FrameFits call.frame ∨ call.allowed = false
  · exact Or.inr (Or.inl (if_pos refused))
  rw [not_or, not_not] at refused
  obtain ⟨fits, allowed⟩ := refused
  rw [writeToClient_open fits allowed]
  rcases writeBytes_spec (encodedFrame call.frame) call.ticks with done | ⟨taken, failed, early, short⟩
  · rw [done]
    exact Or.inl ⟨fits, rfl⟩
  · rw [failed]
    by_cases none : taken = []
    · rw [none]
      exact Or.inr (Or.inl rfl)
    · exact Or.inr (Or.inr ⟨fits, taken, rfl, none, early, short⟩)

theorem writeToClient_silent {call : WriteCall}
    (silent : ¬ FrameFits call.frame ∨ call.allowed = false ∨ TakesNothing call.ticks) :
    writeToClient call = (0, []) := by
  by_cases refused : ¬ FrameFits call.frame ∨ call.allowed = false
  · exact if_pos refused
  rw [not_or, not_not] at refused
  obtain ⟨fits, allowed⟩ := refused
  have idle : TakesNothing call.ticks := (silent.resolve_left (not_not.mpr fits)).resolve_left allowed
  have nothing : writeBytes (encodedFrame call.frame) call.ticks = (false, []) :=
    writeBytes_nothing (List.cons_ne_nil _ _) idle
  rw [writeToClient_open fits allowed, nothing]

end Writing

section Decoding

variable {marker : UInt8} {frames : List (List UInt8)}

theorem receive_payload {expected : Nat} {received : List UInt8} (bytes : List UInt8)
    (short : received.length + bytes.length < expected) :
    bytes.foldl (receiveByte marker) (⟨.payload, expected, received, false⟩, frames) =
      (⟨.payload, expected, received ++ bytes, false⟩, frames) := by
  induction bytes generalizing received with
  | nil => rw [List.append_nil, List.foldl_nil]
  | cons byte rest ih =>
    rw [List.length_cons] at short
    have unfinished : received.length + 1 ≠ expected := by omega
    have pushed : receiveByte marker (⟨.payload, expected, received, false⟩, frames) byte =
        (⟨.payload, expected, received ++ [byte], false⟩, frames) := by
      simp [receiveByte, FrameParser.push, unfinished]
    rw [List.foldl_cons, pushed, ih (by rw [List.length_append, List.length_singleton]; omega), List.append_assoc,
      List.singleton_append]

theorem receive_last {expected : Nat} {received : List UInt8} {byte : UInt8} (full : received.length + 1 = expected) :
    receiveByte marker (⟨.payload, expected, received, false⟩, frames) byte = ({}, frames ++ [received ++ [byte]]) := by
  simp [receiveByte, FrameParser.push, full]

theorem receive_header {payload : List UInt8} (fits : FrameFits payload) :
    (marker :: leBytes 2 payload.length).foldl (receiveByte marker) ({}, frames) =
      (⟨.payload, payload.length, [], false⟩, frames) := by
  obtain ⟨positive, bounded⟩ := fits
  have limit : payload.length ≤ 172 := bounded
  have low : (UInt8.ofNat payload.length).toNat = payload.length := by
    rw [UInt8.toNat_ofNat']
    omega
  have high : UInt8.ofNat (payload.length / 256) = 0 := by
    rw [Nat.div_eq_of_lt (by omega)]
    rfl
  have sized : ¬ (payload.length = 0 ∨ payload.length > maxFrameSize) := by omega
  simp only [leBytes, List.foldl_cons, List.foldl_nil, high]
  simp only [receiveByte, FrameParser.push, low, UInt8.toNat_zero, Nat.mul_zero, Nat.add_zero]
  simp only [Bool.false_eq_true, if_false, if_true]
  rw [if_neg sized]
  rfl

theorem receive_frame {payload : List UInt8} (fits : FrameFits payload) :
    (marker :: leBytes 2 payload.length ++ payload).foldl (receiveByte marker) ({}, frames) =
      ({}, frames ++ [payload]) := by
  obtain ⟨body, last, split⟩ : ∃ body last, payload = body ++ [last] :=
    ⟨payload.dropLast, payload.getLast (List.ne_nil_of_length_pos fits.1), (List.dropLast_append_getLast _).symm⟩
  have size : payload.length = body.length + 1 := by rw [split, List.length_append, List.length_singleton]
  have begun := @receive_payload marker frames payload.length [] body (by rw [List.length_nil]; omega)
  rw [List.nil_append] at begun
  rw [List.foldl_append, receive_header fits]
  nth_rewrite 2 [split]
  rw [List.foldl_append, begun, List.foldl_cons, receive_last size.symm, List.foldl_nil, split]

theorem receive_beginning {next rest : List UInt8} (fits : FrameFits next)
    (early : rest <+: marker :: leBytes 2 next.length ++ next) (short : rest.length < next.length + 3) :
    (rest.foldl (receiveByte marker) ({}, frames)).2 = frames := by
  rw [List.prefix_iff_eq_take.mp early]
  by_cases header : 3 ≤ rest.length
  · have cut : (marker :: leBytes 2 next.length ++ next).take rest.length =
        (marker :: leBytes 2 next.length) ++ next.take (rest.length - 3) := by
      rw [List.take_append, List.take_of_length_le (by simpa using header)]
      rfl
    rw [cut, List.foldl_append, receive_header fits,
      receive_payload _ (by rw [List.length_take, List.length_nil]; omega)]
  · have few : rest.length = 0 ∨ rest.length = 1 ∨ rest.length = 2 := by omega
    rcases few with none | one | two
    · rw [none]
      rfl
    · rw [one]
      simp [receiveByte, FrameParser.push]
    · rw [two]
      simp [receiveByte, FrameParser.push, leBytes]

theorem receive_frames {sent : List (List UInt8)} (fit : ∀ frame ∈ sent, FrameFits frame) :
    ((sent.map encodedFrame).flatten).foldl (receiveByte 62) ({}, frames) = ({}, frames ++ sent) := by
  induction sent generalizing frames with
  | nil => rw [List.append_nil]; rfl
  | cons frame rest ih =>
    rw [List.map_cons, List.flatten_cons, List.foldl_append, encodedFrame, receive_frame (fit frame List.mem_cons_self),
      ih (fun other inside => fit other (List.mem_cons_of_mem _ inside)), List.append_assoc, List.singleton_append]

end Decoding

structure StreamInv (stream : ClientStream) : Prop where
  fit : ∀ frame ∈ stream.reported, FrameFits frame
  even : stream.torn = false → stream.received = (stream.reported.map encodedFrame).flatten
  whole : ∃ rest next, stream.received = (stream.reported.map encodedFrame).flatten ++ rest ∧ FrameFits next ∧
    rest <+: encodedFrame next ∧ rest.length < (encodedFrame next).length

theorem StreamInv.framed {stream : ClientStream} (inv : StreamInv stream) : Framed stream := by
  refine ⟨inv.whole, ?_⟩
  obtain ⟨rest, next, received, fits, early, short⟩ := inv.whole
  unfold decodedFrames
  rw [received, List.foldl_append, receive_frames inv.fit, List.nil_append]
  apply receive_beginning fits early
  have size : (encodedFrame next).length = next.length + 3 := by
    rw [encodedFrame, List.length_append, List.length_cons, length_leBytes]
    omega
  omega

theorem tcpStep_inv (stream : ClientStream) (call : WriteCall) (inv : StreamInv stream)
    (met : StreamWhole stream call) :
    StreamInv (tcpStep stream call) := by
  have untorn : writeToClient call ≠ (0, []) → stream.torn = false := by
    intro busy
    rw [← Bool.not_eq_true]
    intro torn
    exact busy (writeToClient_silent (met torn))
  unfold tcpStep
  rcases writeToClient_spec call with ⟨fits, sent⟩ | refused | ⟨fits, taken, stopped, some_taken, early, short⟩
  · have counted : call.frame.length ≠ 0 := Nat.ne_of_gt fits.1
    have even := inv.even (untorn (by rw [sent]; simp [counted]))
    have joined : stream.received ++ encodedFrame call.frame =
        ((stream.reported ++ [call.frame]).map encodedFrame).flatten := by
      rw [even, List.map_append, List.flatten_append, List.map_singleton, List.flatten_singleton]
    rw [sent]
    dsimp only
    rw [if_pos counted]
    refine ⟨?_, fun _ => joined, [], call.frame,
      by rw [joined, List.append_nil], fits, List.nil_prefix, Nat.zero_lt_succ _⟩
    intro frame inside
    rcases List.mem_append.mp inside with old | new
    · exact inv.fit frame old
    · rw [List.mem_singleton.mp new]
      exact fits
  · rw [refused]
    dsimp only
    rw [if_neg (not_not.mpr rfl), List.append_nil]
    refine ⟨inv.fit, fun whole => inv.even ?_, inv.whole⟩
    rw [Bool.or_eq_false_iff] at whole
    exact whole.1
  · have even := inv.even (untorn (by rw [stopped]; simp [some_taken]))
    rw [stopped]
    dsimp only
    rw [if_neg (not_not.mpr rfl)]
    refine ⟨inv.fit, ?_, taken, call.frame, by rw [even], fits, early, short⟩
    intro whole
    simp [some_taken] at whole

theorem tcp_output_framed {calls : List WriteCall} (meets : Along tcpStep StreamWhole freshStream calls) :
    Framed (run tcpStep freshStream calls) := by
  have start : StreamInv freshStream :=
    ⟨by simp [freshStream], fun _ => rfl, [], [0], rfl, by decide, List.nil_prefix, by decide⟩
  exact (run_invariant_along StreamInv start (fun stream call inv met => tcpStep_inv stream call inv met) meets).framed

def takesAll (count : Nat) : SocketTick := ⟨true, true, count, false⟩

def timedOut : SocketTick := ⟨true, false, 0, true⟩

/-- A sent frame, and one that the socket cuts off, are followed by calls that find the network parked. -/
theorem cutOff_framed :
    Framed (run tcpStep freshStream [⟨[7], true, [takesAll 4]⟩, ⟨[8], true, [takesAll 2, timedOut]⟩,
        ⟨[8], false, []⟩]) :=
  tcp_output_framed
    ⟨fun torn => absurd torn (by decide), fun torn => absurd torn (by decide), fun _ => Or.inr (Or.inl rfl), trivial⟩

/-- The same frame sent again behind its first byte. -/
theorem retriedFrame_unframed :
    run tcpStep freshStream [⟨[1], true, [takesAll 1, timedOut]⟩, ⟨[1], true, [takesAll 4]⟩] =
        ⟨[62, 62, 1, 0, 1], [[1]], true⟩ ∧
      ¬ Framed (run tcpStep freshStream [⟨[1], true, [takesAll 1, timedOut]⟩, ⟨[1], true, [takesAll 4]⟩]) := by
  refine ⟨by decide, ?_⟩
  intro framed
  exact absurd framed.decoded (by decide)

end SigurdOS.Comms
