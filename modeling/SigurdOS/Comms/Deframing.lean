import SigurdOS.Comms.TransportTcp

namespace SigurdOS.Comms

open Bytes Companion Runs

def inboundFrame (payload : List UInt8) : List UInt8 := 60 :: leBytes 2 payload.length ++ payload

/-- Frames, each behind the bytes that precede it. -/
def framed : List (List UInt8 × List UInt8) → List UInt8
  | [] => []
  | (gap, payload) :: rest => gap ++ inboundFrame payload ++ framed rest

def FrameParser.completes (parser : FrameParser) (byte : UInt8) : Bool :=
  !parser.ready && (parser.push 60 byte).ready

/-- The place in the payload buffer that `push` writes to next. -/
def FrameParser.payloadIndex (parser : FrameParser) : Option Nat :=
  if parser.ready = false ∧ parser.state = .payload then some parser.received.length else none

def FrameParser.take (parser : FrameParser) (capacity : Nat) : Option (List UInt8) × FrameParser :=
  if parser.ready = false ∨ capacity < parser.expected then (none, parser)
  else (some (parser.received.take parser.expected), { parser with expected := 0, received := [], ready := false })

inductive ParserCall where
  | push (byte : UInt8)
  | take (capacity : Nat)
  | reset
  deriving DecidableEq

/-- The parser with the bytes it accepted and the payloads it gave out; no code keeps the two lists. -/
structure Intake where
  parser : FrameParser
  accepted : List UInt8
  produced : List (List UInt8)
  deriving DecidableEq

namespace Intake

def fresh : Intake := ⟨{}, [], []⟩

/-- A byte that meets a frame not yet taken is dropped. -/
def step (intake : Intake) : ParserCall → Intake
  | .push byte =>
    { intake with
      parser := intake.parser.push 60 byte
      accepted := if intake.parser.ready then intake.accepted else intake.accepted ++ [byte] }
  | .take capacity =>
    { intake with
      parser := (intake.parser.take capacity).2
      produced := intake.produced ++ (intake.parser.take capacity).1.toList }
  | .reset => { intake with parser := {} }

/-- One byte from a caller that takes each frame as soon as it is reported. -/
def receive (intake : Intake) (byte : UInt8) : Intake :=
  if intake.parser.completes byte then (intake.step (.push byte)).step (.take maxFrameSize)
  else intake.step (.push byte)

end Intake

/-- The bytes accepted behind the payloads given out, in each state of the parser. -/
inductive Awaits : FrameParser → List UInt8 → Prop
  | seekMarker (expected : Nat) (received rest : List UInt8) : Awaits ⟨.seekMarker, expected, received, false⟩ rest
  | lengthLow (expected : Nat) (received gap : List UInt8) :
    Awaits ⟨.lengthLow, expected, received, false⟩ (gap ++ [60])
  | lengthHigh (low : UInt8) (received gap : List UInt8) :
    Awaits ⟨.lengthHigh, low.toNat, received, false⟩ (gap ++ [60, low])
  | payload (expected : Nat) (received gap : List UInt8) (bounded : expected ≤ maxFrameSize)
      (short : received.length < expected) :
    Awaits ⟨.payload, expected, received, false⟩ (gap ++ (60 :: leBytes 2 expected ++ received))
  | ready (received gap : List UInt8) (fits : FrameFits received) :
    Awaits ⟨.seekMarker, received.length, received, true⟩ (gap ++ inboundFrame received)

structure Carved (intake : Intake) : Prop where
  found : ∃ pieces rest, intake.accepted = framed pieces ++ rest ∧ intake.produced = pieces.map Prod.snd ∧
    Awaits intake.parser rest
  fits : ∀ payload ∈ intake.produced, FrameFits payload

section Framed

theorem framed_append (before after : List (List UInt8 × List UInt8)) :
    framed (before ++ after) = framed before ++ framed after := by
  induction before with
  | nil => rfl
  | cons piece rest ih => simp only [List.cons_append, framed, ih, List.append_assoc]

theorem framed_concat (pieces : List (List UInt8 × List UInt8)) (gap payload : List UInt8) :
    framed (pieces ++ [(gap, payload)]) = framed pieces ++ (gap ++ inboundFrame payload) := by
  rw [framed_append, framed, framed, List.append_nil]

theorem framed_member {pieces : List (List UInt8 × List UInt8)} {payload : List UInt8}
    (member : payload ∈ pieces.map Prod.snd) :
    ∃ before after, framed pieces = before ++ (60 :: leBytes 2 payload.length ++ payload) ++ after := by
  obtain ⟨⟨gap, payload⟩, inside, rfl⟩ := List.mem_map.mp member
  obtain ⟨early, late, rfl⟩ := List.append_of_mem inside
  refine ⟨framed early ++ gap, framed late, ?_⟩
  rw [framed_append, framed, inboundFrame]
  simp only [List.append_assoc]

end Framed

section Steps

theorem leBytes_two {length : Nat} {low high : UInt8} (whole : length = low.toNat + 256 * high.toNat) :
    leBytes 2 length = [low, high] := by
  have number : length = leNumber [low, high] := by simp [leNumber, whole]
  rw [number]
  exact leBytes_leNumber [low, high]

theorem Awaits.push {parser : FrameParser} {rest : List UInt8} (awaits : Awaits parser rest) (byte : UInt8) :
    Awaits (parser.push 60 byte) (if parser.ready then rest else rest ++ [byte]) := by
  cases awaits with
  | seekMarker expected received =>
    by_cases marker : byte = 60
    · rw [marker]
      exact .lengthLow expected received rest
    · simp only [FrameParser.push, marker, Bool.false_eq_true, if_false]
      exact .seekMarker expected received _
  | lengthLow expected received gap =>
    have joined : gap ++ [60] ++ [byte] = gap ++ [60, byte] := by simp
    simp only [FrameParser.push, Bool.false_eq_true, if_false]
    rw [joined]
    exact .lengthHigh byte received gap
  | lengthHigh low received gap =>
    simp only [FrameParser.push, Bool.false_eq_true, if_false]
    split
    · split
      · next marker =>
        rw [marker]
        exact .lengthLow _ _ _
      · exact .seekMarker _ _ _
    · next sized =>
      rw [not_or, Nat.not_lt] at sized
      have started : gap ++ [60, low] ++ [byte] = gap ++ (60 :: leBytes 2 (low.toNat + 256 * byte.toNat) ++ []) := by
        rw [leBytes_two rfl]
        simp
      rw [started]
      exact .payload _ [] gap sized.2 (Nat.pos_of_ne_zero sized.1)
  | payload expected received gap bounded short =>
    have grown : gap ++ (60 :: leBytes 2 expected ++ received) ++ [byte] =
        gap ++ (60 :: leBytes 2 expected ++ (received ++ [byte])) := by simp
    simp only [FrameParser.push, Bool.false_eq_true, if_false]
    rw [grown]
    split
    · next full =>
      rw [← full]
      exact .ready (received ++ [byte]) gap ⟨by simp, full ▸ bounded⟩
    · next unfinished =>
      rw [List.length_append, List.length_singleton] at unfinished
      refine .payload expected (received ++ [byte]) gap bounded ?_
      rw [List.length_append, List.length_singleton]
      omega
  | ready received gap fits => exact .ready received gap fits

theorem Carved.step {intake : Intake} (carved : Carved intake) (call : ParserCall) : Carved (intake.step call) := by
  obtain ⟨⟨pieces, rest, accepted, produced, awaits⟩, fits⟩ := carved
  cases call with
  | push byte =>
    refine ⟨⟨pieces, _, ?_, produced, awaits.push byte⟩, fits⟩
    simp only [Intake.step, accepted]
    split
    · rfl
    · rw [List.append_assoc]
  | reset => exact ⟨⟨pieces, rest, accepted, produced, .seekMarker 0 [] rest⟩, fits⟩
  | take capacity =>
    by_cases refused : intake.parser.ready = false ∨ capacity < intake.parser.expected
    · have kept : intake.step (.take capacity) = intake := by
        simp [Intake.step, FrameParser.take, refused]
      rw [kept]
      exact ⟨⟨pieces, rest, accepted, produced, awaits⟩, fits⟩
    · have given : intake.step (.take capacity) = ⟨{ intake.parser with expected := 0, received := [], ready := false },
          intake.accepted, intake.produced ++ [intake.parser.received.take intake.parser.expected]⟩ := by
        simp [Intake.step, FrameParser.take, refused]
      rw [not_or, Bool.not_eq_false] at refused
      rw [given]
      generalize intake.parser = parser at awaits refused
      cases awaits with
      | ready received gap whole =>
        dsimp only
        rw [List.take_length]
        refine ⟨⟨pieces ++ [(gap, received)], [], ?_, ?_, .seekMarker 0 [] []⟩, ?_⟩
        · rw [framed_concat, accepted, List.append_nil]
        · rw [produced, List.map_append]
          rfl
        · intro payload member
          rcases List.mem_append.mp member with old | new
          · exact fits payload old
          · rw [List.mem_singleton.mp new]
            exact whole
      | seekMarker => cases refused.1
      | lengthLow => cases refused.1
      | lengthHigh => cases refused.1
      | payload => cases refused.1

theorem carved_run (calls : List ParserCall) : Carved (run Intake.step Intake.fresh calls) := by
  apply run_invariant Carved
  · exact ⟨⟨[], [], rfl, rfl, .seekMarker 0 [] []⟩, by simp [Intake.fresh]⟩
  · exact fun intake call carved => carved.step call

end Steps

section Receiving

variable {marker : UInt8} {frames : List (List UInt8)}

theorem receive_gap {gap : List UInt8} (unmarked : marker ∉ gap) :
    gap.foldl (receiveByte marker) ({}, frames) = ({}, frames) := by
  induction gap with
  | nil => rfl
  | cons byte rest ih =>
    rw [List.mem_cons, not_or] at unmarked
    have skipped : receiveByte marker ({}, frames) byte = ({}, frames) := by
      simp [receiveByte, FrameParser.push, Ne.symm unmarked.1]
    rw [List.foldl_cons, skipped, ih unmarked.2]

theorem receive_framed {pieces : List (List UInt8 × List UInt8)}
    (apart : ∀ piece ∈ pieces, 60 ∉ piece.1 ∧ FrameFits piece.2) :
    (framed pieces).foldl (receiveByte 60) ({}, frames) = ({}, frames ++ pieces.map Prod.snd) := by
  induction pieces generalizing frames with
  | nil => simp [framed]
  | cons piece rest ih =>
    obtain ⟨unmarked, fits⟩ := apart piece List.mem_cons_self
    rw [framed, List.foldl_append, List.foldl_append, receive_gap unmarked, inboundFrame, receive_frame fits,
      ih (fun other inside => apart other (List.mem_cons_of_mem _ inside)), List.map_cons, List.append_assoc,
      List.singleton_append]

theorem Awaits.index_lt {parser : FrameParser} {rest : List UInt8} (awaits : Awaits parser rest) {index : Nat}
    (written : parser.payloadIndex = some index) : index < maxFrameSize := by
  cases awaits with
  | payload expected received gap bounded short =>
    obtain rfl : received.length = index := by simpa [FrameParser.payloadIndex] using written
    omega
  | seekMarker => simp [FrameParser.payloadIndex] at written
  | lengthLow => simp [FrameParser.payloadIndex] at written
  | lengthHigh => simp [FrameParser.payloadIndex] at written
  | ready => simp [FrameParser.payloadIndex] at written

theorem receive_split (bytes : List UInt8) (parser : FrameParser) : bytes.foldl (receiveByte marker) (parser, frames) =
    ((bytes.foldl (receiveByte marker) (parser, [])).1, frames ++
    (bytes.foldl (receiveByte marker) (parser, [])).2) := by
  induction bytes generalizing parser frames with
  | nil => simp
  | cons byte rest ih =>
    rw [List.foldl_cons, List.foldl_cons]
    by_cases completed : (parser.push marker byte).ready = true
    · simp only [receiveByte, completed, if_true, List.nil_append]
      rw [ih, @ih [(parser.push marker byte).received], List.append_assoc]
    · simp only [receiveByte, completed, if_false, Bool.false_eq_true]
      rw [ih]

def Settled (parser : FrameParser) : Prop := parser.ready = false ∧ ∃ rest, Awaits parser rest

theorem settled_init : Settled {} := ⟨rfl, [], .seekMarker 0 [] []⟩

theorem Settled.byte {parser : FrameParser} (settled : Settled parser) (byte : UInt8) (frames : List (List UInt8)) :
    parser.completes byte = false ∧ receiveByte 60 (parser, frames) byte = (parser.push 60 byte, frames) ∨
      ∃ frame, parser.completes byte = true ∧ (parser.push 60 byte).take maxFrameSize = (some frame, {}) ∧
        receiveByte 60 (parser, frames) byte = ({}, frames ++ [frame]) := by
  obtain ⟨idle, rest, awaits⟩ := settled
  have next := awaits.push byte
  unfold FrameParser.completes receiveByte
  rw [idle]
  generalize parser.push 60 byte = pushed at next
  generalize (if parser.ready then rest else rest ++ [byte]) = held at next
  cases next with
  | ready received gap fits =>
    refine Or.inr ⟨received, rfl, ?_, rfl⟩
    unfold FrameParser.take
    rw [if_neg (not_or.mpr ⟨nofun, Nat.not_lt.mpr fits.2⟩)]
    exact congrArg (fun payload => (some payload, _)) (List.take_length ..)
  | seekMarker => exact Or.inl ⟨rfl, rfl⟩
  | lengthLow => exact Or.inl ⟨rfl, rfl⟩
  | lengthHigh => exact Or.inl ⟨rfl, rfl⟩
  | payload => exact Or.inl ⟨rfl, rfl⟩

theorem Settled.push {parser : FrameParser} (settled : Settled parser) {byte : UInt8}
    (silent : parser.completes byte = false) : Settled (parser.push 60 byte) := by
  obtain ⟨idle, rest, awaits⟩ := settled
  refine ⟨?_, _, awaits.push byte⟩
  simpa [FrameParser.completes, idle] using silent

theorem Carved.receive {intake : Intake} (carved : Carved intake) (idle : intake.parser.ready = false) (byte : UInt8) :
    Carved (intake.receive byte) ∧ (intake.receive byte).parser.ready = false ∧
      ((intake.receive byte).parser, (intake.receive byte).produced) =
        receiveByte 60 (intake.parser, intake.produced) byte := by
  obtain ⟨-, rest, -, -, awaits⟩ := carved.found
  have settled : Settled intake.parser := ⟨idle, rest, awaits⟩
  have pushed := carved.step (.push byte)
  rcases settled.byte byte intake.produced with ⟨silent, received⟩ | ⟨frame, reports, given, received⟩
  · rw [Intake.receive, if_neg (by rw [silent]; exact Bool.false_ne_true), received]
    exact ⟨pushed, (settled.push silent).1, rfl⟩
  · rw [Intake.receive, if_pos reports, received]
    refine ⟨pushed.step _, ?_, ?_⟩
    · exact congrArg (·.2.ready) given
    · simp only [Intake.step, given, Option.toList_some]

theorem Carved.receives {intake : Intake} (carved : Carved intake) (idle : intake.parser.ready = false)
    (bytes : List UInt8) :
    ((bytes.foldl Intake.receive intake).parser, (bytes.foldl Intake.receive intake).produced) =
      bytes.foldl (receiveByte 60) (intake.parser, intake.produced) := by
  induction bytes generalizing intake with
  | nil => rfl
  | cons byte rest ih =>
    obtain ⟨carved, idle, same⟩ := carved.receive idle byte
    rw [List.foldl_cons, List.foldl_cons, ih carved idle, same]

end Receiving

/-- Framed payloads come out in order, and nothing comes out that the bytes do not hold behind a marker and
    its length. -/
theorem companion_deframing :
    (∀ (pieces : List (List UInt8 × List UInt8)) (tail : List UInt8),
      (∀ piece ∈ pieces, 60 ∉ piece.1 ∧ FrameFits piece.2) → 60 ∉ tail →
        ((framed pieces ++ tail).foldl Intake.receive Intake.fresh).produced = pieces.map Prod.snd) ∧
    ∀ calls : List ParserCall,
      (∀ index ∈ (run Intake.step Intake.fresh calls).parser.payloadIndex, index < maxFrameSize) ∧
      ∀ payload ∈ (run Intake.step Intake.fresh calls).produced, FrameFits payload ∧
        ∃ before after, (run Intake.step Intake.fresh calls).accepted =
          before ++ (60 :: leBytes 2 payload.length ++ payload) ++ after := by
  constructor
  · intro pieces tail apart unmarked
    have decoded := (carved_run []).receives rfl (framed pieces ++ tail)
    rw [List.foldl_append (f := receiveByte 60)] at decoded
    change _ = tail.foldl (receiveByte 60) ((framed pieces).foldl (receiveByte 60) ({}, [])) at decoded
    rw [receive_framed apart, receive_gap unmarked] at decoded
    exact congrArg Prod.snd decoded
  · intro calls
    obtain ⟨⟨pieces, rest, accepted, produced, awaits⟩, fits⟩ := carved_run calls
    refine ⟨fun index written => awaits.index_lt written, ?_⟩
    intro payload member
    have found := member
    rw [produced] at found
    obtain ⟨before, after, whole⟩ := framed_member found
    refine ⟨fits payload member, before, after ++ rest, ?_⟩
    rw [accepted, whole, List.append_assoc]

/-- A marker inside a payload starts no frame. -/
theorem markerInside_deframed :
    ((framed [([1], [60, 7, 0]), ([], [9])] ++ [0]).foldl Intake.receive Intake.fresh).produced = [[60, 7, 0], [9]] :=
  companion_deframing.1 [([1], [60, 7, 0]), ([], [9])] [0] (by decide) (by decide)

end SigurdOS.Comms
