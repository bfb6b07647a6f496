import Mathlib.Data.List.TakeDrop
import SigurdOS.Comms.Deframing
import SigurdOS.Library.RingQueue
import SigurdOS.Library.SlotTable

namespace SigurdOS.Comms

open Bytes Companion Runs SlotTable

inductive WsType where
  | connected | disconnected | bin | fragmentBinStart | fragment | fragmentFin | other
  deriving DecidableEq

def WsType.carriesFrames : WsType → Bool
  | .bin | .fragmentBinStart | .fragment | .fragmentFin => true
  | _ => false

structure WsClient where
  parser : FrameParser
  inUse : Bool
  generation : UInt32
  rxQueue : RingQueue (List UInt8) 4

namespace WsClient

def init : WsClient := ⟨{}, false, 0, .emptied (fun _ => []) 0⟩

def reset (client : WsClient) : WsClient :=
  { client with inUse := false, parser := {}, rxQueue := .emptied client.rxQueue.slots 0 }

/-- One turn of the loop in `queuePayload`; a frame that finds the queue full is dropped. -/
def queueByte (client : WsClient) (byte : UInt8) : WsClient :=
  let parser := client.parser.push 60 byte
  if client.parser.completes byte = false then { client with parser := parser }
  else if room : client.rxQueue.count < 4 then
    match parser.take maxFrameSize with
    | (none, parser) => { client with parser := parser }
    | (some frame, parser) => { client with parser := parser, rxQueue := client.rxQueue.push frame room }
  else { client with parser := {} }

def queuePayload (client : WsClient) (payload : List UInt8) : WsClient := payload.foldl queueByte client

def nextGeneration (generation : UInt32) : UInt32 := if generation + 1 = 0 then 1 else generation + 1

/-- `allowed`: the network may be used. `online`: the library holds the connection of the client. -/
def onEvent (client : WsClient) (allowed online : Bool) (type : WsType) (payload : List UInt8) : WsClient :=
  match type with
  | .connected =>
    if allowed = false then client.reset
    else
      { parser := {}
        inUse := true
        generation := nextGeneration client.generation
        rxQueue := .emptied client.rxQueue.slots 0 }
  | .disconnected => client.reset
  | type =>
    if allowed = false then client.reset
    else if client.inUse && type.carriesFrames && online then client.queuePayload payload
    else client

end WsClient

structure WebSocketServer where
  clients : Fin 4 → WsClient
  started : Bool
  pollStart : Fin 4

namespace WebSocketServer

def boot : WebSocketServer := ⟨fun _ => .init, false, 0⟩

def stop (server : WebSocketServer) : WebSocketServer :=
  { server with clients := fun index => (server.clients index).reset, started := false }

def start (server : WebSocketServer) (allowed : Bool) : WebSocketServer :=
  if allowed = false then server.stop else { server.stop with started := true }

def loop (server : WebSocketServer) (allowed : Bool) : WebSocketServer :=
  if allowed = false then server.stop else server

/-- The library calls back while the server runs; it closes a connection that has no slot. -/
def onEvent (server : WebSocketServer) (allowed online : Bool) (clientNum : Nat) (type : WsType)
    (payload : List UInt8) : WebSocketServer :=
  if server.started = false then server
  else if inside : clientNum < 4 then
    { server with
      clients := Function.update server.clients ⟨clientNum, inside⟩
        ((server.clients ⟨clientNum, inside⟩).onEvent allowed online type payload) }
  else server

def disconnectClient (server : WebSocketServer) (index : Fin 4) : WebSocketServer :=
  { server with clients := Function.update server.clients index (server.clients index).reset }

def offers (server : WebSocketServer) (online : Fin 4 → Bool) (index : Fin 4) : Bool :=
  (server.clients index).inUse && online index && (server.clients index).rxQueue.count != 0

/-- The frame that is returned and its client: the search begins behind the client served last. -/
def pollRecvFrame (server : WebSocketServer) (allowed : Bool) (online : Fin 4 → Bool) :
    Option (Fin 4 × List UInt8) × WebSocketServer :=
  if allowed = false then (none, server.stop)
  else if server.started = false then (none, server)
  else
    match firstSlot (server.offers online) (fun offset => server.pollStart + offset) with
    | none => (none, { server with pollStart := server.pollStart + 1 })
    | some offset =>
      let index := server.pollStart + offset
      let client := server.clients index
      if stocked : 0 < client.rxQueue.count then
        (some (index, client.rxQueue.slots client.rxQueue.head),
          { server with
            clients := Function.update server.clients index { client with rxQueue := client.rxQueue.pop stocked }
            pollStart := index + 1 })
      else (none, server)

end WebSocketServer

inductive WsCall where
  | start (allowed : Bool)
  | stop
  | loop (allowed : Bool)
  | event (allowed online : Bool) (clientNum : Nat) (type : WsType) (payload : List UInt8)
  | poll (allowed : Bool) (online : Fin 4 → Bool)
  | disconnectClient (index : Fin 4)

/-- The server, the bytes each client sent in its present connection and the frames returned for it; no code keeps
    the two. -/
structure WsLedger where
  server : WebSocketServer
  sent : Fin 4 → List UInt8
  returned : Fin 4 → List (List UInt8)

namespace WsLedger

def boot : WsLedger := ⟨.boot, fun _ => [], fun _ => []⟩

def arriving (ledger : WsLedger) (client : Fin 4) : WsCall → List UInt8
  | .event allowed online clientNum type payload =>
    if clientNum = client.val ∧ ledger.server.started && allowed && (ledger.server.clients client).inUse &&
      type.carriesFrames && online then payload else []
  | _ => []

def opens (ledger : WsLedger) (client : Fin 4) : WsCall → Bool
  | .event allowed _ clientNum type _ =>
    clientNum == client.val && ledger.server.started && allowed && type == .connected
  | _ => false

def serve (server : WebSocketServer) : WsCall → Option (Fin 4 × List UInt8) × WebSocketServer
  | .start allowed => (none, server.start allowed)
  | .stop => (none, server.stop)
  | .loop allowed => (none, server.loop allowed)
  | .event allowed online clientNum type payload => (none, server.onEvent allowed online clientNum type payload)
  | .poll allowed online => server.pollRecvFrame allowed online
  | .disconnectClient index => (none, server.disconnectClient index)

def step (ledger : WsLedger) (call : WsCall) : WsLedger where
  server := (serve ledger.server call).2
  sent := fun client =>
    if ledger.opens client call then [] else ledger.sent client ++ ledger.arriving client call
  returned := fun client =>
    if ledger.opens client call then []
    else
      match (serve ledger.server call).1 with
      | some (served, frame) => if served = client then ledger.returned client ++ [frame] else ledger.returned client
      | none => ledger.returned client

end WsLedger

def completed (parser : FrameParser) (bytes : List UInt8) : List (List UInt8) :=
  (bytes.foldl (receiveByte 60) (parser, [])).2

def parserBehind (parser : FrameParser) (bytes : List UInt8) : FrameParser :=
  (bytes.foldl (receiveByte 60) (parser, [])).1

/-- What was returned and what is queued for a connected client are the frames it sent, in order. -/
def InOrder (ledger : WsLedger) (client : Fin 4) : Prop :=
  (ledger.server.clients client).inUse = true →
    ledger.returned client ++ (ledger.server.clients client).rxQueue.contents = decodedFrames 60 (ledger.sent client)

/-- No message completes more frames than the queue of its client has room for. -/
def NoOverflow (ledger : WsLedger) (call : WsCall) : Prop := ∀ client,
  (ledger.server.clients client).rxQueue.count +
    (completed (ledger.server.clients client).parser (ledger.arriving client call)).length ≤ 4

instance (ledger : WsLedger) (call : WsCall) : Decidable (NoOverflow ledger call) :=
  inferInstanceAs (Decidable (∀ _, _))

section Queueing

theorem take_append_take {α : Type} (limit : Nat) (front back : List α) :
    (front.take limit ++ back).take limit = (front ++ back).take limit := by
  rw [List.take_append, List.take_append, List.take_take, Nat.min_self, List.length_take]
  by_cases short : front.length ≤ limit
  · rw [Nat.min_eq_right short]
  · have none : limit - min limit front.length = 0 := by omega
    have none' : limit - front.length = 0 := by omega
    rw [none, none']

theorem completed_append (parser : FrameParser) (front back : List UInt8) :
    completed parser (front ++ back) = completed parser front ++ completed (parserBehind parser front) back := by
  unfold completed parserBehind
  rw [List.foldl_append]
  exact congrArg Prod.snd (receive_split back _)

theorem parserBehind_append (parser : FrameParser) (front back : List UInt8) :
    parserBehind parser (front ++ back) = parserBehind (parserBehind parser front) back := by
  unfold parserBehind
  rw [List.foldl_append]
  generalize front.foldl (receiveByte 60) (parser, []) = reached
  obtain ⟨next, frames⟩ := reached
  rw [receive_split back next]

namespace WsClient

/-- The client behind some bytes: the queue keeps what it has room for, and the parser goes on. -/
structure Queued (before : WsClient) (bytes : List UInt8) (after : WsClient) : Prop where
  parser : after.parser = parserBehind before.parser bytes
  contents : after.rxQueue.contents = (before.rxQueue.contents ++ completed before.parser bytes).take 4
  inUse : after.inUse = before.inUse
  settled : Settled after.parser

@[simp] theorem queuePayload_inUse (client : WsClient) (payload : List UInt8) :
    (client.queuePayload payload).inUse = client.inUse := by
  induction payload generalizing client with
  | nil => rfl
  | cons byte rest ih =>
    refine (ih (client.queueByte byte)).trans ?_
    unfold queueByte
    dsimp only
    split
    · rfl
    · split
      · split <;> rfl
      · rfl

theorem contents_take (client : WsClient) : client.rxQueue.contents.take 4 = client.rxQueue.contents := by
  apply List.take_of_length_le
  rw [RingQueue.length_contents]
  exact client.rxQueue.fits

theorem queueByte_queued {client : WsClient} (settled : Settled client.parser) (byte : UInt8) :
    Queued client [byte] (client.queueByte byte) := by
  rcases settled.byte byte [] with ⟨silent, received⟩ | ⟨frame, reports, given, received⟩
  · have quiet : client.queueByte byte = { client with parser := client.parser.push 60 byte } := if_pos silent
    rw [quiet]
    refine ⟨?_, ?_, rfl, settled.push silent⟩
    · simp [parserBehind, received]
    · simp [completed, received, contents_take]
  · by_cases room : client.rxQueue.count < 4
    · have taken : client.queueByte byte = { client with parser := {}, rxQueue := client.rxQueue.push frame room } := by
        simp only [queueByte, reports, room, given, Bool.true_eq_false, if_false, dite_true]
      rw [taken]
      refine ⟨?_, ?_, rfl, settled_init⟩
      · simp [parserBehind, received]
      · simp only [completed, List.foldl_cons, List.foldl_nil, received, List.nil_append, RingQueue.contents_push]
        rw [List.take_of_length_le]
        simp only [List.length_append, RingQueue.length_contents, List.length_singleton]
        omega
    · have dropped : client.queueByte byte = { client with parser := {} } := by
        simp only [queueByte, reports, room, Bool.true_eq_false, if_false, dite_false]
      rw [dropped]
      refine ⟨?_, ?_, rfl, settled_init⟩
      · simp [parserBehind, received]
      · have full : client.rxQueue.contents.length = 4 := by
          have fits := client.rxQueue.fits
          rw [RingQueue.length_contents]
          omega
        rw [List.take_append_of_le_length (by omega), contents_take]

theorem queuePayload_queued {client : WsClient} (settled : Settled client.parser) (payload : List UInt8) :
    Queued client payload (client.queuePayload payload) := by
  induction payload generalizing client with
  | nil => exact ⟨rfl, by simp [queuePayload, completed, contents_take], rfl, settled⟩
  | cons byte rest ih =>
    have first := queueByte_queued settled byte
    have later := ih first.settled
    refine ⟨?_, ?_, later.inUse.trans first.inUse, later.settled⟩
    · rw [← List.singleton_append, parserBehind_append, ← first.parser]
      exact later.parser
    · rw [← List.singleton_append, completed_append, ← first.parser, ← List.append_assoc, ← take_append_take,
        ← first.contents]
      exact later.contents

end WsClient

end Queueing

section Steps

theorem offers_stocked {server : WebSocketServer} {online : Fin 4 → Bool} {index : Fin 4}
    (offered : server.offers online index = true) : 0 < (server.clients index).rxQueue.count := by
  simp only [WebSocketServer.offers, Bool.and_eq_true, bne_iff_ne] at offered
  exact Nat.pos_of_ne_zero offered.2

theorem WebSocketServer.pollRecvFrame_some {server : WebSocketServer} {online : Fin 4 → Bool} {offset : Fin 4}
    (started : server.started = true)
    (found : firstSlot (server.offers online) (fun offset => server.pollStart + offset) = some offset)
    (stocked : 0 < (server.clients (server.pollStart + offset)).rxQueue.count) :
    server.pollRecvFrame true online =
      (some (server.pollStart + offset, (server.clients (server.pollStart + offset)).rxQueue.slots
          (server.clients (server.pollStart + offset)).rxQueue.head),
        { server with
          clients := Function.update server.clients (server.pollStart + offset)
            { server.clients (server.pollStart + offset) with
              rxQueue := (server.clients (server.pollStart + offset)).rxQueue.pop stocked }
          pollStart := server.pollStart + offset + 1 }) := by
  simp [WebSocketServer.pollRecvFrame, started, found, stocked]

/-- What a call does to one client: it goes, opens a connection, is served a frame, or is fed what arrives. -/
inductive ClientStep (ledger : WsLedger) (call : WsCall) (client : Fin 4) : Prop
  | closed (gone : ((ledger.step call).server.clients client).inUse = false)
      (arrives : ledger.arriving client call = [])
  | opened (parser : ((ledger.step call).server.clients client).parser = {})
      (contents : ((ledger.step call).server.clients client).rxQueue.contents = [])
      (sent : (ledger.step call).sent client = []) (returned : (ledger.step call).returned client = [])
      (arrives : ledger.arriving client call = []) (opening : ledger.opens client call = true)
  | served (stocked : 0 < (ledger.server.clients client).rxQueue.count)
      (popped : (ledger.step call).server.clients client =
        { ledger.server.clients client with rxQueue := (ledger.server.clients client).rxQueue.pop stocked })
      (sent : (ledger.step call).sent client = ledger.sent client)
      (returned : (ledger.step call).returned client = ledger.returned client ++
        [(ledger.server.clients client).rxQueue.slots (ledger.server.clients client).rxQueue.head])
      (arrives : ledger.arriving client call = [])
  | fed (queued : (ledger.step call).server.clients client =
        (ledger.server.clients client).queuePayload (ledger.arriving client call))
      (sent : (ledger.step call).sent client = ledger.sent client ++ ledger.arriving client call)
      (returned : (ledger.step call).returned client = ledger.returned client)

variable {ledger : WsLedger} {call : WsCall} {client : Fin 4}

theorem ClientStep.unchanged (arrives : ledger.arriving client call = []) (opens : ledger.opens client call = false)
    (serves : ∀ served ∈ (WsLedger.serve ledger.server call).1, served.1 ≠ client)
    (same : (WsLedger.serve ledger.server call).2.clients client = ledger.server.clients client) :
    ClientStep ledger call client := by
  apply ClientStep.fed
  · rw [arrives]
    exact same
  · simp [WsLedger.step, opens]
  · simp only [WsLedger.step, opens, Bool.false_eq_true, if_false]
    split
    · next served frame found => exact if_neg (serves (served, frame) found)
    · rfl

theorem client_step_event (allowed online : Bool) (type : WsType) (payload : List UInt8)
    (started : ledger.server.started = true) :
    ClientStep ledger (.event allowed online client.val type payload) client := by
  have updated : ((ledger.step (.event allowed online client.val type payload)).server.clients client) =
      (ledger.server.clients client).onEvent allowed online type payload := by
    simp [WsLedger.step, WsLedger.serve, WebSocketServer.onEvent, started]
  have quiet : type ≠ .connected → (ledger.step (.event allowed online client.val type payload)).returned client =
      ledger.returned client := by
    intro other
    simp [WsLedger.step, WsLedger.opens, WsLedger.serve, other]
  have sent : type ≠ .connected → (ledger.step (.event allowed online client.val type payload)).sent client =
      ledger.sent client ++ ledger.arriving client (.event allowed online client.val type payload) := by
    intro other
    simp [WsLedger.step, WsLedger.opens, other]
  by_cases refused : allowed = false
  · apply ClientStep.closed
    · rw [updated, refused]
      cases type <;> rfl
    · simp [WsLedger.arriving, refused]
  · rw [Bool.not_eq_false] at refused
    by_cases opening : type = .connected
    · subst opening
      apply ClientStep.opened
      · rw [updated, refused]
        rfl
      · rw [updated, refused]
        rfl
      · simp [WsLedger.step, WsLedger.opens, refused, started]
      · simp [WsLedger.step, WsLedger.opens, refused, started]
      · simp [WsLedger.arriving, WsType.carriesFrames]
      · simp [WsLedger.opens, refused, started]
    · by_cases closing : type = .disconnected
      · apply ClientStep.closed
        · rw [updated, closing]
          rfl
        · simp [WsLedger.arriving, closing, WsType.carriesFrames]
      · apply ClientStep.fed _ (sent opening) (quiet opening)
        rw [updated]
        have arrived : ledger.arriving client (.event allowed online client.val type payload) =
            if (ledger.server.clients client).inUse && type.carriesFrames && online then payload else [] := by
          simp [WsLedger.arriving, started, refused]
        rw [arrived]
        cases type with
        | connected => exact absurd rfl opening
        | disconnected => exact absurd rfl closing
        | bin | fragmentBinStart | fragment | fragmentFin | other =>
          simp only [WsClient.onEvent, refused, Bool.true_eq_false, if_false]
          split <;> rfl

theorem client_step_poll (allowed : Bool) (online : Fin 4 → Bool) :
    ClientStep ledger (.poll allowed online) client := by
  by_cases refused : allowed = false
  · apply ClientStep.closed _ rfl
    simp [WsLedger.step, WsLedger.serve, WebSocketServer.pollRecvFrame, refused, WebSocketServer.stop, WsClient.reset]
  by_cases down : ledger.server.started = false
  · have idle : WsLedger.serve ledger.server (.poll allowed online) = (none, ledger.server) := by
      simp [WsLedger.serve, WebSocketServer.pollRecvFrame, refused, down]
    exact .unchanged rfl rfl (by simp [idle]) (by rw [idle])
  cases found : firstSlot (ledger.server.offers online) (fun offset => ledger.server.pollStart + offset) with
  | none =>
    have idle : WsLedger.serve ledger.server (.poll allowed online) =
        (none, { ledger.server with pollStart := ledger.server.pollStart + 1 }) := by
      simp [WsLedger.serve, WebSocketServer.pollRecvFrame, refused, down, found]
    exact .unchanged rfl rfl (by simp [idle]) (by rw [idle])
  | some offset =>
    have stocked := offers_stocked (firstSlot_some found)
    rw [Bool.not_eq_false] at refused down
    subst refused
    have answer := ledger.server.pollRecvFrame_some down found stocked
    by_cases here : ledger.server.pollStart + offset = client
    · subst here
      apply ClientStep.served stocked
      · simp [WsLedger.step, WsLedger.serve, answer]
      · simp [WsLedger.step, WsLedger.opens, WsLedger.arriving]
      · simp [WsLedger.step, WsLedger.opens, WsLedger.serve, answer]
      · rfl
    · refine .unchanged rfl rfl ?_ ?_
      · simp [WsLedger.serve, answer, here]
      · simp only [WsLedger.serve, answer]
        exact Function.update_of_ne (Ne.symm here) _ _

theorem client_step (ledger : WsLedger) (call : WsCall) (client : Fin 4) : ClientStep ledger call client := by
  cases call with
  | start allowed =>
    apply ClientStep.closed _ rfl
    simp only [WsLedger.step, WsLedger.serve, WebSocketServer.start]
    split <;> rfl
  | stop => exact .closed rfl rfl
  | loop allowed =>
    cases allowed with
    | false => exact .closed rfl rfl
    | true => exact .unchanged rfl rfl nofun rfl
  | event allowed online clientNum type payload =>
    by_cases down : ledger.server.started = false
    · refine .unchanged ?_ ?_ nofun ?_
      · simp [WsLedger.arriving, down]
      · simp [WsLedger.opens, down]
      · simp [WsLedger.serve, WebSocketServer.onEvent, down]
    · by_cases here : clientNum = client.val
      · subst here
        exact client_step_event allowed online type payload (Bool.not_eq_false _ ▸ down)
      · refine .unchanged ?_ ?_ nofun ?_
        · simp [WsLedger.arriving, here]
        · simp [WsLedger.opens, here]
        · simp only [WsLedger.serve, WebSocketServer.onEvent]
          rw [if_neg down]
          split
          · next inside =>
            apply Function.update_of_ne
            intro same
            exact here (congrArg Fin.val same).symm
          · rfl
  | poll allowed online => exact client_step_poll allowed online
  | disconnectClient index =>
    by_cases here : index = client
    · subst here
      apply ClientStep.closed _ rfl
      simp [WsLedger.step, WsLedger.serve, WebSocketServer.disconnectClient, WsClient.reset]
    · refine .unchanged rfl rfl nofun ?_
      exact Function.update_of_ne (Ne.symm here) _ _

end Steps

section Safety

def Synced (ledger : WsLedger) (client : Fin 4) : Prop :=
  (ledger.server.clients client).inUse = true →
    Settled (ledger.server.clients client).parser ∧
      (ledger.server.clients client).parser = parserBehind {} (ledger.sent client)

variable {ledger : WsLedger} {call : WsCall} {client : Fin 4}

theorem arriving_unused (unused : (ledger.server.clients client).inUse = false) : ledger.arriving client call = [] := by
  cases call with
  | event => simp [WsLedger.arriving, unused]
  | start | stop | loop | poll | disconnectClient => rfl

theorem Synced.step (synced : Synced ledger client) : Synced (ledger.step call) client := by
  intro connected
  rcases client_step ledger call client with ⟨gone, -⟩ | ⟨parser, -, sent, -, -, -⟩ | ⟨stocked, popped, sent, -, -⟩ |
    ⟨queued, sent, -⟩
  · rw [gone] at connected
    cases connected
  · rw [parser, sent]
    exact ⟨settled_init, rfl⟩
  · rw [popped] at connected ⊢
    rw [sent]
    exact synced connected
  · rw [queued, WsClient.queuePayload_inUse] at connected
    obtain ⟨settled, parser⟩ := synced connected
    have queuedBehind := WsClient.queuePayload_queued settled (ledger.arriving client call)
    rw [queued, sent, parserBehind_append, ← parser]
    exact ⟨queuedBehind.settled, queuedBehind.parser⟩

theorem inOrder_step_iff (synced : Synced ledger client) (inOrder : InOrder ledger client) :
    InOrder (ledger.step call) client ↔ (ledger.server.clients client).rxQueue.count +
      (completed (ledger.server.clients client).parser (ledger.arriving client call)).length ≤ 4 := by
  have quiet : ledger.arriving client call = [] → (ledger.server.clients client).rxQueue.count +
      (completed (ledger.server.clients client).parser (ledger.arriving client call)).length ≤ 4 := by
    intro arrives
    rw [arrives]
    exact (ledger.server.clients client).rxQueue.fits
  rcases client_step ledger call client with ⟨gone, arrives⟩ | ⟨-, contents, sent, returned, arrives, -⟩ |
    ⟨stocked, popped, sent, returned, arrives⟩ | ⟨queued, sent, returned⟩
  · refine iff_of_true (fun connected => ?_) (quiet arrives)
    rw [gone] at connected
    cases connected
  · refine iff_of_true (fun _ => ?_) (quiet arrives)
    rw [contents, sent, returned]
    rfl
  · refine iff_of_true (fun connected => ?_) (quiet arrives)
    rw [popped] at connected
    have kept := inOrder connected
    rw [RingQueue.contents_pop _ stocked] at kept
    rw [popped, sent, returned, ← kept, List.append_assoc]
    rfl
  · by_cases connected : (ledger.server.clients client).inUse = true
    · obtain ⟨settled, parser⟩ := synced connected
      have behind := WsClient.queuePayload_queued settled (ledger.arriving client call)
      have decoded : decodedFrames 60 (ledger.sent client ++ ledger.arriving client call) =
          ledger.returned client ++ ((ledger.server.clients client).rxQueue.contents ++
            completed (ledger.server.clients client).parser (ledger.arriving client call)) := by
        have sentBefore : decodedFrames 60 (ledger.sent client) = completed {} (ledger.sent client) := rfl
        have sentBehind : decodedFrames 60 (ledger.sent client ++ ledger.arriving client call) =
            completed {} (ledger.sent client ++ ledger.arriving client call) := rfl
        rw [sentBehind, completed_append, ← sentBefore, ← inOrder connected, ← parser, List.append_assoc]
      have reached : InOrder (ledger.step call) client ↔
          ((ledger.server.clients client).rxQueue.contents ++
              completed (ledger.server.clients client).parser (ledger.arriving client call)).take 4 =
            (ledger.server.clients client).rxQueue.contents ++
              completed (ledger.server.clients client).parser (ledger.arriving client call) := by
        unfold InOrder
        rw [queued, sent, returned, behind.contents, behind.inUse, connected, decoded]
        simp only [true_implies, List.append_cancel_left_eq]
      rw [reached, List.take_eq_self_iff, List.length_append, RingQueue.length_contents]
    · refine iff_of_true (fun still => ?_) (quiet (arriving_unused (Bool.not_eq_true _ ▸ connected)))
      rw [queued, WsClient.queuePayload_inUse] at still
      exact absurd still connected

theorem boot_inOrder (client : Fin 4) : Synced .boot client ∧ InOrder .boot client := ⟨nofun, nofun⟩

theorem synced_run (calls : List WsCall) (client : Fin 4) : Synced (run WsLedger.step .boot calls) client := by
  apply run_invariant (Synced · client) (boot_inOrder client).1
  intro ledger call synced
  exact synced.step

theorem inOrder_iff (calls : List WsCall) :
    (∀ before, before <+: calls → ∀ client, InOrder (run WsLedger.step .boot before) client) ↔
      Along WsLedger.step NoOverflow .boot calls := by
  have exact_run := @run_invariant_iff _ _ WsLedger.step NoOverflow
    (fun ledger => ∀ client, Synced ledger client ∧ InOrder ledger client) .boot boot_inOrder
      (fun ledger call kept => by
      constructor
      · intro next client
        exact (inOrder_step_iff (kept client).1 (kept client).2).mp (next client).2
      · intro room client
        exact ⟨(kept client).1.step, (inOrder_step_iff (kept client).1 (kept client).2).mpr (room client)⟩) calls
  rw [← exact_run]
  constructor
  · exact fun throughout before early client => ⟨synced_run before client, throughout before early client⟩
  · exact fun throughout before early client => (throughout before early client).2

end Safety

section Liveness

def StaysOnline (client : Fin 4) : WsCall → Prop
  | .start _ => False
  | .stop => False
  | .loop allowed => allowed = true
  | .event allowed _ clientNum type _ =>
    clientNum = client.val → allowed = true ∧ type ≠ .connected ∧ type ≠ .disconnected
  | .poll allowed online => allowed = true ∧ online client = true
  | .disconnectClient index => index ≠ client

def WsCall.isPoll : WsCall → Bool
  | .poll _ _ => true
  | _ => false

/-- How many clients the next poll looks at first. -/
def wait (ledger : WsLedger) (client : Fin 4) : Nat := (client - ledger.server.pollStart).val

variable {ledger : WsLedger} {call : WsCall} {client : Fin 4}

theorem wait_lt (ledger : WsLedger) (client : Fin 4) : wait ledger client < 4 := (client - ledger.server.pollStart).isLt

theorem poll_progress {online : Fin 4 → Bool} (started : ledger.server.started = true)
    (connected : (ledger.server.clients client).inUse = true) (here : online client = true)
    (stocked : 0 < (ledger.server.clients client).rxQueue.count) :
    (∃ frame, (ledger.step (.poll true online)).returned client = ledger.returned client ++ [frame]) ∨
      (ledger.step (.poll true online)).returned client = ledger.returned client ∧
        wait (ledger.step (.poll true online)) client < wait ledger client := by
  have closer : ∀ target start offset : Fin 4, offset < target - start →
      (target - (start + offset + 1)).val < (target - start).val := by decide
  have reaches : ∀ target start : Fin 4, start + (target - start) = target := by decide
  have place := reaches client ledger.server.pollStart
  have offered : ledger.server.offers online client = true := by
    simp only [WebSocketServer.offers, connected, here, Bool.true_and, bne_iff_ne]
    omega
  cases found : firstSlot (ledger.server.offers online) (fun offset => ledger.server.pollStart + offset) with
  | none =>
    have refused := firstSlot_none found (client - ledger.server.pollStart)
    rw [place, offered] at refused
    cases refused
  | some offset =>
    have answer := ledger.server.pollRecvFrame_some started found (offers_stocked (firstSlot_some found))
    by_cases mine : ledger.server.pollStart + offset = client
    · left
      refine ⟨(ledger.server.clients client).rxQueue.slots (ledger.server.clients client).rxQueue.head, ?_⟩
      simp [WsLedger.step, WsLedger.opens, WsLedger.serve, answer, mine]
    · right
      have below : offset < client - ledger.server.pollStart := by
        rcases lt_trichotomy offset (client - ledger.server.pollStart) with below | same | above
        · exact below
        · rw [same, place] at mine
          exact absurd rfl mine
        · have refused := firstSlot_below found above
          rw [place, offered] at refused
          cases refused
      constructor
      · simp [WsLedger.step, WsLedger.opens, WsLedger.serve, answer, mine]
      · have later := closer client ledger.server.pollStart offset below
        simpa [wait, WsLedger.step, WsLedger.serve, answer] using later

structure Stays (before : WsLedger) (call : WsCall) (client : Fin 4) : Prop where
  started : (before.step call).server.started = true
  connected : ((before.step call).server.clients client).inUse = true
  sent : before.sent client <+: (before.step call).sent client
  returned : before.returned client <+: (before.step call).returned client
  idle : call.isPoll = false →
    (before.step call).returned client = before.returned client ∧ wait (before.step call) client = wait before client

theorem WsClient.onEvent_inUse {type : WsType} (unopened : type ≠ .connected) (open_still : type ≠ .disconnected)
    (client : WsClient) (online : Bool) (payload : List UInt8) :
    (client.onEvent true online type payload).inUse = client.inUse := by
  cases type with
  | connected => exact absurd rfl unopened
  | disconnected => exact absurd rfl open_still
  | bin | fragmentBinStart | fragment | fragmentFin | other =>
    simp only [WsClient.onEvent, Bool.true_eq_false, if_false]
    split
    · exact client.queuePayload_inUse payload
    · rfl

theorem stays_step (started : ledger.server.started = true) (connected : (ledger.server.clients client).inUse = true)
    (stays : StaysOnline client call) : Stays ledger call client := by
  have unopened : ledger.opens client call = false := by
    cases call with
    | event allowed online clientNum type payload =>
      by_cases here : clientNum = client.val
      · simp [WsLedger.opens, (stays here).2.1]
      · simp [WsLedger.opens, here]
    | start | stop | loop | poll | disconnectClient => rfl
  have sent : ledger.sent client <+: (ledger.step call).sent client := by
    simp [WsLedger.step, unopened]
  have returned : ledger.returned client <+: (ledger.step call).returned client := by
    simp only [WsLedger.step, unopened, Bool.false_eq_true, if_false]
    split
    · split
      · exact List.prefix_append ..
      · exact List.prefix_rfl
    · exact List.prefix_rfl
  cases call with
  | start => exact absurd stays id
  | stop => exact absurd stays id
  | loop allowed =>
    obtain rfl : allowed = true := stays
    exact ⟨started, connected, sent, returned, fun _ => ⟨rfl, rfl⟩⟩
  | event allowed online clientNum type payload =>
    refine ⟨?_, ?_, sent, returned, fun _ => ⟨?_, ?_⟩⟩
    · simp only [WsLedger.step, WsLedger.serve, WebSocketServer.onEvent]
      split
      · exact started
      · split <;> exact started
    · by_cases here : clientNum = client.val
      · obtain ⟨rfl, no_opening, no_closing⟩ := stays here
        subst here
        simp [WsLedger.step, WsLedger.serve, WebSocketServer.onEvent, started, connected,
          WsClient.onEvent_inUse no_opening no_closing]
      · have other (inside : clientNum < 4) : client ≠ ⟨clientNum, inside⟩ :=
          fun same => here (congrArg Fin.val same).symm
        simp only [WsLedger.step, WsLedger.serve, WebSocketServer.onEvent]
        split
        · exact connected
        · split
          · next inside =>
            simp only [Function.update_of_ne (other inside)]
            exact connected
          · exact connected
    · simp [WsLedger.step, unopened, WsLedger.serve]
    · simp only [wait, WsLedger.step, WsLedger.serve, WebSocketServer.onEvent]
      split
      · rfl
      · split <;> rfl
  | poll allowed online =>
    obtain ⟨rfl, -⟩ := stays
    cases found : firstSlot (ledger.server.offers online) (fun offset => ledger.server.pollStart + offset) with
    | none =>
      have idle : ledger.server.pollRecvFrame true online =
          (none, { ledger.server with pollStart := ledger.server.pollStart + 1 }) := by
        simp [WebSocketServer.pollRecvFrame, started, found]
      refine ⟨?_, ?_, sent, returned, nofun⟩
      · simp only [WsLedger.step, WsLedger.serve, idle, started]
      · simp only [WsLedger.step, WsLedger.serve, idle, connected]
    | some offset =>
      have stocked := offers_stocked (firstSlot_some found)
      have answer := ledger.server.pollRecvFrame_some started found stocked
      refine ⟨?_, ?_, sent, returned, nofun⟩
      · simp only [WsLedger.step, WsLedger.serve, answer, started]
      · simp only [WsLedger.step, WsLedger.serve, answer]
        by_cases mine : client = ledger.server.pollStart + offset
        · subst mine
          rw [Function.update_self]
          exact connected
        · rw [Function.update_of_ne mine]
          exact connected
  | disconnectClient index =>
    have same : (ledger.step (.disconnectClient index)).server.clients client = ledger.server.clients client :=
      Function.update_of_ne (Ne.symm stays) _ _
    exact ⟨started, by rw [same]; exact connected, sent, returned, fun _ => ⟨rfl, rfl⟩⟩

/-- The frames of the client that are sent but not returned, and how far the next poll is from it. -/
def deficit (goal : Nat) (ledger : WsLedger) (client : Fin 4) : Nat :=
  4 * (goal - (ledger.returned client).length) + wait ledger client

theorem deficit_step {goal : Nat} (started : ledger.server.started = true)
    (connected : (ledger.server.clients client).inUse = true) (stays : StaysOnline client call)
    (inOrder : InOrder ledger client) (sent : goal ≤ (decodedFrames 60 (ledger.sent client)).length)
    (short : (ledger.returned client).length < goal) :
    deficit goal (ledger.step call) client + call.isPoll.toNat ≤ deficit goal ledger client := by
  have near := wait_lt (ledger.step call) client
  unfold deficit
  cases polls : call.isPoll with
  | false =>
    obtain ⟨returned, waits⟩ := (stays_step started connected stays).idle polls
    rw [returned, waits, Bool.toNat_false]
    omega
  | true =>
    cases call with
    | poll allowed online =>
      obtain ⟨rfl, here⟩ := stays
      have counted := congrArg List.length (inOrder connected)
      rw [List.length_append, RingQueue.length_contents] at counted
      rw [Bool.toNat_true]
      rcases poll_progress started connected here (by omega) with ⟨frame, returned⟩ | ⟨returned, closer⟩
      · rw [returned, List.length_append, List.length_singleton]
        omega
      · rw [returned]
        omega
    | start | stop | loop | event | disconnectClient => cases polls

theorem decodedFrames_grow {bytes more : List UInt8} (early : bytes <+: more) :
    decodedFrames 60 bytes <+: decodedFrames 60 more := by
  obtain ⟨rest, rfl⟩ := early
  exact ⟨_, (completed_append {} bytes rest).symm⟩

theorem returned_after {calls : List WsCall} {goal : Nat} (started : ledger.server.started = true)
    (connected : (ledger.server.clients client).inUse = true) (stay : ∀ call ∈ calls, StaysOnline client call)
    (kept : ∀ before, before <+: calls → InOrder (run WsLedger.step ledger before) client)
    (sent : goal ≤ (decodedFrames 60 (ledger.sent client)).length) :
    ledger.sent client <+: (run WsLedger.step ledger calls).sent client ∧
      ledger.returned client <+: (run WsLedger.step ledger calls).returned client ∧
      ((run WsLedger.step ledger calls).server.clients client).inUse = true ∧
      (goal ≤ ((run WsLedger.step ledger calls).returned client).length ∨
        deficit goal (run WsLedger.step ledger calls) client + calls.countP WsCall.isPoll ≤
          deficit goal ledger client) := by
  induction calls generalizing ledger with
  | nil => exact ⟨List.prefix_rfl, List.prefix_rfl, connected, Or.inr (Nat.le_refl _)⟩
  | cons call rest ih =>
    have here := stay call List.mem_cons_self
    have step := stays_step started connected here
    have grown := (decodedFrames_grow step.sent).length_le
    obtain ⟨later, behind, online, served⟩ := ih step.started step.connected
      (fun other inside => stay other (List.mem_cons_of_mem _ inside))
      (fun before early => kept (call :: before) (List.cons_prefix_cons.mpr ⟨rfl, early⟩)) (by omega)
    have returned := step.returned.trans behind
    refine ⟨step.sent.trans later, returned, online, ?_⟩
    rw [run_cons]
    rcases served with done | lowered
    · exact Or.inl done
    · by_cases short : (ledger.returned client).length < goal
      · right
        have first := deficit_step started connected here (kept [] (List.nil_prefix)) sent short
        rw [SlotTable.countP_cons_toNat]
        omega
      · left
        have more := returned.length_le
        omega

end Liveness

theorem decodedFrames_frames {frames : List (List UInt8)} {next rest : List UInt8}
    (fit : ∀ frame ∈ frames, FrameFits frame) (fits : FrameFits next) (early : rest <+: inboundFrame next)
    (short : rest.length < (inboundFrame next).length) :
    decodedFrames 60 ((frames.map inboundFrame).flatten ++ rest) = frames := by
  have bare : (frames.map inboundFrame).flatten = framed (frames.map ([], ·)) := by
    clear fit
    induction frames with
    | nil => rfl
    | cons frame others ih => simp [framed, ih]
  have apart : ∀ piece ∈ frames.map (([] : List UInt8), ·), 60 ∉ piece.1 ∧ FrameFits piece.2 := by
    intro piece member
    obtain ⟨frame, inside, rfl⟩ := List.mem_map.mp member
    exact ⟨List.not_mem_nil, fit frame inside⟩
  have listed : (frames.map (([] : List UInt8), ·)).map Prod.snd = frames := by simp [Function.comp_def]
  unfold decodedFrames
  rw [bare, List.foldl_append, receive_framed apart, listed, List.nil_append]
  apply receive_beginning fits early
  have size : (inboundFrame next).length = next.length + 3 := by
    rw [inboundFrame, List.length_append, List.length_cons, length_leBytes]
    omega
  omega

/-- Every frame that a client completes while it is connected is returned once, in the order sent, at the latest by the
    sixteenth poll that finds the client. -/
def ReturnsEach (calls : List WsCall) : Prop := ∀ before during, before ++ during <+: calls → ∀ client,
  ((run WsLedger.step .boot before).server.clients client).inUse = true →
    InOrder (run WsLedger.step .boot before) client ∧
      ((∀ call ∈ during, StaysOnline client call) → 16 ≤ during.countP WsCall.isPoll →
        decodedFrames 60 ((run WsLedger.step .boot before).sent client) <+:
          (run WsLedger.step .boot (before ++ during)).returned client)

theorem serve_started {server : WebSocketServer} (call : WsCall) {client : Fin 4} (started : server.started = true)
    (connected : ((WsLedger.serve server call).2.clients client).inUse = true) :
    (WsLedger.serve server call).2.started = true := by
  cases call with
  | start allowed =>
    cases allowed with
    | false => cases connected
    | true => rfl
  | stop => cases connected
  | loop allowed =>
    cases allowed with
    | false => cases connected
    | true => exact started
  | event allowed online clientNum type payload =>
    simp only [WsLedger.serve, WebSocketServer.onEvent]
    split
    · exact started
    · split <;> exact started
  | poll allowed online =>
    cases allowed with
    | false => cases connected
    | true =>
      simp only [WsLedger.serve, WebSocketServer.pollRecvFrame, started, Bool.true_eq_false, if_false]
      split
      · rfl
      · split
        · rfl
        · exact started
  | disconnectClient index => exact started

theorem started_run (calls : List WsCall) (client : Fin 4)
    (connected : ((run WsLedger.step .boot calls).server.clients client).inUse = true) :
    (run WsLedger.step .boot calls).server.started = true := by
  have kept : ∀ client, ((run WsLedger.step .boot calls).server.clients client).inUse = true →
      (run WsLedger.step .boot calls).server.started = true := by
    apply run_invariant fun ledger : WsLedger =>
      ∀ client, (ledger.server.clients client).inUse = true → ledger.server.started = true
    · exact fun _ connected => connected
    · intro ledger call running client connected
      refine serve_started call ?_ connected
      rcases client_step ledger call client with ⟨gone, -⟩ | ⟨-, -, -, -, -, opening⟩ |
        ⟨stocked, popped, -, -, -⟩ | ⟨queued, -, -⟩
      · rw [gone] at connected
        cases connected
      · cases call with
        | event =>
          simp only [WsLedger.opens, Bool.and_eq_true] at opening
          exact opening.1.1.2
        | start | stop | loop | poll | disconnectClient => cases opening
      · rw [popped] at connected
        exact running client connected
      · rw [queued, WsClient.queuePayload_inUse] at connected
        exact running client connected
  exact kept client connected

theorem ws_intake_in_order (calls : List WsCall) :
    (∀ (frames : List (List UInt8)) (next rest : List UInt8), (∀ frame ∈ frames, FrameFits frame) → FrameFits next →
      rest <+: inboundFrame next → rest.length < (inboundFrame next).length →
        decodedFrames 60 ((frames.map inboundFrame).flatten ++ rest) = frames) ∧
    (ReturnsEach calls ↔ Along WsLedger.step NoOverflow .boot calls) := by
  refine ⟨fun frames next rest => decodedFrames_frames, ?_⟩
  rw [← inOrder_iff]
  constructor
  · intro each before early client connected
    have whole : before ++ [] <+: calls := by rwa [List.append_nil]
    exact (each before [] whole client connected).1 connected
  · intro throughout before during early client connected
    have kept := throughout before ((List.prefix_append _ _).trans early) client
    refine ⟨kept, fun stay polls => ?_⟩
    have started := started_run before client connected
    obtain ⟨sent, -, online, served⟩ := returned_after started connected stay
      (fun next inside => by
        rw [← run_append]
        exact throughout (before ++ next) (((List.prefix_append_right_inj before).mpr inside).trans early) client)
      (Nat.le_refl _)
    rw [← run_append] at sent online served
    have final := throughout (before ++ during) early client online
    have counted := congrArg List.length (kept connected)
    rw [List.length_append, RingQueue.length_contents] at counted
    have fits := ((run WsLedger.step .boot before).server.clients client).rxQueue.fits
    have near := wait_lt (run WsLedger.step .boot before) client
    have goal : (decodedFrames 60 ((run WsLedger.step .boot before).sent client)).length ≤
        ((run WsLedger.step .boot (before ++ during)).returned client).length := by
      rcases served with done | lowered
      · exact done
      · unfold deficit at lowered
        omega
    exact List.prefix_of_prefix_length_le (decodedFrames_grow sent) ⟨_, final⟩ goal

def frames (payloads : List (List UInt8)) : List UInt8 := (payloads.map inboundFrame).flatten

/-- Four frames, the last of them in two fragments. -/
def fourFrames : List WsCall :=
  [.start true, .event true true 2 .connected [], .event true true 2 .bin (frames [[1], [2], [3]]),
    .event true true 2 .fragmentBinStart [60, 1], .event true true 2 .fragmentFin [0, 4]]

theorem fourFrames_returned : ReturnsEach fourFrames :=
  (ws_intake_in_order fourFrames).2.mpr ⟨by decide, by decide, by decide, by decide, by decide, trivial⟩

def fiveFrames : List WsCall :=
  [.start true, .event true true 2 .connected [], .event true true 2 .bin (frames [[1], [2], [3], [4], [5]])]

/-- The fifth frame of a message is gone, and the client is still connected. -/
theorem fifthFrame_dropped :
    ((run WsLedger.step .boot fiveFrames).server.clients 2).inUse = true ∧
      ((run WsLedger.step .boot fiveFrames).server.clients 2).rxQueue.contents = [[1], [2], [3], [4]] ∧
      ¬ ReturnsEach fiveFrames := by
  have connected : ((run WsLedger.step .boot fiveFrames).server.clients 2).inUse = true := by decide
  refine ⟨connected, by decide, ?_⟩
  intro each
  have kept := (each fiveFrames [] (by simp) 2 connected).1 connected
  exact absurd kept (by decide)

end SigurdOS.Comms
