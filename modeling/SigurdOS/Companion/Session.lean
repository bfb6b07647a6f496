import SigurdOS.Companion.Frame
import SigurdOS.MessageStore.Operations

namespace SigurdOS.Companion

open Bytes MessageStore

def maxPendingBinaryRequests : Nat := 4
def maxTransportSessions : Nat := 9
def binaryRequestFallbackTimeoutMs : UInt32 := 30000

structure PendingBinaryRequest where
  tag : UInt32
  deadlineMs : UInt32
  deriving DecidableEq

def PendingBinaryRequest.free : PendingBinaryRequest := ⟨0, 0⟩

/-- The connection-scoped state: members of the bridge, and the same fields of a transport session.
    A buffer and its length are one list. `contactIter` is `none` for the source's -1. -/
structure Connection where
  appTargetVer : UInt8
  versionNegotiated : Bool
  iterFilterSince : UInt32
  mostRecentLastmod : UInt32
  contactIter : Option Nat
  offline : List Frame
  pendingBinary : List PendingBinaryRequest
  pendingResponse : List UInt8
  signBuf : List UInt8
  signActive : Bool
  wasConnected : Bool
  connectionGeneration : UInt32
  inflightStoreId : UInt32
  inflightGeneration : UInt32
  deriving DecidableEq

def Connection.initial : Connection where
  appTargetVer := 3
  versionNegotiated := true
  iterFilterSince := 0
  mostRecentLastmod := 0
  contactIter := none
  offline := []
  pendingBinary := List.replicate maxPendingBinaryRequests .free
  pendingResponse := []
  signBuf := []
  signActive := false
  wasConnected := false
  connectionGeneration := 0
  inflightStoreId := 0
  inflightGeneration := 0

inductive TransportId where
  | ble
  | tcp
  | ws
  deriving DecidableEq

structure Peer where
  id : TransportId
  client : Nat
  deriving DecidableEq

/-- `slot` is `none` for a session that is not used. -/
structure TransportSession extends Connection where
  slot : Option Peer
  generation : UInt32
  deriving DecidableEq

def TransportSession.blank : TransportSession := { Connection.initial with slot := none, generation := 0 }

/-- The transports as the bridge sees them during one step. A network client is given by its
    generation while it is connected. `accepts` is the script of the frame writes: each attempt on a
    live connection takes the next entry and an empty script accepts. -/
structure Links where
  serialEnabled : Bool
  serialConnected : Bool
  serialGeneration : UInt32
  writeBusy : Bool
  networkAllowed : Bool
  clients : Peer → Option UInt32
  accepts : List Bool

/-- What went over a link, oldest first. A `delivered` frame is the head of an offline queue. -/
inductive Event where
  | received (peer : Option Peer) (generation : UInt32) (frame : List UInt8)
  | delivered (peer : Option Peer) (generation : UInt32) (frame : Frame)
  | wrote (peer : Option Peer) (generation : UInt32) (frame : List UInt8)
  | marked (peer : Option Peer) (generation : UInt32) (storeId : UInt32)
  deriving DecidableEq

/-- Accesses to the command and response buffers as offset and length, the responses handed over,
    and for each change of the device whether an earlier response was still pending. -/
structure Trace where
  reads : List (Nat × Nat)
  writes : List (Nat × Nat)
  responses : List (List UInt8)
  mutations : List Bool

def Trace.empty : Trace := ⟨[], [], [], []⟩

/-- `attached` says that the transport registry drives the serial interface, `inbox` holds the frames
    it has received and nobody has read. `request` is the slot whose request is active, `active` the
    index of the session it works on. `history` and `trace` are history variables that no function
    reads. -/
structure State (σ : Type) where
  attached : Bool
  current : Connection
  request : Option Peer
  active : Option Nat
  sessions : List TransportSession
  lastSyncTime : UInt32
  host : σ
  store : Store
  links : Links
  inbox : List (List UInt8)
  history : List Event
  trace : Trace

section Members

variable {σ : Type}

def State.update (s : State σ) (f : Connection → Connection) : State σ := { s with current := f s.current }

def State.note (s : State σ) (event : Event) : State σ := { s with history := s.history ++ [event] }

def State.logWrite (s : State σ) (offset length : Nat) : State σ :=
  { s with trace := { s.trace with writes := s.trace.writes ++ [(offset, length)] } }

def State.logResponse (s : State σ) (frame : List UInt8) : State σ :=
  { s with trace := { s.trace with responses := s.trace.responses ++ [frame] } }

def State.mutate {α : Type} (s : State σ) (f : σ → α × σ) : α × State σ :=
  ((f s.host).1, { s with
    host := (f s.host).2
    trace := { s.trace with mutations := s.trace.mutations ++ [!s.current.pendingResponse.isEmpty] } })

end Members

end SigurdOS.Companion
