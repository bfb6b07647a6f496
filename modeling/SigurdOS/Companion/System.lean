import SigurdOS.Companion.Effects
import SigurdOS.Library.Runs

namespace SigurdOS.Companion

open Bytes MessageStore

/-- What can happen to the bridge. Links, device and storage also change by themselves; the network
    servers hand over their frames one by one, the serial interface through its inbox. -/
inductive Action (σ : Type) where
  | relink (links : Links)
  | device (host : σ)
  | storage (store : Store)
  | serialFrame (frame : List UInt8)
  | arrive (msg : StoredMessage)
  | channelData (channelIndex snrQuarters pathLen : UInt8) (dataType : UInt16) (payload : List UInt8)
  | binaryResponse (tag : UInt32) (blob : List UInt8)
  | identityChanged
  | dispatch (peer : Peer) (frame : List UInt8)
  | service
  | round

section System

variable {σ : Type} (h : CompanionBridgeHost σ) (build : Build)

/-- The registry drives an attached bridge; only a detached one runs its own loop. -/
def step (s : State σ) : Action σ → State σ
  | .relink links => { s with links := links }
  | .device host => { s with host := host }
  | .storage store => { s with store := store }
  | .serialFrame frame => { s with inbox := s.inbox ++ [frame] }
  | .arrive msg => storeAndEnqueue h s msg
  | .channelData channelIndex snrQuarters pathLen dataType payload =>
    enqueueChannelData s channelIndex snrQuarters pathLen dataType payload
  | .binaryResponse tag blob => (pushBinaryResponse h s tag blob).2
  | .identityChanged => onIdentityChanged s
  | .dispatch peer frame => if s.attached then dispatchFrame h build s peer frame else s
  | .service => if s.attached then serviceTransportSessions h s else s
  | .round => if s.attached then s else loop h build s

def State.boot (attached : Bool) (host : σ) (store : Store) (links : Links) : State σ where
  attached := attached
  current := .initial
  request := none
  active := none
  sessions := List.replicate maxTransportSessions .blank
  lastSyncTime := 0
  host := host
  store := store
  links := links
  inbox := []
  history := []
  trace := .empty

end System

section Work

variable {σ : Type} (h : CompanionBridgeHost σ) (s : State σ)

def State.worked (current : Connection) (host : σ) (trace : Trace) : State σ :=
  { s with current := current, host := host, trace := trace }

def refreshed : Connection :=
  { (if s.current.wasConnected && (s.current.connectionGeneration != 0 &&
        (!currentTransportConnected s || currentGeneration s != s.current.connectionGeneration))
      then resetConnectionSession s.current else s.current) with
    connectionGeneration := currentGeneration s
    wasConnected := currentTransportConnected s }

theorem refreshConnectionSession_worked :
    ∃ host trace, refreshConnectionSession h s = s.worked (refreshed s) host trace := by
  unfold refreshConnectionSession refreshed
  dsimp only
  split
  · exact ⟨_, _, rfl⟩
  · exact ⟨s.host, s.trace, rfl⟩

theorem cancelEach_worked (requests : List PendingBinaryRequest) :
    ∃ host trace, requests.foldl (fun s request => cancelBinaryReq h s request.tag) s =
      s.worked s.current host trace := by
  induction requests generalizing s with
  | nil => exact ⟨s.host, s.trace, rfl⟩
  | cons request rest ih =>
    obtain ⟨host, trace, same⟩ := ih (cancelBinaryReq h s request.tag)
    exact ⟨host, trace, same⟩

def unexpired (now : UInt32) (requests : List PendingBinaryRequest) : List PendingBinaryRequest :=
  requests.map fun request => if requestExpired now request then .free else request

theorem expirePendingBinary_worked :
    ∃ host trace, expirePendingBinary h s = s.worked
      { s.current with pendingBinary := unexpired (h.monotonicMillis s.host) s.current.pendingBinary } host trace :=
  cancelEach_worked h _ _

end Work

end SigurdOS.Companion
