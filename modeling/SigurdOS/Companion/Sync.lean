import SigurdOS.Companion.Backlog

namespace SigurdOS.Companion

open Bytes MessageStore

def syncFrame : List UInt8 := [10]

section Served

variable {σ : Type} (h : CompanionBridgeHost σ) (build : Build)

/-- The session is negotiated over its present connection, which takes every frame, and no response
    waits. Live connections have a generation that is not zero. -/
structure Served (s : State σ) : Prop where
  connected : currentTransportConnected s = true
  generation : currentGeneration s ≠ 0
  accepts : s.links.accepts = []
  synced : s.current.connectionGeneration = currentGeneration s
  negotiated : s.current.versionNegotiated = true
  idle : s.current.pendingResponse = []

structure Prepared (s t : State σ) (frame : List UInt8) : Prop where
  attached : t.attached = s.attached
  request : t.request = s.request
  active : t.active = s.active
  sessions : t.sessions = s.sessions
  store : t.store = s.store
  links : t.links = s.links
  history : t.history = s.history ++ [.received s.request (currentGeneration s) frame]
  version : t.current.appTargetVer = s.current.appTargetVer
  negotiated : t.current.versionNegotiated = s.current.versionNegotiated
  offline : t.current.offline = s.current.offline
  response : t.current.pendingResponse = s.current.pendingResponse
  generation : t.current.connectionGeneration = s.current.connectionGeneration
  inflightStoreId : t.current.inflightStoreId = s.current.inflightStoreId
  inflightGeneration : t.current.inflightGeneration = s.current.inflightGeneration

variable {h build} {s t : State σ} {frame : List UInt8}

theorem Prepared.currentGeneration (prepared : Prepared s t frame) : currentGeneration t = currentGeneration s := by
  unfold Companion.currentGeneration transportsClientGeneration transportsClientConnected
  rw [prepared.request, prepared.links, prepared.attached]

theorem Prepared.served (prepared : Prepared s t frame) (served : Served s) : Served t where
  connected := by
    have connected := served.connected
    unfold currentTransportConnected transportsClientConnected at connected ⊢
    rw [prepared.request, prepared.links, prepared.attached]
    exact connected
  generation := by rw [prepared.currentGeneration]; exact served.generation
  accepts := by rw [prepared.links]; exact served.accepts
  synced := by rw [prepared.generation, prepared.currentGeneration]; exact served.synced
  negotiated := by rw [prepared.negotiated]; exact served.negotiated
  idle := by rw [prepared.response]; exact served.idle

theorem Served.refreshed (served : Served s) : refreshed s = { s.current with wasConnected := true } := by
  unfold Companion.refreshed
  have unchanged : (s.current.wasConnected && (s.current.connectionGeneration != 0 &&
      (!currentTransportConnected s || currentGeneration s != s.current.connectionGeneration))) = false := by
    rw [served.connected, served.synced]
    simp
  rw [unchanged, if_neg (by decide), served.connected, ← served.synced]

theorem Frame.valid (frame : Frame) : validFrame frame.buf = true := by
  simp [validFrame, frame.bounded.1, frame.bounded.2]

variable {messages : List StoredMessage}

theorem Served.withQueues (served : Served s) (queue : List Frame) (sessions : List TransportSession) :
    Served (s.withQueues queue sessions) :=
  ⟨served.connected, served.generation, served.accepts, served.synced, served.negotiated, served.idle⟩

end Served

end SigurdOS.Companion
