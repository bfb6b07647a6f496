import SigurdOS.Companion.Device
import SigurdOS.Companion.Sync
import SigurdOS.MessageStore.Retrieval

namespace SigurdOS.Companion

open Bytes MessageStore

section Requests

variable {σ : Type} (h : CompanionBridgeHost σ) (build : Build)

def sync (s : State σ) : State σ := (handleFrame h build s syncFrame).2

/-- The session is as it was left: the device, the stored sessions and the logs may have moved on. -/
structure Mirrors (s t : State σ) : Prop where
  attached : t.attached = s.attached
  request : t.request = s.request
  current : t.current = s.current
  store : t.store = s.store
  links : t.links = s.links
  history : t.history = s.history

def Event.delivers (storeId : UInt32) : Event → Bool
  | .delivered _ _ frame => frame.persistent && frame.storeId == storeId
  | _ => false

def backlog (store : Store) : List StoredMessage := messageStoreLoadUnsent store (messageStoreCount store)

end Requests

section Round

variable {σ : Type} {h : CompanionBridgeHost σ} {build : Build} {s t : State σ} {messages : List StoredMessage}

theorem Mirrors.refl (s : State σ) : Mirrors s s := ⟨rfl, rfl, rfl, rfl, rfl, rfl⟩

theorem Mirrors.currentGeneration (mirrors : Mirrors s t) : currentGeneration t = currentGeneration s := by
  unfold Companion.currentGeneration transportsClientGeneration transportsClientConnected
  rw [mirrors.request, mirrors.links, mirrors.attached]

theorem Mirrors.served (mirrors : Mirrors s t) (served : Served s) : Served t where
  connected := by
    have connected := served.connected
    unfold currentTransportConnected transportsClientConnected at connected ⊢
    rw [mirrors.request, mirrors.links, mirrors.attached]
    exact connected
  generation := by rw [mirrors.currentGeneration]; exact served.generation
  accepts := by rw [mirrors.links]; exact served.accepts
  synced := by rw [mirrors.current, mirrors.currentGeneration]; exact served.synced
  negotiated := by rw [mirrors.current]; exact served.negotiated
  idle := by rw [mirrors.current]; exact served.idle

end Round

section Todo

variable {σ : Type} {h : CompanionBridgeHost σ} {s : State σ} {queue rest : List Frame} {head : Frame}
  {messages : List StoredMessage}

end Todo

section Drains

variable {σ : Type} {h : CompanionBridgeHost σ} {build : Build} {s t : State σ} {messages : List StoredMessage}

theorem Mirrors.acknowledges (mirrors : Mirrors s t) : Acknowledges t ↔ Acknowledges s := by
  constructor
  · rintro ⟨claimed, connected, generation, head⟩
    rw [mirrors.current] at claimed connected generation head
    exact ⟨claimed, connected, generation, head⟩
  · rintro ⟨claimed, connected, generation, head⟩
    rw [← mirrors.current] at claimed connected generation head
    exact ⟨claimed, connected, generation, head⟩

end Drains

section Stuck

variable {σ : Type} {h : CompanionBridgeHost σ} {build : Build} {s t : State σ} {messages : List StoredMessage}

end Stuck

section Clients

variable {σ : Type} {h : CompanionBridgeHost σ} {build : Build} {s t : State σ}

/-- The state in which the frames of a client are handled: the bridge itself on the serial interface,
    with the client's session opened in the registry. -/
inductive Opens (s : State σ) : State σ → Prop
  | serial (detached : s.attached = false) : Opens s s
  | registry {index : Nat} {peer : Peer} {session : TransportSession} (attached : s.attached = true)
      (found : s.sessions[index]? = some session) (slot : session.slot = some peer) :
      Opens s (s.opened index peer session)

theorem Settled.orderly (settled : Settled h s) (opens : Opens s t) : Orderly t.current.offline := by
  cases opens with
  | serial detached => exact (settled.current detached).orderly
  | registry attached found slot => exact (settled.sessions _ (List.mem_of_getElem? found)).orderly

end Clients

end SigurdOS.Companion
