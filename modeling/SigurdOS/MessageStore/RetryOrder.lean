import SigurdOS.MessageStore.Retrieval

namespace SigurdOS.MessageStore

open Runs

structure Attends (s after : Store) : Prop where
  backend : after.backend = s.backend
  queue : after.retryQueue = s.retryQueue
  dropped : after.retryQueueDropCount = s.retryQueueDropCount

section Attends

variable {s : Store}

theorem Attends.refl (s : Store) : Attends s s := ⟨rfl, rfl, rfl⟩

theorem Attends.trans {middle after : Store} (first : Attends s middle) (second : Attends middle after) :
    Attends s after :=
  ⟨second.backend.trans first.backend, second.queue.trans first.queue, second.dropped.trans first.dropped⟩

end Attends

section Order

def retried (s : Store) : Nat → List StoredMessage
  | 0 => []
  | rounds + 1 =>
    match s.retryQueue with
    | [] => []
    | msg :: _ =>
      match appendOnce s msg with
      | (none, _) => []
      | (some _, s) => msg :: retried (retryQueuePopFront s) rounds

/-- A call that leaves an earlier message in the queue does not write its own message to the default
    store: there the medium fails for both of them, or the registered backend takes the message. -/
def InOrder (s : Store) (input : StoredMessage × List Fault) : Prop :=
  let s := s.withFaults input.2
  (retryQueuedOnDefaultBackend s).retryQueue = [] ∨
    match s.backend with
    | none => (appendOnce (retryQueuedOnDefaultBackend s) input.1).1 = none
    | some _ => (appendOnce s input.1).1.isSome = true ∨ (appendFailover (appendOnce s input.1).2 input.1).1 = none

variable {s : Store} {msg : StoredMessage}

end Order

end SigurdOS.MessageStore
