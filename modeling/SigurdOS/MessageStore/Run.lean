import SigurdOS.Library.Runs
import SigurdOS.MessageStore.Service

namespace SigurdOS.MessageStore

open Runs

/-- The public operations of the store. A reboot loses the RAM state and calls `messageStoreBegin`. -/
inductive Op where
  | append (msg : StoredMessage)
  | mark (mark : Mark)
  | clear
  | reboot

def perform (s : Store) : Op → Bool × Store
  | .append msg =>
    let (storeId, s) := messageStoreAppend s msg
    (storeId.isSome, s)
  | .mark mark => messageStoreMark s mark
  | .clear => messageStoreClear s
  | .reboot => messageStoreBegin s.powerOn

def exec (s : Store) (op : Op) : Store := (perform s op).2

/-- An operation during which the medium follows a script. -/
def execFaulty (s : Store) (input : Op × List Fault) : Store := exec (s.withFaults input.2) input.1

/-- The abstract store: what each operation does to the log on a working medium. -/
inductive Evolution (s : Store) (log : Log) : Op → Log → Prop
  | found (msg stored : StoredMessage) (member : stored ∈ log.messages)
      (same : storedMessageSameIdentity stored (storedMessageNormalize msg) = true) :
      Evolution s log (.append msg) log
  | stored (msg : StoredMessage) (after : Log) (absent : log.lookup (storedMessageNormalize msg) = none)
      (next : after.nextId = log.following)
      (messages : after.messages =
        recordsAfter s (log.messages ++ [(storedMessageNormalize msg).withId log.nextId])) :
      Evolution s log (.append msg) after
  | marked (mark : Mark) (after : Log) (next : after.nextId = log.nextId)
      (messages : List.Forall₂ (Marked mark.selects) log.messages after.messages) : Evolution s log (.mark mark) after
  | cleared : Evolution s log .clear Log.empty
  | rebooted (after : Log) (messages : after.messages = log.messages)
      (next : after.nextId = deriveNextId log.messages) : Evolution s log .reboot after

section Steady

variable {s : Store} {log : Log}

theorem Steady.records (steady : Steady s log) : s.records = log.messages := by
  unfold Store.records messageStoreCount
  rcases steady with serves | ⟨blank, rfl⟩
  · rw [serves.holds.readHeader]
    exact serves.holds.loadAll_count
  · rw [readHeader_missing blank.live, messageStoreLoadAll, loadAllInternal, readHeader_missing blank.live]
    rfl

theorem Steady.count (steady : Steady s log) : messageStoreCount s = log.messages.length := by
  unfold messageStoreCount
  rcases steady with serves | ⟨blank, rfl⟩
  · rw [serves.holds.readHeader]
  · rw [readHeader_missing blank.live]
    rfl

theorem Steady.unsent (steady : Steady s log) (max : Nat) :
    messageStoreLoadUnsent s max = (log.messages.filter unsentIncoming).take max := by
  rcases steady with serves | ⟨blank, rfl⟩
  · exact serves.holds.loadUnsent max
  · rw [messageStoreLoadUnsent, loadUnsentInternal, readHeader_missing blank.live]
    exact List.take_nil.symm

theorem Steady.bound (steady : Steady s log) : log.messages.length ≤ backendMaxRecords s := by
  rcases steady with serves | ⟨-, rfl⟩
  · exact serves.bound
  · exact Nat.zero_le _

theorem Steady.header (steady : Steady s log) {count : Nat} {nextId : UInt32}
    (header : readHeader s = some (count, nextId)) : nextId = log.nextId := by
  rcases steady with serves | ⟨blank, -⟩
  · rw [serves.holds.readHeader] at header
    exact (Prod.mk.inj (Option.some.inj header)).2.symm
  · rw [readHeader_missing blank.live] at header
    cases header

theorem exec_steady (steady : Steady s log) (op : Op) :
    ∃ after, Steady (exec s op) after ∧ (exec s op).backend = s.backend ∧ Evolution s log op after := by
  cases op with
  | append msg =>
    rcases messageStoreAppend_steady steady msg with
      ⟨stored, member, same, done, serves⟩ | ⟨absent, after, stored, done, served, backend, next, messages⟩
    · have result : exec s (.append msg) = s := by rw [exec, perform, done]
      rw [result]
      exact ⟨log, Or.inl serves, rfl, .found msg stored member same⟩
    · have result : exec s (.append msg) = after := by rw [exec, perform, done]
      rw [result]
      exact ⟨stored, Or.inl served, backend, .stored msg stored absent next messages⟩
  | mark mark =>
    obtain ⟨ok, after, marked, done, kept, backend, next, messages⟩ := messageStoreMark_steady steady mark
    have result : exec s (.mark mark) = after := by rw [exec, perform, done]
    rw [result]
    exact ⟨marked, kept, backend, .marked mark marked next messages⟩
  | clear =>
    obtain ⟨after, done, served, backend⟩ := messageStoreClear_steady steady
    have result : exec s .clear = after := by rw [exec, perform, done]
    rw [result]
    exact ⟨Log.empty, Or.inl served, backend, .cleared⟩
  | reboot =>
    obtain ⟨after, booted, done, served, backend, messages, next⟩ := messageStoreBegin_steady steady
    have result : exec s .reboot = after := by rw [exec, perform, done]
    rw [result]
    exact ⟨booted, Or.inl served, backend, .rebooted booted messages next⟩

end Steady

theorem run_steady (backend : Option MessageStoreBackend) (ops : List Op) :
    ∃ log, Steady (run exec (Store.initial backend) ops) log := by
  apply run_invariant (fun s => ∃ log, Steady s log)
  · exact ⟨Log.empty, Or.inr ⟨initial_blank backend, rfl⟩⟩
  · rintro s op ⟨log, steady⟩
    obtain ⟨after, kept, -⟩ := exec_steady steady op
    exact ⟨after, kept⟩

theorem Steady.index {s : Store} {log : Log} (steady : Steady s log) :
    s.identityIndex = log.messages.map indexEntry := by
  rcases steady with serves | ⟨blank, rfl⟩
  · exact serves.indexed.entries
  · exact blank.index

theorem Steady.messageExists {s : Store} {log : Log} (steady : Steady s log) (msg : StoredMessage) :
    (messageExists s msg).1 = log.lookup msg := by
  rcases steady with serves | ⟨blank, rfl⟩
  · rw [messageExists_indexed serves.holds serves.indexed]
  · rw [MessageStore.messageExists, blank.unindexed, if_neg (by simp), rebuildIdentityIndex,
      readHeader_missing blank.live]
    rfl

theorem Steady.distinct {s : Store} {log : Log} (steady : Steady s log) : log.Distinct := by
  rcases steady with serves | ⟨-, rfl⟩
  · exact serves.distinct
  · exact .nil

/-- Duplicate detection through the index is the plain scan, and it keeps the identities unique. -/
theorem index_refines_scan (backend : Option MessageStoreBackend) (ops : List Op) :
    (run exec (Store.initial backend) ops).identityIndex =
        (run exec (Store.initial backend) ops).records.map indexEntry ∧
      (∀ msg, (messageExists (run exec (Store.initial backend) ops) msg).1.isSome = true ↔
        ∃ stored ∈ (run exec (Store.initial backend) ops).records, storedMessageSameIdentity stored msg = true) ∧
      (run exec (Store.initial backend) ops).records.Pairwise (fun earlier later =>
        storedMessageSameIdentity earlier later = false ∧ storedMessageSameIdentity later earlier = false) := by
  obtain ⟨log, steady⟩ := run_steady backend ops
  rw [steady.records]
  refine ⟨steady.index, ?_, ?_⟩
  · intro msg
    rw [steady.messageExists, Log.lookup, Option.isSome_map, List.find?_isSome]
  · apply steady.distinct.imp
    intro earlier later different
    refine ⟨different, Bool.eq_false_iff.mpr ?_⟩
    intro same
    rw [sameIdentity_swap same] at different
    cases different

end SigurdOS.MessageStore
