import SigurdOS.Companion.Bridge
import SigurdOS.Library.Runs

/-! The queue of the frames for the phone, over any calls that add to it and take from it. -/

namespace SigurdOS.Companion

open Runs

/-- A null frame is `none`. -/
inductive QueueCall where
  | add (storeId : UInt32) (persistent : Bool) (frame : Option (List UInt8))
  | removeFirst

def queueStep (c : Connection) : QueueCall → Connection
  | .removeFirst => removeFirstOfflineFrame c
  | .add storeId persistent frame =>
    match frame.bind (addToOfflineQueueBuffer c.offline storeId persistent) with
    | none => c
    | some queue => { c with offline := queue }

section Arrival

def arrivalStep (arrived : Nat × List (Nat × Frame)) (call : QueueCall) : Nat × List (Nat × Frame) :=
  let (now, queue) := arrived
  match call with
  | .removeFirst => (now + 1, queue.tail)
  | .add storeId persistent frame =>
    match (frame.bind (addToOfflineQueueBuffer (queue.map Prod.snd) storeId persistent)).bind List.getLast? with
    | none => (now + 1, queue)
    | some entry =>
      let kept := if queue.length < offlineQueueSize then queue else queue.eraseP fun frame => !frame.2.persistent
      (now + 1, kept ++ [(now, entry)])

def stampedQueue (calls : List QueueCall) : List (Nat × Frame) := (run arrivalStep (0, []) calls).2

end Arrival

/-- A call that adds is refused, puts its frame behind the others, or takes the oldest volatile one's place. -/
structure Adds (storeId : UInt32) (persistent : Bool) (frame : Option (List UInt8)) (before after : List Frame) :
    Prop where
  shape : after = before ∨
    ∃ entry : Frame, entry.storeId = storeId ∧ entry.persistent = persistent ∧ frame = some entry.buf ∧
      ((before.length < offlineQueueSize ∧ after = before ++ [entry]) ∨
        (before.length = offlineQueueSize ∧ persistent = false ∧ ∃ front oldest back,
          before = front ++ oldest :: back ∧ (∀ other ∈ front, other.persistent = true) ∧
            oldest.persistent = false ∧ after = front ++ back ++ [entry]))
  durable : ∃ added, after.filter Frame.persistent = before.filter Frame.persistent ++ added

structure QueueHolds (calls : List QueueCall) (c : Connection) : Prop where
  short : c.offline.length ≤ 16
  frames : c.offline.Pairwise fun a b => a.buf ≠ b.buf
  stored : c.offline.Pairwise fun a b => a.persistent = true → b.persistent = true → a.storeId ≠ b.storeId
  identified : ∀ entry ∈ c.offline, entry.persistent = true → entry.storeId ≠ 0
  arrived : (stampedQueue calls).map Prod.snd = c.offline
  inOrder : (stampedQueue calls).Pairwise fun a b => a.1 < b.1
  adds : ∀ storeId persistent frame,
    Adds storeId persistent frame c.offline (queueStep c (.add storeId persistent frame)).offline

section Adding

variable {queue kept added : List Frame} {storeId : UInt32} {persistent : Bool} {frame : List UInt8}

theorem evictVolatile_split (evicted : evictVolatile queue = some kept) :
    ∃ front oldest back, queue = front ++ oldest :: back ∧ (∀ other ∈ front, other.persistent = true) ∧
      oldest.persistent = false ∧ kept = front ++ back := by
  induction queue generalizing kept with
  | nil => cases evicted
  | cons entry rest ih =>
    unfold evictVolatile at evicted
    cases durable : entry.persistent with
    | true =>
      rw [durable, if_pos rfl, Option.map_eq_some_iff] at evicted
      obtain ⟨later, evicted, rfl⟩ := evicted
      obtain ⟨front, oldest, back, rfl, durables, volatile, rfl⟩ := ih evicted
      refine ⟨entry :: front, oldest, back, rfl, fun other member => ?_, volatile, rfl⟩
      rcases List.mem_cons.mp member with rfl | later
      · exact durable
      · exact durables other later
    | false =>
      rw [durable, if_neg (by decide)] at evicted
      cases evicted
      exact ⟨[], entry, rest, rfl, fun _ member => absurd member List.not_mem_nil, durable, rfl⟩

theorem addToOfflineQueueBuffer_shape
    (accepted : addToOfflineQueueBuffer queue storeId persistent frame = some added) :
    ∃ entry : Frame, entry.storeId = storeId ∧ entry.persistent = persistent ∧ entry.buf = frame ∧
      ((queue.length < offlineQueueSize ∧ added = queue ++ [entry]) ∨
        (queue.length = offlineQueueSize ∧ persistent = false ∧ ∃ front oldest back,
          queue = front ++ oldest :: back ∧ (∀ other ∈ front, other.persistent = true) ∧
            oldest.persistent = false ∧ added = front ++ back ++ [entry])) := by
  obtain ⟨bounded, appended, short, -⟩ := addToOfflineQueueBuffer_some accepted
  refine ⟨⟨storeId, persistent, frame, bounded⟩, rfl, rfl, rfl, ?_⟩
  unfold appendFrame at appended
  split at appended
  · rename_i full
    cases persistent with
    | true => cases appended
    | false =>
      rw [if_neg Bool.false_ne_true] at appended
      obtain ⟨kept, evicted, rfl⟩ := Option.map_eq_some_iff.mp appended
      obtain ⟨front, oldest, back, split, durables, volatile, rfl⟩ := evictVolatile_split evicted
      exact .inr ⟨Nat.le_antisymm short full, rfl, front, oldest, back, split, durables, volatile, rfl⟩
  · rename_i free
    cases appended
    exact .inl ⟨Nat.lt_of_not_le free, rfl⟩

theorem offlineFrameExistsIn_false (absent : offlineFrameExistsIn queue frame = false)
    (bounded : 0 < frame.length ∧ frame.length ≤ maxFrameSize) (short : queue.length ≤ offlineQueueSize) :
    ∀ entry ∈ queue, entry.buf ≠ frame := by
  intro entry member same
  unfold offlineFrameExistsIn at absent
  rw [if_neg (by omega), if_neg (by omega), List.any_eq_false] at absent
  exact absent entry member (beq_iff_eq.mpr same)

theorem queueStep_adds (c : Connection) (storeId : UInt32) (persistent : Bool) (frame : Option (List UInt8)) :
    Adds storeId persistent frame c.offline (queueStep c (.add storeId persistent frame)).offline := by
  cases offered : frame.bind (addToOfflineQueueBuffer c.offline storeId persistent) with
  | none =>
    simp only [queueStep, offered]
    exact ⟨.inl rfl, [], (List.append_nil _).symm⟩
  | some queue =>
    simp only [queueStep, offered]
    obtain ⟨text, rfl, accepted⟩ := Option.bind_eq_some_iff.mp offered
    obtain ⟨entry, id, kind, rfl, shape⟩ := addToOfflineQueueBuffer_shape accepted
    refine ⟨.inr ⟨entry, id, kind, rfl, shape⟩, [entry].filter Frame.persistent, ?_⟩
    rcases shape with ⟨_, rfl⟩ | ⟨_, _, front, oldest, back, split, _, volatile, rfl⟩
    · rw [List.filter_append]
    · have gone : (oldest :: back).filter Frame.persistent = back.filter Frame.persistent :=
        List.filter_cons_of_neg (by simp [volatile])
      rw [split, List.filter_append, List.filter_append, List.filter_append, gone]

end Adding

section Run

structure QueueKept (calls : List QueueCall) (c : Connection) : Prop where
  short : c.offline.length ≤ offlineQueueSize
  frames : c.offline.Pairwise fun a b => a.buf ≠ b.buf
  stored : c.offline.Pairwise fun a b => a.persistent = true → b.persistent = true → a.storeId ≠ b.storeId
  identified : ∀ entry ∈ c.offline, entry.persistent = true → entry.storeId ≠ 0
  now : (run arrivalStep (0, []) calls).1 = calls.length
  arrived : (stampedQueue calls).map Prod.snd = c.offline
  inOrder : (stampedQueue calls).Pairwise fun a b => a.1 < b.1
  past : ∀ entry ∈ stampedQueue calls, entry.1 < calls.length

variable {calls : List QueueCall} {c : Connection}

theorem arrivalStep_concat (calls : List QueueCall) (call : QueueCall) :
    run arrivalStep (0, []) (calls ++ [call]) =
        arrivalStep ((run arrivalStep (0, []) calls).1, stampedQueue calls) call :=
  run_concat _ _ _

theorem QueueKept.remove (kept : QueueKept calls c) :
    QueueKept (calls ++ [.removeFirst]) (removeFirstOfflineFrame c) := by
  have next := arrivalStep_concat calls .removeFirst
  have queue : stampedQueue (calls ++ [.removeFirst]) = (stampedQueue calls).tail := congrArg Prod.snd next
  have sub : c.offline.tail.Sublist c.offline := List.tail_sublist _
  constructor
  · exact Nat.le_trans sub.length_le kept.short
  · exact kept.frames.sublist sub
  · exact kept.stored.sublist sub
  · exact fun entry member => kept.identified entry (sub.subset member)
  · rw [next, List.length_append]
    exact congrArg (· + 1) kept.now
  · rw [queue, List.map_tail, kept.arrived]
    rfl
  · rw [queue]
    exact kept.inOrder.sublist (List.tail_sublist _)
  · intro entry member
    rw [queue] at member
    have earlier := kept.past entry (List.mem_of_mem_tail member)
    rw [List.length_append]
    omega

theorem QueueKept.add_stamps (kept : QueueKept calls c) {storeId : UInt32} {persistent : Bool} {frame : List UInt8}
    {added : List Frame} (accepted : addToOfflineQueueBuffer c.offline storeId persistent frame = some added) :
    ∃ entry : Frame, ∃ rest : List (Nat × Frame), entry.storeId = storeId ∧ entry.persistent = persistent ∧
      entry.buf = frame ∧ rest.Sublist (stampedQueue calls) ∧ added = rest.map Prod.snd ++ [entry] ∧
        added.length ≤ offlineQueueSize ∧
          run arrivalStep (0, []) (calls ++ [.add storeId persistent (some frame)]) =
            (calls.length + 1, rest ++ [(calls.length, entry)]) := by
  obtain ⟨entry, id, kind, text, shape⟩ := addToOfflineQueueBuffer_shape accepted
  have length : (stampedQueue calls).length = c.offline.length := by rw [← kept.arrived, List.length_map]
  have last : added.getLast? = some entry := by
    rcases shape with ⟨_, rfl⟩ | ⟨_, _, front, oldest, back, _, _, _, rfl⟩ <;> exact List.getLast?_concat
  have offered :
      ((some frame).bind (addToOfflineQueueBuffer ((stampedQueue calls).map Prod.snd) storeId persistent)).bind
      List.getLast? = some entry := by
    rw [kept.arrived, Option.bind_some, accepted, Option.bind_some, last]
  have next := arrivalStep_concat calls (.add storeId persistent (some frame))
  rw [kept.now] at next
  simp only [arrivalStep, offered, length] at next
  rcases shape with ⟨free, rfl⟩ | ⟨full, _, front, oldest, back, split, durables, volatile, rfl⟩
  · rw [if_pos free] at next
    refine ⟨entry, stampedQueue calls, id, kind, text, .refl _, by rw [kept.arrived], ?_, next⟩
    rw [List.length_append, List.length_singleton]
    exact free
  · rw [if_neg (by omega)] at next
    have erased : ((stampedQueue calls).eraseP fun frame => !frame.2.persistent).map Prod.snd = front ++ back := by
      have commutes : ((stampedQueue calls).map Prod.snd).eraseP (fun frame => !frame.persistent) =
          ((stampedQueue calls).eraseP fun frame => !frame.2.persistent).map Prod.snd := List.eraseP_map
      rw [kept.arrived, split, List.eraseP_append_right _ (by simpa using durables),
        List.eraseP_cons_of_pos (by simp [volatile])] at commutes
      exact commutes.symm
    refine ⟨entry, _, id, kind, text, List.eraseP_sublist, by rw [erased], ?_, next⟩
    rw [split] at full
    simp only [List.length_append, List.length_cons, List.length_nil] at full ⊢
    omega

theorem QueueKept.add (kept : QueueKept calls c) (storeId : UInt32) (persistent : Bool) (frame : Option (List UInt8)) :
    QueueKept (calls ++ [.add storeId persistent frame]) (queueStep c (.add storeId persistent frame)) := by
  cases offered : frame.bind (addToOfflineQueueBuffer c.offline storeId persistent) with
  | none =>
    have next : run arrivalStep (0, []) (calls ++ [.add storeId persistent frame]) =
        (calls.length + 1, stampedQueue calls) := by
      rw [arrivalStep_concat, kept.now]
      simp only [arrivalStep, kept.arrived, offered, Option.bind_none]
    have queue : stampedQueue (calls ++ [.add storeId persistent frame]) = stampedQueue calls := by
      unfold stampedQueue at next ⊢
      rw [next]
    simp only [queueStep, offered]
    refine ⟨kept.short, kept.frames, kept.stored, kept.identified, ?_, queue ▸ kept.arrived, queue ▸ kept.inOrder, ?_⟩
    · rw [next, List.length_append]
      rfl
    · intro entry member
      rw [queue] at member
      have earlier := kept.past entry member
      rw [List.length_append]
      omega
  | some added =>
    simp only [queueStep, offered]
    obtain ⟨text, rfl, accepted⟩ := Option.bind_eq_some_iff.mp offered
    obtain ⟨bounded, _, short, identified, fresh, absent⟩ := addToOfflineQueueBuffer_some accepted
    obtain ⟨entry, rest, id, kind, text, sub, rfl, length, next⟩ := kept.add_stamps accepted
    have queue : stampedQueue (calls ++ [.add storeId persistent (some _)]) = rest ++ [(calls.length, entry)] :=
      congrArg Prod.snd next
    have old : (rest.map Prod.snd).Sublist c.offline := kept.arrived ▸ sub.map Prod.snd
    have others := offlineFrameExistsIn_false absent bounded short
    constructor
    · exact length
    · refine List.pairwise_append.mpr ⟨kept.frames.sublist old, List.pairwise_singleton _ _, ?_⟩
      intro other member same last
      rw [List.mem_singleton.mp last, text]
      exact others other (old.subset member)
    · refine List.pairwise_append.mpr ⟨kept.stored.sublist old, List.pairwise_singleton _ _, ?_⟩
      intro other member same last durable added
      rw [List.mem_singleton.mp last] at added ⊢
      rw [id]
      exact fresh (kind ▸ added) other (old.subset member) durable
    · intro other member durable
      rcases List.mem_append.mp member with earlier | last
      · exact kept.identified other (old.subset earlier) durable
      · rw [List.mem_singleton.mp last] at durable ⊢
        rw [id]
        exact identified (kind ▸ durable)
    · rw [next, List.length_append]
      rfl
    · rw [queue, List.map_append]
      rfl
    · rw [queue]
      refine List.pairwise_append.mpr ⟨kept.inOrder.sublist sub, List.pairwise_singleton _ _, ?_⟩
      intro other member stamp last
      rw [List.mem_singleton.mp last]
      exact kept.past other (sub.subset member)
    · intro other member
      rw [queue] at member
      rw [List.length_append, List.length_singleton]
      rcases List.mem_append.mp member with earlier | last
      · exact Nat.lt_succ_of_lt (kept.past other (sub.subset earlier))
      · rw [List.mem_singleton.mp last]
        exact Nat.lt_succ_self _

theorem kept_nil (c : Connection) : QueueKept [] { c with offline := [] } := by
  refine ⟨Nat.zero_le _, .nil, .nil, ?_, rfl, rfl, .nil, ?_⟩
  · exact fun entry member => absurd member List.not_mem_nil
  · exact fun entry member => absurd member List.not_mem_nil

theorem kept_run (c : Connection) (calls : List QueueCall) :
    QueueKept calls (run queueStep { c with offline := [] } calls) := by
  induction calls using List.reverseRecOn with
  | nil => exact kept_nil c
  | append_singleton calls call ih =>
    rw [run_concat]
    cases call with
    | add storeId persistent frame => exact ih.add storeId persistent frame
    | removeFirst => exact ih.remove

theorem offline_queue_holds (c : Connection) (calls : List QueueCall) :
    QueueHolds calls (run queueStep { c with offline := [] } calls) := by
  have kept := kept_run c calls
  exact ⟨kept.short, kept.frames, kept.stored, kept.identified, kept.arrived, kept.inOrder, queueStep_adds _⟩

end Run

end SigurdOS.Companion
