import Mathlib.Data.List.Basic
import Mathlib.Logic.Function.Basic

/-- A bounded queue in a circular buffer, with the places that are read and written next. -/
@[ext] structure RingQueue (ε : Type) (size : Nat) where
  slots : Fin size → ε
  head : Fin size
  tail : Fin size
  count : Nat
  fits : count ≤ size
  aligned : tail.val = (head.val + count) % size

namespace RingQueue

variable {ε : Type} {size : Nat}

def advance (index : Fin size) : Fin size := ⟨(index.val + 1) % size, Nat.mod_lt _ (Nat.zero_lt_of_lt index.isLt)⟩

def place (queue : RingQueue ε size) (offset : Nat) : Fin size :=
  ⟨(queue.head.val + offset) % size, Nat.mod_lt _ (Nat.zero_lt_of_lt queue.head.isLt)⟩

def contents (queue : RingQueue ε size) : List ε :=
  (List.range queue.count).map fun offset => queue.slots (queue.place offset)

def emptied (slots : Fin size → ε) (start : Fin size) : RingQueue ε size where
  slots := slots
  head := start
  tail := start
  count := 0
  fits := Nat.zero_le size
  aligned := (Nat.mod_eq_of_lt start.isLt).symm

def push (queue : RingQueue ε size) (entry : ε) (room : queue.count < size) : RingQueue ε size where
  slots := Function.update queue.slots queue.tail entry
  head := queue.head
  tail := advance queue.tail
  count := queue.count + 1
  fits := room
  aligned := by
    change (queue.tail.val + 1) % size = (queue.head.val + (queue.count + 1)) % size
    rw [queue.aligned, Nat.mod_add_mod, Nat.add_assoc]

def pop (queue : RingQueue ε size) (stocked : 0 < queue.count) : RingQueue ε size where
  slots := queue.slots
  head := advance queue.head
  tail := queue.tail
  count := queue.count - 1
  fits := Nat.le_trans (Nat.sub_le _ _) queue.fits
  aligned := by
    have shifted : queue.head.val + 1 + (queue.count - 1) = queue.head.val + queue.count := by omega
    change queue.tail.val = ((queue.head.val + 1) % size + (queue.count - 1)) % size
    rw [queue.aligned, Nat.mod_add_mod, shifted]

@[simp] theorem length_contents (queue : RingQueue ε size) : queue.contents.length = queue.count := by
  simp [contents]

@[simp] theorem contents_emptied (slots : Fin size → ε) (start : Fin size) : (emptied slots start).contents = [] := rfl

theorem wrap_eq {head offset : Nat} (inside : head < size) (short : offset ≤ size) :
    (head + offset) % size = if head + offset < size then head + offset else head + offset - size := by
  split
  · next below => exact Nat.mod_eq_of_lt below
  · rw [Nat.mod_eq_sub_mod (by omega), Nat.mod_eq_of_lt (by omega)]

theorem place_ne_tail (queue : RingQueue ε size) {offset : Nat} (early : offset < queue.count)
    (room : queue.count < size) : queue.place offset ≠ queue.tail := by
  intro same
  have inside := queue.head.isLt
  have value : (queue.head.val + offset) % size = (queue.head.val + queue.count) % size :=
    (congrArg Fin.val same).trans queue.aligned
  rw [wrap_eq inside (by omega), wrap_eq inside (by omega)] at value
  split at value <;> split at value <;> omega

theorem contents_push (queue : RingQueue ε size) (entry : ε) (room : queue.count < size) :
    (queue.push entry room).contents = queue.contents ++ [entry] := by
  have last : queue.place queue.count = queue.tail := Fin.ext queue.aligned.symm
  have whole : (queue.push entry room).contents = (List.range (queue.count + 1)).map fun offset =>
      Function.update queue.slots queue.tail entry (queue.place offset) := rfl
  rw [whole, List.range_succ, List.map_append, List.map_singleton, last, Function.update_self]
  congr 1
  apply List.map_congr_left
  intro offset member
  rw [Function.update_of_ne (queue.place_ne_tail (List.mem_range.mp member) room)]

theorem contents_pop (queue : RingQueue ε size) (stocked : 0 < queue.count) :
    queue.contents = queue.slots queue.head :: (queue.pop stocked).contents := by
  obtain ⟨count, more⟩ : ∃ count, queue.count = count + 1 := ⟨queue.count - 1, by omega⟩
  have first : queue.place 0 = queue.head := Fin.ext (Nat.mod_eq_of_lt queue.head.isLt)
  have later (offset : Nat) : queue.place (offset + 1) = (queue.pop stocked).place offset := by
    apply Fin.ext
    change (queue.head.val + (offset + 1)) % size = ((queue.head.val + 1) % size + offset) % size
    rw [Nat.mod_add_mod, Nat.add_assoc, Nat.add_comm 1]
  have rest : (queue.pop stocked).count = count := by
    change queue.count - 1 = count
    omega
  rw [contents, more, List.range_succ_eq_map, List.map_cons, first, List.map_map, contents, rest]
  congr 1
  apply List.map_congr_left
  intro offset _
  exact congrArg queue.slots (later offset)

end RingQueue
