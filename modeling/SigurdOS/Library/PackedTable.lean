import Mathlib.Data.List.Basic

@[ext] structure PackedTable (ε : Type) (capacity : Nat) where
  slots : List ε
  count : Nat
  whole : slots.length = capacity
  fits : count ≤ capacity
  deriving DecidableEq

namespace PackedTable

variable {ε : Type} {capacity : Nat}

section Loops

/-- The entry of one slot copied to another; nothing outside the array is read. -/
def copy (slots : List ε) (source target : Nat) : List ε :=
  match slots[source]? with
  | some entry => slots.set target entry
  | none => slots

/-- Each of `count` entries from `first` on, copied one slot down in turn. -/
def shiftDown (slots : List ε) (first count : Nat) : List ε :=
  (List.range' first count).foldl (fun slots index => copy slots index (index - 1)) slots

def fill (blank : ε) (slots : List ε) (first count : Nat) : List ε :=
  (List.range' first count).foldl (fun slots index => slots.set index blank) slots

def compactStep (agrees : ε → Bool) (state : Nat × List ε) (read : Nat) : Nat × List ε :=
  match state.2[read]? with
  | some entry =>
    if agrees entry then state
    else (state.1 + 1, if state.1 ≠ read then state.2.set state.1 entry else state.2)
  | none => state

def compact (agrees : ε → Bool) (slots : List ε) (count : Nat) : Nat × List ε :=
  (List.range count).foldl (compactStep agrees) (0, slots)

@[simp] theorem length_copy (slots : List ε) (source target : Nat) :
    (copy slots source target).length = slots.length := by
  unfold copy
  split
  · exact List.length_set
  · rfl

theorem shiftDown_succ (slots : List ε) (first count : Nat) :
    shiftDown slots first (count + 1) = copy (shiftDown slots first count) (first + count) (first + count - 1) := by
  rw [shiftDown, List.range'_1_concat, List.foldl_append]
  rfl

@[simp] theorem length_shiftDown (slots : List ε) (first count : Nat) :
    (shiftDown slots first count).length = slots.length := by
  induction count with
  | zero => rfl
  | succ count ih => rw [shiftDown_succ, length_copy, ih]

theorem getElem?_shiftDown {slots : List ε} {first count : Nat} (above : 0 < first)
    (inside : first + count ≤ slots.length) (index : Nat) :
    (shiftDown slots first count)[index]? =
      if first ≤ index + 1 ∧ index + 1 < first + count then slots[index + 1]? else slots[index]? := by
  induction count generalizing index with
  | zero =>
    rw [if_neg (by omega)]
    rfl
  | succ count ih =>
    have before := ih (by omega)
    have next : (shiftDown slots first count)[first + count]? = slots[first + count]? := by
      rw [before, if_neg (by omega)]
    have present : first + count < slots.length := by omega
    rw [List.getElem?_eq_getElem present] at next
    rw [shiftDown_succ, copy, next, List.getElem?_set, length_shiftDown, before]
    by_cases here : first + count - 1 = index
    · have moved : index + 1 = first + count := by omega
      rw [if_pos here, if_pos (by omega), if_pos (by omega), moved, List.getElem?_eq_getElem present]
    · rw [if_neg here]
      by_cases shifted : first ≤ index + 1 ∧ index + 1 < first + count
      · rw [if_pos shifted, if_pos (by omega)]
      · rw [if_neg shifted, if_neg (by omega)]

theorem fill_succ (blank : ε) (slots : List ε) (first count : Nat) :
    fill blank slots first (count + 1) = (fill blank slots first count).set (first + count) blank := by
  rw [fill, List.range'_1_concat, List.foldl_append]
  rfl

@[simp] theorem length_fill (blank : ε) (slots : List ε) (first count : Nat) :
    (fill blank slots first count).length = slots.length := by
  induction count with
  | zero => rfl
  | succ count ih => rw [fill_succ, List.length_set, ih]

theorem take_fill (blank : ε) (slots : List ε) (first count : Nat) :
    (fill blank slots first count).take first = slots.take first := by
  induction count with
  | zero => rfl
  | succ count ih => rw [fill_succ, List.take_set_of_le (Nat.le_add_right first count), ih]

/-- What a compaction has done once some entries are read: those that stay are in front, those to come untouched. -/
structure Compacted (agrees : ε → Bool) (slots : List ε) (read : Nat) (state : Nat × List ε) : Prop where
  behind : state.1 ≤ read
  front : state.2.take state.1 = (slots.take read).filter fun entry => !agrees entry
  ahead : state.2.drop read = slots.drop read
  length : state.2.length = slots.length

theorem Compacted.step {agrees : ε → Bool} {slots : List ε} {read : Nat} {state : Nat × List ε}
    (compacted : Compacted agrees slots read state) (inside : read < slots.length) :
    Compacted agrees slots (read + 1) (compactStep agrees state read) := by
  obtain ⟨write, after⟩ := state
  obtain ⟨behind, front, ahead, length⟩ := compacted
  dsimp only at behind front ahead length
  have same : after[read]? = some slots[read] := by
    have first := congrArg (fun entries => entries[0]?) ahead
    simpa [List.getElem?_drop, List.getElem?_eq_getElem inside] using first
  have onward : after.drop (read + 1) = slots.drop (read + 1) := by
    rw [← List.drop_drop, ahead, List.drop_drop]
  simp only [compactStep, same]
  cases left_out : agrees slots[read] with
  | true =>
    rw [if_pos rfl]
    refine ⟨by dsimp only; omega, ?_, onward, length⟩
    rw [List.take_succ_eq_append_getElem inside, List.filter_append, ← front]
    simp [left_out]
  | false =>
    have written : (if write ≠ read then after.set write slots[read] else after) = after.set write slots[read] := by
      split
      · rfl
      · next here =>
        obtain ⟨present, value⟩ := List.getElem?_eq_some_iff.mp same
        rw [Decidable.not_not.mp here, ← value, List.set_getElem_self]
    rw [if_neg Bool.false_ne_true, written]
    refine ⟨Nat.succ_le_succ behind, ?_, ?_, List.length_set.trans length⟩
    · have there : write < after.length := by omega
      rw [List.take_succ_eq_append_getElem inside, List.filter_append, ← front, List.take_add_one,
        List.take_set_of_le (Nat.le_refl _), List.getElem?_set_self there]
      simp [left_out]
    · rw [List.drop_set_of_lt (by omega)]
      exact onward

theorem compact_compacted (agrees : ε → Bool) {slots : List ε} {count : Nat} (inside : count ≤ slots.length) :
    Compacted agrees slots count (compact agrees slots count) := by
  induction count with
  | zero => exact ⟨Nat.le_refl _, rfl, rfl, rfl⟩
  | succ count ih =>
    have stepped := (ih (by omega)).step inside
    rw [compact, List.range_succ, List.foldl_append]
    exact stepped

end Loops

variable (table : PackedTable ε capacity) (blank : ε)

def live : List ε := table.slots.take table.count

theorem count_le : table.count ≤ table.slots.length := Nat.le_trans table.fits (Nat.le_of_eq table.whole.symm)

@[simp] theorem length_live : table.live.length = table.count := by
  rw [live, List.length_take, table.whole, Nat.min_eq_left table.fits]

def empty (capacity : Nat) : PackedTable ε capacity where
  slots := List.replicate capacity blank
  count := 0
  whole := List.length_replicate
  fits := Nat.zero_le capacity

@[simp] theorem live_empty : (empty blank capacity).live = [] := List.take_zero

def push (entry : ε) (room : table.count < capacity) : PackedTable ε capacity where
  slots := table.slots.set table.count entry
  count := table.count + 1
  whole := List.length_set.trans table.whole
  fits := room

theorem live_push (entry : ε) (room : table.count < capacity) :
    (table.push entry room).live = table.live ++ [entry] := by
  have inside : table.count < table.slots.length := by rwa [table.whole]
  change (table.slots.set table.count entry).take (table.count + 1) = table.slots.take table.count ++ [entry]
  rw [List.take_add_one, List.take_set_of_le (Nat.le_refl _), List.getElem?_set_self inside]
  rfl

def removeAt (index : Nat) : PackedTable ε capacity where
  slots := (shiftDown table.slots (index + 1) (table.count - (index + 1))).set (table.count - 1) blank
  count := table.count - 1
  whole := by rw [List.length_set, length_shiftDown, table.whole]
  fits := Nat.le_trans (Nat.sub_le _ _) table.fits

theorem live_removeAt (index : Nat) (listed : index < table.count) :
    (table.removeAt blank index).live = table.live.eraseIdx index := by
  have inside := table.count_le
  apply List.ext_getElem?
  intro place
  change (List.take (table.count - 1) (List.set _ (table.count - 1) blank))[place]? = _
  rw [List.take_set_of_le (Nat.le_refl _), List.getElem?_take, getElem?_shiftDown (Nat.succ_pos index) (by omega),
    List.getElem?_eraseIdx, live, List.getElem?_take, List.getElem?_take]
  split_ifs <;> first | rfl | omega

/-- The entries that agree are taken out, the others move together, and the slots left over are blank. -/
def removeMatching (agrees : ε → Bool) : PackedTable ε capacity where
  slots := fill blank (compact agrees table.slots table.count).2 (compact agrees table.slots table.count).1
    (table.count - (compact agrees table.slots table.count).1)
  count := (compact agrees table.slots table.count).1
  whole := by
    have compacted := compact_compacted agrees (table.count_le)
    rw [length_fill, compacted.length, table.whole]
  fits := by
    have compacted := compact_compacted agrees (table.count_le)
    exact Nat.le_trans compacted.behind table.fits

theorem live_removeMatching (agrees : ε → Bool) :
    (table.removeMatching blank agrees).live = table.live.filter fun entry => !agrees entry := by
  have compacted := compact_compacted agrees (table.count_le)
  rw [live, live, ← compacted.front]
  exact take_fill ..

end PackedTable
