import SigurdOS.Bytes.Fields

namespace Bytes

variable {α β : Type}

/-- The first `count` records of `size` bytes each. -/
@[grind =] def slots (size : Nat) : Nat → List α → List (List α)
  | 0, _ => []
  | count + 1, payload => payload.take size :: slots size count (payload.drop size)

/-- What an interrupted overwrite at offset zero leaves: the first `written` bytes of `new`. -/
def overlay (new old : List α) (written : Nat) : List α := new.take written ++ old.drop written

@[simp] theorem length_slots (size count : Nat) (payload : List α) : (slots size count payload).length = count := by
  induction count generalizing payload with
  | zero => rfl
  | succ count ih => rw [slots, List.length_cons, ih]

theorem slots_flatMap {size : Nat} (encode : β → List α) (values : List β) (tail : List α)
    (width : ∀ value ∈ values, (encode value).length = size) :
    slots size values.length (values.flatMap encode ++ tail) = values.map encode := by
  induction values with
  | nil => rfl
  | cons value values ih =>
    have head := width value (by simp)
    have rest := ih (fun other member => width other (List.mem_cons_of_mem _ member))
    rw [List.flatMap_cons, List.append_assoc, List.length_cons, slots, List.take_left' head,
      List.drop_left' head, rest, List.map_cons]

theorem slots_append (size first second : Nat) (payload : List α) :
    slots size (first + second) payload =
      slots size first payload ++ slots size second (payload.drop (size * first)) := by
  induction first generalizing payload with
  | zero => simp [slots]
  | succ first ih =>
    have offset : size * (first + 1) = size + size * first := by
      rw [Nat.mul_succ]
      omega
    rw [Nat.succ_add, slots, ih, slots, List.drop_drop, List.cons_append, offset]

theorem slots_length_of_mem {size count : Nat} {payload : List α} (enough : size * count ≤ payload.length) :
    ∀ slot ∈ slots size count payload, slot.length = size := by
  induction count generalizing payload with
  | zero => simp [slots]
  | succ count ih =>
    rw [Nat.mul_succ] at enough
    intro slot member
    rcases List.mem_cons.mp member with rfl | member
    · rw [List.length_take]
      omega
    · apply ih ?_ slot member
      rw [List.length_drop]
      omega

theorem flatten_slots {size count : Nat} {payload : List α} (enough : size * count ≤ payload.length) :
    (slots size count payload).flatten = payload.take (size * count) := by
  induction count generalizing payload with
  | zero => rfl
  | succ count ih =>
    rw [Nat.mul_succ] at enough
    have behind : size * count ≤ (payload.drop size).length := by
      rw [List.length_drop]
      omega
    rw [slots, List.flatten_cons, ih behind, ← List.take_add, Nat.mul_succ, Nat.add_comm]

theorem slots_take (size count : Nat) (payload : List α) :
    slots size count (payload.take (size * count)) = slots size count payload := by
  induction count generalizing payload with
  | zero => rfl
  | succ count ih =>
    have total : size * (count + 1) = size * count + size := Nat.mul_succ _ _
    rw [slots, slots, List.take_take, List.drop_take, total, Nat.add_sub_cancel, ih,
      Nat.min_eq_left (by omega)]

theorem length_flatMap_of_width {size : Nat} (encode : β → List α) (values : List β)
    (width : ∀ value ∈ values, (encode value).length = size) :
    (values.flatMap encode).length = size * values.length := by
  induction values with
  | nil => rfl
  | cons value values ih =>
    have head := width value (by simp)
    have rest := ih (fun other member => width other (List.mem_cons_of_mem _ member))
    rw [List.flatMap_cons, List.length_append, head, rest, List.length_cons, Nat.mul_succ]
    omega

theorem overlay_append {new old : List α} (rest : List α) {written : Nat} (inside : written ≤ old.length) :
    overlay new (old ++ rest) written = overlay new old written ++ rest := by
  rw [overlay, List.drop_append_of_le_length inside, overlay, List.append_assoc]

theorem overlay_common {new old shared : List α} {written : Nat} (inside : shared.length ≤ written) :
    overlay (shared ++ new) (shared ++ old) written = shared ++ overlay new old (written - shared.length) := by
  rw [overlay, List.take_append, List.take_of_length_le inside, List.drop_append,
    List.drop_of_length_le inside, List.nil_append, overlay, List.append_assoc]

theorem overlay_shared {new old shared : List α} {written : Nat} (inside : written ≤ shared.length) :
    overlay (shared ++ new) (shared ++ old) written = shared ++ old := by
  rw [overlay, List.take_append_of_le_length inside, List.drop_append_of_le_length inside, ← List.append_assoc,
    List.take_append_drop]

end Bytes
