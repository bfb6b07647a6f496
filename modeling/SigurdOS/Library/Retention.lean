import Mathlib.Data.List.Basic

namespace Retention

variable {α : Type} (preferred : α → Bool)

/-- Skip the oldest `first` preferred and the oldest `second` other entries. -/
@[grind =] def skipOldest : Nat → Nat → List α → List α
  | _, _, [] => []
  | first, second, value :: rest =>
    if preferred value then
      match first with
      | skip + 1 => skipOldest skip second rest
      | 0 => value :: skipOldest 0 second rest
    else
      match second with
      | skip + 1 => skipOldest first skip rest
      | 0 => value :: skipOldest first 0 rest

theorem skipOldest_sublist (first second : Nat) (values : List α) :
    (skipOldest preferred first second values).Sublist values := by
  induction values generalizing first second with
  | nil => cases first <;> cases second <;> exact .slnil
  | cons value rest ih =>
    by_cases prefers : preferred value = true
    · cases first with
      | zero => simpa only [skipOldest, prefers, ite_true] using (ih 0 second).cons_cons value
      | succ skip => simpa only [skipOldest, prefers, ite_true] using (ih skip second).cons value
    · cases second with
      | zero => simpa only [skipOldest, prefers, ite_false, Bool.false_eq_true] using (ih first 0).cons_cons value
      | succ skip => simpa only [skipOldest, prefers, ite_false, Bool.false_eq_true] using (ih first skip).cons value

theorem length_skipOldest (first second : Nat) (values : List α) :
    (skipOldest preferred first second values).length =
      (values.countP preferred - first) + (values.length - values.countP preferred - second) := by
  induction values generalizing first second with
  | nil => cases first <;> cases second <;> simp [skipOldest]
  | cons value rest ih =>
    have bound := List.countP_le_length (p := preferred) (l := rest)
    by_cases prefers : preferred value = true
    · rw [List.countP_cons_of_pos prefers, List.length_cons]
      cases first with
      | zero =>
        simp only [skipOldest, prefers, ite_true, List.length_cons, ih]
        omega
      | succ skip =>
        simp only [skipOldest, prefers, ite_true, ih]
        omega
    · rw [List.countP_cons_of_neg prefers, List.length_cons]
      cases second with
      | zero =>
        simp only [skipOldest, prefers, ite_false, List.length_cons, ih, Bool.false_eq_true]
        omega
      | succ skip =>
        simp only [skipOldest, prefers, ite_false, ih, Bool.false_eq_true]
        omega

theorem skipOldest_append_singleton (first second : Nat) (values : List α) (newest : α) :
    skipOldest preferred first second (values ++ [newest]) =
      skipOldest preferred first second values ++
        if preferred newest then (if values.countP preferred < first then [] else [newest])
        else (if values.length - values.countP preferred < second then [] else [newest]) := by
  induction values generalizing first second with
  | nil =>
    by_cases prefers : preferred newest = true
    · cases first <;> cases second <;> simp [skipOldest, prefers]
    · cases first <;> cases second <;> simp [skipOldest, prefers]
  | cons value rest ih =>
    have bound := List.countP_le_length (p := preferred) (l := rest)
    by_cases prefers : preferred value = true
    · rw [List.cons_append, List.countP_cons_of_pos prefers, List.length_cons,
        show rest.length + 1 - (rest.countP preferred + 1) = rest.length - rest.countP preferred by omega]
      cases first with
      | zero => simp only [skipOldest, prefers, ite_true, ih, List.cons_append, Nat.not_lt_zero, ite_false]
      | succ skip => simp only [skipOldest, prefers, ite_true, ih, Nat.succ_lt_succ_iff]
    · rw [List.cons_append, List.countP_cons_of_neg prefers, List.length_cons,
        show rest.length + 1 - rest.countP preferred = rest.length - rest.countP preferred + 1 by omega]
      cases second with
      | zero =>
        simp only [skipOldest, prefers, ite_false, ih, List.cons_append, Nat.not_lt_zero, Bool.false_eq_true]
      | succ skip => simp only [skipOldest, prefers, ite_false, ih, Nat.succ_lt_succ_iff, Bool.false_eq_true]

theorem skipOldest_map (f : α → α) (same : ∀ value, preferred (f value) = preferred value) (first second : Nat)
    (values : List α) :
    skipOldest preferred first second (values.map f) = (skipOldest preferred first second values).map f := by
  induction values generalizing first second with
  | nil => cases first <;> cases second <;> rfl
  | cons value rest ih =>
    rw [List.map_cons]
    by_cases prefers : preferred value = true
    · cases first with
      | zero => simp only [skipOldest, same, prefers, ite_true, ih, List.map_cons]
      | succ skip => simp only [skipOldest, same, prefers, ite_true, ih]
    · cases second with
      | zero => simp only [skipOldest, same, prefers, ite_false, ih, List.map_cons, Bool.false_eq_true]
      | succ skip => simp only [skipOldest, same, prefers, ite_false, ih, Bool.false_eq_true]

/-- The last `count` entries, all of them when there are fewer. -/
def newest (count : Nat) (values : List α) : List α := values.drop (values.length - count)

theorem skipOldest_filter (first second : Nat) (values : List α) :
    (skipOldest preferred first second values).filter preferred = (values.filter preferred).drop first := by
  induction values generalizing first second with
  | nil => cases first <;> cases second <;> simp [skipOldest]
  | cons value rest ih =>
    by_cases prefers : preferred value = true
    · cases first with
      | zero => simp [skipOldest, prefers, ih]
      | succ skip => simp [skipOldest, prefers, ih]
    · cases second with
      | zero => simp [skipOldest, prefers, ih]
      | succ skip => simp [skipOldest, prefers, ih]

theorem skipOldest_filter_not (first second : Nat) (values : List α) :
    (skipOldest preferred first second values).filter (fun value => !preferred value) =
      (values.filter (fun value => !preferred value)).drop second := by
  induction values generalizing first second with
  | nil => cases first <;> cases second <;> simp [skipOldest]
  | cons value rest ih =>
    by_cases prefers : preferred value = true
    · cases first with
      | zero => simp [skipOldest, prefers, ih]
      | succ skip => simp [skipOldest, prefers, ih]
    · cases second with
      | zero => simp [skipOldest, prefers, ih]
      | succ skip => simp [skipOldest, prefers, ih]

end Retention
