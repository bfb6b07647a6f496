import Mathlib.Data.List.Basic
import Mathlib.Tactic.IntervalCases

namespace Bytes

def leBytes : Nat → Nat → List UInt8
  | 0, _ => []
  | width + 1, value => UInt8.ofNat value :: leBytes width (value / 256)

@[grind =] def leNumber : List UInt8 → Nat
  | [] => 0
  | byte :: rest => byte.toNat + 256 * leNumber rest

@[simp] theorem length_leBytes (width value : Nat) : (leBytes width value).length = width := by
  induction width generalizing value with
  | zero => rfl
  | succ width ih => rw [leBytes, List.length_cons, ih]

theorem leNumber_lt (bytes : List UInt8) : leNumber bytes < 256 ^ bytes.length := by
  induction bytes with
  | nil => decide
  | cons byte rest ih =>
    have bound := byte.toNat_lt
    rw [leNumber, List.length_cons, Nat.pow_succ]
    omega

theorem leNumber_leBytes (width value : Nat) : leNumber (leBytes width value) = value % 256 ^ width := by
  induction width generalizing value with
  | zero => simp only [leBytes, leNumber, Nat.pow_zero, Nat.mod_one]
  | succ width ih =>
    have low : (UInt8.ofNat value).toNat = value % 256 := rfl
    rw [leBytes, leNumber, ih, low, Nat.pow_succ', Nat.mod_mul]

theorem leNumber_leBytes_of_lt {width value : Nat} (bound : value < 256 ^ width) :
    leNumber (leBytes width value) = value := by
  rw [leNumber_leBytes, Nat.mod_eq_of_lt bound]

theorem leBytes_leNumber (bytes : List UInt8) : leBytes bytes.length (leNumber bytes) = bytes := by
  induction bytes with
  | nil => rfl
  | cons byte rest ih =>
    have bound := byte.toNat_lt
    have quotient : (byte.toNat + 256 * leNumber rest) / 256 = leNumber rest := by omega
    rw [List.length_cons, leNumber, leBytes, quotient, ih]
    congr 1
    apply UInt8.toNat_inj.mp
    change (byte.toNat + 256 * leNumber rest) % 256 = byte.toNat
    omega

theorem leNumber_append (low high : List UInt8) :
    leNumber (low ++ high) = leNumber low + 256 ^ low.length * leNumber high := by
  induction low with
  | nil => simp [leNumber]
  | cons byte rest ih =>
    rw [List.cons_append, leNumber, ih, leNumber, List.length_cons, Nat.pow_succ']
    rw [Nat.mul_add, Nat.add_assoc, Nat.mul_assoc]

theorem take_leBytes {width value cut : Nat} (bound : cut ≤ width) :
    (leBytes width value).take cut = leBytes cut value := by
  induction cut generalizing width value with
  | zero => rfl
  | succ cut ih =>
    obtain ⟨width, rfl⟩ : ∃ smaller, width = smaller + 1 := ⟨width - 1, by omega⟩
    rw [leBytes, List.take_succ_cons, leBytes, ih (by omega)]

theorem drop_leBytes (width value cut : Nat) :
    (leBytes width value).drop cut = leBytes (width - cut) (value / 256 ^ cut) := by
  induction cut generalizing width value with
  | zero => simp
  | succ cut ih =>
    cases width with
    | zero => simp [leBytes]
    | succ width =>
      rw [leBytes, List.drop_succ_cons, ih, Nat.div_div_eq_div_mul, ← Nat.pow_succ']
      congr 1
      omega

/-- The counter a reader sees when a power cut leaves only the first `cut` bytes of its
    successor in place never exceeds that successor. -/
theorem torn_successor_le {width value : Nat} (cut : Nat) (inside : cut ≤ width)
    (bound : value + 1 < 256 ^ width) :
    leNumber ((leBytes width (value + 1)).take cut ++ (leBytes width value).drop cut) ≤ value + 1 := by
  have positive : 0 < 256 ^ cut := Nat.pow_pos (by decide)
  have split : 256 ^ width = 256 ^ cut * 256 ^ (width - cut) := by
    rw [← Nat.pow_add]
    congr 1
    omega
  have high : value / 256 ^ cut < 256 ^ (width - cut) := by
    apply Nat.div_lt_of_lt_mul
    omega
  rw [leNumber_append, take_leBytes inside, drop_leBytes, leNumber_leBytes, length_leBytes,
    leNumber_leBytes_of_lt high]
  have division := Nat.div_add_mod value (256 ^ cut)
  have low : (value + 1) % 256 ^ cut ≤ value % 256 ^ cut + 1 := by
    rw [Nat.add_mod]
    have small := Nat.mod_le (value % 256 ^ cut + 1 % 256 ^ cut) (256 ^ cut)
    have one := Nat.mod_le 1 (256 ^ cut)
    omega
  omega

end Bytes
