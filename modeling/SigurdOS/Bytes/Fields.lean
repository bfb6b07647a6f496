import Mathlib.Data.List.TakeWhile
import SigurdOS.Bytes.LittleEndian

namespace Bytes

-- `UInt8` is finite, and deciding over all 256 bytes is the instance that is found otherwise.
instance (priority := 2000) decidableForallByte {p : UInt8 → Prop} [DecidablePred p] (bytes : List UInt8) :
    Decidable (∀ byte ∈ bytes, p byte) := List.decidableBAll p bytes

/-- The characters of a `char[capacity]` field up to its terminator. What an array holds after
    its terminator is not part of the value: no reader looks past it. -/
@[ext] structure CString (capacity : Nat) where
  chars : List UInt8
  fits : chars.length ≤ capacity
  nonzero : ∀ byte ∈ chars, byte ≠ 0
  deriving DecidableEq

@[ext] structure FixedBytes (width : Nat) where
  bytes : List UInt8
  length_eq : bytes.length = width
  deriving DecidableEq

theorem noChars_nonzero : ∀ byte ∈ ([] : List UInt8), byte ≠ 0 := List.forall_mem_nil _

theorem noChars_fit32 : ([] : List UInt8).length ≤ 32 := Nat.zero_le 32

theorem zeros_length (width : Nat) : (List.replicate width (0 : UInt8)).length = width := List.length_replicate

theorem padded_length (width : Nat) (raw : List UInt8) :
    ((raw ++ List.replicate width 0).take width).length = width := by
  simp

def terminated (raw : List UInt8) : List UInt8 := raw.takeWhile (fun byte => byte != 0)

theorem terminated_nonzero {raw : List UInt8} : ∀ byte ∈ terminated raw, byte ≠ 0 := by
  intro byte member
  simpa using List.mem_takeWhile_imp member

theorem terminated_of_nonzero {raw : List UInt8} (nonzero : ∀ byte ∈ raw, byte ≠ 0) :
    terminated raw = raw := by
  apply List.takeWhile_eq_self_iff.mpr
  intro byte member
  simpa using nonzero byte member

theorem length_terminated_le (raw : List UInt8) : (terminated raw).length ≤ raw.length :=
  (List.takeWhile_prefix _).length_le

theorem terminated_append_zero {chars : List UInt8} (nonzero : ∀ byte ∈ chars, byte ≠ 0) (rest : List UInt8) :
    terminated (chars ++ 0 :: rest) = chars := by
  unfold terminated
  rw [List.takeWhile_append_of_pos (by simpa using nonzero)]
  simp

theorem terminated_take (raw : List UInt8) (count : Nat) :
    terminated (raw.take count) = (terminated raw).take count := by
  induction raw generalizing count with
  | nil => simp [terminated]
  | cons byte rest ih =>
    cases count with
    | zero => simp [terminated]
    | succ count =>
      unfold terminated at ih ⊢
      rw [List.take_succ_cons, List.takeWhile_cons, List.takeWhile_cons]
      split
      · rw [List.take_succ_cons, ih]
      · rw [List.take_nil]

theorem terminated_set_zero {raw : List UInt8} {index : Nat} (inside : index < raw.length) :
    terminated (raw.set index 0) = (terminated raw).take index := by
  have split : raw.set index 0 = raw.take index ++ 0 :: raw.drop (index + 1) := List.set_eq_take_append_cons_drop ▸ by
    rw [if_pos inside]
  rw [split, ← terminated_take]
  generalize raw.take index = front
  unfold terminated
  rw [List.takeWhile_append]
  split
  · rename_i whole
    have kept := (List.takeWhile_prefix (fun byte : UInt8 => byte != 0) (l := front)).eq_of_length whole
    rw [kept]
    simp
  · rfl

namespace CString

variable {capacity : Nat}

def truncate (limit : Nat) (string : CString capacity) : CString capacity where
  chars := string.chars.take limit
  fits := (List.length_take_le' _ _).trans string.fits
  nonzero := fun byte member => string.nonzero byte (List.mem_of_mem_take member)

@[simp] theorem truncate_chars (limit : Nat) (string : CString capacity) :
    (string.truncate limit).chars = string.chars.take limit := rfl

theorem truncate_of_le {limit : Nat} {string : CString capacity} (short : string.chars.length ≤ limit) :
    string.truncate limit = string := by
  ext1
  exact List.take_of_length_le short

/-- The field a zeroed record receives: at most `capacity - 1` characters, then terminators. -/
def encode (string : CString capacity) : List UInt8 :=
  string.chars.take (capacity - 1) ++ List.replicate (capacity - (string.chars.take (capacity - 1)).length) 0

/-- The string read from a raw field whose last byte is overwritten by a terminator. -/
def decode (capacity : Nat) (raw : List UInt8) : CString capacity where
  chars := terminated (raw.take (capacity - 1))
  fits := by
    have shorter := length_terminated_le (raw.take (capacity - 1))
    have taken := List.length_take_le (capacity - 1) raw
    omega
  nonzero := terminated_nonzero

@[simp] theorem length_encode (string : CString capacity) : string.encode.length = capacity := by
  have bound : (string.chars.take (capacity - 1)).length ≤ capacity :=
    (List.length_take_le _ _).trans (Nat.sub_le _ _)
  rw [encode, List.length_append, List.length_replicate]
  omega

theorem decode_encode (string : CString capacity) : decode capacity string.encode = string.truncate (capacity - 1) := by
  ext1
  change terminated (string.encode.take (capacity - 1)) = string.chars.take (capacity - 1)
  have nonzero : ∀ byte ∈ string.chars.take (capacity - 1), byte ≠ 0 := (string.truncate (capacity - 1)).nonzero
  generalize kept : string.chars.take (capacity - 1) = chars at nonzero
  have bound : chars.length ≤ capacity - 1 := by
    rw [← kept]
    exact List.length_take_le _ _
  rw [encode, kept, List.take_append, List.take_of_length_le bound]
  cases padding : capacity - 1 - chars.length with
  | zero => simpa using terminated_of_nonzero nonzero
  | succ count =>
    have more : capacity - chars.length = count + 2 := by omega
    rw [more, List.replicate_succ, List.take_succ_cons, terminated_append_zero nonzero]

end CString

namespace FixedBytes

def ofList (width : Nat) (raw : List UInt8) : FixedBytes width where
  bytes := (raw ++ List.replicate width 0).take width
  length_eq := padded_length width raw

theorem ofList_of_length {width : Nat} {raw : List UInt8} (length : raw.length = width) :
    (ofList width raw).bytes = raw := by
  change (raw ++ List.replicate width 0).take width = raw
  exact List.take_left' length

theorem ofList_bytes {width : Nat} (field : FixedBytes width) : ofList width field.bytes = field := by
  ext1
  exact ofList_of_length field.length_eq

section Strings

variable {width : Nat}

def setByte (field : FixedBytes width) (index : Nat) (byte : UInt8) : FixedBytes width :=
  ⟨field.bytes.set index byte, by rw [List.length_set, field.length_eq]⟩

/-- The string in a `char` array, which may fill it without a terminator. -/
def string (field : FixedBytes width) : CString width :=
  ⟨terminated field.bytes, (length_terminated_le _).trans field.length_eq.le, terminated_nonzero⟩

def zeroTail (field : FixedBytes width) : FixedBytes width := .ofList width (terminated field.bytes)

theorem string_setByte {field : FixedBytes width} {index : Nat} (inside : index < width) :
    (field.setByte index 0).string = field.string.truncate index := by
  ext1
  exact terminated_set_zero (by rw [field.length_eq]; exact inside)

end Strings

end FixedBytes

theorem CString.encode_eq_ofList {capacity : Nat} (string : CString capacity) :
    string.encode = (FixedBytes.ofList capacity (string.chars.take (capacity - 1))).bytes := by
  have room : (string.chars.take (capacity - 1)).length ≤ capacity := (List.length_take_le _ _).trans (Nat.sub_le _ _)
  rw [encode]
  generalize string.chars.take (capacity - 1) = kept at room ⊢
  change _ = (kept ++ List.replicate capacity 0).take capacity
  rw [List.take_append, List.take_of_length_le room, List.take_replicate, Nat.min_eq_left (Nat.sub_le _ _)]

theorem FixedBytes.string_zeroTail {width : Nat} (field : FixedBytes width) : field.zeroTail.string = field.string := by
  ext1
  change terminated ((terminated field.bytes ++ List.replicate width 0).take width) = terminated field.bytes
  have kept : terminated (terminated field.bytes ++ List.replicate width 0) = terminated field.bytes := by
    cases width with
    | zero => rw [List.replicate_zero, List.append_nil, terminated_of_nonzero terminated_nonzero]
    | succ width => rw [List.replicate_succ, terminated_append_zero terminated_nonzero]
  rw [terminated_take, kept]
  exact List.take_of_length_le field.string.fits

theorem setByte_ofList {capacity : Nat} {chars : List UInt8} {index : Nat} (behind : chars.length ≤ index) :
    (FixedBytes.ofList capacity chars).setByte index 0 = FixedBytes.ofList capacity chars := by
  ext1
  change ((chars ++ List.replicate capacity 0).take capacity).set index 0 =
    (chars ++ List.replicate capacity 0).take capacity
  apply List.ext_getElem
  · simp
  · intro position inside _
    rw [List.getElem_set]
    split
    · rename_i same
      subst same
      rw [List.getElem_take, List.getElem_append_right behind, List.getElem_replicate]
    · rfl

end Bytes
