import Mathlib.Data.List.Basic

namespace Utf8Text

def IsUtf8 (bytes : List UInt8) : Prop := ∃ chars : List Char, bytes = chars.flatMap String.utf8EncodeChar

def Continues (byte : UInt8) : Prop := 0x80 ≤ byte.toNat ∧ byte.toNat < 0xC0

section Encoding

variable {bytes : List UInt8}

theorem continues_ofNat {n : Nat} (low : 0x80 ≤ n) (high : n < 0xC0) : Continues (UInt8.ofNat n) := by
  unfold Continues
  rw [UInt8.toNat_ofNat_of_lt' (by simp only [UInt8.size]; omega)]
  omega

theorem not_continues_ofNat {n : Nat} (small : n < 0x100) (outside : n < 0x80 ∨ 0xC0 ≤ n) :
    ¬ Continues (UInt8.ofNat n) := by
  unfold Continues
  rw [UInt8.toNat_ofNat_of_lt' (by simp only [UInt8.size]; omega)]
  omega

theorem encode_shape (char : Char) : ∃ lead tail, String.utf8EncodeChar char = lead :: tail ∧ ¬ Continues lead ∧
    (tail = [] → lead.toNat < 0x80) ∧ ∀ byte ∈ tail, Continues byte := by
  have bound : char.val.toNat < 0x110000 := by
    have valid := char.valid
    simp only [UInt32.isValidChar, Nat.isValidChar] at valid
    omega
  unfold String.utf8EncodeChar
  dsimp only
  split
  · refine ⟨_, _, rfl, not_continues_ofNat (by omega) (by omega), fun _ => ?_, by simp⟩
    rw [UInt8.toNat_ofNat_of_lt' (by simp only [UInt8.size]; omega)]
    omega
  split
  · refine ⟨_, _, rfl, not_continues_ofNat (by omega) (by omega), by simp, ?_⟩
    intro byte member
    simp only [List.mem_cons, List.not_mem_nil, or_false] at member
    subst member
    exact continues_ofNat (by omega) (by omega)
  split
  · refine ⟨_, _, rfl, not_continues_ofNat (by omega) (by omega), by simp, ?_⟩
    intro byte member
    simp only [List.mem_cons, List.not_mem_nil, or_false] at member
    rcases member with rfl | rfl
    · exact continues_ofNat (by omega) (by omega)
    · exact continues_ofNat (by omega) (by omega)
  · refine ⟨_, _, rfl, not_continues_ofNat (by omega) (by omega), by simp, ?_⟩
    intro byte member
    simp only [List.mem_cons, List.not_mem_nil, or_false] at member
    rcases member with rfl | rfl | rfl
    · exact continues_ofNat (by omega) (by omega)
    · exact continues_ofNat (by omega) (by omega)
    · exact continues_ofNat (by omega) (by omega)

theorem isUtf8_nil : IsUtf8 [] := ⟨[], rfl⟩

theorem isUtf8_append {front : List UInt8} (char : Char) (same : front = String.utf8EncodeChar char)
    (rest : IsUtf8 bytes) : IsUtf8 (front ++ bytes) := by
  obtain ⟨chars, rfl⟩ := rest
  exact ⟨char :: chars, by rw [List.flatMap_cons, same]⟩

theorem IsUtf8.take (text : IsUtf8 bytes) {count : Nat}
    (boundary : ∀ byte, bytes[count]? = some byte → ¬ Continues byte) : IsUtf8 (bytes.take count) := by
  obtain ⟨chars, rfl⟩ := text
  induction chars generalizing count with
  | nil => simpa using isUtf8_nil
  | cons char rest ih =>
    obtain ⟨lead, tail, encoded, -, -, continues⟩ := encode_shape char
    rw [List.flatMap_cons] at boundary ⊢
    by_cases inside : count < (String.utf8EncodeChar char).length
    · cases count with
      | zero => simpa using isUtf8_nil
      | succ count =>
        -- The cut lies inside the character, so the next byte continues it.
        rw [encoded] at inside boundary
        have short : count < tail.length := by simpa using inside
        have next := boundary tail[count] (by simp [List.getElem?_append_left short])
        exact absurd (continues _ (List.getElem_mem short)) next
    · obtain ⟨more, rfl⟩ : ∃ more, count = (String.utf8EncodeChar char).length + more :=
        ⟨count - (String.utf8EncodeChar char).length, by omega⟩
      rw [List.take_length_add_append]
      apply isUtf8_append char rfl
      apply ih
      intro byte here
      apply boundary
      rwa [List.getElem?_append_right (by omega), Nat.add_sub_cancel_left]

theorem IsUtf8.last_lt (text : IsUtf8 bytes) {byte : UInt8} (last : bytes.getLast? = some byte) :
    byte.toNat < 0xC0 := by
  obtain ⟨chars, rfl⟩ := text
  induction chars with
  | nil => cases last
  | cons char rest ih =>
    rw [List.flatMap_cons, List.getLast?_append] at last
    cases later : (rest.flatMap String.utf8EncodeChar).getLast? with
    | some final =>
      rw [later] at last
      exact ih (later.trans last)
    | none =>
      rw [later] at last
      obtain ⟨lead, tail, encoded, -, single, continues⟩ := encode_shape char
      rw [encoded, Option.none_or] at last
      cases tail with
      | nil =>
        obtain rfl : lead = byte := by simpa using last
        have ascii := single rfl
        omega
      | cons next others =>
        rw [List.getLast?_cons_cons] at last
        exact (continues byte (List.mem_of_getLast? last)).2

end Encoding

section Decoding

variable {a b c d : UInt8}

theorem eq_ofNat {byte : UInt8} {n : Nat} (small : n < 0x100) (same : byte.toNat = n) : byte = UInt8.ofNat n := by
  apply UInt8.toNat.inj
  rw [UInt8.toNat_ofNat_of_lt' (by simp only [UInt8.size]; omega)]
  exact same

theorem encode_ofNatAux {n : Nat} (valid : n.isValidChar) : String.utf8EncodeChar (Char.ofNatAux n valid) =
    if n ≤ 0x7f then [UInt8.ofNat n]
    else if n ≤ 0x7ff then [UInt8.ofNat (n / 64 % 0x20 + 0xc0), UInt8.ofNat (n % 0x40 + 0x80)]
    else if n ≤ 0xffff then
      [UInt8.ofNat (n / 4096 % 0x10 + 0xe0), UInt8.ofNat (n / 64 % 0x40 + 0x80), UInt8.ofNat (n % 0x40 + 0x80)]
    else
      [UInt8.ofNat (n / 262144 % 0x08 + 0xf0), UInt8.ofNat (n / 4096 % 0x40 + 0x80),
        UInt8.ofNat (n / 64 % 0x40 + 0x80), UInt8.ofNat (n % 0x40 + 0x80)] := rfl

theorem exists_encode_one (low : a.toNat < 0x80) : ∃ char, [a] = String.utf8EncodeChar char := by
  have valid : a.toNat.isValidChar := by
    unfold Nat.isValidChar
    omega
  refine ⟨Char.ofNatAux a.toNat valid, ?_⟩
  rw [encode_ofNatAux, if_pos (by omega)]
  simp

theorem exists_encode_two (low : 0xC2 ≤ a.toNat) (high : a.toNat ≤ 0xDF) (second : Continues b) :
    ∃ char, [a, b] = String.utf8EncodeChar char := by
  obtain ⟨n, value⟩ : ∃ n, n = (a.toNat - 0xC0) * 64 + (b.toNat - 0x80) := ⟨_, rfl⟩
  unfold Continues at second
  have valid : n.isValidChar := by
    unfold Nat.isValidChar
    omega
  refine ⟨Char.ofNatAux n valid, ?_⟩
  rw [encode_ofNatAux, if_neg (by omega), if_pos (by omega)]
  rw [← @eq_ofNat a _ (by omega) (by omega), ← @eq_ofNat b _ (by omega) (by omega)]

theorem exists_encode_three (low : 0xE0 ≤ a.toNat) (high : a.toNat ≤ 0xEF) (second : Continues b) (third : Continues c)
    (long : a.toNat = 0xE0 → 0xA0 ≤ b.toNat) (scalar : a.toNat = 0xED → b.toNat ≤ 0x9F) :
    ∃ char, [a, b, c] = String.utf8EncodeChar char := by
  obtain ⟨n, value⟩ : ∃ n, n = (a.toNat - 0xE0) * 4096 + (b.toNat - 0x80) * 64 + (c.toNat - 0x80) := ⟨_, rfl⟩
  unfold Continues at second third
  have valid : n.isValidChar := by
    unfold Nat.isValidChar
    omega
  refine ⟨Char.ofNatAux n valid, ?_⟩
  rw [encode_ofNatAux, if_neg (by omega), if_neg (by omega), if_pos (by omega)]
  rw [← @eq_ofNat a _ (by omega) (by omega), ← @eq_ofNat b _ (by omega) (by omega),
    ← @eq_ofNat c _ (by omega) (by omega)]

theorem exists_encode_four (low : 0xF0 ≤ a.toNat) (high : a.toNat ≤ 0xF4) (second : Continues b) (third : Continues c)
    (fourth : Continues d) (long : a.toNat = 0xF0 → 0x90 ≤ b.toNat) (scalar : a.toNat = 0xF4 → b.toNat ≤ 0x8F) :
    ∃ char, [a, b, c, d] = String.utf8EncodeChar char := by
  obtain ⟨n, value⟩ : ∃ n, n = (a.toNat - 0xF0) * 262144 + (b.toNat - 0x80) * 4096 + (c.toNat - 0x80) * 64 +
    (d.toNat - 0x80) := ⟨_, rfl⟩
  unfold Continues at second third fourth
  have valid : n.isValidChar := by
    unfold Nat.isValidChar
    omega
  refine ⟨Char.ofNatAux n valid, ?_⟩
  rw [encode_ofNatAux, if_neg (by omega), if_neg (by omega), if_neg (by omega)]
  rw [← @eq_ofNat a _ (by omega) (by omega), ← @eq_ofNat b _ (by omega) (by omega),
    ← @eq_ofNat c _ (by omega) (by omega), ← @eq_ofNat d _ (by omega) (by omega)]

theorem toNat_ofNat_byte {n : Nat} (small : n < 0x100) : (UInt8.ofNat n).toNat = n :=
  UInt8.toNat_ofNat_of_lt' (by simp only [UInt8.size]; omega)

theorem encode_cases (char : Char) :
    (∃ a, String.utf8EncodeChar char = [a] ∧ a.toNat < 0x80) ∨
    (∃ a b, String.utf8EncodeChar char = [a, b] ∧ (0xC2 ≤ a.toNat ∧ a.toNat ≤ 0xDF) ∧ Continues b) ∨
    (∃ a b c, String.utf8EncodeChar char = [a, b, c] ∧ (0xE0 ≤ a.toNat ∧ a.toNat ≤ 0xEF) ∧ Continues b ∧ Continues c ∧
      (a.toNat = 0xE0 → 0xA0 ≤ b.toNat) ∧ (a.toNat = 0xED → b.toNat ≤ 0x9F)) ∨
    ∃ a b c d, String.utf8EncodeChar char = [a, b, c, d] ∧ (0xF0 ≤ a.toNat ∧ a.toNat ≤ 0xF4) ∧ Continues b ∧
      Continues c ∧ Continues d ∧ (a.toNat = 0xF0 → 0x90 ≤ b.toNat) ∧ (a.toNat = 0xF4 → b.toNat ≤ 0x8F) := by
  have scalar : char.val.toNat < 0xD800 ∨ 0xDFFF < char.val.toNat ∧ char.val.toNat < 0x110000 := char.valid
  unfold String.utf8EncodeChar
  dsimp only
  generalize char.val.toNat = n at scalar
  split
  · refine Or.inl ⟨_, rfl, ?_⟩
    rw [toNat_ofNat_byte (by omega)]
    omega
  split
  · refine Or.inr (Or.inl ⟨_, _, rfl, ?_, continues_ofNat (by omega) (by omega)⟩)
    rw [toNat_ofNat_byte (by omega)]
    omega
  split
  · refine Or.inr (Or.inr (Or.inl ⟨_, _, _, rfl, ?_, continues_ofNat (by omega) (by omega),
      continues_ofNat (by omega) (by omega), ?_, ?_⟩))
    · rw [toNat_ofNat_byte (by omega)]
      omega
    · rw [toNat_ofNat_byte (by omega), toNat_ofNat_byte (by omega)]
      omega
    · rw [toNat_ofNat_byte (by omega), toNat_ofNat_byte (by omega)]
      omega
  · refine Or.inr (Or.inr (Or.inr ⟨_, _, _, _, rfl, ?_, continues_ofNat (by omega) (by omega),
      continues_ofNat (by omega) (by omega), continues_ofNat (by omega) (by omega), ?_, ?_⟩))
    · rw [toNat_ofNat_byte (by omega)]
      omega
    · rw [toNat_ofNat_byte (by omega), toNat_ofNat_byte (by omega)]
      omega
    · rw [toNat_ofNat_byte (by omega), toNat_ofNat_byte (by omega)]
      omega

end Decoding

end Utf8Text
