import Mathlib.Data.List.GetD
import SigurdOS.Bytes.Fields

namespace SigurdOS.Mesh

open Bytes

abbrev ascii (char : Char) : UInt8 := UInt8.ofNat char.toNat

def base64Alphabet : List UInt8 :=
  ['A', 'B', 'C', 'D', 'E', 'F', 'G', 'H', 'I', 'J', 'K', 'L', 'M', 'N', 'O', 'P', 'Q', 'R', 'S', 'T', 'U', 'V', 'W',
   'X', 'Y', 'Z', 'a', 'b', 'c', 'd', 'e', 'f', 'g', 'h', 'i', 'j', 'k', 'l', 'm', 'n', 'o', 'p', 'q', 'r', 's', 't',
   'u', 'v', 'w', 'x', 'y', 'z', '0', '1', '2', '3', '4', '5', '6', '7', '8', '9', '+', '/'].map ascii

section Strict

/-- The value of a character, `none` for the -1 of the source. -/
def base64Value (c : UInt8) : Option Nat :=
  if c ≥ ascii 'A' ∧ c ≤ ascii 'Z' then some (c.toNat - 'A'.toNat)
  else if c ≥ ascii 'a' ∧ c ≤ ascii 'z' then some (c.toNat - 'a'.toNat + 26)
  else if c ≥ ascii '0' ∧ c ≤ ascii '9' then some (c.toNat - '0'.toNat + 52)
  else if c = ascii '+' then some 62
  else if c = ascii '/' then some 63
  else none

@[grind =] def decodeGroups (outputCap : Nat) : List UInt8 → List UInt8 → Bool × List UInt8
  | in0 :: in1 :: in2 :: in3 :: rest, output =>
    let final := rest.isEmpty
    let pad2 := in2 == ascii '='
    let pad3 := in3 == ascii '='
    if !final && (pad2 || pad3) then (false, output)
    else if pad2 && !pad3 then (false, output)
    else
      match base64Value in0, base64Value in1, (if pad2 then some 0 else base64Value in2),
        (if pad3 then some 0 else base64Value in3) with
      | some a, some b, some c, some d =>
        if pad2 && (b &&& 0x0F) != 0 then (false, output)
        else if !pad2 && pad3 && (c &&& 0x03) != 0 then (false, output)
        else
          let produced := if pad2 then 1 else if pad3 then 2 else 3
          if output.length + produced > outputCap then (false, output)
          else
            let word : UInt32 :=
              UInt32.ofNat a <<< 18 ||| UInt32.ofNat b <<< 12 ||| UInt32.ofNat c <<< 6 ||| UInt32.ofNat d
            let bytes := [(word >>> 16).toUInt8, (word >>> 8).toUInt8, word.toUInt8]
            decodeGroups outputCap rest (output ++ bytes.take produced)
      | _, _, _, _ => (false, output)
  | _, output => (true, output)

/-- The result with the bytes written, `output_len` of them. -/
def decodeBase64Strict (input : List UInt8) (outputCap : Nat) : Bool × List UInt8 :=
  if input.length = 0 ∨ input.length % 4 ≠ 0 then (false, []) else decodeGroups outputCap input []

end Strict

section Encode

def base64Symbol (value : UInt32) : UInt8 := base64Alphabet.getD (value &&& 0x3F).toNat 0

def encodeGroup (first : UInt8) (second third : Option UInt8) : List UInt8 :=
  let word : UInt32 := first.toUInt32 <<< 16
  let word : UInt32 := match second with | some byte => word ||| byte.toUInt32 <<< 8 | none => word
  let word : UInt32 := match third with | some byte => word ||| byte.toUInt32 | none => word
  [base64Symbol (word >>> 18), base64Symbol (word >>> 12),
   if second.isSome then base64Symbol (word >>> 6) else ascii '=',
   if third.isSome then base64Symbol word else ascii '=']

@[grind =] def encodeBase64 : List UInt8 → List UInt8
  | first :: second :: third :: rest => encodeGroup first (some second) (some third) ++ encodeBase64 rest
  | [first, second] => encodeGroup first (some second) none
  | [first] => encodeGroup first none none
  | [] => []

end Encode

section ChannelPsk

def drainBits (bits : UInt32) (bitCount : Nat) (out : List UInt8) : UInt32 × Nat × List UInt8 :=
  if 8 ≤ bitCount ∧ out.length < 16 then
    let bitCount := bitCount - 8
    drainBits (bits &&& if bitCount = 0 then (0 : UInt32) else ((1 : UInt32) <<< UInt32.ofNat bitCount) - 1) bitCount
      (out ++ [(bits >>> UInt32.ofNat bitCount).toUInt8])
  else (bits, bitCount, out)
  termination_by bitCount

def accumulateBits (state : UInt32 × Nat × List UInt8) (value : UInt8) : UInt32 × Nat × List UInt8 :=
  drainBits (state.1 <<< 6 ||| value.toUInt32) (state.2.1 + 6) state.2.2

/-- The index of `strchr`, which also finds the terminator of the alphabet. -/
def alphabetIndex (c : UInt8) : Option UInt8 := ((base64Alphabet ++ [0]).idxOf? c).map UInt8.ofNat

def overwrite (out : FixedBytes 16) (written : List UInt8) : FixedBytes 16 :=
  .ofList 16 (written ++ out.bytes.drop written.length)

def channelPskDecode16 (encoded : List UInt8) (out : FixedBytes 16) : Bool × FixedBytes 16 :=
  let text := terminated encoded
  if text.length ≠ 24 ∨ text.getD 22 0 ≠ ascii '=' ∨ text.getD 23 0 ≠ ascii '=' then (false, out)
  else
    match (text.take 22).mapM alphabetIndex with
    | none => (false, out)
    | some values =>
      if values.getD 21 0 &&& 0x0F ≠ 0 then (false, out)
      else
        let (bits, bitCount, written) := values.foldl accumulateBits (0, 0, [])
        (written.length == 16 && bitCount == 4 && bits == 0, overwrite out written)

end ChannelPsk

section ScopeKey

def scopeKeyNonZero (key : List UInt8) : Bool := key.foldl (· ||| ·) 0 != 0

def scopeKeyBase64Value (c : UInt8) : Option Nat := base64Value c

@[grind =] def scopeKeyGroups : List UInt8 → Option (List UInt8)
  | in0 :: in1 :: in2 :: in3 :: rest =>
    match scopeKeyBase64Value in0, scopeKeyBase64Value in1, scopeKeyBase64Value in2, scopeKeyBase64Value in3 with
    | some a, some b, some c, some d =>
      (scopeKeyGroups rest).map
        ([UInt8.ofNat (a <<< 2 ||| b >>> 4), UInt8.ofNat (b <<< 4 ||| c >>> 2), UInt8.ofNat (c <<< 6 ||| d)] ++ ·)
    | _, _, _, _ => none
  | _ => some []

def scopeKeyBase64Decode (encoded : List UInt8) (out16 : FixedBytes 16) : Bool × FixedBytes 16 :=
  let text := terminated encoded
  if text.length ≠ 24 ∨ text.getD 22 0 ≠ ascii '=' ∨ text.getD 23 0 ≠ ascii '=' then (false, out16)
  else
    match scopeKeyGroups (text.take 20), scopeKeyBase64Value (text.getD 20 0), scopeKeyBase64Value (text.getD 21 0) with
    | some decoded, some a, some b =>
      if b &&& 0x0F ≠ 0 ∨ decoded.length ≠ 15 then (false, out16)
      else
        let decoded := decoded ++ [UInt8.ofNat (a <<< 2 ||| b >>> 4)]
        if scopeKeyNonZero decoded then (true, .ofList 16 decoded) else (false, out16)
    | _, _, _ => (false, out16)

end ScopeKey

section Symbols

theorem forall_bytes {p : UInt8 → Prop} (every : ∀ code < 256, p (UInt8.ofNat code)) (c : UInt8) : p c := by
  have checked := every c.toNat c.toNat_lt
  rwa [UInt8.ofNat_toNat] at checked

def symbolOf (value : Nat) : UInt8 := base64Alphabet.getD value 0

theorem symbols_table :
    ∀ value < 64, base64Value (symbolOf value) = some value ∧ symbolOf value ≠ ascii '=' ∧
      alphabetIndex (symbolOf value) = some (UInt8.ofNat value) := by
  decide +kernel

theorem base64Value_symbolOf {value : Nat} (small : value < 64) : base64Value (symbolOf value) = some value :=
  (symbols_table value small).1

theorem base64Value_some {c : UInt8} {value : Nat} (known : base64Value c = some value) :
    value < 64 ∧ symbolOf value = c := by
  have every : ∀ c, (base64Value c).all (fun value => value < 64 ∧ symbolOf value = c) = true := by
    apply forall_bytes
    decide +kernel
  have checked := every c
  rw [known] at checked
  simpa using checked

theorem symbolOf_ne_pad {value : Nat} (small : value < 64) : symbolOf value ≠ ascii '=' :=
  (symbols_table value small).2.1

theorem alphabetIndex_symbolOf {value : Nat} (small : value < 64) :
    alphabetIndex (symbolOf value) = some (UInt8.ofNat value) :=
  (symbols_table value small).2.2

theorem symbolOf_of_mem {byte : UInt8} (member : byte ∈ base64Alphabet) : ∃ value < 64, symbolOf value = byte := by
  obtain ⟨value, small, here⟩ := List.mem_iff_getElem.mp member
  refine ⟨value, by simpa [base64Alphabet] using small, ?_⟩
  rw [symbolOf, List.getD_eq_getElem _ _ small, here]

theorem alphabetIndex_eq : ∀ c, c ≠ 0 → alphabetIndex c = (base64Value c).map UInt8.ofNat := by
  intro c nonzero
  cases known : base64Value c with
  | some value =>
    obtain ⟨small, symbol⟩ := base64Value_some known
    rw [← symbol]
    exact alphabetIndex_symbolOf small
  | none =>
    have outside : c ∉ base64Alphabet ++ [0] := by
      intro member
      rcases List.mem_append.mp member with inside | last
      · obtain ⟨value, small, rfl⟩ := symbolOf_of_mem inside
        simp [base64Value_symbolOf small] at known
      · exact nonzero (List.mem_singleton.mp last)
    rw [alphabetIndex, List.idxOf?_eq_none_iff.mpr outside]

end Symbols

section Packing

theorem shiftLeft_or (high low width : Nat) (small : low < 2 ^ width) :
    high <<< width ||| low = high * 2 ^ width + low := by
  rw [← Nat.shiftLeft_add_eq_or_of_lt small, Nat.shiftLeft_eq]

def groupBytes (a b c d : Nat) : List UInt8 :=
  [UInt8.ofNat (a * 4 + b / 16), UInt8.ofNat (b % 16 * 16 + c / 4), UInt8.ofNat (c % 4 * 64 + d)]

variable {a b c d : Nat}

theorem ofNat_toNat_of_lt {value : Nat} (small : value < 2 ^ 32) : (UInt32.ofNat value).toNat = value := by
  rw [UInt32.toNat_ofNat', Nat.mod_eq_of_lt small]

theorem shifted_toNat {value : Nat} {width : UInt32} (small : value < 64) (narrow : width.toNat ≤ 26) :
    (UInt32.ofNat value <<< width).toNat = value <<< width.toNat := by
  have bound : value * 2 ^ width.toNat < 2 ^ 32 := by
    calc value * 2 ^ width.toNat < 64 * 2 ^ 26 :=
          Nat.mul_lt_mul_of_lt_of_le small (Nat.pow_le_pow_right (by decide) narrow) (by decide)
      _ = 2 ^ 32 := rfl
  rw [UInt32.toNat_shiftLeft, ofNat_toNat_of_lt (by omega), Nat.mod_eq_of_lt (b := 32) (by omega), Nat.shiftLeft_eq,
    Nat.mod_eq_of_lt bound]

theorem word_toNat (smallA : a < 64) (smallB : b < 64) (smallC : c < 64) (smallD : d < 64) :
    (UInt32.ofNat a <<< 18 ||| UInt32.ofNat b <<< 12 ||| UInt32.ofNat c <<< 6 ||| UInt32.ofNat d).toNat =
      a * 2 ^ 18 + (b * 2 ^ 12 + (c * 2 ^ 6 + d)) := by
  rw [UInt32.toNat_or, UInt32.toNat_or, UInt32.toNat_or, shifted_toNat smallA (by decide),
    shifted_toNat smallB (by decide), shifted_toNat smallC (by decide), ofNat_toNat_of_lt (by omega)]
  change a <<< 18 ||| b <<< 12 ||| c <<< 6 ||| d = _
  rw [Nat.or_assoc, Nat.or_assoc, shiftLeft_or c d 6 smallD, shiftLeft_or b _ 12 (by omega),
    shiftLeft_or a _ 18 (by omega)]

theorem ofNat_eq_of_mod {value other : Nat} (same : value % 256 = other % 256) :
    UInt8.ofNat value = UInt8.ofNat other := by
  apply UInt8.toNat.inj
  simpa using same

theorem toUInt8_eq (word : UInt32) : word.toUInt8 = UInt8.ofNat word.toNat := by
  apply UInt8.toNat.inj
  simp

theorem shiftRight_toNat (word : UInt32) {width : UInt32} (narrow : width.toNat < 32) :
    (word >>> width).toNat = word.toNat / 2 ^ width.toNat := by
  rw [UInt32.toNat_shiftRight, Nat.shiftRight_eq_div_pow, Nat.mod_eq_of_lt narrow]

theorem word_bytes (smallA : a < 64) (smallB : b < 64) (smallC : c < 64) (smallD : d < 64) :
    let word : UInt32 := UInt32.ofNat a <<< 18 ||| UInt32.ofNat b <<< 12 ||| UInt32.ofNat c <<< 6 ||| UInt32.ofNat d
    [(word >>> 16).toUInt8, (word >>> 8).toUInt8, word.toUInt8] = groupBytes a b c d := by
  have value := word_toNat smallA smallB smallC smallD
  intro word
  have high : (word >>> 16).toNat = word.toNat / 2 ^ 16 := shiftRight_toNat word (by decide)
  have middle : (word >>> 8).toNat = word.toNat / 2 ^ 8 := shiftRight_toNat word (by decide)
  simp only [toUInt8_eq, high, middle, groupBytes, List.cons.injEq, and_true]
  rw [show word.toNat = _ from value]
  refine ⟨ofNat_eq_of_mod ?_, ofNat_eq_of_mod ?_, ofNat_eq_of_mod ?_⟩ <;> omega

theorem unrolled_bytes (smallC : c < 64) (smallD : d < 64) (smallB : b < 64) :
    [UInt8.ofNat (a <<< 2 ||| b >>> 4), UInt8.ofNat (b <<< 4 ||| c >>> 2), UInt8.ofNat (c <<< 6 ||| d)] =
      groupBytes a b c d := by
  simp only [Nat.shiftRight_eq_div_pow]
  rw [shiftLeft_or a _ 2 (by omega), shiftLeft_or b _ 4 (by omega), shiftLeft_or c d 6 smallD]
  simp only [groupBytes, List.cons.injEq, and_true]
  refine ⟨ofNat_eq_of_mod ?_, ofNat_eq_of_mod ?_, ofNat_eq_of_mod ?_⟩ <;> omega

theorem base64Symbol_eq (value : UInt32) : base64Symbol value = symbolOf (value.toNat % 64) := by
  rw [base64Symbol, symbolOf, UInt32.toNat_and]
  exact congrArg (base64Alphabet.getD · 0) (Nat.and_two_pow_sub_one_eq_mod value.toNat 6)

theorem bytes_toNat (x y z : UInt8) :
    (x.toUInt32 <<< 16 ||| y.toUInt32 <<< 8 ||| z.toUInt32).toNat =
      x.toNat * 2 ^ 16 + (y.toNat * 2 ^ 8 + z.toNat) := by
  have smallX := x.toNat_lt
  have smallY := y.toNat_lt
  have high : (x.toUInt32 <<< 16).toNat = x.toNat <<< 16 := by
    rw [UInt32.toNat_shiftLeft, UInt8.toNat_toUInt32]
    change x.toNat <<< 16 % 2 ^ 32 = _
    rw [Nat.shiftLeft_eq, Nat.mod_eq_of_lt (by omega)]
  have middle : (y.toUInt32 <<< 8).toNat = y.toNat <<< 8 := by
    rw [UInt32.toNat_shiftLeft, UInt8.toNat_toUInt32]
    change y.toNat <<< 8 % 2 ^ 32 = _
    rw [Nat.shiftLeft_eq, Nat.mod_eq_of_lt (by omega)]
  rw [UInt32.toNat_or, UInt32.toNat_or, high, middle, UInt8.toNat_toUInt32, Nat.or_assoc,
    shiftLeft_or _ _ 8 z.toNat_lt, shiftLeft_or _ _ 16 (by have := z.toNat_lt; omega)]

theorem symbols_of_bytes (x y z : UInt8) :
    let word : UInt32 := x.toUInt32 <<< 16 ||| y.toUInt32 <<< 8 ||| z.toUInt32
    base64Symbol (word >>> 18) = symbolOf (x.toNat / 4) ∧
      base64Symbol (word >>> 12) = symbolOf (x.toNat % 4 * 16 + y.toNat / 16) ∧
      base64Symbol (word >>> 6) = symbolOf (y.toNat % 16 * 4 + z.toNat / 64) ∧
      base64Symbol word = symbolOf (z.toNat % 64) := by
  have value := bytes_toNat x y z
  have smallX := x.toNat_lt
  have smallY := y.toNat_lt
  have smallZ := z.toNat_lt
  intro word
  have first : (word >>> 18).toNat = word.toNat / 2 ^ 18 := shiftRight_toNat word (by decide)
  have second : (word >>> 12).toNat = word.toNat / 2 ^ 12 := shiftRight_toNat word (by decide)
  have third : (word >>> 6).toNat = word.toNat / 2 ^ 6 := shiftRight_toNat word (by decide)
  rw [base64Symbol_eq, base64Symbol_eq, base64Symbol_eq, base64Symbol_eq, first, second, third,
    show word.toNat = _ from value]
  refine ⟨congrArg symbolOf ?_, congrArg symbolOf ?_, congrArg symbolOf ?_, congrArg symbolOf ?_⟩ <;> omega

theorem encodeGroup_three (x y z : UInt8) :
    encodeGroup x (some y) (some z) =
      [symbolOf (x.toNat / 4), symbolOf (x.toNat % 4 * 16 + y.toNat / 16),
       symbolOf (y.toNat % 16 * 4 + z.toNat / 64), symbolOf (z.toNat % 64)] := by
  obtain ⟨first, second, third, fourth⟩ := symbols_of_bytes x y z
  simp only [encodeGroup, first, second, third, fourth, Option.isSome_some, ↓reduceIte]

theorem encodeGroup_two (x y : UInt8) :
    encodeGroup x (some y) none =
      [symbolOf (x.toNat / 4), symbolOf (x.toNat % 4 * 16 + y.toNat / 16), symbolOf (y.toNat % 16 * 4), ascii '='] := by
  obtain ⟨first, second, third, -⟩ := symbols_of_bytes x y 0
  have zero : x.toUInt32 <<< 16 ||| y.toUInt32 <<< 8 ||| (0 : UInt8).toUInt32 =
      x.toUInt32 <<< 16 ||| y.toUInt32 <<< 8 := by simp
  rw [zero] at first second third
  simp [encodeGroup, first, second, third]

theorem encodeGroup_one (x : UInt8) :
    encodeGroup x none none = [symbolOf (x.toNat / 4), symbolOf (x.toNat % 4 * 16), ascii '=', ascii '='] := by
  obtain ⟨first, second, -⟩ := symbols_of_bytes x 0 0
  have zero : x.toUInt32 <<< 16 ||| (0 : UInt8).toUInt32 <<< 8 ||| (0 : UInt8).toUInt32 = x.toUInt32 <<< 16 := by simp
  rw [zero] at first second
  simp [encodeGroup, first, second]

theorem groupBytes_of_bytes (x y z : UInt8) :
    groupBytes (x.toNat / 4) (x.toNat % 4 * 16 + y.toNat / 16) (y.toNat % 16 * 4 + z.toNat / 64) (z.toNat % 64) =
      [x, y, z] := by
  have same (byte : UInt8) (value : Nat) (equal : value = byte.toNat) : UInt8.ofNat value = byte := by
    rw [equal, UInt8.ofNat_toNat]
  have smallX := x.toNat_lt
  have smallY := y.toNat_lt
  have smallZ := z.toNat_lt
  simp only [groupBytes, List.cons.injEq, and_true]
  refine ⟨same x _ ?_, same y _ ?_, same z _ ?_⟩ <;> omega

theorem encodeBase64_groupBytes (smallA : a < 64) (smallB : b < 64) (smallC : c < 64) (smallD : d < 64)
    (rest : List UInt8) :
    encodeBase64 (groupBytes a b c d ++ rest) =
      [symbolOf a, symbolOf b, symbolOf c, symbolOf d] ++ encodeBase64 rest := by
  have first : (a * 4 + b / 16) % 2 ^ 8 / 4 = a := by omega
  have second : (a * 4 + b / 16) % 2 ^ 8 % 4 * 16 + (b % 16 * 16 + c / 4) % 2 ^ 8 / 16 = b := by omega
  have third : (b % 16 * 16 + c / 4) % 2 ^ 8 % 16 * 4 + (c % 4 * 64 + d) % 2 ^ 8 / 64 = c := by omega
  have fourth : (c % 4 * 64 + d) % 2 ^ 8 % 64 = d := by omega
  simp only [groupBytes, List.cons_append, List.nil_append, encodeBase64, encodeGroup_three, UInt8.toNat_ofNat',
    first, second, third, fourth]

theorem encodeBase64_twoBytes (smallA : a < 64) (smallB : b < 64) (smallC : c < 64) (clear : c % 4 = 0) :
    encodeBase64 ((groupBytes a b c 0).take 2) = [symbolOf a, symbolOf b, symbolOf c, ascii '='] := by
  have first : (a * 4 + b / 16) % 2 ^ 8 / 4 = a := by omega
  have second : (a * 4 + b / 16) % 2 ^ 8 % 4 * 16 + (b % 16 * 16 + c / 4) % 2 ^ 8 / 16 = b := by omega
  have third : (b % 16 * 16 + c / 4) % 2 ^ 8 % 16 * 4 = c := by omega
  simp only [groupBytes, List.take, encodeBase64, encodeGroup_two, UInt8.toNat_ofNat', first, second, third]

theorem encodeBase64_oneByte (smallA : a < 64) (smallB : b < 64) (clear : b % 16 = 0) :
    encodeBase64 ((groupBytes a b 0 0).take 1) = [symbolOf a, symbolOf b, ascii '=', ascii '='] := by
  have first : (a * 4 + b / 16) % 2 ^ 8 / 4 = a := by omega
  have second : (a * 4 + b / 16) % 2 ^ 8 % 4 * 16 = b := by omega
  simp only [groupBytes, List.take, encodeBase64, encodeGroup_one, UInt8.toNat_ofNat', first, second]

end Packing

section Groups

variable {outputCap : Nat} {in0 in1 in2 in3 : UInt8} {rest output : List UInt8} {a b c d : Nat}

theorem lowTwo_clear : (c &&& 3 != 0) = false ↔ c % 4 = 0 := by
  rw [bne_eq_false_iff_eq, Nat.and_two_pow_sub_one_eq_mod c 2]

theorem lowFour_clear : (b &&& 15 != 0) = false ↔ b % 16 = 0 := by
  rw [bne_eq_false_iff_eq, Nat.and_two_pow_sub_one_eq_mod b 4]

theorem decodeGroups_plain (valueA : base64Value in0 = some a) (valueB : base64Value in1 = some b)
    (valueC : base64Value in2 = some c) (valueD : base64Value in3 = some d) :
    decodeGroups outputCap (in0 :: in1 :: in2 :: in3 :: rest) output =
      if output.length + 3 > outputCap then (false, output)
      else decodeGroups outputCap rest (output ++ groupBytes a b c d) := by
  obtain ⟨smallA, -⟩ := base64Value_some valueA
  obtain ⟨smallB, -⟩ := base64Value_some valueB
  obtain ⟨smallC, rfl⟩ := base64Value_some valueC
  obtain ⟨smallD, rfl⟩ := base64Value_some valueD
  have pad2 : (symbolOf c == ascii '=') = false := beq_eq_false_iff_ne.mpr (symbolOf_ne_pad smallC)
  have pad3 : (symbolOf d == ascii '=') = false := beq_eq_false_iff_ne.mpr (symbolOf_ne_pad smallD)
  rw [decodeGroups]
  simp only [pad2, pad3, valueA, valueB, valueC, valueD, word_bytes smallA smallB smallC smallD, Bool.or_self,
    Bool.and_false, Bool.false_and, Bool.false_eq_true, ↓reduceIte]
  rfl

theorem decodeGroups_pad (valueA : base64Value in0 = some a) (valueB : base64Value in1 = some b)
    (valueC : base64Value in2 = some c) (clear : c % 4 = 0) :
    decodeGroups outputCap [in0, in1, in2, ascii '='] output =
      if output.length + 2 > outputCap then (false, output)
      else (true, output ++ (groupBytes a b c 0).take 2) := by
  obtain ⟨smallA, -⟩ := base64Value_some valueA
  obtain ⟨smallB, -⟩ := base64Value_some valueB
  obtain ⟨smallC, rfl⟩ := base64Value_some valueC
  have pad2 : (symbolOf c == ascii '=') = false := beq_eq_false_iff_ne.mpr (symbolOf_ne_pad smallC)
  have unused := lowTwo_clear.mpr clear
  rw [decodeGroups]
  simp only [pad2, beq_self_eq_true, valueA, valueB, valueC, word_bytes smallA smallB smallC (by decide : 0 < 64),
    unused, List.isEmpty_nil, Bool.not_true, Bool.false_and, Bool.and_false, Bool.false_eq_true, ↓reduceIte,
    decodeGroups]

theorem decodeGroups_pads (valueA : base64Value in0 = some a) (valueB : base64Value in1 = some b)
    (clear : b % 16 = 0) :
    decodeGroups outputCap [in0, in1, ascii '=', ascii '='] output =
      if output.length + 1 > outputCap then (false, output)
      else (true, output ++ (groupBytes a b 0 0).take 1) := by
  obtain ⟨smallA, -⟩ := base64Value_some valueA
  obtain ⟨smallB, -⟩ := base64Value_some valueB
  have unused := lowFour_clear.mpr clear
  rw [decodeGroups]
  simp only [beq_self_eq_true, valueA, valueB, word_bytes smallA smallB (by decide : 0 < 64) (by decide : 0 < 64),
    unused, List.isEmpty_nil, Bool.not_true, Bool.and_false, Bool.false_and, Bool.false_eq_true, ↓reduceIte,
    decodeGroups]

theorem decodeGroups_shape {result : List UInt8}
    (accepted : decodeGroups outputCap (in0 :: in1 :: in2 :: in3 :: rest) output = (true, result)) :
    ∃ a b, base64Value in0 = some a ∧ base64Value in1 = some b ∧
      ((∃ c d, base64Value in2 = some c ∧ base64Value in3 = some d) ∨
        (rest = [] ∧ in3 = ascii '=' ∧ ∃ c, base64Value in2 = some c ∧ c % 4 = 0) ∨
        (rest = [] ∧ in2 = ascii '=' ∧ in3 = ascii '=' ∧ b % 16 = 0)) := by
  rw [decodeGroups] at accepted
  cases valueA : base64Value in0 with
  | none => simp [valueA] at accepted
  | some a =>
    cases valueB : base64Value in1 with
    | none => simp [valueB] at accepted
    | some b =>
      refine ⟨a, b, rfl, rfl, ?_⟩
      cases pad2 : in2 == ascii '=' <;> cases pad3 : in3 == ascii '=' <;>
        simp only [pad2, pad3, valueA, valueB, Bool.or_false, Bool.or_true, Bool.or_self, Bool.and_true,
          Bool.and_false, Bool.not_true, Bool.not_false, Bool.true_and, Bool.false_and, Bool.false_eq_true,
          ↓reduceIte, Bool.and_self, ite_self, Prod.mk.injEq, false_and] at accepted
      · left
        split at accepted
        · next valueC valueD => exact ⟨_, _, valueC, valueD⟩
        · cases accepted
      · right; left
        split at accepted
        · cases accepted
        · next final =>
          split at accepted
          · next valueC _ =>
            split at accepted
            · cases accepted
            · next clear =>
              refine ⟨by simpa using final, by simpa using pad3, _, valueC, ?_⟩
              exact lowTwo_clear.mp (Bool.eq_false_of_not_eq_true clear)
          · cases accepted
      · right; right
        split at accepted
        · cases accepted
        · next final =>
          split at accepted
          · cases accepted
          · next clear =>
            refine ⟨by simpa using final, by simpa using pad2, by simpa using pad3, ?_⟩
            exact lowFour_clear.mp (Bool.eq_false_of_not_eq_true clear)

end Groups

section Agreement

variable {outputCap : Nat}

theorem length_encodeBase64 (bytes : List UInt8) : (encodeBase64 bytes).length = 4 * ((bytes.length + 2) / 3) := by
  induction bytes using encodeBase64.induct with
  | case1 first second third rest ih =>
    rw [encodeBase64, List.length_append, ih, encodeGroup_three]
    simp only [List.length_cons, List.length_nil]
    omega
  | case2 first second =>
    rw [encodeBase64, encodeGroup_two]
    simp
  | case3 first =>
    rw [encodeBase64, encodeGroup_one]
    simp
  | case4 => rfl

theorem exists_group {chars : List UInt8} {groups : Nat} (length : chars.length = 4 * (groups + 1)) :
    ∃ in0 in1 in2 in3 rest, chars = in0 :: in1 :: in2 :: in3 :: rest ∧ rest.length = 4 * groups := by
  match chars, length with
  | in0 :: in1 :: in2 :: in3 :: rest, length =>
    refine ⟨in0, in1, in2, in3, rest, rfl, ?_⟩
    simp only [List.length_cons] at length
    omega

theorem decodeGroups_encodeBase64 (bytes : List UInt8) (output : List UInt8)
    (room : output.length + bytes.length ≤ outputCap) :
    decodeGroups outputCap (encodeBase64 bytes) output = (true, output ++ bytes) := by
  induction bytes using encodeBase64.induct generalizing output with
  | case1 x y z rest ih =>
    simp only [List.length_cons] at room
    have smallX := x.toNat_lt
    have smallY := y.toNat_lt
    have smallZ := z.toNat_lt
    rw [encodeBase64, encodeGroup_three]
    simp only [List.cons_append, List.nil_append]
    rw [decodeGroups_plain (base64Value_symbolOf (by omega)) (base64Value_symbolOf (by omega))
      (base64Value_symbolOf (by omega)) (base64Value_symbolOf (by omega)), if_neg (by omega), groupBytes_of_bytes,
      ih _ (by simp only [List.length_append, List.length_cons, List.length_nil]; omega)]
    simp
  | case2 x y =>
    simp only [List.length_cons, List.length_nil] at room
    have smallX := x.toNat_lt
    have smallY := y.toNat_lt
    have bytes := congrArg (List.take 2) (groupBytes_of_bytes x y 0)
    rw [encodeBase64, encodeGroup_two, decodeGroups_pad (base64Value_symbolOf (by omega))
      (base64Value_symbolOf (by omega)) (base64Value_symbolOf (by omega)) (by omega), if_neg (by omega)]
    simpa using bytes
  | case3 x =>
    simp only [List.length_cons, List.length_nil] at room
    have smallX := x.toNat_lt
    have bytes := congrArg (List.take 1) (groupBytes_of_bytes x 0 0)
    rw [encodeBase64, encodeGroup_one, decodeGroups_pads (base64Value_symbolOf (by omega))
      (base64Value_symbolOf (by omega)) (by omega), if_neg (by omega)]
    simpa using bytes
  | case4 => simp [encodeBase64, decodeGroups]

theorem decodeGroups_sound {groups : Nat} {input output result : List UInt8} (length : input.length = 4 * groups)
    (accepted : decodeGroups outputCap input output = (true, result)) :
    ∃ bytes, result = output ++ bytes ∧ encodeBase64 bytes = input := by
  induction groups generalizing input output with
  | zero =>
    obtain rfl := List.length_eq_zero_iff.mp length
    simp only [decodeGroups, Prod.mk.injEq, true_and] at accepted
    exact ⟨[], by simp [accepted], rfl⟩
  | succ groups ih =>
    obtain ⟨in0, in1, in2, in3, rest, rfl, shorter⟩ := exists_group length
    obtain ⟨a, b, valueA, valueB, ⟨c, d, valueC, valueD⟩ | ⟨rfl, rfl, c, valueC, clear⟩ | ⟨rfl, rfl, rfl, clear⟩⟩ :=
      decodeGroups_shape accepted
    · rw [decodeGroups_plain valueA valueB valueC valueD] at accepted
      split at accepted
      · cases accepted
      · obtain ⟨bytes, rfl, encoded⟩ := ih shorter accepted
        refine ⟨groupBytes a b c d ++ bytes, List.append_assoc .., ?_⟩
        obtain ⟨smallA, symbolA⟩ := base64Value_some valueA
        obtain ⟨smallB, symbolB⟩ := base64Value_some valueB
        obtain ⟨smallC, symbolC⟩ := base64Value_some valueC
        obtain ⟨smallD, symbolD⟩ := base64Value_some valueD
        rw [encodeBase64_groupBytes smallA smallB smallC smallD, symbolA, symbolB, symbolC, symbolD, encoded]
        rfl
    · rw [decodeGroups_pad valueA valueB valueC clear] at accepted
      split at accepted
      · cases accepted
      · obtain ⟨smallA, rfl⟩ := base64Value_some valueA
        obtain ⟨smallB, rfl⟩ := base64Value_some valueB
        obtain ⟨smallC, rfl⟩ := base64Value_some valueC
        cases accepted
        exact ⟨_, rfl, encodeBase64_twoBytes smallA smallB smallC clear⟩
    · rw [decodeGroups_pads valueA valueB clear] at accepted
      split at accepted
      · cases accepted
      · obtain ⟨smallA, rfl⟩ := base64Value_some valueA
        obtain ⟨smallB, rfl⟩ := base64Value_some valueB
        cases accepted
        exact ⟨_, rfl, encodeBase64_oneByte smallA smallB clear⟩

theorem decodeBase64Strict_encodeBase64 {bytes : List UInt8} (nonempty : bytes ≠ []) (room : bytes.length ≤ outputCap) :
    decodeBase64Strict (encodeBase64 bytes) outputCap = (true, bytes) := by
  have positive := List.length_pos_of_ne_nil nonempty
  have length := length_encodeBase64 bytes
  rw [decodeBase64Strict, if_neg (by omega), decodeGroups_encodeBase64 bytes [] (by simpa using room)]
  rfl

theorem encodeBase64_of_decodeBase64Strict {input bytes : List UInt8}
    (accepted : decodeBase64Strict input outputCap = (true, bytes)) : encodeBase64 bytes = input := by
  unfold decodeBase64Strict at accepted
  split at accepted
  · cases accepted
  · next divisible =>
    have length : input.length = 4 * (input.length / 4) := by omega
    obtain ⟨decoded, rfl, encoded⟩ := decodeGroups_sound length accepted
    exact encoded

end Agreement

section Accumulator

variable {out : List UInt8} {value : UInt8}

theorem accumulated_toNat {bits : Nat} (few : bits < 2 ^ 10) (small : value.toNat < 64) :
    (UInt32.ofNat bits <<< 6 ||| value.toUInt32).toNat = bits * 64 + value.toNat := by
  have high : (UInt32.ofNat bits <<< 6).toNat = bits <<< 6 := by
    rw [UInt32.toNat_shiftLeft, ofNat_toNat_of_lt (by omega)]
    change bits <<< 6 % 2 ^ 32 = _
    rw [Nat.shiftLeft_eq, Nat.mod_eq_of_lt (by omega)]
  rw [UInt32.toNat_or, high, UInt8.toNat_toUInt32]
  exact shiftLeft_or bits _ 6 small

theorem accumulateBits_first : accumulateBits (0, 0, out) value = (UInt32.ofNat value.toNat, 4 + 2, out) := by
  have first : (0 : UInt32) <<< 6 ||| value.toUInt32 = UInt32.ofNat value.toNat := by
    apply UInt32.toNat.inj
    rw [ofNat_toNat_of_lt (by have := value.toNat_lt; omega)]
    simp
  simp only [accumulateBits, first]
  rw [drainBits, if_neg (by omega)]

theorem accumulateBits_drain (left : Nat) {bits : Nat} (width : left = 0 ∨ left = 2 ∨ left = 4)
    (few : bits < 2 ^ (left + 2))
    (small : value.toNat < 64) (room : out.length < 16) :
    accumulateBits (UInt32.ofNat bits, left + 2, out) value =
      (UInt32.ofNat ((bits * 64 + value.toNat) % 2 ^ left), left,
        out ++ [UInt8.ofNat ((bits * 64 + value.toNat) / 2 ^ left)]) := by
  have narrow : left < 8 := by omega
  have fewer : bits < 2 ^ 10 := few.trans_le (Nat.pow_le_pow_right (by decide) (by omega))
  have total := accumulated_toNat fewer small
  simp only [accumulateBits]
  generalize UInt32.ofNat bits <<< 6 ||| value.toUInt32 = word at total ⊢
  rw [drainBits, if_pos (by omega), drainBits, if_neg (by omega), ← total]
  have count : left + 2 + 6 - 8 = left := by omega
  rw [count]
  have mask : word &&& (if left = 0 then (0 : UInt32) else ((1 : UInt32) <<< UInt32.ofNat left) - 1) =
      UInt32.ofNat (word.toNat % 2 ^ left) := by
    apply UInt32.toNat.inj
    rw [UInt32.toNat_and, ofNat_toNat_of_lt ((Nat.mod_le _ _).trans_lt word.toNat_lt),
      ← Nat.and_two_pow_sub_one_eq_mod]
    rcases width with rfl | rfl | rfl <;> rfl
  have byte : (word >>> UInt32.ofNat left).toUInt8 = UInt8.ofNat (word.toNat / 2 ^ left) := by
    have exponent : (UInt32.ofNat left).toNat = left := ofNat_toNat_of_lt (by omega)
    rw [toUInt8_eq, shiftRight_toNat word (by omega), exponent]
  rw [mask, byte]

theorem accumulateBits_pair {a b : UInt8} (smallA : a.toNat < 64) (smallB : b.toNat < 64) (room : out.length < 16) :
    [a, b].foldl accumulateBits (0, 0, out) =
      (UInt32.ofNat (b.toNat % 16), 2 + 2, out ++ [UInt8.ofNat (a.toNat * 4 + b.toNat / 16)]) := by
  have high : (a.toNat * 64 + b.toNat) / 2 ^ 4 = a.toNat * 4 + b.toNat / 16 := by omega
  have low : (a.toNat * 64 + b.toNat) % 2 ^ 4 = b.toNat % 16 := by omega
  rw [List.foldl_cons, List.foldl_cons, List.foldl_nil, accumulateBits_first,
    accumulateBits_drain 4 (.inr (.inr rfl)) (by omega) smallB room, high, low]

theorem accumulateBits_group {a b c d : UInt8} (smallA : a.toNat < 64) (smallB : b.toNat < 64)
    (smallC : c.toNat < 64) (smallD : d.toNat < 64) (room : out.length + 3 ≤ 16) :
    [a, b, c, d].foldl accumulateBits (0, 0, out) =
      (0, 0, out ++ groupBytes a.toNat b.toNat c.toNat d.toNat) := by
  have third : (b.toNat % 16 * 64 + c.toNat) / 2 ^ 2 = b.toNat % 16 * 16 + c.toNat / 4 := by omega
  have low : (b.toNat % 16 * 64 + c.toNat) % 2 ^ 2 = c.toNat % 4 := by omega
  rw [show [a, b, c, d] = [a, b] ++ [c, d] from rfl, List.foldl_append,
    accumulateBits_pair smallA smallB (by omega), List.foldl_cons, List.foldl_cons, List.foldl_nil,
    accumulateBits_drain 2 (.inr (.inl rfl)) (by omega) smallC
      (by simp only [List.length_append, List.length_cons, List.length_nil]; omega), third, low,
    accumulateBits_drain 0 (.inl rfl) (by omega) smallD
      (by simp only [List.length_append, List.length_cons, List.length_nil]; omega)]
  simp [groupBytes, Nat.mod_one]

end Accumulator

section Keys

theorem scopeKeyGroups_plain {in0 in1 in2 in3 : UInt8} {a b c d : Nat} (valueA : base64Value in0 = some a)
    (valueB : base64Value in1 = some b) (valueC : base64Value in2 = some c) (valueD : base64Value in3 = some d)
    (rest : List UInt8) :
    scopeKeyGroups (in0 :: in1 :: in2 :: in3 :: rest) = (scopeKeyGroups rest).map (groupBytes a b c d ++ ·) := by
  have smallB := (base64Value_some valueB).1
  have smallC := (base64Value_some valueC).1
  have smallD := (base64Value_some valueD).1
  simp only [scopeKeyGroups, scopeKeyBase64Value, valueA, valueB, valueC, valueD, unrolled_bytes smallC smallD smallB]

theorem scopeKeyGroups_sound {groups : Nat} {chars bytes : List UInt8} (length : chars.length = 4 * groups)
    (decoded : scopeKeyGroups chars = some bytes) (rest : List UInt8) :
    bytes.length = 3 * groups ∧ encodeBase64 (bytes ++ rest) = chars ++ encodeBase64 rest := by
  induction groups generalizing chars bytes with
  | zero =>
    obtain rfl := List.length_eq_zero_iff.mp length
    cases decoded
    exact ⟨rfl, rfl⟩
  | succ groups ih =>
    obtain ⟨in0, in1, in2, in3, tail, rfl, shorter⟩ := exists_group length
    cases valueA : base64Value in0 <;> cases valueB : base64Value in1 <;> cases valueC : base64Value in2 <;>
      cases valueD : base64Value in3
    case some.some.some.some a b c d =>
      rw [scopeKeyGroups_plain valueA valueB valueC valueD] at decoded
      obtain ⟨later, inner, rfl⟩ := Option.map_eq_some_iff.mp decoded
      obtain ⟨smallA, symbolA⟩ := base64Value_some valueA
      obtain ⟨smallB, symbolB⟩ := base64Value_some valueB
      obtain ⟨smallC, symbolC⟩ := base64Value_some valueC
      obtain ⟨smallD, symbolD⟩ := base64Value_some valueD
      obtain ⟨size, encoded⟩ := ih shorter inner
      refine ⟨?_, ?_⟩
      · simp only [groupBytes, List.length_append, List.length_cons, List.length_nil, size]
        omega
      · rw [List.append_assoc, encodeBase64_groupBytes smallA smallB smallC smallD, encoded, symbolA, symbolB, symbolC,
          symbolD]
        rfl
    all_goals simp [scopeKeyGroups, scopeKeyBase64Value, valueA, valueB, valueC, valueD] at decoded

theorem scopeKeyGroups_encodeBase64 {groups : Nat} {bytes : List UInt8} (length : bytes.length = 3 * groups) :
    scopeKeyGroups (encodeBase64 bytes) = some bytes := by
  induction groups generalizing bytes with
  | zero =>
    obtain rfl := List.length_eq_zero_iff.mp length
    rfl
  | succ groups ih =>
    match bytes, length with
    | x :: y :: z :: rest, length =>
      have shorter : rest.length = 3 * groups := by
        simp only [List.length_cons] at length
        omega
      have smallX := x.toNat_lt
      have smallY := y.toNat_lt
      have smallZ := z.toNat_lt
      rw [encodeBase64, encodeGroup_three]
      simp only [List.cons_append, List.nil_append]
      rw [scopeKeyGroups_plain (base64Value_symbolOf (by omega)) (base64Value_symbolOf (by omega))
        (base64Value_symbolOf (by omega)) (base64Value_symbolOf (by omega)), ih shorter, groupBytes_of_bytes]
      rfl

theorem mapM_alphabetIndex {chars : List UInt8} (nonzero : ∀ byte ∈ chars, byte ≠ 0) :
    chars.mapM alphabetIndex = (chars.mapM base64Value).map (List.map UInt8.ofNat) := by
  induction chars with
  | nil => rfl
  | cons c rest ih =>
    rw [List.mapM_cons, List.mapM_cons, alphabetIndex_eq c (nonzero c (List.mem_cons_self ..)),
      ih fun byte listed => nonzero byte (List.mem_cons_of_mem _ listed)]
    cases base64Value c <;> cases rest.mapM base64Value <;> rfl

theorem value_toNat {c : UInt8} {value : Nat} (known : base64Value c = some value) :
    (UInt8.ofNat value).toNat < 64 ∧ (UInt8.ofNat value).toNat = value := by
  have small := (base64Value_some known).1
  have same : (UInt8.ofNat value).toNat = value := by
    rw [UInt8.toNat_ofNat', Nat.mod_eq_of_lt (by omega)]
  exact ⟨same.trans_lt small, same⟩

theorem scopeKeyGroups_of_mapM {groups : Nat} {chars : List UInt8} (length : chars.length = 4 * groups) :
    match chars.mapM base64Value with
    | none => scopeKeyGroups chars = none
    | some values => values.length = 4 * groups ∧ ∃ bytes, scopeKeyGroups chars = some bytes ∧
        ∀ out, out.length + 3 * groups ≤ 16 →
          (values.map UInt8.ofNat).foldl accumulateBits (0, 0, out) = (0, 0, out ++ bytes) := by
  induction groups generalizing chars with
  | zero =>
    obtain rfl := List.length_eq_zero_iff.mp length
    exact ⟨rfl, [], rfl, fun out _ => by simp⟩
  | succ groups ih =>
    obtain ⟨in0, in1, in2, in3, rest, rfl, shorter⟩ := exists_group length
    simp only [List.mapM_cons]
    cases valueA : base64Value in0 <;> cases valueB : base64Value in1 <;> cases valueC : base64Value in2 <;>
      cases valueD : base64Value in3
    case some.some.some.some a b c d =>
      have later := ih shorter
      rw [scopeKeyGroups_plain valueA valueB valueC valueD]
      cases known : rest.mapM base64Value with
      | none =>
        rw [known] at later
        change Option.map _ (scopeKeyGroups rest) = none
        rw [later]
        rfl
      | some values =>
        rw [known] at later
        obtain ⟨size, bytes, decoded, folded⟩ := later
        refine ⟨?_, groupBytes a b c d ++ bytes, by rw [decoded]; rfl, fun out room => ?_⟩
        · change values.length + 1 + 1 + 1 + 1 = 4 * (groups + 1)
          omega
        have exactA := value_toNat valueA
        have exactB := value_toNat valueB
        have exactC := value_toNat valueC
        have exactD := value_toNat valueD
        have first : out.length + 3 ≤ 16 := by omega
        have group := accumulateBits_group exactA.1 exactB.1 exactC.1 exactD.1 first
        have longer : (out ++ groupBytes a b c d).length + 3 * groups ≤ 16 := by
          simp only [groupBytes, List.length_append, List.length_cons, List.length_nil]
          omega
        rw [exactA.2, exactB.2, exactC.2, exactD.2] at group
        change List.foldl accumulateBits (0, 0, out)
          ([UInt8.ofNat a, UInt8.ofNat b, UInt8.ofNat c, UInt8.ofNat d] ++ values.map UInt8.ofNat) = _
        rw [List.foldl_append, group, folded _ longer, List.append_assoc]
    all_goals simp [scopeKeyGroups, scopeKeyBase64Value, valueA, valueB, valueC, valueD]

theorem keyText_split {text : List UInt8} (length : text.length = 24) (pad2 : text.getD 22 0 = ascii '=')
    (pad3 : text.getD 23 0 = ascii '=') :
    ∃ head c20 c21, head.length = 4 * 5 ∧ text = head ++ [c20, c21, ascii '=', ascii '='] := by
  have tail : (text.drop 20).length = 4 * (0 + 1) := by rw [List.length_drop, length]
  obtain ⟨c20, c21, c22, c23, rest, dropped, short⟩ := exists_group tail
  obtain rfl := List.length_eq_zero_iff.mp short
  have whole : text = text.take 20 ++ [c20, c21, c22, c23] := by rw [← dropped, List.take_append_drop]
  have twenty : (text.take 20).length = 20 := by rw [List.length_take, length]; rfl
  generalize text.take 20 = head at whole twenty
  subst whole
  rw [List.getD_append_right _ _ _ _ (by omega), twenty] at pad2 pad3
  refine ⟨head, c20, c21, twenty, ?_⟩
  rw [show c22 = ascii '=' from pad2, show c23 = ascii '=' from pad3]

def keyBytes (head : List UInt8) (c20 c21 : UInt8) : Option (List UInt8) :=
  match scopeKeyGroups head, base64Value c20, base64Value c21 with
  | some decoded, some a, some b =>
    if b % 16 = 0 then some (decoded ++ [UInt8.ofNat (a * 4 + b / 16)]) else none
  | _, _, _ => none

variable {head : List UInt8} {c20 c21 : UInt8}

theorem keyBytes_some {key : List UInt8} (length : head.length = 4 * 5) (known : keyBytes head c20 c21 = some key) :
    key.length = 16 ∧ encodeBase64 key = head ++ [c20, c21, ascii '=', ascii '='] := by
  unfold keyBytes at known
  split at known
  · next decoded a b inner valueA valueB =>
    split at known
    · next clear =>
      cases known
      obtain ⟨smallA, symbolA⟩ := base64Value_some valueA
      obtain ⟨smallB, symbolB⟩ := base64Value_some valueB
      have last := encodeBase64_oneByte smallA smallB clear
      rw [symbolA, symbolB] at last
      obtain ⟨size, encoded⟩ := scopeKeyGroups_sound length inner [UInt8.ofNat (a * 4 + b / 16)]
      refine ⟨by rw [List.length_append, size]; rfl, ?_⟩
      rw [encoded]
      exact congrArg (head ++ ·) last
    · cases known
  · cases known

theorem encodeBase64_append {groups : Nat} {bytes : List UInt8} (length : bytes.length = 3 * groups)
    (rest : List UInt8) : encodeBase64 (bytes ++ rest) = encodeBase64 bytes ++ encodeBase64 rest := by
  have size : (encodeBase64 bytes).length = 4 * groups := by
    rw [length_encodeBase64, length]
    omega
  exact (scopeKeyGroups_sound size (scopeKeyGroups_encodeBase64 length) rest).2

theorem key_split {key : List UInt8} (size : key.length = 16) :
    ∃ front last, front.length = 3 * 5 ∧ key = front ++ [last] := by
  obtain ⟨last, dropped⟩ : ∃ last, key.drop 15 = [last] := List.length_eq_one_iff.mp (by rw [List.length_drop, size])
  refine ⟨key.take 15, last, by rw [List.length_take, size]; rfl, ?_⟩
  rw [← dropped, List.take_append_drop]

theorem encodeBase64_key {front : List UInt8} (fifteen : front.length = 3 * 5) (last : UInt8) :
    encodeBase64 (front ++ [last]) = encodeBase64 front ++
      [symbolOf (last.toNat / 4), symbolOf (last.toNat % 4 * 16), ascii '=', ascii '='] := by
  rw [encodeBase64_append fifteen, encodeBase64, encodeGroup_one]

theorem keyBytes_of_encodeBase64 {key : List UInt8} (length : head.length = 4 * 5) (size : key.length = 16)
    (encoded : encodeBase64 key = head ++ [c20, c21, ascii '=', ascii '=']) : keyBytes head c20 c21 = some key := by
  obtain ⟨front, last, fifteen, rfl⟩ := key_split size
  have small := last.toNat_lt
  rw [encodeBase64_key fifteen] at encoded
  have frontSize : (encodeBase64 front).length = head.length := by
    rw [length_encodeBase64, fifteen, length]
  obtain ⟨rfl, tail⟩ := List.append_inj encoded frontSize
  simp only [List.cons.injEq, and_true] at tail
  obtain ⟨rfl, rfl⟩ := tail
  unfold keyBytes
  rw [scopeKeyGroups_encodeBase64 fifteen, base64Value_symbolOf (by omega), base64Value_symbolOf (by omega)]
  have byte : last.toNat / 4 * 4 + last.toNat % 4 * 16 / 16 = last.toNat := by omega
  simp only [byte, UInt8.ofNat_toNat]
  rw [if_pos (by omega)]

theorem overwrite_full {out : FixedBytes 16} {written : List UInt8} (full : written.length = 16) :
    overwrite out written = .ofList 16 written := by
  rw [overwrite, List.drop_of_length_le (by rw [full, out.length_eq]), List.append_nil]

theorem keyText_guard (length : head.length = 4 * 5) :
    ¬ ((head ++ [c20, c21, ascii '=', ascii '=']).length ≠ 24 ∨
      (head ++ [c20, c21, ascii '=', ascii '=']).getD 22 0 ≠ ascii '=' ∨
      (head ++ [c20, c21, ascii '=', ascii '=']).getD 23 0 ≠ ascii '=') := by
  rw [List.getD_append_right _ _ _ _ (by omega), List.getD_append_right _ _ _ _ (by omega), length,
    List.length_append, length]
  simp

theorem low_bits_byte {b : Nat} : UInt8.ofNat b &&& 15 ≠ 0 ↔ b % 16 ≠ 0 := by
  have low : (UInt8.ofNat b &&& 15).toNat = b % 16 := by
    rw [UInt8.toNat_and, UInt8.toNat_ofNat']
    have mask := Nat.and_two_pow_sub_one_eq_mod (b % 2 ^ 8) 4
    change b % 2 ^ 8 &&& 15 = b % 16
    change b % 2 ^ 8 &&& 15 = b % 2 ^ 8 % 16 at mask
    omega
  rw [ne_eq, ne_eq, ← low, ← UInt8.toNat_inj]
  rfl

theorem channelPskDecode16_shape {encoded : List UInt8} (length : head.length = 4 * 5)
    (shape : terminated encoded = head ++ [c20, c21, ascii '=', ascii '=']) (out : FixedBytes 16) :
    channelPskDecode16 encoded out =
      match keyBytes head c20 c21 with
      | some key => (true, .ofList 16 key)
      | none => (false, out) := by
  have nonzero : ∀ byte ∈ head ++ [c20, c21], byte ≠ 0 := fun byte listed =>
    terminated_nonzero byte (by rw [shape]; simp only [List.mem_append, List.mem_cons] at listed ⊢; tauto)
  have taken : (head ++ [c20, c21, ascii '=', ascii '=']).take 22 = head ++ [c20, c21] := by
    rw [show head ++ [c20, c21, ascii '=', ascii '='] = (head ++ [c20, c21]) ++ [ascii '=', ascii '='] by simp]
    exact List.take_left' (by rw [List.length_append, length]; rfl)
  have read := scopeKeyGroups_of_mapM length
  unfold channelPskDecode16 keyBytes
  simp only [shape, if_neg (keyText_guard length), taken, mapM_alphabetIndex nonzero, List.mapM_append]
  cases known : head.mapM base64Value with
  | none =>
    rw [known] at read
    simp [read]
  | some values =>
    rw [known] at read
    obtain ⟨size, bytes, decoded, folded⟩ := read
    rw [decoded]
    cases valueA : base64Value c20 with
    | none => simp [valueA]
    | some a =>
      cases valueB : base64Value c21 with
      | none => simp [valueA, valueB]
      | some b =>
        have exactA := value_toNat valueA
        have exactB := value_toNat valueB
        have fifteen := (scopeKeyGroups_sound length decoded []).1
        have pair := accumulateBits_pair exactA.1 exactB.1 (show bytes.length < 16 by omega)
        rw [exactA.2, exactB.2] at pair
        have whole : (values ++ [a, b]).map UInt8.ofNat = values.map UInt8.ofNat ++ [UInt8.ofNat a, UInt8.ofNat b] := by
          simp
        have last : ((values ++ [a, b]).map UInt8.ofNat).getD 21 0 = UInt8.ofNat b := by
          rw [whole, List.getD_append_right _ _ _ _ (by rw [List.length_map]; omega), List.length_map, size]
          rfl
        have total : ((values ++ [a, b]).map UInt8.ofNat).foldl accumulateBits (0, 0, []) =
            (UInt32.ofNat (b % 16), 4, bytes ++ [UInt8.ofNat (a * 4 + b / 16)]) := by
          rw [whole, List.foldl_append, folded [] (by decide), List.nil_append, pair]
        have two : [c20, c21].mapM base64Value = some [a, b] := by simp [valueA, valueB]
        simp only [two, Option.bind_eq_bind, Option.bind_some, Option.pure_def, Option.map_some, last, total,
          low_bits_byte]
        by_cases clear : b % 16 = 0
        · have full : (bytes ++ [UInt8.ofNat (a * 4 + b / 16)]).length = 16 := by
            rw [List.length_append, fifteen]
            rfl
          generalize bytes ++ [UInt8.ofNat (a * 4 + b / 16)] = key at full
          simp [clear, full, overwrite_full full]
        · simp [clear]

theorem scopeKeyBase64Decode_shape {encoded : List UInt8} (length : head.length = 4 * 5)
    (shape : terminated encoded = head ++ [c20, c21, ascii '=', ascii '=']) (out : FixedBytes 16) :
    scopeKeyBase64Decode encoded out =
      match keyBytes head c20 c21 with
      | some key => if scopeKeyNonZero key then (true, .ofList 16 key) else (false, out)
      | none => (false, out) := by
  have taken : (head ++ [c20, c21, ascii '=', ascii '=']).take 20 = head := List.take_left' length
  have first : (head ++ [c20, c21, ascii '=', ascii '=']).getD 20 0 = c20 := by
    rw [List.getD_append_right _ _ _ _ (by omega), length]
    rfl
  have second : (head ++ [c20, c21, ascii '=', ascii '=']).getD 21 0 = c21 := by
    rw [List.getD_append_right _ _ _ _ (by omega), length]
    rfl
  unfold scopeKeyBase64Decode keyBytes
  simp only [shape, if_neg (keyText_guard length), taken, first, second, scopeKeyBase64Value]
  cases decoded : scopeKeyGroups head with
  | none => simp
  | some bytes =>
    have fifteen := (scopeKeyGroups_sound length decoded []).1
    cases valueA : base64Value c20 with
    | none => simp
    | some a =>
      cases valueB : base64Value c21 with
      | none => simp
      | some b =>
        have smallB := (base64Value_some valueB).1
        have byte : a <<< 2 ||| b >>> 4 = a * 4 + b / 16 := by
          rw [Nat.shiftRight_eq_div_pow]
          exact shiftLeft_or a _ 2 (by omega)
        have low : b &&& 15 = b % 16 := Nat.and_two_pow_sub_one_eq_mod b 4
        simp only [byte, low, fifteen]
        by_cases clear : b % 16 = 0
        · simp [clear]
        · simp [clear]

theorem keyText_cases (text : List UInt8) :
    (text.length ≠ 24 ∨ text.getD 22 0 ≠ ascii '=' ∨ text.getD 23 0 ≠ ascii '=') ∨
      ∃ head c20 c21, head.length = 4 * 5 ∧ text = head ++ [c20, c21, ascii '=', ascii '='] := by
  by_cases refused : text.length ≠ 24 ∨ text.getD 22 0 ≠ ascii '=' ∨ text.getD 23 0 ≠ ascii '='
  · exact .inl refused
  · push Not at refused
    exact .inr (keyText_split refused.1 refused.2.1 refused.2.2)

theorem keyText_of_key {key : List UInt8} (size : key.length = 16) :
    ¬ ((encodeBase64 key).length ≠ 24 ∨ (encodeBase64 key).getD 22 0 ≠ ascii '=' ∨
      (encodeBase64 key).getD 23 0 ≠ ascii '=') := by
  obtain ⟨front, last, fifteen, rfl⟩ := key_split size
  rw [encodeBase64_key fifteen]
  exact keyText_guard (by rw [length_encodeBase64, fifteen])

theorem keyBytes_eq_some_iff {key : List UInt8} (length : head.length = 4 * 5) :
    keyBytes head c20 c21 = some key ↔
      encodeBase64 key = head ++ [c20, c21, ascii '=', ascii '='] ∧ key.length = 16 :=
  ⟨fun known => (keyBytes_some length known).symm, fun ⟨encoded, size⟩ => keyBytes_of_encodeBase64 length size encoded⟩

theorem scopeKeyNonZero_iff (key : List UInt8) : scopeKeyNonZero key = true ↔ ∃ byte ∈ key, byte ≠ 0 := by
  have combined (start : UInt8) : key.foldl (· ||| ·) start = 0 ↔ start = 0 ∧ ∀ byte ∈ key, byte = 0 := by
    induction key generalizing start with
    | nil => simp
    | cons byte rest ih => rw [List.foldl_cons, ih, UInt8.or_eq_zero_iff, List.forall_mem_cons, and_assoc]
  rw [scopeKeyNonZero, bne_iff_ne, ne_eq, combined 0]
  simp

variable {encoded : List UInt8} {out key : FixedBytes 16}

theorem channelPskDecode16_eq_true_iff :
    channelPskDecode16 encoded out = (true, key) ↔ encodeBase64 key.bytes = terminated encoded := by
  rcases keyText_cases (terminated encoded) with refused | ⟨head, c20, c21, length, shape⟩
  · simp only [channelPskDecode16, if_pos refused, Prod.mk.injEq, Bool.false_eq_true, false_and, false_iff]
    intro same
    exact keyText_of_key key.length_eq (same ▸ refused)
  · rw [channelPskDecode16_shape length shape, shape]
    constructor
    · intro accepted
      split at accepted
      · next bytes known =>
        obtain ⟨encodes, size⟩ := (keyBytes_eq_some_iff length).mp known
        cases accepted
        rw [FixedBytes.ofList_of_length size, encodes]
      · cases accepted
    · intro encodes
      rw [(keyBytes_eq_some_iff length).mpr ⟨encodes, key.length_eq⟩]
      exact congrArg (true, ·) (FixedBytes.ext (FixedBytes.ofList_of_length key.length_eq))

theorem scopeKeyBase64Decode_eq_true_iff :
    scopeKeyBase64Decode encoded out = (true, key) ↔
      encodeBase64 key.bytes = terminated encoded ∧ ∃ byte ∈ key.bytes, byte ≠ 0 := by
  rcases keyText_cases (terminated encoded) with refused | ⟨head, c20, c21, length, shape⟩
  · simp only [scopeKeyBase64Decode, if_pos refused, Prod.mk.injEq, Bool.false_eq_true, false_and, false_iff]
    rintro ⟨same, -⟩
    exact keyText_of_key key.length_eq (same ▸ refused)
  · rw [scopeKeyBase64Decode_shape length shape, shape]
    constructor
    · intro accepted
      split at accepted
      · next bytes known =>
        split at accepted
        · next nonzero =>
          obtain ⟨encodes, size⟩ := (keyBytes_eq_some_iff length).mp known
          cases accepted
          rw [FixedBytes.ofList_of_length size]
          exact ⟨encodes, (scopeKeyNonZero_iff bytes).mp nonzero⟩
        · cases accepted
      · cases accepted
    · rintro ⟨encodes, nonzero⟩
      rw [(keyBytes_eq_some_iff length).mpr ⟨encodes, key.length_eq⟩]
      simp only [(scopeKeyNonZero_iff key.bytes).mpr nonzero, ↓reduceIte]
      exact congrArg (true, ·) (FixedBytes.ext (FixedBytes.ofList_of_length key.length_eq))

theorem channelPskDecode16_unchanged (failed : (channelPskDecode16 encoded out).1 = false) :
    (channelPskDecode16 encoded out).2 = out := by
  rcases keyText_cases (terminated encoded) with refused | ⟨head, c20, c21, length, shape⟩
  · simp only [channelPskDecode16, if_pos refused]
  · rw [channelPskDecode16_shape length shape] at failed ⊢
    split at failed
    · cases failed
    · rfl

theorem scopeKeyBase64Decode_unchanged (failed : (scopeKeyBase64Decode encoded out).1 = false) :
    (scopeKeyBase64Decode encoded out).2 = out := by
  rcases keyText_cases (terminated encoded) with refused | ⟨head, c20, c21, length, shape⟩
  · simp only [scopeKeyBase64Decode, if_pos refused]
  · rw [scopeKeyBase64Decode_shape length shape] at failed ⊢
    split at failed
    · split at failed
      · cases failed
      · next zero => rw [if_neg zero]
    · rfl

theorem decodeBase64Strict_eq_true_iff {outputCap : Nat} (room : 16 ≤ outputCap) :
    decodeBase64Strict (terminated encoded) outputCap = (true, key.bytes) ↔
      encodeBase64 key.bytes = terminated encoded := by
  constructor
  · exact encodeBase64_of_decodeBase64Strict
  · intro encodes
    have nonempty : key.bytes ≠ [] := List.ne_nil_of_length_pos (by rw [key.length_eq]; decide)
    rw [← encodes]
    exact decodeBase64Strict_encodeBase64 nonempty (key.length_eq.trans_le room)

end Keys

/-- The encoder and the three decoders describe one set of texts. -/
theorem base64_codecs_agree :
    (∀ bytes outputCap, bytes ≠ [] → bytes.length ≤ outputCap →
      decodeBase64Strict (encodeBase64 bytes) outputCap = (true, bytes)) ∧
    (∀ input outputCap bytes, decodeBase64Strict input outputCap = (true, bytes) → encodeBase64 bytes = input) ∧
    (∀ (encoded : List UInt8) (out key : FixedBytes 16) (outputCap : Nat), 16 ≤ outputCap →
      (channelPskDecode16 encoded out = (true, key) ↔
        decodeBase64Strict (terminated encoded) outputCap = (true, key.bytes))) ∧
    (∀ (encoded : List UInt8) (out key : FixedBytes 16) (outputCap : Nat), 16 ≤ outputCap →
      (scopeKeyBase64Decode encoded out = (true, key) ↔
        decodeBase64Strict (terminated encoded) outputCap = (true, key.bytes) ∧ ∃ byte ∈ key.bytes, byte ≠ 0)) ∧
    (∀ encoded out, (channelPskDecode16 encoded out).1 = false → (channelPskDecode16 encoded out).2 = out) ∧
    (∀ encoded out, (scopeKeyBase64Decode encoded out).1 = false → (scopeKeyBase64Decode encoded out).2 = out) := by
  refine ⟨?_, ?_, ?_, ?_, ?_, ?_⟩
  · intro bytes outputCap nonempty room
    exact decodeBase64Strict_encodeBase64 nonempty room
  · intro input outputCap bytes accepted
    exact encodeBase64_of_decodeBase64Strict accepted
  · intro encoded out key outputCap room
    rw [channelPskDecode16_eq_true_iff, decodeBase64Strict_eq_true_iff room]
  · intro encoded out key outputCap room
    rw [scopeKeyBase64Decode_eq_true_iff, decodeBase64Strict_eq_true_iff room]
  · intro encoded out failed
    exact channelPskDecode16_unchanged failed
  · intro encoded out failed
    exact scopeKeyBase64Decode_unchanged failed

end SigurdOS.Mesh
