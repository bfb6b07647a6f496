import Mathlib.Data.Nat.Bitwise
import SigurdOS.Bytes.LittleEndian

namespace SigurdOS.Mesh

open Bytes

def maxTelemetryItems : Nat := 12

inductive LppType
  | digitalInput | digitalOutput | presence | relativeHumidity | percentage | switch
  | analogInput | analogOutput | luminosity | temperature | barometricPressure | voltage | current | altitude
  | concentration | power | direction
  | colour
  | genericSensor | frequency | distance | energy | unixtime
  | accelerometer | gyrometer
  | gps
  | polyline
  deriving DecidableEq

/-- The constants of the container library: the code of each type, no two alike, and the units of the values. -/
structure LppLibrary where
  code : LppType → UInt8
  code_injective : Function.Injective code
  voltageMult : UInt32
  temperatureMult : UInt32
  relativeHumidityMult : UInt32
  barometricPressureMult : UInt32
  gpsLatLonMult : UInt32
  gpsAltMult : UInt32
  currentMult : UInt32

structure Reading where
  scaled : Int
  multiplier : UInt32
  deriving DecidableEq

inductive ValueStr
  | empty
  | formatted (format : String) (arguments : List Reading)
  | typeNumber (type : UInt8)
  deriving DecidableEq

structure TelemetryItem where
  channel : UInt8
  type : UInt8
  valueFloat : Reading
  valueStr : ValueStr
  deriving DecidableEq

structure TelemetryResult where
  items : List TelemetryItem
  fits : items.length ≤ maxTelemetryItems

section Parser

variable (lpp : LppLibrary)

def fixedValueSize (type : UInt8) : Option Nat :=
  if type ∈ [.digitalInput, .digitalOutput, .presence, .relativeHumidity, .percentage, .switch].map lpp.code then some 1
  else if type ∈ [.analogInput, .analogOutput, .luminosity, .temperature, .barometricPressure, .voltage, .current,
      .altitude, .concentration, .power, .direction].map lpp.code then some 2
  else if type ∈ [LppType.colour].map lpp.code then some 3
  else if type ∈ [.genericSensor, .frequency, .distance, .energy, .unixtime].map lpp.code then some 4
  else if type ∈ [LppType.accelerometer, .gyrometer].map lpp.code then some 6
  else if type ∈ [LppType.gps].map lpp.code then some 9
  else none

/-- The inner option is the source's answer; the outer one is `none` where it reads past the data. -/
def encodedValueSize (type : UInt8) (value : List UInt8) (remaining : Nat) : Option (Option Nat) :=
  match fixedValueSize lpp type with
  | some size => some (some size)
  | none =>
    if type ≠ lpp.code .polyline ∨ remaining < 1 then some none
    else do
      let declared ← value[0]?
      if declared < 8 then some none else some (some declared.toNat)

def readUnsigned (value : List UInt8) : Nat → Option UInt32
  | 0 => some 0
  | size + 1 => do
    let decoded ← readUnsigned value size
    let byte ← value[size]?
    some (decoded <<< 8 ||| byte.toUInt32)

def readFloat (value : List UInt8) (size : Nat) (multiplier : UInt32) (isSigned : Bool) : Option Reading := do
  let decoded ← readUnsigned value size
  let signBit : UInt64 := 1 <<< UInt64.ofNat (size * 8 - 1)
  if isSigned ∧ decoded.toUInt64 &&& signBit ≠ 0 then
    some ⟨decoded.toNat - (signBit <<< 1).toNat, multiplier⟩
  else
    some ⟨decoded.toNat, multiplier⟩

def formatItem (item : TelemetryItem) (value : List UInt8) : Option TelemetryItem :=
  if item.type = lpp.code .voltage then do
    let volts ← readFloat value 2 lpp.voltageMult false
    some { item with valueFloat := volts, valueStr := .formatted "%.2fV" [volts] }
  else if item.type = lpp.code .temperature then do
    let degrees ← readFloat value 2 lpp.temperatureMult true
    some { item with valueFloat := degrees, valueStr := .formatted "%.1fC" [degrees] }
  else if item.type = lpp.code .relativeHumidity then do
    let percent ← readFloat value 1 lpp.relativeHumidityMult false
    some { item with valueFloat := percent, valueStr := .formatted "%.0f%%" [percent] }
  else if item.type = lpp.code .barometricPressure then do
    let pressure ← readFloat value 2 lpp.barometricPressureMult false
    some { item with valueFloat := pressure, valueStr := .formatted "%.1f hPa" [pressure] }
  else if item.type = lpp.code .gps then do
    let latitude ← readFloat value 3 lpp.gpsLatLonMult true
    let longitude ← readFloat (value.drop 3) 3 lpp.gpsLatLonMult true
    let altitude ← readFloat (value.drop 6) 3 lpp.gpsAltMult true
    some { item with
      valueFloat := latitude, valueStr := .formatted "%.4f, %.4f %.0fm" [latitude, longitude, altitude] }
  else if item.type = lpp.code .current then do
    let amperes ← readFloat value 2 lpp.currentMult true
    some { item with valueFloat := amperes, valueStr := .formatted "%.3fA" [amperes] }
  else
    some { item with valueStr := .typeNumber item.type }

/-- An item of the zeroed result with its two first bytes set. -/
def TelemetryItem.started (channel type : UInt8) : TelemetryItem := ⟨channel, type, ⟨0, 1⟩, .empty⟩

/-- The loop of `parseTelemetryLpp`: the outer option is `none` where it reads past the data or does not end
    within the fuel, the inner one where it refuses. -/
def parseItems (data : List UInt8) : Nat → Nat → TelemetryResult → Option (Option TelemetryResult)
  | 0, _, _ => none
  | fuel + 1, offset, parsed =>
    if offset < data.length then
      if full : data.length - offset < 2 ∨ parsed.items.length ≥ maxTelemetryItems then some none
      else do
        let channel ← data[offset]?
        let type ← data[offset + 1]?
        if channel = 0 then some none
        else
          let remaining := data.length - (offset + 2)
          match ← encodedValueSize lpp type (data.drop (offset + 2)) remaining with
          | none => some none
          | some valueSize =>
            if valueSize > remaining then some none
            else do
              let item ← formatItem lpp (.started channel type) (data.drop (offset + 2))
              parseItems data fuel (offset + 2 + valueSize)
                ⟨parsed.items ++ [item], by simp only [List.length_append, List.length_singleton]; omega⟩
    else some (some parsed)

/-- Whether the data is accepted, and the result that the caller then holds. -/
def parseTelemetryLpp (data : List UInt8) (out : TelemetryResult) : Option (Bool × TelemetryResult) := do
  match ← parseItems lpp data (data.length + 1) 0 ⟨[], Nat.zero_le _⟩ with
  | none => some (false, out)
  | some parsed => some (true, parsed)

end Parser

section Values

/-- The number that the bytes spell, the first one highest, in two's complement where signed. -/
def wireNumber (isSigned : Bool) (value : List UInt8) : Int :=
  if isSigned ∧ 256 ^ value.length ≤ 2 * leNumber value.reverse then
    leNumber value.reverse - (256 ^ value.length : Nat)
  else leNumber value.reverse

variable {value : List UInt8} {size : Nat}

theorem leNumber_reverse_take (inside : size < value.length) :
    leNumber (value.take (size + 1)).reverse = leNumber (value.take size).reverse * 256 + value[size].toNat := by
  rw [List.take_succ_eq_append_getElem inside, List.reverse_append]
  simp only [List.reverse_singleton, List.singleton_append, leNumber]
  omega

theorem leNumber_take_lt (value : List UInt8) (size : Nat) : leNumber (value.take size).reverse < 256 ^ size := by
  have bound := leNumber_lt (value.take size).reverse
  have least : 256 ^ (value.take size).length ≤ 256 ^ size :=
    Nat.pow_le_pow_right (by decide) (by simp only [List.length_take]; omega)
  rw [List.length_reverse] at bound
  omega

theorem shift_or_byte {decoded : UInt32} (byte : UInt8) (bound : decoded.toNat < 2 ^ 24) :
    (decoded <<< 8 ||| byte.toUInt32).toNat = decoded.toNat * 256 + byte.toNat := by
  have small := byte.toNat_lt
  have shifted : (decoded <<< 8).toNat = decoded.toNat <<< 8 := by
    rw [UInt32.toNat_shiftLeft, Nat.shiftLeft_eq]
    have exponent : (8 : UInt32).toNat % 32 = 8 := rfl
    rw [exponent, Nat.mod_eq_of_lt (by omega), Nat.shiftLeft_eq]
  rw [UInt32.toNat_or, shifted, UInt8.toNat_toUInt32, ← Nat.shiftLeft_add_eq_or_of_lt (by omega), Nat.shiftLeft_eq]

theorem readUnsigned_eq (inside : size ≤ value.length) (narrow : size ≤ 4) :
    ∃ decoded, readUnsigned value size = some decoded ∧ decoded.toNat = leNumber (value.take size).reverse := by
  induction size with
  | zero => exact ⟨0, rfl, rfl⟩
  | succ size ih =>
    obtain ⟨decoded, read, number⟩ := ih (by omega) (by omega)
    have bound := leNumber_take_lt value size
    have width : 256 ^ size ≤ 256 ^ 3 := Nat.pow_le_pow_right (by decide) (by omega)
    refine ⟨decoded <<< 8 ||| value[size].toUInt32, ?_, ?_⟩
    · simp [readUnsigned, read, List.getElem?_eq_getElem (show size < value.length from inside)]
    · rw [shift_or_byte _ (by omega), number, leNumber_reverse_take]

theorem sign_bit (decoded : UInt32) (signed : size = 1 ∨ size = 2 ∨ size = 3) (bound : decoded.toNat < 256 ^ size) :
    (decoded.toUInt64 &&& 1 <<< UInt64.ofNat (size * 8 - 1) ≠ 0 ↔ 256 ^ size ≤ 2 * decoded.toNat) ∧
      (((1 : UInt64) <<< UInt64.ofNat (size * 8 - 1)) <<< 1).toNat = 256 ^ size := by
  have and_eq (bit : Nat) (wide : bit < 64) : (decoded.toUInt64 &&& (1 : UInt64) <<< UInt64.ofNat bit ≠ 0 ↔
      decoded.toNat / 2 ^ bit % 2 = 1) := by
    have shifted : ((1 : UInt64) <<< UInt64.ofNat bit).toNat = 2 ^ bit := by
      have small : 2 ^ bit < 2 ^ 64 := Nat.pow_lt_pow_right (by decide) wide
      rw [UInt64.toNat_shiftLeft, UInt64.toNat_ofNat_of_lt' (by simp only [UInt64.size]; omega),
        Nat.mod_eq_of_lt wide, Nat.shiftLeft_eq]
      simpa using Nat.mod_eq_of_lt small
    rw [Ne, ← UInt64.toNat_inj, UInt64.toNat_and, shifted, UInt32.toNat_toUInt64, Nat.and_two_pow,
      Nat.testBit_eq_decide_div_mod_eq]
    by_cases odd : decoded.toNat / 2 ^ bit % 2 = 1 <;> simp [odd]
  rcases signed with rfl | rfl | rfl
  · refine ⟨(and_eq 7 (by omega)).trans ?_, by decide⟩
    omega
  · refine ⟨(and_eq 15 (by omega)).trans ?_, by decide⟩
    omega
  · refine ⟨(and_eq 23 (by omega)).trans ?_, by decide⟩
    omega

theorem readFloat_eq (inside : size ≤ value.length) (narrow : size = 1 ∨ size = 2 ∨ size = 3)
    (multiplier : UInt32) (isSigned : Bool) :
    readFloat value size multiplier isSigned = some ⟨wireNumber isSigned (value.take size), multiplier⟩ := by
  obtain ⟨decoded, read, number⟩ := readUnsigned_eq inside (by omega)
  have bound := leNumber_take_lt value size
  obtain ⟨negative, width⟩ := sign_bit decoded narrow (by omega)
  have length : (value.take size).length = size := by simp only [List.length_take]; omega
  rw [number] at negative
  simp only [readFloat, read, Option.bind_eq_bind, Option.bind_some, negative, width, number, wireNumber, length]
  split
  · rfl
  · rfl

end Values

/-- The size of every value of a type, `none` where the value gives its own. -/
def LppType.fixedSize : LppType → Option Nat
  | digitalInput | digitalOutput | presence | relativeHumidity | percentage | switch => some 1
  | analogInput | analogOutput | luminosity | temperature | barometricPressure | voltage | current | altitude
  | concentration | power | direction => some 2
  | colour => some 3
  | genericSensor | frequency | distance | energy | unixtime => some 4
  | accelerometer | gyrometer => some 6
  | gps => some 9
  | polyline => none

def LppType.signed : LppType → Option Bool
  | voltage | relativeHumidity | barometricPressure => some false
  | temperature | current => some true
  | _ => none

def LppType.Sized (kind : LppType) (value : List UInt8) : Prop :=
  match kind.fixedSize with
  | some size => value.length = size
  | none => ∃ declared, value[0]? = some declared ∧ 8 ≤ declared.toNat ∧ value.length = declared.toNat

structure LppItem where
  channel : UInt8
  kind : LppType
  value : List UInt8
  channel_ne : channel ≠ 0
  sized : kind.Sized value

section Grammar

variable (lpp : LppLibrary) {kind : LppType} {value rest : List UInt8}

def LppItem.bytes (item : LppItem) : List UInt8 := item.channel :: lpp.code item.kind :: item.value

structure LppItem.Lists (item : LppItem) (listed : TelemetryItem) : Prop where
  channel : listed.channel = item.channel
  type : listed.type = lpp.code item.kind
  number : ∀ isSigned, item.kind.signed = some isSigned →
    listed.valueFloat.scaled = wireNumber isSigned item.value

theorem fixedValueSize_code (kind : LppType) : fixedValueSize lpp (lpp.code kind) = kind.fixedSize := by
  simp only [fixedValueSize, List.mem_map_of_injective lpp.code_injective]
  cases kind <;> rfl

theorem fixedValueSize_unknown {type : UInt8} (unknown : ∀ kind, lpp.code kind ≠ type) :
    fixedValueSize lpp type = none := by
  have absent (kinds : List LppType) : type ∉ kinds.map lpp.code := by simp [unknown]
  simp only [fixedValueSize, absent, if_false]

theorem encodedValueSize_unknown {type : UInt8} (unknown : ∀ kind, lpp.code kind ≠ type) (remaining : Nat) :
    encodedValueSize lpp type value remaining = some none := by
  simp [encodedValueSize, fixedValueSize_unknown lpp unknown, (unknown .polyline).symm]

theorem encodedValueSize_sized (sized : kind.Sized value) :
    encodedValueSize lpp (lpp.code kind) (value ++ rest) (value ++ rest).length = some (some value.length) := by
  unfold LppType.Sized at sized
  unfold encodedValueSize
  rw [fixedValueSize_code]
  cases size : kind.fixedSize with
  | some size =>
    simp only [size] at sized
    simp only [sized]
  | none =>
    simp only [size] at sized
    obtain ⟨declared, first, least, length⟩ := sized
    have polyline : kind = .polyline := by
      cases kind <;> first | rfl | simp [LppType.fixedSize] at size
    have large : ¬ declared < 8 := by
      rw [UInt8.lt_iff_toNat_lt]
      exact Nat.not_lt.2 least
    have nonempty : ¬ (lpp.code .polyline ≠ lpp.code .polyline ∨ (value ++ rest).length < 1) := by
      simp only [ne_eq, not_true_eq_false, false_or, List.length_append]
      omega
    have read : (value ++ rest)[0]? = some declared := by
      rw [List.getElem?_append_left (by omega), first]
    subst polyline
    simp only [nonempty, if_false, read, Option.bind_eq_bind, Option.bind_some, large, length]

theorem encodedValueSize_code (kind : LppType) (bytes : List UInt8) :
    encodedValueSize lpp (lpp.code kind) bytes bytes.length = some none ∨
      ∃ size, encodedValueSize lpp (lpp.code kind) bytes bytes.length = some (some size) ∧
        (size ≤ bytes.length → kind.Sized (bytes.take size)) := by
  unfold encodedValueSize LppType.Sized
  rw [fixedValueSize_code]
  cases fixed : kind.fixedSize with
  | some size => exact Or.inr ⟨size, rfl, fun inside => by simp only [List.length_take]; omega⟩
  | none =>
    by_cases refused : lpp.code kind ≠ lpp.code .polyline ∨ bytes.length < 1
    · exact Or.inl (by simp only [refused, if_true])
    · obtain ⟨declared, read⟩ : ∃ declared, bytes[0]? = some declared :=
        ⟨bytes[0], List.getElem?_eq_getElem (by omega)⟩
      by_cases small : declared < 8
      · exact Or.inl (by simp only [refused, if_false, read, Option.bind_eq_bind, Option.bind_some, small, if_true])
      · refine Or.inr ⟨declared.toNat, ?_, fun inside => ?_⟩
        · simp only [refused, if_false, read, Option.bind_eq_bind, Option.bind_some, small]
        have least : 8 ≤ declared.toNat := by
          rw [UInt8.lt_iff_toNat_lt] at small
          exact Nat.not_lt.1 small
        refine ⟨declared, ?_, least, by simp only [List.length_take]; omega⟩
        rw [List.getElem?_take_of_lt (by omega), read]

theorem formatItem_lists (channel : UInt8) (kind : LppType) (rest : List UInt8) {size : Nat}
    (fixed : kind.fixedSize = some size)
    (inside : size ≤ rest.length) : ∃ listed, formatItem lpp (.started channel (lpp.code kind)) rest = some listed ∧
      listed.channel = channel ∧ listed.type = lpp.code kind ∧
      ∀ isSigned, kind.signed = some isSigned → listed.valueFloat.scaled = wireNumber isSigned (rest.take size) := by
  unfold formatItem
  simp only [TelemetryItem.started, lpp.code_injective.eq_iff]
  by_cases position : kind = .gps
  · subst position
    simp only [LppType.fixedSize, Option.some.injEq] at fixed
    have latitude : 3 ≤ rest.length := by omega
    have longitude : 3 ≤ (rest.drop 3).length := by rw [List.length_drop]; omega
    have altitude : 3 ≤ (rest.drop 6).length := by rw [List.length_drop]; omega
    simp [readFloat_eq, latitude, longitude, altitude, LppType.signed, -List.length_drop]
  · cases kind <;> simp only [LppType.fixedSize, Option.some.injEq, reduceCtorEq] at fixed <;> subst fixed <;>
      first | exact absurd rfl position | simp [readFloat_eq, LppType.signed, inside]

theorem LppType.polyline_of {kind : LppType} (own : kind.fixedSize = none) : kind = .polyline := by
  cases kind <;> first | rfl | simp [fixedSize] at own

theorem formatItem_sized (item : LppItem) (rest : List UInt8) :
    ∃ listed, formatItem lpp (.started item.channel (lpp.code item.kind)) (item.value ++ rest) = some listed ∧
      item.Lists lpp listed := by
  have sized := item.sized
  unfold LppType.Sized at sized
  cases fixed : item.kind.fixedSize with
  | some size =>
    simp only [fixed] at sized
    obtain ⟨listed, formatted, channel, type, number⟩ := formatItem_lists lpp item.channel item.kind
      (item.value ++ rest) fixed (by rw [List.length_append]; omega)
    rw [List.take_left' sized] at number
    exact ⟨listed, formatted, channel, type, number⟩
  | none =>
    have polyline := LppType.polyline_of fixed
    refine ⟨{ TelemetryItem.started item.channel (lpp.code item.kind) with
      valueStr := .typeNumber (lpp.code item.kind) }, ?_, rfl, rfl, by simp [polyline, LppType.signed]⟩
    simp [formatItem, TelemetryItem.started, polyline, lpp.code_injective.eq_iff]

end Grammar

section Loop

variable (lpp : LppLibrary) {data before : List UInt8}

theorem parseItems_end (fuel : Nat) (parsed : TelemetryResult) :
    parseItems lpp data (fuel + 1) data.length parsed = some (some parsed) := by
  simp only [parseItems, Nat.lt_irrefl, if_false]

theorem parseItems_item (item : LppItem) (rest : List UInt8) (fuel : Nat) (parsed : TelemetryResult)
    (whole : data = before ++ (item.bytes lpp ++ rest)) (room : parsed.items.length < maxTelemetryItems) :
    ∃ (listed : TelemetryItem) (next : TelemetryResult), item.Lists lpp listed ∧
      next.items = parsed.items ++ [listed] ∧
      parseItems lpp data (fuel + 1) before.length parsed =
        parseItems lpp data fuel (before ++ item.bytes lpp).length next := by
  obtain ⟨listed, formatted, lists⟩ := formatItem_sized lpp item rest
  have length : data.length = before.length + 2 + (item.value ++ rest).length := by
    rw [whole]
    simp only [LppItem.bytes, List.length_append, List.length_cons]
    omega
  have channel : data[before.length]? = some item.channel := by
    rw [whole, List.getElem?_append_right (Nat.le_refl _)]
    simp [LppItem.bytes]
  have type : data[before.length + 1]? = some (lpp.code item.kind) := by
    rw [whole, List.getElem?_append_right (by omega)]
    simp [LppItem.bytes]
  have value : data.drop (before.length + 2) = item.value ++ rest := by
    rw [whole, List.drop_append]
    simp [LppItem.bytes]
  have remaining : data.length - (before.length + 2) = (item.value ++ rest).length := by omega
  have space : ¬ (data.length - before.length < 2 ∨ parsed.items.length ≥ maxTelemetryItems) := by omega
  have within : ¬ item.value.length > (item.value ++ rest).length := by
    rw [List.length_append]
    omega
  have more : before.length < data.length := by omega
  refine ⟨listed, ⟨parsed.items ++ [listed], by simp only [List.length_append, List.length_singleton]; omega⟩,
    lists, rfl, ?_⟩
  have offset : (before ++ item.bytes lpp).length = before.length + 2 + item.value.length := by
    simp only [LppItem.bytes, List.length_append, List.length_cons]
    omega
  rw [offset, parseItems]
  simp only [more, if_true, space, dif_neg, not_false_eq_true, channel, type, Option.bind_eq_bind, Option.bind_some,
    item.channel_ne, if_false, value, remaining, encodedValueSize_sized lpp item.sized, within, formatted]

theorem parseItems_cases (fuel : Nat) (parsed : TelemetryResult) {rest : List UInt8} (whole : data = before ++ rest)
    (more : rest ≠ []) : parseItems lpp data (fuel + 1) before.length parsed = some none ∨
      ∃ (item : LppItem) (remaining : List UInt8), rest = item.bytes lpp ++ remaining ∧
        parsed.items.length < maxTelemetryItems := by
  have length : data.length = before.length + rest.length := by rw [whole, List.length_append]
  have positive : 0 < rest.length := List.length_pos_iff.2 more
  rw [parseItems]
  have less : before.length < data.length := by omega
  simp only [less, if_true]
  by_cases space : data.length - before.length < 2 ∨ parsed.items.length ≥ maxTelemetryItems
  · exact Or.inl (by simp only [space, dif_pos])
  · obtain ⟨channel, type, value, rfl⟩ : ∃ channel type value, rest = channel :: type :: value := by
      match rest with
      | [] => simp at positive
      | [_] => simp at length; omega
      | channel :: type :: value => exact ⟨channel, type, value, rfl⟩
    have first : data[before.length]? = some channel := by simp [whole]
    have second : data[before.length + 1]? = some type := by
      rw [whole, List.getElem?_append_right (by omega)]
      simp
    have dropped : data.drop (before.length + 2) = value := by
      rw [whole, List.drop_append]
      simp
    have remaining : data.length - (before.length + 2) = value.length := by
      simp only [List.length_cons] at length
      omega
    simp only [space, dif_neg, not_false_eq_true, first, second, dropped, remaining, Option.bind_eq_bind,
      Option.bind_some]
    by_cases zero : channel = 0
    · exact Or.inl (by simp only [zero, if_true])
    simp only [zero, if_false]
    by_cases known : ∃ kind, lpp.code kind = type
    · obtain ⟨kind, rfl⟩ := known
      rcases encodedValueSize_code lpp kind value with refused | ⟨size, computed, sized⟩
      · exact Or.inl (by simp only [refused, Option.bind_some])
      · by_cases truncated : size > value.length
        · exact Or.inl (by simp only [computed, Option.bind_some, truncated, if_true])
        · refine Or.inr ⟨⟨channel, kind, value.take size, zero, sized (by omega)⟩, value.drop size, ?_, by omega⟩
          simp [LppItem.bytes]
    · have unknown : ∀ kind, lpp.code kind ≠ type := fun kind same => known ⟨kind, same⟩
      exact Or.inl (by simp only [encodedValueSize_unknown lpp unknown, Option.bind_some])

theorem parseItems_listed (before : List UInt8) (items : List LppItem) (fuel : Nat) (parsed : TelemetryResult)
    (whole : data = before ++ items.flatMap (LppItem.bytes lpp))
    (room : parsed.items.length + items.length ≤ maxTelemetryItems) (enough : items.length < fuel) :
    ∃ (result : TelemetryResult) (listed : List TelemetryItem),
      parseItems lpp data fuel before.length parsed = some (some result) ∧
        result.items = parsed.items ++ listed ∧ List.Forall₂ (LppItem.Lists lpp) items listed := by
  induction items generalizing fuel parsed before with
  | nil =>
    obtain ⟨fuel, rfl⟩ : ∃ fewer, fuel = fewer + 1 := ⟨fuel - 1, by simp only [List.length_nil] at enough; omega⟩
    have finished : data = before := by simpa using whole
    subst finished
    exact ⟨parsed, [], parseItems_end lpp fuel parsed, (List.append_nil _).symm, .nil⟩
  | cons item items ih =>
    simp only [List.length_cons] at room enough
    obtain ⟨fuel, rfl⟩ : ∃ fewer, fuel = fewer + 1 := ⟨fuel - 1, by omega⟩
    rw [List.flatMap_cons] at whole
    obtain ⟨listed, next, lists, held, step⟩ := parseItems_item lpp item _ fuel parsed whole (by omega)
    obtain ⟨result, later, run, grown, rest⟩ := ih (before ++ item.bytes lpp) fuel next
      (by rw [whole, List.append_assoc])
      (by rw [held, List.length_append, List.length_singleton]; omega) (by omega)
    refine ⟨result, listed :: later, step.trans run, ?_, .cons lists rest⟩
    rw [grown, held, List.append_assoc, List.singleton_append]

theorem parseItems_sound (before : List UInt8) (fuel : Nat) (parsed : TelemetryResult) {rest : List UInt8}
    (whole : data = before ++ rest)
    (enough : rest.length < fuel) : parseItems lpp data fuel before.length parsed = some none ∨
      ∃ items : List LppItem, rest = items.flatMap (LppItem.bytes lpp) ∧
        parsed.items.length + items.length ≤ maxTelemetryItems := by
  induction fuel generalizing parsed before rest with
  | zero => exact absurd enough (Nat.not_lt_zero _)
  | succ fuel ih =>
    by_cases empty : rest = []
    · exact Or.inr ⟨[], by rw [empty, List.flatMap_nil], parsed.fits⟩
    rcases parseItems_cases lpp fuel parsed whole empty with refused | ⟨item, remaining, rfl, room⟩
    · exact Or.inl refused
    · obtain ⟨listed, next, -, held, step⟩ := parseItems_item lpp item remaining fuel parsed whole room
      have shorter : remaining.length < fuel := by
        simp only [LppItem.bytes, List.length_append, List.length_cons] at enough
        omega
      rcases ih (before ++ item.bytes lpp) next (by rw [whole, List.append_assoc]) shorter with
        refused | ⟨items, rfl, fits⟩
      · exact Or.inl (step.trans refused)
      · refine Or.inr ⟨item :: items, List.flatMap_cons.symm, ?_⟩
        rw [held, List.length_append, List.length_singleton] at fits
        rw [List.length_cons]
        omega

/-- The strings accepted are the concatenations of at most `maxTelemetryItems` items. -/
def Grammatical (data : List UInt8) (items : List LppItem) : Prop :=
  items.length ≤ maxTelemetryItems ∧ data = items.flatMap (LppItem.bytes lpp)

theorem length_le_bytes (items : List LppItem) : items.length ≤ (items.flatMap (LppItem.bytes lpp)).length := by
  induction items with
  | nil => exact Nat.le_refl _
  | cons item items ih =>
    rw [List.flatMap_cons, List.length_append, List.length_cons]
    simp only [LppItem.bytes, List.length_cons]
    omega

theorem telemetry_parsed (data : List UInt8) (out : TelemetryResult) :
    ∃ accepted result, parseTelemetryLpp lpp data out = some (accepted, result) ∧
      (accepted = true ↔ ∃ items, Grammatical lpp data items) ∧
      (∀ items, Grammatical lpp data items → List.Forall₂ (LppItem.Lists lpp) items result.items) ∧
      (accepted = false → result = out) := by
  have accepts (items : List LppItem) (grammatical : Grammatical lpp data items) :
      ∃ result, parseTelemetryLpp lpp data out = some (true, result) ∧
        List.Forall₂ (LppItem.Lists lpp) items result.items := by
    obtain ⟨few, whole⟩ := grammatical
    have count := length_le_bytes lpp items
    rw [← whole] at count
    obtain ⟨result, listed, run, held, lists⟩ := parseItems_listed lpp [] items (data.length + 1)
      ⟨[], Nat.zero_le _⟩ whole (by simpa using few) (by omega)
    rw [List.nil_append] at held
    rw [List.length_nil] at run
    rw [← held] at lists
    exact ⟨result, by simp only [parseTelemetryLpp, run, Option.bind_eq_bind, Option.bind_some], lists⟩
  by_cases grammatical : ∃ items, Grammatical lpp data items
  · obtain ⟨items, member⟩ := grammatical
    obtain ⟨result, run, -⟩ := accepts items member
    refine ⟨true, result, run, iff_of_true rfl ⟨items, member⟩, ?_, by simp⟩
    intro others also
    obtain ⟨other, again, lists⟩ := accepts others also
    have same : result = other := by simpa [run] using again
    rw [same]
    exact lists
  · refine ⟨false, out, ?_, iff_of_false (by simp) grammatical, ?_, fun _ => rfl⟩
    · rcases parseItems_sound lpp [] (data.length + 1) ⟨[], Nat.zero_le _⟩ (List.nil_append data).symm
        (Nat.lt_succ_self _) with refused | ⟨items, whole, few⟩
      · rw [List.length_nil] at refused
        simp only [parseTelemetryLpp, refused, Option.bind_eq_bind, Option.bind_some]
      · exact absurd ⟨items, by simpa using few, whole⟩ grammatical
    · intro items member
      exact absurd ⟨items, member⟩ grammatical

end Loop

def cayenneCode : LppType → UInt8
  | .digitalInput => 0 | .digitalOutput => 1 | .analogInput => 2 | .analogOutput => 3 | .genericSensor => 100
  | .luminosity => 101 | .presence => 102 | .temperature => 103 | .relativeHumidity => 104 | .accelerometer => 113
  | .barometricPressure => 115 | .voltage => 116 | .current => 117 | .frequency => 118 | .percentage => 120
  | .altitude => 121 | .concentration => 125 | .power => 128 | .distance => 130 | .energy => 131 | .direction => 132
  | .unixtime => 133 | .gyrometer => 134 | .colour => 135 | .gps => 136 | .switch => 142 | .polyline => 240

def typeOf (code : UInt8) : Option LppType :=
  [.digitalInput, .digitalOutput, .presence, .relativeHumidity, .percentage, .switch, .analogInput, .analogOutput,
    .luminosity, .temperature, .barometricPressure, .voltage, .current, .altitude, .concentration, .power, .direction,
    .colour, .genericSensor, .frequency, .distance, .energy, .unixtime, .accelerometer, .gyrometer, .gps,
    .polyline].find? fun kind => cayenneCode kind = code

theorem typeOf_cayenneCode (kind : LppType) : typeOf (cayenneCode kind) = some kind := by
  cases kind <;> rfl

def cayenne : LppLibrary where
  code := cayenneCode
  code_injective kind other same := by
    have found := typeOf_cayenneCode kind
    rw [same, typeOf_cayenneCode other] at found
    exact (Option.some.inj found).symm
  voltageMult := 100
  temperatureMult := 10
  relativeHumidityMult := 2
  barometricPressureMult := 10
  gpsLatLonMult := 10000
  gpsAltMult := 100
  currentMult := 1000

def frost : LppItem := ⟨1, .temperature, [0xFF, 0xFB], by decide, rfl⟩

theorem frost_parsed (out : TelemetryResult) : ∃ accepted result,
    parseTelemetryLpp cayenne [1, 103, 0xFF, 0xFB] out = some (accepted, result) ∧ accepted = true ∧
      result.items.map (fun item => item.valueFloat.scaled) = [-5] := by
  obtain ⟨accepted, result, run, grammar, lists, -⟩ := telemetry_parsed cayenne [1, 103, 0xFF, 0xFB] out
  have grammatical : Grammatical cayenne [1, 103, 0xFF, 0xFB] [frost] := ⟨by decide, by decide⟩
  refine ⟨accepted, result, run, grammar.2 ⟨_, grammatical⟩, ?_⟩
  have listed := lists _ grammatical
  generalize result.items = items at listed
  cases listed with
  | cons frosted finished =>
    cases finished with
    | nil => exact congrArg (fun scaled => [scaled]) (frosted.number true rfl)

end SigurdOS.Mesh
