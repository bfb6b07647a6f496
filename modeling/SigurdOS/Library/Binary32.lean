import SigurdOS.Bytes.LittleEndian

structure Binary32 where
  bits : UInt32
  deriving DecidableEq

namespace Binary32

open Bytes

def exponent (datum : Binary32) : Nat := datum.bits.toNat / 2 ^ 23 % 2 ^ 8

def fraction (datum : Binary32) : Nat := datum.bits.toNat % 2 ^ 23

def isFinite (datum : Binary32) : Bool := datum.exponent != 255

def units (datum : Binary32) : Int :=
  let magnitude : Nat :=
    if datum.exponent = 0 then datum.fraction else (2 ^ 23 + datum.fraction) * 2 ^ (datum.exponent - 1)
  if datum.bits.toNat < 2 ^ 31 then magnitude else -magnitude

def less (left right : Binary32) : Bool := left.units < right.units

/-- The datum nearest to a positive quotient below `2 ^ 24`, ties to even. -/
def ofQuotient (numerator denominator : Nat) : Binary32 :=
  if numerator = 0 then ⟨0⟩ else
    let wide := 24 + denominator.log2 - numerator.log2
    let shift := if numerator * 2 ^ wide / denominator < 2 ^ 24 then wide else wide - 1
    let scaled := numerator * 2 ^ shift
    let below := scaled / denominator
    let up := denominator < 2 * (scaled % denominator) ∨ denominator = 2 * (scaled % denominator) ∧ below % 2 = 1
    let rounded := if up then below + 1 else below
    ⟨.ofNat ((150 - shift) * 2 ^ 23 + (rounded - 2 ^ 23))⟩

example : ofQuotient 78 10 = ⟨0x40F9999A⟩ ∧ ofQuotient 2 100 = ⟨0x3CA3D70A⟩ ∧ ofQuotient 960 1 = ⟨0x44700000⟩ := by
  decide +kernel

def toBytes (datum : Binary32) : List UInt8 := leBytes 4 datum.bits.toNat

def ofBytes (bytes : List UInt8) : Binary32 := ⟨.ofNat (leNumber bytes)⟩

@[simp] theorem length_toBytes (datum : Binary32) : datum.toBytes.length = 4 := length_leBytes _ _

@[simp] theorem ofBytes_toBytes (datum : Binary32) : ofBytes datum.toBytes = datum := by
  rw [ofBytes, toBytes, leNumber_leBytes_of_lt datum.bits.toNat_lt]
  exact congrArg mk (UInt32.ofNat_toNat)

end Binary32
