/-!
# Floating-point numbers

A binary64 number is held by its bits, so that two of them can be told apart however they compare.

* `Binary64`: the 64 bits;
* `Binary64.same`: numeric equality, by which no NaN equals anything and the two zeros are equal;
* `Binary64.Magnitude`, `Binary64.magnitude?`: the exact size of a finite number.
-/

namespace StructuralAdapters

/-- A binary64 number, by its bits: sign, eleven bits of exponent, fifty-two of fraction. -/
structure Binary64 where
  bits : UInt64
  deriving DecidableEq

namespace Binary64

/-- Positive zero. -/
def zero : Binary64 := ⟨0⟩

/-- Whether the sign bit is set. -/
def isNegative (x : Binary64) : Bool := x.bits >>> 63 == 1

/-- The exponent field. -/
def exponentField (x : Binary64) : Nat := ((x.bits >>> 52) &&& 0x7ff).toNat

/-- The fraction field. -/
def fraction (x : Binary64) : Nat := (x.bits &&& 0xfffffffffffff).toNat

/-- Whether the number is not a number. -/
def isNaN (x : Binary64) : Bool := x.exponentField == 0x7ff && x.fraction != 0

/-- Whether the number is infinite. -/
def isInfinite (x : Binary64) : Bool := x.exponentField == 0x7ff && x.fraction == 0

/-- Whether the number is one of the two zeros. -/
def isZero (x : Binary64) : Bool := x.exponentField == 0 && x.fraction == 0

/-- Numeric equality. -/
def same (x y : Binary64) : Bool :=
  !x.isNaN && !y.isNaN && (x.bits == y.bits || (x.isZero && y.isZero))

/-- The size of a finite number: `significand * 2 ^ exponent`. -/
structure Magnitude where
  significand : Nat
  exponent : Int
  /-- The gap to the next smaller number is half the gap to the next larger one. -/
  narrowBelow : Bool

/-- The exact size of a number, unless it is infinite or not a number. -/
def magnitude? (x : Binary64) : Option Magnitude :=
  if x.exponentField = 0x7ff then none
  else if x.exponentField = 0 then some ⟨x.fraction, -1074, false⟩
  else some ⟨0x10000000000000 + x.fraction, x.exponentField - 1075,
    x.fraction == 0 && decide (1 < x.exponentField)⟩

end Binary64

end StructuralAdapters
