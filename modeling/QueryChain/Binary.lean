/-
# Binary floating point numbers, kept as bit patterns

A number in one of the two common interchange formats is its pattern of bits, so that every
number, each zero and each not-a-number included, is kept exactly.  Two operations are needed:
comparison as numbers, and widening from 32 to 64 bits.
-/

namespace QueryChain

/-- A number in the 64-bit format. -/
structure Binary64 where
  bits : UInt64
  deriving DecidableEq, Repr

/-- A number in the 32-bit format. -/
structure Binary32 where
  bits : UInt32
  deriving DecidableEq, Repr

/-! ## Comparison -/

/-- A pattern is no number when its exponent is all ones and its fraction is not zero. -/
def Binary64.isNaN (x : Binary64) : Bool :=
  0x7ff0000000000000 < x.bits &&& 0x7fffffffffffffff

/-- Both zeros: everything but the sign bit is clear. -/
def Binary64.isZero (x : Binary64) : Bool :=
  x.bits &&& 0x7fffffffffffffff == 0

/-- Equality of numbers: nothing equals a not-a-number, and the two zeros are equal. -/
def Binary64.equal (x y : Binary64) : Bool :=
  !x.isNaN && !y.isNaN && (x.bits == y.bits || x.isZero && y.isZero)

/-! ## Widening -/

/-- The exponent and fraction, in the wider format, of a nonzero number below the least normal
one: `fraction` counts units of `2 ^ -149`, and its leading bit becomes implicit. -/
def widenSubnormal (fraction : Nat) : Nat :=
  let top := Nat.log2 fraction
  (874 + top) <<< 52 + (fraction - 1 <<< top) <<< (52 - top)

/-- The number itself in the wider format; a not-a-number keeps its payload and becomes quiet. -/
def Binary32.widen (x : Binary32) : Binary64 :=
  let bits := x.bits.toNat
  let exponent := bits >>> 23 % 1 <<< 8
  let fraction := bits % 1 <<< 23
  let magnitude :=
    if exponent = 255 then
      0x7ff <<< 52 + if fraction = 0 then 0 else (fraction % 1 <<< 22) <<< 29 + 1 <<< 51
    else if exponent = 0 then
      if fraction = 0 then 0 else widenSubnormal fraction
    else (exponent + 896) <<< 52 + fraction <<< 29
  ⟨UInt64.ofNat ((bits >>> 31) <<< 63 + magnitude)⟩

end QueryChain
