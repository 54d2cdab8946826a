/-
The slice of C++ arithmetic the driver is written in.

A development about frames, queues and exchanges does not care what a `double`
is, and one about quantisation needs it to be an ordered field. So the code is
modelled over an arbitrary type `D` carrying the operations it uses and no law:
every theorem that does not mention an ordered field holds of IEEE doubles with
their NaNs and infinities as much as of the reals. `Lib/FixedPoint.lean`
instantiates these operations in any ordered field with a floor.

A `float` only ever crosses the wire by `std::memcpy`, so it is modelled as the
four bytes of its object representation; what number those bytes stand for is
the business of the two conversions of `FloatConv`.
-/
import Mathlib

set_option autoImplicit false

namespace CppArith

/-- A `float`, as the four bytes `std::memcpy` copies. -/
structure F32 where
  bytes : Vector UInt8 4
deriving DecidableEq, Repr

/-- `0.0F`. -/
def F32.zero : F32 := ⟨Vector.replicate 4 0⟩

/-- A number as a `long` of 64 bits. The language leaves open what `std::lround` returns
when the rounded number does not fit; this is what x86-64 makes of it, and no result of
this development depends on it. -/
def to_long (n : ℤ) : ℤ := if -2 ^ 63 ≤ n ∧ n < 2 ^ 63 then n else -2 ^ 63

/-- A number that fits sixty-four bits is converted to itself. -/
theorem to_long_of_mem {n : ℤ} (hlo : -2 ^ 63 ≤ n) (hhi : n < 2 ^ 63) : to_long n = n :=
  if_pos ⟨hlo, hhi⟩

/-- The two functions of `<cmath>` that are used. -/
class DoubleMath (D : Type*) where
  /-- `std::lround`: round to nearest, halves away from zero, as a `long`. -/
  lround : D → ℤ
  /-- `std::remainder`: the IEEE remainder. -/
  remainder : D → D → D

/-- The two conversions between `double` and `float`. -/
class FloatConv (D : Type*) where
  /-- `static_cast<float>`. -/
  toFloat : D → F32
  /-- `static_cast<double>`. -/
  toDouble : F32 → D

/-- `std::clamp`, with the comparisons in the library's order. -/
def clamp {D : Type*} [LT D] [DecidableLT D] (x lo hi : D) : D :=
  if x < lo then lo else if hi < x then hi else x

end CppArith
