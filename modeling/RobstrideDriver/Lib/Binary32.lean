/-
The IEEE 754 single-precision format on the rationals.

The conversions `Lib/Double.lean` leaves open, for a `double` that is an exact
rational on a little-endian host: widening reads off the number four bytes stand
for, narrowing rounds to nearest with ties to even. Infinities and NaNs are no
rational and read as zero; a rational too large for the format narrows to the
infinity of its sign.
-/
import RobstrideDriver.Lib.FixedPoint

set_option autoImplicit false

namespace Binary32

open CppArith

/-- The bit pattern of a `float`. -/
def bits (f : F32) : ℕ :=
  f.bytes.toList.foldr (fun byte n => byte.toNat + 2 ^ 8 * n) 0

/-- The `float` of a bit pattern. -/
def ofBits (n : ℕ) : F32 :=
  ⟨#v[UInt8.ofNat n, UInt8.ofNat (n / 2 ^ 8), UInt8.ofNat (n / 2 ^ 16), UInt8.ofNat (n / 2 ^ 24)]⟩

/-- `2 ^ e`. -/
def pow2 (e : ℤ) : ℚ := if 0 ≤ e then (2 ^ e.toNat : ℕ) else 1 / ((2 ^ (-e).toNat : ℕ) : ℚ)

/-- The number a `float` stands for. -/
def widen (f : F32) : ℚ :=
  let n := bits f
  let exponent : ℕ := n / 2 ^ 23 % 2 ^ 8
  let fraction : ℕ := n % 2 ^ 23
  let magnitude : ℚ :=
    if exponent = 255 then 0
    else if exponent = 0 then (fraction : ℚ) * pow2 (-149)
    else ((2 ^ 23 + fraction : ℕ) : ℚ) * pow2 ((exponent : ℤ) - 150)
  if n / 2 ^ 31 = 1 then -magnitude else magnitude

/-- The exponent of the leading bit of a positive rational. -/
def leading (x : ℚ) : ℤ :=
  let e : ℤ := (Nat.log2 x.num.natAbs : ℤ) - Nat.log2 x.den
  if pow2 e ≤ x then e else e - 1

/-- The nearest `float`. The significand carries its hidden bit, so adding it to
the exponent field one step down also takes care of a carry out of rounding. -/
def narrow (x : ℚ) : F32 :=
  if x = 0 then F32.zero
  else
    let e := max (leading |x|) (-126)
    let significand := FixedPoint.roundEven (|x| / pow2 (e - 23))
    let magnitude := min ((e + 126).toNat * 2 ^ 23 + significand.toNat) 0x7F800000
    ofBits (if x < 0 then 2 ^ 31 + magnitude else magnitude)

instance : FloatConv ℚ where
  toFloat := narrow
  toDouble := widen

example : narrow 48.5 = ⟨#v[0x00, 0x00, 0x42, 0x42]⟩ := by decide +kernel
example : widen (narrow (-0.1)) = -13421773 / 134217728 := by decide +kernel

end Binary32
