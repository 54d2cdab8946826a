/-
`float_to_uint` and `uint_to_float`, in exact arithmetic.

Both are `Lib/FixedPoint.lean`'s maps on a scale of `2 ^ bits - 1` steps. The clamp
comes before the rounding, so for up to sixteen bits the code fits the `uint16_t` it is
cast to and the cast drops nothing (`float_to_uint_toNat`); everything else is then the
library's.

The number of steps is odd, so the middle of a range lies halfway between two codes:
this is where `float_to_uint` is not symmetric.
-/
import RobstrideDriver.Lib.FixedPoint
import RobstrideDriver.Protocol

set_option autoImplicit false

open CppArith

namespace Robstride

variable {K : Type*} [Field K] [LinearOrder K] [IsStrictOrderedRing K] [FloorRing K]
  {bits : ℕ} {lo hi : K}

theorem one_shiftLeft_sub_one (bits : ℕ) : 1 <<< bits - 1 = 2 ^ bits - 1 := by
  rw [Nat.one_shiftLeft]

omit [LinearOrder K] [IsStrictOrderedRing K] [FloorRing K] in
theorem uint_to_float_eq_decode (value : UInt16) (lo hi : K) (bits : ℕ) :
    uint_to_float value lo hi bits = FixedPoint.decode value.toNat lo hi (2 ^ bits - 1) := by
  rw [uint_to_float, one_shiftLeft_sub_one, FixedPoint.decode, Int.cast_natCast]

/-- The cast to sixteen bits drops nothing, as the code is at most the largest one of its width. -/
theorem float_to_uint_toNat (x : K) (h : lo < hi) (hbits : bits ≤ 16) :
    ((float_to_uint x lo hi bits).toNat : ℤ) = FixedPoint.encode x lo hi (2 ^ bits - 1) := by
  have hmem := FixedPoint.encode_mem x h (2 ^ bits - 1)
  have hpow : 2 ^ bits ≤ 2 ^ 16 := Nat.pow_le_pow_right (by decide) hbits
  have hcode : float_to_uint x lo hi bits
      = UInt16.ofInt (to_long (FixedPoint.encode x lo hi (2 ^ bits - 1))) := by
    rw [float_to_uint, one_shiftLeft_sub_one]
    rfl
  rw [hcode, to_long_of_mem (by omega) (by omega), UInt16.ofInt, UInt16.toNat_ofNat']
  omega

theorem steps_pos (hbits : 1 ≤ bits) : 0 < 2 ^ bits - 1 := by
  have hpow : 2 ^ 1 ≤ 2 ^ bits := Nat.pow_le_pow_right (by decide) hbits
  omega

/-! ## A monotone map to the nearest code -/

/-- What a scale of `2 ^ bits` codes over `[lo, hi]` does to values and to codes. -/
structure NearestCode (lo hi : K) (bits : ℕ) : Prop where
  code_le : ∀ x, (float_to_uint x lo hi bits).toNat ≤ 2 ^ bits - 1
  code_mono : ∀ x y, x ≤ y → float_to_uint x lo hi bits ≤ float_to_uint y lo hi bits
  error : ∀ x, |uint_to_float (float_to_uint x lo hi bits) lo hi bits - clamp x lo hi|
    ≤ (hi - lo) / (2 * (2 ^ bits - 1))
  nearest : ∀ x v, |uint_to_float (float_to_uint x lo hi bits) lo hi bits - clamp x lo hi|
    ≤ |uint_to_float v lo hi bits - clamp x lo hi|
  value_mem : ∀ v : UInt16, v.toNat ≤ 2 ^ bits - 1 →
    lo ≤ uint_to_float v lo hi bits ∧ uint_to_float v lo hi bits ≤ hi
  value_strictMono : ∀ v w : UInt16, v < w →
    uint_to_float v lo hi bits < uint_to_float w lo hi bits
  code_value : ∀ v : UInt16, v.toNat ≤ 2 ^ bits - 1 →
    float_to_uint (uint_to_float v lo hi bits) lo hi bits = v

/-- A scale of up to sixteen bits is an instance of the general fixed-point map, and has all its
properties. -/
theorem nearestCode (h : lo < hi) (hbits : 1 ≤ bits) (hbits' : bits ≤ 16) :
    NearestCode lo hi bits := by
  have hn := steps_pos hbits
  have hcode := fun x => float_to_uint_toNat x h hbits'
  have hvalue := fun v => uint_to_float_eq_decode v lo hi bits
  have hsteps : ((2 ^ bits - 1 : ℕ) : K) = 2 ^ bits - 1 := by
    rw [Nat.cast_sub Nat.one_le_two_pow]
    push_cast
    rfl
  refine ⟨?_, ?_, ?_, ?_, ?_, ?_, ?_⟩
  · intro x
    have hmem := FixedPoint.encode_mem x h (2 ^ bits - 1)
    have hx := hcode x
    omega
  · intro x y hxy
    have hmono := FixedPoint.encode_mono h (2 ^ bits - 1) hxy
    rw [← hcode, ← hcode] at hmono
    exact_mod_cast hmono
  · intro x
    rw [hvalue, hcode, ← hsteps]
    exact FixedPoint.decode_encode_error x h hn
  · intro x v
    rw [hvalue, hvalue, hcode]
    exact FixedPoint.encode_nearest x h hn _
  · intro v hv
    rw [hvalue]
    exact FixedPoint.decode_mem h hn (Int.natCast_nonneg _) (by exact_mod_cast hv)
  · intro v w hvw
    rw [hvalue, hvalue]
    exact FixedPoint.decode_strictMono h hn (by exact_mod_cast hvw)
  · intro v hv
    apply UInt16.toNat_inj.mp
    have hback := hcode (uint_to_float v lo hi bits)
    rw [hvalue, FixedPoint.encode_decode h hn (Int.natCast_nonneg _) (by exact_mod_cast hv)]
      at hback
    rw [hvalue]
    exact_mod_cast hback

/-! ## A range about zero -/

/-- `x`, clamped, lies halfway between two codes. -/
def HalfCode (x lo hi : K) (bits : ℕ) : Prop :=
  ∃ v : UInt16, v.toNat + 1 ≤ 2 ^ bits - 1 ∧
    clamp x lo hi = (uint_to_float v lo hi bits + uint_to_float (v + 1) lo hi bits) / 2

omit [FloorRing K] in
theorem halfCode_iff (x : K) (h : lo < hi) (hbits : 1 ≤ bits) (hbits' : bits ≤ 16) :
    HalfCode x lo hi bits ↔ FixedPoint.Halfway x lo hi (2 ^ bits - 1) := by
  have hn := steps_pos hbits
  have hpow : 2 ^ bits ≤ 2 ^ 16 := Nat.pow_le_pow_right (by decide) hbits'
  have hvalue := fun v => uint_to_float_eq_decode v lo hi bits
  constructor
  · rintro ⟨v, hv, hhalf⟩
    have hnext : (v + 1).toNat = v.toNat + 1 := by
      rw [UInt16.toNat_add, UInt16.toNat_one]
      omega
    refine ⟨v.toNat, ?_⟩
    rw [hhalf, hvalue, hvalue, hnext]
    push_cast
    rfl
  · intro hhalf
    obtain ⟨c, hc, hcn, hclamp⟩ := hhalf.exists_code h hn
    obtain ⟨k, rfl⟩ := Int.eq_ofNat_of_zero_le hc
    have hk : k + 1 ≤ 2 ^ bits - 1 := by exact_mod_cast hcn
    have hto : (UInt16.ofNat k).toNat = k := by
      rw [UInt16.toNat_ofNat', Nat.mod_eq_of_lt (by omega)]
    have hnext : (UInt16.ofNat k + 1).toNat = k + 1 := by
      rw [UInt16.toNat_add, UInt16.toNat_one, hto]
      omega
    refine ⟨UInt16.ofNat k, by rw [hto]; exact hk, ?_⟩
    rw [hclamp, hvalue, hvalue, hto, hnext]
    push_cast
    rfl

/-- **The fixed-point map is a monotone quantiser to the nearest code**, on any scale of up to
sixteen bits: it keeps the order, is off by half a code at most, and returns each code from its
value. About zero it is symmetric, except that a tie goes up on both sides. -/
theorem float_to_uint_quantises (h : lo < hi) (hbits : 1 ≤ bits) (hbits' : bits ≤ 16) :
    NearestCode lo hi bits ∧
      (lo = -hi → ∀ x,
        (¬ HalfCode x lo hi bits →
          (float_to_uint x lo hi bits).toNat + (float_to_uint (-x) lo hi bits).toNat
            = 2 ^ bits - 1) ∧
        (HalfCode x lo hi bits →
          (float_to_uint x lo hi bits).toNat + (float_to_uint (-x) lo hi bits).toNat
            = 2 ^ bits)) := by
  refine ⟨nearestCode h hbits hbits', ?_⟩
  rintro rfl x
  have hn := steps_pos hbits
  obtain ⟨haway, htie⟩ := FixedPoint.encode_add_encode_neg x h hn
  rw [halfCode_iff x h hbits hbits']
  rw [← float_to_uint_toNat x h hbits', ← float_to_uint_toNat (-x) h hbits'] at haway htie
  constructor
  · intro hx
    exact_mod_cast haway hx
  · intro hx
    have hsum := htie hx
    omega

/-- Zero on a torque scale: both codes are the upper one of the middle two. -/
theorem float_to_uint_quantises_middle :
    (float_to_uint (0 : ℚ) (-17) 17).toNat + (float_to_uint (-0 : ℚ) (-17) 17).toNat = 65536 := by
  have hzero : HalfCode (0 : ℚ) (-17) 17 16 := ⟨32767, by decide, by decide +kernel⟩
  exact ((float_to_uint_quantises (by norm_num) (by decide) (by decide)).2 rfl 0).2 hzero

end Robstride
