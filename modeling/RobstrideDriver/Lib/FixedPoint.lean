/-
Rounding, wrapping and quantising in an ordered field.

Exact arithmetic for `Lib/Double.lean`: the two `<cmath>` functions in any
ordered field with a floor, and the three pieces of mathematics a fixed-point
sensor is made of.

* Rounding: both modes stay within a half (`lround_error`, `roundEven_error`), and
  `lround` leaves no integer nearer (`lround_nearest`).
* Wrapping: the IEEE remainder is a congruent representative of least absolute
  value (`remainder_abs_le`, `remainder_eq`).
* Quantising: a value clamped to `[lo, hi]` and sent as one of `n + 1` codes comes
  back within half a code (`decode_encode_error`), and a code comes back as itself
  (`encode_decode`). Both maps keep order, and on a range about zero the codes of
  `x` and `-x` make up `n` but at a tie (`encode_add_encode_neg`).

What a wrapped and quantised point is known up to is `NearModulo`.

The last section is the algebra of undoing a wrap. Two samples of a moving point,
each known up to `e` and each reduced by some number of turns, show by their
difference alone how the turn counts differ, as long as the point moved less than
half a turn less the error (`turn_cases`).
-/
import RobstrideDriver.Lib.Double

set_option autoImplicit false

namespace FixedPoint

open CppArith

/-- The numeral 2 by a named instance: a definition that halves or doubles then refers to
this one instance, in whichever module it stands. -/
instance two_atLeastTwo : Nat.AtLeastTwo 2 := ⟨le_refl 2⟩

/-! ## Clamping -/

section Clamping

variable {K : Type*} [LinearOrder K] {lo hi : K}

/-- A clamped value lies in the range, provided that there is one. -/
theorem clamp_mem (x : K) (h : lo ≤ hi) : lo ≤ clamp x lo hi ∧ clamp x lo hi ≤ hi := by
  rw [clamp]
  split_ifs with h₁ h₂
  · exact ⟨le_refl lo, h⟩
  · exact ⟨h, le_refl hi⟩
  · exact ⟨not_lt.mp h₁, not_lt.mp h₂⟩

/-- A value of the range is not changed by clamping. -/
theorem clamp_of_mem {x : K} (hlo : lo ≤ x) (hhi : x ≤ hi) : clamp x lo hi = x := by
  rw [clamp, if_neg (not_lt.mpr hlo), if_neg (not_lt.mpr hhi)]

/-- Clamping, written with the lattice operations, for which Mathlib has the lemmas. -/
theorem clamp_eq_max_min (x : K) (h : lo ≤ hi) : clamp x lo hi = max lo (min x hi) := by
  rw [clamp]
  split_ifs with h₁ h₂
  · rw [min_eq_left (h₁.le.trans h), max_eq_left h₁.le]
  · rw [min_eq_right h₂.le, max_eq_right h]
  · rw [min_eq_left (not_lt.mp h₂), max_eq_right (not_lt.mp h₁)]

/-- Clamping keeps the order, though it may make different values equal. -/
theorem clamp_mono {x y : K} (h : lo ≤ hi) (hxy : x ≤ y) : clamp x lo hi ≤ clamp y lo hi := by
  rw [clamp_eq_max_min x h, clamp_eq_max_min y h]
  exact max_le_max le_rfl (min_le_min hxy le_rfl)

end Clamping

variable {K : Type*} [Field K] [LinearOrder K] [FloorRing K]

/-! ## Rounding -/

/-- Nearest integer, halves away from zero. -/
def lround (x : K) : ℤ := if 0 ≤ x then ⌊x + 1 / 2⌋ else -⌊-x + 1 / 2⌋

/-- Nearest integer, halves to even. -/
def roundEven (x : K) : ℤ :=
  if x - ⌊x⌋ < 1 / 2 then ⌊x⌋
  else if 1 / 2 < x - ⌊x⌋ then ⌊x⌋ + 1
  else ⌊x⌋ + ⌊x⌋ % 2

/-- `x` less the nearest multiple of `y`. -/
def remainder (x y : K) : K := x - roundEven (x / y) * y

instance : DoubleMath K where
  lround x := to_long (lround x)
  remainder := remainder

/-- `std::lround` of a number that fits a `long` when it is rounded; of others it returns whatever
the conversion makes of them. -/
theorem doubleMath_lround {x : K} (hlo : -2 ^ 63 ≤ lround x) (hhi : lround x < 2 ^ 63) :
    DoubleMath.lround x = lround x :=
  to_long_of_mem hlo hhi

section Rounding

/-- Zero and what is above it are rounded half up. -/
theorem lround_of_nonneg {x : K} (hx : 0 ≤ x) : lround x = ⌊x + 1 / 2⌋ := if_pos hx

variable [IsStrictOrderedRing K]

/-- Rounding moves a number by half at most. -/
theorem lround_error (x : K) : |(lround x : K) - x| ≤ 1 / 2 := by
  rw [lround, abs_le]
  by_cases hx : 0 ≤ x
  · rw [if_pos hx]
    have hlo := Int.floor_le (x + 1 / 2)
    have hhi := Int.lt_floor_add_one (x + 1 / 2)
    constructor <;> linarith
  · rw [if_neg hx]
    have hlo := Int.floor_le (-x + 1 / 2)
    have hhi := Int.lt_floor_add_one (-x + 1 / 2)
    push_cast
    constructor <;> linarith

/-- Rounding cannot leave a range whose ends are integers, so a scaled value is rounded to a code of
the scale. -/
theorem lround_mem {x : K} {a b : ℤ} (ha : (a : K) ≤ x) (hb : x ≤ b) :
    a ≤ lround x ∧ lround x ≤ b := by
  obtain ⟨hlo, hhi⟩ := abs_le.mp (lround_error x)
  have h₁ : (a : K) < (lround x : K) + 1 := by linarith
  have h₂ : (lround x : K) < (b : K) + 1 := by linarith
  constructor
  · have : a < lround x + 1 := by exact_mod_cast h₁
    omega
  · have : lround x < b + 1 := by exact_mod_cast h₂
    omega

/-- An integer is rounded to itself. -/
@[simp] theorem lround_intCast (n : ℤ) : lround (n : K) = n := by
  have hmem := lround_mem (le_refl (n : K)) (le_refl (n : K))
  omega

/-- Where rounding reaches `n`: at the middle between `n - 1` and `n`, which itself is
rounded away from zero, so up for a positive `n` and down for the others. -/
theorem le_lround_iff (x : K) (n : ℤ) :
    n ≤ lround x ↔ if 0 < n then (n : K) - 1 / 2 ≤ x else (n : K) - 1 / 2 < x := by
  by_cases hx : 0 ≤ x
  · rw [lround_of_nonneg hx, Int.le_floor]
    split_ifs with hn
    · constructor <;> intro h <;> linarith
    · have hle : (n : K) ≤ 0 := Int.cast_nonpos.mpr (not_lt.mp hn)
      exact iff_of_true (by linarith) (by linarith)
  · have hround : n ≤ -⌊-x + 1 / 2⌋ ↔ ⌊-x + 1 / 2⌋ < -n + 1 := by omega
    rw [lround, if_neg hx, hround, Int.floor_lt]
    push_cast
    split_ifs with hn
    · have hle : (1 : K) ≤ n := by exact_mod_cast hn
      exact iff_of_false (by linarith) (by linarith)
    · constructor <;> intro h <;> linarith

/-- No integer is nearer to `x` than the rounded one. -/
theorem lround_nearest (x : K) (m : ℤ) : |(lround x : K) - x| ≤ |(m : K) - x| := by
  by_cases hm : m = lround x
  · rw [hm]
  · have herror := lround_error x
    -- two different integers are at least one apart, and `lround x` has at most half of it
    have hone : (1 : K) ≤ |(m : K) - lround x| := by
      rw [← Int.cast_sub, ← Int.cast_abs]
      exact_mod_cast Int.one_le_abs (sub_ne_zero.mpr hm)
    have htriangle := abs_sub_le (m : K) x (lround x)
    rw [abs_sub_comm x] at htriangle
    linarith

/-- Rounding keeps the order, also across zero, where the direction of a tie changes. -/
theorem lround_mono {x y : K} (hxy : x ≤ y) : lround x ≤ lround y := by
  by_cases hx : 0 ≤ x
  · rw [lround_of_nonneg hx, lround_of_nonneg (hx.trans hxy)]
    exact Int.floor_le_floor (by linarith)
  · by_cases hy : 0 ≤ y
    · -- across zero, which rounds to itself
      have hx₀ := (lround_mem (a := ⌊x⌋) (b := 0) (Int.floor_le x) (by push_cast; linarith)).2
      have hy₀ := (lround_mem (a := 0) (b := ⌈y⌉) (by push_cast; exact hy) (Int.le_ceil y)).1
      exact hx₀.trans hy₀
    · rw [lround, lround, if_neg hx, if_neg hy]
      exact neg_le_neg (Int.floor_le_floor (by linarith))

/-- Two parts of a whole number of steps round to parts of it, unless a tie makes both of them go
up. -/
theorem lround_add_lround_sub {y : K} {n : ℕ} (hy : 0 ≤ y) (hn : y ≤ n)
    (htie : ∀ k : ℤ, y ≠ k + 1 / 2) : lround y + lround (n - y) = n := by
  rw [lround_of_nonneg hy, lround_of_nonneg (sub_nonneg.mpr hn)]
  have hlo := Int.floor_le (y + 1 / 2)
  have hhi := Int.lt_floor_add_one (y + 1 / 2)
  -- the lower bound is strict: there is no tie
  have hstrict : (⌊y + 1 / 2⌋ : K) ≠ y + 1 / 2 := by
    intro h
    refine htie (⌊y + 1 / 2⌋ - 1) ?_
    push_cast
    linarith
  have hlt := lt_of_le_of_ne hlo hstrict
  have hrest : ⌊(n : K) - y + 1 / 2⌋ = n - ⌊y + 1 / 2⌋ := by
    rw [Int.floor_eq_iff]
    push_cast
    constructor <;> linarith
  rw [hrest]
  omega

/-- At a tie both parts round up, and together they come to one step too many. -/
theorem lround_add_lround_sub_tie {k : ℤ} {n : ℕ} (hk : 0 ≤ k) (hkn : k + 1 ≤ n) :
    lround (k + 1 / 2 : K) + lround ((n : K) - (k + 1 / 2)) = n + 1 := by
  have hkK : (0 : K) ≤ k := Int.cast_nonneg hk
  have hknK : (k : K) + 1 ≤ n := by exact_mod_cast hkn
  have hup : ⌊(k : K) + 1 / 2 + 1 / 2⌋ = k + 1 := by
    rw [Int.floor_eq_iff]
    push_cast
    constructor <;> linarith
  have hrest : ⌊(n : K) - (k + 1 / 2) + 1 / 2⌋ = n - k := by
    rw [Int.floor_eq_iff]
    push_cast
    constructor <;> linarith
  rw [lround_of_nonneg (by linarith), lround_of_nonneg (by linarith), hup, hrest]
  omega

/-- Rounding to the nearest integer, a tie to the even one, moves a number by half at most. -/
theorem roundEven_error (x : K) : |x - roundEven x| ≤ 1 / 2 := by
  have hlo := Int.floor_le x
  have hhi := Int.lt_floor_add_one x
  have hpar : ⌊x⌋ % 2 = 0 ∨ ⌊x⌋ % 2 = 1 := by omega
  rw [roundEven, abs_le]
  split_ifs with h₁ h₂
  · constructor <;> linarith
  · push_cast
    constructor <;> linarith
  · -- a tie: either neighbour is at distance a half
    rcases hpar with hpar | hpar <;> rw [hpar] <;> push_cast <;> constructor <;> linarith

end Rounding

/-! ## Wrapping -/

/-- `std::remainder` takes off the multiple of `y` that is nearest to `x`. -/
theorem remainder_eq (x y : K) : remainder x y = x - roundEven (x / y) * y := rfl

/-- What it takes off is a multiple of `y`, so the remainder is congruent to `x`. -/
theorem remainder_modEq (x y : K) : remainder x y ≡ x [PMOD y] := by
  rw [AddCommGroup.modEq_iff_eq_add_zsmul]
  exact ⟨roundEven (x / y), by rw [remainder_eq, zsmul_eq_mul]; ring⟩

/-- The remainder is within half of `y` on both sides of zero, since the multiple taken off is the
nearest one. -/
theorem remainder_abs_le [IsStrictOrderedRing K] (x : K) {y : K} (hy : 0 < y) :
    |remainder x y| ≤ y / 2 := by
  have hne : y ≠ 0 := hy.ne'
  have hfac : remainder x y = (x / y - roundEven (x / y)) * y := by
    rw [remainder_eq, sub_mul, div_mul_cancel₀ x hne]
  rw [hfac, abs_mul, abs_of_pos hy]
  have h := mul_le_mul_of_nonneg_right (roundEven_error (x / y)) hy.le
  linarith

/-! ## Quantising -/

/-- The code of `x`: its position in `[lo, hi]` on a scale of `n` steps. -/
def encode (x lo hi : K) (n : ℕ) : ℤ := lround ((clamp x lo hi - lo) * n / (hi - lo))

/-- The value of a code. -/
def decode (c : ℤ) (lo hi : K) (n : ℕ) : K := c * (hi - lo) / n + lo

section Quantising

variable [IsStrictOrderedRing K] {lo hi : K}

omit [FloorRing K] in
/-- A clamped value lies on the scale, between code `0` and code `n`. -/
theorem scaled_mem (x : K) (h : lo < hi) (n : ℕ) :
    0 ≤ (clamp x lo hi - lo) * n / (hi - lo) ∧ (clamp x lo hi - lo) * n / (hi - lo) ≤ n := by
  have hspan : 0 < hi - lo := sub_pos.mpr h
  obtain ⟨hlo, hhi⟩ := clamp_mem x h.le
  have hn : (0 : K) ≤ n := Nat.cast_nonneg n
  constructor
  · exact div_nonneg (mul_nonneg (sub_nonneg.mpr hlo) hn) hspan.le
  · rw [div_le_iff₀ hspan, mul_comm]
    exact mul_le_mul_of_nonneg_left (by linarith) hn

/-- An encoded value is a code of the scale, whatever is encoded: clamping comes first. -/
theorem encode_mem (x : K) (h : lo < hi) (n : ℕ) : 0 ≤ encode x lo hi n ∧ encode x lo hi n ≤ n := by
  obtain ⟨hlo, hhi⟩ := scaled_mem x h n
  exact lround_mem (a := 0) (b := n) (by rwa [Int.cast_zero]) (by rwa [Int.cast_natCast])

/-- **The quantisation error is at most half a code**, measured from the clamped value. What lies
outside the range is off by what clamping takes away besides. -/
theorem decode_encode_error (x : K) (h : lo < hi) {n : ℕ} (hn : 0 < n) :
    |decode (encode x lo hi n) lo hi n - clamp x lo hi| ≤ (hi - lo) / (2 * n) := by
  have hspan : 0 < hi - lo := sub_pos.mpr h
  have hnK : (0 : K) < n := Nat.cast_pos.mpr hn
  set s := (clamp x lo hi - lo) * n / (hi - lo) with hs
  have hfac : decode (encode x lo hi n) lo hi n - clamp x lo hi
      = ((lround s : K) - s) * ((hi - lo) / n) := by
    rw [decode, encode, ← hs, hs]
    field_simp
    ring
  rw [hfac, abs_mul, abs_of_pos (div_pos hspan hnK)]
  calc |(lround s : K) - s| * ((hi - lo) / n)
      ≤ 1 / 2 * ((hi - lo) / n) :=
        mul_le_mul_of_nonneg_right (lround_error s) (div_pos hspan hnK).le
    _ = (hi - lo) / (2 * n) := by
        field_simp

/-- The value of a code lies in the range of the scale. -/
theorem decode_mem (h : lo < hi) {n : ℕ} (hn : 0 < n) {c : ℤ} (hc : 0 ≤ c) (hcn : c ≤ n) :
    lo ≤ decode c lo hi n ∧ decode c lo hi n ≤ hi := by
  have hspan : 0 < hi - lo := sub_pos.mpr h
  have hnK : (0 : K) < n := Nat.cast_pos.mpr hn
  have hcK : (0 : K) ≤ c := Int.cast_nonneg hc
  have hcnK : (c : K) ≤ n := by exact_mod_cast hcn
  have hstep : (c : K) * (hi - lo) / n ≤ hi - lo := by
    rw [div_le_iff₀ hnK, mul_comm]
    exact mul_le_mul_of_nonneg_left hcnK hspan.le
  have hnonneg : 0 ≤ (c : K) * (hi - lo) / n :=
    div_nonneg (mul_nonneg hcK hspan.le) hnK.le
  rw [decode]
  constructor <;> linarith

/-- **A code survives**: its value lies on the scale, so encoding it rounds nothing. -/
theorem encode_decode (h : lo < hi) {n : ℕ} (hn : 0 < n) {c : ℤ} (hc : 0 ≤ c) (hcn : c ≤ n) :
    encode (decode c lo hi n) lo hi n = c := by
  obtain ⟨hlo, hhi⟩ := decode_mem h hn hc hcn
  have hspan : hi - lo ≠ 0 := (sub_pos.mpr h).ne'
  have hnK : (n : K) ≠ 0 := (Nat.cast_pos.mpr hn).ne'
  have hscaled : (decode c lo hi n - lo) * n / (hi - lo) = c := by
    rw [decode]
    field_simp
    ring
  rw [encode, clamp_of_mem hlo hhi, hscaled, lround_intCast]

omit [FloorRing K] in
/-- A range about zero clamps alike on both sides. -/
theorem clamp_neg (x : K) (h : -hi ≤ hi) : clamp (-x) (-hi) hi = -clamp x (-hi) hi := by
  rw [clamp, clamp]
  split_ifs <;> linarith

/-- **Encoding keeps the order**, as both clamping and rounding do. -/
theorem encode_mono {x y : K} (h : lo < hi) (n : ℕ) (hxy : x ≤ y) :
    encode x lo hi n ≤ encode y lo hi n := by
  have hspan : 0 < hi - lo := sub_pos.mpr h
  have hclamp := clamp_mono h.le hxy
  have hn : (0 : K) ≤ n := Nat.cast_nonneg n
  exact lround_mono <| div_le_div_of_nonneg_right
    (mul_le_mul_of_nonneg_right (sub_le_sub_right hclamp lo) hn) hspan.le

/-- Different codes have different values, in the order of the codes. -/
theorem decode_strictMono (h : lo < hi) {n : ℕ} (hn : 0 < n) :
    StrictMono fun c : ℤ => decode c lo hi n := by
  intro c c' hc
  have hspan : 0 < hi - lo := sub_pos.mpr h
  have hnK : (0 : K) < n := Nat.cast_pos.mpr hn
  have hcK : (c : K) < c' := by exact_mod_cast hc
  exact add_lt_add_left (div_lt_div_of_pos_right (mul_lt_mul_of_pos_right hcK hspan) hnK) lo

omit [FloorRing K] in
/-- The distance of a clamped value to the value of a code, in codes: the rounding error is read off
it. -/
theorem decode_sub_clamp (x : K) (h : lo < hi) {n : ℕ} (hn : 0 < n) (c : ℤ) :
    decode c lo hi n - clamp x lo hi
      = ((c : K) - (clamp x lo hi - lo) * n / (hi - lo)) * ((hi - lo) / n) := by
  have hspan : hi - lo ≠ 0 := (sub_pos.mpr h).ne'
  have hnK : (n : K) ≠ 0 := (Nat.cast_pos.mpr hn).ne'
  rw [decode]
  field_simp
  ring

/-- **No code is nearer** to the clamped value than the one it is encoded as. At a tie there are two
at the same distance. -/
theorem encode_nearest (x : K) (h : lo < hi) {n : ℕ} (hn : 0 < n) (c : ℤ) :
    |decode (encode x lo hi n) lo hi n - clamp x lo hi| ≤ |decode c lo hi n - clamp x lo hi| := by
  have hstep : 0 < (hi - lo) / n := div_pos (sub_pos.mpr h) (Nat.cast_pos.mpr hn)
  rw [decode_sub_clamp x h hn, decode_sub_clamp x h hn, abs_mul, abs_mul, abs_of_pos hstep]
  exact mul_le_mul_of_nonneg_right (lround_nearest _ c) hstep.le

/-- `x`, clamped, lies halfway between two codes. -/
def Halfway (x lo hi : K) (n : ℕ) : Prop :=
  ∃ c : ℤ, clamp x lo hi = (decode c lo hi n + decode (c + 1) lo hi n) / 2

omit [FloorRing K] in
/-- A value in the middle between two neighbouring codes, seen on the scale of codes: half a step
above the lower one. -/
theorem clamp_eq_half_iff (x : K) (h : lo < hi) {n : ℕ} (hn : 0 < n) (c : ℤ) :
    clamp x lo hi = (decode c lo hi n + decode (c + 1) lo hi n) / 2 ↔
      (clamp x lo hi - lo) * n / (hi - lo) = c + 1 / 2 := by
  have hspan : hi - lo ≠ 0 := (sub_pos.mpr h).ne'
  have hnK : (n : K) ≠ 0 := (Nat.cast_pos.mpr hn).ne'
  have hhalf : (decode c lo hi n + decode (c + 1) lo hi n) / 2
      = (c + 1 / 2) * (hi - lo) / n + lo := by
    rw [decode, decode]
    push_cast
    field_simp
    ring
  rw [hhalf, div_eq_iff hspan, ← sub_eq_iff_eq_add, eq_div_iff hnK]

omit [FloorRing K] in
/-- The two codes are codes of the scale: a value in the middle between them is not at either
end. -/
theorem Halfway.exists_code {x : K} {n : ℕ} (hx : Halfway x lo hi n) (h : lo < hi) (hn : 0 < n) :
    ∃ c : ℤ, 0 ≤ c ∧ c + 1 ≤ n ∧
      clamp x lo hi = (decode c lo hi n + decode (c + 1) lo hi n) / 2 := by
  obtain ⟨c, hc⟩ := hx
  obtain ⟨hlo, hhi⟩ := scaled_mem x h n
  rw [(clamp_eq_half_iff x h hn c).mp hc] at hlo hhi
  have hpos : (0 : K) < c + 1 := by linarith
  have hlt : (c : K) < n := by linarith
  norm_cast at hpos hlt
  exact ⟨c, by omega, by omega, hc⟩

/-- **Mirrored values have mirrored codes**, of a range about zero, and at a tie both are
rounded up. -/
theorem encode_add_encode_neg (x : K) (h : -hi < hi) {n : ℕ} (hn : 0 < n) :
    (¬ Halfway x (-hi) hi n → encode x (-hi) hi n + encode (-x) (-hi) hi n = n) ∧
      (Halfway x (-hi) hi n → encode x (-hi) hi n + encode (-x) (-hi) hi n = n + 1) := by
  have hpos : 0 < hi := by linarith
  have hscaled := scaled_mem x h n
  have hhalf := clamp_eq_half_iff x h hn
  -- the mirrored value is as far from the other end
  have hmirror : (-clamp x (-hi) hi - -hi) * n / (hi - -hi)
      = n - (clamp x (-hi) hi - -hi) * n / (hi - -hi) := by
    field_simp
    ring
  rw [encode, encode, clamp_neg x h.le, hmirror]
  constructor
  · intro htie
    exact lround_add_lround_sub hscaled.1 hscaled.2 fun c hc => htie ⟨c, (hhalf c).mpr hc⟩
  · intro htie
    obtain ⟨c, hc₀, hcn, hc⟩ := htie.exists_code h hn
    rw [(hhalf c).mp hc]
    exact lround_add_lround_sub_tie hc₀ hcn

end Quantising

/-! ## Up to whole turns -/

section Modulo

variable {p e e' x x' y y' : K}

omit [FloorRing K]

/-- `x` is within `e` of a value that differs from `y` by turns of length `p`. -/
def NearModulo (p e x y : K) : Prop := ∃ z, z ≡ y [PMOD p] ∧ |x - z| ≤ e

/-- Closeness up to turns does not depend on which of the congruent points is meant. -/
theorem NearModulo.congr (h : NearModulo p e x y) (hy : y ≡ y' [PMOD p]) : NearModulo p e x y' := by
  obtain ⟨z, hz, herror⟩ := h
  exact ⟨z, hz.trans hy, herror⟩

variable [IsStrictOrderedRing K]

/-- The difference of two such points is near the difference of what they are near to, with the sum
of the errors. -/
theorem NearModulo.sub (h : NearModulo p e x y) (h' : NearModulo p e' x' y') :
    NearModulo p (e + e') (x - x') (y - y') := by
  obtain ⟨z, hz, herror⟩ := h
  obtain ⟨z', hz', herror'⟩ := h'
  refine ⟨z - z', hz.sub hz', ?_⟩
  calc |x - x' - (z - z')| = |(x - z) - (x' - z')| := by ring_nf
    _ ≤ |x - z| + |x' - z'| := abs_sub _ _
    _ ≤ e + e' := add_le_add herror herror'

/-- A point that is not where it was thought to be: the distance it is off by adds to the error. -/
theorem NearModulo.move (h : NearModulo p e x y) (hy : |y - y'| ≤ e') :
    NearModulo p (e + e') x y' := by
  obtain ⟨z, hz, herror⟩ := h
  refine ⟨z - (y - y'), ?_, ?_⟩
  · have hmove := hz.sub_right (y - y')
    rwa [sub_sub_cancel] at hmove
  · calc |x - (z - (y - y'))| = |(x - z) + (y - y')| := by ring_nf
      _ ≤ |x - z| + |y - y'| := abs_add_le _ _
      _ ≤ e + e' := add_le_add herror hy

end Modulo

/-! ## Counting turns -/

section Turns

variable [IsStrictOrderedRing K]

omit [FloorRing K] in
/-- **The difference of two samples shows the difference of their turns.** `p` and
`p'` are true positions, reduced by `k` and `k'` turns of length `s` into half a
turn either side of zero, and `w`, `w'` are what was measured. -/
theorem turn_cases {s e p p' w w' : K} {k k' : ℤ} (hs : 0 < s)
    (hk : |p - k * s| ≤ s / 2) (hk' : |p' - k' * s| ≤ s / 2)
    (hw : |w - (p - k * s)| ≤ e) (hw' : |w' - (p' - k' * s)| ≤ e)
    (hmove : |p' - p| < s / 2 - 2 * e) :
    (k' = k ∧ -(s / 2) < w' - w ∧ w' - w < s / 2) ∨
      (k' = k + 1 ∧ w' - w < -(s / 2)) ∨ (k' = k - 1 ∧ s / 2 < w' - w) := by
  obtain ⟨hk₁, hk₂⟩ := abs_le.mp hk
  obtain ⟨hk₁', hk₂'⟩ := abs_le.mp hk'
  obtain ⟨hw₁, hw₂⟩ := abs_le.mp hw
  obtain ⟨hw₁', hw₂'⟩ := abs_le.mp hw'
  obtain ⟨hm₁, hm₂⟩ := abs_lt.mp hmove
  -- two turns are more than the reduced positions and the move can make up
  have hupper : ((k' - k : ℤ) : K) * s < 2 * s := by
    push_cast
    linarith
  have hlower : -2 * s < ((k' - k : ℤ) : K) * s := by
    push_cast
    linarith
  have hlt : k' - k < 2 := by
    have h : ((k' - k : ℤ) : K) < 2 := lt_of_mul_lt_mul_right hupper hs.le
    exact_mod_cast h
  have hgt : -2 < k' - k := by
    have h : (-2 : K) < ((k' - k : ℤ) : K) := lt_of_mul_lt_mul_right hlower hs.le
    exact_mod_cast h
  rcases (by omega : k' = k ∨ k' = k + 1 ∨ k' = k - 1) with rfl | rfl | rfl
  · exact .inl ⟨rfl, by linarith, by linarith⟩
  · push_cast at hw₁' hw₂'
    exact .inr (.inl ⟨rfl, by linarith⟩)
  · push_cast at hw₁' hw₂'
    exact .inr (.inr ⟨rfl, by linarith⟩)

end Turns

end FixedPoint
