/-
The feedback frame in exact arithmetic.

`make_feedback_frame` is documented as the inverse of `parse_feedback`. In one
direction it is: a feedback frame off the wire is rebuilt bit for bit from what
was decoded of it (`make_parse_feedback_frame`). In the other the record loses what
96 bits cannot hold: the fault byte keeps six bits, and a scaled field comes back
clamped and at most half a code off (`parse_make_feedback_frame_accurate`).

The temperature is the one scaled field that is cast without a clamp. Inside the
representable range it is as good as the others. Outside, the cast takes off whole turns
of 65536 tenths, and the last section says for which temperatures that shows
(`temperature_order`). It speaks of temperatures alone: of the middles between tenths, at
which rounding goes from one code to the next (`Reaches`), and of the turns and tenths
that lie between them. What `std::lround` returns for a number that does not fit a `long`
is left open by the language, so temperatures are taken within that range (`FitsLong`).
-/
import RobstrideDriver.Fixtures
import RobstrideDriver.ProtocolFields
import RobstrideDriver.Scaling

set_option autoImplicit false

open CppArith

namespace Robstride

variable {K : Type} [Field K] [LinearOrder K] [IsStrictOrderedRing K] [FloorRing K]

/-- Limits whose feedback fields have a range to scale into. -/
structure ActuatorLimits.Positive (limits : ActuatorLimits K) : Prop where
  position : 0 < limits.position
  velocity : 0 < limits.velocity
  torque : 0 < limits.torque

/-- The ranges of an RS02 are ranges. -/
theorem rs02_positive : fixtures.rs02.Positive :=
  ⟨by decide +kernel, by decide +kernel, by decide +kernel⟩

/-! ## One scaled field

A field is a scale of sixteen bits. -/

/-- Any scale of sixteen bits, as all fields of a feedback frame are. -/
theorem nearestCode_wire {lo hi : K} (h : lo < hi) : NearestCode lo hi 16 :=
  nearestCode h (by decide) (by decide)

/-- A value that crosses the wire comes back clamped and within half a code. -/
theorem uint_to_float_clamp_error {lo hi : K} (h : lo < hi) (x : K) :
    |uint_to_float (float_to_uint x lo hi) lo hi - clamp x lo hi| ≤ (hi - lo) / (2 * 65535) := by
  have herror := (nearestCode_wire h).error x
  norm_num at herror ⊢
  exact herror

/-- A value that crosses the wire comes back within half a code. -/
theorem uint_to_float_error {lo hi : K} (h : lo < hi) {x : K} (hlo : lo ≤ x) (hhi : x ≤ hi) :
    |uint_to_float (float_to_uint x lo hi) lo hi - x| ≤ (hi - lo) / (2 * 65535) := by
  have herror := uint_to_float_clamp_error h x
  rw [FixedPoint.clamp_of_mem hlo hhi] at herror
  exact herror

/-- A decoded field is inside its range, whatever the code: no frame of the wire takes a reading
beyond it. -/
theorem uint_to_float_mem (value : UInt16) {lo hi : K} (h : lo < hi) :
    lo ≤ uint_to_float value lo hi ∧ uint_to_float value lo hi ≤ hi :=
  (nearestCode_wire h).value_mem value (Nat.le_of_lt_succ value.toNat_lt)

/-- **A code crosses the driver unchanged**: decoding it and encoding what comes out gives it back,
so relaying feedback adds no error. -/
theorem float_to_uint_uint_to_float (value : UInt16) {lo hi : K} (h : lo < hi) :
    float_to_uint (uint_to_float value lo hi) lo hi = value :=
  (nearestCode_wire h).code_value value (Nat.le_of_lt_succ value.toNat_lt)

/-! ## A frame off the wire -/

/-- The temperature code a frame carries is an integer, so scaling it by a tenth and
back rounds to itself. -/
theorem temperature_code (value : UInt16) :
    UInt16.ofInt (DoubleMath.lround
      ((value.toNat : K) * (((1 : ℕ) : K) / ((10 : ℕ) : K)) * ((10 : ℕ) : K))) = value := by
  have hvalue := value.toNat_lt
  have hexact : (value.toNat : K) * (((1 : ℕ) : K) / ((10 : ℕ) : K)) * ((10 : ℕ) : K)
      = ((value.toNat : ℤ) : K) := by
    push_cast
    field_simp
  have hround : DoubleMath.lround ((value.toNat : ℤ) : K) = (value.toNat : ℤ) := by
    have hcode := FixedPoint.lround_intCast (K := K) (value.toNat : ℤ)
    rw [FixedPoint.doubleMath_lround (by omega) (by omega), hcode]
  rw [hexact, hround]
  apply UInt16.toNat_inj.mp
  rw [UInt16.ofInt, UInt16.toNat_ofNat']
  omega

/-- The bit fields read off an identifier and put back. -/
theorem make_id_feedback_area {D : Type*} {f : CanFrame} (hid : f.id.toNat < 2 ^ 29)
    (htype : get_comm_type f = CommType.Feedback.code) {fb : Feedback D}
    (hmotor : fb.motor_id = get_source_motor_id f) (hhost : fb.host_id = (f.id &&& 0xFF).toUInt8)
    (hmode : fb.mode = ⟨((f.id >>> 22) &&& 0x03).toUInt8⟩)
    (hfault : fb.fault = ⟨((f.id >>> 16) &&& 0x3F).toUInt8⟩) :
    make_id .Feedback (feedback_area fb) fb.host_id = f.id := by
  have htype' : f.id.toNat / 2 ^ 24 % 2 ^ 5 = 2 := by
    rw [← get_comm_type_toNat, htype]
    rfl
  apply UInt32.toNat_inj.mp
  rw [make_id_toNat, feedback_area_toNat, hmotor, hhost, hmode, hfault, low_byte_toNat,
    get_source_motor_id_toNat, id_field_toNat f.id 22 0x03 (k := 22) (w := 2) rfl rfl (by decide),
    id_field_toNat f.id 16 0x3F (k := 16) (w := 6) rfl rfl (by decide),
    show CommType.Feedback.code.toNat = 2 from rfl]
  omega

/-- **Decoding a feedback frame loses nothing.** Every frame of the wire, with any
fault pattern, any mode and any codes, is rebuilt from its decoded record. -/
theorem make_parse_feedback_frame {limits : ActuatorLimits K} (hlimits : limits.Positive)
    {f : CanFrame} (hid : f.id.toNat < 2 ^ 29) (htype : get_comm_type f = CommType.Feedback.code)
    (hdlc : f.dlc = 8) :
    ∃ fb, parse_feedback f limits = some fb ∧ make_feedback_frame fb limits = f := by
  have hd : ¬ f.dlc < 8 := by
    rw [hdlc]
    decide
  have hposition : -limits.position < limits.position := neg_lt_self hlimits.position
  have hvelocity : -limits.velocity < limits.velocity := neg_lt_self hlimits.velocity
  have htorque : -limits.torque < limits.torque := neg_lt_self hlimits.torque
  rw [parse_feedback, if_neg (not_not.mpr htype), if_neg hd]
  refine ⟨_, rfl, ?_⟩
  rw [make_feedback_frame, make_id_feedback_area hid htype rfl rfl rfl rfl]
  simp only [float_to_uint_uint_to_float _ hposition, float_to_uint_uint_to_float _ hvelocity,
    float_to_uint_uint_to_float _ htorque, temperature_code, hi_byte_word, lo_byte_word]
  obtain ⟨id, data, dlc⟩ := f
  obtain rfl : dlc = 8 := hdlc
  have hdata : #v[data[0], data[1], data[2], data[3], data[4], data[5], data[6], data[7]]
      = data := by
    apply Vector.ext
    intro k hk
    interval_cases k <;> rfl
  rw [hdata]

/-- Every identifier bit below the type set, and codes from both ends of the scale. -/
theorem make_parse_feedback_frame_ends :
    ∃ fb, parse_feedback ⟨0x02FFFFFF, #v[0, 0, 0xFF, 0xFF, 0x80, 0, 0xFF, 0xFF], 8⟩
        fixtures.rs02 = some fb ∧
      make_feedback_frame fb fixtures.rs02
        = ⟨0x02FFFFFF, #v[0, 0, 0xFF, 0xFF, 0x80, 0, 0xFF, 0xFF], 8⟩ :=
  make_parse_feedback_frame rs02_positive (by decide) (by decide) rfl

/-! ## The record that comes back -/

/-- What is left of `x` after the wire, on a field with the range `[-limit, limit]`. -/
structure Within (limit x y : K) : Prop where
  error : |y - clamp x (-limit) limit| ≤ limit / 65535
  lower : -limit ≤ y
  upper : y ≤ limit

/-- `d` is what is left of `fb` after the wire. -/
structure Feedback.Recovers (limits : ActuatorLimits K) (fb d : Feedback K) : Prop where
  motor_id : d.motor_id = fb.motor_id
  host_id : d.host_id = fb.host_id
  mode : d.mode = fb.mode
  fault : d.fault.raw = fb.fault.raw &&& 0x3F
  position : Within limits.position fb.position d.position
  velocity : Within limits.velocity fb.velocity d.velocity
  torque : Within limits.torque fb.torque d.torque
  temperature : |d.temperature - fb.temperature| ≤ 1 / 20

/-- `d` and `d'` agree in every field in which `fb` and `fb'` do. -/
structure Feedback.FieldWise {D : Type*} (fb fb' d d' : Feedback D) : Prop where
  motor_id : fb.motor_id = fb'.motor_id → d.motor_id = d'.motor_id
  host_id : fb.host_id = fb'.host_id → d.host_id = d'.host_id
  mode : fb.mode = fb'.mode → d.mode = d'.mode
  fault : fb.fault = fb'.fault → d.fault = d'.fault
  position : fb.position = fb'.position → d.position = d'.position
  velocity : fb.velocity = fb'.velocity → d.velocity = d'.velocity
  torque : fb.torque = fb'.torque → d.torque = d'.torque
  temperature : fb.temperature = fb'.temperature → d.temperature = d'.temperature

/-- A value that is sent in a field of the range is received clamped, and off by half a code at
most. -/
theorem within_of_code {limit : K} (h : 0 < limit) (x : K) :
    Within limit x (uint_to_float (float_to_uint x (-limit) limit) (-limit) limit) := by
  have hrange : -limit < limit := neg_lt_self h
  have herror := uint_to_float_clamp_error hrange x
  obtain ⟨hlo, hhi⟩ := uint_to_float_mem (float_to_uint x (-limit) limit) hrange
  have hstep : (limit - -limit) / (2 * 65535) = limit / 65535 := by
    ring
  rw [hstep] at herror
  exact ⟨herror, hlo, hhi⟩

/-- The tenths of a degree `make_feedback_frame` rounds to, before the cast. -/
def tenths (T : K) : ℤ := FixedPoint.lround (T * 10)

/-- Rounded to tenths a temperature is off by a twentieth of a degree at most. -/
theorem tenths_error (T : K) : |(tenths T : K) / 10 - T| ≤ 1 / 20 := by
  obtain ⟨hlo, hhi⟩ := abs_le.mp (FixedPoint.lround_error (T * 10))
  rw [tenths, abs_le]
  constructor <;> linarith

omit [IsStrictOrderedRing K] in
/-- The temperature is cast without a clamp: what is decoded are its tenths, reduced
to 16 bits. -/
theorem decoded_temperature {T : K} (hlo : -2 ^ 63 ≤ tenths T) (hhi : tenths T < 2 ^ 63) :
    ((UInt16.ofInt (DoubleMath.lround (T * ((10 : ℕ) : K)))).toNat : K)
        * (((1 : ℕ) : K) / ((10 : ℕ) : K)) = ((tenths T % 65536 : ℤ) : K) / 10 := by
  have hcode : ((UInt16.ofInt (DoubleMath.lround (T * ((10 : ℕ) : K)))).toNat : ℤ)
      = tenths T % 65536 := by
    rw [UInt16.ofInt, UInt16.toNat_ofNat', Nat.cast_ofNat,
      FixedPoint.doubleMath_lround (x := T * 10) hlo hhi]
    unfold tenths
    omega
  rw [← hcode, Int.cast_natCast]
  push_cast
  ring

/-- **Encoding keeps each field, clamped and up to half a code**, and nothing of one field shows in
another: identifier, mode and fault bits come back as they were, reduced to their width, and a
change of one argument changes no other field. -/
theorem parse_make_feedback_frame_accurate {limits : ActuatorLimits K} (hlimits : limits.Positive)
    (fb : Feedback K) (hmode : fb.mode.raw ≤ 3) (hlow : 0 ≤ fb.temperature)
    (hhigh : fb.temperature ≤ 6553.5) :
    ∃ d, parse_feedback (make_feedback_frame fb limits) limits = some d ∧ fb.Recovers limits d ∧
      ∀ fb', ∃ d', parse_feedback (make_feedback_frame fb' limits) limits = some d' ∧
        fb.FieldWise fb' d d' := by
  have hmode' : fb.mode.raw &&& 0x03 = fb.mode.raw := by
    apply UInt8.toNat_inj.mp
    have hle : fb.mode.raw.toNat ≤ 3 := hmode
    rw [mask8_toNat _ 0x03 (w := 2) rfl]
    omega
  -- inside the representable range the cast keeps the code of the temperature
  have hmem : 0 ≤ tenths fb.temperature ∧ tenths fb.temperature ≤ 65535 :=
    FixedPoint.lround_mem (by push_cast; linarith) (by push_cast; linarith)
  have htemp : tenths fb.temperature % 65536 = tenths fb.temperature := by omega
  refine ⟨_, parse_make_feedback_frame fb limits limits, ?_, fun fb' => ⟨_,
    parse_make_feedback_frame fb' limits limits, ?_⟩⟩
  · refine ⟨rfl, rfl, congrArg MotorMode.mk hmode', rfl, within_of_code hlimits.position _,
      within_of_code hlimits.velocity _, within_of_code hlimits.torque _, ?_⟩
    dsimp only
    rw [decoded_temperature (by omega) (by omega), htemp]
    exact tenths_error fb.temperature
  · constructor <;> intro h <;> dsimp only <;> rw [h]

/-- A position beyond the range, a torque at its lower end, two faults that do not fit. -/
theorem parse_make_feedback_frame_accurate_clamped :
    ∃ d, parse_feedback (make_feedback_frame
        (⟨1, 0xFD, ⟨3⟩, ⟨0xFF⟩, 20, 1, -17, 61 / 2⟩ : Feedback ℚ) fixtures.rs02)
        fixtures.rs02 = some d ∧
      Feedback.Recovers fixtures.rs02
        ⟨1, 0xFD, ⟨3⟩, ⟨0xFF⟩, 20, 1, -17, 61 / 2⟩ d ∧
      ∀ fb', ∃ d', parse_feedback (make_feedback_frame fb' fixtures.rs02)
          fixtures.rs02 = some d' ∧
        Feedback.FieldWise ⟨1, 0xFD, ⟨3⟩, ⟨0xFF⟩, 20, 1, -17, 61 / 2⟩ fb' d d' :=
  parse_make_feedback_frame_accurate rs02_positive _ (by decide)
    (by norm_num) (by norm_num)

/-! ## Ranges of temperatures

The conditions below are about temperatures, not about what `make_feedback_frame` computes
of them. A temperature has reached `n` tenths when it has reached the middle between
`n - 1` and `n`. Between two such middles lies a tenth, and 65536 tenths are a turn. -/

section Ranges

omit [IsStrictOrderedRing K] [FloorRing K]

/-- `T` has reached the middle between `n - 1` and `n` tenths of a degree. A temperature
that is in the middle is rounded away from zero, so it counts as `n` tenths only when that
is the higher side. -/
def Reaches (n : ℤ) (T : K) : Prop :=
  if 0 < n then (n : K) - 1 / 2 ≤ T * ((10 : ℕ) : K) else (n : K) - 1 / 2 < T * ((10 : ℕ) : K)

/-- `T` is within a twentieth of a degree of `n` tenths. -/
def InTenth (n : ℤ) (T : K) : Prop := Reaches n T ∧ ¬ Reaches (n + 1) T

/-- `T` lies in the `k`-th turn, the range of 6553.6 degrees from a twentieth below
`6553.6 * k` up to a twentieth below `6553.6 * (k + 1)`. Turn 0 is what a frame can show. -/
def InTurn (k : ℤ) (T : K) : Prop := Reaches (65536 * k) T ∧ ¬ Reaches (65536 * (k + 1)) T

/-- Ten times `T` fits a `long` when it is rounded, as `std::lround` needs it. -/
def FitsLong (T : K) : Prop := Reaches (-2 ^ 63) T ∧ ¬ Reaches (2 ^ 63) T

/-- `T₂` is at least as far into its turn as `T₁` is into its own, or they are in the same
tenth of them. -/
def KeepsPlace (T₁ T₂ : K) : Prop :=
  ∃ k₁ k₂ : ℤ, InTurn k₁ T₁ ∧ InTurn k₂ T₂ ∧
    (T₁ * ((10 : ℕ) : K) - ((65536 * k₁ : ℤ) : K) ≤ T₂ * ((10 : ℕ) : K) - ((65536 * k₂ : ℤ) : K) ∨
      ∃ c : ℤ, InTenth (65536 * k₁ + c) T₁ ∧ InTenth (65536 * k₂ + c) T₂)

/-- `T` is in turn 0, or below it in the first tenth of a turn, or above it in the last one
of a turn: there the cast happens to give the end of the scale at which `T` saturates. -/
def OnScale (T : K) : Prop :=
  InTurn 0 T ∨ (∃ k < 0, InTenth (65536 * k) T) ∨ ∃ k > 0, InTenth (65536 * k + 65535) T

end Ranges

/-- What `make_feedback_frame` rounds to, by the middles that the temperature has reached. -/
theorem reaches_iff (n : ℤ) (T : K) : Reaches n T ↔ n ≤ tenths T := by
  rw [Reaches, tenths, FixedPoint.le_lround_iff, Nat.cast_ofNat]

/-- What is rounded to a tenth is the interval of a tenth around it. -/
theorem inTenth_iff (n : ℤ) (T : K) : InTenth n T ↔ tenths T = n := by
  rw [InTenth, reaches_iff, reaches_iff]
  omega

/-- A turn is 65536 tenths, counted after rounding. -/
theorem inTurn_iff (k : ℤ) (T : K) : InTurn k T ↔ tenths T / 65536 = k := by
  rw [InTurn, reaches_iff, reaches_iff]
  omega

/-- A temperature fits a `long` when its tenths do. -/
theorem fitsLong_iff (T : K) : FitsLong T ↔ -2 ^ 63 ≤ tenths T ∧ tenths T < 2 ^ 63 := by
  rw [FitsLong, reaches_iff, reaches_iff, not_le]

/-- Rounding to tenths keeps the order. -/
theorem tenths_mono {T U : K} (h : T ≤ U) : tenths T ≤ tenths U :=
  FixedPoint.lround_mono (by linarith)

/-- A whole number of tenths is not rounded, so each code has its own temperature. -/
theorem tenths_intCast (n : ℤ) : tenths ((n : K) / 10) = n := by
  rw [tenths, div_mul_cancel₀ _ (by norm_num), FixedPoint.lround_intCast]

/-- Between two temperatures that fit a `long` all do, by the order. -/
theorem FitsLong.between {T₁ T₂ T : K} (h₁ : FitsLong T₁) (h₂ : FitsLong T₂) (hlo : T₁ ≤ T)
    (hhi : T ≤ T₂) : FitsLong T := by
  rw [fitsLong_iff] at h₁ h₂ ⊢
  have hmono := tenths_mono hlo
  have hmono' := tenths_mono hhi
  omega

/-! ## Temperatures outside the representable range -/

/-- No code decodes to a temperature nearer to `T` than `d`. -/
def Nearest (T d : K) : Prop :=
  ∀ code : UInt16, |d - T| ≤ |(code.toNat : K) * (((1 : ℕ) : K) / ((10 : ℕ) : K)) - T|

omit [LinearOrder K] [IsStrictOrderedRing K] [FloorRing K] in
/-- The temperature of a code: that many tenths of a degree, which the codes cover from 0 to
6553.5. -/
theorem code_temperature (code : UInt16) :
    (code.toNat : K) * (((1 : ℕ) : K) / ((10 : ℕ) : K)) = ((code.toNat : ℤ) : K) / 10 := by
  push_cast
  ring

omit [IsStrictOrderedRing K] [FloorRing K] in
/-- What is meant by the nearest representable temperature: no code has one that is nearer. -/
theorem nearest_iff (T d : K) :
    Nearest T d ↔ ∀ code : UInt16, |d - T| ≤ |((code.toNat : ℤ) : K) / 10 - T| :=
  forall_congr' fun code => by rw [code_temperature]

omit [FloorRing K] in
/-- Below the scale the nearest temperature is that of its lower end. -/
theorem nearest_below {T : K} (hT : T ≤ 0) {c : ℤ} (hc : 0 ≤ c) :
    Nearest T ((c : K) / 10) ↔ c = 0 := by
  have hcK : (0 : K) ≤ c := Int.cast_nonneg hc
  rw [nearest_iff]
  constructor
  · intro hnear
    have hend := hnear 0
    rw [show ((0 : UInt16).toNat : ℤ) = 0 from rfl, Int.cast_zero, abs_of_nonneg (by linarith),
      abs_of_nonneg (by linarith)] at hend
    have hle : (c : K) ≤ ((0 : ℤ) : K) := by
      rw [Int.cast_zero]
      linarith
    exact le_antisymm (Int.cast_le.mp hle) hc
  · rintro rfl code
    have hcode : (0 : K) ≤ ((code.toNat : ℤ) : K) := Int.cast_nonneg (Int.natCast_nonneg _)
    rw [Int.cast_zero, abs_of_nonneg (by linarith), abs_of_nonneg (by linarith)]
    linarith

omit [FloorRing K] in
/-- Above the scale it is that of its upper end. -/
theorem nearest_above {T : K} (hT : 6553.5 ≤ T) {c : ℤ} (hc : c ≤ 65535) :
    Nearest T ((c : K) / 10) ↔ c = 65535 := by
  have htop : ((65535 : ℤ) : K) = 65535 := by norm_num
  have hcK : (c : K) ≤ ((65535 : ℤ) : K) := Int.cast_le.mpr hc
  rw [nearest_iff]
  constructor
  · intro hnear
    have hend := hnear 65535
    rw [show ((65535 : UInt16).toNat : ℤ) = 65535 from rfl, abs_of_nonpos (by linarith),
      abs_of_nonpos (by linarith)] at hend
    have hle : ((65535 : ℤ) : K) ≤ (c : K) := by
      linarith
    exact le_antisymm hc (Int.cast_le.mp hle)
  · rintro rfl code
    have hlt := code.toNat_lt
    have hcode : ((code.toNat : ℤ) : K) ≤ ((65535 : ℤ) : K) := Int.cast_le.mpr (by omega)
    rw [abs_of_nonpos (by linarith), abs_of_nonpos (by linarith)]
    linarith

/-- On the scale, rounding to tenths is rounding to the nearest code. -/
theorem nearest_tenths (T : K) : Nearest T ((tenths T : K) / 10) := by
  rw [nearest_iff]
  intro code
  have hscale : ∀ x : K, |x / 10 - T| = |x - T * 10| / 10 := by
    intro x
    have hten : (0 : K) < 10 := by norm_num
    rw [show x / 10 - T = (x - T * 10) / 10 by ring, abs_div, abs_of_pos hten]
  rw [hscale, hscale]
  exact div_le_div_of_nonneg_right (FixedPoint.lround_nearest (T * 10) _) (by norm_num)

/-- The cast hits the nearest temperature on the scale, and off it only where what is left
of the turns is the end that is nearest. -/
theorem nearest_iff_onScale (T : K) :
    Nearest T (((tenths T % 65536 : ℤ) : K) / 10) ↔ OnScale T := by
  obtain ⟨hlo, hhi⟩ := abs_le.mp (tenths_error T)
  -- the ranges, in tenths
  have hscale : OnScale T ↔ (0 ≤ tenths T ∧ tenths T ≤ 65535) ∨
      (tenths T < 0 ∧ tenths T % 65536 = 0) ∨ (65535 < tenths T ∧ tenths T % 65536 = 65535) := by
    simp only [OnScale, inTurn_iff, inTenth_iff]
    constructor
    · rintro (h | ⟨k, hk, h⟩ | ⟨k, hk, h⟩) <;> omega
    · rintro (h | ⟨hneg, h⟩ | ⟨hbig, h⟩)
      · exact .inl (by omega)
      · exact .inr (.inl ⟨tenths T / 65536, by omega, by omega⟩)
      · exact .inr (.inr ⟨tenths T / 65536, by omega, by omega⟩)
  rw [hscale]
  rcases (by omega : tenths T < 0 ∨ (0 ≤ tenths T ∧ tenths T ≤ 65535) ∨ 65535 < tenths T)
    with hneg | hmid | hbig
  · have hle : (tenths T : K) ≤ ((-1 : ℤ) : K) := Int.cast_le.mpr (by omega)
    rw [nearest_below (by push_cast at hle; linarith) (by omega)]
    omega
  · rw [show tenths T % 65536 = tenths T by omega]
    exact iff_of_true (nearest_tenths T) (.inl hmid)
  · have hge : ((65536 : ℤ) : K) ≤ (tenths T : K) := Int.cast_le.mpr (by omega)
    rw [nearest_above (by push_cast at hge; linarith) (by omega)]
    omega

/-- Two reduced temperatures are in order when their places in the turns are. A place that
is further on by less than a tenth makes no difference where both are in one tenth; a tie
cannot be rounded up for the lower temperature and down for the higher one. -/
theorem reduced_le_iff {T₁ T₂ : K} (hle : T₁ ≤ T₂) :
    ((tenths T₁ % 65536 : ℤ) : K) / 10 ≤ ((tenths T₂ % 65536 : ℤ) : K) / 10
      ↔ KeepsPlace T₁ T₂ := by
  have hmono := tenths_mono hle
  rw [div_le_div_iff_of_pos_right (by norm_num), Int.cast_le]
  simp only [KeepsPlace, inTurn_iff, inTenth_iff]
  have hup₁ : (tenths T₁ : K) - 1 / 2 ≤ T₁ * 10 ∧ T₁ * 10 ≤ (tenths T₁ : K) + 1 / 2 := by
    obtain ⟨hlo, hhi⟩ := abs_le.mp (tenths_error T₁)
    constructor <;> linarith
  have hup₂ : (tenths T₂ : K) - 1 / 2 ≤ T₂ * 10 ∧ T₂ * 10 ≤ (tenths T₂ : K) + 1 / 2 := by
    obtain ⟨hlo, hhi⟩ := abs_le.mp (tenths_error T₂)
    constructor <;> linarith
  constructor
  · intro hreduced
    refine ⟨_, _, rfl, rfl, ?_⟩
    rcases hreduced.lt_or_eq with hlt | heq
    · -- at least one tenth further on
      left
      have hone : tenths T₁ - 65536 * (tenths T₁ / 65536) + 1
          ≤ tenths T₂ - 65536 * (tenths T₂ / 65536) := by omega
      have honeK : (tenths T₁ : K) - ((65536 * (tenths T₁ / 65536) : ℤ) : K) + 1
          ≤ (tenths T₂ : K) - ((65536 * (tenths T₂ / 65536) : ℤ) : K) := by exact_mod_cast hone
      rw [Nat.cast_ofNat]
      linarith
    · exact .inr ⟨tenths T₁ % 65536, by omega, by omega⟩
  · rintro ⟨k₁, k₂, rfl, rfl, hplace | ⟨c, hc₁, hc₂⟩⟩
    · by_contra hlt
      have hone : tenths T₂ - 65536 * (tenths T₂ / 65536) + 1
          ≤ tenths T₁ - 65536 * (tenths T₁ / 65536) := by omega
      have honeK : (tenths T₂ : K) - ((65536 * (tenths T₂ / 65536) : ℤ) : K) + 1
          ≤ (tenths T₁ : K) - ((65536 * (tenths T₁ / 65536) : ℤ) : K) := by exact_mod_cast hone
      rw [Nat.cast_ofNat] at hplace
      -- only a tie on both sides would do, the lower one rounded up and the higher one down
      have htie₁ : T₁ * 10 = (tenths T₁ : K) - 1 / 2 := by linarith
      have htie₂ : T₂ * 10 = (tenths T₂ : K) + 1 / 2 := by linarith
      have hreach := (FixedPoint.le_lround_iff (T₁ * 10) (tenths T₁)).mp (le_refl (tenths T₁))
      have hnot := mt (FixedPoint.le_lround_iff (T₂ * 10) (tenths T₂ + 1)).mpr
        (not_le.mpr (Int.lt_succ (tenths T₂)))
      have hpos : 0 < tenths T₁ := by
        by_contra hneg
        rw [if_neg hneg, htie₁] at hreach
        exact lt_irrefl _ hreach
      rw [if_pos (by omega), htie₂] at hnot
      push_cast at hnot
      exact hnot (by linarith)
    · omega

/-- A range of temperatures keeps its order through the cast just when it is within one
turn: where it goes from one turn into the next, the last tenth of the one is shown as
6553.5 degrees and the first of the other as zero. -/
theorem reduced_mono_iff {T₁ T₂ : K} (hle : T₁ ≤ T₂) :
    (∀ T U : K, T₁ ≤ T → T ≤ U → U ≤ T₂ →
        ((tenths T % 65536 : ℤ) : K) / 10 ≤ ((tenths U % 65536 : ℤ) : K) / 10)
      ↔ ∃ k, InTurn k T₁ ∧ InTurn k T₂ := by
  simp only [inTurn_iff, div_le_div_iff_of_pos_right (show (0 : K) < 10 by norm_num), Int.cast_le]
  have hmono := tenths_mono hle
  constructor
  · intro h
    by_contra hturns
    have hnext : tenths T₁ / 65536 < tenths T₂ / 65536 := by
      by_contra hsame
      exact hturns ⟨_, rfl, by omega⟩
    -- the last temperature of the first turn and the first of the next, or the ends themselves
    let e : ℤ := 65536 * (tenths T₁ / 65536 + 1)
    have he₁ : tenths T₁ ≤ e - 1 := by omega
    have he₂ : e ≤ tenths T₂ := by omega
    obtain ⟨T, hT, hT'⟩ : ∃ T : K, T₁ ≤ T ∧ tenths T = e - 1 := by
      rcases he₁.lt_or_eq with hlt | heq
      · refine ⟨((e - 1 : ℤ) : K) / 10, ?_, tenths_intCast _⟩
        by_contra hgt
        have hback := tenths_mono (not_le.mp hgt).le
        rw [tenths_intCast] at hback
        omega
      · exact ⟨T₁, le_rfl, heq⟩
    obtain ⟨U, hU, hU'⟩ : ∃ U : K, U ≤ T₂ ∧ tenths U = e := by
      rcases he₂.lt_or_eq with hlt | heq
      · refine ⟨(e : K) / 10, ?_, tenths_intCast _⟩
        by_contra hgt
        have hback := tenths_mono (not_le.mp hgt).le
        rw [tenths_intCast] at hback
        omega
      · exact ⟨T₂, le_rfl, heq.symm⟩
    have hTU : T ≤ U := by
      by_contra hgt
      have hback := tenths_mono (not_le.mp hgt).le
      omega
    have horder := h T U hT hTU hU
    omega
  · rintro ⟨k, hk₁, hk₂⟩ T U hT hTU hU
    have h₁ := tenths_mono hT
    have h₂ := tenths_mono hTU
    have h₃ := tenths_mono hU
    omega

/-- **Which temperatures the unclamped cast keeps in order.** Of two temperatures within a
`long` the higher one is decoded as the higher exactly when it is as far into its turn of
6553.6 degrees as the lower one is into its own, up to a tenth that they share. A single
one is decoded as the nearest representable temperature exactly on the scale, or off it by
the coincidence that `OnScale` names. And all the temperatures from the one to the other
keep their order exactly when no end of a turn lies between them, so none do across zero. -/
theorem temperature_order (fb₁ fb₂ : Feedback K) (limits dlimits : ActuatorLimits K)
    (hle : fb₁.temperature ≤ fb₂.temperature) (hlong₁ : FitsLong fb₁.temperature)
    (hlong₂ : FitsLong fb₂.temperature) :
    (∃ d₁ d₂, parse_feedback (make_feedback_frame fb₁ limits) dlimits = some d₁ ∧
      parse_feedback (make_feedback_frame fb₂ limits) dlimits = some d₂ ∧
      (d₁.temperature ≤ d₂.temperature ↔ KeepsPlace fb₁.temperature fb₂.temperature) ∧
      (Nearest fb₁.temperature d₁.temperature ↔ OnScale fb₁.temperature) ∧
      (Nearest fb₂.temperature d₂.temperature ↔ OnScale fb₂.temperature)) ∧
    ((∀ fb fb' d d' : Feedback K, fb₁.temperature ≤ fb.temperature →
        fb.temperature ≤ fb'.temperature → fb'.temperature ≤ fb₂.temperature →
        parse_feedback (make_feedback_frame fb limits) dlimits = some d →
        parse_feedback (make_feedback_frame fb' limits) dlimits = some d' →
        d.temperature ≤ d'.temperature) ↔
      ∃ k, InTurn k fb₁.temperature ∧ InTurn k fb₂.temperature) := by
  -- what is decoded of any temperature in between
  have hdecoded : ∀ (fb d : Feedback K), fb₁.temperature ≤ fb.temperature →
      fb.temperature ≤ fb₂.temperature →
      parse_feedback (make_feedback_frame fb limits) dlimits = some d →
      d.temperature = ((tenths fb.temperature % 65536 : ℤ) : K) / 10 := by
    intro fb d hlo hhi hparse
    obtain ⟨hmin, hmax⟩ := (fitsLong_iff _).mp (hlong₁.between hlong₂ hlo hhi)
    rw [parse_make_feedback_frame, Option.some.injEq] at hparse
    rw [← hparse]
    exact decoded_temperature hmin hmax
  constructor
  · refine ⟨_, _, parse_make_feedback_frame fb₁ limits dlimits,
      parse_make_feedback_frame fb₂ limits dlimits, ?_⟩
    rw [hdecoded fb₁ _ le_rfl hle (parse_make_feedback_frame fb₁ limits dlimits),
      hdecoded fb₂ _ hle le_rfl (parse_make_feedback_frame fb₂ limits dlimits)]
    exact ⟨reduced_le_iff hle, nearest_iff_onScale _, nearest_iff_onScale _⟩
  · rw [← reduced_mono_iff hle]
    constructor
    · intro h T U hT hTU hU
      have hd := parse_make_feedback_frame { fb₁ with temperature := T } limits dlimits
      have hd' := parse_make_feedback_frame { fb₁ with temperature := U } limits dlimits
      have horder := h _ _ _ _ hT hTU hU hd hd'
      rwa [hdecoded _ _ hT (hTU.trans hU) hd, hdecoded _ _ (hT.trans hTU) hU hd'] at horder
    · intro h fb fb' d d' hT hTU hU hd hd'
      rw [hdecoded fb d hT (hTU.trans hU) hd, hdecoded fb' d' (hT.trans hTU) hU hd']
      exact h _ _ hT hTU hU

/-- Across zero: minus one degree is in the turn before that of zero, and further into it
than zero is into its own. -/
theorem temperature_order_zero :
    (∃ d₁ d₂ : Feedback ℚ,
      parse_feedback (make_feedback_frame ⟨1, 0xFD, ⟨0⟩, ⟨0⟩, 0, 0, 0, -1⟩ fixtures.rs02)
          fixtures.rs02 = some d₁ ∧
        parse_feedback (make_feedback_frame ⟨1, 0xFD, ⟨0⟩, ⟨0⟩, 0, 0, 0, 0⟩ fixtures.rs02)
          fixtures.rs02 = some d₂ ∧
        (d₁.temperature ≤ d₂.temperature ↔ KeepsPlace (-1 : ℚ) 0) ∧
        (Nearest (-1) d₁.temperature ↔ OnScale (-1 : ℚ)) ∧
        (Nearest 0 d₂.temperature ↔ OnScale (0 : ℚ))) ∧
    ((∀ fb fb' d d' : Feedback ℚ, -1 ≤ fb.temperature →
        fb.temperature ≤ fb'.temperature → fb'.temperature ≤ 0 →
        parse_feedback (make_feedback_frame fb fixtures.rs02) fixtures.rs02 = some d →
        parse_feedback (make_feedback_frame fb' fixtures.rs02) fixtures.rs02 = some d' →
        d.temperature ≤ d'.temperature) ↔
      ∃ k, InTurn k (-1 : ℚ) ∧ InTurn k (0 : ℚ)) :=
  temperature_order ⟨1, 0xFD, ⟨0⟩, ⟨0⟩, 0, 0, 0, -1⟩ ⟨1, 0xFD, ⟨0⟩, ⟨0⟩, 0, 0, 0, 0⟩ _ _
    (by norm_num) ((fitsLong_iff _).mpr (by decide +kernel))
    ((fitsLong_iff _).mpr (by decide +kernel))

/-- One degree below zero is reported as 6552.6 degrees, and zero as zero, so the lower temperature
is decoded as the higher. -/
theorem temperature_wraps_below_zero :
    ¬ ∀ fb₁ fb₂ d₁ d₂ : Feedback ℚ, fb₁.temperature ≤ fb₂.temperature →
      parse_feedback (make_feedback_frame fb₁ fixtures.rs02) fixtures.rs02
        = some d₁ →
      parse_feedback (make_feedback_frame fb₂ fixtures.rs02) fixtures.rs02
        = some d₂ →
      d₁.temperature ≤ d₂.temperature := by
  intro ordered
  have h := ordered ⟨1, 0xFD, ⟨0⟩, ⟨0⟩, 0, 0, 0, -1⟩ ⟨1, 0xFD, ⟨0⟩, ⟨0⟩, 0, 0, 0, 0⟩ _ _
    (by norm_num) (parse_make_feedback_frame _ _ _) (parse_make_feedback_frame _ _ _)
  revert h
  decide +kernel

end Robstride
