/-
What the decoders read off the encoders' frames.

`Protocol.lean` has the code; this file has the arithmetic of its bit fields.
The fields of an identifier are disjoint, so or-ing them together is adding them
(`make_id_toNat`), and from there every getter is a division and a remainder for
`omega`. The last section composes the whole feedback path,
`parse_feedback` after `make_feedback_frame`, without assuming anything of the
arithmetic the scaled fields are computed in.
-/
import RobstrideDriver.Protocol

set_option autoImplicit false

open CppArith

namespace Robstride

/-! ## The identifier as a number

Fields are disjoint, so or-ing them is adding them: every later fact about an
identifier is division and remainder. -/

theorem CommType.code_lt (t : CommType) : t.code.toNat < 32 := by
  cases t <;> decide

/-- Different types have different codes, so that a code names its type. -/
theorem CommType.code_inj {t t' : CommType} : t.code = t'.code ↔ t = t' := by
  constructor
  · cases t <;> cases t' <;> decide
  · rintro rfl
    rfl

/-- The three fields of an identifier do not overlap: it is their sum, each shifted to its place. -/
theorem make_id_toNat (t : CommType) (a : UInt16) (d : UInt8) :
    (make_id t a d).toNat = t.code.toNat * 2 ^ 24 + a.toNat * 2 ^ 8 + d.toNat := by
  have ht := t.code_lt
  have ha := a.toNat_lt
  have hd := d.toNat_lt
  have hlow : a.toNat <<< 8 ||| d.toNat = a.toNat <<< 8 + d.toNat :=
    (Nat.shiftLeft_add_eq_or_of_lt hd _).symm
  have hhigh : t.code.toNat <<< 24 ||| (a.toNat <<< 8 + d.toNat)
      = t.code.toNat <<< 24 + (a.toNat <<< 8 + d.toNat) := by
    refine (Nat.shiftLeft_add_eq_or_of_lt ?_ _).symm
    rw [Nat.shiftLeft_eq]
    omega
  rw [make_id]
  simp only [UInt32.toNat_or, UInt32.toNat_shiftLeft, UInt8.toNat_toUInt32, UInt16.toNat_toUInt32]
  rw [show (24 : UInt32).toNat % 32 = 24 from rfl, show (8 : UInt32).toNat % 32 = 8 from rfl,
    Nat.mod_eq_of_lt (a := t.code.toNat <<< 24) (by rw [Nat.shiftLeft_eq]; omega),
    Nat.mod_eq_of_lt (a := a.toNat <<< 8) (by rw [Nat.shiftLeft_eq]; omega),
    Nat.or_assoc, hlow, hhigh, Nat.shiftLeft_eq, Nat.shiftLeft_eq]
  omega

/-- Masking the low bits of a byte is the remainder by a power of two. -/
theorem mask8_toNat (x mask : UInt8) {w : ℕ} (hm : mask.toNat = 2 ^ w - 1) :
    (x &&& mask).toNat = x.toNat % 2 ^ w := by
  rw [UInt8.toNat_and, hm, Nat.and_two_pow_sub_one_eq_mod]

theorem mask32_toNat (x mask : UInt32) {w : ℕ} (hm : mask.toNat = 2 ^ w - 1) :
    (x &&& mask).toNat = x.toNat % 2 ^ w := by
  rw [UInt32.toNat_and, hm, Nat.and_two_pow_sub_one_eq_mod]

/-- A shifted and masked field of an identifier, as a number. -/
theorem id_field_toNat (x : UInt32) (shift mask : UInt32) {k w : ℕ}
    (hk : shift.toNat % 32 = k) (hm : mask.toNat = 2 ^ w - 1) (hw : w ≤ 8) :
    ((x >>> shift) &&& mask).toUInt8.toNat = x.toNat / 2 ^ k % 2 ^ w := by
  have hlt : x.toNat / 2 ^ k % 2 ^ w < 2 ^ w := Nat.mod_lt _ (Nat.two_pow_pos w)
  have hle : 2 ^ w ≤ 2 ^ 8 := Nat.pow_le_pow_right (by decide) hw
  rw [UInt32.toNat_toUInt8, mask32_toNat _ _ hm, UInt32.toNat_shiftRight, hk,
    Nat.shiftRight_eq_div_pow, Nat.mod_eq_of_lt (by omega)]

theorem get_comm_type_toNat (f : CanFrame) :
    (get_comm_type f).toNat = f.id.toNat / 2 ^ 24 % 2 ^ 5 :=
  id_field_toNat f.id 24 0x1F rfl rfl (by decide)

theorem get_source_motor_id_toNat (f : CanFrame) :
    (get_source_motor_id f).toNat = f.id.toNat / 2 ^ 8 % 2 ^ 8 :=
  id_field_toNat f.id 8 0xFF rfl rfl (by decide)

theorem low_byte_toNat (x : UInt32) : (x &&& 0xFF).toUInt8.toNat = x.toNat % 2 ^ 8 := by
  rw [UInt32.toNat_toUInt8, mask32_toNat x 0xFF (w := 8) rfl, Nat.mod_mod]

@[simp] theorem get_comm_type_make_id (t : CommType) (a : UInt16) (d : UInt8)
    (data : Vector UInt8 8) (dlc : UInt8) :
    get_comm_type ⟨make_id t a d, data, dlc⟩ = t.code := by
  have ht := t.code_lt
  have ha := a.toNat_lt
  have hd := d.toNat_lt
  apply UInt8.toNat_inj.mp
  rw [get_comm_type_toNat, make_id_toNat]
  omega

@[simp] theorem get_source_motor_id_make_id (t : CommType) (a : UInt16) (d : UInt8)
    (data : Vector UInt8 8) (dlc : UInt8) :
    get_source_motor_id ⟨make_id t a d, data, dlc⟩ = a.toUInt8 := by
  have hd := d.toNat_lt
  apply UInt8.toNat_inj.mp
  rw [get_source_motor_id_toNat, make_id_toNat, UInt16.toNat_toUInt8]
  omega

@[simp] theorem get_host_id_make_id (t : CommType) (a : UInt16) (d : UInt8)
    (data : Vector UInt8 8) (dlc : UInt8) :
    get_host_id ⟨make_id t a d, data, dlc⟩ = a.toUInt8 :=
  get_source_motor_id_make_id t a d data dlc

@[simp] theorem get_target_motor_id_make_id (t : CommType) (a : UInt16) (d : UInt8)
    (data : Vector UInt8 8) (dlc : UInt8) :
    get_target_motor_id ⟨make_id t a d, data, dlc⟩ = d := by
  have hd := d.toNat_lt
  apply UInt8.toNat_inj.mp
  rw [get_target_motor_id, low_byte_toNat, make_id_toNat]
  omega

/-! ## Words and their bytes -/

theorem hi_byte_toNat (x : UInt16) : (hi_byte x).toNat = x.toNat / 2 ^ 8 := by
  have hx := x.toNat_lt
  rw [hi_byte, UInt16.toNat_toUInt8, UInt16.toNat_shiftRight,
    show (8 : UInt16).toNat % 16 = 8 from rfl, Nat.shiftRight_eq_div_pow]
  omega

theorem lo_byte_toNat (x : UInt16) : (lo_byte x).toNat = x.toNat % 2 ^ 8 := by
  rw [lo_byte, UInt16.toNat_toUInt8, UInt16.toNat_and,
    show (0xFF : UInt16).toNat = 2 ^ 8 - 1 from rfl, Nat.and_two_pow_sub_one_eq_mod, Nat.mod_mod]

theorem word_toNat (hi lo : UInt8) : (word hi lo).toNat = hi.toNat * 2 ^ 8 + lo.toNat := by
  have hh := hi.toNat_lt
  have hl := lo.toNat_lt
  rw [word, UInt16.toNat_or, UInt16.toNat_shiftLeft, UInt8.toNat_toUInt16, UInt8.toNat_toUInt16,
    show (8 : UInt16).toNat % 16 = 8 from rfl,
    Nat.mod_eq_of_lt (by rw [Nat.shiftLeft_eq]; omega),
    ← Nat.shiftLeft_add_eq_or_of_lt hl, Nat.shiftLeft_eq]

/-- Splitting a word and joining it again, the round trip of every scaled field
and of every parameter index. -/
@[simp] theorem word_hi_lo (x : UInt16) : word (hi_byte x) (lo_byte x) = x := by
  apply UInt16.toNat_inj.mp
  rw [word_toNat, hi_byte_toNat, lo_byte_toNat]
  omega

@[simp] theorem hi_byte_word (hi lo : UInt8) : hi_byte (word hi lo) = hi := by
  have hl := lo.toNat_lt
  apply UInt8.toNat_inj.mp
  rw [hi_byte_toNat, word_toNat]
  omega

@[simp] theorem lo_byte_word (hi lo : UInt8) : lo_byte (word hi lo) = lo := by
  have hl := lo.toNat_lt
  apply UInt8.toNat_inj.mp
  rw [lo_byte_toNat, word_toNat]
  omega

@[simp] theorem toUInt16_toUInt8 (x : UInt8) : x.toUInt16.toUInt8 = x := by
  apply UInt8.toNat_inj.mp
  rw [UInt16.toNat_toUInt8, UInt8.toNat_toUInt16]
  have := x.toNat_lt
  omega

/-! ## What a decoder reads off an encoded frame -/

@[simp] theorem frame_index_param_data (i : UInt32) (index : UInt16) (v : Vector UInt8 4)
    (dlc : UInt8) : frame_index ⟨i, param_data index v, dlc⟩ = index :=
  word_hi_lo index

@[simp] theorem frame_value_param_data (i : UInt32) (index : UInt16) (v : Vector UInt8 4)
    (dlc : UInt8) : frame_value ⟨i, param_data index v, dlc⟩ = v := by
  apply Vector.ext
  intro k hk
  match k, hk with
  | 0, _ => rfl
  | 1, _ => rfl
  | 2, _ => rfl
  | 3, _ => rfl

theorem parse_param_response_of {f : CanFrame} (ht : get_comm_type f = CommType.ReadParam.code)
    (hd : ¬ f.dlc < 8) :
    parse_param_response f = some ⟨get_source_motor_id f, frame_index f, frame_value f⟩ := by
  rw [parse_param_response, if_neg (not_not.mpr ht), if_neg hd]

theorem parse_feedback_of {D : Type*} [Add D] [Sub D] [Mul D] [Div D] [Neg D] [NatCast D]
    {f : CanFrame} (ht : get_comm_type f = CommType.Feedback.code) (hd : f.dlc = 8)
    (limits : ActuatorLimits D) : ∃ fb, parse_feedback f limits = some fb := by
  have hd' : ¬ f.dlc < 8 := by
    rw [hd]
    decide
  rw [parse_feedback, if_neg (not_not.mpr ht), if_neg hd']
  exact ⟨_, rfl⟩

/-- Parsed feedback is from the source of its frame. -/
theorem parse_feedback_motor_id {D : Type*} [Add D] [Sub D] [Mul D] [Div D] [Neg D] [NatCast D]
    {f : CanFrame} {limits : ActuatorLimits D} {fb : Feedback D}
    (h : parse_feedback f limits = some fb) : fb.motor_id = get_source_motor_id f := by
  rw [parse_feedback] at h
  split_ifs at h
  obtain rfl := Option.some.inj h
  rfl

theorem parse_param_response_eq_some {f : CanFrame} {resp : ParamResponse}
    (h : parse_param_response f = some resp) : ¬ f.dlc < 8 ∧ resp.data = frame_value f := by
  rw [parse_param_response] at h
  split_ifs at h with ht hd
  obtain rfl := Option.some.inj h
  exact ⟨hd, rfl⟩

section Feedback

variable {D : Type*}

/-- The second data area of a feedback frame holds mode, faults and motor id side by side, the first
two cut to the bits they have there. -/
theorem feedback_area_toNat (fb : Feedback D) :
    (feedback_area fb).toNat
      = fb.mode.raw.toNat % 4 * 2 ^ 14 + fb.fault.raw.toNat % 64 * 2 ^ 8 + fb.motor_id.toNat := by
  have hm := fb.motor_id.toNat_lt
  have hmode := fb.mode.raw.toNat_lt
  have hlow : (fb.fault.raw.toNat % 64) <<< 8 ||| fb.motor_id.toNat
      = (fb.fault.raw.toNat % 64) <<< 8 + fb.motor_id.toNat :=
    (Nat.shiftLeft_add_eq_or_of_lt hm _).symm
  have hhigh : (fb.mode.raw.toNat % 4) <<< 14 ||| ((fb.fault.raw.toNat % 64) <<< 8
        + fb.motor_id.toNat)
      = (fb.mode.raw.toNat % 4) <<< 14 + ((fb.fault.raw.toNat % 64) <<< 8 + fb.motor_id.toNat) := by
    refine (Nat.shiftLeft_add_eq_or_of_lt ?_ _).symm
    rw [Nat.shiftLeft_eq]
    omega
  have hmask : (fb.fault.raw &&& 0x3F).toNat = fb.fault.raw.toNat % 64 :=
    mask8_toNat _ _ (w := 6) rfl
  -- the cast back to 16 bits keeps two bits of the mode
  have hcut : fb.mode.raw.toNat <<< 14 % 2 ^ 16 = (fb.mode.raw.toNat % 4) <<< 14 := by
    rw [Nat.shiftLeft_eq, Nat.shiftLeft_eq]
    omega
  rw [feedback_area]
  simp only [UInt16.toNat_or, UInt16.toNat_shiftLeft, UInt8.toNat_toUInt16, hmask]
  rw [show (14 : UInt16).toNat % 16 = 14 from rfl, show (8 : UInt16).toNat % 16 = 8 from rfl, hcut,
    Nat.mod_eq_of_lt (a := (fb.fault.raw.toNat % 64) <<< 8) (by rw [Nat.shiftLeft_eq]; omega),
    Nat.or_assoc, hlow, hhigh, Nat.shiftLeft_eq, Nat.shiftLeft_eq]
  omega

variable [Sub D] [Mul D] [Div D] [Neg D] [NatCast D] [LT D] [DecidableLT D] [DoubleMath D]

@[simp] theorem get_comm_type_make_feedback_frame (fb : Feedback D) (limits : ActuatorLimits D) :
    get_comm_type (make_feedback_frame fb limits) = CommType.Feedback.code := by
  simp only [make_feedback_frame, get_comm_type_make_id]

@[simp] theorem get_source_motor_id_make_feedback_frame (fb : Feedback D)
    (limits : ActuatorLimits D) :
    get_source_motor_id (make_feedback_frame fb limits) = fb.motor_id := by
  have hm := fb.motor_id.toNat_lt
  simp only [make_feedback_frame, get_source_motor_id_make_id]
  apply UInt8.toNat_inj.mp
  rw [UInt16.toNat_toUInt8, feedback_area_toNat]
  omega

/-- **`parse_feedback` after `make_feedback_frame`**, with nothing assumed of the
arithmetic: the ids survive, the mode keeps two bits and the faults six, and each
scaled field is the decoding of its own code and of nothing else. -/
theorem parse_make_feedback_frame [Add D] (fb : Feedback D) (limits dlimits : ActuatorLimits D) :
    parse_feedback (make_feedback_frame fb limits) dlimits = some
      { motor_id := fb.motor_id
        host_id := fb.host_id
        mode := ⟨fb.mode.raw &&& 0x03⟩
        fault := ⟨fb.fault.raw &&& 0x3F⟩
        position := uint_to_float (float_to_uint fb.position (-limits.position) limits.position)
          (-dlimits.position) dlimits.position
        velocity := uint_to_float (float_to_uint fb.velocity (-limits.velocity) limits.velocity)
          (-dlimits.velocity) dlimits.velocity
        torque := uint_to_float (float_to_uint fb.torque (-limits.torque) limits.torque)
          (-dlimits.torque) dlimits.torque
        temperature := ((UInt16.ofInt (DoubleMath.lround (fb.temperature * ((10 : ℕ) : D)))).toNat
          : D) * (((1 : ℕ) : D) / ((10 : ℕ) : D)) } := by
  have hid : (make_feedback_frame fb limits).id.toNat
      = 2 * 2 ^ 24 + (feedback_area fb).toNat * 2 ^ 8 + fb.host_id.toNat := by
    simp only [make_feedback_frame, make_id_toNat]
    rfl
  have harea := feedback_area_toNat fb
  have hhost := fb.host_id.toNat_lt
  have hmotor := fb.motor_id.toNat_lt
  have hmode : (((make_feedback_frame fb limits).id >>> 22) &&& 0x03).toUInt8
      = fb.mode.raw &&& 0x03 := by
    apply UInt8.toNat_inj.mp
    rw [id_field_toNat _ 22 0x03 (k := 22) (w := 2) rfl rfl (by decide), hid,
      mask8_toNat _ 0x03 (w := 2) rfl]
    omega
  have hfault : (((make_feedback_frame fb limits).id >>> 16) &&& 0x3F).toUInt8
      = fb.fault.raw &&& 0x3F := by
    apply UInt8.toNat_inj.mp
    rw [id_field_toNat _ 16 0x3F (k := 16) (w := 6) rfl rfl (by decide), hid,
      mask8_toNat _ 0x3F (w := 6) rfl]
    omega
  have hdest : ((make_feedback_frame fb limits).id &&& 0xFF).toUInt8 = fb.host_id := by
    apply UInt8.toNat_inj.mp
    rw [low_byte_toNat, hid]
    omega
  have hdlc : ¬ (make_feedback_frame fb limits).dlc < 8 := by
    show ¬ (8 : UInt8) < 8
    decide
  rw [parse_feedback, if_neg (by simp), if_neg hdlc, hmode, hfault, hdest,
    get_source_motor_id_make_feedback_frame]
  simp [make_feedback_frame]

end Feedback

end Robstride
