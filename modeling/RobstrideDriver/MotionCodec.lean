/-
The motion-control frame in exact arithmetic.

Five scaled arguments share one frame: the torque sits between the type and the
address in the identifier, the other four are the data field. The host never
reads such a frame back, so the reader is this file's own, `motion_codes`, after
the layout in the protocol documentation: the 16 bits above the address, and four
big-endian words.

What the motor reads is each argument, clamped and within half a code
(`motion_frame_carries`), and no argument shows in the field of another.
-/
import RobstrideDriver.FeedbackCodec

set_option autoImplicit false

open CppArith

namespace Robstride

/-- The arguments of a motion command. -/
structure MotionCommand (D : Type*) where
  torque : D
  position : D
  velocity : D
  kp : D
  kd : D
deriving DecidableEq, Repr

/-- The five codes in a frame: bits 23-8 of the identifier, and the words of the data. -/
structure MotionCodes where
  torque : UInt16
  position : UInt16
  velocity : UInt16
  kp : UInt16
  kd : UInt16
deriving DecidableEq, Repr

/-- The `k`-th big-endian word of the data field. -/
def data_word (f : CanFrame) (k : Fin 4) : UInt16 :=
  word f.data[2 * k.val] f.data[2 * k.val + 1]

def motion_codes (f : CanFrame) : MotionCodes where
  torque := (f.id >>> 8).toUInt16
  position := data_word f 0
  velocity := data_word f 1
  kp := data_word f 2
  kd := data_word f 3

section Frame

variable {D : Type*} [Sub D] [Mul D] [Div D] [Neg D] [NatCast D]
  [LT D] [DecidableLT D] [DoubleMath D]

def MotionCommand.frame (motor_id : UInt8) (limits : ActuatorLimits D) (c : MotionCommand D) :
    CanFrame :=
  make_motion_control_frame motor_id c.torque c.position c.velocity c.kp c.kd limits

/-- The code of each argument over its own range. -/
def MotionCommand.codes (limits : ActuatorLimits D) (c : MotionCommand D) : MotionCodes where
  torque := float_to_uint c.torque (-limits.torque) limits.torque
  position := float_to_uint c.position (-limits.position) limits.position
  velocity := float_to_uint c.velocity (-limits.velocity) limits.velocity
  kp := float_to_uint c.kp ((0 : ℕ) : D) limits.kp_max
  kd := float_to_uint c.kd ((0 : ℕ) : D) limits.kd_max

/-- The identifier of a motion command: the type, the code of the torque, and the motor. -/
theorem motion_area_toNat (motor_id : UInt8) (limits : ActuatorLimits D) (c : MotionCommand D) :
    (c.frame motor_id limits).id.toNat
      = 2 ^ 24 + (c.codes limits).torque.toNat * 2 ^ 8 + motor_id.toNat :=
  make_id_toNat .MotionControl _ _

/-- The layout: reading the five codes off a frame gives the codes that went in. -/
theorem motion_codes_frame (motor_id : UInt8) (limits : ActuatorLimits D) (c : MotionCommand D) :
    motion_codes (c.frame motor_id limits) = c.codes limits := by
  have htorque : ((c.frame motor_id limits).id >>> 8).toUInt16 = (c.codes limits).torque := by
    have hlow := motor_id.toNat_lt
    have hcode := (c.codes limits).torque.toNat_lt
    apply UInt16.toNat_inj.mp
    rw [UInt32.toNat_toUInt16, UInt32.toNat_shiftRight, motion_area_toNat,
      show (8 : UInt32).toNat % 32 = 8 from rfl, Nat.shiftRight_eq_div_pow]
    omega
  rw [motion_codes, htorque]
  simp [MotionCommand.frame, make_motion_control_frame, MotionCommand.codes, data_word]

/-- Two frames that differ in the fields of the arguments that differ, and nowhere else. -/
structure MotionCommand.FieldWise (c c' : MotionCommand D) (f f' : CanFrame) : Prop where
  above : f.id.toNat / 2 ^ 24 = f'.id.toNat / 2 ^ 24
  below : f.id.toNat % 2 ^ 8 = f'.id.toNat % 2 ^ 8
  dlc : f.dlc = f'.dlc
  torque : c.torque = c'.torque → f.id = f'.id
  position : c.position = c'.position → f.data[0] = f'.data[0] ∧ f.data[1] = f'.data[1]
  velocity : c.velocity = c'.velocity → f.data[2] = f'.data[2] ∧ f.data[3] = f'.data[3]
  kp : c.kp = c'.kp → f.data[4] = f'.data[4] ∧ f.data[5] = f'.data[5]
  kd : c.kd = c'.kd → f.data[6] = f'.data[6] ∧ f.data[7] = f'.data[7]

/-- Where two commands agree in an argument their frames agree in the bits of its field, whatever
the other arguments are. -/
theorem motion_frame_fieldWise (motor_id : UInt8) (limits : ActuatorLimits D)
    (c c' : MotionCommand D) :
    c.FieldWise c' (c.frame motor_id limits) (c'.frame motor_id limits) := by
  have hlow := motor_id.toNat_lt
  have hcode := (c.codes limits).torque.toNat_lt
  have hcode' := (c'.codes limits).torque.toNat_lt
  refine ⟨?_, ?_, rfl, ?_, ?_, ?_, ?_, ?_⟩
  · rw [motion_area_toNat, motion_area_toNat]
    omega
  · rw [motion_area_toNat, motion_area_toNat]
    omega
  all_goals
    intro h
    simp [MotionCommand.frame, make_motion_control_frame, h]

end Frame

section Exact

variable {K : Type} [Field K] [LinearOrder K] [IsStrictOrderedRing K] [FloorRing K]

/-- What the code of `x` stands for in a range: a value of the range, within half a code
of the clamped `x`. -/
structure Carries (lo hi x : K) (code : UInt16) : Prop where
  lower : lo ≤ uint_to_float code lo hi
  upper : uint_to_float code lo hi ≤ hi
  error : |uint_to_float code lo hi - clamp x lo hi| ≤ (hi - lo) / (2 * 65535)

/-- A code of a scale carries the value it was made from: clamped, within the range, and off by half
a code at most. -/
theorem carries_code {lo hi : K} (h : lo < hi) (x : K) :
    Carries lo hi x (float_to_uint x lo hi) where
  lower := (uint_to_float_mem _ h).1
  upper := (uint_to_float_mem _ h).2
  error := uint_to_float_clamp_error h x

/-- Limits with a range for every argument of a motion command. -/
structure ActuatorLimits.Full (limits : ActuatorLimits K) : Prop extends limits.Positive where
  kp_max : 0 < limits.kp_max
  kd_max : 0 < limits.kd_max

/-- Every code carries the argument it belongs to. -/
structure MotionCommand.Carried (limits : ActuatorLimits K) (c : MotionCommand K)
    (codes : MotionCodes) : Prop where
  torque : Carries (-limits.torque) limits.torque c.torque codes.torque
  position : Carries (-limits.position) limits.position c.position codes.position
  velocity : Carries (-limits.velocity) limits.velocity c.velocity codes.velocity
  kp : Carries 0 limits.kp_max c.kp codes.kp
  kd : Carries 0 limits.kd_max c.kd codes.kd

/-- The five codes of a command carry its five arguments, each on the scale of its own range. -/
theorem MotionCommand.codes_carried {limits : ActuatorLimits K} (h : limits.Full)
    (c : MotionCommand K) : c.Carried limits (c.codes limits) := by
  have hzero : ((0 : ℕ) : K) = 0 := Nat.cast_zero
  refine ⟨carries_code (neg_lt_self h.torque) _, carries_code (neg_lt_self h.position) _,
    carries_code (neg_lt_self h.velocity) _, ?_, ?_⟩
  · rw [MotionCommand.codes, hzero]
    exact carries_code h.kp_max c.kp
  · rw [MotionCommand.codes, hzero]
    exact carries_code h.kd_max c.kd

/-- **The motion-control frame carries each argument**, clamped and within half a code, in a field
of its own: sixteen bits each, the torque in the identifier, so that no argument shows in the bits
of another. -/
theorem motion_frame_carries {limits : ActuatorLimits K} (h : limits.Full) (motor_id : UInt8)
    (c : MotionCommand K) :
    (c.frame motor_id limits).id.toNat < 2 ^ 29 ∧
      get_comm_type (c.frame motor_id limits) = CommType.MotionControl.code ∧
      get_target_motor_id (c.frame motor_id limits) = motor_id ∧
      c.Carried limits (motion_codes (c.frame motor_id limits)) ∧
      ∀ c' : MotionCommand K,
        c.FieldWise c' (c.frame motor_id limits) (c'.frame motor_id limits) := by
  have hlow := motor_id.toNat_lt
  have hcode := (c.codes limits).torque.toNat_lt
  refine ⟨?_, ?_, ?_, ?_, motion_frame_fieldWise motor_id limits c⟩
  · rw [motion_area_toNat]
    omega
  · exact get_comm_type_make_id .MotionControl _ _ _ _
  · exact get_target_motor_id_make_id .MotionControl _ _ _ _
  · rw [motion_codes_frame]
    exact c.codes_carried h

/-- Everything beyond its range, the torque and the gains below: each field shows the end of its
range. -/
theorem motion_frame_carries_clamped :
    let c : MotionCommand ℚ := ⟨-18, 20, 50, -1, -1 / 2⟩
    (c.frame 0x7F fixtures.rs02).id.toNat < 2 ^ 29 ∧
      get_comm_type (c.frame 0x7F fixtures.rs02) = CommType.MotionControl.code ∧
      get_target_motor_id (c.frame 0x7F fixtures.rs02) = 0x7F ∧
      c.Carried fixtures.rs02 (motion_codes (c.frame 0x7F fixtures.rs02)) ∧
      ∀ c' : MotionCommand ℚ,
        c.FieldWise c' (c.frame 0x7F fixtures.rs02) (c'.frame 0x7F fixtures.rs02) :=
  motion_frame_carries ⟨rs02_positive, by decide +kernel, by decide +kernel⟩ 0x7F
    ⟨-18, 20, 50, -1, -1 / 2⟩

end Exact

end Robstride
