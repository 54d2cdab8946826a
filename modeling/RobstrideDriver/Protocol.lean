/-
`protocol.hpp` / `protocol.cpp`: the frame codec.

Frames, the 29-bit identifier, the `make_*` encoders and the `parse_*` decoders,
function for function. Bytes and words are the machine's own (`UInt8`, `UInt16`,
`UInt32`), so shifts truncate and casts wrap exactly where the C++ ones do.

A C++ overload set becomes one definition per overload with the type in its
name. Nothing is proved here: the bit fields are the subject of
`ProtocolFields.lean`.
-/
import RobstrideDriver.ActuatorTypes

set_option autoImplicit false

open CppArith

namespace Robstride

/-- A raw CAN 2.0B data frame: 29-bit identifier, eight data bytes of which the
first `dlc` are valid, and the length. -/
structure CanFrame where
  id : UInt32 := 0
  data : Vector UInt8 8 := #v[0, 0, 0, 0, 0, 0, 0, 0]
  dlc : UInt8 := 8
deriving DecidableEq, Repr

/-- Communication types (bits 28-24 of the identifier). -/
inductive CommType where
  | GetDeviceId | MotionControl | Feedback | Enable | Stop | SetMechanicalZero | SetCanId
  | ReadParam | WriteParam | FaultFeedback | SaveData | SetBaudRate | ActiveReport | SetProtocol
deriving DecidableEq, Repr

/-- The enumerator's value. -/
def CommType.code : CommType → UInt8
  | GetDeviceId => 0x00
  | MotionControl => 0x01
  | Feedback => 0x02
  | Enable => 0x03
  | Stop => 0x04
  | SetMechanicalZero => 0x06
  | SetCanId => 0x07
  | ReadParam => 0x11
  | WriteParam => 0x12
  | FaultFeedback => 0x15
  | SaveData => 0x16
  | SetBaudRate => 0x17
  | ActiveReport => 0x18
  | SetProtocol => 0x19

/-- `run_mode` values. `static_cast<RunMode>` of a byte read from the motor keeps
an unnamed value, so the type is the byte. -/
structure RunMode where
  raw : UInt8
deriving DecidableEq, Repr

namespace RunMode

def OperationControl : RunMode := ⟨0⟩
def PositionPp : RunMode := ⟨1⟩
def Velocity : RunMode := ⟨2⟩
def Current : RunMode := ⟨3⟩
def SetZero : RunMode := ⟨4⟩
def PositionCsp : RunMode := ⟨5⟩

end RunMode

namespace param_index

def run_mode : UInt16 := 0x7005
def iq_ref : UInt16 := 0x7006
def spd_ref : UInt16 := 0x700A
def limit_torque : UInt16 := 0x700B
def loc_ref : UInt16 := 0x7016
def limit_spd : UInt16 := 0x7017
def limit_cur : UInt16 := 0x7018
def iq_filtered : UInt16 := 0x701A
def v_bus : UInt16 := 0x701C
def acc_rad : UInt16 := 0x7022
def vel_max : UInt16 := 0x7024
def acc_set : UInt16 := 0x7025

end param_index

/-- Mode status of a feedback frame: two identifier bits, so a fourth, unnamed
value exists. -/
structure MotorMode where
  raw : UInt8
deriving DecidableEq, Repr

namespace MotorMode

def Reset : MotorMode := ⟨0⟩
def Calibration : MotorMode := ⟨1⟩
def Run : MotorMode := ⟨2⟩

end MotorMode

/-- Fault bits of a feedback frame. -/
structure FaultStatus where
  raw : UInt8
deriving DecidableEq, Repr

/-- Decoded motor feedback (communication type 2). -/
structure Feedback (D : Type*) where
  motor_id : UInt8
  host_id : UInt8
  mode : MotorMode
  fault : FaultStatus
  position : D
  velocity : D
  torque : D
  temperature : D
deriving DecidableEq, Repr

/-- Decoded parameter-read response (communication type 17). -/
structure ParamResponse where
  motor_id : UInt8
  index : UInt16
  data : Vector UInt8 4
deriving DecidableEq, Repr

def ParamResponse.as_float (r : ParamResponse) : F32 := ⟨r.data⟩
def ParamResponse.as_uint8 (r : ParamResponse) : UInt8 := r.data[0]

/-- Decoded parameter-read request (communication type 17, host to motor). -/
structure ParamReadRequest where
  motor_id : UInt8
  host_id : UInt8
  index : UInt16
deriving DecidableEq, Repr

/-- Decoded parameter-write request (communication type 18, host to motor). -/
structure ParamWriteRequest where
  motor_id : UInt8
  host_id : UInt8
  index : UInt16
  data : Vector UInt8 4
deriving DecidableEq, Repr

def ParamWriteRequest.as_float (r : ParamWriteRequest) : F32 := ⟨r.data⟩
def ParamWriteRequest.as_uint8 (r : ParamWriteRequest) : UInt8 := r.data[0]

/-! ## The identifier -/

def make_id (type : CommType) (data_area2 : UInt16) (dest : UInt8) : UInt32 :=
  (type.code.toUInt32 <<< 24) ||| (data_area2.toUInt32 <<< 8) ||| dest.toUInt32

def get_comm_type (frame : CanFrame) : UInt8 :=
  ((frame.id >>> 24) &&& 0x1F).toUInt8

def get_source_motor_id (frame : CanFrame) : UInt8 :=
  ((frame.id >>> 8) &&& 0xFF).toUInt8

def get_target_motor_id (frame : CanFrame) : UInt8 :=
  (frame.id &&& 0xFF).toUInt8

def get_host_id (frame : CanFrame) : UInt8 :=
  ((frame.id >>> 8) &&& 0xFF).toUInt8

/-! ## Byte order

Scaled fields travel big-endian, parameter indices little-endian, and a
parameter value is the four bytes at offset 4, copied as they are. -/

/-- `static_cast<std::uint8_t>(x >> 8)`. -/
def hi_byte (x : UInt16) : UInt8 := (x >>> 8).toUInt8

/-- `static_cast<std::uint8_t>(x & 0xFF)`. -/
def lo_byte (x : UInt16) : UInt8 := (x &&& 0xFF).toUInt8

/-- `static_cast<std::uint16_t>((hi << 8) | lo)`. -/
def word (hi lo : UInt8) : UInt16 := (hi.toUInt16 <<< 8) ||| lo.toUInt16

/-- The parameter index of a type-17 or type-18 frame. -/
def frame_index (frame : CanFrame) : UInt16 := word frame.data[1] frame.data[0]

/-- The four value bytes of a type-17 or type-18 frame. -/
def frame_value (frame : CanFrame) : Vector UInt8 4 :=
  #v[frame.data[4], frame.data[5], frame.data[6], frame.data[7]]

/-- The value bytes of a `std::uint8_t` parameter. -/
abbrev uint8_value (value : UInt8) : Vector UInt8 4 := #v[value, 0, 0, 0]

/-- The byte of them that carries it. -/
abbrev value_uint8 (value : Vector UInt8 4) : UInt8 := value[0]

/-- The same byte in the frame. -/
abbrev frame_uint8 (frame : CanFrame) : UInt8 := frame.data[4]

/-- The byte of a stop frame that carries `clear_fault`. -/
abbrev clear_fault_byte (frame : CanFrame) : UInt8 := frame.data[0]

/-! ## Scaling -/

section Scaling

variable {D : Type*} [Add D] [Sub D] [Mul D] [Div D] [NatCast D]

def float_to_uint [LT D] [DecidableLT D] [DoubleMath D] (x min max : D) (bits : ℕ := 16) :
    UInt16 :=
  let x := clamp x min max
  let span := max - min
  let scaled := (x - min) * (((1 <<< bits) - 1 : ℕ) : D) / span
  UInt16.ofInt (DoubleMath.lround scaled)

def uint_to_float (value : UInt16) (min max : D) (bits : ℕ := 16) : D :=
  let span := max - min
  ((value.toNat : D) * span / (((1 <<< bits) - 1 : ℕ) : D)) + min

end Scaling

/-! ## Encoding, host to motor -/

def make_enable_frame (motor_id host_id : UInt8) : CanFrame :=
  { id := make_id .Enable host_id.toUInt16 motor_id }

def make_stop_frame (motor_id host_id : UInt8) (clear_fault : Bool := false) : CanFrame :=
  { id := make_id .Stop host_id.toUInt16 motor_id
    data := #v[if clear_fault then 1 else 0, 0, 0, 0, 0, 0, 0, 0] }

def make_set_mechanical_zero_frame (motor_id host_id : UInt8) : CanFrame :=
  { id := make_id .SetMechanicalZero host_id.toUInt16 motor_id
    data := #v[1, 0, 0, 0, 0, 0, 0, 0] }

def make_set_can_id_frame (motor_id host_id new_motor_id : UInt8) : CanFrame :=
  { id := make_id .SetCanId ((new_motor_id.toUInt16 <<< 8) ||| host_id.toUInt16) motor_id }

def make_get_device_id_frame (motor_id host_id : UInt8) : CanFrame :=
  { id := make_id .GetDeviceId host_id.toUInt16 motor_id }

/-- The data field of the four parameter frames: little-endian index, then the
value bytes at offset 4. -/
def param_data (index : UInt16) (value : Vector UInt8 4) : Vector UInt8 8 :=
  #v[lo_byte index, hi_byte index, 0, 0, value[0], value[1], value[2], value[3]]

def make_read_param_frame (motor_id host_id : UInt8) (index : UInt16) : CanFrame :=
  { id := make_id .ReadParam host_id.toUInt16 motor_id
    data := param_data index #v[0, 0, 0, 0] }

def make_write_param_frame_base (motor_id host_id : UInt8) (index : UInt16)
    (value : Vector UInt8 4) : CanFrame :=
  { id := make_id .WriteParam host_id.toUInt16 motor_id
    data := param_data index value }

/-- `make_write_param_frame(..., float)`. -/
def make_write_param_frame_float (motor_id host_id : UInt8) (index : UInt16) (value : F32) :
    CanFrame :=
  make_write_param_frame_base motor_id host_id index value.bytes

/-- `make_write_param_frame(..., std::uint8_t)`. -/
def make_write_param_frame_uint8 (motor_id host_id : UInt8) (index : UInt16) (value : UInt8) :
    CanFrame :=
  make_write_param_frame_base motor_id host_id index #v[value, 0, 0, 0]

section Scaled

variable {D : Type*} [Sub D] [Mul D] [Div D] [Neg D] [NatCast D]
  [LT D] [DecidableLT D] [DoubleMath D]

def make_motion_control_frame (motor_id : UInt8) (torque position velocity kp kd : D)
    (limits : ActuatorLimits D) : CanFrame :=
  let torque_u := float_to_uint torque (-limits.torque) limits.torque
  let pos_u := float_to_uint position (-limits.position) limits.position
  let vel_u := float_to_uint velocity (-limits.velocity) limits.velocity
  let kp_u := float_to_uint kp ((0 : ℕ) : D) limits.kp_max
  let kd_u := float_to_uint kd ((0 : ℕ) : D) limits.kd_max
  { id := make_id .MotionControl torque_u motor_id
    data := #v[hi_byte pos_u, lo_byte pos_u, hi_byte vel_u, lo_byte vel_u,
      hi_byte kp_u, lo_byte kp_u, hi_byte kd_u, lo_byte kd_u] }

/-! ## Encoding, motor to host -/

/-- Data area 2 of a feedback identifier. -/
def feedback_area (feedback : Feedback D) : UInt16 :=
  (feedback.mode.raw.toUInt16 <<< 14) ||| ((feedback.fault.raw &&& 0x3F).toUInt16 <<< 8)
    ||| feedback.motor_id.toUInt16

def make_feedback_frame (feedback : Feedback D) (limits : ActuatorLimits D) : CanFrame :=
  let pos_u := float_to_uint feedback.position (-limits.position) limits.position
  let vel_u := float_to_uint feedback.velocity (-limits.velocity) limits.velocity
  let torque_u := float_to_uint feedback.torque (-limits.torque) limits.torque
  let temp_u := UInt16.ofInt (DoubleMath.lround (feedback.temperature * ((10 : ℕ) : D)))
  { id := make_id .Feedback (feedback_area feedback) feedback.host_id
    data := #v[hi_byte pos_u, lo_byte pos_u, hi_byte vel_u, lo_byte vel_u,
      hi_byte torque_u, lo_byte torque_u, hi_byte temp_u, lo_byte temp_u] }

end Scaled

def make_param_response_frame_base (motor_id host_id : UInt8) (index : UInt16)
    (value : Vector UInt8 4) : CanFrame :=
  { id := make_id .ReadParam motor_id.toUInt16 host_id
    data := param_data index value }

/-- `make_param_response_frame(..., float)`. -/
def make_param_response_frame_float (motor_id host_id : UInt8) (index : UInt16) (value : F32) :
    CanFrame :=
  make_param_response_frame_base motor_id host_id index value.bytes

/-- `make_param_response_frame(..., std::uint8_t)`. -/
def make_param_response_frame_uint8 (motor_id host_id : UInt8) (index : UInt16) (value : UInt8) :
    CanFrame :=
  make_param_response_frame_base motor_id host_id index #v[value, 0, 0, 0]

/-! ## Decoding -/

def parse_param_read_request (frame : CanFrame) : Option ParamReadRequest :=
  if get_comm_type frame ≠ CommType.ReadParam.code then none
  else some
    { motor_id := get_target_motor_id frame
      host_id := get_host_id frame
      index := frame_index frame }

def parse_param_write_request (frame : CanFrame) : Option ParamWriteRequest :=
  if get_comm_type frame ≠ CommType.WriteParam.code then none
  else some
    { motor_id := get_target_motor_id frame
      host_id := get_host_id frame
      index := frame_index frame
      data := frame_value frame }

def parse_feedback {D : Type*} [Add D] [Sub D] [Mul D] [Div D] [Neg D] [NatCast D]
    (frame : CanFrame) (limits : ActuatorLimits D) : Option (Feedback D) :=
  if get_comm_type frame ≠ CommType.Feedback.code then none
  else if frame.dlc < 8 then none
  else
    let pos_u := word frame.data[0] frame.data[1]
    let vel_u := word frame.data[2] frame.data[3]
    let torque_u := word frame.data[4] frame.data[5]
    let temp_u := word frame.data[6] frame.data[7]
    some
      { motor_id := get_source_motor_id frame
        host_id := (frame.id &&& 0xFF).toUInt8
        mode := ⟨((frame.id >>> 22) &&& 0x03).toUInt8⟩
        fault := ⟨((frame.id >>> 16) &&& 0x3F).toUInt8⟩
        position := uint_to_float pos_u (-limits.position) limits.position
        velocity := uint_to_float vel_u (-limits.velocity) limits.velocity
        torque := uint_to_float torque_u (-limits.torque) limits.torque
        -- the literal `0.1` is the double nearest to one tenth
        temperature := (temp_u.toNat : D) * (((1 : ℕ) : D) / ((10 : ℕ) : D)) }

def parse_param_response (frame : CanFrame) : Option ParamResponse :=
  if get_comm_type frame ≠ CommType.ReadParam.code then none
  else if frame.dlc < 8 then none
  else some
    { motor_id := get_source_motor_id frame
      index := frame_index frame
      data := frame_value frame }

end Robstride
