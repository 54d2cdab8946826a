/-
`robstride_motor.hpp` / `robstride_motor.cpp`: the high-level API.

`transceive` is the only function of the class that touches the transport: every
public operation is a fixed program of `transceive` calls with pure code between
them. The model keeps that shape. `transceive` is a function on the session
state (the transport's state and `last_feedback_`), and each operation is a
`Dialogue` whose requests are `transceive`'s two arguments; running the operation
is running the dialogue with `transceive` as the partner. An exception thrown by
an exchange ends the operation, and what was cached before it stays cached.

A received frame is matched by motor id and communication type, and by nothing
else: that is the line every correlation result of this development turns on.
-/
import RobstrideDriver.CanInterface
import RobstrideDriver.Lib.Dialogue

set_option autoImplicit false

open CppArith

namespace Robstride

/-! ## The receive loop -/

/-- `RobstrideMotor::Config`; the timeout is in milliseconds, and signed. -/
structure Config where
  motor_id : UInt8 := 0x7F
  host_id : UInt8 := 0xFD
  actuator_type : ActuatorType := .Rs02
  response_timeout : ℤ := 100
deriving DecidableEq, Repr

/-- The data members fixed at construction. -/
structure RobstrideMotor (D : Type) where
  config_ : Config
  limits_ : ActuatorLimits D
deriving DecidableEq, Repr

/-- The constructor. -/
def RobstrideMotor.make {D : Type} [NatCast D] [Mul D] (pi : D) (config : Config) :
    Except Exception (RobstrideMotor D) :=
  (get_actuator_limits pi config.actuator_type).map fun limits =>
    { config_ := config, limits_ := limits }

/-- The members that change, `last_feedback_` and what `can_` points to. -/
structure Session (σ : Type*) (D : Type) where
  last_feedback_ : Option (Feedback D)
  can : σ
deriving DecidableEq, Repr

/-- `config_.response_timeout` on the steady clock, in nanoseconds. It is not cut to 64 bits, and
neither is its sum with a reading of the clock. -/
def Config.timeout_ns (config : Config) : ℤ := config.response_timeout * 1000000

def describe_timeout (motor_id : UInt8) (expected : CommType) : String :=
  "robstride: motor 0x" ++ toString motor_id.toNat ++
    " did not answer (expected communication type " ++ toString expected.code.toNat ++ ")"

section Transceive

variable {σ : Type*} {D : Type} [Add D] [Sub D] [Mul D] [Div D] [Neg D] [NatCast D]

/-- The exception both exits of the wait throw. -/
def RobstrideMotor.timeout (self : RobstrideMotor D) (expected_type : CommType) : Exception :=
  .TimeoutError (describe_timeout self.config_.motor_id expected_type)

/-- `if (auto feedback = parse_feedback(...)) last_feedback_ = *feedback;` -/
def RobstrideMotor.cache (self : RobstrideMotor D) (received : CanFrame)
    (last : Option (Feedback D)) : Option (Feedback D) :=
  (parse_feedback received self.limits_).or last

/-- The `while (true)` of `transceive`. -/
def RobstrideMotor.transceive_loop (can : CanInterface σ) (self : RobstrideMotor D)
    (expected_type : CommType) (deadline : ℤ) (st : Session σ D) :
    Except Exception CanFrame × Session σ D :=
  if (can.now st.can).1 ≥ deadline then
    (.error (self.timeout expected_type), { st with can := (can.now st.can).2 })
  else
    match _h : can.receive ((deadline - (can.now st.can).1) / 1000000).toNat
        (can.now st.can).2 with
    | (.error e, s) => (.error e, { st with can := s })
    | (.ok none, s) => (.error (self.timeout expected_type), { st with can := s })
    | (.ok (some received), s) =>
      if get_source_motor_id received ≠ self.config_.motor_id then
        self.transceive_loop can expected_type deadline { st with can := s }
      else if get_comm_type received = expected_type.code then
        (.ok received, ⟨self.cache received st.last_feedback_, s⟩)
      else
        self.transceive_loop can expected_type deadline ⟨self.cache received st.last_feedback_, s⟩
termination_by can.backlog st.can
decreasing_by
  all_goals
    exact Nat.lt_of_lt_of_le (can.receive_backlog _ _ _ _ _h) (can.now_backlog _)

/-- `RobstrideMotor::transceive`. -/
def RobstrideMotor.transceive (can : CanInterface σ) (self : RobstrideMotor D)
    (frame : CanFrame) (expected_type : CommType) (st : Session σ D) :
    Except Exception CanFrame × Session σ D :=
  match can.send frame st.can with
  | (.error e, s) => (.error e, { st with can := s })
  | (.ok (), s) =>
    self.transceive_loop can expected_type ((can.now s).1 + self.config_.timeout_ns)
      { st with can := (can.now s).2 }

end Transceive

/-! ## The operations -/

/-- The arguments of `transceive`. -/
structure Exchange where
  frame : CanFrame
  expected_type : CommType
deriving DecidableEq, Repr

/-- The partner every operation talks to. -/
def RobstrideMotor.exchange {σ : Type*} {D : Type} [Add D] [Sub D] [Mul D] [Div D] [Neg D]
    [NatCast D] (can : CanInterface σ) (self : RobstrideMotor D) :
    Dialogue.Handler Exchange CanFrame Exception (Session σ D) :=
  fun e st => self.transceive can e.frame e.expected_type st

/-- An operation: a program of exchanges. -/
abbrev Operation (α : Type) := Dialogue Exchange CanFrame Exception α

def parse_param_response_or_throw (frame : CanFrame) : Operation ParamResponse :=
  match parse_param_response frame with
  | some response => .done response
  | none => .fail (.runtime_error "robstride: malformed parameter response frame")

namespace RobstrideMotor

variable {D : Type} [Add D] [Sub D] [Mul D] [Div D] [Neg D] [NatCast D]

def transceive_feedback (self : RobstrideMotor D) (frame : CanFrame) : Operation (Feedback D) := do
  let response ← .request ⟨frame, .Feedback⟩
  match parse_feedback response self.limits_ with
  | some feedback => .done feedback
  | none => .fail (.runtime_error "robstride: malformed feedback frame")

def enable (self : RobstrideMotor D) : Operation (Feedback D) :=
  self.transceive_feedback (make_enable_frame self.config_.motor_id self.config_.host_id)

def disable (self : RobstrideMotor D) (clear_fault : Bool := false) : Operation (Feedback D) :=
  self.transceive_feedback (make_stop_frame self.config_.motor_id self.config_.host_id clear_fault)

def read_param_float (self : RobstrideMotor D) (index : UInt16) : Operation F32 := do
  let response ← .request
    ⟨make_read_param_frame self.config_.motor_id self.config_.host_id index, .ReadParam⟩
  return (← parse_param_response_or_throw response).as_float

def read_param_uint8 (self : RobstrideMotor D) (index : UInt16) : Operation UInt8 := do
  let response ← .request
    ⟨make_read_param_frame self.config_.motor_id self.config_.host_id index, .ReadParam⟩
  return (← parse_param_response_or_throw response).as_uint8

/-- `write_param(std::uint16_t, float)`. -/
def write_param_float (self : RobstrideMotor D) (index : UInt16) (value : F32) :
    Operation (Feedback D) :=
  self.transceive_feedback
    (make_write_param_frame_float self.config_.motor_id self.config_.host_id index value)

/-- `write_param(std::uint16_t, std::uint8_t)`. -/
def write_param_uint8 (self : RobstrideMotor D) (index : UInt16) (value : UInt8) :
    Operation (Feedback D) :=
  self.transceive_feedback
    (make_write_param_frame_uint8 self.config_.motor_id self.config_.host_id index value)

def get_run_mode (self : RobstrideMotor D) : Operation RunMode := do
  return ⟨← self.read_param_uint8 param_index.run_mode⟩

def set_run_mode (self : RobstrideMotor D) (mode : RunMode) : Operation Unit := do
  let _ ← self.disable
  let _ ← self.write_param_uint8 param_index.run_mode mode.raw
  let actual ← self.get_run_mode
  if actual ≠ mode then
    .fail (.runtime_error ("robstride: run_mode verification failed (requested " ++
      toString mode.raw.toNat ++ ", got " ++ toString actual.raw.toNat ++ ")"))
  else
    return ()

def set_mechanical_zero (self : RobstrideMotor D) : Operation Unit := do
  let _ ← self.disable
  let _ ← self.transceive_feedback
    (make_set_mechanical_zero_frame self.config_.motor_id self.config_.host_id)
  return ()

def send_motion_command [LT D] [DecidableLT D] [DoubleMath D] (self : RobstrideMotor D)
    (torque position velocity kp kd : D) : Operation (Feedback D) :=
  self.transceive_feedback
    (make_motion_control_frame self.config_.motor_id torque position velocity kp kd self.limits_)

variable [FloatConv D]

def configure_velocity_mode (self : RobstrideMotor D) (current_limit acceleration : D) :
    Operation Unit := do
  let _ ← self.write_param_float param_index.limit_cur (FloatConv.toFloat current_limit)
  let _ ← self.write_param_float param_index.acc_rad (FloatConv.toFloat acceleration)
  return ()

def send_velocity_command (self : RobstrideMotor D) (velocity : D) : Operation (Feedback D) :=
  self.write_param_float param_index.spd_ref (FloatConv.toFloat velocity)

def send_position_csp_command (self : RobstrideMotor D) (position speed_limit : D) :
    Operation (Feedback D) := do
  let _ ← self.write_param_float param_index.limit_spd (FloatConv.toFloat speed_limit)
  self.write_param_float param_index.loc_ref (FloatConv.toFloat position)

end RobstrideMotor

/-- The public operations with their arguments. -/
inductive Command (D : Type) where
  | enable
  | disable (clear_fault : Bool)
  | set_run_mode (mode : RunMode)
  | get_run_mode
  | configure_velocity_mode (current_limit acceleration : D)
  | send_velocity_command (velocity : D)
  | send_position_csp_command (position speed_limit : D)
  | send_motion_command (torque position velocity kp kd : D)
  | set_mechanical_zero
  | read_param_float (index : UInt16)
  | read_param_uint8 (index : UInt16)
  | write_param_float (index : UInt16) (value : F32)
  | write_param_uint8 (index : UInt16) (value : UInt8)
deriving DecidableEq, Repr

/-- What an operation returns. -/
inductive Value (D : Type) where
  | void
  | feedback (fb : Feedback D)
  | run_mode (mode : RunMode)
  | float (value : F32)
  | uint8 (value : UInt8)
deriving DecidableEq, Repr

section Commands

variable {D : Type} [Add D] [Sub D] [Mul D] [Div D] [Neg D] [NatCast D]
  [LT D] [DecidableLT D] [DoubleMath D] [FloatConv D]

/-- The operation a command calls. -/
def Command.operation (self : RobstrideMotor D) : Command D → Operation (Value D)
  | enable => do return .feedback (← self.enable)
  | disable clear_fault => do return .feedback (← self.disable clear_fault)
  | set_run_mode mode => do self.set_run_mode mode; return .void
  | get_run_mode => do return .run_mode (← self.get_run_mode)
  | configure_velocity_mode current_limit acceleration => do
    self.configure_velocity_mode current_limit acceleration; return .void
  | send_velocity_command velocity => do return .feedback (← self.send_velocity_command velocity)
  | send_position_csp_command position speed_limit => do
    return .feedback (← self.send_position_csp_command position speed_limit)
  | send_motion_command torque position velocity kp kd => do
    return .feedback (← self.send_motion_command torque position velocity kp kd)
  | set_mechanical_zero => do self.set_mechanical_zero; return .void
  | read_param_float index => do return .float (← self.read_param_float index)
  | read_param_uint8 index => do return .uint8 (← self.read_param_uint8 index)
  | write_param_float index value => do return .feedback (← self.write_param_float index value)
  | write_param_uint8 index value => do return .feedback (← self.write_param_uint8 index value)

/-- One command of this motor in a session. -/
def Command.run {σ : Type*} (can : CanInterface σ) (self : RobstrideMotor D) (c : Command D)
    (st : Session σ D) : Except Exception (Value D) × Session σ D :=
  Dialogue.run (self.exchange can) (c.operation self) st

end Commands

end Robstride
