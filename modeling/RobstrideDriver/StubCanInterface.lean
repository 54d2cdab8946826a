/-
`stub_can_interface.hpp` / `stub_can_interface.cpp`: the simulated motors.

The state of a motor id is created on first use, so the map of motors is a
function whose default value is a fresh `MotorState`. `send` takes the reading of
the steady clock it makes as an argument; the transport `stub_bus` at the end
supplies it, from readings that are arbitrary.

The transport also keeps a tape that no code reads: next to every response it
queues, the addressed motor and the continuous position it has at that moment.
That is what a feedback frame is a sample of.
-/
import RobstrideDriver.ProtocolFields
import RobstrideDriver.RobstrideMotor

set_option autoImplicit false

open CppArith

namespace Robstride

/-! ## The simulation -/

/-- `MotorState`; the parameters are those that have been written. -/
structure MotorState (D : Type) where
  enabled : Bool := false
  run_mode : UInt8 := 0
  position : D
  fault_bits : UInt8 := 0
  params : UInt16 → Option F32 := fun _ => none
  last_update : ℤ := 0
  has_last_update : Bool := false

def param_or_zero (params : UInt16 → Option F32) (index : UInt16) : F32 :=
  (params index).getD F32.zero

structure StubCanInterface (D : Type) where
  limits_ : ActuatorLimits D
  motors_ : UInt8 → MotorState D
  responses_ : List CanFrame := []
  temperature_ : D

/-- The constructor. -/
def StubCanInterface.make {D : Type} [NatCast D] [Mul D] (pi : D) (actuator_type : ActuatorType) :
    Except Exception (StubCanInterface D) :=
  (get_actuator_limits pi actuator_type).map fun limits =>
    { limits_ := limits
      motors_ := fun _ => { position := ((0 : ℕ) : D) }
      temperature_ := ((30 : ℕ) : D) }

/-- What a new simulation looks like: the limits are those of its type, nothing is queued, and all
motors are new. -/
theorem StubCanInterface.eq_of_make {D : Type} [NatCast D] [Mul D] {pi : D}
    {actuator_type : ActuatorType} {stub : StubCanInterface D}
    (hmake : StubCanInterface.make pi actuator_type = .ok stub) :
    ∃ limits, get_actuator_limits pi actuator_type = .ok limits ∧
      stub =
        { limits_ := limits
          motors_ := fun _ => { position := ((0 : ℕ) : D) }
          temperature_ := ((30 : ℕ) : D) } := by
  unfold StubCanInterface.make at hmake
  cases hlimits : get_actuator_limits pi actuator_type with
  | error e =>
    rw [hlimits] at hmake
    cases hmake
  | ok limits =>
    rw [hlimits] at hmake
    exact ⟨limits, rfl, (Except.ok.inj hmake).symm⟩

theorem StubCanInterface.responses_of_make {D : Type} [NatCast D] [Mul D] {pi : D}
    {actuator_type : ActuatorType} {stub : StubCanInterface D}
    (hmake : StubCanInterface.make pi actuator_type = .ok stub) : stub.responses_ = [] := by
  obtain ⟨limits, -, rfl⟩ := StubCanInterface.eq_of_make hmake
  rfl

section Motion

variable {D : Type} [Add D] [Sub D] [Mul D] [Div D] [Neg D] [NatCast D] [IntCast D]
  [LT D] [DecidableLT D] [DoubleMath D] [FloatConv D]

/-- Enabled and in velocity mode. -/
def MotorState.moving (state : MotorState D) : Bool :=
  state.enabled && state.run_mode == RunMode.Velocity.raw

/-- `advance`: the motion up to `now`. -/
def MotorState.advance (state : MotorState D) (now : ℤ) : MotorState D :=
  let dt : D := ((now - state.last_update : ℤ) : D) / ((1000000000 : ℕ) : D)
  { state with
    position :=
      if state.has_last_update && state.moving then
        state.position + FloatConv.toDouble (param_or_zero state.params param_index.spd_ref) * dt
      else state.position
    last_update := now
    has_last_update := true }

namespace StubCanInterface

/-- `motor(motor_id) = state`. -/
def store (stub : StubCanInterface D) (motor_id : UInt8) (state : MotorState D) :
    StubCanInterface D :=
  { stub with motors_ := Function.update stub.motors_ motor_id state }

/-- The feedback `queue_feedback` sends. -/
def feedback (stub : StubCanInterface D) (motor_id host_id : UInt8) (state : MotorState D) :
    Feedback D :=
  { motor_id := motor_id
    host_id := host_id
    mode := if state.enabled then MotorMode.Run else MotorMode.Reset
    fault := ⟨state.fault_bits⟩
    position := DoubleMath.remainder state.position (((2 : ℕ) : D) * stub.limits_.position)
    velocity :=
      if state.moving then FloatConv.toDouble (param_or_zero state.params param_index.spd_ref)
      else ((0 : ℕ) : D)
    torque := ((0 : ℕ) : D)
    temperature := stub.temperature_ }

/-- `responses_.push_back(frame)`. -/
def push_response (stub : StubCanInterface D) (frame : CanFrame) : StubCanInterface D :=
  { stub with responses_ := stub.responses_ ++ [frame] }

/-- `queue_feedback`. -/
def queue_feedback (stub : StubCanInterface D) (motor_id host_id : UInt8) (state : MotorState D) :
    StubCanInterface D :=
  stub.push_response (make_feedback_frame (stub.feedback motor_id host_id state) stub.limits_)

/-- What the four commands that only change the state have in common: advance,
change, store, answer with feedback. -/
def answer_with_feedback (stub : StubCanInterface D) (now : ℤ) (frame : CanFrame)
    (change : MotorState D → MotorState D) : StubCanInterface D :=
  let motor_id := get_target_motor_id frame
  let state := change ((stub.motors_ motor_id).advance now)
  (stub.store motor_id state).queue_feedback motor_id (get_host_id frame) state

/-- The `Stop` case: a latched fault is cleared on request. -/
def stop (frame : CanFrame) (state : MotorState D) : MotorState D :=
  { state with
    enabled := false
    fault_bits := if clear_fault_byte frame = 1 then 0 else state.fault_bits }

/-- The `WriteParam` case. In CSP mode an enabled motor reaches its target at
once, at the nearest continuous position that wraps to it. -/
def write (limits : ActuatorLimits D) (request : ParamWriteRequest) (state : MotorState D) :
    MotorState D :=
  let state :=
    if request.index = param_index.run_mode then { state with run_mode := request.as_uint8 }
    else { state with params := Function.update state.params request.index (some request.as_float) }
  if request.index = param_index.loc_ref ∧ state.enabled = true ∧
      state.run_mode = RunMode.PositionCsp.raw then
    { state with
      position := state.position +
        DoubleMath.remainder (FloatConv.toDouble request.as_float - state.position)
          (((2 : ℕ) : D) * limits.position) }
  else state

/-- The `ReadParam` case: `run_mode` is a byte, everything else a float. -/
def read_response (stub : StubCanInterface D) (motor_id host_id : UInt8)
    (request : ParamReadRequest) : CanFrame :=
  if request.index = param_index.run_mode then
    make_param_response_frame_uint8 motor_id host_id request.index (stub.motors_ motor_id).run_mode
  else
    make_param_response_frame_float motor_id host_id request.index
      (param_or_zero (stub.motors_ motor_id).params request.index)

/-- `send`, at the clock reading `now`. -/
def send (stub : StubCanInterface D) (now : ℤ) (frame : CanFrame) : StubCanInterface D :=
  let comm_type := get_comm_type frame
  if comm_type = CommType.Enable.code then
    stub.answer_with_feedback now frame fun state => { state with enabled := true }
  else if comm_type = CommType.Stop.code then
    stub.answer_with_feedback now frame (stop frame)
  else if comm_type = CommType.SetMechanicalZero.code then
    stub.answer_with_feedback now frame fun state => { state with position := ((0 : ℕ) : D) }
  else if comm_type = CommType.MotionControl.code then
    -- the motion model of this command is not simulated
    stub.answer_with_feedback now frame id
  else if comm_type = CommType.ReadParam.code then
    match parse_param_read_request frame with
    | none => stub
    | some request =>
      let motor_id := get_target_motor_id frame
      stub.push_response (stub.read_response motor_id (get_host_id frame) request)
  else if comm_type = CommType.WriteParam.code then
    match parse_param_write_request frame with
    | none => stub
    | some request => stub.answer_with_feedback now frame (write stub.limits_ request)
  else
    -- other types get no response: a silent motor
    stub

/-- `receive`, which never waits. -/
def receive (stub : StubCanInterface D) : Option CanFrame × StubCanInterface D :=
  match stub.responses_ with
  | [] => (none, stub)
  | frame :: rest => (some frame, { stub with responses_ := rest })

def set_temperature (stub : StubCanInterface D) (temperature : D) : StubCanInterface D :=
  { stub with temperature_ := temperature }

def set_fault_bits (stub : StubCanInterface D) (motor_id fault_bits : UInt8) :
    StubCanInterface D :=
  stub.store motor_id { stub.motors_ motor_id with fault_bits := fault_bits }

/-! ## What a `send` does -/

/-- What a command changes in the motor it is addressed to, if it is of a type that is
answered with feedback. -/
def change (limits : ActuatorLimits D) (frame : CanFrame) : Option (MotorState D → MotorState D) :=
  let comm_type := get_comm_type frame
  if comm_type = CommType.Enable.code then some fun state => { state with enabled := true }
  else if comm_type = CommType.Stop.code then some (stop frame)
  else if comm_type = CommType.SetMechanicalZero.code then
    some fun state => { state with position := ((0 : ℕ) : D) }
  else if comm_type = CommType.MotionControl.code then some id
  else if comm_type = CommType.ReadParam.code then none
  else if comm_type = CommType.WriteParam.code then
    some (write limits ⟨get_target_motor_id frame, get_host_id frame, frame_index frame,
      frame_value frame⟩)
  else none

/-- The addressed motor after a `send`. -/
def effect (limits : ActuatorLimits D) (now : ℤ) (frame : CanFrame) (state : MotorState D) :
    MotorState D :=
  match change limits frame with
  | some f => f (state.advance now)
  | none => state

/-- The responses a `send` queues. -/
def answers (stub : StubCanInterface D) (now : ℤ) (frame : CanFrame) : List CanFrame :=
  let motor_id := get_target_motor_id frame
  if (change stub.limits_ frame).isSome then
    [make_feedback_frame (stub.feedback motor_id (get_host_id frame)
      (effect stub.limits_ now frame (stub.motors_ motor_id))) stub.limits_]
  else if get_comm_type frame = CommType.ReadParam.code then
    [stub.read_response motor_id (get_host_id frame)
      ⟨motor_id, get_host_id frame, frame_index frame⟩]
  else []

omit [Add D] [Sub D] [Mul D] [Div D] [Neg D] [NatCast D] [IntCast D] [LT D] [DecidableLT D]
  [DoubleMath D] [FloatConv D] in
/-- A parameter answer is a full frame of its type, from the motor asked. -/
theorem read_response_fields (stub : StubCanInterface D) (motor_id host_id : UInt8)
    (request : ParamReadRequest) :
    get_comm_type (stub.read_response motor_id host_id request) = CommType.ReadParam.code ∧
      get_source_motor_id (stub.read_response motor_id host_id request) = motor_id ∧
      (stub.read_response motor_id host_id request).dlc = 8 := by
  unfold read_response
  split_ifs <;> simp [make_param_response_frame_uint8, make_param_response_frame_float,
    make_param_response_frame_base]

/-- A frame of a type that changes the motor is answered with the feedback of the changed motor. -/
theorem send_of_change {stub : StubCanInterface D} {now : ℤ} {frame : CanFrame}
    {f : MotorState D → MotorState D} (h : change stub.limits_ frame = some f) :
    stub.send now frame = stub.answer_with_feedback now frame f := by
  unfold change at h
  unfold send
  dsimp only at h ⊢
  split_ifs at h ⊢ with _ _ _ _ _ hwrite
  · rw [Option.some.inj h]
  · rw [Option.some.inj h]
  · rw [Option.some.inj h]
  · rw [Option.some.inj h]
  · rw [← Option.some.inj h, parse_param_write_request, if_neg (not_not.mpr hwrite)]

/-- Any other frame is answered if it is a read, and ignored if it is not. -/
theorem send_of_unchanged {stub : StubCanInterface D} {now : ℤ} {frame : CanFrame}
    (h : change stub.limits_ frame = none) :
    stub.send now frame =
      if get_comm_type frame = CommType.ReadParam.code then
        stub.push_response (stub.read_response (get_target_motor_id frame) (get_host_id frame)
          ⟨get_target_motor_id frame, get_host_id frame, frame_index frame⟩)
      else stub := by
  unfold change at h
  unfold send
  dsimp only at h ⊢
  split_ifs at h ⊢ with _ _ _ _ hread
  · rw [parse_param_read_request, if_neg (not_not.mpr hread)]
  · rfl

/-- A `send` is one of three things: a change of the addressed motor answered with
its feedback, a parameter answer, or nothing. -/
theorem send_cases (stub : StubCanInterface D) (now : ℤ) (frame : CanFrame) :
    (∃ change, stub.send now frame = stub.answer_with_feedback now frame change) ∨
      (∃ request, stub.send now frame = stub.push_response
        (stub.read_response (get_target_motor_id frame) (get_host_id frame) request)) ∨
      stub.send now frame = stub := by
  cases hchange : change stub.limits_ frame with
  | some f => exact Or.inl ⟨f, send_of_change hchange⟩
  | none =>
    rw [send_of_unchanged hchange]
    by_cases hread : get_comm_type frame = CommType.ReadParam.code
    · rw [if_pos hread]
      exact Or.inr (Or.inl ⟨_, rfl⟩)
    · rw [if_neg hread]
      exact Or.inr (Or.inr rfl)

/-- **All a `send` does**: it puts the addressed motor into the state `effect` says, and
queues `answers`. -/
theorem send_eq (stub : StubCanInterface D) (now : ℤ) (frame : CanFrame) :
    stub.send now frame =
      { stub.store (get_target_motor_id frame)
          (effect stub.limits_ now frame (stub.motors_ (get_target_motor_id frame))) with
        responses_ := stub.responses_ ++ stub.answers now frame } := by
  unfold answers effect
  cases hchange : change stub.limits_ frame with
  | some f => exact send_of_change hchange
  | none =>
    -- the motor is put back as it is
    rw [send_of_unchanged hchange, store, Function.update_eq_self]
    by_cases hread : get_comm_type frame = CommType.ReadParam.code
    · simp [hread, push_response]
    · simp [hread]

section Sent

variable (stub : StubCanInterface D) (now : ℤ) (frame : CanFrame)
  (change : MotorState D → MotorState D)

/-- The state a changing command leaves the addressed motor in. -/
def changed : MotorState D :=
  change ((stub.motors_ (get_target_motor_id frame)).advance now)

@[simp] theorem answer_with_feedback_responses :
    (stub.answer_with_feedback now frame change).responses_
      = stub.responses_ ++ [make_feedback_frame (stub.feedback (get_target_motor_id frame)
          (get_host_id frame) (stub.changed now frame change)) stub.limits_] := rfl

@[simp] theorem answer_with_feedback_motors :
    (stub.answer_with_feedback now frame change).motors_ (get_target_motor_id frame)
      = stub.changed now frame change :=
  Function.update_self ..

theorem send_limits : (stub.send now frame).limits_ = stub.limits_ := by
  rw [send_eq]
  rfl

end Sent

end StubCanInterface

/-! ## The simulation as a transport -/

/-- Steady-clock readings in nanoseconds: reading 0 of an exchange is the one
`send` makes, reading 1 starts the wait, the others are compared with the
deadline. -/
abbrev Timing := (exchange : ℕ) → (reading : ℕ) → ℤ

/-- A motor and its continuous position at some moment. -/
structure Sample (D : Type) where
  motor_id : UInt8
  position : D

structure StubBus (D : Type) where
  stub : StubCanInterface D
  exchanges : ℕ := 0
  readings : ℕ := 0
  /-- For each queued response, the motor it was queued for, as it was then. -/
  tape : List (Sample D) := []
  /-- The entry of the response handed out last. -/
  sample : Option (Sample D) := none

/-- What `send` records: one entry for each response it queues. -/
def recorded (stub : StubCanInterface D) (now : ℤ) (frame : CanFrame) : List (Sample D) :=
  ((stub.send now frame).responses_.drop stub.responses_.length).map fun _ =>
    { motor_id := get_target_motor_id frame
      position := ((stub.send now frame).motors_ (get_target_motor_id frame)).position }

def stub_bus (timing : Timing) : CanInterface (StubBus D) where
  send frame s :=
    (.ok (),
      { s with
        stub := s.stub.send (timing (s.exchanges + 1) 0) frame
        exchanges := s.exchanges + 1
        readings := 1
        tape := s.tape ++ recorded s.stub (timing (s.exchanges + 1) 0) frame })
  receive _ s :=
    match s.stub.receive with
    | (none, stub) => (.ok none, { s with stub := stub })
    | (some frame, stub) =>
      (.ok (some frame), { s with stub := stub, tape := s.tape.tail, sample := s.tape.head? })
  now s := (timing s.exchanges s.readings, { s with readings := s.readings + 1 })
  backlog s := s.stub.responses_.length
  now_backlog _ := Nat.le_refl _
  receive_backlog := by
    intro t s f s' h
    cases hr : s.stub.responses_ with
    | nil => simp [StubCanInterface.receive, hr] at h
    | cons frame rest =>
      simp only [StubCanInterface.receive, hr, Prod.mk.injEq] at h
      obtain ⟨-, rfl⟩ := h
      exact Nat.lt_succ_self _

end Motion

end Robstride
