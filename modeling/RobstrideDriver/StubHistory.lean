/-
The simulator's discrete state as a function of its history.

Each of enabled, the fault bits, `run_mode` and every parameter of every motor id is a
register (`Lib/History.lean`): one pick from a single event says what that event writes
into it, one lemma says that this is all a `send` does to it (`effect_enabled` and its
neighbours), and so it holds what the last event wrote. The picks come twice, on raw
frames, for any frame whatever, and on the calls of the `make_*` functions, where they
can be read off the arguments; `enabled_write_frame` and its neighbours say these agree.

What a command is answered with is then a statement about the history alone
(`answered_from_history`).
-/
import RobstrideDriver.Lib.History
import RobstrideDriver.Fixtures
import RobstrideDriver.ProtocolFields
import RobstrideDriver.StubCanInterface

set_option autoImplicit false

open CppArith

namespace Robstride

section History

variable {D : Type} [Add D] [Sub D] [Mul D] [Div D] [Neg D] [NatCast D] [IntCast D]
  [LT D] [DecidableLT D] [DoubleMath D] [FloatConv D]

/-! ## One frame -/

/-- The types of command that change the motor they are addressed to. -/
def CommType.changes : CommType → Bool
  | Enable | Stop | SetMechanicalZero | MotionControl | WriteParam => true
  | _ => false

/-- What a frame writes into `enabled` of the motor it is addressed to. -/
def enabled_write (frame : CanFrame) : Option Bool :=
  if get_comm_type frame = CommType.Enable.code then some true
  else if get_comm_type frame = CommType.Stop.code then some false
  else none

/-- What it writes into the fault bits. -/
def fault_write (frame : CanFrame) : Option UInt8 :=
  if get_comm_type frame = CommType.Stop.code ∧ clear_fault_byte frame = 1 then some 0 else none

/-- The value bytes it writes to the parameter `index`, `run_mode` included. -/
def param_write (index : UInt16) (frame : CanFrame) : Option (Vector UInt8 4) :=
  if get_comm_type frame = CommType.WriteParam.code ∧ frame_index frame = index then
    some (frame_value frame)
  else none

namespace StubCanInterface

variable (limits : ActuatorLimits D) (now : ℤ) (frame : CanFrame) (state : MotorState D)

omit [Sub D] [Neg D] [LT D] [DecidableLT D] [DoubleMath D] in
@[simp] theorem advance_enabled : (state.advance now).enabled = state.enabled := rfl
omit [Sub D] [Neg D] [LT D] [DecidableLT D] [DoubleMath D] in
@[simp] theorem advance_run_mode : (state.advance now).run_mode = state.run_mode := rfl
omit [Sub D] [Neg D] [LT D] [DecidableLT D] [DoubleMath D] in
@[simp] theorem advance_fault_bits : (state.advance now).fault_bits = state.fault_bits := rfl
omit [Sub D] [Neg D] [LT D] [DecidableLT D] [DoubleMath D] in
@[simp] theorem advance_params : (state.advance now).params = state.params := rfl

/-! What a write leaves alone, and what it sets. -/

variable (request : ParamWriteRequest)

omit [Div D] [Neg D] [IntCast D] [LT D] [DecidableLT D] in
@[simp] theorem write_enabled : (write limits request state).enabled = state.enabled := by
  unfold write
  dsimp only
  split_ifs <;> rfl

omit [Div D] [Neg D] [IntCast D] [LT D] [DecidableLT D] in
@[simp] theorem write_fault_bits : (write limits request state).fault_bits = state.fault_bits := by
  unfold write
  dsimp only
  split_ifs <;> rfl

omit [Div D] [Neg D] [IntCast D] [LT D] [DecidableLT D] in
@[simp] theorem write_run_mode_eq : (write limits request state).run_mode
    = if request.index = param_index.run_mode then request.as_uint8 else state.run_mode := by
  unfold write
  dsimp only
  split_ifs <;> rfl

omit [Div D] [Neg D] [IntCast D] [LT D] [DecidableLT D] in
theorem write_params {index : UInt16} (hindex : index ≠ param_index.run_mode) :
    (write limits request state).params index
      = if request.index = index then some request.as_float else state.params index := by
  have hupdate : Function.update state.params request.index (some request.as_float) index
      = if request.index = index then some request.as_float else state.params index := by
    rw [Function.update_apply]
    exact if_congr eq_comm rfl rfl
  unfold write
  dsimp only
  by_cases hmode : request.index = param_index.run_mode
  · have hother : request.index ≠ index := fun h => hindex (h.symm.trans hmode)
    rw [if_pos hmode, if_neg hother]
    split_ifs <;> rfl
  · rw [if_neg hmode, ← hupdate]
    split_ifs <;> rfl

omit [Neg D] [LT D] [DecidableLT D] in
/-- Enabled is what an Enable or a Stop says, and stays so. -/
theorem effect_enabled :
    (effect limits now frame state).enabled = (enabled_write frame).getD state.enabled := by
  unfold effect change enabled_write
  dsimp only
  split_ifs <;> simp [stop]

omit [Neg D] [LT D] [DecidableLT D] in
/-- The latched faults are cleared by a Stop that says so, and by no other frame. -/
theorem effect_fault_bits :
    (effect limits now frame state).fault_bits = (fault_write frame).getD state.fault_bits := by
  unfold effect change fault_write
  dsimp only
  split_ifs <;> simp_all [stop, CommType.code_inj]

omit [Neg D] [LT D] [DecidableLT D] in
/-- The mode is the byte last written to `run_mode`. -/
theorem effect_run_mode : (effect limits now frame state).run_mode
    = ((param_write param_index.run_mode frame).map value_uint8).getD
        state.run_mode := by
  unfold effect change param_write
  dsimp only
  split_ifs <;> simp_all [stop, CommType.code_inj, ParamWriteRequest.as_uint8]

omit [Neg D] [LT D] [DecidableLT D] in
/-- Any other parameter is what was last written to it. -/
theorem effect_params {index : UInt16} (hindex : index ≠ param_index.run_mode) :
    (effect limits now frame state).params index
      = ((param_write index frame).map fun value => some ⟨value⟩).getD (state.params index) := by
  unfold effect change param_write
  dsimp only
  split_ifs <;> simp_all [stop, CommType.code_inj, write_params, ParamWriteRequest.as_float]

omit [Div D] [Neg D] [IntCast D] [LT D] [DecidableLT D] in
/-- Which types change the motor, and are answered with feedback. -/
theorem change_isSome {type : CommType} (htype : get_comm_type frame = type.code) :
    (change limits frame).isSome = type.changes := by
  unfold change
  rw [htype]
  cases type <;> simp [CommType.code_inj, CommType.changes]

/-- A `send` changes the addressed motor only; the registers of all others are left as they are. -/
theorem send_motors (stub : StubCanInterface D) (id : UInt8) :
    (stub.send now frame).motors_ id
      = if get_target_motor_id frame = id then effect stub.limits_ now frame (stub.motors_ id)
        else stub.motors_ id := by
  rw [send_eq]
  dsimp only [store]
  rw [Function.update_apply]
  by_cases hid : get_target_motor_id frame = id
  · rw [if_pos hid, if_pos hid.symm, hid]
  · rw [if_neg hid, if_neg fun h => hid h.symm]

end StubCanInterface

/-! ## A history -/

/-- A call on the simulator that sends frames of the kind `F`. -/
inductive StubEvent (F D : Type) where
  | send (now : ℤ) (sent : F)
  | receive
  | set_fault_bits (motor_id fault_bits : UInt8)
  | set_temperature (temperature : D)
deriving DecidableEq, Repr

/-- The call on the simulator. -/
def StubCanInterface.step (stub : StubCanInterface D) : StubEvent CanFrame D → StubCanInterface D
  | .send now frame => stub.send now frame
  | .receive => stub.receive.2
  | .set_fault_bits motor_id fault_bits => stub.set_fault_bits motor_id fault_bits
  | .set_temperature temperature => stub.set_temperature temperature

namespace StubEvent

variable {F G : Type} {α : Type}

/-- The same call with the frame built from a description. -/
def map (f : F → G) : StubEvent F D → StubEvent G D
  | send now sent => send now (f sent)
  | receive => receive
  | set_fault_bits motor_id fault_bits => set_fault_bits motor_id fault_bits
  | set_temperature temperature => set_temperature temperature

/-- What a call writes into a register of one motor id: `pick` of the frames sent to it,
and `inject` of the fault bits injected. -/
def writes (target : F → UInt8) (pick : F → Option α) (inject : UInt8 → Option α) (id : UInt8) :
    StubEvent F D → Option α
  | send _ sent => if target sent = id then pick sent else none
  | set_fault_bits motor_id fault_bits => if motor_id = id then inject fault_bits else none
  | _ => none

end StubEvent

/-- The rest of the calls, on the motors of one id. -/
theorem step_motors (stub : StubCanInterface D) (id : UInt8) :
    (stub.step .receive).motors_ id = stub.motors_ id ∧
      (∀ temperature, (stub.step (.set_temperature temperature)).motors_ id = stub.motors_ id) ∧
      ∀ motor_id fault_bits, (stub.step (.set_fault_bits motor_id fault_bits)).motors_ id
        = if motor_id = id then { stub.motors_ id with fault_bits := fault_bits }
          else stub.motors_ id := by
  refine ⟨?_, fun _ => rfl, ?_⟩
  · show stub.receive.2.motors_ id = _
    unfold StubCanInterface.receive
    cases stub.responses_ <;> rfl
  · intro motor_id fault_bits
    show (stub.set_fault_bits motor_id fault_bits).motors_ id = _
    rw [StubCanInterface.set_fault_bits, StubCanInterface.store]
    dsimp only
    rw [Function.update_apply]
    by_cases hid : motor_id = id
    · rw [if_pos hid, if_pos hid.symm, hid]
    · rw [if_neg hid, if_neg fun h => hid h.symm]

/-- **A register of one motor**: a part of the motor's state that a frame addressed to
it sets to what `pick` says, and fault injection to what `inject` says. -/
theorem step_register {α : Type} (get : MotorState D → α) (inject : UInt8 → Option α)
    {pick : CanFrame → Option α}
    (hpick : ∀ limits now frame state,
      get (StubCanInterface.effect limits now frame state) = (pick frame).getD (get state))
    (hinject : ∀ state fault_bits,
      get { state with fault_bits := fault_bits } = (inject fault_bits).getD (get state))
    (id : UInt8) (stub : StubCanInterface D) (event : StubEvent CanFrame D) :
    get ((stub.step event).motors_ id)
      = (event.writes get_target_motor_id pick inject id).getD (get (stub.motors_ id)) := by
  obtain ⟨hreceive, htemperature, hset⟩ := step_motors stub id
  cases event with
  | send now frame =>
    show get ((stub.send now frame).motors_ id) = _
    rw [StubCanInterface.send_motors, StubEvent.writes]
    by_cases hid : get_target_motor_id frame = id
    · rw [if_pos hid, if_pos hid, hpick]
    · rw [if_neg hid, if_neg hid]
      rfl
  | receive =>
    rw [hreceive]
    rfl
  | set_fault_bits motor_id fault_bits =>
    rw [hset, StubEvent.writes]
    by_cases hid : motor_id = id
    · rw [if_pos hid, if_pos hid, hinject]
    · rw [if_neg hid, if_neg hid]
      rfl
  | set_temperature temperature =>
    rw [htemperature]
    rfl

/-! ## The calls of the `make_*` functions -/

/-- A call of one of the host-to-motor encoders, with its arguments. -/
inductive HostCommand (D : Type) where
  | enable (motor_id host_id : UInt8)
  | stop (motor_id host_id : UInt8) (clear_fault : Bool)
  | set_mechanical_zero (motor_id host_id : UInt8)
  | set_can_id (motor_id host_id new_motor_id : UInt8)
  | get_device_id (motor_id host_id : UInt8)
  | read_param (motor_id host_id : UInt8) (index : UInt16)
  | write_param_float (motor_id host_id : UInt8) (index : UInt16) (value : F32)
  | write_param_uint8 (motor_id host_id : UInt8) (index : UInt16) (value : UInt8)
  | motion_control (motor_id : UInt8) (torque position velocity kp kd : D)
    (limits : ActuatorLimits D)
deriving DecidableEq, Repr

namespace HostCommand

/-- The frame the call returns. -/
def frame : HostCommand D → CanFrame
  | enable motor_id host_id => make_enable_frame motor_id host_id
  | stop motor_id host_id clear_fault => make_stop_frame motor_id host_id clear_fault
  | set_mechanical_zero motor_id host_id => make_set_mechanical_zero_frame motor_id host_id
  | set_can_id motor_id host_id new_motor_id => make_set_can_id_frame motor_id host_id new_motor_id
  | get_device_id motor_id host_id => make_get_device_id_frame motor_id host_id
  | read_param motor_id host_id index => make_read_param_frame motor_id host_id index
  | write_param_float motor_id host_id index value =>
    make_write_param_frame_float motor_id host_id index value
  | write_param_uint8 motor_id host_id index value =>
    make_write_param_frame_uint8 motor_id host_id index value
  | motion_control motor_id torque position velocity kp kd limits =>
    make_motion_control_frame motor_id torque position velocity kp kd limits

/-- The motor it is for. -/
def motor_id : HostCommand D → UInt8
  | enable motor_id _ => motor_id
  | stop motor_id _ _ => motor_id
  | set_mechanical_zero motor_id _ => motor_id
  | set_can_id motor_id _ _ => motor_id
  | get_device_id motor_id _ => motor_id
  | read_param motor_id _ _ => motor_id
  | write_param_float motor_id _ _ _ => motor_id
  | write_param_uint8 motor_id _ _ _ => motor_id
  | motion_control motor_id _ _ _ _ _ _ => motor_id

/-- The communication type it carries. -/
def comm_type : HostCommand D → CommType
  | enable _ _ => .Enable
  | stop _ _ _ => .Stop
  | set_mechanical_zero _ _ => .SetMechanicalZero
  | set_can_id _ _ _ => .SetCanId
  | get_device_id _ _ => .GetDeviceId
  | read_param _ _ _ => .ReadParam
  | write_param_float _ _ _ _ => .WriteParam
  | write_param_uint8 _ _ _ _ => .WriteParam
  | motion_control _ _ _ _ _ _ _ => .MotionControl

/-- Enable and Stop. -/
def enables : HostCommand D → Option Bool
  | enable _ _ => some true
  | stop _ _ _ => some false
  | _ => none

/-- Stop with `clear_fault`. -/
def clears : HostCommand D → Option UInt8
  | stop _ _ true => some 0
  | _ => none

/-- A write of the parameter `index`: its four value bytes. -/
def writes_param (index : UInt16) : HostCommand D → Option (Vector UInt8 4)
  | write_param_float _ _ i value => if i = index then some value.bytes else none
  | write_param_uint8 _ _ i value => if i = index then some (uint8_value value) else none
  | _ => none

variable (c : HostCommand D)

omit [Add D] [IntCast D] [FloatConv D]

@[simp] theorem target_frame : get_target_motor_id c.frame = c.motor_id := by
  cases c <;> exact get_target_motor_id_make_id _ _ _ _ _

@[simp] theorem comm_type_frame : get_comm_type c.frame = c.comm_type.code := by
  cases c <;> exact get_comm_type_make_id _ _ _ _ _

theorem enabled_write_frame : enabled_write c.frame = c.enables := by
  rw [enabled_write, comm_type_frame]
  cases c <;> simp [comm_type, enables, CommType.code_inj]

theorem fault_write_frame : fault_write c.frame = c.clears := by
  rw [fault_write, comm_type_frame]
  cases c with
  | stop motor_id host_id clear_fault =>
    cases clear_fault <;> simp [comm_type, clears, frame, make_stop_frame, clear_fault_byte]
  | _ => simp [comm_type, clears, CommType.code_inj]

theorem param_write_frame (index : UInt16) : param_write index c.frame = c.writes_param index := by
  rw [param_write, comm_type_frame]
  cases c <;>
    simp [comm_type, writes_param, frame, make_write_param_frame_float,
      make_write_param_frame_uint8, make_write_param_frame_base, CommType.code_inj]

end HostCommand

/-! ## Answers from the history -/

/-- A history of calls of the encoders and of the simulator's own. -/
abbrev HostEvent (D : Type) := StubEvent (HostCommand D) D

/-- The simulator after a history. -/
def StubCanInterface.after (stub : StubCanInterface D) (events : List (HostEvent D)) :
    StubCanInterface D :=
  (events.map (StubEvent.map HostCommand.frame)).foldl StubCanInterface.step stub

/-- The last Enable or Stop for the motor is an Enable. -/
def is_enabled (id : UInt8) (events : List (HostEvent D)) : Prop :=
  History.latest (StubEvent.writes HostCommand.motor_id HostCommand.enables (fun _ => none) id)
    events = some true

/-- The last fault bits injected into the motor, unless a Stop has cleared them since. -/
def fault_bits (id : UInt8) (events : List (HostEvent D)) : UInt8 :=
  (History.latest (StubEvent.writes HostCommand.motor_id HostCommand.clears some id)
    events).getD 0

/-- The value bytes of the last write of a parameter of the motor, if there was one. -/
def last_written (id : UInt8) (index : UInt16) (events : List (HostEvent D)) :
    Option (Vector UInt8 4) :=
  History.latest (StubEvent.writes HostCommand.motor_id (HostCommand.writes_param index)
    (fun _ => none) id) events

/-- The value bytes a read of a parameter is answered with. -/
def read_value (id : UInt8) (index : UInt16) (events : List (HostEvent D)) : Vector UInt8 4 :=
  if index = param_index.run_mode then
    uint8_value (((last_written id index events).map value_uint8).getD 0)
  else (last_written id index events).getD F32.zero.bytes

/-- What a command is answered with after a history that ends with it. -/
def HostCommand.AnsweredWith (limits : ActuatorLimits D) (events : List (HostEvent D))
    (c : HostCommand D) (answers : List CanFrame) : Prop :=
  match c with
  | read_param motor_id _ index =>
    ∃ f, answers = [f] ∧
      parse_param_response f = some ⟨motor_id, index, read_value motor_id index events⟩
  | set_can_id _ _ _ => answers = []
  | get_device_id _ _ => answers = []
  | c => ∃ f d, answers = [f] ∧ parse_feedback f limits = some d ∧ d.motor_id = c.motor_id ∧
      (d.mode = MotorMode.Run ↔ is_enabled c.motor_id events) ∧
      d.fault.raw = fault_bits c.motor_id events &&& 0x3F

/-! What the registers hold after a history. -/

theorem after_concat (stub : StubCanInterface D) (events : List (HostEvent D)) (now : ℤ)
    (c : HostCommand D) :
    stub.after (events ++ [.send now c]) = (stub.after events).send now c.frame := by
  rw [StubCanInterface.after, List.map_append, List.foldl_append]
  rfl

/-- The register of a motor after a history is what the last event says that sets it, by induction
on the events. -/
theorem after_register {α : Type} (get : MotorState D → α) (inject : UInt8 → Option α)
    {pick : CanFrame → Option α} {pick' : HostCommand D → Option α}
    (hpick : ∀ limits now frame state,
      get (StubCanInterface.effect limits now frame state) = (pick frame).getD (get state))
    (hinject : ∀ state fault_bits,
      get { state with fault_bits := fault_bits } = (inject fault_bits).getD (get state))
    (hframe : ∀ c : HostCommand D, pick c.frame = pick' c) (id : UInt8)
    (stub : StubCanInterface D) (events : List (HostEvent D)) :
    get ((stub.after events).motors_ id)
      = (History.latest (StubEvent.writes HostCommand.motor_id pick' inject id) events).getD
          (get (stub.motors_ id)) := by
  have hwrites : (fun event : HostEvent D =>
      (event.map HostCommand.frame).writes get_target_motor_id pick inject id)
        = StubEvent.writes HostCommand.motor_id pick' inject id := by
    funext event
    cases event with
    | send now c => simp only [StubEvent.map, StubEvent.writes, HostCommand.target_frame, hframe]
    | _ => rfl
  rw [← hwrites, ← History.latest_map]
  exact History.foldl_register (fun stub : StubCanInterface D => get (stub.motors_ id))
    (step_register get inject hpick hinject id) _ stub

/-- A motor nothing has been sent to. -/
def StubCanInterface.Fresh (stub : StubCanInterface D) : Prop :=
  ∀ id, stub.motors_ id = { position := ((0 : ℕ) : D) }

omit [Add D] [Sub D] [Div D] [Neg D] [IntCast D] [LT D] [DecidableLT D] [DoubleMath D]
  [FloatConv D] in
theorem make_fresh {pi : D} {actuator_type : ActuatorType} {stub : StubCanInterface D}
    (hmake : StubCanInterface.make pi actuator_type = .ok stub) : stub.Fresh := by
  obtain ⟨limits, -, rfl⟩ := StubCanInterface.eq_of_make hmake
  exact fun id => rfl

omit [Add D] [Sub D] [Mul D] [Div D] [Neg D] [NatCast D] [IntCast D] [LT D] [DecidableLT D]
  [DoubleMath D] [FloatConv D] in
/-- A write of a parameter, seen through a part of its value. -/
theorem latest_param_write {α : Type} (part : Vector UInt8 4 → α) (index : UInt16)
    (events : List (HostEvent D)) (id : UInt8) :
    History.latest (StubEvent.writes HostCommand.motor_id
        (fun c => (c.writes_param index).map part) (fun _ => none) id) events
      = (last_written id index events).map part := by
  rw [last_written, ← History.latest_option_map]
  congr 1
  funext event
  cases event with
  | send now c =>
    simp only [StubEvent.writes]
    split_ifs <;> rfl
  | set_fault_bits motor_id fault_bits =>
    simp only [StubEvent.writes]
    split_ifs <;> rfl
  | _ => rfl

section Registers

variable {stub : StubCanInterface D} (hfresh : stub.Fresh) (events : List (HostEvent D))
  (id : UInt8)
include hfresh

/-- A motor is enabled when the last Enable or Stop sent to it is an Enable. -/
theorem after_enabled :
    ((stub.after events).motors_ id).enabled = true ↔ is_enabled id events := by
  have h := after_register MotorState.enabled (fun _ => none) StubCanInterface.effect_enabled
    (fun _ _ => rfl) HostCommand.enabled_write_frame id stub events
  rw [h, hfresh id, is_enabled]
  cases History.latest (StubEvent.writes HostCommand.motor_id HostCommand.enables
    (fun _ => none) id) events <;> simp

/-- The faults of a motor are those last injected, if no Stop has cleared them since. -/
theorem after_fault_bits :
    ((stub.after events).motors_ id).fault_bits = fault_bits id events := by
  have h := after_register MotorState.fault_bits some StubCanInterface.effect_fault_bits
    (fun _ _ => rfl) HostCommand.fault_write_frame id stub events
  rw [h, hfresh id]
  rfl

theorem after_run_mode :
    ((stub.after events).motors_ id).run_mode
      = ((last_written id param_index.run_mode events).map value_uint8).getD 0 := by
  have h := after_register MotorState.run_mode (fun _ => none) StubCanInterface.effect_run_mode
    (fun _ _ => rfl)
    (fun c => congrArg (Option.map _) (HostCommand.param_write_frame c param_index.run_mode))
    id stub events
  rw [h, hfresh id, latest_param_write]

theorem after_params {index : UInt16} (hindex : index ≠ param_index.run_mode) :
    param_or_zero ((stub.after events).motors_ id).params index
      = ⟨(last_written id index events).getD F32.zero.bytes⟩ := by
  have h := after_register (fun state => state.params index) (fun _ => none)
    (fun limits now frame state => StubCanInterface.effect_params limits now frame state hindex)
    (fun _ _ => rfl) (fun c => congrArg (Option.map _) (HostCommand.param_write_frame c index))
    id stub events
  rw [latest_param_write, hfresh id] at h
  rw [param_or_zero, h]
  cases last_written id index events <;> rfl

/-- What a read of a parameter is answered with after a history: the value that the writes in it
give. -/
theorem read_response_after (host_id : UInt8) (request : ParamReadRequest) :
    (stub.after events).read_response id host_id request
      = make_param_response_frame_base id host_id request.index
          (read_value id request.index events) := by
  rw [StubCanInterface.read_response, read_value]
  by_cases hindex : request.index = param_index.run_mode
  · rw [if_pos hindex, if_pos hindex, after_run_mode hfresh, hindex]
    rfl
  · rw [if_neg hindex, if_neg hindex, after_params hfresh events id hindex]
    rfl

end Registers

/-! ## The answer to a command -/

theorem step_limits (stub : StubCanInterface D) (event : StubEvent CanFrame D) :
    (stub.step event).limits_ = stub.limits_ := by
  cases event with
  | send now frame => exact stub.send_limits now frame
  | receive =>
    show stub.receive.2.limits_ = _
    unfold StubCanInterface.receive
    cases stub.responses_ <;> rfl
  | _ => rfl

theorem send_limits_after (stub : StubCanInterface D) (events : List (HostEvent D)) :
    (stub.after events).limits_ = stub.limits_ := by
  unfold StubCanInterface.after
  generalize events.map (StubEvent.map HostCommand.frame) = raw
  induction raw generalizing stub with
  | nil => rfl
  | cons event raw ih => exact (ih (stub.step event)).trans (step_limits stub event)

omit [IntCast D] [FloatConv D] in
/-- What a feedback frame of the simulator reports of the state it was made from. -/
theorem parse_feedback_of_state (limits : ActuatorLimits D) (fb : Feedback D)
    (state : MotorState D)
    (hmode : fb.mode = if state.enabled then MotorMode.Run else MotorMode.Reset)
    (hfault : fb.fault = ⟨state.fault_bits⟩) :
    ∃ d, parse_feedback (make_feedback_frame fb limits) limits = some d ∧
      d.motor_id = fb.motor_id ∧ (d.mode = MotorMode.Run ↔ state.enabled = true) ∧
      d.fault.raw = state.fault_bits &&& 0x3F := by
  refine ⟨_, parse_make_feedback_frame fb limits limits, rfl, ?_, ?_⟩
  · dsimp only
    rw [hmode]
    cases state.enabled <;> decide
  · rw [hfault]

section Answers

variable {stub : StubCanInterface D} (hfresh : stub.Fresh) (events : List (HostEvent D)) (now : ℤ)
  (c : HostCommand D)
include hfresh

/-- A command that changes the motor is answered with the state it leaves. -/
theorem feedback_after
    (hchange : (StubCanInterface.change (stub.after events).limits_ c.frame).isSome) :
    ∃ f d, (stub.after events).answers now c.frame = [f] ∧
      parse_feedback f stub.limits_ = some d ∧ d.motor_id = c.motor_id ∧
      (d.mode = MotorMode.Run ↔ is_enabled c.motor_id (events ++ [.send now c])) ∧
      d.fault.raw = fault_bits c.motor_id (events ++ [.send now c]) &&& 0x3F := by
  have hstate : (stub.after (events ++ [.send now c])).motors_ c.motor_id
      = StubCanInterface.effect (stub.after events).limits_ now c.frame
          ((stub.after events).motors_ c.motor_id) := by
    rw [after_concat, StubCanInterface.send_motors, if_pos c.target_frame]
  obtain ⟨d, hparse, hid, hmode, hfault⟩ := parse_feedback_of_state stub.limits_
    ((stub.after events).feedback c.motor_id (get_host_id c.frame)
      ((stub.after (events ++ [.send now c])).motors_ c.motor_id)) _ rfl rfl
  rw [after_enabled hfresh] at hmode
  rw [after_fault_bits hfresh] at hfault
  refine ⟨_, d, ?_, hparse, hid, hmode, hfault⟩
  rw [StubCanInterface.answers, if_pos hchange, c.target_frame, hstate, send_limits_after]

/-- A read is answered with one frame, which holds what was last written to the parameter. -/
theorem read_after (motor_id host_id : UInt8) (index : UInt16) :
    ∃ f, (stub.after events).answers now (make_read_param_frame motor_id host_id index) = [f] ∧
      parse_param_response f = some ⟨motor_id, index,
        read_value motor_id index
          (events ++ [.send now (.read_param motor_id host_id index)])⟩ := by
  have htype : get_comm_type (make_read_param_frame motor_id host_id index)
      = CommType.ReadParam.code := get_comm_type_make_id _ _ _ _ _
  have hchange : ¬ (StubCanInterface.change (stub.after events).limits_
      (make_read_param_frame motor_id host_id index)).isSome := by
    rw [StubCanInterface.change_isSome _ _ htype]
    decide
  -- the read itself writes nothing
  have hvalue : read_value motor_id index
      (events ++ [.send now (HostCommand.read_param (D := D) motor_id host_id index)])
        = read_value motor_id index events := by
    unfold read_value last_written
    rw [History.latest_concat_none]
    simp [StubEvent.writes, HostCommand.writes_param]
  refine ⟨make_param_response_frame_base motor_id host_id index (read_value motor_id index events),
    ?_, ?_⟩
  · rw [StubCanInterface.answers, if_neg hchange, if_pos htype, read_response_after hfresh]
    simp [make_read_param_frame]
  · rw [hvalue]
    simp [parse_param_response, make_param_response_frame_base]

end Answers

/-- **Every answer of the simulator follows from the history**, whatever the motors, the
commands and the times: feedback reports the last Enable or Stop and the last fault bits,
and a read is answered with the last write. -/
theorem answered_from_history {pi : D} {actuator_type : ActuatorType} {stub : StubCanInterface D}
    (hmake : StubCanInterface.make pi actuator_type = .ok stub) (events : List (HostEvent D))
    (now : ℤ) (c : HostCommand D) :
    ∃ answers, ((stub.after events).send now c.frame).responses_
        = (stub.after events).responses_ ++ answers ∧
      c.AnsweredWith stub.limits_ (events ++ [.send now c]) answers := by
  have hfresh := make_fresh hmake
  have hfeedback : c.comm_type.changes = true →
      (StubCanInterface.change (stub.after events).limits_ c.frame).isSome :=
    (StubCanInterface.change_isSome _ _ c.comm_type_frame).trans
  have hsilent : c.comm_type.changes = false → c.comm_type ≠ .ReadParam →
      (stub.after events).answers now c.frame = [] := by
    intro hchanges hread
    rw [StubCanInterface.answers, StubCanInterface.change_isSome _ _ c.comm_type_frame, hchanges,
      if_neg Bool.false_ne_true, if_neg]
    rw [c.comm_type_frame, CommType.code_inj]
    exact hread
  refine ⟨(stub.after events).answers now c.frame, by rw [StubCanInterface.send_eq], ?_⟩
  cases c with
  | read_param motor_id host_id index => exact read_after hfresh events now motor_id host_id index
  | set_can_id motor_id host_id new_motor_id => exact hsilent rfl nofun
  | get_device_id motor_id host_id => exact hsilent rfl nofun
  | enable motor_id host_id => exact feedback_after hfresh events now _ (hfeedback rfl)
  | stop motor_id host_id clear_fault => exact feedback_after hfresh events now _ (hfeedback rfl)
  | set_mechanical_zero motor_id host_id =>
    exact feedback_after hfresh events now _ (hfeedback rfl)
  | write_param_float motor_id host_id index value =>
    exact feedback_after hfresh events now _ (hfeedback rfl)
  | write_param_uint8 motor_id host_id index value =>
    exact feedback_after hfresh events now _ (hfeedback rfl)
  | motion_control motor_id torque position velocity kp kd limits =>
    exact feedback_after hfresh events now _ (hfeedback rfl)

end History

/-- A float written to motor 2 and read back, with a fault injected and a read of another
motor in between. -/
theorem answered_from_history_read_back :
    ∃ stub, StubCanInterface.make (22 / 7 : ℚ) .Rs02 = .ok stub ∧
      ∃ answers, ((stub.after
          [.send 0 (.write_param_float 2 0xFD param_index.spd_ref ⟨#v[0, 0, 0x20, 0x41]⟩),
            .set_fault_bits 2 0x04, .send 5 (.read_param 1 0xFD param_index.spd_ref)]).send 7
          (HostCommand.read_param (D := ℚ) 2 0xFD param_index.spd_ref).frame).responses_
          = (stub.after
              [.send 0 (.write_param_float 2 0xFD param_index.spd_ref ⟨#v[0, 0, 0x20, 0x41]⟩),
                .set_fault_bits 2 0x04,
                .send 5 (.read_param 1 0xFD param_index.spd_ref)]).responses_ ++ answers ∧
        ∃ f, answers = [f] ∧
          parse_param_response f = some ⟨2, param_index.spd_ref, #v[0, 0, 0x20, 0x41]⟩ := by
  refine ⟨_, rfl, ?_⟩
  obtain ⟨answers, hresponses, f, hanswers, hparse⟩ := answered_from_history
    (show StubCanInterface.make (22 / 7 : ℚ) .Rs02 = .ok _ from rfl)
    [.send 0 (.write_param_float 2 0xFD param_index.spd_ref ⟨#v[0, 0, 0x20, 0x41]⟩),
      .set_fault_bits 2 0x04, .send 5 (.read_param 1 0xFD param_index.spd_ref)] 7
    (HostCommand.read_param (D := ℚ) 2 0xFD param_index.spd_ref)
  refine ⟨answers, hresponses, f, hanswers, hparse.trans ?_⟩
  decide +kernel

end Robstride
