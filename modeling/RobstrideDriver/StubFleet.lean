/-
Any number of drivers on one simulator.

The simulator answers each command frame of the driver with exactly one frame of
the addressed motor, of the type the command is answered with. So an exchange
that starts with nothing queued is over after one `receive`, and leaves nothing
queued: that is the invariant, `Quiet`. `Command.operation_achieves` carries it
through every operation, `set_run_mode` with its read-back included, and
`simulator_answers_every_command` through every interleaving of operations of a
fleet with changes of temperature and faults.
-/
import RobstrideDriver.StubHistory
import RobstrideDriver.TransceiveRules

set_option autoImplicit false

open CppArith

namespace Robstride

section Exchanges

variable {D : Type} [Add D] [Sub D] [Mul D] [Div D] [Neg D] [NatCast D] [IntCast D]
  [LT D] [DecidableLT D] [DoubleMath D] [FloatConv D]

/-! ## One answer to every frame -/

namespace StubCanInterface

variable (stub : StubCanInterface D) (now : ℤ) {frame : CanFrame}

/-- A command of a type that changes the motor is answered with its feedback. -/
theorem answers_of_changes {type : CommType} (htype : get_comm_type frame = type.code)
    (hchanges : type.changes = true) :
    stub.answers now frame = [make_feedback_frame (stub.feedback (get_target_motor_id frame)
      (get_host_id frame) (effect stub.limits_ now frame
        (stub.motors_ (get_target_motor_id frame)))) stub.limits_] := by
  rw [answers, change_isSome stub.limits_ frame htype, if_pos hchanges]

/-- A read is answered with the parameter, in one frame that goes to the host that asked. -/
theorem answers_of_read (htype : get_comm_type frame = CommType.ReadParam.code) :
    stub.answers now frame = [stub.read_response (get_target_motor_id frame) (get_host_id frame)
      ⟨get_target_motor_id frame, get_host_id frame, frame_index frame⟩] := by
  have hchanges : ¬ CommType.ReadParam.changes = true := by decide
  rw [answers, change_isSome stub.limits_ frame htype, if_neg hchanges, if_pos htype]

/-- Writing `run_mode` puts the addressed motor in that mode, whatever mode it was in. -/
theorem send_write_run_mode (motor_id host_id v : UInt8) :
    ((stub.send now (make_write_param_frame_uint8 motor_id host_id param_index.run_mode
      v)).motors_ motor_id).run_mode = v := by
  have htarget : get_target_motor_id (make_write_param_frame_uint8 motor_id host_id
      param_index.run_mode v) = motor_id := get_target_motor_id_make_id _ _ _ _ _
  have hwrite : param_write param_index.run_mode (make_write_param_frame_uint8 motor_id host_id
      param_index.run_mode v) = some #v[v, 0, 0, 0] := by
    simp [param_write, make_write_param_frame_uint8, make_write_param_frame_base]
  rw [send_motors, if_pos htarget, effect_run_mode, hwrite]
  rfl

/-- Reading `run_mode` is answered with the mode of the addressed motor. -/
theorem send_read_run_mode (motor_id host_id : UInt8) :
    (stub.send now (make_read_param_frame motor_id host_id param_index.run_mode)).responses_
      = stub.responses_ ++ [make_param_response_frame_uint8 motor_id host_id param_index.run_mode
          (stub.motors_ motor_id).run_mode] := by
  have htype : get_comm_type (make_read_param_frame motor_id host_id param_index.run_mode)
      = CommType.ReadParam.code := get_comm_type_make_id _ _ _ _ _
  rw [send_eq, stub.answers_of_read now htype]
  simp [make_read_param_frame, read_response]

end StubCanInterface

variable {self : RobstrideMotor D}

omit [Add D] [IntCast D] [FloatConv D] in
/-- A feedback frame of the simulator, as the driver sees it. -/
theorem make_feedback_frame_answers (fb : Feedback D) (limits : ActuatorLimits D)
    (hid : fb.motor_id = self.config_.motor_id) :
    self.Answers .Feedback (make_feedback_frame fb limits) := by
  refine ⟨?_, get_comm_type_make_feedback_frame fb limits⟩
  rw [get_source_motor_id_make_feedback_frame, hid]

omit [Add D] [Sub D] [Mul D] [Div D] [Neg D] [NatCast D] [IntCast D] [LT D] [DecidableLT D]
  [DoubleMath D] [FloatConv D] in
/-- A parameter answer of the simulator, as the driver sees it. -/
theorem read_response_answers (stub : StubCanInterface D) (host_id : UInt8)
    (request : ParamReadRequest) :
    self.Answers .ReadParam (stub.read_response self.config_.motor_id host_id request) ∧
      (stub.read_response self.config_.motor_id host_id request).dlc = 8 := by
  obtain ⟨htype, hsource, hdlc⟩ :=
    stub.read_response_fields self.config_.motor_id host_id request
  exact ⟨⟨hsource, htype⟩, hdlc⟩

omit [Add D] [IntCast D] [FloatConv D] in
/-- Every exchange of a motor addresses that motor. -/
theorem Issued.addressed {e : Exchange} (he : Issued self e) :
    get_target_motor_id e.frame = self.config_.motor_id := by
  cases he <;> exact get_target_motor_id_make_id _ _ _ _ _

/-- **One answer to every frame**: of this motor, of the expected type, and full. -/
theorem Issued.answered {e : Exchange} (he : Issued self e) (stub : StubCanInterface D) (now : ℤ) :
    ∃ answer, (stub.send now e.frame).responses_ = stub.responses_ ++ [answer] ∧
      self.Answers e.expected_type answer ∧ answer.dlc = 8 := by
  have htarget := he.addressed
  have feedback : ∀ {type : CommType}, e.expected_type = .Feedback →
      get_comm_type e.frame = type.code → type.changes = true →
      ∃ answer, (stub.send now e.frame).responses_ = stub.responses_ ++ [answer] ∧
        self.Answers e.expected_type answer ∧ answer.dlc = 8 := by
    intro type hexpected htype hchanges
    rw [StubCanInterface.send_eq, stub.answers_of_changes now htype hchanges, hexpected]
    exact ⟨_, rfl, make_feedback_frame_answers _ _ htarget, rfl⟩
  cases he with
  | enable => exact feedback rfl (get_comm_type_make_id _ _ _ _ _) rfl
  | stop clear_fault => exact feedback rfl (get_comm_type_make_id _ _ _ _ _) rfl
  | zero => exact feedback rfl (get_comm_type_make_id _ _ _ _ _) rfl
  | motion torque position velocity kp kd =>
    exact feedback rfl (get_comm_type_make_id _ _ _ _ _) rfl
  | write index value => exact feedback rfl (get_comm_type_make_id _ _ _ _ _) rfl
  | read index =>
    have htype := get_comm_type_make_id .ReadParam self.config_.host_id.toUInt16
      self.config_.motor_id (param_data index #v[0, 0, 0, 0]) 8
    have hanswers := stub.answers_of_read now htype
    rw [get_target_motor_id_make_id] at hanswers
    rw [StubCanInterface.send_eq, make_read_param_frame, hanswers]
    exact ⟨_, rfl, read_response_answers stub _ _⟩

/-! ## One exchange -/

/-- No deadline passes: an exchange with the simulation starts its wait at reading 1
and compares one more with the deadline, for `receive` never comes back empty. -/
def InTime (timing : Timing) (timeout_ns : ℤ) : Prop :=
  ∀ exchange, timing exchange 2 < timing exchange 1 + timeout_ns

/-- A clock that moves on by one at each reading. -/
theorem InTime.ticking {timeout_ns : ℤ} (h : 1 < timeout_ns) (start : ℤ) :
    InTime (fun _ reading => start + reading) timeout_ns := by
  intro exchange
  push_cast
  omega

/-- Nothing is queued. -/
def Quiet (st : Session (StubBus D) D) : Prop := st.can.stub.responses_ = []

/-- Receiving the only response leaves nothing queued, however long the clock says it took. -/
theorem receive_stub {timing : Timing} {f : CanFrame} (t : ℕ) (s : StubBus D)
    (h : s.stub.responses_ = [f]) :
    (stub_bus timing).receive t s = (.ok (some f), { s with
      stub := { s.stub with responses_ := [] }, tape := s.tape.tail, sample := s.tape.head? }) := by
  simp only [stub_bus, StubCanInterface.receive, h]

variable {timing : Timing} (htiming : InTime timing self.config_.timeout_ns)
include htiming

/-- An exchange that starts with nothing queued receives once: it returns the answer to
its own frame, which it has offered to the cache, and leaves nothing queued. -/
theorem transceive_stub_session {e : Exchange} (he : Issued self e) {st : Session (StubBus D) D}
    (hquiet : Quiet st) :
    ∃ answer st', self.transceive (stub_bus timing) e.frame e.expected_type st = (.ok answer, st') ∧
      self.Answers e.expected_type answer ∧ answer.dlc = 8 ∧
      st.can.stub.answers (timing (st.can.exchanges + 1) 0) e.frame = [answer] ∧
      st'.last_feedback_ = self.cache answer st.last_feedback_ ∧
      st'.can.exchanges = st.can.exchanges + 1 ∧
      st'.can.stub
        = { st.can.stub.send (timing (st.can.exchanges + 1) 0) e.frame with responses_ := [] } := by
  -- the one answer is the whole queue
  obtain ⟨answer, hresponses, hanswers, hdlc⟩ :=
    he.answered st.can.stub (timing (st.can.exchanges + 1) 0)
  have hqueue : st.can.stub.answers (timing (st.can.exchanges + 1) 0) e.frame = [answer] := by
    rw [StubCanInterface.send_eq] at hresponses
    exact List.append_cancel_left hresponses
  rw [show st.can.stub.responses_ = [] from hquiet, List.nil_append] at hresponses
  have hsend : (stub_bus timing).send e.frame st.can
      = (.ok (), ((stub_bus timing).send e.frame st.can).2) := rfl
  rw [RobstrideMotor.transceive_send_ok hsend]
  have hclock : ¬ timing (st.can.exchanges + 1) 1 + self.config_.timeout_ns
      ≤ timing (st.can.exchanges + 1) 2 :=
    Int.not_le.mpr (htiming _)
  exact ⟨answer, _, RobstrideMotor.transceive_loop_match hclock (receive_stub _ _ hresponses)
    hanswers.1 hanswers.2, hanswers, hdlc, hqueue, rfl, rfl, rfl⟩

/-- What of it the operations need: the answer is from the motor and of the expected type, and
nothing is left queued. -/
theorem transceive_stub {e : Exchange} (he : Issued self e) {st : Session (StubBus D) D}
    (hquiet : Quiet st) :
    ∃ answer st', self.transceive (stub_bus timing) e.frame e.expected_type st = (.ok answer, st') ∧
      self.Answers e.expected_type answer ∧ answer.dlc = 8 ∧
      (st.can.stub.send (timing (st.can.exchanges + 1) 0) e.frame).responses_ = [answer] ∧
      st'.can.stub
        = { st.can.stub.send (timing (st.can.exchanges + 1) 0) e.frame with responses_ := [] } := by
  obtain ⟨answer, st', hrun, hanswers, hdlc, hqueue, -, -, hst'⟩ :=
    transceive_stub_session htiming he hquiet
  refine ⟨answer, st', hrun, hanswers, hdlc, ?_, hst'⟩
  rw [StubCanInterface.send_eq, show st.can.stub.responses_ = [] from hquiet, hqueue]
  rfl

/-! ## Every operation -/

/-- The session between exchanges, when the simulated motor is in mode `v`. -/
def QuietInMode (motor_id v : UInt8) (st : Session (StubBus D) D) : Prop :=
  Quiet st ∧ (st.can.stub.motors_ motor_id).run_mode = v

omit [Add D] [Sub D] [Mul D] [Div D] [Neg D] [NatCast D] [IntCast D] [LT D] [DecidableLT D]
  [DoubleMath D] [FloatConv D] htiming in
theorem Quiet.of_stub {st : Session (StubBus D) D} {stub : StubCanInterface D}
    (h : st.can.stub = { stub with responses_ := [] }) : Quiet st := by
  rw [Quiet, h]

theorem transceive_feedback_achieves {frame : CanFrame} (he : Issued self ⟨frame, .Feedback⟩) :
    Dialogue.Achieves (self.exchange (stub_bus timing)) Quiet (self.transceive_feedback frame)
      fun fb st => fb.motor_id = self.config_.motor_id ∧ Quiet st := by
  intro st hquiet
  obtain ⟨answer, st', hrun, hanswers, hdlc, -, hst'⟩ := transceive_stub htiming he hquiet
  obtain ⟨fb, hparse⟩ := parse_feedback_of hanswers.2 hdlc self.limits_
  refine ⟨fb, st', run_transceive_feedback_ok.mpr ⟨answer, hrun, hparse⟩, ?_, Quiet.of_stub hst'⟩
  rw [parse_feedback_motor_id hparse, hanswers.1]

theorem read_param_achieves {α : Type} (index : UInt16) (field : ParamResponse → α) :
    Dialogue.Achieves (self.exchange (stub_bus timing)) Quiet (self.read_param index field)
      fun _ st => Quiet st := by
  intro st hquiet
  obtain ⟨answer, st', hrun, hanswers, hdlc, -, hst'⟩ :=
    transceive_stub htiming (.read index) hquiet
  have hparse := parse_param_response_of hanswers.2 (by rw [hdlc]; decide)
  exact ⟨_, st', run_read_param_ok.mpr ⟨answer, _, hrun, hparse, rfl⟩, Quiet.of_stub hst'⟩

/-- A write of `run_mode` puts the simulated motor in that mode. -/
theorem write_run_mode_achieves (v : UInt8) :
    Dialogue.Achieves (self.exchange (stub_bus timing)) Quiet
      (self.write_param_uint8 param_index.run_mode v)
      fun _ st => QuietInMode self.config_.motor_id v st := by
  intro st hquiet
  have he : Issued self ⟨make_write_param_frame_uint8 self.config_.motor_id self.config_.host_id
      param_index.run_mode v, .Feedback⟩ := .write _ _
  obtain ⟨answer, st', hrun, hanswers, hdlc, -, hst'⟩ := transceive_stub htiming he hquiet
  obtain ⟨fb, hparse⟩ := parse_feedback_of hanswers.2 hdlc self.limits_
  refine ⟨fb, st', run_transceive_feedback_ok.mpr ⟨answer, hrun, hparse⟩, Quiet.of_stub hst', ?_⟩
  rw [hst']
  exact st.can.stub.send_write_run_mode _ _ _ _

/-- A read of `run_mode` returns the mode the simulated motor is in. -/
theorem read_run_mode_achieves (v : UInt8) :
    Dialogue.Achieves (self.exchange (stub_bus timing)) (QuietInMode self.config_.motor_id v)
      (self.read_param_uint8 param_index.run_mode) fun r st => r = v ∧ Quiet st := by
  rintro st ⟨hquiet, hmode⟩
  obtain ⟨answer, st', hrun, hanswers, hdlc, hresponses, hst'⟩ :=
    transceive_stub htiming (.read param_index.run_mode) hquiet
  have hparse := parse_param_response_of hanswers.2 (by rw [hdlc]; decide)
  rw [read_param_uint8_eq]
  refine ⟨_, st', run_read_param_ok.mpr ⟨answer, _, hrun, hparse, rfl⟩, ?_, Quiet.of_stub hst'⟩
  -- the answer to the read is the simulated motor's mode
  rw [st.can.stub.send_read_run_mode, show st.can.stub.responses_ = [] from hquiet,
    hmode] at hresponses
  obtain rfl := List.singleton_inj.mp hresponses
  rfl

/-- A value that is feedback of this motor, or not feedback. -/
def Value.From (motor_id : UInt8) : Value D → Prop
  | .feedback fb => fb.motor_id = motor_id
  | _ => True

/-- The mode read back is the mode written, so the verification passes. -/
theorem set_run_mode_achieves (mode : RunMode) :
    Dialogue.Achieves (self.exchange (stub_bus timing)) Quiet (self.set_run_mode mode)
      fun _ st => Quiet st := by
  have stop : Dialogue.Achieves (self.exchange (stub_bus timing)) Quiet self.disable
      fun _ st => Quiet st :=
    (transceive_feedback_achieves htiming (.stop false)).weaken fun _ _ h => h.2
  have read_back : Dialogue.Achieves (self.exchange (stub_bus timing))
      (QuietInMode self.config_.motor_id mode.raw) self.get_run_mode
      fun actual st => actual = mode ∧ Quiet st :=
    (read_run_mode_achieves htiming mode.raw).bind fun v =>
      .done fun _ h => ⟨congrArg RunMode.mk h.1, h.2⟩
  -- stop, write, read back, compare
  refine stop.bind fun _ => (write_run_mode_achieves htiming mode.raw).bind fun _ =>
    read_back.bind fun actual => ?_
  -- the modes agree: no exception
  rintro st ⟨rfl, hquiet⟩
  rw [if_neg (not_not.mpr rfl)]
  exact ⟨(), st, rfl, hquiet⟩

/-- **Every operation** started with nothing queued returns normally, with
feedback of the caller's motor, and nothing is queued after it. -/
theorem Command.operation_achieves (c : Command D) :
    Dialogue.Achieves (self.exchange (stub_bus timing)) Quiet (c.operation self)
      fun v st => v.From self.config_.motor_id ∧ Quiet st := by
  have step : ∀ {frame : CanFrame}, Issued self ⟨frame, .Feedback⟩ →
      Dialogue.Achieves (self.exchange (stub_bus timing)) Quiet (self.transceive_feedback frame)
        fun _ st => Quiet st :=
    fun he => (transceive_feedback_achieves htiming he).weaken fun _ _ h => h.2
  have feedback : ∀ {p : Operation (Feedback D)},
      Dialogue.Achieves (self.exchange (stub_bus timing)) Quiet p
        (fun fb st => fb.motor_id = self.config_.motor_id ∧ Quiet st) →
      Dialogue.Achieves (self.exchange (stub_bus timing)) Quiet
        (p >>= fun fb => .done (Value.feedback fb))
        fun v st => v.From self.config_.motor_id ∧ Quiet st :=
    fun hp => hp.bind fun _ => .done fun _ h => h
  have other : ∀ {α : Type} {p : Operation α} (result : α → Value D),
      (∀ a, (result a).From self.config_.motor_id) →
      Dialogue.Achieves (self.exchange (stub_bus timing)) Quiet p (fun _ st => Quiet st) →
      Dialogue.Achieves (self.exchange (stub_bus timing)) Quiet
        (p >>= fun a => .done (result a)) fun v st => v.From self.config_.motor_id ∧ Quiet st :=
    fun result hresult hp => hp.bind fun a => .done fun _ h => ⟨hresult a, h⟩
  have write : ∀ (index : UInt16) (value : F32), Issued self
      ⟨make_write_param_frame_float self.config_.motor_id self.config_.host_id index value,
        .Feedback⟩ :=
    fun index value => .write index value.bytes
  cases c with
  | enable => exact feedback (transceive_feedback_achieves htiming .enable)
  | disable clear_fault => exact feedback (transceive_feedback_achieves htiming (.stop clear_fault))
  | set_run_mode mode =>
    exact other (fun _ => .void) (fun _ => True.intro) (set_run_mode_achieves htiming mode)
  | get_run_mode =>
    refine other (fun mode => .run_mode mode) (fun _ => True.intro) ?_
    exact (read_param_achieves htiming param_index.run_mode ParamResponse.as_uint8).bind
      fun _ => .done fun _ h => h
  | configure_velocity_mode current_limit acceleration =>
    refine other (fun _ => .void) (fun _ => True.intro) ?_
    exact (step (write _ _)).bind fun _ => (step (write _ _)).bind fun _ => .done fun _ h => h
  | send_velocity_command velocity =>
    exact feedback (transceive_feedback_achieves htiming (write _ _))
  | send_position_csp_command position speed_limit =>
    refine feedback ?_
    exact (step (write _ _)).bind fun _ => transceive_feedback_achieves htiming (write _ _)
  | send_motion_command torque position velocity kp kd =>
    exact feedback (transceive_feedback_achieves htiming (.motion torque position velocity kp kd))
  | set_mechanical_zero =>
    refine other (fun _ => .void) (fun _ => True.intro) ?_
    exact (step (.stop false)).bind fun _ => (step .zero).bind fun _ => .done fun _ h => h
  | read_param_float index =>
    exact other (fun v => .float v) (fun _ => True.intro)
      (read_param_achieves htiming index ParamResponse.as_float)
  | read_param_uint8 index =>
    exact other (fun v => .uint8 v) (fun _ => True.intro)
      (read_param_achieves htiming index ParamResponse.as_uint8)
  | write_param_float index value =>
    exact feedback (transceive_feedback_achieves htiming (write index value))
  | write_param_uint8 index value =>
    exact feedback (transceive_feedback_achieves htiming (.write index #v[value, 0, 0, 0]))

end Exchanges

/-! ## The fleet -/

section Fleet

variable {ι D : Type} [DecidableEq ι]

/-- The members that change: a cache for each motor, and the bus they share. -/
structure Fleet (ι D : Type) where
  last_feedback_ : ι → Option (Feedback D)
  can : StubBus D

/-- One step of a run: an operation of motor `i` with the clock readings it sees,
or a call of the simulation's two setters. -/
inductive Action (ι D : Type) where
  | command (i : ι) (c : Command D) (timing : Timing)
  | set_temperature (temperature : D)
  | set_fault_bits (motor_id fault_bits : UInt8)

/-- A step as it went: what an operation returned, and the fleet after it. -/
structure Event (ι D : Type) where
  action : Action ι D
  outcome : Option (Except Exception (Value D))
  after : Fleet ι D

variable [Add D] [Sub D] [Mul D] [Div D] [Neg D] [NatCast D] [IntCast D]
  [LT D] [DecidableLT D] [DoubleMath D] [FloatConv D]

def Action.run (motors : ι → RobstrideMotor D) (action : Action ι D) (fleet : Fleet ι D) :
    Event ι D :=
  match action with
  | command i c timing =>
    -- the readings of an operation are numbered from its own first exchange
    let result := c.run (stub_bus timing) (motors i)
      ⟨fleet.last_feedback_ i, { fleet.can with exchanges := 0 }⟩
    { action := action
      outcome := some result.1
      after :=
        { last_feedback_ := Function.update fleet.last_feedback_ i result.2.last_feedback_
          can := result.2.can } }
  | set_temperature temperature =>
    { action := action
      outcome := none
      after :=
        { fleet with can :=
            { fleet.can with stub := fleet.can.stub.set_temperature temperature } } }
  | set_fault_bits motor_id fault_bits =>
    { action := action
      outcome := none
      after :=
        { fleet with can :=
            { fleet.can with stub := fleet.can.stub.set_fault_bits motor_id fault_bits } } }

/-- A run, one event for each action. -/
def fleet_session (motors : ι → RobstrideMotor D) : List (Action ι D) → Fleet ι D →
    List (Event ι D)
  | [], _ => []
  | action :: actions, fleet =>
    action.run motors fleet :: fleet_session motors actions (action.run motors fleet).after

def Action.InTime (motors : ι → RobstrideMotor D) : Action ι D → Prop
  | command i _ timing => Robstride.InTime timing (motors i).config_.timeout_ns
  | _ => True

/-- The event leaves nothing queued; and if it is an operation, that returned
normally, with feedback of the motor it was called on. -/
def Event.Answered (motors : ι → RobstrideMotor D) (event : Event ι D) : Prop :=
  event.after.can.stub.responses_ = [] ∧
    ∀ i c timing, event.action = .command i c timing →
      ∃ v : Value D, event.outcome = some (.ok v) ∧ v.From (motors i).config_.motor_id

/-- The step lemma: an action that finds nothing queued is answered. -/
theorem Action.run_answered {motors : ι → RobstrideMotor D} {action : Action ι D}
    (hintime : action.InTime motors) {fleet : Fleet ι D} (hquiet : fleet.can.stub.responses_ = []) :
    (action.run motors fleet).Answered motors := by
  cases action with
  | command i c timing =>
    obtain ⟨v, st, hrun, hfrom, hst⟩ := c.operation_achieves hintime
      ⟨fleet.last_feedback_ i, { fleet.can with exchanges := 0 }⟩ hquiet
    unfold Action.run
    dsimp only
    rw [Command.run, hrun]
    refine ⟨hst, fun j d timing' h => ?_⟩
    obtain ⟨rfl, -, -⟩ := Action.command.inj h
    exact ⟨v, rfl, hfrom⟩
  | set_temperature temperature => exact ⟨hquiet, fun _ _ _ h => nomatch h⟩
  | set_fault_bits motor_id fault_bits => exact ⟨hquiet, fun _ _ _ h => nomatch h⟩

/-- The run lemma: if nothing is queued at the start, every action of the run is answered, and
nothing is queued at the end. -/
theorem fleet_session_answered {motors : ι → RobstrideMotor D} {actions : List (Action ι D)}
    (hintime : ∀ action ∈ actions, action.InTime motors) {fleet : Fleet ι D}
    (hquiet : fleet.can.stub.responses_ = []) :
    ∀ event ∈ fleet_session motors actions fleet, event.Answered motors := by
  induction actions generalizing fleet with
  | nil => exact fun event h => nomatch h
  | cons action actions ih =>
    have hstep := Action.run_answered (hintime action List.mem_cons_self) hquiet
    intro event hevent
    rcases List.mem_cons.mp hevent with rfl | hevent
    · exact hstep
    · exact ih (fun a ha => hintime a (List.mem_cons_of_mem _ ha)) hstep.1 event hevent

/-- **The simulator answers every command.** Any motors with any configurations
on a fresh simulation, any sequence of their operations and of the simulation's
setters, no deadline passing: each operation returns normally, feedback is of the
caller's motor, and nothing stays queued. -/
theorem simulator_answers_every_command (motors : ι → RobstrideMotor D) (pi : D)
    (actuator_type : ActuatorType) (stub : StubCanInterface D)
    (hfresh : StubCanInterface.make pi actuator_type = .ok stub)
    (last_feedback_ : ι → Option (Feedback D)) (actions : List (Action ι D))
    (hintime : ∀ action ∈ actions, action.InTime motors) :
    ∀ event ∈ fleet_session motors actions ⟨last_feedback_, { stub := stub }⟩,
      event.Answered motors := by
  have hquiet := StubCanInterface.responses_of_make hfresh
  exact fleet_session_answered hintime hquiet

end Fleet

/-- The two motors of `can_bus::dual`, which the unit tests share a bus with. -/
theorem simulator_answers_every_command_dual :
    ∃ stub, StubCanInterface.make (22 / 7 : ℚ) .Rs02 = .ok stub ∧
      ∀ event ∈ fleet_session fixtures.dual
          [.command false .enable fun _ reading => reading, .set_fault_bits 0x02 0x04,
            .command true (.set_run_mode RunMode.Velocity) fun _ reading => reading,
            .set_temperature 60, .command false .get_run_mode fun _ reading => reading]
          ⟨fun _ => none, { stub := stub }⟩,
        event.Answered fixtures.dual := by
  have hclock : ∀ motor, InTime (fun _ reading => reading)
      (fixtures.dual motor).config_.timeout_ns := by
    intro motor _
    change (2 : ℤ) < 1 + (fixtures.dual motor).config_.timeout_ns
    cases motor <;> decide
  refine ⟨_, rfl, simulator_answers_every_command _ (22 / 7) .Rs02 _ rfl _ _ ?_⟩
  intro action haction
  simp only [List.mem_cons, List.not_mem_nil, or_false] at haction
  rcases haction with rfl | rfl | rfl | rfl | rfl
  · exact hclock false
  · exact True.intro
  · exact hclock true
  · exact True.intro
  · exact hclock false

end Robstride
