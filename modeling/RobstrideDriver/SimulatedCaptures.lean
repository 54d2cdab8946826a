/-
The captures, without hardware.

`StubCanInterface` is there "for running applications without hardware", and the capture
programs are the applications. Here they run on it: the simulation has a clock, on which
every call takes some time of its own (`stub_clock`), and a capture begins with a new
simulation.

What an operation does there is read off the simulated motor: feedback shows the state
that the command has brought the motor into (`feedback_achieves`), and the state is known
by its mode, whether it is enabled and, where it does not turn, by its place (`Standing`). A
program all of whose parts return is `Rehearsed`, and `Rehearsed.run` takes it through the
loops of `run_profile`, by what one cycle does (`Tracking.cycle`). So `simulated_capture`
says what the columns of the five captures are: the velocity commanded, up to its code,
or the target reached, up to half a code, and nothing in the modes whose motion is not
simulated. Times, positions and velocities are reals, where the source computes in doubles:
the results are exact arithmetic, but the targets are the `float`s that the frames carry.
-/
import RobstrideDriver.CaptureConversations
import RobstrideDriver.ParamCodec
import RobstrideDriver.StubFleet
import RobstrideDriver.StubReports

set_option autoImplicit false

open CppArith Retry

namespace Robstride

namespace tracking_capture

/-! ## The simulation, and a clock -/

/-- The simulation, the time, and how often it has gone on. -/
structure StubClock (D : Type) where
  stub : StubCanInterface D
  time : ℤ := 0
  calls : ℕ := 0

section Clock

variable {D : Type} [Add D] [Sub D] [Mul D] [Div D] [Neg D] [NatCast D] [IntCast D]
  [LT D] [DecidableLT D] [DoubleMath D] [FloatConv D] (delay : ℕ → ℕ)

/-- The `n`-th call takes `delay n` nanoseconds. -/
def StubClock.pass (s : StubClock D) : StubClock D :=
  { s with time := s.time + delay s.calls, calls := s.calls + 1 }

def StubClock.sleep_until (t : ℤ) (s : StubClock D) : StubClock D :=
  StubClock.pass delay { s with time := max t s.time }

/-- `StubCanInterface`, and `Clock::now()`. -/
def stub_clock : CanInterface (StubClock D) where
  send frame s := (.ok (), StubClock.pass delay { s with stub := s.stub.send s.time frame })
  receive _ s := (.ok s.stub.receive.1, StubClock.pass delay { s with stub := s.stub.receive.2 })
  now s := (s.time, s.pass delay)
  backlog s := s.stub.responses_.length
  now_backlog _ := Nat.le_refl _
  receive_backlog := by
    rintro t ⟨⟨limits, motors, responses, temperature⟩, time, calls⟩ f s' h
    cases responses with
    | nil => cases congrArg Prod.fst h
    | cons frame rest =>
      obtain ⟨-, rfl⟩ := Prod.mk.inj h
      exact Nat.lt_succ_self _

/-- A motor on it. -/
def stub_bench (self : RobstrideMotor D) : Bench (Session (StubClock D) D) :=
  .on_transport (stub_clock delay) (StubClock.sleep_until delay) self

omit [Add D] [Sub D] [Mul D] [Div D] [Neg D] [NatCast D] [IntCast D] [LT D] [DecidableLT D]
  [DoubleMath D] [FloatConv D] in
theorem pass_time (s : StubClock D) : s.time ≤ (s.pass delay).time := by
  unfold StubClock.pass
  dsimp only
  omega

/-- Neither a reading nor an operation turns the clock of the simulation back. -/
theorem stub_bench_steady (self : RobstrideMotor D) : (stub_bench delay self).Steady where
  now st := pass_time delay st.can
  exchange e st := by
    refine RobstrideMotor.transceive_invariant (I := fun s : StubClock D => st.can.time ≤ s.time)
      ?_ ?_ ?_
    · rintro r s h
      obtain ⟨-, rfl⟩ := Prod.mk.inj h
      exact pass_time delay { st.can with stub := st.can.stub.send st.can.time e.frame }
    · intro s hs
      exact hs.trans (pass_time delay s)
    · rintro t s r s' hs h
      obtain ⟨-, rfl⟩ := Prod.mk.inj h
      exact hs.trans (pass_time delay { s with stub := s.stub.receive.2 })
  sleep t st := (le_max_right t _).trans (pass_time delay { st.can with time := max t st.can.time })
  wakes t st := (le_max_left t _).trans (pass_time delay { st.can with time := max t st.can.time })

variable {delay} {self : RobstrideMotor D} (hdelay : ∀ n, (delay n : ℤ) < self.config_.timeout_ns)
include hdelay

/-- Reading the clock of the bench is a call like the others, and takes as long. -/
theorem stub_bench_reading (st : Session (StubClock D) D) :
    (stub_bench delay self).clock ((stub_bench delay self).now st).2
      ≤ (stub_bench delay self).clock st + self.config_.timeout_ns := by
  have hcall := hdelay st.can.calls
  change st.can.time + delay st.can.calls ≤ st.can.time + self.config_.timeout_ns
  omega

/-- Where no call takes as long as the timeout, an exchange that finds nothing queued is
answered. -/
theorem exchange_stub_clock {e : Exchange} (he : Issued self e) {st : Session (StubClock D) D}
    (hquiet : st.can.stub.responses_ = []) :
    ∃ answer st', self.transceive (stub_clock delay) e.frame e.expected_type st
        = (.ok answer, st') ∧
      self.Answers e.expected_type answer ∧ answer.dlc = 8 ∧
      (st.can.stub.send st.can.time e.frame).responses_ = [answer] ∧
      st'.can.stub = { st.can.stub.send st.can.time e.frame with responses_ := [] } := by
  obtain ⟨answer, hresponses, hanswers, hdlc⟩ := he.answered st.can.stub st.can.time
  rw [hquiet, List.nil_append] at hresponses
  let sent : StubClock D :=
    StubClock.pass delay { st.can with stub := st.can.stub.send st.can.time e.frame }
  have hsend : (stub_clock delay).send e.frame st.can = (.ok (), sent) := rfl
  -- the deadline is set before the one call that comes between
  have htime : ¬ sent.time + self.config_.timeout_ns ≤ (sent.pass delay).time := by
    have hcall := hdelay sent.calls
    unfold StubClock.pass
    dsimp only
    omega
  have hreceive : (st.can.stub.send st.can.time e.frame).receive
      = (some answer, { st.can.stub.send st.can.time e.frame with responses_ := [] }) := by
    unfold StubCanInterface.receive
    rw [hresponses]
  have hreceived : (stub_clock delay).receive
      (RobstrideMotor.remaining (stub_clock delay) (sent.time + self.config_.timeout_ns)
        { st with can := sent.pass delay }) ((sent.pass delay).pass delay)
      = (.ok (some answer), StubClock.pass delay { (sent.pass delay).pass delay with
          stub := { st.can.stub.send st.can.time e.frame with responses_ := [] } }) := by
    refine Prod.ext (congrArg Except.ok (congrArg Prod.fst hreceive)) ?_
    exact congrArg (fun stub => StubClock.pass delay { (sent.pass delay).pass delay with
      stub := stub }) (congrArg Prod.snd hreceive)
  rw [RobstrideMotor.transceive_send_ok hsend]
  exact ⟨answer, _, RobstrideMotor.transceive_loop_match htime hreceived hanswers.1 hanswers.2,
    hanswers, hdlc, hresponses, rfl⟩

end Clock

/-! ## What the simulated motor is brought into -/

section Standing

variable [FloatConv ℝ]

/-- A motor that has been commanded so far, and if `still` has not left zero. -/
structure Standing (enabled : Bool) (mode : UInt8) (still : Prop) (state : MotorState ℝ) :
    Prop where
  enabled : state.enabled = enabled
  run_mode : state.run_mode = mode
  clocked : state.Clocked
  position : still → state.position = 0

variable {enabled : Bool} {mode : UInt8} {still : Prop} {state : MotorState ℝ}

omit [FloatConv ℝ] in
/-- That a motor stands still may be asked for in fewer cases. -/
theorem Standing.weaken {still' : Prop} (h : Standing enabled mode still state)
    (hstill : still' → still) : Standing enabled mode still' state where
  enabled := h.enabled
  run_mode := h.run_mode
  clocked := h.clocked
  position := fun hs => h.position (hstill hs)

/-- A motor that is not enabled, or not in velocity mode, does not move by itself. -/
theorem Standing.velocity (h : Standing enabled mode still state)
    (hmode : enabled = false ∨ mode ≠ RunMode.Velocity.raw) : state.velocity = 0 := by
  rcases hmode with hoff | hmode
  · exact velocity_eq_zero (h.enabled.trans hoff)
  · simp [MotorState.velocity, MotorState.moving, h.run_mode, hmode]

/-- **One command**: what it writes into the two registers, and no more. -/
theorem Standing.send {stub : StubCanInterface ℝ} {id : UInt8} {e : SentFrame}
    (h : Standing enabled mode still (stub.motors_ id)) (hadvances : advances id e)
    (hjump : ¬ Jumps (stub.motors_ id) id e)
    (hstill : still → enabled = false ∨ mode ≠ RunMode.Velocity.raw) :
    Standing ((enabled_write e.frame).getD enabled)
      (((param_write param_index.run_mode e.frame).map value_uint8).getD mode) still
      ((stub.send e.now e.frame).motors_ id) where
  enabled := by
    rw [StubCanInterface.send_motors, if_pos hadvances.1, StubCanInterface.effect_enabled,
      h.enabled]
  run_mode := by
    rw [StubCanInterface.send_motors, if_pos hadvances.1, StubCanInterface.effect_run_mode,
      h.run_mode]
  clocked := send_clocked h.clocked
  position := by
    intro hs
    by_cases hzero : zeroes id e
    · exact send_zero hzero
    · rw [send_position hadvances hzero hjump, advance_position h.clocked,
        h.velocity (hstill hs), h.position hs, zero_mul, zero_add]

end Standing

/-! ## Operations on the simulation -/

section Operations

variable [FloatConv ℝ] {self : RobstrideMotor ℝ}

/-- Between exchanges, with the simulated motor in such a state. -/
structure Simulated (driver : RobstrideMotor ℝ) (P : MotorState ℝ → Prop)
    (st : Session (StubClock ℝ) ℝ) : Prop where
  quiet : st.can.stub.responses_ = []
  limits : st.can.stub.limits_ = driver.limits_
  motor : P (st.can.stub.motors_ driver.config_.motor_id)

/-- Feedback of the state a motor is in. -/
def Shown (self : RobstrideMotor ℝ) (state : MotorState ℝ) (fb : Feedback ℝ) : Prop :=
  fb.position = reported_position self.limits_ state.position ∧
    fb.velocity = reported_velocity self.limits_ state.velocity

omit [FloatConv ℝ] in
/-- What is known of the motor may be forgotten. -/
theorem Simulated.weaken {P Q : MotorState ℝ → Prop} {st : Session (StubClock ℝ) ℝ}
    (h : Simulated self P st) (hPQ : ∀ state, P state → Q state) : Simulated self Q st where
  quiet := h.quiet
  limits := h.limits
  motor := hPQ _ h.motor

/-- An exchange that found nothing queued leaves nothing queued. -/
theorem Simulated.sent {P Q : MotorState ℝ → Prop} {st st' : Session (StubClock ℝ) ℝ}
    (h : Simulated self P st) {frame : CanFrame}
    (hstub : st'.can.stub = { st.can.stub.send st.can.time frame with responses_ := [] })
    (hstep : Q ((st.can.stub.send st.can.time frame).motors_ self.config_.motor_id)) :
    Simulated self Q st' where
  quiet := by rw [hstub]
  limits := by
    rw [hstub]
    exact (StubCanInterface.send_limits _ _ _).trans h.limits
  motor := by rwa [hstub]

omit [FloatConv ℝ] in
/-- A command that is answered with feedback advances the motor. -/
theorem command_advances {e : Exchange} (he : Issued self e)
    (hfeedback : e.expected_type = .Feedback) (now : ℤ) :
    advances self.config_.motor_id ⟨now, e.frame⟩ := by
  refine ⟨he.addressed, ?_⟩
  cases he with
  | read index => cases hfeedback
  | enable => exact .inl (get_comm_type_make_id _ _ _ _ _)
  | stop clear_fault => exact .inr (.inl (get_comm_type_make_id _ _ _ _ _))
  | zero => exact .inr (.inr (.inl (get_comm_type_make_id _ _ _ _ _)))
  | motion torque position velocity kp kd =>
    exact .inr (.inr (.inr (.inl (get_comm_type_make_id _ _ _ _ _))))
  | write index value => exact .inr (.inr (.inr (.inr (get_comm_type_make_id _ _ _ _ _))))

variable {delay : ℕ → ℕ} (hdelay : ∀ n, (delay n : ℤ) < self.config_.timeout_ns)
include hdelay

/-- A command returns the feedback of the state it has brought the motor into. -/
theorem feedback_achieves {P Q : MotorState ℝ → Prop} {frame : CanFrame}
    (he : Issued self ⟨frame, .Feedback⟩)
    (hstep : ∀ (stub : StubCanInterface ℝ) (now : ℤ), stub.limits_ = self.limits_ →
      P (stub.motors_ self.config_.motor_id) →
      Q ((stub.send now frame).motors_ self.config_.motor_id)) :
    Dialogue.Achieves (self.exchange (stub_clock delay)) (Simulated self P)
      (self.transceive_feedback frame) fun fb st => Simulated self Q st ∧
        Shown self (st.can.stub.motors_ self.config_.motor_id) fb := by
  intro st h
  obtain ⟨answer, st', hrun, hanswers, hdlc, hresponses, hstub⟩ :=
    exchange_stub_clock hdelay he h.quiet
  obtain ⟨fb, ⟨f, hf, hparse⟩, hposition, hvelocity⟩ :=
    reports st.can.stub (command_advances he rfl st.can.time)
  dsimp only at hf hposition hvelocity hresponses
  rw [h.quiet, List.nil_append, hresponses] at hf
  obtain rfl := List.singleton_inj.mp hf
  rw [h.limits] at hparse hposition hvelocity
  refine ⟨fb, st', run_transceive_feedback_ok.mpr ⟨answer, hrun, hparse⟩,
    h.sent hstub (hstep _ _ h.limits h.motor), ?_⟩
  rw [hstub]
  exact ⟨hposition, hvelocity⟩

/-- A command of the host, answered with feedback, brings the motor into the state that the
simulation computes. -/
theorem command_achieves {enabled : Bool} {mode : UInt8} {still : Prop} (c : HostCommand ℝ)
    (he : Issued self ⟨c.frame, .Feedback⟩)
    (hjump : c.writes_param param_index.loc_ref = none ∨ mode ≠ RunMode.PositionCsp.raw)
    (hstill : still → enabled = false ∨ mode ≠ RunMode.Velocity.raw) :
    Dialogue.Achieves (self.exchange (stub_clock delay))
      (Simulated self (Standing enabled mode still)) (self.transceive_feedback c.frame)
      fun fb st => Simulated self (Standing (c.enables.getD enabled)
          (((c.writes_param param_index.run_mode).map value_uint8).getD mode) still) st ∧
        Shown self (st.can.stub.motors_ self.config_.motor_id) fb := by
  refine feedback_achieves hdelay he fun stub now _ h => ?_
  have hstays : ¬ Jumps (stub.motors_ self.config_.motor_id) self.config_.motor_id
      ⟨now, c.frame⟩ := by
    rintro ⟨-, htype, hindex, -, hcsp⟩
    rcases hjump with hother | hmode
    · rw [← c.param_write_frame, param_write, if_pos ⟨htype, hindex⟩] at hother
      cases hother
    · exact hmode (h.run_mode.symm.trans hcsp)
  have hsent := h.send (command_advances he rfl now) hstays hstill
  dsimp only at hsent
  rw [c.enabled_write_frame, c.param_write_frame] at hsent
  exact hsent

/-- A read is answered from the registers of the motor, and leaves it as it is. -/
theorem read_achieves {α : Type} {P : MotorState ℝ → Prop} (index : UInt16)
    (field : ParamResponse → α) :
    Dialogue.Achieves (self.exchange (stub_clock delay)) (Simulated self P)
      (self.read_param index field) fun v st => Simulated self P st ∧
        ∃ (stub : StubCanInterface ℝ) (resp : ParamResponse),
          P (stub.motors_ self.config_.motor_id) ∧ v = field resp ∧
          parse_param_response (stub.read_response self.config_.motor_id self.config_.host_id
            ⟨self.config_.motor_id, self.config_.host_id, index⟩) = some resp := by
  intro st h
  have he : Issued self ⟨make_read_param_frame self.config_.motor_id self.config_.host_id index,
    .ReadParam⟩ := .read index
  have htype : get_comm_type (make_read_param_frame self.config_.motor_id self.config_.host_id
      index) = CommType.ReadParam.code := get_comm_type_make_id _ _ _ _ _
  obtain ⟨answer, st', hrun, hanswers, hdlc, hresponses, hstub⟩ :=
    exchange_stub_clock hdelay he h.quiet
  have hparse := parse_param_response_of hanswers.2 (by rw [hdlc]; decide)
  have hread : [answer] = [st.can.stub.read_response self.config_.motor_id self.config_.host_id
      ⟨self.config_.motor_id, self.config_.host_id, index⟩] := by
    rw [← hresponses, StubCanInterface.send_eq, st.can.stub.answers_of_read _ htype, h.quiet]
    simp [make_read_param_frame]
  -- a read changes nothing
  have hidle : ¬ advances self.config_.motor_id ⟨st.can.time,
      make_read_param_frame self.config_.motor_id self.config_.host_id index⟩ := by
    rintro ⟨-, hadvances⟩
    dsimp only at hadvances
    rw [htype] at hadvances
    simp [CommType.code_inj] at hadvances
  have hsame := send_idle st.can.stub self.config_.motor_id _ hidle
  dsimp only at hsame
  refine ⟨_, st', run_read_param_ok.mpr ⟨answer, _, hrun, hparse, rfl⟩, h.sent hstub ?_,
    st.can.stub, _, h.motor, rfl, ?_⟩
  · rw [hsame]
    exact h.motor
  · rw [← List.singleton_inj.mp hread]
    exact hparse

/-! ## Setting up -/

/-- A stop leaves a motor that is not enabled, in the mode that it was in. -/
theorem stop_simulated (mode : UInt8) :
    Dialogue.Achieves (self.exchange (stub_clock delay))
      (Simulated self (Standing false mode True)) self.disable
      fun _ st => Simulated self (Standing false mode True) st :=
  (command_achieves hdelay (.stop self.config_.motor_id self.config_.host_id false)
    (.stop false) (.inl rfl) fun _ => .inl rfl).weaken fun _ _ h => h.1

/-- A motor in the mode it was put into, and not enabled. -/
theorem set_run_mode_simulated (mode : RunMode) (before : UInt8) :
    Dialogue.Achieves (self.exchange (stub_clock delay))
      (Simulated self (Standing false before True)) (self.set_run_mode mode)
      fun _ st => Simulated self (Standing false mode.raw True) st := by
  have write : Dialogue.Achieves (self.exchange (stub_clock delay))
      (Simulated self (Standing false before True))
      (self.write_param_uint8 param_index.run_mode mode.raw)
      fun _ st => Simulated self (Standing false mode.raw True) st :=
    (command_achieves hdelay (.write_param_uint8 self.config_.motor_id self.config_.host_id
      param_index.run_mode mode.raw) (.write _ _) (.inl rfl) fun _ => .inl rfl).weaken
      fun _ _ h => h.1
  have read_back : Dialogue.Achieves (self.exchange (stub_clock delay))
      (Simulated self (Standing false mode.raw True)) self.get_run_mode
      fun actual st => actual = mode ∧ Simulated self (Standing false mode.raw True) st := by
    refine (read_achieves hdelay param_index.run_mode ParamResponse.as_uint8).bind fun v =>
      .done ?_
    rintro st ⟨h, stub, resp, hstanding, rfl, hparse⟩
    refine ⟨?_, h⟩
    rw [StubCanInterface.read_response, if_pos rfl, hstanding.run_mode,
      make_param_response_frame_uint8, parse_make_param_response_frame_base] at hparse
    rw [← Option.some.inj hparse]
    rfl
  refine (stop_simulated hdelay before).bind fun _ => write.bind fun _ =>
    read_back.bind fun actual => ?_
  rintro st ⟨rfl, h⟩
  rw [if_neg (not_not.mpr rfl)]
  exact ⟨(), st, rfl, h⟩

theorem set_mechanical_zero_simulated (mode : UInt8) :
    Dialogue.Achieves (self.exchange (stub_clock delay))
      (Simulated self (Standing false mode True)) self.set_mechanical_zero
      fun _ st => Simulated self (Standing false mode True) st := by
  refine (stop_simulated hdelay mode).bind fun _ => ?_
  exact (command_achieves hdelay (.set_mechanical_zero self.config_.motor_id
    self.config_.host_id) .zero (.inl rfl) fun _ => .inl rfl).bind fun _ => .done fun _ h => h.1

theorem enable_simulated (mode : UInt8) :
    Dialogue.Achieves (self.exchange (stub_clock delay))
      (Simulated self (Standing false mode True)) self.enable
      fun _ st => Simulated self (Standing true mode True) st :=
  (command_achieves hdelay (.enable self.config_.motor_id self.config_.host_id) .enable
    (.inl rfl) fun _ => .inl rfl).weaken fun _ _ h => h.1

/-- A parameter that is neither the mode nor a target. -/
theorem write_param_simulated {mode : UInt8} {still : Prop} {index : UInt16} (value : F32)
    (hindex : index ≠ param_index.run_mode)
    (hjump : index ≠ param_index.loc_ref ∨ mode ≠ RunMode.PositionCsp.raw)
    (hstill : still → mode ≠ RunMode.Velocity.raw) :
    Dialogue.Achieves (self.exchange (stub_clock delay))
      (Simulated self (Standing true mode still)) (self.write_param_float index value)
      fun fb st => Simulated self (Standing true mode still) st ∧
        Shown self (st.can.stub.motors_ self.config_.motor_id) fb := by
  let c : HostCommand ℝ :=
    .write_param_float self.config_.motor_id self.config_.host_id index value
  have hnone : c.writes_param param_index.run_mode = none := if_neg hindex
  have hstays : c.writes_param param_index.loc_ref = none ∨ mode ≠ RunMode.PositionCsp.raw :=
    hjump.imp_left fun hother => if_neg hother
  have hmoves : still → true = false ∨ mode ≠ RunMode.Velocity.raw := fun hs => .inr (hstill hs)
  have hwrite := command_achieves hdelay c (.write _ _) hstays hmoves
  rw [hnone] at hwrite
  exact hwrite

/-! ## A cycle of each capture -/

/-- `static_cast<float>`, and back. -/
noncomputable def commanded (target : ℝ) : ℝ := FloatConv.toDouble (FloatConv.toFloat target)

/-- A velocity command is followed: the feedback reports the velocity commanded, on its scale. -/
theorem velocity_achieves (target : ℝ) :
    Dialogue.Achieves (self.exchange (stub_clock delay))
      (Simulated self (Standing true RunMode.Velocity.raw False))
      (self.send_velocity_command target)
      fun fb st => Simulated self (Standing true RunMode.Velocity.raw False) st ∧
        fb.velocity = reported_velocity self.limits_ (commanded target) := by
  let c : HostCommand ℝ := .write_param_float self.config_.motor_id self.config_.host_id
    param_index.spd_ref (FloatConv.toFloat target)
  have he : Issued self ⟨c.frame, .Feedback⟩ := .write _ _
  have hfeedback := feedback_achieves hdelay (P := Standing true RunMode.Velocity.raw False)
    (Q := fun state => Standing true RunMode.Velocity.raw False state ∧
      state.velocity = commanded target) he fun stub now _ h => by
    have hadvances := command_advances he rfl now
    have hstays : ¬ Jumps (stub.motors_ self.config_.motor_id) self.config_.motor_id
        ⟨now, c.frame⟩ := by
      rintro ⟨-, -, -, -, hcsp⟩
      exact absurd (h.run_mode.symm.trans hcsp) (by decide)
    have hsent := h.send hadvances hstays fun hs => hs.elim
    dsimp only at hsent
    rw [c.enabled_write_frame, c.param_write_frame] at hsent
    have hstanding : Standing true RunMode.Velocity.raw False
        ((stub.send now c.frame).motors_ self.config_.motor_id) := hsent
    have hmoving : ((stub.send now c.frame).motors_ self.config_.motor_id).moving = true := by
      rw [MotorState.moving, hstanding.enabled, hstanding.run_mode]
      rfl
    refine ⟨hstanding, ?_⟩
    -- a motor that is moving has the velocity last written
    rw [velocity_of_moving hmoving, StubCanInterface.send_motors, if_pos hadvances.1, param_or_zero,
      StubCanInterface.effect_params _ _ _ _ (by decide), c.param_write_frame]
    rfl
  refine hfeedback.weaken ?_
  rintro fb st ⟨h, hshown⟩
  refine ⟨h.weaken fun _ hQ => hQ.1, ?_⟩
  rw [hshown.2, h.motor.2]

omit hdelay in
/-- The frame of a target is a write of `loc_ref`, which a motor in CSP mode jumps on. -/
theorem writes_target (motor_id host_id : UInt8) (value : F32) (now : ℤ) :
    WritesTarget motor_id
        ⟨now, make_write_param_frame_float motor_id host_id param_index.loc_ref value⟩ ∧
      target (make_write_param_frame_float motor_id host_id param_index.loc_ref value)
        = FloatConv.toDouble value := by
  refine ⟨⟨get_target_motor_id_make_id _ _ _ _ _, get_comm_type_make_id _ _ _ _ _,
    frame_index_param_data _ _ _ _⟩, ?_⟩
  rw [target, make_write_param_frame_float, make_write_param_frame_base, frame_value_param_data]

/-- A target in CSP mode is reached, and the feedback reports the position it stands for. -/
theorem target_achieves (position : ℝ) :
    Dialogue.Achieves (self.exchange (stub_clock delay))
      (Simulated self (Standing true RunMode.PositionCsp.raw False))
      (self.write_param_float param_index.loc_ref (FloatConv.toFloat position))
      fun fb st => Simulated self (Standing true RunMode.PositionCsp.raw False) st ∧
        ∃ reached, reached ≡ commanded position [PMOD 2 * self.limits_.position] ∧
          fb.position = reported_position self.limits_ reached ∧
          fb.velocity = reported_velocity self.limits_ 0 := by
  have he : Issued self ⟨make_write_param_frame_float self.config_.motor_id self.config_.host_id
    param_index.loc_ref (FloatConv.toFloat position), .Feedback⟩ := .write _ _
  have hfeedback := feedback_achieves hdelay (P := Standing true RunMode.PositionCsp.raw False)
    (Q := fun state => Standing true RunMode.PositionCsp.raw False state ∧
      state.position ≡ commanded position [PMOD 2 * self.limits_.position]) he
    fun stub now hlimits h => by
    obtain ⟨hwrites, htarget⟩ := writes_target self.config_.motor_id self.config_.host_id
      (FloatConv.toFloat position) now
    have hcsp : (stub.motors_ self.config_.motor_id).InCsp := ⟨h.enabled, h.run_mode⟩
    have hafter := send_inCsp hwrites hcsp
    have hclocked := send_clocked h.clocked (e := ⟨now, make_write_param_frame_float
      self.config_.motor_id self.config_.host_id param_index.loc_ref (FloatConv.toFloat position)⟩)
    have hreached := send_target_position hwrites hcsp h.clocked
    have hmod := (FixedPoint.remainder_modEq (target (make_write_param_frame_float
      self.config_.motor_id self.config_.host_id param_index.loc_ref (FloatConv.toFloat position))
      - (stub.motors_ self.config_.motor_id).position) (2 * stub.limits_.position)).add_left
      (stub.motors_ self.config_.motor_id).position
    rw [← hreached, add_sub_cancel, htarget, hlimits] at hmod
    exact ⟨⟨hafter.1, hafter.2, hclocked, fun hs => hs.elim⟩, hmod⟩
  refine hfeedback.weaken ?_
  rintro fb st ⟨h, hshown⟩
  refine ⟨h.weaken fun _ hQ => hQ.1, _, h.motor.2, hshown.1, ?_⟩
  rw [hshown.2, h.motor.1.velocity (.inr (by decide))]

end Operations

/-! ## What a capture shows -/

section Tracks

variable [FloatConv ℝ]

/-- The mode a capture runs in. -/
def Kind.mode {D : Type} : Kind D → RunMode
  | velocity => .Velocity
  | position => .PositionCsp
  | pp => .PositionPp
  | current => .Current
  | operation _ _ => .OperationControl

/-- The velocity of the simulated motor after a command. -/
noncomputable def Kind.speed : Kind ℝ → ℝ → ℝ
  | velocity, target => commanded target
  | _, _ => 0

/-- Where it stands then, if it does not turn. -/
noncomputable def Kind.place : Kind ℝ → ℝ → ℝ
  | position, target => commanded target
  | _, _ => 0

/-- A velocity as feedback reports it, and a position up to half a code. -/
structure Kind.Tracks (kind : Kind ℝ) (limits : ActuatorLimits ℝ) (target position velocity : ℝ) :
    Prop where
  velocity : velocity = reported_velocity limits (kind.speed target)
  position : kind ≠ .velocity → |position - kind.place target| ≤ limits.position / 65535

/-- A target whose place is so near to zero that positions do not wrap on the way to it. -/
structure Kind.Near (kind : Kind ℝ) (limits : ActuatorLimits ℝ) (target : ℝ) : Prop where
  place : kind ≠ .velocity →
    |kind.place target| + limits.position / 65535 ≤ limits.position / 2

/-- The unwrapper of a capture that has not gone far from zero. -/
structure Narrow (limits : ActuatorLimits ℝ) (unwrapper : PositionUnwrapper ℝ) : Prop where
  span : unwrapper.span_ = 2 * limits.position
  offset : unwrapper.offset_ = 0
  last : ∀ last ∈ unwrapper.last_wrapped_, |last| ≤ limits.position / 2

omit [FloatConv ℝ] in
/-- An unwrapper that has seen only positions near zero leaves such positions as they are. -/
theorem Narrow.update {limits : ActuatorLimits ℝ} {unwrapper : PositionUnwrapper ℝ}
    (h : Narrow limits unwrapper) {wrapped : ℝ} (hwrapped : |wrapped| ≤ limits.position / 2) :
    (unwrapper.update wrapped).1 = wrapped ∧ Narrow limits (unwrapper.update wrapped).2 := by
  have hoffset : unwrapper.next_offset wrapped = 0 := by
    unfold PositionUnwrapper.next_offset
    rw [h.span, h.offset]
    rcases hlast : unwrapper.last_wrapped_ with _ | last
    · rfl
    · -- from one half of the range to the other is no jump of half a span
      have hbefore := abs_le.mp (h.last last hlast)
      have hafter := abs_le.mp hwrapped
      have hup : ¬ 2 * limits.position / ((2 : ℕ) : ℝ) < wrapped - last := by
        rw [not_lt, Nat.cast_ofNat]
        linarith
      have hdown : ¬ wrapped - last < -(2 * limits.position) / ((2 : ℕ) : ℝ) := by
        rw [not_lt, Nat.cast_ofNat]
        linarith
      dsimp only
      rw [if_neg hup, if_neg hdown]
  refine ⟨?_, h.span, hoffset, ?_⟩
  · unfold PositionUnwrapper.update
    rw [hoffset, add_zero]
  · intro last hlast
    rw [← Option.some.inj hlast]
    exact hwrapped

/-! ## A rehearsed program -/

variable {σ : Type*}

/-- Where every part of a program returns, and its commands with feedback that tracks. -/
structure Rehearsed (b : Bench σ) (limits : ActuatorLimits ℝ) (kind : Kind ℝ) (p : Program ℝ)
    (Fresh Ready : σ → Prop) : Prop where
  set_up : Dialogue.Achieves b.exchange Fresh p.set_up fun _ s => Ready s
  cycle : ∀ target, kind.Near limits target →
    Dialogue.Achieves b.exchange Ready (p.send_command target) fun fb s =>
      Ready s ∧ kind.Tracks limits target fb.position fb.velocity
  extra : Dialogue.Achieves b.exchange Ready p.append_extra fun _ s => Ready s
  wind_up : Dialogue.Achieves b.exchange Ready p.wind_up fun _ _ => True
  now : ∀ s, Ready s → Ready (b.now s).2
  sleep : ∀ t s, Ready s → Ready (b.sleep_until t s)

/-- The rows so far track their targets, and the next one can. -/
structure Tracking (limits : ActuatorLimits ℝ) (kind : Kind ℝ) (Ready : σ → Prop)
    (c : Capture σ ℝ) : Prop where
  ready : Ready c.bench
  rows : ∀ row ∈ c.rows, kind.Tracks limits row.target row.position row.velocity
  unwrapper : kind ≠ .velocity → Narrow limits c.unwrapper

variable {b : Bench σ} {limits : ActuatorLimits ℝ} {kind : Kind ℝ} {p : Program ℝ}
  {Fresh Ready : σ → Prop} {start : ℤ} {c : Capture σ ℝ}

theorem Tracking.tick (h : Tracking limits kind Ready c)
    (hp : Rehearsed b limits kind p Fresh Ready) :
    Tracking limits kind Ready { c with bench := (b.now c.bench).2 } where
  ready := hp.now _ h.ready
  rows := h.rows
  unwrapper := h.unwrapper

variable (start) in
/-- **One cycle** returns, and adds a row that tracks its target. -/
theorem Tracking.cycle (h : Tracking limits kind Ready c)
    (hp : Rehearsed b limits kind p Fresh Ready) {target : ℝ} (hnear : kind.Near limits target) :
    ∃ c', cycle b start p.send_command p.append_extra target c = (.ok (), c') ∧
      Tracking limits kind Ready c' := by
  obtain ⟨fb, s, hsend, hs, htracks⟩ := hp.cycle target hnear _ (hp.now _ h.ready)
  obtain ⟨extra, s', hextra, hs'⟩ := hp.extra _ (hp.now _ hs)
  rcases cycle_cases b start p.send_command p.append_extra target c with
    ⟨e, r, hr, -⟩ | ⟨feedback, r, hr, ⟨e, r', hr', -⟩ | ⟨columns', r', hr', hcycle⟩⟩
  · cases congrArg Prod.fst (hsend.symm.trans hr)
  · obtain ⟨-, rfl⟩ := Prod.mk.inj (hsend.symm.trans hr)
    cases congrArg Prod.fst (hextra.symm.trans hr')
  · obtain ⟨hfb, rfl⟩ := Prod.mk.inj (hsend.symm.trans hr)
    obtain rfl := Except.ok.inj hfb
    obtain ⟨-, rfl⟩ := Prod.mk.inj (hextra.symm.trans hr')
    -- the reported position is within half of the range, and so is shown as it is
    have hshown : kind ≠ .velocity →
        (c.unwrapper.update fb.position).1 = fb.position ∧
          Narrow limits (c.unwrapper.update fb.position).2 := by
      intro hkind
      refine (h.unwrapper hkind).update ?_
      have hplace := hnear.place hkind
      have herror := htracks.position hkind
      have habs := abs_sub_abs_le_abs_sub fb.position (kind.place target)
      linarith
    refine ⟨_, hcycle, hp.sleep _ _ hs', ?_, fun hkind => (hshown hkind).2⟩
    intro row hrow
    rcases List.mem_append.mp hrow with hrow | hrow
    · exact h.rows row hrow
    · rw [List.mem_singleton.mp hrow]
      refine ⟨htracks.velocity, fun hkind => ?_⟩
      rw [show (columns b start target c.unwrapper fb s).position
        = (c.unwrapper.update fb.position).1 from rfl, (hshown hkind).1]
      exact htracks.position hkind

/-- The invariant of the loop. -/
def Underway (limits : ActuatorLimits ℝ) (kind : Kind ℝ) (Ready : σ → Prop)
    (st : Progress σ ℝ) : Prop :=
  Tracking limits kind Ready st.capture ∧
    ∀ segment ∈ st.profile, kind.Near limits segment.target

/-- One pass keeps the invariant of the loop: the segments that are over have been recorded. -/
theorem Underway.again (hp : Rehearsed b limits kind p Fresh Ready) {st st' : Progress σ ℝ}
    (h : Underway limits kind Ready st)
    (hpass : profile_turn b start p.send_command p.append_extra st = .again st') :
    Underway limits kind Ready st' := by
  obtain ⟨segments, current, c⟩ := st
  obtain ⟨htracking, hnear⟩ := h
  have htick := htracking.tick hp
  cases goesOn_of_again hpass with
  | begins segment rest => exact ⟨htick, hnear⟩
  | cycles segment rest segment_end c' htime hresult =>
    obtain ⟨c'', hcycle, htracking'⟩ := htick.cycle start hp (hnear segment List.mem_cons_self)
    obtain ⟨-, rfl⟩ := Prod.mk.inj (hcycle.symm.trans hresult)
    exact ⟨htracking', hnear⟩
  | ends segment rest segment_end htime =>
    exact ⟨htick, fun segment hsegment => hnear segment (List.mem_cons_of_mem _ hsegment)⟩

/-- The loop ends with its last segment, and not before. -/
theorem Underway.stop (hp : Rehearsed b limits kind p Fresh Ready) {st : Progress σ ℝ}
    (h : Underway limits kind Ready st) {out : Except Exception Unit × Capture σ ℝ}
    (hpass : profile_turn b start p.send_command p.append_extra st = .stop out) :
    out.1 = .ok () ∧ Tracking limits kind Ready out.2 := by
  obtain ⟨segments, current, c⟩ := st
  obtain ⟨htracking, hnear⟩ := h
  cases stops_of_stop hpass with
  | finished current => exact ⟨rfl, htracking⟩
  | fails segment rest segment_end e c' htime hresult =>
    -- no cycle fails
    obtain ⟨c'', hcycle, -⟩ := (htracking.tick hp).cycle start hp
      (hnear segment List.mem_cons_self)
    cases congrArg Prod.fst (hcycle.symm.trans hresult)

/-- **A rehearsed program** runs to its end, and records every segment, from the state in which
its set-up leaves the bench. -/
theorem Rehearsed.run (hp : Rehearsed b limits kind p Fresh Ready) (hb : b.Steady)
    (hnear : ∀ segment ∈ p.profile, kind.Near limits segment.target) {s : σ} (hs : Fresh s) :
    ∃ out, p.run b p.passes ⟨s, .of_limits limits, [], none⟩ = some out ∧ out.1 = .ok () ∧
      (∃ s₁ u blocks, Dialogue.run b.exchange p.set_up s = (.ok (), s₁) ∧
        Recording b (b.clock s₁) p.send_command p.append_extra (b.now s₁).2 p.profile blocks u ∧
        out.2.rows = blocks.flatten) ∧
      ∀ row ∈ out.2.rows, kind.Tracks limits row.target row.position row.velocity := by
  obtain ⟨⟨⟩, s₁, hset_up, hready⟩ := hp.set_up s hs
  obtain ⟨⟨result, c⟩, hrun⟩ := run_profile_ends p.profile p.send_command p.append_extra hb
    ⟨s₁, .of_limits limits, [], none⟩
  have hspan : (PositionUnwrapper.of_limits limits).span_ = 2 * limits.position := by
    rw [PositionUnwrapper.of_limits, PositionUnwrapper.of_span, Nat.cast_ofNat]
  have hfresh : Narrow limits (.of_limits limits) := by
    refine ⟨hspan, Nat.cast_zero, ?_⟩
    intro last hlast
    cases hlast
  have hstart : Tracking limits kind Ready
      ⟨(b.now s₁).2, .of_limits limits, [], none⟩ := by
    refine ⟨hp.now _ hready, ?_, fun _ => hfresh⟩
    intro row hrow
    cases hrow
  obtain ⟨rfl, htracking⟩ : result = .ok () ∧ Tracking limits kind Ready c :=
    Retry.Ends.invariant (I := Underway limits kind Ready)
      (fun st out h hpass => h.stop hp hpass) (fun st st' h hpass => h.again hp hpass)
      (Retry.ends_iff_run.mpr ⟨_, hrun⟩)
      ⟨hstart, hnear⟩
  cases recorded_of_run hb hrun with
  | completed hblocks hrows htimeline =>
    obtain ⟨⟨⟩, s₂, hwind_up, -⟩ := hp.wind_up c.bench htracking.ready
    refine ⟨_, Program.run_through hset_up hrun, ?_, ⟨s₁, c.bench, _, hset_up, hblocks, hrows⟩,
      htracking.rows⟩
    rw [hwind_up]

end Tracks

/-! ## The captures on the simulation -/

section Rehearsals

variable [FloatConv ℝ] {self : RobstrideMotor ℝ} {limits : ActuatorLimits ℝ}

omit [FloatConv ℝ] in
/-- A position that wraps to one well within the range is reported near that. -/
theorem reported_near (hlimits : limits.Positive) {position place : ℝ}
    (hmod : position ≡ place [PMOD 2 * limits.position])
    (hplace : |place| + limits.position / 65535 ≤ limits.position / 2) :
    |reported_position limits position - place| ≤ limits.position / 65535 := by
  have hL := hlimits.position
  have hturn : 0 < 2 * limits.position := by linarith
  -- the wrapped position and the place differ by less than a turn
  have hwrapped : FixedPoint.remainder position (2 * limits.position) = place := by
    obtain ⟨z, hz⟩ := AddCommGroup.modEq_iff_eq_add_zsmul.mp
      ((FixedPoint.remainder_modEq position (2 * limits.position)).trans hmod)
    have hrange := abs_le.mp (FixedPoint.remainder_abs_le position hturn)
    have hnear := abs_le.mp (show |place| ≤ limits.position / 2 by linarith [abs_nonneg place])
    rw [zsmul_eq_mul] at hz
    have hlow : (-1 : ℝ) < z := by
      by_contra hle
      nlinarith [not_lt.mp hle]
    have hhigh : (z : ℝ) < 1 := by
      by_contra hle
      nlinarith [not_lt.mp hle]
    have hzero : z = 0 := by
      have hlow' : -1 < z := by exact_mod_cast hlow
      have hhigh' : z < 1 := by exact_mod_cast hhigh
      omega
    rw [hz, hzero, Int.cast_zero, zero_mul, add_zero]
  have hwithin := (within_of_code hL place).error
  have hin := abs_le.mp (show |place| ≤ limits.position by linarith [abs_nonneg place])
  rw [FixedPoint.clamp_of_mem hin.1 hin.2] at hwithin
  rw [reported_position, Nat.cast_ofNat,
    show DoubleMath.remainder position (2 * limits.position) = place from hwrapped]
  exact hwithin

/-- The modes in which the simulated motor does not leave its place. -/
def Kind.Still {D : Type} : Kind D → Prop
  | velocity => False
  | position => False
  | _ => True

omit [FloatConv ℝ] in
theorem Kind.Still.mode {kind : Kind ℝ} (h : kind.Still) :
    kind.mode.raw ≠ RunMode.Velocity.raw := by
  cases kind with
  | velocity => exact h.elim
  | position => exact h.elim
  | pp => decide
  | current => decide
  | operation kp kd => exact (by decide : RunMode.OperationControl.raw ≠ RunMode.Velocity.raw)

/-- Between the cycles of a capture. -/
def Ready (self : RobstrideMotor ℝ) (kind : Kind ℝ) (st : Session (StubClock ℝ) ℝ) : Prop :=
  Simulated self (Standing true kind.mode.raw kind.Still) st

/-- Before it. -/
def Unused (self : RobstrideMotor ℝ) (st : Session (StubClock ℝ) ℝ) : Prop :=
  Simulated self (Standing false 0 True) st

/-- A motor that stands at zero is reported there, up to half a code of the position. -/
theorem Shown.still (hlimits : self.limits_.Positive) {kind : Kind ℝ} (hstill : kind.Still)
    {state : MotorState ℝ} (hstate : Standing true kind.mode.raw kind.Still state)
    {fb : Feedback ℝ} (hshown : Shown self state fb) (target : ℝ) :
    kind.Tracks self.limits_ target fb.position fb.velocity := by
  have hL := hlimits.position
  have hzero : |(0 : ℝ)| + self.limits_.position / 65535 ≤ self.limits_.position / 2 := by
    rw [abs_zero]
    linarith
  have hnear := reported_near hlimits (AddCommGroup.modEq_refl (0 : ℝ)) hzero
  rw [← hstate.position hstill, ← hshown.1, hstate.position hstill] at hnear
  have hvelocity := hshown.2
  rw [hstate.velocity (.inr hstill.mode)] at hvelocity
  cases kind with
  | velocity => exact hstill.elim
  | position => exact hstill.elim
  | pp => exact ⟨hvelocity, fun _ => hnear⟩
  | current => exact ⟨hvelocity, fun _ => hnear⟩
  | operation kp kd => exact ⟨hvelocity, fun _ => hnear⟩

variable {delay : ℕ → ℕ} (hdelay : ∀ n, (delay n : ℤ) < self.config_.timeout_ns)
include hdelay

theorem enable_ready (kind : Kind ℝ) :
    Dialogue.Achieves (self.exchange (stub_clock delay))
      (Simulated self (Standing false kind.mode.raw True)) self.enable
      fun _ st => Ready self kind st :=
  (enable_simulated hdelay kind.mode.raw).weaken fun _ _ h =>
    h.weaken fun _ hstanding => hstanding.weaken fun _ => trivial

theorem write_param_ready (kind : Kind ℝ) {index : UInt16} (value : F32)
    (hindex : index ≠ param_index.run_mode)
    (hjump : index ≠ param_index.loc_ref ∨ kind.mode.raw ≠ RunMode.PositionCsp.raw) :
    Dialogue.Achieves (self.exchange (stub_clock delay)) (Ready self kind)
      (self.write_param_float index value) fun fb st => Ready self kind st ∧
        Shown self (st.can.stub.motors_ self.config_.motor_id) fb :=
  write_param_simulated hdelay value hindex hjump Kind.Still.mode

/-- A write of any parameter but the mode and the position target leaves the motor ready. -/
theorem configure_ready (kind : Kind ℝ) {index : UInt16} (value : F32)
    (hindex : index ≠ param_index.run_mode) (hjump : index ≠ param_index.loc_ref) :
    Dialogue.Achieves (self.exchange (stub_clock delay)) (Ready self kind)
      (self.write_param_float index value) fun _ st => Ready self kind st :=
  (write_param_ready hdelay kind value hindex (.inl hjump)).weaken fun _ _ h => h.1

/-- The end of a capture: a motor that is ready answers the stop. -/
theorem disable_ready (kind : Kind ℝ) :
    Dialogue.Achieves (self.exchange (stub_clock delay)) (Ready self kind) (do
      let _ ← self.disable
      return ()) fun _ _ => True :=
  (command_achieves hdelay (.stop self.config_.motor_id self.config_.host_id false) (.stop false)
    (.inl rfl) fun hs => .inr (Kind.Still.mode hs)).bind fun _ => .done fun _ _ => trivial

/-- **Every capture is rehearsed on the simulation**, in velocity, CSP and the modes in which the
motor stands still. -/
theorem Kind.rehearsed (hlimits : self.limits_.Positive) (pi : ℝ) (kind : Kind ℝ) :
    Rehearsed (stub_bench delay self) self.limits_ kind (kind.program self pi) (Unused self)
      (Ready self kind) where
  set_up := by
    have set_run_mode := set_run_mode_simulated hdelay kind.mode 0
    have zero := set_mechanical_zero_simulated hdelay kind.mode.raw
    have enable := enable_ready hdelay kind
    cases kind with
    | velocity =>
      refine set_run_mode.bind fun _ => enable.bind fun _ => ?_
      exact (configure_ready hdelay .velocity _ (by decide) (by decide)).bind fun _ =>
        (configure_ready hdelay .velocity _ (by decide) (by decide)).bind fun _ =>
          .done fun _ h => h
    | position =>
      refine set_run_mode.bind fun _ => zero.bind fun _ => enable.bind fun _ => ?_
      exact (configure_ready hdelay .position _ (by decide) (by decide)).bind fun _ =>
        .done fun _ h => h
    | pp =>
      refine set_run_mode.bind fun _ => zero.bind fun _ => enable.bind fun _ => ?_
      exact (configure_ready hdelay .pp _ (by decide) (by decide)).bind fun _ =>
        (configure_ready hdelay .pp _ (by decide) (by decide)).bind fun _ => .done fun _ h => h
    | current => exact set_run_mode.bind fun _ => enable.bind fun _ => .done fun _ h => h
    | operation kp kd =>
      exact set_run_mode.bind fun _ => zero.bind fun _ => enable.bind fun _ => .done fun _ h => h
  cycle target hnear := by
    cases kind with
    | velocity =>
      exact (velocity_achieves hdelay target).weaken fun _ _ h =>
        ⟨h.1, h.2, fun hne => absurd rfl hne⟩
    | position =>
      refine (target_achieves hdelay target).weaken ?_
      rintro fb st ⟨hready, reached, hreached, hposition, hvelocity⟩
      refine ⟨hready, hvelocity, fun hne => ?_⟩
      rw [hposition]
      exact reported_near hlimits hreached (hnear.place hne)
    -- the simulation does not model the motion of the other modes
    | pp =>
      have hstill : (Kind.pp : Kind ℝ).Still := trivial
      exact (write_param_ready hdelay .pp _ (by decide) (.inr (by decide))).weaken fun _ _ h =>
        ⟨h.1, h.2.still hlimits hstill h.1.motor target⟩
    | current =>
      have hstill : (Kind.current : Kind ℝ).Still := trivial
      exact (write_param_ready hdelay .current _ (by decide) (.inl (by decide))).weaken
        fun _ _ h => ⟨h.1, h.2.still hlimits hstill h.1.motor target⟩
    | operation kp kd =>
      have hstill : (Kind.operation kp kd).Still := trivial
      exact (command_achieves hdelay (.motion_control self.config_.motor_id
        ((0 : ℕ) : ℝ) target ((0 : ℕ) : ℝ) kp kd self.limits_) (.motion _ _ _ _ _) (.inl rfl)
        fun _ => .inr hstill.mode).weaken fun _ _ h =>
          ⟨h.1, h.2.still hlimits hstill h.1.motor target⟩
  extra := by
    cases kind with
    | current =>
      exact (read_achieves hdelay param_index.iq_filtered ParamResponse.as_float).bind fun _ =>
        .done fun _ h => h.1
    | velocity => exact .done fun _ h => h
    | position => exact .done fun _ h => h
    | pp => exact .done fun _ h => h
    | operation kp kd => exact .done fun _ h => h
  wind_up := by
    have disable := disable_ready hdelay kind
    cases kind with
    | velocity =>
      exact (configure_ready hdelay .velocity _ (by decide) (by decide)).bind fun _ => disable
    | current =>
      exact (configure_ready hdelay .current _ (by decide) (by decide)).bind fun _ => disable
    | position => exact disable
    | pp => exact disable
    | operation kp kd => exact disable
  now st h := ⟨h.quiet, h.limits, h.motor⟩
  sleep t st h := ⟨h.quiet, h.limits, h.motor⟩

omit [FloatConv ℝ] hdelay in
/-- Positions of every actuator have one range, from -4 pi to 4 pi. -/
theorem limits_position {pi : ℝ} {actuator_type : ActuatorType} {limits : ActuatorLimits ℝ}
    (h : get_actuator_limits pi actuator_type = .ok limits) : limits.position = 4 * pi := by
  have hmem := get_actuator_limits_mem h
  simp only [limits_table, List.mem_cons, List.not_mem_nil, or_false] at hmem
  rcases hmem with rfl | rfl | rfl | rfl | rfl | rfl | rfl <;> simp

/-- **The captures on the simulation.** On a new simulation of the motor's type, where no
call takes as long as the timeout, and the timeout is shorter than each segment, a capture
runs to its end and records every segment of its profile: the clock is read until the
segment is over, each reading before that is followed by a row, and there is at least one.
Each row tracks its target: a velocity command is shown as the velocity, a CSP target as
the position, and in the other modes the motor stands still. -/
theorem simulated_capture {pi : ℝ} (hpi : 0 < pi) {actuator_type : ActuatorType}
    {stub : StubCanInterface ℝ} (hmake : StubCanInterface.make pi actuator_type = .ok stub)
    (htype : stub.limits_ = self.limits_) (kind : Kind ℝ)
    (hlong : ∀ segment ∈ (kind.program self pi).profile,
      seconds self.config_.timeout_ns < segment.duration_s)
    (hplace : ∀ segment ∈ (kind.program self pi).profile,
      |kind.place segment.target| ≤ 3 / 2 * pi)
    (last_feedback_ : Option (Feedback ℝ)) (time : ℤ) :
    ∃ out, (kind.program self pi).run (stub_bench delay self) (kind.program self pi).passes
        ⟨⟨last_feedback_, { stub := stub, time := time }⟩, .of_limits self.limits_, [], none⟩
        = some out ∧ out.1 = .ok () ∧
      (∃ s₁ u blocks, Dialogue.run (stub_bench delay self).exchange (kind.program self pi).set_up
          ⟨last_feedback_, { stub := stub, time := time }⟩ = (.ok (), s₁) ∧
        Recording (stub_bench delay self) ((stub_bench delay self).clock s₁)
          (kind.program self pi).send_command (kind.program self pi).append_extra
          ((stub_bench delay self).now s₁).2 (kind.program self pi).profile blocks u ∧
        (∀ rows ∈ blocks, rows ≠ []) ∧ out.2.rows = blocks.flatten) ∧
      ∀ row ∈ out.2.rows, kind.Tracks self.limits_ row.target row.position row.velocity := by
  obtain ⟨limits, htable, hstub⟩ := StubCanInterface.eq_of_make hmake
  have hunused : Unused self ⟨last_feedback_, { stub := stub, time := time }⟩ := by
    subst hstub
    exact ⟨rfl, htype, rfl, rfl, nofun, fun _ => Nat.cast_zero⟩
  obtain rfl : limits = self.limits_ := by rw [← htype, hstub]
  have hlimits := limits_positive hpi htable
  have hrange := limits_position htable
  have hnear : ∀ segment ∈ (kind.program self pi).profile,
      kind.Near self.limits_ segment.target := by
    intro segment hsegment
    have hnear := hplace segment hsegment
    refine ⟨fun _ => ?_⟩
    rw [hrange]
    linarith
  obtain ⟨out, hrun, hok, ⟨s₁, u, blocks, hset_up, hblocks, hrows⟩, htracks⟩ :=
    (kind.rehearsed hdelay hlimits pi).run (stub_bench_steady delay self) hnear hunused
  exact ⟨out, hrun, hok, ⟨s₁, u, blocks, hset_up, hblocks,
    hblocks.nonempty (stub_bench_reading hdelay) hlong, hrows⟩, htracks⟩

end Rehearsals

/-- Eighths that a `float` has are commanded as they are, without rounding. -/
theorem commanded_eighths {n : ℤ}
    (hfloat : Binary32.widen (Binary32.narrow ((n : ℚ) / 8)) = (n : ℚ) / 8) :
    commanded ((n : ℝ) / 8) = (n : ℝ) / 8 := by
  have hinteger : (n : ℝ) / 8 * 2 ^ 149 = ((n * 2 ^ 146 : ℤ) : ℝ) := by
    push_cast
    ring
  have hnarrow : FloatConv.toFloat ((n : ℝ) / 8) = Binary32.narrow ((n : ℚ) / 8) := by
    show Binary32.narrow ((FixedPoint.lround ((n : ℝ) / 8 * 2 ^ 149) : ℚ) / 2 ^ 149) = _
    rw [hinteger, FixedPoint.lround_intCast]
    congr 1
    push_cast
    ring
  have hwidened : commanded ((n : ℝ) / 8)
      = ((Binary32.widen (Binary32.narrow ((n : ℚ) / 8)) : ℚ) : ℝ) := by
    rw [commanded, hnarrow]
    rfl
  rw [hwidened, hfloat]
  push_cast
  rfl

/-- A driver with the limits of the simulation. -/
def driver_of (stub : StubCanInterface ℝ) : RobstrideMotor ℝ :=
  ⟨{ motor_id := 0x01, host_id := 0xFD }, stub.limits_⟩

/-- The CSP capture on a simulated RS02, where every call takes 50 ns, for the value 3.125 of pi:
its targets are then eighths, which a `float` has. -/
theorem simulated_capture_position :
    ∃ stub, StubCanInterface.make (25 / 8 : ℝ) .Rs02 = .ok stub ∧
      ∃ out, ((Kind.position : Kind ℝ).program (driver_of stub) (25 / 8)).run
          (stub_bench (fun _ => 50) (driver_of stub))
          ((Kind.position : Kind ℝ).program (driver_of stub) (25 / 8)).passes
          ⟨⟨none, { stub := stub, time := 0 }⟩, .of_limits (driver_of stub).limits_, [], none⟩
          = some out ∧ out.1 = .ok () ∧
        (∃ s₁ u blocks, Dialogue.run (stub_bench (fun _ => 50) (driver_of stub)).exchange
            ((Kind.position : Kind ℝ).program (driver_of stub) (25 / 8)).set_up
            ⟨none, { stub := stub, time := 0 }⟩ = (.ok (), s₁) ∧
          Recording (stub_bench (fun _ => 50) (driver_of stub))
            ((stub_bench (fun _ => 50) (driver_of stub)).clock s₁)
            ((Kind.position : Kind ℝ).program (driver_of stub) (25 / 8)).send_command
            ((Kind.position : Kind ℝ).program (driver_of stub) (25 / 8)).append_extra
            ((stub_bench (fun _ => 50) (driver_of stub)).now s₁).2
            ((Kind.position : Kind ℝ).program (driver_of stub) (25 / 8)).profile blocks u ∧
          (∀ rows ∈ blocks, rows ≠ []) ∧ out.2.rows = blocks.flatten) ∧
        ∀ row ∈ out.2.rows, (Kind.position : Kind ℝ).Tracks (driver_of stub).limits_ row.target
          row.position row.velocity := by
  have hmake : StubCanInterface.make (25 / 8 : ℝ) .Rs02 = .ok _ := rfl
  refine ⟨_, hmake,
    simulated_capture (fun _ => by decide) (by norm_num) hmake rfl .position ?_ ?_ none 0⟩
  · intro segment hsegment
    simp only [Kind.program, tracking_capture_position, List.mem_cons, List.not_mem_nil,
      or_false] at hsegment
    change seconds (100 * 1000000) < _
    rcases hsegment with rfl | rfl | rfl | rfl <;> norm_num [seconds]
  have hplus : commanded (25 / 8) = 25 / 8 := by
    have h := commanded_eighths (n := 25) (by decide +kernel)
    rwa [Int.cast_ofNat] at h
  have hminus : commanded (-(25 / 8)) = -(25 / 8) := by
    have h := commanded_eighths (n := -25) (by decide +kernel)
    rwa [Int.cast_neg, Int.cast_ofNat, neg_div] at h
  have hzero : commanded 0 = 0 := by
    have h := commanded_eighths (n := 0) (by decide +kernel)
    rwa [Int.cast_zero, zero_div] at h
  intro segment hsegment
  simp only [Kind.program, tracking_capture_position, List.mem_cons, List.not_mem_nil,
    or_false] at hsegment
  rcases hsegment with rfl | rfl | rfl | rfl
  · rw [Kind.place, Nat.cast_zero, hzero]
    norm_num
  · rw [Kind.place, hplus]
    norm_num [abs_of_pos]
  · rw [Kind.place, hminus]
    norm_num [abs_of_pos]
  · rw [Kind.place, Nat.cast_zero, hzero]
    norm_num

end tracking_capture

end Robstride
