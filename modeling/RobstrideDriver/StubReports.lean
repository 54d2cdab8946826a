/-
What the simulated motors report of their motion.

Feedback carries the continuous position wrapped into the range of the actuator and
quantised, and the velocity clamped to its range and quantised. Position and velocity
take different ways there: the position is integrated from the commanded `spd_ref`, and
only what is reported is clamped. So reported motion and reported velocity agree up to the
quantisation as long as the command is in range (`velocity_matches_motion`), and beyond it
the position gains on the velocity. A `loc_ref` write takes an enabled motor in CSP mode
the shortest way to its target, and moves no other motor (`csp_target_reached`).

Exact arithmetic, over the reals.
-/
import RobstrideDriver.FeedbackCodec
import RobstrideDriver.StubMotion

set_option autoImplicit false

open CppArith FixedPoint

namespace Robstride

/-- The ranges of every actuator have a positive length, as pi has. -/
theorem limits_positive {pi : ℝ} (hpi : 0 < pi) {type : ActuatorType} {limits : ActuatorLimits ℝ}
    (h : get_actuator_limits pi type = .ok limits) : limits.Positive := by
  have hmem := get_actuator_limits_mem h
  have hfour : 0 < ((4 : ℕ) : ℝ) * pi := by positivity
  simp only [limits_table, List.mem_cons, List.not_mem_nil, or_false] at hmem
  rcases hmem with rfl | rfl | rfl | rfl | rfl | rfl | rfl <;>
    exact ⟨hfour, by positivity, by positivity⟩

section Reports

variable [FloatConv ℝ]

/-! ## Reachable states -/

/-- The simulator after any calls. -/
noncomputable def StubCanInterface.steps (stub : StubCanInterface ℝ)
    (calls : List (StubEvent CanFrame ℝ)) : StubCanInterface ℝ :=
  calls.foldl StubCanInterface.step stub

/-- What a new simulation can become. -/
def StubCanInterface.Reachable (stub : StubCanInterface ℝ) : Prop :=
  ∃ (pi : ℝ) (type : ActuatorType) (start : StubCanInterface ℝ)
    (calls : List (StubEvent CanFrame ℝ)), 0 < pi ∧ StubCanInterface.make pi type = .ok start ∧
      stub = start.steps calls

/-- What every call keeps, any number of calls keep, by induction on the calls. -/
theorem steps_invariant {I : StubCanInterface ℝ → Prop}
    (hstep : ∀ stub event, I stub → I (stub.step event)) {stub : StubCanInterface ℝ}
    (h : I stub) (calls : List (StubEvent CanFrame ℝ)) : I (stub.steps calls) := by
  induction calls generalizing stub with
  | nil => exact h
  | cons event calls ih => exact ih (hstep stub event h)

theorem reachable_positive {stub : StubCanInterface ℝ} (h : stub.Reachable) :
    stub.limits_.Positive := by
  obtain ⟨pi, type, start, calls, hpi, hmake, rfl⟩ := h
  have hstart : start.limits_.Positive := by
    obtain ⟨limits, hlimits, rfl⟩ := StubCanInterface.eq_of_make hmake
    exact limits_positive hpi hlimits
  refine steps_invariant (I := fun stub => stub.limits_.Positive) (fun stub event h => ?_) hstart
    calls
  rwa [step_limits]

/-- A call that sends no frame leaves a motor as it is, but for its fault bits. -/
theorem step_cases (stub : StubCanInterface ℝ) (event : StubEvent CanFrame ℝ) (id : UInt8) :
    (∃ e : SentFrame, event = .send e.now e.frame) ∨
      ∃ bits, (stub.step event).motors_ id = { stub.motors_ id with fault_bits := bits } := by
  obtain ⟨hreceive, htemperature, hset⟩ := step_motors stub id
  cases event with
  | send now frame => exact .inl ⟨⟨now, frame⟩, rfl⟩
  | receive => exact .inr ⟨_, hreceive⟩
  | set_temperature temperature => exact .inr ⟨_, htemperature temperature⟩
  | set_fault_bits motor_id fault_bits =>
    rw [hset]
    split_ifs
    · exact .inr ⟨fault_bits, rfl⟩
    · exact .inr ⟨_, rfl⟩

/-- In every reachable state the clock of a motor that is enabled has been set. -/
theorem reachable_clocked {stub : StubCanInterface ℝ} (h : stub.Reachable) (id : UInt8) :
    (stub.motors_ id).Clocked := by
  obtain ⟨pi, type, start, calls, -, hmake, rfl⟩ := h
  have hstart : (start.motors_ id).Clocked := by
    rw [make_fresh hmake id]
    exact nofun
  refine steps_invariant (I := fun stub => (stub.motors_ id).Clocked) (fun stub event h => ?_)
    hstart calls
  rcases step_cases stub event id with ⟨e, rfl⟩ | ⟨bits, hbits⟩
  · exact send_clocked h
  · rw [hbits]
    exact h

/-! ## What feedback reports -/

/-- The feedback a frame is answered with, as the host decodes it. -/
def Reported (stub : StubCanInterface ℝ) (e : SentFrame) (d : Feedback ℝ) : Prop :=
  ∃ f, (stub.send e.now e.frame).responses_ = stub.responses_ ++ [f] ∧
    parse_feedback f stub.limits_ = some d

/-- A velocity as feedback reports it: encoded and decoded. -/
noncomputable def reported_velocity (limits : ActuatorLimits ℝ) (velocity : ℝ) : ℝ :=
  uint_to_float (float_to_uint velocity (-limits.velocity) limits.velocity) (-limits.velocity)
    limits.velocity

/-- Every advancing frame is answered with the position and the velocity it leaves. -/
theorem reports (stub : StubCanInterface ℝ) {id : UInt8} {e : SentFrame} (h : advances id e) :
    ∃ d, Reported stub e d ∧
      d.position
        = reported_position stub.limits_ ((stub.send e.now e.frame).motors_ id).position ∧
      d.velocity
        = reported_velocity stub.limits_ ((stub.send e.now e.frame).motors_ id).velocity := by
  obtain ⟨rfl, htype⟩ := h
  have hchange : (StubCanInterface.change stub.limits_ e.frame).isSome = true :=
    StubCanInterface.change_isSome_iff.mpr htype
  have hstate : (stub.send e.now e.frame).motors_ (get_target_motor_id e.frame)
      = StubCanInterface.effect stub.limits_ e.now e.frame
          (stub.motors_ (get_target_motor_id e.frame)) := by
    rw [StubCanInterface.send_motors, if_pos rfl]
  have hanswer : (stub.send e.now e.frame).responses_
      = stub.responses_ ++ [make_feedback_frame (stub.feedback (get_target_motor_id e.frame)
          (get_host_id e.frame) ((stub.send e.now e.frame).motors_ (get_target_motor_id e.frame)))
          stub.limits_] := by
    rw [hstate, StubCanInterface.send_eq, StubCanInterface.answers, if_pos hchange]
  refine ⟨_, ⟨_, hanswer, parse_make_feedback_frame _ stub.limits_ stub.limits_⟩, rfl, ?_⟩
  rw [MotorState.velocity, ← Nat.cast_zero]
  rfl

omit [FloatConv ℝ] in
/-- What is reported is where the motor is, up to whole turns and half a code. -/
theorem reported_position_near {limits : ActuatorLimits ℝ} (h : limits.Positive) (position : ℝ) :
    NearModulo (2 * limits.position) (limits.position / 65535)
      (reported_position limits position) position := by
  have hturn : 0 < 2 * limits.position := by linarith [h.position]
  have hwrap := abs_le.mp (remainder_abs_le position hturn)
  have hwithin := within_of_code h.position (remainder position (2 * limits.position))
  refine ⟨remainder position (2 * limits.position), remainder_modEq _ _, ?_⟩
  have herror := hwithin.error
  rw [clamp_of_mem (by linarith) (by linarith)] at herror
  exact herror

omit [FloatConv ℝ] in
theorem reported_velocity_error {limits : ActuatorLimits ℝ} (h : limits.Positive) (velocity : ℝ) :
    |reported_velocity limits velocity - clamp velocity (-limits.velocity) limits.velocity|
      ≤ limits.velocity / 65535 :=
  (within_of_code h.velocity velocity).error

end Reports

/-! ## CSP targets -/

section Csp

variable [FloatConv ℝ]

/-- A write of `loc_ref` to the motor. -/
def WritesTarget (id : UInt8) (e : SentFrame) : Prop :=
  get_target_motor_id e.frame = id ∧ get_comm_type e.frame = CommType.WriteParam.code ∧
    frame_index e.frame = param_index.loc_ref

instance (id : UInt8) : DecidablePred (WritesTarget id) :=
  fun _ => inferInstanceAs (Decidable (_ ∧ _ ∧ _))

/-- The target it writes. -/
noncomputable def target (frame : CanFrame) : ℝ := FloatConv.toDouble ⟨frame_value frame⟩

/-- Enabled, in CSP mode. -/
def MotorState.InCsp (state : MotorState ℝ) : Prop :=
  state.enabled = true ∧ state.run_mode = RunMode.PositionCsp.raw

omit [FloatConv ℝ] in
/-- The write of a target is a frame that advances the motor. -/
theorem WritesTarget.advances {id : UInt8} {e : SentFrame} (h : WritesTarget id e) :
    advances id e :=
  ⟨h.1, .inr (.inr (.inr (.inr h.2.1)))⟩

omit [FloatConv ℝ] in
/-- And it is no zero command. -/
theorem WritesTarget.not_zeroes {id : UInt8} {e : SentFrame} (h : WritesTarget id e) :
    ¬ zeroes id e := by
  rintro ⟨-, hzero⟩
  rw [h.2.1] at hzero
  simp [CommType.code_inj] at hzero

/-- In CSP mode a motor does not move by itself, but only when a target is written. -/
theorem MotorState.InCsp.velocity {state : MotorState ℝ} (h : state.InCsp) :
    state.velocity = 0 := by
  have hmode : RunMode.PositionCsp.raw ≠ RunMode.Velocity.raw := by decide
  simp [MotorState.velocity, MotorState.moving, h.2, hmode]

/-- It goes to the nearest position that wraps to the target. -/
theorem send_target_position {stub : StubCanInterface ℝ} {id : UInt8} {e : SentFrame}
    (h : WritesTarget id e) (hcsp : (stub.motors_ id).InCsp)
    (hclocked : (stub.motors_ id).Clocked) :
    ((stub.send e.now e.frame).motors_ id).position
      = (stub.motors_ id).position
        + remainder (target e.frame - (stub.motors_ id).position) (2 * stub.limits_.position) := by
  obtain ⟨hid, htype, hindex⟩ := h
  have hmode : param_index.loc_ref ≠ param_index.run_mode := by decide
  have hstill : ((stub.motors_ id).advance e.now).position = (stub.motors_ id).position := by
    rw [advance_position hclocked, hcsp.velocity, zero_mul, add_zero]
  have hwrite : StubCanInterface.change stub.limits_ e.frame
      = some (StubCanInterface.write stub.limits_ ⟨get_target_motor_id e.frame,
          get_host_id e.frame, frame_index e.frame, frame_value e.frame⟩) := by
    simp [StubCanInterface.change, htype, CommType.code_inj]
  rw [StubCanInterface.send_motors, if_pos hid, StubCanInterface.effect, hwrite]
  dsimp only
  unfold StubCanInterface.write
  dsimp only
  rw [hindex, if_neg hmode, if_pos ⟨rfl, hcsp.1, hcsp.2⟩]
  dsimp only
  rw [hstill]
  rfl

theorem send_inCsp {stub : StubCanInterface ℝ} {id : UInt8} {e : SentFrame}
    (h : WritesTarget id e) (hcsp : (stub.motors_ id).InCsp) :
    ((stub.send e.now e.frame).motors_ id).InCsp := by
  obtain ⟨hid, htype, hindex⟩ := h
  have hmode : param_index.loc_ref ≠ param_index.run_mode := by decide
  rw [StubCanInterface.send_motors, if_pos hid, MotorState.InCsp, StubCanInterface.effect_enabled,
    StubCanInterface.effect_run_mode]
  simp [enabled_write, param_write, htype, hindex, hmode, CommType.code_inj, hcsp.1, hcsp.2]

/-- **CSP targets are reached by the shortest way.** In every state a simulation can be in, a target
for an enabled motor in CSP mode takes it at once to a position that is the target up to whole turns
and no further than half a turn from where it was, which feedback reports. A motor that is disabled
or in another mode goes on as it did. -/
theorem csp_target_reached {stub : StubCanInterface ℝ} (hstub : stub.Reachable) {id : UInt8}
    {e : SentFrame} (h : WritesTarget id e) :
    let before := stub.motors_ id
    let after := (stub.send e.now e.frame).motors_ id
    (before.InCsp →
        |after.position - before.position| ≤ stub.limits_.position ∧
          after.position ≡ target e.frame [PMOD 2 * stub.limits_.position] ∧
          ∃ d, Reported stub e d ∧
            NearModulo (2 * stub.limits_.position) (stub.limits_.position / 65535) d.position
              (target e.frame) ∧
            d.velocity = reported_velocity stub.limits_ 0) ∧
      (¬ before.InCsp → after.position = before.position
        + before.velocity * (((e.now - before.last_update : ℤ) : ℝ) / 1000000000)) := by
  have hlimits := reachable_positive hstub
  have hclocked := reachable_clocked hstub id
  have hturn : 0 < 2 * stub.limits_.position := by linarith [hlimits.position]
  dsimp only
  refine ⟨fun hcsp => ?_, fun hcsp => ?_⟩
  · have hposition := send_target_position h hcsp hclocked
    have hshort := remainder_abs_le (target e.frame - (stub.motors_ id).position) hturn
    -- the rest of the way is a number of turns
    have hreached : ((stub.send e.now e.frame).motors_ id).position
        ≡ target e.frame [PMOD 2 * stub.limits_.position] := by
      have hmod := (remainder_modEq (target e.frame - (stub.motors_ id).position)
        (2 * stub.limits_.position)).add_left (stub.motors_ id).position
      rwa [add_sub_cancel, ← hposition] at hmod
    obtain ⟨d, hreports, hd, hvelocity⟩ := reports stub h.advances
    have hcsp' : ((stub.send e.now e.frame).motors_ id).InCsp := send_inCsp h hcsp
    refine ⟨?_, hreached, d, hreports, ?_, ?_⟩
    · rw [hposition, add_sub_cancel_left]
      linarith
    · rw [hd]
      exact (reported_position_near hlimits _).congr hreached
    · rw [hvelocity, hcsp'.velocity]
  · have hjump : ¬ Jumps (stub.motors_ id) id e := fun hjump => hcsp hjump.2.2.2
    rw [send_position h.advances h.not_zeroes hjump, advance_position hclocked]

end Csp

namespace fixtures

/-- Motor 1, enabled and put into a mode. -/
def started (mode : RunMode) : List (StubEvent CanFrame ℝ) :=
  [.send 0 (make_enable_frame 0x01 0xFD),
    .send 0 (make_write_param_frame_uint8 0x01 0xFD param_index.run_mode mode.raw)]

/-- A target beyond the range. -/
def far : SentFrame :=
  ⟨0, make_write_param_frame_float 0x01 0xFD param_index.loc_ref (Binary32.narrow 88)⟩

end fixtures

/-- The RS02, in a simulation with 22/7 for pi, started in any mode. -/
theorem rs02_started (mode : RunMode) :
    ∃ start : StubCanInterface ℝ, (start.steps (fixtures.started mode)).Reachable ∧
      start.limits_.position = 88 / 7 ∧ start.limits_.velocity = 44 := by
  refine ⟨_, ⟨22 / 7, .Rs02, _, _, by norm_num, rfl, rfl⟩, ?_, ?_⟩ <;> norm_num

/-- Three and a half turns away, a tie between two ways. -/
theorem csp_target_reached_far :
    ∃ stub : StubCanInterface ℝ, stub.Reachable ∧
      |((stub.send fixtures.far.now fixtures.far.frame).motors_ 0x01).position
          - (stub.motors_ 0x01).position| ≤ stub.limits_.position ∧
      ((stub.send fixtures.far.now fixtures.far.frame).motors_ 0x01).position
        ≡ target fixtures.far.frame [PMOD 2 * stub.limits_.position] ∧
      ∃ d, Reported stub fixtures.far d ∧
        NearModulo (2 * stub.limits_.position) (stub.limits_.position / 65535) d.position
          (target fixtures.far.frame) ∧
        d.velocity = reported_velocity stub.limits_ 0 := by
  obtain ⟨start, hstub, -, -⟩ := rs02_started .PositionCsp
  have hwrites : WritesTarget 0x01 fixtures.far := by decide +kernel
  have hcsp : ((start.steps (fixtures.started .PositionCsp)).motors_ 0x01).InCsp := ⟨rfl, rfl⟩
  exact ⟨_, hstub, (csp_target_reached hstub hwrites).1 hcsp⟩

/-! ## Velocity and motion -/

section Velocity

variable [FloatConv ℝ]

/-- No call changes enabled, `run_mode`, `spd_ref` or the zero of the motor. -/
def Undisturbed (id : UInt8) : StubCanInterface ℝ → List (StubEvent CanFrame ℝ) → Prop
  | _, [] => True
  | stub, call :: calls =>
    (∀ now frame, call = .send now frame → Silent stub id ⟨now, frame⟩) ∧
      Undisturbed id (stub.step call) calls

omit [FloatConv ℝ] in
/-- A motor that moves is not in CSP mode, and so no frame makes it jump. -/
theorem not_jumps_of_moving {state : MotorState ℝ} (h : state.moving = true) (id : UInt8)
    (e : SentFrame) : ¬ Jumps state id e := by
  have hmode : RunMode.Velocity.raw ≠ RunMode.PositionCsp.raw := by decide
  rintro ⟨-, -, -, -, hcsp⟩
  simp [MotorState.moving, hcsp, hmode.symm] at h

omit [FloatConv ℝ] in
theorem SameCommand.moving {state state' : MotorState ℝ} (h : SameCommand state state') :
    state.moving = state'.moving := by
  rw [MotorState.moving, MotorState.moving, h.enabled, h.run_mode]

/-- An undisturbed motor moves as it did: what is sent meanwhile commands nothing new. -/
theorem MovesAlike.undisturbed {state : MotorState ℝ} (hmoving : state.moving = true) {id : UInt8}
    {calls : List (StubEvent CanFrame ℝ)} {stub : StubCanInterface ℝ}
    (h : MovesAlike (stub.motors_ id) state) (hcalls : Undisturbed id stub calls) :
    MovesAlike ((stub.steps calls).motors_ id) state := by
  induction calls generalizing stub with
  | nil => exact h
  | cons call calls ih =>
    obtain ⟨hcall, hrest⟩ := hcalls
    have hcons : stub.steps (call :: calls) = (stub.step call).steps calls := rfl
    rw [hcons]
    apply ih _ hrest
    rcases step_cases stub call id with ⟨e, rfl⟩ | ⟨bits, hbits⟩
    · have hjump := not_jumps_of_moving (h.toSameCommand.moving.trans hmoving) id e
      exact h.silent (hcall e.now e.frame rfl) hjump
    · rw [hbits]
      exact ⟨⟨h.enabled, h.run_mode, h.spd_ref⟩, h.clocked, h.clocked', h.position⟩

/-- Two feedback frames of a motor that has been moving all the time between them. -/
structure Observed (stub : StubCanInterface ℝ) (id : UInt8) (e₁ e₂ : SentFrame)
    (between : List (StubEvent CanFrame ℝ)) : Prop where
  first : advances id e₁
  second : advances id e₂
  moving : ((stub.send e₁.now e₁.frame).motors_ id).moving = true
  undisturbed : Undisturbed id (stub.send e₁.now e₁.frame) between
  silent : Silent ((stub.send e₁.now e₁.frame).steps between) id e₂
  ordered : e₁.now ≤ e₂.now

/-- Where the motor is at the second frame, and how fast it moves there. -/
theorem Observed.position {stub : StubCanInterface ℝ} {id : UInt8} {e₁ e₂ : SentFrame}
    {between : List (StubEvent CanFrame ℝ)} (h : Observed stub id e₁ e₂ between) :
    let state₁ := (stub.send e₁.now e₁.frame).motors_ id
    let state₂ := (((stub.send e₁.now e₁.frame).steps between).send e₂.now e₂.frame).motors_ id
    state₂.position = state₁.position + state₁.velocity * (e₂.seconds - e₁.seconds) ∧
      state₂.velocity = state₁.velocity := by
  have hclock : ((stub.send e₁.now e₁.frame).motors_ id).last_update = e₁.now ∧
      ((stub.send e₁.now e₁.frame).motors_ id).has_last_update = true := send_clock h.first
  have hclocked : ((stub.send e₁.now e₁.frame).motors_ id).Clocked := fun _ => hclock.2
  have halike := MovesAlike.undisturbed h.moving
    ⟨⟨rfl, rfl, rfl⟩, hclocked, hclocked, fun _ => rfl⟩ h.undisturbed
  have hjump := not_jumps_of_moving (halike.toSameCommand.moving.trans h.moving) id e₂
  refine ⟨?_, h.silent.2.velocity.trans halike.toSameCommand.velocity⟩
  rw [send_position h.second h.silent.1 hjump, halike.position, advance_position hclocked,
    hclock.1, SentFrame.seconds, SentFrame.seconds]
  push_cast
  ring

/-- The quantisation of two positions and, for the time between, of a velocity. -/
noncomputable def quantisation (limits : ActuatorLimits ℝ) (t : ℝ) : ℝ :=
  2 * limits.position / 65535 + limits.velocity * t / 65535

/-- The reported positions differ by the reported velocity times `t` and `extra`. -/
def Matches (limits : ActuatorLimits ℝ) (d₁ d₂ : Feedback ℝ) (t extra : ℝ) : Prop :=
  NearModulo (2 * limits.position) (quantisation limits t) (d₂.position - d₁.position)
    (d₁.velocity * t + extra)

omit [FloatConv ℝ] in
/-- Two reports of a motion at the velocity `v` differ as the motion does, up to turns and half a
code each. -/
theorem matches_of_motion {limits : ActuatorLimits ℝ} (hlimits : limits.Positive)
    {d₁ d₂ : Feedback ℝ} {p v t : ℝ} (ht : 0 ≤ t)
    (h₁ : d₁.position = reported_position limits p)
    (h₂ : d₂.position = reported_position limits (p + v * t))
    (hv : d₁.velocity = reported_velocity limits v) :
    Matches limits d₁ d₂ t ((v - clamp v (-limits.velocity) limits.velocity) * t) := by
  have hnear := (reported_position_near hlimits (p + v * t)).sub (reported_position_near hlimits p)
  rw [← h₁, ← h₂, add_sub_cancel_left] at hnear
  -- the reported velocity is the clamped one up to its quantisation
  have hspeed : |v * t - (d₁.velocity * t
      + (v - clamp v (-limits.velocity) limits.velocity) * t)| ≤ limits.velocity / 65535 * t := by
    have herror := reported_velocity_error hlimits v
    rw [← hv, abs_sub_comm] at herror
    have hfac : v * t - (d₁.velocity * t + (v - clamp v (-limits.velocity) limits.velocity) * t)
        = (clamp v (-limits.velocity) limits.velocity - d₁.velocity) * t := by
      ring
    rw [hfac, abs_mul, abs_of_nonneg ht]
    exact mul_le_mul_of_nonneg_right herror ht
  have hmoved := hnear.move hspeed
  have htotal : limits.position / 65535 + limits.position / 65535 + limits.velocity / 65535 * t
      = quantisation limits t := by
    rw [quantisation]
    ring
  rwa [htotal] at hmoved

theorem steps_limits (stub : StubCanInterface ℝ) (calls : List (StubEvent CanFrame ℝ)) :
    (stub.steps calls).limits_ = stub.limits_ :=
  steps_invariant (I := fun stub' => stub'.limits_ = stub.limits_)
    (fun stub' call h => (step_limits stub' call).trans h) rfl calls

/-- Two feedback frames of a moving motor, and what they report. -/
theorem Observed.reports {stub : StubCanInterface ℝ} (hlimits : stub.limits_.Positive) {id : UInt8}
    {e₁ e₂ : SentFrame} {between : List (StubEvent CanFrame ℝ)}
    (h : Observed stub id e₁ e₂ between) :
    let stub₁ := stub.send e₁.now e₁.frame
    let v := (stub₁.motors_ id).velocity
    let t := e₂.seconds - e₁.seconds
    ∃ d₁ d₂, Reported stub e₁ d₁ ∧ Reported (stub₁.steps between) e₂ d₂ ∧
      d₁.velocity = reported_velocity stub.limits_ v ∧ d₂.velocity = d₁.velocity ∧
      Matches stub.limits_ d₁ d₂ t
        ((v - clamp v (-stub.limits_.velocity) stub.limits_.velocity) * t) := by
  obtain ⟨hposition, hvelocity⟩ := h.position
  obtain ⟨d₁, hreports₁, hp₁, hv₁⟩ := Robstride.reports stub h.first
  obtain ⟨d₂, hreports₂, hp₂, hv₂⟩ :=
    Robstride.reports ((stub.send e₁.now e₁.frame).steps between) h.second
  have hsame : ((stub.send e₁.now e₁.frame).steps between).limits_ = stub.limits_ :=
    (steps_limits _ between).trans (stub.send_limits e₁.now e₁.frame)
  have ht : 0 ≤ e₂.seconds - e₁.seconds := by
    have hle : (e₁.now : ℝ) ≤ (e₂.now : ℝ) := Int.cast_le.mpr h.ordered
    rw [SentFrame.seconds, SentFrame.seconds]
    linarith
  rw [hsame, hposition] at hp₂
  rw [hsame, hvelocity, ← hv₁] at hv₂
  exact ⟨d₁, d₂, hreports₁, hreports₂, hv₁, hv₂, matches_of_motion hlimits ht hp₁ hp₂ hv₁⟩

theorem velocity_of_moving {state : MotorState ℝ} (h : state.moving = true) :
    state.velocity = FloatConv.toDouble (param_or_zero state.params param_index.spd_ref) := by
  rw [MotorState.velocity, if_pos h]

/-- **Reported velocity and reported motion.** The positions reported by two feedback frames
of a moving motor differ by the reported velocity times the time between them, and by what
the commanded velocity exceeds its range; in range, by nothing else. -/
theorem velocity_matches_motion {stub : StubCanInterface ℝ} (hstub : stub.Reachable) {id : UInt8}
    {e₁ e₂ : SentFrame} {between : List (StubEvent CanFrame ℝ)}
    (h : Observed stub id e₁ e₂ between) :
    let stub₁ := stub.send e₁.now e₁.frame
    let spd_ref : ℝ :=
      FloatConv.toDouble (param_or_zero (stub₁.motors_ id).params param_index.spd_ref)
    let v_max := stub.limits_.velocity
    let t := e₂.seconds - e₁.seconds
    ∃ d₁ d₂, Reported stub e₁ d₁ ∧ Reported (stub₁.steps between) e₂ d₂ ∧
      d₂.velocity = d₁.velocity ∧
      Matches stub.limits_ d₁ d₂ t ((spd_ref - clamp spd_ref (-v_max) v_max) * t) ∧
      (|spd_ref| ≤ v_max → Matches stub.limits_ d₁ d₂ t 0) := by
  obtain ⟨d₁, d₂, hreports₁, hreports₂, -, hsame, hmatches⟩ :=
    h.reports (reachable_positive hstub)
  rw [velocity_of_moving h.moving] at hmatches
  refine ⟨d₁, d₂, hreports₁, hreports₂, hsame, hmatches, fun hrange => ?_⟩
  obtain ⟨hlo, hhi⟩ := abs_le.mp hrange
  rwa [clamp_of_mem hlo hhi, sub_self, zero_mul] at hmatches

end Velocity

namespace fixtures

/-- Motor 1 is told to run at twice the velocity limit of the RS02. -/
def fast : SentFrame :=
  ⟨0, make_write_param_frame_float 0x01 0xFD param_index.spd_ref (Binary32.narrow 88)⟩

/-- And asked for feedback a quarter of a second later. -/
def later : SentFrame :=
  ⟨250000000, make_write_param_frame_float 0x01 0xFD param_index.limit_cur (Binary32.narrow 10)⟩

end fixtures

section Fast

open fixtures

theorem observed_fast (start : StubCanInterface ℝ) :
    Observed (start.steps (started .Velocity)) 0x01 fast later [.receive] where
  first := by decide +kernel
  second := by decide +kernel
  moving := rfl
  undisturbed := ⟨nofun, trivial⟩
  silent := silent_of_commands_nothing (by decide +kernel)
  ordered := by decide

theorem spd_ref_fast (start : StubCanInterface ℝ) :
    (FloatConv.toDouble (param_or_zero (((start.steps (started .Velocity)).send fast.now
      fast.frame).motors_ 0x01).params param_index.spd_ref) : ℝ) = 88 := by
  have hwiden : Binary32.widen (Binary32.narrow 88) = 88 := by decide +kernel
  show ((Binary32.widen (Binary32.narrow 88) : ℚ) : ℝ) = 88
  rw [hwiden]
  norm_num

theorem seconds_later : later.seconds - fast.seconds = 1 / 4 := by
  rw [SentFrame.seconds, SentFrame.seconds, later, fast]
  norm_num

/-- A command of 88 rad/s, on a motor that reports no more than 44. -/
theorem velocity_matches_motion_fast :
    ∃ stub : StubCanInterface ℝ, stub.Reachable ∧ ∃ d₁ d₂, Reported stub fast d₁ ∧
      Reported ((stub.send fast.now fast.frame).steps [.receive]) later d₂ ∧
      d₂.velocity = d₁.velocity ∧
      Matches stub.limits_ d₁ d₂ (later.seconds - fast.seconds)
        ((88 - clamp 88 (-stub.limits_.velocity) stub.limits_.velocity)
          * (later.seconds - fast.seconds)) := by
  obtain ⟨start, hstub, -, -⟩ := rs02_started .Velocity
  obtain ⟨d₁, d₂, h₁, h₂, hsame, hmatches, -⟩ :=
    velocity_matches_motion hstub (observed_fast start)
  rw [spd_ref_fast] at hmatches
  exact ⟨_, hstub, d₁, d₂, h₁, h₂, hsame, hmatches⟩

/-- It gains 11 rad on what it reports, in a quarter of a second. -/
theorem fast_motion_outruns_report :
    ¬ ∀ (stub : StubCanInterface ℝ) (id : UInt8) (e₁ e₂ : SentFrame)
      (between : List (StubEvent CanFrame ℝ)), stub.Reachable → Observed stub id e₁ e₂ between →
        ∀ d₁ d₂, Reported stub e₁ d₁ →
          Reported ((stub.send e₁.now e₁.frame).steps between) e₂ d₂ →
          Matches stub.limits_ d₁ d₂ (e₂.seconds - e₁.seconds) 0 := by
  intro h
  obtain ⟨start, hstub, hposition, hvelocity⟩ := rs02_started .Velocity
  obtain ⟨d₁, d₂, h₁, h₂, -, -, hmatches⟩ :=
    (observed_fast start).reports (reachable_positive hstub)
  have hclaim := h _ _ _ _ _ hstub (observed_fast start) d₁ d₂ h₁ h₂
  rw [velocity_of_moving (observed_fast start).moving, spd_ref_fast, seconds_later] at hmatches
  rw [seconds_later] at hclaim
  rw [Matches, quantisation, steps_limits, hposition, hvelocity] at hclaim hmatches
  have hclamp : clamp (88 : ℝ) (-44) 44 = 44 := by
    rw [clamp, if_neg (by norm_num), if_pos (by norm_num)]
  rw [hclamp] at hmatches
  -- both at once bound the gain itself, which is no whole number of turns
  obtain ⟨z, hz, herror⟩ := hmatches.sub hclaim
  obtain ⟨n, hn⟩ := AddCommGroup.modEq_iff_eq_add_zsmul.mp hz
  rw [zsmul_eq_mul] at hn
  obtain ⟨hlo, hhi⟩ := abs_le.mp herror
  have hgain : (-1 : ℝ) < ((77 - 176 * n : ℤ) : ℝ) ∧ ((77 - 176 * n : ℤ) : ℝ) < 1 := by
    push_cast
    constructor <;> linarith
  obtain ⟨hlower, hupper⟩ := hgain
  have hlower' : -1 < 77 - 176 * n := by exact_mod_cast hlower
  have hupper' : 77 - 176 * n < 1 := by exact_mod_cast hupper
  omega

end Fast

end Robstride
