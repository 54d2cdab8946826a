/-
The simulated position as an integral.

`advance` integrates lazily: a command that changes the motor first moves it by the
velocity it had since the last such command. The velocity is a held signal of the frames
sent (`commanded_velocity`): enabled, `run_mode` and `spd_ref` are registers of the
history, and nothing but a command that advances writes them. So the continuous position
is the integral of that signal (`Lib/HeldSignal.lean`), whatever else is sent in between.

The one command that moves the motor by itself is a `loc_ref` write executed in CSP mode
(`Jumps`); histories without one are the subject here.

Exact arithmetic, over the reals.
-/
import RobstrideDriver.Lib.Binary32
import RobstrideDriver.Lib.HeldSignal
import RobstrideDriver.StubHistory

set_option autoImplicit false

open CppArith

namespace Robstride

section Motion

variable [FloatConv ℝ]

/-! ## One frame -/

/-- A frame and the clock reading `send` made for it. -/
structure SentFrame where
  now : ℤ
  frame : CanFrame
deriving DecidableEq, Repr

/-- The clock reading in seconds. -/
noncomputable def SentFrame.seconds (e : SentFrame) : ℝ := (e.now : ℝ) / 1000000000

/-- The frame advances the motor. -/
def advances (id : UInt8) (e : SentFrame) : Prop :=
  get_target_motor_id e.frame = id ∧
    (get_comm_type e.frame = CommType.Enable.code ∨ get_comm_type e.frame = CommType.Stop.code ∨
      get_comm_type e.frame = CommType.SetMechanicalZero.code ∨
      get_comm_type e.frame = CommType.MotionControl.code ∨
      get_comm_type e.frame = CommType.WriteParam.code)

/-- The frame sets the mechanical zero of the motor. -/
def zeroes (id : UInt8) (e : SentFrame) : Prop :=
  get_target_motor_id e.frame = id ∧ get_comm_type e.frame = CommType.SetMechanicalZero.code

instance (id : UInt8) : DecidablePred (advances id) :=
  fun _ => inferInstanceAs (Decidable (_ ∧ (_ ∨ _)))

instance (id : UInt8) : DecidablePred (zeroes id) :=
  fun _ => inferInstanceAs (Decidable (_ ∧ _))

/-- A `loc_ref` write that finds the motor enabled in CSP mode. -/
def Jumps (state : MotorState ℝ) (id : UInt8) (e : SentFrame) : Prop :=
  get_target_motor_id e.frame = id ∧ get_comm_type e.frame = CommType.WriteParam.code ∧
    frame_index e.frame = param_index.loc_ref ∧ state.enabled = true ∧
    state.run_mode = RunMode.PositionCsp.raw

/-- The velocity the motor moves with. -/
noncomputable def MotorState.velocity (state : MotorState ℝ) : ℝ :=
  if state.moving then FloatConv.toDouble (param_or_zero state.params param_index.spd_ref) else 0

/-- A motor that has been enabled has been advanced: its clock is set. -/
def MotorState.Clocked (state : MotorState ℝ) : Prop :=
  state.enabled = true → state.has_last_update = true

theorem velocity_eq_zero {state : MotorState ℝ} (h : state.enabled = false) :
    state.velocity = 0 := by
  rw [MotorState.velocity, MotorState.moving, h]
  rfl

/-- `advance`, as physics: constant velocity since the last update, if there was one. -/
theorem advance_position {state : MotorState ℝ} (h : state.Clocked) (now : ℤ) :
    (state.advance now).position
      = state.position + state.velocity * (((now - state.last_update : ℤ) : ℝ) / 1000000000) := by
  rw [MotorState.advance, MotorState.velocity]
  dsimp only
  by_cases hmoving : state.moving = true
  · -- a moving motor is enabled, so its clock is set
    have hlast : state.has_last_update = true := by
      apply h
      rw [MotorState.moving, Bool.and_eq_true] at hmoving
      exact hmoving.1
    rw [hlast, hmoving, Nat.cast_ofNat]
    rfl
  · rw [Bool.not_eq_true] at hmoving
    rw [hmoving, Bool.and_false]
    simp

namespace StubCanInterface

variable {limits : ActuatorLimits ℝ} {now : ℤ} {frame : CanFrame} {state : MotorState ℝ}
  {request : ParamWriteRequest}

theorem write_position (h : ¬ (request.index = param_index.loc_ref ∧ state.enabled = true ∧
      state.run_mode = RunMode.PositionCsp.raw)) :
    (write limits request state).position = state.position := by
  have hother : param_index.loc_ref ≠ param_index.run_mode := by decide
  unfold write
  dsimp only
  by_cases hmode : request.index = param_index.run_mode
  · rw [if_pos hmode, if_neg fun hjump => hother (hjump.1.symm.trans hmode)]
  · rw [if_neg hmode, if_neg h]

@[simp] theorem write_clock : (write limits request state).last_update = state.last_update ∧
    (write limits request state).has_last_update = state.has_last_update := by
  unfold write
  dsimp only
  split_ifs <;> exact ⟨rfl, rfl⟩

/-- Only the commands that change the motor advance it: enable, stop, zero, motion and writes. -/
theorem change_isSome_iff : (change limits frame).isSome = true ↔
    get_comm_type frame = CommType.Enable.code ∨ get_comm_type frame = CommType.Stop.code ∨
      get_comm_type frame = CommType.SetMechanicalZero.code ∨
      get_comm_type frame = CommType.MotionControl.code ∨
      get_comm_type frame = CommType.WriteParam.code := by
  unfold change
  dsimp only
  split_ifs <;> simp_all [CommType.code_inj]

/-- A command that advances sets the clock, and no other does. -/
theorem effect_clock (h : (change limits frame).isSome = true) :
    (effect limits now frame state).last_update = now ∧
      (effect limits now frame state).has_last_update = true := by
  unfold change at h
  unfold effect change
  dsimp only at h ⊢
  split_ifs at h ⊢ <;> simp_all [stop, MotorState.advance]

/-- A frame that changes nothing has no effect on the state. -/
theorem effect_idle (h : ¬ (change limits frame).isSome = true) :
    effect limits now frame state = state := by
  rw [Bool.not_eq_true, Option.isSome_eq_false_iff, Option.isNone_iff_eq_none] at h
  rw [effect, h]

end StubCanInterface

section Frame

variable (stub : StubCanInterface ℝ) (id : UInt8) (e : SentFrame)

/-- A frame that does not advance the motor leaves it as it is, its clock included. -/
theorem send_idle (h : ¬ advances id e) :
    (stub.send e.now e.frame).motors_ id = stub.motors_ id := by
  rw [StubCanInterface.send_motors]
  by_cases hid : get_target_motor_id e.frame = id
  · rw [if_pos hid]
    exact StubCanInterface.effect_idle fun hsome =>
      h ⟨hid, StubCanInterface.change_isSome_iff.mp hsome⟩
  · rw [if_neg hid]

variable {stub id e}

theorem send_clock (h : advances id e) :
    ((stub.send e.now e.frame).motors_ id).last_update = e.now ∧
      ((stub.send e.now e.frame).motors_ id).has_last_update = true := by
  rw [StubCanInterface.send_motors, if_pos h.1]
  exact StubCanInterface.effect_clock (StubCanInterface.change_isSome_iff.mpr h.2)

theorem send_zero (h : zeroes id e) : ((stub.send e.now e.frame).motors_ id).position = 0 := by
  rw [StubCanInterface.send_motors, if_pos h.1]
  unfold StubCanInterface.effect StubCanInterface.change
  dsimp only
  simp [h.2, CommType.code_inj]

/-- Without a zero and without a jump, an advancing frame moves the motor by what it
would have moved anyway. -/
theorem send_position (h : advances id e) (hzero : ¬ zeroes id e)
    (hjump : ¬ Jumps (stub.motors_ id) id e) :
    ((stub.send e.now e.frame).motors_ id).position
      = ((stub.motors_ id).advance e.now).position := by
  obtain ⟨hid, htype⟩ := h
  have hzero' : get_comm_type e.frame ≠ CommType.SetMechanicalZero.code := fun hz => hzero ⟨hid, hz⟩
  rw [StubCanInterface.send_motors, if_pos hid]
  unfold StubCanInterface.effect StubCanInterface.change
  dsimp only
  split_ifs with h₁ h₂ h₃ h₄ h₅
  · rfl
  · rfl
  · rfl
  · -- a read does not advance
    rw [h₄] at htype
    simp [CommType.code_inj] at htype
  · exact StubCanInterface.write_position fun hcsp => hjump ⟨hid, h₅, hcsp⟩
  · exact absurd htype (by simp [h₁, h₂, hzero', h₃, h₅])

theorem send_clocked (h : (stub.motors_ id).Clocked) :
    ((stub.send e.now e.frame).motors_ id).Clocked := by
  by_cases hadvances : advances id e
  · exact fun _ => (send_clock hadvances).2
  · rw [send_idle stub id e hadvances]
    exact h

end Frame

/-! ## A history of frames -/

/-- The simulator after a history of frames. -/
noncomputable def StubCanInterface.sent (stub : StubCanInterface ℝ) (history : List SentFrame) :
    StubCanInterface ℝ :=
  history.foldl (fun stub e => stub.send e.now e.frame) stub

/-- What the last of the frames sent to a motor that `pick` sees wrote. -/
def last_of {α : Type} (id : UInt8) (pick : CanFrame → Option α) (history : List SentFrame) :
    Option α :=
  History.latest (fun e => if get_target_motor_id e.frame = id then pick e.frame else none) history

/-- **The commanded velocity** after a history: the last `spd_ref`, while the last Enable
or Stop is an Enable and the last `run_mode` is Velocity. -/
noncomputable def commanded_velocity (id : UInt8) (history : List SentFrame) : ℝ :=
  if last_of id enabled_write history = some true ∧
      (last_of id (param_write param_index.run_mode) history).map value_uint8
        = some RunMode.Velocity.raw then
    FloatConv.toDouble
      ⟨(last_of id (param_write param_index.spd_ref) history).getD F32.zero.bytes⟩
  else 0

/-- No frame of the history jumps when its turn comes. -/
def NoJump (stub : StubCanInterface ℝ) (id : UInt8) (history : List SentFrame) : Prop :=
  ∀ before e, before ++ [e] <+: history → ¬ Jumps ((stub.sent before).motors_ id) id e

section History

variable (stub : StubCanInterface ℝ) (id : UInt8) (history : List SentFrame) (e : SentFrame)

theorem sent_concat : stub.sent (history ++ [e]) = (stub.sent history).send e.now e.frame := by
  rw [StubCanInterface.sent, List.foldl_append]
  rfl

theorem sent_register {α : Type} (get : MotorState ℝ → α) {pick : CanFrame → Option α}
    (hpick : ∀ limits now frame state,
      get (StubCanInterface.effect limits now frame state) = (pick frame).getD (get state)) :
    get ((stub.sent history).motors_ id)
      = (last_of id pick history).getD (get (stub.motors_ id)) := by
  refine History.foldl_register (fun stub : StubCanInterface ℝ => get (stub.motors_ id)) ?_ _ _
  intro stub e
  rw [StubCanInterface.send_motors]
  split_ifs with hid
  · exact hpick _ _ _ _
  · rfl

omit [FloatConv ℝ] in
theorem last_of_map {α β : Type} (f : α → β) (pick : CanFrame → Option α) :
    last_of id (fun frame => (pick frame).map f) history = (last_of id pick history).map f := by
  rw [last_of, last_of, ← History.latest_option_map]
  congr 1
  funext e
  split_ifs <;> rfl

variable {stub} (hfresh : stub.Fresh)
include hfresh

/-- The velocity of the simulated motor is the commanded one, as the frames sent so far give it. -/
theorem sent_velocity :
    ((stub.sent history).motors_ id).velocity = commanded_velocity id history := by
  have hindex : param_index.spd_ref ≠ param_index.run_mode := by decide
  have henabled := sent_register stub id history MotorState.enabled StubCanInterface.effect_enabled
  have hmode := sent_register stub id history MotorState.run_mode StubCanInterface.effect_run_mode
  have hspeed := sent_register stub id history (fun state => state.params param_index.spd_ref)
    fun limits now frame state => StubCanInterface.effect_params limits now frame state hindex
  rw [last_of_map, hfresh id] at hmode hspeed
  rw [hfresh id] at henabled
  unfold MotorState.velocity MotorState.moving commanded_velocity param_or_zero
  rw [henabled, hmode, hspeed]
  refine if_congr ?_ ?_ rfl
  · -- a motor that was never written to is disabled and in mode 0
    have hzero : (0 : UInt8) ≠ RunMode.Velocity.raw := by decide
    rw [Bool.and_eq_true, beq_iff_eq]
    cases last_of id enabled_write history <;>
      cases (last_of id (param_write param_index.run_mode) history).map value_uint8 <;>
      simp [hzero]
  · cases last_of id (param_write param_index.spd_ref) history <;> rfl

/-- A motor of the history that is enabled has its clock set, and a set clock shows the
last advancing frame. -/
theorem sent_clock (start : ℝ) :
    ((stub.sent history).motors_ id).Clocked ∧
      (((stub.sent history).motors_ id).has_last_update = true →
        HeldSignal.last_time SentFrame.seconds (advances id) start history
          = (((stub.sent history).motors_ id).last_update : ℝ) / 1000000000) := by
  induction history using List.reverseRecOn with
  | nil =>
    have hstart : (stub.sent []).motors_ id = { position := ((0 : ℕ) : ℝ) } := hfresh id
    rw [hstart]
    exact ⟨nofun, nofun⟩
  | append_singleton history e ih =>
    obtain ⟨hclocked, hlast⟩ := ih
    rw [sent_concat]
    refine ⟨send_clocked hclocked, ?_⟩
    by_cases hadvances : advances id e
    · intro _
      rw [HeldSignal.last_time_concat_of hadvances, (send_clock hadvances).1]
      rfl
    · rw [send_idle _ id e hadvances, HeldSignal.last_time_concat_of_not hadvances]
      exact hlast

/-- The simulated position integrates the commanded velocity lazily: it is brought up to date by the
frames that advance the motor. -/
theorem lazyIntegrator (start : ℝ) :
    HeldSignal.LazyIntegrator SentFrame.seconds (commanded_velocity id) (advances id) (zeroes id)
      start (NoJump stub id) (fun history => ((stub.sent history).motors_ id).position) where
  ok_of_concat history e h := fun before e' hinit =>
    h before e' (hinit.trans (List.prefix_append history [e]))
  tick_of_reset e h := ⟨h.1, .inr (.inr (.inl h.2))⟩
  acc_nil := by
    have hstart : (stub.sent []).motors_ id = { position := ((0 : ℕ) : ℝ) } := hfresh id
    rw [hstart, Nat.cast_zero]
  idle_value history e h := by
    rw [← sent_velocity id history hfresh, ← sent_velocity id (history ++ [e]) hfresh, sent_concat,
      send_idle _ id e h]
  idle_acc history e h := by
    rw [sent_concat, send_idle _ id e h]
  tick_acc history e hok h hzero := by
    obtain ⟨hclocked, hlast⟩ := sent_clock id history hfresh start
    rw [sent_concat, send_position h hzero (hok history e (List.prefix_refl _)),
      advance_position hclocked, ← sent_velocity id history hfresh]
    by_cases henabled : ((stub.sent history).motors_ id).enabled = true
    · rw [hlast (hclocked henabled), SentFrame.seconds]
      push_cast
      ring
    · -- a motor that is not enabled does not move
      rw [velocity_eq_zero (Bool.not_eq_true _ ▸ henabled), zero_mul, zero_mul]
  reset_acc history e h := by
    rw [sent_concat, send_zero h]

end History

/-! ## Inserting frames

Two runs of the same motor are compared by where it would be at any time if it were
advanced then; inserting an `advance` does not change that. -/

/-- Two states of one motor that command the same motion. -/
structure SameCommand (state state' : MotorState ℝ) : Prop where
  enabled : state.enabled = state'.enabled
  run_mode : state.run_mode = state'.run_mode
  spd_ref : param_or_zero state.params param_index.spd_ref
    = param_or_zero state'.params param_index.spd_ref

/-- And will be at the same place whenever they are advanced. -/
structure MovesAlike (state state' : MotorState ℝ) : Prop extends SameCommand state state' where
  clocked : state.Clocked
  clocked' : state'.Clocked
  position : ∀ now, (state.advance now).position = (state'.advance now).position

/-- The frame changes none of enabled, `run_mode`, `spd_ref` and the zero of the motor. -/
def Silent (stub : StubCanInterface ℝ) (id : UInt8) (e : SentFrame) : Prop :=
  ¬ zeroes id e ∧ SameCommand ((stub.send e.now e.frame).motors_ id) (stub.motors_ id)

/-- A history with marked original frames, in which every other frame is silent when its
turn comes and no frame jumps. -/
def Padded (id : UInt8) : StubCanInterface ℝ → List (Bool × SentFrame) → Prop
  | _, [] => True
  | stub, (original, e) :: rest =>
    (original = false → Silent stub id e) ∧ ¬ Jumps (stub.motors_ id) id e ∧
      Padded id (stub.send e.now e.frame) rest

/-- The positions the feedback queued for a frame reports, if it is a frame to `id`. -/
noncomputable def reported_positions (stub : StubCanInterface ℝ) (id : UInt8) (e : SentFrame) :
    List ℝ :=
  if get_target_motor_id e.frame = id then
    ((stub.send e.now e.frame).responses_.drop stub.responses_.length).filterMap fun f =>
      (parse_feedback f stub.limits_).map Feedback.position
  else []

/-- What each original frame of a history has reported. -/
noncomputable def original_reports (id : UInt8) :
    StubCanInterface ℝ → List (Bool × SentFrame) → List (List ℝ)
  | _, [] => []
  | stub, (original, e) :: rest =>
    (if original then [reported_positions stub id e] else [])
      ++ original_reports id (stub.send e.now e.frame) rest

section Inserting

variable {stub stub' : StubCanInterface ℝ} {id : UInt8} {e : SentFrame}
  {state state' : MotorState ℝ}

theorem SameCommand.velocity (h : SameCommand state state') : state.velocity = state'.velocity := by
  rw [MotorState.velocity, MotorState.velocity, MotorState.moving, MotorState.moving, h.enabled,
    h.run_mode, h.spd_ref]

omit [FloatConv ℝ] in
theorem SameCommand.jumps (h : SameCommand state state') (hjump : ¬ Jumps state id e) :
    ¬ Jumps state' id e := by
  unfold Jumps at hjump ⊢
  rw [← h.enabled, ← h.run_mode]
  exact hjump

/-- The same frame, sent to motors of the same command, leaves them so. -/
theorem SameCommand.send (h : SameCommand (stub.motors_ id) (stub'.motors_ id)) :
    SameCommand ((stub.send e.now e.frame).motors_ id) ((stub'.send e.now e.frame).motors_ id) := by
  have hindex : param_index.spd_ref ≠ param_index.run_mode := by decide
  rw [StubCanInterface.send_motors, StubCanInterface.send_motors]
  split_ifs
  · refine ⟨?_, ?_, ?_⟩
    · rw [StubCanInterface.effect_enabled, StubCanInterface.effect_enabled, h.enabled]
    · rw [StubCanInterface.effect_run_mode, StubCanInterface.effect_run_mode, h.run_mode]
    · have hspeed := h.spd_ref
      unfold param_or_zero at hspeed ⊢
      rw [StubCanInterface.effect_params _ _ _ _ hindex,
        StubCanInterface.effect_params _ _ _ _ hindex]
      cases param_write param_index.spd_ref e.frame with
      | none => exact hspeed
      | some value => rfl
  · exact h

/-- A silent frame only brings the motor's position up to date. -/
theorem MovesAlike.silent (h : MovesAlike (stub.motors_ id) state') (hsilent : Silent stub id e)
    (hjump : ¬ Jumps (stub.motors_ id) id e) :
    MovesAlike ((stub.send e.now e.frame).motors_ id) state' := by
  obtain ⟨hzero, hsame⟩ := hsilent
  have hclocked := send_clocked (e := e) h.clocked
  refine ⟨⟨hsame.enabled.trans h.enabled, hsame.run_mode.trans h.run_mode,
    hsame.spd_ref.trans h.spd_ref⟩, hclocked, h.clocked', fun now => ?_⟩
  rw [← h.position now]
  by_cases hadvances : advances id e
  · rw [advance_position hclocked, (send_clock hadvances).1, hsame.velocity,
      send_position hadvances hzero hjump, advance_position h.clocked, advance_position h.clocked]
    push_cast
    ring
  · rw [send_idle stub id e hadvances]

/-- After an advancing frame both motors are at the same place. -/
theorem MovesAlike.send_position (h : MovesAlike (stub.motors_ id) (stub'.motors_ id))
    (hjump : ¬ Jumps (stub.motors_ id) id e) (hadvances : advances id e) :
    ((stub.send e.now e.frame).motors_ id).position
      = ((stub'.send e.now e.frame).motors_ id).position := by
  by_cases hzero : zeroes id e
  · rw [send_zero hzero, send_zero hzero]
  · rw [Robstride.send_position hadvances hzero hjump,
      Robstride.send_position hadvances hzero (h.jumps hjump), h.position]

/-- An original frame, sent in both runs, leaves motors that move alike. -/
theorem MovesAlike.send (h : MovesAlike (stub.motors_ id) (stub'.motors_ id))
    (hjump : ¬ Jumps (stub.motors_ id) id e) :
    MovesAlike ((stub.send e.now e.frame).motors_ id)
      ((stub'.send e.now e.frame).motors_ id) := by
  have hsame := h.toSameCommand.send (e := e)
  have hclocked := send_clocked (e := e) h.clocked
  have hclocked' := send_clocked (e := e) h.clocked'
  refine ⟨hsame, hclocked, hclocked', fun now => ?_⟩
  by_cases hadvances : advances id e
  · rw [advance_position hclocked, advance_position hclocked', hsame.velocity,
      h.send_position hjump hadvances, (send_clock hadvances).1, (send_clock hadvances).1]
  · rw [send_idle stub id e hadvances, send_idle stub' id e hadvances]
    exact h.position now

/-- A continuous position as feedback reports it: wrapped, encoded and decoded. -/
noncomputable def reported_position (limits : ActuatorLimits ℝ) (position : ℝ) : ℝ :=
  uint_to_float (float_to_uint (DoubleMath.remainder position (((2 : ℕ) : ℝ) * limits.position))
    (-limits.position) limits.position) (-limits.position) limits.position

/-- An advancing frame reports the position it leaves, and no other frame reports one. -/
theorem reported_positions_eq (stub : StubCanInterface ℝ) (id : UInt8) (e : SentFrame) :
    reported_positions stub id e =
      if advances id e then
        [reported_position stub.limits_ ((stub.send e.now e.frame).motors_ id).position]
      else [] := by
  have hdrop : (stub.send e.now e.frame).responses_.drop stub.responses_.length
      = stub.answers e.now e.frame := by
    rw [StubCanInterface.send_eq, List.drop_left]
  rw [reported_positions, hdrop]
  by_cases hid : get_target_motor_id e.frame = id
  · rw [if_pos hid, StubCanInterface.answers, StubCanInterface.send_motors, if_pos hid, hid]
    by_cases hchange : (StubCanInterface.change stub.limits_ e.frame).isSome = true
    · have hadvances : advances id e := ⟨hid, StubCanInterface.change_isSome_iff.mp hchange⟩
      rw [if_pos hchange, if_pos hadvances]
      simp only [List.filterMap_cons, parse_make_feedback_frame, List.filterMap_nil,
        Option.map_some]
      rfl
    · have hidle : ¬ advances id e := fun h =>
        hchange (StubCanInterface.change_isSome_iff.mpr h.2)
      rw [if_neg hchange, if_neg hidle]
      split_ifs
      · -- a parameter answer is no feedback
        have hnone : ∀ request : ParamReadRequest, parse_feedback
            (stub.read_response id (get_host_id e.frame) request) stub.limits_ = none := by
          intro request
          obtain ⟨htype, -, -⟩ := stub.read_response_fields id (get_host_id e.frame) request
          simp [parse_feedback, htype, CommType.code_inj]
        simp [hnone]
      · rfl
  · have hidle : ¬ advances id e := fun h => hid h.1
    rw [if_neg hid, if_neg hidle]

/-- Dropping the frames that are not original does not change what the original ones
report. -/
theorem original_reports_filter {padded : List (Bool × SentFrame)}
    (hmoves : MovesAlike (stub.motors_ id) (stub'.motors_ id))
    (hlimits : stub.limits_ = stub'.limits_) (hpadded : Padded id stub padded) :
    original_reports id stub padded = original_reports id stub' (padded.filter Prod.fst) := by
  induction padded generalizing stub stub' with
  | nil => rfl
  | cons head rest ih =>
    obtain ⟨original, e⟩ := head
    obtain ⟨hsilent, hjump, hrest⟩ := hpadded
    have hlimits' := (stub.send_limits e.now e.frame).trans hlimits
    cases original with
    | false =>
      rw [List.filter_cons_of_neg Bool.false_ne_true, original_reports, if_neg Bool.false_ne_true,
        List.nil_append]
      exact ih (hmoves.silent (hsilent rfl) hjump) hlimits' hrest
    | true =>
      rw [List.filter_cons_of_pos rfl, original_reports, original_reports]
      congr 1
      · -- the two motors are at the same place when the frame is answered
        rw [reported_positions_eq, reported_positions_eq, hlimits]
        by_cases hadvances : advances id e
        · rw [if_pos hadvances, if_pos hadvances, hmoves.send_position hjump hadvances]
        · rw [if_neg hadvances, if_neg hadvances]
      · exact ih (hmoves.send hjump) (hlimits'.trans (stub'.send_limits e.now e.frame).symm) hrest

/-- A frame that writes no register of the command, and does not zero. -/
def CommandsNothing (frame : CanFrame) : Prop :=
  get_comm_type frame ≠ CommType.SetMechanicalZero.code ∧ enabled_write frame = none ∧
    param_write param_index.run_mode frame = none ∧ param_write param_index.spd_ref frame = none

instance : DecidablePred CommandsNothing := fun _ => inferInstanceAs (Decidable (_ ∧ _ ∧ _ ∧ _))

/-- Such a frame is silent whatever the motor does, enabled or not and in any mode. -/
theorem silent_of_commands_nothing (h : CommandsNothing e.frame) : Silent stub id e := by
  have hindex : param_index.spd_ref ≠ param_index.run_mode := by decide
  obtain ⟨hzero, henabled, hmode, hspeed⟩ := h
  refine ⟨fun hz => hzero hz.2, ?_⟩
  rw [StubCanInterface.send_motors]
  split_ifs
  · refine ⟨?_, ?_, ?_⟩
    · rw [StubCanInterface.effect_enabled, henabled, Option.getD_none]
    · rw [StubCanInterface.effect_run_mode, hmode, Option.map_none, Option.getD_none]
    · unfold param_or_zero
      rw [StubCanInterface.effect_params _ _ _ _ hindex, hspeed]
      rfl
  · exact ⟨rfl, rfl, rfl⟩

theorem Padded.of_commands_nothing {padded : List (Bool × SentFrame)}
    (hsilent : ∀ entry ∈ padded, entry.1 = false → CommandsNothing entry.2.frame)
    (hjump : ∀ entry ∈ padded, ∀ state, ¬ Jumps state id entry.2) : Padded id stub padded := by
  induction padded generalizing stub with
  | nil => trivial
  | cons head rest ih =>
    refine ⟨fun horiginal => ?_, hjump head List.mem_cons_self _, ?_⟩
    · exact silent_of_commands_nothing (hsilent head List.mem_cons_self horiginal)
    · apply ih
      · exact fun entry hentry => hsilent entry (List.mem_cons_of_mem _ hentry)
      · exact fun entry hentry => hjump entry (List.mem_cons_of_mem _ hentry)

end Inserting

/-! ## The law -/

/-- **The simulated position is the integral of the commanded velocity.** After any
frames at nondecreasing times, none of which jumps, the position of a motor of a new
simulation is the integral of its commanded velocity from its last zero, or the start,
to the last frame that advanced it. And frames that change nothing of the command may be
inserted anywhere: the original frames report the positions they would have reported. -/
theorem position_integrates_velocity (pi : ℝ) (actuator_type : ActuatorType)
    (stub : StubCanInterface ℝ) (hmake : StubCanInterface.make pi actuator_type = .ok stub)
    (id : UInt8) :
    (∀ history start, history.Pairwise (fun e e' => e.now ≤ e'.now) →
      (∀ e ∈ history, start ≤ e.seconds) → NoJump stub id history →
        ((stub.sent history).motors_ id).position
          = ∫ t in HeldSignal.last_time SentFrame.seconds (zeroes id) start history..
              HeldSignal.last_time SentFrame.seconds (advances id) start history,
            HeldSignal.signal SentFrame.seconds (commanded_velocity id) history t) ∧
      ∀ padded, Padded id stub padded →
        original_reports id stub padded = original_reports id stub (padded.filter Prod.fst) := by
  have hfresh : stub.Fresh := make_fresh hmake
  refine ⟨fun history start hordered hstart hjump => ?_, fun padded hpadded => ?_⟩
  · apply (lazyIntegrator id hfresh start).eq_integral hjump _ hstart
    apply hordered.imp
    intro e e' hle
    have hle' : (e.now : ℝ) ≤ (e'.now : ℝ) := Int.cast_le.mpr hle
    exact div_le_div_of_nonneg_right hle' (by norm_num)
  · have hclocked : (stub.motors_ id).Clocked := by
      rw [hfresh id]
      exact nofun
    exact original_reports_filter ⟨⟨rfl, rfl, rfl⟩, hclocked, hclocked, fun _ => rfl⟩ rfl hpadded

end Motion

namespace fixtures

/-- The conversions on the reals: widening is exact, and a real is narrowed through the
nearest multiple of the smallest `float`. -/
noncomputable instance : FloatConv ℝ where
  toFloat x := Binary32.narrow ((FixedPoint.lround (x * 2 ^ 149) : ℚ) / 2 ^ 149)
  toDouble f := (Binary32.widen f : ℝ)

/-- A start at two radians per second, the speed rewritten a second later, a stop. The
command between is a motion command, which the simulator only answers. -/
def spin : List (Bool × SentFrame) :=
  [(true, ⟨0, make_enable_frame 0x01 0xFD⟩),
    (true, ⟨0, make_write_param_frame_uint8 0x01 0xFD param_index.run_mode
      RunMode.Velocity.raw⟩),
    (true, ⟨0, make_write_param_frame_float 0x01 0xFD param_index.spd_ref
      (Binary32.narrow 2)⟩),
    (false, ⟨500000000, ⟨make_id .MotionControl 0x7FFF 0x01, Vector.replicate 8 0, 8⟩⟩),
    (true, ⟨1000000000, make_write_param_frame_float 0x01 0xFD param_index.spd_ref
      (Binary32.narrow 2)⟩),
    (true, ⟨2000000000, make_stop_frame 0x01 0xFD false⟩)]

end fixtures

/-- Two seconds at two radians a second, with a motion command in between that changes nothing. -/
theorem position_integrates_velocity_spin :
    ∃ stub, StubCanInterface.make (22 / 7 : ℝ) .Rs02 = .ok stub ∧
      ((stub.sent (fixtures.spin.map Prod.snd)).motors_ 0x01).position
        = (∫ t in HeldSignal.last_time SentFrame.seconds (zeroes 0x01) 0
              (fixtures.spin.map Prod.snd)..
            HeldSignal.last_time SentFrame.seconds (advances 0x01) 0 (fixtures.spin.map Prod.snd),
          HeldSignal.signal SentFrame.seconds (commanded_velocity 0x01)
            (fixtures.spin.map Prod.snd) t) ∧
      original_reports 0x01 stub fixtures.spin
        = original_reports 0x01 stub (fixtures.spin.filter Prod.fst) := by
  refine ⟨_, rfl, ?_⟩
  obtain ⟨hposition, hreports⟩ :=
    position_integrates_velocity (22 / 7) .Rs02 _ rfl 0x01
  -- nothing in it writes `loc_ref`
  have hindex : ∀ e ∈ fixtures.spin, frame_index e.2.frame ≠ param_index.loc_ref := by
    decide +kernel
  refine ⟨hposition _ 0 (by decide +kernel) ?_ ?_, hreports _ ?_⟩
  · have hnow : ∀ e ∈ fixtures.spin.map Prod.snd, 0 ≤ e.now := by decide +kernel
    intro e he
    have hnow' : (0 : ℝ) ≤ (e.now : ℝ) := Int.cast_nonneg (hnow e he)
    exact div_nonneg hnow' (by norm_num)
  · rintro before e hinit ⟨-, -, hloc, -⟩
    obtain ⟨entry, hentry, rfl⟩ := List.mem_map.mp (hinit.subset (List.mem_append_right _
      (List.mem_singleton_self e)))
    exact hindex entry hentry hloc
  · apply Padded.of_commands_nothing
    · decide +kernel
    · intro entry hentry _ hjump
      exact hindex entry hentry hjump.2.2.1

end Robstride
