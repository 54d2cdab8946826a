/-
Motors that share a simulation do not interfere.

What one motor can come to know of the simulation is its own state, the limits and the
temperature (`SameSide`): `send_eq` says that nothing else goes into its answers, and
that a frame to another motor touches none of it. The shared queue of responses is the
one thing left, and it is empty between exchanges. So the relation unwinds
(`Lib/Unwinding.lean`), and a run seen through one driver is the run without the
operations of, and the faults injected into, other motors.
-/
import RobstrideDriver.Lib.Unwinding
import RobstrideDriver.StubFleet

set_option autoImplicit false

open CppArith

namespace Robstride

section Sides

variable {D : Type} [Add D] [Sub D] [Mul D] [Div D] [Neg D] [NatCast D] [IntCast D]
  [LT D] [DecidableLT D] [DoubleMath D] [FloatConv D]

/-- Two simulations that are the same to the motor of an id. -/
structure SameSide (id : UInt8) (stub stub' : StubCanInterface D) : Prop where
  limits_ : stub.limits_ = stub'.limits_
  motor : stub.motors_ id = stub'.motors_ id
  temperature_ : stub.temperature_ = stub'.temperature_

variable {id : UInt8} {stub stub' : StubCanInterface D} {now : ℤ} {frame : CanFrame}

namespace SameSide

omit [Add D] [Sub D] [Div D] [Neg D] [IntCast D] [LT D] [DecidableLT D] in
/-- The feedback of the motor is made from its state, which the two simulations share. -/
theorem feedback (h : SameSide id stub stub') (host_id : UInt8) (state : MotorState D) :
    stub.feedback id host_id state = stub'.feedback id host_id state := by
  unfold StubCanInterface.feedback
  rw [h.limits_, h.temperature_]

/-- A frame to the motor is answered alike by both. -/
theorem answers (h : SameSide id stub stub') (hid : get_target_motor_id frame = id) :
    stub.answers now frame = stub'.answers now frame := by
  unfold StubCanInterface.answers StubCanInterface.read_response
  dsimp only
  rw [hid, h.limits_, h.motor]
  simp only [h.feedback]

/-- And it has the same effect on the motor in both. -/
theorem send (h : SameSide id stub stub') (hid : get_target_motor_id frame = id) :
    SameSide id (stub.send now frame) (stub'.send now frame) := by
  rw [StubCanInterface.send_eq, StubCanInterface.send_eq]
  refine ⟨h.limits_, ?_, h.temperature_⟩
  subst hid
  unfold StubCanInterface.store
  dsimp only
  rw [Function.update_self, Function.update_self, h.limits_, h.motor]

/-- A frame to another motor leaves this one's side as it was. -/
theorem send_other (h : SameSide id stub stub') (hid : get_target_motor_id frame ≠ id) :
    SameSide id (stub.send now frame) stub' := by
  rw [StubCanInterface.send_eq]
  refine ⟨h.limits_, ?_, h.temperature_⟩
  unfold StubCanInterface.store
  dsimp only
  rw [Function.update_of_ne hid.symm, h.motor]

omit [Add D] [Sub D] [Mul D] [Div D] [Neg D] [NatCast D] [IntCast D] [LT D] [DecidableLT D]
  [DoubleMath D] [FloatConv D] in
theorem drained (h : SameSide id stub stub') :
    SameSide id { stub with responses_ := [] } { stub' with responses_ := [] } :=
  ⟨h.limits_, h.motor, h.temperature_⟩

end SameSide

/-! ## Operations -/

/-- Two sessions of a driver between exchanges, the same to the motor of an id. -/
structure SameSession (id : UInt8) (st st' : Session (StubBus D) D) : Prop where
  last_feedback_ : st.last_feedback_ = st'.last_feedback_
  exchanges : st.can.exchanges = st'.can.exchanges
  quiet : Quiet st
  quiet' : Quiet st'
  side : SameSide id st.can.stub st'.can.stub

variable {self : RobstrideMotor D} {timing : Timing}
  (htiming : InTime timing self.config_.timeout_ns)
include htiming

/-- An exchange of the motor goes the same way in both. -/
theorem exchange_same {e : Exchange} (he : Issued self e) {st st' : Session (StubBus D) D}
    (h : SameSession self.config_.motor_id st st') :
    (self.exchange (stub_bus timing) e st).1 = (self.exchange (stub_bus timing) e st').1 ∧
      SameSession self.config_.motor_id (self.exchange (stub_bus timing) e st).2
        (self.exchange (stub_bus timing) e st').2 := by
  obtain ⟨answer, st₁, hrun, -, -, hanswer, hlast, hex, hstub⟩ :=
    transceive_stub_session htiming he h.quiet
  obtain ⟨answer', st₁', hrun', -, -, hanswer', hlast', hex', hstub'⟩ :=
    transceive_stub_session htiming he h.quiet'
  rw [← h.exchanges] at hanswer' hex' hstub'
  -- the one answer is the same
  have hsame : answer = answer' := by
    rw [h.side.answers he.addressed, hanswer'] at hanswer
    exact (List.singleton_inj.mp hanswer).symm
  subst hsame
  unfold RobstrideMotor.exchange
  rw [hrun, hrun']
  refine ⟨rfl, ?_, hex.trans hex'.symm, Quiet.of_stub hstub, Quiet.of_stub hstub', ?_⟩
  · rw [hlast, hlast', h.last_feedback_]
  · rw [hstub, hstub']
    exact (h.side.send he.addressed).drained

/-- An exchange of another motor leaves a side as it was, and nothing queued. -/
theorem exchange_other {e : Exchange} (he : Issued self e) (hid : self.config_.motor_id ≠ id)
    {st : Session (StubBus D) D}
    (h : Quiet st ∧ SameSide id st.can.stub stub') :
    Quiet (self.exchange (stub_bus timing) e st).2 ∧
      SameSide id (self.exchange (stub_bus timing) e st).2.can.stub stub' := by
  obtain ⟨answer, st₁, hrun, -, -, -, -, -, hstub⟩ := transceive_stub_session htiming he h.1
  unfold RobstrideMotor.exchange
  rw [hrun]
  refine ⟨Quiet.of_stub hstub, ?_⟩
  have hother : SameSide id (st.can.stub.send (timing (st.can.exchanges + 1) 0) e.frame) stub' :=
    h.2.send_other (he.addressed ▸ hid)
  rw [hstub]
  exact ⟨hother.limits_, hother.motor, hother.temperature_⟩

theorem Command.run_same (c : Command D) {st st' : Session (StubBus D) D}
    (h : SameSession self.config_.motor_id st st') :
    (c.run (stub_bus timing) self st).1 = (c.run (stub_bus timing) self st').1 ∧
      SameSession self.config_.motor_id (c.run (stub_bus timing) self st).2
        (c.run (stub_bus timing) self st').2 :=
  Dialogue.run_rel (fun _ _ _ he hst => exchange_same htiming he hst)
    (Command.operation_asks self c) h

theorem Command.run_other (c : Command D) (hid : self.config_.motor_id ≠ id)
    {st : Session (StubBus D) D} (h : Quiet st ∧ SameSide id st.can.stub stub') :
    Quiet (c.run (stub_bus timing) self st).2 ∧
      SameSide id (c.run (stub_bus timing) self st).2.can.stub stub' :=
  Dialogue.run_invariant (I := fun st => Quiet st ∧ SameSide id st.can.stub stub')
    (fun _ _ he hst => exchange_other htiming he hid hst) (Command.operation_asks self c) h

end Sides

/-! ## The fleet -/

section Fleet

variable {ι D : Type} [DecidableEq ι] [Add D] [Sub D] [Mul D] [Div D] [Neg D] [NatCast D]
  [IntCast D] [LT D] [DecidableLT D] [DoubleMath D] [FloatConv D]

/-- A fleet as a machine. -/
def fleet_machine (motors : ι → RobstrideMotor D) : Machine (Action ι D) (Fleet ι D) (Event ι D)
    where
  run := Action.run motors
  after := Event.after

theorem fleet_session_eq (motors : ι → RobstrideMotor D) (actions : List (Action ι D))
    (fleet : Fleet ι D) :
    fleet_session motors actions fleet = (fleet_machine motors).session actions fleet := by
  induction actions generalizing fleet with
  | nil => rfl
  | cons action actions ih => rw [fleet_session, ih, Machine.session, fleet_machine]

/-- The action concerns the motor of an id: an operation of a driver with that id, a
fault injected into it, or a change of the temperature. -/
def Action.concerns (motors : ι → RobstrideMotor D) (id : UInt8) : Action ι D → Bool
  | command j _ _ => (motors j).config_.motor_id == id
  | set_temperature _ => true
  | set_fault_bits motor_id _ => motor_id == id

/-- What the caller of driver `i` sees of an event: what its operations return, and its
`last_feedback_` after each. -/
def Event.seen_by (i : ι) (event : Event ι D) :
    Option (Option (Except Exception (Value D)) × Option (Feedback D)) :=
  match event.action with
  | .command j _ _ => if j = i then some (event.outcome, event.after.last_feedback_ i) else none
  | _ => none

/-- Two fleets between actions, the same to the drivers with an id. -/
structure SameFleet (motors : ι → RobstrideMotor D) (id : UInt8) (fleet fleet' : Fleet ι D) :
    Prop where
  last_feedback_ : ∀ j, (motors j).config_.motor_id = id →
    fleet.last_feedback_ j = fleet'.last_feedback_ j
  quiet : fleet.can.stub.responses_ = []
  quiet' : fleet'.can.stub.responses_ = []
  side : SameSide id fleet.can.stub fleet'.can.stub

variable {motors : ι → RobstrideMotor D}

/-- An action that concerns the motor goes alike in the two runs, and keeps their sides the same. -/
theorem run_concerned {i : ι} {action : Action ι D} {fleet fleet' : Fleet ι D}
    (hintime : action.InTime motors)
    (hconcerns : action.concerns motors (motors i).config_.motor_id = true)
    (h : SameFleet motors (motors i).config_.motor_id fleet fleet') :
    (action.run motors fleet).seen_by i = (action.run motors fleet').seen_by i ∧
      SameFleet motors (motors i).config_.motor_id (action.run motors fleet).after
        (action.run motors fleet').after := by
  cases action with
  | command j c timing =>
    have hid : (motors j).config_.motor_id = (motors i).config_.motor_id := beq_iff_eq.mp hconcerns
    rw [← hid] at h ⊢
    have hst : SameSession (motors j).config_.motor_id
        ⟨fleet.last_feedback_ j, { fleet.can with exchanges := 0 }⟩
        ⟨fleet'.last_feedback_ j, { fleet'.can with exchanges := 0 }⟩ :=
      ⟨h.last_feedback_ j rfl, rfl, h.quiet, h.quiet', h.side⟩
    obtain ⟨hreturn, hafter⟩ := c.run_same hintime hst
    -- the caches of the other drivers are left alone
    have hlast : ∀ k, (motors k).config_.motor_id = (motors j).config_.motor_id →
        ((Action.command j c timing).run motors fleet).after.last_feedback_ k
          = ((Action.command j c timing).run motors fleet').after.last_feedback_ k := by
      intro k hk
      unfold Action.run
      dsimp only
      by_cases hkj : k = j
      · rw [hkj, Function.update_self, Function.update_self, hafter.last_feedback_]
      · rw [Function.update_of_ne hkj, Function.update_of_ne hkj, h.last_feedback_ k hk]
    refine ⟨?_, hlast, hafter.quiet, hafter.quiet', hafter.side⟩
    unfold Event.seen_by
    rw [hlast i hid.symm]
    unfold Action.run
    dsimp only
    rw [hreturn]
  | set_temperature temperature =>
    exact ⟨rfl, h.last_feedback_, h.quiet, h.quiet', h.side.limits_, h.side.motor, rfl⟩
  | set_fault_bits motor_id fault_bits =>
    obtain rfl : motor_id = (motors i).config_.motor_id := beq_iff_eq.mp hconcerns
    refine ⟨rfl, h.last_feedback_, h.quiet, h.quiet', h.side.limits_, ?_, h.side.temperature_⟩
    unfold Action.run StubCanInterface.set_fault_bits StubCanInterface.store
    dsimp only
    rw [Function.update_self, Function.update_self, h.side.motor]

/-- An action that does not concern the motor leaves its side as it was. -/
theorem run_unconcerned {i : ι} {action : Action ι D} {fleet fleet' : Fleet ι D}
    (hintime : action.InTime motors)
    (hconcerns : action.concerns motors (motors i).config_.motor_id = false)
    (h : SameFleet motors (motors i).config_.motor_id fleet fleet') :
    (action.run motors fleet).seen_by i = none ∧
      SameFleet motors (motors i).config_.motor_id (action.run motors fleet).after fleet' := by
  cases action with
  | command j c timing =>
    have hid : (motors j).config_.motor_id ≠ (motors i).config_.motor_id :=
      beq_eq_false_iff_ne.mp hconcerns
    have hdriver : ∀ k, (motors k).config_.motor_id = (motors i).config_.motor_id → k ≠ j := by
      rintro k hk rfl
      exact hid hk
    let st : Session (StubBus D) D := ⟨fleet.last_feedback_ j, { fleet.can with exchanges := 0 }⟩
    have hst : Quiet st ∧ SameSide (motors i).config_.motor_id st.can.stub fleet'.can.stub :=
      ⟨h.quiet, h.side⟩
    obtain ⟨hquiet, hside⟩ := c.run_other hintime hid hst
    refine ⟨if_neg (hdriver i rfl).symm, fun k hk => ?_, hquiet, h.quiet', hside⟩
    unfold Action.run
    dsimp only
    rw [Function.update_of_ne (hdriver k hk), h.last_feedback_ k hk]
  | set_temperature temperature => exact nomatch hconcerns
  | set_fault_bits motor_id fault_bits =>
    have hid : motor_id ≠ (motors i).config_.motor_id := beq_eq_false_iff_ne.mp hconcerns
    refine ⟨rfl, h.last_feedback_, h.quiet, h.quiet', h.side.limits_, ?_, h.side.temperature_⟩
    unfold Action.run StubCanInterface.set_fault_bits StubCanInterface.store
    dsimp only
    rw [Function.update_of_ne hid.symm, h.side.motor]

/-- **Simulated motors do not interfere.** Any drivers on one simulation, any sequence of
their operations and of its setters, no deadline passing: each operation of driver `i`
returns what it would return, and leaves in its cache what it would leave, if the
operations of the drivers with other motor ids, and the faults injected into other
motors, were deleted and the rest happened at the same times. -/
theorem simulated_motors_do_not_interfere (motors : ι → RobstrideMotor D) (pi : D)
    (actuator_type : ActuatorType) (stub : StubCanInterface D)
    (hfresh : StubCanInterface.make pi actuator_type = .ok stub)
    (last_feedback_ : ι → Option (Feedback D)) (actions : List (Action ι D))
    (hintime : ∀ action ∈ actions, action.InTime motors) (i : ι) :
    (fleet_session motors actions ⟨last_feedback_, { stub := stub }⟩).filterMap (Event.seen_by i)
      = (fleet_session motors (actions.filter (Action.concerns motors (motors i).config_.motor_id))
          ⟨last_feedback_, { stub := stub }⟩).filterMap (Event.seen_by i) := by
  have hquiet := StubCanInterface.responses_of_make hfresh
  have hunwinding : (fleet_machine motors).Unwinding (fun action => action.InTime motors)
      (Action.concerns motors (motors i).config_.motor_id) (Event.seen_by i)
      (SameFleet motors (motors i).config_.motor_id) :=
    ⟨fun _ _ _ => run_concerned, fun _ _ _ => run_unconcerned⟩
  rw [fleet_session_eq, fleet_session_eq]
  exact hunwinding.filterMap_session hintime
    ⟨fun _ _ => rfl, hquiet, hquiet, rfl, rfl, rfl⟩

end Fleet

/-- The two motors of `can_bus::dual`: what the left one sees when the right one is driven
and faulted in between. -/
theorem simulated_motors_do_not_interfere_dual :
    ∃ stub, StubCanInterface.make (22 / 7 : ℚ) .Rs02 = .ok stub ∧
      (fleet_session fixtures.dual
          [.command false .enable fun _ reading => 0 + reading,
            .command true (.set_run_mode RunMode.Velocity) fun _ reading => 20 + reading,
            .set_fault_bits 0x02 0x04, .command true .enable fun _ reading => 40 + reading,
            .command false .get_run_mode fun _ reading => 60 + reading]
          ⟨fun _ => none, { stub := stub }⟩).filterMap (Event.seen_by false)
        = (fleet_session fixtures.dual
          [.command false .enable fun _ reading => 0 + reading,
            .command false .get_run_mode fun _ reading => 60 + reading]
          ⟨fun _ => none, { stub := stub }⟩).filterMap (Event.seen_by false) := by
  have hclock : ∀ motor (start : ℤ), InTime (fun _ reading => start + reading)
      (fixtures.dual motor).config_.timeout_ns := by
    intro motor
    apply InTime.ticking
    cases motor <;> decide
  refine ⟨_, rfl, simulated_motors_do_not_interfere fixtures.dual (22 / 7) .Rs02 _ rfl _ _ ?_ false⟩
  intro action haction
  simp only [List.mem_cons, List.not_mem_nil, or_false] at haction
  rcases haction with rfl | rfl | rfl | rfl | rfl
  · exact hclock false 0
  · exact hclock true 20
  · exact True.intro
  · exact hclock true 40
  · exact hclock false 60

end Robstride
