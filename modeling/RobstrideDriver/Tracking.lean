/-
From the simulated motors to the unwrapped position.

The simulation wraps a motor's continuous position, quantises it and queues it;
the driver picks it up, at once or as a late answer, and decodes it; the unwrapper
puts the turns back. The first half holds in any arithmetic: whatever the clock
does, every feedback an operation returns is the code of a position the motor of
that driver had (`operation_sampled`), because each queued frame stands
next to its own entry of the tape (`Taped`). The second half is exact arithmetic:
the code is half a step off (`reported_accurate`), and the unwrapper adds nothing
to that (`positions_tracked_without_drift`).
-/
import RobstrideDriver.FeedbackCodec
import RobstrideDriver.PositionUnwrapper
import RobstrideDriver.StubFleet

set_option autoImplicit false

open CppArith

namespace Robstride

section Tape

variable {D : Type} [Add D] [Sub D] [Mul D] [Div D] [Neg D] [NatCast D] [IntCast D]
  [LT D] [DecidableLT D] [DoubleMath D] [FloatConv D]

/-! ## The tape -/

/-- The position a feedback frame carries when the motor is at `position`. -/
def wrapped (limits : ActuatorLimits D) (position : D) : D :=
  DoubleMath.remainder position (((2 : ℕ) : D) * limits.position)

/-- A frame that is feedback is feedback of the sample. -/
def Reports (limits : ActuatorLimits D) (f : CanFrame) (sample : Sample D) : Prop :=
  get_comm_type f = CommType.Feedback.code →
    ∃ fb : Feedback D, f = make_feedback_frame fb limits ∧ fb.motor_id = sample.motor_id ∧
      fb.position = wrapped limits sample.position

/-- The invariant: every queued response reports the entry next to it. -/
structure Taped (limits : ActuatorLimits D) (bus : StubBus D) : Prop where
  limits_eq : bus.stub.limits_ = limits
  reports : List.Forall₂ (Reports limits) bus.stub.responses_ bus.tape

variable {limits : ActuatorLimits D} {bus : StubBus D} {timing : Timing}

/-- The tape gets an entry for each answer that is queued. -/
theorem recorded_eq {stub : StubCanInterface D} {now : ℤ} {frame : CanFrame}
    {answers : List CanFrame}
    (h : (stub.send now frame).responses_ = stub.responses_ ++ answers) :
    recorded stub now frame = answers.map fun _ =>
      { motor_id := get_target_motor_id frame
        position := ((stub.send now frame).motors_ (get_target_motor_id frame)).position } := by
  rw [recorded, h, List.drop_left]

theorem Taped.send (h : Taped limits bus) {frame : CanFrame} {r : Except Exception Unit}
    {bus' : StubBus D} (hs : (stub_bus timing).send frame bus = (r, bus')) :
    Taped limits bus' := by
  obtain ⟨-, rfl⟩ := Prod.mk.inj hs
  obtain ⟨now, hnow⟩ : ∃ now, timing (bus.exchanges + 1) 0 = now := ⟨_, rfl⟩
  -- enough: `send` appends answers that report the motor as `send` leaves it
  have appended : ∀ answers : List CanFrame,
      (bus.stub.send now frame).responses_ = bus.stub.responses_ ++ answers →
      (∀ f ∈ answers, Reports limits f
        { motor_id := get_target_motor_id frame
          position := ((bus.stub.send now frame).motors_ (get_target_motor_id frame)).position }) →
      Taped limits { bus with
        stub := bus.stub.send (timing (bus.exchanges + 1) 0) frame
        exchanges := bus.exchanges + 1
        readings := 1
        tape := bus.tape ++ recorded bus.stub (timing (bus.exchanges + 1) 0) frame } := by
    intro answers hanswers hreports
    refine ⟨(bus.stub.send_limits _ frame).trans h.limits_eq, ?_⟩
    dsimp only
    rw [hnow, recorded_eq hanswers, hanswers]
    apply List.rel_append h.reports
    rw [List.forall₂_map_right_iff, List.forall₂_same]
    exact hreports
  rcases bus.stub.send_cases now frame with ⟨change, hsend⟩ | ⟨request, hsend⟩ | hsend
  · refine appended _ (by rw [hsend, StubCanInterface.answer_with_feedback_responses]) ?_
    intro f hf _
    obtain rfl := List.mem_singleton.mp hf
    rw [hsend, StubCanInterface.answer_with_feedback_motors, h.limits_eq]
    refine ⟨_, rfl, rfl, ?_⟩
    rw [StubCanInterface.feedback, h.limits_eq]
    rfl
  · refine appended [_] (congrArg StubCanInterface.responses_ hsend) ?_
    intro f hf htype
    obtain rfl := List.mem_singleton.mp hf
    -- a parameter answer is no feedback
    rw [(bus.stub.read_response_fields _ _ request).1] at htype
    simp [CommType.code_inj] at htype
  · refine appended [] (by rw [hsend, List.append_nil]) ?_
    exact fun f hf => nomatch hf

omit [Add D] [IntCast D] [FloatConv D] in
/-- The readings of the clock are no part of it. -/
theorem Taped.renumber (h : Taped limits bus) (exchanges : ℕ) :
    Taped limits { bus with exchanges := exchanges } :=
  ⟨h.limits_eq, h.reports⟩

/-- What `receive` hands out reports the entry it takes off the tape. -/
theorem Taped.receive (h : Taped limits bus) {t : ℕ} {r : Except Exception (Option CanFrame)}
    {bus' : StubBus D} (hr : (stub_bus timing).receive t bus = (r, bus')) :
    Taped limits bus' ∧ ∀ f, r = .ok (some f) →
      ∃ sample, bus'.sample = some sample ∧ Reports limits f sample := by
  obtain ⟨hlimits, hreports⟩ := h
  unfold stub_bus StubCanInterface.receive at hr
  dsimp only at hr
  cases hresponses : bus.stub.responses_ with
  | nil =>
    simp only [hresponses, Prod.mk.injEq] at hr
    obtain ⟨rfl, rfl⟩ := hr
    exact ⟨⟨hlimits, hreports⟩, fun f hf => nomatch hf⟩
  | cons frame rest =>
    rw [hresponses] at hreports
    cases htape : bus.tape with
    | nil =>
      rw [htape] at hreports
      cases hreports
    | cons sample tape =>
      rw [htape] at hreports
      obtain ⟨hframe, hrest⟩ := List.forall₂_cons.mp hreports
      simp only [hresponses, htape, Prod.mk.injEq] at hr
      obtain ⟨rfl, rfl⟩ := hr
      refine ⟨⟨hlimits, hrest⟩, fun f hf => ⟨sample, rfl, ?_⟩⟩
      obtain rfl := Option.some.inj (Except.ok.inj hf)
      exact hframe

/-! ## The operations -/

variable {self : RobstrideMotor D} {st st' : Session (StubBus D) D}

theorem exchange_taped (e : Exchange) (h : Taped limits st.can) :
    Taped limits (self.exchange (stub_bus timing) e st).2.can := by
  refine RobstrideMotor.transceive_invariant (fun r s' hs => h.send hs) ?_ ?_
  · exact fun s hs => ⟨hs.limits_eq, hs.reports⟩
  · exact fun t s r s' hs hr => (hs.receive hr).1

/-- What an operation returns as feedback is the code of a position the motor of
this driver had, the one the transport recorded for the frame. -/
def Sampled (limits : ActuatorLimits D) (self : RobstrideMotor D) (fb : Feedback D)
    (st : Session (StubBus D) D) : Prop :=
  ∃ position, st.can.sample = some ⟨self.config_.motor_id, position⟩ ∧
    fb.position = uint_to_float
      (float_to_uint (wrapped limits position) (-limits.position) limits.position)
      (-self.limits_.position) self.limits_.position

theorem transceive_feedback_ensures (frame : CanFrame) :
    Dialogue.Ensures (self.exchange (stub_bus timing)) (fun st => Taped limits st.can)
      (self.transceive_feedback frame) (Sampled limits self) := by
  intro st fb st' h hrun
  obtain ⟨r, hr, hparse⟩ := run_transceive_feedback_ok.mp hrun
  let Q := fun (f : CanFrame) (s : StubBus D) =>
    ∃ sample, s.sample = some sample ∧ Reports limits f sample
  have hreturned : Q r st'.can ∧ self.Answers .Feedback r ∧
      ∃ last, st'.last_feedback_ = self.cache r last := by
    refine RobstrideMotor.transceive_ok (I := Taped limits) (fun s hs => h.send hs) ?_ ?_ ?_ hr
    · exact fun s hs => ⟨hs.limits_eq, hs.reports⟩
    · exact fun t s f s' hs hf _ => (hs.receive hf).1
    · exact fun t s f s' hs hf _ => (hs.receive hf).2 f rfl
  obtain ⟨⟨sample, hsample, hreports⟩, ⟨hid, htype⟩, -⟩ := hreturned
  -- the frame returned is feedback, so it is the feedback of its sample
  obtain ⟨sent, rfl, hmotor, hposition⟩ := hreports htype
  rw [get_source_motor_id_make_feedback_frame, hmotor] at hid
  rw [parse_make_feedback_frame] at hparse
  obtain rfl := Option.some.inj hparse
  refine ⟨sample.position, ?_, ?_⟩
  · rw [hsample, ← hid]
  · rw [hposition]

/-- **Every operation**, whatever the clock does and whatever was queued. -/
theorem operation_sampled (c : Command D) :
    Dialogue.Ensures (self.exchange (stub_bus timing)) (fun st => Taped limits st.can)
      (c.operation self) fun v st => ∀ fb, v = .feedback fb → Sampled limits self fb st :=
  c.feedback_ensures (I := fun st => Taped limits st.can) (fun e _ _ h => exchange_taped e h)
    fun frame _ => transceive_feedback_ensures frame

/-- An exchange that finds nothing queued samples the motor as it is afterwards. -/
theorem transceive_feedback_current {frame : CanFrame} (he : Issued self ⟨frame, .Feedback⟩) :
    Dialogue.Ensures (self.exchange (stub_bus timing))
      (fun st => Quiet st ∧ Taped limits st.can) (self.transceive_feedback frame) fun _ st =>
        st.can.sample = some
          ⟨self.config_.motor_id, (st.can.stub.motors_ self.config_.motor_id).position⟩ := by
  rintro st fb st' ⟨hquiet, htaped⟩ hrun
  obtain ⟨r, hr, -⟩ := run_transceive_feedback_ok.mp hrun
  obtain ⟨answer, hresponses, hanswers, -⟩ :=
    he.answered st.can.stub (timing (st.can.exchanges + 1) 0)
  have htape : st.can.tape = [] := by
    have hreports := htaped.reports
    rw [show st.can.stub.responses_ = [] from hquiet] at hreports
    exact List.forall₂_nil_left_iff.mp hreports
  let I := fun s : StubBus D => s.stub.responses_ = [answer] ∧ s.tape =
    [⟨self.config_.motor_id, (s.stub.motors_ self.config_.motor_id).position⟩]
  let Q := fun (_ : CanFrame) (s : StubBus D) => s.sample =
    some ⟨self.config_.motor_id, (s.stub.motors_ self.config_.motor_id).position⟩
  have hreceive : ∀ t s f s', I s → (stub_bus timing).receive t s = (.ok (some f), s') →
      f = answer ∧ Q f s' := by
    rintro t s f s' ⟨hqueue, hentry⟩ hf
    simp only [stub_bus, StubCanInterface.receive, hqueue, hentry, Prod.mk.injEq, Except.ok.injEq,
      Option.some.injEq] at hf
    obtain ⟨rfl, rfl⟩ := hf
    exact ⟨rfl, rfl⟩
  have hreturned : Q r st'.can ∧ self.Answers .Feedback r ∧
      ∃ last, st'.last_feedback_ = self.cache r last := by
    refine RobstrideMotor.transceive_ok (I := I) ?_ (fun s hs => hs) ?_ ?_ hr
    · intro s hs
      obtain ⟨-, rfl⟩ := Prod.mk.inj hs
      refine ⟨?_, ?_⟩
      · exact hresponses.trans (by rw [show st.can.stub.responses_ = [] from hquiet]; rfl)
      · dsimp only
        rw [htape, recorded_eq hresponses, he.addressed]
        rfl
    · intro t s f s' hs hf hnot
      obtain rfl := (hreceive t s f s' hs hf).1
      -- the only frame on the bus is the answer
      exact absurd hanswers hnot
    · exact fun t s f s' hs hf _ => (hreceive t s f s' hs hf).2
  exact hreturned.1

/-! ## The fleet -/

variable {ι : Type} [DecidableEq ι]

/-- The position motor `i` reports in an event, and the tape's entry for it. -/
def Event.report (i : ι) (event : Event ι D) : Option (D × Option (Sample D)) :=
  match event.action, event.outcome with
  | .command j _ _, some (.ok (.feedback fb)) =>
    if j = i then some (fb.position, event.after.can.sample) else none
  | _, _ => none

/-- What the operations of motor `i` returned as feedback, in order. -/
def position_reports (i : ι) (log : List (Event ι D)) : List (D × Option (Sample D)) :=
  log.filterMap (Event.report i)

/-- What a motor at `position` reports through this driver. -/
def expected_report (limits : ActuatorLimits D) (self : RobstrideMotor D) (position : D) :
    D × Option (Sample D) :=
  (uint_to_float (float_to_uint (wrapped limits position) (-limits.position) limits.position)
      (-self.limits_.position) self.limits_.position,
    some ⟨self.config_.motor_id, position⟩)

variable {motors : ι → RobstrideMotor D} {fleet : Fleet ι D}

/-- The step lemma: an action keeps the tape next to the queue, entry by entry. -/
theorem Action.run_taped (action : Action ι D) (h : Taped limits fleet.can) :
    Taped limits (action.run motors fleet).after.can := by
  cases action with
  | command i c timing =>
    exact Dialogue.run_invariant (P := fun _ => True)
      (I := fun st : Session (StubBus D) D => Taped limits st.can)
      (fun e st _ hst => exchange_taped e hst) (Dialogue.Asks.trivial _) (h.renumber 0)
  | set_temperature temperature => exact ⟨h.limits_eq, h.reports⟩
  | set_fault_bits motor_id fault_bits => exact ⟨h.limits_eq, h.reports⟩

omit [Add D] [Sub D] [Mul D] [Div D] [Neg D] [NatCast D] [IntCast D] [LT D] [DecidableLT D]
  [DoubleMath D] [FloatConv D] in
theorem Event.report_eq_some {i : ι} {event : Event ι D} {r : D × Option (Sample D)}
    (h : event.report i = some r) : ∃ c timing fb, event.action = .command i c timing ∧
      event.outcome = some (.ok (.feedback fb)) ∧ r = (fb.position, event.after.can.sample) := by
  unfold Event.report at h
  split at h
  next j c timing fb haction houtcome =>
    split_ifs at h with hij
    obtain rfl := hij
    exact ⟨c, timing, fb, haction, houtcome, (Option.some.inj h).symm⟩
  next => cases h

/-- And what it reports is as expected of some position, namely the one on the tape. -/
theorem Action.run_report (action : Action ι D) (h : Taped limits fleet.can) {i : ι}
    {r : D × Option (Sample D)} (hr : (action.run motors fleet).report i = some r) :
    ∃ position, expected_report limits (motors i) position = r := by
  obtain ⟨c, timing, fb, haction, houtcome, rfl⟩ := Event.report_eq_some hr
  cases action with
  | set_temperature temperature => cases haction
  | set_fault_bits motor_id fault_bits => cases haction
  | command j c' timing' =>
    obtain ⟨rfl, rfl, rfl⟩ := Action.command.inj haction
    obtain ⟨position, hsample, hposition⟩ := operation_sampled c'
      ⟨fleet.last_feedback_ j, { fleet.can with exchanges := 0 }⟩ _ _ (h.renumber 0)
      (Prod.ext (Option.some.inj houtcome) rfl) fb rfl
    refine ⟨position, Prod.ext hposition.symm ?_⟩
    exact hsample.symm

/-- Where no deadline passes, a sample is never late: what an operation reports is
the position its motor has when it returns. -/
theorem report_current {actions : List (Action ι D)}
    (hintime : ∀ action ∈ actions, action.InTime motors)
    (hquiet : fleet.can.stub.responses_ = []) (h : Taped limits fleet.can) :
    ∀ event ∈ fleet_session motors actions fleet, ∀ i r, event.report i = some r →
      r.2 = some ⟨(motors i).config_.motor_id,
        (event.after.can.stub.motors_ (motors i).config_.motor_id).position⟩ := by
  induction actions generalizing fleet with
  | nil => exact fun event hevent => nomatch hevent
  | cons action actions ih =>
    have hfirst := hintime action List.mem_cons_self
    intro event hevent i r hr
    rcases List.mem_cons.mp hevent with rfl | hevent
    · obtain ⟨c, timing, fb, haction, houtcome, rfl⟩ := Event.report_eq_some hr
      cases action with
      | set_temperature temperature => cases haction
      | set_fault_bits motor_id fault_bits => cases haction
      | command j c' timing' =>
        obtain ⟨rfl, rfl, rfl⟩ := Action.command.inj haction
        refine c'.feedback_ensures (I := fun st => Quiet st ∧ Taped limits st.can) ?_
          (fun frame he => transceive_feedback_current he)
          ⟨fleet.last_feedback_ j, { fleet.can with exchanges := 0 }⟩ _ _ ⟨hquiet, h.renumber 0⟩
          (Prod.ext (Option.some.inj houtcome) rfl) fb rfl
        rintro e st he ⟨hst, htaped⟩
        obtain ⟨answer, st', hrun, -, -, -, hst'⟩ := transceive_stub hfirst he hst
        have hkept : Taped limits ((motors j).exchange (stub_bus timing') e st).2.can :=
          exchange_taped e htaped
        rw [RobstrideMotor.exchange, hrun] at hkept ⊢
        exact ⟨Quiet.of_stub hst', hkept⟩
    · have hanswered := Action.run_answered hfirst hquiet
      exact ih (fun a ha => hintime a (List.mem_cons_of_mem _ ha)) hanswered.1
        (action.run_taped h) event hevent i r hr

/-- The run lemma: all that a motor reports in a run is as expected of some sequence of
positions. -/
theorem position_reports_eq (actions : List (Action ι D)) (h : Taped limits fleet.can) (i : ι) :
    ∃ positions : List D, positions.map (expected_report limits (motors i))
      = position_reports i (fleet_session motors actions fleet) := by
  rw [← Set.mem_range, Set.range_list_map]
  induction actions generalizing fleet with
  | nil => exact fun r hr => nomatch hr
  | cons action actions ih =>
    intro r hr
    obtain ⟨event, hevent, hreport⟩ := List.mem_filterMap.mp hr
    rcases List.mem_cons.mp hevent with rfl | hevent
    · exact action.run_report h hreport
    · exact ih (action.run_taped h) r (List.mem_filterMap.mpr ⟨event, hevent, hreport⟩)

end Tape

/-! ## Exact arithmetic -/

section Exact

variable {K : Type} [Field K] [LinearOrder K] [IsStrictOrderedRing K] [FloorRing K]

/-- **One sample**: what is reported is the wrapped position up to half a code. -/
theorem reported_accurate {limits : ActuatorLimits K} (hL : 0 < limits.position) (position : K) :
    (⟨uint_to_float (float_to_uint (wrapped limits position) (-limits.position) limits.position)
        (-limits.position) limits.position, position⟩ : PositionUnwrapper.Reading K).Accurate
      (2 * limits.position) (limits.position / 65535) := by
  have hwrap := FixedPoint.remainder_abs_le position (y := 2 * limits.position) (by linarith)
  obtain ⟨hlo, hhi⟩ := abs_le.mp hwrap
  have hrange : -limits.position < limits.position := by linarith
  have herror := uint_to_float_error hrange
    (x := FixedPoint.remainder position (2 * limits.position)) (by linarith) (by linarith)
  have hstep : (limits.position - -limits.position) / (2 * 65535) = limits.position / 65535 := by
    ring
  have hwrapped : wrapped limits position
      = FixedPoint.remainder position (2 * limits.position) := by
    rw [wrapped, Nat.cast_ofNat]
    rfl
  unfold PositionUnwrapper.Reading.Accurate
  rw [hstep] at herror
  rw [hwrapped]
  exact herror

variable {ι : Type} [DecidableEq ι] [FloatConv K]

/-- **Tracking without drift.** Any drivers on a simulation with the limits of
motor `i`, any run of their operations whatever the clock does. Each feedback
position that motor `i` returns is a sample of a position its motor had; and of
any of them, fed in order to an unwrapper, every output is within half a code of
the position sampled, moved by a number of turns that the first sample fixes,
where the motor never moved half a range, less one code, between two that were
fed. -/
theorem positions_tracked_without_drift (motors : ι → RobstrideMotor K) (i : ι)
    (stub : StubCanInterface K) (hfresh : stub.responses_ = [])
    (hlimits : (motors i).limits_ = stub.limits_) (hL : 0 < stub.limits_.position)
    (last_feedback_ : ι → Option (Feedback K)) (actions : List (Action ι K)) :
    ∃ readings : List (PositionUnwrapper.Reading K),
      position_reports i (fleet_session motors actions ⟨last_feedback_, { stub := stub }⟩)
        = readings.map (fun r => (r.reported, some ⟨(motors i).config_.motor_id, r.actual⟩)) ∧
      ∀ fed : List (PositionUnwrapper.Reading K), fed.Sublist readings →
        fed.IsChain (fun r r' => |r'.actual - r.actual|
          < stub.limits_.position - 2 * stub.limits_.position / 65535) →
        ∃ k : ℤ,
          (∀ r ∈ fed.head?, k = -PositionUnwrapper.turns (2 * stub.limits_.position) r.actual) ∧
          List.Forall₂
            (fun output r => |output - (r.actual + 2 * stub.limits_.position * (k : K))|
              ≤ stub.limits_.position / 65535)
            ((PositionUnwrapper.of_limits stub.limits_).feed
              (fed.map PositionUnwrapper.Reading.reported)) fed := by
  have hempty : Taped stub.limits_ ({ stub := stub } : StubBus K) := by
    refine ⟨rfl, ?_⟩
    rw [show ({ stub := stub } : StubBus K).stub.responses_ = [] from hfresh]
    exact .nil
  obtain ⟨positions, hpositions⟩ : ∃ positions : List K,
      positions.map (expected_report stub.limits_ (motors i)) = position_reports i
        (fleet_session motors actions ⟨last_feedback_, { stub := stub }⟩) :=
    position_reports_eq actions hempty i
  let reading := fun position : K => (⟨uint_to_float (float_to_uint (wrapped stub.limits_ position)
    (-stub.limits_.position) stub.limits_.position) (-stub.limits_.position)
    stub.limits_.position, position⟩ : PositionUnwrapper.Reading K)
  refine ⟨positions.map reading, ?_, ?_⟩
  · rw [← hpositions, List.map_map]
    refine List.map_congr_left fun position _ => ?_
    rw [expected_report, hlimits]
    rfl
  · -- the unwrapper sees samples of error at most half a code
    intro fed hfed hmove
    have haccurate : ∀ r ∈ fed, r.Accurate (2 * stub.limits_.position)
        (stub.limits_.position / 65535) := by
      intro r hr
      obtain ⟨position, -, rfl⟩ := List.mem_map.mp (hfed.subset hr)
      exact reported_accurate hL position
    have hbound : 2 * stub.limits_.position / 2 - 2 * (stub.limits_.position / 65535)
        = stub.limits_.position - 2 * stub.limits_.position / 65535 := by
      ring
    have hspan : PositionUnwrapper.of_limits stub.limits_
        = PositionUnwrapper.of_span (2 * stub.limits_.position) := by
      rw [PositionUnwrapper.of_limits, Nat.cast_ofNat]
    rw [hspan]
    refine PositionUnwrapper.feed_tracks (by linarith) haccurate ?_
    rw [hbound]
    exact hmove

end Exact

namespace fixtures

/-- A motor told to turn at 40 rad/s, its status read four times a second. -/
def spinning : List (Action Unit ℚ) :=
  [ .command () (.set_run_mode RunMode.Velocity) fun _ _ => 0,
    .command () .enable fun _ _ => 0,
    .command () (.send_velocity_command 40) fun _ _ => 0,
    .command () .enable fun _ _ => 250000000,
    .command () .enable fun _ _ => 500000000,
    .command () .enable fun _ _ => 750000000 ]

end fixtures

/-- A motor that turns at 40 rad/s, reported four times a second: ten radians from one report to the
next, which is less than half a range. -/
theorem positions_tracked_without_drift_spinning :
    ∃ stub, StubCanInterface.make (22 / 7 : ℚ) .Rs02 = .ok stub ∧
      ∃ readings : List (PositionUnwrapper.Reading ℚ),
        position_reports () (fleet_session (fun _ => fixtures.single) fixtures.spinning
          ⟨fun _ => none, { stub := stub }⟩)
          = readings.map (fun r => (r.reported, some ⟨0x01, r.actual⟩)) ∧
        ∀ fed : List (PositionUnwrapper.Reading ℚ), fed.Sublist readings →
          fed.IsChain (fun r r' => |r'.actual - r.actual|
            < stub.limits_.position - 2 * stub.limits_.position / 65535) →
          ∃ k : ℤ,
            (∀ r ∈ fed.head?, k = -PositionUnwrapper.turns (2 * stub.limits_.position) r.actual) ∧
            List.Forall₂
              (fun output r => |output - (r.actual + 2 * stub.limits_.position * (k : ℚ))|
                ≤ stub.limits_.position / 65535)
              ((PositionUnwrapper.of_limits stub.limits_).feed
                (fed.map PositionUnwrapper.Reading.reported)) fed :=
  ⟨_, rfl, positions_tracked_without_drift (fun _ => fixtures.single) () _ rfl
    (by decide +kernel) (by decide +kernel) _ _⟩

/-- The range ends at 88/7, so the last two reports are a turn below the position. -/
example :
    let stub : StubCanInterface ℚ :=
      { limits_ := fixtures.rs02, motors_ := fun _ => { position := 0 }, temperature_ := 30 }
    let reports := position_reports () (fleet_session (fun _ => fixtures.single) fixtures.spinning
      ⟨fun _ => none, { stub := stub }⟩)
    reports.map (fun r => (r.2.map Sample.position, r.1))
        = [(some 0, 88 / 458745), (some 0, 88 / 458745), (some 10, 1529176 / 152915),
          (some 20, -138776 / 26985), (some 30, 2228248 / 458745)] ∧
      (PositionUnwrapper.of_limits fixtures.rs02).feed (reports.map Prod.fst)
        = [88 / 458745, 88 / 458745, 1529176 / 152915, 539704 / 26985, 13762408 / 458745] := by
  decide +kernel

end Robstride
