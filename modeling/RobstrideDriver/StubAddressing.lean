/-
Whom the simulator answers.

A feedback frame names the motor it is from and the host it is for. The simulator reads
the host off data area 2 of the command, where a motion command carries its torque:
`get_host_id` is documented for the other types only. So feedback is addressed to the
requester if the command carries the host id there (`Command.CarriesHost`), which a
motion command does for the torques whose code happens to end in that byte.

The queue is between the commands and the caches: a response that an operation did not
wait for is received by the next one. `Action.Meets` is the condition on a step and on
the queue it finds, and `answers_addressed` says what comes of it over whole runs.
-/
import RobstrideDriver.FeedbackCache
import RobstrideDriver.StubFleet

set_option autoImplicit false

open CppArith

namespace Robstride

/-! ## Addresses -/

/-- A frame that is feedback of the motor is for the host: bits 7-0 are the receiver's id
in both directions. -/
def ForHost (motor_id host_id : UInt8) (f : CanFrame) : Prop :=
  get_source_motor_id f = motor_id → get_comm_type f = CommType.Feedback.code →
    get_target_motor_id f = host_id

/-- Feedback of the driver's motor, for the driver's host. -/
def Feedback.To {D : Type} (fb : Feedback D) (self : RobstrideMotor D) : Prop :=
  fb.motor_id = self.config_.motor_id ∧ fb.host_id = self.config_.host_id

section Session

variable {D : Type} [Add D] [Sub D] [Mul D] [Div D] [Neg D] [NatCast D] [IntCast D]
  [LT D] [DecidableLT D] [DoubleMath D] [FloatConv D]

/-- Data area 2 of the frames of the command ends in the host id. -/
def Command.CarriesHost (self : RobstrideMotor D) : Command D → Prop
  | .send_motion_command torque _ _ _ _ =>
    (float_to_uint torque (-self.limits_.torque) self.limits_.torque).toUInt8
      = self.config_.host_id
  | _ => True

/-- The queue and the cache of a session hold feedback for the driver's host only. -/
def Addressed (self : RobstrideMotor D) (st : Session (StubBus D) D) : Prop :=
  (∀ f ∈ st.can.stub.responses_, ForHost self.config_.motor_id self.config_.host_id f) ∧
    ∀ fb, st.last_feedback_ = some fb → fb.To self

omit [IntCast D] [LT D] [DecidableLT D] [DoubleMath D] [FloatConv D] in
theorem parse_feedback_host_id {f : CanFrame} {limits : ActuatorLimits D} {fb : Feedback D}
    (h : parse_feedback f limits = some fb) :
    get_comm_type f = CommType.Feedback.code ∧ fb.host_id = get_target_motor_id f := by
  unfold parse_feedback at h
  split_ifs at h with htype hdlc
  obtain rfl := Option.some.inj h
  exact ⟨not_not.mp htype, rfl⟩

/-- The responses to a frame come from the motor it is addressed to, and feedback goes to
the host the frame seems to come from. -/
theorem answers_addresses {stub : StubCanInterface D} {now : ℤ} {frame f : CanFrame}
    (h : f ∈ stub.answers now frame) :
    ForHost (get_target_motor_id frame) (get_host_id frame) f ∧
      get_source_motor_id f = get_target_motor_id frame := by
  unfold StubCanInterface.answers at h
  dsimp only at h
  split_ifs at h
  · obtain rfl := List.mem_singleton.mp h
    refine ⟨fun _ _ => ?_, get_source_motor_id_make_feedback_frame _ _⟩
    rw [make_feedback_frame, get_target_motor_id_make_id]
    rfl
  · -- a parameter answer is no feedback
    obtain rfl := List.mem_singleton.mp h
    obtain ⟨htype, hsource, -⟩ := stub.read_response_fields (get_target_motor_id frame)
      (get_host_id frame) ⟨get_target_motor_id frame, get_host_id frame, frame_index frame⟩
    refine ⟨fun _ hfeedback => ?_, hsource⟩
    rw [htype] at hfeedback
    simp [CommType.code_inj] at hfeedback
  · exact absurd h List.not_mem_nil

/-! ## One exchange -/

variable {self : RobstrideMotor D} {timing : Timing} {motor_id host_id : UInt8}

/-- `receive` takes the first response, if there is one, and leaves the rest as they are. -/
theorem receive_queue {t : ℕ} {s s' : StubBus D} {r : Except Exception (Option CanFrame)}
    (hr : (stub_bus timing).receive t s = (r, s')) :
    (∃ f, r = .ok (some f) ∧ s.stub.responses_ = f :: s'.stub.responses_) ∨
      r = .ok none ∧ s.stub.responses_ = s'.stub.responses_ := by
  cases hqueue : s.stub.responses_ with
  | nil =>
    simp only [stub_bus, StubCanInterface.receive, hqueue, Prod.mk.injEq] at hr
    obtain ⟨rfl, rfl⟩ := hr
    exact .inr ⟨rfl, hqueue.symm⟩
  | cons f rest =>
    simp only [stub_bus, StubCanInterface.receive, hqueue, Prod.mk.injEq] at hr
    obtain ⟨rfl, rfl⟩ := hr
    exact .inl ⟨f, rfl, rfl⟩

/-- Sending a command that carries the host id keeps the queue one for the host. -/
theorem send_queue {stub : StubCanInterface D} {now : ℤ} {frame : CanFrame}
    (hhost : get_target_motor_id frame = motor_id → get_host_id frame = host_id)
    (hqueue : ∀ f ∈ stub.responses_, ForHost motor_id host_id f) :
    ∀ f ∈ (stub.send now frame).responses_, ForHost motor_id host_id f := by
  rw [StubCanInterface.send_eq]
  intro f hf
  rcases List.mem_append.mp hf with hf | hf
  · exact hqueue f hf
  · intro hsource htype
    obtain ⟨hfor, hfrom⟩ := answers_addresses hf
    rw [hfor hfrom htype]
    exact hhost (hfrom.symm.trans hsource)

/-- So it is kept by an exchange, whatever becomes of it. -/
theorem exchange_queue {e : Exchange}
    (hhost : get_target_motor_id e.frame = motor_id → get_host_id e.frame = host_id)
    {st : Session (StubBus D) D}
    (hqueue : ∀ f ∈ st.can.stub.responses_, ForHost motor_id host_id f) :
    ∀ f ∈ (self.exchange (stub_bus timing) e st).2.can.stub.responses_,
      ForHost motor_id host_id f := by
  let I := fun s : StubBus D => ∀ f ∈ s.stub.responses_, ForHost motor_id host_id f
  refine RobstrideMotor.transceive_invariant (I := I) ?_ (fun s h => h) ?_
  · intro r s hs
    obtain ⟨-, rfl⟩ := Prod.mk.inj hs
    exact send_queue hhost hqueue
  · intro t s r s' h hr
    rcases receive_queue hr with ⟨f, -, heq⟩ | ⟨-, heq⟩
    · exact fun g hg => h g (heq ▸ List.mem_cons_of_mem f hg)
    · exact fun g hg => h g (heq ▸ hg)

/-- And so is the cache, if the exchange is the driver's own. -/
theorem exchange_addressed {e : Exchange} (hhost : get_host_id e.frame = self.config_.host_id)
    {st : Session (StubBus D) D} (h : Addressed self st) :
    Addressed self (self.exchange (stub_bus timing) e st).2 := by
  refine RobstrideMotor.transceive_session ?_ (fun st h => h) ?_
  · intro r s hs
    obtain ⟨-, rfl⟩ := Prod.mk.inj hs
    exact ⟨send_queue (fun _ => hhost) h.1, h.2⟩
  · intro t st r s h hr
    rcases receive_queue hr with ⟨f, rfl, heq⟩ | ⟨rfl, heq⟩
    · refine ⟨fun g hg => h.1 g (heq ▸ List.mem_cons_of_mem f hg), fun fb hfb => ?_⟩
      have hfor := h.1 f (heq ▸ List.mem_cons_self)
      by_cases hsource : get_source_motor_id f = self.config_.motor_id
      · rw [RobstrideMotor.noticed, if_pos hsource, RobstrideMotor.cache] at hfb
        cases hparse : parse_feedback f self.limits_ with
        | none =>
          rw [hparse, Option.none_or] at hfb
          exact h.2 fb hfb
        | some fb' =>
          rw [hparse, Option.some_or] at hfb
          obtain rfl := Option.some.inj hfb
          obtain ⟨htype, hid⟩ := parse_feedback_host_id hparse
          exact ⟨(parse_feedback_motor_id hparse).trans hsource, hid.trans (hfor hsource htype)⟩
      · rw [RobstrideMotor.noticed, if_neg hsource] at hfb
        exact h.2 fb hfb
    · exact ⟨fun g hg => h.1 g (heq ▸ hg), h.2⟩

/-! ## One operation -/

omit [IntCast D] in
/-- The frames of a command that carries the host id. -/
theorem Command.asks_for_host {c : Command D} (hc : c.CarriesHost self) :
    (c.operation self).Asks fun e => get_target_motor_id e.frame = self.config_.motor_id ∧
      get_host_id e.frame = self.config_.host_id := by
  apply Command.operation_asks_of
  · intro e he htype
    refine ⟨he.addressed, ?_⟩
    cases he with
    | motion torque position velocity kp kd =>
      exact absurd (get_comm_type_make_id _ _ _ _ _) htype
    | _ => exact (get_host_id_make_id _ _ _ _ _).trans (toUInt16_toUInt8 _)
  · rintro torque position velocity kp kd rfl
    exact ⟨get_target_motor_id_make_id _ _ _ _ _, (get_host_id_make_id _ _ _ _ _).trans hc⟩

/-- **An operation that carries the host id** keeps queue and cache addressed, and so is
the feedback it returns. -/
theorem Command.run_addressed {c : Command D} (hc : c.CarriesHost self)
    {st : Session (StubBus D) D} (h : Addressed self st) :
    Addressed self (c.run (stub_bus timing) self st).2 ∧
      ∀ fb, (c.run (stub_bus timing) self st).1 = .ok (.feedback fb) → fb.To self := by
  have hafter : Addressed self (c.run (stub_bus timing) self st).2 :=
    Dialogue.run_invariant (fun _ _ he hst => exchange_addressed he.2 hst)
      (Command.asks_for_host hc) h
  refine ⟨hafter, fun fb hfb => hafter.2 fb ?_⟩
  -- what is returned has been cached
  exact c.feedback_ensures (I := fun _ => True) (fun _ _ _ _ => trivial)
    (fun frame _ => transceive_feedback_cached frame) st _ _ trivial (Prod.ext hfb rfl) fb rfl

/-- In time, the feedback of an exchange is for the host that data area 2 names. -/
theorem transceive_feedback_host (htiming : InTime timing self.config_.timeout_ns)
    {frame : CanFrame} (he : Issued self ⟨frame, .Feedback⟩) {st : Session (StubBus D) D}
    (hquiet : Quiet st) :
    ∃ fb st', Dialogue.run (self.exchange (stub_bus timing)) (self.transceive_feedback frame) st
        = (.ok fb, st') ∧ fb.host_id = get_host_id frame := by
  obtain ⟨answer, st', hrun, hanswers, hdlc, hqueue, -⟩ := transceive_stub_session htiming he hquiet
  obtain ⟨fb, hparse⟩ := parse_feedback_of hanswers.2 hdlc self.limits_
  refine ⟨fb, st', run_transceive_feedback_ok.mpr ⟨answer, hrun, hparse⟩, ?_⟩
  obtain ⟨htype, hid⟩ := parse_feedback_host_id hparse
  have hmem : answer ∈ st.can.stub.answers (timing (st.can.exchanges + 1) 0) frame :=
    hqueue ▸ List.mem_singleton_self answer
  obtain ⟨hfor, hfrom⟩ := answers_addresses hmem
  rw [hid, hfor hfrom htype]

/-- So an operation in time that returns feedback for the driver's host carries its id. -/
theorem Command.carries_of_addressed (htiming : InTime timing self.config_.timeout_ns)
    {c : Command D} {st : Session (StubBus D) D} (hquiet : Quiet st)
    (h : ∀ fb, (c.run (stub_bus timing) self st).1 = .ok (.feedback fb) → fb.To self) :
    c.CarriesHost self := by
  cases c with
  | send_motion_command torque position velocity kp kd =>
    obtain ⟨fb, st', hrun, hhost⟩ :=
      transceive_feedback_host htiming (.motion torque position velocity kp kd) hquiet
    have hreturn : (Command.send_motion_command torque position velocity kp kd).run
        (stub_bus timing) self st = (.ok (.feedback fb), st') :=
      Dialogue.run_bind_eq_ok.mpr ⟨fb, st', hrun, rfl⟩
    have hto := h fb (congrArg Prod.fst hreturn)
    rw [make_motion_control_frame, get_host_id_make_id] at hhost
    exact hhost.symm.trans hto.2
  | _ => trivial

end Session

/-! ## The fleet -/

section Fleet

variable {ι D : Type} [DecidableEq ι] [Add D] [Sub D] [Mul D] [Div D] [Neg D] [NatCast D]
  [IntCast D] [LT D] [DecidableLT D] [DoubleMath D] [FloatConv D]

/-- Every cached feedback, and the feedback the operation returned, is of the driver's
motor and for the driver's host. -/
def Event.Addressed (motors : ι → RobstrideMotor D) (event : Event ι D) : Prop :=
  (∀ i fb, event.after.last_feedback_ i = some fb → fb.To (motors i)) ∧
    ∀ i c timing fb, event.action = .command i c timing →
      event.outcome = some (.ok (.feedback fb)) → fb.To (motors i)

def Action.CarriesHost (motors : ι → RobstrideMotor D) : Action ι D → Prop
  | command i c _ => c.CarriesHost (motors i)
  | _ => True

/-- The condition on a step: the operation carries the host id, and no feedback of its
motor for another host is left in the queue it finds. -/
def Action.Meets (motors : ι → RobstrideMotor D) (action : Action ι D) (fleet : Fleet ι D) : Prop :=
  match action with
  | command i c _ => c.CarriesHost (motors i) ∧ ∀ f ∈ fleet.can.stub.responses_,
      ForHost (motors i).config_.motor_id (motors i).config_.host_id f
  | _ => True

/-- Every step of a run meets it. -/
def AllMeet (motors : ι → RobstrideMotor D) : List (Action ι D) → Fleet ι D → Prop
  | [], _ => True
  | action :: actions, fleet =>
    action.Meets motors fleet ∧ AllMeet motors actions (action.run motors fleet).after

variable {motors : ι → RobstrideMotor D}

/-- The step lemma: an action that meets the condition is addressed in all it returns and leaves. -/
theorem Action.run_addressed {action : Action ι D} {fleet : Fleet ι D}
    (hmeets : action.Meets motors fleet)
    (hcaches : ∀ i fb, fleet.last_feedback_ i = some fb → fb.To (motors i)) :
    (action.run motors fleet).Addressed motors := by
  cases action with
  | command i c timing =>
    have hst : Robstride.Addressed (motors i)
        ⟨fleet.last_feedback_ i, { fleet.can with exchanges := 0 }⟩ := ⟨hmeets.2, hcaches i⟩
    obtain ⟨hafter, hreturn⟩ :
        Robstride.Addressed (motors i) (c.run (stub_bus timing) (motors i) _).2 ∧ _ :=
      Command.run_addressed hmeets.1 hst
    constructor
    · intro j fb hfb
      unfold Action.run at hfb
      dsimp only at hfb
      by_cases hj : j = i
      · subst hj
        rw [Function.update_self] at hfb
        exact hafter.2 fb hfb
      · rw [Function.update_of_ne hj] at hfb
        exact hcaches j fb hfb
    · intro j d timing' fb haction houtcome
      obtain ⟨rfl, -, -⟩ := Action.command.inj haction
      exact hreturn fb (Option.some.inj houtcome)
  | set_temperature temperature => exact ⟨hcaches, fun _ _ _ _ h => nomatch h⟩
  | set_fault_bits motor_id fault_bits => exact ⟨hcaches, fun _ _ _ _ h => nomatch h⟩

/-- The run lemma: in a run whose actions each meet the condition in the state before them, every
event is addressed. -/
theorem fleet_session_addressed {actions : List (Action ι D)} {fleet : Fleet ι D}
    (hmeets : AllMeet motors actions fleet)
    (hcaches : ∀ i fb, fleet.last_feedback_ i = some fb → fb.To (motors i)) :
    ∀ event ∈ fleet_session motors actions fleet, event.Addressed motors := by
  induction actions generalizing fleet with
  | nil => exact fun event h => nomatch h
  | cons action actions ih =>
    have hstep := Action.run_addressed hmeets.1 hcaches
    intro event hevent
    rcases List.mem_cons.mp hevent with rfl | hevent
    · exact hstep
    · exact ih hmeets.2 hstep.1 event hevent

/-- Where the drivers of a motor agree on the host, the queue takes care of itself. -/
theorem all_meet_of_agree
    (hagree : ∀ i j, (motors i).config_.motor_id = (motors j).config_.motor_id →
      (motors i).config_.host_id = (motors j).config_.host_id)
    {actions : List (Action ι D)} (hcarries : ∀ action ∈ actions, action.CarriesHost motors)
    {fleet : Fleet ι D}
    (hqueue : ∀ i, ∀ f ∈ fleet.can.stub.responses_,
      ForHost (motors i).config_.motor_id (motors i).config_.host_id f) :
    AllMeet motors actions fleet := by
  induction actions generalizing fleet with
  | nil => trivial
  | cons action actions ih =>
    have hfirst := hcarries action List.mem_cons_self
    have hrest : ∀ a ∈ actions, a.CarriesHost motors :=
      fun a ha => hcarries a (List.mem_cons_of_mem _ ha)
    cases action with
    | command i c timing =>
      refine ⟨⟨hfirst, hqueue i⟩, ih hrest fun j => ?_⟩
      -- what `i` sends is for the host of every driver of that motor
      refine Dialogue.run_invariant (I := fun st : Session (StubBus D) D =>
        ∀ f ∈ st.can.stub.responses_,
          ForHost (motors j).config_.motor_id (motors j).config_.host_id f) ?_
        (Command.asks_for_host hfirst) (hqueue j)
      intro e st he hst
      exact exchange_queue (fun hj => he.2.trans (hagree i j (he.1.symm.trans hj))) hst
    | set_temperature temperature => exact ⟨trivial, ih hrest hqueue⟩
    | set_fault_bits motor_id fault_bits => exact ⟨trivial, ih hrest hqueue⟩

/-- In time, the queue is empty whenever an operation starts. -/
theorem all_meet_of_in_time {actions : List (Action ι D)}
    (hintime : ∀ action ∈ actions, action.InTime motors)
    (hcarries : ∀ action ∈ actions, action.CarriesHost motors) {fleet : Fleet ι D}
    (hquiet : fleet.can.stub.responses_ = []) : AllMeet motors actions fleet := by
  induction actions generalizing fleet with
  | nil => trivial
  | cons action actions ih =>
    have hafter := (Action.run_answered (hintime action List.mem_cons_self) hquiet).1
    refine ⟨?_, ih (fun a ha => hintime a (List.mem_cons_of_mem _ ha))
      (fun a ha => hcarries a (List.mem_cons_of_mem _ ha)) hafter⟩
    have hfirst := hcarries action List.mem_cons_self
    cases action with
    | command i c timing =>
      refine ⟨hfirst, fun f hf => ?_⟩
      rw [hquiet] at hf
      exact absurd hf List.not_mem_nil
    | _ => trivial

/-- In time, a run of addressed events is one of commands that carry the host id. -/
theorem carries_of_addressed {actions : List (Action ι D)}
    (hintime : ∀ action ∈ actions, action.InTime motors) {fleet : Fleet ι D}
    (hquiet : fleet.can.stub.responses_ = [])
    (h : ∀ event ∈ fleet_session motors actions fleet, event.Addressed motors) :
    ∀ action ∈ actions, action.CarriesHost motors := by
  induction actions generalizing fleet with
  | nil => exact fun action haction => nomatch haction
  | cons action actions ih =>
    have hfirst := hintime action List.mem_cons_self
    have hafter := (Action.run_answered hfirst hquiet).1
    have hevent := h _ List.mem_cons_self
    intro a ha
    rcases List.mem_cons.mp ha with rfl | ha
    · cases a with
      | command i c timing =>
        have hst : Quiet (⟨fleet.last_feedback_ i, { fleet.can with exchanges := 0 }⟩ :
            Session (StubBus D) D) := hquiet
        apply Command.carries_of_addressed hfirst hst
        exact fun fb hfb => hevent.2 i c timing fb rfl (congrArg some hfb)
      | _ => trivial
    · exact ih (fun b hb => hintime b (List.mem_cons_of_mem _ hb)) hafter
        (fun event he => h event (List.mem_cons_of_mem _ he)) a ha

/-- **Whom the simulator answers.** In every run from a new simulation whose steps all
meet the condition, all feedback is addressed to its requester. The queue's part of the
condition is met wherever the drivers of one motor agree on the host, be the operations
in time or not. And a run in time is addressed exactly if every command carries the host
id. -/
theorem answers_addressed (motors : ι → RobstrideMotor D) (pi : D) (actuator_type : ActuatorType)
    (stub : StubCanInterface D) (hfresh : StubCanInterface.make pi actuator_type = .ok stub) :
    (∀ actions, AllMeet motors actions ⟨fun _ => none, { stub := stub }⟩ →
      ∀ event ∈ fleet_session motors actions ⟨fun _ => none, { stub := stub }⟩,
        event.Addressed motors) ∧
      ((∀ i j, (motors i).config_.motor_id = (motors j).config_.motor_id →
          (motors i).config_.host_id = (motors j).config_.host_id) →
        ∀ actions, (∀ action ∈ actions, action.CarriesHost motors) →
          AllMeet motors actions ⟨fun _ => none, { stub := stub }⟩) ∧
      ∀ actions, (∀ action ∈ actions, action.InTime motors) →
        ((∀ event ∈ fleet_session motors actions ⟨fun _ => none, { stub := stub }⟩,
            event.Addressed motors) ↔
          ∀ action ∈ actions, action.CarriesHost motors) := by
  have hquiet := StubCanInterface.responses_of_make hfresh
  have hcaches : ∀ (i : ι) (fb : Feedback D), (fun _ => none) i = some fb → fb.To (motors i) :=
    fun i fb h => nomatch h
  refine ⟨fun actions hmeets => fleet_session_addressed hmeets hcaches,
    fun hagree actions hcarries => all_meet_of_agree hagree hcarries fun i f hf => ?_,
    fun actions hintime => ⟨fun h => carries_of_addressed hintime hquiet h, fun hcarries => ?_⟩⟩
  · have hnil : f ∈ stub.responses_ := hf
    rw [hquiet] at hnil
    exact absurd hnil List.not_mem_nil
  · exact fleet_session_addressed (all_meet_of_in_time hintime hcarries hquiet) hcaches

end Fleet

namespace fixtures

/-- The single motor, enabled and then sent a motion command. -/
def motion (torque : ℚ) : List (Action Unit ℚ) :=
  [.command () .enable fun _ reading => reading,
    .command () (.send_motion_command torque 0 0 0 0) fun _ reading => 20 + reading]

theorem motion_in_time (torque : ℚ) :
    ∀ action ∈ motion torque, action.InTime fun _ => single := by
  have hclock : ∀ start : ℤ, InTime (fun _ reading => start + reading) single.config_.timeout_ns :=
    InTime.ticking (by decide)
  intro action haction
  simp only [motion, List.mem_cons, List.not_mem_nil, or_false] at haction
  rcases haction with rfl | rfl
  · exact hclock 0
  · exact hclock 20

end fixtures

/-- A torque of 0.1315 Nm has code `0x80FD`, which ends in the host id `0xFD`. -/
theorem answers_addressed_motion :
    ∃ stub, StubCanInterface.make (22 / 7 : ℚ) .Rs02 = .ok stub ∧
      AllMeet (fun _ => fixtures.single) (fixtures.motion (263 / 2000))
        ⟨fun _ => none, { stub := stub }⟩ ∧
      ∀ event ∈ fleet_session (fun _ => fixtures.single) (fixtures.motion (263 / 2000))
          ⟨fun _ => none, { stub := stub }⟩,
        event.Addressed fun _ => fixtures.single := by
  have hcarries : ∀ action ∈ fixtures.motion (263 / 2000),
      action.CarriesHost fun _ => fixtures.single := by
    intro action haction
    simp only [fixtures.motion, List.mem_cons, List.not_mem_nil, or_false] at haction
    rcases haction with rfl | rfl
    · exact True.intro
    · change (float_to_uint (263 / 2000 : ℚ) (-17) 17).toUInt8 = 0xFD
      decide +kernel
  obtain ⟨-, hmeets, hintime⟩ := answers_addressed (fun _ : Unit => fixtures.single)
    (22 / 7 : ℚ) .Rs02 _ (show StubCanInterface.make (22 / 7 : ℚ) .Rs02 = .ok _ from rfl)
  exact ⟨_, rfl, hmeets (fun _ _ _ => rfl) _ hcarries,
    (hintime _ (fixtures.motion_in_time (263 / 2000))).mpr hcarries⟩

/-- A torque of zero has code `0x8000`: the feedback is for host `0x00`. -/
theorem motion_answer_misaddressed :
    ∃ stub, StubCanInterface.make (22 / 7 : ℚ) .Rs02 = .ok stub ∧
      ¬ ∀ event ∈ fleet_session (fun _ => fixtures.single) (fixtures.motion 0)
          ⟨fun _ => none, { stub := stub }⟩,
        event.Addressed fun _ => fixtures.single := by
  refine ⟨_, rfl, fun h => ?_⟩
  have hcarries := carries_of_addressed (fixtures.motion_in_time 0) rfl h _
    (List.mem_cons_of_mem _ List.mem_cons_self)
  have hcode : (float_to_uint (0 : ℚ) (-17) 17).toUInt8 ≠ 0xFD := by decide +kernel
  exact hcode hcarries

end Robstride
