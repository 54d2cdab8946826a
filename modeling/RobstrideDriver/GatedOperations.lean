/-
What an operation of several exchanges does when one of them goes wrong.

`set_run_mode`, `set_mechanical_zero`, `configure_velocity_mode` and
`send_position_csp_command` send two or three frames, and the order matters: the mode
must not be written, nor zero set, before the motor has confirmed that it stopped.
Nothing in the source says so but the exceptions: an exchange that is not answered
throws, and what comes after is not reached.

Every operation is a line of exchanges (`Command.line`), so the gate is the rule for
lines, and what is left is one wait: among the frames it receives the first that
answers the exchange ends it (`exchange_traced`). The record of frames is not in the
driver; as in `FeedbackCache.lean` it is put into the transport, which makes no
difference to the driver (`traced_run_alike`).
-/
import RobstrideDriver.FeedbackCache

set_option autoImplicit false

open CppArith

namespace Robstride

/-! ## The record -/

/-- What goes over the wire. -/
inductive Traffic where
  | sent (f : CanFrame)
  | received (f : CanFrame)
deriving DecidableEq, Repr

/-- A transport's state, and the frames handed to `send` and out of `receive` so far. -/
structure Traced (σ : Type*) where
  bus : σ
  log : List Traffic := []

def traced {σ : Type*} (can : CanInterface σ) : CanInterface (Traced σ) where
  send f s := ((can.send f s.bus).1, ⟨(can.send f s.bus).2, s.log ++ [.sent f]⟩)
  receive t s :=
    ((can.receive t s.bus).1,
      ⟨(can.receive t s.bus).2,
        s.log ++ (received_frame (can.receive t s.bus).1).map Traffic.received⟩)
  now s := ((can.now s.bus).1, { s with bus := (can.now s.bus).2 })
  backlog s := can.backlog s.bus
  now_backlog s := can.now_backlog s.bus
  receive_backlog := by
    intro t s f s' h
    obtain ⟨h₁, rfl⟩ := Prod.mk.inj h
    exact can.receive_backlog t s.bus f _ (Prod.ext h₁ rfl)

/-- A frame sent, and the frames received from then on until the next is sent. -/
structure Segment where
  step : Exchange
  received : List CanFrame
deriving DecidableEq, Repr

def Segment.traffic (s : Segment) : List Traffic :=
  .sent s.step.frame :: s.received.map .received

/-! ## The exchanges of an operation -/

section Steps

variable {D : Type} [Sub D] [Mul D] [Div D] [Neg D] [NatCast D]
  [LT D] [DecidableLT D] [DoubleMath D] [FloatConv D]

/-- The exchanges a command makes, in order, if all are answered. -/
def Command.steps (self : RobstrideMotor D) : Command D → List Exchange
  | enable => [⟨make_enable_frame self.config_.motor_id self.config_.host_id, .Feedback⟩]
  | disable clear_fault =>
    [⟨make_stop_frame self.config_.motor_id self.config_.host_id clear_fault, .Feedback⟩]
  | set_run_mode mode =>
    [⟨make_stop_frame self.config_.motor_id self.config_.host_id, .Feedback⟩,
      ⟨make_write_param_frame_uint8 self.config_.motor_id self.config_.host_id
        param_index.run_mode mode.raw, .Feedback⟩,
      ⟨make_read_param_frame self.config_.motor_id self.config_.host_id param_index.run_mode,
        .ReadParam⟩]
  | get_run_mode =>
    [⟨make_read_param_frame self.config_.motor_id self.config_.host_id param_index.run_mode,
      .ReadParam⟩]
  | configure_velocity_mode current_limit acceleration =>
    [⟨make_write_param_frame_float self.config_.motor_id self.config_.host_id
        param_index.limit_cur (FloatConv.toFloat current_limit), .Feedback⟩,
      ⟨make_write_param_frame_float self.config_.motor_id self.config_.host_id
        param_index.acc_rad (FloatConv.toFloat acceleration), .Feedback⟩]
  | send_velocity_command velocity =>
    [⟨make_write_param_frame_float self.config_.motor_id self.config_.host_id
      param_index.spd_ref (FloatConv.toFloat velocity), .Feedback⟩]
  | send_position_csp_command position speed_limit =>
    [⟨make_write_param_frame_float self.config_.motor_id self.config_.host_id
        param_index.limit_spd (FloatConv.toFloat speed_limit), .Feedback⟩,
      ⟨make_write_param_frame_float self.config_.motor_id self.config_.host_id
        param_index.loc_ref (FloatConv.toFloat position), .Feedback⟩]
  | send_motion_command torque position velocity kp kd =>
    [⟨make_motion_control_frame self.config_.motor_id torque position velocity kp kd
      self.limits_, .Feedback⟩]
  | set_mechanical_zero =>
    [⟨make_stop_frame self.config_.motor_id self.config_.host_id, .Feedback⟩,
      ⟨make_set_mechanical_zero_frame self.config_.motor_id self.config_.host_id, .Feedback⟩]
  | read_param_float index =>
    [⟨make_read_param_frame self.config_.motor_id self.config_.host_id index, .ReadParam⟩]
  | read_param_uint8 index =>
    [⟨make_read_param_frame self.config_.motor_id self.config_.host_id index, .ReadParam⟩]
  | write_param_float index value =>
    [⟨make_write_param_frame_float self.config_.motor_id self.config_.host_id index value,
      .Feedback⟩]
  | write_param_uint8 index value =>
    [⟨make_write_param_frame_uint8 self.config_.motor_id self.config_.host_id index value,
      .Feedback⟩]

/-- What a command demands of its last answer beyond being one. -/
def Command.verifies : Command D → CanFrame → Prop
  | set_run_mode mode, f => frame_uint8 f = mode.raw
  | _, _ => True

/-- A full frame of the type an exchange expects. -/
def Exchange.Accepts (e : Exchange) (f : CanFrame) : Prop :=
  get_comm_type f = e.expected_type.code ∧ 8 ≤ f.dlc

/-- Since the frame was sent, an answer of full length was received. -/
def Segment.Answered (self : RobstrideMotor D) (s : Segment) : Prop :=
  ∃ f ∈ s.received, self.Answers s.step.expected_type f ∧ 8 ≤ f.dlc

/-- What an operation leaves on the wire: the first of its steps, each but the last of
them answered; of the frames received after a step only the last can be its answer; and
the operation returns when every step was taken and answered, and the last answer is
what it ought to be. -/
structure Gated (self : RobstrideMotor D) (c : Command D) (segments : List Segment)
    (returned : Prop) : Prop where
  steps : segments.map Segment.step <+: c.steps self
  gate : ∀ s ∈ segments.dropLast, s.Answered self
  first : ∀ s ∈ segments, ∀ f ∈ s.received.dropLast, ¬ self.Answers s.step.expected_type f
  returns : returned ↔ segments.map Segment.step = c.steps self ∧
    (∀ s ∈ segments, s.Answered self) ∧
      ∀ s ∈ segments.getLast?, ∀ f ∈ s.received, self.Answers s.step.expected_type f → c.verifies f

end Steps

/-! ## Operations are lines -/

section Lines

variable {D : Type} [Add D] [Sub D] [Mul D] [Div D] [Neg D] [NatCast D]
  {self : RobstrideMotor D}

/-- A feedback exchange, unfolded: one exchange, and the parsing of its answer. -/
theorem transceive_feedback_eq (frame : CanFrame) :
    self.transceive_feedback frame = .ask ⟨frame, .Feedback⟩ fun r =>
      match parse_feedback r self.limits_ with
      | some fb => .done fb
      | none => .fail (.runtime_error "robstride: malformed feedback frame") := rfl

/-- An answer that is accepted for feedback parses as feedback. -/
theorem parse_feedback_accepted {frame r : CanFrame} (limits : ActuatorLimits D)
    (h : Exchange.Accepts ⟨frame, .Feedback⟩ r) : ∃ fb, parse_feedback r limits = some fb :=
  Option.isSome_iff_exists.mp (parse_feedback_isSome h.1 h.2)

/-- A feedback exchange at the front of a line: what comes after it is reached when its answer is
accepted. -/
theorem feedback_step {α : Type} {check : CanFrame → Prop} {rs : List Exchange}
    {f : Feedback D → Operation α} (frame : CanFrame)
    (hf : ∀ fb, Dialogue.Line Exchange.Accepts check rs (f fb)) :
    Dialogue.Line Exchange.Accepts check (⟨frame, .Feedback⟩ :: rs)
      (self.transceive_feedback frame >>= f) := by
  rw [transceive_feedback_eq, Dialogue.ask_bind]
  refine .step (fun r hr => ?_) fun r hr => ?_
  · obtain ⟨fb, hfb⟩ := parse_feedback_accepted self.limits_ hr
    rw [hfb]
    exact hf fb
  · rw [parse_feedback_eq_none_of_not hr]
    exact ⟨_, rfl⟩

/-- A feedback exchange as the last one of a line: it returns when its answer is accepted. -/
theorem feedback_last (frame : CanFrame) :
    Dialogue.Line Exchange.Accepts (fun _ => True) [⟨frame, .Feedback⟩]
      (self.transceive_feedback frame) := by
  rw [transceive_feedback_eq]
  refine .last (fun r hr _ => ?_) fun r hr => ?_
  · obtain ⟨fb, hfb⟩ := parse_feedback_accepted self.limits_ hr
    rw [hfb]
    exact ⟨fb, rfl⟩
  · rw [parse_feedback_eq_none_of_not fun h => hr ⟨h, trivial⟩]
    exact ⟨_, rfl⟩

omit [Add D] [Sub D] [Mul D] [Div D] [Neg D] [NatCast D] in
/-- A parameter read, unfolded: one exchange, and the parsing of its answer. -/
theorem read_param_eq {α : Type} (index : UInt16) (field : ParamResponse → α) :
    self.read_param index field
      = .ask ⟨make_read_param_frame self.config_.motor_id self.config_.host_id index, .ReadParam⟩
        fun r => parse_param_response_or_throw r >>= fun response => .done (field response) := rfl

/-- An answer that is accepted for a read parses, into the motor that sent it, its index and its
value. -/
theorem parse_param_response_accepted {frame r : CanFrame}
    (h : Exchange.Accepts ⟨frame, .ReadParam⟩ r) :
    parse_param_response_or_throw r
      = .done ⟨get_source_motor_id r, frame_index r, frame_value r⟩ := by
  rw [parse_param_response_or_throw, parse_param_response_of h.1 (UInt8.not_lt.mpr h.2)]

/-- Any other ends the operation with an exception. -/
theorem parse_param_response_refused {frame r : CanFrame}
    (h : ¬ Exchange.Accepts ⟨frame, .ReadParam⟩ r) :
    ∃ e, parse_param_response_or_throw r = .fail e := by
  have hnone : parse_param_response r = none := by
    rw [parse_param_response]
    by_cases htype : get_comm_type r = CommType.ReadParam.code
    · have hdlc : r.dlc < 8 := UInt8.not_le.mp fun hge => h ⟨htype, hge⟩
      rw [if_neg (not_not.mpr htype), if_pos hdlc]
    · rw [if_pos htype]
  rw [parse_param_response_or_throw, hnone]
  exact ⟨_, rfl⟩

omit [Add D] [Sub D] [Mul D] [Div D] [Neg D] [NatCast D] in
/-- A read, and a program that looks at the value and returns where `check` holds. -/
theorem read_last {α β : Type} {check : CanFrame → Prop} (index : UInt16)
    (field : ParamResponse → α) (f : α → Operation β)
    (hpass : ∀ r, check r →
      ∃ b, f (field ⟨get_source_motor_id r, frame_index r, frame_value r⟩) = .done b)
    (hfail : ∀ r, ¬ check r →
      ∃ e, f (field ⟨get_source_motor_id r, frame_index r, frame_value r⟩) = .fail e) :
    Dialogue.Line Exchange.Accepts check
      [⟨make_read_param_frame self.config_.motor_id self.config_.host_id index, .ReadParam⟩]
      (self.read_param index field >>= f) := by
  rw [read_param_eq, Dialogue.ask_bind]
  refine .last (fun r hr hcheck => ?_) fun r hr => ?_
  · rw [parse_param_response_accepted hr]
    exact hpass r hcheck
  · by_cases haccepts : Exchange.Accepts
      ⟨make_read_param_frame self.config_.motor_id self.config_.host_id index, .ReadParam⟩ r
    · rw [parse_param_response_accepted haccepts]
      exact hfail r fun hcheck => hr ⟨haccepts, hcheck⟩
    · obtain ⟨e, he⟩ := parse_param_response_refused haccepts
      rw [he]
      exact ⟨e, rfl⟩

omit [Add D] [Sub D] [Mul D] [Div D] [Neg D] [NatCast D] in
/-- A read as the last exchange of a line, where nothing is asked of the value. -/
theorem read_done {α β : Type} (index : UInt16) (field : ParamResponse → α) (g : α → β) :
    Dialogue.Line Exchange.Accepts (fun _ => True)
      [⟨make_read_param_frame self.config_.motor_id self.config_.host_id index, .ReadParam⟩]
      (self.read_param index field >>= fun a => .done (g a)) :=
  read_last index field _ (fun _ _ => ⟨_, rfl⟩) fun _ h => absurd trivial h

omit [Add D] [Sub D] [Mul D] [Div D] [Neg D] [NatCast D] in
/-- The read-back of `set_run_mode`, and its comparison: it returns exactly if the mode in the
answer is the one that was requested. -/
theorem verify_last {α : Type} (mode : RunMode) (e : RunMode → Exception) (a : α) :
    Dialogue.Line Exchange.Accepts (fun f => frame_uint8 f = mode.raw)
      [⟨make_read_param_frame self.config_.motor_id self.config_.host_id param_index.run_mode,
        .ReadParam⟩]
      (self.get_run_mode >>= fun actual =>
        if actual ≠ mode then .fail (e actual) else .done a) := by
  rw [RobstrideMotor.get_run_mode, read_param_uint8_eq, Dialogue.bind_assoc]
  refine read_last _ _ _ (fun r hr => ?_) fun r hr => ?_
  · have hmode : (⟨r.data[4]⟩ : RunMode) = mode := congrArg RunMode.mk hr
    exact ⟨a, if_neg (not_not.mpr hmode)⟩
  · have hmode : (⟨r.data[4]⟩ : RunMode) ≠ mode := fun h => hr (congrArg RunMode.raw h)
    exact ⟨_, if_pos hmode⟩

variable [LT D] [DecidableLT D] [DoubleMath D] [FloatConv D]

/-- **Every command is a line of its steps**: it asks for them in order, each after the answer to
the one before was accepted. -/
theorem Command.line (self : RobstrideMotor D) (c : Command D) :
    Dialogue.Line Exchange.Accepts c.verifies (c.steps self) (c.operation self) := by
  cases c with
  | enable => exact (feedback_last _).map _
  | disable clear_fault => exact (feedback_last _).map _
  | set_run_mode mode =>
    exact (feedback_step _ fun _ => feedback_step _ fun _ => verify_last mode _ ()).map _
  | get_run_mode => exact (read_done _ _ _).map _
  | configure_velocity_mode current_limit acceleration =>
    exact (feedback_step _ fun _ => (feedback_last _).map _).map _
  | send_velocity_command velocity => exact (feedback_last _).map _
  | send_position_csp_command position speed_limit =>
    exact (feedback_step _ fun _ => feedback_last _).map _
  | send_motion_command torque position velocity kp kd => exact (feedback_last _).map _
  | set_mechanical_zero => exact (feedback_step _ fun _ => (feedback_last _).map _).map _
  | read_param_float index => exact read_done index _ _
  | read_param_uint8 index => exact read_done index _ _
  | write_param_float index value => exact (feedback_last _).map _
  | write_param_uint8 index value => exact (feedback_last _).map _

end Lines

/-! ## One exchange on the record -/

section Wait

variable {σ : Type*} {D : Type} {can : CanInterface σ} {self : RobstrideMotor D} {type : CommType}

/-- What a wait has received when it comes to `outcome`: frames that are no answer, and
behind them the answer if it returns one. -/
def Waited (self : RobstrideMotor D) (type : CommType) (outcome : Except Exception CanFrame)
    (received : List CanFrame) : Prop :=
  ∃ skipped, (∀ f ∈ skipped, ¬ self.Answers type f) ∧
    received = skipped ++ outcome.toOption.toList ∧ ∀ r, outcome = .ok r → self.Answers type r

/-- One more frame in front that is no answer, which the wait skips or caches. -/
theorem Waited.cons {outcome : Except Exception CanFrame} {received : List CanFrame}
    {f : CanFrame} (h : Waited self type outcome received) (hf : ¬ self.Answers type f) :
    Waited self type outcome (f :: received) := by
  obtain ⟨skipped, hskipped, rfl, hok⟩ := h
  exact ⟨f :: skipped, List.forall_mem_cons.mpr ⟨hf, hskipped⟩, rfl, hok⟩

/-- A wait that ends without an answer has received none that was one. -/
theorem Waited.error (e : Exception) : Waited self type (.error e) [] :=
  ⟨[], by simp, rfl, by simp⟩

/-- The recorder adds what `receive` returned, and nothing if that was no frame. -/
theorem receive_traced {t : ℕ} {s s' : Traced σ} {r : Except Exception (Option CanFrame)}
    (h : (traced can).receive t s = (r, s')) :
    s'.log = s.log ++ (received_frame r).map Traffic.received := by
  obtain ⟨rfl, rfl⟩ := Prod.mk.inj h
  rfl

variable [Add D] [Sub D] [Mul D] [Div D] [Neg D] [NatCast D]

variable (can self type) in
/-- A wait on the record: what was received in it are frames that are no answer and, if it returned,
the answer behind them. -/
theorem transceive_loop_traced (deadline : ℤ) (st : Session (Traced σ) D) :
    ∃ received, Waited self type (self.transceive_loop (traced can) type deadline st).1 received ∧
      (self.transceive_loop (traced can) type deadline st).2.can.log
        = st.can.log ++ received.map Traffic.received := by
  induction st using RobstrideMotor.transceive_loop.induct (traced can) self type deadline with
  | case1 st hd =>
    rw [RobstrideMotor.transceive_loop_expired hd]
    exact ⟨[], .error _, by simp [traced]⟩
  | case2 st hd e s hr =>
    rw [RobstrideMotor.transceive_loop_error hd hr]
    exact ⟨[], .error _, receive_traced hr⟩
  | case3 st hd s hr =>
    rw [RobstrideMotor.transceive_loop_nullopt hd hr]
    exact ⟨[], .error _, receive_traced hr⟩
  | case4 st hd f s hr hs ih =>
    -- a frame of another motor
    obtain ⟨received, hwaited, hlog⟩ := ih
    rw [RobstrideMotor.transceive_loop_foreign hd hr hs]
    refine ⟨f :: received, hwaited.cons fun h => hs h.1, hlog.trans ?_⟩
    simp [receive_traced hr, received_frame, traced]
  | case5 st hd f s hr hs ht =>
    rw [RobstrideMotor.transceive_loop_match hd hr (not_not.mp hs) ht]
    refine ⟨[f], ⟨[], by simp, rfl, ?_⟩, receive_traced hr⟩
    intro r h
    obtain rfl := Except.ok.inj h
    exact ⟨not_not.mp hs, ht⟩
  | case6 st hd f s hr hs ht ih =>
    -- one of another type
    obtain ⟨received, hwaited, hlog⟩ := ih
    rw [RobstrideMotor.transceive_loop_other hd hr (not_not.mp hs) ht]
    refine ⟨f :: received, hwaited.cons fun h => ht h.2, hlog.trans ?_⟩
    simp [receive_traced hr, received_frame, traced]

variable (can self) in
/-- **One exchange on the record**: the frame sent, then what its wait received. -/
theorem exchange_traced (e : Exchange) (st : Session (Traced σ) D) :
    ∃ received, Waited self e.expected_type (self.exchange (traced can) e st).1 received ∧
      (self.exchange (traced can) e st).2.can.log
        = st.can.log ++ Segment.traffic ⟨e, received⟩ := by
  have hsend : ((traced can).send e.frame st.can).2.log = st.can.log ++ [.sent e.frame] := rfl
  rw [RobstrideMotor.exchange]
  rcases self.transceive_cases (traced can) e.expected_type st e.frame with
    ⟨err, s, hs, heq⟩ | ⟨s, hs, heq⟩
  · rw [hs] at hsend
    rw [heq]
    exact ⟨[], .error err, hsend⟩
  · rw [hs] at hsend
    rw [heq]
    obtain ⟨received, hwaited, hlog⟩ := transceive_loop_traced can self e.expected_type
      (((traced can).now s).1 + self.config_.timeout_ns) { st with can := ((traced can).now s).2 }
    refine ⟨received, hwaited, hlog.trans ?_⟩
    have hnow : ((traced can).now s).2.log = st.can.log ++ [.sent e.frame] := hsend
    simp [hnow, Segment.traffic]

/-! ## A whole operation -/

/-- The segment of a turn, read off the record. -/
def segment (t : Dialogue.Turn Exchange CanFrame Exception (Session (Traced σ) D)) : Segment where
  step := t.request
  received := (t.after.can.log.drop (t.before.can.log.length + 1)).filterMap fun
    | .sent _ => none
    | .received f => some f

/-- A turn of a run over the recording transport. -/
def OnRecord (self : RobstrideMotor D)
    (t : Dialogue.Turn Exchange CanFrame Exception (Session (Traced σ) D)) : Prop :=
  Waited self t.request.expected_type t.reply (segment t).received ∧
    t.after.can.log.drop t.before.can.log.length = (segment t).traffic

/-- An exchange of the recorded transport is on the record. -/
theorem onRecord_of_exchange
    {t : Dialogue.Turn Exchange CanFrame Exception (Session (Traced σ) D)}
    (h : self.exchange (traced can) t.request t.before = (t.reply, t.after)) :
    OnRecord self t := by
  obtain ⟨received, hwaited, hlog⟩ := exchange_traced can self t.request t.before
  rw [h] at hwaited hlog
  have hdrop : t.after.can.log.drop t.before.can.log.length
      = Segment.traffic ⟨t.request, received⟩ := by
    rw [hlog, List.drop_left]
  have hsegment : segment t = ⟨t.request, received⟩ := by
    have hrest : t.after.can.log.drop (t.before.can.log.length + 1)
        = received.map Traffic.received := by
      rw [← List.drop_drop, hdrop, Segment.traffic, List.drop_one, List.tail_cons]
    rw [segment, hrest, List.filterMap_map]
    simp
  rw [OnRecord, hsegment]
  exact ⟨hwaited, hdrop⟩

omit [Add D] [Sub D] [Mul D] [Div D] [Neg D] [NatCast D] in
/-- The answers of a wait are what it returned, and so none if it threw. -/
theorem Waited.answers_iff {outcome : Except Exception CanFrame} {received : List CanFrame}
    (h : Waited self type outcome received) (f : CanFrame) :
    f ∈ received ∧ self.Answers type f ↔ outcome = .ok f := by
  obtain ⟨skipped, hskipped, rfl, hok⟩ := h
  constructor
  · rintro ⟨hf, hanswers⟩
    rcases List.mem_append.mp hf with hf | hf
    · exact absurd hanswers (hskipped f hf)
    · cases outcome with
      | error e => cases hf
      | ok r =>
        obtain rfl := List.mem_singleton.mp hf
        rfl
  · rintro rfl
    exact ⟨List.mem_append_right _ List.mem_cons_self, hok f rfl⟩

omit [Add D] [Sub D] [Mul D] [Div D] [Neg D] [NatCast D] in
/-- What comes before the last frame of a wait is no answer. -/
theorem Waited.dropLast {outcome : Except Exception CanFrame} {received : List CanFrame}
    (h : Waited self type outcome received) : ∀ f ∈ received.dropLast, ¬ self.Answers type f := by
  obtain ⟨skipped, hskipped, rfl, -⟩ := h
  intro f hf
  apply hskipped
  cases outcome with
  | error e =>
    have hmem := List.dropLast_subset _ hf
    simpa [Except.toOption] using hmem
  | ok r => simpa [Except.toOption] using hf

section Turns

variable {t : Dialogue.Turn Exchange CanFrame Exception (Session (Traced σ) D)}

omit [Add D] [Sub D] [Mul D] [Div D] [Neg D] [NatCast D] in
/-- In the traffic of an exchange there is an answer that is accepted just when its turn was
accepted. -/
theorem OnRecord.answered_iff (h : OnRecord self t) :
    (segment t).Answered self ↔ t.Accepted Exchange.Accepts := by
  constructor
  · rintro ⟨f, hf, hanswers, hdlc⟩
    exact ⟨f, (h.1.answers_iff f).mp ⟨hf, hanswers⟩, hanswers.2, hdlc⟩
  · rintro ⟨f, hf, -, hdlc⟩
    obtain ⟨hmem, hanswers⟩ := (h.1.answers_iff f).mpr hf
    exact ⟨f, hmem, hanswers, hdlc⟩

omit [Add D] [Sub D] [Mul D] [Div D] [Neg D] [NatCast D] in
/-- What is checked of the answers in the traffic is checked of the reply. -/
theorem OnRecord.check_iff (h : OnRecord self t) (check : CanFrame → Prop) :
    (∀ f ∈ (segment t).received, self.Answers (segment t).step.expected_type f → check f) ↔
      ∀ f, t.reply = .ok f → check f := by
  constructor
  · intro hcheck f hf
    obtain ⟨hmem, hanswers⟩ := (h.1.answers_iff f).mpr hf
    exact hcheck f hmem hanswers
  · intro hcheck f hf hanswers
    exact hcheck f ((h.1.answers_iff f).mp ⟨hf, hanswers⟩)

end Turns

variable [LT D] [DecidableLT D] [DoubleMath D] [FloatConv D]

variable (can self) in
/-- The recorder changes nothing: every command has the same outcome, cache and transport over the
recorded transport as over the bare one. -/
theorem traced_run_alike (c : Command D) (st : Session σ D) (log : List Traffic) :
    (c.run can self st).1 = (c.run (traced can) self ⟨st.last_feedback_, ⟨st.can, log⟩⟩).1 ∧
      RobstrideMotor.Alike (fun s s' => s = s'.bus) (c.run can self st).2
        (c.run (traced can) self ⟨st.last_feedback_, ⟨st.can, log⟩⟩).2 := by
  refine Dialogue.run_rel ?_ (Dialogue.Asks.trivial _) ⟨rfl, rfl⟩
  intro e st st' _ h
  refine RobstrideMotor.exchange_alike ?_ ?_ ?_ e h
  · rintro _ s rfl
    exact ⟨rfl, rfl⟩
  · rintro t _ s rfl
    exact ⟨rfl, rfl⟩
  · rintro f _ s rfl
    exact ⟨rfl, rfl⟩

omit [Add D] in
/-- The rule for lines, on the record: the turns of a line are the steps it has taken, each with the
traffic that answered it. -/
theorem gated_of_gates {c : Command D} {returned : Prop}
    {turns : List (Dialogue.Turn Exchange CanFrame Exception (Session (Traced σ) D))}
    (hrecord : ∀ t ∈ turns, OnRecord self t)
    (h : Dialogue.Gates Exchange.Accepts c.verifies (c.steps self) turns returned) :
    Gated self c (turns.map segment) returned := by
  have hsteps : (turns.map segment).map Segment.step = turns.map Dialogue.Turn.request := by
    rw [List.map_map]
    rfl
  refine ⟨by rw [hsteps]; exact h.requests, ?_, ?_, ?_⟩
  · rw [← List.map_dropLast, List.forall_mem_map]
    intro t ht
    exact (hrecord t (List.dropLast_subset _ ht)).answered_iff.mpr (h.gate t ht)
  · rw [List.forall_mem_map]
    exact fun t ht => (hrecord t ht).1.dropLast
  · rw [h.returns, hsteps, List.forall_mem_map, List.getLast?_map]
    refine and_congr_right fun _ => and_congr ?_ ?_
    · exact forall₂_congr fun t ht => (hrecord t ht).answered_iff.symm
    · cases hlast : turns.getLast? with
      | none => simp
      | some t =>
        have ht : OnRecord self t := hrecord t (List.mem_of_getLast? hlast)
        simpa using (ht.check_iff c.verifies).symm

/-- **Operations of several exchanges are gated.** Over any transport: what an operation
leaves on the wire is the first of its steps, each taken only after the one before was
answered, and it returns normally exactly when all were answered, and the mode read back
is the one requested. -/
theorem operation_gated (can : CanInterface σ) (self : RobstrideMotor D) (c : Command D)
    (st : Session σ D) :
    ∃ segments, (c.run (traced can) self ⟨st.last_feedback_, ⟨st.can, []⟩⟩).2.can.log
        = segments.flatMap Segment.traffic ∧
      Gated self c segments (∃ v, (c.run can self st).1 = .ok v) ∧
      (c.run can self st).1 = (c.run (traced can) self ⟨st.last_feedback_, ⟨st.can, []⟩⟩).1 ∧
      RobstrideMotor.Alike (fun s s' => s = s'.bus) (c.run can self st).2
        (c.run (traced can) self ⟨st.last_feedback_, ⟨st.can, []⟩⟩).2 := by
  have halike := traced_run_alike can self c st []
  let turns := Dialogue.transcript (self.exchange (traced can)) (c.operation self)
    ⟨st.last_feedback_, ⟨st.can, []⟩⟩
  have hrecord : ∀ t ∈ turns, OnRecord self t := by
    intro t ht
    obtain ⟨-, -, hturn⟩ := Dialogue.transcript_mem (I := fun _ => True)
      (fun _ _ _ _ => trivial) (Dialogue.Asks.trivial _) trivial ht
    exact onRecord_of_exchange hturn
  refine ⟨turns.map segment, ?_, ?_, halike⟩
  · -- the record grows by the segment of each turn
    have hgrows : ∀ e (st : Session (Traced σ) D),
        st.can.log <+: (self.exchange (traced can) e st).2.can.log := by
      intro e st
      obtain ⟨received, -, hlog⟩ := exchange_traced can self e st
      exact ⟨_, hlog.symm⟩
    have hlog := Dialogue.run_record (fun st : Session (Traced σ) D => st.can.log) hgrows
      (c.operation self) ⟨st.last_feedback_, ⟨st.can, []⟩⟩
    refine hlog.trans ?_
    rw [List.nil_append, List.flatMap_map]
    exact List.flatMap_congr fun t ht => (hrecord t ht).2
  · rw [halike.1]
    exact gated_of_gates hrecord ((c.line self).gates _ _)

end Wait

end Robstride
