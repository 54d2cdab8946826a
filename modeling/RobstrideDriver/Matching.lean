/-
What matching by motor id and communication type buys, and what it does not.

It buys isolation from other motors: a frame of another motor is dropped before
anything looks at it, so inserting or removing such frames anywhere in the
incoming stream changes nothing a caller can see (`foreign_frames_invisible`).

It does not tie a parameter answer to the read that asked for it. The answer
carries the index and the host it is meant for, `parse_param_response` even
decodes the index, but neither is compared with the request.
`read_param_correlated_iff` says exactly when a read is nevertheless right.
-/
import RobstrideDriver.ScriptedBus
import RobstrideDriver.Fixtures

set_option autoImplicit false

open CppArith

namespace Robstride

section ReadCorrelation

/-! ## Parameter reads -/

variable {D : Type} [Add D] [Sub D] [Mul D] [Div D] [Neg D] [NatCast D]

/-- Whenever the operation `op` returns normally from `st`, its value is the
field `field` of an answer received meanwhile: sent by this motor, of type
`ReadParam`, addressed to this host, and about parameter `index`. -/
def ReadCorrelated {α : Type} (clock : Clock) (self : RobstrideMotor D) (index : UInt16)
    (op : Operation α) (field : CanFrame → α) (st : Session Script D) : Prop :=
  ∀ v st', Dialogue.run (self.exchange (scripted clock)) op st = (.ok v, st') →
    ∃ f ∈ st'.can.received.drop st.can.received.length,
      self.Answers .ReadParam f ∧ get_target_motor_id f = self.config_.host_id ∧
        frame_index f = index ∧ v = field f

/-- If a `ReadParam` frame of this motor is what ends the wait, and it is not a
short one, then it is addressed to this host and about parameter `index`. -/
def OwnAnswerFirst (clock : Clock) (self : RobstrideMotor D) (index : UInt16)
    (st : Session Script D) : Prop :=
  ∀ pre f, self.AnsweredBy .ReadParam (st.can.late clock self.config_.timeout_ns)
      st.can.receipts pre f →
    ¬ f.dlc < 8 → get_target_motor_id f = self.config_.host_id ∧ frame_index f = index

/-- The frames of one exchange, read off the log: those that it received, as far as the answer. -/
theorem transceive_scripted_received {clock : Clock} {self : RobstrideMotor D}
    {expected_type : CommType} {frame r : CanFrame} {st st' : Session Script D}
    (h : self.transceive (scripted clock) frame expected_type st = (.ok r, st')) :
    ∃ pre, self.AnsweredBy expected_type (st.can.late clock self.config_.timeout_ns)
        st.can.receipts pre r ∧
      st'.can.received.drop st.can.received.length = pre ++ [r] := by
  obtain ⟨hreply, -, -, -, hrec, -⟩ := transceive_scripted self expected_type clock frame st
  rw [h] at hreply hrec
  obtain ⟨pre, hans, hpre⟩ := answeredBy_of_await hreply.symm
  refine ⟨pre, hans, ?_⟩
  rw [hrec, List.drop_left, hpre]

/-- Conversely, an answer in time is what the exchange returns, whatever frames of no interest come
before it. -/
theorem transceive_scripted_of_answeredBy {clock : Clock} {self : RobstrideMotor D}
    {expected_type : CommType} {f : CanFrame} {pre : List CanFrame}
    {st : Session Script D} (frame : CanFrame)
    (h : self.AnsweredBy expected_type (st.can.late clock self.config_.timeout_ns)
      st.can.receipts pre f) :
    ∃ st', self.transceive (scripted clock) frame expected_type st = (.ok f, st') := by
  obtain ⟨hreply, -⟩ := transceive_scripted self expected_type clock frame st
  exact ⟨_, Prod.ext (hreply.trans (await_of_answeredBy h _)) rfl⟩

/-- Correlation of either read, as a condition on the incoming frames: it is about the first full
answer of the motor. -/
theorem read_param_correlated {α : Type} (clock : Clock) (self : RobstrideMotor D)
    (index : UInt16) (field : ParamResponse → α) (value : CanFrame → α)
    (hfield : ∀ f resp, parse_param_response f = some resp → field resp = value f)
    (st : Session Script D) :
    ReadCorrelated clock self index (self.read_param index field) value st
      ↔ OwnAnswerFirst clock self index st := by
  constructor
  · intro h pre f hans hd
    obtain ⟨st', hst'⟩ := transceive_scripted_of_answeredBy (make_read_param_frame
      self.config_.motor_id self.config_.host_id index) hans
    have hp := parse_param_response_of hans.2.1.2 hd
    obtain ⟨g, hg, hgans, hhost, hidx, -⟩ :=
      h _ st' (run_read_param_ok.mpr ⟨f, _, hst', hp, rfl⟩)
    -- the only answer among the frames received is the accepted one
    obtain ⟨pre', hans', hrec⟩ := transceive_scripted_received hst'
    rw [hrec] at hg
    rcases List.mem_append.mp hg with hg | hg
    · exact absurd hgans (hans'.1 g hg)
    · rw [List.mem_singleton.mp hg] at hhost hidx
      exact ⟨hhost, hidx⟩
  · intro h v st' hrun
    obtain ⟨r, resp, hr, hp, rfl⟩ := run_read_param_ok.mp hrun
    obtain ⟨pre, hans, hrec⟩ := transceive_scripted_received hr
    -- a frame that parses is full, so the condition speaks of it
    obtain ⟨hd, -⟩ := parse_param_response_eq_some hp
    obtain ⟨hhost, hidx⟩ := h pre r hans hd
    refine ⟨r, ?_, hans.2.1, hhost, hidx, hfield r resp hp⟩
    rw [hrec]
    exact List.mem_append_right _ List.mem_cons_self

/-- **When a parameter read is right.** A read returns the requested parameter,
as answered to this host, on exactly the streams whose first full `ReadParam`
frame of this motor is that answer. -/
theorem read_param_correlated_iff (clock : Clock) (self : RobstrideMotor D) (index : UInt16)
    (st : Session Script D) :
    (ReadCorrelated clock self index (self.read_param_float index) (fun f => ⟨frame_value f⟩) st
        ↔ OwnAnswerFirst clock self index st) ∧
      (ReadCorrelated clock self index (self.read_param_uint8 index) frame_uint8 st
        ↔ OwnAnswerFirst clock self index st) := by
  refine ⟨?_, ?_⟩
  · rw [read_param_float_eq]
    refine read_param_correlated clock self index _ _ (fun f resp hp => ?_) st
    rw [ParamResponse.as_float, (parse_param_response_eq_some hp).2]
  · rw [read_param_uint8_eq]
    refine read_param_correlated clock self index _ _ (fun f resp hp => ?_) st
    show resp.data[0] = f.data[4]
    simp only [(parse_param_response_eq_some hp).2]
    rfl

/-- Two hosts share a broadcast bus. Host `0xFD` asks motor 1 for the bus voltage
while the motor is answering host `0xFE` about its position, and returns the
position as the voltage. -/
theorem read_param_takes_another_hosts_answer :
    ¬ ReadCorrelated (fun _ _ _ => 0) fixtures.single param_index.v_bus
        (fixtures.single.read_param_float param_index.v_bus) (fun f => ⟨frame_value f⟩)
        ⟨none, { receipts := [.frame (make_param_response_frame_float 0x01 0xFE 0x7019
          ⟨#v[0x00, 0x00, 0x42, 0x42]⟩)] }⟩ := by
  intro h
  rw [read_param_float_eq] at h
  have hvalue : ∀ f resp, parse_param_response f = some resp →
      ParamResponse.as_float resp = ⟨frame_value f⟩ := by
    intro f resp hp
    rw [ParamResponse.as_float, (parse_param_response_eq_some hp).2]
  have hcond := (read_param_correlated _ _ _ _ _ hvalue _).mp h []
    (make_param_response_frame_float 0x01 0xFE 0x7019 ⟨#v[0x00, 0x00, 0x42, 0x42]⟩)
    ⟨by simp, by decide, [], rfl, fun n _ _ => by rw [Script.late]; decide⟩ (by decide)
  exact absurd hcond.1 (by decide)

end ReadCorrelation

/-! ## Frames of other motors -/

section ForeignFrames

variable {D : Type} [Add D] [Sub D] [Mul D] [Div D] [Neg D] [NatCast D]

/-- The frames of a stream that come from this motor. -/
def RobstrideMotor.own (self : RobstrideMotor D) (fs : List CanFrame) : List CanFrame :=
  fs.filter fun f => get_source_motor_id f = self.config_.motor_id

/-- The transport plays back frames and nothing else; it never throws. -/
def playback (fs : List CanFrame) : Script := { receipts := fs.map .frame }

/-- While frames remain, no reading of the clock reaches the deadline of its
exchange. Once the stream is exhausted the clock may read anything. -/
def TimelyWhileFramesRemain (clock : Clock) (timeout_ns : ℤ) : Prop :=
  ∀ exchange reading left left', 0 < left →
    clock exchange (reading + 1) left < clock exchange 0 left' + timeout_ns

/-- While frames remain the deadline has not passed, which is what is asked of the clock. -/
theorem late_eq_false {clock : Clock} {timeout_ns : ℤ}
    (hclock : TimelyWhileFramesRemain clock timeout_ns) (s : Script) {n : ℕ}
    (hn : 0 < n) (hle : n ≤ s.receipts.length) : s.late clock timeout_ns n = false := by
  rw [Script.late, show 1 + s.receipts.length - n = (s.receipts.length - n) + 1 by omega]
  exact decide_eq_false (not_le.mpr (hclock _ _ _ _ hn))

variable {self : RobstrideMotor D} {expected_type : CommType}

variable (self expected_type) in
/-- A wait over a stream that the deadline does not cut short is a wait over the
motor's own frames of that stream: same outcome, same cache, and what is left of
the stream is what is left of its own frames. The induction is on the stream,
and a foreign frame changes neither side. -/
theorem await_own (late : ℕ → Bool) (fs : List CanFrame) (last : Option (Feedback D))
    (hlate : ∀ n, 0 < n → n ≤ fs.length → late n = false) :
    ∃ rest, (self.await expected_type late (fs.map .frame) last).rest = rest.map .frame ∧
      let o := self.await expected_type (fun _ => false) ((self.own fs).map .frame) last
      (self.await expected_type late (fs.map .frame) last).reply = o.reply ∧
        (self.await expected_type late (fs.map .frame) last).last_feedback_ = o.last_feedback_ ∧
        (self.own rest).map .frame = o.rest := by
  induction fs generalizing last with
  | nil => exact ⟨[], rfl, rfl, rfl, rfl⟩
  | cons f fs ih =>
    -- frames remain, so the deadline test does not fire
    have hl : late ((fs.map Receipt.frame).length + 1) = false := by
      rw [List.length_map]
      exact hlate _ (Nat.succ_pos _) (Nat.le_refl _)
    have ih' := fun l => ih l (fun n hn hle => hlate n hn (Nat.le_succ_of_le hle))
    rw [List.map_cons]
    by_cases hs : get_source_motor_id f = self.config_.motor_id
    · have hown : self.own (f :: fs) = f :: self.own fs := by
        rw [RobstrideMotor.own, List.filter_cons_of_pos (by simpa using hs)]
        rfl
      rw [hown, List.map_cons]
      by_cases ht : get_comm_type f = expected_type.code
      · rw [await_match last hl ⟨hs, ht⟩, await_match last rfl ⟨hs, ht⟩]
        exact ⟨fs, rfl, rfl, rfl, rfl⟩
      · rw [await_other last hl hs ht, await_other last rfl hs ht]
        exact ih' _
    · have hown : self.own (f :: fs) = self.own fs := by
        rw [RobstrideMotor.own, List.filter_cons_of_neg (by simpa using hs)]
        rfl
      rw [hown, await_foreign last hl hs]
      exact ih' _

/-- A stream of frames, and nothing else, shows its frames: none of its receipts is a failure. -/
theorem frames_injective : Function.Injective (List.map Receipt.frame) :=
  List.map_injective_iff.mpr fun _ _ h => Receipt.frame.inj h

/-- Two sessions that differ in foreign frames and in time only. -/
structure SameOwn (self : RobstrideMotor D) (st₁ st₂ : Session Script D) : Prop where
  last_feedback : st₁.last_feedback_ = st₂.last_feedback_
  sent : st₁.can.sent = st₂.can.sent
  streams : ∃ fs₁ fs₂, st₁.can.receipts = fs₁.map .frame ∧ st₂.can.receipts = fs₂.map .frame ∧
    self.own fs₁ = self.own fs₂

/-- One exchange tells two such sessions apart neither by its outcome nor by
what it leaves. -/
theorem transceive_sameOwn {clock₁ clock₂ : Clock}
    (h₁ : TimelyWhileFramesRemain clock₁ self.config_.timeout_ns)
    (h₂ : TimelyWhileFramesRemain clock₂ self.config_.timeout_ns)
    (e : Exchange) {st₁ st₂ : Session Script D} (h : SameOwn self st₁ st₂) :
    (self.exchange (scripted clock₁) e st₁).1 = (self.exchange (scripted clock₂) e st₂).1 ∧
      SameOwn self (self.exchange (scripted clock₁) e st₁).2
        (self.exchange (scripted clock₂) e st₂).2 := by
  obtain ⟨hlast, hsent, fs₁, fs₂, hfs₁, hfs₂, hown⟩ := h
  obtain ⟨r₁, l₁, s₁, q₁, -, -⟩ :=
    transceive_scripted self e.expected_type clock₁ e.frame st₁
  obtain ⟨r₂, l₂, s₂, q₂, -, -⟩ :=
    transceive_scripted self e.expected_type clock₂ e.frame st₂
  obtain ⟨rest₁, hrest₁, ho₁⟩ := await_own self e.expected_type
    (st₁.can.late clock₁ self.config_.timeout_ns) fs₁ st₁.last_feedback_
    (fun n hn hle => late_eq_false h₁ st₁.can hn (by rw [hfs₁, List.length_map]; exact hle))
  obtain ⟨rest₂, hrest₂, ho₂⟩ := await_own self e.expected_type
    (st₂.can.late clock₂ self.config_.timeout_ns) fs₂ st₂.last_feedback_
    (fun n hn hle => late_eq_false h₂ st₂.can hn (by rw [hfs₂, List.length_map]; exact hle))
  -- both exchanges are the same wait over the same own frames
  rw [hfs₁] at r₁ l₁ q₁
  rw [hfs₂] at r₂ l₂ q₂
  rw [hown] at ho₁
  rw [hlast] at r₁ l₁ q₁ hrest₁ ho₁
  refine ⟨?_, ?_, ?_, rest₁, rest₂, q₁.trans hrest₁, q₂.trans hrest₂, ?_⟩
  · exact r₁.trans (ho₁.1.trans (ho₂.1.symm.trans r₂.symm))
  · exact l₁.trans (ho₁.2.1.trans (ho₂.2.1.symm.trans l₂.symm))
  · exact s₁.trans ((congrArg (· ++ [e.frame]) hsent).trans s₂.symm)
  · exact frames_injective (ho₁.2.2.trans ho₂.2.2.symm)

/-- What a caller and the bus see after each operation of a session: its value
or its exception, `last_feedback()`, and the frames sent so far. -/
def observe (outcomes : List (Except Exception (Value D) × Session Script D)) :
    List (Except Exception (Value D) × Option (Feedback D) × List CanFrame) :=
  outcomes.map fun o => (o.1, o.2.last_feedback_, o.2.can.sent)

omit [Add D] [Sub D] [Mul D] [Div D] [Neg D] [NatCast D] in
/-- What can be seen of two sessions is the same when their outcomes and caches are. -/
theorem observe_eq {l₁ l₂ : List (Except Exception (Value D) × Session Script D)}
    (h : List.Forall₂ (fun a b => a.1 = b.1 ∧ SameOwn self a.2 b.2) l₁ l₂) :
    observe l₁ = observe l₂ := by
  rw [← List.forall₂_eq_eq_eq, observe, observe, List.forall₂_map_left_iff,
    List.forall₂_map_right_iff]
  refine h.imp fun a b hab => ?_
  obtain ⟨hvalue, hlast, hsent, -⟩ := hab
  rw [hvalue, hlast, hsent]

variable [LT D] [DecidableLT D] [DoubleMath D] [FloatConv D]

/-- **Frames of other motors are invisible.** Two streams with the same frames of
this motor, in the same order, whatever frames of other motors stand between
them: every session of operations returns or throws the same, caches the same
and sends the same over both. -/
theorem foreign_frames_invisible (self : RobstrideMotor D) (clock₁ clock₂ : Clock)
    (h₁ : TimelyWhileFramesRemain clock₁ self.config_.timeout_ns)
    (h₂ : TimelyWhileFramesRemain clock₂ self.config_.timeout_ns)
    (fs₁ fs₂ : List CanFrame) (hown : self.own fs₁ = self.own fs₂)
    (last : Option (Feedback D)) (commands : List (Command D)) :
    observe (Dialogue.session (self.exchange (scripted clock₁))
        (commands.map (Command.operation self)) ⟨last, playback fs₁⟩)
      = observe (Dialogue.session (self.exchange (scripted clock₂))
        (commands.map (Command.operation self)) ⟨last, playback fs₂⟩) := by
  have hstart : SameOwn self ⟨last, playback fs₁⟩ ⟨last, playback fs₂⟩ :=
    ⟨rfl, rfl, fs₁, fs₂, rfl, rfl, hown⟩
  have hstep : ∀ e st₁ st₂, True → SameOwn self st₁ st₂ →
      (self.exchange (scripted clock₁) e st₁).1 = (self.exchange (scripted clock₂) e st₂).1 ∧
        SameOwn self (self.exchange (scripted clock₁) e st₁).2
          (self.exchange (scripted clock₂) e st₂).2 :=
    fun e _ _ _ h => transceive_sameOwn h₁ h₂ e h
  exact observe_eq (Dialogue.session_rel hstep (fun p _ => Dialogue.Asks.trivial p) hstart)

/-- The streams of `IgnoresFramesFromOtherMotors`: the answer of motor 1 to
`enable`, with a frame of motor `0x22` before it and without. -/
theorem foreign_frames_invisible_before_enable :
    observe (Dialogue.session (fixtures.single.exchange (scripted fun _ _ _ => 0))
        ([.enable].map (Command.operation fixtures.single))
        ⟨none, playback [fixtures.foreign_answer, fixtures.enable_answer]⟩)
      = observe (Dialogue.session (fixtures.single.exchange (scripted fun _ _ _ => 0))
        ([.enable].map (Command.operation fixtures.single))
        ⟨none, playback [fixtures.enable_answer]⟩) :=
  foreign_frames_invisible fixtures.single _ _ (fun _ _ _ _ _ => by decide)
    (fun _ _ _ _ _ => by decide) _ _ (by decide) none [.enable]

end ForeignFrames

end Robstride
