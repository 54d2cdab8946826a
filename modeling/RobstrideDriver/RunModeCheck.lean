/-
What the read-back of `set_run_mode` verifies.

`set_run_mode` stops the motor, writes the mode, reads it back and compares. Each
of its three exchanges takes the oldest undelivered answer of its type, so
answers that earlier, timed-out commands left behind can stand in for the
answers of this call: the check then passes on a value read before the write, or
with the stop frame lost.

`set_run_mode_sound_iff` is the exact condition on what is undelivered when the
call starts. Towards soundness, the three exchanges are followed one by one;
away from it, one environment refutes every other state: it loses the stop frame
and delivers everything else promptly.
-/
import RobstrideDriver.FifoBus

set_option autoImplicit false

open CppArith

namespace Robstride

/-! ## The motor -/

/-- A motor with a `run_mode` parameter: a write sets it, a read reports it and
leaves it, and its answers are full frames. -/
structure RunModeMotor (μ : Type) (motor_id : UInt8) extends Motor μ motor_id where
  run_mode : μ → UInt8
  full : ∀ f m, (execute f m).2.dlc = 8
  write_run_mode : ∀ host_id v m,
    run_mode (execute (make_write_param_frame_uint8 motor_id host_id param_index.run_mode v) m).1
      = v
  read_run_mode : ∀ host_id m,
    frame_uint8 (execute (make_read_param_frame motor_id host_id param_index.run_mode) m).2
      = run_mode m
  read_keeps : ∀ host_id m,
    run_mode (execute (make_read_param_frame motor_id host_id param_index.run_mode) m).1
      = run_mode m

section Check

variable {μ : Type} {D : Type} [Add D] [Sub D] [Mul D] [Div D] [Neg D] [NatCast D]

/-- Whenever `set_run_mode mode` returns normally from `st`: the motor is in that
mode, it has executed this call's stop and write frames (they are the first two
the call sends), and the value compared was read after the write. -/
def SetRunModeSound (self : RobstrideMotor D) (motor : RunModeMotor μ self.config_.motor_id)
    (mode : RunMode) (st : Session (FifoBus μ) D) : Prop :=
  ∀ env st',
    Dialogue.run (self.exchange (fifo motor.toMotor env)) (self.set_run_mode mode) st
        = (.ok (), st') →
      motor.run_mode st'.can.ledger.motor = mode.raw ∧
        st.can.ledger.sent ∈ st'.can.ledger.executed ∧
        st.can.ledger.sent + 1 ∈ st'.can.ledger.executed ∧
        ∃ a, st'.can.delivered.getLast? = some a ∧ frame_uint8 a.frame = mode.raw ∧
          st.can.ledger.sent + 1 < a.serial

/-- What is undelivered cannot be mistaken for this call's answers: there is no
feedback; or there are two feedback frames and behind the second a parameter
answer that carries another mode, on which the comparison fails. (With no time
to wait, nothing is ever accepted.) -/
def VerificationGuarded (config : Config) (mode : RunMode) (undelivered : List Answer) : Prop :=
  config.response_timeout ≤ 0 ∨ take_answer .Feedback undelivered = none ∨
    ∃ f₁ l₁ f₂ l₂ r l₃, take_answer .Feedback undelivered = some (f₁, l₁) ∧
      take_answer .Feedback l₁ = some (f₂, l₂) ∧ take_answer .ReadParam l₂ = some (r, l₃) ∧
      frame_uint8 r.frame ≠ mode.raw

variable {self : RobstrideMotor D} {motor : RunModeMotor μ self.config_.motor_id}
  {env : Environment} {mode : RunMode} {st st' : Session (FifoBus μ) D}

/-! ## The three exchanges -/

/-- The exchanges of a `set_run_mode` that returns normally: stop, write and read, each answered,
the read with the mode. -/
theorem set_run_mode_exchanges
    (h : Dialogue.run (self.exchange (fifo motor.toMotor env)) (self.set_run_mode mode) st
      = (.ok (), st')) :
    ∃ r₁ st₁ r₂ st₂ r₃,
      self.transceive (fifo motor.toMotor env)
        (make_stop_frame self.config_.motor_id self.config_.host_id) .Feedback st = (.ok r₁, st₁) ∧
      self.transceive (fifo motor.toMotor env)
        (make_write_param_frame_uint8 self.config_.motor_id self.config_.host_id
          param_index.run_mode mode.raw) .Feedback st₁ = (.ok r₂, st₂) ∧
      self.transceive (fifo motor.toMotor env)
        (make_read_param_frame self.config_.motor_id self.config_.host_id param_index.run_mode)
          .ReadParam st₂ = (.ok r₃, st') ∧
      frame_uint8 r₃ = mode.raw := by
  obtain ⟨fb₁, st₁, fb₂, st₂, h₁, h₂, h₃⟩ := run_set_run_mode_ok.mp h
  obtain ⟨r₁, hr₁, -⟩ := run_transceive_feedback_ok.mp h₁
  obtain ⟨r₂, hr₂, -⟩ := run_transceive_feedback_ok.mp h₂
  rw [read_param_uint8_eq] at h₃
  obtain ⟨r₃, resp, hr₃, hp, hv⟩ := run_read_param_ok.mp h₃
  refine ⟨r₁, st₁, r₂, st₂, r₃, hr₁, hr₂, hr₃, ?_⟩
  have hdata : resp.data[0] = frame_uint8 r₃ := by
    simp only [(parse_param_response_eq_some hp).2]
    rfl
  rw [← hdata, hv, ParamResponse.as_uint8]

/-- Conversely, three exchanges that return, full frames, and the right byte make `set_run_mode`
return normally. -/
theorem set_run_mode_of_exchanges {st₁ st₂ : Session (FifoBus μ) D} {r₁ r₂ r₃ : CanFrame}
    (h₁ : self.transceive (fifo motor.toMotor env)
      (make_stop_frame self.config_.motor_id self.config_.host_id) .Feedback st = (.ok r₁, st₁))
    (h₂ : self.transceive (fifo motor.toMotor env)
      (make_write_param_frame_uint8 self.config_.motor_id self.config_.host_id
        param_index.run_mode mode.raw) .Feedback st₁ = (.ok r₂, st₂))
    (h₃ : self.transceive (fifo motor.toMotor env)
      (make_read_param_frame self.config_.motor_id self.config_.host_id param_index.run_mode)
        .ReadParam st₂ = (.ok r₃, st'))
    (hf₁ : get_comm_type r₁ = CommType.Feedback.code ∧ r₁.dlc = 8)
    (hf₂ : get_comm_type r₂ = CommType.Feedback.code ∧ r₂.dlc = 8)
    (hf₃ : get_comm_type r₃ = CommType.ReadParam.code ∧ r₃.dlc = 8)
    (hv : frame_uint8 r₃ = mode.raw) :
    Dialogue.run (self.exchange (fifo motor.toMotor env)) (self.set_run_mode mode) st
      = (.ok (), st') := by
  obtain ⟨fb₁, hp₁⟩ := parse_feedback_of hf₁.1 hf₁.2 self.limits_
  obtain ⟨fb₂, hp₂⟩ := parse_feedback_of hf₂.1 hf₂.2 self.limits_
  have hp₃ := parse_param_response_of hf₃.1 (by rw [hf₃.2]; decide)
  refine run_set_run_mode_ok.mpr ⟨fb₁, st₁, fb₂, st₂, ?_, ?_, ?_⟩
  · exact run_transceive_feedback_ok.mpr ⟨r₁, h₁, hp₁⟩
  · exact run_transceive_feedback_ok.mpr ⟨r₂, h₂, hp₂⟩
  · rw [read_param_uint8_eq]
    exact run_read_param_ok.mpr ⟨r₃, _, h₃, hp₃, hv.symm⟩

/-- An exchange that starts with no answer of its type under way gets its own,
and leaves nothing behind. -/
theorem transceive_fifo_own {frame r : CanFrame} {type : CommType}
    (hfrom : ∀ a ∈ st.can.undelivered, get_source_motor_id a.frame = self.config_.motor_id)
    (hnone : take_answer type st.can.undelivered = none)
    (h : self.transceive (fifo motor.toMotor env) frame type st = (.ok r, st')) :
    st'.can.undelivered = [] ∧
      st'.can.delivered.getLast?
        = some ⟨st.can.ledger.sent, (motor.execute frame st.can.ledger.motor).2⟩ ∧
      st'.can.ledger =
        { motor := (motor.execute frame st.can.ledger.motor).1
          sent := st.can.ledger.sent + 1
          executed := st.can.ledger.executed ++ [st.can.ledger.sent] } := by
  obtain ⟨a, htake, -, hlast, hledger⟩ := transceive_fifo_ok hfrom h
  rw [FifoBus.post_undelivered, take_answer_append_none hnone] at htake
  -- an answer came, so the frame was not lost
  obtain ⟨hl, rfl⟩ := FifoBus.mem_answers (take_answer_mem htake).1
  rw [FifoBus.answers_executed hl] at htake
  refine ⟨?_, hlast, hledger.trans (FifoBus.post_executed hl)⟩
  rw [take_answer_hit (take_answer_mem htake).2.2] at htake
  exact (Prod.mk.inj (Option.some.inj htake)).2.symm

/-- An exchange that starts with an answer of its type under way gets that one,
and what its own frame is answered with only queues up behind. -/
theorem transceive_fifo_stale {frame r : CanFrame} {type : CommType} {a : Answer}
    {rest l : List Answer}
    (hfrom : ∀ a ∈ st.can.undelivered, get_source_motor_id a.frame = self.config_.motor_id)
    (hl : st.can.undelivered = l) (htake : take_answer type l = some (a, rest))
    (h : self.transceive (fifo motor.toMotor env) frame type st = (.ok r, st')) :
    r = a.frame ∧ ∃ own, st'.can.undelivered = rest ++ own ∧
      ∀ b ∈ st'.can.undelivered, get_source_motor_id b.frame = self.config_.motor_id := by
  obtain ⟨b, hb, hreply, -, -⟩ := transceive_fifo_ok hfrom h
  have hsub := (take_answer_mem hb).2.1
  have hall : ∀ b ∈ st'.can.undelivered,
      get_source_motor_id b.frame = self.config_.motor_id :=
    fun b hb => source_of_mem_post hfrom (hsub hb)
  rw [FifoBus.post_undelivered, hl, take_answer_append htake] at hb
  obtain ⟨rfl, hrest⟩ := Prod.mk.inj (Option.some.inj hb)
  exact ⟨hreply, _, hrest.symm, hall⟩

/-- What an exchange returns in a prompt environment, with all that the next one
needs of its state. -/
theorem transceive_fifo_prompt (henv : env.Prompt self.config_.timeout_ns)
    (hinv : st.can.Holds
      (fun f => get_source_motor_id f = self.config_.motor_id ∧ f.dlc = 8))
    (frame : CanFrame) {type : CommType} {a : Answer} {rest : List Answer}
    (htake : take_answer type (st.can.post motor.toMotor env frame).undelivered
      = some (a, rest)) :
    ∃ st', self.transceive (fifo motor.toMotor env) frame type st = (.ok a.frame, st') ∧
      st'.can.undelivered = rest ∧
      st'.can.ledger = (st.can.post motor.toMotor env frame).ledger ∧
      (get_comm_type a.frame = type.code ∧ a.frame.dlc = 8) ∧
      st'.can.Holds (fun f => get_source_motor_id f = self.config_.motor_id ∧ f.dlc = 8) := by
  have hP : ∀ f m, get_source_motor_id (motor.execute f m).2 = self.config_.motor_id ∧
      (motor.execute f m).2.dlc = 8 := fun f m => ⟨motor.source f m, motor.full f m⟩
  obtain ⟨st', hrun, hrest, -, hledger⟩ :=
    transceive_fifo_returns (fun a ha => (hinv.answer a ha).1) henv htake
  have hmem := take_answer_mem htake
  have hkeep : (self.transceive (fifo motor.toMotor env) frame type st).2.can.Holds _ :=
    hinv.transceive hP frame type
  rw [hrun] at hkeep
  exact ⟨st', hrun, hrest, hledger,
    ⟨hmem.2.2, ((hinv.post hP frame).answer a hmem.1).2⟩, hkeep⟩

/-! ## Towards soundness -/

/-- With no feedback under way the call gets three answers of its own, and what it reads back is the
mode of the motor. -/
theorem set_run_mode_sound_of_none
    (hfrom : ∀ a ∈ st.can.undelivered, get_source_motor_id a.frame = self.config_.motor_id)
    (hnone : take_answer .Feedback st.can.undelivered = none) :
    SetRunModeSound self motor mode st := by
  intro env st' h
  obtain ⟨r₁, st₁, r₂, st₂, r₃, h₁, h₂, h₃, hv⟩ := set_run_mode_exchanges h
  obtain ⟨hu₁, -, hl₁⟩ := transceive_fifo_own hfrom hnone h₁
  have hfrom₁ : ∀ a ∈ st₁.can.undelivered,
      get_source_motor_id a.frame = self.config_.motor_id := by
    intro a ha
    rw [hu₁] at ha
    cases ha
  obtain ⟨hu₂, -, hl₂⟩ := transceive_fifo_own hfrom₁ (by rw [hu₁]; rfl) h₂
  have hfrom₂ : ∀ a ∈ st₂.can.undelivered,
      get_source_motor_id a.frame = self.config_.motor_id := by
    intro a ha
    rw [hu₂] at ha
    cases ha
  obtain ⟨-, hlast, hl₃⟩ := transceive_fifo_own hfrom₂ (by rw [hu₂]; rfl) h₃
  -- all three frames were executed, so the ledger says what the motor did
  have hsent : st₂.can.ledger.sent = st.can.ledger.sent + 1 + 1 := by
    rw [hl₂, hl₁]
  have hmode : motor.run_mode st₂.can.ledger.motor = mode.raw := by
    rw [hl₂]
    exact motor.write_run_mode _ _ _
  refine ⟨?_, ?_, ?_, _, hlast, ?_, ?_⟩
  · rw [hl₃]
    exact (motor.read_keeps _ _).trans hmode
  · simp only [hl₃, hl₂, hl₁, List.mem_append, List.mem_singleton, true_or, or_true]
  · simp only [hl₃, hl₂, hl₁, List.mem_append, List.mem_singleton, true_or, or_true]
  · exact (motor.read_run_mode _ _).trans hmode
  · rw [hsent]
    exact Nat.lt_succ_self _

/-- With two feedback frames and a contradicting parameter answer behind them the
call never returns normally. -/
theorem set_run_mode_sound_of_mismatch
    (hfrom : ∀ a ∈ st.can.undelivered, get_source_motor_id a.frame = self.config_.motor_id)
    {f₁ f₂ r : Answer} {l₁ l₂ l₃ : List Answer}
    (hf₁ : take_answer .Feedback st.can.undelivered = some (f₁, l₁))
    (hf₂ : take_answer .Feedback l₁ = some (f₂, l₂))
    (hr : take_answer .ReadParam l₂ = some (r, l₃)) (hne : frame_uint8 r.frame ≠ mode.raw) :
    SetRunModeSound self motor mode st := by
  intro env st' h
  obtain ⟨r₁, st₁, r₂, st₂, r₃, h₁, h₂, h₃, hv⟩ := set_run_mode_exchanges h
  -- each exchange takes the stale answer, and later answers only queue up behind
  obtain ⟨-, own₁, hu₁, hs₁⟩ := transceive_fifo_stale hfrom rfl hf₁ h₁
  obtain ⟨-, own₂, hu₂, hs₂⟩ := transceive_fifo_stale hs₁ hu₁ (take_answer_append hf₂ own₁) h₂
  obtain ⟨hr₃, -⟩ := transceive_fifo_stale hs₂ (hu₂.trans (List.append_assoc ..))
    (take_answer_append hr _) h₃
  -- the byte compared is the contradicting one
  rw [hr₃] at hv
  exact absurd hv hne

/-! ## Away from it -/

/-- The environment that loses the `n`-th frame and is otherwise prompt. -/
def losing (n : ℕ) : Environment where
  lost k := decide (k = n)
  arrives _ := true
  clock _ := 0
  steady := monotone_zero

/-- An environment that loses one frame is as quick as one that loses none. -/
theorem losing_prompt (n : ℕ) {timeout_ns : ℤ} (h : 0 < timeout_ns) :
    (losing n).Prompt timeout_ns :=
  ⟨fun _ => rfl, fun _ _ => (zero_add timeout_ns).symm ▸ h⟩

theorem losing_self (n : ℕ) : (losing n).lost n = true := decide_eq_true rfl

theorem losing_later {n k : ℕ} (h : n < k) : (losing n).lost k = false :=
  decide_eq_false (Nat.ne_of_gt h)

/-- The queue as the last two exchanges find it: `w` answers the write, `r` the
read. The read's exchange gets `r` or an older answer that agrees with it. -/
theorem read_back_agrees {l : List Answer} {w r : Answer} {v : UInt8}
    (hw : get_comm_type w.frame = CommType.Feedback.code)
    (hr : get_comm_type r.frame = CommType.ReadParam.code) (hv : frame_uint8 r.frame = v)
    (hnext : ∀ f l₁ a l₂, take_answer .Feedback l = some (f, l₁) →
      take_answer .ReadParam l₁ = some (a, l₂) → frame_uint8 a.frame = v) :
    ∃ f l₁ a l₂, take_answer .Feedback (l ++ [w]) = some (f, l₁) ∧
      take_answer .ReadParam (l₁ ++ [r]) = some (a, l₂) ∧ frame_uint8 a.frame = v := by
  have hwr : get_comm_type w.frame ≠ CommType.ReadParam.code := by
    rw [hw]
    decide
  -- the write's exchange takes an older feedback frame if there is one
  rcases hf : take_answer .Feedback l with _ | ⟨f, l₁⟩
  · refine ⟨w, [], r, [], ?_, take_answer_hit hr, hv⟩
    rw [take_answer_append_none hf, take_answer_hit hw]
  · refine ⟨f, l₁ ++ [w], ?_⟩
    -- and the read's an older parameter answer
    rcases ha : take_answer .ReadParam l₁ with _ | ⟨a, l₂⟩
    · refine ⟨r, [], take_answer_append hf _, ?_, hv⟩
      rw [List.append_assoc, take_answer_append_none ha, List.singleton_append,
        take_answer_miss hwr, take_answer_hit hr]
    · refine ⟨a, l₂ ++ [w] ++ [r], take_answer_append hf _, ?_, hnext f l₁ a l₂ hf ha⟩
      exact take_answer_append (take_answer_append ha _) _

omit [Add D] [Sub D] [Mul D] [Div D] [Neg D] [NatCast D] in
/-- The answers of a motor that executes the write and the read of the check. -/
theorem write_answer_type (motor : RunModeMotor μ self.config_.motor_id) (mode : RunMode) (m : μ) :
    get_comm_type (motor.execute (make_write_param_frame_uint8 self.config_.motor_id
      self.config_.host_id param_index.run_mode mode.raw) m).2 = CommType.Feedback.code := by
  rw [motor.type, answer_type, make_write_param_frame_uint8, make_write_param_frame_base,
    get_comm_type_make_id]
  rfl

omit [Add D] [Sub D] [Mul D] [Div D] [Neg D] [NatCast D] in
theorem read_answer_type (motor : RunModeMotor μ self.config_.motor_id) (m : μ) :
    get_comm_type (motor.execute (make_read_param_frame self.config_.motor_id
      self.config_.host_id param_index.run_mode) m).2 = CommType.ReadParam.code := by
  rw [motor.type, answer_type, make_read_param_frame, get_comm_type_make_id]
  rfl

/-- **Where the check is unsound.** A feedback frame is under way, and behind the
feedback frames the first two exchanges will take there is no parameter answer
that contradicts the mode. Then losing the stop frame goes unnoticed. -/
theorem set_run_mode_unsound (htimeout : 0 < self.config_.response_timeout)
    (hinv : st.can.Holds
      (fun f => get_source_motor_id f = self.config_.motor_id ∧ f.dlc = 8))
    {f₁ : Answer} {l₁ : List Answer}
    (hf₁ : take_answer .Feedback st.can.undelivered = some (f₁, l₁))
    (hnext : ∀ f₂ l₂ r l₃, take_answer .Feedback l₁ = some (f₂, l₂) →
      take_answer .ReadParam l₂ = some (r, l₃) → frame_uint8 r.frame = mode.raw) :
    ¬ SetRunModeSound self motor mode st := by
  intro hsound
  have hprompt : (losing st.can.ledger.sent).Prompt self.config_.timeout_ns := by
    apply losing_prompt
    rw [Config.timeout_ns]
    omega
  -- the stop frame is lost, and its exchange takes the stale feedback
  have hstop : take_answer .Feedback (st.can.post motor.toMotor (losing st.can.ledger.sent)
      (make_stop_frame self.config_.motor_id self.config_.host_id)).undelivered
        = some (f₁, l₁) := by
    rw [FifoBus.post_undelivered, FifoBus.answers_lost (losing_self _), List.append_nil, hf₁]
  obtain ⟨st₁, h₁, hu₁, hl₁, hr₁, hinv₁⟩ := transceive_fifo_prompt hprompt hinv _ hstop
  rw [FifoBus.post_lost (losing_self _)] at hl₁
  have hlost₁ : (losing st.can.ledger.sent).lost st₁.can.ledger.sent = false := by
    rw [hl₁]
    exact losing_later (Nat.lt_succ_self _)
  -- the write and the read are executed, whichever answers are taken for theirs
  have hback := motor.read_run_mode self.config_.host_id
    (motor.execute (make_write_param_frame_uint8 self.config_.motor_id self.config_.host_id
      param_index.run_mode mode.raw) st₁.can.ledger.motor).1
  rw [motor.write_run_mode] at hback
  obtain ⟨f₂, l₂, r, l₃, hf₂, hr, hv⟩ := read_back_agrees
    (w := ⟨st₁.can.ledger.sent, _⟩) (r := ⟨st₁.can.ledger.sent + 1, _⟩)
    (write_answer_type motor mode _) (read_answer_type motor _) hback hnext
  -- the queue after the write: what `read_back_agrees` says of it
  obtain ⟨st₂, h₂, hu₂, hl₂, hr₂, hinv₂⟩ := transceive_fifo_prompt hprompt hinv₁ _
    (by rw [FifoBus.post_undelivered, FifoBus.answers_executed hlost₁, hu₁]; exact hf₂)
  rw [FifoBus.post_executed hlost₁] at hl₂
  have hlost₂ : (losing st.can.ledger.sent).lost st₂.can.ledger.sent = false := by
    rw [hl₂, hl₁]
    exact losing_later (Nat.lt_succ_of_lt (Nat.lt_succ_self _))
  obtain ⟨st', h₃, -, hl₃, hr₃, -⟩ := transceive_fifo_prompt hprompt hinv₂ _
    (by rw [FifoBus.post_undelivered, FifoBus.answers_executed hlost₂, hu₂, hl₂]; exact hr)
  rw [FifoBus.post_executed hlost₂] at hl₃
  -- the call returns normally, yet its stop frame is not among those executed
  have hexecuted := (hsound _ _ (set_run_mode_of_exchanges h₁ h₂ h₃ hr₁ hr₂ hr₃ hv)).2.1
  rw [hl₃, hl₂, hl₁] at hexecuted
  simp only [List.mem_append, List.mem_singleton] at hexecuted
  rcases hexecuted with (hold | hnew) | hnew
  · exact Nat.lt_irrefl _ (hinv.executed _ hold)
  · omega
  · omega

/-! ## After any history -/

variable [LT D] [DecidableLT D] [DoubleMath D] [FloatConv D]

/-- The session after a history of commands, from a bus nothing was sent on. -/
def after_history (self : RobstrideMotor D) (motor : Motor μ self.config_.motor_id)
    (env : Environment) (m : μ) (history : List (Command D)) : Session (FifoBus μ) D :=
  Dialogue.after (self.exchange (fifo motor env)) (history.map (Command.operation self))
    ⟨none, .start m⟩

/-- What is true of every answer of the motor is true of all that is under way after a history. -/
theorem after_history_holds (self : RobstrideMotor D)
    (motor : Motor μ self.config_.motor_id) (env : Environment) (m : μ)
    (history : List (Command D)) {P : CanFrame → Prop} (hP : ∀ f m, P (motor.execute f m).2) :
    (after_history self motor env m history).can.Holds P := by
  refine Dialogue.session_invariant (I := fun st : Session (FifoBus μ) D => st.can.Holds P)
    (P := fun _ => True)
    ?_ (fun p _ => Dialogue.Asks.trivial p) (FifoBus.holds_start P m)
  intro e st _ hst
  exact hst.transceive hP e.frame e.expected_type

/-- **When `set_run_mode` verifies.** After every history of operations, whatever
was lost or late: a normal return of the next `set_run_mode` means what it says
if and only if the answers still under way cannot be mistaken for its own. -/
theorem set_run_mode_sound_iff (self : RobstrideMotor D)
    (motor : RunModeMotor μ self.config_.motor_id) (env : Environment) (m : μ)
    (history : List (Command D)) (mode : RunMode) :
    SetRunModeSound self motor mode (after_history self motor.toMotor env m history) ↔
      VerificationGuarded self.config_ mode
        (after_history self motor.toMotor env m history).can.undelivered := by
  have hinv := after_history_holds self motor.toMotor env m history
    (P := fun f => get_source_motor_id f = self.config_.motor_id ∧ f.dlc = 8)
    fun f m => ⟨motor.source f m, motor.full f m⟩
  have hfrom := fun a ha => (hinv.answer a ha).1
  constructor
  · intro hsound
    by_contra hguard
    rw [VerificationGuarded, not_or, not_or] at hguard
    obtain ⟨htimeout, hfeedback, hmismatch⟩ := hguard
    obtain ⟨⟨f₁, l₁⟩, hf₁⟩ := Option.ne_none_iff_exists'.mp hfeedback
    refine set_run_mode_unsound (Int.not_le.mp htimeout) hinv hf₁ ?_ hsound
    intro f₂ l₂ r l₃ hf₂ hr
    by_contra hne
    exact hmismatch ⟨f₁, l₁, f₂, l₂, r, l₃, hf₁, hf₂, hr, hne⟩
  · rintro (htimeout | hnone | ⟨f₁, l₁, f₂, l₂, r, l₃, hf₁, hf₂, hr, hne⟩)
    · -- no wait ever begins, so the call cannot return normally
      intro env' st' h
      obtain ⟨r₁, st₁, -, -, -, h₁, -⟩ := set_run_mode_exchanges h
      have hexpired : (self.transceive (fifo motor.toMotor env')
          (make_stop_frame self.config_.motor_id self.config_.host_id) .Feedback
          (after_history self motor.toMotor env m history)).1 = .error _ :=
        transceive_fifo_expired htimeout _ _
      rw [h₁] at hexpired
      cases hexpired
    · exact set_run_mode_sound_of_none hfrom hnone
    · exact set_run_mode_sound_of_mismatch hfrom hf₁ hf₂ hr hne

end Check

/-! ## A read-back that verifies nothing -/

namespace fixtures

/-- The bench motor's `run_mode`. -/
def run_mode_bench (motor_id : UInt8) : RunModeMotor Bench motor_id where
  toMotor := bench motor_id
  run_mode m := m.run_mode
  full f m := by
    show ((m.update f).answer motor_id f).dlc = 8
    rw [Bench.answer]
    split_ifs <;> rfl
  write_run_mode host_id v m := by
    show (m.update _).run_mode = v
    simp only [Bench.update, make_write_param_frame_uint8, make_write_param_frame_base,
      get_comm_type_make_id, frame_index_param_data]
    rfl
  read_run_mode host_id m := by
    show frame_uint8 ((m.update _).answer motor_id _) = m.run_mode
    simp only [Bench.answer, Bench.update, make_read_param_frame, get_comm_type_make_id]
    rfl
  read_keeps host_id m := by
    show (m.update _).run_mode = m.run_mode
    simp only [Bench.update, make_read_param_frame, get_comm_type_make_id]
    rfl

end fixtures

/-- A motor in velocity mode is stopped twice, asked for its mode and switched to
mode 0; none of the four answers is in time. `set_run_mode(Velocity)` then takes
them for its own: its write (the sixth frame) is lost, it returns normally, and
the motor is in mode 0. -/
theorem set_run_mode_passes_on_stale_answers :
    ¬ SetRunModeSound fixtures.single (fixtures.run_mode_bench _) .Velocity
      (after_history fixtures.single (fixtures.run_mode_bench _).toMotor
        (fixtures.environment (fun _ => false) 4) { run_mode := 2 }
        [.disable false, .disable false, .get_run_mode,
          .write_param_uint8 param_index.run_mode 0]) := by
  intro h
  -- the history sends frames 0 to 3; the call's stop is 4 and its write 5
  have hrun := h (fixtures.environment (fun n => n = 5) 0) _ (Prod.ext (by decide +kernel) rfl)
  exact absurd hrun.1 (by decide +kernel)

end Robstride
