/-
Rules for the receive loop, over any transport.

The six exits and continuations of one iteration, each as an equation; then the
two facts a caller needs about a whole wait, by induction on its iterations:
what the clock and `receive` preserve, the wait preserves
(`transceive_loop_session`); and a frame it returns has what the last `receive`
promised of it, is of this motor and of the expected type, and has been offered
to the cache (`transceive_loop_ok`).

The last section lists what the public operations can send at all: six kinds of
exchange, `Issued`, so that a fact about every command is a fact about six frames
(`Command.operation_asks`, `Command.feedback_ensures`).
-/
import RobstrideDriver.ProtocolFields
import RobstrideDriver.RobstrideMotor

set_option autoImplicit false

open CppArith

namespace Robstride

namespace RobstrideMotor

/-- What the receive loop tests a frame for, and all it tests it for. -/
def Answers {D : Type} (self : RobstrideMotor D) (expected_type : CommType) (f : CanFrame) :
    Prop :=
  get_source_motor_id f = self.config_.motor_id ∧ get_comm_type f = expected_type.code

instance {D : Type} (self : RobstrideMotor D) (expected_type : CommType) :
    DecidablePred (self.Answers expected_type) :=
  fun _ => inferInstanceAs (Decidable (_ ∧ _))

variable {σ : Type*} {D : Type} [Add D] [Sub D] [Mul D] [Div D] [Neg D] [NatCast D]
  {can : CanInterface σ} {self : RobstrideMotor D} {expected_type : CommType} {deadline : ℤ}
  {st : Session σ D}

/-! ## One iteration -/

/-- The whole milliseconds left at this iteration. -/
def remaining (can : CanInterface σ) (deadline : ℤ) (st : Session σ D) : ℕ :=
  ((deadline - (can.now st.can).1) / 1000000).toNat

/-- The deadline has passed: nothing is received, and the wait ends in `TimeoutError`. -/
theorem transceive_loop_expired (hd : deadline ≤ (can.now st.can).1) :
    self.transceive_loop can expected_type deadline st
      = (.error (self.timeout expected_type), { st with can := (can.now st.can).2 }) := by
  rw [transceive_loop, if_pos hd]

section Receives

variable (hd : ¬ deadline ≤ (can.now st.can).1)
include hd

/-- What `receive` throws, the wait throws. -/
theorem transceive_loop_error {e : Exception} {s : σ}
    (hr : can.receive (remaining can deadline st) (can.now st.can).2 = (.error e, s)) :
    self.transceive_loop can expected_type deadline st = (.error e, { st with can := s }) := by
  rw [remaining] at hr
  rw [transceive_loop, if_neg hd]
  split <;> simp_all

/-- A `receive` that brings nothing ends the wait in `TimeoutError`, be the deadline past or not. -/
theorem transceive_loop_nullopt {s : σ}
    (hr : can.receive (remaining can deadline st) (can.now st.can).2 = (.ok none, s)) :
    self.transceive_loop can expected_type deadline st
      = (.error (self.timeout expected_type), { st with can := s }) := by
  rw [remaining] at hr
  rw [transceive_loop, if_neg hd]
  split <;> simp_all

variable {received : CanFrame} {s : σ}
  (hr : can.receive (remaining can deadline st) (can.now st.can).2 = (.ok (some received), s))
include hr

/-- A frame of another motor is dropped. -/
theorem transceive_loop_foreign (hs : get_source_motor_id received ≠ self.config_.motor_id) :
    self.transceive_loop can expected_type deadline st
      = self.transceive_loop can expected_type deadline { st with can := s } := by
  rw [remaining] at hr
  rw [transceive_loop, if_neg hd]
  split <;> simp_all

/-- A frame of the motor and of the expected type ends the wait, and is offered to the cache. -/
theorem transceive_loop_match (hs : get_source_motor_id received = self.config_.motor_id)
    (ht : get_comm_type received = expected_type.code) :
    self.transceive_loop can expected_type deadline st
      = (.ok received, ⟨self.cache received st.last_feedback_, s⟩) := by
  rw [remaining] at hr
  rw [transceive_loop, if_neg hd]
  split <;> simp_all

/-- A frame of the motor of another type is offered to the cache, and the wait goes on. -/
theorem transceive_loop_other (hs : get_source_motor_id received = self.config_.motor_id)
    (ht : get_comm_type received ≠ expected_type.code) :
    self.transceive_loop can expected_type deadline st
      = self.transceive_loop can expected_type deadline
          ⟨self.cache received st.last_feedback_, s⟩ := by
  rw [remaining] at hr
  rw [transceive_loop, if_neg hd]
  split <;> simp_all

end Receives

/-! ## The whole wait -/

/-- `last_feedback_` after a `receive`: a frame of this motor is offered to the cache. -/
def noticed (self : RobstrideMotor D) (r : Except Exception (Option CanFrame))
    (last : Option (Feedback D)) : Option (Feedback D) :=
  match r with
  | .ok (some f) =>
      if get_source_motor_id f = self.config_.motor_id then self.cache f last else last
  | _ => last

/-- What the clock and `receive` preserve of transport and cache together, a wait
preserves, however it ends. -/
theorem transceive_loop_session {I : Session σ D → Prop}
    (hnow : ∀ st, I st → I { st with can := (can.now st.can).2 })
    (hrecv : ∀ t st r s, I st → can.receive t st.can = (r, s) →
      I ⟨self.noticed r st.last_feedback_, s⟩)
    (hst : I st) : I (self.transceive_loop can expected_type deadline st).2 := by
  have own : ∀ {received : CanFrame} {st : Session σ D} {s : σ},
      get_source_motor_id received = self.config_.motor_id →
      I ⟨self.noticed (.ok (some received)) st.last_feedback_, s⟩ →
      I ⟨self.cache received st.last_feedback_, s⟩ := by
    intro received st s hs h
    rw [noticed, if_pos hs] at h
    exact h
  induction st using transceive_loop.induct can self expected_type deadline with
  | case1 st hd =>
    rw [transceive_loop_expired hd]
    exact hnow _ hst
  | case2 st hd e s hr =>
    rw [transceive_loop_error hd hr]
    exact hrecv _ _ _ _ (hnow _ hst) hr
  | case3 st hd s hr =>
    rw [transceive_loop_nullopt hd hr]
    exact hrecv _ _ _ _ (hnow _ hst) hr
  | case4 st hd received s hr hs ih =>
    have h := hrecv _ _ _ _ (hnow _ hst) hr
    rw [noticed, if_neg hs] at h
    rw [transceive_loop_foreign hd hr hs]
    exact ih h
  | case5 st hd received s hr hs ht =>
    have h := hrecv _ _ _ _ (hnow _ hst) hr
    rw [transceive_loop_match hd hr (not_not.mp hs) ht]
    exact own (not_not.mp hs) h
  | case6 st hd received s hr hs ht ih =>
    have h := hrecv _ _ _ _ (hnow _ hst) hr
    rw [transceive_loop_other hd hr (not_not.mp hs) ht]
    exact ih (own (not_not.mp hs) h)

/-- Partial correctness of a wait: `I` holds while frames that are no answer go
by, and `Q` is what receiving an answer establishes. -/
theorem transceive_loop_ok {I : σ → Prop} {Q : CanFrame → σ → Prop}
    (hnow : ∀ s, I s → I (can.now s).2)
    (hskip : ∀ t s f s', I s → can.receive t s = (.ok (some f), s') →
      ¬ self.Answers expected_type f → I s')
    (hanswer : ∀ t s f s', I s → can.receive t s = (.ok (some f), s') →
      self.Answers expected_type f → Q f s')
    (hst : I st.can) {r : CanFrame} {st' : Session σ D}
    (hrun : self.transceive_loop can expected_type deadline st = (.ok r, st')) :
    Q r st'.can ∧ self.Answers expected_type r ∧
      ∃ last, st'.last_feedback_ = self.cache r last := by
  induction st using transceive_loop.induct can self expected_type deadline with
  | case1 st hd =>
    rw [transceive_loop_expired hd] at hrun
    cases congrArg Prod.fst hrun
  | case2 st hd e s hr =>
    rw [transceive_loop_error hd hr] at hrun
    cases congrArg Prod.fst hrun
  | case3 st hd s hr =>
    rw [transceive_loop_nullopt hd hr] at hrun
    cases congrArg Prod.fst hrun
  | case4 st hd received s hr hs ih =>
    -- a frame of another motor is no answer
    rw [transceive_loop_foreign hd hr hs] at hrun
    exact ih (hskip _ _ _ _ (hnow _ hst) hr fun ha => hs ha.1) hrun
  | case5 st hd received s hr hs ht =>
    rw [transceive_loop_match hd hr (not_not.mp hs) ht] at hrun
    obtain ⟨rfl, rfl⟩ := Prod.mk.inj hrun |>.imp Except.ok.inj id
    have ha : self.Answers expected_type received := ⟨not_not.mp hs, ht⟩
    exact ⟨hanswer _ _ _ _ (hnow _ hst) hr ha, ha, _, rfl⟩
  | case6 st hd received s hr hs ht ih =>
    -- nor is one of another type, which may be cached
    rw [transceive_loop_other hd hr (not_not.mp hs) ht] at hrun
    exact ih (hskip _ _ _ _ (hnow _ hst) hr fun ha => ht ha.2) hrun

/-- Total correctness of a wait: where `I` holds the deadline is ahead and
another frame is to be had. It ends because the backlog shrinks. -/
theorem transceive_loop_returns {I : σ → Prop} {Q : CanFrame → σ → Prop}
    (hstep : ∀ t s, I s → (can.now s).1 < deadline ∧
      ∃ f s', can.receive t (can.now s).2 = (.ok (some f), s') ∧
        (self.Answers expected_type f → Q f s') ∧ (¬ self.Answers expected_type f → I s'))
    (hst : I st.can) :
    ∃ r st', self.transceive_loop can expected_type deadline st = (.ok r, st') ∧
      Q r st'.can ∧ self.Answers expected_type r ∧
        ∃ last, st'.last_feedback_ = self.cache r last := by
  induction hn : can.backlog st.can using Nat.strongRecOn generalizing st with
  | ind n ih =>
    obtain ⟨hlt, f, s', hr, hanswer, hskip⟩ := hstep (remaining can deadline st) st.can hst
    have hd : ¬ deadline ≤ (can.now st.can).1 := Int.not_le.mpr hlt
    -- the transport has handed out a frame, so its backlog is smaller
    have hless : can.backlog s' < n := by
      rw [← hn]
      exact Nat.lt_of_lt_of_le (can.receive_backlog _ _ _ _ hr) (can.now_backlog _)
    by_cases hs : get_source_motor_id f = self.config_.motor_id
    · by_cases ht : get_comm_type f = expected_type.code
      · exact ⟨f, _, transceive_loop_match hd hr hs ht, hanswer ⟨hs, ht⟩, ⟨hs, ht⟩, _, rfl⟩
      · rw [transceive_loop_other hd hr hs ht]
        exact ih _ hless (hskip fun ha => ht ha.2) rfl
    · rw [transceive_loop_foreign hd hr hs]
      exact ih _ hless (hskip fun ha => hs ha.1) rfl

/-- A transport that takes the frame leaves the wait, with its deadline counted from there. -/
theorem transceive_send_ok {frame : CanFrame} {s : σ} (hs : can.send frame st.can = (.ok (), s)) :
    self.transceive can frame expected_type st
      = self.transceive_loop can expected_type ((can.now s).1 + self.config_.timeout_ns)
          { st with can := (can.now s).2 } := by
  rw [transceive, hs]

theorem transceive_send_error {frame : CanFrame} {e : Exception} {s : σ}
    (hs : can.send frame st.can = (.error e, s)) :
    self.transceive can frame expected_type st = (.error e, { st with can := s }) := by
  rw [transceive, hs]

variable (can self expected_type st) in
/-- An exchange ends with the exception of its `send`, or is the wait after it. -/
theorem transceive_cases (frame : CanFrame) :
    (∃ e s, can.send frame st.can = (.error e, s) ∧
        self.transceive can frame expected_type st = (.error e, { st with can := s })) ∨
      ∃ s, can.send frame st.can = (.ok (), s) ∧
        self.transceive can frame expected_type st
          = self.transceive_loop can expected_type ((can.now s).1 + self.config_.timeout_ns)
              { st with can := (can.now s).2 } := by
  rcases hs : can.send frame st.can with ⟨e | u, s⟩
  · exact .inl ⟨e, s, rfl, transceive_send_error hs⟩
  · exact .inr ⟨s, rfl, transceive_send_ok hs⟩

/-- An exchange, from the rule for its wait: sending establishes `I`. -/
theorem transceive_ok {frame : CanFrame} {I : σ → Prop} {Q : CanFrame → σ → Prop}
    (hsend : ∀ s, can.send frame st.can = (.ok (), s) → I s)
    (hnow : ∀ s, I s → I (can.now s).2)
    (hskip : ∀ t s f s', I s → can.receive t s = (.ok (some f), s') →
      ¬ self.Answers expected_type f → I s')
    (hanswer : ∀ t s f s', I s → can.receive t s = (.ok (some f), s') →
      self.Answers expected_type f → Q f s')
    {r : CanFrame} {st' : Session σ D}
    (hrun : self.transceive can frame expected_type st = (.ok r, st')) :
    Q r st'.can ∧ self.Answers expected_type r ∧
      ∃ last, st'.last_feedback_ = self.cache r last := by
  rcases transceive_cases can self expected_type st frame with ⟨e, s, hs, heq⟩ | ⟨s, hs, heq⟩
  · rw [heq] at hrun
    cases congrArg Prod.fst hrun
  · rw [heq] at hrun
    exact transceive_loop_ok hnow hskip hanswer (hnow _ (hsend _ hs)) hrun

/-- And in the total sense: sending establishes `I`, and where `I` holds the
deadline, counted from the first reading, is ahead and another frame is to be had. -/
theorem transceive_returns {frame : CanFrame} {I : σ → Prop} {Q : CanFrame → σ → Prop} {s₀ : σ}
    (hsend : can.send frame st.can = (.ok (), s₀)) (hst : I (can.now s₀).2)
    (hstep : ∀ t s, I s → (can.now s).1 < (can.now s₀).1 + self.config_.timeout_ns ∧
      ∃ f s', can.receive t (can.now s).2 = (.ok (some f), s') ∧
        (self.Answers expected_type f → Q f s') ∧ (¬ self.Answers expected_type f → I s')) :
    ∃ r st', self.transceive can frame expected_type st = (.ok r, st') ∧
      Q r st'.can ∧ self.Answers expected_type r ∧
        ∃ last, st'.last_feedback_ = self.cache r last := by
  rw [transceive_send_ok hsend]
  exact transceive_loop_returns hstep hst

/-- What sending, the clock and `receive` preserve of transport and cache together, an
exchange preserves. -/
theorem transceive_session {frame : CanFrame} {I : Session σ D → Prop}
    (hsend : ∀ r s, can.send frame st.can = (r, s) → I { st with can := s })
    (hnow : ∀ st, I st → I { st with can := (can.now st.can).2 })
    (hrecv : ∀ t st r s, I st → can.receive t st.can = (r, s) →
      I ⟨self.noticed r st.last_feedback_, s⟩) :
    I (self.transceive can frame expected_type st).2 := by
  rcases transceive_cases can self expected_type st frame with ⟨e, s, hs, heq⟩ | ⟨s, hs, heq⟩
  · rw [heq]
    exact hsend _ _ hs
  · rw [heq]
    exact transceive_loop_session hnow hrecv (hnow _ (hsend _ _ hs))

/-- The same of the transport alone, whatever becomes of the cache. -/
theorem transceive_invariant {frame : CanFrame} {I : σ → Prop}
    (hsend : ∀ r s', can.send frame st.can = (r, s') → I s') (hnow : ∀ s, I s → I (can.now s).2)
    (hrecv : ∀ t s r s', I s → can.receive t s = (r, s') → I s') :
    I (self.transceive can frame expected_type st).2.can :=
  transceive_session (I := fun st => I st.can) hsend (fun st => hnow st.can)
    fun t st r s => hrecv t st.can r s

/-! ## Two transports

Transports that answer related states alike are told apart by no exchange. -/

section Transports

variable {τ : Type*} {can' : CanInterface τ} {R : σ → τ → Prop}

/-- The same cache over related transports. -/
structure Alike (R : σ → τ → Prop) (st : Session σ D) (st' : Session τ D) : Prop where
  last_feedback_ : st.last_feedback_ = st'.last_feedback_
  can : R st.can st'.can

variable (hnow : ∀ s s', R s s' →
    (can.now s).1 = (can'.now s').1 ∧ R (can.now s).2 (can'.now s').2)
  (hrecv : ∀ t s s', R s s' →
    (can.receive t s).1 = (can'.receive t s').1 ∧ R (can.receive t s).2 (can'.receive t s').2)
include hnow hrecv

omit [Add D] [Sub D] [Mul D] [Div D] [Neg D] [NatCast D] in
/-- One `receive` of the wait, on two transports that are alike. -/
theorem receive_alike {st' : Session τ D} (hst : Alike R st st')
    {r : Except Exception (Option CanFrame)} {s : σ}
    (hr : can.receive (remaining can deadline st) (can.now st.can).2 = (r, s)) :
    ∃ s', can'.receive (remaining can' deadline st') (can'.now st'.can).2 = (r, s') ∧ R s s' := by
  obtain ⟨heq, hrel⟩ := hnow _ _ hst.can
  obtain ⟨hr', hrel'⟩ := hrecv (remaining can deadline st) _ _ hrel
  rw [hr] at hr' hrel'
  rw [remaining, heq] at hr' hrel'
  exact ⟨_, Prod.ext hr'.symm rfl, hrel'⟩

theorem transceive_loop_alike {st' : Session τ D} (hst : Alike R st st') :
    (self.transceive_loop can expected_type deadline st).1
        = (self.transceive_loop can' expected_type deadline st').1 ∧
      Alike R (self.transceive_loop can expected_type deadline st).2
        (self.transceive_loop can' expected_type deadline st').2 := by
  have hclock : ∀ {st : Session σ D} {st' : Session τ D}, Alike R st st' →
      (can.now st.can).1 = (can'.now st'.can).1 := fun h => (hnow _ _ h.can).1
  induction st using transceive_loop.induct can self expected_type deadline generalizing st' with
  | case1 st hd =>
    rw [transceive_loop_expired hd, transceive_loop_expired (hclock hst ▸ hd)]
    exact ⟨rfl, hst.last_feedback_, (hnow _ _ hst.can).2⟩
  | case2 st hd e s hr =>
    obtain ⟨s', hr', hrel⟩ := receive_alike hnow hrecv hst hr
    rw [transceive_loop_error hd hr, transceive_loop_error (hclock hst ▸ hd) hr']
    exact ⟨rfl, hst.last_feedback_, hrel⟩
  | case3 st hd s hr =>
    obtain ⟨s', hr', hrel⟩ := receive_alike hnow hrecv hst hr
    rw [transceive_loop_nullopt hd hr, transceive_loop_nullopt (hclock hst ▸ hd) hr']
    exact ⟨rfl, hst.last_feedback_, hrel⟩
  | case4 st hd received s hr hs ih =>
    obtain ⟨s', hr', hrel⟩ := receive_alike hnow hrecv hst hr
    rw [transceive_loop_foreign hd hr hs, transceive_loop_foreign (hclock hst ▸ hd) hr' hs]
    exact ih ⟨hst.last_feedback_, hrel⟩
  | case5 st hd received s hr hs ht =>
    obtain ⟨s', hr', hrel⟩ := receive_alike hnow hrecv hst hr
    rw [transceive_loop_match hd hr (not_not.mp hs) ht,
      transceive_loop_match (hclock hst ▸ hd) hr' (not_not.mp hs) ht]
    exact ⟨rfl, congrArg (self.cache received) hst.last_feedback_, hrel⟩
  | case6 st hd received s hr hs ht ih =>
    obtain ⟨s', hr', hrel⟩ := receive_alike hnow hrecv hst hr
    rw [transceive_loop_other hd hr (not_not.mp hs) ht,
      transceive_loop_other (hclock hst ▸ hd) hr' (not_not.mp hs) ht]
    exact ih ⟨congrArg (self.cache received) hst.last_feedback_, hrel⟩

/-- An exchange goes alike on two transports whose steps do: what it returns is the same, and so are
the caches after it. -/
theorem exchange_alike (hsend : ∀ f s s', R s s' →
      (can.send f s).1 = (can'.send f s').1 ∧ R (can.send f s).2 (can'.send f s').2)
    (e : Exchange) {st' : Session τ D} (hst : Alike R st st') :
    (self.exchange can e st).1 = (self.exchange can' e st').1 ∧
      Alike R (self.exchange can e st).2 (self.exchange can' e st').2 := by
  obtain ⟨hs, hrel⟩ := hsend e.frame _ _ hst.can
  rw [exchange, exchange]
  rcases transceive_cases can self e.expected_type st e.frame with
    ⟨err, s, hr, heq⟩ | ⟨s, hr, heq⟩
  · rw [hr] at hs hrel
    rw [heq, transceive_send_error (Prod.ext hs.symm rfl)]
    exact ⟨rfl, hst.last_feedback_, hrel⟩
  · rw [hr] at hs hrel
    obtain ⟨hclock, hrel'⟩ := hnow _ _ hrel
    rw [heq, transceive_send_ok (Prod.ext hs.symm rfl), ← hclock]
    exact transceive_loop_alike hnow hrecv ⟨hst.last_feedback_, hrel'⟩

end Transports

end RobstrideMotor

/-! ## What the operations return

Every operation is `transceive_feedback` or a parameter read, or a sequence of
these; each returns normally exactly when its exchange does and the frame parses. -/

section Returns

variable {D : Type}

/-- Both reads are one program: an exchange, then a field of the parsed answer. -/
def RobstrideMotor.read_param {α : Type} (self : RobstrideMotor D) (index : UInt16)
    (field : ParamResponse → α) : Operation α := do
  let response ← .request
    ⟨make_read_param_frame self.config_.motor_id self.config_.host_id index, .ReadParam⟩
  return field (← parse_param_response_or_throw response)

theorem read_param_float_eq (self : RobstrideMotor D) (index : UInt16) :
    self.read_param_float index = self.read_param index ParamResponse.as_float := rfl

theorem read_param_uint8_eq (self : RobstrideMotor D) (index : UInt16) :
    self.read_param_uint8 index = self.read_param index ParamResponse.as_uint8 := rfl

variable {σ : Type*} [Add D] [Sub D] [Mul D] [Div D] [Neg D] [NatCast D]
  {can : CanInterface σ} {self : RobstrideMotor D} {st st' : Session σ D}

theorem run_parse_param_response_or_throw_ok {f : CanFrame} {resp : ParamResponse} :
    Dialogue.run (self.exchange can) (parse_param_response_or_throw f) st = (.ok resp, st') ↔
      parse_param_response f = some resp ∧ st = st' := by
  rw [parse_param_response_or_throw]
  cases parse_param_response f with
  | none => simp only [Dialogue.run_fail, Prod.mk.injEq, reduceCtorEq, false_and]
  | some resp' =>
    simp only [Dialogue.run_done, Prod.mk.injEq, Except.ok.injEq, Option.some.injEq]

theorem run_read_param_ok {α : Type} {index : UInt16} {field : ParamResponse → α} {v : α} :
    Dialogue.run (self.exchange can) (self.read_param index field) st = (.ok v, st') ↔
      ∃ r resp, self.transceive can
          (make_read_param_frame self.config_.motor_id self.config_.host_id index) .ReadParam st
          = (.ok r, st') ∧
        parse_param_response r = some resp ∧ v = field resp := by
  rw [RobstrideMotor.read_param, Dialogue.run_bind_eq_ok]
  constructor
  · rintro ⟨r, st₁, hr, hk⟩
    rw [Dialogue.run_request] at hr
    obtain ⟨resp, st₂, hparse, hval⟩ := Dialogue.run_bind_eq_ok.mp hk
    obtain ⟨hp, rfl⟩ := run_parse_param_response_or_throw_ok.mp hparse
    obtain ⟨hv, rfl⟩ := Prod.mk.inj hval
    exact ⟨r, resp, hr, hp, (Except.ok.inj hv).symm⟩
  · rintro ⟨r, resp, hr, hp, rfl⟩
    refine ⟨r, st', ?_, ?_⟩
    · rw [Dialogue.run_request]
      exact hr
    · refine Dialogue.run_bind_eq_ok.mpr ⟨resp, st', ?_, rfl⟩
      exact run_parse_param_response_or_throw_ok.mpr ⟨hp, rfl⟩

theorem run_transceive_feedback_ok {frame : CanFrame} {fb : Feedback D} :
    Dialogue.run (self.exchange can) (self.transceive_feedback frame) st = (.ok fb, st') ↔
      ∃ r, self.transceive can frame .Feedback st = (.ok r, st') ∧
        parse_feedback r self.limits_ = some fb := by
  rw [RobstrideMotor.transceive_feedback, Dialogue.run_bind_eq_ok]
  constructor
  · rintro ⟨r, st₁, hr, hk⟩
    rw [Dialogue.run_request] at hr
    cases hp : parse_feedback r self.limits_ with
    | none =>
      simp only [hp] at hk
      cases congrArg Prod.fst hk
    | some fb' =>
      simp only [hp] at hk
      obtain ⟨hv, rfl⟩ := Prod.mk.inj hk
      exact ⟨r, hr, hp.trans (congrArg some (Except.ok.inj hv))⟩
  · rintro ⟨r, hr, hp⟩
    refine ⟨r, st', ?_, ?_⟩
    · rw [Dialogue.run_request]
      exact hr
    · simp only [hp]
      rfl

/-- `set_run_mode` returns normally exactly when its three exchanges do, both
feedback frames parse, and the byte read back is the mode. -/
theorem run_set_run_mode_ok {mode : RunMode} :
    Dialogue.run (self.exchange can) (self.set_run_mode mode) st = (.ok (), st') ↔
      ∃ fb₁ st₁ fb₂ st₂, Dialogue.run (self.exchange can) self.disable st = (.ok fb₁, st₁) ∧
        Dialogue.run (self.exchange can)
          (self.write_param_uint8 param_index.run_mode mode.raw) st₁ = (.ok fb₂, st₂) ∧
        Dialogue.run (self.exchange can) (self.read_param_uint8 param_index.run_mode) st₂
          = (.ok mode.raw, st') := by
  rw [RobstrideMotor.set_run_mode, Dialogue.run_bind_eq_ok]
  constructor
  · rintro ⟨fb₁, st₁, h₁, hk⟩
    obtain ⟨fb₂, st₂, h₂, hk⟩ := Dialogue.run_bind_eq_ok.mp hk
    obtain ⟨actual, st₃, hget, hk⟩ := Dialogue.run_bind_eq_ok.mp hk
    obtain ⟨v, st₄, h₃, hval⟩ := Dialogue.run_bind_eq_ok.mp hget
    obtain ⟨hv, rfl⟩ := Prod.mk.inj hval
    obtain rfl := Except.ok.inj hv
    by_cases hne : (⟨v⟩ : RunMode) ≠ mode
    · rw [if_pos hne] at hk
      cases congrArg Prod.fst hk
    · rw [if_neg hne] at hk
      obtain ⟨-, rfl⟩ := Prod.mk.inj hk
      obtain rfl := not_not.mp hne
      exact ⟨fb₁, st₁, fb₂, st₂, h₁, h₂, h₃⟩
  · rintro ⟨fb₁, st₁, fb₂, st₂, h₁, h₂, h₃⟩
    refine ⟨fb₁, st₁, h₁, Dialogue.run_bind_eq_ok.mpr ⟨fb₂, st₂, h₂, ?_⟩⟩
    refine Dialogue.run_bind_eq_ok.mpr ⟨mode, st', ?_, ?_⟩
    · exact Dialogue.run_bind_eq_ok.mpr ⟨mode.raw, st', h₃, rfl⟩
    · rw [if_neg (not_not.mpr rfl)]
      rfl

end Returns

/-! ## What the operations send -/

/-- The communication type a command frame is answered with. -/
def answer_type (frame : CanFrame) : CommType :=
  if get_comm_type frame = CommType.ReadParam.code then .ReadParam else .Feedback

section Issued

variable {D : Type} [Sub D] [Mul D] [Div D] [Neg D] [NatCast D]
  [LT D] [DecidableLT D] [DoubleMath D]

/-- The exchanges the operations of a motor are made of. -/
inductive Issued (self : RobstrideMotor D) : Exchange → Prop
  | enable : Issued self ⟨make_enable_frame self.config_.motor_id self.config_.host_id, .Feedback⟩
  | stop (clear_fault : Bool) : Issued self
      ⟨make_stop_frame self.config_.motor_id self.config_.host_id clear_fault, .Feedback⟩
  | zero : Issued self
      ⟨make_set_mechanical_zero_frame self.config_.motor_id self.config_.host_id, .Feedback⟩
  | motion (torque position velocity kp kd : D) : Issued self
      ⟨make_motion_control_frame self.config_.motor_id torque position velocity kp kd
        self.limits_, .Feedback⟩
  | read (index : UInt16) : Issued self
      ⟨make_read_param_frame self.config_.motor_id self.config_.host_id index, .ReadParam⟩
  | write (index : UInt16) (value : Vector UInt8 4) : Issued self
      ⟨make_write_param_frame_base self.config_.motor_id self.config_.host_id index value,
        .Feedback⟩

variable {self : RobstrideMotor D}

section Vocabulary

variable {P : Exchange → Prop}

omit [LT D] [DecidableLT D] [DoubleMath D] in
theorem transceive_feedback_asks [Add D] {frame : CanFrame} (hf : P ⟨frame, .Feedback⟩) :
    (self.transceive_feedback frame).Asks P := by
  refine Dialogue.Asks.bind (.request hf) fun response => ?_
  cases parse_feedback response self.limits_ <;> exact True.intro

theorem parse_param_response_or_throw_asks (P : Exchange → Prop) (frame : CanFrame) :
    (parse_param_response_or_throw frame).Asks P := by
  rw [parse_param_response_or_throw]
  cases parse_param_response frame <;> exact True.intro

omit [Sub D] [Mul D] [Div D] [Neg D] [NatCast D] [LT D] [DecidableLT D] [DoubleMath D] in
theorem read_param_uint8_asks (index : UInt16) (hread : P
      ⟨make_read_param_frame self.config_.motor_id self.config_.host_id index, .ReadParam⟩) :
    (self.read_param_uint8 index).Asks P :=
  .bind (.request hread) fun r =>
    .bind (parse_param_response_or_throw_asks _ r) fun _ => True.intro

/-- **What a command asks for**: exchanges that are not motion commands, and the motion
command with its own arguments. -/
theorem Command.operation_asks_of [Add D] [FloatConv D] (self : RobstrideMotor D) (c : Command D)
    (hother : ∀ e, Issued self e → get_comm_type e.frame ≠ CommType.MotionControl.code → P e)
    (hmotion : ∀ torque position velocity kp kd,
      c = .send_motion_command torque position velocity kp kd →
        P ⟨make_motion_control_frame self.config_.motor_id torque position velocity kp kd
          self.limits_, .Feedback⟩) :
    (c.operation self).Asks P := by
  have of_type : ∀ {e : Exchange} {type : CommType}, Issued self e →
      get_comm_type e.frame = type.code → type ≠ .MotionControl → P e := by
    intro e type he htype hne
    apply hother e he
    rw [htype]
    exact fun h => hne (CommType.code_inj.mp h)
  have enable : P ⟨make_enable_frame self.config_.motor_id self.config_.host_id, .Feedback⟩ :=
    of_type .enable (get_comm_type_make_id _ _ _ _ _) (by decide)
  have stop : ∀ clear_fault, P
      ⟨make_stop_frame self.config_.motor_id self.config_.host_id clear_fault, .Feedback⟩ :=
    fun clear_fault =>
      of_type (.stop clear_fault) (get_comm_type_make_id _ _ _ _ _) (by decide)
  have zero : P
      ⟨make_set_mechanical_zero_frame self.config_.motor_id self.config_.host_id, .Feedback⟩ :=
    of_type .zero (get_comm_type_make_id _ _ _ _ _) (by decide)
  have read : ∀ index, P
      ⟨make_read_param_frame self.config_.motor_id self.config_.host_id index, .ReadParam⟩ :=
    fun index => of_type (.read index) (get_comm_type_make_id _ _ _ _ _) (by decide)
  have write : ∀ index value, (self.transceive_feedback (make_write_param_frame_base
      self.config_.motor_id self.config_.host_id index value)).Asks P :=
    fun index value => transceive_feedback_asks
      (of_type (.write index value) (get_comm_type_make_id _ _ _ _ _) (by decide))
  have disable : ∀ clear_fault, (self.disable clear_fault).Asks P :=
    fun clear_fault => transceive_feedback_asks (stop clear_fault)
  have get_run_mode : self.get_run_mode.Asks P :=
    .bind (read_param_uint8_asks _ (read _)) fun _ => True.intro
  cases c with
  | enable => exact .bind (transceive_feedback_asks enable) fun _ => True.intro
  | disable clear_fault => exact .bind (disable clear_fault) fun _ => True.intro
  | set_run_mode mode =>
    refine .bind ?_ fun _ => True.intro
    refine .bind (disable false) fun _ => .bind (write _ _) fun _ =>
      .bind get_run_mode fun actual => ?_
    by_cases h : actual ≠ mode
    · rw [if_pos h]
      exact True.intro
    · rw [if_neg h]
      exact True.intro
  | get_run_mode => exact .bind get_run_mode fun _ => True.intro
  | configure_velocity_mode current_limit acceleration =>
    exact .bind (.bind (write _ _) fun _ => .bind (write _ _) fun _ => True.intro)
      fun _ => True.intro
  | send_velocity_command velocity => exact .bind (write _ _) fun _ => True.intro
  | send_position_csp_command position speed_limit =>
    exact .bind (.bind (write _ _) fun _ => write _ _) fun _ => True.intro
  | send_motion_command torque position velocity kp kd =>
    exact .bind (transceive_feedback_asks (hmotion torque position velocity kp kd rfl))
      fun _ => True.intro
  | set_mechanical_zero =>
    exact .bind (.bind (disable false) fun _ =>
      .bind (transceive_feedback_asks zero) fun _ => True.intro) fun _ => True.intro
  | read_param_float index =>
    exact .bind (.bind (.request (read index)) fun r =>
      .bind (parse_param_response_or_throw_asks _ r) fun _ => True.intro) fun _ => True.intro
  | read_param_uint8 index =>
    exact .bind (read_param_uint8_asks index (read index)) fun _ => True.intro
  | write_param_float index value => exact .bind (write index value.bytes) fun _ => True.intro
  | write_param_uint8 index value => exact .bind (write index _) fun _ => True.intro

end Vocabulary

/-- **Every command is made of the listed exchanges.** -/
theorem Command.operation_asks [Add D] [FloatConv D] (self : RobstrideMotor D) (c : Command D) :
    (c.operation self).Asks (Issued self) :=
  Command.operation_asks_of self c (fun _ he _ => he)
    fun torque position velocity kp kd _ => .motion torque position velocity kp kd

/-- **What a feedback exchange ensures, a command that returns feedback ensures**:
such a command ends with that exchange. `I` is what the exchanges before it keep. -/
theorem Command.feedback_ensures {σ : Type*} [Add D] [FloatConv D] {can : CanInterface σ}
    {I : Session σ D → Prop} {Q : Feedback D → Session σ D → Prop}
    (hI : ∀ e st, Issued self e → I st → I (self.exchange can e st).2)
    (hQ : ∀ frame, Issued self ⟨frame, .Feedback⟩ →
      Dialogue.Ensures (self.exchange can) I (self.transceive_feedback frame) Q)
    (c : Command D) :
    Dialogue.Ensures (self.exchange can) I (c.operation self)
      fun v st => ∀ fb, v = .feedback fb → Q fb st := by
  have feedback : ∀ {p : Operation (Feedback D)}, Dialogue.Ensures (self.exchange can) I p Q →
      Dialogue.Ensures (self.exchange can) I (p >>= fun fb => .done (Value.feedback fb))
        fun v st => ∀ fb, v = .feedback fb → Q fb st := by
    refine fun hp => hp.bind fun fb => .done fun st h fb' heq => ?_
    obtain rfl := Value.feedback.inj heq
    exact h
  have other : ∀ {α : Type} (p : Operation α) (result : α → Value D),
      (∀ a fb, result a ≠ .feedback fb) →
      Dialogue.Ensures (self.exchange can) I (p >>= fun a => .done (result a))
        fun v st => ∀ fb, v = .feedback fb → Q fb st :=
    fun p result hresult =>
      (Dialogue.Ensures.trivial p).bind fun a => .done fun _ _ fb heq => absurd heq (hresult a fb)
  have write : ∀ (index : UInt16) (value : F32), Issued self
      ⟨make_write_param_frame_float self.config_.motor_id self.config_.host_id index value,
        .Feedback⟩ :=
    fun index value => .write index value.bytes
  cases c with
  | enable => exact feedback (hQ _ .enable)
  | disable clear_fault => exact feedback (hQ _ (.stop clear_fault))
  | set_run_mode mode => exact other _ (fun _ => .void) fun _ _ h => nomatch h
  | get_run_mode => exact other _ (fun mode => .run_mode mode) fun _ _ h => nomatch h
  | configure_velocity_mode current_limit acceleration =>
    exact other _ (fun _ => .void) fun _ _ h => nomatch h
  | send_velocity_command velocity => exact feedback (hQ _ (write _ _))
  | send_position_csp_command position speed_limit =>
    have first : (self.write_param_float param_index.limit_spd
        (FloatConv.toFloat speed_limit)).Asks (Issued self) :=
      transceive_feedback_asks (write _ _)
    exact feedback ((Dialogue.Ensures.of_invariant (I := I) hI first).bind
      fun _ => hQ _ (write _ _))
  | send_motion_command torque position velocity kp kd =>
    exact feedback (hQ _ (.motion torque position velocity kp kd))
  | set_mechanical_zero => exact other _ (fun _ => .void) fun _ _ h => nomatch h
  | read_param_float index => exact other _ (fun v => .float v) fun _ _ h => nomatch h
  | read_param_uint8 index => exact other _ (fun v => .uint8 v) fun _ _ h => nomatch h
  | write_param_float index value => exact feedback (hQ _ (write _ _))
  | write_param_uint8 index value => exact feedback (hQ _ (.write index _))

end Issued

end Robstride
