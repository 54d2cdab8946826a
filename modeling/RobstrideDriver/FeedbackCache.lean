/-
`last_feedback_` over any transport.

The receive loop caches as it goes, before it knows what the exchange will come to,
so the cache is a register written by every frame received (`CacheExact`), and
not a summary of the operations that succeeded. The history it is the register of is
not in the driver: `logged` puts a recorder into the transport, which the driver cannot
tell from the bare one (`logged_run_alike`).

Nothing is assumed of the transport: frames of any length from anyone, timeouts and
exceptions at any point of an operation.
-/
import RobstrideDriver.Fixtures
import RobstrideDriver.Lib.History
import RobstrideDriver.ScriptedBus

set_option autoImplicit false

open CppArith

namespace Robstride

/-! ## The recorder -/

/-- A transport's state, and the frames its `receive` has handed out. -/
structure Logged (σ : Type*) where
  bus : σ
  received : List CanFrame := []

/-- What a `receive` adds to the record. -/
def received_frame : Except Exception (Option CanFrame) → List CanFrame
  | .ok (some f) => [f]
  | _ => []

def logged {σ : Type*} (can : CanInterface σ) : CanInterface (Logged σ) where
  send f s := ((can.send f s.bus).1, { s with bus := (can.send f s.bus).2 })
  receive t s :=
    ((can.receive t s.bus).1,
      ⟨(can.receive t s.bus).2, s.received ++ received_frame (can.receive t s.bus).1⟩)
  now s := ((can.now s.bus).1, { s with bus := (can.now s.bus).2 })
  backlog s := can.backlog s.bus
  now_backlog s := can.now_backlog s.bus
  receive_backlog := by
    intro t s f s' h
    obtain ⟨h₁, rfl⟩ := Prod.mk.inj h
    exact can.receive_backlog t s.bus f _ (Prod.ext h₁ rfl)

/-! ## The cache as a register -/

section Cache

variable {σ : Type*} {D : Type} [Add D] [Sub D] [Mul D] [Div D] [Neg D] [NatCast D]
  {can : CanInterface σ} {self : RobstrideMotor D}

/-- A frame of this motor, of type feedback, and long enough to be one. -/
def OwnFeedback (self : RobstrideMotor D) (f : CanFrame) : Prop :=
  get_source_motor_id f = self.config_.motor_id ∧ get_comm_type f = CommType.Feedback.code ∧
    8 ≤ f.dlc

instance (self : RobstrideMotor D) : DecidablePred (OwnFeedback self) :=
  fun _ => inferInstanceAs (Decidable (_ ∧ _ ∧ _))

/-- What a received frame writes into the cache, if anything. -/
def own_feedback (self : RobstrideMotor D) (f : CanFrame) : Option CanFrame :=
  if OwnFeedback self f then some f else none

/-- The decoding of the last feedback frame of this motor among the received ones. -/
def latest_feedback (self : RobstrideMotor D) (received : List CanFrame) : Option (Feedback D) :=
  (History.latest (own_feedback self) received).bind fun f => parse_feedback f self.limits_

/-- The cache is exact. -/
def CacheExact (self : RobstrideMotor D) (st : Session (Logged σ) D) : Prop :=
  st.last_feedback_ = latest_feedback self st.can.received

/-- A frame of another type, or a shorter one, is no feedback. -/
theorem parse_feedback_eq_none_of_not {limits : ActuatorLimits D} {f : CanFrame}
    (h : ¬ (get_comm_type f = CommType.Feedback.code ∧ 8 ≤ f.dlc)) :
    parse_feedback f limits = none := by
  rw [parse_feedback]
  by_cases htype : get_comm_type f = CommType.Feedback.code
  · have hdlc : f.dlc < 8 := UInt8.not_le.mp fun hge => h ⟨htype, hge⟩
    rw [if_neg (not_not.mpr htype), if_pos hdlc]
  · rw [if_pos htype]

/-- A feedback frame of eight bytes always parses: any codes, modes and fault bits have a
meaning. -/
theorem parse_feedback_isSome {limits : ActuatorLimits D} {f : CanFrame}
    (htype : get_comm_type f = CommType.Feedback.code) (hdlc : 8 ≤ f.dlc) :
    (parse_feedback f limits).isSome := by
  rw [parse_feedback, if_neg (not_not.mpr htype), if_neg (UInt8.not_lt.mpr hdlc)]
  rfl

/-- One received frame: what the loop does to the cache is what the record says, that feedback of
this motor replaces what was there and all else leaves it. -/
theorem noticed_eq (r : Except Exception (Option CanFrame)) (received : List CanFrame) :
    self.noticed r (latest_feedback self received)
      = latest_feedback self (received ++ received_frame r) := by
  match r with
  | .error e =>
    show _ = latest_feedback self (received ++ [])
    rw [List.append_nil]
    rfl
  | .ok none =>
    show _ = latest_feedback self (received ++ [])
    rw [List.append_nil]
    rfl
  | .ok (some f) =>
    rw [received_frame, RobstrideMotor.noticed, RobstrideMotor.cache]
    by_cases hown : OwnFeedback self f
    · have hwrites : own_feedback self f = some f := if_pos hown
      obtain ⟨hsource, htype, hdlc⟩ := hown
      obtain ⟨fb, hfb⟩ : ∃ fb, parse_feedback f self.limits_ = some fb :=
        Option.isSome_iff_exists.mp (parse_feedback_isSome htype hdlc)
      rw [if_pos hsource, latest_feedback, latest_feedback, hfb, Option.some_or,
        History.latest_concat_some hwrites, Option.bind_some, hfb]
    · have hwrites : own_feedback self f = none := if_neg hown
      rw [latest_feedback, latest_feedback, History.latest_concat_none hwrites]
      split_ifs with hsource
      · -- of this motor, but nothing `parse_feedback` accepts
        rw [parse_feedback_eq_none_of_not fun h => hown ⟨hsource, h⟩, Option.none_or]
      · rfl

/-- One exchange, whether it returns or throws: the cache is the last feedback of the motor in the
record, and the frames that were skipped count as well. -/
theorem exchange_cache_exact (e : Exchange) {st : Session (Logged σ) D}
    (hst : CacheExact self st) : CacheExact self (self.exchange (logged can) e st).2 := by
  refine RobstrideMotor.transceive_session ?_ (fun st h => h) ?_
  · intro r s hs
    obtain ⟨-, rfl⟩ := Prod.mk.inj hs
    exact hst
  · intro t st r s hst hr
    obtain ⟨rfl, rfl⟩ := Prod.mk.inj hr
    have hlast : st.last_feedback_ = latest_feedback self st.can.received := hst
    show self.noticed _ st.last_feedback_ = _
    rw [hlast]
    exact noticed_eq _ _

/-! ## The operations -/

/-- A feedback exchange that returns normally returns what it cached, for the answer was the last
frame it received. -/
theorem transceive_feedback_cached (frame : CanFrame) :
    Dialogue.Ensures (self.exchange can) (fun _ => True) (self.transceive_feedback frame)
      fun fb st => st.last_feedback_ = some fb := by
  intro st fb st' _ hrun
  obtain ⟨r, htransceive, hparse⟩ := run_transceive_feedback_ok.mp hrun
  obtain ⟨-, -, last, hlast⟩ := RobstrideMotor.transceive_ok (I := fun _ => True)
    (Q := fun _ _ => True) (fun _ _ => trivial) (fun _ _ => trivial)
    (fun _ _ _ _ _ _ _ => trivial) (fun _ _ _ _ _ _ _ => trivial) htransceive
  rw [hlast, RobstrideMotor.cache, hparse, Option.some_or]

variable [LT D] [DecidableLT D] [DoubleMath D] [FloatConv D]

/-- The recorder changes nothing: whatever is run over the bare transport goes the same
way over the recording one. -/
theorem logged_run_alike (c : Command D) {st : Session σ D} {st' : Session (Logged σ) D}
    (hst : RobstrideMotor.Alike (fun s s' => s = s'.bus) st st') :
    (c.run can self st).1 = (c.run (logged can) self st').1 ∧
      RobstrideMotor.Alike (fun s s' => s = s'.bus) (c.run can self st).2
        (c.run (logged can) self st').2 := by
  refine Dialogue.run_rel ?_ (Dialogue.Asks.trivial _) hst
  intro e st st' _ h
  refine RobstrideMotor.exchange_alike ?_ ?_ ?_ e h
  · rintro _ s rfl
    exact ⟨rfl, rfl⟩
  · rintro t _ s rfl
    exact ⟨rfl, rfl⟩
  · rintro f _ s rfl
    exact ⟨rfl, rfl⟩

/-- **The cache is exact.** After every operation of a session, whatever it came to,
`last_feedback_` is the decoding of the last feedback frame received of the motor, and a
feedback that an operation returns is that one. -/
theorem last_feedback_exact (can : CanInterface σ) (self : RobstrideMotor D)
    (commands : List (Command D)) (s : σ) :
    ∀ event ∈ Dialogue.session (self.exchange (logged can))
        (commands.map (Command.operation self)) ⟨none, { bus := s }⟩,
      event.2.last_feedback_ = latest_feedback self event.2.can.received ∧
        ∀ fb, event.1 = .ok (.feedback fb) → event.2.last_feedback_ = some fb := by
  have hstart : CacheExact self ⟨none, { bus := s }⟩ := rfl
  revert hstart
  generalize (⟨none, { bus := s }⟩ : Session (Logged σ) D) = st
  intro hst
  induction commands generalizing st with
  | nil => exact fun event hevent => nomatch hevent
  | cons c commands ih =>
    have hafter : CacheExact self (c.run (logged can) self st).2 :=
      Dialogue.run_invariant (fun e st _ h => exchange_cache_exact e h)
        (Dialogue.Asks.trivial _) hst
    intro event hevent
    rcases List.mem_cons.mp hevent with rfl | hevent
    · refine ⟨hafter, fun fb hfb => ?_⟩
      exact c.feedback_ensures (I := fun _ => True) (fun _ _ _ _ => trivial)
        (fun frame _ => transceive_feedback_cached frame) st _ _ trivial
        (Prod.ext hfb rfl) fb rfl
    · exact ih _ hafter event hevent

end Cache

/-- `get_run_mode` with a feedback frame in the way and no answer behind it. -/
def fixtures.interrupted : Except Exception (Value ℚ) × Session (Logged Script) ℚ :=
  Command.get_run_mode.run (logged (scripted fun _ _ _ => 0)) single
    ⟨none, { bus := { receipts := [.frame enable_answer, .nullopt] } }⟩

/-- The wait comes to nothing, and the feedback that went by is cached. -/
theorem last_feedback_exact_timeout :
    fixtures.interrupted.2.last_feedback_
      = latest_feedback fixtures.single fixtures.interrupted.2.can.received :=
  (last_feedback_exact (scripted fun _ _ _ => 0) fixtures.single [.get_run_mode]
    { receipts := [.frame fixtures.enable_answer, .nullopt] } _ List.mem_cons_self).1

end Robstride
