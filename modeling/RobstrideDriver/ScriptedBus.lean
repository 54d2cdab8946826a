/-
The scripted bus: a transport that plays back a list of `receive` outcomes.

This is the `MockCanInterface` of the unit tests with three things added: an
outcome may also be `nullopt` or a thrown exception, the frames handed out are
recorded next to the frames sent, and the steady clock is arbitrary. A clock
here gives each reading as a function of the exchange it belongs to, its number
within that exchange and how many outcomes are left, with no monotonicity
assumed, so any scheduling of the process is covered.

On such a bus the receive loop is a function of the outcome list alone, `await`,
once it is known at which lengths of the list the deadline test fires.
`transceive_scripted` says so; everything about what a wait accepts is then an
induction on a list.
-/
import RobstrideDriver.TransceiveRules

set_option autoImplicit false

open CppArith

namespace Robstride

/-! ## The transport -/

/-- What one `receive` call does. -/
inductive Receipt where
  | frame (f : CanFrame)
  | nullopt
  | error (e : Exception)
deriving DecidableEq, Repr

/-- Steady-clock readings, in nanoseconds. -/
abbrev Clock := (exchange : ℕ) → (reading : ℕ) → (left : ℕ) → ℤ

structure Script where
  sent : List CanFrame := []
  receipts : List Receipt
  received : List CanFrame := []
  exchanges : ℕ := 0
  readings : ℕ := 0
deriving DecidableEq, Repr

/-- Playing back a script; a script that is played out answers `nullopt`. -/
def scripted (clock : Clock) : CanInterface Script where
  send f s :=
    (.ok (), { s with sent := s.sent ++ [f], exchanges := s.exchanges + 1, readings := 0 })
  receive _ s :=
    match s.receipts with
    | [] => (.ok none, s)
    | .frame f :: rest =>
      (.ok (some f), { s with receipts := rest, received := s.received ++ [f] })
    | .nullopt :: rest => (.ok none, { s with receipts := rest })
    | .error e :: rest => (.error e, { s with receipts := rest })
  now s :=
    (clock s.exchanges s.readings s.receipts.length, { s with readings := s.readings + 1 })
  backlog s := s.receipts.length
  now_backlog _ := Nat.le_refl _
  receive_backlog := by
    intro t s f s' h
    cases hs : s.receipts with
    | nil => simp [hs] at h
    | cons x rest =>
      cases x <;> simp [hs] at h
      obtain ⟨-, rfl⟩ := h
      simp

/-! ## The wait as a function of the outcomes -/

section Await

variable {D : Type} [Add D] [Sub D] [Mul D] [Div D] [Neg D] [NatCast D]

/-- The outcome of a wait over a list of receipts. -/
structure Awaited (D : Type) where
  reply : Except Exception CanFrame
  last_feedback_ : Option (Feedback D)
  received : List CanFrame
  rest : List Receipt

/-- The wait over a list of receipts; `late n` says whether the deadline test
fires when `n` of them are left. -/
def RobstrideMotor.await (self : RobstrideMotor D) (expected_type : CommType) (late : ℕ → Bool) :
    List Receipt → Option (Feedback D) → Awaited D
  | [], last => ⟨.error (self.timeout expected_type), last, [], []⟩
  | x :: rs, last =>
    if late (rs.length + 1) then ⟨.error (self.timeout expected_type), last, [], x :: rs⟩
    else
      match x with
      | .error e => ⟨.error e, last, [], rs⟩
      | .nullopt => ⟨.error (self.timeout expected_type), last, [], rs⟩
      | .frame f =>
        if get_source_motor_id f ≠ self.config_.motor_id then
          let o := self.await expected_type late rs last
          { o with received := f :: o.received }
        else if get_comm_type f = expected_type.code then ⟨.ok f, self.cache f last, [f], rs⟩
        else
          let o := self.await expected_type late rs (self.cache f last)
          { o with received := f :: o.received }

section Steps

variable {self : RobstrideMotor D} {expected_type : CommType} {late : ℕ → Bool}
  {rs : List Receipt} (last : Option (Feedback D))

/-- A reading of the clock past the deadline ends the wait before it receives. -/
theorem await_late (x : Receipt) (hl : late (rs.length + 1) = true) :
    self.await expected_type late (x :: rs) last
      = ⟨.error (self.timeout expected_type), last, [], x :: rs⟩ := by
  cases x <;> simp only [RobstrideMotor.await, hl, if_true]

variable (hl : late (rs.length + 1) = false)
include hl

/-- What `receive` throws, the wait throws, and the receipts after it are left. -/
theorem await_error (e : Exception) :
    self.await expected_type late (.error e :: rs) last = ⟨.error e, last, [], rs⟩ := by
  simp only [RobstrideMotor.await, hl, Bool.false_eq_true, if_false]

/-- Nothing received is taken for the end of the wait. -/
theorem await_nullopt :
    self.await expected_type late (.nullopt :: rs) last
      = ⟨.error (self.timeout expected_type), last, [], rs⟩ := by
  simp only [RobstrideMotor.await, hl, Bool.false_eq_true, if_false]

variable {f : CanFrame}

/-- A frame of another motor is received and changes nothing else. -/
theorem await_foreign (hs : get_source_motor_id f ≠ self.config_.motor_id) :
    self.await expected_type late (.frame f :: rs) last
      = { self.await expected_type late rs last with
          received := f :: (self.await expected_type late rs last).received } := by
  simp only [RobstrideMotor.await, hl, hs, Bool.false_eq_true, if_false, ne_eq, not_false_eq_true,
    if_true]

/-- A frame of the motor and of the type ends the wait. It is cached first, if it is feedback. -/
theorem await_match (hf : self.Answers expected_type f) :
    self.await expected_type late (.frame f :: rs) last
      = ⟨.ok f, self.cache f last, [f], rs⟩ := by
  simp only [RobstrideMotor.await, hl, hf.1, hf.2, Bool.false_eq_true, if_false, ne_eq,
    not_true_eq_false, if_true]

/-- A frame of the motor of another type is cached, if it is feedback, and the wait goes on. -/
theorem await_other (hs : get_source_motor_id f = self.config_.motor_id)
    (ht : get_comm_type f ≠ expected_type.code) :
    self.await expected_type late (.frame f :: rs) last
      = { self.await expected_type late rs (self.cache f last) with
          received := f :: (self.await expected_type late rs (self.cache f last)).received } := by
  simp only [RobstrideMotor.await, hl, hs, ht, Bool.false_eq_true, if_false, ne_eq,
    not_true_eq_false]

end Steps

/-- When the deadline test fires in an exchange begun in state `s`: the first
reading is the start, and each receipt consumed is one reading more. -/
def Script.late (clock : Clock) (timeout_ns : ℤ) (s : Script) (n : ℕ) : Bool :=
  decide (clock (s.exchanges + 1) 0 s.receipts.length + timeout_ns
    ≤ clock (s.exchanges + 1) (1 + s.receipts.length - n) n)

variable {self : RobstrideMotor D} {expected_type : CommType}

/-- The loop on a scripted bus is `await`. The reading number and the number of
receipts left move in step, so their sum `c` names the whole wait. -/
theorem transceive_loop_scripted (clock : Clock) (deadline : ℤ) (c : ℕ)
    (st : Session Script D) (hc : st.can.readings + st.can.receipts.length = c) :
    let o := self.await expected_type
      (fun n => decide (deadline ≤ clock st.can.exchanges (c - n) n))
      st.can.receipts st.last_feedback_
    let w := self.transceive_loop (scripted clock) expected_type deadline st
    w.1 = o.reply ∧ w.2.last_feedback_ = o.last_feedback_ ∧
      w.2.can.sent = st.can.sent ∧ w.2.can.receipts = o.rest ∧
      w.2.can.received = st.can.received ++ o.received ∧
      w.2.can.exchanges = st.can.exchanges := by
  obtain ⟨last, sent, receipts, received, exchanges, readings⟩ := st
  dsimp only at hc ⊢
  induction receipts generalizing last received readings with
  | nil =>
    by_cases hd : deadline ≤ clock exchanges readings 0
    · rw [RobstrideMotor.transceive_loop_expired hd]
      exact ⟨rfl, rfl, rfl, rfl, (List.append_nil _).symm, rfl⟩
    · rw [RobstrideMotor.transceive_loop_nullopt hd rfl]
      exact ⟨rfl, rfl, rfl, rfl, (List.append_nil _).symm, rfl⟩
  | cons x rs ih =>
    -- `c` less what is left is the number of this reading
    have hr : c - (rs.length + 1) = readings := by
      rw [← hc, List.length_cons, Nat.add_sub_cancel]
    by_cases hd : deadline ≤ clock exchanges readings (rs.length + 1)
    · rw [RobstrideMotor.transceive_loop_expired hd,
        await_late last x (by rw [hr]; exact decide_eq_true hd)]
      exact ⟨rfl, rfl, rfl, rfl, (List.append_nil _).symm, rfl⟩
    · have hl :
          decide (deadline ≤ clock exchanges (c - (rs.length + 1)) (rs.length + 1)) = false := by
        rw [hr]
        exact decide_eq_false hd
      cases x with
      | error e =>
        rw [RobstrideMotor.transceive_loop_error hd rfl, await_error last hl]
        exact ⟨rfl, rfl, rfl, rfl, (List.append_nil _).symm, rfl⟩
      | nullopt =>
        rw [RobstrideMotor.transceive_loop_nullopt hd rfl, await_nullopt last hl]
        exact ⟨rfl, rfl, rfl, rfl, (List.append_nil _).symm, rfl⟩
      | frame f =>
        -- one reading more, one receipt less
        have hc' : readings + 1 + rs.length = c := by
          rw [← hc, List.length_cons]
          omega
        by_cases hs : get_source_motor_id f = self.config_.motor_id
        · by_cases ht : get_comm_type f = expected_type.code
          · rw [RobstrideMotor.transceive_loop_match hd rfl hs ht, await_match last hl ⟨hs, ht⟩]
            exact ⟨rfl, rfl, rfl, rfl, rfl, rfl⟩
          · rw [RobstrideMotor.transceive_loop_other hd rfl hs ht, await_other last hl hs ht]
            obtain ⟨h₁, h₂, h₃, h₄, h₅, h₆⟩ :=
              ih (self.cache f last) (received ++ [f]) (readings + 1) hc'
            exact ⟨h₁, h₂, h₃, h₄, h₅.trans (List.append_assoc ..), h₆⟩
        · rw [RobstrideMotor.transceive_loop_foreign hd rfl hs, await_foreign last hl hs]
          obtain ⟨h₁, h₂, h₃, h₄, h₅, h₆⟩ := ih last (received ++ [f]) (readings + 1) hc'
          exact ⟨h₁, h₂, h₃, h₄, h₅.trans (List.append_assoc ..), h₆⟩

variable (self expected_type) in
/-- **`transceive` on a scripted bus** is `await` on its receipts, from the reading of the clock
that sets the deadline. -/
theorem transceive_scripted (clock : Clock) (frame : CanFrame) (st : Session Script D) :
    let o := self.await expected_type (st.can.late clock self.config_.timeout_ns)
      st.can.receipts st.last_feedback_
    let w := self.transceive (scripted clock) frame expected_type st
    w.1 = o.reply ∧ w.2.last_feedback_ = o.last_feedback_ ∧
      w.2.can.sent = st.can.sent ++ [frame] ∧ w.2.can.receipts = o.rest ∧
      w.2.can.received = st.can.received ++ o.received ∧
      w.2.can.exchanges = st.can.exchanges + 1 := by
  rw [RobstrideMotor.transceive_send_ok rfl]
  exact transceive_loop_scripted clock _ (1 + st.can.receipts.length) _ rfl

/-! ## Which frame a wait accepts -/

/-- The wait over `rs` hands out the frames `pre`, none of them an answer, and
then the answer `f`, all before the deadline test fires. -/
def RobstrideMotor.AnsweredBy (self : RobstrideMotor D) (expected_type : CommType)
    (late : ℕ → Bool) (rs : List Receipt) (pre : List CanFrame) (f : CanFrame) : Prop :=
  (∀ g ∈ pre, ¬ self.Answers expected_type g) ∧ self.Answers expected_type f ∧
    ∃ post, rs = pre.map .frame ++ .frame f :: post ∧
      ∀ n, post.length < n → n ≤ rs.length → late n = false

/-- A wait that returns a frame was answered by it. -/
theorem answeredBy_of_await {late : ℕ → Bool} {rs : List Receipt} {last : Option (Feedback D)}
    {f : CanFrame} (h : (self.await expected_type late rs last).reply = .ok f) :
    ∃ pre, self.AnsweredBy expected_type late rs pre f ∧
      (self.await expected_type late rs last).received = pre ++ [f] := by
  induction rs generalizing last with
  | nil => cases h
  | cons x rs ih =>
    by_cases hl : late (rs.length + 1) = true
    · rw [await_late last x hl] at h
      cases h
    · rw [Bool.not_eq_true] at hl
      -- the deadline test at this receipt did not fire either
      have hstep : ∀ n, n ≤ rs.length + 1 → (n ≤ rs.length → late n = false) → late n = false := by
        intro n hn hle
        rcases Nat.lt_or_ge n (rs.length + 1) with hlt | hge
        · exact hle (by omega)
        · rw [show n = rs.length + 1 by omega]
          exact hl
      -- one more frame in front that is no answer
      have hmore : ∀ (g : CanFrame) (l : Option (Feedback D)), ¬ self.Answers expected_type g →
          (self.await expected_type late rs l).reply = .ok f →
          ∃ pre, self.AnsweredBy expected_type late (.frame g :: rs) pre f ∧
            g :: (self.await expected_type late rs l).received = pre ++ [f] := by
        intro g l hg hok
        obtain ⟨pre, ⟨hpre, hf, post, hrs, hlate⟩, hrec⟩ := ih hok
        refine ⟨g :: pre, ⟨?_, hf, post, ?_, ?_⟩, ?_⟩
        · intro a ha
          rcases List.mem_cons.mp ha with rfl | ha
          · exact hg
          · exact hpre a ha
        · rw [hrs]
          rfl
        · intro n hlo hn
          exact hstep n hn (hlate n hlo)
        · rw [hrec]
          rfl
      cases x with
      | error e =>
        rw [await_error last hl] at h
        cases h
      | nullopt =>
        rw [await_nullopt last hl] at h
        cases h
      | frame g =>
        by_cases hs : get_source_motor_id g = self.config_.motor_id
        · by_cases ht : get_comm_type g = expected_type.code
          · rw [await_match last hl ⟨hs, ht⟩] at h ⊢
            obtain rfl := Except.ok.inj h
            refine ⟨[], ⟨by simp, ⟨hs, ht⟩, rs, rfl, ?_⟩, rfl⟩
            intro n hlo hn
            exact hstep n hn (fun hle => absurd hle (Nat.not_le.mpr hlo))
          · rw [await_other last hl hs ht] at h ⊢
            exact hmore g _ (fun hg => ht hg.2) h
        · rw [await_foreign last hl hs] at h ⊢
          exact hmore g _ (fun hg => hs hg.1) h

/-- Conversely, a wait that an answer reaches in time returns it, whatever was received before. -/
theorem await_of_answeredBy {late : ℕ → Bool} {rs : List Receipt} {pre : List CanFrame}
    {f : CanFrame} (h : self.AnsweredBy expected_type late rs pre f)
    (last : Option (Feedback D)) :
    (self.await expected_type late rs last).reply = .ok f := by
  obtain ⟨hpre, hf, post, rfl, hlate⟩ := h
  induction pre generalizing last with
  | nil =>
    rw [List.map_nil, List.nil_append, await_match last (hlate _ (by omega) (by simp)) hf]
  | cons g pre ih =>
    have hl : late ((List.map Receipt.frame pre ++ .frame f :: post).length + 1) = false :=
      hlate _ (by simp only [List.length_append, List.length_cons]; omega) (by simp)
    -- whatever is cached on the way
    have ih' : ∀ l, (self.await expected_type late (pre.map .frame ++ .frame f :: post) l).reply
        = .ok f := by
      intro l
      refine ih l (fun a ha => hpre a (List.mem_cons_of_mem g ha)) (fun n hlo hn => ?_)
      exact hlate n hlo (Nat.le_succ_of_le hn)
    have hg := hpre g List.mem_cons_self
    rw [List.map_cons, List.cons_append]
    by_cases hs : get_source_motor_id g = self.config_.motor_id
    · rw [await_other last hl hs (fun ht => hg ⟨hs, ht⟩)]
      exact ih' _
    · rw [await_foreign last hl hs]
      exact ih' _

end Await

end Robstride
