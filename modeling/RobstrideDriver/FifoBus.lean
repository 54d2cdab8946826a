/-
One motor behind a first-in first-out bus, with losses and delays.

A frame sent is lost or executed at once; the answer to an executed frame joins
a queue and is handed out by some later `receive`, possibly long after the
command that caused it has thrown `TimeoutError`. Which frames are lost, which
`receive` calls find an answer arrived and what the steady clock reads are the
`Environment`, and nothing about them is fixed.

Every answer carries the serial number of the frame it answers. The driver does
not see it; it is there so that the question "whose answer is this?" can be
asked. `transceive_fifo_ok` is the whole truth about one exchange: it returns
the oldest undelivered answer of the expected type. Hence
`exchange_returns_oldest_answer`, over every run: an exchange that returns has
its own answer exactly when no older answer of that type was still under way.
-/
import RobstrideDriver.Fixtures
import RobstrideDriver.TransceiveRules

set_option autoImplicit false

open CppArith

namespace Robstride

/-! ## The bus -/

/-- A motor: what executing a frame does to its state, and the one answer it
gives, which names the motor and has the type the command is answered with. -/
structure Motor (μ : Type) (motor_id : UInt8) where
  execute : CanFrame → μ → μ × CanFrame
  source : ∀ f m, get_source_motor_id (execute f m).2 = motor_id
  type : ∀ f m, get_comm_type (execute f m).2 = (answer_type f).code

/-- Everything the driver has no say in. -/
structure Environment where
  /-- Is the `n`-th frame lost on its way to the motor? -/
  lost : ℕ → Bool
  /-- Has the oldest undelivered answer arrived by the `n`-th `receive`? -/
  arrives : ℕ → Bool
  /-- The `n`-th reading of the steady clock. -/
  clock : ℕ → ℤ
  steady : Monotone clock

/-- A clock that stands still is steady. -/
theorem monotone_zero : Monotone fun _ : ℕ => (0 : ℤ) := monotone_const

/-- An answer, and the number of the frame it answers. -/
structure Answer where
  serial : ℕ
  frame : CanFrame
deriving DecidableEq, Repr

/-- What sending changes and receiving does not: the motor, how many frames were
sent and which of them were executed. -/
structure Ledger (μ : Type) where
  motor : μ
  sent : ℕ := 0
  executed : List ℕ := []
deriving DecidableEq, Repr

structure FifoBus (μ : Type) where
  ledger : Ledger μ
  undelivered : List Answer := []
  delivered : List Answer := []
  receives : ℕ := 0
  readings : ℕ := 0
deriving DecidableEq, Repr

section Bus

variable {μ : Type} {motor_id : UInt8} (motor : Motor μ motor_id) (env : Environment)

/-- The bus before any frame. -/
def FifoBus.start (m : μ) : FifoBus μ := { ledger := { motor := m } }

/-- What the motor answers to a frame sent now: nothing if it is lost. -/
def FifoBus.answers (frame : CanFrame) (s : FifoBus μ) : List Answer :=
  if env.lost s.ledger.sent then []
  else [⟨s.ledger.sent, (motor.execute frame s.ledger.motor).2⟩]

/-- The bus after a frame is sent. -/
def FifoBus.post (frame : CanFrame) (s : FifoBus μ) : FifoBus μ :=
  { s with
    ledger :=
      if env.lost s.ledger.sent then { s.ledger with sent := s.ledger.sent + 1 }
      else
        { motor := (motor.execute frame s.ledger.motor).1
          sent := s.ledger.sent + 1
          executed := s.ledger.executed ++ [s.ledger.sent] }
    undelivered := s.undelivered ++ s.answers motor env frame }

/-- The transport. A `receive` that finds nothing arrived waits its timeout out. -/
def fifo : CanInterface (FifoBus μ) where
  send frame s := (.ok (), s.post motor env frame)
  receive _ s :=
    match s.undelivered with
    | [] => (.ok none, { s with receives := s.receives + 1 })
    -- only the front can have arrived: answers do not overtake each other
    | a :: rest =>
      if env.arrives s.receives then
        (.ok (some a.frame),
          { s with
            undelivered := rest
            delivered := s.delivered ++ [a]
            receives := s.receives + 1 })
      else (.ok none, { s with receives := s.receives + 1 })
  now s := (env.clock s.readings, { s with readings := s.readings + 1 })
  backlog s := s.undelivered.length
  now_backlog _ := Nat.le_refl _
  receive_backlog := by
    intro t s f s' h
    cases hs : s.undelivered with
    | nil => simp [hs] at h
    | cons a rest =>
      by_cases ha : env.arrives s.receives
      · simp only [hs, ha, if_true, Prod.mk.injEq] at h
        obtain ⟨-, rfl⟩ := h
        exact Nat.lt_succ_self _
      · simp [hs, ha] at h

variable {motor env}

@[simp] theorem FifoBus.post_undelivered (frame : CanFrame) (s : FifoBus μ) :
    (s.post motor env frame).undelivered = s.undelivered ++ s.answers motor env frame := rfl

section Sent

variable {frame : CanFrame} {s : FifoBus μ}

/-- A frame that is lost is not answered. -/
theorem FifoBus.answers_lost (h : env.lost s.ledger.sent = true) :
    s.answers motor env frame = [] := by
  rw [FifoBus.answers, if_pos h]

/-- A frame that arrives is answered once, by what the motor makes of it, and the answer has the
number of the frame. -/
theorem FifoBus.answers_executed (h : env.lost s.ledger.sent = false) :
    s.answers motor env frame = [⟨s.ledger.sent, (motor.execute frame s.ledger.motor).2⟩] := by
  rw [FifoBus.answers, if_neg (by rw [h]; exact Bool.false_ne_true)]

/-- And no other answer comes of it. -/
theorem FifoBus.mem_answers {a : Answer} (h : a ∈ s.answers motor env frame) :
    env.lost s.ledger.sent = false ∧
      a = ⟨s.ledger.sent, (motor.execute frame s.ledger.motor).2⟩ := by
  cases hl : env.lost s.ledger.sent with
  | true =>
    rw [answers_lost hl] at h
    cases h
  | false =>
    rw [answers_executed hl] at h
    exact ⟨rfl, List.mem_singleton.mp h⟩

/-- A frame that is lost counts as sent, and the motor knows nothing of it. -/
theorem FifoBus.post_lost (h : env.lost s.ledger.sent = true) :
    (s.post motor env frame).ledger = { s.ledger with sent := s.ledger.sent + 1 } := by
  rw [FifoBus.post, if_pos h]

/-- A frame that arrives counts as sent, and the motor has executed it. -/
theorem FifoBus.post_executed (h : env.lost s.ledger.sent = false) :
    (s.post motor env frame).ledger
      = { motor := (motor.execute frame s.ledger.motor).1
          sent := s.ledger.sent + 1
          executed := s.ledger.executed ++ [s.ledger.sent] } := by
  rw [FifoBus.post, if_neg (by rw [h]; exact Bool.false_ne_true)]

@[simp] theorem FifoBus.post_sent :
    (s.post motor env frame).ledger.sent = s.ledger.sent + 1 := by
  cases h : env.lost s.ledger.sent with
  | true => rw [post_lost h]
  | false => rw [post_executed h]

end Sent

/-- A `receive` that hands out a frame hands out the oldest undelivered one. -/
theorem fifo_receive_some {t : ℕ} {s s' : FifoBus μ} {f : CanFrame}
    (h : (fifo motor env).receive t s = (.ok (some f), s')) :
    ∃ a rest, s.undelivered = a :: rest ∧ f = a.frame ∧
      s' = { s with
        undelivered := rest, delivered := s.delivered ++ [a], receives := s.receives + 1 } := by
  cases hs : s.undelivered with
  | nil => simp [fifo, hs] at h
  | cons a rest =>
    by_cases ha : env.arrives s.receives
    · simp only [fifo, hs, ha, if_true, Prod.mk.injEq, Except.ok.injEq, Option.some.injEq] at h
      exact ⟨a, rest, rfl, h.1.symm, h.2.symm⟩
    · simp [fifo, hs, ha] at h

/-- And does so if the environment lets the frame through, so that only lateness keeps answers
back. -/
theorem fifo_receive_arrived {t : ℕ} {s : FifoBus μ} {a : Answer} {rest : List Answer}
    (hs : s.undelivered = a :: rest) (ha : env.arrives s.receives = true) :
    (fifo motor env).receive t s
      = (.ok (some a.frame), { s with
          undelivered := rest, delivered := s.delivered ++ [a], receives := s.receives + 1 }) := by
  simp only [fifo, hs, ha, if_true]

/-- A `receive` of any outcome leaves the ledger and only shortens the queue. -/
theorem fifo_receive {t : ℕ} {s s' : FifoBus μ} {r : Except Exception (Option CanFrame)}
    (h : (fifo motor env).receive t s = (r, s')) :
    s'.ledger = s.ledger ∧ s'.undelivered ⊆ s.undelivered := by
  obtain ⟨ledger, undelivered, delivered, receives, readings⟩ := s
  cases undelivered with
  | nil =>
    obtain ⟨-, rfl⟩ := Prod.mk.inj h
    exact ⟨rfl, List.Subset.refl _⟩
  | cons a rest =>
    by_cases ha : env.arrives receives
    · simp only [fifo, ha, if_true, Prod.mk.injEq] at h
      obtain ⟨-, rfl⟩ := h
      exact ⟨rfl, List.subset_cons_self a rest⟩
    · simp only [fifo, ha, Bool.false_eq_true, if_false, Prod.mk.injEq] at h
      obtain ⟨-, rfl⟩ := h
      exact ⟨rfl, List.Subset.refl _⟩

end Bus

/-! ## The oldest answer of a type -/

/-- The oldest answer of type `type` in a queue, and what is behind it. -/
def take_answer (type : CommType) : List Answer → Option (Answer × List Answer)
  | [] => none
  | a :: rest => if get_comm_type a.frame = type.code then some (a, rest) else take_answer type rest

section TakeAnswer

variable {type : CommType} {a : Answer} {rest l : List Answer}

/-- The oldest answer is taken if it has the type that is looked for. -/
theorem take_answer_hit (h : get_comm_type a.frame = type.code) :
    take_answer type (a :: l) = some (a, l) := by
  rw [take_answer, if_pos h]

/-- An answer of another type is consumed on the way. -/
theorem take_answer_miss (h : get_comm_type a.frame ≠ type.code) :
    take_answer type (a :: l) = take_answer type l := by
  rw [take_answer, if_neg h]

/-- What is taken was there, with the type that is looked for, and what is left was there as
well. -/
theorem take_answer_mem (h : take_answer type l = some (a, rest)) :
    a ∈ l ∧ rest ⊆ l ∧ get_comm_type a.frame = type.code := by
  induction l with
  | nil => cases h
  | cons b l ih =>
    by_cases hb : get_comm_type b.frame = type.code
    · rw [take_answer_hit hb] at h
      obtain ⟨rfl, rfl⟩ := Prod.mk.inj (Option.some.inj h)
      exact ⟨List.mem_cons_self, List.subset_cons_self _ _, hb⟩
    · rw [take_answer_miss hb] at h
      obtain ⟨ha, hrest, ht⟩ := ih h
      exact ⟨List.mem_cons_of_mem b ha, List.Subset.trans hrest (List.subset_cons_self _ _), ht⟩

/-- More answers behind do not change which one is oldest, and stay behind what is left. -/
theorem take_answer_append (h : take_answer type l = some (a, rest)) (l' : List Answer) :
    take_answer type (l ++ l') = some (a, rest ++ l') := by
  induction l with
  | nil => cases h
  | cons b l ih =>
    rw [List.cons_append]
    by_cases hb : get_comm_type b.frame = type.code
    · rw [take_answer_hit hb] at h ⊢
      obtain ⟨rfl, rfl⟩ := Prod.mk.inj (Option.some.inj h)
      rfl
    · rw [take_answer_miss hb] at h ⊢
      exact ih h

/-- A queue without the type has it only in what is appended. -/
theorem take_answer_append_none (h : take_answer type l = none) (l' : List Answer) :
    take_answer type (l ++ l') = take_answer type l' := by
  induction l with
  | nil => rfl
  | cons b l ih =>
    rw [List.cons_append]
    by_cases hb : get_comm_type b.frame = type.code
    · rw [take_answer_hit hb] at h
      cases h
    · rw [take_answer_miss hb] at h ⊢
      exact ih h

end TakeAnswer

/-! ## One exchange -/

section Exchange

variable {μ : Type} {D : Type} [Add D] [Sub D] [Mul D] [Div D] [Neg D] [NatCast D]
  {self : RobstrideMotor D} {motor : Motor μ self.config_.motor_id} {env : Environment}
  {type : CommType} {frame : CanFrame} {st st' : Session (FifoBus μ) D}

/-- What holds of every bus state a session reaches: undelivered answers satisfy
what every answer of the motor does, and no serial number is from the future. -/
structure FifoBus.Holds (P : CanFrame → Prop) (s : FifoBus μ) : Prop where
  answer : ∀ a ∈ s.undelivered, P a.frame
  serial : ∀ a ∈ s.undelivered, a.serial < s.ledger.sent
  executed : ∀ n ∈ s.ledger.executed, n < s.ledger.sent

/-- Nothing is under way at the start, so nothing can be wrong with it. -/
theorem FifoBus.holds_start (P : CanFrame → Prop) (m : μ) : (FifoBus.start m).Holds P :=
  ⟨by simp [FifoBus.start], by simp [FifoBus.start], by simp [FifoBus.start]⟩

omit [Add D] [Sub D] [Mul D] [Div D] [Neg D] [NatCast D] in
/-- Sending a frame adds an answer of the motor, which has what all its answers have, and the next
number. -/
theorem FifoBus.Holds.post {P : CanFrame → Prop} (hP : ∀ f m, P (motor.execute f m).2)
    {s : FifoBus μ} (h : s.Holds P) (frame : CanFrame) : (s.post motor env frame).Holds P := by
  refine ⟨?_, ?_, ?_⟩
  · intro a ha
    rcases List.mem_append.mp ha with ha | ha
    · exact h.answer a ha
    · rw [(FifoBus.mem_answers ha).2]
      exact hP _ _
  · -- the new answer has the number of the frame just sent, the others a smaller one
    intro a ha
    rw [FifoBus.post_sent]
    rcases List.mem_append.mp ha with ha | ha
    · exact Nat.lt_succ_of_lt (h.serial a ha)
    · rw [(FifoBus.mem_answers ha).2]
      exact Nat.lt_succ_self _
  · intro n hn
    rw [FifoBus.post_sent]
    cases hl : env.lost s.ledger.sent with
    | true =>
      rw [FifoBus.post_lost hl] at hn
      exact Nat.lt_succ_of_lt (h.executed n hn)
    | false =>
      rw [FifoBus.post_executed hl] at hn
      rcases List.mem_append.mp hn with hn | hn
      · exact Nat.lt_succ_of_lt (h.executed n hn)
      · rw [List.mem_singleton.mp hn]
        exact Nat.lt_succ_self _

/-- Step lemma: an exchange, however it ends, keeps the invariant, for it only adds one answer and
takes some away. -/
theorem FifoBus.Holds.transceive {P : CanFrame → Prop} (hP : ∀ f m, P (motor.execute f m).2)
    (h : st.can.Holds P) (frame : CanFrame) (type : CommType) :
    (self.transceive (fifo motor env) frame type st).2.can.Holds P := by
  apply RobstrideMotor.transceive_invariant
  · intro r s' hs
    obtain ⟨-, rfl⟩ := Prod.mk.inj hs
    exact h.post hP frame
  · intro s hs
    exact ⟨hs.answer, hs.serial, hs.executed⟩
  · intro t s r s' hs hr
    -- receiving only takes answers away
    obtain ⟨hledger, hsub⟩ := fifo_receive hr
    refine ⟨fun a ha => hs.answer a (hsub ha), ?_, ?_⟩
    · intro a ha
      rw [hledger]
      exact hs.serial a (hsub ha)
    · rw [hledger]
      exact hs.executed

/-- With a timeout of zero or less the steady clock has reached the deadline when
it is first compared. -/
theorem transceive_fifo_expired (h : self.config_.response_timeout ≤ 0) (frame : CanFrame)
    (type : CommType) :
    (self.transceive (fifo motor env) frame type st).1 = .error (self.timeout type) := by
  -- the clock is read once to start and once to compare
  rw [RobstrideMotor.transceive_send_ok rfl, RobstrideMotor.transceive_loop_expired]
  have hsteady := env.steady (Nat.le_add_right (st.can.post motor env frame).readings 1)
  have htimeout : self.config_.timeout_ns ≤ 0 := by
    rw [Config.timeout_ns]
    omega
  have hclock : env.clock (st.can.post motor env frame).readings + self.config_.timeout_ns
      ≤ env.clock ((st.can.post motor env frame).readings + 1) := by omega
  exact hclock

variable (hfrom : ∀ a ∈ st.can.undelivered, get_source_motor_id a.frame = self.config_.motor_id)
include hfrom

omit [Add D] [Sub D] [Mul D] [Div D] [Neg D] [NatCast D] in
/-- Everything undelivered is from this motor, the new answer included, so no frame of the bus is
skipped as foreign. -/
theorem source_of_mem_post {a : Answer} (ha : a ∈ (st.can.post motor env frame).undelivered) :
    get_source_motor_id a.frame = self.config_.motor_id := by
  rcases List.mem_append.mp ha with ha | ha
  · exact hfrom a ha
  · rw [(FifoBus.mem_answers ha).2]
    exact motor.source _ _

/-- **One exchange on the bus.** What a normally returning exchange hands the
caller is the oldest answer of the expected type among those undelivered once
its frame is sent. Everything older is consumed with it. -/
theorem transceive_fifo_ok {r : CanFrame}
    (h : self.transceive (fifo motor env) frame type st = (.ok r, st')) :
    ∃ a, take_answer type (st.can.post motor env frame).undelivered
        = some (a, st'.can.undelivered) ∧
      r = a.frame ∧ st'.can.delivered.getLast? = some a ∧
      st'.can.ledger = (st.can.post motor env frame).ledger := by
  -- while answers of other types go by, the oldest of this type stays the same
  let I := fun s : FifoBus μ =>
    s.ledger = (st.can.post motor env frame).ledger ∧
      s.undelivered ⊆ (st.can.post motor env frame).undelivered ∧
      take_answer type s.undelivered
        = take_answer type (st.can.post motor env frame).undelivered
  let Q := fun (f : CanFrame) (s : FifoBus μ) =>
    ∃ a, take_answer type (st.can.post motor env frame).undelivered = some (a, s.undelivered) ∧
      f = a.frame ∧ s.delivered.getLast? = some a ∧
      s.ledger = (st.can.post motor env frame).ledger
  have hsend : ∀ s, (fifo motor env).send frame st.can = (.ok (), s) → I s := by
    intro s hs
    obtain ⟨-, rfl⟩ := Prod.mk.inj hs
    exact ⟨rfl, List.Subset.refl _, rfl⟩
  have hskip : ∀ t s f s', I s → (fifo motor env).receive t s = (.ok (some f), s') →
      ¬ self.Answers type f → I s' := by
    rintro t s f s' ⟨hledger, hsub, htake⟩ hr hf
    -- everything on the bus is from this motor, so what is skipped has another type
    obtain ⟨a, rest, hs, rfl, rfl⟩ := fifo_receive_some hr
    rw [hs] at hsub htake
    have hsource := source_of_mem_post hfrom (hsub List.mem_cons_self)
    have hmiss : get_comm_type a.frame ≠ type.code := fun ht => hf ⟨hsource, ht⟩
    rw [take_answer_miss hmiss] at htake
    exact ⟨hledger, List.Subset.trans (List.subset_cons_self a rest) hsub, htake⟩
  have hanswer : ∀ t s f s', I s → (fifo motor env).receive t s = (.ok (some f), s') →
      self.Answers type f → Q f s' := by
    rintro t s f s' ⟨hledger, -, htake⟩ hr hf
    obtain ⟨a, rest, hs, rfl, rfl⟩ := fifo_receive_some hr
    rw [hs, take_answer_hit hf.2] at htake
    exact ⟨a, htake.symm, rfl, List.getLast?_concat, hledger⟩
  exact (RobstrideMotor.transceive_ok (I := I) (Q := Q) hsend (fun s hs => hs) hskip hanswer h).1

/-- An environment that delays nothing: every answer is there when asked for,
and no reading of the clock reaches a deadline. -/
structure Environment.Prompt (env : Environment) (timeout_ns : ℤ) : Prop where
  arrives : ∀ n, env.arrives n = true
  in_time : ∀ i j, env.clock j < env.clock i + timeout_ns

/-- In a prompt environment an exchange returns if there is anything to return: an answer of the
type, older or its own. -/
theorem transceive_fifo_returns (henv : env.Prompt self.config_.timeout_ns) {a : Answer}
    {rest : List Answer}
    (h : take_answer type (st.can.post motor env frame).undelivered = some (a, rest)) :
    ∃ st', self.transceive (fifo motor env) frame type st = (.ok a.frame, st') ∧
      st'.can.undelivered = rest ∧ st'.can.delivered.getLast? = some a ∧
      st'.can.ledger = (st.can.post motor env frame).ledger := by
  let I := fun s : FifoBus μ => (take_answer type s.undelivered).isSome ∧
    s.undelivered ⊆ (st.can.post motor env frame).undelivered
  have hstep : ∀ t s, I s → ((fifo motor env).now s).1
        < ((fifo motor env).now (st.can.post motor env frame)).1 + self.config_.timeout_ns ∧
      ∃ f s', (fifo motor env).receive t ((fifo motor env).now s).2 = (.ok (some f), s') ∧
        (self.Answers type f → True) ∧ (¬ self.Answers type f → I s') := by
    rintro t s ⟨hsome, hsub⟩
    refine ⟨henv.in_time _ _, ?_⟩
    obtain ⟨b, l, hs⟩ : ∃ b l, s.undelivered = b :: l := by
      cases hs : s.undelivered with
      | nil =>
        rw [hs] at hsome
        cases hsome
      | cons b l => exact ⟨b, l, rfl⟩
    rw [hs] at hsome hsub
    refine ⟨_, _, fifo_receive_arrived hs (henv.arrives _), fun _ => trivial, fun hb => ?_⟩
    have hsource := source_of_mem_post hfrom (hsub List.mem_cons_self)
    have hmiss : get_comm_type b.frame ≠ type.code := fun ht => hb ⟨hsource, ht⟩
    -- the answer is still behind the one skipped
    rw [take_answer_miss hmiss] at hsome
    exact ⟨hsome, List.Subset.trans (List.subset_cons_self b l) hsub⟩
  have hstart : I ((fifo motor env).now (st.can.post motor env frame)).2 :=
    ⟨Option.isSome_of_eq_some h, List.Subset.refl _⟩
  obtain ⟨r, st', hrun, -⟩ :=
    RobstrideMotor.transceive_returns (Q := fun _ _ => True) rfl hstart hstep
  -- which answer it is has been said already
  obtain ⟨a', htake, rfl, hlast, hledger⟩ := transceive_fifo_ok hfrom hrun
  rw [h] at htake
  obtain ⟨rfl, hrest⟩ := Prod.mk.inj (Option.some.inj htake)
  exact ⟨st', hrun, hrest.symm, hlast, hledger⟩

end Exchange

/-! ## Whole runs -/

section Runs

variable {μ : Type} {D : Type} [Add D] [Sub D] [Mul D] [Div D] [Neg D] [NatCast D]
  [LT D] [DecidableLT D] [DoubleMath D] [FloatConv D]

/-- The exchanges of a run of commands, from a bus nothing was sent on. -/
def exchanges (self : RobstrideMotor D) (motor : Motor μ self.config_.motor_id)
    (env : Environment) (m : μ) (commands : List (Command D)) :
    List (Dialogue.Turn Exchange CanFrame Exception (Session (FifoBus μ) D)) :=
  Dialogue.sessionTranscript (self.exchange (fifo motor env))
    (commands.map (Command.operation self)) ⟨none, .start m⟩

/-- Every exchange of a run that returns normally returns the answer to the very
frame it sent. -/
def AnswersOwnFrame (self : RobstrideMotor D) (motor : Motor μ self.config_.motor_id)
    (env : Environment) (m : μ) (commands : List (Command D)) : Prop :=
  ∀ t ∈ exchanges self motor env m commands, t.reply.isOk →
    (t.after.can.delivered.getLast?.map Answer.serial) = some t.before.can.ledger.sent

instance (self : RobstrideMotor D) (motor : Motor μ self.config_.motor_id) (env : Environment)
    (m : μ) (commands : List (Command D)) :
    Decidable (AnswersOwnFrame self motor env m commands) :=
  inferInstanceAs (Decidable (∀ t ∈ exchanges self motor env m commands, _ → _))

/-- Run lemma: each exchange of a run starts from a state the invariant holds of,
and is one step of the handler. -/
theorem exchanges_mem {self : RobstrideMotor D} {motor : Motor μ self.config_.motor_id}
    {env : Environment} {m : μ} {commands : List (Command D)}
    {t : Dialogue.Turn Exchange CanFrame Exception (Session (FifoBus μ) D)}
    (ht : t ∈ exchanges self motor env m commands) :
    t.before.can.Holds (fun f => get_source_motor_id f = self.config_.motor_id) ∧
      Issued self t.request ∧
      self.transceive (fifo motor env) t.request.frame t.request.expected_type t.before
        = (t.reply, t.after) := by
  apply Dialogue.sessionTranscript_mem (I := fun st => st.can.Holds
    fun f => get_source_motor_id f = self.config_.motor_id) ?_ ?_ (FifoBus.holds_start _ m) ht
  · intro e st _ hst
    exact hst.transceive motor.source e.frame e.expected_type
  · intro p hp
    obtain ⟨c, -, rfl⟩ := List.mem_map.mp hp
    exact c.operation_asks self

/-- **Whose answer an exchange returns.** In every run, whatever is lost or late:
an exchange that returns normally returns the oldest answer of the expected type
that is undelivered once its frame is sent; and that is the answer the motor gave
to this very frame if and only if no earlier answer of that type was undelivered
when the frame was sent. -/
theorem exchange_returns_oldest_answer (self : RobstrideMotor D)
    (motor : Motor μ self.config_.motor_id) (env : Environment) (m : μ)
    (commands : List (Command D)) :
    ∀ t ∈ exchanges self motor env m commands, ∀ r, t.reply = .ok r →
      ∃ a, take_answer t.request.expected_type
          (t.before.can.post motor env t.request.frame).undelivered
          = some (a, t.after.can.undelivered) ∧
        r = a.frame ∧ t.after.can.delivered.getLast? = some a ∧
        (a = ⟨t.before.can.ledger.sent,
              (motor.execute t.request.frame t.before.can.ledger.motor).2⟩ ↔
          take_answer t.request.expected_type t.before.can.undelivered = none) := by
  intro t ht r hr
  obtain ⟨hinv, -, hrun⟩ := exchanges_mem ht
  rw [hr] at hrun
  obtain ⟨a, htake, ha, hlast, -⟩ := transceive_fifo_ok hinv.answer hrun
  refine ⟨a, htake, ha, hlast, ?_⟩
  constructor
  · intro hown
    by_contra hne
    obtain ⟨⟨b, rest⟩, hb⟩ := Option.ne_none_iff_exists'.mp hne
    -- an older answer would have come first, and its number is smaller
    rw [FifoBus.post_undelivered, take_answer_append hb] at htake
    obtain ⟨rfl, -⟩ := Prod.mk.inj (Option.some.inj htake)
    have hlt := hinv.serial b (take_answer_mem hb).1
    rw [hown] at hlt
    exact Nat.lt_irrefl _ hlt
  · intro hnone
    -- the only answer of the type is the one just given
    rw [FifoBus.post_undelivered, take_answer_append_none hnone] at htake
    exact (FifoBus.mem_answers (take_answer_mem htake).1).2

end Runs

/-! ## A run in which one answer is late -/

namespace fixtures

/-- A motor small enough to run: it keeps whether it is enabled, which it reports
in the mode field of its feedback, and its `run_mode`. -/
structure Bench where
  enabled : Bool := false
  run_mode : UInt8 := 0
deriving DecidableEq, Repr

def Bench.update (f : CanFrame) (m : Bench) : Bench :=
  if get_comm_type f = CommType.Enable.code then { m with enabled := true }
  else if get_comm_type f = CommType.Stop.code then { m with enabled := false }
  else if get_comm_type f = CommType.WriteParam.code ∧ frame_index f = param_index.run_mode then
    { m with run_mode := frame_uint8 f }
  else m

def Bench.feedback (motor_id host_id : UInt8) (m : Bench) : Feedback ℚ :=
  { motor_id := motor_id, host_id := host_id
    mode := if m.enabled then .Run else .Reset
    fault := ⟨0⟩, position := 0, velocity := 0, torque := 0, temperature := 25 }

def Bench.answer (motor_id : UInt8) (f : CanFrame) (m : Bench) : CanFrame :=
  if get_comm_type f = CommType.ReadParam.code then
    make_param_response_frame_uint8 motor_id (get_host_id f) (frame_index f) m.run_mode
  else make_feedback_frame (m.feedback motor_id (get_host_id f)) rs02

/-- The small motor answers under its own id. -/
theorem Bench.answer_source (motor_id : UInt8) (f : CanFrame) (m : Bench) :
    get_source_motor_id (m.answer motor_id f) = motor_id := by
  rw [Bench.answer]
  split_ifs
  · rw [make_param_response_frame_uint8, make_param_response_frame_base,
      get_source_motor_id_make_id, toUInt16_toUInt8]
  · rw [get_source_motor_id_make_feedback_frame, Bench.feedback]

/-- It answers a read with a parameter response, and everything else with feedback. -/
theorem Bench.answer_type (motor_id : UInt8) (f : CanFrame) (m : Bench) :
    get_comm_type (m.answer motor_id f) = (Robstride.answer_type f).code := by
  rw [Bench.answer, Robstride.answer_type]
  split_ifs
  · rw [make_param_response_frame_uint8, make_param_response_frame_base, get_comm_type_make_id]
  · rw [get_comm_type_make_feedback_frame]

def bench (motor_id : UInt8) : Motor Bench motor_id where
  execute f m := (m.update f, (m.update f).answer motor_id f)
  source f m := (m.update f).answer_source motor_id f
  type f m := (m.update f).answer_type motor_id f

/-- The first `late` calls of `receive` find nothing arrived; the clock stands. -/
def environment (lost : ℕ → Bool) (late : ℕ) : Environment where
  lost := lost
  arrives n := decide (late ≤ n)
  clock _ := 0
  steady := monotone_zero

end fixtures

/-- `enable()` times out, its answer still under way; `disable()` then returns
that answer, and reports a stopped motor as running. -/
theorem disable_returns_answer_to_enable :
    ¬ AnswersOwnFrame fixtures.single (fixtures.bench _)
      (fixtures.environment (fun _ => false) 1) {} [.enable, .disable false] := by
  decide +kernel

/-- The same run: `enable()` has timed out, and the exchange of `disable()` returns the answer
that was still under way to it, which is not its own. -/
theorem exchange_returns_oldest_answer_late :
    ∃ t ∈ exchanges fixtures.single (fixtures.bench _)
        (fixtures.environment (fun _ => false) 1) {} [.enable, .disable false],
      t.request.frame = make_stop_frame 0x01 0xFD false ∧
      ∃ a : Answer, t.reply = .ok a.frame ∧
        take_answer t.request.expected_type
            (t.before.can.post (fixtures.bench 0x01) (fixtures.environment (fun _ => false) 1)
              t.request.frame).undelivered
          = some (a, t.after.can.undelivered) ∧
        a ≠ ⟨t.before.can.ledger.sent,
          ((fixtures.bench 0x01).execute t.request.frame t.before.can.ledger.motor).2⟩ := by
  obtain ⟨t, ht, hframe, hreply, holder⟩ : ∃ t ∈ exchanges fixtures.single (fixtures.bench _)
      (fixtures.environment (fun _ => false) 1) {} [.enable, .disable false],
      t.request.frame = make_stop_frame 0x01 0xFD false ∧
        t.reply = .ok ((fixtures.bench 0x01).execute (make_enable_frame 0x01 0xFD) {}).2 ∧
        take_answer t.request.expected_type t.before.can.undelivered ≠ none := by
    decide +kernel
  obtain ⟨a, htake, ha, -, hown⟩ := exchange_returns_oldest_answer fixtures.single
    (fixtures.bench _) (fixtures.environment (fun _ => false) 1) {} [.enable, .disable false] t ht
    _ hreply
  exact ⟨t, ht, hframe, a, hreply.trans (congrArg Except.ok ha), htake,
    fun hsame => holder (hown.mp hsame)⟩

end Robstride
