/-
`tracking_capture_common.hpp`: a command profile at 100 Hz, and its record.

`run_profile` is two nested loops over a clock, a motor and a CSV file. It is modelled as
one loop (`profile_turn`) whose state says which segments are left and when the current
one ends, over whatever the captures run on: the exchanges of a motor, a steady clock and
a thread that sleeps (`Bench`). The CSV file is the rows written, as values; a row that
was begun when an exception came is kept apart from those that are complete.

What is asked of a bench is that its clock is steady and a sleeping thread does not wake
early (`Steady`). Then the profile is over within a number of passes that its durations
give, whatever becomes of the exchanges. What it leaves is a block of rows for each
segment, read off the clock (`Block`): a row for every reading before the end of the
segment, and no more of them than fit in its duration at 100 Hz. The n-th row of a capture
is n periods old or older (`run_profile_paced`).

Times are in an ordered field, where the source computes in doubles: the results are exact
arithmetic. In doubles the comparison with `segment_end` can come out the other way by a
rounding, and a segment get one row more.
-/
import RobstrideDriver.GatedOperations
import RobstrideDriver.Lib.Conversation
import RobstrideDriver.Lib.Retry
import RobstrideDriver.PositionUnwrapper

set_option autoImplicit false

open CppArith Retry

namespace Robstride

namespace tracking_capture

/-! ## Where a capture runs -/

/-- The exchanges of a motor, `Clock::now()` in nanoseconds, and
`std::this_thread::sleep_until`. -/
structure Bench (σ : Type*) where
  exchange : Dialogue.Handler Exchange CanFrame Exception σ
  now : σ → ℤ × σ
  sleep_until : ℤ → σ → σ

/-- A motor on a transport. -/
def Bench.on_transport {σ : Type*} {D : Type} [Add D] [Sub D] [Mul D] [Div D] [Neg D] [NatCast D]
    (can : CanInterface σ) (sleep_until : ℤ → σ → σ) (self : RobstrideMotor D) :
    Bench (Session σ D) where
  exchange := self.exchange can
  now st := ((can.now st.can).1, { st with can := (can.now st.can).2 })
  sleep_until t st := { st with can := sleep_until t st.can }

section Clock

variable {σ : Type*} (b : Bench σ)

/-- What the clock would read. -/
def Bench.clock (s : σ) : ℤ := (b.now s).1

/-- Nothing turns the clock back, and a sleeping thread does not wake early. -/
structure Bench.Steady : Prop where
  now : ∀ s, b.clock s ≤ b.clock (b.now s).2
  exchange : ∀ e s, b.clock s ≤ b.clock (b.exchange e s).2
  sleep : ∀ t s, b.clock s ≤ b.clock (b.sleep_until t s)
  wakes : ∀ t s, t ≤ b.clock (b.sleep_until t s)

variable {b}

/-- Nor does an operation, which is made of such steps. -/
theorem Bench.Steady.run (h : b.Steady) {α : Type} (p : Operation α) (s : σ) :
    b.clock s ≤ b.clock (Dialogue.run b.exchange p s).2 :=
  Dialogue.run_invariant (I := fun s' => b.clock s ≤ b.clock s') (P := fun _ => True)
    (fun e s' _ hs' => hs'.trans (h.exchange e s')) (Dialogue.Asks.trivial p) le_rfl

end Clock

/-! ## A profile, and its record -/

/-- One step of a command profile. -/
structure Segment (D : Type) where
  duration_s : D
  target : D
deriving DecidableEq, Repr

/-- `sample_period_s` as a `Clock::duration`. -/
def sample_period : ℤ := 10000000

/-- A line of the CSV file. -/
structure Row (D : Type) where
  t : D
  target : D
  position : D
  velocity : D
  torque : D
  temperature : D
  extra : List F32 := []
deriving DecidableEq, Repr

/-- A capture: where it runs, the unwrapper, the lines written, and the columns of a line
that has no end. -/
structure Capture (σ : Type*) (D : Type) where
  bench : σ
  unwrapper : PositionUnwrapper D
  rows : List (Row D) := []
  open_row : Option (Row D) := none
deriving DecidableEq, Repr

section Profile

variable {σ : Type*} {D : Type} [Add D] [Sub D] [Div D] [Neg D] [NatCast D] [IntCast D]
  [LT D] [DecidableLT D]

/-- `std::chrono::duration<double>`. -/
def seconds (ns : ℤ) : D := (ns : D) / ((1000000000 : ℕ) : D)

variable (b : Bench σ) (start : ℤ)

def seconds_since (s : σ) : D × σ := (seconds ((b.now s).1 - start), (b.now s).2)

variable (send_command : D → Operation (Feedback D)) (append_extra : Operation (List F32))

/-- The columns of every capture; `unwrapper` is the one of the rows before. -/
def columns (target : D) (unwrapper : PositionUnwrapper D) (feedback : Feedback D) (s : σ) :
    Row D where
  t := (seconds_since b start s).1
  target := target
  position := (unwrapper.update feedback.position).1
  velocity := feedback.velocity
  torque := feedback.torque
  temperature := feedback.temperature

/-- The body of the inner loop. -/
def cycle (target : D) (c : Capture σ D) : Except Exception Unit × Capture σ D :=
  let cycle_end := (b.now c.bench).1 + sample_period
  match Dialogue.run b.exchange (send_command target) (b.now c.bench).2 with
  | (.error e, s) => (.error e, { c with bench := s })
  | (.ok feedback, s) =>
    let row := columns b start target c.unwrapper feedback s
    let unwrapper := (c.unwrapper.update feedback.position).2
    match Dialogue.run b.exchange append_extra (b.now s).2 with
    | (.error e, s) => (.error e, ⟨s, unwrapper, c.rows, some row⟩)
    | (.ok extra, s) =>
      (.ok (), ⟨b.sleep_until cycle_end s, unwrapper, c.rows ++ [{ row with extra := extra }],
        none⟩)

/-- Between two passes: the segments that are left, the current one first, and
`segment_end` once it has begun. -/
structure Progress (σ : Type*) (D : Type) where
  profile : List (Segment D)
  segment_end : Option D
  capture : Capture σ D

/-- One pass: a segment is begun, a cycle made, or the segment is over. -/
def profile_turn (st : Progress σ D) :
    Pass (Progress σ D) (Except Exception Unit × Capture σ D) :=
  match st.profile with
  | [] => .stop (.ok (), st.capture)
  | segment :: rest =>
    let t : D × σ := seconds_since b start st.capture.bench
    let capture := { st.capture with bench := t.2 }
    match st.segment_end with
    | none => .again ⟨segment :: rest, some (t.1 + segment.duration_s), capture⟩
    | some segment_end =>
      if t.1 < segment_end then
        match cycle b start send_command append_extra segment.target capture with
        | (.error e, capture) => .stop (.error e, capture)
        | (.ok (), capture) => .again ⟨segment :: rest, some segment_end, capture⟩
      else .again ⟨rest, none, capture⟩

/-- `run_profile`, within so many passes. -/
def run_profile (profile : List (Segment D)) (passes : ℕ) (c : Capture σ D) :
    Option (Except Exception Unit × Capture σ D) :=
  Retry.run (profile_turn b (b.now c.bench).1 send_command append_extra) passes
    ⟨profile, none, { c with bench := (b.now c.bench).2 }⟩

/-! ## What a cycle and a pass do -/

variable {b start send_command append_extra} {c : Capture σ D} {target : D}

/-- A cycle fails before it has written anything, or in the middle of a row, or writes one. -/
theorem cycle_cases (b : Bench σ) (start : ℤ) (send_command : D → Operation (Feedback D))
    (append_extra : Operation (List F32)) (target : D) (c : Capture σ D) :
    (∃ e s, Dialogue.run b.exchange (send_command target) (b.now c.bench).2 = (.error e, s) ∧
        cycle b start send_command append_extra target c = (.error e, { c with bench := s })) ∨
      ∃ feedback s, Dialogue.run b.exchange (send_command target) (b.now c.bench).2
          = (.ok feedback, s) ∧
        ((∃ e s', Dialogue.run b.exchange append_extra (b.now s).2 = (.error e, s') ∧
            cycle b start send_command append_extra target c
              = (.error e, ⟨s', (c.unwrapper.update feedback.position).2, c.rows,
                  some (columns b start target c.unwrapper feedback s)⟩)) ∨
          ∃ extra s', Dialogue.run b.exchange append_extra (b.now s).2 = (.ok extra, s') ∧
            cycle b start send_command append_extra target c
              = (.ok (), ⟨b.sleep_until (b.clock c.bench + sample_period) s',
                  (c.unwrapper.update feedback.position).2,
                  c.rows ++ [{ columns b start target c.unwrapper feedback s with extra := extra }],
                  none⟩)) := by
  rcases hsend : Dialogue.run b.exchange (send_command target) (b.now c.bench).2 with
    ⟨e | feedback, s⟩
  · refine .inl ⟨e, s, rfl, ?_⟩
    rw [cycle, hsend]
  · refine .inr ⟨feedback, s, rfl, ?_⟩
    rcases hextra : Dialogue.run b.exchange append_extra (b.now s).2 with ⟨e | extra, s'⟩
    · refine .inl ⟨e, s', rfl, ?_⟩
      rw [cycle, hsend]
      dsimp only
      rw [hextra]
    · refine .inr ⟨extra, s', rfl, ?_⟩
      rw [cycle, hsend]
      dsimp only
      rw [hextra]
      rfl

variable (start send_command append_extra target c) in
/-- What a cycle does to the clock: it does not turn it back, whether it fails or not. -/
theorem cycle_clock (hb : b.Steady) :
    b.clock c.bench ≤ b.clock (cycle b start send_command append_extra target c).2.bench := by
  have hnow := hb.now c.bench
  have hsend := hb.run (send_command target) (b.now c.bench).2
  rcases cycle_cases b start send_command append_extra target c with
    ⟨e, s, hs, hcycle⟩ | ⟨feedback, s, hs, ⟨e, s', hs', hcycle⟩ | ⟨extra, s', hs', hcycle⟩⟩
  · rw [hs] at hsend
    rw [hcycle]
    exact hnow.trans hsend
  · have hextra := hb.run append_extra (b.now s).2
    rw [hs] at hsend
    rw [hs'] at hextra
    rw [hcycle]
    exact hnow.trans (hsend.trans ((hb.now s).trans hextra))
  · have hextra := hb.run append_extra (b.now s).2
    rw [hs] at hsend
    rw [hs'] at hextra
    rw [hcycle]
    exact hnow.trans (hsend.trans ((hb.now s).trans (hextra.trans (hb.sleep _ _))))

/-- One that fails leaves the rows as they were, as a row is written only at the end of a cycle. -/
theorem cycle_error {c' : Capture σ D} {e : Exception}
    (h : cycle b start send_command append_extra target c = (.error e, c')) :
    c'.rows = c.rows := by
  rcases cycle_cases b start send_command append_extra target c with
    ⟨e', s, -, hcycle⟩ | ⟨feedback, s, -, ⟨e', s', -, hcycle⟩ | ⟨extra, s', -, hcycle⟩⟩
  · obtain ⟨-, rfl⟩ := Prod.mk.inj (hcycle.symm.trans h)
    rfl
  · obtain ⟨-, rfl⟩ := Prod.mk.inj (hcycle.symm.trans h)
    rfl
  · cases congrArg Prod.fst (hcycle.symm.trans h)

variable (b start send_command append_extra target) in
/-- A cycle begun in `u`, and the row of it: the command is answered, then the extra columns
are read, and the row holds the time between the two, the target and what was answered. The
thread then sleeps until a period after the beginning. -/
inductive Written (u : σ) (row : Row D) (stamp : ℤ) : σ → Prop
  | intro {feedback : Feedback D} {extra : List F32} {w x : σ}
      (hsend : Dialogue.run b.exchange (send_command target) (b.now u).2 = (.ok feedback, w))
      (hextra : Dialogue.run b.exchange append_extra (b.now w).2 = (.ok extra, x))
      (hstamp : stamp = b.clock w)
      (hrow : row = ⟨seconds (stamp - start), target, row.position, feedback.velocity,
        feedback.torque, feedback.temperature, extra⟩) :
      Written u row stamp (b.sleep_until (b.clock u + sample_period) x)

variable (b send_command append_extra target) in
/-- A cycle begun in `u` fails with `e`: its command does, or after an answer to that the extra
columns do. -/
inductive Fails (u : σ) (e : Exception) : Prop
  | command {s : σ}
      (hsend : Dialogue.run b.exchange (send_command target) (b.now u).2 = (.error e, s))
  | columns {feedback : Feedback D} {s s' : σ}
      (hsend : Dialogue.run b.exchange (send_command target) (b.now u).2 = (.ok feedback, s))
      (hextra : Dialogue.run b.exchange append_extra (b.now s).2 = (.error e, s'))

omit [Add D] [Sub D] [Neg D] [LT D] [DecidableLT D] in
/-- The row of a cycle has the target of the command. -/
theorem Written.row_target {u v : σ} {row : Row D} {stamp : ℤ}
    (h : Written b start send_command append_extra target u row stamp v) :
    row.target = target := by
  obtain ⟨-, -, -, hrow⟩ := h
  rw [hrow]

omit [Add D] [Sub D] [Neg D] [LT D] [DecidableLT D] in
/-- And its stamp, as the seconds since the start. -/
theorem Written.row_t {u v : σ} {row : Row D} {stamp : ℤ}
    (h : Written b start send_command append_extra target u row stamp v) :
    row.t = seconds (stamp - start) := by
  obtain ⟨-, -, -, hrow⟩ := h
  rw [hrow]

/-- A cycle throws what an exchange of it does, and nothing of its own. -/
theorem cycle_fails {c' : Capture σ D} {e : Exception}
    (h : cycle b start send_command append_extra target c = (.error e, c')) :
    Fails b send_command append_extra target c.bench e := by
  rcases cycle_cases b start send_command append_extra target c with
    ⟨e', s, hs, hcycle⟩ | ⟨feedback, s, hs, ⟨e', s', hs', hcycle⟩ | ⟨extra, s', -, hcycle⟩⟩
  · obtain ⟨he, -⟩ := Prod.mk.inj (hcycle.symm.trans h)
    obtain rfl := Except.error.inj he
    exact .command hs
  · obtain ⟨he, -⟩ := Prod.mk.inj (hcycle.symm.trans h)
    obtain rfl := Except.error.inj he
    exact .columns hs hs'
  · cases congrArg Prod.fst (hcycle.symm.trans h)

/-- One that returns adds its row. -/
theorem cycle_written {c' : Capture σ D}
    (h : cycle b start send_command append_extra target c = (.ok (), c')) :
    ∃ row stamp, c'.rows = c.rows ++ [row] ∧
      Written b start send_command append_extra target c.bench row stamp c'.bench := by
  rcases cycle_cases b start send_command append_extra target c with
    ⟨e', s, -, hcycle⟩ | ⟨feedback, s, hs, ⟨e', s', -, hcycle⟩ | ⟨extra, s', hs', hcycle⟩⟩
  · cases congrArg Prod.fst (hcycle.symm.trans h)
  · cases congrArg Prod.fst (hcycle.symm.trans h)
  · obtain ⟨-, rfl⟩ := Prod.mk.inj (hcycle.symm.trans h)
    exact ⟨_, b.clock s, rfl, .intro hs hs' rfl rfl⟩

omit [Add D] [Sub D] [Neg D] [LT D] [DecidableLT D] in
/-- On a steady clock the row is stamped in between, and the cycle is over a period later. -/
theorem Written.clock (hb : b.Steady) {u v : σ} {row : Row D} {stamp : ℤ}
    (h : Written b start send_command append_extra target u row stamp v) :
    b.clock u ≤ stamp ∧ stamp ≤ b.clock v ∧ b.clock u + sample_period ≤ b.clock v := by
  obtain @⟨feedback, extra, w, x, hs, hs', rfl, -⟩ := h
  have hsend := hb.run (send_command target) (b.now u).2
  have hextra := hb.run append_extra (b.now w).2
  rw [hs] at hsend
  rw [hs'] at hextra
  refine ⟨(hb.now u).trans hsend, ?_, hb.wakes _ _⟩
  exact (hb.now w).trans (hextra.trans (hb.sleep _ _))

variable {segment : Segment D} {rest : List (Segment D)} {segment_end : D}

variable (b start send_command append_extra c segment rest) in
/-- A pass that begins a segment reads the clock and adds the duration to get `segment_end`. -/
theorem profile_turn_begin :
    profile_turn b start send_command append_extra ⟨segment :: rest, none, c⟩
      = .again ⟨segment :: rest,
          some (seconds (b.clock c.bench - start) + segment.duration_s),
          { c with bench := (b.now c.bench).2 }⟩ := rfl

variable (send_command append_extra rest) in
/-- A pass that finds `segment_end` gone by drops the segment. -/
theorem profile_turn_over (h : ¬ (seconds (b.clock c.bench - start) : D) < segment_end) :
    profile_turn b start send_command append_extra ⟨segment :: rest, some segment_end, c⟩
      = .again ⟨rest, none, { c with bench := (b.now c.bench).2 }⟩ :=
  if_neg h

variable (send_command append_extra rest) in
/-- Any other pass is a cycle of the current segment. -/
theorem profile_turn_cycle (h : (seconds (b.clock c.bench - start) : D) < segment_end) :
    profile_turn b start send_command append_extra ⟨segment :: rest, some segment_end, c⟩
      = match cycle b start send_command append_extra segment.target
          { c with bench := (b.now c.bench).2 } with
        | (.error e, c) => .stop (.error e, c)
        | (.ok (), c) => .again ⟨segment :: rest, some segment_end, c⟩ :=
  if_pos h

variable (b start send_command append_extra c) in
/-- What a pass goes on with. -/
inductive GoesOn : List (Segment D) → Option D → Progress σ D → Prop
  | begins (segment : Segment D) (rest : List (Segment D)) :
    GoesOn (segment :: rest) none ⟨segment :: rest,
      some (seconds (b.clock c.bench - start) + segment.duration_s),
      { c with bench := (b.now c.bench).2 }⟩
  | cycles (segment : Segment D) (rest : List (Segment D)) (segment_end : D) (c' : Capture σ D)
      (htime : seconds (b.clock c.bench - start) < segment_end)
      (hcycle : tracking_capture.cycle b start send_command append_extra segment.target
        { c with bench := (b.now c.bench).2 } = (.ok (), c')) :
    GoesOn (segment :: rest) (some segment_end) ⟨segment :: rest, some segment_end, c'⟩
  | ends (segment : Segment D) (rest : List (Segment D)) (segment_end : D)
      (htime : ¬ seconds (b.clock c.bench - start) < segment_end) :
    GoesOn (segment :: rest) (some segment_end) ⟨rest, none, { c with bench := (b.now c.bench).2 }⟩

variable (b start send_command append_extra c) in
/-- What the last pass leaves. -/
inductive Stops : List (Segment D) → Option D → Except Exception Unit × Capture σ D → Prop
  | finished (segment_end : Option D) : Stops [] segment_end (.ok (), c)
  | fails (segment : Segment D) (rest : List (Segment D)) (segment_end : D) (e : Exception)
      (c' : Capture σ D) (htime : seconds (b.clock c.bench - start) < segment_end)
      (hcycle : tracking_capture.cycle b start send_command append_extra segment.target
        { c with bench := (b.now c.bench).2 } = (.error e, c')) :
    Stops (segment :: rest) (some segment_end) (.error e, c')

variable {segments : List (Segment D)} {current : Option D}

/-- **Inversion of a pass**: all that it can do when it is not the last one. -/
theorem goesOn_of_again {st' : Progress σ D}
    (hpass : profile_turn b start send_command append_extra ⟨segments, current, c⟩ = .again st') :
    GoesOn b start send_command append_extra c segments current st' := by
  rcases segments with _ | ⟨segment, rest⟩
  · cases hpass
  rcases current with _ | segment_end
  · rw [profile_turn_begin] at hpass
    obtain rfl := Pass.again.inj hpass
    exact .begins segment rest
  by_cases htime : seconds (b.clock c.bench - start) < segment_end
  · rw [profile_turn_cycle send_command append_extra rest htime] at hpass
    rcases hcycle : cycle b start send_command append_extra segment.target
      { c with bench := (b.now c.bench).2 } with ⟨e | ⟨⟩, c'⟩
    · rw [hcycle] at hpass
      cases hpass
    · rw [hcycle] at hpass
      obtain rfl := Pass.again.inj hpass
      exact .cycles segment rest segment_end c' htime hcycle
  · rw [profile_turn_over send_command append_extra rest htime] at hpass
    obtain rfl := Pass.again.inj hpass
    exact .ends segment rest segment_end htime

/-- And all that it can do when it is: the profile is finished, or a cycle has failed. -/
theorem stops_of_stop {out : Except Exception Unit × Capture σ D}
    (hpass : profile_turn b start send_command append_extra ⟨segments, current, c⟩ = .stop out) :
    Stops b start send_command append_extra c segments current out := by
  rcases segments with _ | ⟨segment, rest⟩
  · obtain rfl := Pass.stop.inj hpass
    exact .finished current
  rcases current with _ | segment_end
  · cases hpass
  by_cases htime : seconds (b.clock c.bench - start) < segment_end
  · rw [profile_turn_cycle send_command append_extra rest htime] at hpass
    rcases hcycle : cycle b start send_command append_extra segment.target
      { c with bench := (b.now c.bench).2 } with ⟨e | ⟨⟩, c'⟩
    · rw [hcycle] at hpass
      obtain rfl := Pass.stop.inj hpass
      exact .fails segment rest segment_end e c' htime hcycle
    · rw [hcycle] at hpass
      cases hpass
  · rw [profile_turn_over send_command append_extra rest htime] at hpass
    cases hpass

end Profile

/-! ## The pace of a profile -/

section Pace

variable {K : Type} [Field K] [LinearOrder K] [IsStrictOrderedRing K]

omit [LinearOrder K] [IsStrictOrderedRing K] in
theorem seconds_add (m n : ℤ) : (seconds (m + n) : K) = seconds m + seconds n := by
  rw [seconds, seconds, seconds, Int.cast_add, add_div]

theorem seconds_mono {m n : ℤ} (h : m ≤ n) : (seconds m : K) ≤ seconds n :=
  div_le_div_of_nonneg_right (Int.cast_le.mpr h) (Nat.cast_nonneg _)

theorem seconds_nonneg {n : ℤ} (h : 0 ≤ n) : (0 : K) ≤ seconds n :=
  div_nonneg (Int.cast_nonneg h) (Nat.cast_nonneg _)

/-- A hundred periods are a second. -/
theorem seconds_periods (n : ℕ) : 100 * (seconds (n * sample_period) : K) = n := by
  rw [seconds, sample_period]
  push_cast
  ring

/-- The rows that fit in the duration of a segment at 100 Hz. -/
def most [FloorSemiring K] (segment : Segment K) : ℕ := ⌈100 * segment.duration_s⌉₊

/-- The rows of a capture begun at `start`, when the clock reads `now`. -/
structure Timeline (start : ℤ) (rows : List (Row K)) (now : ℤ) : Prop where
  /-- The n-th row is stamped n periods after the start, or later. -/
  rate : ∀ (n : ℕ) row, rows[n]? = some row → (n : K) ≤ 100 * row.t
  ordered : rows.Pairwise fun row row' => row.t ≤ row'.t
  past : ∀ row ∈ rows, row.t ≤ seconds (now - start)
  paced : start + rows.length * sample_period ≤ now

variable {start now now' : ℤ} {rows : List (Row K)}

theorem Timeline.mono (h : Timeline start rows now) (hnow : now ≤ now') :
    Timeline start rows now' where
  rate := h.rate
  ordered := h.ordered
  past row hrow := (h.past row hrow).trans (seconds_mono (by omega))
  paced := h.paced.trans hnow

/-- One more row: stamped after the cycle has begun, and a period later it is over. -/
theorem Timeline.concat (h : Timeline start rows now) {row : Row K} {stamp : ℤ}
    (hrow : row.t = seconds (stamp - start)) (hbegun : now ≤ stamp) (hstamp : stamp ≤ now')
    (hover : now + sample_period ≤ now') : Timeline start (rows ++ [row]) now' where
  rate n r hr := by
    rcases lt_trichotomy n rows.length with hlt | rfl | hgt
    · rw [List.getElem?_append_left hlt] at hr
      exact h.rate n r hr
    · -- the new row, stamped after a period for each row before it
      rw [List.getElem?_concat_length] at hr
      obtain rfl := Option.some.inj hr
      have hpaced := h.paced
      have hlate : (seconds (rows.length * sample_period) : K) ≤ seconds (stamp - start) :=
        seconds_mono (by omega)
      rw [hrow, ← seconds_periods rows.length]
      linarith
    · rw [List.getElem?_eq_none (by rw [List.length_append, List.length_singleton]; omega)] at hr
      cases hr
  ordered := by
    rw [List.pairwise_append]
    refine ⟨h.ordered, List.pairwise_singleton _ _, ?_⟩
    intro r hr r' hr'
    rw [List.mem_singleton.mp hr', hrow]
    exact (h.past r hr).trans (seconds_mono (by omega))
  past r hr := by
    rcases List.mem_append.mp hr with hr | hr
    · exact (h.past r hr).trans (seconds_mono (by omega))
    · rw [List.mem_singleton.mp hr, hrow]
      exact seconds_mono (by omega)
  paced := by
    have hpaced := h.paced
    rw [List.length_append, List.length_singleton]
    push_cast
    linarith

/-! ## A whole profile -/

variable [FloorSemiring K]

section Trace

variable {σ : Type*} (b : Bench σ) (start : ℤ)

/-- The `segment_end` of a segment that is begun in the state `s`. -/
def ends_at (segment : Segment K) (s : σ) : K := seconds (b.clock s - start) + segment.duration_s

variable (send_command : K → Operation (Feedback K)) (append_extra : Operation (List F32))

/-- The inner loop, from the state `s` in which it first reads the clock: every reading
before `segment_end` is followed by a cycle that is answered, begins after the reading and
takes a period or longer, and by the row of it, stamped while it lasts. -/
inductive Cycles (segment : Segment K) (segment_end : K) (s : σ) : List (Row K) → σ → Prop
  | refl : Cycles segment segment_end s [] s
  | tail {rows : List (Row K)} {u v : σ} {row : Row K} {stamp : ℤ}
      (h : Cycles segment segment_end s rows u) (htime : seconds (b.clock u - start) < segment_end)
      (hwritten : Written b start send_command append_extra segment.target (b.now u).2 row stamp v)
      (hafter : b.clock (b.now u).2 ≤ stamp) (hbefore : stamp ≤ b.clock v)
      (hover : b.clock (b.now u).2 + sample_period ≤ b.clock v) :
      Cycles segment segment_end s (rows ++ [row]) v

/-- The rows of a segment that was begun in `s`. Its cycles go on until the clock, read in
`v`, is no longer before its end, so that there are rows unless the first reading was late
by the whole duration. -/
structure Block (segment : Segment K) (s : σ) (rows : List (Row K)) (v : σ) : Prop where
  cycles : Cycles b start send_command append_extra segment (ends_at b start segment s) (b.now s).2
    rows v
  ended : ends_at b start segment s ≤ seconds (b.clock v - start)
  target : ∀ row ∈ rows, row.target = segment.target
  few : rows.length ≤ most segment

/-- The segments that are over, the first of them begun in `s`, each next one when the clock
has been read for the last time in the one before. -/
inductive Recording (s : σ) : List (Segment K) → List (List (Row K)) → σ → Prop
  | refl : Recording s [] [] s
  | tail {segments : List (Segment K)} {blocks : List (List (Row K))} {u v : σ}
      {segment : Segment K} {rows : List (Row K)} (h : Recording s segments blocks u)
      (hblock : Block b start send_command append_extra segment u rows v) :
      Recording s (segments ++ [segment]) (blocks ++ [rows]) (b.now v).2

/-- The rows of the current segment, if one has been begun, in the state `u`, and what the
bench is in now. -/
inductive Begun (u : σ) : List (Segment K) → Option K → List (Row K) → σ → Prop
  | between {profile : List (Segment K)} : Begun u profile none [] u
  | within {segment : Segment K} {rest : List (Segment K)} {rows : List (Row K)} {v : σ}
      (h : Cycles b start send_command append_extra segment (ends_at b start segment u) (b.now u).2
        rows v) :
      Begun u (segment :: rest) (some (ends_at b start segment u)) rows v

variable (s : σ) (profile : List (Segment K)) (rows₀ : List (Row K))

/-- The invariant of the loop: the blocks of the segments that are over, and the rows of the
current one. -/
def Paced (st : Progress σ K) : Prop :=
  ∃ finished blocks block u, profile = finished ++ st.profile ∧
    Recording b start send_command append_extra s finished blocks u ∧
    st.capture.rows = rows₀ ++ (blocks.flatten ++ block) ∧
    Timeline start (blocks.flatten ++ block) (b.clock st.capture.bench) ∧
    Begun b start send_command append_extra u st.profile st.segment_end block st.capture.bench

/-- What a profile leaves that was begun in `s`: a block for each of its segments if no
exchange failed. Otherwise there are the blocks of the first ones, and the rows of the
segment in whose next cycle one failed, with the exception that is thrown. -/
inductive Recorded : Except Exception Unit × Capture σ K → Prop
  | completed {blocks : List (List (Row K))} {c : Capture σ K}
      (hblocks : Recording b start send_command append_extra s profile blocks c.bench)
      (hrows : c.rows = rows₀ ++ blocks.flatten)
      (htimeline : Timeline start blocks.flatten (b.clock c.bench)) : Recorded (.ok (), c)
  | broken {finished rest : List (Segment K)} {segment : Segment K}
      {blocks : List (List (Row K))} {rows : List (Row K)} {u v : σ} {e : Exception}
      {c : Capture σ K} (hprofile : profile = finished ++ segment :: rest)
      (hblocks : Recording b start send_command append_extra s finished blocks u)
      (hcycles : Cycles b start send_command append_extra segment (ends_at b start segment u)
        (b.now u).2 rows v)
      (htime : seconds (b.clock v - start) < ends_at b start segment u)
      (hfails : Fails b send_command append_extra segment.target (b.now v).2 e)
      (hfew : rows.length < most segment)
      (hrows : c.rows = rows₀ ++ (blocks.flatten ++ rows))
      (htimeline : Timeline start (blocks.flatten ++ rows) (b.clock c.bench)) :
      Recorded (.error e, c)

end Trace

section Blocks

variable {σ : Type*} {b : Bench σ} {start : ℤ} {segment : Segment K} {segment_end : K} {s u v : σ}
  {rows : List (Row K)} {send_command : K → Operation (Feedback K)}
  {append_extra : Operation (List F32)}

omit [IsStrictOrderedRing K] [FloorSemiring K] in
/-- The rows of a segment have the target of the segment. -/
theorem Cycles.target
    (h : Cycles b start send_command append_extra segment segment_end s rows v) :
    ∀ row ∈ rows, row.target = segment.target := by
  induction h with
  | refl => exact fun row hrow => absurd hrow List.not_mem_nil
  | tail _ _ hwritten _ _ _ ih =>
    intro row hrow
    rcases List.mem_append.mp hrow with hrow | hrow
    · exact ih row hrow
    · rw [List.mem_singleton.mp hrow, hwritten.row_target]

omit [IsStrictOrderedRing K] [FloorSemiring K] in
/-- For each row a period has gone by, as `sleep_until` waits for it. -/
theorem Cycles.paced (hb : b.Steady)
    (h : Cycles b start send_command append_extra segment segment_end s rows v) :
    b.clock s + rows.length * sample_period ≤ b.clock v := by
  induction h with
  | refl => simp
  | @tail rows u _ _ _ _ _ _ _ _ hover ih =>
    have hnow := hb.now u
    rw [List.length_append, List.length_singleton]
    push_cast
    linarith

/-- While a segment lasts there is room in it for one row more: so many periods have gone by
since it was begun that there is less than one for each row. -/
theorem Cycles.room (hb : b.Steady)
    (h : Cycles b start send_command append_extra segment (ends_at b start segment s) (b.now s).2
      rows v)
    (htime : seconds (b.clock v - start) < ends_at b start segment s) :
    rows.length < most segment := by
  have hpaced := h.paced hb
  have hnow := hb.now s
  have hsplit : (seconds (b.clock v - start) : K)
      = seconds (b.clock s - start) + seconds (b.clock v - b.clock s) := by
    rw [← seconds_add]
    congr 1
    omega
  have hperiods : (seconds (rows.length * sample_period) : K)
      ≤ seconds (b.clock v - b.clock s) := seconds_mono (by omega)
  have hcount := seconds_periods (K := K) rows.length
  rw [ends_at] at htime
  have hless : (rows.length : K) < 100 * segment.duration_s := by linarith
  exact Nat.lt_ceil.mpr hless

/-- So a segment has no more rows than fit in its duration at 100 Hz. -/
theorem Cycles.few (hb : b.Steady)
    (h : Cycles b start send_command append_extra segment (ends_at b start segment s) (b.now s).2
      rows v) :
    rows.length ≤ most segment := by
  cases h with
  | refl => exact Nat.zero_le _
  | tail h htime _ _ _ _ =>
    rw [List.length_append, List.length_singleton]
    exact h.room hb htime

omit [IsStrictOrderedRing K] in
/-- A segment has a row if the clock is read in time for its first cycle. -/
theorem Block.nonempty (h : Block b start send_command append_extra segment s rows v)
    (hlong : seconds (b.clock (b.now s).2 - start) < ends_at b start segment s) : rows ≠ [] := by
  obtain ⟨hcycles, hended, -, -⟩ := h
  cases hcycles with
  | refl => exact absurd hlong (not_lt.mpr hended)
  | tail => simp

/-- Where a reading of the clock takes less time than any segment, none is without rows. -/
theorem Recording.nonempty {reading : ℤ} (hread : ∀ s, b.clock (b.now s).2 ≤ b.clock s + reading)
    {segments : List (Segment K)} {blocks : List (List (Row K))}
    (hlong : ∀ segment ∈ segments, (seconds reading : K) < segment.duration_s)
    (h : Recording b start send_command append_extra s segments blocks u) :
    ∀ rows ∈ blocks, rows ≠ [] := by
  induction h with
  | refl => exact fun rows hrows => absurd hrows List.not_mem_nil
  | @tail segments blocks u v segment rows _ hblock ih =>
    intro rows' hrows'
    rcases List.mem_append.mp hrows' with hrows' | hrows'
    · exact ih (fun s hs => hlong s (List.mem_append_left _ hs)) rows' hrows'
    · rw [List.mem_singleton.mp hrows']
      have hsegment := hlong segment (List.mem_append_right _ List.mem_cons_self)
      have hfirst : (seconds (b.clock (b.now u).2 - start) : K)
          ≤ seconds (b.clock u - start + reading) := seconds_mono (by linarith [hread u])
      rw [seconds_add] at hfirst
      refine hblock.nonempty ?_
      rw [ends_at]
      linarith

end Blocks

/-! ## The loop -/

section Loop

variable {σ : Type*} (b : Bench σ) (start : ℤ)

/-- How many passes can be left. -/
def left (st : Progress σ K) : ℕ :=
  match st.profile with
  | [] => 0
  | segment :: rest =>
    (rest.map fun segment => most segment + 2).sum +
      match st.segment_end with
      | none => most segment + 2
      | some segment_end =>
        ⌈100 * (segment_end - seconds (b.clock st.capture.bench - start))⌉₊ + 1

variable {b start} {s : σ} {profile : List (Segment K)} {rows₀ : List (Row K)}
  {send_command : K → Operation (Feedback K)} {append_extra : Operation (List F32)}
  {c : Capture σ K} {segment : Segment K} {rest : List (Segment K)} {segment_end : K}

/-- **One pass** keeps the invariant: a segment is begun in the state of the reading, a
cycle adds a row to the current one, or it is over and its block is complete. -/
theorem Paced.again (hb : b.Steady) {st st' : Progress σ K}
    (h : Paced b start send_command append_extra s profile rows₀ st)
    (hpass : profile_turn b start send_command append_extra st = .again st') :
    Paced b start send_command append_extra s profile rows₀ st' := by
  have hnow := hb.now st.capture.bench
  obtain ⟨segments, current, c⟩ := st
  obtain ⟨finished, blocks, block, u, rfl, hblocks, hrows, htimeline, hbegun⟩ := h
  dsimp only at hnow hrows htimeline hbegun
  cases goesOn_of_again hpass with
  | begins segment rest =>
    cases hbegun
    exact ⟨finished, blocks, [], _, rfl, hblocks, hrows, htimeline.mono hnow, .within .refl⟩
  | cycles segment rest segment_end c' htime hcycle =>
    cases hbegun with
    | within hcycles =>
      -- the cycle is begun after the reading
      obtain ⟨row, stamp, hrow, hwritten⟩ := cycle_written hcycle
      obtain ⟨hafter, hbefore, hover⟩ := hwritten.clock hb
      dsimp only at hrow hwritten hafter hover
      refine ⟨finished, blocks, block ++ [row], u, rfl, hblocks, ?_, ?_,
        .within (.tail hcycles htime hwritten hafter hbefore hover)⟩
      · rw [hrow, hrows, List.append_assoc, List.append_assoc]
      · rw [← List.append_assoc]
        exact htimeline.concat hwritten.row_t (hnow.trans hafter) hbefore (by linarith)
  | ends segment rest segment_end htime =>
    cases hbegun with
    | within hcycles =>
      refine ⟨finished ++ [segment], blocks ++ [block], [], _, List.append_cons _ _ _,
        hblocks.tail ⟨hcycles, not_lt.mp htime, hcycles.target, hcycles.few hb⟩, ?_, ?_,
        .between⟩
      · rw [hrows, List.flatten_append, List.flatten_singleton, List.append_nil]
      · rw [List.flatten_append, List.flatten_singleton, List.append_nil]
        exact htimeline.mono hnow

/-- What the invariant says at the end: either the profile is finished, or a cycle of the
current segment has failed, which was begun in time and has written nothing. -/
theorem Paced.stop (hb : b.Steady) {st : Progress σ K}
    (h : Paced b start send_command append_extra s profile rows₀ st)
    {out : Except Exception Unit × Capture σ K}
    (hpass : profile_turn b start send_command append_extra st = .stop out) :
    Recorded b start send_command append_extra s profile rows₀ out := by
  have hnow := hb.now st.capture.bench
  obtain ⟨segments, current, c⟩ := st
  obtain ⟨finished, blocks, block, u, rfl, hblocks, hrows, htimeline, hbegun⟩ := h
  dsimp only at hnow hrows htimeline hbegun
  cases stops_of_stop hpass with
  | finished current =>
    cases hbegun
    rw [List.append_nil] at hrows htimeline ⊢
    exact .completed hblocks hrows htimeline
  | fails segment rest segment_end e c' htime hcycle =>
    cases hbegun with
    | within hcycles =>
      have hclock := cycle_clock start send_command append_extra
        { c with bench := (b.now c.bench).2 } segment.target hb
      rw [hcycle] at hclock
      exact .broken rfl hblocks hcycles htime (cycle_fails hcycle) (hcycles.room hb htime)
        ((cycle_error hcycle).trans hrows) (htimeline.mono (hnow.trans hclock))

theorem ceil_lt_ceil {x y : K} (hy : 0 < y) (hxy : x + 1 ≤ y) : ⌈x⌉₊ < ⌈y⌉₊ := by
  have hpos : 0 < ⌈y⌉₊ := Nat.ceil_pos.mpr hy
  have hceil : y ≤ (⌈y⌉₊ : K) := Nat.le_ceil y
  have hle : ⌈x⌉₊ ≤ ⌈y⌉₊ - 1 := by
    rw [Nat.ceil_le, Nat.cast_pred hpos]
    linarith
  omega

/-- Each pass that is not the last leaves less to do. -/
theorem left_lt (hb : b.Steady) {st st' : Progress σ K}
    (hpass : profile_turn b start send_command append_extra st = .again st') :
    left b start st' < left b start st := by
  have hnow := hb.now st.capture.bench
  obtain ⟨segments, current, c⟩ := st
  dsimp only at hnow
  cases goesOn_of_again hpass with
  | begins segment rest =>
    rw [left, left]
    dsimp only
    have hread : (seconds (b.clock c.bench - start) : K)
        ≤ seconds (b.clock (b.now c.bench).2 - start) := seconds_mono (by omega)
    have hfit : ⌈100 * (seconds (b.clock c.bench - start) + segment.duration_s
        - seconds (b.clock (b.now c.bench).2 - start))⌉₊ ≤ most segment :=
      Nat.ceil_mono (by linarith)
    omega
  | cycles segment rest segment_end c' htime hcycle =>
    -- a hundredth of a second has gone by, and so one of the passes that were left
    obtain ⟨row, stamp, -, hwritten⟩ := cycle_written hcycle
    obtain ⟨-, -, hover⟩ := hwritten.clock hb
    dsimp only at hover
    rw [left, left]
    dsimp only
    have hperiod : (seconds (b.clock c.bench + sample_period - start) : K)
        ≤ seconds (b.clock c'.bench - start) := seconds_mono (by omega)
    have hone : 100 * (seconds sample_period : K) = 1 := by
      simpa using seconds_periods (K := K) 1
    have hsplit : (seconds (b.clock c.bench + sample_period - start) : K)
        = seconds (b.clock c.bench - start) + seconds sample_period := by
      rw [← seconds_add]
      congr 1
      omega
    have hless : ⌈100 * (segment_end - seconds (b.clock c'.bench - start))⌉₊
        < ⌈100 * (segment_end - (seconds (b.clock c.bench - start) : K))⌉₊ := by
      exact ceil_lt_ceil (by linarith) (by linarith)
    omega
  | ends segment rest segment_end htime =>
    rw [left]
    dsimp only
    rcases rest with _ | ⟨next, rest⟩
    · exact Nat.succ_pos _
    · rw [left]
      dsimp only
      rw [List.map_cons, List.sum_cons]
      omega

omit [IsStrictOrderedRing K] in
variable (profile send_command append_extra) in
theorem paced_start (hb : b.Steady) (c : Capture σ K) :
    Paced b (b.clock c.bench) send_command append_extra (b.now c.bench).2 profile c.rows
      ⟨profile, none, { c with bench := (b.now c.bench).2 }⟩ := by
  refine ⟨[], [], [], (b.now c.bench).2, rfl, .refl, (List.append_nil _).symm, ⟨?_, .nil, ?_, ?_⟩,
    .between⟩
  · intro n row h
    cases h
  · intro row h
    cases h
  · simpa using hb.now c.bench

omit [IsStrictOrderedRing K] in
variable (b start profile c) in
theorem left_start : left b start ⟨profile, none, c⟩
    < (profile.map fun segment => most segment + 2).sum + 1 := by
  rw [left]
  rcases profile with _ | ⟨segment, rest⟩
  · exact Nat.one_pos
  · dsimp only
    rw [List.map_cons, List.sum_cons]
    omega

variable (profile send_command append_extra) in
/-- A profile is over within so many passes: two for each segment, one for each cycle that
fits in it at 100 Hz, and the last. -/
theorem run_profile_ends (hb : b.Steady) (c : Capture σ K) :
    ∃ out, run_profile b send_command append_extra profile
        ((profile.map fun segment => most segment + 2).sum + 1) c = some out := by
  obtain ⟨out, hrun, -⟩ := run_of_rank (I := fun _ : Progress σ K => True)
    (Q := fun _ => True) (left b (b.clock c.bench)) (fun _ _ _ _ => trivial)
    (fun st st' _ hpass => ⟨trivial, left_lt hb hpass⟩) trivial
    (left_start b (b.clock c.bench) profile _)
  exact ⟨out, hrun⟩

/-- What it leaves then: the invariant holds when `start` has been read, and to the end. -/
theorem recorded_of_run (hb : b.Steady) {c : Capture σ K} {passes : ℕ}
    {out : Except Exception Unit × Capture σ K}
    (hrun : run_profile b send_command append_extra profile passes c = some out) :
    Recorded b (b.clock c.bench) send_command append_extra (b.now c.bench).2 profile c.rows out :=
  Ends.invariant
    (I := Paced b (b.clock c.bench) send_command append_extra (b.now c.bench).2 profile c.rows)
    (fun _ _ h hpass => h.stop hb hpass) (fun _ _ h hpass => h.again hb hpass)
    (ends_iff_run.mpr ⟨passes, hrun⟩) (paced_start profile send_command append_extra hb c)

end Loop

end Pace

/-- The answer to a read of the run mode. -/
def run_mode_answer : CanFrame :=
  make_param_response_frame_uint8 1 0xFD param_index.run_mode RunMode.Velocity.raw

/-- A motor that is in velocity mode, stands still and answers after a millisecond; reading
the clock takes 40 ns. -/
def quiet_bench : Bench ℤ where
  exchange e s := (.ok (match e.expected_type with
    | .ReadParam => run_mode_answer
    | _ => fixtures.enable_answer), s + 1000000)
  now s := (s, s + 40)
  sleep_until t s := max t s

theorem quiet_bench_steady : quiet_bench.Steady where
  now s := Int.le_add_of_nonneg_right (by decide)
  exchange _ s := Int.le_add_of_nonneg_right (by decide)
  sleep t s := le_max_right t s
  wakes t s := le_max_left t s

/-- What it answers to a command. -/
def quiet_feedback : Feedback ℚ :=
  ⟨1, 0xFD, ⟨2⟩, ⟨0⟩, -88 / 458745, -44 / 65535, -17 / 65535, 27⟩

theorem quiet_done :
    (match parse_feedback fixtures.enable_answer fixtures.single.limits_ with
      | some feedback => .done feedback
      | none => .fail (.runtime_error "robstride: malformed feedback frame")
        : Operation (Feedback ℚ)) = .done quiet_feedback := by
  have hparse : parse_feedback fixtures.enable_answer fixtures.rs02 = some quiet_feedback := by
    decide +kernel
  rw [show fixtures.single.limits_ = fixtures.rs02 from rfl, hparse]

theorem quiet_answer (target : ℚ) (s : ℤ) :
    Dialogue.run quiet_bench.exchange (fixtures.single.send_velocity_command target) s
      = (.ok quiet_feedback, s + 1000000) := by
  have hask : quiet_bench.exchange ⟨make_write_param_frame_float 1 0xFD param_index.spd_ref
      (FloatConv.toFloat target), .Feedback⟩ s = (.ok fixtures.enable_answer, s + 1000000) := rfl
  refine (Dialogue.run_ask_ok (congrArg Prod.fst hask) _).trans ?_
  rw [hask]
  exact congrArg (fun p => Dialogue.run quiet_bench.exchange p (s + 1000000)) quiet_done

/-- Two segments, of a twentieth of a second and of none. -/
def short_profile : List (Segment ℚ) := [⟨1 / 20, 2⟩, ⟨0, 1⟩]

end tracking_capture

end Robstride
