/-
The position column of a capture.

A feedback frame carries the position wrapped to one span, and `run_profile` unwraps it
row by row, which goes right as long as the motor moves less than half a span between two
samples. Whether it does is a matter of how far apart in time the samples can be, and the
loop bounds that: a cycle lasts one period, or as long as its exchanges and readings of the
clock if they take longer, then the sleep may be late, and the next sample is no later than
the end of the next command, before which the clock is read a few times more
(`longest_gap`). With the driver's timeout for a limit on the exchanges this is a condition
on the speed of the motor, and under it every position recorded is the true one at a time
while its own command was under way, moved by the whole turns of the first
(`recorded_positions`), the row that an exception left open included.

Positions and times are in an ordered field: the results are exact arithmetic.
-/
import RobstrideDriver.TrackingCapture

set_option autoImplicit false

open CppArith Retry

namespace Robstride

namespace tracking_capture

open PositionUnwrapper

variable {σ : Type*} {K : Type} [Field K] [LinearOrder K] [FloorRing K]

/-! ## The motor and the bench -/

/-- A motor whose continuous position is `motion`: the feedback of each command reports, up
to `e`, a position it had while the command was under way. -/
def Samples (b : Bench σ) (send_command : K → Operation (Feedback K)) (motion : ℤ → K)
    (span e : K) : Prop :=
  ∀ target s feedback s', Dialogue.run b.exchange (send_command target) s = (.ok feedback, s') →
    ∃ time, b.clock s ≤ time ∧ time ≤ b.clock s' ∧
      Reading.Accurate span e ⟨feedback.position, motion time⟩

/-- What a bench takes its time for, in nanoseconds: reading the clock, a command, what a row
records besides, and waking up. -/
structure Prompt (b : Bench σ) (send_command : K → Operation (Feedback K))
    (append_extra : Operation (List F32)) (reading command extra late : ℤ) : Prop where
  now : ∀ s, b.clock (b.now s).2 ≤ b.clock s + reading
  command_time : ∀ target s feedback s',
    Dialogue.run b.exchange (send_command target) s = (.ok feedback, s') →
      b.clock s' ≤ b.clock s + command
  extra_time : ∀ s columns s', Dialogue.run b.exchange append_extra s = (.ok columns, s') →
    b.clock s' ≤ b.clock s + extra
  wakes : ∀ t s, b.clock (b.sleep_until t s) ≤ max t (b.clock s) + late

/-- The longest that a cycle takes, in which the clock is read twice: for the end of the
cycle and for the stamp. -/
def longest_cycle (reading command extra late : ℤ) : ℤ :=
  max sample_period (2 * reading + command + extra) + late

/-- The longest time between two samples. Besides the cycle of the one and the command of
the other there are readings of the clock: two for each segment that came to its end in
between, at most all of them, and at last one for the end of the cycle. -/
def longest_gap (reading command extra late : ℤ) (segments : ℕ) : ℤ :=
  longest_cycle reading command extra late + (2 * segments + 1) * reading + command

/-- The motor's speed, in units a second, is at most `speed`. -/
def SpeedLimited (motion : ℤ → K) (speed : K) : Prop :=
  ∀ t t', t ≤ t' → |motion t' - motion t| ≤ speed * seconds (t' - t)

/-! ## The invariant -/

/-- The row shows the position, moved by `k` spans, at a time while its own command was under
way: no later than its stamp, which is when the command was over, and no earlier than a
command takes before it. -/
structure Shows (motion : ℤ → K) (span e : K) (start command : ℤ) (k : ℤ) (row : Row K)
    (time : ℤ) : Prop where
  position : |row.position - (motion time + span * (k : K))| ≤ e
  sampled : seconds (time - start) ≤ row.t
  stamped : row.t ≤ seconds (time + command - start)

/-- The rows show positions in the order of their times; the unwrapper is the one of the last
of them, and no more than `since` has gone by since. -/
def Followed (b : Bench σ) (motion : ℤ → K) (span e : K) (start command since : ℤ)
    (c : Capture σ K) : Prop :=
  c.open_row = none ∧
    (c.rows = [] ∧ c.unwrapper = of_span span ∨
      ∃ first times last reported, List.Forall₂ (Shows motion span e start command (-first)) c.rows
          (times ++ [last]) ∧ (times ++ [last]).Pairwise (· ≤ ·) ∧
        Tracks span first c.unwrapper ⟨reported, motion last⟩ ∧
        Reading.Accurate span e ⟨reported, motion last⟩ ∧
        last ≤ b.clock c.bench ∧ b.clock c.bench ≤ last + since)

/-- What a profile leaves: every row shows a position, also one that has no end, moved by
one and the same number of spans, and the times of the positions are in order. -/
def AllShow (motion : ℤ → K) (span e : K) (start command : ℤ) (c : Capture σ K) : Prop :=
  ∃ (k : ℤ) (times : List ℤ),
    List.Forall₂ (Shows motion span e start command k) (c.rows ++ c.open_row.toList) times ∧
      times.Pairwise (· ≤ ·)

/-! ## One sample, one cycle -/

variable [IsStrictOrderedRing K] {b : Bench σ} {send_command : K → Operation (Feedback K)}
  {append_extra : Operation (List F32)} {motion : ℤ → K} {span e speed : K}
  {start reading command extra late since : ℤ} {c : Capture σ K}

omit [IsStrictOrderedRing K] in
/-- The position a row shows for a sample: the unwrapper keeps track of the motor, and is off by
what the report of this one sample is off by. -/
theorem Shows.of_tracks {first : ℤ} {unwrapper : PositionUnwrapper K} {reported : K} {time : ℤ}
    (h : Tracks span first (unwrapper.update reported).2 ⟨reported, motion time⟩)
    (haccurate : Reading.Accurate span e ⟨reported, motion time⟩) {row : Row K}
    (hrow : row.position = (unwrapper.update reported).1)
    (hsampled : seconds (time - start) ≤ row.t)
    (hstamped : row.t ≤ seconds (time + command - start)) :
    Shows motion span e start command (-first) row time := by
  refine ⟨?_, hsampled, hstamped⟩
  rw [hrow]
  exact h.output_error haccurate

/-- **One sample**, no more than a gap after the one before: the motor has moved less than half
a span since, less the error of the two reports, and so its row shows where it is, moved
by the same spans as the rows before. -/
theorem Followed.sample (hspan : 0 < span) (hspeed : 0 ≤ speed)
    (hmotion : SpeedLimited motion speed) {gap : ℤ}
    (hgap : speed * seconds gap < span / 2 - 2 * e)
    (h : Followed b motion span e start command since c)
    {reported : K} {time : ℤ} (haccurate : Reading.Accurate span e ⟨reported, motion time⟩)
    (hafter : b.clock c.bench ≤ time) (hbefore : time + since ≤ b.clock c.bench + gap)
    {row : Row K} (hrow : row.position = (c.unwrapper.update reported).1)
    (hsampled : seconds (time - start) ≤ row.t)
    (hstamped : row.t ≤ seconds (time + command - start)) :
    ∃ first times, List.Forall₂ (Shows motion span e start command (-first)) (c.rows ++ [row])
        (times ++ [time]) ∧ (times ++ [time]).Pairwise (· ≤ ·) ∧
      Tracks span first (c.unwrapper.update reported).2 ⟨reported, motion time⟩ := by
  obtain ⟨-, ⟨hrows, hfresh⟩ | ⟨first, times, last, before, hshown, hordered, htracks, hlast,
    hpast, hrecent⟩⟩ := h
  · -- the first sample
    have htracks : Tracks span (turns span (motion time)) (c.unwrapper.update reported).2
        ⟨reported, motion time⟩ := by
      rw [hfresh]
      exact update_first span ⟨reported, motion time⟩
    refine ⟨turns span (motion time), [], ?_, List.pairwise_singleton _ _, htracks⟩
    rw [hrows]
    exact .cons (.of_tracks htracks haccurate hrow hsampled hstamped) .nil
  · have hlater : last ≤ time := hpast.trans hafter
    have hmove : |motion time - motion last| < span / 2 - 2 * e := by
      refine lt_of_le_of_lt ((hmotion last time hlater).trans ?_) hgap
      exact mul_le_mul_of_nonneg_left (seconds_mono (by omega)) hspeed
    have htracks' := update_tracks hspan htracks hlast haccurate hmove
    refine ⟨first, times ++ [last], ?_, ?_, htracks'⟩
    · exact List.rel_append hshown
        (.cons (.of_tracks htracks' haccurate hrow hsampled hstamped) .nil)
    · rw [List.pairwise_append]
      refine ⟨hordered, List.pairwise_singleton _ _, ?_⟩
      intro t ht t' ht'
      rw [List.mem_singleton.mp ht']
      rcases List.mem_append.mp ht with ht | ht
      · exact ((List.pairwise_append.mp hordered).2.2 t ht last List.mem_cons_self).trans hlater
      · rw [List.mem_singleton.mp ht]
        exact hlater

omit [IsStrictOrderedRing K] in
/-- Nothing is lost when more time is allowed for since the last sample. -/
theorem Followed.mono {since' : ℤ} (hsince : since ≤ since')
    (h : Followed b motion span e start command since c) :
    Followed b motion span e start command since' c := by
  obtain ⟨hopen, hfresh | ⟨first, times, last, reported, hshown, hordered, htracks, haccurate,
    hpast, hrecent⟩⟩ := h
  · exact ⟨hopen, .inl hfresh⟩
  · exact ⟨hopen, .inr ⟨first, times, last, reported, hshown, hordered, htracks, haccurate, hpast,
      by omega⟩⟩

omit [IsStrictOrderedRing K] in
/-- Reading the clock takes some of the time, and changes nothing else. -/
theorem Followed.tick (hb : b.Steady)
    (hprompt : Prompt b send_command append_extra reading command extra late)
    (h : Followed b motion span e start command since c) :
    Followed b motion span e start command (since + reading)
      { c with bench := (b.now c.bench).2 } := by
  have hnow := hb.now c.bench
  have hread := hprompt.now c.bench
  obtain ⟨hopen, hfresh | ⟨first, times, last, reported, hshown, hordered, htracks, haccurate,
    hpast, hrecent⟩⟩ := h
  · exact ⟨hopen, .inl hfresh⟩
  · exact ⟨hopen, .inr ⟨first, times, last, reported, hshown, hordered, htracks, haccurate,
      hpast.trans hnow, by dsimp only; omega⟩⟩

omit [IsStrictOrderedRing K] in
/-- What has been written stays, whatever comes next: the rows show positions, and no row is
open. -/
theorem Followed.allShow (h : Followed b motion span e start command since c) (s : σ) :
    AllShow motion span e start command { c with bench := s } := by
  obtain ⟨hopen, ⟨hrows, -⟩ | ⟨first, times, last, -, hshown, hordered, -⟩⟩ := h
  · refine ⟨0, [], ?_, .nil⟩
    dsimp only
    rw [hrows, hopen]
    exact .nil
  · refine ⟨-first, times ++ [last], ?_, hordered⟩
    dsimp only
    rw [hopen, Option.toList_none, List.append_nil]
    exact hshown

/-- The invariant of the loop over a profile of so many segments: since the last cycle the
clock has been read twice for each segment that is over, and once more for one that has
been begun. -/
def Sampled (b : Bench σ) (motion : ℤ → K) (span e : K) (start reading command cycle : ℤ)
    (segments : ℕ) (st : Progress σ K) : Prop :=
  st.profile.length ≤ segments ∧
    Followed b motion span e start command
      (cycle + (2 * (segments - st.profile.length : ℕ) +
        match st.segment_end with
        | none => 0
        | some _ => 1) * reading) st.capture

omit [Field K] [LinearOrder K] [FloorRing K] [IsStrictOrderedRing K] in
/-- A sample comes in time: so often, and not more often, the clock is read between the last cycle
and this command for the segments up to its own. -/
theorem since_le_gap {segments rest : ℕ} (hreading : 0 ≤ reading) (hrest : rest + 1 ≤ segments) :
    longest_cycle reading command extra late + (2 * (segments - (rest + 1) : ℕ) + 1) * reading
        + reading + reading + command
      ≤ longest_gap reading command extra late segments := by
  have hcount : ((segments - (rest + 1) : ℕ) : ℤ) + 1 ≤ segments := by omega
  have hreadings := mul_le_mul_of_nonneg_right hcount hreading
  rw [longest_gap]
  linarith

section Cycle

variable (hb : b.Steady) (hsamples : Samples b send_command motion span e)
  (hprompt : Prompt b send_command append_extra reading command extra late) (hspan : 0 < span)
  (hspeed : 0 ≤ speed) (hmotion : SpeedLimited motion speed)
include hb hsamples hprompt hspan hspeed hmotion

/-- **One cycle**: the clock is read, the command samples the motor, and when the cycle is over
no more time has gone by since the sample than a cycle takes. -/
theorem Followed.cycle {gap : ℤ} (hgap : speed * seconds gap < span / 2 - 2 * e)
    (hsince : since + reading + command ≤ gap)
    (h : Followed b motion span e start command since c)
    {target : K} {result : Except Exception Unit} {c' : Capture σ K}
    (hcycle : cycle b start send_command append_extra target c = (result, c')) :
    AllShow motion span e start command c' ∧ (result = .ok () →
      Followed b motion span e start command (longest_cycle reading command extra late) c') := by
  have htick := h.tick hb hprompt
  rcases cycle_cases b start send_command append_extra target c with
    ⟨e', s, -, heq⟩ | ⟨feedback, s, hs, hrest⟩
  · -- the command failed
    obtain ⟨rfl, rfl⟩ := Prod.mk.inj (heq.symm.trans hcycle)
    exact ⟨h.allShow s, fun hok => nomatch hok⟩
  obtain ⟨time, hafter, hbefore, haccurate⟩ := hsamples _ _ _ _ hs
  have htime := hprompt.command_time _ _ _ _ hs
  -- the row is stamped when the command is over
  have hsampled : (seconds (time - start) : K) ≤ (seconds_since b start s).1 :=
    seconds_mono (sub_le_sub_right hbefore start)
  have hstamped : ((seconds_since b start s).1 : K) ≤ seconds (time + command - start) :=
    seconds_mono (sub_le_sub_right (htime.trans (add_le_add_left hafter command)) start)
  have hsoon : time + (since + reading) ≤ b.clock (b.now c.bench).2 + gap := by omega
  rcases hrest with ⟨e', s', -, heq⟩ | ⟨extras, s', hs', heq⟩
  · -- the row has no end
    obtain ⟨rfl, rfl⟩ := Prod.mk.inj (heq.symm.trans hcycle)
    obtain ⟨first, times, hshown, hordered, -⟩ : ∃ first times, List.Forall₂ _
        (c.rows ++ [columns b start target c.unwrapper feedback s]) (times ++ [time]) ∧ _ :=
      htick.sample hspan hspeed hmotion hgap haccurate hafter hsoon rfl hsampled hstamped
    exact ⟨⟨-first, times ++ [time], hshown, hordered⟩, fun hok => nomatch hok⟩
  · obtain ⟨rfl, rfl⟩ := Prod.mk.inj (heq.symm.trans hcycle)
    obtain ⟨first, times, hshown, hordered, htracks⟩ : ∃ first times, List.Forall₂ _
        (c.rows ++ [{ columns b start target c.unwrapper feedback s with extra := extras }])
        (times ++ [time]) ∧ _ :=
      htick.sample hspan hspeed hmotion hgap haccurate hafter hsoon rfl hsampled hstamped
    have hread := hb.now c.bench
    have hread' := hprompt.now c.bench
    have hstamp := hb.now s
    have hstamp' := hprompt.now s
    have hextra := hprompt.extra_time _ _ _ hs'
    have hsteady := hb.run append_extra (b.now s).2
    rw [hs'] at hsteady
    have hwakes := hprompt.wakes (b.clock c.bench + sample_period) s'
    have hslept := hb.sleep (b.clock c.bench + sample_period) s'
    refine ⟨⟨-first, times ++ [time], ?_, hordered⟩, fun _ => ⟨rfl, .inr ⟨first, times, time,
      feedback.position, hshown, hordered, htracks, haccurate, ?_, ?_⟩⟩⟩
    · rw [Option.toList_none, List.append_nil]
      exact hshown
    · exact hbefore.trans (hstamp.trans (hsteady.trans hslept))
    · dsimp only at hsteady ⊢
      rw [longest_cycle]
      omega

variable {segments : ℕ}
  (hgap : speed * seconds (longest_gap reading command extra late segments) < span / 2 - 2 * e)
include hgap

/-- **One pass**, by what it does: a segment is begun or over, and the clock has been read once
more, or a cycle is made and the count begins anew. -/
theorem Sampled.again {st st' : Progress σ K}
    (h : Sampled b motion span e start reading command (longest_cycle reading command extra late)
      segments st)
    (hpass : profile_turn b start send_command append_extra st = .again st') :
    Sampled b motion span e start reading command (longest_cycle reading command extra late)
      segments st' := by
  obtain ⟨list, current, c⟩ := st
  obtain ⟨hlength, hfollowed⟩ := h
  have hreading : 0 ≤ reading := by
    have hnow := (hb.now c.bench).trans (hprompt.now c.bench)
    omega
  dsimp only at hlength hfollowed
  have htick := hfollowed.tick hb hprompt
  cases goesOn_of_again hpass with
  | begins segment rest =>
    refine ⟨hlength, htick.mono (le_of_eq ?_)⟩
    dsimp only
    ring
  | cycles segment rest segment_end c' htime hcycle =>
    refine ⟨hlength, ?_⟩
    have hafter := (htick.cycle hb hsamples hprompt hspan hspeed hmotion hgap
      (since_le_gap hreading hlength) hcycle).2 rfl
    refine hafter.mono (le_add_of_nonneg_right (mul_nonneg ?_ hreading))
    dsimp only
    omega
  | ends segment rest segment_end htime =>
    rw [List.length_cons] at hlength
    refine ⟨by dsimp only; omega, htick.mono (le_of_eq ?_)⟩
    dsimp only
    rw [List.length_cons, show segments - rest.length = segments - (rest.length + 1) + 1 by omega]
    push_cast
    ring

/-- At the end, also where the last cycle has failed and left a row open. -/
theorem Sampled.stop {st : Progress σ K}
    (h : Sampled b motion span e start reading command (longest_cycle reading command extra late)
      segments st)
    {out : Except Exception Unit × Capture σ K}
    (hpass : profile_turn b start send_command append_extra st = .stop out) :
    AllShow motion span e start command out.2 := by
  obtain ⟨list, current, c⟩ := st
  obtain ⟨hlength, hfollowed⟩ := h
  have hreading : 0 ≤ reading := by
    have hnow := (hb.now c.bench).trans (hprompt.now c.bench)
    omega
  dsimp only at hlength hfollowed
  cases stops_of_stop hpass with
  | finished current => exact hfollowed.allShow c.bench
  | fails segment rest segment_end e' c' htime hcycle =>
    exact ((hfollowed.tick hb hprompt).cycle hb hsamples hprompt hspan hspeed hmotion hgap
      (since_le_gap hreading hlength) hcycle).1

/-- **The position column.** If the motor cannot move half a span, less the error of two
reports, in the longest time between two samples, then every row of a profile begun with
a new unwrapper shows the position the motor had at a time while the row's own command was
under way, moved by one and the same number of spans, and the times are in order. -/
theorem recorded_positions (profile : List (Segment K)) (hsegments : profile.length ≤ segments)
    (passes : ℕ) (s : σ) {out : Except Exception Unit × Capture σ K}
    (hrun : run_profile b send_command append_extra profile passes ⟨s, of_span span, [], none⟩
      = some out) :
    AllShow motion span e (b.clock s) command out.2 := by
  have hstart : Sampled b motion span e (b.clock s) reading command
      (longest_cycle reading command extra late) segments
      ⟨profile, none, ⟨(b.now s).2, of_span span, [], none⟩⟩ :=
    ⟨hsegments, rfl, .inl ⟨rfl, rfl⟩⟩
  exact Ends.invariant (I := Sampled b motion span e (b.clock s) reading command
      (longest_cycle reading command extra late) segments)
    (fun st out h hpass => h.stop hb hsamples hprompt hspan hspeed hmotion hgap hpass)
    (fun st st' h hpass => h.again hb hsamples hprompt hspan hspeed hmotion hgap hpass)
    (ends_iff_run.mpr ⟨passes, hrun⟩) hstart

end Cycle

/-- The motor that answers reports its position within a thousandth of zero, where it stands. -/
theorem quiet_samples :
    Samples quiet_bench fixtures.single.send_velocity_command (fun _ => 0) (176 / 7)
      (1 / 1000) := by
  intro target s feedback s' h
  rw [quiet_answer] at h
  obtain ⟨hfeedback, rfl⟩ := Prod.mk.inj h
  obtain rfl := Except.ok.inj hfeedback
  have hclose : |quiet_feedback.position - FixedPoint.remainder 0 (176 / 7)| ≤ 1 / 1000 := by
    decide +kernel
  exact ⟨s, le_rfl, Int.le_add_of_nonneg_right (by decide), hclose⟩

/-- It takes 40 ns to read the clock there, a millisecond for a command, and no time to wake up. -/
theorem quiet_prompt :
    Prompt quiet_bench fixtures.single.send_velocity_command (.done []) 40 1000000 0 0 where
  now _ := le_rfl
  command_time target s feedback s' h := by
    rw [quiet_answer] at h
    exact (Prod.mk.inj h).2.ge
  extra_time s columns s' h := by
    obtain ⟨-, rfl⟩ := Prod.mk.inj h
    exact (add_zero _).ge
  wakes t s := (add_zero _).ge

/-- Samples of this motor come 11 ms apart at most, in which one that turns at up to 100 rad/s
would not get far; it stands still. -/
theorem recorded_positions_still :
    ∃ out, run_profile quiet_bench fixtures.single.send_velocity_command (.done [])
        short_profile ((short_profile.map fun segment => most segment + 2).sum + 1)
        ⟨0, .of_span (176 / 7), [], none⟩ = some out ∧
      AllShow (fun _ => 0) (176 / 7) (1 / 1000) (quiet_bench.clock 0) 1000000 out.2 := by
  obtain ⟨out, hrun⟩ := run_profile_ends short_profile fixtures.single.send_velocity_command
    (.done []) quiet_bench_steady ⟨0, .of_span (176 / 7), [], none⟩
  have hmotion : SpeedLimited (fun _ => (0 : ℚ)) 100 := by
    intro t t' ht
    rw [sub_self, abs_zero]
    exact mul_nonneg (by norm_num) (seconds_nonneg (sub_nonneg.mpr ht))
  have hgap : 100 * seconds (longest_gap 40 1000000 0 0 2) < (176 / 7 / 2 - 2 * (1 / 1000) : ℚ) := by
    norm_num [seconds, longest_gap, longest_cycle, sample_period]
  exact ⟨out, hrun, recorded_positions quiet_bench_steady quiet_samples quiet_prompt (by norm_num)
    (by norm_num) hmotion hgap short_profile le_rfl _ 0 hrun⟩

end tracking_capture

end Robstride
