/-
From the profile of a capture to the report on it.

The programs write one block of rows for each segment, and `plateau_stats` has nothing but
the columns to find them again. It does, if adjacent segments have different targets in
print: each is then one plateau (`plateaus_of_blocks`). Which plateaus are reported is a
question of time. The rows of a segment begin within a command of its beginning and go on
to within a cycle of its end, but for a few readings of the clock, so that a segment longer
than the transient by a cycle and a command is reported, one shorter than it by a command is
not, and printing blurs both by as much as it rounds (`report_of_profile`). The captures and
the settle times of the tool were made for each other in this sense (`report_of_capture`).

Stamps, targets and means are in an ordered field, where the programs compute in doubles
and the tool in Python floats: the results are exact arithmetic, and rounding is what is
asked of the numbers printed (`Rounds`).
-/
import RobstrideDriver.CaptureConversations
import RobstrideDriver.CapturedPositions
import RobstrideDriver.PlateauStats

set_option autoImplicit false

open CppArith Retry

namespace Robstride

namespace tracking_capture

variable {σ : Type*} {K : Type} [Field K] [LinearOrder K]

/-! ## When the rows of a segment are stamped -/

/-- The longest from the reading at which a segment begins to the stamp of its first row: a
command, and the readings that come before it, at the beginning, for the test of the loop
and for the end of the cycle. -/
def longest_answer (reading command : ℤ) : ℤ := command + 3 * reading

/-- The longest that a segment goes on beyond its end: a cycle, which was begun by a reading,
and the reading that finds the segment over. -/
def longest_turn (reading command extra late : ℤ) : ℤ :=
  longest_cycle reading command extra late + 2 * reading

/-- The rows of a segment that is over, when an answer and a turn take so long at most. -/
structure Filled (answer turn : ℤ) (latest : K) (segment : Segment K) (rows : List (Row K)) :
    Prop where
  target : ∀ row ∈ rows, row.target = segment.target
  past : ∀ row ∈ rows, 0 ≤ row.t ∧ row.t ≤ latest
  span : ∃ begun : K, (∃ row ∈ rows, row.t ≤ begun + seconds answer) ∧
    (∃ row ∈ rows, begun + segment.duration_s - seconds turn ≤ row.t) ∧
    ∀ row ∈ rows, begun ≤ row.t ∧ row.t ≤ begun + segment.duration_s + seconds answer

/-- How long after the start the last row of so many segments is stamped at most. -/
def horizon (reading answer turn : ℤ) (profile : List (Segment K)) : K :=
  (profile.map fun segment => segment.duration_s + seconds turn).sum + seconds reading +
    seconds answer

/-- The rows of the current segment, begun at `begun`, at the time `now` at which the clock is
read for the next time. Until there are rows that is no later than a reading takes. -/
structure Filling (reading answer turn : ℤ) (segment : Segment K) (begun now : K)
    (rows : List (Row K)) : Prop where
  target : ∀ row ∈ rows, row.target = segment.target
  within : ∀ row ∈ rows, begun ≤ row.t ∧ row.t ≤ begun + segment.duration_s + seconds answer
  none_yet : rows = [] → now ≤ begun + seconds reading
  first : rows ≠ [] → ∃ row ∈ rows, row.t ≤ begun + seconds answer
  recent : rows ≠ [] → ∃ row ∈ rows, now ≤ row.t + seconds turn
  begun_le : begun ≤ now
  late : now + seconds reading ≤ begun + segment.duration_s + seconds turn

/-- The current segment; `due` is when it has begun at the latest. -/
inductive Current (reading answer turn : ℤ) (due now : K) :
    List (Segment K) → Option K → List (Row K) → Prop
  | between {segments : List (Segment K)} (hdue : now ≤ due) :
      Current reading answer turn due now segments none []
  | within {segment : Segment K} {rest : List (Segment K)} {segment_end begun : K}
      {block : List (Row K)} (hbegun : 0 ≤ begun) (hdue : begun ≤ due)
      (hend : segment_end = begun + segment.duration_s)
      (hfilling : Filling reading answer turn segment begun now block) :
      Current reading answer turn due now (segment :: rest) (some segment_end) block

/-- The invariant of the loop, on a prompt bench. The first segment has begun within a reading
of the start, and each next one by when those before it are due. -/
def InTime (b : Bench σ) (reading answer turn : ℤ) (start : ℤ) (profile : List (Segment K))
    (st : Progress σ K) : Prop :=
  ∃ finished blocks block, profile = finished ++ st.profile ∧
    List.Forall₂ (Filled answer turn (horizon reading answer turn profile)) finished blocks ∧
    st.capture.rows = blocks.flatten ++ block ∧ start ≤ b.clock st.capture.bench ∧
    Current reading answer turn
      ((finished.map fun segment => segment.duration_s + seconds turn).sum + seconds reading)
      (seconds (b.clock st.capture.bench - start)) st.profile st.segment_end block

section Times

variable {b : Bench σ} {send_command : K → Operation (Feedback K)}
  {append_extra : Operation (List F32)} {start reading command extra late : ℤ}
  {profile : List (Segment K)}

/-- One cycle on a prompt bench, begun by a reading of the clock: when its row is stamped, and
when it is over. -/
theorem cycle_prompt (hb : b.Steady)
    (hprompt : Prompt b send_command append_extra reading command extra late) {target : K}
    {c c' : Capture σ K}
    (hcycle : cycle b start send_command append_extra target c = (.ok (), c')) :
    ∃ row stamp, c'.rows = c.rows ++ [row] ∧ row.target = target ∧
      row.t = seconds (stamp - start) ∧ b.clock c.bench ≤ stamp ∧
      stamp ≤ b.clock c.bench + reading + command ∧ stamp ≤ b.clock c'.bench ∧
      b.clock c'.bench ≤ b.clock c.bench + longest_cycle reading command extra late := by
  rcases cycle_cases b start send_command append_extra target c with
    ⟨e', s, -, heq⟩ | ⟨feedback, s, hs, ⟨e', s', -, heq⟩ | ⟨extras, s', hs', heq⟩⟩
  · cases congrArg Prod.fst (heq.symm.trans hcycle)
  · cases congrArg Prod.fst (heq.symm.trans hcycle)
  · obtain ⟨-, rfl⟩ := Prod.mk.inj (heq.symm.trans hcycle)
    have hread := hb.now c.bench
    have hread' := hprompt.now c.bench
    have hstamp := hb.now s
    have hstamp' := hprompt.now s
    have hsent := hb.run (send_command target) (b.now c.bench).2
    have hmore := hb.run append_extra (b.now s).2
    have hcommand := hprompt.command_time _ _ _ _ hs
    have hextra := hprompt.extra_time _ _ _ hs'
    have hslept := hb.sleep (b.clock c.bench + sample_period) s'
    have hwakes := hprompt.wakes (b.clock c.bench + sample_period) s'
    rw [hs] at hsent
    rw [hs'] at hmore
    dsimp only at hsent hmore
    refine ⟨_, b.clock s, rfl, rfl, rfl, hread.trans hsent, by omega,
      hstamp.trans (hmore.trans hslept), ?_⟩
    dsimp only
    rw [longest_cycle]
    omega

omit [Field K] [LinearOrder K] in
/-- A clock that nothing turns back is not read in less than no time. -/
theorem Prompt.reading_nonneg (hb : b.Steady)
    (hprompt : Prompt b send_command append_extra reading command extra late) (s : σ) :
    0 ≤ reading := by
  have hnow := (hb.now s).trans (hprompt.now s)
  omega

omit [Field K] [LinearOrder K] in
/-- A thread cannot wake before it went to sleep, so it is not early by being prompt. -/
theorem Prompt.late_nonneg (hb : b.Steady)
    (hprompt : Prompt b send_command append_extra reading command extra late) (s : σ) :
    0 ≤ late := by
  have hslept := hb.sleep (b.clock s) s
  have hwakes := hprompt.wakes (b.clock s) s
  rw [max_self] at hwakes
  omega

omit [Field K] [LinearOrder K] in
/-- A turn lasts a period at least, and the readings in it, however prompt the bench is. -/
theorem longest_turn_ge (hb : b.Steady)
    (hprompt : Prompt b send_command append_extra reading command extra late) (s : σ) :
    sample_period + 2 * reading ≤ longest_turn reading command extra late := by
  have hlate := hprompt.late_nonneg hb s
  rw [longest_turn, longest_cycle]
  omega

variable [IsStrictOrderedRing K]

/-- Bounds on nanoseconds, as bounds on seconds. -/
theorem seconds_le_add {m n d : ℤ} (h : m ≤ n + d) : (seconds m : K) ≤ seconds n + seconds d := by
  rw [← seconds_add]
  exact seconds_mono h

variable {answer turn : ℤ}

variable (reading answer turn) in
/-- What has been planned up to a segment is within the horizon, so that the stamps of all its rows
are. -/
theorem due_le_horizon (hturn : 0 ≤ turn) {finished rest : List (Segment K)}
    {segment : Segment K} (hpositive : ∀ s ∈ finished ++ segment :: rest, 0 ≤ s.duration_s) :
    (finished.map fun s => s.duration_s + seconds turn).sum + seconds reading
        + segment.duration_s + seconds answer
      ≤ horizon reading answer turn (finished ++ segment :: rest) := by
  have hseconds := seconds_nonneg (K := K) hturn
  have hrest : 0 ≤ (rest.map fun s => s.duration_s + seconds turn).sum := by
    apply List.sum_nonneg
    intro x hx
    obtain ⟨s, hs, rfl⟩ := List.mem_map.mp hx
    have hs' := hpositive s (List.mem_append_right _ (List.mem_cons_of_mem _ hs))
    linarith
  rw [horizon, List.map_append, List.sum_append, List.map_cons, List.sum_cons]
  linarith

variable {segment : Segment K} {begun now now' : K} {rows : List (Row K)}

/-- A cycle that was begun in time: its row is stamped within an answer, and it is over within a
turn, less the reading before. -/
theorem Filling.concat (h : Filling reading answer turn segment begun now rows)
    (htime : now < begun + segment.duration_s) {row : Row K} (htarget : row.target = segment.target)
    (hafter : now ≤ row.t) (hbefore : row.t + seconds reading ≤ now + seconds answer)
    (hpast : row.t ≤ now') (hlate : now' + seconds reading ≤ now + seconds turn)
    (hreading : 0 ≤ reading) :
    Filling reading answer turn segment begun now' (rows ++ [row]) := by
  have hseconds := seconds_nonneg (K := K) hreading
  have hbegun := h.begun_le
  have hmem : row ∈ rows ++ [row] := List.mem_append_right _ List.mem_cons_self
  refine ⟨?_, ?_, ?_, ?_, ?_, ?_, ?_⟩
  · intro r hr
    rcases List.mem_append.mp hr with hr | hr
    · exact h.target r hr
    · rw [List.mem_singleton.mp hr, htarget]
  · intro r hr
    rcases List.mem_append.mp hr with hr | hr
    · exact h.within r hr
    · rw [List.mem_singleton.mp hr]
      constructor
      · linarith
      · linarith
  · intro hnil
    exact absurd hnil (by simp)
  · intro _
    by_cases hrows : rows = []
    · -- the first row of the segment
      have hnow := h.none_yet hrows
      exact ⟨row, hmem, by linarith⟩
    · obtain ⟨r, hr, hearly⟩ := h.first hrows
      exact ⟨r, List.mem_append_left _ hr, hearly⟩
  · intro _
    exact ⟨row, hmem, by linarith⟩
  · linarith
  · linarith

/-- When the segment is over its block is full: a segment that lasts longer than a reading of
the clock has a row. -/
theorem Filling.filled (h : Filling reading answer turn segment begun now rows)
    (hended : begun + segment.duration_s ≤ now) (hlong : seconds reading < segment.duration_s)
    (hbegun : 0 ≤ begun) {latest : K}
    (hlatest : begun + segment.duration_s + seconds answer ≤ latest) :
    Filled answer turn latest segment rows := by
  have hrows : rows ≠ [] := by
    intro hnil
    have hnow := h.none_yet hnil
    linarith
  refine ⟨h.target, ?_, begun, h.first hrows, ?_, h.within⟩
  · intro row hrow
    obtain ⟨hlow, hhigh⟩ := h.within row hrow
    constructor
    · linarith
    · linarith
  · obtain ⟨row, hrow, hrecent⟩ := h.recent hrows
    exact ⟨row, hrow, by linarith⟩

/-- No row yet: the segment has just been begun, and the clock been read for that. -/
theorem filling_nil (hpositive : 0 ≤ segment.duration_s) (hbegun : begun ≤ now)
    (hnow : now ≤ begun + seconds reading) (hturn : 2 * reading ≤ turn) :
    Filling reading answer turn segment begun now [] := by
  have hreadings : (seconds reading : K) + seconds reading ≤ seconds turn := by
    rw [← seconds_add]
    exact seconds_mono (by omega)
  refine ⟨?_, ?_, fun _ => hnow, ?_, ?_, hbegun, ?_⟩
  · simp
  · simp
  · simp
  · simp
  · linarith

section Loop

variable (hb : b.Steady) (hprompt : Prompt b send_command append_extra reading command extra late)
  (hlong : ∀ segment ∈ profile, (seconds reading : K) < segment.duration_s)
include hb hprompt hlong

/-- **One pass** on a prompt bench, by what it does: readings of the clock are counted with the
segment that they belong to, so that each segment begins when it is due or before. -/
theorem InTime.again {st st' : Progress σ K}
    (h : InTime b reading (longest_answer reading command)
      (longest_turn reading command extra late) start profile st)
    (hpass : profile_turn b start send_command append_extra st = .again st') :
    InTime b reading (longest_answer reading command)
      (longest_turn reading command extra late) start profile st' := by
  have hreading := hprompt.reading_nonneg hb st.capture.bench
  have hturn := longest_turn_ge hb hprompt st.capture.bench
  have hperiod : (0 : ℤ) < sample_period := by decide
  have hseconds := seconds_nonneg (K := K) hreading
  obtain ⟨segments, current, c⟩ := st
  obtain ⟨finished, blocks, block, rfl, hblocks, hrows, hstart, hcurrent⟩ := h
  have hread := hb.now c.bench
  have hread' := hprompt.now c.bench
  dsimp only at hrows hstart hcurrent
  cases goesOn_of_again hpass with
  | begins segment rest =>
    cases hcurrent with
    | between hdue =>
      have hsegment := hlong segment (List.mem_append_right _ List.mem_cons_self)
      refine ⟨finished, blocks, [], rfl, hblocks, hrows, hstart.trans hread,
        .within (seconds_nonneg (sub_nonneg.mpr hstart)) hdue rfl ?_⟩
      exact filling_nil (by linarith) (seconds_mono (by dsimp only; omega))
        (seconds_le_add (by dsimp only; omega)) (by omega)
  | cycles segment rest segment_end c' htime hrun =>
    cases hcurrent with
    | within hbegun hdue hend hfilling =>
      obtain ⟨row, stamp, hrow, htarget, ht, hafter, hbefore, hpast, hlate⟩ :=
        cycle_prompt hb hprompt hrun
      dsimp only at hrow hafter hbefore hpast hlate
      refine ⟨finished, blocks, block ++ [row], rfl, hblocks, ?_, by dsimp only; omega,
        .within hbegun hdue hend
          (hfilling.concat (hend ▸ htime) htarget ?_ ?_ ?_ ?_ hreading)⟩
      · rw [hrow, hrows, List.append_assoc]
      · rw [ht]
        exact seconds_mono (by omega)
      · rw [ht, ← seconds_add, ← seconds_add]
        exact seconds_mono (by rw [longest_answer]; omega)
      · rw [ht]
        exact seconds_mono (by dsimp only; omega)
      · rw [← seconds_add, ← seconds_add]
        exact seconds_mono (by rw [longest_turn]; dsimp only; omega)
  | ends segment rest segment_end htime =>
    cases hcurrent with
    | within hbegun hdue hend hfilling =>
      have hsegment := hlong segment (List.mem_append_right _ List.mem_cons_self)
      have hhorizon := due_le_horizon reading (longest_answer reading command)
        (longest_turn reading command extra late) (by omega)
        fun s hs => hseconds.trans (hlong s hs).le
      have hfilled := hfilling.filled (hend ▸ not_lt.mp htime) hsegment hbegun
        ((add_le_add_left (add_le_add_left hdue _) _).trans hhorizon)
      have hlate := hfilling.late
      refine ⟨finished ++ [segment], blocks ++ [block], [], List.append_cons _ _ _,
        List.rel_append hblocks (.cons hfilled .nil), ?_, hstart.trans hread, ?_⟩
      · rw [hrows, List.flatten_append, List.flatten_singleton, List.append_nil]
      · -- what the segment took is within what is due to it
        have hnow : (seconds (b.clock (b.now c.bench).2 - start) : K)
            ≤ seconds (b.clock c.bench - start) + seconds reading :=
          seconds_le_add (by omega)
        refine .between ?_
        rw [List.map_append, List.sum_append, List.map_singleton, List.sum_singleton]
        dsimp only
        linarith

omit [IsStrictOrderedRing K] hb hprompt hlong in
/-- At the end of the profile every segment has its block, as the invariant has it. -/
theorem InTime.stop {st : Progress σ K}
    (h : InTime b reading answer turn start profile st) {c' : Capture σ K}
    (hpass : profile_turn b start send_command append_extra st = .stop (.ok (), c')) :
    ∃ blocks, c'.rows = blocks.flatten ∧
      List.Forall₂ (Filled answer turn (horizon reading answer turn profile)) profile blocks := by
  obtain ⟨segments, current, c⟩ := st
  obtain ⟨finished, blocks, block, rfl, hblocks, hrows, -, hcurrent⟩ := h
  dsimp only at hrows hcurrent
  cases stops_of_stop hpass with
  | finished current =>
    cases hcurrent
    rw [List.append_nil] at hrows hblocks ⊢
    exact ⟨blocks, hrows, hblocks⟩

/-- The blocks of a profile that was completed: each has rows, the first of them soon after the
beginning of its segment and the last not long before its end. -/
theorem filled_of_run {s : σ} {unwrapper : PositionUnwrapper K} {passes : ℕ} {c' : Capture σ K}
    (hrun : run_profile b send_command append_extra profile passes ⟨s, unwrapper, [], none⟩
      = some (.ok (), c')) :
    ∃ blocks, c'.rows = blocks.flatten ∧ List.Forall₂ (Filled (longest_answer reading command)
      (longest_turn reading command extra late)
      (horizon reading (longest_answer reading command)
        (longest_turn reading command extra late) profile)) profile blocks := by
  have hread := hb.now s
  have hread' := hprompt.now s
  have hstart : InTime b reading (longest_answer reading command)
      (longest_turn reading command extra late) (b.clock s) profile
      ⟨profile, none, ⟨(b.now s).2, unwrapper, [], none⟩⟩ := by
    refine ⟨[], [], [], rfl, .nil, rfl, hread, .between ?_⟩
    dsimp only
    rw [List.map_nil, List.sum_nil, zero_add]
    exact seconds_mono (by omega)
  exact Ends.invariant
    (I := InTime b reading (longest_answer reading command)
      (longest_turn reading command extra late) (b.clock s) profile)
    (Q := fun out => out.1 = .ok () → ∃ blocks, out.2.rows = blocks.flatten ∧
      List.Forall₂ (Filled (longest_answer reading command)
        (longest_turn reading command extra late)
        (horizon reading (longest_answer reading command)
          (longest_turn reading command extra late) profile)) profile blocks)
    (fun st out h hpass hok => h.stop (hpass.trans (by rw [← hok])))
    (fun st st' h hpass => h.again hb hprompt hlong hpass)
    (ends_iff_run.mpr ⟨passes, hrun⟩) hstart rfl

end Loop

end Times

/-! ## The report -/

open plot_tracking

/-- A row as `plot_tracking.py` has it from the file. -/
def point (printed : K → K) (tracked : Row K → K) (row : Row K) : Point K :=
  ⟨printed row.t, printed row.target, printed (tracked row)⟩

/-- What a number in the file is off by. -/
def Rounds (printed : K → K) (latest round : K) : Prop :=
  ∀ x, |x| ≤ latest → |printed x - x| ≤ round

/-- The report on a segment. -/
structure Line (printed : K → K) (slack : K) (segment : Segment K) (p : Plateau K) : Prop where
  target : p.target = printed segment.target
  extent : |p.t_end - p.t_start - segment.duration_s| ≤ slack
  mean_error : |p.mean - p.target| ≤ p.max_abs_error

section Reports

variable [IsStrictOrderedRing K] {printed : K → K} {tracked : Row K → K} {answer turn : ℤ}
  {latest round settle_skip : K} {segment : Segment K} {rows : List (Row K)}

/-- By how much the times in a report can be off: what the longest turn and the longest answer
take, and rounding. -/
def slack (answer turn : ℤ) (round : K) : K :=
  seconds turn + seconds answer + 2 * round

/-- A turn lasts longer than a reading of the clock, and so does the slack, which a turn is part
of. -/
theorem reading_lt_slack {reading : ℤ} {horizon : K} (hreading : 0 ≤ reading)
    (hanswer : 0 ≤ answer) (hround : Rounds printed horizon round) (hhorizon : 0 ≤ horizon)
    (hturn : sample_period + 2 * reading ≤ turn) : seconds reading < slack answer turn round := by
  have hanswer := seconds_nonneg (K := K) hanswer
  have hzero := (abs_nonneg _).trans (hround 0 (by rwa [abs_zero]))
  have hperiod : (0 : K) < seconds sample_period := by
    rw [seconds, sample_period]
    norm_num
  have hlong : (seconds sample_period : K) + seconds reading ≤ seconds turn := by
    rw [← seconds_add]
    exact seconds_mono (by omega)
  rw [slack]
  linarith

omit [IsStrictOrderedRing K] in
/-- A segment that is over has rows. -/
theorem Filled.nonempty (h : Filled answer turn latest segment rows) : rows ≠ [] := by
  obtain ⟨begun, ⟨row, hrow, -⟩, -⟩ := h.span
  exact List.ne_nil_of_mem hrow

variable (printed tracked settle_skip) in
/-- What `plateau_stats` makes of the rows of one segment, taken as one plateau. -/
theorem Filled.reported (h : Filled answer turn latest segment rows) :
    ReportedAs settle_skip (rows.map (point printed tracked))
      (summary settle_skip (rows.map (point printed tracked))) := by
  apply summary_reported
  · simpa using h.nonempty
  · intro row hrow row' hrow'
    obtain ⟨r, hr, rfl⟩ := List.mem_map.mp hrow
    obtain ⟨r', hr', rfl⟩ := List.mem_map.mp hrow'
    rw [point, point, h.target r hr, h.target r' hr']

/-- How far apart two stamps are in print: up to twice the rounding what they are apart in fact. -/
theorem printed_le (hround : Rounds printed latest round)
    (h : Filled answer turn latest segment rows) {row row' : Row K} (hrow : row ∈ rows)
    (hrow' : row' ∈ rows) :
    |(printed row'.t - printed row.t) - (row'.t - row.t)| ≤ 2 * round := by
  have hstamp : ∀ row ∈ rows, |printed row.t - row.t| ≤ round := by
    intro row hrow
    obtain ⟨hlow, hhigh⟩ := h.past row hrow
    exact hround row.t (abs_le.mpr ⟨by linarith, hhigh⟩)
  have hfirst := abs_le.mp (hstamp row hrow)
  have hlast := abs_le.mp (hstamp row' hrow')
  apply abs_le.mpr
  constructor
  · linarith
  · linarith

omit [Field K] [IsStrictOrderedRing K] in
/-- The first row in order of time is the earliest one. -/
theorem ordered_head (hordered : rows.Pairwise fun row row' => row.t ≤ row'.t) {first : Row K}
    (hfirst : rows.head? = some first) : first ∈ rows ∧ ∀ row ∈ rows, first.t ≤ row.t := by
  obtain ⟨rest, rfl⟩ := List.head?_eq_some_iff.mp hfirst
  refine ⟨List.mem_cons_self, ?_⟩
  intro row hrow
  rcases List.mem_cons.mp hrow with rfl | hrow
  · exact le_rfl
  · exact (List.pairwise_cons.mp hordered).1 row hrow

omit [Field K] [IsStrictOrderedRing K] in
/-- The last row in order of time is the latest one. -/
theorem ordered_last (hordered : rows.Pairwise fun row row' => row.t ≤ row'.t) {last : Row K}
    (hlast : rows.getLast? = some last) : last ∈ rows ∧ ∀ row ∈ rows, row.t ≤ last.t := by
  obtain ⟨front, rfl⟩ := List.getLast?_eq_some_iff.mp hlast
  refine ⟨List.mem_append_right _ List.mem_cons_self, ?_⟩
  intro row hrow
  rcases List.mem_append.mp hrow with hrow | hrow
  · exact (List.pairwise_append.mp hordered).2.2 row hrow last List.mem_cons_self
  · rw [List.mem_singleton.mp hrow]

/-- The stamps of a segment in print, from the first on: the last one is later by the duration, less
the slack at most, and none by more than the duration, an answer and the rounding. -/
theorem extent_le (hround : Rounds printed latest round)
    (h : Filled answer turn latest segment rows)
    (hordered : rows.Pairwise fun row row' => row.t ≤ row'.t) {first last : Row K}
    (hfirst : rows.head? = some first) (hlast : rows.getLast? = some last) :
    segment.duration_s - slack answer turn round ≤ printed last.t - printed first.t ∧
      ∀ row ∈ rows, printed row.t - printed first.t
        ≤ segment.duration_s + seconds answer + 2 * round := by
  obtain ⟨begun, ⟨early, hearly, hsoon⟩, ⟨recent, hrecent, hlong⟩, hwithin⟩ := h.span
  obtain ⟨hfirst, hleast⟩ := ordered_head hordered hfirst
  obtain ⟨hlast, hmost⟩ := ordered_last hordered hlast
  constructor
  · have hspan := (abs_le.mp (printed_le hround h hfirst hlast)).1
    have hbegin := hleast early hearly
    have hend := hmost recent hrecent
    rw [slack]
    linarith
  · intro row hrow
    have hspan := (abs_le.mp (printed_le hround h hfirst hrow)).2
    have hbegin := (hwithin first hfirst).1
    have hend := (hwithin row hrow).2
    linarith

variable (tracked) in
/-- **The report on a segment**, that there is one or not: a segment that is longer than the
transient by the slack has a row left after it, and one that is shorter by it has none. -/
theorem Filled.line (hround : Rounds printed latest round) (hturn : 0 ≤ turn)
    (h : Filled answer turn latest segment rows)
    (hordered : rows.Pairwise fun row row' => row.t ≤ row'.t)
    (hcut : settle_skip + slack answer turn round ≤ segment.duration_s ∨
      segment.duration_s + slack answer turn round < settle_skip) :
    (settle_skip ≤ segment.duration_s →
      ∃ p, summary settle_skip (rows.map (point printed tracked)) = some p ∧
        Line printed (slack answer turn round) segment p) ∧
    (¬ settle_skip ≤ segment.duration_s →
      summary settle_skip (rows.map (point printed tracked)) = none) := by
  have hfirst := List.head?_eq_some_head h.nonempty
  have hlast := List.getLast?_eq_some_getLast h.nonempty
  obtain ⟨hlong, hshort⟩ := extent_le hround h hordered hfirst hlast
  have hseconds := seconds_nonneg (K := K) hturn
  obtain ⟨hlast_mem, -⟩ := ordered_last hordered hlast
  have hlast_short := hshort _ hlast_mem
  have hslack : slack answer turn round = seconds turn + (seconds answer + 2 * round) := by
    rw [slack, add_assoc]
  have hreported := h.reported printed tracked settle_skip
  cases hsummary : summary settle_skip (rows.map (point printed tracked)) with
  | none =>
    rw [hsummary] at hreported
    -- not even the last row is late enough
    obtain ⟨head, hhead, hnone⟩ := hreported
    rw [List.head?_map, hfirst] at hhead
    obtain rfl := Option.some.inj hhead
    have hlate := hnone _ (List.mem_map_of_mem hlast_mem)
    dsimp only [point] at hlate
    refine ⟨fun hskip => ?_, fun _ => rfl⟩
    rcases hcut with hcut | hcut
    · linarith
    · linarith
  | some p =>
    rw [hsummary] at hreported
    have hdescribes : Describes settle_skip (rows.map (point printed tracked)) p := hreported
    have ht_start := hdescribes.t_start
    have ht_end := hdescribes.t_end
    rw [List.head?_map, hfirst] at ht_start
    rw [List.getLast?_map, hlast] at ht_end
    have hstart : printed (rows.head h.nonempty).t = p.t_start := Option.some.inj ht_start
    have hend : printed (rows.getLast h.nonempty).t = p.t_end := Option.some.inj ht_end
    rw [hstart, hend] at hlong hlast_short
    refine ⟨fun _ => ⟨p, rfl, ?_, ?_, hdescribes.mean_error⟩, fun hskip => ?_⟩
    · have htarget := hdescribes.target _ (List.mem_map_of_mem hlast_mem)
      rw [← htarget, point, h.target _ hlast_mem]
    · apply abs_le.mpr
      constructor
      · linarith
      · linarith
    · -- a row that is late enough means a segment that is long enough
      obtain ⟨late, hlate_mem, hlate, -⟩ := hdescribes.attained
      obtain ⟨row, hrow, rfl⟩ := List.mem_map.mp hlate_mem
      have hspan := hshort row hrow
      rw [hstart] at hspan
      dsimp only [point] at hlate
      rcases hcut with hcut | hcut
      · linarith
      · linarith

/-- The lines of a report. -/
def reported_segments (settle_skip : K) (profile : List (Segment K)) : List (Segment K) :=
  profile.filter fun segment => settle_skip ≤ segment.duration_s

variable {profile : List (Segment K)} {blocks : List (List (Row K))}

omit [IsStrictOrderedRing K] in
/-- In print the segments can be told apart, if the targets of neighbours differ there. -/
theorem chain_of_blocks (hblocks : List.Forall₂ (Filled answer turn latest) profile blocks)
    (hdistinct : profile.IsChain fun segment segment' =>
      printed segment.target ≠ printed segment'.target) :
    (blocks.map (List.map (point printed tracked))).IsChain fun group group' =>
      ∀ row ∈ group, ∀ row' ∈ group', row.target ≠ row'.target := by
  induction hblocks with
  | nil => exact .nil
  | @cons segment rows profile blocks hrows hblocks ih =>
    rw [List.map_cons]
    cases hblocks with
    | nil => exact .singleton _
    | cons hrows' hblocks =>
      obtain ⟨hother, hrest⟩ := List.isChain_cons_cons.mp hdistinct
      rw [List.map_cons] at ih ⊢
      refine .cons_cons ?_ (ih hrest)
      intro row hrow row' hrow'
      obtain ⟨r, hr, rfl⟩ := List.mem_map.mp hrow
      obtain ⟨r', hr', rfl⟩ := List.mem_map.mp hrow'
      rw [point, point, hrows.target r hr, hrows'.target r' hr']
      exact hother

omit [IsStrictOrderedRing K] in
/-- **The plateaus are the blocks**: within a block all targets are equal, and from one to the next
they change. -/
theorem plateaus_of_blocks (hblocks : List.Forall₂ (Filled answer turn latest) profile blocks)
    (hdistinct : profile.IsChain fun segment segment' =>
      printed segment.target ≠ printed segment'.target) :
    plateaus (blocks.flatten.map (point printed tracked))
      = blocks.map (List.map (point printed tracked)) := by
  have hfilled : ∀ rows ∈ blocks, ∃ segment, Filled answer turn latest segment rows := by
    intro rows hrows
    obtain ⟨i, hi, rfl⟩ := List.getElem_of_mem hrows
    obtain ⟨hlength, hget⟩ := List.forall₂_iff_get.mp hblocks
    exact ⟨_, hget i (by omega) hi⟩
  apply plateaus_of_grouped
  refine ⟨List.map_flatten.symm, ?_, ?_, chain_of_blocks hblocks hdistinct⟩
  · intro group hgroup
    obtain ⟨rows, hrows, rfl⟩ := List.mem_map.mp hgroup
    obtain ⟨segment, h⟩ := hfilled rows hrows
    simpa using h.nonempty
  · intro group hgroup row hrow row' hrow'
    obtain ⟨rows, hrows, rfl⟩ := List.mem_map.mp hgroup
    obtain ⟨segment, h⟩ := hfilled rows hrows
    obtain ⟨r, hr, rfl⟩ := List.mem_map.mp hrow
    obtain ⟨r', hr', rfl⟩ := List.mem_map.mp hrow'
    rw [point, point, h.target r hr, h.target r' hr']

/-- The report on the rows of a profile, by the reports on its segments: those long enough have
their line, and the others none. -/
theorem report_of_blocks (hround : Rounds printed latest round) (hturn : 0 ≤ turn)
    (hblocks : List.Forall₂ (Filled answer turn latest) profile blocks)
    (hordered : blocks.flatten.Pairwise fun row row' => row.t ≤ row'.t)
    (hdistinct : profile.IsChain fun segment segment' =>
      printed segment.target ≠ printed segment'.target)
    (hcut : ∀ segment ∈ profile, settle_skip + slack answer turn round ≤ segment.duration_s ∨
      segment.duration_s + slack answer turn round < settle_skip) :
    ∃ report, plateau_stats
        ((blocks.flatten.map (point printed tracked)).map (·.t))
        ((blocks.flatten.map (point printed tracked)).map (·.target))
        ((blocks.flatten.map (point printed tracked)).map (·.actual)) settle_skip = some report ∧
      List.Forall₂ (Line printed (slack answer turn round))
        (reported_segments settle_skip profile) report := by
  refine ⟨_, plateau_stats_rows settle_skip _, ?_⟩
  rw [plateaus_of_blocks hblocks hdistinct, List.filterMap_map]
  replace hordered := (List.pairwise_flatten.mp hordered).1
  clear hdistinct
  induction hblocks with
  | nil => exact .nil
  | @cons segment rows profile blocks h hblocks ih =>
    have hrest := ih (fun s hs => hcut s (List.mem_cons_of_mem _ hs))
      (fun rows hrows => hordered rows (List.mem_cons_of_mem _ hrows))
    obtain ⟨hlong, hshort⟩ := h.line tracked hround hturn
      (hordered rows List.mem_cons_self) (hcut segment List.mem_cons_self)
    by_cases hskip : settle_skip ≤ segment.duration_s
    · -- long enough for rows to be left, so there is a line
      obtain ⟨p, hp, hline⟩ := hlong hskip
      rw [reported_segments, List.filter_cons_of_pos (by simpa using hskip), List.filterMap_cons,
        Function.comp_apply, hp]
      exact .cons hline hrest
    · rw [reported_segments, List.filter_cons_of_neg (by simpa using hskip),
        List.filterMap_cons, Function.comp_apply, hshort hskip]
      exact hrest

end Reports

section Captures

variable [IsStrictOrderedRing K] [FloorRing K] {b : Bench σ}
  {send_command : K → Operation (Feedback K)} {append_extra : Operation (List F32)}
  {reading command extra late : ℤ} {printed : K → K} {round settle_skip : K}
  {profile : List (Segment K)}

/-- On a prompt bench, when a profile has been completed whose
adjacent segments have different targets in print, `plateau_stats` reports on each of its
segments, in order, that last as long as the transient, none of which comes nearer to
that than the slack, and on no others. -/
theorem report_of_profile (hb : b.Steady)
    (hprompt : Prompt b send_command append_extra reading command extra late)
    (hlong : ∀ segment ∈ profile, (seconds reading : K) < segment.duration_s)
    (hround : Rounds printed (horizon reading (longest_answer reading command)
      (longest_turn reading command extra late) profile) round)
    (hdistinct : profile.IsChain fun segment segment' =>
      printed segment.target ≠ printed segment'.target)
    (hcut : ∀ segment ∈ profile,
      settle_skip + slack (longest_answer reading command)
          (longest_turn reading command extra late) round ≤ segment.duration_s ∨
        segment.duration_s + slack (longest_answer reading command)
          (longest_turn reading command extra late) round < settle_skip)
    (tracked : Row K → K) {s : σ} {unwrapper : PositionUnwrapper K} {passes : ℕ}
    {c' : Capture σ K}
    (hrun : run_profile b send_command append_extra profile passes ⟨s, unwrapper, [], none⟩
      = some (.ok (), c')) :
    ∃ report, plateau_stats ((c'.rows.map (point printed tracked)).map (·.t))
        ((c'.rows.map (point printed tracked)).map (·.target))
        ((c'.rows.map (point printed tracked)).map (·.actual)) settle_skip = some report ∧
      List.Forall₂ (Line printed (slack (longest_answer reading command)
          (longest_turn reading command extra late) round))
        (reported_segments settle_skip profile) report := by
  have hreading := hprompt.reading_nonneg hb s
  have hturn := longest_turn_ge hb hprompt s
  have hperiod : (0 : ℤ) < sample_period := by decide
  obtain ⟨blocks, hrows, hblocks⟩ := filled_of_run hb hprompt hlong hrun
  cases recorded_of_run hb hrun with
  | completed hrecording hrows' htimeline =>
    have hordered := htimeline.ordered
    rw [← List.nil_append (List.flatten _), ← hrows', hrows] at hordered
    rw [hrows]
    exact report_of_blocks hround (by omega) hblocks hordered hdistinct hcut

end Captures

/-! ## The five captures -/

section Kinds

/-- `settle_skip` of `MODES`. -/
def Kind.settle_skip : Kind K → K
  | velocity => 3 / 2
  | position => 2
  | pp => 2
  | current => 1 / 2
  | operation _ _ => 3 / 2

/-- The targets there is a report on. -/
def Kind.moves (pi : K) : Kind K → List K
  | velocity => [2, 4, -2, 0]
  | position => [pi, -pi, 0]
  | pp => [pi, -pi, 0]
  | current =>
    let amps : K := ((3 : ℕ) : K) / ((10 : ℕ) : K)
    [0, amps, -amps, amps, -amps, 0]
  | operation _ _ => [pi / 2, -pi / 2, 0]

/-- What `report_of_profile` asks of a profile, and the targets of its report: its segments last
longer than the slack, and so longer than a reading of the clock, which is part of it. -/
structure Fits (printed : K → K) (slack skip : K) (profile : List (Segment K)) (moves : List K) :
    Prop where
  long : ∀ segment ∈ profile, slack < segment.duration_s
  distinct : profile.IsChain fun segment segment' =>
    printed segment.target ≠ printed segment'.target
  cut : ∀ segment ∈ profile, skip + slack ≤ segment.duration_s ∨ segment.duration_s + slack < skip
  moves_eq : (reported_segments skip profile).map (·.target) = moves

variable [IsStrictOrderedRing K] {printed : K → K} {reading answer turn : ℤ} {round : K}

/-- Numbers that are further apart than twice the rounding differ in print. -/
theorem printed_ne {latest : K} (hround : Rounds printed latest round) {x y : K} (hx : |x| ≤ latest)
    (hy : |y| ≤ latest) (hfar : 2 * round < |x - y|) : printed x ≠ printed y := by
  intro hsame
  have hx' := hround x hx
  have hy' := hround y hy
  rw [hsame, abs_sub_comm] at hx'
  have htriangle := abs_sub_le x (printed y) y
  linarith

section Fits

variable {slack : K} (hslack : slack < 3 / 10)
  (hdistinct : ∀ x y : K, |x| ≤ 4 → |y| ≤ 4 → 3 / 10 ≤ |x - y| → printed x ≠ printed y)
include hslack hdistinct

/-- The velocity capture has its four moves reported, each of three or four seconds, and the rest of
one second before them left out. -/
theorem fits_velocity [FloatConv K] (self : RobstrideMotor K) :
    Fits printed slack (3 / 2) (tracking_capture_velocity self).profile [2, 4, -2, 0] := by
  have hprofile : (tracking_capture_velocity self).profile
      = [⟨1, 0⟩, ⟨4, 2⟩, ⟨4, 4⟩, ⟨4, -2⟩, ⟨3, 0⟩] := by
    simp [tracking_capture_velocity]
  rw [hprofile]
  refine ⟨?_, ?_, ?_, ?_⟩
  · simp only [List.forall_mem_cons, List.not_mem_nil, false_imp_iff, implies_true, and_true]
    refine ⟨?_, ?_, ?_, ?_, ?_⟩ <;> linarith
  · simp only [List.isChain_cons_cons, List.isChain_singleton]
    refine ⟨hdistinct _ _ ?_ ?_ ?_, hdistinct _ _ ?_ ?_ ?_, hdistinct _ _ ?_ ?_ ?_,
      hdistinct _ _ ?_ ?_ ?_, trivial⟩ <;> norm_num
  · simp only [List.forall_mem_cons, List.not_mem_nil, false_imp_iff, implies_true, and_true]
    exact ⟨.inr (by linarith), .inl (by linarith), .inl (by linarith), .inl (by linarith),
      .inl (by linarith)⟩
  · norm_num [reported_segments, List.filter_cons]

/-- The current capture has the rest before and after its moves reported as well, as the transient
of that mode is half a second. -/
theorem fits_current [FloatConv K] (self : RobstrideMotor K) :
    Fits printed slack (1 / 2) (tracking_capture_current self).profile
      [0, 3 / 10, -(3 / 10), 3 / 10, -(3 / 10), 0] := by
  have hprofile : (tracking_capture_current self).profile
      = [⟨1, 0⟩, ⟨3 / 2, 3 / 10⟩, ⟨3 / 2, -(3 / 10)⟩, ⟨3 / 2, 3 / 10⟩, ⟨3 / 2, -(3 / 10)⟩,
        ⟨1, 0⟩] := by
    simp [tracking_capture_current]
  rw [hprofile]
  refine ⟨?_, ?_, ?_, ?_⟩
  · simp only [List.forall_mem_cons, List.not_mem_nil, false_imp_iff, implies_true, and_true]
    refine ⟨?_, ?_, ?_, ?_, ?_, ?_⟩ <;> linarith
  · simp only [List.isChain_cons_cons, List.isChain_singleton]
    refine ⟨hdistinct _ _ ?_ ?_ ?_, hdistinct _ _ ?_ ?_ ?_, hdistinct _ _ ?_ ?_ ?_,
      hdistinct _ _ ?_ ?_ ?_, hdistinct _ _ ?_ ?_ ?_, trivial⟩ <;> norm_num [abs_le, le_abs]
  · simp only [List.forall_mem_cons, List.not_mem_nil, false_imp_iff, implies_true, and_true]
    exact ⟨.inl (by linarith), .inl (by linarith), .inl (by linarith), .inl (by linarith),
      .inl (by linarith), .inl (by linarith)⟩
  · norm_num [reported_segments, List.filter_cons]

/-- The captures that go to both sides of zero and back: their three moves are reported, and the
second of rest before them left out. -/
theorem fits_moves {skip duration target : K} (hskip : 3 / 2 ≤ skip)
    (hduration : skip + 3 / 10 ≤ duration) (htarget : 3 / 10 ≤ target ∧ target ≤ 4) :
    Fits printed slack skip [⟨1, 0⟩, ⟨duration, target⟩, ⟨duration, -target⟩, ⟨duration, 0⟩]
      [target, -target, 0] := by
  obtain ⟨hlow, hhigh⟩ := htarget
  have htarget : |target| ≤ 4 := abs_le.mpr ⟨by linarith, hhigh⟩
  have hminus : |-target| ≤ 4 := by rwa [abs_neg]
  have hzero : |(0 : K)| ≤ 4 := by norm_num
  refine ⟨?_, ?_, ?_, ?_⟩
  · simp only [List.forall_mem_cons, List.not_mem_nil, false_imp_iff, implies_true, and_true]
    refine ⟨?_, ?_, ?_, ?_⟩ <;> linarith
  · simp only [List.isChain_cons_cons, List.isChain_singleton]
    refine ⟨hdistinct _ _ hzero htarget (le_abs.mpr (.inr ?_)),
      hdistinct _ _ htarget hminus (le_abs.mpr (.inl ?_)),
      hdistinct _ _ hminus hzero (le_abs.mpr (.inr ?_)), trivial⟩ <;> linarith
  · simp only [List.forall_mem_cons, List.not_mem_nil, false_imp_iff, implies_true, and_true]
    exact ⟨.inr (by linarith), .inl (by linarith), .inl (by linarith), .inl (by linarith)⟩
  · have hlong : skip ≤ duration := by linarith
    have hshort : ¬ skip ≤ 1 := by linarith
    simp [reported_segments, hlong, hshort]

end Fits

variable [DoubleMath K] [FloatConv K]

/-- Every capture takes more seconds than its largest target is, so that what is said of rounding up
to the horizon covers the targets. -/
theorem Kind.four_le_horizon (kind : Kind K) (self : RobstrideMotor K) (pi : K)
    (hreading : 0 ≤ reading) (hanswer : 0 ≤ answer) (hturn : 0 ≤ turn) :
    4 ≤ horizon reading answer turn (kind.program self pi).profile := by
  have hreading := seconds_nonneg (K := K) hreading
  have hanswer := seconds_nonneg (K := K) hanswer
  have hturn := seconds_nonneg (K := K) hturn
  cases kind <;> simp only [Kind.program, horizon, tracking_capture_velocity,
    tracking_capture_position, tracking_capture_pp, tracking_capture_current,
    tracking_capture_operation, List.map_cons, List.map_nil, List.sum_cons, List.sum_nil] <;>
    push_cast <;> linarith

/-- The settle times of the tool suit the captures: with a slack below 0.3 s every segment is
clearly longer than its transient or clearly shorter. -/
theorem Kind.fits (kind : Kind K) (self : RobstrideMotor K) {pi : K} (hpi : 3 ≤ pi ∧ pi ≤ 4)
    (hreading : 0 ≤ reading) (hanswer : 0 ≤ answer) (hturn : 0 ≤ turn)
    (hround : Rounds printed (horizon reading answer turn (kind.program self pi).profile) round)
    (hslack : slack answer turn round < 3 / 10) :
    Fits printed (slack answer turn round) kind.settle_skip (kind.program self pi).profile
      (kind.moves pi) := by
  have hhorizon := kind.four_le_horizon self pi hreading hanswer hturn
  -- targets that differ by more than the rounding differ in print
  have hdistinct : ∀ x y : K, |x| ≤ 4 → |y| ≤ 4 → 3 / 10 ≤ |x - y| → printed x ≠ printed y := by
    intro x y hx hy hfar
    have hturn := seconds_nonneg (K := K) hturn
    have hanswer := seconds_nonneg (K := K) hanswer
    rw [slack] at hslack
    exact printed_ne hround (hx.trans hhorizon) (hy.trans hhorizon) (by linarith)
  obtain ⟨hlow, hhigh⟩ := hpi
  cases kind with
  | velocity => exact fits_velocity hslack hdistinct self
  | position =>
    have hprofile : ((Kind.position : Kind K).program self pi).profile
        = [⟨1, 0⟩, ⟨4, pi⟩, ⟨4, -pi⟩, ⟨4, 0⟩] := by
      simp [Kind.program, tracking_capture_position]
    rw [hprofile]
    exact fits_moves hslack hdistinct (by norm_num [Kind.settle_skip])
      (by norm_num [Kind.settle_skip]) ⟨by linarith, hhigh⟩
  | pp =>
    have hprofile : ((Kind.pp : Kind K).program self pi).profile
        = [⟨1, 0⟩, ⟨4, pi⟩, ⟨4, -pi⟩, ⟨4, 0⟩] := by
      simp [Kind.program, tracking_capture_pp]
    rw [hprofile]
    exact fits_moves hslack hdistinct (by norm_num [Kind.settle_skip])
      (by norm_num [Kind.settle_skip]) ⟨by linarith, hhigh⟩
  | current =>
    have hmoves : (Kind.current : Kind K).moves pi
        = [0, 3 / 10, -(3 / 10), 3 / 10, -(3 / 10), 0] := by
      simp [Kind.moves]
    rw [hmoves]
    exact fits_current hslack hdistinct self
  | operation kp kd =>
    have hprofile : ((Kind.operation kp kd).program self pi).profile
        = [⟨1, 0⟩, ⟨3, pi / 2⟩, ⟨3, -(pi / 2)⟩, ⟨3, 0⟩] := by
      simp [Kind.program, tracking_capture_operation, neg_div]
    have hmoves : (Kind.operation kp kd).moves pi = [pi / 2, -(pi / 2), 0] := by
      rw [Kind.moves, neg_div]
    rw [hprofile, hmoves]
    exact fits_moves hslack hdistinct (by norm_num [Kind.settle_skip])
      (by norm_num [Kind.settle_skip]) ⟨by linarith, by linarith⟩

omit [IsStrictOrderedRing K] [DoubleMath K] [FloatConv K] in
/-- The rows of a capture that ends normally are those of its profile, which was run after the
set-up. -/
theorem Program.run_profile_of_run {b : Bench σ} {p : Program K} {s : σ}
    {unwrapper : PositionUnwrapper K} {passes : ℕ} {c' : Capture σ K}
    (hrun : p.run b passes ⟨s, unwrapper, [], none⟩ = some (.ok (), c')) :
    ∃ s' c'', run_profile b p.send_command p.append_extra p.profile passes ⟨s', unwrapper, [], none⟩
      = some (.ok (), c'') ∧ c'.rows = c''.rows := by
  rcases hset_up : Dialogue.run b.exchange p.set_up s with ⟨e | ⟨⟩, s'⟩
  · rw [Program.run_unset hset_up] at hrun
    cases congrArg (Option.map Prod.fst) hrun
  · rcases hprofile : run_profile b p.send_command p.append_extra p.profile passes
      ⟨s', unwrapper, [], none⟩ with _ | ⟨e | ⟨⟩, c''⟩
    · rw [Program.run_unended hset_up hprofile] at hrun
      cases hrun
    · rw [Program.run_broken hset_up hprofile] at hrun
      cases congrArg (Option.map Prod.fst) hrun
    · rw [Program.run_through hset_up hprofile] at hrun
      obtain ⟨-, rfl⟩ := Prod.mk.inj (Option.some.inj hrun)
      exact ⟨s', c'', hprofile, rfl⟩

variable [FloorRing K]

/-- **The captures and their reports.** Take a bench where the longest cycle and the longest
command, with the readings of the clock around them, and the rounding add up to less than
0.3 s. A capture that ends normally there has a report with one line for each move of its
profile, in order, and none for the rest before the first one, except where the transient
is shorter than that; and the extent of a line is the duration of its segment up to what
they add up to. -/
theorem report_of_capture {b : Bench σ} (hb : b.Steady) (kind : Kind K) (self : RobstrideMotor K)
    {pi : K} (hpi : 3 ≤ pi ∧ pi ≤ 4) {command extra late : ℤ}
    (hprompt : Prompt b (kind.program self pi).send_command (kind.program self pi).append_extra
      reading command extra late) (hcommand : 0 ≤ command)
    (hround : Rounds printed (horizon reading (longest_answer reading command)
      (longest_turn reading command extra late) (kind.program self pi).profile) round)
    (hslack : slack (longest_answer reading command) (longest_turn reading command extra late) round
      < 3 / 10)
    (tracked : Row K → K) {s : σ} {unwrapper : PositionUnwrapper K} {passes : ℕ}
    {c' : Capture σ K}
    (hrun : (kind.program self pi).run b passes ⟨s, unwrapper, [], none⟩ = some (.ok (), c')) :
    ∃ report, plateau_stats ((c'.rows.map (point printed tracked)).map (·.t))
        ((c'.rows.map (point printed tracked)).map (·.target))
        ((c'.rows.map (point printed tracked)).map (·.actual)) kind.settle_skip = some report ∧
      report.map (·.target) = (kind.moves pi).map printed ∧
      List.Forall₂ (Line printed (slack (longest_answer reading command)
          (longest_turn reading command extra late) round))
        (reported_segments kind.settle_skip (kind.program self pi).profile) report := by
  have hreading := hprompt.reading_nonneg hb s
  have hturn := longest_turn_ge hb hprompt s
  have hperiod : (0 : ℤ) < sample_period := by decide
  have hanswer : 0 ≤ longest_answer reading command := by
    rw [longest_answer]
    omega
  have hturn' : 0 ≤ longest_turn reading command extra late := by omega
  have hhorizon := kind.four_le_horizon self pi hreading hanswer hturn'
  have hfits := kind.fits self hpi hreading hanswer hturn' hround hslack
  have hlong := fun segment hsegment =>
    (reading_lt_slack hreading hanswer hround (by linarith) hturn).trans
      (hfits.long segment hsegment)
  obtain ⟨s', c'', hprofile, hrows⟩ := Program.run_profile_of_run hrun
  obtain ⟨report, hreport, hlines⟩ := report_of_profile hb hprompt hlong hround
    hfits.distinct hfits.cut tracked hprofile
  refine ⟨report, hrows ▸ hreport, ?_, hlines⟩
  have htargets : List.Forall₂ (· = ·) (report.map (·.target))
      ((reported_segments kind.settle_skip (kind.program self pi).profile).map
        (printed ·.target)) := by
    rw [List.forall₂_map_left_iff, List.forall₂_map_right_iff]
    exact hlines.flip.imp fun _ _ h => h.target
  rw [List.forall₂_eq_eq_eq] at htargets
  rw [htargets, ← hfits.moves_eq, List.map_map]
  rfl

end Kinds

/-- The velocity capture on the motor that answers, printed without rounding: its four moves are
reported, and the second of rest before them is not. -/
theorem report_of_capture_velocity :
    ∃ c' report, ((Kind.velocity : Kind ℚ).program fixtures.single (22 / 7)).run quiet_bench
        (tracking_capture_velocity fixtures.single).passes ⟨0, .of_span (176 / 7), [], none⟩
          = some (.ok (), c') ∧
      plateau_stats ((c'.rows.map (point id (·.velocity))).map (·.t))
        ((c'.rows.map (point id (·.velocity))).map (·.target))
        ((c'.rows.map (point id (·.velocity))).map (·.actual)) (3 / 2) = some report ∧
      report.map (·.target) = [2, 4, -2, 0] := by
  obtain ⟨c', hrun⟩ := quiet_capture
  have hround : Rounds (id : ℚ → ℚ) (horizon 40 (longest_answer 40 1000000)
      (longest_turn 40 1000000 0 0)
      ((Kind.velocity : Kind ℚ).program fixtures.single (22 / 7)).profile) 0 := by
    intro x _
    simp
  have hslack : slack (longest_answer 40 1000000) (longest_turn 40 1000000 0 0) (0 : ℚ)
      < 3 / 10 := by
    norm_num [slack, seconds, longest_answer, longest_turn, longest_cycle, sample_period]
  obtain ⟨report, hreport, htargets, -⟩ := report_of_capture quiet_bench_steady .velocity
    fixtures.single (by norm_num) quiet_prompt (by norm_num) hround hslack (·.velocity) hrun
  exact ⟨c', report, hrun, hreport, htargets.trans (List.map_id _)⟩

end tracking_capture

end Robstride
