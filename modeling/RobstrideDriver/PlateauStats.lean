/-
`tools/plot_tracking.py`: the steady-state statistics of a capture.

`plateau_stats` is a loop over the indices of three columns, with an index that says where
the current plateau began. Seen from the rows it groups them (`plateaus_of_rows`): a
plateau is a longest run of rows with one target, it is reported unless nothing in it is
left when its first `settle_skip` seconds are taken away, and what is reported is about
what is left. No index of the loop is out of range.

The columns come from a file of text, so what the loop compares are the numbers as printed.
They are of an ordered field where the tool computes with Python's floats: what is said of the
statistics is said of exact arithmetic.
-/
import Mathlib

set_option autoImplicit false

namespace Robstride

namespace plot_tracking

variable {K : Type} [Field K] [LinearOrder K]

/-! ## The loop -/

/-- What `plateau_stats` yields. -/
structure Plateau (K : Type) where
  t_start : K
  t_end : K
  target : K
  mean : K
  max_abs_error : K
deriving DecidableEq, Repr

/-- `[j for j in js if cond]`, where the condition may raise. -/
def select (cond : ℕ → Option Bool) : List ℕ → Option (List ℕ)
  | [] => some []
  | j :: js => do
    let keep ← cond j
    let kept ← select cond js
    return if keep then j :: kept else kept

/-- `sum(values) / len(values)`. -/
def mean_of (values : List K) : K := values.foldl (· + ·) 0 / (values.length : K)

variable (times targets actuals : List K) (settle_skip : K)

/-- The plateau from `seg_start` to before `i`, if it is reported. An `IndexError`, or a
`max` of nothing, is `none`. -/
def plateau (seg_start i : ℕ) : Option (Option (Plateau K)) := do
  let t0 ← times[seg_start]?
  let idx ← select (fun j => times[j]?.map fun t => decide (t0 + settle_skip ≤ t))
    (List.range' seg_start (i - seg_start))
  if idx = [] then
    return none
  else
    let target ← targets[seg_start]?
    let values ← idx.mapM (actuals[·]?)
    return some
      { t_start := t0
        t_end := ← times[i - 1]?
        target := target
        mean := mean_of values
        max_abs_error := ← (values.map fun v => |v - target|).max? }

/-- `i < len(targets) and targets[i] == targets[seg_start]`. -/
def goes_on (seg_start i : ℕ) : Option Bool :=
  if i < targets.length then do
    return decide ((← targets[i]?) = (← targets[seg_start]?))
  else
    some false

/-- The body of the loop; the state is `seg_start` and what has been yielded. -/
def plateau_turn (st : ℕ × List (Plateau K)) (i : ℕ) : Option (ℕ × List (Plateau K)) := do
  if ← goes_on targets st.1 i then
    return st
  else
    return (i, st.2 ++ (← plateau times targets actuals settle_skip st.1 i).toList)

def plateau_stats : Option (List (Plateau K)) := do
  let st ← (List.range' 1 targets.length).foldlM
    (plateau_turn times targets actuals settle_skip) (0, [])
  return st.2

/-! ## Rows -/

/-- A row, as far as the report goes. -/
structure Point (K : Type) where
  t : K
  target : K
  actual : K
deriving DecidableEq, Repr

/-- The rows of a plateau that count. -/
def settled (first : K) (rows : List (Point K)) : List (Point K) :=
  rows.filter fun row => first + settle_skip ≤ row.t

/-- What is reported of a longest run of rows with one target. -/
def summary : List (Point K) → Option (Plateau K)
  | [] => none
  | first :: rest =>
    (((settled settle_skip first.t (first :: rest)).map fun row =>
      |row.actual - first.target|).max?).map fun max_abs_error =>
        { t_start := first.t
          t_end := ((first :: rest).getLast (List.cons_ne_nil _ _)).t
          target := first.target
          mean := mean_of ((settled settle_skip first.t (first :: rest)).map (·.actual))
          max_abs_error := max_abs_error }

/-- The plateaus of the rows. -/
def plateaus (rows : List (Point K)) : List (List (Point K)) :=
  rows.splitBy fun row row' => row.target = row'.target

/-! ## The loop and the rows -/

section Loop

variable {before rows after all : List (Point K)} {row : Point K}

omit [Field K] [LinearOrder K] in
/-- The element of a column at the index of a row. -/
theorem column_at (f : Point K → K) (hall : all = before ++ row :: after) :
    (all.map f)[before.length]? = some (f row) := by
  rw [hall, List.getElem?_map, List.getElem?_append_right le_rfl, Nat.sub_self]
  rfl

omit [Field K] [LinearOrder K] in
/-- The indices that are kept are those of the rows that are. -/
theorem select_rows (p : K → Bool) (hall : all = before ++ (rows ++ after)) :
    ∃ idx, select (fun j => (all.map (·.t))[j]?.map p)
        (List.range' before.length rows.length) = some idx ∧
      idx.mapM ((all.map (·.actual))[·]?)
        = some ((rows.filter fun row => p row.t).map (·.actual)) ∧
      (idx = [] ↔ rows.filter (fun row => p row.t) = []) := by
  induction rows generalizing before with
  | nil => exact ⟨[], rfl, rfl, iff_of_true rfl rfl⟩
  | cons row rows ih =>
    -- the row moves to the front part, so that the index of the next one is its length
    have hnext : all = (before ++ [row]) ++ (rows ++ after) := by simp [hall]
    obtain ⟨idx, hselect, hvalues, hempty⟩ := ih hnext
    rw [List.length_append, List.length_singleton] at hselect
    have ht := column_at (·.t) hall
    have hactual := column_at (·.actual) hall
    rw [List.length_cons, List.range'_succ, select]
    by_cases hp : p row.t
    · refine ⟨before.length :: idx, ?_, ?_, ?_⟩
      · rw [ht, hselect]
        simp [hp]
      · rw [List.mapM_cons, hactual, hvalues]
        simp [hp]
      · simp [hp]
    · refine ⟨idx, ?_, ?_, ?_⟩
      · rw [ht, hselect]
        simp [hp]
      · rw [hvalues]
        simp [hp]
      · rw [hempty, List.filter_cons_of_neg (by simpa using hp)]

omit [Field K] [LinearOrder K] in
/-- The element of a column at the last index of a part of the rows, as `i - 1` in the loop. -/
theorem column_last (f : Point K → K) (hrows : rows ≠ []) (hall : all = before ++ (rows ++ after)) :
    (all.map f)[before.length + rows.length - 1]? = some (f (rows.getLast hrows)) := by
  have hlast : all = (before ++ rows.dropLast) ++ rows.getLast hrows :: after := by
    conv_lhs => rw [hall, ← List.dropLast_append_getLast hrows]
    simp only [List.append_assoc, List.singleton_append]
  have hpos := List.length_pos_iff.mpr hrows
  have hlength : (before ++ rows.dropLast).length = before.length + rows.length - 1 := by
    rw [List.length_append, List.length_dropLast]
    omega
  rw [← hlength]
  exact column_at f hlast

/-- One plateau, by the rows it is about: no index is out of range, and what is reported is what is
left of them. -/
theorem plateau_rows (hrows : rows ≠ []) (hall : all = before ++ (rows ++ after)) :
    plateau (all.map (·.t)) (all.map (·.target)) (all.map (·.actual)) settle_skip before.length
      (before.length + rows.length) = some (summary settle_skip rows) := by
  rcases rows with _ | ⟨first, rest⟩
  · exact absurd rfl hrows
  obtain ⟨idx, hselect, hvalues, hempty⟩ :=
    select_rows (fun t => decide (first.t + settle_skip ≤ t)) hall
  rw [← settled] at hvalues hempty
  have ht := column_at (·.t) hall
  have htarget := column_at (·.target) hall
  have hend := column_last (·.t) hrows hall
  rw [plateau, ht]
  simp only [Option.bind_eq_bind, Option.bind_some, Nat.add_sub_cancel_left]
  rw [hselect]
  simp only [Option.bind_some]
  by_cases hidx : idx = []
  · rw [if_pos hidx, summary, hempty.mp hidx]
    rfl
  · -- there is a row to report
    have hsome : ((settled settle_skip first.t (first :: rest)).map fun row =>
        |row.actual - first.target|).max?.isSome := by
      apply List.isSome_max?_of_ne_nil
      intro h
      exact hidx (hempty.mpr (List.map_eq_nil_iff.mp h))
    obtain ⟨worst, hworst⟩ := Option.isSome_iff_exists.mp hsome
    rw [if_neg hidx, htarget, hvalues, hend]
    simp only [Option.bind_some, summary, List.map_map, Function.comp_def]
    rw [hworst]
    rfl

omit [Field K] in
/-- The next row belongs to the plateau if it has its target. -/
theorem goes_on_rows {first : Point K} (hall : all = before ++ (first :: rows ++ row :: after)) :
    goes_on (all.map (·.target)) before.length (before.length + (first :: rows).length)
      = some (decide (row.target = first.target)) := by
  have hfirst := column_at (·.target) hall
  have hrow : (all.map (·.target))[before.length + (first :: rows).length]? = some row.target := by
    rw [← List.length_append]
    exact column_at (·.target) (hall.trans (List.append_assoc _ _ _).symm)
  have hlt : before.length + (first :: rows).length < (all.map (·.target)).length := by
    simp [hall]
  rw [goes_on, if_pos hlt, hrow, hfirst]
  rfl

omit [Field K] in
/-- At the end of the columns no plateau goes on. -/
theorem goes_on_end (hall : all = before ++ rows) :
    goes_on (all.map (·.target)) before.length (before.length + rows.length) = some false := by
  have hend : ¬ before.length + rows.length < (all.map (·.target)).length := by
    simp [hall]
  rw [goes_on, if_neg hend]

omit [Field K] in
/-- Rows of one target are one plateau. -/
theorem plateaus_one {first : Point K} (hplateau : ∀ row ∈ rows, row.target = first.target) :
    plateaus (first :: rows) = [first :: rows] := by
  apply List.splitBy_of_isChain (List.cons_ne_nil _ _)
  apply List.Pairwise.isChain
  have hall : ∀ row ∈ first :: rows, row.target = first.target :=
    List.forall_mem_cons.mpr ⟨rfl, hplateau⟩
  apply List.Pairwise.imp_of_mem (R := fun _ _ => True) _
    (List.pairwise_of_forall fun _ _ => trivial)
  intro row row' hrow hrow' _
  simp [hall row hrow, hall row' hrow']

omit [Field K] in
/-- A row with another target ends the plateau before it, and begins the next one. -/
theorem plateaus_next {first : Point K} (hplateau : ∀ row ∈ rows, row.target = first.target)
    (hnext : row.target ≠ first.target) :
    plateaus (first :: rows ++ row :: after) = (first :: rows) :: plateaus (row :: after) := by
  have hother : ∀ last ∈ (first :: rows).getLast?, decide (last.target = row.target) = false := by
    intro last hlast
    have htarget : ∀ row ∈ first :: rows, row.target = first.target :=
      List.forall_mem_cons.mpr ⟨rfl, hplateau⟩
    rw [htarget last (List.mem_of_mem_getLast? hlast)]
    exact decide_eq_false hnext.symm
  rw [plateaus, List.splitBy_append_cons after hother, ← plateaus, plateaus_one hplateau]
  rfl

section Turn

variable (times : List K) {targets : List K} (actuals : List K) {i : ℕ} (st : ℕ × List (Plateau K))

/-- A pass over a row of the current plateau does nothing. -/
theorem plateau_turn_continue (h : goes_on targets st.1 i = some true) :
    plateau_turn times targets actuals settle_skip st i = some st := by
  rw [plateau_turn, h]
  rfl

variable {times actuals} in
/-- A pass over the first row behind a plateau reports it, if it is to be, and begins another. -/
theorem plateau_turn_over (h : goes_on targets st.1 i = some false) {reported : Option (Plateau K)}
    (hreported : plateau times targets actuals settle_skip st.1 i = some reported) :
    plateau_turn times targets actuals settle_skip st i = some (i, st.2 ++ reported.toList) := by
  rw [plateau_turn, h]
  simp [hreported]

end Turn

/-- The loop from a row of a plateau on, by induction on the rows behind it: the plateaus that are
still to come are reported in order. -/
theorem plateau_loop {first : Point K} (yielded : List (Plateau K))
    (hplateau : ∀ row ∈ rows, row.target = first.target)
    (hall : all = before ++ (first :: rows ++ after)) :
    (List.range' (before.length + (first :: rows).length) (after.length + 1)).foldlM
        (plateau_turn (all.map (·.t)) (all.map (·.target)) (all.map (·.actual)) settle_skip)
        (before.length, yielded)
      = some (all.length,
          yielded ++ (plateaus (first :: rows ++ after)).filterMap (summary settle_skip)) := by
  induction after generalizing before first rows yielded with
  | nil =>
    have hreport := plateau_rows settle_skip (List.cons_ne_nil first rows) hall
    rw [List.append_nil] at hall ⊢
    have hturn := plateau_turn_over settle_skip (before.length, yielded) (goes_on_end hall) hreport
    have hlength : all.length = before.length + (first :: rows).length := by
      rw [hall, List.length_append]
    rw [plateaus_one hplateau, List.length_nil, List.range'_one, List.foldlM_cons, hturn, hlength]
    cases hsummary : summary settle_skip (first :: rows) <;> simp [hsummary]
  | cons row after ih =>
    have hcount : (row :: after).length + 1 = (after.length + 1) + 1 := rfl
    rw [hcount, List.range'_succ, List.foldlM_cons]
    by_cases hsame : row.target = first.target
    · -- `continue`
      have hgoes : goes_on (all.map (·.target)) before.length
          (before.length + (first :: rows).length) = some true :=
        (goes_on_rows hall).trans (by rw [decide_eq_true hsame])
      have hplateau' : ∀ r ∈ rows ++ [row], r.target = first.target :=
        List.forall_mem_append.mpr ⟨hplateau, by simpa using hsame⟩
      have hall' : all = before ++ (first :: (rows ++ [row]) ++ after) := by simpa using hall
      have hrest := ih yielded hplateau' hall'
      have hindex : before.length + (first :: (rows ++ [row])).length
          = before.length + (first :: rows).length + 1 := by
        simp only [List.length_cons, List.length_append, List.length_nil]
        omega
      have hrows : first :: (rows ++ [row]) ++ after = first :: rows ++ row :: after := by simp
      rw [hindex, hrows] at hrest
      rw [plateau_turn_continue settle_skip _ _ (before.length, yielded) hgoes]
      exact hrest
    · -- a plateau is over
      have hgoes : goes_on (all.map (·.target)) before.length
          (before.length + (first :: rows).length) = some false :=
        (goes_on_rows hall).trans (by rw [decide_eq_false hsame])
      have hreport := plateau_rows settle_skip (List.cons_ne_nil first rows) hall
      have hplateau' : ∀ r ∈ ([] : List (Point K)), r.target = row.target := by simp
      have hall' : all = (before ++ first :: rows) ++ ([row] ++ after) := by simpa using hall
      have hrest := ih (yielded ++ (summary settle_skip (first :: rows)).toList) hplateau' hall'
      rw [List.length_append] at hrest
      rw [plateau_turn_over settle_skip (before.length, yielded) hgoes hreport,
        plateaus_next hplateau hsame, List.filterMap_cons]
      refine hrest.trans ?_
      cases summary settle_skip (first :: rows) <;> simp

/-- The loop groups the rows: it reports on the longest runs of rows with one target, and on nothing
else. -/
theorem plateau_stats_rows (rows : List (Point K)) :
    plateau_stats (rows.map (·.t)) (rows.map (·.target)) (rows.map (·.actual)) settle_skip
      = some ((plateaus rows).filterMap (summary settle_skip)) := by
  rcases rows with _ | ⟨first, rows⟩
  · rfl
  have hfirst : ∀ r ∈ ([] : List (Point K)), r.target = first.target := by simp
  have hall : first :: rows = [] ++ ([first] ++ rows) := rfl
  have hloop := plateau_loop settle_skip [] hfirst hall
  rw [plateau_stats, List.length_map, List.length_cons]
  rw [List.length_nil, List.length_singleton, Nat.zero_add] at hloop
  rw [hloop]
  rfl

end Loop

/-! ## What is reported -/

/-- The longest runs of rows with one target. -/
structure Grouped (rows : List (Point K)) (groups : List (List (Point K))) : Prop where
  whole : groups.flatten = rows
  nonempty : ∀ group ∈ groups, group ≠ []
  same : ∀ group ∈ groups, ∀ row ∈ group, ∀ row' ∈ group, row.target = row'.target
  longest : groups.IsChain fun group group' =>
    ∀ row ∈ group, ∀ row' ∈ group', row.target ≠ row'.target

/-- The report on a plateau: the extent of all of it, and the values and errors of what is
left after the transient. -/
structure Describes (group : List (Point K)) (p : Plateau K) : Prop where
  t_start : group.head?.map (·.t) = some p.t_start
  t_end : group.getLast?.map (·.t) = some p.t_end
  target : ∀ row ∈ group, row.target = p.target
  mean : p.mean * ((settled settle_skip p.t_start group).length : K)
    = ((settled settle_skip p.t_start group).map (·.actual)).sum
  worst : ∀ row ∈ group, p.t_start + settle_skip ≤ row.t →
    |row.actual - p.target| ≤ p.max_abs_error
  attained : ∃ row ∈ group, p.t_start + settle_skip ≤ row.t ∧
    |row.actual - p.target| = p.max_abs_error
  mean_error : |p.mean - p.target| ≤ p.max_abs_error

/-- A plateau with nothing left is passed over. -/
def ReportedAs (group : List (Point K)) : Option (Plateau K) → Prop
  | none => ∃ first, group.head? = some first ∧ ∀ row ∈ group, row.t < first.t + settle_skip
  | some p => Describes settle_skip group p

omit [Field K] in
/-- Within a plateau all targets are equal. -/
theorem plateaus_same {rows group : List (Point K)} (hgroup : group ∈ plateaus rows) :
    ∀ row ∈ group, ∀ row' ∈ group, row.target = row'.target := by
  have hchain : group.IsChain fun row row' => row.target = row'.target :=
    (List.isChain_of_mem_splitBy hgroup).imp fun _ _ h => of_decide_eq_true h
  have htrans : IsTrans (Point K) fun row row' => row.target = row'.target :=
    ⟨fun _ _ _ h h' => h.trans h'⟩
  have hsymm : Std.Symm fun row row' : Point K => row.target = row'.target := ⟨fun _ _ h => h.symm⟩
  intro row hrow row' hrow'
  have hpairwise := List.isChain_iff_pairwise.mp hchain
  exact List.Pairwise.forall_of_forall (R := fun row row' : Point K => row.target = row'.target)
    (fun _ _ => rfl) hpairwise hrow hrow'

omit [Field K] in
/-- The plateaus are a grouping of the rows: together they are all rows in order, none is empty, and
neighbours have different targets. -/
theorem plateaus_grouped (rows : List (Point K)) : Grouped rows (plateaus rows) where
  whole := List.flatten_splitBy _ rows
  nonempty group hgroup := List.ne_nil_of_mem_splitBy hgroup
  same group hgroup := plateaus_same hgroup
  longest := by
    refine (List.isChain_getLast_head_splitBy _ rows).imp_of_mem_imp ?_
    rintro group group' hgroup hgroup' ⟨hne, hne', hother⟩ row hrow row' hrow'
    rw [plateaus_same hgroup row hrow _ (List.getLast_mem hne),
      plateaus_same hgroup' row' hrow' _ (List.head_mem hne')]
    exact of_decide_eq_false hother

omit [Field K] in
/-- There is one way to group the rows like that, so whoever knows a grouping knows the plateaus. -/
theorem plateaus_of_grouped {rows : List (Point K)} {groups : List (List (Point K))}
    (h : Grouped rows groups) : plateaus rows = groups := by
  rw [plateaus, List.splitBy_eq_iff]
  refine ⟨h.whole.symm, fun hnil => h.nonempty [] hnil rfl, ?_, ?_⟩
  · intro group hgroup
    apply List.Pairwise.isChain
    rw [List.pairwise_iff_forall_sublist]
    intro row row' hsub
    have hmem := hsub.subset
    exact decide_eq_true (h.same group hgroup row (hmem (by simp)) row' (hmem (by simp)))
  · refine h.longest.imp_of_mem_imp ?_
    intro group group' hgroup hgroup' hother
    exact ⟨h.nonempty group hgroup, h.nonempty group' hgroup', decide_eq_false
      (hother _ (List.getLast_mem _) _ (List.head_mem _))⟩

section Bounds

omit [LinearOrder K] in
/-- The loop of `sum`: the mean of values, times their number, is their sum. -/
theorem mean_of_mul [CharZero K] {values : List K} (hvalues : values ≠ []) :
    mean_of values * (values.length : K) = values.sum := by
  have hlength : (values.length : K) ≠ 0 := by simpa using hvalues
  rw [mean_of, div_mul_cancel₀ _ hlength, List.sum_eq_foldl]

variable [IsStrictOrderedRing K]

/-- A sum of values none of which is further from the target than the worst of them. -/
theorem sum_error {values : List K} {target worst : K}
    (hworst : ∀ v ∈ values, |v - target| ≤ worst) :
    |values.sum - values.length * target| ≤ values.length * worst := by
  induction values with
  | nil => simp
  | cons v values ih =>
    obtain ⟨hv, hvalues⟩ := List.forall_mem_cons.mp hworst
    have hsplit : (v :: values).sum - ((v :: values).length : K) * target
        = (v - target) + (values.sum - values.length * target) := by
      rw [List.sum_cons, List.length_cons]
      push_cast
      ring
    have hbound : (((v :: values).length : ℕ) : K) * worst = worst + values.length * worst := by
      rw [List.length_cons]
      push_cast
      ring
    rw [hsplit, hbound]
    exact (abs_add_le _ _).trans (add_le_add hv (ih hvalues))

/-- The mean is no further from the target than the worst of the values. -/
theorem mean_of_error {values : List K} (hvalues : values ≠ []) {target worst : K}
    (hworst : ∀ v ∈ values, |v - target| ≤ worst) : |mean_of values - target| ≤ worst := by
  have hpos : (0 : K) < values.length := by
    exact_mod_cast List.length_pos_iff.mpr hvalues
  have herror := sum_error hworst
  rw [← mean_of_mul hvalues, mul_comm, ← mul_sub, abs_mul, abs_of_pos hpos] at herror
  exact le_of_mul_le_mul_left herror hpos

/-- The summary of a plateau says what a report should: the first and last time of the plateau, and
about the rows after the transient their mean and their worst deviation. If no row is left there is
none. -/
theorem summary_reported {group : List (Point K)} (hgroup : group ≠ [])
    (hsame : ∀ row ∈ group, ∀ row' ∈ group, row.target = row'.target) :
    ReportedAs settle_skip group (summary settle_skip group) := by
  rcases group with _ | ⟨first, rest⟩
  · exact absurd rfl hgroup
  rw [summary]
  cases hmax : ((settled settle_skip first.t (first :: rest)).map fun row =>
      |row.actual - first.target|).max? with
  | none =>
    rw [List.max?_eq_none_iff, List.map_eq_nil_iff, settled, List.filter_eq_nil_iff] at hmax
    refine ⟨first, rfl, ?_⟩
    intro row hrow
    simpa using hmax row hrow
  | some worst =>
    -- a largest deviation is there as soon as a row is left
    obtain ⟨hmem, hworst⟩ := List.max?_eq_some_iff.mp hmax
    obtain ⟨row, hrow, hattained⟩ := List.mem_map.mp hmem
    have hkept : ∀ row ∈ settled settle_skip first.t (first :: rest),
        |row.actual - first.target| ≤ worst :=
      fun row hrow => hworst _ (List.mem_map_of_mem hrow)
    have hvalues : (settled settle_skip first.t (first :: rest)).map (·.actual) ≠ [] := by
      intro h
      rw [List.map_eq_nil_iff.mp h] at hrow
      cases hrow
    have hmember := List.mem_filter.mp hrow
    refine ⟨rfl, rfl, ?_, ?_, ?_, ⟨row, hmember.1, of_decide_eq_true hmember.2, hattained⟩, ?_⟩
    · intro row hrow
      exact hsame row hrow first List.mem_cons_self
    · have hmean := mean_of_mul hvalues
      rwa [List.length_map] at hmean
    · intro row hrow hlate
      exact hkept row (List.mem_filter.mpr ⟨hrow, decide_eq_true hlate⟩)
    · apply mean_of_error hvalues
      intro v hv
      obtain ⟨row, hrow, rfl⟩ := List.mem_map.mp hv
      exact hkept row hrow

/-- **The report.** On the columns of one table no index is out of range, and there is one plateau
for each longest run of rows with one target in which a row is left after the first `settle_skip`
seconds. It shows the times of the run's first and last row, and about exactly the rows left their
mean and their largest deviation from the target, which one of them attains and which bounds that of
the mean. -/
theorem plateau_stats_reports (rows : List (Point K)) :
    ∃ groups reports, Grouped rows groups ∧ List.Forall₂ (ReportedAs settle_skip) groups reports ∧
      plateau_stats (rows.map (·.t)) (rows.map (·.target)) (rows.map (·.actual)) settle_skip
        = some reports.reduceOption := by
  have hgrouped := plateaus_grouped rows
  refine ⟨plateaus rows, (plateaus rows).map (summary settle_skip), hgrouped, ?_, ?_⟩
  · rw [List.forall₂_map_right_iff, List.forall₂_same]
    intro group hgroup
    exact summary_reported settle_skip (hgrouped.nonempty group hgroup) (hgrouped.same group hgroup)
  · rw [plateau_stats_rows, List.reduceOption, List.filterMap_map]
    rfl

end Bounds

/-- A step from one target to the next. -/
def stepped : List (Point ℚ) := [⟨0, 1, 0⟩, ⟨1, 1, 1 / 2⟩, ⟨2, 1, 2⟩, ⟨3, 2, 2⟩]

/-- Two plateaus: of the first two rows are left after a second, and of the other none. -/
theorem plateau_stats_reports_step :
    ∃ groups reports, Grouped stepped groups ∧ List.Forall₂ (ReportedAs 1) groups reports ∧
      plateau_stats (stepped.map (·.t)) (stepped.map (·.target)) (stepped.map (·.actual)) 1
        = some reports.reduceOption :=
  plateau_stats_reports 1 stepped

example : plateau_stats (stepped.map (·.t)) (stepped.map (·.target)) (stepped.map (·.actual)) 1
    = some [⟨0, 2, 1, 5 / 4, 1⟩] := by decide +kernel

end plot_tracking

end Robstride
