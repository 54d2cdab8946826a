/-
Signals that events change and that hold their value in between.

A history of timestamped events and a value for each history define a function of
time: at `t`, the value of the events up to `t`. Such a signal is a step function,
so it is integrable (`intervalIntegrable_signal`).

A lazy integrator adds up the signal without looking at it in between: at some of the
events, its ticks, it adds the value held so far times the time since the last tick,
and some ticks reset it. If only ticks change the value, that is the integral of the
signal from the last reset to the last tick (`LazyIntegrator.eq_integral`), however the
ticks fall.
-/
import RobstrideDriver.Lib.History

set_option autoImplicit false

namespace HeldSignal

variable {E : Type*} (time : E → ℝ) (value : List E → ℝ)

/-- The signal: the value of the events up to `t`. -/
noncomputable def signal (history : List E) (t : ℝ) : ℝ :=
  value (history.filter fun e => time e ≤ t)

/-- Events in the order of their times. -/
def Ordered (history : List E) : Prop := history.Pairwise fun a b => time a ≤ time b

variable {time value} {history : List E} {e : E} {t : ℝ}

/-- A history in order, without its last event: what remains is in order, and no event of it is
later than the last. -/
theorem Ordered.of_concat (h : Ordered time (history ++ [e])) :
    Ordered time history ∧ ∀ a ∈ history, time a ≤ time e := by
  obtain ⟨hinit, -, hlast⟩ := List.pairwise_append.mp h
  exact ⟨hinit, fun a ha => hlast a ha e (List.mem_singleton_self e)⟩

/-- An event changes nothing before its time, so the signal up to then is the one of the events
before. -/
theorem signal_concat_of_lt (ht : t < time e) :
    signal time value (history ++ [e]) t = signal time value history t := by
  have hfilter : [e].filter (fun e => time e ≤ t) = [] := by
    rw [List.filter_singleton, decide_eq_false (not_le.mpr ht)]
    rfl
  rw [signal, signal, List.filter_append, hfilter, List.append_nil]

/-- From the last event on the signal has its last value, which it holds until another comes. -/
theorem signal_of_le (ht : ∀ a ∈ history, time a ≤ t) :
    signal time value history t = value history := by
  rw [signal, List.filter_eq_self.mpr fun a ha => decide_eq_true (ht a ha)]

/-- From its own time on a new last event is what the signal shows. -/
theorem signal_concat_of_le (h : Ordered time (history ++ [e])) (ht : time e ≤ t) :
    signal time value (history ++ [e]) t = value (history ++ [e]) := by
  apply signal_of_le
  intro a ha
  rcases List.mem_append.mp ha with ha | ha
  · exact (h.of_concat.2 a ha).trans ht
  · rwa [List.mem_singleton.mp ha]

/-- A step function is integrable: each event cuts a half-line off, and the pieces are constants. -/
theorem intervalIntegrable_signal (h : Ordered time history) (a b : ℝ) :
    IntervalIntegrable (signal time value history) MeasureTheory.volume a b := by
  induction history using List.reverseRecOn with
  | nil =>
    have hconst : signal time value [] = fun _ => value [] := rfl
    rw [hconst]
    exact intervalIntegrable_const
  | append_singleton history e ih =>
    have hpiece : signal time value (history ++ [e]) = (Set.Iio (time e)).piecewise
        (signal time value history) fun _ => value (history ++ [e]) := by
      funext t
      by_cases ht : t < time e
      · have hmem : t ∈ Set.Iio (time e) := ht
        rw [Set.piecewise_eq_of_mem _ _ _ hmem, signal_concat_of_lt ht]
      · have hmem : t ∉ Set.Iio (time e) := ht
        rw [Set.piecewise_eq_of_notMem _ _ _ hmem, signal_concat_of_le h (not_lt.mp ht)]
    have hprev := intervalIntegrable_iff.mp (ih h.of_concat.1)
    have hconst : MeasureTheory.IntegrableOn (fun _ => value (history ++ [e])) (Set.uIoc a b) :=
      intervalIntegrable_iff.mp intervalIntegrable_const
    rw [hpiece, intervalIntegrable_iff]
    exact MeasureTheory.Integrable.piecewise measurableSet_Iio hprev.integrableOn
      hconst.integrableOn

/-! ## Lazy integration -/

variable (time value) (tick reset : E → Prop) [DecidablePred tick] [DecidablePred reset]

/-- The time of an event of a kind. -/
def stamp (kind : E → Prop) [DecidablePred kind] (e : E) : Option ℝ :=
  if kind e then some (time e) else none

/-- The time of the last event of a kind, or `start`. -/
noncomputable def last_time (kind : E → Prop) [DecidablePred kind] (start : ℝ)
    (history : List E) : ℝ :=
  (History.latest (stamp time kind) history).getD start

/-- `acc` adds the held value up at the ticks, and starts again at the resets. The laws
are those of the histories `Ok` admits. -/
structure LazyIntegrator (start : ℝ) (Ok : List E → Prop) (acc : List E → ℝ) : Prop where
  ok_of_concat : ∀ history e, Ok (history ++ [e]) → Ok history
  tick_of_reset : ∀ e, reset e → tick e
  acc_nil : acc [] = 0
  idle_value : ∀ history e, ¬ tick e → value (history ++ [e]) = value history
  idle_acc : ∀ history e, ¬ tick e → acc (history ++ [e]) = acc history
  tick_acc : ∀ history e, Ok (history ++ [e]) → tick e → ¬ reset e →
    acc (history ++ [e])
      = acc history + value history * (time e - last_time time tick start history)
  reset_acc : ∀ history e, reset e → acc (history ++ [e]) = 0

variable {time value tick reset} {start : ℝ} {kind : E → Prop} [DecidablePred kind]

/-- An event of the kind that is looked for is the last of its kind when it is the last of all. -/
theorem last_time_concat_of (hkind : kind e) :
    last_time time kind start (history ++ [e]) = time e := by
  have hstamp : stamp time kind e = some (time e) := if_pos hkind
  rw [last_time, History.latest_concat_some hstamp]
  rfl

/-- An event of another kind does not change when the last one of the kind was. -/
theorem last_time_concat_of_not (hkind : ¬ kind e) :
    last_time time kind start (history ++ [e]) = last_time time kind start history := by
  have hstamp : stamp time kind e = none := if_neg hkind
  rw [last_time, History.latest_concat_none hstamp, last_time]

/-- The last event of a kind is no later than all events are. -/
theorem last_time_le {b : ℝ} (hstart : start ≤ b) (hb : ∀ a ∈ history, time a ≤ b) :
    last_time time kind start history ≤ b := by
  induction history using List.reverseRecOn with
  | nil => exact hstart
  | append_singleton history e ih =>
    by_cases hkind : kind e
    · rw [last_time_concat_of hkind]
      exact hb e (List.mem_append_right _ (List.mem_singleton_self e))
    · rw [last_time_concat_of_not hkind]
      exact ih fun a ha => hb a (List.mem_append_left _ ha)

/-- Since the last tick the signal is what it will stay, for only ticks change it. -/
theorem signal_since_tick
    (hidle : ∀ history e, ¬ tick e → value (history ++ [e]) = value history)
    (h : Ordered time history) (ht : last_time time tick start history ≤ t) :
    signal time value history t = value history := by
  induction history using List.reverseRecOn with
  | nil => rfl
  | append_singleton history e ih =>
    by_cases htick : tick e
    · rw [last_time_concat_of htick] at ht
      exact signal_concat_of_le h ht
    · rw [last_time_concat_of_not htick] at ht
      by_cases hlt : t < time e
      · rw [signal_concat_of_lt hlt, ih h.of_concat.1 ht, hidle history e htick]
      · exact signal_concat_of_le h (not_lt.mp hlt)

/-- An event at the end of the interval leaves the integral as it was: it changes the signal in one
point only. -/
theorem integral_signal_concat {a b : ℝ} (ha : a ≤ time e) (hb : b ≤ time e) :
    ∫ t in a..b, signal time value (history ++ [e]) t
      = ∫ t in a..b, signal time value history t := by
  apply intervalIntegral.integral_congr_uIoo
  intro t ht
  exact signal_concat_of_lt (ht.2.trans_le (max_le ha hb))

/-- **Lazy integration is integration.** An integrator that adds up its rate only when a tick comes,
for the time since the last one, holds the integral of the rate up to that tick: between ticks the
rate does not change. -/
theorem LazyIntegrator.eq_integral {Ok : List E → Prop} {acc : List E → ℝ}
    (integrator : LazyIntegrator time value tick reset start Ok acc) (hok : Ok history)
    (h : Ordered time history) (hstart : ∀ a ∈ history, start ≤ time a) :
    acc history = ∫ t in last_time time reset start history..last_time time tick start history,
      signal time value history t := by
  induction history using List.reverseRecOn with
  | nil =>
    rw [integrator.acc_nil]
    exact intervalIntegral.integral_same.symm
  | append_singleton history e ih =>
    obtain ⟨hinit, hlast⟩ := h.of_concat
    have hprev := ih (integrator.ok_of_concat history e hok) hinit
      fun a ha => hstart a (List.mem_append_left _ ha)
    have he : start ≤ time e := hstart e (List.mem_append_right _ (List.mem_singleton_self e))
    have horigin : last_time time reset start history ≤ time e := last_time_le he hlast
    have htick : last_time time tick start history ≤ time e := last_time_le he hlast
    by_cases hkind : tick e
    · by_cases hreset : reset e
      · rw [integrator.reset_acc history e hreset, last_time_concat_of hreset,
          last_time_concat_of hkind, intervalIntegral.integral_same]
      · -- the value held since the last tick, over the time since then
        have hheld : value history * (time e - last_time time tick start history)
            = ∫ t in last_time time tick start history..time e, signal time value history t := by
          have hconst : Set.EqOn (signal time value history) (fun _ => value history)
              (Set.Ioo (last_time time tick start history) (time e)) :=
            fun t ht => signal_since_tick integrator.idle_value hinit ht.1.le
          rw [intervalIntegral.integral_congr_Ioo_of_le htick hconst,
            intervalIntegral.integral_const, smul_eq_mul, mul_comm]
        rw [integrator.tick_acc history e hok hkind hreset, last_time_concat_of_not hreset,
          last_time_concat_of hkind, integral_signal_concat horigin (le_refl _), hprev, hheld,
          intervalIntegral.integral_add_adjacent_intervals (intervalIntegrable_signal hinit _ _)
            (intervalIntegrable_signal hinit _ _)]
    · have hreset : ¬ reset e := fun hr => hkind (integrator.tick_of_reset e hr)
      rw [integrator.idle_acc history e hkind, last_time_concat_of_not hreset,
        last_time_concat_of_not hkind, integral_signal_concat horigin htick, hprev]

end HeldSignal
