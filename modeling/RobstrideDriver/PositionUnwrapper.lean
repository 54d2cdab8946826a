/-
`position_unwrapper.hpp`: a continuous position from wrapped samples.

The code is modelled over any arithmetic. In exact arithmetic it keeps one
invariant, `Tracks`: the accumulated offset is the number of turns between the
first sample and the last. `update_tracks` is the step, and the only place where
the bound on the motion between two samples is used; `feed_tracks` is the run.
-/
import RobstrideDriver.ActuatorTypes
import RobstrideDriver.Lib.FixedPoint

set_option autoImplicit false

open CppArith

namespace Robstride

structure PositionUnwrapper (D : Type*) where
  span_ : D
  offset_ : D
  last_wrapped_ : Option D := none
deriving DecidableEq, Repr

namespace PositionUnwrapper

section Code

variable {D : Type*} [Add D] [Sub D] [Mul D] [Div D] [Neg D] [NatCast D] [LT D] [DecidableLT D]

/-- `PositionUnwrapper(double span)`. -/
def of_span (span : D) : PositionUnwrapper D := { span_ := span, offset_ := ((0 : ℕ) : D) }

/-- `PositionUnwrapper(const ActuatorLimits& limits)`. -/
def of_limits (limits : ActuatorLimits D) : PositionUnwrapper D :=
  of_span (((2 : ℕ) : D) * limits.position)

/-- `offset_` after the sample `wrapped`. -/
def next_offset (self : PositionUnwrapper D) (wrapped : D) : D :=
  match self.last_wrapped_ with
  | none => self.offset_
  | some last =>
    let delta := wrapped - last
    if self.span_ / ((2 : ℕ) : D) < delta then self.offset_ - self.span_
    else if delta < -self.span_ / ((2 : ℕ) : D) then self.offset_ + self.span_
    else self.offset_

def update (self : PositionUnwrapper D) (wrapped : D) : D × PositionUnwrapper D :=
  (wrapped + self.next_offset wrapped,
    { self with offset_ := self.next_offset wrapped, last_wrapped_ := some wrapped })

def position (self : PositionUnwrapper D) : Option D :=
  self.last_wrapped_.map (· + self.offset_)

def reset (self : PositionUnwrapper D) : PositionUnwrapper D :=
  { self with last_wrapped_ := none, offset_ := ((0 : ℕ) : D) }

/-- What `update` returns for each sample of a sequence. -/
def feed : PositionUnwrapper D → List D → List D
  | _, [] => []
  | self, wrapped :: rest => (self.update wrapped).1 :: feed (self.update wrapped).2 rest

omit [Mul D] in
/-- `position` repeats the output of the last `update`, which is all it reads of the state. -/
theorem position_update (self : PositionUnwrapper D) (wrapped : D) :
    (self.update wrapped).2.position = some (self.update wrapped).1 := rfl

omit [Add D] [Sub D] [Mul D] [Div D] [Neg D] [LT D] [DecidableLT D] in
/-- A reset unwrapper is a new one of the same span: nothing of the samples before it is left. -/
theorem reset_eq (self : PositionUnwrapper D) : self.reset = of_span self.span_ := rfl

end Code

/-! ## Tracking -/

/-- A sample: what was reported, and the continuous position it is a sample of. -/
structure Reading (K : Type*) where
  reported : K
  actual : K

variable {K : Type*} [Field K] [LinearOrder K] [FloorRing K]

/-- The turns of length `s` that `std::remainder` takes off a position. -/
def turns (s p : K) : ℤ := FixedPoint.roundEven (p / s)

/-- The report is the wrapped position up to `e`. -/
def Reading.Accurate (s e : K) (r : Reading K) : Prop :=
  |r.reported - FixedPoint.remainder r.actual s| ≤ e

/-- The invariant after a sample: the offset is the turns taken off that sample,
less those taken off the first one. -/
structure Tracks (s : K) (first : ℤ) (unwrapper : PositionUnwrapper K) (r : Reading K) :
    Prop where
  span : unwrapper.span_ = s
  last : unwrapper.last_wrapped_ = some r.reported
  offset : unwrapper.offset_ = ((turns s r.actual - first : ℤ) : K) * s

variable [IsStrictOrderedRing K] {s e : K} {first : ℤ} {self : PositionUnwrapper K}
  {r r' : Reading K}

omit [IsStrictOrderedRing K] in
/-- The output of an unwrapper that tracks is off by what the sample is off by, as the offset is a
whole number of spans. -/
theorem Tracks.output_error (h : Tracks s first self r) (hr : r.Accurate s e) :
    |r.reported + self.offset_ - (r.actual + s * ((-first : ℤ) : K))| ≤ e := by
  have hsame : r.reported + self.offset_ - (r.actual + s * ((-first : ℤ) : K))
      = r.reported - FixedPoint.remainder r.actual s := by
    rw [h.offset, FixedPoint.remainder_eq, ← turns]
    push_cast
    ring
  rw [hsame]
  exact hr

omit [IsStrictOrderedRing K] in
/-- After its first sample a new unwrapper tracks: the offset is still zero, and the turns are
counted from those of that sample. -/
theorem update_first (s : K) (r : Reading K) :
    Tracks s (turns s r.actual) ((of_span s).update r.reported).2 r where
  span := rfl
  last := rfl
  offset := by
    simp only [update, next_offset, of_span, sub_self, Int.cast_zero, zero_mul, Nat.cast_zero]

omit [FloorRing K] in
/-- The offset moves by the turns between two samples: up one span when the
report falls by more than half a span, down one when it rises by more. The turns
taken off either position are any that bring it into the range. -/
theorem next_offset_of_turns {p p' w w' : K} {k k' : ℤ} (hs : 0 < s) (hspan : self.span_ = s)
    (hlast : self.last_wrapped_ = some w) (hoffset : self.offset_ = ((k - first : ℤ) : K) * s)
    (hk : |p - k * s| ≤ s / 2) (hk' : |p' - k' * s| ≤ s / 2)
    (hw : |w - (p - k * s)| ≤ e) (hw' : |w' - (p' - k' * s)| ≤ e)
    (hmove : |p' - p| < s / 2 - 2 * e) :
    self.next_offset w' = ((k' - first : ℤ) : K) * s := by
  have hhalf : self.span_ / ((2 : ℕ) : K) = s / 2 := by rw [hspan, Nat.cast_ofNat]
  have hhalf' : -self.span_ / ((2 : ℕ) : K) = -(s / 2) := by
    rw [hspan, Nat.cast_ofNat, neg_div]
  unfold next_offset
  rw [hlast]
  dsimp only
  rw [hhalf, hhalf', hoffset, hspan]
  rcases FixedPoint.turn_cases hs hk hk' hw hw' hmove with ⟨rfl, hlo, hhi⟩ | ⟨rfl, hlo⟩ | ⟨rfl, hhi⟩
  · -- same turn: neither test fires
    rw [if_neg (not_lt.mpr hhi.le), if_neg (not_lt.mpr hlo.le)]
  · -- one turn more: only the second test fires
    have hrise : ¬ s / 2 < w' - w := by
      apply not_lt.mpr
      linarith
    rw [if_neg hrise, if_pos hlo]
    push_cast
    ring
  · -- one turn less: the first test fires
    rw [if_pos hhi]
    push_cast
    ring

/-- The offset that `update` computes is the turns of the new position less those of the first
sample, in spans. -/
theorem Tracks.next_offset_eq (hs : 0 < s) (h : Tracks s first self r) (hr : r.Accurate s e)
    (hr' : r'.Accurate s e) (hmove : |r'.actual - r.actual| < s / 2 - 2 * e) :
    self.next_offset r'.reported = ((turns s r'.actual - first : ℤ) : K) * s :=
  next_offset_of_turns hs h.span h.last h.offset (FixedPoint.remainder_abs_le r.actual hs)
    (FixedPoint.remainder_abs_le r'.actual hs) hr hr' hmove

/-- **The step**: motion below half a span, less the error of two samples. -/
theorem update_tracks (hs : 0 < s) (h : Tracks s first self r) (hr : r.Accurate s e)
    (hr' : r'.Accurate s e) (hmove : |r'.actual - r.actual| < s / 2 - 2 * e) :
    Tracks s first (self.update r'.reported).2 r' where
  span := h.span
  last := rfl
  offset := h.next_offset_eq hs hr hr' hmove

/-- The outputs for the samples after one that is tracked, by induction on the samples. -/
theorem feed_tracks_from (hs : 0 < s) {readings : List (Reading K)} (h : Tracks s first self r)
    (haccurate : ∀ r' ∈ r :: readings, r'.Accurate s e)
    (hmove : (r :: readings).IsChain fun r r' => |r'.actual - r.actual| < s / 2 - 2 * e) :
    List.Forall₂ (fun output r => |output - (r.actual + s * ((-first : ℤ) : K))| ≤ e)
      (self.feed (readings.map Reading.reported)) readings := by
  induction readings generalizing self r with
  | nil => exact .nil
  | cons r' readings ih =>
    obtain ⟨hstep, hrest⟩ := List.isChain_cons_cons.mp hmove
    have hr := haccurate r List.mem_cons_self
    have hr' := haccurate r' (List.mem_cons_of_mem _ List.mem_cons_self)
    have hnext := update_tracks hs h hr hr' hstep
    refine .cons (hnext.output_error hr') (ih hnext ?_ hrest)
    exact fun q hq => haccurate q (List.mem_cons_of_mem _ hq)

/-- **The run**: every output is within `e` of the continuous position, moved by a
whole number of turns that the first sample fixes. -/
theorem feed_tracks (hs : 0 < s) {readings : List (Reading K)}
    (haccurate : ∀ r ∈ readings, r.Accurate s e)
    (hmove : readings.IsChain fun r r' => |r'.actual - r.actual| < s / 2 - 2 * e) :
    ∃ k : ℤ, (∀ r ∈ readings.head?, k = -turns s r.actual) ∧
      List.Forall₂ (fun output r => |output - (r.actual + s * (k : K))| ≤ e)
        ((of_span s).feed (readings.map Reading.reported)) readings := by
  cases readings with
  | nil =>
    refine ⟨0, fun r hr => ?_, .nil⟩
    cases hr
  | cons r readings =>
    -- the first sample fixes the turns the track is off by
    have hfirst := update_first s r
    refine ⟨-turns s r.actual, fun r' hr' => ?_, ?_⟩
    · obtain rfl := Option.some.inj hr'
      rfl
    · exact .cons (hfirst.output_error (haccurate r List.mem_cons_self))
        (feed_tracks_from hs hfirst haccurate hmove)

end PositionUnwrapper

end Robstride
