/-
A whole life of a `PositionUnwrapper`: `update` and `reset` in any order.

Two laws hold over every such life. With a bound on the motion between two
samples, what comes out is the true motion with the error of its own sample and
no other (`unwrapped_exactly`): the accumulated offset is the turns hidden in the
last sample less those hidden in the first one after the reset. With no bound at
all, the output is still the sample up to whole spans, moves by at most half a
span at a time, and does not prefer a direction (`unwrapped_continuous`).

The turns of a sample are whatever the sender took off the position. Where the
position is an odd number of half spans there are two ways to take them off, and
both are allowed from one sample to the next.
-/
import RobstrideDriver.PositionUnwrapper

set_option autoImplicit false

open CppArith

namespace Robstride

namespace PositionUnwrapper

/-! ## Calls -/

section Code

variable {D : Type*}

inductive Call (D : Type*) where
  | update (wrapped : D)
  | reset
deriving DecidableEq, Repr

/-- What a call shows: its result, if it has one, and `position()` after it. -/
structure Shown (D : Type*) where
  returned : Option D
  position : Option D
deriving DecidableEq, Repr

variable [Add D] [Sub D] [Mul D] [Div D] [Neg D] [NatCast D] [LT D] [DecidableLT D]

def Call.returned (self : PositionUnwrapper D) : Call D → Option D
  | .update wrapped => some (self.update wrapped).1
  | .reset => none

def Call.after (self : PositionUnwrapper D) : Call D → PositionUnwrapper D
  | .update wrapped => (self.update wrapped).2
  | .reset => self.reset

/-- What a sequence of calls shows. -/
def shown : PositionUnwrapper D → List (Call D) → List (Shown D)
  | _, [] => []
  | self, c :: cs => ⟨c.returned self, (c.after self).position⟩ :: shown (c.after self) cs

/-- The unwrapper a sequence of calls leaves. -/
def left (self : PositionUnwrapper D) (cs : List (Call D)) : PositionUnwrapper D :=
  cs.foldl Call.after self

omit [Mul D] in
theorem shown_append (self : PositionUnwrapper D) (cs cs' : List (Call D)) :
    self.shown (cs ++ cs') = self.shown cs ++ (self.left cs).shown cs' := by
  induction cs generalizing self with
  | nil => rfl
  | cons c cs ih =>
    rw [List.cons_append, shown, shown, ih, List.cons_append]
    rfl

omit [Mul D] in
/-- No call changes the span, which only the constructor sets. -/
theorem left_span (self : PositionUnwrapper D) (cs : List (Call D)) :
    (self.left cs).span_ = self.span_ := by
  induction cs generalizing self with
  | nil => rfl
  | cons c cs ih =>
    have hstep : (c.after self).span_ = self.span_ := by
      cases c <;> rfl
    rw [← hstep]
    exact ih (c.after self)

end Code

variable {K : Type*} [Field K] [LinearOrder K]

/-! ## Samples of a bounded motion -/

/-- A reading whose sender took so many turns off the position. -/
structure Sample (K : Type*) extends Reading K where
  turns : ℤ

/-- Taking the turns off brings the position into the range, either end allowed, and
the report is within `e` of what is left. -/
structure Sample.Within (s e : K) (r : Sample K) : Prop where
  wrapped : |r.actual - r.turns * s| ≤ s / 2
  error : |r.reported - (r.actual - r.turns * s)| ≤ e

/-- The true position, moved by the turns of the first sample, with the error of this
sample. -/
def Sample.unwrapped (s : K) (first : ℤ) (r : Sample K) : K :=
  r.actual - first * s + (r.reported - (r.actual - r.turns * s))

/-- The turns taken off the first sample of a stretch. -/
def first_turns (stretch : List (Sample K)) : ℤ := (stretch.head?.map Sample.turns).getD 0

def updates (stretch : List (Sample K)) : List (Call K) :=
  stretch.map fun r => .update r.reported

/-- Stretches of samples, with a `reset` between one and the next. -/
def restarted (stretches : List (List (Sample K))) : List (Call K) :=
  [Call.reset].intercalate (stretches.map updates)

/-- What the samples of a stretch ought to show. -/
def recovered (s : K) (stretch : List (Sample K)) : List (Shown K) :=
  stretch.map fun r =>
    ⟨some (r.unwrapped s (first_turns stretch)), some (r.unwrapped s (first_turns stretch))⟩

/-- An unwrapper that is new or has just been reset. -/
def Restarted (s : K) (self : PositionUnwrapper K) : Prop :=
  self = of_span s ∨ ∃ used : PositionUnwrapper K, used.span_ = s ∧ self = used.reset

omit [LinearOrder K] in
theorem Restarted.eq {s : K} {self : PositionUnwrapper K} (h : Restarted s self) :
    self = of_span s := by
  rcases h with rfl | ⟨used, rfl, rfl⟩
  · rfl
  · exact reset_eq used

/-- The invariant after a sample: the offset is the turns of that sample, less those of
the first one. -/
structure Follows (s : K) (first : ℤ) (unwrapper : PositionUnwrapper K) (r : Sample K) :
    Prop where
  span : unwrapper.span_ = s
  last : unwrapper.last_wrapped_ = some r.reported
  offset : unwrapper.offset_ = ((r.turns - first : ℤ) : K) * s

section Follows

variable [IsStrictOrderedRing K] {s e : K} {first : ℤ} {self : PositionUnwrapper K}
  {r r' : Sample K}

omit [LinearOrder K] [IsStrictOrderedRing K] in
/-- What `update` returns, once its offset is the turns since the first sample. -/
theorem unwrapped_eq (hoffset : self.offset_ = ((r.turns - first : ℤ) : K) * s) :
    r.reported + self.offset_ = r.unwrapped s first := by
  rw [hoffset, Sample.unwrapped]
  push_cast
  ring

omit [IsStrictOrderedRing K] in
/-- The first sample after a restart passes through, as there is none to compare it with. -/
theorem update_restarted (s : K) (r : Sample K) :
    Follows s r.turns ((of_span s).update r.reported).2 r where
  span := rfl
  last := rfl
  offset := by
    simp only [update, next_offset, of_span, sub_self, Int.cast_zero, zero_mul, Nat.cast_zero]

/-- **The step**: an `update` keeps the invariant, where the motion from the sample before is below
half a span less the error of the two. -/
theorem Follows.update (hs : 0 < s) (h : Follows s first self r) (hr : r.Within s e)
    (hr' : r'.Within s e) (hmove : |r'.actual - r.actual| < s / 2 - 2 * e) :
    Follows s first (self.update r'.reported).2 r' where
  span := h.span
  last := rfl
  offset := next_offset_of_turns hs h.span h.last h.offset hr.wrapped hr'.wrapped hr.error
    hr'.error hmove

omit [IsStrictOrderedRing K] in
/-- What an `update` that keeps the invariant shows is the position, moved by the first sample's
turns. -/
theorem Follows.shows (h : Follows s first (self.update r.reported).2 r) :
    (⟨(Call.update r.reported).returned self,
        ((Call.update r.reported).after self).position⟩ : Shown K)
      = ⟨some (r.unwrapped s first), some (r.unwrapped s first)⟩ := by
  have hout : (self.update r.reported).1 = r.unwrapped s first := unwrapped_eq h.offset
  rw [Call.returned, Call.after, position_update, hout]

/-- The samples after one that is followed, by induction on them. -/
theorem Follows.shown (hs : 0 < s) {stretch : List (Sample K)} (h : Follows s first self r)
    (hwithin : ∀ r' ∈ r :: stretch, r'.Within s e)
    (hmove : (r :: stretch).IsChain fun r r' => |r'.actual - r.actual| < s / 2 - 2 * e) :
    self.shown (updates stretch)
      = stretch.map fun r => ⟨some (r.unwrapped s first), some (r.unwrapped s first)⟩ := by
  induction stretch generalizing self r with
  | nil => rfl
  | cons r' stretch ih =>
    obtain ⟨hstep, hrest⟩ := List.isChain_cons_cons.mp hmove
    have hr := hwithin r List.mem_cons_self
    have hr' := hwithin r' (List.mem_cons_of_mem _ List.mem_cons_self)
    have hnext := h.update hs hr hr' hstep
    rw [updates, List.map_cons, PositionUnwrapper.shown, List.map_cons, hnext.shows]
    exact congrArg _ (ih hnext (fun q hq => hwithin q (List.mem_cons_of_mem _ hq)) hrest)

/-- One stretch on a new unwrapper, whose first sample fixes the turns. -/
theorem shown_stretch (hs : 0 < s) {stretch : List (Sample K)}
    (hwithin : ∀ r ∈ stretch, r.Within s e)
    (hmove : stretch.IsChain fun r r' => |r'.actual - r.actual| < s / 2 - 2 * e) :
    (of_span s).shown (updates stretch) = recovered s stretch := by
  cases stretch with
  | nil => rfl
  | cons r stretch =>
    -- the first sample fixes the turns the track is off by
    have hfirst := update_restarted s r
    rw [updates, List.map_cons, PositionUnwrapper.shown, hfirst.shows]
    exact congrArg _ (hfirst.shown hs hwithin hmove)

end Follows

/-! ## Recovering a bounded motion -/

section Exact

variable [IsStrictOrderedRing K] {s e : K}

/-- Stretches with resets between them, on an unwrapper of the span. -/
theorem shown_restarted (hs : 0 < s) {stretches : List (List (Sample K))}
    (hwithin : ∀ stretch ∈ stretches, ∀ r ∈ stretch, r.Within s e)
    (hmove : ∀ stretch ∈ stretches,
      stretch.IsChain fun r r' => |r'.actual - r.actual| < s / 2 - 2 * e) :
    (of_span s).shown (restarted stretches)
      = [⟨none, none⟩].intercalate (stretches.map (recovered s)) := by
  rw [restarted]
  induction stretches with
  | nil => rfl
  | cons stretch rest ih =>
    have hfirst := shown_stretch hs (hwithin stretch List.mem_cons_self)
      (hmove stretch List.mem_cons_self)
    have hothers := ih (fun t ht => hwithin t (List.mem_cons_of_mem _ ht))
      fun t ht => hmove t (List.mem_cons_of_mem _ ht)
    cases rest with
    | nil => simpa using hfirst
    | cons next rest =>
      simp only [List.map_cons, List.intercalate_cons_cons] at hothers ⊢
      have hspan := left_span (of_span s) (updates stretch)
      -- the reset after the first stretch leaves a new unwrapper
      have hreset : Call.reset.after ((of_span s).left (updates stretch)) = of_span s := by
        rw [Call.after, reset_eq, hspan]
        rfl
      rw [List.append_assoc, List.singleton_append, shown_append, hfirst, shown, hreset, hothers]
      simp [Call.returned, position, of_span]

/-- **Unwrapping recovers a bounded motion exactly.** Whatever turns were taken off the
samples, each output is its position, moved by the turns of the first sample since the
reset, with the error of that one sample; `position()` repeats it; and the error stays
within `e`. -/
theorem unwrapped_exactly (hs : 0 < s) {self : PositionUnwrapper K}
    (hself : Restarted s self) {stretches : List (List (Sample K))}
    (hwithin : ∀ stretch ∈ stretches, ∀ r ∈ stretch, r.Within s e)
    (hmove : ∀ stretch ∈ stretches,
      stretch.IsChain fun r r' => |r'.actual - r.actual| < s / 2 - 2 * e) :
    self.shown (restarted stretches)
        = [⟨none, none⟩].intercalate (stretches.map (recovered s)) ∧
      ∀ stretch ∈ stretches, ∀ r ∈ stretch,
        |r.unwrapped s (first_turns stretch) - (r.actual - first_turns stretch * s)| ≤ e := by
  constructor
  · rw [hself.eq]
    exact shown_restarted hs hwithin hmove
  · intro stretch hstretch r hr
    have herror := (hwithin stretch hstretch r hr).error
    rw [Sample.unwrapped, add_sub_cancel_left]
    exact herror

end Exact

/-- A position at the end of the range, reported from both ends. -/
theorem unwrapped_exactly_at_end :
    (of_span (8 : ℚ)).shown
          (restarted [[⟨⟨3, 7 / 2⟩, 0⟩, ⟨⟨4, 4⟩, 0⟩, ⟨⟨-4, 4⟩, 1⟩], [⟨⟨1, 9⟩, 1⟩]])
        = [⟨none, none⟩].intercalate
            ([[⟨⟨3, 7 / 2⟩, 0⟩, ⟨⟨4, 4⟩, 0⟩, ⟨⟨-4, 4⟩, 1⟩], [⟨⟨1, 9⟩, 1⟩]].map (recovered 8)) ∧
      ∀ stretch ∈ [[(⟨⟨3, 7 / 2⟩, 0⟩ : Sample ℚ), ⟨⟨4, 4⟩, 0⟩, ⟨⟨-4, 4⟩, 1⟩], [⟨⟨1, 9⟩, 1⟩]],
        ∀ r ∈ stretch,
          |r.unwrapped 8 (first_turns stretch) - (r.actual - first_turns stretch * 8)| ≤ 1 / 2 := by
  refine unwrapped_exactly (by norm_num) (.inl rfl) ?_ ?_
  · simp only [List.forall_mem_cons]
    refine ⟨⟨⟨?_, ?_⟩, ⟨?_, ?_⟩, ⟨?_, ?_⟩, by simp⟩, ⟨⟨?_, ?_⟩, by simp⟩, by simp⟩ <;>
      norm_num [abs_le]
  · simp only [List.forall_mem_cons]
    refine ⟨?_, ?_, by simp⟩ <;> norm_num [abs_lt]

/-! ## Any samples at all -/

section Continuous

variable [IsStrictOrderedRing K] {s : K} {self : PositionUnwrapper K}

/-- The samples of the calls lie in the range. -/
def InRange (s : K) (cs : List (Call K)) : Prop :=
  ∀ w, Call.update w ∈ cs → |w| ≤ s / 2

/-- A `reset` returns nothing, an `update` its sample up to whole spans. -/
def Call.Congruent (s : K) (c : Call K) (o : Shown K) : Prop :=
  match c with
  | .update w => ∃ x, o.returned = some x ∧ ∃ n : ℤ, x - w = n * s
  | .reset => o.returned = none

/-- Two updates in a row return values at most half a span apart. -/
def Shown.Near (s : K) (o o' : Shown K) : Prop :=
  ∀ x ∈ o.returned, ∀ y ∈ o'.returned, |y - x| ≤ s / 2

/-- The invariant: the offset is a whole number of spans, and the last sample was in
the range. -/
structure Wrapped (s : K) (unwrapper : PositionUnwrapper K) : Prop where
  span : unwrapper.span_ = s
  offset : ∃ n : ℤ, unwrapper.offset_ = n * s
  last : ∀ v ∈ unwrapper.last_wrapped_, |v| ≤ s / 2

omit [LinearOrder K] [IsStrictOrderedRing K] in
theorem of_span_offset (s : K) : ∃ n : ℤ, (of_span s).offset_ = n * s :=
  ⟨0, by simp [of_span]⟩

omit [IsStrictOrderedRing K] in
theorem Wrapped.of_span (s : K) : Wrapped s (of_span s) where
  span := rfl
  offset := of_span_offset s
  last := by simp [PositionUnwrapper.of_span]

omit [IsStrictOrderedRing K] in
/-- The two tests, on the difference from the sample before, for an unwrapper of a given span. -/
theorem next_offset_eq {v : K} (hspan : self.span_ = s) (hlast : self.last_wrapped_ = some v)
    (w : K) :
    self.next_offset w = if s / 2 < w - v then self.offset_ - s
      else if w - v < -(s / 2) then self.offset_ + s else self.offset_ := by
  have hhalf : self.span_ / ((2 : ℕ) : K) = s / 2 := by rw [hspan, Nat.cast_ofNat]
  have hhalf' : -self.span_ / ((2 : ℕ) : K) = -(s / 2) := by
    rw [hspan, Nat.cast_ofNat, neg_div]
  unfold next_offset
  rw [hlast]
  dsimp only
  rw [hhalf, hhalf', hspan]

/-- The three outcomes: a span down, a span up, or nothing where the samples are at most half a span
apart. -/
theorem next_offset_cases {v : K} (hspan : self.span_ = s) (hlast : self.last_wrapped_ = some v)
    (w : K) :
    (s / 2 < w - v ∧ self.next_offset w = self.offset_ - s) ∨
      (w - v < -(s / 2) ∧ self.next_offset w = self.offset_ + s) ∨
      (|w - v| ≤ s / 2 ∧ self.next_offset w = self.offset_) := by
  rw [next_offset_eq hspan hlast w]
  by_cases hhi : s / 2 < w - v
  · exact .inl ⟨hhi, if_pos hhi⟩
  · by_cases hlo : w - v < -(s / 2)
    · rw [if_neg hhi, if_pos hlo]
      exact .inr (.inl ⟨hlo, rfl⟩)
    · rw [if_neg hhi, if_neg hlo]
      exact .inr (.inr ⟨abs_le.mpr ⟨not_lt.mp hlo, not_lt.mp hhi⟩, rfl⟩)

/-- The offset stays a whole number of spans. -/
theorem Wrapped.next_offset (h : Wrapped s self) (w : K) :
    ∃ n : ℤ, self.next_offset w = n * s := by
  obtain ⟨n, hn⟩ := h.offset
  cases hlast : self.last_wrapped_ with
  | none =>
    refine ⟨n, ?_⟩
    rw [PositionUnwrapper.next_offset, hlast, hn]
  | some v =>
    rcases next_offset_cases h.span hlast w with ⟨-, hw⟩ | ⟨-, hw⟩ | ⟨-, hw⟩
    · refine ⟨n - 1, ?_⟩
      rw [hw, hn]
      push_cast
      ring
    · refine ⟨n + 1, ?_⟩
      rw [hw, hn]
      push_cast
      ring
    · exact ⟨n, hw.trans hn⟩

/-- **The step**: the output moves by at most half a span, as a jump of more than that
is taken for a wrap, and no jump is longer than a span. -/
theorem Wrapped.near (h : Wrapped s self) {v w : K} (hlast : self.last_wrapped_ = some v)
    (hw : |w| ≤ s / 2) : |w + self.next_offset w - (v + self.offset_)| ≤ s / 2 := by
  obtain ⟨hv₁, hv₂⟩ := abs_le.mp (h.last v (by rw [hlast]; rfl))
  obtain ⟨hw₁, hw₂⟩ := abs_le.mp hw
  rcases next_offset_cases h.span hlast w with ⟨hd, hn⟩ | ⟨hd, hn⟩ | ⟨hd, hn⟩
  · rw [hn, abs_le]
    constructor <;> linarith
  · rw [hn, abs_le]
    constructor <;> linarith
  · rw [hn, add_sub_add_right_eq_sub]
    exact hd

theorem Wrapped.after (h : Wrapped s self) {c : Call K} (hc : ∀ w, c = .update w → |w| ≤ s / 2) :
    Wrapped s (c.after self) := by
  cases c with
  | update w =>
    refine ⟨h.span, h.next_offset w, ?_⟩
    intro v hv
    obtain rfl := Option.some.inj hv
    exact hc w rfl
  | reset =>
    rw [Call.after, reset_eq, h.span]
    exact Wrapped.of_span s

theorem Wrapped.congruent (h : Wrapped s self) (c : Call K) :
    c.Congruent s ⟨c.returned self, (c.after self).position⟩ := by
  cases c with
  | update w =>
    obtain ⟨n, hn⟩ := h.next_offset w
    refine ⟨w + self.next_offset w, rfl, n, ?_⟩
    rw [add_sub_cancel_left, hn]
  | reset => rfl

/-- Every output, over a whole life, is its sample up to whole spans. -/
theorem Wrapped.shown_congruent {cs : List (Call K)} (h : Wrapped s self) (hcs : InRange s cs) :
    List.Forall₂ (Call.Congruent s) cs (self.shown cs) := by
  induction cs generalizing self with
  | nil => exact .nil
  | cons c cs ih =>
    have hstep : Wrapped s (c.after self) := h.after fun w hw => hcs w (by simp [hw])
    exact .cons (h.congruent c) (ih hstep fun w hw => hcs w (List.mem_cons_of_mem c hw))

/-- A call that follows another: the two outputs are near, unless there was a reset in between. -/
theorem Wrapped.near_next (h : Wrapped s self) {c c' : Call K}
    (hc : ∀ w, c = .update w → |w| ≤ s / 2) (hc' : ∀ w, c' = .update w → |w| ≤ s / 2)
    (o o' : Option K) :
    Shown.Near s ⟨c.returned self, o⟩ ⟨c'.returned (c.after self), o'⟩ := by
  intro x hx y hy
  cases c with
  | reset => cases hx
  | update v =>
    cases c' with
    | reset => cases hy
    | update w =>
      obtain rfl := Option.some.inj hx
      obtain rfl := Option.some.inj hy
      exact (h.after hc).near rfl (hc' w rfl)

/-- Every two outputs in a row, over a whole life, by induction on the calls. -/
theorem Wrapped.shown_near {cs : List (Call K)} (h : Wrapped s self) (hcs : InRange s cs) :
    (self.shown cs).IsChain (Shown.Near s) := by
  induction cs generalizing self with
  | nil => exact .nil
  | cons c cs ih =>
    have hc : ∀ w, c = .update w → |w| ≤ s / 2 := fun w hw => hcs w (by simp [hw])
    have hrest := ih (h.after hc) fun w hw => hcs w (List.mem_cons_of_mem c hw)
    cases cs with
    | nil => exact .singleton _
    | cons c' cs =>
      refine List.isChain_cons_cons.mpr ⟨h.near_next hc (fun w hw => hcs w ?_) _ _, hrest⟩
      simp [hw]

end Continuous

/-! ## Mirroring -/

section Mirror

variable [IsStrictOrderedRing K] {s : K}

/-- The call with the negated sample. -/
def Call.mirror : Call K → Call K
  | .update w => .update (-w)
  | .reset => .reset

def Shown.mirror (o : Shown K) : Shown K :=
  ⟨o.returned.map Neg.neg, o.position.map Neg.neg⟩

/-- The unwrapper of the negated motion. -/
def mirror (self : PositionUnwrapper K) : PositionUnwrapper K :=
  { self with offset_ := -self.offset_, last_wrapped_ := self.last_wrapped_.map Neg.neg }

/-- The two tests trade places, and what was a span up is one down. -/
theorem next_offset_mirror {self : PositionUnwrapper K} (hs : 0 < self.span_) (w : K) :
    self.mirror.next_offset (-w) = -self.next_offset w := by
  cases hlast : self.last_wrapped_ with
  | none => simp [next_offset, mirror, hlast]
  | some v =>
    have hlast' : self.mirror.last_wrapped_ = some (-v) := by simp [mirror, hlast]
    have hspan : self.mirror.span_ = self.span_ := rfl
    have hoffset : self.mirror.offset_ = -self.offset_ := rfl
    have hup : self.span_ / 2 < -w - -v ↔ w - v < -(self.span_ / 2) := by
      constructor <;> intro h <;> linarith
    have hdown : -w - -v < -(self.span_ / 2) ↔ self.span_ / 2 < w - v := by
      constructor <;> intro h <;> linarith
    rw [next_offset_eq hspan hlast', next_offset_eq rfl hlast, hoffset]
    simp only [hup, hdown]
    by_cases hlo : w - v < -(self.span_ / 2)
    · -- not both, the span being positive
      have hhi : ¬ self.span_ / 2 < w - v := by
        apply not_lt.mpr
        linarith
      rw [if_pos hlo, if_neg hhi, if_pos hlo]
      ring
    · rw [if_neg hlo, if_neg hlo]
      split_ifs
      · ring
      · rfl

theorem update_mirror {self : PositionUnwrapper K} (hs : 0 < self.span_) (w : K) :
    self.mirror.update (-w) = (-(self.update w).1, (self.update w).2.mirror) := by
  rw [update, update, next_offset_mirror hs w, neg_add]
  rfl

omit [LinearOrder K] [IsStrictOrderedRing K] in
theorem reset_mirror (self : PositionUnwrapper K) : self.mirror.reset = self.reset.mirror := by
  simp [reset, mirror]

omit [LinearOrder K] [IsStrictOrderedRing K] in
theorem position_mirror (self : PositionUnwrapper K) :
    self.mirror.position = self.position.map Neg.neg := by
  cases hlast : self.last_wrapped_ with
  | none => simp [position, mirror, hlast]
  | some v =>
    simp only [position, mirror, hlast, Option.map_some, Option.some.injEq]
    ring

theorem Call.after_mirror {self : PositionUnwrapper K} (hs : 0 < self.span_) (c : Call K) :
    c.mirror.after self.mirror = (c.after self).mirror := by
  cases c with
  | update w => exact congrArg Prod.snd (update_mirror hs w)
  | reset => exact reset_mirror self

theorem Call.returned_mirror {self : PositionUnwrapper K} (hs : 0 < self.span_) (c : Call K) :
    c.mirror.returned self.mirror = (c.returned self).map Neg.neg := by
  cases c with
  | update w => exact congrArg (fun r => some r.1) (update_mirror hs w)
  | reset => rfl

/-- A mirrored life shows the mirror image of what the life shows, call by call. -/
theorem shown_mirror {self : PositionUnwrapper K} (hs : 0 < self.span_) (cs : List (Call K)) :
    self.mirror.shown (cs.map Call.mirror) = (self.shown cs).map Shown.mirror := by
  induction cs generalizing self with
  | nil => rfl
  | cons c cs ih =>
    have hspan : (c.after self).span_ = self.span_ := left_span self [c]
    rw [List.map_cons, shown, shown, List.map_cons, c.returned_mirror hs, c.after_mirror hs,
      position_mirror, ih (by rw [hspan]; exact hs), Shown.mirror]

/-- **Unwrapping any samples in the range.** Each output is its sample up to whole
spans, two in a row are at most half a span apart, and negating the samples negates the
outputs. -/
theorem unwrapped_continuous {s : K} (hs : 0 < s) {cs : List (Call K)} (hcs : InRange s cs) :
    List.Forall₂ (Call.Congruent s) cs ((of_span s).shown cs) ∧
      ((of_span s).shown cs).IsChain (Shown.Near s) ∧
      (of_span s).shown (cs.map Call.mirror) = ((of_span s).shown cs).map Shown.mirror := by
  have hnew := Wrapped.of_span s
  have hmirror : (of_span s).mirror = of_span s := by simp [of_span, mirror]
  refine ⟨hnew.shown_congruent hcs, hnew.shown_near hcs, ?_⟩
  rw [← shown_mirror hs, hmirror]

/-- A jump of a whole span, one of half a span, and a reset. -/
theorem unwrapped_continuous_jumps :
    let cs : List (Call ℚ) := [.update (-4), .update 4, .update 0, .reset, .update 3]
    List.Forall₂ (Call.Congruent 8) cs ((of_span 8).shown cs) ∧
      ((of_span 8).shown cs).IsChain (Shown.Near 8) ∧
      (of_span 8).shown (cs.map Call.mirror) = ((of_span 8).shown cs).map Shown.mirror := by
  refine unwrapped_continuous (by norm_num) fun w hw => ?_
  simp only [List.mem_cons, Call.update.injEq, List.not_mem_nil, or_false, reduceCtorEq,
    false_or] at hw
  rcases hw with rfl | rfl | rfl | rfl <;> norm_num [abs_le]

end Mirror

end PositionUnwrapper

end Robstride
