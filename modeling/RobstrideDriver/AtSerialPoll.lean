/-
`FrameParser::poll` as a search: which position of the buffer decides a call, and
how much of the buffer outlives it.

The loop erases one byte at a time from the front, so the only question is where
it stops. It stops at the first position that holds a packet, that may come to
hold one, or that is too near the end to tell (`Stops`). Only the first of the
three returns a frame. The other two leave what can still become a packet, and a
packet is seventeen bytes at most, so a parser polled until `nullopt` holds sixteen
bytes however long the stream (`poll_leftmost`).
-/
import RobstrideDriver.AtSerial

set_option autoImplicit false

namespace Robstride

namespace at_serial

/-! ## Positions -/

/-- The length byte of a packet at position `i`. -/
def dlc_at (b : List UInt8) (i : ℕ) : ℕ := (byte b (i + 6)).toNat

/-- The header bytes of a packet stand at position `i`. -/
def HeaderAt (b : List UInt8) (i : ℕ) : Prop :=
  byte b i = 0x41 ∧ byte b (i + 1) = 0x54 ∧ dlc_at b i ≤ 8

/-- A whole packet stands at position `i`. -/
def Complete (b : List UInt8) (i : ℕ) : Prop :=
  HeaderAt b i ∧ i + 9 + dlc_at b i ≤ b.length ∧
    byte b (i + 7 + dlc_at b i) = 0x0D ∧ byte b (i + 8 + dlc_at b i) = 0x0A

/-- A header stands at position `i`, and the buffer ends inside the packet it claims. -/
def Pending (b : List UInt8) (i : ℕ) : Prop :=
  HeaderAt b i ∧ i + 9 ≤ b.length ∧ b.length < i + 9 + dlc_at b i

/-- Where the loop of `poll` comes to an end. -/
def Stops (b : List UInt8) (i : ℕ) : Prop :=
  Complete b i ∨ Pending b i ∨ b.length < i + 9

instance (b : List UInt8) (i : ℕ) : Decidable (HeaderAt b i) :=
  inferInstanceAs (Decidable (_ ∧ _ ∧ _))

instance (b : List UInt8) (i : ℕ) : Decidable (Complete b i) :=
  inferInstanceAs (Decidable (_ ∧ _ ∧ _ ∧ _))

instance (b : List UInt8) (i : ℕ) : Decidable (Pending b i) :=
  inferInstanceAs (Decidable (_ ∧ _ ∧ _))

instance (b : List UInt8) : DecidablePred (Stops b) :=
  fun i => inferInstanceAs (Decidable (Complete b i ∨ Pending b i ∨ b.length < i + 9))

/-- The frame of a packet at position `i`. -/
def frame_at (b : List UInt8) (i : ℕ) : CanFrame where
  id := (((byte b (i + 2)).toUInt32 <<< 24 ||| (byte b (i + 3)).toUInt32 <<< 16 |||
    (byte b (i + 4)).toUInt32 <<< 8 ||| (byte b (i + 5)).toUInt32) >>> 3) &&& 0x1FFFFFFF
  data := Vector.ofFn fun k => if k.val < dlc_at b i then byte b (i + 7 + k) else 0
  dlc := byte b (i + 6)

/-! ## One pass of the loop, at any position -/

/-- A byte of the rest of a buffer is a byte of the buffer. -/
theorem byte_drop (b : List UInt8) (i k : ℕ) : byte (b.drop i) k = byte b (i + k) := by
  simp [byte, List.getD_eq_getElem?_getD, List.getElem?_drop]

/-- The size that a packet at position `i` would claim, in the terms of the whole buffer. -/
theorem total_drop (b : List UInt8) (i : ℕ) : total (b.drop i) = dlc_at b i + 9 := by
  rw [total, byte_drop, dlc_at, header_size, tail_size]
  omega

/-- The frame at position `i`, in the terms of the whole buffer. -/
theorem read_frame_drop (b : List UInt8) (i : ℕ) : read_frame (b.drop i) = frame_at b i := by
  simp only [read_frame, read_packed, byte_drop, frame_at, dlc_at, header_size, Nat.add_assoc]

section Position

variable {b : List UInt8} {i : ℕ}

/-- The tests of one pass, in the terms of the whole buffer. -/
theorem examine_drop (hlen : i + 9 ≤ b.length) :
    examine (b.drop i)
      = if ¬ HeaderAt b i then .skip
        else if b.length < i + 9 + dlc_at b i then .wait
        else if byte b (i + 7 + dlc_at b i) ≠ 0x0D ∨ byte b (i + 8 + dlc_at b i) ≠ 0x0A then .skip
        else .emit (frame_at b i) (dlc_at b i + 8) := by
  have hlong : 9 ≤ (b.drop i).length := by
    rw [List.length_drop]
    omega
  have hshort : (b.drop i).length < dlc_at b i + 9 ↔ b.length < i + 9 + dlc_at b i := by
    rw [List.length_drop]
    omega
  have hdlc : byte b (i + 6) > 8 ↔ ¬ dlc_at b i ≤ 8 := UInt8.not_le.symm
  rw [examine, if_neg (not_short hlong)]
  simp only [total_drop, hshort, read_frame_drop, byte_drop, hdlc, Nat.add_zero,
    show i + (dlc_at b i + 9 - 2) = i + 7 + dlc_at b i by omega,
    show dlc_at b i + 9 - 1 = dlc_at b i + 8 by omega,
    show i + (dlc_at b i + 8) = i + 8 + dlc_at b i by omega]
  by_cases hat : byte b i ≠ 0x41 ∨ byte b (i + 1) ≠ 0x54
  · rw [if_pos hat, if_pos]
    rintro ⟨h0, h1, -⟩
    simp [h0, h1] at hat
  · rw [not_or, not_not, not_not] at hat
    by_cases hd : dlc_at b i ≤ 8
    · simp [HeaderAt, hat, hd]
    · simp [HeaderAt, hat, hd]

/-- At a complete packet the pass returns its frame. -/
theorem examine_complete (h : Complete b i) :
    examine (b.drop i) = .emit (frame_at b i) (dlc_at b i + 8) := by
  obtain ⟨hheader, hthere, hcr, hlf⟩ := h
  rw [examine_drop (by omega)]
  simp [hheader, hcr, hlf, Nat.not_lt.mpr hthere]

/-- At the beginning of a packet that is not all there the pass waits. -/
theorem examine_pending (h : Pending b i) : examine (b.drop i) = .wait := by
  obtain ⟨hheader, hlen, hshort⟩ := h
  rw [examine_drop hlen]
  simp [hheader, hshort]

/-- Where the loop does not stop it erases a byte and looks at the next position. -/
theorem examine_of_not_stops (h : ¬ Stops b i) : examine (b.drop i) = .skip := by
  rw [Stops, not_or, not_or, Nat.not_lt] at h
  obtain ⟨hcomplete, hpending, hlen⟩ := h
  rw [examine_drop hlen]
  by_cases hheader : HeaderAt b i
  · have hthere : ¬ b.length < i + 9 + dlc_at b i := fun hshort =>
      hpending ⟨hheader, hlen, hshort⟩
    -- with the tail as well the packet would be complete
    have htail : byte b (i + 7 + dlc_at b i) ≠ 0x0D ∨ byte b (i + 8 + dlc_at b i) ≠ 0x0A := by
      by_contra hboth
      rw [not_or, not_not, not_not] at hboth
      exact hcomplete ⟨hheader, Nat.not_lt.mp hthere, hboth⟩
    rw [if_neg (not_not.mpr hheader), if_neg hthere, if_pos htail]
  · rw [if_pos hheader]

/-- What is left where the loop gives up is less than a packet, which is seventeen bytes at most. -/
theorem length_drop_of_stops (h : Stops b i) (hcomplete : ¬ Complete b i) :
    (b.drop i).length ≤ 16 := by
  rw [List.length_drop]
  rcases h with h | ⟨⟨-, -, hdlc⟩, -, hshort⟩ | hshort
  · exact absurd h hcomplete
  · omega
  · omega

end Position

/-! ## The whole call -/

/-- There is always a first position to stop at, inside the buffer or at its end. -/
theorem exists_first_stop (b : List UInt8) :
    ∃ i ≤ b.length, Stops b i ∧ ∀ j < i, ¬ Stops b j := by
  have hend : Stops b b.length := .inr (.inr (by omega))
  refine ⟨Nat.find ⟨_, hend⟩, Nat.find_min' _ hend, Nat.find_spec ⟨_, hend⟩, ?_⟩
  intro j hj
  exact Nat.find_min _ hj

section Call

variable {b : List UInt8} {i : ℕ} (hi : i ≤ b.length) (hfirst : ∀ j < i, ¬ Stops b j)
include hi hfirst

/-- Up to the first position where it stops, the loop only erases. -/
theorem poll_first : frame_scanner.poll b = frame_scanner.poll (b.drop i) :=
  Scanner.poll_drop hi fun j hj => examine_of_not_stops (hfirst j hj)

/-- If there is a complete packet there it is returned, and what follows it is left. -/
theorem poll_complete (h : Complete b i) :
    frame_scanner.poll b = (some (frame_at b i), b.drop (i + 9 + dlc_at b i)) := by
  have hlook := examine_complete h
  have hlt := examine_emit_lt _ _ _ hlook
  rw [poll_first hi hfirst]
  cases hd : b.drop i with
  | nil =>
    rw [hd] at hlt
    exact absurd hlt (Nat.not_lt_zero _)
  | cons x xs =>
    rw [hd] at hlook
    have hrest : xs.drop (dlc_at b i + 8) = b.drop (i + 9 + dlc_at b i) := by
      rw [show i + 9 + dlc_at b i = i + (dlc_at b i + 8 + 1) by omega,
        ← List.drop_drop (j := i), hd, List.drop_succ_cons]
    rw [Scanner.poll_emit (S := frame_scanner) hlook, hrest]

/-- If there is none the call returns nothing, and what begins there is left. -/
theorem poll_incomplete (h : Stops b i) (hcomplete : ¬ Complete b i) :
    frame_scanner.poll b = (none, b.drop i) := by
  have hlook : b.drop i ≠ [] → examine (b.drop i) = .wait := by
    intro hne
    rcases h with h | h | h
    · exact absurd h hcomplete
    · exact examine_pending h
    · refine examine_short ?_
      rw [List.length_drop]
      omega
  rw [poll_first hi hfirst]
  cases hd : b.drop i with
  | nil => rfl
  | cons x xs =>
    rw [hd] at hlook
    exact Scanner.poll_wait (S := frame_scanner) (hlook (by simp))

end Call

/-- What one call of `poll` does to a buffer `b`, in terms of the first position it
stops at. -/
structure FrameParser.PollsAt (p : FrameParser) (i : ℕ) : Prop where
  stops : Stops p.buffer_ i
  first : ∀ j < i, ¬ Stops p.buffer_ j
  complete : Complete p.buffer_ i →
    p.poll = (some (frame_at p.buffer_ i), ⟨p.buffer_.drop (i + 9 + dlc_at p.buffer_ i)⟩)
  incomplete : ¬ Complete p.buffer_ i →
    p.poll = (none, ⟨p.buffer_.drop i⟩) ∧ (p.buffer_.drop i).length ≤ 16

/-- Every call is decided at some position. -/
theorem FrameParser.exists_pollsAt (p : FrameParser) : ∃ i, p.PollsAt i := by
  obtain ⟨i, hi, hstops, hfirst⟩ := exists_first_stop p.buffer_
  refine ⟨i, hstops, hfirst, ?_, ?_⟩
  · intro h
    rw [FrameParser.poll, poll_complete hi hfirst h]
  · intro h
    rw [FrameParser.poll, poll_incomplete hi hfirst hstops h]
    exact ⟨rfl, length_drop_of_stops hstops h⟩

/-! ## What outlives the polls -/

/-- A call that returns nothing leaves sixteen bytes at most. -/
theorem FrameParser.poll_none_length {p p' : FrameParser} (h : p.poll = (none, p')) :
    p'.buffer_.length ≤ 16 := by
  obtain ⟨i, hpolls⟩ := p.exists_pollsAt
  by_cases hcomplete : Complete p.buffer_ i
  · have hsome := hpolls.complete hcomplete
    rw [h] at hsome
    cases congrArg Prod.fst hsome
  · obtain ⟨hnone, hlen⟩ := hpolls.incomplete hcomplete
    rw [h] at hnone
    obtain rfl := congrArg Prod.snd hnone
    exact hlen

/-- Polled until it has nothing more, a parser holds sixteen bytes at most. -/
theorem FrameParser.drain_length (p : FrameParser) : p.drain.2.buffer_.length ≤ 16 := by
  induction p using FrameParser.drain.induct with
  | case1 p p' h =>
    rw [FrameParser.drain_none h]
    exact FrameParser.poll_none_length h
  | case2 p f p' h ih =>
    rw [FrameParser.drain_some h]
    exact ih

/-- What a parser that is polled until `nullopt` after each chunk holds in between. -/
def FrameParser.retained : List (List UInt8) → FrameParser → List (List UInt8)
  | [], _ => []
  | chunk :: chunks, p =>
    (p.push chunk).drain.2.buffer_ :: FrameParser.retained chunks (p.push chunk).drain.2

/-- So it does after each chunk of a stream, however long that is: the buffer does not grow. -/
theorem FrameParser.retained_length (chunks : List (List UInt8)) (p : FrameParser) :
    ∀ b ∈ FrameParser.retained chunks p, b.length ≤ 16 := by
  induction chunks generalizing p with
  | nil => simp [FrameParser.retained]
  | cons chunk chunks ih =>
    intro b hb
    rw [FrameParser.retained] at hb
    rcases List.mem_cons.mp hb with rfl | hb
    · exact FrameParser.drain_length _
    · exact ih _ b hb

/-- **`poll` is the leftmost scan.** Every call is decided at the first position that
is complete, pending or within nine bytes of the end: it returns the packet there, or
leaves what begins there. A parser polled until `nullopt` never holds more than sixteen
bytes, whatever the stream and its chunks. -/
theorem poll_leftmost :
    (∀ p : FrameParser, ∃ i, p.PollsAt i) ∧
      ∀ (chunks : List (List UInt8)) (p : FrameParser),
        ∀ b ∈ FrameParser.retained chunks p, b.length ≤ 16 :=
  ⟨FrameParser.exists_pollsAt, FrameParser.retained_length⟩

end at_serial

end Robstride
