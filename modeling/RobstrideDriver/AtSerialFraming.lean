/-
Which bytes `FrameParser` takes for a frame.

The framing is documented as `"AT" | ((id << 3) | 0x4) | dlc | data | "\r\n"` in both
directions, and a stream consists of packets in that format and bytes to be skipped.
So a `poll` that returns a frame should have taken `encode_frame` of it off the
buffer, behind bytes it skipped (`Framed`).

`poll` tests every part of the format but one: it shifts the marking of an extended
data frame out of the identifier unseen. What it takes off is a packet of the format
exactly when it carries the marking (`encode_read_frame`), so the documented framing
holds of a stream exactly when all its packets do (`framed_iff`).
-/
import RobstrideDriver.AtSerial

set_option autoImplicit false

namespace Robstride

namespace at_serial

/-- The packed identifier marks an extended data frame: its low three bits are 100. -/
def Marked (packet : List UInt8) : Prop := read_packed packet &&& 0x7 = 0x4

instance (packet : List UInt8) : Decidable (Marked packet) :=
  inferInstanceAs (Decidable (_ = _))

/-! ## Encoding what was decoded -/

/-- Within the stream a byte is the element of the list. -/
theorem byte_eq_getElem {xs : List UInt8} {i : ℕ} (h : i < xs.length) : byte xs i = xs[i] :=
  List.getD_eq_getElem xs 0 h

/-- Streams of one length that agree byte by byte are the same. -/
theorem list_eq_of_byte {xs ys : List UInt8} (hlen : xs.length = ys.length)
    (h : ∀ i < xs.length, byte xs i = byte ys i) : xs = ys := by
  apply List.ext_getElem hlen
  intro i hx hy
  rw [← byte_eq_getElem hx, ← byte_eq_getElem hy]
  exact h i hx

/-- The identifier of a packet as it is read: four bytes, most significant first. -/
theorem read_packed_toNat (xs : List UInt8) :
    (read_packed xs).toNat = (byte xs 2).toNat * 2 ^ 24 + (byte xs 3).toNat * 2 ^ 16
      + (byte xs 4).toNat * 2 ^ 8 + (byte xs 5).toNat :=
  word32_toNat _ _ _ _

/-- Packing what was unpacked: the shift dropped three bits, and two set to zero and
one to one come back. -/
theorem packed_read_frame (xs : List UInt8) :
    (packed (read_frame xs)).toNat = (read_packed xs).toNat / 8 * 8 + 4 := by
  have hlt := (read_packed xs).toNat_lt
  have hid : (read_frame xs).id.toNat = (read_packed xs).toNat / 8 % 2 ^ 29 := by
    rw [read_frame, mask32_toNat _ 0x1FFFFFFF (w := 29) rfl, UInt32.toNat_shiftRight,
      show (3 : UInt32).toNat % 32 = 3 from rfl, Nat.shiftRight_eq_div_pow]
  rw [packed_toNat, hid]
  omega

/-- The mark is the lowest three bits: `100`, an extended data frame. -/
theorem marked_iff (xs : List UInt8) : Marked xs ↔ (read_packed xs).toNat % 8 = 4 := by
  rw [Marked, ← UInt32.toNat_inj, mask32_toNat _ 0x7 (w := 3) rfl]
  rfl

/-- Packing gives the bytes back exactly if the mark was there. -/
theorem packed_read_frame_iff (xs : List UInt8) :
    packed (read_frame xs) = read_packed xs ↔ Marked xs := by
  have hpacked := packed_read_frame xs
  rw [marked_iff, ← UInt32.toNat_inj, hpacked]
  omega

/-- What a packet is made of, as `poll` finds it. -/
theorem examine_emit {xs : List UInt8} {f : CanFrame} {n : ℕ} (h : examine xs = .emit f n) :
    f = read_frame xs ∧ f.dlc ≤ 8 ∧ n = f.dlc.toNat + 8 ∧ n < xs.length ∧
      byte xs 0 = 0x41 ∧ byte xs 1 = 0x54 ∧ byte xs (n - 1) = 0x0D ∧ byte xs n = 0x0A := by
  rw [examine] at h
  split_ifs at h with hlen hat hdlc hshort htail
  obtain ⟨rfl, rfl⟩ := Scanner.Verdict.emit.inj h
  rw [not_or, not_not, not_not] at hat htail
  have htotal : total xs = (byte xs 6).toNat + 9 := by
    rw [total, header_size, tail_size]
    omega
  refine ⟨rfl, UInt8.not_lt.mp hdlc, ?_, by omega, hat.1, hat.2, ?_, htail.2⟩
  · rw [htotal]
    rfl
  · rw [Nat.sub_sub]
    exact htail.1

/-- The four identifier bytes of a packet are those of its packed identifier. -/
theorem packed_bytes {xs : List UInt8} {x : UInt32} (h : x = read_packed xs) :
    (x >>> 24).toUInt8 = byte xs 2 ∧ (x >>> 16).toUInt8 = byte xs 3 ∧
      (x >>> 8).toUInt8 = byte xs 4 ∧ x.toUInt8 = byte xs 5 := by
  have hx := read_packed_toNat xs
  have h₂ := (byte xs 2).toNat_lt
  have h₃ := (byte xs 3).toNat_lt
  have h₄ := (byte xs 4).toNat_lt
  have h₅ := (byte xs 5).toNat_lt
  simp only [← UInt8.toNat_inj, UInt32.toNat_toUInt8, UInt32.toNat_shiftRight,
    Nat.shiftRight_eq_div_pow, show (24 : UInt32).toNat % 32 = 24 from rfl,
    show (16 : UInt32).toNat % 32 = 16 from rfl, show (8 : UInt32).toNat % 32 = 8 from rfl, h, hx]
  omega

/-- The identifier bytes of an encoded frame are read as they were packed. -/
theorem read_packed_encode_frame (f : CanFrame) : read_packed (encode_frame f) = packed f := by
  have hlt := (packed f).toNat_lt
  apply UInt32.toNat_inj.mp
  rw [read_packed_toNat, show byte (encode_frame f) 2 = (packed f >>> 24).toUInt8 from rfl,
    show byte (encode_frame f) 3 = (packed f >>> 16).toUInt8 from rfl,
    show byte (encode_frame f) 4 = (packed f >>> 8).toUInt8 from rfl,
    show byte (encode_frame f) 5 = (packed f).toUInt8 from rfl]
  simp only [UInt32.toNat_toUInt8, UInt32.toNat_shiftRight, Nat.shiftRight_eq_div_pow,
    show (24 : UInt32).toNat % 32 = 24 from rfl, show (16 : UInt32).toNat % 32 = 16 from rfl,
    show (8 : UInt32).toNat % 32 = 8 from rfl]
  omega

/-- Every encoded packet is marked, so only streams that are not the driver's own can break the
framing. -/
theorem marked_encode_frame (f : CanFrame) : Marked (encode_frame f) := by
  rw [marked_iff, read_packed_encode_frame, packed_toNat]
  omega

/-- The data bytes a decoded frame has are those behind the header. -/
theorem read_frame_data (xs : List UInt8) {k : ℕ} (hk : k < 8) (hlt : k < (byte xs 6).toNat) :
    (read_frame xs).data[k] = byte xs (header_size + k) := by
  have hget : (read_frame xs).data[k]
      = if k < (byte xs 6).toNat then byte xs (header_size + k) else 0 :=
    Vector.getElem_ofFn _
  rw [hget, if_pos hlt]

/-- So the header of a marked packet is the header of its frame, -/
theorem header_of_emit {xs : List UInt8} {f : CanFrame} {n : ℕ} (h : examine xs = .emit f n)
    (hmarked : Marked xs) {i : ℕ} (hi : i < 7) : byte (encode_frame f) i = byte xs i := by
  obtain ⟨hf, -, -, -, h0, h1, -, -⟩ := examine_emit h
  have hpacked : packed f = read_packed xs := by
    rw [hf]
    exact (packed_read_frame_iff xs).mpr hmarked
  obtain ⟨h2, h3, h4, h5⟩ := packed_bytes hpacked
  have h6 : f.dlc = byte xs 6 := by
    rw [hf]
    rfl
  interval_cases i
  · exact h0.symm
  · exact h1.symm
  · exact h2
  · exact h3
  · exact h4
  · exact h5
  · exact h6

/-- and so is the data of any packet, as many bytes of it as the length says. -/
theorem data_of_emit {xs : List UInt8} {f : CanFrame} {n : ℕ} (h : examine xs = .emit f n) {k : ℕ}
    (hk : k < 8) (hlt : k < f.dlc.toNat) : f.data[k] = byte xs (header_size + k) := by
  obtain ⟨rfl, -⟩ := examine_emit h
  exact read_frame_data xs hk hlt

/-- **Encoding undoes decoding exactly on the marked packets.** -/
theorem encode_read_frame {packet rest : List UInt8} {f : CanFrame} {n : ℕ}
    (h : examine (packet ++ rest) = .emit f n) (hlen : packet.length = n + 1) :
    encode_frame f = packet ↔ Marked packet := by
  obtain ⟨-, hdlc, hn, -, -, -, hcr, hlf⟩ := examine_emit h
  have hfront : ∀ i < n + 1, byte (packet ++ rest) i = byte packet i :=
    fun i hi => byte_append_left (by omega) rest
  constructor
  · intro hencode
    rw [← hencode]
    exact marked_encode_frame f
  · intro hmarked
    have hdlc' : f.dlc.toNat ≤ 8 := hdlc
    have hsize := encode_frame_length hdlc
    obtain ⟨hdata, hcr', hlf'⟩ := byte_encode_frame hdlc []
    rw [List.append_nil] at hdata hcr' hlf'
    have hread : read_packed (packet ++ rest) = read_packed packet := by
      rw [read_packed, read_packed, hfront _ (by omega), hfront _ (by omega),
        hfront _ (by omega), hfront _ (by omega)]
    have hmarked' : Marked (packet ++ rest) := by
      rw [Marked, hread]
      exact hmarked
    -- byte by byte: the header, the data, the tail
    apply list_eq_of_byte (by omega)
    intro i hi
    rcases (by omega : i < 7 ∨ (7 ≤ i ∧ i - 7 < f.dlc.toNat) ∨ i = f.dlc.toNat + 7 ∨
      i = f.dlc.toNat + 8) with hheader | ⟨hge, hlt⟩ | rfl | rfl
    · rw [header_of_emit h hmarked' hheader, hfront i (by omega)]
    · obtain ⟨k, rfl⟩ := Nat.exists_eq_add_of_le hge
      rw [Nat.add_sub_cancel_left] at hlt
      exact (hdata k (by omega) hlt).trans
        ((data_of_emit h (by omega) hlt).trans (hfront (7 + k) (by omega)))
    · rw [hcr', ← hcr, hn, hfront _ (by omega)]
      rfl
    · rw [hlf', ← hlf, hn, hfront _ (by omega)]

/-! ## One poll -/

/-- The documented framing of one `poll`: a returned frame is what `encode_frame` makes
of it, taken off the buffer behind skipped bytes. -/
def FrameParser.PolledFramed (p : FrameParser) : Prop :=
  ∀ f, p.poll.1 = some f → ∃ gap, p.buffer_ = gap ++ encode_frame f ++ p.poll.2.buffer_

/-- A poll that returns a frame keeps to the format exactly if the packet it took off
the buffer is marked. -/
theorem FrameParser.poll_some_framed {p p' : FrameParser} {f : CanFrame}
    (h : p.poll = (some f, p')) :
    ∃ packet, (p.PolledFramed ↔ Marked packet) ∧
      ∀ ys, frame_scanner.lexemes (p.buffer_ ++ ys)
        = packet :: frame_scanner.lexemes (p'.buffer_ ++ ys) := by
  obtain ⟨gap, packet, n, hbuffer, hlen, hlook, hlexemes⟩ :=
    Scanner.lexemes_poll_some (FrameParser.poll_some h)
  have hencode := encode_read_frame hlook hlen
  have hsize : (encode_frame f).length = packet.length := by
    obtain ⟨-, hdlc, hn, -⟩ := examine_emit hlook
    rw [encode_frame_length hdlc]
    omega
  refine ⟨packet, ?_, hlexemes⟩
  rw [← hencode, PolledFramed, h]
  constructor
  · intro hframed
    obtain ⟨gap', hgap'⟩ := hframed f rfl
    rw [hbuffer] at hgap'
    exact (List.append_inj' (List.append_cancel_right hgap') hsize.symm).2.symm
  · intro hpacket f' hf'
    obtain rfl := Option.some.inj hf'
    exact ⟨gap, by rw [hpacket, hbuffer]⟩

/-- A poll that returns nothing keeps to the format. -/
theorem FrameParser.poll_none_framed {p p' : FrameParser} (h : p.poll = (none, p')) :
    p.PolledFramed := by
  intro f hf
  rw [h] at hf
  cases hf

/-! ## A schedule -/

/-- The documented framing of every poll of a schedule. -/
def Framed : List (Scanner.Action UInt8) → FrameParser → Prop
  | [], _ => True
  | .push data :: acts, p => Framed acts (p.push data)
  | .poll :: acts, p => p.PolledFramed ∧ Framed acts p.poll.2

/-- `frames` are encoded, in this order and without overlap, in the stream. -/
def Pieces : List CanFrame → List UInt8 → Prop
  | [], _ => True
  | f :: frames, stream =>
    ∃ gap rest, stream = gap ++ encode_frame f ++ rest ∧ Pieces frames rest

/-- Bytes in front of a stream become part of its first gap. -/
theorem Pieces.append_left {frames : List CanFrame} {stream : List UInt8}
    (h : Pieces frames stream) (gap : List UInt8) : Pieces frames (gap ++ stream) := by
  cases frames with
  | nil => trivial
  | cons f frames =>
    obtain ⟨gap', rest, rfl, hrest⟩ := h
    exact ⟨gap ++ gap', rest, by simp only [List.append_assoc], hrest⟩

/-- What a poll that finds nothing leaves of the buffer stood at its end. -/
theorem FrameParser.poll_none_buffer {p p' : FrameParser} (h : p.poll = (none, p')) :
    ∃ gap, p.buffer_ = gap ++ p'.buffer_ := by
  obtain ⟨gap, hgap⟩ := Scanner.poll_none_suffix (FrameParser.poll_none h)
  exact ⟨gap, hgap.symm⟩

/-- A framed schedule cuts its frames out of the stream, each at its own place and in order. -/
theorem Framed.pieces {acts : List (Scanner.Action UInt8)} {p : FrameParser}
    (h : Framed acts p) :
    Pieces (FrameParser.exec acts p).1 (p.buffer_ ++ Scanner.pushed acts) := by
  induction acts generalizing p with
  | nil => trivial
  | cons act acts ih =>
    cases act with
    | push data =>
      have hrest := ih h
      rw [FrameParser.push, List.append_assoc] at hrest
      exact hrest
    | poll =>
      obtain ⟨hpoll, hacts⟩ := h
      have hrest := ih hacts
      rw [FrameParser.exec, Scanner.pushed]
      rcases hp : p.poll with ⟨_ | f, p'⟩
      · obtain ⟨gap, hgap⟩ := FrameParser.poll_none_buffer hp
        rw [hp] at hrest
        rw [hgap, List.append_assoc]
        exact hrest.append_left gap
      · obtain ⟨gap, hgap⟩ := hpoll f (by rw [hp])
        rw [hp] at hrest hgap
        exact ⟨gap, p'.buffer_ ++ Scanner.pushed acts, by rw [hgap, List.append_assoc], hrest⟩

/-- The step from one poll to a schedule: packets are polled in stream order. -/
theorem framed_of_marked {acts : List (Scanner.Action UInt8)} {p : FrameParser}
    (h : ∀ packet ∈ frame_scanner.lexemes (p.buffer_ ++ Scanner.pushed acts), Marked packet) :
    Framed acts p := by
  induction acts generalizing p with
  | nil => trivial
  | cons act acts ih =>
    cases act with
    | push data =>
      apply ih
      rw [FrameParser.push, List.append_assoc]
      exact h
    | poll =>
      rw [Scanner.pushed] at h
      rcases hp : p.poll with ⟨_ | f, p'⟩
      · refine ⟨FrameParser.poll_none_framed hp, ih ?_⟩
        rw [hp, ← (Scanner.lexemes_poll_none (FrameParser.poll_none hp)).2]
        exact h
      · obtain ⟨packet, hframed, hlexemes⟩ := FrameParser.poll_some_framed hp
        rw [hlexemes] at h
        refine ⟨hframed.mpr (h packet List.mem_cons_self), ih ?_⟩
        rw [hp]
        exact fun q hq => h q (List.mem_cons_of_mem _ hq)

/-- Polling often enough meets every packet in the buffer, so if all polls keep to the format every
packet is marked. -/
theorem marked_of_framed {p : FrameParser} (h : ∀ k, Framed (List.replicate k .poll) p) :
    ∀ packet ∈ frame_scanner.lexemes p.buffer_, Marked packet := by
  induction hn : p.buffer_.length using Nat.strong_induction_on generalizing p with
  | _ n ih =>
    have hnext : ∀ k, Framed (List.replicate k .poll) p.poll.2 :=
      fun k => (h (k + 1)).2
    rcases hp : p.poll with ⟨_ | f, p'⟩
    · have hlexemes := Scanner.lexemes_poll_none (FrameParser.poll_none hp)
      have hnil : frame_scanner.lexemes p.buffer_ = [] := by
        have hsame := hlexemes.2 []
        rw [List.append_nil, List.append_nil] at hsame
        rw [hsame, hlexemes.1]
      rw [hnil]
      exact fun packet hpacket => nomatch hpacket
    · obtain ⟨packet, hframed, hlexemes⟩ := FrameParser.poll_some_framed hp
      have hcons := hlexemes []
      rw [List.append_nil, List.append_nil] at hcons
      rw [hp] at hnext
      have hlt := Scanner.poll_length (FrameParser.poll_some hp)
      rw [hcons]
      intro q hq
      rcases List.mem_cons.mp hq with rfl | hq
      · exact hframed.mp (h 1).1
      · exact ih _ (hn ▸ hlt) hnext rfl q hq

/-- The polls of a schedule do not change what it pushes. -/
theorem pushed_replicate_poll (k : ℕ) :
    Scanner.pushed (List.replicate k (.poll : Scanner.Action UInt8)) = [] := by
  induction k with
  | zero => rfl
  | succ k ih => exact ih

/-- **When the decoder keeps to the documented framing.** Under every chunking of the
stream the returned frames are disjoint pieces of it in order, each the encoding of its
frame, exactly when every packet of the stream is marked as an extended data frame. -/
theorem framed_iff_marked (stream : List UInt8) :
    (∀ acts, Scanner.pushed acts = stream →
        Framed acts {} ∧ Pieces (FrameParser.exec acts {}).1 stream) ↔
      ∀ packet ∈ frame_scanner.lexemes stream, Marked packet := by
  constructor
  · intro h
    refine marked_of_framed (p := ⟨stream⟩) fun k => ?_
    have hpushed : Scanner.pushed (.push stream :: List.replicate k .poll) = stream := by
      rw [Scanner.pushed, pushed_replicate_poll, List.append_nil]
    exact (h _ hpushed).1
  · intro h acts hacts
    have hframed : Framed acts {} := framed_of_marked (by rw [hacts]; exact h)
    have hpieces := hframed.pieces
    rw [hacts] at hpieces
    exact ⟨hframed, hpieces⟩

/-- The worked example with the marking of the identifier cleared. -/
def unmarked_packet : List UInt8 :=
  [0x41, 0x54, 0x90, 0x07, 0xE8, 0x08, 0x08, 0x05, 0x70, 0x00, 0x00, 0x01, 0x00, 0x00, 0x00,
    0x0D, 0x0A]

/-- A packet of another frame kind comes out as an extended data frame, and the stream
does not hold the encoding of that frame anywhere. -/
theorem unmarked_packet_delivered :
    FrameParser.exec [.push unmarked_packet, .poll] {} = ([manual_frame], {}) ∧
      ¬ Pieces (FrameParser.exec [.push unmarked_packet, .poll] {}).1 unmarked_packet := by
  have hexec : FrameParser.exec [.push unmarked_packet, .poll] {} = ([manual_frame], {}) := by
    decide +kernel
  refine ⟨hexec, ?_⟩
  rw [hexec]
  rintro ⟨gap, rest, hstream, -⟩
  -- as long as the stream, the packet would be all of it
  have hlen := congrArg List.length hstream
  rw [List.length_append, List.length_append, encode_frame_length (by decide),
    show unmarked_packet.length = 17 from rfl, show manual_frame.dlc.toNat = 8 from rfl] at hlen
  obtain rfl : gap = [] := List.length_eq_zero_iff.mp (by omega)
  obtain rfl : rest = [] := List.length_eq_zero_iff.mp (by omega)
  revert hstream
  decide

end at_serial

end Robstride
