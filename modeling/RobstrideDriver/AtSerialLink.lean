/-
`AtSerialCanInterface::send` and `receive`, and a byte link between two of them.

The two functions are loops over system calls, so the model has one pass of each:
what one `write` outcome does to a packet being sent, and what one round of
clock, `select` and `read` does to the parser. A run of the link interleaves
passes of a writer and a reader in any order, with any outcomes the kernel may
give them: short and interrupted writes, chunks of any size up to the 256 bytes
of the read buffer, empty reads, timeouts in the middle of a packet. Where one
`receive` call ends and the next begins leaves no trace but the values returned:
the parser is all the state there is between passes.

The invariant (`InTransit`) says that the bytes in the parser's buffer, on the
link and still to be written are, together and in this order, the packets of the
frames not yet returned. From it, `frames_returned_in_order`: at every moment the frames
returned are a prefix of the frames sent, and all of them once nothing is left.
-/
import RobstrideDriver.ActuatorTypes
import RobstrideDriver.AtSerial

set_option autoImplicit false

namespace Robstride

namespace AtSerialCanInterface

open at_serial

def EINTR : ℕ := 4

/-! ## `send` -/

/-- What one call of `::write` does. -/
inductive WriteOutcome where
  | written (n : ℕ)
  | failed (errno : ℕ)
deriving DecidableEq, Repr

/-- The locals of `send`. -/
structure Sending where
  packet : List UInt8
  sent : ℕ
deriving DecidableEq, Repr

def send_start (frame : CanFrame) : Sending := ⟨encode_frame frame, 0⟩

/-- The bytes still to be written; the loop runs while there are any. -/
def Sending.rest (s : Sending) : List UInt8 := s.packet.drop s.sent

/-- One pass of the `while (sent < packet.size())`, and the bytes it puts on the
line: `write` takes no more than it is offered. -/
def send_pass (device : String) (w : WriteOutcome) (s : Sending) :
    Except Exception Sending × List UInt8 :=
  match w with
  | .failed errno =>
    -- `continue`
    if errno = EINTR then (.ok s, [])
    else (.error (.system_error errno ("robstride: failed to write to '" ++ device ++ "'")), [])
  | .written n => (.ok { s with sent := s.sent + n }, s.rest.take n)

/-! ## `receive` -/

/-- What the clock, `select` and `read` say in one pass. -/
inductive WaitOutcome where
  | expired
  | select_failed (errno : ℕ)
  | select_timeout
  | read_failed (errno : ℕ)
  | read (bytes : List UInt8)
deriving DecidableEq, Repr

/-- How a pass ends. -/
inductive Pass where
  | returned (r : Option CanFrame)
  | threw (e : Exception)
  | again
deriving DecidableEq, Repr

/-- One pass of the `while (true)` of `receive`. The parser is polled first, and
nothing is asked of the clock or the kernel when that yields a frame. -/
def receive_pass (device : String) (w : WaitOutcome) (parser : FrameParser) :
    Pass × FrameParser :=
  match parser.poll with
  | (some frame, p) => (.returned (some frame), p)
  | (none, p) =>
    match w with
    | .expired => (.returned none, p)
    | .select_failed errno =>
      if errno = EINTR then (.again, p)
      else (.threw (.system_error errno ("robstride: select() failed on '" ++ device ++ "'")), p)
    | .select_timeout => (.returned none, p)
    | .read_failed errno =>
      if errno = EINTR then (.again, p)
      else
        (.threw (.system_error errno ("robstride: failed to read from '" ++ device ++ "'")), p)
    | .read bytes => (.again, if 0 < bytes.length then p.push bytes else p)

/-! ## The link -/

structure Link where
  /-- The frames `send` has been called with. -/
  called : List CanFrame := []
  sending : Sending := ⟨[], 0⟩
  /-- The bytes written and not read. -/
  line : List UInt8 := []
  parser : FrameParser := {}
  /-- What `receive` calls have returned. -/
  results : List (Option CanFrame) := []
deriving DecidableEq, Repr

/-- The frames among the results. -/
def Link.returned (st : Link) : List CanFrame := st.results.reduceOption

inductive Event where
  /-- `send` is called. -/
  | send (frame : CanFrame)
  | write (w : WriteOutcome)
  | expired
  | select_failed (errno : ℕ)
  | select_timeout
  | read_failed (errno : ℕ)
  /-- `read` returns so many bytes, or as many as there are. -/
  | read (n : ℕ)
deriving DecidableEq, Repr

section Step

variable (writer reader : String)

/-- One pass of the reader, in which a `read` would take `n` bytes off the line.
They come off only if the pass gets that far. -/
def Link.receive (w : WaitOutcome) (n : ℕ) (st : Link) : Link :=
  match receive_pass reader w st.parser with
  | (.returned r, p) => { st with parser := p, results := st.results ++ [r] }
  | (.threw _, p) => { st with parser := p }
  | (.again, p) => { st with parser := p, line := st.line.drop n }

/-- One event. A `send` waits for the one before it to finish; frames have 29-bit
identifiers and at most eight bytes; `write` does not fail but by interruption;
`read` fills at most its buffer. -/
def Link.step (st : Link) : Event → Option Link
  | .send frame =>
    if st.sending.rest = [] ∧ frame.id < 0x20000000 ∧ frame.dlc ≤ 8 then
      some { st with called := st.called ++ [frame], sending := send_start frame }
    else none
  | .write w =>
    match send_pass writer w st.sending with
    | (.ok s, bytes) => some { st with sending := s, line := st.line ++ bytes }
    | (.error _, _) => none
  | .expired => some (st.receive reader .expired 0)
  | .select_failed errno => some (st.receive reader (.select_failed errno) 0)
  | .select_timeout => some (st.receive reader .select_timeout 0)
  | .read_failed errno => some (st.receive reader (.read_failed errno) 0)
  | .read n => if n ≤ 256 then some (st.receive reader (.read (st.line.take n)) n) else none

/-- A run of events, while they are possible. -/
def Link.run : List Event → Link → Option Link
  | [], st => some st
  | e :: es, st => (st.step writer reader e).bind (Link.run es)

end Step

/-! ## The invariant -/

/-- The frames `fs` are sent and not returned, and their packets are all there is
in the parser's buffer, on the line and still to be written. -/
structure InTransit (st : Link) (fs : List CanFrame) : Prop where
  valid : ∀ f ∈ fs, f.id < 0x20000000 ∧ f.dlc ≤ 8
  frames : st.called.map on_wire = st.returned ++ fs.map on_wire
  bytes : st.parser.buffer_ ++ (st.line ++ st.sending.rest) = fs.flatMap encode_frame

/-- At the start nothing has been sent, and nothing is on its way. -/
theorem inTransit_start : InTransit {} [] := ⟨by simp, rfl, rfl⟩

/-- Polling a buffer that is the beginning of a stream of packets: nothing yet
and nothing lost, or the first frame and the beginning of what remains. -/
theorem poll_packets {p : FrameParser} {more : List UInt8} {fs : List CanFrame}
    (hvalid : ∀ f ∈ fs, f.id < 0x20000000 ∧ f.dlc ≤ 8)
    (h : p.buffer_ ++ more = fs.flatMap encode_frame) :
    (p.poll = (none, p) ∧ (more = [] → fs = [])) ∨
      ∃ f fs' p', fs = f :: fs' ∧ p.poll = (some (on_wire f), p') ∧
        p'.buffer_ ++ more = fs'.flatMap encode_frame := by
  obtain ⟨buffer⟩ := p
  dsimp only at h
  -- an empty buffer: nothing to find, and only no packet at all is no bytes
  cases buffer with
  | nil =>
    refine Or.inl ⟨rfl, ?_⟩
    rintro rfl
    cases fs with
    | nil => rfl
    | cons f fs =>
      rw [List.flatMap_cons, encode_frame, header] at h
      cases h
  | cons b bs =>
    cases fs with
    | nil => cases h
    | cons f fs =>
      obtain ⟨hid, hdlc⟩ := hvalid f List.mem_cons_self
      -- with the rest of the stream there, the first packet would be recognised
      have hfull : examine (b :: bs ++ more) = .emit (on_wire f) (f.dlc.toNat + 8) := by
        rw [h, List.flatMap_cons]
        exact examine_encode_frame hdlc hid _
      by_cases hw : examine (b :: bs) = .wait
      · refine Or.inl ⟨?_, ?_⟩
        · have hpoll : frame_scanner.poll (b :: bs) = (none, b :: bs) := Scanner.poll_wait hw
          rw [FrameParser.poll, hpoll]
        · rintro rfl
          rw [List.append_nil, hw] at hfull
          cases hfull
      · -- what the front of the buffer is taken for does not change with `more`
        have hemit : examine (b :: bs) = .emit (on_wire f) (f.dlc.toNat + 8) :=
          (examine_append _ more hw).symm.trans hfull
        have hpoll : frame_scanner.poll (b :: bs) = (some (on_wire f), bs.drop (f.dlc.toNat + 8)) :=
          Scanner.poll_emit hemit
        have hle : f.dlc.toNat + 8 ≤ bs.length := Nat.le_of_lt_succ (examine_emit_lt _ _ _ hemit)
        refine Or.inr ⟨f, fs, ⟨bs.drop (f.dlc.toNat + 8)⟩, rfl, ?_, ?_⟩
        · rw [FrameParser.poll, hpoll]
        · have hdrop := congrArg (List.drop (f.dlc.toNat + 9)) h
          rw [List.flatMap_cons, List.drop_left' (encode_frame_length hdlc), List.cons_append,
            List.drop_succ_cons, List.drop_append_of_le_length hle] at hdrop
          exact hdrop

/-- How many bytes a pass that gets to `read` takes off the line. -/
def WaitOutcome.taken : WaitOutcome → ℕ
  | .read bytes => bytes.length
  | _ => 0

/-- A pass that finds no frame returns none, and moves the bytes it reads from
the line to the parser. -/
theorem receive_of_poll_none (reader : String) {st : Link} {w : WaitOutcome} {n : ℕ}
    (hpoll : st.parser.poll = (none, st.parser))
    (hw : w = .read (st.line.take n) ∨ n = 0 ∧ w.taken = 0) :
    (st.receive reader w n).returned = st.returned ∧
      (st.receive reader w n).parser.buffer_ ++ (st.receive reader w n).line
        = st.parser.buffer_ ++ st.line := by
  have hnone : (st.results ++ [none]).reduceOption = st.results.reduceOption := by
    rw [List.reduceOption_append, List.reduceOption_cons_of_none, List.reduceOption_nil,
      List.append_nil]
  rcases hw with rfl | ⟨rfl, hw⟩
  · rw [Link.receive, receive_pass, hpoll]
    refine ⟨rfl, ?_⟩
    dsimp only
    split_ifs with hlen
    · rw [FrameParser.push, List.append_assoc, List.take_append_drop]
    · have hempty : st.line.take n = [] := List.length_eq_zero_iff.mp (Nat.eq_zero_of_not_pos hlen)
      have hsplit := List.take_append_drop n st.line
      rw [hempty, List.nil_append] at hsplit
      rw [hsplit]
  · rw [Link.receive, receive_pass, hpoll]
    cases w with
    | expired => exact ⟨hnone, rfl⟩
    | select_timeout => exact ⟨hnone, rfl⟩
    | select_failed errno =>
      dsimp only
      by_cases he : errno = EINTR
      · rw [if_pos he]
        exact ⟨rfl, rfl⟩
      · rw [if_neg he]
        exact ⟨rfl, rfl⟩
    | read_failed errno =>
      dsimp only
      by_cases he : errno = EINTR
      · rw [if_pos he]
        exact ⟨rfl, rfl⟩
      · rw [if_neg he]
        exact ⟨rfl, rfl⟩
    | read bytes =>
      have hempty : bytes = [] := List.length_eq_zero_iff.mp hw
      rw [hempty]
      exact ⟨rfl, rfl⟩

/-- A pass of `receive` sends nothing, and the calls of `send` stay as they were. -/
theorem receive_called (reader : String) (w : WaitOutcome) (n : ℕ) (st : Link) :
    (st.receive reader w n).called = st.called ∧ (st.receive reader w n).sending = st.sending := by
  rw [Link.receive]
  split <;> exact ⟨rfl, rfl⟩

/-- Step lemma for the reader, whatever the pass meets: bytes go from the line to the parser, or a
frame out of it, and none is lost. -/
theorem InTransit.receive {st : Link} {fs : List CanFrame} (h : InTransit st fs)
    (reader : String) (w : WaitOutcome) (n : ℕ)
    (hw : w = .read (st.line.take n) ∨ n = 0 ∧ w.taken = 0) :
    ∃ fs', InTransit (st.receive reader w n) fs' := by
  obtain ⟨hcalled, hsending⟩ := receive_called reader w n st
  rcases poll_packets h.valid h.bytes with ⟨hpoll, -⟩ | ⟨f, fs', p', rfl, hpoll, hbytes⟩
  · -- no frame yet: bytes move, frames do not
    obtain ⟨hreturned, hmoved⟩ := receive_of_poll_none reader hpoll hw
    refine ⟨fs, h.valid, ?_, ?_⟩
    · rw [hcalled, hreturned, h.frames]
    · rw [hsending, ← List.append_assoc, hmoved, List.append_assoc, h.bytes]
  · have hpass : receive_pass reader w st.parser = (.returned (some (on_wire f)), p') := by
      rw [receive_pass, hpoll]
    refine ⟨fs', fun f' hf' => h.valid f' (List.mem_cons_of_mem f hf'), ?_, ?_⟩
    · have hreturned : (st.receive reader w n).returned = st.returned ++ [on_wire f] := by
        rw [Link.receive, hpass, Link.returned, List.reduceOption_append,
          List.reduceOption_cons_of_some, List.reduceOption_nil, Link.returned]
      rw [hcalled, hreturned, h.frames, List.map_cons, List.append_assoc, List.singleton_append]
    · rw [Link.receive, hpass]
      exact hbytes

/-- Step lemma for `send`: the packet joins what is to be written, behind all that was sent
before. -/
theorem InTransit.send {st : Link} {fs : List CanFrame} (h : InTransit st fs) {frame : CanFrame}
    (hidle : st.sending.rest = []) (hid : frame.id < 0x20000000) (hdlc : frame.dlc ≤ 8) :
    InTransit { st with called := st.called ++ [frame], sending := send_start frame }
      (fs ++ [frame]) := by
  refine ⟨?_, ?_, ?_⟩
  · intro f hf
    rcases List.mem_append.mp hf with hf | hf
    · exact h.valid f hf
    · rw [List.mem_singleton.mp hf]
      exact ⟨hid, hdlc⟩
  · rw [List.map_append, List.map_append, h.frames, List.append_assoc]
    rfl
  · have hbytes := h.bytes
    rw [hidle, List.append_nil] at hbytes
    rw [List.flatMap_append, ← hbytes, List.flatMap_singleton, List.append_assoc]
    rfl

/-- Step lemma for a pass of the writer: bytes move to the line, as many as `write` took. -/
theorem InTransit.write {st : Link} {fs : List CanFrame} (h : InTransit st fs) {writer : String}
    {w : WriteOutcome} {s : Sending} {bytes : List UInt8}
    (hpass : send_pass writer w st.sending = (.ok s, bytes)) :
    InTransit { st with sending := s, line := st.line ++ bytes } fs := by
  refine ⟨h.valid, h.frames, ?_⟩
  rw [← h.bytes]
  cases w with
  | failed errno =>
    rw [send_pass] at hpass
    by_cases he : errno = EINTR
    · rw [if_pos he] at hpass
      obtain ⟨hs, rfl⟩ := Prod.mk.inj hpass
      rw [Except.ok.inj hs, List.append_nil]
    · rw [if_neg he] at hpass
      cases congrArg Prod.fst hpass
  | written n =>
    obtain ⟨hs, rfl⟩ := Prod.mk.inj hpass
    obtain rfl := Except.ok.inj hs
    -- what is written and what is left make up what there was to write
    have hsplit : st.sending.rest.take n
        ++ (⟨st.sending.packet, st.sending.sent + n⟩ : Sending).rest = st.sending.rest := by
      rw [Sending.rest, Sending.rest, ← List.drop_drop]
      exact List.take_append_drop n _
    rw [List.append_assoc, hsplit]

/-- Step lemma: every event keeps the invariant, that what is not yet returned is on its way and in
order. -/
theorem InTransit.step {writer reader : String} {st st' : Link} {e : Event}
    (hstep : st.step writer reader e = some st') {fs : List CanFrame} (h : InTransit st fs) :
    ∃ fs', InTransit st' fs' := by
  cases e with
  | send frame =>
    rw [Link.step] at hstep
    split_ifs at hstep with hguard
    obtain rfl := Option.some.inj hstep
    exact ⟨_, h.send hguard.1 hguard.2.1 hguard.2.2⟩
  | write w =>
    rw [Link.step] at hstep
    rcases hpass : send_pass writer w st.sending with ⟨_ | s, bytes⟩
    · rw [hpass] at hstep
      cases hstep
    · rw [hpass] at hstep
      obtain rfl := Option.some.inj hstep
      exact ⟨fs, h.write hpass⟩
  | expired =>
    obtain rfl := Option.some.inj hstep
    exact h.receive reader _ _ (Or.inr ⟨rfl, rfl⟩)
  | select_failed errno =>
    obtain rfl := Option.some.inj hstep
    exact h.receive reader _ _ (Or.inr ⟨rfl, rfl⟩)
  | select_timeout =>
    obtain rfl := Option.some.inj hstep
    exact h.receive reader _ _ (Or.inr ⟨rfl, rfl⟩)
  | read_failed errno =>
    obtain rfl := Option.some.inj hstep
    exact h.receive reader _ _ (Or.inr ⟨rfl, rfl⟩)
  | read n =>
    rw [Link.step] at hstep
    split_ifs at hstep with hguard
    obtain rfl := Option.some.inj hstep
    exact h.receive reader _ _ (Or.inl rfl)

/-- Run lemma: so does any list of events. -/
theorem InTransit.run {writer reader : String} {events : List Event} {st st' : Link}
    (hrun : st.run writer reader events = some st') {fs : List CanFrame} (h : InTransit st fs) :
    ∃ fs', InTransit st' fs' := by
  induction events generalizing st fs with
  | nil =>
    obtain rfl := Option.some.inj hrun
    exact ⟨fs, h⟩
  | cons e es ih =>
    rw [Link.run] at hrun
    obtain ⟨st₁, hstep, hrest⟩ := Option.bind_eq_some_iff.mp hrun
    obtain ⟨fs₁, h₁⟩ := h.step hstep
    exact ih hrest h₁

/-! ## End to end -/

/-- **The serial transport, end to end.** In every run: the frames returned so far
are, in order, the first of the frames sent, as the wire carries them; and when
every packet is written and read and a poll finds nothing, they are all of them. -/
theorem frames_returned_in_order (writer reader : String) (events : List Event) (st : Link)
    (hrun : Link.run writer reader events {} = some st) :
    st.returned <+: st.called.map on_wire ∧
      (st.sending.rest = [] → st.line = [] → st.parser.poll.1 = none →
        st.returned = st.called.map on_wire) := by
  obtain ⟨fs, h⟩ := inTransit_start.run hrun
  refine ⟨⟨fs.map on_wire, h.frames.symm⟩, ?_⟩
  intro hwritten hread hnone
  rcases poll_packets h.valid h.bytes with ⟨-, hall⟩ | ⟨f, fs', p', hfs, hpoll, hbytes⟩
  · -- nothing is left anywhere, so nothing is in transit
    have hempty : fs = [] := hall (by rw [hwritten, hread, List.append_nil])
    rw [h.frames, hempty, List.map_nil, List.append_nil]
  · rw [hpoll] at hnone
    cases hnone

/-- One frame over the link in two writes, the second interrupted first, with a
`receive` that times out on three bytes before the one that gets the frame. -/
theorem frames_returned_in_order_split_write :
    Link.returned
        { called := [manual_frame], sending := ⟨manual_run_mode_frame, 17⟩, line := []
          parser := {}, results := [none, some manual_frame] }
      = [manual_frame] :=
  (frames_returned_in_order "" ""
    [.send manual_frame, .write (.written 5), .write (.failed EINTR), .read 3, .select_timeout,
      .write (.written 12), .read 256, .expired] _ (by decide +kernel)).2 rfl rfl rfl

end AtSerialCanInterface

end Robstride
