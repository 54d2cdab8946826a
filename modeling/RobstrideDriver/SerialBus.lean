/-
A bus behind `AtSerialCanInterface`: the serial line, the USB-CAN module and what is
behind it.

The module is not part of the repository. What it is relied on for is to convert between
packets and frames: it puts a frame on the bus when the last byte of its packet has come,
however the packet was cut up (`UsbCanModule`), and writes the packets of the frames that
come. Everything the line may do to the bytes is allowed: any system call may be
interrupted, and any read or write may transfer fewer bytes than it could, or none, as a
finite list of hitches has it. So a read may end in the middle of a packet or reach over
several.

Both loops end (`send_returns`, `receive_returns`). Between exchanges the bytes that are
read and not parsed, and those that are not read, are together the packets of the frames
that have come and not been received (`Shows`); `send` and `receive` keep that, and so the
transport presents the bus (`at_serial_presents`).

The clock may read anything as long as it keeps an exchange within its time, less the
millisecond that `transceive` rounds away (`Brisk`): with less than that left the serial
transport does not look at the line at all.
-/
import RobstrideDriver.Bus
import RobstrideDriver.Interruptions

set_option autoImplicit false

open CppArith Retry

namespace Robstride

namespace AtSerialCanInterface

open at_serial
open SocketCanInterface (SelectResult)

/-! ## The line -/

/-- The USB-CAN module. `Holds` says how much it has of the packet being written. -/
structure UsbCanModule (μ : Type*) where
  /-- Bytes come, and frames are put on the bus for them. -/
  accept : List UInt8 → μ → List CanFrame × μ
  Holds : List UInt8 → μ → Prop
  part : ∀ f before bytes m, Carried f → Holds before m →
    before ++ bytes <+: encode_frame f → before ++ bytes ≠ encode_frame f →
      (accept bytes m).1 = [] ∧ Holds (before ++ bytes) (accept bytes m).2
  whole : ∀ f before bytes m, Carried f → Holds before m → before ++ bytes = encode_frame f →
    (accept bytes m).1 = [f] ∧ Holds [] (accept bytes m).2

/-- What happens to a system call: it is interrupted, or transfers at most so many bytes. -/
inductive Hitch where
  | interrupted
  | bytes (n : ℕ)
deriving DecidableEq, Repr

structure SerialPort (μ σ : Type*) where
  usb : μ
  bus : σ
  /-- The bytes from the module that have not been read. -/
  incoming : List UInt8 := []
  /-- The hitches to come; after them nothing is in the way. -/
  hitches : List Hitch := []
  exchanges : ℕ := 0
  readings : ℕ := 0
deriving DecidableEq, Repr

namespace SerialPort

variable {μ σ : Type*}

/-- The next system call is interrupted. -/
def Interrupted (w : SerialPort μ σ) : Prop := w.hitches.head? = some .interrupted

instance (w : SerialPort μ σ) : Decidable w.Interrupted := inferInstanceAs (Decidable (_ = _))

/-- How many of `size` bytes the next system call transfers. -/
def limit (w : SerialPort μ σ) (size : ℕ) : ℕ :=
  match w.hitches.head? with
  | some (.bytes n) => min n size
  | _ => size

/-- A system call is over. -/
def proceed (w : SerialPort μ σ) : SerialPort μ σ := { w with hitches := w.hitches.tail }

/-- The clock is read. -/
def tick (w : SerialPort μ σ) : SerialPort μ σ := { w with readings := w.readings + 1 }

/-- An exchange begins. -/
def begin_exchange (w : SerialPort μ σ) : SerialPort μ σ :=
  { w with exchanges := w.exchanges + 1, readings := 0 }

variable (usb : UsbCanModule μ) (bus : Bus σ)

/-- A `select` that is not interrupted waits where there is nothing to read. -/
def listen (w : SerialPort μ σ) : SerialPort μ σ :=
  if w.incoming = [] then
    { w.proceed with
      bus := (bus.wait w.bus).2
      incoming := (bus.wait w.bus).1.flatMap encode_frame }
  else w.proceed

/-- The module puts a frame on the bus, and writes what comes back. -/
def post (w : SerialPort μ σ) (f : CanFrame) : SerialPort μ σ :=
  { w with
    bus := (bus.send f w.bus).2
    incoming := w.incoming ++ (bus.send f w.bus).1.flatMap encode_frame }

/-- A `write` of so many bytes. -/
def take_in (bytes : List UInt8) (w : SerialPort μ σ) : SerialPort μ σ :=
  (usb.accept bytes w.usb).1.foldl (post bus) { w with usb := (usb.accept bytes w.usb).2 }

/-- A `read` of so many bytes. -/
def fetch (size : ℕ) (w : SerialPort μ σ) : SerialPort μ σ :=
  { w.proceed with incoming := w.incoming.drop (w.limit size) }

/-- The bytes that can still come to be read. -/
def ahead (w : SerialPort μ σ) : ℕ := w.incoming.length + 17 * bus.ahead w.bus

end SerialPort

section Transport

variable {μ σ : Type*} (usb : UsbCanModule μ) (bus : Bus σ) (clock : ℕ → ℕ → ℤ)

/-- The system calls. -/
def serial_kernel : Kernel (SerialPort μ σ) where
  now w := (clock w.exchanges w.readings, w.tick)
  select _ _ w :=
    if w.Interrupted then (.failed EINTR, w.proceed)
    else (if (w.listen bus).incoming = [] then .timeout else .ready, w.listen bus)
  read size w :=
    if w.Interrupted then (.failed EINTR, w.proceed)
    else (.read (w.incoming.take (w.limit size)), w.fetch size)
  write bytes w :=
    if w.Interrupted then (.failed EINTR, w.proceed)
    else (.written (w.limit bytes.length), w.proceed.take_in usb bus
      (bytes.take (w.limit bytes.length)))

/-! ## Its loops end -/

variable {usb bus clock} {device : String}

/-- One pass of `send`: an interruption is retried, and a write of a part goes on with the rest. -/
theorem send_turn_serial (sending : Sending) (w : SerialPort μ σ) :
    send_turn (serial_kernel usb bus clock) device (sending, w)
      = if sending.rest = [] then .stop (.ok (), w)
        else if w.Interrupted then .again (sending, w.proceed)
        else .again ({ sending with sent := sending.sent + w.limit sending.rest.length },
          w.proceed.take_in usb bus (sending.rest.take (w.limit sending.rest.length))) := by
  rw [send_turn]
  by_cases hrest : sending.rest = []
  · rw [if_pos hrest, if_pos hrest]
  · rw [if_neg hrest, if_neg hrest, serial_kernel]
    dsimp only
    by_cases hint : w.Interrupted
    · rw [if_pos hint, if_pos hint]
      rfl
    · rw [if_neg hint, if_neg hint]
      rfl

/-- One pass of `receive`: a frame that is there, else what `select` and `read` bring. -/
theorem receive_turn_serial (deadline : ℤ) (parser : FrameParser) (w : SerialPort μ σ) :
    receive_turn (serial_kernel usb bus clock) device deadline (parser, w)
      = match parser.poll with
        | (some f, p) => .stop (.ok (some f), p, w)
        | (none, p) =>
          if deadline ≤ clock w.exchanges w.readings then .stop (.ok none, p, w.tick)
          else if w.Interrupted then .again (p, w.tick.proceed)
          else if (w.tick.listen bus).incoming = [] then .stop (.ok none, p, w.tick.listen bus)
          else if (w.tick.listen bus).Interrupted then .again (p, (w.tick.listen bus).proceed)
          else .again (p.push ((w.tick.listen bus).incoming.take ((w.tick.listen bus).limit 256)),
            (w.tick.listen bus).fetch 256) := by
  rw [receive_turn]
  rcases hpoll : parser.poll with ⟨_ | f, p⟩
  · dsimp only
    rw [wait, serial_kernel]
    dsimp only
    by_cases hd : deadline ≤ clock w.exchanges w.readings
    · -- no time is left for a `poll`
      rw [if_pos hd, if_pos hd, receive_pass, hpoll]
    · rw [if_neg hd, if_neg hd]
      by_cases hint : w.tick.Interrupted
      · have hint' : w.Interrupted := hint
        rw [if_pos hint, if_pos hint', receive_pass, hpoll]
        rfl
      · have hint' : ¬ w.Interrupted := hint
        rw [if_neg hint, if_neg hint']
        by_cases hempty : (w.tick.listen bus).incoming = []
        · rw [if_pos hempty, if_pos hempty, receive_pass, hpoll]
        · rw [if_neg hempty, if_neg hempty]
          dsimp only
          by_cases hread : (w.tick.listen bus).Interrupted
          · rw [if_pos hread, if_pos hread]
            dsimp only [ReadOutcome.wait_outcome]
            rw [receive_pass, hpoll]
            rfl
          · rw [if_neg hread, if_neg hread]
            dsimp only [ReadOutcome.wait_outcome]
            rw [receive_pass, hpoll]
            dsimp only
            -- a `read` of no bytes pushes none
            split_ifs with hlen
            · rfl
            · rw [List.length_eq_zero_iff.mp (Nat.eq_zero_of_not_pos hlen), FrameParser.push,
                List.append_nil]
  · rfl

variable (usb bus) in
/-- What a write brings back changes nothing else: neither the readings of the clock nor the hitches
to come. -/
theorem take_in_counters (bytes : List UInt8) (w : SerialPort μ σ) :
    (w.take_in usb bus bytes).hitches = w.hitches ∧
      (w.take_in usb bus bytes).exchanges = w.exchanges ∧
      (w.take_in usb bus bytes).readings = w.readings := by
  have hposts : ∀ (fs : List CanFrame) (v : SerialPort μ σ),
      (fs.foldl (SerialPort.post bus) v).hitches = v.hitches ∧
        (fs.foldl (SerialPort.post bus) v).exchanges = v.exchanges ∧
        (fs.foldl (SerialPort.post bus) v).readings = v.readings := by
    intro fs
    induction fs with
    | nil => exact fun v => ⟨rfl, rfl, rfl⟩
    | cons f fs ih => exact fun v => ih (v.post bus f)
  exact hposts _ _

/-- An interrupted line has a hitch still to come, which is the one that interrupts. -/
theorem hitches_pos {w : SerialPort μ σ} (h : w.Interrupted) : 0 < w.hitches.length := by
  apply List.length_pos_of_ne_nil
  intro hnone
  rw [SerialPort.Interrupted, hnone] at h
  cases h

/-- Each pass that is not the last uses up a hitch, or writes the rest of the packet. -/
theorem send_turn_rank {st st' : Sending × SerialPort μ σ}
    (hpass : send_turn (serial_kernel usb bus clock) device st = .again st') :
    st'.2.hitches.length + (if st'.1.rest = [] then 0 else 1)
      < st.2.hitches.length + if st.1.rest = [] then 0 else 1 := by
  obtain ⟨sending, w⟩ := st
  rw [send_turn_serial] at hpass
  split_ifs at hpass with hrest hint
  · -- interrupted
    obtain rfl := Pass.again.inj hpass
    have hpos := hitches_pos hint
    have hlength : w.proceed.hitches.length = w.hitches.length - 1 := List.length_tail
    dsimp only
    omega
  · obtain rfl := Pass.again.inj hpass
    dsimp only
    rw [(take_in_counters usb bus _ _).1, if_neg hrest, SerialPort.proceed]
    dsimp only
    rcases hhitches : w.hitches with _ | ⟨hitch, rest⟩
    · -- nothing in the way: everything is written
      have hall : w.limit sending.rest.length = sending.rest.length := by
        rw [SerialPort.limit, hhitches]
        rfl
      have hdone : (⟨sending.packet, sending.sent + sending.rest.length⟩ : Sending).rest = [] := by
        rw [Sending.rest, Sending.rest, List.length_drop, List.drop_eq_nil_iff]
        dsimp only
        omega
      rw [hall, if_pos hdone]
      exact Nat.one_pos
    · rw [List.tail_cons, List.length_cons]
      split_ifs <;> omega

/-- `send` returns, whatever the state of the line. -/
theorem send_returns (frame : CanFrame) (w : SerialPort μ σ) :
    ∃ out, send (serial_kernel usb bus clock) device frame (w.hitches.length + 2) w
      = some out := by
  obtain ⟨out, hrun, -⟩ : ∃ out, Retry.run (send_turn (serial_kernel usb bus clock) device)
      (w.hitches.length + 2) (send_start frame, w) = some out ∧ True := by
    refine run_of_rank (I := fun _ => True)
      (fun st => st.2.hitches.length + if st.1.rest = [] then 0 else 1)
      (fun _ _ _ _ => trivial) (fun _ _ _ hpass => ⟨trivial, send_turn_rank hpass⟩) trivial ?_
    dsimp only
    split_ifs <;> omega
  exact ⟨out, hrun⟩

/-! `receive` -/

/-- The packets of so many frames are no longer than so many times the longest one. -/
theorem packets_length {fs : List CanFrame} (h : ∀ f ∈ fs, Carried f) :
    (fs.flatMap encode_frame).length ≤ 17 * fs.length := by
  induction fs with
  | nil => exact Nat.le_refl _
  | cons f fs ih =>
    have hrest := ih fun g hg => h g (List.mem_cons_of_mem f hg)
    have hdlc := (h f List.mem_cons_self).dlc
    have hpacket := encode_frame_length hdlc
    have hle : f.dlc.toNat ≤ 8 := hdlc
    rw [List.flatMap_cons, List.length_append, List.length_cons]
    omega

variable (bus) in
/-- Waiting brings no more than was ahead. -/
theorem listen_ahead (w : SerialPort μ σ) : (w.listen bus).ahead bus ≤ w.ahead bus := by
  have hahead := bus.wait_ahead w.bus
  have hlength := packets_length (bus.wait_carried w.bus)
  rw [SerialPort.listen]
  split_ifs with hempty
  · rw [SerialPort.ahead, SerialPort.ahead]
    dsimp only
    omega
  · exact Nat.le_refl _

/-- A call of `select` uses up one hitch, whichever it was. -/
theorem listen_hitches (w : SerialPort μ σ) : (w.listen bus).hitches = w.hitches.tail := by
  rw [SerialPort.listen]
  split_ifs <;> rfl

/-- Each pass that is not the last uses up a hitch, or bytes that were ahead. -/
theorem receive_turn_rank {deadline : ℤ} {st st' : Port (SerialPort μ σ)}
    (hpass : receive_turn (serial_kernel usb bus clock) device deadline st = .again st') :
    st'.2.hitches.length + st'.2.ahead bus < st.2.hitches.length + st.2.ahead bus := by
  obtain ⟨parser, w⟩ := st
  have hahead := listen_ahead bus w.tick
  have htick : w.tick.ahead bus = w.ahead bus := rfl
  have hlisten : (w.tick.listen bus).hitches.length = w.hitches.length - 1 := by
    rw [listen_hitches, List.length_tail]
    rfl
  rw [receive_turn_serial] at hpass
  rcases hpoll : parser.poll with ⟨_ | f, p⟩
  · rw [hpoll] at hpass
    dsimp only at hpass
    split_ifs at hpass with hd hint hempty hread
    · obtain rfl := Pass.again.inj hpass
      have hpos := hitches_pos hint
      have hlength : w.tick.proceed.hitches.length = w.hitches.length - 1 := List.length_tail
      have hsame : w.tick.proceed.ahead bus = w.ahead bus := rfl
      dsimp only
      omega
    · obtain rfl := Pass.again.inj hpass
      have hpos := hitches_pos hread
      have hlength : (w.tick.listen bus).proceed.hitches.length
          = (w.tick.listen bus).hitches.length - 1 := List.length_tail
      have hsame : (w.tick.listen bus).proceed.ahead bus = (w.tick.listen bus).ahead bus := rfl
      dsimp only
      omega
    · obtain rfl := Pass.again.inj hpass
      have hlength : ((w.tick.listen bus).fetch 256).hitches.length
          = (w.tick.listen bus).hitches.length - 1 := List.length_tail
      have hfetch : ((w.tick.listen bus).fetch 256).ahead bus + (w.tick.listen bus).incoming.length
          = (w.tick.listen bus).ahead bus + ((w.tick.listen bus).incoming.length
              - (w.tick.listen bus).limit 256) := by
        rw [SerialPort.fetch, SerialPort.ahead, SerialPort.ahead, SerialPort.proceed]
        dsimp only
        rw [List.length_drop]
        omega
      dsimp only
      rcases hhitches : w.hitches with _ | ⟨hitch, rest⟩
      · -- nothing in the way: something is read
        have hlimit : (w.tick.listen bus).limit 256 = 256 := by
          rw [SerialPort.limit, listen_hitches]
          have htail : w.tick.hitches.tail = [] := by
            rw [SerialPort.tick, hhitches]
            rfl
          rw [htail]
          rfl
        have hpos := List.length_pos_of_ne_nil hempty
        rw [hhitches] at hlisten
        rw [List.length_nil] at hlisten ⊢
        omega
      · rw [hhitches] at hlisten
        rw [List.length_cons] at hlisten ⊢
        omega
  · rw [hpoll] at hpass
    cases hpass

/-- How many passes a `receive` can take. -/
def SerialPort.passes (bus : Bus σ) (w : SerialPort μ σ) : ℕ :=
  w.hitches.length + w.ahead bus + 1

/-- `receive` returns, whatever the state of the line. -/
theorem receive_returns (timeout : ℕ) (st : Port (SerialPort μ σ)) :
    ∃ out, receive (serial_kernel usb bus clock) device timeout (st.2.passes bus) st
      = some out := by
  obtain ⟨out, hrun, -⟩ : ∃ out, Retry.run (receive_turn (serial_kernel usb bus clock) device
      (clock st.2.exchanges st.2.readings + (timeout * 1000000 : ℕ))) (st.2.passes bus)
      (st.1, st.2.tick) = some out ∧ True :=
    run_of_rank (I := fun _ => True) (fun st => st.2.hitches.length + st.2.ahead bus)
      (fun _ _ _ _ => trivial) (fun _ _ _ hpass => ⟨trivial, receive_turn_rank hpass⟩) trivial
      (Nat.lt_succ_self _)
  exact ⟨out, hrun⟩

/-! ## The transport -/

/-- The bytes that have come or can still come and are in no frame received. -/
def unparsed (bus : Bus σ) (st : Port (SerialPort μ σ)) : ℕ :=
  st.1.buffer_.length + st.2.ahead bus

theorem poll_none_length_le {p q : FrameParser} (h : p.poll = (none, q)) :
    q.buffer_.length ≤ p.buffer_.length :=
  (Scanner.poll_none_suffix (FrameParser.poll_none h)).length_le

/-- A pass makes no bytes: what is buffered or on the line after it was so before. -/
theorem receive_turn_unparsed {deadline : ℤ} {st st' : Port (SerialPort μ σ)}
    (hpass : receive_turn (serial_kernel usb bus clock) device deadline st = .again st') :
    unparsed bus st' ≤ unparsed bus st := by
  obtain ⟨parser, w⟩ := st
  have hahead := listen_ahead bus w.tick
  have htick : w.tick.ahead bus = w.ahead bus := rfl
  rw [receive_turn_serial] at hpass
  rcases hpoll : parser.poll with ⟨_ | f, p⟩
  · have hlength := poll_none_length_le hpoll
    rw [hpoll] at hpass
    dsimp only at hpass
    rw [unparsed, unparsed]
    split_ifs at hpass with hd hint hempty hread
    · obtain rfl := Pass.again.inj hpass
      have hsame : w.tick.proceed.ahead bus = w.ahead bus := rfl
      dsimp only
      omega
    · obtain rfl := Pass.again.inj hpass
      have hsame : (w.tick.listen bus).proceed.ahead bus = (w.tick.listen bus).ahead bus := rfl
      dsimp only
      omega
    · -- what is read is in the buffer
      obtain rfl := Pass.again.inj hpass
      rw [SerialPort.ahead] at hahead
      rw [FrameParser.push, SerialPort.fetch, SerialPort.proceed, SerialPort.ahead]
      dsimp only
      rw [List.length_append, List.length_take, List.length_drop]
      omega
  · rw [hpoll] at hpass
    cases hpass

/-- A frame costs bytes: a pass that returns one leaves fewer unparsed. -/
theorem receive_turn_frame {deadline : ℤ} {st st' : Port (SerialPort μ σ)} {f : CanFrame}
    (hpass : receive_turn (serial_kernel usb bus clock) device deadline st
      = .stop (.ok (some f), st')) : unparsed bus st' < unparsed bus st := by
  obtain ⟨parser, w⟩ := st
  rw [receive_turn_serial] at hpass
  rcases hpoll : parser.poll with ⟨_ | g, p⟩
  · rw [hpoll] at hpass
    dsimp only at hpass
    split_ifs at hpass
    · cases congrArg Prod.fst (Pass.stop.inj hpass)
    · cases congrArg Prod.fst (Pass.stop.inj hpass)
  · rw [hpoll] at hpass
    obtain ⟨-, rfl⟩ := Prod.mk.inj (Pass.stop.inj hpass)
    exact Nat.add_lt_add_right (Scanner.poll_length (FrameParser.poll_some hpoll)) _

variable (usb bus clock device) in
/-- The transport as the driver sees it. Its loops end, so the second cases are not
reached (`send_returns`, `receive_returns`). -/
def at_serial : CanInterface (Port (SerialPort μ σ)) where
  send frame st :=
    match send (serial_kernel usb bus clock) device frame (st.2.hitches.length + 2)
        st.2.begin_exchange with
    | some (r, w) => (r, st.1, w)
    | none => (.ok (), st)
  receive timeout st :=
    match receive (serial_kernel usb bus clock) device timeout (st.2.passes bus) st with
    | some out => out
    | none => (.ok none, st)
  now st := (clock st.2.exchanges st.2.readings, st.1, st.2.tick)
  backlog st := unparsed bus st
  now_backlog _ := Nat.le_refl _
  receive_backlog := by
    intro timeout st f st' h
    rcases hrun : receive (serial_kernel usb bus clock) device timeout (st.2.passes bus) st
      with _ | out
    · rw [hrun] at h
      cases congrArg Prod.fst h
    · rw [hrun] at h
      obtain rfl : out = (.ok (some f), st') := h
      refine Ends.invariant (I := fun st' => unparsed bus st' ≤ unparsed bus st)
        (Q := fun out => ∀ f, out.1 = .ok (some f) → unparsed bus out.2 < unparsed bus st)
        ?_ ?_ (ends_iff_run.mpr ⟨_, hrun⟩) (Nat.le_refl _) f rfl
      · rintro a ⟨_, b⟩ hle hpass g rfl
        exact Nat.lt_of_lt_of_le (receive_turn_frame hpass) hle
      · exact fun a a' hle hpass => Nat.le_trans (receive_turn_unparsed hpass) hle

/-! ## It presents the bus -/

/-- A steady clock that keeps every exchange within its time, less a millisecond. With less than
that to spare the time left is counted as 0 ms, and `receive` does not wait for what is on its
way. -/
structure Brisk (timeout_ns : ℤ) (clock : ℕ → ℕ → ℤ) : Prop where
  steady : ∀ exchange, Monotone (clock exchange)
  in_time : ∀ exchange reading,
    clock exchange reading + 1000000 ≤ clock exchange 0 + timeout_ns

/-- The bytes on this side of the module are the packets of the frames that have come. -/
structure Shows (usb : UsbCanModule μ) (st : Port (SerialPort μ σ)) (s : OnBus σ) : Prop where
  bus : st.2.bus = s.bus
  idle : usb.Holds [] st.2.usb
  carried : Bus.AllCarried s
  bytes : st.1.buffer_ ++ st.2.incoming = s.arrived.flatMap encode_frame

variable {clock : ℕ → ℕ → ℤ}

/-- The frames that have arrived are carried by the bus, and so fit the packets of the module. -/
theorem Shows.valid {st : Port (SerialPort μ σ)} {s : OnBus σ} (h : Shows usb st s) :
    ∀ f ∈ s.arrived, f.id < 0x20000000 ∧ f.dlc ≤ 8 :=
  fun f hf => ⟨(h.carried f hf).id, (h.carried f hf).dlc⟩

/-- The clock is no part of it, and neither are the hitches to come. -/
theorem Shows.tick {parser : FrameParser} {w : SerialPort μ σ} {s : OnBus σ}
    (h : Shows usb (parser, w) s) : Shows usb (parser, w.tick) s :=
  ⟨h.bus, h.idle, h.carried, h.bytes⟩

/-- The hitch that comes next is no part of it either. -/
theorem Shows.proceed {parser : FrameParser} {w : SerialPort μ σ} {s : OnBus σ}
    (h : Shows usb (parser, w) s) : Shows usb (parser, w.proceed) s :=
  ⟨h.bus, h.idle, h.carried, h.bytes⟩

theorem listen_exchanges (w : SerialPort μ σ) : (w.listen bus).exchanges = w.exchanges := by
  rw [SerialPort.listen]
  split_ifs <;> rfl

/-- The frames that a `select` finds are received like those that were there; where it
finds none there is none. -/
theorem Shows.listen {parser : FrameParser} {w : SerialPort μ σ} {s : OnBus σ}
    (h : Shows usb (parser, w) s) (hnone : w.incoming = [] → s.arrived = []) :
    ∃ s', Shows usb (parser, w.listen bus) s' ∧
      ((w.listen bus).incoming = [] → bus.next s = (none, s')) ∧
      ((w.listen bus).incoming ≠ [] → bus.next s' = bus.next s) := by
  obtain ⟨b, arrived⟩ := s
  obtain ⟨hbus, hidle, hcarried, hbytes⟩ := h
  dsimp only at hbus hidle hbytes hnone
  rw [SerialPort.listen]
  by_cases hempty : w.incoming = []
  · -- the line is waited on, and brings the packets of what the bus brings
    obtain rfl := hnone hempty
    rw [if_pos hempty]
    rw [hempty, List.append_nil, List.flatMap_nil] at hbytes
    have hwait := bus.wait_carried w.bus
    dsimp only
    rw [hbus] at hwait ⊢
    refine ⟨⟨(bus.wait b).2, (bus.wait b).1⟩, ⟨rfl, hidle, hwait, ?_⟩, ?_⟩
    · dsimp only
      rw [hbytes, List.nil_append]
    · rcases hcome : bus.wait b with ⟨_ | ⟨f, rest⟩, b'⟩
      · exact ⟨fun _ => Bus.next_of_wait_none hcome, fun h => absurd rfl h⟩
      · have hpacket : (f :: rest).flatMap encode_frame ≠ [] := by
          rw [List.flatMap_cons, encode_frame, header]
          exact List.cons_ne_nil _ _
        exact ⟨fun h => absurd h hpacket, fun _ => (Bus.next_of_wait_some hcome).symm⟩
  · rw [if_neg hempty]
    exact ⟨⟨b, arrived⟩, ⟨hbus, hidle, hcarried, hbytes⟩, fun h => absurd h hempty, fun _ => rfl⟩

variable (bus device) in
/-- **`receive`**: whatever the line does, it comes to the next frame of the bus. -/
theorem Shows.receive {parser : FrameParser} {w : SerialPort μ σ} {s : OnBus σ}
    (h : Shows usb (parser, w) s) {deadline : ℤ}
    (hclock : ∀ reading, clock w.exchanges reading < deadline) {passes : ℕ}
    (hpasses : w.hitches.length + w.ahead bus < passes) :
    ∃ out, Retry.run (receive_turn (serial_kernel usb bus clock) device deadline) passes (parser, w)
        = some out ∧
      (out.1 = .ok (bus.next s).1 ∧ Shows usb out.2 (bus.next s).2 ∧
        out.2.2.exchanges = w.exchanges) := by
  refine run_of_rank (I := fun st => st.2.exchanges = w.exchanges ∧
      ∃ s', Shows usb st s' ∧ bus.next s' = bus.next s)
    (fun st => st.2.hitches.length + st.2.ahead bus) ?_ ?_ ⟨rfl, s, h, rfl⟩ hpasses
  · rintro ⟨p, v⟩ out ⟨hexchanges, s', hshows, hnext⟩ hpass
    dsimp only at hexchanges
    rw [receive_turn_serial] at hpass
    rcases poll_packets hshows.valid hshows.bytes with
      ⟨hpoll, hnone⟩ | ⟨f, fs, p', hf, hpoll, hrest⟩
    · rw [hpoll] at hpass
      dsimp only at hpass
      obtain ⟨s'', hlisten, hfound⟩ := hshows.tick.listen hnone
      split_ifs at hpass with hd hint hempty hread
      · exact absurd (hexchanges ▸ hclock v.readings) (not_lt.mpr hd)
      · -- nothing came
        obtain rfl := Pass.stop.inj hpass
        rw [← hnext, hfound.1 hempty]
        exact ⟨rfl, hlisten, (listen_exchanges v.tick).trans hexchanges⟩
    · rw [hpoll] at hpass
      obtain rfl := Pass.stop.inj hpass
      obtain ⟨b, arrived⟩ := s'
      obtain rfl : arrived = f :: fs := hf
      have hcarried := hshows.carried f List.mem_cons_self
      rw [← hnext, Bus.next_of_arrived, hcarried.data]
      exact ⟨rfl, ⟨hshows.bus, hshows.idle, fun g hg =>
        hshows.carried g (List.mem_cons_of_mem f hg), hrest⟩, hexchanges⟩
  · rintro ⟨p, v⟩ st' ⟨hexchanges, s', hshows, hnext⟩ hpass
    refine ⟨?_, receive_turn_rank hpass⟩
    dsimp only at hexchanges
    rw [receive_turn_serial] at hpass
    rcases poll_packets hshows.valid hshows.bytes with
      ⟨hpoll, hnone⟩ | ⟨f, fs, p', hf, hpoll, hrest⟩
    · rw [hpoll] at hpass
      dsimp only at hpass
      obtain ⟨s'', hlisten, hfound⟩ := hshows.tick.listen hnone
      have hsame : (v.tick.listen bus).exchanges = w.exchanges :=
        (listen_exchanges v.tick).trans hexchanges
      split_ifs at hpass with hd hint hempty hread
      · obtain rfl := Pass.again.inj hpass
        exact ⟨hexchanges, s', hshows.tick.proceed, hnext⟩
      · -- interrupted between `select` and `read`
        obtain rfl := Pass.again.inj hpass
        exact ⟨hsame, s'', hlisten.proceed, (hfound.2 hempty).trans hnext⟩
      · obtain rfl := Pass.again.inj hpass
        refine ⟨hsame, s'', ⟨hlisten.bus, hlisten.idle, hlisten.carried, ?_⟩,
          (hfound.2 hempty).trans hnext⟩
        rw [← hlisten.bytes, FrameParser.push, List.append_assoc]
        exact congrArg (p.buffer_ ++ ·) (List.take_append_drop _ _)
    · rw [hpoll] at hpass
      cases hpass

/-- A packet on its way: part of it is written and the module has that part, or all of it
is and the frame is on the bus. -/
def Writes (usb : UsbCanModule μ) (bus : Bus σ) (f : CanFrame) (s : OnBus σ) (parser : FrameParser)
    (st : Sending × SerialPort μ σ) : Prop :=
  st.1.packet = encode_frame f ∧
    ((st.1.sent < st.1.packet.length ∧ usb.Holds (st.1.packet.take st.1.sent) st.2.usb ∧
        st.2.bus = s.bus ∧ parser.buffer_ ++ st.2.incoming = s.arrived.flatMap encode_frame) ∨
      st.1.packet.length ≤ st.1.sent ∧ Shows usb (parser, st.2) (bus.post f s))

/-- A call takes no more than it was given. -/
theorem limit_le (w : SerialPort μ σ) (size : ℕ) : w.limit size ≤ size := by
  rw [SerialPort.limit]
  split
  · exact Nat.min_le_right _ _
  · exact Nat.le_refl _

theorem Writes.proceed {f : CanFrame} {s : OnBus σ} {parser : FrameParser} {sending : Sending}
    {w : SerialPort μ σ} (h : Writes usb bus f s parser (sending, w)) :
    Writes usb bus f s parser (sending, w.proceed) := by
  obtain ⟨heq, hpart | ⟨hdone, hshows⟩⟩ := h
  · exact ⟨heq, .inl hpart⟩
  · exact ⟨heq, .inr ⟨hdone, hshows.proceed⟩⟩

/-- A write that ends before the packet does, and one that ends with it. -/
theorem Writes.take_in {f : CanFrame} (hf : Carried f) {s : OnBus σ} (hs : Bus.AllCarried s)
    {parser : FrameParser} {sending : Sending} {w : SerialPort μ σ}
    (h : Writes usb bus f s parser (sending, w)) (hrest : sending.rest ≠ []) {n : ℕ}
    (hn : n ≤ sending.rest.length) :
    Writes usb bus f s parser ({ sending with sent := sending.sent + n },
      w.take_in usb bus (sending.rest.take n)) := by
  obtain ⟨packet, sent⟩ := sending
  obtain ⟨hpacket, ⟨hsent, hholds, hbus, hbytes⟩ | ⟨hdone, -⟩⟩ := h
  · dsimp only at hpacket hsent hholds hbus hbytes hn ⊢
    rw [Sending.rest] at hn ⊢
    rw [List.length_drop] at hn
    have hmore : packet.take sent ++ (packet.drop sent).take n = packet.take (sent + n) :=
      List.take_add.symm
    refine ⟨hpacket, ?_⟩
    dsimp only
    rcases Nat.lt_or_ge (sent + n) packet.length with hlt | hge
    · -- the module waits for the rest
      have hfront : packet.take sent ++ (packet.drop sent).take n <+: encode_frame f := by
        rw [hmore, ← hpacket]
        exact List.take_prefix _ _
      have hshort : packet.take sent ++ (packet.drop sent).take n ≠ encode_frame f := by
        rw [hmore, ← hpacket]
        intro heq
        have hlength := congrArg List.length heq
        rw [List.length_take] at hlength
        omega
      obtain ⟨hnone, hholds'⟩ := usb.part f _ _ _ hf hholds hfront hshort
      refine .inl ⟨hlt, ?_, ?_, ?_⟩
      · rw [SerialPort.take_in, hnone, ← hmore]
        exact hholds'
      · rw [SerialPort.take_in, hnone]
        exact hbus
      · rw [SerialPort.take_in, hnone]
        exact hbytes
    · have hall : packet.take sent ++ (packet.drop sent).take n = encode_frame f := by
        rw [hmore, List.take_of_length_le hge, hpacket]
      obtain ⟨hframe, hidle⟩ := usb.whole f _ _ _ hf hholds hall
      refine .inr ⟨hge, ?_⟩
      rw [SerialPort.take_in, hframe, List.foldl_cons, List.foldl_nil]
      refine ⟨?_, hidle, hs.post f, ?_⟩
      · dsimp only [SerialPort.post, Bus.post]
        rw [hbus]
      · dsimp only [SerialPort.post, Bus.post]
        rw [List.flatMap_append, ← hbytes, hbus, List.append_assoc]
  · rw [Sending.rest, ne_eq, List.drop_eq_nil_iff] at hrest
    exact absurd hdone hrest

variable (bus clock device) in
/-- **`send`**: whatever the line does, the frame is put on the bus. -/
theorem Shows.send {parser : FrameParser} {w : SerialPort μ σ} {s : OnBus σ}
    (h : Shows usb (parser, w) s) {f : CanFrame} (hf : Carried f) :
    ∃ out, AtSerialCanInterface.send (serial_kernel usb bus clock) device f
        (w.hitches.length + 2) w = some out ∧
      (out.1 = .ok () ∧ Shows usb (parser, out.2) (bus.post f s) ∧
        out.2.exchanges = w.exchanges ∧ out.2.readings = w.readings) := by
  have hpacket : 0 < (encode_frame f).length := by
    rw [encode_frame_length hf.dlc]
    omega
  refine run_of_rank (I := fun st => Writes usb bus f s parser st ∧
      st.2.exchanges = w.exchanges ∧ st.2.readings = w.readings)
    (fun st => st.2.hitches.length + if st.1.rest = [] then 0 else 1) ?_ ?_ ?_ ?_
  · rintro ⟨sending, v⟩ out ⟨hwrites, hcount⟩ hpass
    rw [send_turn_serial] at hpass
    split_ifs at hpass with hrest
    obtain rfl := Pass.stop.inj hpass
    obtain ⟨-, ⟨hsent, -⟩ | ⟨-, hshows⟩⟩ := hwrites
    · -- the loop does not end before the packet is written
      rw [Sending.rest, List.drop_eq_nil_iff] at hrest
      exact absurd hrest (Nat.not_le.mpr hsent)
    · exact ⟨rfl, hshows, hcount⟩
  · rintro ⟨sending, v⟩ st' ⟨hwrites, hcount⟩ hpass
    refine ⟨?_, send_turn_rank hpass⟩
    rw [send_turn_serial] at hpass
    split_ifs at hpass with hrest hint
    · obtain rfl := Pass.again.inj hpass
      exact ⟨hwrites.proceed, hcount⟩
    · obtain rfl := Pass.again.inj hpass
      obtain ⟨-, hexchanges, hreadings⟩ := take_in_counters usb bus
        (sending.rest.take (v.limit sending.rest.length)) v.proceed
      exact ⟨hwrites.proceed.take_in hf h.carried hrest (limit_le _ _),
        hexchanges.trans hcount.1, hreadings.trans hcount.2⟩
  · exact ⟨⟨rfl, .inl ⟨hpacket, h.idle, h.bus, h.bytes⟩⟩, rfl, rfl⟩
  · dsimp only
    split_ifs <;> omega

/-- In the wait of an exchange, with the deadline that the clock has set it. -/
def Waits (usb : UsbCanModule μ) (clock : ℕ → ℕ → ℤ) (timeout_ns : ℤ) (deadline : ℤ)
    (st : Port (SerialPort μ σ)) (s : OnBus σ) : Prop :=
  Shows usb st s ∧ deadline = clock st.2.exchanges 0 + timeout_ns

/-- **The serial transport presents the bus behind the module**: its `send` and its `receive` are
steps of the bus, whatever the hitches of the line. -/
theorem at_serial_presents (usb : UsbCanModule μ) (bus : Bus σ) {clock : ℕ → ℕ → ℤ}
    {timeout_ns : ℤ} (hclock : Brisk timeout_ns clock) (device : String) :
    Presents (at_serial usb bus clock device) bus timeout_ns (Shows usb)
      (Waits usb clock timeout_ns) where
  send := by
    rintro f ⟨parser, w⟩ s hf h
    have h' : Shows usb (parser, w.begin_exchange) s := ⟨h.bus, h.idle, h.carried, h.bytes⟩
    obtain ⟨⟨r, v⟩, hrun, rfl, hshows, hexchanges, hreadings⟩ := h'.send bus device clock hf
    refine ⟨(parser, v), ?_, hshows.tick, ?_⟩
    · have hsend : (at_serial usb bus clock device).send f (parser, w) =
          match AtSerialCanInterface.send (serial_kernel usb bus clock) device f
            (w.begin_exchange.hitches.length + 2) w.begin_exchange with
          | some (r, v) => (r, parser, v)
          | none => (.ok (), parser, w) := rfl
      rw [hsend, hrun]
    · have hstart : (at_serial usb bus clock device).clock (parser, v)
          = clock v.exchanges v.readings := rfl
      rw [hstart, hreadings]
      rfl
  in_time := by
    rintro deadline ⟨parser, w⟩ s ⟨-, rfl⟩
    have hin := hclock.in_time w.exchanges w.readings
    have hnow : (at_serial usb bus clock device).clock (parser, w)
        = clock w.exchanges w.readings := rfl
    dsimp only
    omega
  receive := by
    rintro deadline ⟨parser, w⟩ s ⟨h, rfl⟩
    dsimp only
    -- the reading of the loop, then the reading with which `receive` begins
    let timeout := asked (at_serial usb bus clock device) (clock w.exchanges 0 + timeout_ns)
      (parser, w)
    have hclock' : ∀ reading, clock w.exchanges reading
        < clock w.exchanges (w.readings + 1) + (timeout * 1000000 : ℕ) := by
      intro reading
      have hin := hclock.in_time w.exchanges reading
      have hin' := hclock.in_time w.exchanges w.readings
      have hsteady : clock w.exchanges w.readings ≤ clock w.exchanges (w.readings + 1) :=
        hclock.steady w.exchanges (Nat.le_succ w.readings)
      have hasked : timeout = ((clock w.exchanges 0 + timeout_ns
        - clock w.exchanges w.readings) / 1000000).toNat := rfl
      rw [hasked]
      omega
    have hpasses : w.tick.tick.hitches.length + w.tick.tick.ahead bus < w.tick.passes bus :=
      Nat.lt_succ_self _
    obtain ⟨⟨r, st'⟩, hrun, hr, hshows, hexchanges⟩ :=
      h.tick.tick.receive bus device hclock' hpasses
    refine ⟨st', ?_, hshows, fun _ => ⟨hshows, ?_⟩⟩
    · have hreceive : (at_serial usb bus clock device).receive timeout (parser, w.tick) =
          match Retry.run (receive_turn (serial_kernel usb bus clock) device
            (clock w.exchanges (w.readings + 1) + (timeout * 1000000 : ℕ))) (w.tick.passes bus)
            (parser, w.tick.tick) with
          | some out => out
          | none => (.ok none, parser, w.tick) := rfl
      rw [hrun] at hreceive
      exact hreceive.trans (Prod.ext hr rfl)
    · exact congrArg (fun e => clock e 0 + timeout_ns) hexchanges.symm

end Transport

/-! ## Sessions over the serial line -/

section Session

variable {D : Type} [Add D] [Sub D] [Mul D] [Div D] [Neg D] [NatCast D]
  [LT D] [DecidableLT D] [DoubleMath D] [FloatConv D] {μ σ : Type*}

/-- **A session over the serial line is a session on the bus**: each operation returns or
throws what it does there, and the cache and the bus are left as they are there, whatever
is behind the module, however the bytes are cut up and whatever is interrupted. -/
theorem serial_session (usb : UsbCanModule μ) (bus : Bus σ) {clock : ℕ → ℕ → ℤ} (device : String)
    (self : RobstrideMotor D) (hclock : Brisk self.config_.timeout_ns clock)
    (commands : List (Command D)) {st : Session (Port (SerialPort μ σ)) D}
    {st' : Session (OnBus σ) D} (hst : RobstrideMotor.Alike (Shows usb) st st') :
    List.Forall₂ (fun a b => a.1 = b.1 ∧ RobstrideMotor.Alike (Shows usb) a.2 b.2)
      (Dialogue.session (self.exchange (at_serial usb bus clock device))
        (commands.map (·.operation self)) st)
      (Dialogue.session (bus.exchange self) (commands.map (·.operation self)) st') :=
  session_of_presents (at_serial_presents usb bus hclock device) commands hst

end Session

/-! A module that parses the packets as `FrameParser` does, and a motor that answers each
frame with its feedback after a while. -/

/-- The bytes of a part of a packet are no frame, and stay in the buffer. -/
theorem poll_packet_part {f : CanFrame} (hf : Carried f) {p : FrameParser} {bytes : List UInt8}
    (hfront : p.buffer_ ++ bytes <+: encode_frame f) (hne : p.buffer_ ++ bytes ≠ encode_frame f) :
    (p.push bytes).poll = (none, p.push bytes) := by
  obtain ⟨more, hmore⟩ := hfront
  have hone : (p.push bytes).buffer_ ++ more = [f].flatMap encode_frame := by
    rw [FrameParser.push, hmore, List.flatMap_singleton]
  have hvalid : ∀ g ∈ [f], g.id < 0x20000000 ∧ g.dlc ≤ 8 := by
    intro g hg
    rw [List.mem_singleton.mp hg]
    exact ⟨hf.id, hf.dlc⟩
  rcases poll_packets hvalid hone with ⟨hpoll, -⟩ | ⟨g, fs, p', hg, hpoll, hrest⟩
  · exact hpoll
  · -- a frame would leave the rest of the packet behind it
    obtain ⟨-, rfl⟩ := List.cons.inj hg
    rw [List.flatMap_nil, List.append_eq_nil_iff] at hrest
    obtain ⟨-, rfl⟩ := hrest
    rw [List.append_nil] at hmore
    exact absurd hmore hne

/-- The last part completes the frame, and leaves the buffer empty. -/
theorem poll_packet_whole {f : CanFrame} (hf : Carried f) {p : FrameParser} {bytes : List UInt8}
    (hall : p.buffer_ ++ bytes = encode_frame f) : (p.push bytes).poll = (some f, {}) := by
  have hone : (p.push bytes).buffer_ ++ [] = [f].flatMap encode_frame := by
    rw [FrameParser.push, hall, List.append_nil, List.flatMap_singleton]
  have hvalid : ∀ g ∈ [f], g.id < 0x20000000 ∧ g.dlc ≤ 8 := by
    intro g hg
    rw [List.mem_singleton.mp hg]
    exact ⟨hf.id, hf.dlc⟩
  rcases poll_packets hvalid hone with ⟨-, hnone⟩ | ⟨g, fs, p', hg, hpoll, hrest⟩
  · cases hnone rfl
  · obtain ⟨rfl, rfl⟩ := List.cons.inj hg
    rw [List.flatMap_nil, List.append_nil] at hrest
    obtain ⟨buffer⟩ := p'
    obtain rfl : buffer = [] := hrest
    rw [hpoll, hf.data]

/-- What a module makes of bytes, one poll for each write. -/
def parse_packet (bytes : List UInt8) (p : FrameParser) : List CanFrame × FrameParser :=
  ((p.push bytes).poll.1.toList, (p.push bytes).poll.2)

def parsing_module : UsbCanModule FrameParser where
  accept := parse_packet
  Holds before p := p.buffer_ = before
  part := by
    rintro f before bytes p hf rfl hfront hne
    rw [parse_packet, poll_packet_part hf hfront hne]
    exact ⟨rfl, rfl⟩
  whole := by
    rintro f before bytes p hf rfl hall
    rw [parse_packet, poll_packet_whole hf hall]
    exact ⟨rfl, rfl⟩

theorem enable_answer_carried : Carried fixtures.enable_answer :=
  carried_of_full (by decide) rfl

/-- Each frame is answered, when it is waited for. -/
def answering : Bus ℕ where
  send _ pending := ([], pending + 1)
  wait pending := (List.replicate pending fixtures.enable_answer, 0)
  ahead pending := pending
  wait_ahead _ := by
    rw [List.length_replicate]
    exact Nat.le_refl _
  send_carried _ _ g hg := nomatch hg
  wait_carried _ g hg := List.eq_of_mem_replicate hg ▸ enable_answer_carried

/-- Ninety nanoseconds, one for each reading. -/
def brisk_clock (_exchange reading : ℕ) : ℤ := min reading 90

theorem brisk_clock_brisk : Brisk fixtures.single.config_.timeout_ns brisk_clock where
  steady _ m n h := min_le_min (by exact_mod_cast h) (le_refl _)
  in_time _ reading := by
    have htimeout : fixtures.single.config_.timeout_ns = 100000000 := rfl
    rw [htimeout, brisk_clock, brisk_clock]
    omega

/-- A line on which the first packet is cut up. -/
def hitched : SerialPort FrameParser ℕ where
  usb := {}
  bus := 0
  hitches := [.bytes 5, .interrupted, .bytes 0, .interrupted, .bytes 11]

/-- Two operations, on a line that cuts the first packet up and is interrupted in it twice. -/
theorem serial_session_ok :
    List.Forall₂ (fun a b => a.1 = b.1 ∧ RobstrideMotor.Alike (Shows parsing_module) a.2 b.2)
      (Dialogue.session
        (fixtures.single.exchange (at_serial parsing_module answering brisk_clock "/dev/ttyUSB0"))
        ([.enable, .get_run_mode].map (Command.operation fixtures.single))
        ⟨none, {}, hitched⟩)
      (Dialogue.session (answering.exchange fixtures.single)
        ([.enable, .get_run_mode].map (Command.operation fixtures.single)) ⟨none, ⟨0, []⟩⟩) :=
  serial_session parsing_module answering "/dev/ttyUSB0" fixtures.single brisk_clock_brisk _
    ⟨rfl, rfl, rfl, (fun _ hf => nomatch hf), rfl⟩

end AtSerialCanInterface

end Robstride
