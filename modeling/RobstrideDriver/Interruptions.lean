/-
Interrupted system calls, on both transports.

`AtSerialCanInterface` tests for `EINTR` after each of its system calls and starts the
pass over; `SocketCanInterface` makes each call once and throws whatever `errno` it
fails with. So a run of calls on the serial device comes to what it comes to without the
interruptions, wherever they fall, while a run on a socket does so only if they fall on
none of its system calls (`interruptions_invisible_iff`).

Deadlines are set aside, as an interruption takes time. Whether something comes in the
time of a `receive` is the device's to say, not the time left to `select`; the clock may
read anything, and differ between the two runs, but that it passes no deadline with
something there (`InTime`).
-/
import RobstrideDriver.AtSerialLink
import RobstrideDriver.Lib.Retry
import RobstrideDriver.SocketCan

set_option autoImplicit false

open Retry

namespace Robstride

open AtSerialCanInterface (EINTR)

/-- A call of a transport. -/
inductive TransportCall where
  | send (frame : CanFrame)
  | receive (timeout : ℕ)
deriving DecidableEq, Repr

/-- What a call comes to; `send` has no value. -/
abbrev CallOutcome := Except Exception (Option CanFrame)

/-! ## Calls on a socket -/

namespace SocketCanInterface

section Calls

variable {σ : Type*} (kernel : Kernel σ) (interface_name : String)

/-- One call; `errno` is what is found there by a short write. -/
def call (errno : ℕ) : TransportCall → σ → CallOutcome × σ
  | .send frame, s =>
    let (r, s) := send kernel interface_name errno frame s
    (r.map fun _ => none, s)
  | .receive timeout, s => receive kernel timeout s

/-- A system call that fails sets `errno`, and makes the call throw it. -/
def errno_after (errno : ℕ) : CallOutcome → ℕ
  | .error (.system_error e _) => e
  | _ => errno

/-- Calls one after the other, with `idle` happening before each. -/
def calls_from (idle : σ → σ) : List TransportCall → ℕ → σ → List CallOutcome × σ
  | [], _, s => ([], s)
  | c :: cs, errno, s =>
    let (o, s) := call kernel interface_name errno c (idle s)
    let (os, s) := calls_from idle cs (errno_after errno o) s
    (o :: os, s)

/-- How many system calls a call makes. -/
def system_calls : TransportCall → σ → ℕ
  | .send _, _ => 1
  | .receive timeout, s =>
    1 + if (kernel.select (timeout / 1000) (timeout % 1000 * 1000) s).1 = .ready then 1 else 0

/-- How many system calls a run of calls makes. -/
def system_calls_from (idle : σ → σ) : List TransportCall → ℕ → σ → ℕ
  | [], _, _ => 0
  | c :: cs, errno, s =>
    let (o, s') := call kernel interface_name errno c (idle s)
    system_calls kernel c (idle s) + system_calls_from idle cs (errno_after errno o) s'

/-- The system calls, when they are interrupted. -/
def Kernel.interrupted : Kernel (Interrupted σ) where
  select tv_sec tv_usec := Interrupted.call (.failed EINTR) (kernel.select tv_sec tv_usec)
  read := Interrupted.call (.failed EINTR) kernel.read
  write raw := Interrupted.call (.failed EINTR) (kernel.write raw)

/-- A kernel none of whose calls is interrupted. -/
structure Kernel.Uninterrupted : Prop where
  select : ∀ tv_sec tv_usec s, (kernel.select tv_sec tv_usec s).1 ≠ .failed EINTR
  read : ∀ s, (kernel.read s).1 ≠ .failed EINTR
  write : ∀ raw s, (kernel.write raw s).1 ≠ .failed EINTR

end Calls

section Disturbed

variable {σ : Type*} {kernel : Kernel σ} {interface_name : String}

/-- A call none of whose system calls is interrupted does what it would do if none ever were. -/
theorem call_undisturbed (errno : ℕ) (c : TransportCall) (s : σ) {fates : List Fate}
    (h : .interrupted ∉ fates.take (system_calls kernel c s)) :
    call kernel.interrupted interface_name errno c ⟨s, fates⟩
      = ((call kernel interface_name errno c s).1,
          ⟨(call kernel interface_name errno c s).2, fates.drop (system_calls kernel c s)⟩) := by
  cases c with
  | send frame =>
    have hwrite : kernel.interrupted.write (raw_frame frame) ⟨s, fates⟩ = _ :=
      Interrupted.call_served _ _ s h
    rw [call, call, send_eq, send_eq, hwrite]
    rfl
  | receive timeout =>
    rw [system_calls, List.take_add, List.mem_append, not_or] at h
    have hselect' : kernel.interrupted.select (timeout / 1000) (timeout % 1000 * 1000) ⟨s, fates⟩
        = _ := Interrupted.call_served _ _ s h.1
    rw [system_calls, call, call, ← List.drop_drop]
    rcases hselect : kernel.select (timeout / 1000) (timeout % 1000 * 1000) s with ⟨_ | _ | _, s'⟩
    · rw [hselect] at hselect'
      rw [receive_of_failed hselect, receive_of_failed hselect']
      rfl
    · rw [hselect] at hselect'
      rw [receive_of_timeout hselect, receive_of_timeout hselect']
      rfl
    · -- the second system call
      rw [hselect] at h hselect'
      have hread : kernel.interrupted.read ⟨s', fates.drop 1⟩ = _ :=
        Interrupted.call_served _ _ s' h.2
      rw [receive_of_ready hselect, receive_of_ready hselect', hread]
      rfl

/-- A call one of whose system calls is interrupted throws that, and is over. -/
theorem call_disturbed (errno : ℕ) (c : TransportCall) (s : σ) {fates : List Fate}
    (h : .interrupted ∈ fates.take (system_calls kernel c s)) :
    ∃ what, (call kernel.interrupted interface_name errno c ⟨s, fates⟩).1
      = .error (.system_error EINTR what) := by
  cases c with
  | send frame =>
    obtain ⟨rest, rfl⟩ := exists_eq_interrupted h
    refine ⟨"robstride: failed to send CAN frame on '" ++ interface_name ++ "'", ?_⟩
    rw [call, send_eq]
    rfl
  | receive timeout =>
    rw [system_calls, List.take_add, List.mem_append] at h
    by_cases hfirst : .interrupted ∈ fates.take 1
    · obtain ⟨rest, rfl⟩ := exists_eq_interrupted hfirst
      refine ⟨"robstride: select() failed on CAN socket", ?_⟩
      rw [call, receive_of_failed rfl]
    · have hsecond := h.resolve_left hfirst
      have hselect' : kernel.interrupted.select (timeout / 1000) (timeout % 1000 * 1000) ⟨s, fates⟩
          = _ := Interrupted.call_served _ _ s hfirst
      rcases hselect : kernel.select (timeout / 1000) (timeout % 1000 * 1000) s with ⟨_ | _ | _, s'⟩
      · rw [hselect] at hsecond
        cases hsecond
      · rw [hselect] at hsecond
        cases hsecond
      · rw [hselect] at hsecond hselect'
        obtain ⟨rest, hrest⟩ := exists_eq_interrupted hsecond
        refine ⟨"robstride: failed to read CAN frame", ?_⟩
        rw [call, receive_of_ready hselect', hrest]
        rfl

/-- What `write` returns when it is not interrupted does not look as if it had been. -/
theorem send_reply_ne_EINTR (interface_name : String) {errno : ℕ} (herrno : errno ≠ EINTR)
    {w : WriteResult} (hw : w ≠ .failed EINTR) (what : String) :
    send_reply interface_name errno w ≠ .error (.system_error EINTR what) := by
  cases w with
  | failed e =>
    rintro ⟨⟩
    exact hw rfl
  | written n =>
    rw [send_reply]
    split_ifs
    · rintro ⟨⟩
      exact herrno rfl
    · rintro ⟨⟩

/-- Nor does what `read` returns. -/
theorem read_reply_ne_EINTR {r : ReadResult} (hr : r ≠ .failed EINTR) (what : String) :
    read_reply r ≠ .error (.system_error EINTR what) := by
  cases r with
  | failed e =>
    rintro ⟨⟩
    exact hr rfl
  | read received raw =>
    rw [read_reply]
    split_ifs <;> rintro ⟨⟩

/-- No call throws `EINTR` of itself, so that seeing one is seeing an interruption. -/
theorem call_ne_EINTR (hkernel : kernel.Uninterrupted) {errno : ℕ} (herrno : errno ≠ EINTR)
    (c : TransportCall) (s : σ) (what : String) :
    (call kernel interface_name errno c s).1 ≠ .error (.system_error EINTR what) := by
  cases c with
  | send frame =>
    have hreply := send_reply_ne_EINTR interface_name herrno (hkernel.write (raw_frame frame) s)
      what
    rw [call, send_eq]
    dsimp only
    intro h
    cases hout : send_reply interface_name errno (kernel.write (raw_frame frame) s).1 with
    | error e =>
      rw [hout] at h hreply
      exact hreply (congrArg Except.error (Except.error.inj h))
    | ok u =>
      rw [hout] at h
      cases h
  | receive timeout =>
    rw [call]
    have hsel := hkernel.select (timeout / 1000) (timeout % 1000 * 1000) s
    rcases hselect : kernel.select (timeout / 1000) (timeout % 1000 * 1000) s with ⟨e | _ | _, s'⟩
    · rw [hselect] at hsel
      rw [receive_of_failed hselect]
      rintro ⟨⟩
      exact hsel rfl
    · rw [receive_of_timeout hselect]
      rintro ⟨⟩
    · rw [receive_of_ready hselect]
      exact read_reply_ne_EINTR (hkernel.read s') what

/-- A run of calls, by the first of them: an exception does not keep the next one from being
made. -/
theorem calls_from_cons (kernel : Kernel σ) (idle : σ → σ) (c : TransportCall)
    (cs : List TransportCall) (errno : ℕ) (s : σ) :
    let r := call kernel interface_name errno c (idle s)
    let rest := calls_from kernel interface_name idle cs (errno_after errno r.1) r.2
    calls_from kernel interface_name idle (c :: cs) errno s = (r.1 :: rest.1, rest.2) := rfl

/-- A run comes to the same, value by value, and leaves the same, with its system calls
interrupted as `fates` has it. -/
def Invisible (kernel : Kernel σ) (interface_name : String) (idle : σ → σ)
    (calls : List TransportCall) (errno : ℕ) (s : σ) (fates : List Fate) : Prop :=
  let disturbed :=
    calls_from kernel.interrupted interface_name (Interrupted.map idle) calls errno ⟨s, fates⟩
  let quiet := calls_from kernel interface_name idle calls errno s
  disturbed.1 = quiet.1 ∧ disturbed.2.state = quiet.2

/-- The first interruption is thrown: a run is as if there were none only if there is none on a
system call that it makes. -/
theorem invisible_iff (hkernel : kernel.Uninterrupted) (idle : σ → σ) (calls : List TransportCall)
    {errno : ℕ} (herrno : errno ≠ EINTR) (s : σ) (fates : List Fate) :
    Invisible kernel interface_name idle calls errno s fates ↔
      .interrupted ∉ fates.take (system_calls_from kernel interface_name idle calls errno s) := by
  induction calls generalizing errno s fates with
  | nil => exact ⟨fun _ => List.not_mem_nil, fun _ => ⟨rfl, rfl⟩⟩
  | cons c cs ih =>
    have hne : ∀ what, (call kernel interface_name errno c (idle s)).1
        ≠ .error (.system_error EINTR what) := call_ne_EINTR hkernel herrno c (idle s)
    rw [Invisible, calls_from_cons, calls_from_cons, system_calls_from, List.take_add,
      List.mem_append, not_or]
    dsimp only [Interrupted.map]
    by_cases hcall : .interrupted ∈ fates.take (system_calls kernel c (idle s))
    · obtain ⟨what, hthrown⟩ : ∃ what, (call kernel.interrupted interface_name errno c
          ⟨idle s, fates⟩).1 = .error (.system_error EINTR what) := call_disturbed errno c _ hcall
      constructor
      · rintro ⟨hsame, -⟩
        exact absurd ((List.cons.inj hsame).1.symm.trans hthrown) (hne what)
      · rintro ⟨hnot, -⟩
        exact absurd hcall hnot
    · have herrno' : errno_after errno (call kernel interface_name errno c (idle s)).1 ≠ EINTR := by
        rcases hout : (call kernel interface_name errno c (idle s)).1 with (_ | _ | _ | _) | _
        · exact herrno
        · exact herrno
        · exact herrno
        · rintro rfl
          exact hne _ hout
        · exact herrno
      rw [call_undisturbed errno c (idle s) hcall, List.cons_inj_right]
      exact (ih herrno' _ _).trans (and_iff_right hcall).symm

end Disturbed

end SocketCanInterface

/-! ## Calls on a serial device -/

namespace AtSerialCanInterface

open at_serial
open SocketCanInterface (SelectResult)

inductive ReadOutcome where
  | failed (errno : ℕ)
  | read (bytes : List UInt8)
deriving DecidableEq, Repr

def ReadOutcome.wait_outcome : ReadOutcome → WaitOutcome
  | .failed errno => .read_failed errno
  | .read bytes => .read bytes

/-- The steady clock, in nanoseconds, and the system calls on the device. `select` takes
seconds and microseconds, `read` the size of the buffer. -/
structure Kernel (σ : Type*) where
  now : σ → ℤ × σ
  select : ℕ → ℕ → σ → SelectResult × σ
  read : ℕ → σ → ReadOutcome × σ
  write : List UInt8 → σ → WriteOutcome × σ

section Calls

variable {σ : Type*} (kernel : Kernel σ) (device : String)

/-- One pass of the loop of `send`. -/
def send_turn : Sending × σ → Retry.Pass (Sending × σ) (Except Exception Unit × σ)
  | (sending, s) =>
    if sending.rest = [] then .stop (.ok (), s)
    else
      let (w, s) := kernel.write sending.rest s
      match send_pass device w sending with
      | (.ok sending, _) => .again (sending, s)
      | (.error e, _) => .stop (.error e, s)

/-- `send`, when it returns within so many passes. -/
def send (frame : CanFrame) (passes : ℕ) (s : σ) : Option (Except Exception Unit × σ) :=
  Retry.run (send_turn kernel device) passes (send_start frame, s)

/-- What a pass of the loop of `receive` asks of the clock and the kernel. -/
def wait (deadline : ℤ) (s : σ) : WaitOutcome × σ :=
  let (now, s) := kernel.now s
  if deadline ≤ now then (.expired, s)
  else
    -- `duration_cast` to microseconds
    let remaining := ((deadline - now) / 1000).toNat
    match kernel.select (remaining / 1000000) (remaining % 1000000) s with
    | (.failed errno, s) => (.select_failed errno, s)
    | (.timeout, s) => (.select_timeout, s)
    | (.ready, s) =>
      let (r, s) := kernel.read 256 s
      (r.wait_outcome, s)

/-- The parser, and the state of the kernel. -/
abbrev Port (σ : Type*) := FrameParser × σ

/-- One pass of the loop of `receive`; nothing is asked when the parser has a frame. -/
def receive_turn (deadline : ℤ) : Port σ → Retry.Pass (Port σ) (CallOutcome × Port σ)
  | (parser, s) =>
    match parser.poll with
    | (some frame, p) => .stop (.ok (some frame), p, s)
    | (none, _) =>
      let (w, s) := wait kernel deadline s
      match receive_pass device w parser with
      | (.returned r, p) => .stop (.ok r, p, s)
      | (.threw e, p) => .stop (.error e, p, s)
      | (.again, p) => .again (p, s)

/-- `receive`, when it returns within so many passes. -/
def receive (timeout : ℕ) (passes : ℕ) (st : Port σ) : Option (CallOutcome × Port σ) :=
  let (start, s) := kernel.now st.2
  Retry.run (receive_turn kernel device (start + (timeout * 1000000 : ℕ))) passes (st.1, s)

/-- A call returns. -/
def Returns : TransportCall → Port σ → CallOutcome × Port σ → Prop
  | .send frame, st, out =>
    ∃ r, (∃ passes, send kernel device frame passes st.2 = some r) ∧
      out = (r.1.map fun _ => none, st.1, r.2)
  | .receive timeout, st, out => ∃ passes, receive kernel device timeout passes st = some out

/-- Calls one after the other return, with `idle` happening before each. -/
def AllReturn (idle : σ → σ) : List TransportCall → Port σ → List CallOutcome × Port σ → Prop
  | [], st, out => out = ([], st)
  | c :: cs, st, out =>
    ∃ r, Returns kernel device c (st.1, idle st.2) r ∧
      ∃ rest, AllReturn idle cs r.2 rest ∧ out = (r.1 :: rest.1, rest.2)

variable {kernel device}

/-- A call comes to one thing only, though it is described as a relation. -/
theorem Returns.unique {c : TransportCall} {st : Port σ} {out out' : CallOutcome × Port σ}
    (h : Returns kernel device c st out) (h' : Returns kernel device c st out') : out = out' := by
  cases c with
  | send frame =>
    obtain ⟨r, hr, rfl⟩ := h
    obtain ⟨r', hr', rfl⟩ := h'
    rw [Ends.unique (ends_iff_run.mpr hr) (ends_iff_run.mpr hr')]
  | receive timeout => exact Ends.unique (ends_iff_run.mpr h) (ends_iff_run.mpr h')

/-- So does a run of calls, each of them. -/
theorem AllReturn.unique {idle : σ → σ} {calls : List TransportCall} {st : Port σ}
    {out out' : List CallOutcome × Port σ} (h : AllReturn kernel device idle calls st out)
    (h' : AllReturn kernel device idle calls st out') : out = out' := by
  induction calls generalizing st out out' with
  | nil => exact h.trans h'.symm
  | cons c cs ih =>
    obtain ⟨r, hr, rest, hrest, rfl⟩ := h
    obtain ⟨r', hr', rest', hrest', rfl⟩ := h'
    obtain rfl := hr.unique hr'
    rw [ih hrest hrest']

variable (kernel)

/-- The system calls, when they are interrupted. -/
def Kernel.interrupted : Kernel (Interrupted σ) where
  now s := ((kernel.now s.state).1, ⟨(kernel.now s.state).2, s.fates⟩)
  select tv_sec tv_usec := Interrupted.call (.failed EINTR) (kernel.select tv_sec tv_usec)
  read size := Interrupted.call (.failed EINTR) (kernel.read size)
  write bytes := Interrupted.call (.failed EINTR) (kernel.write bytes)

end Calls

section Waiting

variable {σ : Type*} (kernel : Kernel σ) {deadline : ℤ} (s : σ) {s' : σ}

/-- At the deadline a wait is over before the line is looked at. -/
theorem wait_expired (h : deadline ≤ (kernel.now s).1) :
    wait kernel deadline s = (.expired, (kernel.now s).2) := by
  rw [wait]
  exact if_pos h

variable (h : ¬ deadline ≤ (kernel.now s).1)
include h

/-- A `select` that fails ends the wait with its error. -/
theorem wait_failed {errno : ℕ}
    (hs : ∀ tv_sec tv_usec, kernel.select tv_sec tv_usec (kernel.now s).2 = (.failed errno, s')) :
    wait kernel deadline s = (.select_failed errno, s') := by
  simp only [wait, if_neg h, hs]

/-- A `select` that times out ends the wait without bytes. -/
theorem wait_timeout
    (hs : ∀ tv_sec tv_usec, kernel.select tv_sec tv_usec (kernel.now s).2 = (.timeout, s')) :
    wait kernel deadline s = (.select_timeout, s') := by
  simp only [wait, if_neg h, hs]

/-- A `select` that finds bytes ends the wait with what `read` makes of them. -/
theorem wait_ready
    (hs : ∀ tv_sec tv_usec, kernel.select tv_sec tv_usec (kernel.now s).2 = (.ready, s')) :
    wait kernel deadline s = ((kernel.read 256 s').1.wait_outcome, (kernel.read 256 s').2) := by
  simp only [wait, if_neg h, hs]

end Waiting

/-! ## A device without times -/

/-- What happens on the device: whether something comes in the time of a `receive`, what
a read and a write do, and what happens between two calls. -/
structure Device (σ : Type*) where
  select : σ → SelectResult
  read : ℕ → σ → ReadOutcome × σ
  write : List UInt8 → σ → WriteOutcome × σ
  idle : σ → σ

/-- A device in a run of calls: the call that is on, and how often it has read the clock. -/
structure Wire (σ : Type*) where
  device : σ
  calls : ℕ := 0
  readings : ℕ := 0
deriving DecidableEq, Repr

section Wires

variable {σ : Type*} (dev : Device σ)

/-- The device and a clock, whose readings may depend on anything. -/
def Device.kernel (clock : ℕ → ℕ → σ → ℤ) : Kernel (Wire σ) where
  now w := (clock w.calls w.readings w.device, { w with readings := w.readings + 1 })
  select _ _ w := (dev.select w.device, w)
  read size w := ((dev.read size w.device).1, { w with device := (dev.read size w.device).2 })
  write bytes w := ((dev.write bytes w.device).1, { w with device := (dev.write bytes w.device).2 })

def Device.next_call (w : Wire σ) : Wire σ := ⟨dev.idle w.device, w.calls + 1, 0⟩

/-- The readings that a `receive` makes do not pass its deadline while there is something
for it. -/
structure InTime (readings : ℕ → σ → ℤ) (timeout : ℕ) : Prop where
  steady : ∀ n s s', readings 0 s ≤ readings (n + 1) s'
  in_time : 0 < timeout → ∀ n s s', dev.select s' ≠ .timeout →
    readings (n + 1) s' < readings 0 s + (timeout * 1000000 : ℕ)

/-- What a wait comes to. -/
def Device.outcome (timeout : ℕ) (s : σ) : WaitOutcome × σ :=
  if timeout = 0 then (.expired, s)
  else
    match dev.select s with
    | .failed errno => (.select_failed errno, s)
    | .timeout => (.select_timeout, s)
    | .ready => ((dev.read 256 s).1.wait_outcome, (dev.read 256 s).2)

end Wires

section Waits

variable {σ : Type*} {dev : Device σ} {clock : ℕ → ℕ → σ → ℤ} {device : String}

/-- A pass looks at what the parser finds, and no further: parsers that poll alike are the same to
it. -/
theorem receive_pass_congr {p p' : FrameParser} (h : p'.poll = p.poll) (w : WaitOutcome) :
    receive_pass device w p' = receive_pass device w p := by
  rw [receive_pass, receive_pass, h]

/-- A pass over when the deadline is passed is over like one in which nothing came. -/
theorem receive_pass_expired (p : FrameParser) :
    receive_pass device .expired p = receive_pass device .select_timeout p := rfl

/-- An interrupted pass is idle: it leaves the parser as it was. -/
theorem receive_pass_interrupted {p q : FrameParser} (h : p.poll = (none, q)) {w : WaitOutcome}
    (hw : w = .select_failed EINTR ∨ w = .read_failed EINTR) :
    receive_pass device w p = (.again, q) := by
  rcases hw with rfl | rfl
  · rw [receive_pass, h]
    rfl
  · rw [receive_pass, h]
    rfl

variable (device) in
/-- The clock makes no difference to a pass, as long as it keeps the wait within its time. -/
theorem wait_outcome {timeout : ℕ} {w : Wire σ} (h : InTime dev (clock w.calls) timeout)
    (hr : 0 < w.readings) (s₀ : σ) :
    let x := wait (dev.kernel clock) (clock w.calls 0 s₀ + (timeout * 1000000 : ℕ)) w
    x.2 = ⟨(dev.outcome timeout w.device).2, w.calls, w.readings + 1⟩ ∧
      ∀ p, receive_pass device x.1 p = receive_pass device (dev.outcome timeout w.device).1 p := by
  obtain ⟨s, n, r⟩ := w
  obtain ⟨k, rfl⟩ : ∃ k, r = k + 1 := ⟨r - 1, (Nat.succ_pred_eq_of_pos hr).symm⟩
  dsimp only at h ⊢
  rw [Device.outcome]
  by_cases hd : clock n 0 s₀ + (timeout * 1000000 : ℕ) ≤ clock n (k + 1) s
  · rw [wait_expired (dev.kernel clock) ⟨s, n, k + 1⟩ hd]
    by_cases ht : timeout = 0
    · rw [if_pos ht]
      exact ⟨rfl, fun _ => rfl⟩
    · -- nothing is there, and the pass is over anyhow
      have hnone : dev.select s = .timeout := by
        by_contra hsome
        exact absurd (h.in_time (Nat.pos_of_ne_zero ht) k s₀ s hsome) (not_lt.mpr hd)
      rw [if_neg ht, hnone]
      exact ⟨rfl, receive_pass_expired⟩
  · have ht : timeout ≠ 0 := by
      rintro rfl
      have hsteady := h.steady k s₀ s
      omega
    rw [if_neg ht]
    cases hs : dev.select s with
    | failed errno =>
      rw [wait_failed (dev.kernel clock) ⟨s, n, k + 1⟩ hd fun _ _ => Prod.ext hs rfl]
      exact ⟨rfl, fun _ => rfl⟩
    | timeout =>
      rw [wait_timeout (dev.kernel clock) ⟨s, n, k + 1⟩ hd fun _ _ => Prod.ext hs rfl]
      exact ⟨rfl, fun _ => rfl⟩
    | ready =>
      rw [wait_ready (dev.kernel clock) ⟨s, n, k + 1⟩ hd fun _ _ => Prod.ext hs rfl]
      exact ⟨rfl, fun _ => rfl⟩

/-- A wait whose calls may be interrupted is the same wait, or idle. -/
theorem wait_interrupted (deadline : ℤ) (w : Wire σ) (fates : List Fate) :
    (∃ rest, wait (dev.kernel clock).interrupted deadline ⟨w, fates⟩
        = ((wait (dev.kernel clock) deadline w).1,
          ⟨(wait (dev.kernel clock) deadline w).2, rest⟩)) ∨
      ∃ x rest, wait (dev.kernel clock).interrupted deadline ⟨w, fates⟩
          = (x, ⟨{ w with readings := w.readings + 1 }, rest⟩) ∧
        (x = .select_failed EINTR ∨ x = .read_failed EINTR) ∧ rest.length < fates.length := by
  let k := dev.kernel clock
  let w' : Wire σ := { w with readings := w.readings + 1 }
  by_cases hd : deadline ≤ (k.now w).1
  · refine .inl ⟨fates, ?_⟩
    rw [wait_expired k w hd, wait_expired k.interrupted ⟨w, fates⟩ hd]
    rfl
  · rcases Interrupted.call_cases (.failed EINTR) (k.select 0 0) w' fates with
      ⟨rest, hle, hselect⟩ | ⟨rest, hlt, hselect⟩
    · cases hs : dev.select w.device with
      | failed errno =>
        have hk : k.select 0 0 w' = (.failed errno, w') := Prod.ext hs rfl
        rw [hk] at hselect
        rw [wait_failed k w hd fun _ _ => hk,
          wait_failed k.interrupted ⟨w, fates⟩ hd fun _ _ => hselect]
        exact .inl ⟨rest, rfl⟩
      | timeout =>
        have hk : k.select 0 0 w' = (.timeout, w') := Prod.ext hs rfl
        rw [hk] at hselect
        rw [wait_timeout k w hd fun _ _ => hk,
          wait_timeout k.interrupted ⟨w, fates⟩ hd fun _ _ => hselect]
        exact .inl ⟨rest, rfl⟩
      | ready =>
        have hk : k.select 0 0 w' = (.ready, w') := Prod.ext hs rfl
        rw [hk] at hselect
        rw [wait_ready k w hd fun _ _ => hk,
          wait_ready k.interrupted ⟨w, fates⟩ hd fun _ _ => hselect]
        rcases Interrupted.call_cases (.failed EINTR) (k.read 256) w' rest with
          ⟨rest', -, hread⟩ | ⟨rest', hlt, hread⟩
        · have hread' : k.interrupted.read 256 ⟨w', rest⟩ = _ := hread
          rw [hread']
          exact .inl ⟨rest', rfl⟩
        · have hread' : k.interrupted.read 256 ⟨w', rest⟩ = _ := hread
          rw [hread']
          exact .inr ⟨.read_failed EINTR, rest', rfl, .inr rfl, by omega⟩
    · rw [wait_failed k.interrupted ⟨w, fates⟩ hd fun _ _ => hselect]
      exact .inr ⟨.select_failed EINTR, rest, rfl, .inl rfl, hlt⟩

end Waits

/-! ## Interruptions are idle passes -/

section Undisturbed

variable {σ : Type*} {dev : Device σ} {clock clock' : ℕ → ℕ → σ → ℤ} {device : String}

/-- The device is the same, and so is the call that is on. -/
structure SameWire (call : ℕ) (w : Wire σ) (s : Interrupted (Wire σ)) : Prop where
  device : s.state.device = w.device
  calls : w.calls = call
  calls' : s.state.calls = call

/-- A call comes to the same, and leaves the same parser and device. -/
def SameEnd {α : Type} (call : ℕ) (out : α × Port (Wire σ))
    (out' : α × Port (Interrupted (Wire σ))) : Prop :=
  out'.1 = out.1 ∧ out'.2.1 = out.2.1 ∧ SameWire call out.2.2 out'.2.2

/-- `send` stutters where its write is interrupted. -/
theorem send_turn_stutters (call : ℕ) :
    Stutters (fun st st' => st'.1 = st.1 ∧ SameWire call st.2 st'.2)
      (fun r r' => r'.1 = r.1 ∧ SameWire call r.2 r'.2) (fun st' => st'.2.fates.length)
      (send_turn (dev.kernel clock) device) (send_turn (dev.kernel clock').interrupted device) := by
  rintro ⟨sending, w⟩ ⟨sending', ⟨w', fates⟩⟩ ⟨hsending, hdevice, hcalls, hcalls'⟩
  obtain rfl : sending = sending' := hsending.symm
  dsimp only at hdevice hcalls hcalls' ⊢
  rw [send_turn, send_turn]
  by_cases hrest : sending.rest = []
  · rw [if_pos hrest, if_pos hrest]
    exact .inl (.stop ⟨rfl, hdevice, hcalls, hcalls'⟩)
  rw [if_neg hrest, if_neg hrest]
  have hwrite : ((dev.kernel clock').write sending.rest w').1
      = ((dev.kernel clock).write sending.rest w).1 := congrArg (fun s => (dev.write _ s).1) hdevice
  have hsame : ∀ rest, SameWire call ((dev.kernel clock).write sending.rest w).2
      ⟨((dev.kernel clock').write sending.rest w').2, rest⟩ :=
    fun _ => ⟨congrArg (fun s => (dev.write _ s).2) hdevice, hcalls, hcalls'⟩
  rcases Interrupted.call_cases (.failed EINTR) ((dev.kernel clock').write sending.rest) w' fates
    with ⟨rest, -, hcall⟩ | ⟨rest, hlt, hcall⟩
  · have hcall' : (dev.kernel clock').interrupted.write sending.rest ⟨w', fates⟩ = _ := hcall
    rw [hcall', hwrite]
    dsimp only
    rcases send_pass device ((dev.kernel clock).write sending.rest w).1 sending with ⟨_ | _, _⟩
    · exact .inl (.stop ⟨rfl, hsame rest⟩)
    · exact .inl (.again ⟨rfl, hsame rest⟩)
  · have hcall' : (dev.kernel clock').interrupted.write sending.rest ⟨w', fates⟩ = _ := hcall
    rw [hcall']
    exact .inr ⟨(sending, ⟨w', rest⟩), rfl, ⟨rfl, hdevice, hcalls, hcalls'⟩, hlt⟩

/-- Two waits in the same call, with the same to find in their buffers. -/
structure SameWait (call : ℕ) (st : Port (Wire σ)) (st' : Port (Interrupted (Wire σ))) : Prop where
  poll : st'.1.poll = st.1.poll
  device : st'.2.state.device = st.2.device
  calls : st.2.calls = call
  calls' : st'.2.state.calls = call
  readings : 0 < st.2.readings
  readings' : 0 < st'.2.state.readings

/-- `receive` stutters where its select or its read is interrupted. -/
theorem receive_turn_stutters {call timeout : ℕ} (h : InTime dev (clock call) timeout)
    (h' : InTime dev (clock' call) timeout) (s₀ : σ) :
    Stutters (SameWait call) (SameEnd call) (fun st' => st'.2.fates.length)
      (receive_turn (dev.kernel clock) device (clock call 0 s₀ + (timeout * 1000000 : ℕ)))
      (receive_turn (dev.kernel clock').interrupted device
        (clock' call 0 s₀ + (timeout * 1000000 : ℕ))) := by
  rintro ⟨p, w⟩ ⟨p', ⟨w', fates⟩⟩ hsame
  obtain ⟨hpoll, hdevice, hcall, hcall', hr, hr'⟩ := hsame
  dsimp only at hpoll hdevice hcall hcall' hr hr' ⊢
  subst hcall
  rcases hp : p.poll with ⟨_ | frame, q⟩
  · rw [hp] at hpoll
    rw [receive_turn, receive_turn, hp, hpoll]
    dsimp only
    rw [← hcall'] at h'
    obtain ⟨hstate, hpass⟩ := wait_outcome device h hr s₀
    obtain ⟨hstate', hpass'⟩ := wait_outcome device h' hr' s₀
    rw [hcall'] at hstate' hpass'
    rcases wait_interrupted (clock' w.calls 0 s₀ + (timeout * 1000000 : ℕ)) w' fates with
      ⟨rest, hwait⟩ | ⟨x, rest, hwait, hx, hlt⟩
    · have hsame := (hpass' p').trans
        ((receive_pass_congr (hpoll.trans hp.symm) _).trans (hdevice ▸ (hpass p).symm))
      rw [hwait, hsame, hstate, hstate', hdevice]
      rcases receive_pass device _ p with ⟨r | e | _, q'⟩
      · exact .inl (.stop ⟨rfl, rfl, rfl, rfl, rfl⟩)
      · exact .inl (.stop ⟨rfl, rfl, rfl, rfl, rfl⟩)
      · exact .inl (.again ⟨rfl, rfl, rfl, rfl, Nat.succ_pos _, Nat.succ_pos _⟩)
    · -- the parser has been polled in vain, and nothing else has been done
      rw [hwait, receive_pass_interrupted hpoll hx]
      refine .inr ⟨(q, ⟨{ w' with readings := w'.readings + 1 }, rest⟩), rfl, ?_, hlt⟩
      exact ⟨(FrameParser.poll_none_poll hp).trans hp.symm, hdevice, rfl, hcall', hr,
        Nat.succ_pos _⟩
  · rw [hp] at hpoll
    rw [receive_turn, receive_turn, hp, hpoll]
    exact .inl (.stop ⟨rfl, rfl, hdevice, rfl, hcall'⟩)

/-- A call of either kind, begun alike, comes to the same with interruptions and without. -/
theorem returns_corresponds {call : ℕ} {c : TransportCall}
    (hc : ∀ timeout, c = .receive timeout →
      InTime dev (clock call) timeout ∧ InTime dev (clock' call) timeout)
    (p : FrameParser) (s : σ) (fates : List Fate) :
    Corresponds (SameEnd call) (Returns (dev.kernel clock) device c (p, ⟨s, call, 0⟩))
      (Returns (dev.kernel clock').interrupted device c (p, ⟨⟨s, call, 0⟩, fates⟩)) := by
  cases c with
  | send frame =>
    refine Corresponds.map ((send_turn_stutters call).runs ⟨rfl, rfl, rfl, rfl⟩) ?_
    rintro r r' ⟨hr, hwire⟩
    exact ⟨congrArg (Except.map fun _ => none) hr, rfl, hwire⟩
  | receive timeout =>
    obtain ⟨h, h'⟩ := hc timeout rfl
    exact (receive_turn_stutters h h' s).runs ⟨rfl, rfl, rfl, rfl, Nat.one_pos, Nat.one_pos⟩

variable (device) in
/-- Run lemma: so does any list of calls. -/
theorem allReturn_corresponds {n : ℕ} {calls : List TransportCall}
    (hcalls : ∀ i timeout, calls[i]? = some (.receive timeout) →
      InTime dev (clock (n + i + 1)) timeout ∧ InTime dev (clock' (n + i + 1)) timeout)
    (p : FrameParser) {w : Wire σ} {s : Interrupted (Wire σ)} (hw : SameWire n w s) :
    Corresponds (SameEnd (n + calls.length))
      (AllReturn (dev.kernel clock) device dev.next_call calls (p, w))
      (AllReturn (dev.kernel clock').interrupted device (Interrupted.map dev.next_call) calls
        (p, s)) := by
  induction calls generalizing n p w s with
  | nil =>
    constructor
    · rintro _ rfl
      exact ⟨_, rfl, rfl, rfl, hw⟩
    · rintro _ rfl
      exact ⟨_, rfl, rfl, rfl, hw⟩
  | cons c cs ih =>
    have hnext : dev.next_call w = ⟨dev.idle w.device, n + 1, 0⟩ := by
      rw [Device.next_call, hw.calls]
    have hnext' : Interrupted.map dev.next_call s = ⟨dev.next_call w, s.fates⟩ := by
      rw [Interrupted.map, Device.next_call, Device.next_call, hw.device, hw.calls', hw.calls]
    have hfirst : Corresponds (SameEnd (n + 1))
        (Returns (dev.kernel clock) device c (p, dev.next_call w))
        (Returns (dev.kernel clock').interrupted device c
          (p, Interrupted.map dev.next_call s)) := by
      rw [hnext', hnext]
      exact returns_corresponds (fun timeout hc => hcalls 0 timeout (congrArg some hc)) p _ _
    have hlength : n + (c :: cs).length = n + 1 + cs.length := by
      rw [List.length_cons]
      omega
    rw [hlength]
    refine hfirst.bind ?_
    rintro ⟨o, p₁, w₁⟩ ⟨o', p₁', s₁⟩ ⟨ho, hp, hw₁⟩
    obtain rfl : o = o' := ho.symm
    obtain rfl : p₁ = p₁' := hp.symm
    -- the others are one call further on
    have hrest := ih (n := n + 1) (fun i timeout hc => by
      have hi := hcalls (i + 1) timeout hc
      rwa [show n + (i + 1) + 1 = n + 1 + i + 1 by omega] at hi) p₁ hw₁
    refine hrest.map ?_
    rintro ⟨os, st⟩ ⟨os', st'⟩ ⟨hos, hst⟩
    exact ⟨congrArg (o :: ·) hos, hst⟩

/-- A run comes to the same, value by value, and leaves the same, with its system calls
interrupted as `fates` has it and on another clock: neither returns without the other. -/
def Invisible (dev : Device σ) (clock clock' : ℕ → ℕ → σ → ℤ) (device : String)
    (calls : List TransportCall) (p : FrameParser) (s : σ) (fates : List Fate) : Prop :=
  ∀ outcomes p' s',
    (∃ w, AllReturn (dev.kernel clock) device dev.next_call calls (p, ⟨s, 0, 0⟩)
        (outcomes, p', w) ∧ w.device = s') ↔
      ∃ w, AllReturn (dev.kernel clock').interrupted device (Interrupted.map dev.next_call) calls
        (p, ⟨⟨s, 0, 0⟩, fates⟩) (outcomes, p', w) ∧ w.state.device = s'

/-- **On the serial device no interruption is seen**: with any interruptions a run comes to the same
results, parser and device as without them, and it ends if that does. -/
theorem invisible {calls : List TransportCall}
    (h : ∀ i timeout, calls[i]? = some (.receive timeout) → InTime dev (clock (i + 1)) timeout)
    (h' : ∀ i timeout, calls[i]? = some (.receive timeout) → InTime dev (clock' (i + 1)) timeout)
    (p : FrameParser) (s : σ) (fates : List Fate) :
    Invisible dev clock clock' device calls p s fates := by
  have hboth : ∀ i timeout, calls[i]? = some (.receive timeout) →
      InTime dev (clock (0 + i + 1)) timeout ∧ InTime dev (clock' (0 + i + 1)) timeout := by
    intro i timeout hi
    rw [Nat.zero_add]
    exact ⟨h i timeout hi, h' i timeout hi⟩
  obtain ⟨hto, hfrom⟩ := allReturn_corresponds device hboth p
    (w := ⟨s, 0, 0⟩) (s := ⟨⟨s, 0, 0⟩, fates⟩) ⟨rfl, rfl, rfl⟩
  intro outcomes p' s'
  constructor
  · rintro ⟨w, hall, rfl⟩
    obtain ⟨⟨_, _, w'⟩, hall', rfl, rfl, hwire⟩ := hto _ hall
    exact ⟨w', hall', hwire.device⟩
  · rintro ⟨w', hall', rfl⟩
    obtain ⟨⟨_, _, w⟩, hall, hout, hparser, hwire⟩ := hfrom _ hall'
    obtain rfl := hout
    obtain rfl := hparser
    exact ⟨w, hall, hwire.device.symm⟩

end Undisturbed

end AtSerialCanInterface

/-! ## Both transports -/

/-- **When interruptions are invisible.** On the serial device always: an interrupted call is made
again, and neither the results of the calls nor what they leave tells that it was. On a socket
exactly when none falls on a system call that the run makes, for `send` and `receive` there throw
what `select` and `write` return. -/
theorem interruptions_invisible_iff {σ τ : Type*} {kernel : SocketCanInterface.Kernel σ}
    (hkernel : kernel.Uninterrupted) (idle : σ → σ) (interface_name : String) {errno : ℕ}
    (herrno : errno ≠ EINTR) (s : σ) {dev : AtSerialCanInterface.Device τ}
    {clock clock' : ℕ → ℕ → τ → ℤ} (device : String) (p : at_serial.FrameParser) (t : τ)
    (calls : List TransportCall) (fates : List Fate)
    (h : ∀ i timeout, calls[i]? = some (.receive timeout) →
      AtSerialCanInterface.InTime dev (clock (i + 1)) timeout)
    (h' : ∀ i timeout, calls[i]? = some (.receive timeout) →
      AtSerialCanInterface.InTime dev (clock' (i + 1)) timeout) :
    (SocketCanInterface.Invisible kernel interface_name idle calls errno s fates ↔
        .interrupted ∉ fates.take
          (SocketCanInterface.system_calls_from kernel interface_name idle calls errno s)) ∧
      AtSerialCanInterface.Invisible dev clock clock' device calls p t fates :=
  ⟨SocketCanInterface.invisible_iff hkernel idle calls herrno s fates,
    AtSerialCanInterface.invisible h h' p t fates⟩

/-! An `enable` whose answer arrives after a millisecond, and is there for the serial
device in pieces of five bytes. The second system call is interrupted. -/

namespace SocketCanInterface

def enable_answered : Socket where
  now := 0
  pending := [⟨1000000, raw_frame fixtures.enable_answer⟩]
  ordered := by simp

/-- A queue of frames never says `EINTR` of itself. -/
theorem queue_uninterrupted : queue.Uninterrupted where
  select tv_sec tv_usec s := by
    rw [queue]
    dsimp only
    split
    · intro h
      cases h
    · split_ifs <;> (intro h; cases h)
  read s := by
    rw [queue]
    dsimp only
    split
    · exact fun h => absurd (ReadResult.failed.inj h) (by decide)
    · intro h
      cases h
  write raw s h := by cases h

end SocketCanInterface

def enable_calls : List TransportCall := [.send (make_enable_frame 0x01 0xFD), .receive 100]

/-- A device that returns what is written, five bytes at a time. -/
def loopback : AtSerialCanInterface.Device (List UInt8) where
  select line := if line = [] then .timeout else .ready
  read _ line := (.read (line.take 5), line.drop 5)
  write bytes line := (.written (min 5 bytes.length), line ++ bytes.take 5)
  idle line := line

def stopped_clock : ℕ → ℕ → List UInt8 → ℤ := fun _ _ _ => 0

/-- The calls of `enable()`, the second system call interrupted: on the socket that shows, on the
serial device the frame is received as if nothing had been. -/
theorem interruptions_invisible_iff_enable :
    ¬ SocketCanInterface.Invisible SocketCanInterface.queue "can0" id enable_calls 0
        SocketCanInterface.enable_answered [.served, .interrupted] ∧
      AtSerialCanInterface.Invisible loopback stopped_clock stopped_clock "/dev/ttyUSB0"
        enable_calls {} [] [.served, .interrupted] ∧
      ∃ w, AtSerialCanInterface.AllReturn (loopback.kernel stopped_clock).interrupted "/dev/ttyUSB0"
          (Interrupted.map loopback.next_call) enable_calls
          ({}, ⟨⟨[], 0, 0⟩, [.served, .interrupted]⟩)
          ([.ok none, .ok (some (make_enable_frame 0x01 0xFD))], {}, w) ∧
        w.state.device = [] := by
  have hclock : ∀ i timeout, enable_calls[i]? = some (.receive timeout) →
      AtSerialCanInterface.InTime loopback (stopped_clock (i + 1)) timeout := by
    intro i timeout _
    refine ⟨fun _ _ _ => le_refl 0, fun ht _ _ _ _ => ?_⟩
    have hpos : (0 : ℤ) < 0 + (timeout * 1000000 : ℕ) := by omega
    exact hpos
  have hboth := interruptions_invisible_iff SocketCanInterface.queue_uninterrupted id "can0"
    (by decide : (0 : ℕ) ≠ EINTR) SocketCanInterface.enable_answered "/dev/ttyUSB0" {} []
    enable_calls [.served, .interrupted] hclock hclock
  refine ⟨fun hsame => absurd (hboth.1.mp hsame) (by decide +kernel), hboth.2, ?_⟩
  -- as without the interruption, in five passes each
  refine (hboth.2 _ _ _).mp ⟨⟨[], 2, 5⟩, ?_, rfl⟩
  refine ⟨(.ok none, {}, ⟨_, 1, 0⟩), ⟨(.ok (), ⟨_, 1, 0⟩), ⟨5, rfl⟩, rfl⟩, ?_⟩
  refine ⟨([.ok (some (make_enable_frame 0x01 0xFD))], {}, ⟨[], 2, 5⟩), ?_, rfl⟩
  exact ⟨(.ok (some (make_enable_frame 0x01 0xFD)), {}, ⟨[], 2, 5⟩), ⟨5, by decide +kernel⟩,
    ([], {}, ⟨[], 2, 5⟩), rfl, rfl⟩

/-- The interruption is thrown, and the answer stays in the queue, so that the exchange fails with
its answer there. -/
theorem interrupted_receive_throws :
    (¬ ∀ (calls : List TransportCall) (s : SocketCanInterface.Socket) (fates : List Fate),
        SocketCanInterface.Invisible SocketCanInterface.queue "can0" id calls 0 s fates) ∧
      (SocketCanInterface.calls_from SocketCanInterface.queue.interrupted "can0"
          (Interrupted.map id) enable_calls 0
          ⟨SocketCanInterface.enable_answered, [.served, .interrupted]⟩).1
        = [.ok none, .error (.system_error EINTR "robstride: select() failed on CAN socket")] := by
  refine ⟨fun hall => ?_, by decide +kernel⟩
  have hsame := (hall enable_calls SocketCanInterface.enable_answered [.served, .interrupted]).1
  revert hsame
  decide +kernel

end Robstride
