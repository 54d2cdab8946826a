/-
`socket_can_interface.cpp`: the SocketCAN transport, and what it receives.

`receive` is written over a record of the system calls it makes. The kernel it is
studied on is the one the transport is meant for: a queue of complete raw frames
with their arrival times, a `select` that is ready when the next one arrives
before its timeout, a `read` that takes one frame.

The interface says that `receive` returns `nullopt` on timeout and that only
extended data frames are received. The code returns `nullopt` also for a frame it
ignores, and tests for ignoring only the extended-frame flag, so a remote or
error frame that carries it is returned as data. `reception_exact_iff` is the
exact class of traffic on which the two do not show: no such frame, and no
extended frame after one that is ignored.
-/
import RobstrideDriver.Fixtures
import RobstrideDriver.TransceiveRules

set_option autoImplicit false

open CppArith

namespace Robstride

namespace SocketCanInterface

/-! ## The transport -/

def CAN_EFF_FLAG : UInt32 := 0x80000000
def CAN_RTR_FLAG : UInt32 := 0x40000000
def CAN_ERR_FLAG : UInt32 := 0x20000000
def CAN_EFF_MASK : UInt32 := 0x1FFFFFFF

/-- `struct can_frame`. -/
structure RawFrame where
  can_id : UInt32
  can_dlc : UInt8
  data : Vector UInt8 8
deriving DecidableEq, Repr

/-- `sizeof(struct can_frame)`. -/
def raw_size : ℕ := 16

inductive SelectResult where
  | failed (errno : ℕ)
  | timeout
  | ready
deriving DecidableEq, Repr

/-- How many bytes `read` or `write` reports, and the frame they were read into. -/
inductive ReadResult where
  | failed (errno : ℕ)
  | read (received : ℕ) (raw : RawFrame)
deriving DecidableEq, Repr

inductive WriteResult where
  | failed (errno : ℕ)
  | written (n : ℕ)
deriving DecidableEq, Repr

/-- The system calls on the socket; `select` takes seconds and microseconds. -/
structure Kernel (σ : Type*) where
  select : ℕ → ℕ → σ → SelectResult × σ
  read : σ → ReadResult × σ
  write : RawFrame → σ → WriteResult × σ

section Functions

variable {σ : Type*} (kernel : Kernel σ)

/-- `send`; a short write leaves the `errno` of whatever failed last. -/
def send (interface_name : String) (last_errno : ℕ) (frame : CanFrame) (s : σ) :
    Except Exception Unit × σ :=
  let raw : RawFrame :=
    { can_id := (frame.id &&& CAN_EFF_MASK) ||| CAN_EFF_FLAG
      can_dlc := frame.dlc
      data := frame.data }
  let what := "robstride: failed to send CAN frame on '" ++ interface_name ++ "'"
  match kernel.write raw s with
  | (.failed errno, s) => (.error (.system_error errno what), s)
  | (.written n, s) =>
    if n ≠ raw_size then (.error (.system_error last_errno what), s) else (.ok (), s)

/-- The frame `receive` makes of a raw one. -/
def RawFrame.frame (raw : RawFrame) : CanFrame :=
  { id := raw.can_id &&& CAN_EFF_MASK, data := raw.data, dlc := raw.can_dlc }

def receive (timeout : ℕ) (s : σ) : Except Exception (Option CanFrame) × σ :=
  match kernel.select (timeout / 1000) (timeout % 1000 * 1000) s with
  | (.failed errno, s) =>
    (.error (.system_error errno "robstride: select() failed on CAN socket"), s)
  | (.timeout, s) => (.ok none, s)
  | (.ready, s) =>
    match kernel.read s with
    | (.failed errno, s) =>
      (.error (.system_error errno "robstride: failed to read CAN frame"), s)
    | (.read received raw, s) =>
      -- short reads and non-extended frames are ignored, as if nothing had come
      if received ≠ raw_size ∨ raw.can_id &&& CAN_EFF_FLAG = 0 then (.ok none, s)
      else (.ok (some raw.frame), s)

end Functions

/-! ## By what the system calls report -/

/-- The frame `send` hands to `write`. -/
def raw_frame (frame : CanFrame) : RawFrame :=
  { can_id := (frame.id &&& CAN_EFF_MASK) ||| CAN_EFF_FLAG
    can_dlc := frame.dlc
    data := frame.data }

/-- What `send` makes of its write. -/
def send_reply (interface_name : String) (last_errno : ℕ) : WriteResult → Except Exception Unit
  | .failed errno =>
    .error
      (.system_error errno ("robstride: failed to send CAN frame on '" ++ interface_name ++ "'"))
  | .written n =>
    if n ≠ raw_size then
      .error
        (.system_error last_errno
          ("robstride: failed to send CAN frame on '" ++ interface_name ++ "'"))
    else .ok ()

/-- What `receive` makes of its read. -/
def read_reply : ReadResult → Except Exception (Option CanFrame)
  | .failed errno => .error (.system_error errno "robstride: failed to read CAN frame")
  | .read received raw =>
    if received ≠ raw_size ∨ raw.can_id &&& CAN_EFF_FLAG = 0 then .ok none else .ok (some raw.frame)

section Replies

variable {σ : Type*} {kernel : Kernel σ}

theorem send_eq (interface_name : String) (last_errno : ℕ) (frame : CanFrame) (s : σ) :
    send kernel interface_name last_errno frame s
      = (send_reply interface_name last_errno (kernel.write (raw_frame frame) s).1,
          (kernel.write (raw_frame frame) s).2) := by
  rw [send, ← raw_frame]
  rcases kernel.write (raw_frame frame) s with ⟨_ | n, s'⟩
  · rfl
  · dsimp only [send_reply]
    split_ifs <;> rfl

variable {timeout : ℕ} {s s' : σ}

theorem receive_of_failed {errno : ℕ}
    (h : kernel.select (timeout / 1000) (timeout % 1000 * 1000) s = (.failed errno, s')) :
    receive kernel timeout s
      = (.error (.system_error errno "robstride: select() failed on CAN socket"), s') := by
  rw [receive, h]

theorem receive_of_timeout
    (h : kernel.select (timeout / 1000) (timeout % 1000 * 1000) s = (.timeout, s')) :
    receive kernel timeout s = (.ok none, s') := by
  rw [receive, h]

theorem receive_of_ready
    (h : kernel.select (timeout / 1000) (timeout % 1000 * 1000) s = (.ready, s')) :
    receive kernel timeout s = (read_reply (kernel.read s').1, (kernel.read s').2) := by
  rw [receive, h]
  dsimp only
  rcases kernel.read s' with ⟨_ | ⟨received, raw⟩, s''⟩
  · rfl
  · dsimp only [read_reply]
    split_ifs <;> rfl

end Replies

/-! ## A socket that is a queue -/

/-- A raw frame and the time it arrives, in nanoseconds. -/
structure Arrival where
  time : ℤ
  raw : RawFrame
deriving DecidableEq, Repr

/-- The traffic still to be read, in order of arrival, and the time. -/
structure Socket where
  now : ℤ
  pending : List Arrival
  ordered : pending.Pairwise fun a b => a.time ≤ b.time
  written : List RawFrame := []
deriving DecidableEq

/-- Time passes. -/
def Socket.wait_until (s : Socket) (t : ℤ) : Socket := { s with now := t }

/-- The next frame is taken. -/
def Socket.pop (s : Socket) : Socket :=
  { s with pending := s.pending.tail, ordered := s.ordered.tail }

theorem pop_pending {s : Socket} {a : Arrival} {rest : List Arrival}
    (hp : s.pending = a :: rest) (t : ℤ) : ((s.wait_until t).pop).pending = rest :=
  congrArg List.tail hp

/-- Complete frames, first in first out; `select` is ready if and only if one is
there before its timeout, and returns when it is. -/
def queue : Kernel Socket where
  select tv_sec tv_usec s :=
    -- the timeout is in the units of `timeval`
    let deadline := s.now + (tv_sec * 1000000000 + tv_usec * 1000 : ℕ)
    match s.pending with
    | [] => (.timeout, s.wait_until deadline)
    | a :: _ =>
      if a.time ≤ deadline then (.ready, s.wait_until (max s.now a.time))
      else (.timeout, s.wait_until deadline)
  read s :=
    match s.pending with
    | [] => (.failed 11, s)
    | a :: _ => (.read raw_size a.raw, s.pop)
  write raw s := (.written raw_size, { s with written := s.written ++ [raw] })

/-- The frame carries the extended-frame flag, all that `receive` looks at. -/
def RawFrame.Extended (raw : RawFrame) : Prop := raw.can_id &&& CAN_EFF_FLAG ≠ 0

instance (raw : RawFrame) : Decidable raw.Extended := inferInstanceAs (Decidable (_ ≠ _))

/-- The frames that `receive` ignores are the standard ones. Remote and error frames are not told
from data frames. -/
theorem ignored_iff {raw : RawFrame} :
    (raw_size ≠ raw_size ∨ raw.can_id &&& CAN_EFF_FLAG = 0) ↔ ¬ raw.Extended := by
  simp [RawFrame.Extended]

/-- An extended data frame: neither a remote nor an error frame. -/
def RawFrame.ExtendedData (raw : RawFrame) : Prop :=
  raw.Extended ∧ raw.can_id &&& CAN_RTR_FLAG = 0 ∧ raw.can_id &&& CAN_ERR_FLAG = 0

instance (raw : RawFrame) : Decidable raw.ExtendedData := inferInstanceAs (Decidable (_ ∧ _))

section Receive

variable {s : Socket} {timeout : ℕ}

theorem timeval (timeout : ℕ) :
    timeout / 1000 * 1000000000 + timeout % 1000 * 1000 * 1000 = timeout * 1000000 := by
  omega

/-- Nothing arrives in time, and `receive` returns `nullopt` when the timeout is over. -/
theorem receive_idle (h : ∀ a ∈ s.pending.head?, s.now + (timeout * 1000000 : ℕ) < a.time) :
    receive queue timeout s = (.ok none, s.wait_until (s.now + (timeout * 1000000 : ℕ))) := by
  rw [receive, queue]
  dsimp only
  rw [timeval]
  cases hp : s.pending with
  | nil => rfl
  | cons a rest =>
    have ha : ¬ a.time ≤ s.now + (timeout * 1000000 : ℕ) :=
      not_le.mpr (h a (by rw [hp]; rfl))
    simp only [if_neg ha]

variable {a : Arrival} {rest : List Arrival} (hp : s.pending = a :: rest)
  (ha : a.time ≤ s.now + (timeout * 1000000 : ℕ))
include hp ha

/-- The next frame arrives in time and is extended: it is returned, be it a data frame or not. -/
theorem receive_extended (hext : a.raw.Extended) :
    receive queue timeout s
      = (.ok (some a.raw.frame), (s.wait_until (max s.now a.time)).pop) := by
  rw [receive, queue]
  dsimp only
  rw [timeval, hp]
  simp only [if_pos ha, Socket.wait_until, hp, if_neg fun h => ignored_iff.mp h hext]

/-- The next frame arrives in time and is not extended: it is taken, and `nullopt` returned at
once. -/
theorem receive_ignored (hext : ¬ a.raw.Extended) :
    receive queue timeout s = (.ok none, (s.wait_until (max s.now a.time)).pop) := by
  rw [receive, queue]
  dsimp only
  rw [timeval, hp]
  simp only [if_pos ha, Socket.wait_until, hp, if_pos (ignored_iff.mpr hext)]

end Receive

/-- Everything `receive` can do on the queue: to wait in vain, to return an extended frame, or to
ignore one. -/
theorem receive_cases (timeout : ℕ) (s : Socket) :
    ((∀ a ∈ s.pending, s.now + (timeout * 1000000 : ℕ) < a.time) ∧
        receive queue timeout s
          = (.ok none, s.wait_until (s.now + (timeout * 1000000 : ℕ)))) ∨
      ∃ a rest, s.pending = a :: rest ∧ a.time ≤ s.now + (timeout * 1000000 : ℕ) ∧
        (a.raw.Extended ∧ receive queue timeout s
            = (.ok (some a.raw.frame), (s.wait_until (max s.now a.time)).pop) ∨
          ¬ a.raw.Extended ∧ receive queue timeout s
            = (.ok none, (s.wait_until (max s.now a.time)).pop)) := by
  cases hp : s.pending with
  | nil =>
    refine Or.inl ⟨by simp, receive_idle ?_⟩
    intro a ha
    rw [hp] at ha
    cases ha
  | cons a rest =>
    by_cases ha : a.time ≤ s.now + (timeout * 1000000 : ℕ)
    · refine Or.inr ⟨a, rest, rfl, ha, ?_⟩
      by_cases hext : a.raw.Extended
      · exact Or.inl ⟨hext, receive_extended hp ha hext⟩
      · exact Or.inr ⟨hext, receive_ignored hp ha hext⟩
    · -- later frames arrive later still
      have hlt := not_le.mp ha
      have hordered := s.ordered
      rw [hp] at hordered
      refine Or.inl ⟨?_, receive_idle ?_⟩
      · intro b hb
        rcases List.mem_cons.mp hb with rfl | hb
        · exact hlt
        · exact lt_of_lt_of_le hlt (List.rel_of_pairwise_cons hordered hb)
      · intro b hb
        rw [hp] at hb
        obtain rfl := Option.some.inj hb
        exact hlt

/-- The transport as the driver sees it. -/
def socket_can (interface_name : String) : CanInterface Socket where
  send frame s := send queue interface_name 0 frame s
  receive timeout s := receive queue timeout s
  now s := (s.now, s)
  backlog s := s.pending.length
  now_backlog _ := Nat.le_refl _
  receive_backlog := by
    intro t s f s' h
    rcases receive_cases t s with ⟨-, hr⟩ | ⟨a, rest, hp, -, ⟨-, hr⟩ | ⟨-, hr⟩⟩
    · rw [hr] at h
      cases congrArg Prod.fst h
    · rw [hr] at h
      obtain ⟨-, rfl⟩ := Prod.mk.inj h
      rw [pop_pending hp, hp]
      exact Nat.lt_succ_self _
    · rw [hr] at h
      cases congrArg Prod.fst h

theorem send_queue (interface_name : String) (frame : CanFrame) (s : Socket) :
    ∃ raw, (socket_can interface_name).send frame s
      = (.ok (), { s with written := s.written ++ [raw] }) := by
  exact ⟨_, rfl⟩

/-! ## What reception should be -/

/-- One `receive` call: how long after the one before, and its timeout. -/
structure Call where
  idle : ℕ
  timeout : ℕ
deriving DecidableEq, Repr

def Call.run (c : Call) (s : Socket) : Except Exception (Option CanFrame) × Socket :=
  receive queue c.timeout (s.wait_until (s.now + c.idle))

/-- The frame a call returns, if it returns one. -/
def frame_of : Except Exception (Option CanFrame) → Option CanFrame
  | .ok r => r
  | .error _ => none

/-- Successive calls: the frames returned, and the socket after. -/
def calls : List Call → Socket → List CanFrame × Socket
  | [], s => ([], s)
  | c :: cs, s =>
    ((frame_of (c.run s).1).toList ++ (calls cs (c.run s).2).1, (calls cs (c.run s).2).2)

/-- The extended data frames of some traffic. -/
def data_frames (traffic : List Arrival) : List CanFrame :=
  (traffic.filter fun a => a.raw.ExtendedData).map fun a => a.raw.frame

/-- `nullopt` means that no extended data frame arrives in time. -/
def NulloptOnTimeout (s : Socket) : Prop :=
  ∀ c : Call, frame_of (c.run s).1 = none → ∀ a ∈ s.pending, a.raw.ExtendedData →
    s.now + c.idle + (c.timeout * 1000000 : ℕ) < a.time

/-- An exchange whose answer has arrived, whatever is queued before it, returns. -/
def QueuedAnswerReturned {D : Type} [Add D] [Sub D] [Mul D] [Div D] [Neg D] [NatCast D]
    (self : RobstrideMotor D) (interface_name : String) (s : Socket) : Prop :=
  0 < self.config_.response_timeout → ∀ frame type last, ∀ a ∈ s.pending, a.time ≤ s.now →
    a.raw.ExtendedData → self.Answers type a.raw.frame →
      ∃ r st', self.transceive (socket_can interface_name) frame type ⟨last, s⟩ = (.ok r, st')

/-- Reception is exact: after any calls, the frames returned are the extended data
frames read so far, `nullopt` means timeout, and queued answers are found. -/
def ReceptionExact {D : Type} [Add D] [Sub D] [Mul D] [Div D] [Neg D] [NatCast D]
    (self : RobstrideMotor D) (interface_name : String) (s : Socket) : Prop :=
  ∀ cs : List Call,
    (calls cs s).1 ++ data_frames (calls cs s).2.pending = data_frames s.pending ∧
      NulloptOnTimeout (calls cs s).2 ∧
      QueuedAnswerReturned self interface_name (calls cs s).2

/-- The traffic the code receives exactly: every extended frame is a data frame,
and none comes after a frame that is not extended. -/
def Benign (traffic : List Arrival) : Prop :=
  (∀ a ∈ traffic, a.raw.Extended → a.raw.ExtendedData) ∧
    traffic.Pairwise fun a b => b.raw.Extended → a.raw.Extended

/-! ## On benign traffic -/

theorem data_frames_cons_data {a : Arrival} {rest : List Arrival} (h : a.raw.ExtendedData) :
    data_frames (a :: rest) = a.raw.frame :: data_frames rest := by
  rw [data_frames, List.filter_cons_of_pos (by simpa using h), List.map_cons, data_frames]

/-- Ignored, remote and error frames are none of those to be received. -/
theorem data_frames_cons_other {a : Arrival} {rest : List Arrival} (h : ¬ a.raw.ExtendedData) :
    data_frames (a :: rest) = data_frames rest := by
  rw [data_frames, List.filter_cons_of_neg (by simpa using h), data_frames]

theorem Benign.tail {a : Arrival} {rest : List Arrival} (h : Benign (a :: rest)) : Benign rest :=
  ⟨fun b hb => h.1 b (List.mem_cons_of_mem a hb), (List.pairwise_cons.mp h.2).2⟩

/-- A data frame may come before benign traffic, and an ignored frame if no extended one
comes after it. -/
theorem Benign.cons {a : Arrival} {rest : List Arrival} (h : Benign rest)
    (hdata : a.raw.Extended → a.raw.ExtendedData)
    (hlast : ¬ a.raw.Extended → ∀ b ∈ rest, ¬ b.raw.Extended) : Benign (a :: rest) := by
  refine ⟨?_, List.pairwise_cons.mpr ⟨fun b hb hbext => ?_, h.2⟩⟩
  · intro b hb
    rcases List.mem_cons.mp hb with rfl | hb
    · exact hdata
    · exact h.1 b hb
  · by_contra hext
    exact hlast hext b hb hbext

/-- Behind an ignored frame there is nothing to receive. -/
theorem Benign.of_ignored {a : Arrival} {rest : List Arrival} (h : Benign (a :: rest))
    (ha : ¬ a.raw.Extended) : ∀ b ∈ a :: rest, ¬ b.raw.Extended := by
  intro b hb
  rcases List.mem_cons.mp hb with rfl | hb
  · exact ha
  · exact fun hext => ha ((List.pairwise_cons.mp h.2).1 b hb hext)

/-- Step lemma: a call on benign traffic returns the next data frame or none, and
leaves benign traffic. -/
theorem benign_run {s : Socket} (h : Benign s.pending) (c : Call) :
    Benign (c.run s).2.pending ∧
      (frame_of (c.run s).1).toList ++ data_frames (c.run s).2.pending
        = data_frames s.pending := by
  rw [Call.run]
  rcases receive_cases c.timeout (s.wait_until (s.now + c.idle)) with
    ⟨-, hr⟩ | ⟨a, rest, hp, -, ⟨hext, hr⟩ | ⟨hext, hr⟩⟩
  · rw [hr]
    exact ⟨h, rfl⟩
  · have hp' : s.pending = a :: rest := hp
    rw [hp'] at h
    rw [hr, pop_pending hp, hp', data_frames_cons_data (h.1 a List.mem_cons_self hext)]
    exact ⟨h.tail, rfl⟩
  · -- the frame taken off was no data frame
    have hp' : s.pending = a :: rest := hp
    rw [hp'] at h
    rw [hr, pop_pending hp, hp', data_frames_cons_other fun hdata => hext hdata.1]
    exact ⟨h.tail, rfl⟩

/-- Run lemma: on benign traffic any number of calls return the data frames in order, and leave
benign traffic. -/
theorem benign_calls {s : Socket} (h : Benign s.pending) (cs : List Call) :
    Benign (calls cs s).2.pending ∧
      (calls cs s).1 ++ data_frames (calls cs s).2.pending = data_frames s.pending := by
  induction cs generalizing s with
  | nil => exact ⟨h, rfl⟩
  | cons c cs ih =>
    obtain ⟨hbenign, hframes⟩ := benign_run h c
    -- what the first call leaves is what the others start from
    obtain ⟨hrest, hcalls⟩ := ih hbenign
    refine ⟨hrest, ?_⟩
    rw [calls, List.append_assoc, hcalls, hframes]

theorem benign_nullopt {s : Socket} (h : Benign s.pending) : NulloptOnTimeout s := by
  intro c hnone a ha hdata
  rw [Call.run] at hnone
  rcases receive_cases c.timeout (s.wait_until (s.now + c.idle)) with
    ⟨hlate, -⟩ | ⟨b, rest, hp, -, ⟨hext, hr⟩ | ⟨hext, hr⟩⟩
  · exact hlate a ha
  · rw [hr] at hnone
    cases hnone
  · -- an ignored frame: nothing to receive is left behind it
    have hp' : s.pending = b :: rest := hp
    rw [hp'] at h ha
    exact absurd hdata.1 (h.of_ignored hext a ha)

section Driver

variable {D : Type} [Add D] [Sub D] [Mul D] [Div D] [Neg D] [NatCast D]
  {self : RobstrideMotor D} {interface_name : String}

/-- While the answer is queued, the next frame is an extended one that has
arrived, so the wait goes on until it is the answer. -/
theorem benign_exchange {s : Socket} (h : Benign s.pending) :
    QueuedAnswerReturned self interface_name s := by
  intro htimeout frame type last a ha htime hdata hanswers
  have hns : 0 < self.config_.timeout_ns := by
    rw [Config.timeout_ns]
    omega
  let I := fun t : Socket => t.now = s.now ∧ Benign t.pending ∧
    ∃ b ∈ t.pending, b.time ≤ s.now ∧ b.raw.ExtendedData ∧ self.Answers type b.raw.frame
  obtain ⟨raw, hsend⟩ := send_queue interface_name frame (⟨last, s⟩ : Session Socket D).can
  have hstep : ∀ t (u : Socket), I u → ((socket_can interface_name).now u).1
        < ((socket_can interface_name).now { s with written := s.written ++ [raw] }).1
          + self.config_.timeout_ns ∧
      ∃ f u', (socket_can interface_name).receive t ((socket_can interface_name).now u).2
          = (.ok (some f), u') ∧
        (self.Answers type f → True) ∧ (¬ self.Answers type f → I u') := by
    rintro t u ⟨hnow, hbenign, b, hb, hbtime, hbdata, hbans⟩
    refine ⟨?_, ?_⟩
    · have hu : u.now < s.now + self.config_.timeout_ns := by omega
      exact hu
    · have hnonneg : (0 : ℤ) ≤ (t * 1000000 : ℕ) := Int.natCast_nonneg _
      rcases receive_cases t u with ⟨hlate, -⟩ | ⟨c, rest, hp, -, ⟨hext, hr⟩ | ⟨hext, -⟩⟩
      · have hlt := hlate b hb
        omega
      · refine ⟨_, _, hr, fun _ => trivial, fun hc => ?_⟩
        have hordered := u.ordered
        rw [hp] at hb hbenign hordered
        -- the answer is not the frame just skipped, so it is still queued
        rcases List.mem_cons.mp hb with rfl | hb
        · exact absurd hbans hc
        · have hctime : c.time ≤ b.time := List.rel_of_pairwise_cons hordered hb
          refine ⟨?_, ?_, b, ?_, hbtime, hbdata, hbans⟩
          · have hmax : max u.now c.time = s.now := by omega
            exact hmax
          · rw [pop_pending hp]
            exact hbenign.tail
          · rw [pop_pending hp]
            exact hb
      · rw [hp] at hbenign hb
        exact absurd hbdata.1 (hbenign.of_ignored hext b hb)
  have hstart : I ((socket_can interface_name).now { s with written := s.written ++ [raw] }).2 :=
    ⟨rfl, h, a, ha, htime, hdata, hanswers⟩
  obtain ⟨r, st', hrun, -⟩ :=
    RobstrideMotor.transceive_returns (Q := fun _ _ => True) hsend hstart hstep
  exact ⟨r, st', hrun⟩

/-! ## On any other traffic -/

/-- A timeout by which a finite list has arrived. -/
theorem exists_timeout (now : ℤ) (traffic : List Arrival) :
    ∃ timeout : ℕ, ∀ a ∈ traffic, a.time ≤ now + (timeout * 1000000 : ℕ) := by
  induction traffic with
  | nil => exact ⟨0, by simp⟩
  | cons a rest ih =>
    -- the sum covers both the rest and this frame
    obtain ⟨t, ht⟩ := ih
    obtain ⟨k, hk⟩ : ∃ k : ℕ, a.time - now ≤ k := ⟨_, Int.self_le_toNat _⟩
    refine ⟨t + k, ?_⟩
    intro b hb
    rcases List.mem_cons.mp hb with rfl | hb
    · omega
    · have hmono : t * 1000000 ≤ (t + k) * 1000000 :=
        Nat.mul_le_mul_right 1000000 (Nat.le_add_right t k)
      exact le_trans (ht b hb) (Int.add_le_add_left (Int.ofNat_le.mpr hmono) now)

/-- Exact reception stays exact after a call. -/
theorem ReceptionExact.run {s : Socket} (h : ReceptionExact self interface_name s) (c : Call) :
    ReceptionExact self interface_name (c.run s).2 := by
  intro cs
  obtain ⟨hframes, hrest⟩ := h (c :: cs)
  obtain ⟨hfirst, -⟩ := h [c]
  refine ⟨?_, hrest⟩
  -- cancel the first call's frames on both sides
  rw [calls, calls, List.append_nil] at hfirst
  rw [calls, List.append_assoc, ← hfirst] at hframes
  exact List.append_cancel_left hframes

/-- Exact reception happens on benign traffic only. One call that waits for
everything looks at the first frame: a remote or error frame would be returned,
and an ignored frame would pass for a timeout of whatever comes behind it. -/
theorem benign_of_receptionExact {s : Socket} (h : ReceptionExact self interface_name s) :
    Benign s.pending := by
  induction hp : s.pending generalizing s with
  | nil => exact ⟨by simp, List.Pairwise.nil⟩
  | cons a rest ih =>
    -- one call that waits for all the traffic
    obtain ⟨timeout, htimeout⟩ := exists_timeout s.now s.pending
    let c : Call := ⟨0, timeout⟩
    have hnow : s.now + ((c.idle : ℕ) : ℤ) = s.now := Int.add_zero s.now
    have ha : a.time ≤ (s.wait_until (s.now + c.idle)).now + (timeout * 1000000 : ℕ) := by
      have hle := htimeout a (by rw [hp]; exact List.mem_cons_self)
      have hgoal : a.time ≤ s.now + c.idle + (timeout * 1000000 : ℕ) := by omega
      exact hgoal
    have hp' : (s.wait_until (s.now + c.idle)).pending = a :: rest := hp
    obtain ⟨hframes, hnullopt, -⟩ := h []
    by_cases hext : a.raw.Extended
    · have hrun : c.run s = (.ok (some a.raw.frame), _) := receive_extended hp' ha hext
      have hpop : (c.run s).2.pending = rest := by
        rw [hrun]
        exact pop_pending hp' _
      -- else the call returns a frame that is none of the data frames
      have hdata : a.raw.ExtendedData := by
        by_contra hother
        obtain ⟨hfirst, -⟩ := h [c]
        rw [calls, calls, hpop, hp, data_frames_cons_other hother, hrun, List.append_nil] at hfirst
        have hlen := congrArg List.length hfirst
        rw [frame_of, Option.toList_some, List.length_append, List.length_singleton] at hlen
        omega
      exact (ih (h.run c) hpop).cons (fun _ => hdata) fun hnot => absurd hext hnot
    · have hrun : c.run s = (.ok none, _) := receive_ignored hp' ha hext
      have hpop : (c.run s).2.pending = rest := by
        rw [hrun]
        exact pop_pending hp' _
      have hbenign := ih (h.run c) hpop
      -- else `nullopt` comes before a data frame that arrives in time
      have hnone : ∀ b ∈ rest, ¬ b.raw.Extended := by
        intro b hb hbext
        have hmem : b ∈ s.pending := by
          rw [hp]
          exact List.mem_cons_of_mem a hb
        have hlate := hnullopt c (by rw [calls, hrun]; rfl) b hmem (hbenign.1 b hb hbext)
        have hearly := htimeout b hmem
        have hsame : s.now + c.idle + (timeout * 1000000 : ℕ) < b.time := hlate
        omega
      exact hbenign.cons (fun h => absurd h hext) fun _ => hnone

/-- **When SocketCAN reception is exact.** In every sequence of calls the frames returned are the
extended data frames that came, `nullopt` means that the timeout is over, and an answer that is
queued is returned by the exchange that waits for it: exactly on benign traffic, in which no
extended frame is other than a data frame and no standard frame comes before an extended one. -/
theorem reception_exact_iff (self : RobstrideMotor D) (interface_name : String) (s : Socket) :
    ReceptionExact self interface_name s ↔ Benign s.pending := by
  constructor
  · exact benign_of_receptionExact
  · intro h cs
    obtain ⟨hbenign, hframes⟩ := benign_calls h cs
    exact ⟨hframes, benign_nullopt hbenign, benign_exchange hbenign⟩

end Driver

/-- A standard frame, then the answer of motor 1 to `enable`, both already there. -/
def standard_then_answer : Socket where
  now := 0
  pending := [⟨0, ⟨0x123, 8, Vector.replicate 8 0⟩⟩, ⟨0, raw_frame fixtures.enable_answer⟩]
  ordered := by simp

/-- `enable()` throws `TimeoutError` with its answer in the queue: a standard frame came before it,
and `receive` took that for the end of the wait. -/
theorem standard_frame_hides_answer :
    ¬ ReceptionExact fixtures.single "can0" standard_then_answer := by
  intro h
  obtain ⟨-, -, hqueued⟩ := h []
  obtain ⟨r, st', hrun⟩ := hqueued (by decide) (make_enable_frame 0x01 0xFD) .Feedback none
    ⟨0, ⟨0x828001FD, 8, #v[0x7F, 0xFF, 0x7F, 0xFF, 0x7F, 0xFF, 0x01, 0x0E]⟩⟩
    (by decide) (by decide) (by decide) (by decide)
  have houtcome : (fixtures.single.transceive (socket_can "can0") (make_enable_frame 0x01 0xFD)
      .Feedback ⟨none, standard_then_answer⟩).1 = .error (fixtures.single.timeout .Feedback) := by
    decide +kernel
  rw [show fixtures.single.transceive (socket_can "can0") (make_enable_frame 0x01 0xFD) .Feedback
    ⟨none, standard_then_answer⟩ = (.ok r, st') from hrun] at houtcome
  cases houtcome

end SocketCanInterface

end Robstride
