/-
The simulation in the place of the hardware.

`StubCanInterface` answers a frame "on the next `receive` call, exactly like a real bus",
and one instance may be shared by any number of motors. Here that is a comparison of two
transports. On one side are motors on the simulation. On the other side are the same
motors on the serial transport, behind a module to a bus of motors that behave as the
simulated ones do (`simulated_bus`) and that get each frame at the moment at which the
simulation was sent it.

Both transports present this bus (`stub_presents`, `at_serial_presents`), and two
transports that present one bus cannot be told apart by the motors that share them:
`shared_session_of_two` is that, for operations of any of the motors in any order.
-/
import RobstrideDriver.StubFleet
import RobstrideDriver.SerialBus
import RobstrideDriver.SocketBus

set_option autoImplicit false

open CppArith

namespace Robstride

/-! ## Motors that share a transport -/

section Shared

variable {ι σ τ D : Type} [DecidableEq ι]

/-- A cache for each motor, and the transport they share. -/
structure Shared (ι σ D : Type) where
  last_feedback_ : ι → Option (Feedback D)
  can : σ

/-- The same caches over related transports. -/
structure Shared.Alike (R : σ → τ → Prop) (s : Shared ι σ D) (s' : Shared ι τ D) : Prop where
  last_feedback_ : s.last_feedback_ = s'.last_feedback_
  can : R s.can s'.can

variable [Add D] [Sub D] [Mul D] [Div D] [Neg D] [NatCast D] [LT D] [DecidableLT D]
  [DoubleMath D] [FloatConv D] {motors : ι → RobstrideMotor D}

/-- An operation of motor `i`, on its own cache and the transport. -/
def shared_call (exchange : ι → Dialogue.Handler Exchange CanFrame Exception (Session σ D))
    (motors : ι → RobstrideMotor D) (i : ι) (c : Command D) (s : Shared ι σ D) :
    Except Exception (Value D) × Shared ι σ D :=
  let result := Dialogue.run (exchange i) (c.operation (motors i)) ⟨s.last_feedback_ i, s.can⟩
  (result.1, ⟨Function.update s.last_feedback_ i result.2.last_feedback_, result.2.can⟩)

/-- Operations of the motors one after the other, each tried whatever became of the one
before. -/
def shared_session (exchange : ι → Dialogue.Handler Exchange CanFrame Exception (Session σ D))
    (motors : ι → RobstrideMotor D) :
    List (ι × Command D) → Shared ι σ D → List (Except Exception (Value D) × Shared ι σ D)
  | [], _ => []
  | (i, c) :: calls, s =>
    let call := shared_call exchange motors i c s
    call :: shared_session exchange motors calls call.2

section Related

variable {exchange : ι → Dialogue.Handler Exchange CanFrame Exception (Session σ D)}
  {exchange' : ι → Dialogue.Handler Exchange CanFrame Exception (Session τ D)} {R : σ → τ → Prop}
  (h : ∀ i e st st', Issued (motors i) e → RobstrideMotor.Alike R st st' →
    (exchange i e st).1 = (exchange' i e st').1 ∧
      RobstrideMotor.Alike R (exchange i e st).2 (exchange' i e st').2)
include h

/-- One operation: it goes alike on two transports that present the bus in the same state. -/
theorem shared_call_alike (i : ι) (c : Command D) {s : Shared ι σ D} {s' : Shared ι τ D}
    (hs : s.Alike R s') :
    (shared_call exchange motors i c s).1 = (shared_call exchange' motors i c s').1 ∧
      (shared_call exchange motors i c s).2.Alike R (shared_call exchange' motors i c s').2 := by
  obtain ⟨hlast, hcan⟩ := hs
  have hst : RobstrideMotor.Alike R (⟨s.last_feedback_ i, s.can⟩ : Session σ D)
      ⟨s'.last_feedback_ i, s'.can⟩ := ⟨congrFun hlast i, hcan⟩
  obtain ⟨houtcome, hcache, hrel⟩ := Dialogue.run_rel (P := Issued (motors i)) (h i)
    (c.operation_asks (motors i)) hst
  refine ⟨houtcome, ?_, hrel⟩
  unfold shared_call
  dsimp only
  rw [hcache, hlast]

/-- Any number of them. The induction is on the calls. -/
theorem shared_session_alike (calls : List (ι × Command D)) {s : Shared ι σ D} {s' : Shared ι τ D}
    (hs : s.Alike R s') :
    List.Forall₂ (fun a b => a.1 = b.1 ∧ a.2.Alike R b.2)
      (shared_session exchange motors calls s) (shared_session exchange' motors calls s') := by
  induction calls generalizing s s' with
  | nil => exact .nil
  | cons call calls ih =>
    obtain ⟨i, c⟩ := call
    have hcall := shared_call_alike h i c hs
    exact .cons hcall (ih hcall.2)

end Related

/-- Two transports present one bus: between exchanges they show it in one state. -/
def OneBus {ν : Type} (Idle : σ → OnBus ν → Prop) (Idle' : τ → OnBus ν → Prop) (t : σ) (t' : τ) :
    Prop :=
  ∃ s, Idle t s ∧ Idle' t' s

/-- **Two transports that present one bus** are told apart by no motors that share them. -/
theorem shared_session_of_two {ν : Type} {can : CanInterface σ} {can' : CanInterface τ}
    {bus : Bus ν} {Idle : σ → OnBus ν → Prop} {Idle' : τ → OnBus ν → Prop}
    {Waiting : ι → ℤ → σ → OnBus ν → Prop} {Waiting' : ι → ℤ → τ → OnBus ν → Prop}
    (h : ∀ i, Presents can bus (motors i).config_.timeout_ns Idle (Waiting i))
    (h' : ∀ i, Presents can' bus (motors i).config_.timeout_ns Idle' (Waiting' i))
    (calls : List (ι × Command D)) {s : Shared ι σ D} {s' : Shared ι τ D}
    (hs : s.Alike (OneBus Idle Idle') s') :
    List.Forall₂ (fun a b => a.1 = b.1 ∧ a.2.Alike (OneBus Idle Idle') b.2)
      (shared_session (fun i => (motors i).exchange can) motors calls s)
      (shared_session (fun i => (motors i).exchange can') motors calls s') := by
  refine shared_session_alike ?_ calls hs
  rintro i e ⟨last, t⟩ ⟨last', t'⟩ he ⟨hlast, b, hidle, hidle'⟩
  obtain rfl : last = last' := hlast
  -- each does what the bus does
  let st : Session (OnBus ν) D := ⟨last, b⟩
  have hst : RobstrideMotor.Alike Idle ⟨last, t⟩ st := ⟨rfl, hidle⟩
  have hst' : RobstrideMotor.Alike Idle' ⟨last, t'⟩ st := ⟨rfl, hidle'⟩
  obtain ⟨hreply, hcache, hbus⟩ := exchange_of_presents (h i) he.carried hst
  obtain ⟨hreply', hcache', hbus'⟩ := exchange_of_presents (h' i) he.carried hst'
  exact ⟨hreply.trans hreply'.symm, hcache.trans hcache'.symm, _, hbus, hbus'⟩

end Shared

/-! ## A bus of simulated motors -/

section Simulated

variable {D : Type} [Add D] [Sub D] [Mul D] [Div D] [Neg D] [NatCast D] [IntCast D]
  [LT D] [DecidableLT D] [DoubleMath D] [FloatConv D]

namespace StubCanInterface

omit [Add D] [IntCast D] [FloatConv D] in
theorem make_feedback_frame_carried (fb : Feedback D) (limits : ActuatorLimits D) :
    Carried (make_feedback_frame fb limits) :=
  carried_of_full (make_id_lt _ _ _) rfl

omit [Add D] [Sub D] [Mul D] [Div D] [Neg D] [NatCast D] [IntCast D] [LT D] [DecidableLT D]
  [DoubleMath D] [FloatConv D] in
theorem read_response_carried (stub : StubCanInterface D) (motor_id host_id : UInt8)
    (request : ParamReadRequest) : Carried (stub.read_response motor_id host_id request) := by
  unfold read_response
  split_ifs <;> exact carried_of_full (make_id_lt _ _ _) rfl

/-- The simulated motors answer with frames that a bus carries, whatever they are sent. -/
theorem answers_carried (stub : StubCanInterface D) (now : ℤ) (frame : CanFrame) :
    ∀ g ∈ stub.answers now frame, Carried g := by
  intro g hg
  unfold answers at hg
  split_ifs at hg
  · rw [List.mem_singleton.mp hg]
    exact make_feedback_frame_carried _ _
  · rw [List.mem_singleton.mp hg]
    exact stub.read_response_carried _ _ _
  · cases hg

end StubCanInterface

/-- Motors that behave as the simulated ones do, and how many frames they have been sent.
There is no queue: on a bus an answer is under way. -/
structure SimulatedMotors (D : Type) where
  stub : StubCanInterface D
  sent : ℕ := 0

/-- The bus of these motors, where the `n`-th frame is put on it at `sent_at n`. -/
def simulated_bus (sent_at : ℕ → ℤ) : Bus (SimulatedMotors D) where
  send f s :=
    (s.stub.answers (sent_at (s.sent + 1)) f,
      { stub := { s.stub.send (sent_at (s.sent + 1)) f with responses_ := [] }
        sent := s.sent + 1 })
  wait s := ([], s)
  ahead _ := 0
  wait_ahead _ := Nat.le_refl _
  send_carried f s := s.stub.answers_carried _ f
  wait_carried _ _ hg := nomatch hg

/-- The simulation is the motors on that bus, and its queue what has come from them. -/
structure Simulates (t : StubBus D) (s : OnBus (SimulatedMotors D)) : Prop where
  stub : t.stub = { s.bus.stub with responses_ := s.arrived }
  sent : t.exchanges = s.bus.sent

/-- In the wait of an exchange, with the deadline that reading 1 of the clock set it. -/
structure SimulatesUntil (timing : Timing) (timeout_ns deadline : ℤ) (t : StubBus D)
    (s : OnBus (SimulatedMotors D)) : Prop extends Simulates t s where
  readings : 2 ≤ t.readings
  deadline_eq : deadline = timing t.exchanges 1 + timeout_ns

variable (timing : Timing) in
/-- What the simulation receives, the bus has brought, and the other way round. -/
theorem Simulates.receive {t : StubBus D} {s : OnBus (SimulatedMotors D)}
    (h : Simulates t s) (timeout : ℕ) :
    ∃ t', (stub_bus timing).receive timeout t
        = (.ok ((simulated_bus fun n => timing n 0).next s).1, t') ∧
      Simulates t' ((simulated_bus fun n => timing n 0).next s).2 ∧
      t'.exchanges = t.exchanges ∧ t'.readings = t.readings := by
  obtain ⟨motors, arrived⟩ := s
  obtain ⟨hstub, hsent⟩ := h
  dsimp only at hstub hsent
  cases arrived with
  | nil =>
    have hnone : t.stub.receive = (none, t.stub) := by
      unfold StubCanInterface.receive
      rw [hstub]
    rw [Bus.next_of_wait_none rfl]
    refine ⟨t, ?_, ⟨hstub, hsent⟩, rfl, rfl⟩
    simp only [stub_bus, hnone]
  | cons f rest =>
    have hsome : t.stub.receive = (some f, { t.stub with responses_ := rest }) := by
      unfold StubCanInterface.receive
      rw [hstub]
    rw [Bus.next_of_arrived]
    refine ⟨{ t with
      stub := { t.stub with responses_ := rest }
      tape := t.tape.tail
      sample := t.tape.head? }, ?_, ⟨?_, hsent⟩, rfl, rfl⟩
    · simp only [stub_bus, hsome]
    · dsimp only
      rw [hstub]

/-- **The simulation presents the bus of simulated motors**: a `send` is an exchange with them, and
a `receive` brings what they answered. -/
theorem stub_presents {timing : Timing} {timeout_ns : ℤ}
    (htiming : SocketCanInterface.InTime timeout_ns fun exchange reading =>
      timing exchange (reading + 1)) :
    Presents (stub_bus (D := D) timing) (simulated_bus fun n => timing n 0) timeout_ns Simulates
      (SimulatesUntil timing timeout_ns) where
  send := by
    rintro f t ⟨motors, arrived⟩ hf ⟨hstub, hsent⟩
    dsimp only at hstub hsent
    refine ⟨((stub_bus timing).send f t).2, rfl, ⟨?_, ?_⟩, Nat.le_refl _, rfl⟩
    · -- the queue is what had come, with the answers behind it
      have hanswers : t.stub.answers (timing (t.exchanges + 1) 0) f
          = motors.stub.answers (timing (motors.sent + 1) 0) f := by
        rw [hstub, hsent]
        rfl
      simp only [stub_bus, Bus.post, simulated_bus]
      rw [StubCanInterface.send_eq, StubCanInterface.send_eq, hanswers, hstub, hsent]
      rfl
    · exact congrArg (· + 1) hsent
  in_time := by
    rintro deadline t s ⟨-, hreadings, rfl⟩
    obtain ⟨reading, hreading⟩ := Nat.exists_eq_add_of_le' hreadings
    have hin := htiming t.exchanges (reading + 1)
    have hclock : (stub_bus timing).clock t = timing t.exchanges (reading + 2) := by
      rw [← hreading]
      rfl
    rw [hclock]
    exact hin
  receive := by
    rintro deadline t s ⟨h, hreadings, rfl⟩
    have htick : Simulates ((stub_bus timing).now t).2 s := ⟨h.stub, h.sent⟩
    obtain ⟨t', hreceive, hsimulates, hexchanges, hcount⟩ := htick.receive timing
      (asked (stub_bus timing) (timing t.exchanges 1 + timeout_ns) t)
    refine ⟨t', hreceive, hsimulates, fun _ => ⟨hsimulates, ?_, ?_⟩⟩
    · rw [hcount]
      exact Nat.le_succ_of_le hreadings
    · rw [hexchanges]
      rfl

/-! ## The stand-in -/

variable {ι μ : Type} [DecidableEq ι]

/-- **The simulation stands in for motors on a serial line.** Any motors share the one or the
other: in any order of their operations each returns or throws the same on both, every
cache stays the same, and the motors behind the module are left as the simulated ones are,
whatever the line does to the bytes. -/
theorem stub_stands_in (usb : AtSerialCanInterface.UsbCanModule μ) (device : String)
    (motors : ι → RobstrideMotor D) {timing : Timing} {clock : ℕ → ℕ → ℤ}
    (htiming : ∀ i, SocketCanInterface.InTime (motors i).config_.timeout_ns
      fun exchange reading => timing exchange (reading + 1))
    (hclock : ∀ i, AtSerialCanInterface.Brisk (motors i).config_.timeout_ns clock)
    (calls : List (ι × Command D)) {s : Shared ι (StubBus D) D}
    {s' : Shared ι (AtSerialCanInterface.Port
      (AtSerialCanInterface.SerialPort μ (SimulatedMotors D))) D}
    (hs : s.Alike (OneBus Simulates (AtSerialCanInterface.Shows usb)) s') :
    List.Forall₂
      (fun a b => a.1 = b.1 ∧
        a.2.Alike (OneBus Simulates (AtSerialCanInterface.Shows usb)) b.2)
      (shared_session (fun i => (motors i).exchange (stub_bus timing)) motors calls s)
      (shared_session (fun i => (motors i).exchange
        (AtSerialCanInterface.at_serial usb (simulated_bus fun n => timing n 0) clock device))
        motors calls s') :=
  shared_session_of_two (fun i => stub_presents (htiming i))
    (fun i => AtSerialCanInterface.at_serial_presents usb _ (hclock i) device) calls hs

/-- Two motors, first both enabled, then the one driven and the other asked for its mode. -/
theorem stub_stands_in_dual :
    ∃ stub, StubCanInterface.make (22 / 7 : ℚ) .Rs02 = .ok stub ∧
      List.Forall₂
        (fun a b => a.1 = b.1 ∧
          a.2.Alike (OneBus Simulates
            (AtSerialCanInterface.Shows AtSerialCanInterface.parsing_module)) b.2)
        (shared_session
          (fun i => (fixtures.dual i).exchange (stub_bus AtSerialCanInterface.brisk_clock))
          fixtures.dual
          [(false, .enable), (true, .enable), (false, .send_velocity_command 2),
            (true, .get_run_mode)]
          ⟨fun _ => none, { stub := stub }⟩)
        (shared_session
          (fun i => (fixtures.dual i).exchange (AtSerialCanInterface.at_serial
            AtSerialCanInterface.parsing_module
            (simulated_bus fun n => AtSerialCanInterface.brisk_clock n 0)
            AtSerialCanInterface.brisk_clock "/dev/ttyUSB0"))
          fixtures.dual
          [(false, .enable), (true, .enable), (false, .send_velocity_command 2),
            (true, .get_run_mode)]
          ⟨fun _ => none, {}, { usb := {}, bus := ⟨stub, 0⟩, hitches := [.bytes 5, .interrupted] }⟩)
    := by
  have htimeout : ∀ i, (fixtures.dual i).config_.timeout_ns = 10000000 := by
    intro i
    cases i <;> rfl
  refine ⟨_, rfl, stub_stands_in AtSerialCanInterface.parsing_module "/dev/ttyUSB0" fixtures.dual
    ?_ ?_ _ ⟨rfl, ⟨⟨_, 0⟩, []⟩, ⟨rfl, rfl⟩, rfl, rfl, (fun _ hf => nomatch hf), rfl⟩⟩
  · intro i exchange reading
    rw [htimeout]
    dsimp only [AtSerialCanInterface.brisk_clock]
    omega
  · intro i
    refine ⟨AtSerialCanInterface.brisk_clock_brisk.steady, fun exchange reading => ?_⟩
    rw [htimeout]
    dsimp only [AtSerialCanInterface.brisk_clock]
    omega

end Simulated

end Robstride
