/-
The bus behind a transport.

What a driver is for is to exchange frames with the motors on a CAN bus; how they get
there is the transport's business, "so RobstrideMotor works on top of this transport
unchanged". `Bus` is that other side by itself: what comes back when a frame is put on
it, and what comes of waiting. It has no clock, because whether something comes in the
time of a wait is the bus's to say, and a session on it (`Bus.exchange`) is what every
session over a transport ought to be.

`Presents` says what a transport must do for that, one call at a time, and
`session_of_presents` that it is enough: between the transport and the bus no program
of exchanges finds a difference. The two transports of the driver are instances of it
(`SerialBus.lean`, `SocketBus.lean`).
-/
import RobstrideDriver.AtSerial
import RobstrideDriver.ParamCodec
import RobstrideDriver.Timeouts

set_option autoImplicit false

open CppArith

namespace Robstride

/-! ## The bus -/

/-- What a CAN 2.0B bus can carry: 29 identifier bits, at most eight bytes of data, and
nothing behind them. -/
structure Carried (f : CanFrame) : Prop where
  id : f.id < 0x20000000
  dlc : f.dlc ≤ 8
  data : at_serial.on_wire f = f

/-- A frame of eight bytes with an identifier of 29 bits is one that the bus can carry. -/
theorem carried_of_full {f : CanFrame} (hid : f.id < 0x20000000) (hdlc : f.dlc = 8) :
    Carried f where
  id := hid
  dlc := hdlc ▸ UInt8.le_refl 8
  data := at_serial.on_wire_full hdlc

/-- The other side of a transport. -/
structure Bus (σ : Type*) where
  /-- A frame is put on the bus, and frames may come back at once. -/
  send : CanFrame → σ → List CanFrame × σ
  /-- What comes of waiting; nothing if the wait is over before. -/
  wait : σ → List CanFrame × σ
  /-- How many frames can still come of waiting. -/
  ahead : σ → ℕ
  wait_ahead : ∀ s, (wait s).1.length + ahead (wait s).2 ≤ ahead s
  send_carried : ∀ f s, ∀ g ∈ (send f s).1, Carried g
  wait_carried : ∀ s, ∀ g ∈ (wait s).1, Carried g

/-- A bus, and the frames that have come and not been received. -/
structure OnBus (σ : Type*) where
  bus : σ
  arrived : List CanFrame := []
deriving DecidableEq, Repr

namespace Bus

variable {σ : Type*} (bus : Bus σ)

/-- A frame is put on the bus. -/
def post (f : CanFrame) (s : OnBus σ) : OnBus σ :=
  ⟨(bus.send f s.bus).2, s.arrived ++ (bus.send f s.bus).1⟩

/-- The next frame, waiting for it if there is none. -/
def next (s : OnBus σ) : Option CanFrame × OnBus σ :=
  match s.arrived with
  | f :: rest => (some f, { s with arrived := rest })
  | [] =>
    match bus.wait s.bus with
    | ([], b) => (none, ⟨b, []⟩)
    | (f :: rest, b) => (some f, ⟨b, rest⟩)

/-- How many frames can still be received. -/
def backlog (s : OnBus σ) : ℕ := s.arrived.length + bus.ahead s.bus

variable {bus}

/-- What has arrived is received before anything is waited for. -/
theorem next_of_arrived {f : CanFrame} {rest : List CanFrame} (b : σ) :
    bus.next ⟨b, f :: rest⟩ = (some f, ⟨b, rest⟩) := rfl

/-- Where nothing comes any more, nothing is received. -/
theorem next_of_wait_none {b b' : σ} (h : bus.wait b = ([], b')) :
    bus.next ⟨b, []⟩ = (none, ⟨b', []⟩) := by
  simp only [next, h]

/-- What waiting brings is received like what was there, the first of it now and the rest later. -/
theorem next_of_wait_some {b b' : σ} {f : CanFrame} {rest : List CanFrame}
    (h : bus.wait b = (f :: rest, b')) : bus.next ⟨b, []⟩ = bus.next ⟨b', f :: rest⟩ := by
  simp only [next, h]

/-- Each frame received leaves fewer to come, so that a wait which skips frames comes to its end. -/
theorem next_backlog {s s' : OnBus σ} {f : CanFrame} (h : bus.next s = (some f, s')) :
    bus.backlog s' < bus.backlog s := by
  obtain ⟨b, arrived⟩ := s
  cases arrived with
  | cons g rest =>
    obtain ⟨-, rfl⟩ := Prod.mk.inj (next_of_arrived b ▸ h)
    exact Nat.add_lt_add_right (Nat.lt_succ_self _) _
  | nil =>
    have hahead := bus.wait_ahead b
    rcases hw : bus.wait b with ⟨_ | ⟨g, rest⟩, b'⟩
    · rw [next_of_wait_none hw] at h
      cases congrArg Prod.fst h
    · rw [next_of_wait_some hw, next_of_arrived] at h
      obtain ⟨-, rfl⟩ := Prod.mk.inj h
      rw [hw, List.length_cons] at hahead
      rw [backlog, backlog, List.length_nil]
      dsimp only at hahead ⊢
      omega

/-- The frames that have come are carried. -/
def AllCarried (s : OnBus σ) : Prop := ∀ f ∈ s.arrived, Carried f

/-- Putting a frame on the bus brings only frames that it can carry. -/
theorem AllCarried.post {s : OnBus σ} (h : AllCarried s) (f : CanFrame) :
    AllCarried (bus.post f s) := by
  intro g hg
  rcases List.mem_append.mp hg with hg | hg
  · exact h g hg
  · exact bus.send_carried f s.bus g hg

/-- So does receiving one: what is still there was carried before. -/
theorem AllCarried.next {s : OnBus σ} (h : AllCarried s) : AllCarried (bus.next s).2 := by
  obtain ⟨b, arrived⟩ := s
  cases arrived with
  | cons g rest => exact fun f hf => h f (List.mem_cons_of_mem g hf)
  | nil =>
    have hcarried := bus.wait_carried b
    rcases hw : bus.wait b with ⟨_ | ⟨g, rest⟩, b'⟩
    · rw [next_of_wait_none hw]
      exact fun f hf => nomatch hf
    · rw [hw] at hcarried
      rw [next_of_wait_some hw]
      exact fun f hf => hcarried f (List.mem_cons_of_mem g hf)

/-! ## A session on the bus -/

section Session

variable {D : Type} [Add D] [Sub D] [Mul D] [Div D] [Neg D] [NatCast D]

variable (bus) in
/-- The wait of an exchange: what its loop does to the frames that come. -/
def await (self : RobstrideMotor D) (expected_type : CommType) (st : Session (OnBus σ) D) :
    Except Exception CanFrame × Session (OnBus σ) D :=
  match _h : bus.next st.can with
  | (none, s) => (.error (self.timeout expected_type), { st with can := s })
  | (some f, s) =>
    if get_source_motor_id f ≠ self.config_.motor_id then
      await self expected_type { st with can := s }
    else if get_comm_type f = expected_type.code then (.ok f, ⟨self.cache f st.last_feedback_, s⟩)
    else await self expected_type ⟨self.cache f st.last_feedback_, s⟩
termination_by bus.backlog st.can
decreasing_by all_goals exact next_backlog _h

variable (bus) in
/-- An exchange with the bus itself. -/
def exchange (self : RobstrideMotor D) :
    Dialogue.Handler Exchange CanFrame Exception (Session (OnBus σ) D) :=
  fun e st => bus.await self e.expected_type { st with can := bus.post e.frame st.can }

variable {self : RobstrideMotor D} {expected_type : CommType} {st : Session (OnBus σ) D}
  {f : CanFrame} {s : OnBus σ}

/-- A wait to which nothing more comes ends with the timeout of the driver. -/
theorem await_none (h : bus.next st.can = (none, s)) :
    bus.await self expected_type st
      = (.error (self.timeout expected_type), { st with can := s }) := by
  rw [await]
  split <;> simp_all

/-- A frame of another motor is skipped, and the cache stays as it was. -/
theorem await_foreign (h : bus.next st.can = (some f, s))
    (hs : get_source_motor_id f ≠ self.config_.motor_id) :
    bus.await self expected_type st = bus.await self expected_type { st with can := s } := by
  rw [await]
  split <;> simp_all

/-- A frame of the motor with the type that is awaited is returned, and cached if it is feedback. -/
theorem await_match (h : bus.next st.can = (some f, s))
    (hs : get_source_motor_id f = self.config_.motor_id)
    (ht : get_comm_type f = expected_type.code) :
    bus.await self expected_type st = (.ok f, ⟨self.cache f st.last_feedback_, s⟩) := by
  rw [await]
  split <;> simp_all

/-- A frame of the motor with another type is cached if it is feedback, and the wait goes on. -/
theorem await_other (h : bus.next st.can = (some f, s))
    (hs : get_source_motor_id f = self.config_.motor_id)
    (ht : get_comm_type f ≠ expected_type.code) :
    bus.await self expected_type st
      = bus.await self expected_type ⟨self.cache f st.last_feedback_, s⟩ := by
  rw [await]
  split <;> simp_all

end Session

end Bus

/-! ## Transports that present a bus -/

section Presents

variable {σ τ : Type*} {can : CanInterface τ} {bus : Bus σ} {timeout_ns : ℤ}
  {Idle : τ → OnBus σ → Prop} {Waiting : ℤ → τ → OnBus σ → Prop}

/-- The transport presents the bus: `Idle` relates the two between exchanges, and
`Waiting` in the wait of one, with its deadline. -/
structure Presents (can : CanInterface τ) (bus : Bus σ) (timeout_ns : ℤ)
    (Idle : τ → OnBus σ → Prop) (Waiting : ℤ → τ → OnBus σ → Prop) : Prop where
  send : ∀ f t s, Carried f → Idle t s → ∃ t', can.send f t = (.ok (), t') ∧
    Waiting (can.clock t' + timeout_ns) (can.now t').2 (bus.post f s)
  in_time : ∀ deadline t s, Waiting deadline t s → can.clock t < deadline
  receive : ∀ deadline t s, Waiting deadline t s →
    ∃ t', can.receive (asked can deadline t) (can.now t).2 = (.ok (bus.next s).1, t') ∧
      Idle t' (bus.next s).2 ∧ ((bus.next s).1 ≠ none → Waiting deadline t' (bus.next s).2)

variable {D : Type} [Add D] [Sub D] [Mul D] [Div D] [Neg D] [NatCast D]
  {self : RobstrideMotor D} {type : CommType} {deadline : ℤ}

open RobstrideMotor

/-- One wait, over the transport as over the bus. The induction is on what the bus can still bring,
which every frame that is skipped makes less. -/
theorem loop_of_presents (h : Presents can bus timeout_ns Idle Waiting)
    {st : Session τ D} {st' : Session (OnBus σ) D} (hst : Alike (Waiting deadline) st st') :
    (self.transceive_loop can type deadline st).1 = (bus.await self type st').1 ∧
      Alike Idle (self.transceive_loop can type deadline st).2 (bus.await self type st').2 := by
  induction hn : bus.backlog st'.can using Nat.strongRecOn generalizing st st' with
  | ind n ih =>
    obtain ⟨last, t⟩ := st
    obtain ⟨last', s⟩ := st'
    obtain ⟨rfl, hwaiting⟩ : last = last' ∧ Waiting deadline t s := ⟨hst.1, hst.2⟩
    have hd : ¬ deadline ≤ (can.now t).1 := not_le.mpr (h.in_time _ _ _ hwaiting)
    obtain ⟨t', hreceive, hidle, hmore⟩ := h.receive _ _ _ hwaiting
    rcases hnext : bus.next s with ⟨_ | f, s'⟩
    · -- nothing more comes, and `transceive` throws
      rw [hnext] at hreceive hidle
      rw [transceive_loop_nullopt hd hreceive, Bus.await_none hnext]
      exact ⟨rfl, rfl, hidle⟩
    · -- a frame is the answer, or leaves less to come
      rw [hnext] at hreceive hidle hmore
      have hless : bus.backlog s' < n := hn ▸ Bus.next_backlog hnext
      have hwaiting' := hmore (Option.some_ne_none f)
      by_cases hs : get_source_motor_id f = self.config_.motor_id
      · by_cases ht : get_comm_type f = type.code
        · rw [transceive_loop_match hd hreceive hs ht, Bus.await_match hnext hs ht]
          exact ⟨rfl, rfl, hidle⟩
        · rw [transceive_loop_other hd hreceive hs ht, Bus.await_other hnext hs ht]
          exact ih _ hless ⟨rfl, hwaiting'⟩ rfl
      · rw [transceive_loop_foreign hd hreceive hs, Bus.await_foreign hnext hs]
        exact ih _ hless ⟨rfl, hwaiting'⟩ rfl

/-- One exchange: what is sent is put on the bus, and the waits come to the same. -/
theorem exchange_of_presents
    (h : Presents can bus self.config_.timeout_ns Idle Waiting) {e : Exchange}
    (he : Carried e.frame) {st : Session τ D} {st' : Session (OnBus σ) D}
    (hst : Alike Idle st st') :
    (self.exchange can e st).1 = (bus.exchange self e st').1 ∧
      Alike Idle (self.exchange can e st).2 (bus.exchange self e st').2 := by
  obtain ⟨t', hsend, hwaiting⟩ := h.send e.frame st.can st'.can he hst.can
  rw [RobstrideMotor.exchange, transceive_send_ok hsend, Bus.exchange]
  exact loop_of_presents h ⟨hst.last_feedback_, hwaiting⟩

end Presents

section Sessions

variable {D : Type} [Sub D] [Mul D] [Div D] [Neg D] [NatCast D]
  [LT D] [DecidableLT D] [DoubleMath D]

/-- Whatever an operation sends, the bus can carry: all its frames have eight bytes. -/
theorem Issued.carried {self : RobstrideMotor D} {e : Exchange} (he : Issued self e) :
    Carried e.frame := by
  cases he <;> exact carried_of_full (make_id_lt _ _ _) rfl

variable [Add D] [FloatConv D]

/-- **A transport that presents the bus is the bus**, to any sequence of operations: each
returns or throws the same, and leaves the same cache. -/
theorem session_of_presents {σ τ : Type*} {can : CanInterface τ} {bus : Bus σ}
    {Idle : τ → OnBus σ → Prop} {Waiting : ℤ → τ → OnBus σ → Prop} {self : RobstrideMotor D}
    (h : Presents can bus self.config_.timeout_ns Idle Waiting) (commands : List (Command D))
    {st : Session τ D} {st' : Session (OnBus σ) D} (hst : RobstrideMotor.Alike Idle st st') :
    List.Forall₂ (fun a b => a.1 = b.1 ∧ RobstrideMotor.Alike Idle a.2 b.2)
      (Dialogue.session (self.exchange can) (commands.map (·.operation self)) st)
      (Dialogue.session (bus.exchange self) (commands.map (·.operation self)) st') := by
  refine Dialogue.session_rel (P := Issued self)
    (fun e s t he hst => exchange_of_presents h he.carried hst) ?_ hst
  rw [List.forall_mem_map]
  exact fun c _ => c.operation_asks self

end Sessions

end Robstride
