/-
A bus behind `SocketCanInterface`: the kernel's queue, and the filter of a motor's own
socket.

The kernel decodes what is written, queues the frames that the socket's filter admits,
and lets `select` wait until one is queued or nothing more comes. So the socket presents
not the bus but the bus seen through the filter (`Bus.only`); and that the two are the
same to a motor whose own frames pass (`exchange_only`) is a fact about exchanges, with no
socket in it. Frames that were queued before the filter was set stay queued, and are
skipped by the loop.

`select` needs no time to spare here, so the clock has only to keep an exchange within
its time (`InTime`). The bus carries extended data frames, so there is nothing for `receive` to
ignore, and every call succeeds and is not interrupted.
-/
import RobstrideDriver.MotorIdFilter
import RobstrideDriver.SerialBus

set_option autoImplicit false

open CppArith

namespace Robstride

/-! ## A bus seen through a filter -/

namespace Bus

section Only

variable {σ : Type*} (bus : Bus σ) (p : CanFrame → Bool)

/-- Waits until a frame that passes comes, or nothing does. -/
def wait_only (b : σ) : List CanFrame × σ :=
  match _h : bus.wait b with
  | ([], b') => ([], b')
  | (f :: rest, b') =>
    if (f :: rest).filter p = [] then wait_only b' else ((f :: rest).filter p, b')
termination_by bus.ahead b
decreasing_by
  have hahead := bus.wait_ahead b
  rw [_h, List.length_cons] at hahead
  dsimp only at hahead
  omega

variable {bus p}

theorem wait_only_none {b b' : σ} (h : bus.wait b = ([], b')) :
    bus.wait_only p b = ([], b') := by
  rw [wait_only]
  split <;> simp_all

theorem wait_only_some {b b' : σ} {f : CanFrame} {rest : List CanFrame}
    (h : bus.wait b = (f :: rest, b')) :
    bus.wait_only p b
      = if (f :: rest).filter p = [] then bus.wait_only p b' else ((f :: rest).filter p, b') := by
  rw [wait_only]
  split <;> simp_all

variable (bus p) in
theorem wait_only_ahead (b : σ) :
    (bus.wait_only p b).1.length + bus.ahead (bus.wait_only p b).2 ≤ bus.ahead b := by
  induction hn : bus.ahead b using Nat.strongRecOn generalizing b with
  | ind n ih =>
    have hahead := bus.wait_ahead b
    rcases hw : bus.wait b with ⟨_ | ⟨f, rest⟩, b'⟩
    · rw [hw] at hahead
      rw [wait_only_none hw]
      exact hn ▸ hahead
    · rw [hw, List.length_cons] at hahead
      dsimp only at hahead
      rw [wait_only_some hw]
      split_ifs
      · have hrest := ih (bus.ahead b') (by omega) b' rfl
        omega
      · have hlength : ((f :: rest).filter p).length ≤ rest.length + 1 :=
          List.length_filter_le p (f :: rest)
        dsimp only
        omega

variable (bus p) in
/-- What passes the filter is carried by the bus. -/
theorem wait_only_carried (b : σ) : ∀ g ∈ (bus.wait_only p b).1, Carried g := by
  induction hn : bus.ahead b using Nat.strongRecOn generalizing b with
  | ind n ih =>
    have hahead := bus.wait_ahead b
    have hcarried := bus.wait_carried b
    rcases hw : bus.wait b with ⟨_ | ⟨f, rest⟩, b'⟩
    · rw [wait_only_none hw]
      exact fun g hg => nomatch hg
    · rw [hw] at hahead hcarried
      rw [List.length_cons] at hahead
      dsimp only at hahead
      rw [wait_only_some hw]
      split_ifs
      · exact ih (bus.ahead b') (by omega) b' rfl
      · exact fun g hg => hcarried g (List.mem_of_mem_filter hg)

variable (bus p) in
/-- The bus to one who is shown the frames that pass. -/
def only : Bus σ where
  send f b := ((bus.send f b).1.filter p, (bus.send f b).2)
  wait := bus.wait_only p
  ahead := bus.ahead
  wait_ahead := bus.wait_only_ahead p
  send_carried f b g hg := bus.send_carried f b g (List.mem_of_mem_filter hg)
  wait_carried := bus.wait_only_carried p

/-- Where nothing has come, the next frame is one of those that pass. -/
theorem next_only_some {b b' : σ} {f : CanFrame} {rest : List CanFrame}
    (h : bus.wait b = (f :: rest, b')) :
    (bus.only p).next ⟨b, []⟩ = (bus.only p).next ⟨b', (f :: rest).filter p⟩ := by
  have hwait : (bus.only p).wait b
      = if (f :: rest).filter p = [] then bus.wait_only p b'
        else ((f :: rest).filter p, b') := wait_only_some h
  by_cases hnone : (f :: rest).filter p = []
  · rw [if_pos hnone] at hwait
    rw [hnone, next, next]
    dsimp only
    rw [hwait]
    rfl
  · rw [if_neg hnone] at hwait
    obtain ⟨g, gs, hg⟩ := List.exists_cons_of_ne_nil hnone
    rw [hg] at hwait ⊢
    exact next_of_wait_some hwait

end Only

/-! ## A motor does not see the filter -/

section Session

variable {σ : Type*} {bus : Bus σ} {D : Type} [Add D] [Sub D] [Mul D] [Div D] [Neg D] [NatCast D]
  {self : RobstrideMotor D} {type : CommType}

/-- A wait depends on the frames to come: states from which `next` is the same are waited from
alike. -/
theorem await_congr {s t : OnBus σ} (h : bus.next s = bus.next t) (last : Option (Feedback D)) :
    bus.await self type ⟨last, s⟩ = bus.await self type ⟨last, t⟩ := by
  rw [await, await]
  dsimp only
  rw [h]

variable {last : Option (Feedback D)} {f : CanFrame}

variable (bus last) in
/-- A frame of another motor is skipped. -/
theorem await_arrived_foreign (hs : get_source_motor_id f ≠ self.config_.motor_id) (b : σ)
    (fs : List CanFrame) :
    bus.await self type ⟨last, ⟨b, f :: fs⟩⟩ = bus.await self type ⟨last, ⟨b, fs⟩⟩ :=
  await_foreign (next_of_arrived b) hs

variable (bus last) in
/-- A frame of the motor and of the type ends the wait, and is offered to the cache. -/
theorem await_arrived_match (hs : get_source_motor_id f = self.config_.motor_id)
    (ht : get_comm_type f = type.code) (b : σ) (fs : List CanFrame) :
    bus.await self type ⟨last, ⟨b, f :: fs⟩⟩ = (.ok f, ⟨self.cache f last, ⟨b, fs⟩⟩) :=
  await_match (next_of_arrived b) hs ht

variable (bus last) in
/-- A frame of the motor of another type is offered to the cache, and the wait goes on. -/
theorem await_arrived_other (hs : get_source_motor_id f = self.config_.motor_id)
    (ht : get_comm_type f ≠ type.code) (b : σ) (fs : List CanFrame) :
    bus.await self type ⟨last, ⟨b, f :: fs⟩⟩
      = bus.await self type ⟨self.cache f last, ⟨b, fs⟩⟩ :=
  await_other (next_of_arrived b) hs ht

variable (bus last) in
theorem await_nothing {b b' : σ} (h : bus.wait b = ([], b')) :
    bus.await self type ⟨last, ⟨b, []⟩⟩ = (.error (self.timeout type), ⟨last, ⟨b', []⟩⟩) :=
  await_none (next_of_wait_none h)

/-- The same bus, and the same frames of the motor. -/
structure SameOwn (self : RobstrideMotor D) (s s' : OnBus σ) : Prop where
  bus : s.bus = s'.bus
  own : self.own s.arrived = self.own s'.arrived

omit [Add D] [Sub D] [Mul D] [Div D] [Neg D] [NatCast D] in
theorem own_cons_own {f : CanFrame} (hs : get_source_motor_id f = self.config_.motor_id)
    (fs : List CanFrame) : self.own (f :: fs) = f :: self.own fs :=
  List.filter_cons_of_pos (decide_eq_true hs)

omit [Add D] [Sub D] [Mul D] [Div D] [Neg D] [NatCast D] in
theorem own_cons_foreign {f : CanFrame} (hs : get_source_motor_id f ≠ self.config_.motor_id)
    (fs : List CanFrame) : self.own (f :: fs) = self.own fs :=
  List.filter_cons_of_neg (by simpa using hs)

variable {p : CanFrame → Bool} (hp : ∀ f, get_source_motor_id f = self.config_.motor_id → p f)
include hp

omit [Add D] [Sub D] [Mul D] [Div D] [Neg D] [NatCast D] in
/-- A filter that lets the motor's frames through takes none of them away. -/
theorem own_filter (fs : List CanFrame) : self.own (fs.filter p) = self.own fs := by
  rw [RobstrideMotor.own, RobstrideMotor.own, List.filter_filter]
  refine List.filter_congr fun f _ => ?_
  by_cases hs : get_source_motor_id f = self.config_.motor_id
  · rw [decide_eq_true hs, hp f hs]
    rfl
  · rw [decide_eq_false hs]
    rfl

/-- One wait. The two sides skip different frames, each in its own time, and where
nothing has come they wait for the same. -/
theorem await_only {last : Option (Feedback D)} {s s' : OnBus σ} (h : SameOwn self s s') :
    ((bus.only p).await self type ⟨last, s⟩).1 = (bus.await self type ⟨last, s'⟩).1 ∧
      RobstrideMotor.Alike (SameOwn self) ((bus.only p).await self type ⟨last, s⟩).2
        (bus.await self type ⟨last, s'⟩).2 := by
  induction hn : 2 * ((bus.only p).backlog s + bus.backlog s') + (if s'.arrived = [] then 1 else 0)
    using Nat.strongRecOn generalizing last s s' with
  | ind n ih =>
    obtain ⟨b, arrived⟩ := s
    obtain ⟨b', arrived'⟩ := s'
    obtain ⟨hbus, hown⟩ := h
    obtain rfl : b = b' := hbus
    dsimp only at hown hn
    -- what is left to skip or to receive goes down
    have hleft : ∀ (fs : List CanFrame) (f : CanFrame), arrived = f :: fs →
        (bus.only p).backlog ⟨b, fs⟩ < (bus.only p).backlog ⟨b, arrived⟩ := by
      rintro fs f rfl
      exact next_backlog (next_of_arrived b)
    have hright : ∀ (fs : List CanFrame) (f : CanFrame), arrived' = f :: fs →
        bus.backlog ⟨b, fs⟩ < bus.backlog ⟨b, arrived'⟩ := by
      rintro fs f rfl
      exact next_backlog (next_of_arrived b)
    by_cases hskip : ∃ f fs, arrived = f :: fs ∧ get_source_motor_id f ≠ self.config_.motor_id
    · -- one that was there before the filter, or passes it
      obtain ⟨f, fs, rfl, hs⟩ := hskip
      have hless := hleft fs f rfl
      rw [await_arrived_foreign _ _ hs]
      refine ih _ ?_ ⟨rfl, (own_cons_foreign hs fs).symm.trans hown⟩ rfl
      dsimp only
      split_ifs at hn ⊢ <;> omega
    by_cases hskip' : ∃ f fs, arrived' = f :: fs ∧ get_source_motor_id f ≠ self.config_.motor_id
    · obtain ⟨f, fs, rfl, hs⟩ := hskip'
      have hless := hright fs f rfl
      rw [await_arrived_foreign _ _ hs]
      refine ih _ ?_ ⟨rfl, hown.trans (own_cons_foreign hs fs)⟩ rfl
      dsimp only
      split_ifs at hn ⊢ <;> omega
    rcases arrived' with _ | ⟨f, fs'⟩
    · -- nothing has come
      obtain rfl : arrived = [] := by
        rcases arrived with _ | ⟨g, gs⟩
        · rfl
        · by_cases hs : get_source_motor_id g = self.config_.motor_id
          · rw [own_cons_own hs] at hown
            cases hown
          · exact absurd ⟨g, gs, rfl, hs⟩ hskip
      rcases hw : bus.wait b with ⟨_ | ⟨g, gs⟩, b'⟩
      · have hw' : (bus.only p).wait b = ([], b') := wait_only_none hw
        rw [await_nothing _ _ hw, await_nothing _ _ hw']
        exact ⟨rfl, rfl, rfl, rfl⟩
      · rw [await_congr (next_of_wait_some hw), await_congr (next_only_some hw)]
        refine ih _ ?_ ⟨rfl, own_filter hp (g :: gs)⟩ rfl
        have hahead := bus.wait_ahead b
        have hlength : ((g :: gs).filter p).length ≤ gs.length + 1 :=
          List.length_filter_le p (g :: gs)
        rw [hw, List.length_cons] at hahead
        rw [if_pos rfl] at hn
        rw [if_neg (List.cons_ne_nil g gs)]
        rw [backlog, backlog, List.length_nil] at hn
        rw [backlog, backlog, List.length_cons]
        have honly : (bus.only p).ahead = bus.ahead := rfl
        rw [honly] at hn ⊢
        dsimp only at hn hahead ⊢
        omega
    · -- both sides have a frame of the motor at the front
      have hs' : get_source_motor_id f = self.config_.motor_id :=
        not_not.mp fun hs => hskip' ⟨f, fs', rfl, hs⟩
      rw [own_cons_own hs'] at hown
      rcases arrived with _ | ⟨g, fs⟩
      · cases hown
      have hs : get_source_motor_id g = self.config_.motor_id :=
        not_not.mp fun hs => hskip ⟨g, fs, rfl, hs⟩
      rw [own_cons_own hs] at hown
      obtain ⟨rfl, hrest⟩ := List.cons.inj hown
      have hless := hleft fs g rfl
      have hless' := hright fs' g rfl
      by_cases ht : get_comm_type g = type.code
      · rw [await_arrived_match _ _ hs ht, await_arrived_match _ _ hs ht]
        exact ⟨rfl, rfl, rfl, hrest⟩
      · rw [await_arrived_other _ _ hs ht, await_arrived_other _ _ hs ht]
        refine ih _ ?_ ⟨rfl, hrest⟩ rfl
        dsimp only
        split_ifs at hn ⊢ <;> omega

variable (bus) in
/-- One exchange: it goes alike on the bus and on what passes the filter, if the filter lets the
motor's own frames through. -/
theorem exchange_only (e : Exchange) {st st' : Session (OnBus σ) D}
    (hst : RobstrideMotor.Alike (SameOwn self) st st') :
    ((bus.only p).exchange self e st).1 = (bus.exchange self e st').1 ∧
      RobstrideMotor.Alike (SameOwn self) ((bus.only p).exchange self e st).2
        (bus.exchange self e st').2 := by
  obtain ⟨last, b, arrived⟩ := st
  obtain ⟨last', b', arrived'⟩ := st'
  obtain ⟨hlast, hbus, hown⟩ := hst
  obtain rfl : last = last' := hlast
  obtain rfl : b = b' := hbus
  dsimp only at hown
  refine await_only hp ⟨rfl, ?_⟩
  have hcome : ∀ fs gs : List CanFrame, self.own (fs ++ gs) = self.own fs ++ self.own gs :=
    fun fs gs => List.filter_append fs gs
  calc self.own (arrived ++ (bus.send e.frame b).1.filter p)
      = self.own arrived ++ self.own ((bus.send e.frame b).1.filter p) := hcome _ _
    _ = self.own arrived' ++ self.own (bus.send e.frame b).1 := by rw [hown, own_filter hp]
    _ = self.own (arrived' ++ (bus.send e.frame b).1) := (hcome _ _).symm

end Session

end Bus

namespace SocketCanInterface

/-! ## The kernel -/

/-- The flag and the identifier are disjoint fields. -/
theorem raw_frame_can_id (f : CanFrame) :
    (raw_frame f).can_id.toNat = 2 ^ 31 + f.id.toNat % 2 ^ 29 := by
  have hlow : f.id.toNat % 2 ^ 29 < 2 ^ 31 := (Nat.mod_lt _ (by decide)).trans (by decide)
  rw [raw_frame, UInt32.toNat_or, mask32_toNat _ CAN_EFF_MASK (w := 29) rfl,
    show CAN_EFF_FLAG.toNat = 1 <<< 31 from rfl, Nat.or_comm,
    ← Nat.shiftLeft_add_eq_or_of_lt hlow, Nat.shiftLeft_eq, Nat.one_mul]

theorem raw_frame_frame {f : CanFrame} (hf : Carried f) : (raw_frame f).frame = f := by
  have hid : (raw_frame f).can_id &&& CAN_EFF_MASK = f.id := by
    apply UInt32.toNat_inj.mp
    have hlt : f.id.toNat < 2 ^ 29 := hf.id
    rw [mask32_toNat _ CAN_EFF_MASK (w := 29) rfl, raw_frame_can_id]
    omega
  rw [RawFrame.frame, hid]
  rfl

theorem raw_frame_extended (f : CanFrame) : (raw_frame f).Extended := by
  rw [extended_iff, raw_frame_can_id]
  omega

/-- The identifier is masked, the motor id in it is not. -/
theorem raw_frame_source (f : CanFrame) :
    get_source_motor_id (raw_frame f).frame = get_source_motor_id f := by
  apply UInt8.toNat_inj.mp
  rw [get_source_motor_id_frame, get_source_motor_id_toNat, raw_frame_can_id]
  omega

/-- A socket, and the bus it is bound to. A new socket has no filter. What is queued are the
extended data frames of the bus, as the kernel encodes them. -/
structure SocketPort (σ : Type*) where
  bus : σ
  filter : Option CanFilter := none
  queued : List RawFrame := []
  exchanges : ℕ := 0
  readings : ℕ := 0
deriving DecidableEq, Repr

/-- The frames a filter lets through. -/
def admits (filter : Option CanFilter) (f : CanFrame) : Bool :=
  decide (∀ rule ∈ filter, CanFilter.Passes rule (raw_frame f))

namespace SocketPort

variable {σ : Type*} (bus : Robstride.Bus σ)

/-- `select` waits where nothing is queued. -/
def listen (w : SocketPort σ) : SocketPort σ :=
  if w.queued = [] then
    { w with
      bus := (bus.wait_only (admits w.filter) w.bus).2
      queued := (bus.wait_only (admits w.filter) w.bus).1.map raw_frame }
  else w

/-- A frame is put on the bus, and what comes back is queued. -/
def post (w : SocketPort σ) (f : CanFrame) : SocketPort σ :=
  { w with
    bus := (bus.send f w.bus).2
    queued := w.queued ++ ((bus.send f w.bus).1.filter (admits w.filter)).map raw_frame }

/-- An exchange begins. -/
def begin_exchange (w : SocketPort σ) : SocketPort σ :=
  { w with exchanges := w.exchanges + 1, readings := 0 }

/-- The clock is read. -/
def tick (w : SocketPort σ) : SocketPort σ := { w with readings := w.readings + 1 }

end SocketPort

section Transport

variable {σ : Type*} (bus : Robstride.Bus σ) (clock : ℕ → ℕ → ℤ) (interface_name : String)

/-- The system calls. -/
def socket_kernel : FilterKernel (SocketPort σ) where
  select _ _ w :=
    (if (w.listen bus).queued = [] then .timeout else .ready, w.listen bus)
  read w :=
    match w.queued with
    | [] => (.failed 11, w)
    | raw :: rest => (.read raw_size raw, { w with queued := rest })
  write raw w := (.written raw_size, w.begin_exchange.post bus raw.frame)
  setsockopt filter w := (.ok, { w with filter := some filter })

variable {bus clock interface_name}

/-- Nothing is queued and nothing comes: `select` waits for the timeout, and `receive` returns
`nullopt`. -/
theorem socket_receive_none {timeout : ℕ} {w : SocketPort σ} (h : (w.listen bus).queued = []) :
    receive (socket_kernel bus).toKernel timeout w = (.ok none, w.listen bus) := by
  refine receive_of_timeout ?_
  rw [socket_kernel]
  dsimp only
  rw [if_pos h]

/-- A frame is queued, or comes, and `receive` returns it. -/
theorem socket_receive_cons {timeout : ℕ} {w : SocketPort σ} {raw : RawFrame}
    {rest : List RawFrame} (h : (w.listen bus).queued = raw :: rest) :
    receive (socket_kernel bus).toKernel timeout w
      = (read_reply (.read raw_size raw), { w.listen bus with queued := rest }) := by
  have hselect : (socket_kernel bus).select (timeout / 1000) (timeout % 1000 * 1000) w
      = (.ready, w.listen bus) := by
    rw [socket_kernel]
    dsimp only
    rw [if_neg (h ▸ List.cons_ne_nil raw rest)]
  have hread : (socket_kernel bus).read (w.listen bus)
      = (.read raw_size raw, { w.listen bus with queued := rest }) := by
    rw [socket_kernel]
    dsimp only
    rw [h]
  rw [receive_of_ready hselect, hread]

/-- An extended frame that `read` brings is returned, whatever else its flags say. -/
theorem read_reply_extended {raw : RawFrame} (h : raw.Extended) :
    read_reply (.read raw_size raw) = .ok (some raw.frame) := by
  rw [read_reply, if_neg fun hign => ignored_iff.mp hign h]

variable (bus clock interface_name) in
/-- The transport as the driver sees it. -/
def socket_bus : CanInterface (SocketPort σ) where
  send frame w := send (socket_kernel bus).toKernel interface_name 0 frame w
  receive timeout w := receive (socket_kernel bus).toKernel timeout w
  now w := (clock w.exchanges w.readings, w.tick)
  backlog w := w.queued.length + bus.ahead w.bus
  now_backlog _ := Nat.le_refl _
  receive_backlog := by
    intro t w f w' h
    have hlisten : (w.listen bus).queued.length + bus.ahead (w.listen bus).bus
        ≤ w.queued.length + bus.ahead w.bus := by
      rw [SocketPort.listen]
      split_ifs with hempty
      · have hahead := bus.wait_only_ahead (admits w.filter) w.bus
        dsimp only
        rw [List.length_map]
        omega
      · exact Nat.le_refl _
    rcases hq : (w.listen bus).queued with _ | ⟨raw, rest⟩
    · rw [socket_receive_none hq] at h
      cases congrArg Prod.fst h
    · rw [hq, List.length_cons] at hlisten
      rw [socket_receive_cons hq] at h
      obtain ⟨-, rfl⟩ := Prod.mk.inj h
      dsimp only
      omega

/-! ## It presents the bus seen through its filter -/

/-- A clock that keeps every exchange within its time. -/
def InTime (timeout_ns : ℤ) (clock : ℕ → ℕ → ℤ) : Prop :=
  ∀ exchange reading, clock exchange reading < clock exchange 0 + timeout_ns

/-- The frames that have come are those queued: extended data frames of the bus, and no other. -/
structure Queues (filter : Option CanFilter) (w : SocketPort σ) (s : OnBus σ) : Prop where
  bus : w.bus = s.bus
  filter : w.filter = filter
  carried : Bus.AllCarried s
  queued : w.queued = s.arrived.map raw_frame

/-- In the wait of an exchange. -/
def QueuesUntil (filter : Option CanFilter) (clock : ℕ → ℕ → ℤ) (timeout_ns : ℤ) (deadline : ℤ)
    (w : SocketPort σ) (s : OnBus σ) : Prop :=
  Queues filter w s ∧ deadline = clock w.exchanges 0 + timeout_ns

variable {filter : Option CanFilter} {w : SocketPort σ} {s : OnBus σ}

theorem Queues.tick (h : Queues filter w s) : Queues filter w.tick s :=
  ⟨h.bus, h.filter, h.carried, h.queued⟩

variable (bus) in
/-- What `write` does is to put the frame on the bus. -/
theorem Queues.post (h : Queues filter w s) {f : CanFrame} (hf : Carried f) :
    Queues filter (w.begin_exchange.post bus (raw_frame f).frame)
      ((bus.only (admits filter)).post f s) := by
  obtain ⟨hbus, hfilter, hcarried, hqueued⟩ := h
  refine ⟨?_, hfilter, hcarried.post f, ?_⟩
  · rw [raw_frame_frame hf, SocketPort.post, SocketPort.begin_exchange, Bus.post, Bus.only]
    dsimp only
    rw [hbus]
  · rw [raw_frame_frame hf, SocketPort.post, SocketPort.begin_exchange, Bus.post, Bus.only]
    dsimp only
    rw [hbus, hfilter, hqueued, List.map_append]

theorem listen_cons {raw : RawFrame} {rest : List RawFrame} (h : w.queued = raw :: rest) :
    w.listen bus = w := by
  rw [SocketPort.listen, if_neg (h ▸ List.cons_ne_nil raw rest)]

theorem listen_exchanges (w : SocketPort σ) : (w.listen bus).exchanges = w.exchanges := by
  rw [SocketPort.listen]
  split_ifs <;> rfl

variable (bus) in
/-- **`receive`** comes to the next of the frames that pass. -/
theorem Queues.receive (h : Queues filter w s) (timeout : ℕ) :
    ∃ w', SocketCanInterface.receive (socket_kernel bus).toKernel timeout w
        = (.ok ((bus.only (admits filter)).next s).1, w') ∧
      Queues filter w' ((bus.only (admits filter)).next s).2 ∧ w'.exchanges = w.exchanges := by
  obtain ⟨b, arrived⟩ := s
  obtain ⟨hbus, hfilter, hcarried, hqueued⟩ := h
  dsimp only at hbus hqueued
  have hkeep : Bus.AllCarried ((bus.only (admits filter)).next ⟨b, arrived⟩).2 := hcarried.next
  rcases arrived with _ | ⟨f, fs⟩
  · -- nothing is queued: `select` waits as the filtered bus does
    have hlisten : w.listen bus = { w with
        bus := (bus.wait_only (admits filter) b).2
        queued := (bus.wait_only (admits filter) b).1.map raw_frame } := by
      have hempty : w.queued = [] := hqueued
      rw [SocketPort.listen, if_pos hempty, hbus, hfilter]
    rcases hw : bus.wait_only (admits filter) b with ⟨_ | ⟨f, fs⟩, b'⟩
    · have hw' : (bus.only (admits filter)).wait b = ([], b') := hw
      rw [hw] at hlisten
      rw [Bus.next_of_wait_none hw']
      have hqueue : (w.listen bus).queued = [] := by
        rw [hlisten]
        rfl
      refine ⟨_, socket_receive_none hqueue, ⟨?_, ?_, ?_, hqueue⟩, listen_exchanges w⟩
      · rw [hlisten]
      · rw [hlisten]
        exact hfilter
      · exact fun f hf => nomatch hf
    · have hw' : (bus.only (admits filter)).wait b = (f :: fs, b') := hw
      have hf : Carried f := bus.wait_only_carried (admits filter) b f (hw ▸ List.mem_cons_self)
      rw [hw] at hlisten
      rw [Bus.next_of_wait_some hw', Bus.next_of_arrived] at hkeep ⊢
      refine ⟨{ w.listen bus with queued := fs.map raw_frame }, ?_, ⟨?_, ?_, hkeep, rfl⟩,
        listen_exchanges w⟩
      · have hqueue : (w.listen bus).queued = raw_frame f :: fs.map raw_frame := by
          rw [hlisten]
          rfl
        rw [socket_receive_cons hqueue, read_reply_extended (raw_frame_extended f),
          raw_frame_frame hf]
      · rw [hlisten]
      · rw [hlisten]
        exact hfilter
  · -- the oldest frame that is queued
    have hf : Carried f := hcarried f List.mem_cons_self
    rw [List.map_cons] at hqueued
    rw [Bus.next_of_arrived] at hkeep ⊢
    refine ⟨{ w with queued := fs.map raw_frame }, ?_, ⟨hbus, hfilter, hkeep, rfl⟩, rfl⟩
    have hsame : w.listen bus = w := listen_cons hqueued
    have hqueue : (w.listen bus).queued = raw_frame f :: fs.map raw_frame := by
      rw [hsame]
      exact hqueued
    rw [socket_receive_cons hqueue, read_reply_extended (raw_frame_extended f),
      raw_frame_frame hf, hsame]

/-- **The socket presents the bus seen through its filter.** -/
theorem socket_presents (bus : Robstride.Bus σ) (filter : Option CanFilter)
    {clock : ℕ → ℕ → ℤ} {timeout_ns : ℤ} (hclock : InTime timeout_ns clock)
    (interface_name : String) :
    Presents (socket_bus bus clock interface_name) (bus.only (admits filter)) timeout_ns
      (Queues filter) (QueuesUntil filter clock timeout_ns) where
  send := by
    intro f w s hf h
    refine ⟨w.begin_exchange.post bus (raw_frame f).frame, rfl, (h.post bus hf).tick, ?_⟩
    rfl
  in_time := by
    rintro deadline w s ⟨-, rfl⟩
    exact hclock w.exchanges w.readings
  receive := by
    rintro deadline w s ⟨h, rfl⟩
    obtain ⟨w', hreceive, hqueues, hexchanges⟩ := h.tick.receive bus
      (asked (socket_bus bus clock interface_name) (clock w.exchanges 0 + timeout_ns) w)
    refine ⟨w', hreceive, hqueues, fun _ => ⟨hqueues, ?_⟩⟩
    rw [hexchanges]
    rfl

end Transport

/-! ## Sessions over the socket -/

/-- The filter of a motor's own socket lets its frames through. -/
theorem admits_own {motor_id : UInt8} {f : CanFrame} (hs : get_source_motor_id f = motor_id) :
    admits (some (motor_id_filter motor_id)) f := by
  refine decide_eq_true ?_
  rintro rule hrule
  obtain rfl := Option.mem_some_iff.mp hrule
  rw [motor_id_filter_passes_iff _ (raw_frame_extended f), raw_frame_source]
  exact hs

section Session

variable {D : Type} {σ : Type*}

/-- The socket of a motor: the filter is its own, and of the frames that have come those of
the motor are queued, with what came before the filter. -/
def Own (self : RobstrideMotor D) (w : SocketPort σ) (s : OnBus σ) : Prop :=
  ∃ s₁, Queues (some (motor_id_filter self.config_.motor_id)) w s₁ ∧ Bus.SameOwn self s₁ s

/-- `set_motor_id_filter` makes a socket the motor's own. -/
theorem set_motor_id_filter_own (bus : Robstride.Bus σ) {self : RobstrideMotor D}
    {filter : Option CanFilter} {w : SocketPort σ} {s : OnBus σ} (h : Queues filter w s) :
    ∃ w', set_motor_id_filter (socket_kernel bus) self.config_.motor_id w = (.ok (), w') ∧
      Own self w' s :=
  ⟨_, rfl, s, ⟨h.bus, rfl, h.carried, h.queued⟩, rfl, rfl⟩

variable [Add D] [Sub D] [Mul D] [Div D] [Neg D] [NatCast D]
  [LT D] [DecidableLT D] [DoubleMath D] [FloatConv D]

/-- **A session over a motor's own socket is a session on the bus**: each operation returns or
throws what it does there, and the caches stay the same, although the filter keeps frames of other
motors away and some of them were queued before it was set. All of these the receive loop would
skip. On the bus and in the queue there are extended data frames only, and no deadline passes. -/
theorem socket_session (bus : Robstride.Bus σ) {clock : ℕ → ℕ → ℤ} (interface_name : String)
    (self : RobstrideMotor D) (hclock : InTime self.config_.timeout_ns clock)
    (commands : List (Command D)) {st : Session (SocketPort σ) D} {st' : Session (OnBus σ) D}
    (hst : RobstrideMotor.Alike (Own self) st st') :
    List.Forall₂ (fun a b => a.1 = b.1 ∧ RobstrideMotor.Alike (Own self) a.2 b.2)
      (Dialogue.session (self.exchange (socket_bus bus clock interface_name))
        (commands.map (·.operation self)) st)
      (Dialogue.session (bus.exchange self) (commands.map (·.operation self)) st') := by
  refine Dialogue.session_rel (P := Issued self) ?_ ?_ hst
  · rintro e ⟨last, w⟩ ⟨last', s⟩ he ⟨hlast, s₁, hqueues, hown⟩
    obtain rfl : last = last' := hlast
    let st₁ : Session (OnBus σ) D := ⟨last, s₁⟩
    have hst₁ : RobstrideMotor.Alike (Queues _) ⟨last, w⟩ st₁ := ⟨rfl, hqueues⟩
    have hst₂ : RobstrideMotor.Alike (Bus.SameOwn self) st₁ ⟨last, s⟩ := ⟨rfl, hown⟩
    -- to the bus seen through the filter, and from there to the bus
    have hsocket := exchange_of_presents (socket_presents bus _ hclock interface_name) he.carried
      hst₁
    have honly := Bus.exchange_only bus
      (p := admits (some (motor_id_filter self.config_.motor_id)))
      (fun f hs => admits_own hs) e hst₂
    exact ⟨hsocket.1.trans honly.1, hsocket.2.last_feedback_.trans honly.2.last_feedback_,
      _, hsocket.2.can, honly.2.can⟩
  · rw [List.forall_mem_map]
    exact fun c _ => c.operation_asks self

end Session

theorem foreign_answer_carried : Carried fixtures.foreign_answer :=
  carried_of_full (by decide) rfl

/-- The socket of motor 1, where a frame of another motor was queued before the filter. -/
def late_filter : SocketPort ℕ where
  bus := 0
  filter := some (motor_id_filter fixtures.single.config_.motor_id)
  queued := [raw_frame fixtures.foreign_answer]

theorem late_filter_own : Own fixtures.single late_filter ⟨0, [fixtures.foreign_answer]⟩ := by
  refine ⟨⟨0, [fixtures.foreign_answer]⟩, ⟨rfl, rfl, ?_, rfl⟩, rfl, rfl⟩
  intro f hf
  rw [List.mem_singleton.mp hf]
  exact foreign_answer_carried

theorem brisk_clock_in_time :
    InTime fixtures.single.config_.timeout_ns AtSerialCanInterface.brisk_clock := by
  intro exchange reading
  have hin := AtSerialCanInterface.brisk_clock_brisk.in_time exchange reading
  omega

/-- Two operations over the socket of motor 1, on which a frame of another motor was queued before
its filter was set. -/
theorem socket_session_ok :
    List.Forall₂ (fun a b => a.1 = b.1 ∧ RobstrideMotor.Alike (Own fixtures.single) a.2 b.2)
      (Dialogue.session (fixtures.single.exchange
          (socket_bus AtSerialCanInterface.answering AtSerialCanInterface.brisk_clock "can0"))
        ([.enable, .get_run_mode].map (Command.operation fixtures.single)) ⟨none, late_filter⟩)
      (Dialogue.session (AtSerialCanInterface.answering.exchange fixtures.single)
        ([.enable, .get_run_mode].map (Command.operation fixtures.single))
        ⟨none, ⟨0, [fixtures.foreign_answer]⟩⟩) :=
  socket_session AtSerialCanInterface.answering "can0" fixtures.single brisk_clock_in_time _
    ⟨rfl, late_filter_own⟩

end SocketCanInterface

end Robstride
