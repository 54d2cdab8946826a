/-
Bytes beyond `dlc`.

A `CanFrame` always holds eight data bytes, of which the first `dlc` are valid.
Two frames that agree on the valid ones are the same message (`SameMessage`), and
nothing downstream should be able to tell them apart (`Indistinct`).

The decoders of answers test the length first. The two decoders of requests and the
`Stop` branch of the simulation do not, so a short frame of one of three types is
read past its end. `LongEnough` is the length at which that stops, and
`valid_bytes_iff` says that it is the whole of it: a frame is read as a message
exactly when its type leaves no byte beyond `dlc` to read.
-/
import RobstrideDriver.Fixtures
import RobstrideDriver.StubCanInterface

set_option autoImplicit false

open CppArith

namespace Robstride

/-- The same identifier, length and valid bytes. -/
structure SameMessage (f g : CanFrame) : Prop where
  id : f.id = g.id
  dlc : f.dlc = g.dlc
  data : ∀ k (h : k < 8), k < f.dlc.toNat → f.data[k] = g.data[k]

namespace SameMessage

variable {f g : CanFrame}

theorem comm_type (h : SameMessage f g) : get_comm_type g = get_comm_type f := by
  rw [get_comm_type, get_comm_type, h.id]

theorem source (h : SameMessage f g) : get_source_motor_id g = get_source_motor_id f := by
  rw [get_source_motor_id, get_source_motor_id, h.id]

theorem target (h : SameMessage f g) : get_target_motor_id g = get_target_motor_id f := by
  rw [get_target_motor_id, get_target_motor_id, h.id]

theorem host (h : SameMessage f g) : get_host_id g = get_host_id f := by
  rw [get_host_id, get_host_id, h.id]

/-- A full frame has no bytes but its valid ones. -/
theorem eq_of_full (h : SameMessage f g) (hfull : 8 ≤ f.dlc.toNat) : f = g := by
  obtain ⟨id, data, dlc⟩ := f
  obtain ⟨id', data', dlc'⟩ := g
  obtain rfl : id = id' := h.id
  obtain rfl : dlc = dlc' := h.dlc
  have hdata : data = data' := by
    apply Vector.ext
    intro k hk
    exact h.data k hk (Nat.lt_of_lt_of_le hk hfull)
  rw [hdata]

/-- Two valid bytes are enough for the parameter index, which reads no other. -/
theorem frame_index (h : SameMessage f g) (hlen : 2 ≤ f.dlc.toNat) :
    frame_index g = Robstride.frame_index f := by
  rw [Robstride.frame_index, Robstride.frame_index, h.data 0 (by omega) (by omega),
    h.data 1 (by omega) (by omega)]

end SameMessage

/-- The same frame but for byte `k`. -/
def CanFrame.with_byte (f : CanFrame) (k : ℕ) (x : UInt8) (hk : k < 8) : CanFrame :=
  { f with data := f.data.set k x }

theorem sameMessage_with_byte {f : CanFrame} {k : ℕ} (hk : k < 8) (hdlc : f.dlc.toNat ≤ k)
    (x : UInt8) : SameMessage f (f.with_byte k x hk) where
  id := rfl
  dlc := rfl
  data := by
    intro j hj hlt
    have hne : k ≠ j := by omega
    simp [CanFrame.with_byte, hne]

section Decoders

variable {D : Type} [Add D] [Sub D] [Mul D] [Div D] [Neg D] [NatCast D] [IntCast D]
  [LT D] [DecidableLT D] [DoubleMath D] [FloatConv D]

/-- No decoder tells the frames apart, nor does the simulation. -/
structure Indistinct (stub : StubCanInterface D) (now : ℤ) (f g : CanFrame) : Prop where
  feedback : ∀ limits : ActuatorLimits D, parse_feedback f limits = parse_feedback g limits
  param_response : parse_param_response f = parse_param_response g
  read_request : parse_param_read_request f = parse_param_read_request g
  write_request : parse_param_write_request f = parse_param_write_request g
  send : stub.send now f = stub.send now g

/-- The bytes that are read of a frame of this type lie within its length. Byte 0 of a
`Stop` is read, but makes a difference only where a fault is latched. -/
structure LongEnough (stub : StubCanInterface D) (f : CanFrame) : Prop where
  read : get_comm_type f = CommType.ReadParam.code → 2 ≤ f.dlc.toNat
  write : get_comm_type f = CommType.WriteParam.code → 8 ≤ f.dlc.toNat
  stop : get_comm_type f = CommType.Stop.code →
    1 ≤ f.dlc.toNat ∨ (stub.motors_ (get_target_motor_id f)).fault_bits = 0

variable {stub : StubCanInterface D} {now : ℤ} {f g : CanFrame}

/-! ## The decoders -/

omit [IntCast D] [LT D] [DecidableLT D] [DoubleMath D] [FloatConv D] in
/-- Feedback is parsed of full frames only, which have no other bytes. -/
theorem parse_feedback_sameMessage (h : SameMessage f g) (limits : ActuatorLimits D) :
    parse_feedback f limits = parse_feedback g limits := by
  by_cases hfull : 8 ≤ f.dlc.toNat
  · rw [h.eq_of_full hfull]
  · -- a short frame is no feedback
    have hshort : f.dlc < 8 := Nat.not_le.mp hfull
    simp [parse_feedback, hshort, ← h.dlc]

theorem parse_param_response_sameMessage (h : SameMessage f g) :
    parse_param_response f = parse_param_response g := by
  by_cases hfull : 8 ≤ f.dlc.toNat
  · rw [h.eq_of_full hfull]
  · have hshort : f.dlc < 8 := Nat.not_le.mp hfull
    simp [parse_param_response, hshort, ← h.dlc]

theorem parse_param_read_request_sameMessage (h : SameMessage f g)
    (hread : get_comm_type f = CommType.ReadParam.code → 2 ≤ f.dlc.toNat) :
    parse_param_read_request f = parse_param_read_request g := by
  by_cases htype : get_comm_type f = CommType.ReadParam.code
  · simp [parse_param_read_request, h.comm_type, htype, h.target, h.host,
      h.frame_index (hread htype)]
  · simp [parse_param_read_request, h.comm_type, htype]

theorem parse_param_write_request_sameMessage (h : SameMessage f g)
    (hwrite : get_comm_type f = CommType.WriteParam.code → 8 ≤ f.dlc.toNat) :
    parse_param_write_request f = parse_param_write_request g := by
  by_cases htype : get_comm_type f = CommType.WriteParam.code
  · rw [h.eq_of_full (hwrite htype)]
  · simp [parse_param_write_request, h.comm_type, htype]

/-! ## The simulation -/

omit [Add D] [Sub D] [Mul D] [Div D] [Neg D] [NatCast D] [IntCast D] [LT D] [DecidableLT D]
  [DoubleMath D] [FloatConv D] in
/-- A `Stop` whose byte 0 is not valid clears nothing where nothing is latched. -/
theorem stop_sameMessage (h : SameMessage f g) (state : MotorState D)
    (hstop : 1 ≤ f.dlc.toNat ∨ state.fault_bits = 0) :
    StubCanInterface.stop f state = StubCanInterface.stop g state := by
  rcases hstop with hlen | hclear
  · have hbyte : clear_fault_byte f = clear_fault_byte g := h.data 0 (by omega) hlen
    simp only [StubCanInterface.stop, hbyte]
  · simp [StubCanInterface.stop, hclear]

theorem answer_with_feedback_sameMessage (h : SameMessage f g)
    {change change' : MotorState D → MotorState D}
    (hchange : change ((stub.motors_ (get_target_motor_id f)).advance now)
      = change' ((stub.motors_ (get_target_motor_id f)).advance now)) :
    stub.answer_with_feedback now f change = stub.answer_with_feedback now g change' := by
  simp only [StubCanInterface.answer_with_feedback, h.target, h.host, hchange]

/-- A frame that is long enough is answered alike whatever the bytes beyond `dlc`, and leaves the
same state. -/
theorem send_sameMessage (h : SameMessage f g) (hlong : LongEnough stub f) :
    stub.send now f = stub.send now g := by
  have hread := parse_param_read_request_sameMessage h hlong.read
  have hwrite := parse_param_write_request_sameMessage h hlong.write
  unfold StubCanInterface.send
  simp only [h.comm_type, h.target, h.host, ← hread, ← hwrite]
  split_ifs with henable hstop hzero hmotion hparam hset
  · exact answer_with_feedback_sameMessage h rfl
  · exact answer_with_feedback_sameMessage h (stop_sameMessage h _ (hlong.stop hstop))
  · exact answer_with_feedback_sameMessage h rfl
  · exact answer_with_feedback_sameMessage h rfl
  · rfl
  · cases parse_param_write_request f with
    | none => rfl
    | some request => exact answer_with_feedback_sameMessage h rfl
  · rfl

theorem indistinct_of_longEnough (h : SameMessage f g) (hlong : LongEnough stub f) :
    Indistinct stub now f g where
  feedback := parse_feedback_sameMessage h
  param_response := parse_param_response_sameMessage h
  read_request := parse_param_read_request_sameMessage h hlong.read
  write_request := parse_param_write_request_sameMessage h hlong.write
  send := send_sameMessage h hlong

/-! ## Short frames -/

/-- A byte on the other side of the test of `Stop`. -/
theorem exists_other_byte (x : UInt8) : ∃ y : UInt8, y ≠ x ∧ (y = 1 ↔ x ≠ 1) := by
  by_cases hx : x = 1
  · exact ⟨0, by simp [hx], by simp [hx]⟩
  · exact ⟨1, fun h => hx h.symm, by simp [hx]⟩

/-- Byte 1 of a read request is the upper half of its index. -/
theorem two_le_of_read_request (htype : get_comm_type f = CommType.ReadParam.code)
    (h : ∀ g, SameMessage f g → parse_param_read_request f = parse_param_read_request g) :
    2 ≤ f.dlc.toNat := by
  by_contra hshort
  obtain ⟨y, hy, -⟩ := exists_other_byte f.data[1]
  have hsame := sameMessage_with_byte (f := f) (k := 1) (by omega) (by omega) y
  have hparse := h _ hsame
  rw [parse_param_read_request, parse_param_read_request, hsame.comm_type,
    if_neg (not_not.mpr htype), if_neg (not_not.mpr htype)] at hparse
  have hindex := congrArg (fun r => hi_byte r.index) (Option.some.inj hparse)
  simp only [frame_index, hi_byte_word] at hindex
  exact hy (by simpa [CanFrame.with_byte] using hindex.symm)

/-- Byte 7 of a write request is the last one of its value. -/
theorem eight_le_of_write_request (htype : get_comm_type f = CommType.WriteParam.code)
    (h : ∀ g, SameMessage f g → parse_param_write_request f = parse_param_write_request g) :
    8 ≤ f.dlc.toNat := by
  by_contra hshort
  obtain ⟨y, hy, -⟩ := exists_other_byte f.data[7]
  have hsame := sameMessage_with_byte (f := f) (k := 7) (by omega) (by omega) y
  have hparse := h _ hsame
  rw [parse_param_write_request, parse_param_write_request, hsame.comm_type,
    if_neg (not_not.mpr htype), if_neg (not_not.mpr htype)] at hparse
  have hvalue := congrArg (fun r => r.data[3]) (Option.some.inj hparse)
  exact hy (by simpa [CanFrame.with_byte, frame_value] using hvalue.symm)

theorem send_stop (htype : get_comm_type f = CommType.Stop.code) :
    stub.send now f = stub.answer_with_feedback now f (StubCanInterface.stop f) := by
  apply StubCanInterface.send_of_change
  simp [StubCanInterface.change, htype, CommType.code]

variable (stub now) in
/-- What a `Stop` does to the latched faults is decided by its byte 0. -/
theorem fault_bits_send_stop (htype : get_comm_type f = CommType.Stop.code) :
    ((stub.send now f).motors_ (get_target_motor_id f)).fault_bits
      = if clear_fault_byte f = 1 then 0
        else (stub.motors_ (get_target_motor_id f)).fault_bits := by
  rw [send_stop htype, StubCanInterface.answer_with_feedback_motors]
  rfl

/-- Byte 0 of a `Stop` decides whether a latched fault is cleared. -/
theorem one_le_of_stop (htype : get_comm_type f = CommType.Stop.code)
    (hfault : (stub.motors_ (get_target_motor_id f)).fault_bits ≠ 0)
    (h : ∀ g, SameMessage f g → stub.send now f = stub.send now g) : 1 ≤ f.dlc.toNat := by
  by_contra hshort
  obtain ⟨y, -, hy⟩ := exists_other_byte (clear_fault_byte f)
  have hsame := sameMessage_with_byte (f := f) (k := 0) (by omega) (by omega) y
  have hbits := congrArg (fun s => (s.motors_ (get_target_motor_id f)).fault_bits) (h _ hsame)
  have hother := fault_bits_send_stop stub now (hsame.comm_type.trans htype)
  have hbyte : clear_fault_byte (f.with_byte 0 y (by omega)) = y := by
    simp [CanFrame.with_byte, clear_fault_byte]
  rw [hsame.target, hbyte] at hother
  simp only [fault_bits_send_stop stub now htype, hother, hy] at hbits
  -- one of the two clears the fault, and the other keeps it
  by_cases hone : clear_fault_byte f = 1
  · rw [if_pos hone, if_neg (by simp [hone])] at hbits
    exact hfault hbits.symm
  · rw [if_neg hone, if_pos hone] at hbits
    exact hfault hbits

theorem longEnough_of_indistinct (h : ∀ g, SameMessage f g → Indistinct stub now f g) :
    LongEnough stub f where
  read htype := two_le_of_read_request htype fun g hg => (h g hg).read_request
  write htype := eight_le_of_write_request htype fun g hg => (h g hg).write_request
  stop htype := by
    by_cases hfault : (stub.motors_ (get_target_motor_id f)).fault_bits = 0
    · exact .inr hfault
    · exact .inl (one_le_of_stop htype hfault fun g hg => (h g hg).send)

/-- **When bytes beyond `dlc` do not matter.** Two frames that agree in identifier, `dlc` and the
valid bytes are answered alike, and leave the simulation alike, in every state and at every time,
exactly when the type of the frame reads no byte beyond `dlc`: reads of one are two bytes long,
writes eight, and a stop one while a fault is latched. -/
theorem valid_bytes_iff (stub : StubCanInterface D) (now : ℤ) (f : CanFrame) :
    (∀ g, SameMessage f g → Indistinct stub now f g) ↔ LongEnough stub f :=
  ⟨longEnough_of_indistinct, fun hlong _ hsame => indistinct_of_longEnough hsame hlong⟩

end Decoders

/-- A parameter write with no valid byte, and the same one with another byte 4. -/
def empty_write (mode : UInt8) : CanFrame :=
  { make_write_param_frame_uint8 0x01 0xFD param_index.run_mode mode with dlc := 0 }

/-- The simulation of the unit tests. -/
def idle_stub : StubCanInterface ℚ :=
  { limits_ := fixtures.rs02, motors_ := fun _ => { position := 0 }, temperature_ := 30 }

/-- A write request of length zero sets the run mode, to a byte that is not valid. -/
theorem empty_write_sets_run_mode :
    (¬ ∀ f g : CanFrame, f.dlc ≤ 8 → SameMessage f g →
        ∀ (stub : StubCanInterface ℚ) (now : ℤ), Indistinct stub now f g) ∧
      ((idle_stub.send 0 (empty_write 2)).motors_ 1).run_mode = 2 ∧
      ((idle_stub.send 0 (empty_write 5)).motors_ 1).run_mode = 5 := by
  refine ⟨fun h => ?_, by decide +kernel, by decide +kernel⟩
  have hsame : SameMessage (empty_write 2) (empty_write 5) :=
    ⟨rfl, rfl, fun k _ hlt => absurd hlt (Nat.not_lt_zero k)⟩
  have hindistinct := h _ _ (by decide) hsame idle_stub 0
  exact absurd hindistinct.write_request (by decide)

end Robstride
