/-
The parameter frames, from one side's encoder to the other side's decoder.

Five encoders and three decoders are written separately: the host's requests carry
the motor in the destination and the host in data area 2, the motor's responses the
other way round, and between the two lies the serial link, which packs the
identifier in the other byte order and shifted by three bits. `ParamMessage` is a
call of one of the five encoders, and `param_message_delivered` follows it all the
way: the frame comes off the link as it was, and its decoder finds the arguments.
-/
import RobstrideDriver.AtSerial

set_option autoImplicit false

open CppArith

namespace Robstride

/-- A call of one of the parameter encoders, with its arguments. -/
inductive ParamMessage where
  | read_param (motor_id host_id : UInt8) (index : UInt16)
  | write_param_float (motor_id host_id : UInt8) (index : UInt16) (value : F32)
  | write_param_uint8 (motor_id host_id : UInt8) (index : UInt16) (value : UInt8)
  | param_response_float (motor_id host_id : UInt8) (index : UInt16) (value : F32)
  | param_response_uint8 (motor_id host_id : UInt8) (index : UInt16) (value : UInt8)
deriving DecidableEq, Repr

namespace ParamMessage

/-- The frame the call returns. -/
def frame : ParamMessage → CanFrame
  | read_param motor_id host_id index => make_read_param_frame motor_id host_id index
  | write_param_float motor_id host_id index value =>
    make_write_param_frame_float motor_id host_id index value
  | write_param_uint8 motor_id host_id index value =>
    make_write_param_frame_uint8 motor_id host_id index value
  | param_response_float motor_id host_id index value =>
    make_param_response_frame_float motor_id host_id index value
  | param_response_uint8 motor_id host_id index value =>
    make_param_response_frame_uint8 motor_id host_id index value

/-- The decoder of the other side finds the arguments of the call in the frame. -/
def DecodedFrom : ParamMessage → CanFrame → Prop
  | read_param motor_id host_id index, f =>
    parse_param_read_request f = some ⟨motor_id, host_id, index⟩
  | write_param_float motor_id host_id index value, f =>
    parse_param_write_request f = some ⟨motor_id, host_id, index, value.bytes⟩
  | write_param_uint8 motor_id host_id index value, f =>
    parse_param_write_request f = some ⟨motor_id, host_id, index, uint8_value value⟩
  | param_response_float motor_id _ index value, f =>
    parse_param_response f = some ⟨motor_id, index, value.bytes⟩
  | param_response_uint8 motor_id _ index value, f =>
    parse_param_response f = some ⟨motor_id, index, uint8_value value⟩

end ParamMessage

/-! ## The decoders on their own frames -/

@[simp] theorem parse_make_read_param_frame (motor_id host_id : UInt8) (index : UInt16) :
    parse_param_read_request (make_read_param_frame motor_id host_id index)
      = some ⟨motor_id, host_id, index⟩ := by
  simp [parse_param_read_request, make_read_param_frame]

@[simp] theorem parse_make_write_param_frame_base (motor_id host_id : UInt8) (index : UInt16)
    (value : Vector UInt8 4) :
    parse_param_write_request (make_write_param_frame_base motor_id host_id index value)
      = some ⟨motor_id, host_id, index, value⟩ := by
  simp [parse_param_write_request, make_write_param_frame_base]

@[simp] theorem parse_make_param_response_frame_base (motor_id host_id : UInt8) (index : UInt16)
    (value : Vector UInt8 4) :
    parse_param_response (make_param_response_frame_base motor_id host_id index value)
      = some ⟨motor_id, index, value⟩ := by
  simp [parse_param_response, make_param_response_frame_base]

/-- A parameter frame comes out of its decoder as the message it was made from. -/
theorem ParamMessage.decoded_from (message : ParamMessage) :
    message.DecodedFrom message.frame := by
  cases message with
  | read_param motor_id host_id index => exact parse_make_read_param_frame _ _ _
  | write_param_float motor_id host_id index value =>
    exact parse_make_write_param_frame_base _ _ _ _
  | write_param_uint8 motor_id host_id index value =>
    exact parse_make_write_param_frame_base _ _ _ _
  | param_response_float motor_id host_id index value =>
    exact parse_make_param_response_frame_base _ _ _ _
  | param_response_uint8 motor_id host_id index value =>
    exact parse_make_param_response_frame_base _ _ _ _

/-- The decoders reject every frame of a type that is not theirs. -/
theorem param_parsers_reject (f : CanFrame) :
    (get_comm_type f ≠ CommType.ReadParam.code →
        parse_param_read_request f = none ∧ parse_param_response f = none) ∧
      (get_comm_type f ≠ CommType.WriteParam.code → parse_param_write_request f = none) := by
  unfold parse_param_read_request parse_param_response parse_param_write_request
  constructor
  · intro htype
    rw [if_pos htype, if_pos htype]
    exact ⟨rfl, rfl⟩
  · intro htype
    rw [if_pos htype]

/-! ## Across the serial link -/

/-- An identifier has 29 bits, so the three-bit shift of the link drops none. -/
theorem make_id_lt (t : CommType) (a : UInt16) (d : UInt8) : make_id t a d < 0x20000000 := by
  have ht := t.code_lt
  have ha := a.toNat_lt
  have hd := d.toNat_lt
  have hid := make_id_toNat t a d
  show (make_id t a d).toNat < 0x20000000
  omega

/-- The frames of parameter messages have identifiers of 29 bits. -/
theorem ParamMessage.frame_id_lt (message : ParamMessage) : message.frame.id < 0x20000000 := by
  cases message <;> exact make_id_lt _ _ _

/-- And they have eight bytes, so that they go over the wire as they are. -/
theorem ParamMessage.frame_dlc (message : ParamMessage) : message.frame.dlc = 8 := by
  cases message <;> rfl

/-- Any number of parameter frames in a row comes off the link as sent, however the stream is
cut. -/
theorem complete_param_messages (messages : List ParamMessage)
    (acts : List (Scanner.Action UInt8))
    (hacts : Scanner.pushed acts = messages.flatMap fun m => at_serial.encode_frame m.frame) :
    at_serial.FrameParser.complete acts = (messages.map ParamMessage.frame, {}) := by
  have hframes : ∀ f ∈ messages.map ParamMessage.frame, f.id < 0x20000000 ∧ f.dlc ≤ 8 := by
    intro f hf
    obtain ⟨m, -, rfl⟩ := List.mem_map.mp hf
    refine ⟨m.frame_id_lt, ?_⟩
    rw [m.frame_dlc]
    decide
  have hwhole : (messages.map ParamMessage.frame).map at_serial.on_wire
      = messages.map ParamMessage.frame := by
    rw [List.map_map]
    exact List.map_congr_left fun m _ => at_serial.on_wire_full m.frame_dlc
  have hdrain := at_serial.drain_packets _ hframes
  rw [List.flatMap_map, hwhole] at hdrain
  rw [at_serial.FrameParser.complete_eq, hacts, hdrain]

/-- **A parameter frame reaches the other side with its arguments**, through the serial link in any
chunking: ids, index and value bytes come out of the one decoder for its type as they went in, and
no decoder takes a frame of another type. -/
theorem param_message_delivered (message : ParamMessage) (acts : List (Scanner.Action UInt8))
    (hacts : Scanner.pushed acts = at_serial.encode_frame message.frame) :
    at_serial.FrameParser.complete acts = ([message.frame], {}) ∧
      message.DecodedFrom message.frame ∧
      ∀ f : CanFrame,
        (get_comm_type f ≠ CommType.ReadParam.code →
            parse_param_read_request f = none ∧ parse_param_response f = none) ∧
          (get_comm_type f ≠ CommType.WriteParam.code → parse_param_write_request f = none) := by
  refine ⟨complete_param_messages [message] acts ?_, message.decoded_from, param_parsers_reject⟩
  rw [hacts, List.flatMap_singleton]

/-- The worked example of the tests, in two pieces. -/
theorem param_message_delivered_split :
    at_serial.FrameParser.complete
        [.push (at_serial.manual_run_mode_frame.take 9), .poll,
          .push (at_serial.manual_run_mode_frame.drop 9)]
        = ([make_write_param_frame_uint8 0x01 0xFD param_index.run_mode 1], {}) ∧
      parse_param_write_request (make_write_param_frame_uint8 0x01 0xFD param_index.run_mode 1)
        = some ⟨0x01, 0xFD, param_index.run_mode, #v[1, 0, 0, 0]⟩ := by
  obtain ⟨hlink, hdecoded, -⟩ := param_message_delivered
    (.write_param_uint8 0x01 0xFD param_index.run_mode 1)
    [.push (at_serial.manual_run_mode_frame.take 9), .poll,
      .push (at_serial.manual_run_mode_frame.drop 9)] (by decide)
  exact ⟨hlink, hdecoded⟩

end Robstride
