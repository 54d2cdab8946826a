/-
`examples/tracking_capture_*.cpp`: what the capture programs say to the motor.

Each program sets the motor up, runs its profile and winds up, and stops at the first
exception. The five are one program with parameters (`Program`): the profile, what is
done before and after, the command sent in each cycle, and what else a row records.

What the motor is asked is fixed but for the number of cycles in each segment, which is
the clock's to say and can be read off the file: a cycle for each row, and one more where
an exchange of a cycle failed (`Counted`). With these numbers a capture follows its script
to the Stop at its end, or breaks it at the first exchange that was not answered as it
should be, and then nothing more is sent: no Stop either (`capture_conducted`).
-/
import RobstrideDriver.TrackingCapture

set_option autoImplicit false

open CppArith Retry

namespace Robstride

namespace tracking_capture

/-! ## The programs -/

/-- A capture program, from the transport on. -/
structure Program (D : Type) where
  profile : List (Segment D)
  set_up : Operation Unit
  send_command : D → Operation (Feedback D)
  append_extra : Operation (List F32) := .done []
  wind_up : Operation Unit

/-- The `try` block of `main`, but for the opening of the file. -/
def Program.run {σ : Type*} {D : Type} [Add D] [Sub D] [Div D] [Neg D] [NatCast D] [IntCast D]
    [LT D] [DecidableLT D] (p : Program D) (b : Bench σ) (passes : ℕ) (c : Capture σ D) :
    Option (Except Exception Unit × Capture σ D) :=
  match Dialogue.run b.exchange p.set_up c.bench with
  | (.error e, s) => some (.error e, { c with bench := s })
  | (.ok (), s) =>
    match run_profile b p.send_command p.append_extra p.profile passes { c with bench := s } with
    | none => none
    | some (.error e, c) => some (.error e, c)
    | some (.ok (), c) =>
      some ((Dialogue.run b.exchange p.wind_up c.bench).1,
        { c with bench := (Dialogue.run b.exchange p.wind_up c.bench).2 })

section Runs

variable {σ : Type*} {D : Type} [Add D] [Sub D] [Div D] [Neg D] [NatCast D] [IntCast D]
  [LT D] [DecidableLT D] {p : Program D} {b : Bench σ} {passes : ℕ} {c c' : Capture σ D} {s : σ}

/-- Where the set-up fails the program ends with its exception, and the file has no rows. -/
theorem Program.run_unset {e : Exception}
    (hset_up : Dialogue.run b.exchange p.set_up c.bench = (.error e, s)) :
    p.run b passes c = some (.error e, { c with bench := s }) := by
  rw [Program.run, hset_up]

/-- Where the profile does not end neither does the program. -/
theorem Program.run_unended (hset_up : Dialogue.run b.exchange p.set_up c.bench = (.ok (), s))
    (hprofile : run_profile b p.send_command p.append_extra p.profile passes
      { c with bench := s } = none) : p.run b passes c = none := by
  rw [Program.run, hset_up]
  dsimp only
  rw [hprofile]

/-- Where a cycle fails the program ends with its exception, and is not wound up. -/
theorem Program.run_broken (hset_up : Dialogue.run b.exchange p.set_up c.bench = (.ok (), s))
    {e : Exception} (hprofile : run_profile b p.send_command p.append_extra p.profile passes
      { c with bench := s } = some (.error e, c')) :
    p.run b passes c = some (.error e, c') := by
  rw [Program.run, hset_up]
  dsimp only
  rw [hprofile]

/-- Where the profile is gone through the program ends as its wind-up does, with the rows of the
profile. -/
theorem Program.run_through (hset_up : Dialogue.run b.exchange p.set_up c.bench = (.ok (), s))
    (hprofile : run_profile b p.send_command p.append_extra p.profile passes
      { c with bench := s } = some (.ok (), c')) :
    p.run b passes c = some ((Dialogue.run b.exchange p.wind_up c'.bench).1,
      { c' with bench := (Dialogue.run b.exchange p.wind_up c'.bench).2 }) := by
  rw [Program.run, hset_up]
  dsimp only
  rw [hprofile]

end Runs

namespace bench

variable {D : Type} [NatCast D]

def current_limit_a : D := ((10 : ℕ) : D)
def acceleration_rad : D := ((20 : ℕ) : D)
def pp_vel_max : D := ((4 : ℕ) : D)
def pp_acc_set : D := ((20 : ℕ) : D)
def csp_speed_limit : D := ((4 : ℕ) : D)

end bench

section Programs

variable {D : Type} [Add D] [Sub D] [Mul D] [Div D] [Neg D] [NatCast D]
  [LT D] [DecidableLT D] [DoubleMath D] [FloatConv D] (self : RobstrideMotor D)

open FloatConv (toFloat)

/-- `tracking_capture_velocity.cpp`. -/
def tracking_capture_velocity : Program D where
  profile := [⟨((1 : ℕ) : D), ((0 : ℕ) : D)⟩, ⟨((4 : ℕ) : D), ((2 : ℕ) : D)⟩,
    ⟨((4 : ℕ) : D), ((4 : ℕ) : D)⟩, ⟨((4 : ℕ) : D), -((2 : ℕ) : D)⟩,
    ⟨((3 : ℕ) : D), ((0 : ℕ) : D)⟩]
  set_up := do
    self.set_run_mode .Velocity
    let _ ← self.enable
    self.configure_velocity_mode bench.current_limit_a bench.acceleration_rad
  send_command target := self.send_velocity_command target
  wind_up := do
    let _ ← self.send_velocity_command ((0 : ℕ) : D)
    let _ ← self.disable
    return ()

/-- `tracking_capture_position.cpp`. -/
def tracking_capture_position (pi : D) : Program D where
  profile := [⟨((1 : ℕ) : D), ((0 : ℕ) : D)⟩, ⟨((4 : ℕ) : D), pi⟩, ⟨((4 : ℕ) : D), -pi⟩,
    ⟨((4 : ℕ) : D), ((0 : ℕ) : D)⟩]
  set_up := do
    self.set_run_mode .PositionCsp
    self.set_mechanical_zero
    let _ ← self.enable
    let _ ← self.write_param_float param_index.limit_spd (toFloat (bench.csp_speed_limit : D))
    return ()
  send_command target := self.write_param_float param_index.loc_ref (toFloat target)
  wind_up := do
    let _ ← self.disable
    return ()

/-- `tracking_capture_pp.cpp`. -/
def tracking_capture_pp (pi : D) : Program D where
  profile := [⟨((1 : ℕ) : D), ((0 : ℕ) : D)⟩, ⟨((4 : ℕ) : D), pi⟩, ⟨((4 : ℕ) : D), -pi⟩,
    ⟨((4 : ℕ) : D), ((0 : ℕ) : D)⟩]
  set_up := do
    self.set_run_mode .PositionPp
    self.set_mechanical_zero
    let _ ← self.enable
    let _ ← self.write_param_float param_index.vel_max (toFloat (bench.pp_vel_max : D))
    let _ ← self.write_param_float param_index.acc_set (toFloat (bench.pp_acc_set : D))
    return ()
  send_command target := self.write_param_float param_index.loc_ref (toFloat target)
  wind_up := do
    let _ ← self.disable
    return ()

/-- `tracking_capture_current.cpp`. -/
def tracking_capture_current : Program D where
  profile :=
    let step : D := ((3 : ℕ) : D) / ((2 : ℕ) : D)
    let amps : D := ((3 : ℕ) : D) / ((10 : ℕ) : D)
    [⟨((1 : ℕ) : D), ((0 : ℕ) : D)⟩, ⟨step, amps⟩, ⟨step, -amps⟩, ⟨step, amps⟩, ⟨step, -amps⟩,
      ⟨((1 : ℕ) : D), ((0 : ℕ) : D)⟩]
  set_up := do
    self.set_run_mode .Current
    let _ ← self.enable
    return ()
  send_command target := self.write_param_float param_index.iq_ref (toFloat target)
  append_extra := do
    return [← self.read_param_float param_index.iq_filtered]
  wind_up := do
    let _ ← self.write_param_float param_index.iq_ref .zero
    let _ ← self.disable
    return ()

/-- `tracking_capture_operation.cpp`. -/
def tracking_capture_operation (pi kp kd : D) : Program D where
  profile := [⟨((1 : ℕ) : D), ((0 : ℕ) : D)⟩, ⟨((3 : ℕ) : D), pi / ((2 : ℕ) : D)⟩,
    ⟨((3 : ℕ) : D), -pi / ((2 : ℕ) : D)⟩, ⟨((3 : ℕ) : D), ((0 : ℕ) : D)⟩]
  set_up := do
    self.set_run_mode .OperationControl
    self.set_mechanical_zero
    let _ ← self.enable
    return ()
  send_command target :=
    self.send_motion_command ((0 : ℕ) : D) target ((0 : ℕ) : D) kp kd
  wind_up := do
    let _ ← self.disable
    return ()

end Programs

/-! ## What they say -/

section Scripts

open Dialogue

variable {D : Type} [Add D] [Sub D] [Mul D] [Div D] [Neg D] [NatCast D]
  [LT D] [DecidableLT D] [DoubleMath D] [FloatConv D] {self : RobstrideMotor D}

/-- The exchanges of a command, and what makes their answers good ones. -/
def script (self : RobstrideMotor D) (c : Command D) : List (Step Exchange CanFrame) :=
  gated Exchange.Accepts c.verifies (c.steps self)

/-- The program says these commands. -/
def Says {α : Type} (self : RobstrideMotor D) (commands : List (Command D)) (p : Operation α) :
    Prop :=
  Chain (commands.flatMap (script self)) p

omit [Add D] in
/-- Nothing is said by returning. -/
theorem Says.nil {α : Type} (a : α) : Says self [] (.done a) := .done a

omit [Add D] in
/-- A command, and after it the commands of what the program does with its value. -/
theorem Says.cons {α β : Type} {c : Command D} {commands : List (Command D)} {p : Operation α}
    {f : α → Operation β} (hp : Chain (script self c) p) (hf : ∀ a, Says self commands (f a)) :
    Says self (c :: commands) (p >>= f) :=
  hp.bind hf

omit [Add D] in
/-- A single command, whose value is the value of the program. -/
theorem Says.single {α : Type} {c : Command D} {p : Operation α} (hp : Chain (script self c) p) :
    Says self [c] p := by
  rw [Says, List.flatMap_singleton]
  exact hp

/-- `enable` is one exchange, whose answer is good if it parses as feedback. -/
theorem enable_chain : Chain (script self .enable) self.enable := (feedback_last _).chain

/-- `disable` is one exchange as well, with the flag that clears a fault in its frame. -/
theorem disable_chain (clear_fault : Bool) :
    Chain (script self (.disable clear_fault)) (self.disable clear_fault) :=
  (feedback_last _).chain

/-- `set_run_mode` is three exchanges: a stop, the write of the mode, and the read that is to show
it. -/
theorem set_run_mode_chain (mode : RunMode) :
    Chain (script self (.set_run_mode mode)) (self.set_run_mode mode) :=
  (feedback_step _ fun _ => feedback_step _ fun _ => verify_last mode _ ()).chain

/-- `set_mechanical_zero` is two exchanges: a stop, and the command itself. -/
theorem set_mechanical_zero_chain :
    Chain (script self .set_mechanical_zero) self.set_mechanical_zero :=
  (feedback_step _ fun _ => (feedback_last _).map _).chain

/-- `configure_velocity_mode` is two exchanges, a write for each limit. -/
theorem configure_velocity_mode_chain (current_limit acceleration : D) :
    Chain (script self (.configure_velocity_mode current_limit acceleration))
      (self.configure_velocity_mode current_limit acceleration) :=
  (feedback_step _ fun _ => (feedback_last _).map _).chain

/-- `send_velocity_command` is one exchange, a write of the reference. -/
theorem send_velocity_command_chain (velocity : D) :
    Chain (script self (.send_velocity_command velocity)) (self.send_velocity_command velocity) :=
  (feedback_last _).chain

/-- `send_motion_command` is one exchange, with all five arguments in its frame. -/
theorem send_motion_command_chain (torque position velocity kp kd : D) :
    Chain (script self (.send_motion_command torque position velocity kp kd))
      (self.send_motion_command torque position velocity kp kd) :=
  (feedback_last _).chain

/-- `write_param_float` is one exchange, answered with feedback. -/
theorem write_param_float_chain (index : UInt16) (value : F32) :
    Chain (script self (.write_param_float index value)) (self.write_param_float index value) :=
  (feedback_last _).chain

omit [Add D] in
/-- `read_param_float` is one exchange, whose answer is good if it parses as a parameter response,
and what the program makes of the value does not matter to it. -/
theorem read_param_float_chain (index : UInt16) {α : Type} (g : F32 → α) :
    Chain (script self (.read_param_float index))
      (self.read_param_float index >>= fun a => .done (g a)) :=
  (read_done index _ _).chain

/-- A program, and the commands it is made of. -/
structure Spoken (motor : RobstrideMotor D) (p : Program D) where
  set_up : List (Command D)
  cycle : D → List (Command D)
  extra : List (Command D)
  wind_up : List (Command D)
  says_set_up : Says motor set_up p.set_up
  says_cycle : ∀ target, Says motor (cycle target) (p.send_command target)
  says_extra : Says motor extra p.append_extra
  says_wind_up : Says motor wind_up p.wind_up

open FloatConv (toFloat)

variable (self)

def spoken_velocity : Spoken self (tracking_capture_velocity self) where
  set_up := [.set_run_mode .Velocity, .enable,
    .configure_velocity_mode bench.current_limit_a bench.acceleration_rad]
  cycle target := [.send_velocity_command target]
  extra := []
  wind_up := [.send_velocity_command ((0 : ℕ) : D), .disable false]
  says_set_up := .cons (set_run_mode_chain _) fun _ => .cons enable_chain fun _ =>
    .single (configure_velocity_mode_chain _ _)
  says_cycle target := .single (send_velocity_command_chain target)
  says_extra := .nil []
  says_wind_up := .cons (send_velocity_command_chain _) fun _ =>
    .cons (disable_chain _) fun _ => .nil ()

def spoken_position (pi : D) : Spoken self (tracking_capture_position self pi) where
  set_up := [.set_run_mode .PositionCsp, .set_mechanical_zero, .enable,
    .write_param_float param_index.limit_spd (toFloat (bench.csp_speed_limit : D))]
  cycle target := [.write_param_float param_index.loc_ref (toFloat target)]
  extra := []
  wind_up := [.disable false]
  says_set_up := .cons (set_run_mode_chain _) fun _ => .cons set_mechanical_zero_chain fun _ =>
    .cons enable_chain fun _ => .cons (write_param_float_chain _ _) fun _ => .nil ()
  says_cycle _ := .single (write_param_float_chain _ _)
  says_extra := .nil []
  says_wind_up := .cons (disable_chain _) fun _ => .nil ()

def spoken_pp (pi : D) : Spoken self (tracking_capture_pp self pi) where
  set_up := [.set_run_mode .PositionPp, .set_mechanical_zero, .enable,
    .write_param_float param_index.vel_max (toFloat (bench.pp_vel_max : D)),
    .write_param_float param_index.acc_set (toFloat (bench.pp_acc_set : D))]
  cycle target := [.write_param_float param_index.loc_ref (toFloat target)]
  extra := []
  wind_up := [.disable false]
  says_set_up := .cons (set_run_mode_chain _) fun _ => .cons set_mechanical_zero_chain fun _ =>
    .cons enable_chain fun _ => .cons (write_param_float_chain _ _) fun _ =>
    .cons (write_param_float_chain _ _) fun _ => .nil ()
  says_cycle _ := .single (write_param_float_chain _ _)
  says_extra := .nil []
  says_wind_up := .cons (disable_chain _) fun _ => .nil ()

def spoken_current : Spoken self (tracking_capture_current self) where
  set_up := [.set_run_mode .Current, .enable]
  cycle target := [.write_param_float param_index.iq_ref (toFloat target)]
  extra := [.read_param_float param_index.iq_filtered]
  wind_up := [.write_param_float param_index.iq_ref .zero, .disable false]
  says_set_up := .cons (set_run_mode_chain _) fun _ => .cons enable_chain fun _ => .nil ()
  says_cycle _ := .single (write_param_float_chain _ _)
  says_extra := .single (read_param_float_chain _ _)
  says_wind_up := .cons (write_param_float_chain _ _) fun _ =>
    .cons (disable_chain _) fun _ => .nil ()

def spoken_operation (pi kp kd : D) : Spoken self (tracking_capture_operation self pi kp kd) where
  set_up := [.set_run_mode .OperationControl, .set_mechanical_zero, .enable]
  cycle target := [.send_motion_command ((0 : ℕ) : D) target ((0 : ℕ) : D) kp kd]
  extra := []
  wind_up := [.disable false]
  says_set_up := .cons (set_run_mode_chain _) fun _ => .cons set_mechanical_zero_chain fun _ =>
    .cons enable_chain fun _ => .nil ()
  says_cycle _ := .single (send_motion_command_chain _ _ _ _ _)
  says_extra := .nil []
  says_wind_up := .cons (disable_chain _) fun _ => .nil ()

end Scripts

/-! ## What a capture says -/

section Conversation

open Dialogue

/-- A bench with a log of the exchanges. -/
def Bench.recorded {σ : Type*} (b : Bench σ) :
    Bench (σ × List (Entry Exchange CanFrame Exception)) where
  exchange := Dialogue.recorded b.exchange
  now s := ((b.now s.1).1, (b.now s.1).2, s.2)
  sleep_until t s := (b.sleep_until t s.1, s.2)

/-- Keeping a log takes no time and does not turn the clock back. -/
theorem Bench.Steady.recorded {σ : Type*} {b : Bench σ} (h : b.Steady) : b.recorded.Steady where
  now s := h.now s.1
  exchange e s := h.exchange e s.1
  sleep t s := h.sleep t s.1
  wakes t s := h.wakes t s.1

variable {D : Type} [Sub D] [Mul D] [Div D] [Neg D] [NatCast D]
  [LT D] [DecidableLT D] [DoubleMath D] [FloatConv D] {self : RobstrideMotor D} {p : Program D}

/-- The commands of the cycles, so many in each segment. -/
def Spoken.said (spoken : Spoken self p) (segments : List (Segment D)) (counts : List ℕ) :
    List (Command D) :=
  (List.zipWith (fun segment n =>
    (List.replicate n (spoken.cycle segment.target ++ spoken.extra)).flatten) segments counts).flatten

/-- All the commands of a capture. -/
def Spoken.whole (spoken : Spoken self p) (counts : List ℕ) : List (Command D) :=
  spoken.set_up ++ spoken.said p.profile counts ++ spoken.wind_up

variable (spoken : Spoken self p)

/-- The commands of two parts of a profile, one after the other, with the counts of each. -/
theorem said_append {segments : List (Segment D)} {counts : List ℕ}
    (h : segments.length = counts.length) (segments' : List (Segment D)) (counts' : List ℕ) :
    spoken.said (segments ++ segments') (counts ++ counts')
      = spoken.said segments counts ++ spoken.said segments' counts' := by
  rw [Spoken.said, Spoken.said, Spoken.said, List.zipWith_append h, List.flatten_append]

/-- One cycle more: its commands come after those of the cycles before. -/
theorem said_succ (segment : Segment D) (n : ℕ) :
    spoken.said [segment] [n + 1]
      = spoken.said [segment] [n] ++ (spoken.cycle segment.target ++ spoken.extra) := by
  rw [Spoken.said, Spoken.said, List.zipWith_cons_cons, List.zipWith_cons_cons,
    List.zipWith_nil_left, List.flatten_singleton, List.flatten_singleton, List.replicate_succ',
    List.flatten_append, List.flatten_singleton]

/-- Segments without cycles say nothing. -/
theorem said_zero (segments : List (Segment D)) :
    spoken.said segments (List.replicate segments.length 0) = [] := by
  induction segments with
  | nil => rfl
  | cons segment segments ih =>
    rw [List.length_cons, List.replicate_succ, Spoken.said, List.zipWith_cons_cons,
      List.flatten_cons]
    exact ih

variable [Add D] [IntCast D] {σ : Type*} {b : Bench σ} {start : ℤ}

variable (b start) in
/-- One cycle: the entries that it adds to the log follow its commands if it succeeds, and break
them where one of its exchanges fails. -/
theorem cycle_conducted (target : D)
    (c : Capture (σ × List (Entry Exchange CanFrame Exception)) D) :
    ∃ entries, (cycle b.recorded start p.send_command p.append_extra target c).2.bench.2
        = c.bench.2 ++ entries ∧
      Conducted ((spoken.cycle target ++ spoken.extra).flatMap (script self))
        (cycle b.recorded start p.send_command p.append_extra target c).1 entries := by
  obtain ⟨sent, hsent, hcommand⟩ := (spoken.says_cycle target).run b.exchange
    (b.recorded.now c.bench).2
  rw [List.flatMap_append]
  rcases cycle_cases b.recorded start p.send_command p.append_extra target c with
    ⟨e, s, hs, hcycle⟩ | ⟨feedback, s, hs, hrest⟩
  · have hs' : Dialogue.run (Dialogue.recorded b.exchange) (p.send_command target)
        (b.recorded.now c.bench).2 = (.error e, s) := hs
    rw [hs'] at hsent hcommand
    rw [hcycle]
    -- the extra commands are not reached
    exact ⟨sent, hsent, hcommand.error _⟩
  · have hs' : Dialogue.run (Dialogue.recorded b.exchange) (p.send_command target)
        (b.recorded.now c.bench).2 = (.ok feedback, s) := hs
    rw [hs'] at hsent hcommand
    obtain ⟨more, hmore, hextra⟩ := spoken.says_extra.run b.exchange (b.recorded.now s).2
    rcases hrest with ⟨e, s', hs', hcycle⟩ | ⟨extra, s', hs', hcycle⟩
    · have hs'' : Dialogue.run (Dialogue.recorded b.exchange) p.append_extra
          (b.recorded.now s).2 = (.error e, s') := hs'
      rw [hs''] at hmore hextra
      rw [hcycle]
      exact ⟨sent ++ more,
        hmore.trans ((congrArg (· ++ more) hsent).trans (List.append_assoc _ _ _)),
        hcommand.bind hextra⟩
    · have hs'' : Dialogue.run (Dialogue.recorded b.exchange) p.append_extra
          (b.recorded.now s).2 = (.ok extra, s') := hs'
      rw [hs''] at hmore hextra
      rw [hcycle]
      exact ⟨sent ++ more,
        hmore.trans ((congrArg (· ++ more) hsent).trans (List.append_assoc _ _ _)),
        hcommand.bind hextra⟩

/-- A capture without the log. -/
def Capture.erase (c : Capture (σ × List (Entry Exchange CanFrame Exception)) D) : Capture σ D :=
  { c with bench := c.bench.1 }

section Erase

omit [Mul D] [DoubleMath D] [FloatConv D]

variable (b start) (send_command : D → Operation (Feedback D)) (append_extra : Operation (List F32))

end Erase

/-- The rows of the segments, each with the target of its segment. -/
def Targeted (segments : List (Segment D)) (blocks : List (List (Row D))) : Prop :=
  List.Forall₂ (fun segment rows => ∀ row ∈ rows, row.target = segment.target) segments blocks

omit [Sub D] [Mul D] [Div D] [Neg D] [NatCast D] [LT D] [DecidableLT D] [DoubleMath D]
  [FloatConv D] [Add D] [IntCast D] in
/-- Segments without rows, as those are that were not reached. -/
theorem targeted_nil (segments : List (Segment D)) :
    Targeted segments (List.replicate segments.length []) := by
  induction segments with
  | nil => exact .nil
  | cons segment segments ih => exact .cons (fun row hrow => absurd hrow List.not_mem_nil) ih

/-- How many cycles the segments had whose rows these are: one for each row, and in the
segment where an exchange of a cycle failed, which is the last that has rows, one more. -/
inductive Counted : Except Exception Unit → List (List (Row D)) → List ℕ → Prop
  | complete (result : Except Exception Unit) (blocks : List (List (Row D))) :
    Counted result blocks (blocks.map List.length)
  | failed (e : Exception) (blocks : List (List (Row D))) (rows : List (Row D)) (n : ℕ) :
    Counted (.error e) (blocks ++ rows :: List.replicate n [])
      (blocks.map List.length ++ (rows.length + 1) :: List.replicate n 0)

omit [Sub D] [Mul D] [Div D] [Neg D] [NatCast D] [LT D] [DecidableLT D] [DoubleMath D]
  [FloatConv D] [Add D] [IntCast D] in
/-- There is a count for each segment, also for those that were not reached. -/
theorem Counted.length_eq {result : Except Exception Unit} {blocks : List (List (Row D))}
    {counts : List ℕ} (h : Counted result blocks counts) : counts.length = blocks.length := by
  cases h with
  | complete => exact List.length_map _
  | failed => simp

/-- The log and the rows, as far as the loop has come: the cycles of the segments that are
over, and those of the current one. -/
def Conversing (log₀ : List (Entry Exchange CanFrame Exception)) (rows₀ : List (Row D))
    (profile : List (Segment D))
    (st : Progress (σ × List (Entry Exchange CanFrame Exception)) D) : Prop :=
  ∃ finished blocks block entries, profile = finished ++ st.profile ∧ Targeted finished blocks ∧
    (∀ row ∈ block, ∃ segment ∈ st.profile.head?, row.target = segment.target) ∧
    st.capture.rows = rows₀ ++ (blocks.flatten ++ block) ∧
    st.capture.bench.2 = log₀ ++ entries ∧
    Follows ((spoken.said finished (blocks.map List.length) ++
      spoken.said (st.profile.take 1) [block.length]).flatMap (script self)) entries

/-- What is left in the log and in the file by something that says `commands`, with so many
cycles in each segment: the counts are those of the rows written, and the log follows the
commands or breaks them at the exchange that failed. -/
def Conversed (self : RobstrideMotor D) (commands : List ℕ → List (Command D))
    (log₀ : List (Entry Exchange CanFrame Exception)) (rows₀ : List (Row D))
    (profile : List (Segment D))
    (out : Except Exception Unit × Capture (σ × List (Entry Exchange CanFrame Exception)) D) :
    Prop :=
  ∃ blocks counts entries, Targeted profile blocks ∧ out.2.rows = rows₀ ++ blocks.flatten ∧
    Counted out.1 blocks counts ∧ out.2.bench.2 = log₀ ++ entries ∧
    Conducted ((commands counts).flatMap (script self)) out.1 entries

variable {spoken} {log₀ : List (Entry Exchange CanFrame Exception)} {rows₀ : List (Row D)}
  {profile : List (Segment D)}
  {st st' : Progress (σ × List (Entry Exchange CanFrame Exception)) D}

omit [Sub D] [Mul D] [Div D] [Neg D] [NatCast D] [LT D] [DecidableLT D] [DoubleMath D]
  [FloatConv D] [Add D] [IntCast D] in
/-- The rows of the current segment have its target. -/
theorem target_of_head {segment : Segment D} {rest : List (Segment D)} {rows : List (Row D)}
    (h : ∀ row ∈ rows, ∃ segment' ∈ (segment :: rest).head?, row.target = segment'.target) :
    ∀ row ∈ rows, row.target = segment.target := by
  intro row hrow
  obtain ⟨segment', hhead, htarget⟩ := h row hrow
  rwa [← Option.some.inj hhead] at htarget

/-- **One pass** keeps the log and the rows in step: a cycle that succeeds adds its commands to
the one and a row to the other. -/
theorem Conversing.again (h : Conversing spoken log₀ rows₀ profile st)
    (hpass : profile_turn b.recorded start p.send_command p.append_extra st = .again st') :
    Conversing spoken log₀ rows₀ profile st' := by
  obtain ⟨segments, current, c⟩ := st
  obtain ⟨finished, blocks, block, entries, rfl, hblocks, hblock, hrows, hlog, hfollows⟩ := h
  dsimp only at hblock hrows hlog hfollows
  cases goesOn_of_again hpass with
  | begins segment rest =>
    exact ⟨finished, blocks, block, entries, rfl, hblocks, hblock, hrows, hlog, hfollows⟩
  | cycles segment rest segment_end c' htime hresult =>
    -- the commands of one cycle more
    obtain ⟨row, stamp, hrow, hwritten⟩ := cycle_written hresult
    obtain ⟨more, hmore, hcycle⟩ := cycle_conducted spoken b start segment.target
      { c with bench := (b.recorded.now c.bench).2 }
    rw [hresult] at hmore hcycle
    refine ⟨finished, blocks, block ++ [row], entries ++ more, rfl, hblocks, ?_, ?_, ?_, ?_⟩
    · intro r hr
      rcases List.mem_append.mp hr with hr | hr
      · exact hblock r hr
      · exact ⟨segment, rfl, by rw [List.mem_singleton.mp hr, hwritten.row_target]⟩
    · refine hrow.trans ?_
      rw [hrows, List.append_assoc, List.append_assoc]
    · exact hmore.trans ((congrArg (· ++ more) hlog).trans (List.append_assoc _ _ _))
    · have hall := Follows.append hfollows hcycle
      rw [← List.flatMap_append, List.append_assoc] at hall
      dsimp only [List.take_succ_cons, List.take_zero]
      rw [List.length_append, List.length_singleton, said_succ]
      exact hall
  | ends segment rest segment_end htime =>
    have hlength : finished.length = (blocks.map List.length).length := by
      rw [List.length_map]
      exact hblocks.length_eq
    have hsegment := target_of_head hblock
    refine ⟨finished ++ [segment], blocks ++ [block], [], entries, List.append_cons _ _ _,
      List.rel_append hblocks (.cons hsegment .nil), ?_, ?_, hlog, ?_⟩
    · exact fun row hrow => absurd hrow List.not_mem_nil
    · dsimp only
      rw [hrows, List.flatten_append, List.flatten_singleton, List.append_nil]
    · have hnone : spoken.said (rest.take 1) [0] = [] := by
        rcases rest with _ | ⟨next, rest⟩
        · rfl
        · exact said_zero spoken [next]
      dsimp only
      rw [List.map_append, List.map_singleton, said_append spoken hlength, List.length_nil, hnone,
        List.append_nil]
      exact hfollows

/-- At the end: the script of the cycles has been followed, or broken in the cycle that is
counted beyond the rows. -/
theorem Conversing.stop (h : Conversing spoken log₀ rows₀ profile st)
    {out : Except Exception Unit × Capture (σ × List (Entry Exchange CanFrame Exception)) D}
    (hpass : profile_turn b.recorded start p.send_command p.append_extra st = .stop out) :
    Conversed self (spoken.said profile) log₀ rows₀ profile out := by
  obtain ⟨segments, current, c⟩ := st
  obtain ⟨finished, blocks, block, entries, rfl, hblocks, hblock, hrows, hlog, hfollows⟩ := h
  dsimp only at hblock hrows hlog hfollows
  have hlength : finished.length = (blocks.map List.length).length := by
    rw [List.length_map]
    exact hblocks.length_eq
  cases stops_of_stop hpass with
  | finished current =>
    -- no row without a segment
    obtain rfl : block = [] := by
      rcases block with _ | ⟨row, block⟩
      · rfl
      · obtain ⟨segment, hhead, -⟩ := hblock row List.mem_cons_self
        cases hhead
    have hnone : spoken.said (([] : List (Segment D)).take 1) [([] : List (Row D)).length] = [] :=
      rfl
    rw [hnone, List.append_nil] at hfollows
    rw [List.append_nil] at hrows ⊢
    exact ⟨blocks, _, entries, hblocks, hrows, .complete _ _, hlog, hfollows⟩
  | fails segment rest segment_end e c' htime hresult =>
    -- the commands of a cycle that failed, and none after it
    obtain ⟨more, hmore, hcycle⟩ := cycle_conducted spoken b start segment.target
      { c with bench := (b.recorded.now c.bench).2 }
    rw [hresult] at hmore hcycle
    have hsegment := target_of_head hblock
    refine ⟨blocks ++ block :: List.replicate rest.length [], _, entries ++ more,
      List.rel_append hblocks (.cons hsegment (targeted_nil rest)), ?_, .failed e blocks block _,
      ?_, ?_⟩
    · refine (cycle_error hresult).trans ?_
      rw [hrows, List.flatten_append, List.flatten_cons, List.flatten_replicate_nil,
        List.append_nil]
    · exact hmore.trans ((congrArg (· ++ more) hlog).trans (List.append_assoc _ _ _))
    · have hbroken : Breaks _ (entries ++ more) := Follows.breaks hfollows hcycle
      rw [← List.flatMap_append, List.append_assoc] at hbroken
      have hone : [segment].length = [block.length + 1].length := rfl
      have hsaid : spoken.said (segment :: rest)
          ((block.length + 1) :: List.replicate rest.length 0)
          = spoken.said [segment] [block.length + 1]
            ++ spoken.said rest (List.replicate rest.length 0) :=
        said_append spoken hone rest (List.replicate rest.length 0)
      rw [said_append spoken hlength, hsaid, said_zero, List.append_nil, said_succ]
      exact hbroken

end Conversation

/-! ## The five captures -/

/-- The programs, with the arguments they take beyond those of all. -/
inductive Kind (D : Type) where
  | velocity
  | position
  | pp
  | current
  | operation (kp kd : D)
deriving DecidableEq, Repr

section Kinds

variable {D : Type} [Add D] [Sub D] [Mul D] [Div D] [Neg D] [NatCast D]
  [LT D] [DecidableLT D] [DoubleMath D] [FloatConv D] (self : RobstrideMotor D) (pi : D)

def Kind.program : Kind D → Program D
  | velocity => tracking_capture_velocity self
  | position => tracking_capture_position self pi
  | pp => tracking_capture_pp self pi
  | current => tracking_capture_current self
  | operation kp kd => tracking_capture_operation self pi kp kd

def Kind.spoken : (kind : Kind D) → Spoken self (kind.program self pi)
  | velocity => spoken_velocity self
  | position => spoken_position self pi
  | pp => spoken_pp self pi
  | current => spoken_current self
  | operation kp kd => spoken_operation self pi kp kd

end Kinds

section Captures

open Dialogue

variable {K : Type} [Field K] [LinearOrder K] [IsStrictOrderedRing K] [FloorSemiring K]
  [DoubleMath K] [FloatConv K] {σ : Type*}

/-- How many passes of its loop a capture takes at most. -/
def Program.passes (p : Program K) : ℕ :=
  (p.profile.map fun segment => most segment + 2).sum + 1

end Captures

/-- None of its exchanges fails, so a pass over it that is the last one finds the profile
finished. -/
theorem quiet_stop {start : ℤ} {st : Progress ℤ ℚ} {out : Except Exception Unit × Capture ℤ ℚ}
    (hpass : profile_turn quiet_bench start fixtures.single.send_velocity_command (.done []) st
      = .stop out) : out.1 = .ok () := by
  obtain ⟨segments, current, c⟩ := st
  cases stops_of_stop hpass with
  | finished current => rfl
  | fails segment rest segment_end e c' htime hcycle =>
    rw [cycle, quiet_answer] at hcycle
    cases congrArg Prod.fst hcycle

/-- So a profile is gone through on it, whatever its segments are. -/
theorem quiet_profile {profile : List (Segment ℚ)} {passes : ℕ} {c c' : Capture ℤ ℚ}
    {result : Except Exception Unit}
    (hrun : run_profile quiet_bench fixtures.single.send_velocity_command (.done []) profile
      passes c = some (result, c')) : result = .ok () :=
  Ends.invariant (I := fun _ => True) (Q := fun out => out.1 = .ok ())
    (fun _ _ _ hpass => quiet_stop hpass) (fun _ _ _ _ => trivial)
    (ends_iff_run.mpr ⟨_, hrun⟩) trivial

/-- And the velocity capture is made: the motor is set up, the profile gone through and the motor
stopped, without an exception. -/
theorem quiet_capture :
    ∃ c', (tracking_capture_velocity fixtures.single).run quiet_bench
      (tracking_capture_velocity fixtures.single).passes ⟨0, .of_span (176 / 7), [], none⟩
        = some (.ok (), c') := by
  let p : Program ℚ := tracking_capture_velocity fixtures.single
  have hset_up : Dialogue.run quiet_bench.exchange p.set_up 0 = (.ok (), 6000000) := rfl
  obtain ⟨⟨result, c⟩, hrun⟩ := run_profile_ends p.profile p.send_command p.append_extra
    quiet_bench_steady ⟨6000000, .of_span (176 / 7), [], none⟩
  obtain rfl := quiet_profile hrun
  have hwind_up : (Dialogue.run quiet_bench.exchange p.wind_up c.bench).1 = .ok () := rfl
  have hwhole : p.run quiet_bench p.passes ⟨0, .of_span (176 / 7), [], none⟩ = _ :=
    Program.run_through hset_up hrun
  rw [hwind_up] at hwhole
  exact ⟨_, hwhole⟩

end tracking_capture

end Robstride
