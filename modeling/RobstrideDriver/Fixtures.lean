/-
`tests/fixtures/can_bus.hpp`: the bus topologies of the unit tests.

The motors the concrete runs of this development are about. Their arithmetic is
exact, on the rationals, with 22/7 for pi.
-/
import RobstrideDriver.Lib.Binary32
import RobstrideDriver.RobstrideMotor

set_option autoImplicit false

namespace Robstride

namespace fixtures

/-- The RS02 entry of the limits table. -/
def rs02 : ActuatorLimits ℚ := ⟨88 / 7, 44, 17, 500, 5⟩

example : get_actuator_limits (22 / 7 : ℚ) .Rs02 = .ok rs02 := by decide +kernel

/-- `can_bus::single`. -/
def single : RobstrideMotor ℚ := ⟨{ motor_id := 0x01, host_id := 0xFD }, rs02⟩

/-- `can_bus::dual`, the left motor. -/
def left : RobstrideMotor ℚ := ⟨{ motor_id := 0x01, host_id := 0xFD, response_timeout := 10 }, rs02⟩

/-- `can_bus::dual`, the right motor. -/
def right : RobstrideMotor ℚ :=
  ⟨{ motor_id := 0x02, host_id := 0xFD, response_timeout := 10 }, rs02⟩

/-- Both, as a fleet. -/
def dual : Bool → RobstrideMotor ℚ
  | false => left
  | true => right

/-- The feedback frame of motor 1 in `IgnoresFramesFromOtherMotors`. -/
def enable_answer : CanFrame :=
  { id := 0x028001FD, data := #v[0x7F, 0xFF, 0x7F, 0xFF, 0x7F, 0xFF, 0x01, 0x0E] }

/-- The same from motor `0x22`. -/
def foreign_answer : CanFrame := { enable_answer with id := 0x028022FD }

end fixtures

end Robstride
