/-
`actuator_types.hpp` and the limits table of `protocol.cpp`.

A C++ enumeration with a fixed underlying type has every value of that type,
named or not, so `ActuatorType` is a byte with seven named values, and the
lookup of an unnamed one takes the source's `out_of_range` branch.
-/
import RobstrideDriver.Lib.Double

set_option autoImplicit false

namespace Robstride

/-- The exceptions the driver can raise: `TimeoutError`, a plain
`std::runtime_error`, `std::out_of_range`, and the `std::system_error` a
transport throws with its `errno`. -/
inductive Exception where
  | TimeoutError (what : String)
  | runtime_error (what : String)
  | out_of_range (what : String)
  | system_error (errno : ℕ) (what : String)
deriving DecidableEq, Repr

/-- RobStride actuator models. -/
structure ActuatorType where
  raw : UInt8
deriving DecidableEq, Repr

namespace ActuatorType

def Rs00 : ActuatorType := ⟨0⟩
def Rs01 : ActuatorType := ⟨1⟩
def Rs02 : ActuatorType := ⟨2⟩
def Rs03 : ActuatorType := ⟨3⟩
def Rs04 : ActuatorType := ⟨4⟩
def Rs05 : ActuatorType := ⟨5⟩
def Rs06 : ActuatorType := ⟨6⟩

end ActuatorType

/-- Physical ranges of the 16-bit fixed-point fields. -/
structure ActuatorLimits (D : Type*) where
  position : D
  velocity : D
  torque : D
  kp_max : D
  kd_max : D
deriving DecidableEq, Repr

variable {D : Type*} [NatCast D] [Mul D]

/-- `limits_table`; `pi` stands for `std::numbers::pi`. -/
def limits_table (pi : D) : List (ActuatorLimits D) :=
  let four_pi := ((4 : ℕ) : D) * pi
  [ ⟨four_pi, (50 : ℕ), (17 : ℕ), (500 : ℕ), (5 : ℕ)⟩,
    ⟨four_pi, (44 : ℕ), (17 : ℕ), (500 : ℕ), (5 : ℕ)⟩,
    ⟨four_pi, (44 : ℕ), (17 : ℕ), (500 : ℕ), (5 : ℕ)⟩,
    ⟨four_pi, (50 : ℕ), (60 : ℕ), (5000 : ℕ), (100 : ℕ)⟩,
    ⟨four_pi, (15 : ℕ), (120 : ℕ), (5000 : ℕ), (100 : ℕ)⟩,
    ⟨four_pi, (33 : ℕ), (17 : ℕ), (500 : ℕ), (5 : ℕ)⟩,
    ⟨four_pi, (20 : ℕ), (36 : ℕ), (5000 : ℕ), (100 : ℕ)⟩ ]

def get_actuator_limits (pi : D) (type : ActuatorType) :
    Except Exception (ActuatorLimits D) :=
  match (limits_table pi)[type.raw.toNat]? with
  | some limits => .ok limits
  | none => .error (.out_of_range "robstride: unknown actuator type")

/-- The limits of a type are those of a row of the table. -/
theorem get_actuator_limits_mem {pi : D} {type : ActuatorType} {limits : ActuatorLimits D}
    (h : get_actuator_limits pi type = .ok limits) : limits ∈ limits_table pi := by
  unfold get_actuator_limits at h
  cases hentry : (limits_table pi)[type.raw.toNat]? with
  | none =>
    rw [hentry] at h
    cases h
  | some entry =>
    rw [hentry] at h
    obtain rfl := Except.ok.inj h
    exact List.mem_of_getElem? hentry

end Robstride
