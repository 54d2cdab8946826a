/-
`can_interface.hpp`: the transport a motor is driven through.

A transport is a record of functions on its own state type, so that one driver
text runs over a scripted bus, a late one, a kernel socket or the simulator. The
steady clock the driver reads is part of that outside world and comes with the
transport.

The two laws make the record a `receive` contract rather than three arbitrary
functions: a transport holds a finite backlog, a frame handed out comes off it,
and reading the clock adds nothing to it. They are what lets the receive loop of
`RobstrideMotor` be a total function (`transceive_loop`), with no fuel to run
out of: whatever the frames, a wait ends.
-/
import RobstrideDriver.Protocol

set_option autoImplicit false

namespace Robstride

structure CanInterface (σ : Type*) where
  /-- Sends one frame, or throws. -/
  send : CanFrame → σ → Except Exception Unit × σ
  /-- Receives one frame, waiting up to so many milliseconds; `none` is the
  source's `std::nullopt`. -/
  receive : ℕ → σ → Except Exception (Option CanFrame) × σ
  /-- `std::chrono::steady_clock::now()`, in nanoseconds. -/
  now : σ → ℤ × σ
  /-- How many frames can still be handed out before a `receive` comes back
  without one. -/
  backlog : σ → ℕ
  now_backlog : ∀ s, backlog (now s).2 ≤ backlog s
  receive_backlog : ∀ t s f s', receive t s = (.ok (some f), s') → backlog s' < backlog s

end Robstride
