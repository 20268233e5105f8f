import RpcPipeline.Time.Nanos

/-!
# `RpcPipeline.Time.Manual`: a clock that moves only when told to

The time of a manual clock is a number of nanoseconds of 64 bits. It wraps
around, and a step that does not fit counts as the largest one that does.
-/

set_option autoImplicit false

namespace RpcPipeline

/-- The time of a manual clock after a step. -/
def ManualClock.advance (now : Instant) (step : Nanos) : Instant :=
  (now + min step (UInt64.size - 1)) % UInt64.size

end RpcPipeline
