import RpcPipeline.Time.Nanos

/-!
# `RpcPipeline.Time.Alarm`: waiting for a point of time

Time passes in whole milliseconds wherever anything waits for it, so an alarm
goes off at the first whole millisecond that is not before the instant it was
set for. Alarms that go off together do so in the order in which they were set.
-/

set_option autoImplicit false

namespace RpcPipeline

/-- Something that happens once it is time. -/
structure Alarm where
  /-- When the alarm was set. -/
  start : Instant
  /-- The instant it was set for. -/
  due : Instant
  deriving Repr, DecidableEq

namespace Alarm

/-- An alarm set now for some time later. -/
def after (now : Instant) (delay : Nanos) : Alarm := ⟨now, now + delay⟩

/-- When the alarm goes off. -/
def rings (a : Alarm) : Instant := Nanos.ceilMilli a.due

/-- Whether it is time. -/
def isDue (a : Alarm) (now : Instant) : Bool := a.rings ≤ now

/-- Whether one alarm goes off before another. -/
def precedes (a b : Alarm) : Bool := a.rings < b.rings || (a.rings = b.rings && a.start ≤ b.start)

end Alarm

end RpcPipeline
