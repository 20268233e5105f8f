import RpcPipeline.Call.Response
import RpcPipeline.Config.Sections
import RpcPipeline.Metrics.Event

/-!
# `RpcPipeline.Hosts.Limiter`: how many calls a host may be busy with

A host is sent a call only while it is busy with fewer than its limit. The limit
follows how the host does: a quick success raises it a little, an overload or a
failure lowers it by a factor, and everything else leaves it alone. A success is
quick if it took no longer than the least latency of late, times a tolerance.
The least latency is that of a window; the first success that ends more than a
minute after the window opened opens the next one.

* `Limiter.acquire`: claims a slot.
* `Limiter.release`: gives a slot back, with no word on how the call went.
* `Limiter.complete`: gives a slot back and learns from the outcome.
* `Limiter.configure`: new bounds.

A limit that has shrunk takes no slot away; it only keeps new calls out until
the host has caught up.
-/

set_option autoImplicit false

namespace RpcPipeline

/-- The limit of one host, and what it was learnt from. -/
structure Limiter (α : Type) where
  host : String
  config : LimitConfig α
  limit : α
  inFlight : Nat
  /-- The least latency of the window in nanoseconds; `Limiter.noLatency` if there
  was no success yet. -/
  minLatency : Nanos
  /-- When the window opened, counted from the creation of the limiter. -/
  windowStart : Nanos
  created : Instant
  deriving Repr

namespace Limiter

/-- What stands for no latency: the largest number of 64 bits. -/
def noLatency : Nanos := UInt64.size - 1

/-- How long a window stays open at least. -/
def window : Nanos := .seconds 60

variable {α : Type} [Scalar α]

/-- A limiter that starts at the initial limit. -/
def new (host : String) (config : LimitConfig α) (now : Instant) : Limiter α :=
  { host := host, config := config, limit := config.initialLimit, inFlight := 0,
    minLatency := noLatency, windowStart := 0, created := now }

/-- The number of calls that the limit lets the host be busy with: at least
one. -/
def slots (l : Limiter α) : Nat := max 1 (Scalar.floor l.limit)

/-- Whether another call may go to the host. -/
def hasCapacity (l : Limiter α) : Bool := l.inFlight < l.slots

omit [Scalar α] in
/-- The least latency of the window, if there was a success. -/
def minLatency? (l : Limiter α) : Option Nanos :=
  if l.minLatency = noLatency then none else some l.minLatency

/-- Replaces the settings, and brings the limit within the new bounds. -/
def configure (l : Limiter α) (config : LimitConfig α) : Limiter α × List (Event α) :=
  let limit := Scalar.clamp l.limit config.minLimit config.maxLimit
  ({ l with config := config, limit := limit }, [.limit l.host limit])

/-- Claims a slot: whether there was one. -/
def acquire (l : Limiter α) : Bool × Limiter α × List (Event α) :=
  if l.hasCapacity then
    let l := { l with inFlight := l.inFlight + 1 }
    (true, l, [.admission l.host true, .inFlight l.host l.inFlight])
  else (false, l, [.admission l.host false])

omit [Scalar α] in
/-- Gives a slot back. -/
def release (l : Limiter α) : Limiter α × List (Event α) :=
  let l := { l with inFlight := l.inFlight - 1 }
  (l, [.inFlight l.host l.inFlight])

omit [Scalar α] in
/-- Takes note of the latency of a success: the least latency of the window it
falls into. Latencies and times beyond 64 bits count as very large ones. -/
def observe (l : Limiter α) (now : Instant) (latency : Nanos) : Nanos × Limiter α :=
  -- A latency beyond 64 bits is kept clear of the value that stands for none.
  let sample := if latency < UInt64.size then latency else noLatency - 1
  let elapsed := min (now - l.created) (UInt64.size - 1)
  if window < elapsed - l.windowStart then
    (latency, { l with windowStart := elapsed, minLatency := sample })
  else
    let least := min l.minLatency sample
    (least, { l with minLatency := least })

/-- Learns from the outcome of a call. -/
def learn (l : Limiter α) (now : Instant) (outcome : Outcome) (latency : Nanos) :
    Limiter α × List (Event α) :=
  match outcome with
  | .success =>
    let (least, l) := l.observe now latency
    -- A slow success teaches nothing, but its latency has been noted.
    if Scalar.stretch least l.config.latencyTolerance < latency then (l, [])
    else
      let limit := Scalar.smaller (l.limit + 1 / l.limit) l.config.maxLimit
      ({ l with limit := limit }, [.limit l.host limit])
  | .overloaded | .hostFailure =>
    let limit := Scalar.larger (l.limit * l.config.backoffRatio) l.config.minLimit
    ({ l with limit := limit }, [.limit l.host limit])
  | .serverError | .ignored => (l, [])

/-- Ends a call that was started at an instant: learns from its outcome, then
gives its slot back. -/
def complete (l : Limiter α) (now started : Instant) (outcome : Outcome) :
    Limiter α × List (Event α) :=
  let (l, learnt) := l.learn now outcome (now - started)
  let (l, released) := l.release
  (l, learnt ++ released)

end Limiter

/-- A limiter as debug texts show it. -/
def Limiter.debugText {α : Type} (render : α → String) (l : Limiter α) : String :=
  Text.record "ConcurrencyLimiter"
    [ ("host", Text.quote l.host), ("limit", render l.limit),
      ("in_flight", toString l.inFlight) ]

end RpcPipeline
