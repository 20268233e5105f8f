import RpcPipeline.Metrics.Event
import RpcPipeline.Transport.Network

/-!
# `RpcPipeline.Transport.Outside`: what lies outside a pipeline

A pipeline reads the time, sends calls to hosts and reports what it does. The
time, the hosts and the reports are one value, which every operation takes and
returns.

* `Outside.emit`, `Outside.history`: reporting, and all that was reported.
* `Outside.dial`, `Outside.poll`, `Outside.drop`: calls to hosts.
-/

set_option autoImplicit false

namespace RpcPipeline

/-- The time, the hosts, and what was reported so far. -/
structure Outside (α : Type) where
  now : Instant
  network : Network
  /-- What was reported, the latest first. -/
  log : List (Event α)

namespace Outside

variable {α : Type}

/-- Time zero, without hosts and reports. -/
def start : Outside α := ⟨0, .empty, []⟩

/-- Reports events. -/
def emit (o : Outside α) (events : List (Event α)) : Outside α :=
  { o with log := events.reverse ++ o.log }

/-- All that was reported, in order. -/
def history (o : Outside α) : List (Event α) := o.log.reverse

/-- What was reported since an earlier state, in order. -/
def since (earlier o : Outside α) : List (Event α) :=
  (o.log.take (o.log.length - earlier.log.length)).reverse

/-- Changes the network. -/
def onNetwork (o : Outside α) (f : Network → Network) : Outside α :=
  { o with network := f o.network }

/-- Starts a call to a host. -/
def dial (o : Outside α) (hostname endpoint : String) : HostCall × Outside α :=
  let (call, network) := o.network.start hostname endpoint
  (call, { o with network := network }.emit [.called hostname endpoint])

/-- Polls a call. -/
def poll (o : Outside α) (c : HostCall) : Option HostResult × HostCall := o.network.poll o.now c

/-- Drops a call before it has ended. -/
def drop (o : Outside α) (c : HostCall) : Outside α := o.onNetwork (·.drop c)

/-- Closes a response. -/
def close (o : Outside α) (r : Response CloseHook) : Outside α := o.onNetwork (·.close r)

/-- Drops a result. -/
def discard (o : Outside α) (result : HostResult) : Outside α := o.onNetwork (·.discard result)

end Outside

end RpcPipeline
