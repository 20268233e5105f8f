import RpcPipeline.Time.Nanos

/-!
# `RpcPipeline.Call.Error`: why a call fails

A call fails because the pipeline turns it away, because the host could not be
reached or broke off, because the request cannot be sent, or because the
pipeline was closed. A busy host is no failure: it answers, and the answer says
so.

* `CallError.message`: the text of a failure.
* `CallError.label`: its short name, used in metrics.
* `CallError.isHostFailure`, `CallError.isLocalRejection`: who is to blame.
* `CallError.isRetryable`: whether another attempt may help.
-/

set_option autoImplicit false

namespace RpcPipeline

/-- Why a call failed. -/
inductive CallError where
  /-- The queue holds as many calls as it may. -/
  | queueFull (capacity : Nat)
  /-- No host is configured. -/
  | noHosts (service : String)
  /-- No connection came about. -/
  | connect (host message : String)
  /-- The connection broke. -/
  | io (host message : String)
  /-- The host took too long. -/
  | timeout (host : String) (after : Nanos)
  /-- The request cannot be sent as it is. -/
  | invalidRequest (message : String)
  /-- The pipeline was closed while the call waited. -/
  | cancelled
  deriving Repr, DecidableEq

namespace CallError

/-- The text of a failure. -/
def message : CallError → String
  | queueFull capacity => s!"Queue full: {capacity} requests already waiting"
  | noHosts service => s!"No hosts available for service {service}"
  | connect host message => s!"Connection to {host} failed: {message}"
  | io host message => s!"I/O error talking to {host}: {message}"
  | timeout host after => s!"Call to {host} timed out after {after.wholeMillis}ms"
  | invalidRequest message => s!"Invalid request: {message}"
  | cancelled => "Call cancelled"

/-- The short name of a failure. -/
def label : CallError → String
  | queueFull _ => "queue_full"
  | noHosts _ => "no_hosts"
  | connect _ _ => "connect"
  | io _ _ => "io"
  | timeout _ _ => "timeout"
  | invalidRequest _ => "invalid_request"
  | cancelled => "cancelled"

/-- Whether the host is to blame. -/
def isHostFailure : CallError → Bool
  | connect _ _ | io _ _ | timeout _ _ => true
  | _ => false

/-- Whether another attempt may help: exactly if the host was to blame. -/
def isRetryable (e : CallError) : Bool := e.isHostFailure

/-- Whether the pipeline turned the call away itself. -/
def isLocalRejection : CallError → Bool
  | queueFull _ | noHosts _ => true
  | _ => false

end CallError

end RpcPipeline
