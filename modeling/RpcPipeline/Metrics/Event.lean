import RpcPipeline.Number.Scalar
import RpcPipeline.Uri.Address

/-!
# `RpcPipeline.Metrics.Event`: what a pipeline reports

Everything that a pipeline does on the way of a call is reported as an event.
The log of a run holds its events in order, and what a run did is stated about
its log.
-/

set_option autoImplicit false

namespace RpcPipeline

/-- How the resolution of a name went. -/
inductive DnsOutcome where
  | success
  /-- It failed, and no addresses were known. -/
  | failure
  /-- It failed or found nothing, and addresses known before are used on. -/
  | fallback
  /-- It found nothing, and no addresses were known. -/
  | empty
  deriving Repr, DecidableEq

/-- The name of an outcome. -/
def DnsOutcome.label : DnsOutcome → String
  | success => "success"
  | failure => "failure"
  | fallback => "fallback"
  | empty => "empty"

/-- Something that a pipeline reports. Hosts, endpoints and names of hosts are
given as texts. -/
inductive Event (α : Type) where
  /-- A host's limit let a call pass, or turned it away. -/
  | admission (host : String) (admitted : Bool)
  /-- The number of calls a host is busy with. -/
  | inFlight (host : String) (count : Nat)
  /-- The limit of a host. -/
  | limit (host : String) (value : α)
  /-- The number of calls that wait. -/
  | queueDepth (depth : Nat)
  | retry (endpoint : String) (attempt : Nat) (reason : String)
  /-- A call has used up its retries. -/
  | exhausted (endpoint : String) (attempts : Nat) (reason : String)
  | dns (hostname : String) (outcome : DnsOutcome)
  | blacklisted (host reason : String)
  /-- A call has ended. -/
  | request (endpoint : String) (duration : Nanos) (success : Bool)
  /-- The way to a host was set up. -/
  | created (base : String) (address : Option SocketAddress)
  /-- A call went out to a host. -/
  | called (hostname endpoint : String)
  deriving Repr

end RpcPipeline
