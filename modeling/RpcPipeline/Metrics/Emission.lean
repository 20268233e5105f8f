import RpcPipeline.Metrics.Event
import RpcPipeline.Text.Quoted

/-!
# `RpcPipeline.Metrics.Emission`: events as named metrics

A recorder of metrics knows counters, gauges and histograms, each with a name
and labels. Every metric carries the name of the client as a label.
-/

set_option autoImplicit false

namespace RpcPipeline

/-- The value of a metric. -/
inductive Reading (α : Type) where
  /-- A counter goes up. -/
  | counter (increment : Nat)
  | gauge (value : α)
  | histogram (value : α)
  deriving Repr

/-- A metric that is recorded. -/
structure Emission (α : Type) where
  name : String
  labels : List (String × String)
  reading : Reading α
  deriving Repr

namespace Emission

variable {α : Type} [Scalar α]

/-- The metrics recorded for an event. -/
def ofEvent (seconds : Nanos → α) (client : String) (e : Event α) : List (Emission α) :=
  let emit (name : String) (labels : List (String × String)) (reading : Reading α) : Emission α :=
    ⟨"dialogue_" ++ name, ("client", client) :: labels, reading⟩
  match e with
  | .admission host admitted =>
    [emit "limiter_admissions_total"
      [("host", host), ("result", if admitted then "admitted" else "rejected")] (.counter 1)]
  | .inFlight host count =>
    [emit "limiter_in_flight" [("host", host)] (.gauge (Scalar.ofNat count))]
  | .limit host value => [emit "limiter_limit" [("host", host)] (.gauge value)]
  | .queueDepth depth => [emit "queue_depth" [] (.gauge (Scalar.ofNat depth))]
  | .retry endpoint attempt reason =>
    [emit "retries_total"
      [("endpoint", endpoint), ("attempt", toString attempt), ("error_type", reason)]
      (.counter 1)]
  | .exhausted endpoint _ reason =>
    [emit "retries_exhausted_total" [("endpoint", endpoint), ("error_type", reason)] (.counter 1)]
  | .dns hostname outcome =>
    [emit "dns_lookups_total" [("hostname", hostname), ("outcome", outcome.label)] (.counter 1)]
  | .blacklisted host reason =>
    [emit "blacklist_total" [("host", host), ("reason", reason)] (.counter 1)]
  | .request endpoint duration success =>
    [ emit "requests_total"
        [("endpoint", endpoint), ("status", if success then "success" else "error")] (.counter 1),
      emit "request_duration_seconds" [("endpoint", endpoint)] (.histogram (seconds duration)) ]
  | .created _ _ | .called _ _ => []

end Emission

/-- Who records metrics: nobody, or a recorder under the name of a client. -/
inductive Recorder where
  | nobody
  | client (name : String)
  deriving Repr

namespace Recorder

/-- The metrics recorded for events. -/
def record (r : Recorder) (events : List (Event Float)) : List (Emission Float) :=
  match r with
  | nobody => []
  | client name => events.flatMap (Emission.ofEvent Number.seconds64 name)

/-- A recorder as debug texts show it. -/
def debugText : Recorder → String
  | nobody => "NoopClientMetrics"
  | client name => Text.record "MetricsClientMetrics" [("client", Text.quote name)]

end Recorder

end RpcPipeline
