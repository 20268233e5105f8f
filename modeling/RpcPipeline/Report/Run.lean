import RpcPipeline.Hosts.Fleet
import RpcPipeline.Metrics.Emission
import RpcPipeline.Metrics.Tally
import RpcPipeline.Report.Basic
import RpcPipeline.Scenario.Desk

/-!
# `RpcPipeline.Report.Run`: reports of a run

What was reported while a pipeline ran, what its hosts have seen, and which hosts
are in use.

* `Event.report`, `Tally.report`, `Emission.report`: what was reported.
* `Network.report`: what the hosts have seen.
* `Fleet.report`: the hosts in use.
* `Polled.report`: what a poll shows.
-/

set_option autoImplicit false

namespace RpcPipeline

variable {α : Type}

/-- The report of an event. -/
def Event.report : Event α → Value α
  | .admission host admitted => .list [.text "admission", .text host, .bool admitted]
  | .inFlight host count => .list [.text "in_flight", .text host, .natural count]
  | .limit host value => .list [.text "limit", .text host, .real value]
  | .queueDepth depth => .list [.text "queue_depth", .natural depth]
  | .retry endpoint attempt reason =>
    .list [.text "retry", .text endpoint, .natural attempt, .text reason]
  | .exhausted endpoint attempts reason =>
    .list [.text "exhausted", .text endpoint, .natural attempts, .text reason]
  | .dns hostname outcome => .list [.text "dns", .text hostname, .text outcome.label]
  | .blacklisted host reason => .list [.text "blacklist", .text host, .text reason]
  | .request endpoint duration success =>
    .list [.text "request", .text endpoint, .natural duration, .bool success]
  | .created base address =>
    .list [.text "create", .text base, .orNull (fun a => .text a.text) address]
  | .called hostname endpoint => .list [.text "call", .text hostname, .text endpoint]

/-- The report of the counts over a run. -/
def Tally.report (t : Tally) : Value α :=
  .record
    [ ("retries", .natural t.retries), ("exhausted", .list (t.exhausted.map .natural)),
      ("blacklists", .natural t.blacklists), ("rejections", .natural t.rejections),
      ("requests", .natural t.requests), ("failed", .natural t.failed),
      ("max_queue_depth", .natural t.maxQueueDepth),
      ("dns",
        .list ([t.dnsSuccess, t.dnsFailure, t.dnsFallback, t.dnsEmpty].map .natural)) ]

/-- The report of a metric. -/
def Emission.report (e : Emission α) : Value α :=
  let labels : Value α := .record (e.labels.map fun (k, v) => (k, .text v))
  let entry (kind : String) (value : Value α) : Value α :=
    .list [.text kind, .list [.text e.name, labels], value]
  match e.reading with
  | .counter n => entry "counter" (.natural n)
  | .gauge x => entry "gauge" (.real x)
  | .histogram x => entry "histogram" (.real x)

/-- The parts of the report of a host that tell how it was called. -/
def ScriptedHost.callParts (name : String) (h : ScriptedHost) : List (String × Value α) :=
  [ ("name", .text name), ("invocations", .natural h.calls),
    ("cancellations", .natural h.dropped), ("closed", .natural h.closed),
    ("endpoints", .texts h.endpoints) ]

/-- The report of a host. -/
def ScriptedHost.report (name : String) (h : ScriptedHost) : Value α :=
  .record (h.callParts name ++
    [("held", .natural h.holding.length), ("held_closed", .natural h.heldClosed)])

/-- Whether an event is that the way to a host was set up. -/
def Event.isCreated : Event α → Bool
  | .created _ _ => true
  | _ => false

/-- The report of all hosts, and of how many ways to hosts were set up. -/
def Outside.reportHosts (o : Outside α) : Value α :=
  .record
    [ ("created", .natural (o.log.countP Event.isCreated)),
      ("hosts", .list (o.network.hosts.entries.map fun (name, h) => h.report name)) ]

/-- The report of what is kept about a name. -/
def DnsEntry.report (e : DnsEntry) : Value α :=
  let addresses (as : List Address) : Value α := .texts (as.map Address.text)
  .record
    [ ("addresses", addresses e.addresses), ("last_known_good", addresses e.lastKnownGood),
      ("last_success_ns", .orNull .natural e.lastSuccess),
      ("effective", addresses e.effective) ]

namespace Fleet

/-- Which server stands under each identity. -/
abbrev Roster := Table HostId Nat

/-- The servers in use under their identities. -/
def roster (f : Fleet α) : Roster := .ofList (f.hosts.map fun (serial, h) => (h.id, serial))

variable [Scalar α]

/-- The report of a host in use, next to the servers of an earlier report. -/
def reportHost (f : Fleet α) (earlier : Roster) (serial : Nat) (h : Server α) : Value α :=
  .record
    [ ("id", .text h.id.text), ("host", .text h.target.host),
      ("port", .natural h.target.port.toNat),
      ("address", .orNull (fun a => .text a.text) h.address),
      ("limit", .real h.limiter.limit), ("in_flight", .natural h.limiter.inFlight),
      ("has_capacity", .bool h.limiter.hasCapacity),
      ("min_latency_ns", .orNull .natural h.limiter.minLatency?),
      ("blacklisted", .bool (f.excludes h.id)),
      ("carried", .bool (earlier.get? h.id == some serial)),
      ("found", .bool ((f.find? h.id).map (·.1) == some serial)) ]

/-- The report of the hosts in use, which says of each whether it was carried over
since an earlier report. -/
def report (f : Fleet α) (earlier : Roster) : Value α :=
  .record
    [ ("version", .natural f.version), ("len", .natural f.hosts.length),
      ("empty", .bool f.hosts.isEmpty),
      ("hosts", .list (f.hosts.map fun (serial, h) => f.reportHost earlier serial h)) ]

end Fleet

/-- The report of what a poll of a named call shows. -/
def Polled.report (id : String) : Polled → Value α
  | .pending => .text "pending"
  | .answered status => .record [("status", .natural status)]
  | .failed e => e.report
  | .missing => .failure "NoSuchCall" id

/-- The report of an attempt to end a call on hold. -/
def Network.Finished.report : Network.Finished → Value α
  | .sent => .text "sent"
  | .gone => .text "gone"
  | .missing => .text "none"

end RpcPipeline
