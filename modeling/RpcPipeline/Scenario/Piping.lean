import RpcPipeline.Pipeline.Pipeline
import RpcPipeline.Report.Run
import RpcPipeline.Scenario.Desk

/-!
# `RpcPipeline.Scenario.Piping`: a whole pipeline at work

A pipeline with scripted hosts and a scripted resolver, as what calls on a desk
go to.
-/

set_option autoImplicit false

namespace RpcPipeline

/-- A pipeline, and the hosts that the last report showed. -/
structure PipelineBench (α : Type) where
  pipeline : Pipeline α
  roster : Fleet.Roster

namespace PipelineBench

variable {α : Type}

/-- Changes the pipeline. -/
def onPipeline (b : PipelineBench α) (f : Pipeline α → Pipeline α) : PipelineBench α :=
  { b with pipeline := f b.pipeline }

variable [Scalar α]

/-- A pipeline at time zero, after its background has come to rest. Without timers
names are not resolved either. -/
def new (config : ClientConfig α) (resolver : Resolver) (timed : Bool) :
    Except (ConfigError α) (PipelineBench α) :=
  let resolver := if timed then some resolver else none
  (Pipeline.new .start config resolver timed (.ofSeed 0)).map fun p => ⟨p.tend, {}⟩

/-- Makes a call. -/
def execute (b : PipelineBench α) (e : Endpoint) (r : Request) :
    PipelineCall α × PipelineBench α :=
  let (c, p) := b.pipeline.execute e r
  (c, { b with pipeline := p })

/-- Excludes a host: when that ends, or nothing if the host is not in use. -/
def exclude (b : PipelineBench α) (id : HostId) (reason : BlacklistReason) :
    Option Instant × PipelineBench α :=
  let (ends, fleet) := b.pipeline.selection.fleet.exclude id reason
  (ends, b.onPipeline (·.onFleet fun _ => fleet))

/-- Brings the hosts in use up to date and reports them. -/
def report (b : PipelineBench α) : Value α × PipelineBench α :=
  let b := b.onPipeline (·.onFleet Fleet.refresh)
  let fleet := b.pipeline.selection.fleet
  (fleet.report b.roster, { b with roster := fleet.roster })

omit [Scalar α] in
/-- The report of the state of the pipeline. -/
def reportState (b : PipelineBench α) : Value α :=
  let p := b.pipeline
  .record
    [ ("queue_len", .natural p.queue.len),
      ("pinned", .orNull (fun id => .text id.text) p.selection.pinned),
      ("blacklisted", .natural (p.selection.fleet.blacklist.count p.outside.now)),
      ("has_dns", .bool p.refresher.isSome), ("client", .text p.config.value.name) ]

/-- The pipeline as what calls go to. -/
def machine : Machine α (PipelineCall α) (PipelineBench α) where
  poll c d :=
    let (result, c, p) := d.state.pipeline.poll c
    (result, c, d.onState fun b => { b with pipeline := p })
  drop c d := d.onState (·.onPipeline (·.drop c))
  outside b := b.pipeline.outside
  onOutside f b := b.onPipeline (·.onOutside f)
  tend d := d.onState (·.onPipeline Pipeline.tend)
  nextAlarm b := b.pipeline.nextAlarm
  clock b := if b.pipeline.queue.timed then .timed else .manual

end PipelineBench

end RpcPipeline
