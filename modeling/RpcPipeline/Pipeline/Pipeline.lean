import RpcPipeline.Config.Validation
import RpcPipeline.Dns.Refresher
import RpcPipeline.Queue.Queue
import RpcPipeline.Retry.Retry
import RpcPipeline.Selection.Selection

/-!
# `RpcPipeline.Pipeline.Pipeline`: the parts put together

A call goes through retry, queue and selection to a host: retry makes attempts,
the queue holds an attempt until a host takes it, and selection picks the host,
which has its limit and its exclusions. Names of hosts may be resolved in the
background. When a call ends, its duration and success are reported.

The queue lives as long as anybody holds it: the pipeline itself, until it is let
go, and every call that has not ended, since it may need another attempt.

* `Pipeline.new`: a pipeline with its settings, which have to be valid.
* `Pipeline.execute`, `Pipeline.poll`, `Pipeline.drop`: the life of a call.
* `Pipeline.tend`: what happens in the background.
* `Pipeline.close`, `Pipeline.letGo`: the end of a pipeline.
-/

set_option autoImplicit false

namespace RpcPipeline

/-- A pipeline. -/
structure Pipeline (α : Type) where
  selection : Selection α
  queue : Queue (SelectedCall α)
  /-- The number of those who hold the queue. -/
  holders : Nat
  /-- Resolves names, if that is switched on and possible. -/
  refresher : Option (Refresher α)
  /-- Where the random shares of pauses come from. -/
  random : RandomStream
  /-- Whether the pipeline itself was let go. -/
  gone : Bool

/-- A call to a pipeline. -/
structure PipelineCall (α : Type) where
  call : RetryingCall α (QueuedCall (SelectedCall α))
  label : String
  started : Instant

namespace Selection

variable {α : Type} [Scalar α]

/-- The hosts in use as what lies behind a queue. They never call back. -/
def backend : Backend (SelectedCall α) (Selection α) where
  offer e r q s :=
    let (call, s) := s.offer e r
    (call, q, s)
  poll c s := s.poll c
  drop c s := s.drop c
  settings s := s.fleet.config.value.queue
  now s := s.now
  report depth s := s.onFleet (·.emit [.queueDepth depth])
  callbacks _ := 0

end Selection

namespace Pipeline

variable {α : Type}

/-- What lies outside the pipeline. -/
def outside (p : Pipeline α) : Outside α := p.selection.fleet.outside

/-- Changes the fleet. -/
def onFleet (p : Pipeline α) (f : Fleet α → Fleet α) : Pipeline α :=
  { p with selection := p.selection.onFleet f }

/-- Changes what lies outside the pipeline. -/
def onOutside (p : Pipeline α) (f : Outside α → Outside α) : Pipeline α :=
  p.onFleet fun fleet => { fleet with outside := f fleet.outside }

/-- Reports events. -/
def emit (p : Pipeline α) (events : List (Event α)) : Pipeline α := p.onOutside (·.emit events)

/-- The settings. -/
def config (p : Pipeline α) : Cell (ClientConfig α) := p.selection.fleet.config

/-- Replaces the settings. -/
def update (p : Pipeline α) (config : ClientConfig α) : Pipeline α :=
  p.onFleet fun f => { f with config := f.config.update config }

/-- One more call holds the queue. -/
def hold (p : Pipeline α) : Pipeline α := { p with holders := p.holders + 1 }

/-- One holder of the queue less. With the last one the queue ends. -/
def release (p : Pipeline α) : Pipeline α :=
  let holders := p.holders - 1
  { p with holders := holders, queue := if holders = 0 then p.queue.die else p.queue }

/-- Changes the refresher, if there is one. -/
def onRefresher (p : Pipeline α) (f : Refresher α → Refresher α) : Pipeline α :=
  { p with refresher := p.refresher.map f }

/-- Adds answers to the script of a name. -/
def addAnswers (p : Pipeline α) (hostname : String) (answers : List DnsAnswer) : Pipeline α :=
  p.onRefresher fun r => { r with resolver := r.resolver.addScript hostname answers }

/-- How often a name was looked up. -/
def lookups (p : Pipeline α) (hostname : String) : Nat :=
  match p.refresher with
  | some w => (w.resolver.name hostname).lookups
  | none => 0

variable [Scalar α]

/-- A pipeline with its settings. With a resolver, names are resolved in the
background if the settings ask for it. `timed` says whether there are timers. -/
def new (outside : Outside α) (config : ClientConfig α) (resolver : Option Resolver) (timed : Bool)
    (entropy : RandomStream) : Except (ConfigError α) (Pipeline α) :=
  match config.validate with
  | .error e => .error e
  | .ok () =>
    let refresher := if config.dns.enabled then resolver.map Refresher.new else none
    let (random, entropy) := Selection.drawsFor config.selection entropy
    let fleet :=
      Fleet.new outside (.new config) (refresher.map (·.published)) (.new config.blacklist random)
    .ok
      { selection := .new fleet entropy, queue := .new timed, holders := 1, refresher := refresher,
        random := entropy, gone := false }

/-- Runs an operation of the queue. -/
def onQueue {β : Type}
    (f : Queue (SelectedCall α) → Selection α → β × Queue (SelectedCall α) × Selection α)
    (p : Pipeline α) : β × Pipeline α :=
  let (result, queue, selection) := f p.queue p.selection
  (result, { p with queue := queue, selection := selection })

/-- Attempts go through the queue. -/
def dispatcher : Dispatcher α (QueuedCall (SelectedCall α)) (Pipeline α) where
  submit e r p := p.onQueue fun q s => Queue.submit Selection.backend e r q s
  poll c p :=
    let ((result, c), p) := p.onQueue fun q s =>
      let (result, c, q, s) := Queue.poll Selection.backend c q s
      ((result, c), q, s)
    (result, c, p)
  drop c p := (p.onQueue fun q s => ((), Queue.drop Selection.backend c q s)).2
  settings p := p.config.value.retry
  now p := p.outside.now
  emit events p := p.emit events
  close r p := p.onOutside (·.close r)
  draw f p :=
    let (span, random) := f p.random
    (span, { p with random := random })
  hold p := p.hold
  release p := p.release

/-- Makes a call. -/
def execute (p : Pipeline α) (e : Endpoint) (r : Request) : PipelineCall α × Pipeline α :=
  let (call, p) := RetryingCall.start dispatcher e r p
  (⟨call, e.label, p.outside.now⟩, p)

/-- Whether a result is a success to the caller. -/
def isSuccess : HostResult → Bool
  | .ok r => r.isSuccess
  | .error _ => false

/-- Polls a call. -/
def poll (p : Pipeline α) (c : PipelineCall α) :
    Option HostResult × PipelineCall α × Pipeline α :=
  match c.call.poll dispatcher p with
  | (none, call, p) => (none, { c with call := call }, p)
  | (some result, call, p) =>
    (some result, { c with call := call },
      p.emit [.request c.label (p.outside.now - c.started) (isSuccess result)])

/-- Drops a call before it has ended. -/
def drop (p : Pipeline α) (c : PipelineCall α) : Pipeline α := c.call.drop dispatcher p

/-- Closes the pipeline: it takes no more calls, and waiting ones are given up. -/
def close (p : Pipeline α) : Pipeline α :=
  let p := p.onRefresher Refresher.cancel
  (p.onQueue fun q s => ((), Queue.close Selection.backend q s)).2

omit [Scalar α] in
/-- Lets the pipeline go. Calls that have not ended proceed without it. -/
def letGo (p : Pipeline α) : Pipeline α :=
  if p.gone then p else { p.release.onRefresher Refresher.cancel with gone := true }

omit [Scalar α] in
/-- Lets the refresher run. The fleet sees what it publishes. -/
def tendNames (p : Pipeline α) : Pipeline α :=
  match p.refresher with
  | none => p
  | some refresher =>
    let (refresher, events) := refresher.wake p.outside.now p.config
    let p := { p with refresher := some refresher }.onFleet fun f =>
      { f with dns := some refresher.published }
    p.emit events

/-- Lets the timer of the queue go off if its time has come. -/
def tendQueue (p : Pipeline α) : Pipeline α :=
  (p.onQueue fun q s => ((), Queue.fire Selection.backend q s)).2

/-- What happens in the background at the present time, in the order in which it
was asked for. -/
def tend (p : Pipeline α) : Pipeline α :=
  match p.refresher.bind (·.alarm?), p.queue.timer with
  -- Two alarms for one moment go off in the order in which they were set.
  | some r, some q => if r.precedes q then p.tendNames.tendQueue else p.tendQueue.tendNames
  | _, _ => p.tendNames.tendQueue

omit [Scalar α] in
/-- The next time at which something happens in the background. -/
def nextAlarm (p : Pipeline α) : Option Instant :=
  match p.refresher.bind (·.alarm?), p.queue.timer with
  | some w, some q => some (min w.rings q.rings)
  | some w, none => some w.rings
  | none, some q => some q.rings
  | none, none => none

/-- The pipeline as debug texts show it. -/
def debugText (p : Pipeline α) : String :=
  Text.record "DialogueChannel"
    [ ("selection", p.selection.debugText), ("queue_len", toString p.queue.len),
      ("dns", toString p.refresher.isSome) ]

end Pipeline

end RpcPipeline
