import RpcPipeline.Cell
import RpcPipeline.Queue.Queue
import RpcPipeline.Scenario.Desk

/-!
# `RpcPipeline.Scenario.Queueing`: a queue in front of a gate

A queue is put to work in front of a gate, which lets a call pass to its one host
as long as it has permits. A call takes a permit with it and gives it back when
it ends or is dropped. The gate can be told to make, drop and close the next time
it is asked, before it answers.

* `Gate.offer`: the gate alone.
* `QueueBench.backend`: the gate with what it was told to do.
* `QueueBench.machine`: queue and gate as what calls go to.
-/

set_option autoImplicit false

namespace RpcPipeline

/-- What a gate can be told to do while it is asked. -/
inductive Intrusion where
  /-- Makes a call under a name. -/
  | submit (id : String) (endpoint : Endpoint)
  /-- Drops the call of a name, if there is one. -/
  | drop (id : String)
  /-- Closes the queue. -/
  | close

/-- A gate, what it was told to do, and what lies outside. -/
structure Gate (α : Type) where
  permits : Nat
  intrusions : List Intrusion
  config : Cell (ClientConfig α)
  outside : Outside α

/-- The calls on a desk with a queue. -/
abbrev GatedCall := QueuedCall HostCall

/-- The desk as the gate sees it, without the queue. -/
abbrev GateDesk (α : Type) := Desk GatedCall (Gate α)

namespace Gate

variable {α : Type}

/-- The name of the host. -/
def host : String := "h"

/-- Lets a call pass if there is a permit. -/
def offer (g : Gate α) (endpoint : String) : Option HostCall × Gate α :=
  if g.permits = 0 then (none, g)
  else
    let (call, outside) := g.outside.dial host endpoint
    (some call, { g with permits := g.permits - 1, outside := outside })

/-- Polls a call that was let pass. -/
def poll (g : Gate α) (c : HostCall) : Option HostResult × HostCall × Gate α :=
  match g.outside.poll c with
  | (some result, c) => (some result, c, { g with permits := g.permits + 1 })
  | (none, c) => (none, c, g)

/-- Drops a call that was let pass. -/
def drop (g : Gate α) (c : HostCall) : Gate α :=
  { g with permits := g.permits + 1, outside := g.outside.drop c }

/-- The gate as what lies behind a queue, when it was told to do nothing. -/
def plainBackend : Backend HostCall (GateDesk α) where
  offer e _ q d :=
    let (call, g) := d.state.offer e.label
    (call, q, { d with state := g })
  poll c d :=
    let (result, c, g) := d.state.poll c
    (result, c, { d with state := g })
  drop c d := d.onState (·.drop c)
  settings d := d.state.config.value.queue
  now d := d.state.outside.now
  report depth d := d.onState fun g => { g with outside := g.outside.emit [.queueDepth depth] }
  callbacks _ := 0

/-- Does what the gate was told to do. -/
def intrude (q : Queue HostCall) (d : GateDesk α) : Intrusion → Queue HostCall × GateDesk α
  | .submit id e =>
    let (c, q, d) := Queue.submit plainBackend e (.blank 0) q d
    let older := d.calls.get? id
    let d := { d with calls := d.calls.insert id c }
    match older with
    | some c => Queue.drop plainBackend c q d
    | none => (q, d)
  | .drop id =>
    match d.calls.get? id with
    | some c => Queue.drop plainBackend c q { d with calls := d.calls.erase id }
    | none => (q, d)
  | .close => Queue.close plainBackend q d

/-- The gate as what lies behind a queue. What it was told to do is done once,
before it answers. -/
def backend : Backend HostCall (GateDesk α) where
  offer e r q d :=
    let told := d.state.intrusions
    let d := d.onState fun g => { g with intrusions := [] }
    let (q, d) := told.foldl (fun (q, d) i => intrude q d i) (q, d)
    plainBackend.offer e r q d
  poll := plainBackend.poll
  drop := plainBackend.drop
  settings := plainBackend.settings
  now := plainBackend.now
  report := plainBackend.report
  callbacks d := d.state.intrusions.length

end Gate

/-- A queue in front of a gate. -/
structure QueueBench (α : Type) where
  queue : Queue HostCall
  gate : Gate α

namespace QueueBench

variable {α : Type}

/-- A bench with a queue. `timed` says whether there are timers. -/
def new (config : ClientConfig α) (permits : Nat) (timed : Bool) : QueueBench α :=
  ⟨.new timed, permits, [], .new config, Outside.start.onNetwork (·.meet Gate.host)⟩

/-- A desk with a queue. -/
abbrev Bench (α : Type) := Desk GatedCall (QueueBench α)

/-- Runs an operation of the queue. -/
def onQueue {β : Type} (f : Queue HostCall → GateDesk α → β × Queue HostCall × GateDesk α)
    (d : Bench α) : β × Bench α :=
  let (result, queue, g) := f d.state.queue ⟨d.calls, d.kept, d.state.gate⟩
  (result, ⟨g.calls, g.kept, queue, g.state⟩)

/-- Runs an operation of the queue that has no result. -/
def withQueue (f : Queue HostCall → GateDesk α → Queue HostCall × GateDesk α)
    (d : Bench α) : Bench α :=
  (onQueue (fun q g => ((), f q g)) d).2

/-- Queue and gate as what calls go to. -/
def machine : Machine α GatedCall (QueueBench α) where
  poll c d :=
    let ((result, c), d) := onQueue (fun q g =>
      let (result, c, q, g) := Queue.poll Gate.backend c q g
      ((result, c), q, g)) d
    (result, c, d)
  drop c d := withQueue (Queue.drop Gate.backend c) d
  outside b := b.gate.outside
  onOutside f b := { b with gate := { b.gate with outside := f b.gate.outside } }
  tend d := withQueue (Queue.fire Gate.backend) d
  nextAlarm b := b.queue.timer.map (·.rings)
  clock b := if b.queue.timed then .timed else .manual

/-- Makes a call under a name. -/
def execute (d : Bench α) (id : String) (e : Endpoint) (r : Request) : Bench α :=
  let (c, d) := onQueue (Queue.submit Gate.backend e r) d
  d.put machine id c

/-- Closes the queue. -/
def close (d : Bench α) : Bench α := withQueue (Queue.close Gate.backend) d

/-- Lets the queue go. -/
def letGo (d : Bench α) : Bench α :=
  d.onState fun b => { b with queue := b.queue.die }

/-- The queue as debug texts show it. -/
def debugText (b : QueueBench α) : String :=
  Text.record "QueuedChannel"
    [ ("len", toString b.queue.len), ("in_flight", toString b.queue.inFlight),
      ("delegate", "Gate") ]

end QueueBench

end RpcPipeline
