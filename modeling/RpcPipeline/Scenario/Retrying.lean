import RpcPipeline.Cell
import RpcPipeline.Retry.Retry
import RpcPipeline.Scenario.Desk

/-!
# `RpcPipeline.Scenario.Retrying`: retries in front of a host

Retries are put to work without a queue: every attempt goes straight to one
host.
-/

set_option autoImplicit false

namespace RpcPipeline

/-- The settings, random draws, and what lies outside. -/
structure RetryBench (α : Type) where
  config : Cell (ClientConfig α)
  random : RandomStream
  outside : Outside α
  /-- Whether time passes by whole milliseconds. -/
  timed : Bool

namespace RetryBench

variable {α : Type}

/-- The name of the host. -/
def host : String := "h"

/-- A bench with given settings. -/
def new (config : ClientConfig α) (timed : Bool) : RetryBench α :=
  ⟨.new config, .ofSeed 0, Outside.start.onNetwork (·.meet host), timed⟩

/-- Attempts go to the host. -/
def dispatcher : Dispatcher α HostCall (RetryBench α) where
  submit e _ b :=
    let (call, outside) := b.outside.dial host e.label
    (call, { b with outside := outside })
  poll c b :=
    let (result, c) := b.outside.poll c
    (result, c, b)
  drop c b := { b with outside := b.outside.drop c }
  settings b := b.config.value.retry
  now b := b.outside.now
  emit events b := { b with outside := b.outside.emit events }
  close r b := { b with outside := b.outside.close r }
  draw f b :=
    let (span, random) := f b.random
    (span, { b with random := random })
  hold b := b
  release b := b

/-- Makes a call. -/
def execute (b : RetryBench α) (e : Endpoint) (r : Request) :
    RetryingCall α HostCall × RetryBench α :=
  RetryingCall.start dispatcher e r b

variable [Scalar α]

/-- The bench as what calls go to. -/
def machine : Machine α (RetryingCall α HostCall) (RetryBench α) where
  poll c d :=
    let (result, c, b) := c.poll dispatcher d.state
    (result, c, { d with state := b })
  drop c d := d.onState (c.drop dispatcher)
  outside b := b.outside
  onOutside f b := { b with outside := f b.outside }
  clock b := if b.timed then .timed else .manual

end RetryBench

end RpcPipeline
