import RpcPipeline.Hosts.Id
import RpcPipeline.Random.Stream

/-!
# `RpcPipeline.Selection.Pinning`: staying with one host

One host is pinned and takes every call. It is left when a call to it fails,
when it is excluded, when it is no longer in use and, if so configured, after
some time. Then the next call pins another host at random; the one that was left
is chosen again only if there is no other. A pinned host without a free slot
stays pinned.

* `Pinning.current`: the host for the next call.
* `Pinning.unpin`: leaves a host after a failure.
-/

set_option autoImplicit false

namespace RpcPipeline

/-- What pinning remembers. -/
structure Pinning where
  pinned : Option HostId
  pinnedAt : Option Instant
  /-- The host that was left last. -/
  avoid : Option HostId
  /-- How often a failure made it leave a host. -/
  failures : Nat
  random : RandomStream

namespace Pinning

/-- Nothing is pinned yet. -/
def new (random : RandomStream) : Pinning := ⟨none, none, none, 0, random⟩

/-- Whether the pinned host has been so for as long as it may. -/
def isDue (p : Pinning) (now : Instant) (interval : Option Nanos) : Bool :=
  match interval, p.pinnedAt with
  | some interval, some pinnedAt => interval ≤ now - pinnedAt
  | _, _ => false

/-- The hosts to choose from: those not excluded, without the one to avoid unless
it is the only one. -/
def candidates (members : List HostId) (excluded : HostId → Bool) (avoid : Option HostId) :
    List HostId :=
  let available := members.filter fun id => !excluded id
  let preferred := available.filter fun id => some id ≠ avoid
  if preferred.isEmpty then available else preferred

/-- Pins a host chosen at random, if there is one to choose. -/
def choose (p : Pinning) (now : Instant) (members : List HostId) (excluded : HostId → Bool) :
    Option HostId × Pinning :=
  let options := candidates members excluded p.avoid
  if options.isEmpty then (none, p)
  else
    let (index, random) := p.random.below options.length
    let p := { p with random := random }
    match options[index]? with
    | some id => (some id, { p with pinned := some id, pinnedAt := some now, avoid := none })
    | none => (none, p)

/-- The host for the next call: the pinned one, or another if that has to be
left. `interval` is how long a host stays pinned at most. -/
def current (p : Pinning) (now : Instant) (interval : Option Nanos) (members : List HostId)
    (excluded : HostId → Bool) : Option HostId × Pinning :=
  match p.pinned with
  | some id =>
    -- Whatever makes it leave the host, the host is one to avoid.
    if members.contains id && !p.isDue now interval && !excluded id then (some id, p)
    else { p with avoid := some id }.choose now members excluded
  | none => p.choose now members excluded

/-- Leaves a host after a failure, if it is still the pinned one. -/
def unpin (p : Pinning) (id : HostId) : Pinning :=
  if p.pinned = some id then
    { p with pinned := none, pinnedAt := none, avoid := some id, failures := p.failures + 1 }
  else p

end Pinning

end RpcPipeline
