import RpcPipeline.Hosts.Limiter
import RpcPipeline.Transport.Outside

/-!
# `RpcPipeline.Hosts.Limited`: calls that hold a slot of a host

A call that a limiter let pass holds its slot until it ends or is dropped. At
its end the limiter learns from the outcome; a dropped call only gives the slot
back, after the call itself has gone.
-/

set_option autoImplicit false

namespace RpcPipeline

/-- A call that holds a slot. -/
structure LimitedCall where
  call : HostCall
  started : Instant
  deriving Repr

namespace Limiter

variable {α : Type} [Scalar α]

/-- Claims a slot: whether there was one. -/
def claim (l : Limiter α) (o : Outside α) : Bool × Limiter α × Outside α :=
  let (admitted, l, events) := l.acquire
  (admitted, l, o.emit events)

omit [Scalar α] in
/-- Gives a slot back. -/
def giveBack (l : Limiter α) (o : Outside α) : Limiter α × Outside α :=
  let (l, events) := l.release
  (l, o.emit events)

/-- Sends a call to the host if there is a slot for it. -/
def offer (l : Limiter α) (hostname endpoint : String) (o : Outside α) :
    Option LimitedCall × Limiter α × Outside α :=
  match l.claim o with
  | (true, l, o) =>
    let (call, o) := o.dial hostname endpoint
    (some ⟨call, o.now⟩, l, o)
  | (false, l, o) => (none, l, o)

/-- Polls a call. When it ends, the limiter learns from the result. -/
def poll (l : Limiter α) (c : LimitedCall) (o : Outside α) :
    Option HostResult × LimitedCall × Limiter α × Outside α :=
  match o.poll c.call with
  | (some result, call) =>
    let (l, events) := l.complete o.now c.started (.classify result)
    (some result, { c with call := call }, l, o.emit events)
  | (none, call) => (none, { c with call := call }, l, o)

omit [Scalar α] in
/-- Drops a call, and then gives its slot back. -/
def drop (l : Limiter α) (c : LimitedCall) (o : Outside α) : Limiter α × Outside α :=
  l.giveBack (o.drop c.call)

end Limiter

end RpcPipeline
