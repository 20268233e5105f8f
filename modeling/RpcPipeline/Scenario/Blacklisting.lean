import RpcPipeline.Hosts.Blacklist
import RpcPipeline.Hosts.Limited
import RpcPipeline.Scenario.Desk

/-!
# `RpcPipeline.Scenario.Blacklisting`: one blacklist with its hosts

A blacklist is put to work on its own. Calls go to hosts that come into being
when they are first called, each with a limiter of standard settings that
reports nothing.
-/

set_option autoImplicit false

namespace RpcPipeline

/-- A call to a host, sent while the host was not excluded. -/
structure ScreenedCall where
  host : String
  call : LimitedCall

/-- A blacklist, the limiters of the hosts, and what lies outside. -/
structure BlacklistBench (α : Type) where
  blacklist : Blacklist α
  limiters : Table String (Limiter α)
  outside : Outside α

namespace BlacklistBench

variable {α : Type}

/-- A bench with a blacklist of given settings. -/
def new (config : BlacklistConfig α) (random : RandomStream) : BlacklistBench α :=
  ⟨.new config random, {}, .start⟩

variable [Scalar α]

/-- The limiter of a host. -/
def limiter (b : BlacklistBench α) (host : String) : Limiter α :=
  (b.limiters.get? host).getD (.new host .standard b.outside.now)

/-- Replaces the limiter of a host. -/
def setLimiter (b : BlacklistBench α) (host : String) (l : Limiter α) : BlacklistBench α :=
  { b with limiters := b.limiters.insert host l }

/-- Sends a call to a host, unless the host is excluded or has no slot left. -/
def call (b : BlacklistBench α) (host endpoint : String) :
    Option ScreenedCall × BlacklistBench α :=
  let b := { b.setLimiter host (b.limiter host) with outside := b.outside.onNetwork (·.meet host) }
  if b.blacklist.excludes b.outside.now ⟨host⟩ then (none, b)
  else
    match (b.limiter host).acquire with
    | (false, _, _) => (none, b)
    | (true, l, _) =>
      let (c, outside) := b.outside.dial host endpoint
      (some ⟨host, c, outside.now⟩, { b.setLimiter host l with outside := outside })

/-- Polls a call. When it ends, first the limiter learns from the result and then
the blacklist. -/
def poll (b : BlacklistBench α) (c : ScreenedCall) :
    Option HostResult × ScreenedCall × BlacklistBench α :=
  match b.outside.poll c.call.call with
  | (none, call) => (none, { c with call := { c.call with call := call } }, b)
  | (some result, call) =>
    let outcome := Outcome.classify result
    let (l, _) := (b.limiter c.host).complete b.outside.now c.call.started outcome
    let (blacklist, events) := b.blacklist.record b.outside.now ⟨c.host⟩ outcome
    (some result, { c with call := { c.call with call := call } },
      { b.setLimiter c.host l with blacklist := blacklist, outside := b.outside.emit events })

/-- Drops a call, of which nothing is learnt. -/
def drop (b : BlacklistBench α) (c : ScreenedCall) : BlacklistBench α :=
  { b.setLimiter c.host (b.limiter c.host).release.1 with outside := b.outside.drop c.call.call }

omit [Scalar α] in
/-- Changes the blacklist at the present time. -/
def onBlacklist (b : BlacklistBench α) (f : Instant → Blacklist α → Blacklist α) :
    BlacklistBench α :=
  { b with blacklist := f b.outside.now b.blacklist }

/-- Excludes a host: when that ends, or nothing if the host is not in use. -/
def exclude (b : BlacklistBench α) (host : String) (reason : BlacklistReason) :
    Option Instant × BlacklistBench α :=
  let (ends, blacklist, events) := b.blacklist.exclude b.outside.now ⟨host⟩ reason
  (ends, { b with blacklist := blacklist, outside := b.outside.emit events })

/-- The bench as what calls go to. -/
def machine : Machine α ScreenedCall (BlacklistBench α) where
  poll c d :=
    let (result, c, b) := d.state.poll c
    (result, c, { d with state := b })
  drop c d := d.onState (·.drop c)
  outside b := b.outside
  onOutside f b := { b with outside := f b.outside }
  clock _ := .manual

end BlacklistBench

end RpcPipeline
