import RpcPipeline.Dns.Refresher
import RpcPipeline.Scenario.Desk

/-!
# `RpcPipeline.Scenario.Resolving`: name resolution on its own

A cache is fed by hand, and a refresher is put to work without a pipeline. Somebody
holds a handle, with which the refresher can be stopped, and somebody reads what it
publishes; either may let go.
-/

set_option autoImplicit false

namespace RpcPipeline

/-- A cache, and what lies outside. -/
structure CacheBench (α : Type) where
  cache : DnsCache
  outside : Outside α

namespace CacheBench

variable {α : Type}

/-- A bench with an empty cache. -/
def new : CacheBench α := ⟨.empty, .start⟩

/-- Takes in a look-up of a name: the addresses to use. -/
def apply (b : CacheBench α) (hostname : String) (lookup : Lookup) :
    List Address × CacheBench α :=
  let (addresses, outcome, cache) := b.cache.apply b.outside.now hostname lookup
  (addresses, ⟨cache, b.outside.emit [.dns hostname outcome]⟩)

/-- The bench as what a desk holds; no calls go to it. -/
def machine : Machine α Empty (CacheBench α) where
  poll c _ := nomatch c
  drop c _ := nomatch c
  outside b := b.outside
  onOutside f b := { b with outside := f b.outside }
  clock _ := .manual

end CacheBench

/-- A refresher, its settings, and what lies outside. -/
structure ResolverBench (α : Type) where
  refresher : Refresher α
  config : Cell (ClientConfig α)
  outside : Outside α
  /-- Whether the handle is still held. -/
  handled : Bool
  /-- What the reader has seen, while there is one. -/
  reader : Option Watch

namespace ResolverBench

variable {α : Type}

/-- Lets the refresher run. -/
def tend (b : ResolverBench α) : ResolverBench α :=
  let (refresher, events) := b.refresher.wake b.outside.now b.config
  { b with refresher := refresher, outside := b.outside.emit events }

/-- A bench with a refresher that has come to rest for the first time. -/
def new (config : ClientConfig α) (resolver : Resolver) : ResolverBench α :=
  let refresher := Refresher.new resolver
  tend
    { refresher := refresher, config := .new config, outside := .start, handled := true,
      reader := some (.start refresher.published) }

/-- Changes the refresher. -/
def onRefresher (b : ResolverBench α) (f : Refresher α → Refresher α) : ResolverBench α :=
  { b with refresher := f b.refresher }

/-- Tells the refresher to stop, if the handle is still held. -/
def shutdown (b : ResolverBench α) : ResolverBench α :=
  if b.handled then b.onRefresher Refresher.cancel else b

/-- Lets go of the handle, which tells the refresher to stop. Says whether it was
held. -/
def dropHandle (b : ResolverBench α) : Bool × ResolverBench α :=
  (b.handled, { b.shutdown with handled := false })

/-- Lets go of what is published. Says whether it was read. -/
def dropReader (b : ResolverBench α) : Bool × ResolverBench α :=
  (b.reader.isSome,
    { b.onRefresher fun r => { r with observed := false } with reader := none })

/-- Waits for the refresher to stop with the handle: whether it has stopped. -/
def join (b : ResolverBench α) : Bool × ResolverBench α :=
  if b.handled && b.refresher.isStopped then (true, { b with handled := false }) else (false, b)

/-- What a reader learns about news. -/
inductive News where
  | changed
  | same
  /-- Nothing will be published any more. -/
  | closed
  deriving Repr, DecidableEq

/-- Looks at what is published, which is then seen. -/
def look (b : ResolverBench α) : Option (News × DnsSnapshot) × ResolverBench α :=
  match b.reader with
  | none => (none, b)
  | some watch =>
    let news : News :=
      if b.refresher.isStopped then .closed
      else if watch.changed b.refresher.published then .changed
      else .same
    (some (news, b.refresher.published.value),
      { b with reader := some (watch.mark b.refresher.published) })

/-- The bench as what a desk holds; no calls go to it. -/
def machine : Machine α Empty (ResolverBench α) where
  poll c _ := nomatch c
  drop c _ := nomatch c
  outside b := b.outside
  onOutside f b := { b with outside := f b.outside }
  tend d := d.onState tend
  nextAlarm b := b.refresher.alarm?.map (·.rings)

end ResolverBench

end RpcPipeline
