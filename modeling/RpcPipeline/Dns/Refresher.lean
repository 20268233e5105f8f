import RpcPipeline.Cell
import RpcPipeline.Config.Sections
import RpcPipeline.Dns.Cache
import RpcPipeline.Time.Alarm
import RpcPipeline.Uri.Target

/-!
# `RpcPipeline.Dns.Refresher`: names are resolved in the background

A refresher resolves the names of all hosts in rounds. A round marks the settings
as seen, reads them, looks up every name once and updates the cache, forgets
names that are no longer in use, and publishes the addresses if they differ from
those published last. Then the refresher waits: until it is time for the next
round, or the settings are replaced, or it is told to stop, or nobody is left to
read what it publishes.

The settings are marked before they are read, so settings that are replaced at
any moment of a round are either those of the round or news when it ends.

* `Refresher.hostnames`: the names to resolve.
* `Refresher.step`: one step of a round, or the end of a wait.
* `Refresher.wake`: what the refresher does once it runs again.
-/

set_option autoImplicit false

namespace RpcPipeline

/-- What a refresher is about to do. -/
inductive RefreshPhase (α : Type) where
  /-- Begins a round, and marks the settings as seen first. -/
  | starting
  /-- Has marked the settings as seen, and reads them next. -/
  | marked (watch : Watch)
  /-- Has read the settings, and looks up the names that are left. What it found so
  far is kept, the latest first. -/
  | resolving (watch : Watch) (config : ClientConfig α) (left : List String)
      (found : List (String × List Address))
  /-- Waits for the time of the next round, or for news about the settings. -/
  | waiting (alarm : Alarm) (watch : Watch)
  | stopped

/-- A refresher with its cache and what it has published. -/
structure Refresher (α : Type) where
  phase : RefreshPhase α
  resolver : Resolver
  cache : DnsCache
  published : Cell DnsSnapshot
  /-- Whether the refresher was told to stop. -/
  cancelled : Bool
  /-- Whether anybody reads what is published. -/
  observed : Bool

namespace Refresher

/-- The name to resolve for a URI, if there is one. -/
def hostname? (defaultPort : UInt16) (uri : String) : Option String :=
  match TargetUri.parse uri defaultPort with
  | .ok t => if t.address?.isSome then none else some t.host
  | .error _ => none

variable {α : Type}

/-- The names to resolve, each once and in ascending order. -/
def hostnames (config : ClientConfig α) : List String :=
  let names := config.uris.filterMap (hostname? config.dns.defaultPort)
  (Table.ofList (names.map fun name => (name, ()))).keys

/-- A refresher that is about to start. -/
def new (resolver : Resolver) : Refresher α :=
  { phase := .starting, resolver := resolver, cache := .empty, published := .new .empty,
    cancelled := false, observed := true }

/-- Whether the refresher has stopped for good. -/
def isStopped (r : Refresher α) : Bool :=
  match r.phase with
  | .stopped => true
  | .starting | .marked _ | .resolving .. | .waiting .. => false

/-- Tells the refresher to stop. -/
def cancel (r : Refresher α) : Refresher α := { r with cancelled := true }

/-- Looks up a name and updates the cache: the addresses to use. -/
def lookUp (r : Refresher α) (now : Instant) (name : String) :
    List Address × Refresher α × List (Event α) :=
  let (lookup, resolver) := r.resolver.resolve name
  let (addresses, outcome, cache) := r.cache.apply now name lookup
  (addresses, { r with resolver := resolver, cache := cache }, [.dns name outcome])

/-- Publishes a snapshot if it differs from the one published last. -/
def publish (r : Refresher α) (snapshot : DnsSnapshot) : Refresher α :=
  if r.published.value = snapshot then r
  else { r with published := r.published.update snapshot }

/-- The alarm that the refresher waits for, if there is one. -/
def alarm? (r : Refresher α) : Option Alarm :=
  match r.phase with
  | .waiting alarm _ => some alarm
  | .starting | .marked _ | .resolving .. | .stopped => none

/-- Goes on with a round: marks the settings, reads them, looks up the next name,
or ends the round. -/
def proceed (r : Refresher α) (now : Instant) (config : Cell (ClientConfig α)) :
    Refresher α × List (Event α) :=
  match r.phase with
  | .starting => ({ r with phase := .marked (.start config) }, [])
  | .marked watch =>
    let names := hostnames config.value
    ({ r with phase := .resolving watch config.value names [] }, [])
  | .resolving watch used (name :: left) found =>
    let (addresses, r, events) := r.lookUp now name
    ({ r with phase := .resolving watch used left ((name, addresses) :: found) }, events)
  | .resolving watch used [] found =>
    let r := { r with cache := r.cache.retain (hostnames used) }.publish (.ofList found.reverse)
    ({ r with phase := .waiting (.after now used.dns.refreshInterval) watch }, [])
  | .waiting .. | .stopped => (r, [])

/-- One step, or nothing if the refresher has stopped or has to wait on. -/
def step (r : Refresher α) (now : Instant) (config : Cell (ClientConfig α)) :
    Option (Refresher α × List (Event α)) :=
  match r.phase with
  | .stopped => none
  | .waiting alarm watch =>
    if r.cancelled || !r.observed then some ({ r with phase := .stopped }, [])
    else if alarm.isDue now || watch.changed config then some ({ r with phase := .starting }, [])
    else none
  | .starting | .marked _ | .resolving .. =>
    if r.cancelled then some ({ r with phase := .stopped }, []) else some (r.proceed now config)

/-- The number of steps to the end of the round. -/
def stepsLeft (r : Refresher α) (config : Cell (ClientConfig α)) : Nat :=
  match r.phase with
  | .starting => (hostnames config.value).length + 3
  | .marked _ => (hostnames config.value).length + 2
  | .resolving _ _ left _ => left.length + 1
  | .waiting .. | .stopped => 0

/-- Takes steps, of which there are no more than the first argument says. -/
def takeSteps (now : Instant) (config : Cell (ClientConfig α)) :
    Nat → Refresher α → Refresher α × List (Event α)
  | 0, r => (r, [])
  | n + 1, r =>
    match r.step now config with
    | none => (r, [])
    | some (r, events) =>
      let (r, more) := takeSteps now config n r
      (r, events ++ more)

/-- What the refresher does once it runs again: stop, hold a round, or wait on. -/
def wake (r : Refresher α) (now : Instant) (config : Cell (ClientConfig α)) :
    Refresher α × List (Event α) :=
  match r.step now config with
  | none => (r, [])
  | some (r, events) =>
    let (r, more) := takeSteps now config (r.stepsLeft config) r
    (r, events ++ more)

end Refresher

end RpcPipeline
