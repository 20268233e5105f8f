import RpcPipeline.Cell
import RpcPipeline.Hosts.Blacklist
import RpcPipeline.Hosts.Limited
import RpcPipeline.Hosts.Placement

/-!
# `RpcPipeline.Hosts.Fleet`: the hosts in use

The fleet is the set of hosts that follows from settings and name resolution,
each with its limiter, and the exclusions among them. It is brought up to date
when it is looked at, and only if one of its two sources was replaced since. A
host that stays is carried over as it is: its limit, its calls and its
exclusion live on. The version of the fleet grows exactly when its hosts are no
longer the same ones.

A server is known by its serial number, which is its index among all that
were ever set up. A server that has left the fleet is kept, since calls to it
may still be under way.

* `Fleet.refresh`: brings the fleet up to date.
* `Fleet.members`, `Fleet.find?`: the hosts in use.
* `Fleet.offer`, `Fleet.poll`, `Fleet.drop`: calls to a host.
-/

set_option autoImplicit false

namespace RpcPipeline

/-- A host with its limiter. -/
structure Server (α : Type) where
  id : HostId
  target : TargetUri
  address : Option SocketAddress
  limiter : Limiter α
  deriving Repr

/-- The versions of the two sources of a fleet. -/
structure Sources where
  config : Nat
  dns : Option Nat
  deriving Repr, DecidableEq

/-- A call to a host that is over: it has ended or was dropped. -/
structure Ending where
  serial : Nat
  id : HostId
  deriving Repr, DecidableEq

/-- A call that went out to a host, and how things stood at that moment. -/
structure Sending (α : Type) where
  serial : Nat
  id : HostId
  hostname : String
  endpoint : String
  now : Instant
  config : ClientConfig α
  dns : Option DnsSnapshot
  blacklist : Blacklist α
  /-- The limiter of the host, before the call claimed its slot. -/
  limiter : Limiter α
  /-- The calls that were over by then, the latest first. -/
  ended : List Ending

/-- The hosts in use. -/
structure Fleet (α : Type) where
  outside : Outside α
  config : Cell (ClientConfig α)
  /-- What names were resolved to; nothing if names are left to the transport. -/
  dns : Option (Cell DnsSnapshot)
  blacklist : Blacklist α
  /-- Every server that was ever set up, by serial number. -/
  servers : Array (Server α)
  /-- The serial numbers of the hosts in use, in the order of their URIs. -/
  members : List Nat
  version : Nat
  /-- The sources that the hosts in use were last checked against. -/
  seen : Option Sources
  /-- Every call that went out to a host, the latest first. -/
  sent : List (Sending α)
  /-- Every call to a host that is over, the latest first. -/
  ended : List Ending

/-- A call to a host of a fleet. -/
structure HostedCall where
  serial : Nat
  call : LimitedCall
  deriving Repr

namespace Fleet

variable {α : Type}

/-- A fleet that was not looked at yet. -/
def new (outside : Outside α) (config : Cell (ClientConfig α)) (dns : Option (Cell DnsSnapshot))
    (blacklist : Blacklist α) : Fleet α :=
  { outside := outside, config := config, dns := dns, blacklist := blacklist, servers := #[],
    members := [], version := 0, seen := none, sent := [], ended := [] }

/-- Reports events. -/
def emit (f : Fleet α) (events : List (Event α)) : Fleet α :=
  { f with outside := f.outside.emit events }

/-- The hosts in use with their serial numbers. -/
def hosts (f : Fleet α) : List (Nat × Server α) :=
  f.members.filterMap fun serial => (f.servers[serial]?).map fun h => (serial, h)

/-- The identities of the hosts in use. -/
def ids (f : Fleet α) : List HostId := f.hosts.map (·.2.id)

/-- The host in use with an identity. -/
def find? (f : Fleet α) (id : HostId) : Option (Nat × Server α) :=
  f.hosts.find? fun (_, h) => h.id = id

/-- Whether a host is excluded now. -/
def excludes (f : Fleet α) (id : HostId) : Bool := f.blacklist.excludes f.outside.now id

/-- The versions of the sources. -/
def sources (f : Fleet α) : Sources := ⟨f.config.version, f.dns.map (·.version)⟩

/-- Replaces the limiter of a server. -/
def setLimiter (f : Fleet α) (serial : Nat) (l : Limiter α) : Fleet α :=
  { f with servers := f.servers.modify serial fun h => { h with limiter := l } }

/-- Takes note of a call that is over. -/
def noteEnd (f : Fleet α) (serial : Nat) (id : HostId) : Fleet α :=
  { f with ended := ⟨serial, id⟩ :: f.ended }

variable [Scalar α]

/-- Sets up a new server: its serial number. -/
def create (f : Fleet α) (p : Placement) : Nat × Fleet α :=
  let limiter := Limiter.new p.id.text f.config.value.limit f.outside.now
  let outside := f.outside.emit [.created p.target.base p.address]
  (f.servers.size,
    { f with
      outside := outside.onNetwork (·.meet p.target.host)
      servers := f.servers.push ⟨p.id, p.target, p.address, limiter⟩ })

/-- Hands the present settings to a server. -/
def reconfigure (f : Fleet α) (serial : Nat) : Fleet α :=
  match f.servers[serial]? with
  | some h =>
    let (limiter, events) := h.limiter.configure f.config.value.limit
    (f.setLimiter serial limiter).emit events
  | none => f

/-- The server at a placement: the host in use, with the present settings, or a
new one. -/
def place (f : Fleet α) (p : Placement) : Nat × Fleet α :=
  match f.find? p.id with
  | some (serial, _) => (serial, f.reconfigure serial)
  | none => f.create p

/-- The servers at placements, in order. -/
def placeAll (f : Fleet α) : List Placement → List Nat × Fleet α
  | [] => ([], f)
  | p :: ps =>
    let (serial, f) := f.place p
    let (serials, f) := f.placeAll ps
    (serial :: serials, f)

/-- Takes over the settings and the hosts that there should be. If those are the
hosts in use, in whatever order, the hosts in use stay as they are. -/
def rebuild (f : Fleet α) : Fleet α :=
  let config := f.config.value
  let f := { f with blacklist := f.blacklist.configure config.blacklist }
  let placements := Placement.all config (f.dns.map (·.value))
  let before := f.ids
  let ids := placements.map Placement.id
  -- Hosts that stay take over the settings even if nothing else changes.
  let (serials, f) := f.placeAll placements
  -- Neither list has duplicates, so this compares them as sets.
  if ids.length = before.length && ids.all before.contains then f
  else
    { f with
      blacklist := f.blacklist.retain f.outside.now ids
      members := serials
      version := f.version + 1 }

/-- Brings the fleet up to date. -/
def refresh (f : Fleet α) : Fleet α :=
  if f.seen = some f.sources then f else { f.rebuild with seen := some f.sources }

omit [Scalar α] in
/-- What is kept about a call to a server that goes out now. -/
def sending (f : Fleet α) (serial : Nat) (h : Server α) (endpoint : String) : Sending α :=
  { serial := serial, id := h.id, hostname := h.target.host, endpoint := endpoint,
    now := f.outside.now, config := f.config.value, dns := f.dns.map (·.value),
    blacklist := f.blacklist, limiter := h.limiter, ended := f.ended }

/-- Sends a call to a host, unless the host is excluded or has no slot left. -/
def offer (f : Fleet α) (serial : Nat) (endpoint : String) : Option HostedCall × Fleet α :=
  match f.servers[serial]? with
  | none => (none, f)
  | some h =>
    if f.excludes h.id then (none, f)
    else
      let (call, limiter, outside) := h.limiter.offer h.target.host endpoint f.outside
      let sent := if call.isSome then f.sending serial h endpoint :: f.sent else f.sent
      (call.map fun c => ⟨serial, c⟩,
        { f.setLimiter serial limiter with outside := outside, sent := sent })

/-- Records the outcome of a call to a host. -/
def record (f : Fleet α) (id : HostId) (outcome : Outcome) : Fleet α :=
  let (blacklist, events) := f.blacklist.record f.outside.now id outcome
  { f with blacklist := blacklist }.emit events

/-- Polls a call. When it ends, first the limiter learns from the result and then
the exclusions. -/
def poll (f : Fleet α) (c : HostedCall) : Option HostResult × HostedCall × Fleet α :=
  match f.servers[c.serial]? with
  | none => (none, c, f)
  | some h =>
    match h.limiter.poll c.call f.outside with
    | (result, call, limiter, outside) =>
      let f := { f.setLimiter c.serial limiter with outside := outside }
      let c := { c with call := call }
      match result with
      | some r => (some r, c, (f.noteEnd c.serial h.id).record h.id (.classify r))
      | none => (none, c, f)

omit [Scalar α] in
/-- Drops a call, of which nothing is learnt. -/
def drop (f : Fleet α) (c : HostedCall) : Fleet α :=
  match f.servers[c.serial]? with
  | none => f
  | some h =>
    let (limiter, outside) := h.limiter.drop c.call f.outside
    { f.setLimiter c.serial limiter with outside := outside }.noteEnd c.serial h.id

/-- Excludes a host: when that ends, or nothing if the host is not in use. -/
def exclude (f : Fleet α) (id : HostId) (reason : BlacklistReason) : Option Instant × Fleet α :=
  let (ends, blacklist, events) := f.blacklist.exclude f.outside.now id reason
  (ends, { f with blacklist := blacklist }.emit events)

end Fleet

end RpcPipeline
