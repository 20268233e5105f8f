import RpcPipeline.Dns.Lookup
import RpcPipeline.Metrics.Event

/-!
# `RpcPipeline.Dns.Cache`: the addresses that names were resolved to

For each name the cache keeps what the last look-up found and what the last
look-up that found anything found. The second steps in when the first is empty,
so a name that was ever resolved is never without addresses again.

* `DnsCache.apply`: takes in a look-up.
* `DnsCache.get?`: the addresses of a name.
* `DnsCache.retain`: forgets names that are not in use.
* `DnsSnapshot`: the names with addresses at one moment.
-/

set_option autoImplicit false

namespace RpcPipeline

/-- What is kept about a name. -/
structure DnsEntry where
  /-- What the last look-up found. -/
  addresses : List Address
  /-- When a look-up last found anything. -/
  lastSuccess : Option Instant
  /-- What it found then. -/
  lastKnownGood : List Address
  deriving Repr, DecidableEq

namespace DnsEntry

/-- A name that was never looked up. -/
def new : DnsEntry := ⟨[], none, []⟩

/-- The addresses to use. -/
def effective (e : DnsEntry) : List Address :=
  if e.addresses.isEmpty then e.lastKnownGood else e.addresses

/-- Takes in a look-up. -/
def apply (e : DnsEntry) (now : Instant) (lookup : Lookup) : DnsOutcome × DnsEntry :=
  let without := { e with addresses := [] }
  match lookup with
  | .ok [] => (if e.lastKnownGood.isEmpty then .empty else .fallback, without)
  | .ok found => (.success, ⟨found, some now, found⟩)
  | .error _ => (if e.lastKnownGood.isEmpty then .failure else .fallback, without)

end DnsEntry

/-- What is kept about all names. -/
structure DnsCache where
  entries : Table String DnsEntry
  deriving Repr

namespace DnsCache

/-- The cache without names. -/
def empty : DnsCache := ⟨{}⟩

/-- Takes in a look-up of a name: the addresses to use from now on. -/
def apply (c : DnsCache) (now : Instant) (hostname : String) (lookup : Lookup) :
    List Address × DnsOutcome × DnsCache :=
  let (outcome, e) := ((c.entries.get? hostname).getD .new).apply now lookup
  (e.effective, outcome, ⟨c.entries.insert hostname e⟩)

/-- The addresses of a name that was looked up. -/
def get? (c : DnsCache) (hostname : String) : Option (List Address) :=
  (c.entries.get? hostname).map DnsEntry.effective

/-- The number of names. -/
def size (c : DnsCache) : Nat := c.entries.size

/-- The cache as debug texts show it. -/
def debugText (c : DnsCache) : String :=
  Text.record "DnsCache" [("hostnames", toString c.size)]

/-- Forgets all names but those given. -/
def retain (c : DnsCache) (hostnames : List String) : DnsCache :=
  ⟨c.entries.filter fun name _ => hostnames.contains name⟩

end DnsCache

/-- The names with addresses at one moment. A name has at least one address. -/
structure DnsSnapshot where
  names : Table String (List Address)
  deriving Repr, DecidableEq

namespace DnsSnapshot

/-- The snapshot without names. -/
def empty : DnsSnapshot := ⟨{}⟩

/-- The snapshot of a list of names with their addresses. Names without addresses
are left out; of several entries for a name the last counts. -/
def ofList (pairs : List (String × List Address)) : DnsSnapshot :=
  ⟨Table.ofList (pairs.filter fun (_, addresses) => !addresses.isEmpty)⟩

/-- The number of names. -/
def size (s : DnsSnapshot) : Nat := s.names.size

/-- The addresses of a name. -/
def get? (s : DnsSnapshot) (hostname : String) : Option (List Address) := s.names.get? hostname

end DnsSnapshot

end RpcPipeline
